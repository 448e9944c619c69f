/-
# Theory.Utf16 — text in units of 16 bits

A character below 2¹⁶ is written as one unit, any other as two surrogates.  Reading never
fails: a surrogate without its other half is read as the replacement character.

`decode_encode`: what was written is read back.  `encode_lossy_iff`: units that are read and
written again come back exactly when they are well formed.
-/
import Mathlib.Data.List.Basic

namespace AirPaste.Theory.Utf16

set_option autoImplicit false

def isHigh (u : UInt16) : Bool := 0xD800 ≤ u.toNat && u.toNat < 0xDC00

def isLow (u : UInt16) : Bool := 0xDC00 ≤ u.toNat && u.toNat < 0xE000

def isSurrogate (u : UInt16) : Bool := 0xD800 ≤ u.toNat && u.toNat < 0xE000

/-- The character of a unit that stands alone. -/
def single (u : UInt16) : Option Char :=
  if isSurrogate u then none else some (Char.ofNat u.toNat)

/-- The character of two surrogates. -/
def pair (high low : UInt16) : Char :=
  Char.ofNat (0x10000 + (high.toNat - 0xD800) * 0x400 + (low.toNat - 0xDC00))

/-- The characters of the units, and where a surrogate is unpaired. -/
def decode : List UInt16 → List (Option Char)
  | [] => []
  | [u] => [single u]
  | u :: v :: rest =>
      if isHigh u && isLow v then some (pair u v) :: decode rest
      else single u :: decode (v :: rest)

def encodeChar (c : Char) : List UInt16 :=
  if c.toNat < 0x10000 then [UInt16.ofNat c.toNat]
  else
    [UInt16.ofNat (0xD800 + (c.toNat - 0x10000) / 0x400),
      UInt16.ofNat (0xDC00 + (c.toNat - 0x10000) % 0x400)]

def encode (text : List Char) : List UInt16 := text.flatMap encodeChar

def replacement : Char := '\uFFFD'

/-- An unpaired surrogate is read as the replacement character. -/
def lossy (units : List UInt16) : List Char := (decode units).map (·.getD replacement)

/-- No surrogate is unpaired. -/
def WellFormed (units : List UInt16) : Prop := none ∉ decode units

instance (units : List UInt16) : Decidable (WellFormed units) :=
  inferInstanceAs (Decidable (none ∉ decode units))

/-! ## One character -/

theorem toNat_ofNat {n : Nat} (valid : n.isValidChar) : (Char.ofNat n).toNat = n := by
  rw [Char.ofNat, dif_pos valid]
  rfl

theorem toNat_unit {n : Nat} (small : n < 0x10000) : (UInt16.ofNat n).toNat = n :=
  UInt16.toNat_ofNat_of_lt small

theorem encodeChar_single {u : UInt16} {c : Char} (read : single u = some c) :
    encodeChar c = [u] := by
  unfold single at read
  split at read
  · cases read
  · rename_i alone
    cases read
    have bound : u.toNat < 0x10000 := u.toNat_lt
    simp only [isSurrogate, Bool.and_eq_true, decide_eq_true_eq] at alone
    have same : (Char.ofNat u.toNat).toNat = u.toNat := toNat_ofNat (by
      unfold Nat.isValidChar
      omega)
    rw [encodeChar, if_pos (by rw [same]; exact bound), same, UInt16.ofNat_toNat]

theorem encodeChar_pair {high low : UInt16} (isHigh : isHigh high = true)
    (isLow : isLow low = true) : encodeChar (pair high low) = [high, low] := by
  simp only [Utf16.isHigh, Bool.and_eq_true, decide_eq_true_eq] at isHigh
  simp only [Utf16.isLow, Bool.and_eq_true, decide_eq_true_eq] at isLow
  have same : (pair high low).toNat =
      0x10000 + (high.toNat - 0xD800) * 0x400 + (low.toNat - 0xDC00) := toNat_ofNat (by
    unfold Nat.isValidChar
    omega)
  have first : 0xD800 + ((pair high low).toNat - 0x10000) / 0x400 = high.toNat := by omega
  have second : 0xDC00 + ((pair high low).toNat - 0x10000) % 0x400 = low.toNat := by omega
  rw [encodeChar, if_neg (by omega), first, second, UInt16.ofNat_toNat, UInt16.ofNat_toNat]

theorem decode_cons {u : UInt16} (alone : isHigh u = false) (rest : List UInt16) :
    decode (u :: rest) = single u :: decode rest := by
  cases rest with
  | nil => rfl
  | cons v rest => rw [decode, alone, Bool.false_and, if_neg Bool.false_ne_true]

theorem decode_encodeChar (c : Char) (rest : List UInt16) :
    decode (encodeChar c ++ rest) = some c :: decode rest := by
  have valid : c.toNat.isValidChar := c.valid
  unfold Nat.isValidChar at valid
  unfold encodeChar
  split
  · rename_i small
    have unit := toNat_unit small
    rw [List.singleton_append, decode_cons, single, if_neg, unit, Char.ofNat_toNat]
    · simp only [isSurrogate, unit, Bool.and_eq_true, decide_eq_true_eq]
      omega
    · simp only [isHigh, unit, Bool.and_eq_false_iff, decide_eq_false_iff_not]
      omega
  · rename_i large
    have high := toNat_unit (n := 0xD800 + (c.toNat - 0x10000) / 0x400) (by omega)
    have low := toNat_unit (n := 0xDC00 + (c.toNat - 0x10000) % 0x400) (by omega)
    have both : (isHigh (UInt16.ofNat (0xD800 + (c.toNat - 0x10000) / 0x400)) &&
        isLow (UInt16.ofNat (0xDC00 + (c.toNat - 0x10000) % 0x400))) = true := by
      simp only [isHigh, isLow, high, low, Bool.and_eq_true, decide_eq_true_eq]
      omega
    have back : 0x10000 + (0xD800 + (c.toNat - 0x10000) / 0x400 - 0xD800) * 0x400 +
        (0xDC00 + (c.toNat - 0x10000) % 0x400 - 0xDC00) = c.toNat := by omega
    rw [List.cons_append, List.singleton_append, decode, if_pos both, pair, high, low, back,
      Char.ofNat_toNat]

/-! ## Whole texts -/

@[simp] theorem encode_nil : encode [] = [] := rfl

@[simp] theorem encode_cons (c : Char) (text : List Char) :
    encode (c :: text) = encodeChar c ++ encode text := rfl

/-- What was written is read back. -/
theorem decode_encode (text : List Char) : decode (encode text) = text.map some := by
  induction text with
  | nil => rfl
  | cons c text ih => rw [encode_cons, decode_encodeChar, ih, List.map_cons]

theorem wellFormed_encode (text : List Char) : WellFormed (encode text) := by
  unfold WellFormed
  rw [decode_encode]
  simp

theorem encode_of_decode {units : List UInt16} {text : List Char}
    (read : decode units = text.map some) : encode text = units := by
  induction units using decode.induct generalizing text with
  | case1 =>
      rw [decode, eq_comm, List.map_eq_nil_iff] at read
      rw [read, encode_nil]
  | case2 u =>
      rw [decode, eq_comm, List.map_eq_cons_iff] at read
      obtain ⟨c, later, rfl, here, none⟩ := read
      rw [List.map_eq_nil_iff] at none
      rw [none, encode_cons, encodeChar_single here.symm, encode_nil, List.append_nil]
  | case3 u v rest both ih =>
      rw [decode, if_pos both, eq_comm, List.map_eq_cons_iff] at read
      obtain ⟨c, later, rfl, here, there⟩ := read
      rw [Bool.and_eq_true] at both
      have same : c = pair u v := Option.some.inj here
      rw [encode_cons, same, encodeChar_pair both.1 both.2, ih there.symm]
      rfl
  | case4 u v rest apart ih =>
      rw [decode, if_neg apart, eq_comm, List.map_eq_cons_iff] at read
      obtain ⟨c, later, rfl, here, there⟩ := read
      rw [encode_cons, encodeChar_single here.symm, ih there.symm]
      rfl

/-- Units come back from reading and writing exactly when no surrogate is unpaired. -/
theorem encode_lossy_iff (units : List UInt16) :
    encode (lossy units) = units ↔ WellFormed units := by
  constructor
  · intro back
    rw [← back]
    exact wellFormed_encode _
  · intro wellFormed
    refine encode_of_decode ?_
    rw [lossy, List.map_map]
    refine (List.map_id _).symm.trans (List.map_congr_left fun c member => ?_)
    cases c with
    | none => exact absurd member wellFormed
    | some c => rfl

/-! ## The unit that ends a text -/

theorem zero_mem_encodeChar_iff (c : Char) : 0 ∈ encodeChar c ↔ c.toNat = 0 := by
  have valid : c.toNat.isValidChar := c.valid
  unfold Nat.isValidChar at valid
  unfold encodeChar
  split
  · rename_i small
    rw [List.mem_singleton, ← UInt16.toNat_inj, toNat_unit small, eq_comm]
    rfl
  · rename_i large
    refine iff_of_false ?_ (by omega)
    simp only [List.mem_cons, List.not_mem_nil, or_false, ← UInt16.toNat_inj, not_or]
    rw [toNat_unit (by omega), toNat_unit (by omega), show (0 : UInt16).toNat = 0 from rfl]
    omega

theorem zero_mem_encode_iff (text : List Char) :
    0 ∈ encode text ↔ ∃ c ∈ text, c.toNat = 0 := by
  simp only [encode, List.mem_flatMap, zero_mem_encodeChar_iff]

theorem single_ne_nul {u : UInt16} {c : Char} (nonzero : u ≠ 0) (read : single u = some c) :
    c.toNat ≠ 0 := by
  intro nul
  have written := encodeChar_single read
  have member := (zero_mem_encodeChar_iff c).mpr nul
  rw [written, List.mem_singleton] at member
  exact nonzero member.symm

theorem decode_ne_nul {units : List UInt16} (free : 0 ∉ units) :
    ∀ c, some c ∈ decode units → c.toNat ≠ 0 := by
  induction units using decode.induct with
  | case1 => simp [decode]
  | case2 u =>
      intro c member
      rw [decode, List.mem_singleton] at member
      exact single_ne_nul (fun zero => free (by simp [zero])) member.symm
  | case3 u v rest both ih =>
      intro c member
      rw [decode, if_pos both, List.mem_cons] at member
      rcases member with here | later
      · have same : c = pair u v := Option.some.inj here
        intro nul
        rw [Bool.and_eq_true] at both
        have zero := (zero_mem_encodeChar_iff c).mpr nul
        rw [same, encodeChar_pair both.1 both.2] at zero
        exact free (List.mem_append_left rest zero)
      · exact ih (fun zero => free (by simp [zero])) c later
  | case4 u v rest apart ih =>
      intro c member
      rw [decode, if_neg apart, List.mem_cons] at member
      rcases member with here | later
      · exact single_ne_nul (fun zero => free (by simp [zero])) here.symm
      · exact ih (fun zero => free (List.mem_cons_of_mem u zero)) c later

/-- Units that do not hold the end are read as a text that does not hold it. -/
theorem zero_not_mem_encode_lossy {units : List UInt16} (free : 0 ∉ units) :
    0 ∉ encode (lossy units) := by
  rw [zero_mem_encode_iff]
  rintro ⟨c, member, nul⟩
  obtain ⟨read, there, rfl⟩ := List.mem_map.mp member
  cases read with
  | none => exact absurd nul (by decide)
  | some c => exact decode_ne_nul free c there nul

end AirPaste.Theory.Utf16
