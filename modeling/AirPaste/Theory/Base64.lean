/-
# Theory.Base64 — three bytes as four characters

Base64 over an alphabet of 64 characters, without and with padding.  Decoding is strict:
the bits a short last group leaves over are zero, and the padding fills the last group.
What is encoded decodes to itself (`decode_encode`, `decodePadded_encodePadded`), and a text
decodes to nothing but what it is the encoding of (`decode_eq_some_iff`).

`sixes` cuts a row of bits into groups of six; the encoding is that of the bits of the bytes
(`encode_eq_bits`).
-/
import Mathlib.Data.List.GetD
import AirPaste.Theory.Cipher
import AirPaste.Theory.Text

namespace AirPaste.Theory

set_option autoImplicit false

/-- 64 different characters, none of them the padding. -/
structure Alphabet where
  chars : List Char
  length_chars : chars.length = 64
  distinct : chars.Nodup
  unpadded : '=' ∉ chars

namespace Alphabet

/-- The alphabet of `STANDARD`. -/
def standard : Alphabet where
  chars :=
    ['A', 'B', 'C', 'D', 'E', 'F', 'G', 'H', 'I', 'J', 'K', 'L', 'M', 'N', 'O', 'P',
     'Q', 'R', 'S', 'T', 'U', 'V', 'W', 'X', 'Y', 'Z', 'a', 'b', 'c', 'd', 'e', 'f',
     'g', 'h', 'i', 'j', 'k', 'l', 'm', 'n', 'o', 'p', 'q', 'r', 's', 't', 'u', 'v',
     'w', 'x', 'y', 'z', '0', '1', '2', '3', '4', '5', '6', '7', '8', '9', '+', '/']
  length_chars := rfl
  distinct := by decide +kernel
  unpadded := by decide +kernel

/-- The alphabet of `URL_SAFE`. -/
def urlSafe : Alphabet where
  chars :=
    ['A', 'B', 'C', 'D', 'E', 'F', 'G', 'H', 'I', 'J', 'K', 'L', 'M', 'N', 'O', 'P',
     'Q', 'R', 'S', 'T', 'U', 'V', 'W', 'X', 'Y', 'Z', 'a', 'b', 'c', 'd', 'e', 'f',
     'g', 'h', 'i', 'j', 'k', 'l', 'm', 'n', 'o', 'p', 'q', 'r', 's', 't', 'u', 'v',
     'w', 'x', 'y', 'z', '0', '1', '2', '3', '4', '5', '6', '7', '8', '9', '-', '_']
  length_chars := rfl
  distinct := by decide +kernel
  unpadded := by decide +kernel

variable (alphabet : Alphabet)

/-- The character of six bits. -/
def digit (n : Nat) : Char := alphabet.chars.getD n '='

/-- The six bits a character stands for. -/
def value (c : Char) : Option Nat :=
  let i := alphabet.chars.idxOf c
  if i < 64 then some i else none

/-- The bytes in groups of six bits, the last filled with zeros. -/
def sextets : List UInt8 → List Nat
  | a :: b :: c :: rest =>
      let n := a.toNat * 65536 + b.toNat * 256 + c.toNat
      n / 262144 :: n / 4096 % 64 :: n / 64 % 64 :: n % 64 :: sextets rest
  | [a, b] =>
      let n := a.toNat * 65536 + b.toNat * 256
      [n / 262144, n / 4096 % 64, n / 64 % 64]
  | [a] =>
      let n := a.toNat * 65536
      [n / 262144, n / 4096 % 64]
  | [] => []

/-- The bytes of groups of six bits, when nothing but zeros is left over. -/
def octets : List Nat → Option (List UInt8)
  | c :: d :: e :: f :: rest =>
      let n := c * 262144 + d * 4096 + e * 64 + f
      (octets rest).map fun later =>
        UInt8.ofNat (n / 65536) :: UInt8.ofNat (n / 256) :: UInt8.ofNat n :: later
  | [c, d, e] =>
      let n := c * 4096 + d * 64 + e
      if n % 4 = 0 then some [UInt8.ofNat (n / 1024), UInt8.ofNat (n / 4)] else none
  | [c, d] =>
      let n := c * 64 + d
      if n % 16 = 0 then some [UInt8.ofNat (n / 16)] else none
  | [_] => none
  | [] => some []

def encode (bytes : List UInt8) : List Char := (sextets bytes).map alphabet.digit

def decode (chars : List Char) : Option (List UInt8) := (chars.mapM alphabet.value).bind octets

/-- Fill the last group. -/
def encodePadded (bytes : List UInt8) : List Char :=
  let body := alphabet.encode bytes
  body ++ List.replicate ((4 - body.length % 4) % 4) '='

def decodePadded (chars : List Char) : Option (List UInt8) :=
  let body := Text.dropEnd (· == '=') chars
  if chars.length = body.length + (4 - body.length % 4) % 4 then alphabet.decode body else none

variable {alphabet}

/-! ## Characters -/

theorem digit_mem {n : Nat} (within : n < 64) : alphabet.digit n ∈ alphabet.chars := by
  have inside : n < alphabet.chars.length := alphabet.length_chars ▸ within
  rw [digit, List.getD_eq_getElem _ _ inside]
  exact List.getElem_mem inside

theorem value_digit {n : Nat} (within : n < 64) :
    alphabet.value (alphabet.digit n) = some n := by
  have inside : n < alphabet.chars.length := alphabet.length_chars ▸ within
  have here : alphabet.chars.idxOf (alphabet.digit n) = n := by
    rw [digit, List.getD_eq_getElem _ _ inside]
    exact alphabet.distinct.idxOf_getElem _ inside
  simp only [value, here]
  exact if_pos within

/-- Digits stand for the groups they were made of. -/
theorem mapM_value_digit {groups : List Nat} (within : ∀ n ∈ groups, n < 64) :
    (groups.map alphabet.digit).mapM alphabet.value = some groups := by
  induction groups with
  | nil => rfl
  | cons n rest ih =>
      have later := ih fun m member => within m (List.mem_cons_of_mem _ member)
      rw [List.map_cons, List.mapM_cons, value_digit (within n List.mem_cons_self), later]
      rfl

/-! ## Groups -/

theorem sextets_within (bytes : List UInt8) : ∀ n ∈ sextets bytes, n < 64 := by
  induction bytes using sextets.induct with
  | case1 a b c rest ih =>
      have first := a.toNat_lt
      have second := b.toNat_lt
      have third := c.toNat_lt
      intro n member
      simp only [sextets, List.mem_cons] at member
      rcases member with rfl | rfl | rfl | rfl | member
      · omega
      · omega
      · omega
      · omega
      · exact ih n member
  | case2 a b =>
      have first := a.toNat_lt
      have second := b.toNat_lt
      intro n member
      simp only [sextets, List.mem_cons, List.not_mem_nil, or_false] at member
      omega
  | case3 a =>
      have first := a.toNat_lt
      intro n member
      simp only [sextets, List.mem_cons, List.not_mem_nil, or_false] at member
      omega
  | case4 => exact fun n member => absurd member List.not_mem_nil

theorem ofNat_eq {a : UInt8} {n : Nat} (same : n % 256 = a.toNat) : UInt8.ofNat n = a := by
  apply UInt8.toNat_inj.mp
  rw [UInt8.toNat_ofNat']
  exact same

theorem octets_sextets (bytes : List UInt8) : octets (sextets bytes) = some bytes := by
  induction bytes using sextets.induct with
  | case1 a b c rest ih =>
      have first := a.toNat_lt
      have second := b.toNat_lt
      have third := c.toNat_lt
      simp only [sextets, octets, ih, Option.map_some, Option.some.injEq, List.cons.injEq, and_true]
      refine ⟨ofNat_eq ?_, ofNat_eq ?_, ofNat_eq ?_⟩
      · omega
      · omega
      · omega
  | case2 a b =>
      have first := a.toNat_lt
      have second := b.toNat_lt
      simp only [sextets, octets]
      rw [if_pos (by omega)]
      simp only [Option.some.injEq, List.cons.injEq, and_true]
      refine ⟨ofNat_eq ?_, ofNat_eq ?_⟩
      · omega
      · omega
  | case3 a =>
      have first := a.toNat_lt
      simp only [sextets, octets]
      rw [if_pos (by omega)]
      simp only [Option.some.injEq, List.cons.injEq, and_true]
      exact ofNat_eq (by omega)
  | case4 => rfl

/-! ## Round trips -/

theorem mem_encode {bytes : List UInt8} {c : Char} (member : c ∈ alphabet.encode bytes) :
    c ∈ alphabet.chars := by
  obtain ⟨n, among, rfl⟩ := List.mem_map.mp member
  exact digit_mem (sextets_within bytes n among)

theorem decode_encode (bytes : List UInt8) :
    alphabet.decode (alphabet.encode bytes) = some bytes := by
  rw [decode, encode, mapM_value_digit (sextets_within bytes)]
  exact octets_sextets bytes

theorem dropEnd_encodePadded (bytes : List UInt8) :
    Text.dropEnd (· == '=') (alphabet.encodePadded bytes) = alphabet.encode bytes := by
  have plain : ∀ c ∈ alphabet.encode bytes, (c == '=') = false := by
    intro c member
    rw [beq_eq_false_iff_ne]
    rintro rfl
    exact alphabet.unpadded (mem_encode member)
  have stripped := Text.dropEnd_append_replicate (p := fun c => c == '=') (c := '=') rfl
  rw [encodePadded, stripped]
  exact Text.dropEnd_of_none plain

theorem decodePadded_encodePadded (bytes : List UInt8) :
    alphabet.decodePadded (alphabet.encodePadded bytes) = some bytes := by
  simp only [decodePadded, dropEnd_encodePadded]
  rw [if_pos (by simp [encodePadded]), decode_encode]

theorem length_sextets (bytes : List UInt8) :
    (sextets bytes).length = (4 * bytes.length + 2) / 3 := by
  induction bytes using sextets.induct with
  | case1 a b c rest ih =>
      simp only [sextets, List.length_cons, ih]
      omega
  | case2 a b => simp [sextets]
  | case3 a => simp [sextets]
  | case4 => rfl

theorem length_encode (bytes : List UInt8) :
    (alphabet.encode bytes).length = (4 * bytes.length + 2) / 3 := by
  rw [encode, List.length_map, length_sextets]

/-! ## Strictness -/

theorem digit_value {c : Char} {n : Nat} (read : alphabet.value c = some n) :
    n < 64 ∧ alphabet.digit n = c := by
  simp only [value] at read
  split at read
  · rename_i inside
    cases read
    have bound := alphabet.length_chars ▸ inside
    refine ⟨inside, ?_⟩
    rw [digit, List.getD_eq_getElem _ _ bound]
    exact List.getElem_idxOf bound
  · cases read

theorem map_digit_of_values {chars : List Char} {groups : List Nat}
    (read : chars.mapM alphabet.value = some groups) :
    (∀ n ∈ groups, n < 64) ∧ groups.map alphabet.digit = chars := by
  induction chars generalizing groups with
  | nil =>
      cases read
      simp
  | cons c rest ih =>
      simp only [List.mapM_cons, Option.bind_eq_bind, Option.bind_eq_some_iff, Option.pure_def,
        Option.some.injEq] at read
      obtain ⟨n, first, later, others, rfl⟩ := read
      obtain ⟨within, rfl⟩ := digit_value first
      obtain ⟨inside, same⟩ := ih others
      simp [within, same]
      exact inside

/-- Nothing is left over, so the groups are those of the bytes. -/
theorem sextets_of_octets {groups : List Nat} {bytes : List UInt8}
    (within : ∀ n ∈ groups, n < 64) (made : octets groups = some bytes) :
    sextets bytes = groups := by
  induction groups using octets.induct generalizing bytes with
  | case1 c d e f rest ih =>
      simp only [List.forall_mem_cons] at within
      obtain ⟨hc, hd, he, hf, later⟩ := within
      simp only [octets, Option.map_eq_some_iff] at made
      obtain ⟨more, decoded, rfl⟩ := made
      simp only [sextets, ih later decoded, UInt8.toNat_ofNat', List.cons.injEq, and_true]
      omega
  | case2 c d e n =>
      rename_i fits
      simp only [List.forall_mem_cons] at within
      obtain ⟨hc, hd, he, -⟩ := within
      rw [octets, if_pos fits] at made
      cases made
      simp only [sextets, UInt8.toNat_ofNat', List.cons.injEq, and_true]
      omega
  | case3 c d e n =>
      rename_i fits
      rw [octets, if_neg fits] at made
      cases made
  | case4 c d n =>
      rename_i fits
      simp only [List.forall_mem_cons] at within
      obtain ⟨hc, hd, -⟩ := within
      rw [octets, if_pos fits] at made
      cases made
      simp only [sextets, UInt8.toNat_ofNat', List.cons.injEq, and_true]
      omega
  | case5 c d n =>
      rename_i fits
      rw [octets, if_neg fits] at made
      cases made
  | case6 c => cases made
  | case7 =>
      cases made
      rfl

/-- A text decodes to what it is the encoding of, and to nothing else. -/
theorem decode_eq_some_iff {chars : List Char} {bytes : List UInt8} :
    alphabet.decode chars = some bytes ↔ alphabet.encode bytes = chars := by
  constructor
  · intro decoded
    obtain ⟨groups, read, made⟩ := Option.bind_eq_some_iff.mp decoded
    obtain ⟨within, same⟩ := map_digit_of_values read
    rw [encode, sextets_of_octets within made, same]
  · rintro rfl
    exact decode_encode bytes

theorem encode_injective : Function.Injective alphabet.encode := by
  intro first second same
  have decoded : alphabet.decode (alphabet.encode first) = some first := decode_encode first
  rw [same, decode_encode] at decoded
  exact (Option.some.inj decoded).symm

/-! ## Bits -/

/-- The bits of a byte, the highest first. -/
def bits (b : UInt8) : List Nat := [7, 6, 5, 4, 3, 2, 1, 0].map fun i => b.toNat / 2 ^ i % 2

/-- The number that a row of bits stands for. -/
def number (row : List Nat) : Nat := row.foldl (fun n bit => 2 * n + bit) 0

/-- The numbers of groups of six bits, the last group filled with zeros. -/
def sixes : List Nat → List Nat
  | u :: v :: w :: x :: y :: z :: rest => number [u, v, w, x, y, z] :: sixes rest
  | [] => []
  | part => [number (part ++ List.replicate (6 - part.length) 0)]

theorem number_six (n : Nat) :
    number [n / 32 % 2, n / 16 % 2, n / 8 % 2, n / 4 % 2, n / 2 % 2, n % 2] = n % 64 := by
  simp only [number, List.foldl_cons, List.foldl_nil]
  omega

section Bytes

variable {a b c : Nat}

theorem number_first (ha : a < 256) :
    number [a / 128 % 2, a / 64 % 2, a / 32 % 2, a / 16 % 2, a / 8 % 2, a / 4 % 2] = a / 4 := by
  have six := number_six (a / 4)
  simp only [Nat.div_div_eq_div_mul, Nat.reduceMul] at six
  rw [six]
  omega

theorem number_second (hb : b < 256) :
    number [a / 2 % 2, a % 2, b / 128 % 2, b / 64 % 2, b / 32 % 2, b / 16 % 2] =
      a % 4 * 16 + b / 16 := by
  simp only [number, List.foldl_cons, List.foldl_nil]
  omega

theorem number_third (hc : c < 256) :
    number [b / 8 % 2, b / 4 % 2, b / 2 % 2, b % 2, c / 128 % 2, c / 64 % 2] =
      b % 16 * 4 + c / 64 := by
  simp only [number, List.foldl_cons, List.foldl_nil]
  omega

end Bytes

/-- The groups are those of the bits in a row. -/
theorem sixes_bits (bytes : List UInt8) : sixes (bytes.flatMap bits) = sextets bytes := by
  induction bytes using sextets.induct with
  | case1 a b c rest ih =>
      have first := a.toNat_lt
      have second := b.toNat_lt
      have third := c.toNat_lt
      simp [bits, sixes, sextets, number_first first, number_second second, number_third third,
        number_six]
      refine ⟨?_, ?_, ?_, ?_, ih⟩
      · omega
      · omega
      · omega
      · omega
  | case2 a b =>
      have first := a.toNat_lt
      have second := b.toNat_lt
      simp [bits, sixes, sextets, number_first first, number_second second]
      refine ⟨?_, ?_, ?_⟩
      · omega
      · omega
      · simp only [number, List.foldl_cons, List.foldl_nil]
        omega
  | case3 a =>
      have first := a.toNat_lt
      simp [bits, sixes, sextets, number_first first]
      refine ⟨?_, ?_⟩
      · omega
      · simp only [number, List.foldl_cons, List.foldl_nil]
        omega
  | case4 => rfl

/-- The encoding names the groups of six bits that the bytes make in a row. -/
theorem encode_eq_bits (bytes : List UInt8) :
    alphabet.encode bytes = (sixes (bytes.flatMap bits)).map alphabet.digit := by
  rw [sixes_bits, encode]

/-! ## As a codec -/

/-- Padded base64 as a codec. -/
def codec (alphabet : Alphabet) : Codec where
  encode bytes := String.ofList (alphabet.encodePadded bytes)
  decode text :=
    match alphabet.decodePadded text.toList with
    | none => .error "invalid base64"
    | some bytes => .ok bytes

theorem codec_roundTrips : alphabet.codec.RoundTrips := by
  intro bytes
  simp only [codec, String.toList_ofList, decodePadded_encodePadded]

end Alphabet

end AirPaste.Theory
