/-
# Theory.Text — string operations over characters

The string operations of the standard library that a program's logic rests on,
over the characters of a string: white space as Unicode defines it, trimming,
prefixes, control characters and splitting.  They are structurally recursive, so
a concrete string evaluates.
-/
import Mathlib.Algebra.GroupWithZero.Nat
import Mathlib.Data.List.Basic
import Mathlib.Data.String.Basic

namespace AirPaste.Theory.Text

set_option autoImplicit false

/-- The Unicode property White_Space. -/
def isWhitespace (c : Char) : Bool :=
  let n := c.toNat
  (9 ≤ n && n ≤ 13) || n == 0x20 || n == 0x85 || n == 0xA0 || n == 0x1680 ||
    (0x2000 ≤ n && n ≤ 0x200A) || n == 0x2028 || n == 0x2029 || n == 0x202F || n == 0x205F ||
    n == 0x3000

/-- The general category Cc. -/
def isControl (c : Char) : Bool :=
  let n := c.toNat
  n < 0x20 || (0x7F ≤ n && n < 0xA0)

/-- Drop from the end while `p` holds. -/
def dropEnd (p : Char → Bool) (chars : List Char) : List Char :=
  (chars.reverse.dropWhile p).reverse

def trimChars (chars : List Char) : List Char :=
  dropEnd isWhitespace (chars.dropWhile isWhitespace)

/-- `str::trim`. -/
def trim (s : String) : String := String.ofList (trimChars s.toList)

/-- `str::starts_with`. -/
def startsWith (s pre : String) : Bool := pre.toList.isPrefixOf s.toList

/-- `str::strip_prefix`. -/
def stripPrefix (s pre : String) : Option String :=
  if startsWith s pre then some (String.ofList (s.toList.drop pre.toList.length)) else none

/-- `str::split` at the characters `sep` accepts: one more piece than separators. -/
def splitChars (sep : Char → Bool) : List Char → List (List Char)
  | [] => [[]]
  | c :: rest =>
      if sep c then [] :: splitChars sep rest
      else
        match splitChars sep rest with
        | [] => [[c]]
        | piece :: pieces => (c :: piece) :: pieces

/-- The pieces between runs of separators, as `str::split_whitespace` gives them. -/
def words (sep : Char → Bool) (chars : List Char) : List (List Char) :=
  (splitChars sep chars).filter fun piece => !piece.isEmpty

/-- `str::trim_matches`. -/
def trimMatches (p : Char → Bool) (chars : List Char) : List Char :=
  dropEnd p (chars.dropWhile p)

/-- `str::contains`. -/
def contains (chars : List Char) (part : String) : Bool :=
  chars.tails.any fun tail => part.toList.isPrefixOf tail

/-- `str::lines`: a line ends in `\n` or `\r\n`, and a text that ends in one has no line
after it. -/
def lines (chars : List Char) : List (List Char) :=
  let pieces := splitChars (· == '\n') chars
  let ended := pieces.dropLast.map fun piece =>
    if piece.getLast? = some '\r' then piece.dropLast else piece
  ended ++ (pieces.getLast?.filter (· ≠ [])).toList

/-- `str::len`, of the characters of a string. -/
def byteLen (chars : List Char) : Nat := (chars.map Char.utf8Size).sum

/-- `str::to_ascii_lowercase`. -/
def asciiLower (chars : List Char) : List Char :=
  chars.map fun c => if 'A' ≤ c && c ≤ 'Z' then Char.ofNat (c.toNat + 32) else c

def isAsciiDigit (c : Char) : Bool := '0' ≤ c && c ≤ '9'

def isAsciiAlphanumeric (c : Char) : Bool :=
  isAsciiDigit c || ('A' ≤ c && c ≤ 'Z') || ('a' ≤ c && c ≤ 'z')

/-- White space of `str::split_ascii_whitespace`. -/
def isAsciiWhitespace (c : Char) : Bool :=
  c == ' ' || c == '\t' || c == '\n' || c == '\r' || c.toNat == 0x0C

/-- A text without separators is one piece. -/
theorem splitChars_single {sep : Char → Bool} {chars : List Char}
    (none : ∀ c ∈ chars, sep c = false) : splitChars sep chars = [chars] := by
  induction chars with
  | nil => rfl
  | cons c rest ih =>
      have here := none c List.mem_cons_self
      rw [splitChars, ih fun d member => none d (List.mem_cons_of_mem _ member)]
      simp only [here, Bool.false_eq_true, if_false]

theorem mem_of_mem_dropEnd {p : Char → Bool} {chars : List Char} {c : Char}
    (member : c ∈ dropEnd p chars) : c ∈ chars := by
  simp only [dropEnd] at member
  rw [List.mem_reverse] at member
  exact List.mem_reverse.mp ((List.dropWhile_sublist p).mem member)

/-- Nothing is dropped from a text without such characters. -/
theorem dropEnd_of_none {p : Char → Bool} {chars : List Char} (none : ∀ c ∈ chars, p c = false) :
    dropEnd p chars = chars := by
  simp only [dropEnd]
  have stays : chars.reverse.dropWhile p = chars.reverse := by
    cases reversed : chars.reverse with
    | nil => rfl
    | cons c rest =>
        have member : c ∈ chars := by
          rw [← List.mem_reverse, reversed]
          exact List.mem_cons_self
        exact List.dropWhile_cons_of_neg (by rw [none c member]; exact Bool.false_ne_true)
  rw [stays, List.reverse_reverse]

/-- Dropped characters at the end are dropped. -/
theorem dropEnd_append_replicate {p : Char → Bool} {c : Char} (dropped : p c = true)
    (chars : List Char) (n : Nat) :
    dropEnd p (chars ++ List.replicate n c) = dropEnd p chars := by
  simp only [dropEnd, List.reverse_append, List.reverse_replicate]
  rw [List.dropWhile_append_of_pos]
  intro d member
  rw [List.eq_of_mem_replicate member]
  exact dropped

theorem trimChars_of_none {chars : List Char} (none : ∀ c ∈ chars, isWhitespace c = false) :
    trimChars chars = chars := by
  have stays : chars.dropWhile isWhitespace = chars := by
    cases chars with
    | nil => rfl
    | cons c rest =>
        exact List.dropWhile_cons_of_neg (by
          rw [none c List.mem_cons_self]
          exact Bool.false_ne_true)
  rw [trimChars, stays, dropEnd_of_none none]

/-- What is left does not end in a dropped character. -/
theorem getLast_dropEnd {p : Char → Bool} {chars : List Char} (ne : dropEnd p chars ≠ []) :
    p ((dropEnd p chars).getLast ne) = false := by
  simp only [dropEnd] at ne ⊢
  have left : chars.reverse.dropWhile p ≠ [] := fun empty => ne (by rw [empty]; rfl)
  rw [List.getLast_reverse]
  have stops := List.head_dropWhile_not p left
  exact stops

/-! ## The bytes of a string -/

/-- `String::from_utf8`. -/
def fromUtf8 (bytes : List UInt8) : Option String := String.fromUTF8? ⟨bytes.toArray⟩

theorem byteArray_toList_loop (bytes : ByteArray) (i : Nat) (found : List UInt8) :
    ByteArray.toList.loop bytes i found = found.reverse ++ bytes.data.toList.drop i := by
  fun_induction ByteArray.toList.loop bytes i found with
  | case1 i found lt ih =>
      have within : i < bytes.data.toList.length := lt
      have here : bytes.get! i = bytes.data.toList[i] := getElem!_pos bytes.data i lt
      rw [ih, List.reverse_cons, List.append_assoc, List.drop_eq_getElem_cons within, here]
      rfl
  | case2 i found ge =>
      have past : bytes.data.toList.length ≤ i := Nat.le_of_not_lt ge
      rw [List.drop_eq_nil_of_le past, List.append_nil]

theorem byteArray_toList (bytes : ByteArray) : bytes.toList = bytes.data.toList := by
  simp only [ByteArray.toList, byteArray_toList_loop, List.reverse_nil, List.nil_append,
    List.drop_zero]

/-- Strings with the same bytes are the same. -/
theorem toUTF8_toList_inj {a b : String} :
    a.toUTF8.toList = b.toUTF8.toList ↔ a = b := by
  constructor
  · intro same
    simp only [byteArray_toList, Array.toList_inj] at same
    exact String.toByteArray_inj.mp (ByteArray.ext same)
  · rintro rfl
    rfl

theorem fromUtf8_toUTF8 (s : String) : fromUtf8 s.toUTF8.toList = some s := by
  simp only [fromUtf8, byteArray_toList, Array.toArray_toList]
  exact (dif_pos s.isValidUTF8).trans rfl

end AirPaste.Theory.Text
