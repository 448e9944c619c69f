/-
# Theory.Pieces — pieces and words of a text in its surroundings

How splitting a text at separators meets concatenation and trimming.  A part of a text whose
neighbours are separators is cut as if it stood alone (`splitChars_sep`, `words_sep`); a part
without separators lies in one piece, together with what stands next to it
(`splitChars_append_part`, `splitChars_part_append`).  `anyPiece_around`, `any_words` and
`any_zip_tail_iff` say when some piece, some word, or two words in a row satisfy a check.
-/
import AirPaste.Theory.Text
import Mathlib.Data.List.Induction
import Mathlib.Data.List.Infix
import Mathlib.Data.List.TakeWhile

namespace AirPaste.Theory.Text

set_option autoImplicit false

/-- The text is empty or its last character satisfies `p`. -/
def EndsIn (p : Char → Bool) (chars : List Char) : Prop := ∀ c ∈ chars.getLast?, p c = true

/-- The text is empty or its first character satisfies `p`. -/
def BeginsIn (p : Char → Bool) (chars : List Char) : Prop := ∀ c ∈ chars.head?, p c = true

instance (p : Char → Bool) (chars : List Char) : Decidable (EndsIn p chars) :=
  decidable_of_iff (chars.getLast?.all p = true) (Option.all_eq_true p _)

instance (p : Char → Bool) (chars : List Char) : Decidable (BeginsIn p chars) :=
  decidable_of_iff (chars.head?.all p = true) (Option.all_eq_true p _)

theorem none_of_any {p : Char → Bool} {chars : List Char} (found : chars.any p = false) :
    ∀ c ∈ chars, p c = false := fun c member =>
  Bool.eq_false_iff.mpr (List.any_eq_false.mp found c member)

/-! ## Dropping at the ends -/

section Dropping

variable {p : Char → Bool} {chars : List Char}

theorem dropEnd_concat (chars : List Char) (c : Char) :
    dropEnd p (chars ++ [c]) = if p c then dropEnd p chars else chars ++ [c] := by
  simp only [dropEnd, List.reverse_append, List.reverse_cons, List.reverse_nil, List.nil_append,
    List.singleton_append, List.dropWhile_cons]
  split
  · rfl
  · rw [List.reverse_cons, List.reverse_reverse]

theorem stripPrefix_append (pre rest : String) : stripPrefix (pre ++ rest) pre = some rest := by
  have starts : startsWith (pre ++ rest) pre = true := by
    rw [startsWith, List.isPrefixOf_iff_prefix, String.toList_append]
    exact List.prefix_append _ _
  rw [stripPrefix, if_pos starts, String.toList_append, List.drop_left, String.ofList_toList]

/-- Nothing is dropped exactly where the end stops it. -/
theorem dropEnd_eq_self_iff : dropEnd p chars = chars ↔ EndsIn (!p ·) chars := by
  rcases List.eq_nil_or_concat' chars with rfl | ⟨before, c, rfl⟩
  · exact ⟨fun _ c empty => (by cases empty), fun _ => rfl⟩
  · simp only [EndsIn, List.getLast?_concat, Option.mem_some_iff, forall_eq', dropEnd_concat]
    cases dropped : p c with
    | false => exact ⟨fun _ => rfl, fun _ => rfl⟩
    | true =>
        refine ⟨fun same => ?_, fun kept => by cases kept⟩
        have longer := congrArg List.length same
        have shorter := ((List.dropWhile_sublist p (l := before.reverse)).length_le)
        rw [if_pos rfl, dropEnd, List.length_reverse, List.length_append,
          List.length_singleton] at longer
        rw [List.length_reverse] at shorter
        omega

theorem dropEnd_split (p : Char → Bool) (chars : List Char) :
    ∃ dropped, chars = dropEnd p chars ++ dropped ∧ ∀ c ∈ dropped, p c = true := by
  refine ⟨(chars.reverse.takeWhile p).reverse, ?_, fun c member => ?_⟩
  · rw [dropEnd, ← List.reverse_append, List.takeWhile_append_dropWhile, List.reverse_reverse]
  · exact List.mem_takeWhile_imp (List.mem_reverse.mp member)

theorem endsIn_dropEnd (p : Char → Bool) (chars : List Char) :
    EndsIn (!p ·) (dropEnd p chars) := by
  intro c last
  obtain ⟨ne, rfl⟩ := List.mem_getLast?_eq_getLast last
  show (!p _) = true
  rw [getLast_dropEnd ne]
  rfl

theorem beginsIn_dropWhile (p : Char → Bool) (chars : List Char) :
    BeginsIn (!p ·) (chars.dropWhile p) := by
  intro c first
  have stops := List.head?_dropWhile_not p chars
  rw [Option.mem_def.mp first] at stops
  show (!p c) = true
  rw [stops]
  rfl

/-- What trimming leaves, between the white space it takes away. -/
theorem trimChars_split (chars : List Char) :
    ∃ leading trailing, chars = leading ++ (trimChars chars ++ trailing) ∧
      (∀ c ∈ leading, isWhitespace c = true) ∧ ∀ c ∈ trailing, isWhitespace c = true := by
  obtain ⟨trailing, split, blank⟩ := dropEnd_split isWhitespace (chars.dropWhile isWhitespace)
  refine ⟨chars.takeWhile isWhitespace, trailing, ?_, fun c member => ?_, blank⟩
  · rw [trimChars, ← split, List.takeWhile_append_dropWhile]
  · exact List.mem_takeWhile_imp member

theorem mem_of_mem_trimChars {c : Char} (member : c ∈ trimChars chars) : c ∈ chars :=
  (List.dropWhile_sublist isWhitespace).mem (mem_of_mem_dropEnd member)

end Dropping

theorem alphanumeric_range {c : Char} (alnum : isAsciiAlphanumeric c = true) :
    48 ≤ c.toNat ∧ c.toNat ≤ 57 ∨ 65 ≤ c.toNat ∧ c.toNat ≤ 90 ∨ 97 ≤ c.toNat ∧ c.toNat ≤ 122 := by
  simp only [isAsciiAlphanumeric, isAsciiDigit, Bool.or_eq_true, Bool.and_eq_true,
    decide_eq_true_eq] at alnum
  rcases alnum with (digit | upper) | lower
  · exact .inl digit
  · exact .inr (.inl upper)
  · exact .inr (.inr lower)

theorem whitespace_of_alphanumeric {c : Char} (alnum : isAsciiAlphanumeric c = true) :
    isWhitespace c = false := by
  have range := alphanumeric_range alnum
  simp only [isWhitespace, Bool.or_eq_false_iff, Bool.and_eq_false_iff, decide_eq_false_iff_not,
    beq_eq_false_iff_ne]
  omega

/-- ASCII white space is white space. -/
theorem whitespace_of_ascii {c : Char} (blank : isAsciiWhitespace c = true) :
    isWhitespace c = true := by
  simp only [isAsciiWhitespace, Bool.or_eq_true, beq_iff_eq] at blank
  rcases blank with (((rfl | rfl) | rfl) | rfl) | feed
  · rfl
  · rfl
  · rfl
  · rfl
  · simp only [isWhitespace, feed]
    rfl

theorem dropEnd_of_all {p : Char → Bool} {chars : List Char} (all : ∀ c ∈ chars, p c = true) :
    dropEnd p chars = [] := by
  rw [dropEnd, List.dropWhile_eq_nil_iff.mpr fun c member => all c (List.mem_reverse.mp member)]
  rfl

theorem trimChars_cons_of_blank {c : Char} (blank : isWhitespace c = true) (chars : List Char) :
    trimChars (c :: chars) = trimChars chars := by
  rw [trimChars, List.dropWhile_cons_of_pos blank]
  rfl

theorem trimChars_concat_of_blank {c : Char} (blank : isWhitespace c = true)
    (chars : List Char) : trimChars (chars ++ [c]) = trimChars chars := by
  simp only [trimChars, List.dropWhile_append]
  split
  · rename_i empty
    rw [List.isEmpty_iff.mp empty, List.dropWhile_cons_of_pos blank]
    rfl
  · rw [dropEnd_concat, if_pos blank]

/-- What is around a part that begins and ends without white space is trimmed by itself. -/
theorem trimChars_around {part : List Char} (nonempty : part ≠ [])
    (first : BeginsIn (fun c => !isWhitespace c) part)
    (last : EndsIn (fun c => !isWhitespace c) part) (before after : List Char) :
    trimChars (before ++ (part ++ after)) =
      before.dropWhile isWhitespace ++ (part ++ dropEnd isWhitespace after) := by
  have left : (before ++ (part ++ after)).dropWhile isWhitespace =
      before.dropWhile isWhitespace ++ (part ++ after) := by
    obtain ⟨c, rest, rfl⟩ := List.exists_cons_of_ne_nil nonempty
    have stops : isWhitespace c = false := by simpa using first c rfl
    rw [List.dropWhile_append]
    split
    · rename_i empty
      rw [List.isEmpty_iff.mp empty, List.cons_append, List.dropWhile_cons_of_neg (by
        rw [stops]
        exact Bool.false_ne_true)]
      rfl
    · rfl
  have right (text : List Char) (ends : EndsIn (fun c => !isWhitespace c) text)
      (filled : text ≠ []) :
      dropEnd isWhitespace (text ++ after) = text ++ dropEnd isWhitespace after := by
    have whole := dropEnd_eq_self_iff.mpr ends
    rw [dropEnd, List.reverse_eq_iff] at whole
    rw [dropEnd, List.reverse_append, List.dropWhile_append]
    split
    · rename_i empty
      rw [whole, List.reverse_reverse, dropEnd, List.isEmpty_iff.mp empty, List.reverse_nil,
        List.append_nil]
    · rw [List.reverse_append, List.reverse_reverse]
      rfl
  rw [trimChars, left, ← List.append_assoc, right, List.append_assoc]
  · intro c ending
    rw [List.getLast?_append_of_ne_nil _ nonempty] at ending
    exact last c ending
  · exact List.append_ne_nil_of_right_ne_nil _ nonempty

theorem beginsIn_trimChars (chars : List Char) :
    BeginsIn (fun c => !isWhitespace c) (trimChars chars) := by
  intro c first
  obtain ⟨dropped, split, -⟩ := dropEnd_split isWhitespace (chars.dropWhile isWhitespace)
  refine beginsIn_dropWhile isWhitespace chars c ?_
  rw [split]
  exact List.mem_head?_append_of_mem_head? first

/-- Trimming again changes nothing. -/
theorem trimChars_trimChars (chars : List Char) :
    trimChars (trimChars chars) = trimChars chars := by
  cases shape : trimChars chars with
  | nil => rfl
  | cons c rest =>
      rw [← shape]
      have nonempty : trimChars chars ≠ [] := by
        rw [shape]
        exact List.cons_ne_nil c rest
      have around := trimChars_around nonempty (beginsIn_trimChars chars)
        (endsIn_dropEnd isWhitespace _) [] []
      simpa [dropEnd] using around

/-- What trimming leaves of a text, it leaves of a longer one. -/
theorem trimChars_infix_trimChars (before chars after : List Char) :
    trimChars chars <:+: trimChars (before ++ (chars ++ after)) := by
  rcases List.eq_nil_or_concat' (trimChars chars) with empty | filled
  · rw [empty]
    exact List.nil_infix
  · obtain ⟨leading, trailing, split, -, -⟩ := trimChars_split chars
    have nonempty : trimChars chars ≠ [] := by
      obtain ⟨init, c, shape⟩ := filled
      rw [shape]
      exact List.concat_ne_nil c init
    have around := trimChars_around nonempty (beginsIn_trimChars chars)
      (endsIn_dropEnd isWhitespace _) (before ++ leading) (trailing ++ after)
    have shape : before ++ (chars ++ after) =
        before ++ leading ++ (trimChars chars ++ (trailing ++ after)) := by
      conv_lhs => rw [split]
      simp only [List.append_assoc]
    rw [shape, around]
    exact ⟨_, _, List.append_assoc _ _ _⟩

theorem asciiLower_append (first second : List Char) :
    asciiLower (first ++ second) = asciiLower first ++ asciiLower second := List.map_append

/-- White space is no letter that lower case changes. -/
theorem upper_of_blank {c : Char} (blank : isWhitespace c = true) :
    ('A' ≤ c && c ≤ 'Z') = false := by
  cases upper : ('A' ≤ c && c ≤ 'Z' : Bool) with
  | false => rfl
  | true =>
      have filled := whitespace_of_alphanumeric (c := c) (by
        rw [isAsciiAlphanumeric, upper, Bool.or_true, Bool.true_or])
      cases blank.symm.trans filled

/-- White space stays in lower case. -/
theorem mem_asciiLower_of_blank {c : Char} {chars : List Char} (blank : isWhitespace c = true)
    (member : c ∈ chars) : c ∈ asciiLower chars :=
  List.mem_map.mpr ⟨c, member, if_neg (by rw [upper_of_blank blank]; exact Bool.false_ne_true)⟩

/-- Lower case changes letters into letters. -/
theorem mem_asciiLower {c : Char} {chars : List Char} (member : c ∈ asciiLower chars) :
    c ∈ chars ∨ 'a' ≤ c ∧ c ≤ 'z' := by
  obtain ⟨d, inside, rfl⟩ := List.mem_map.mp member
  split
  · rename_i upper
    rw [Bool.and_eq_true, decide_eq_true_eq, decide_eq_true_eq] at upper
    have low : 65 ≤ d.toNat := upper.1
    have high : d.toNat ≤ 90 := upper.2
    have number : (Char.ofNat (d.toNat + 32)).toNat = d.toNat + 32 := by
      rw [Char.ofNat, dif_pos (show Nat.isValidChar _ from .inl (by omega))]
      rfl
    refine .inr ⟨?_, ?_⟩
    · show 97 ≤ (Char.ofNat (d.toNat + 32)).toNat
      omega
    · show (Char.ofNat (d.toNat + 32)).toNat ≤ 122
      omega
  · exact .inl inside

/-! ## Splitting -/

section Splitting

variable {sep : Char → Bool} {c : Char}

theorem splitChars_ne_nil (sep : Char → Bool) (chars : List Char) : splitChars sep chars ≠ [] := by
  cases chars with
  | nil => exact List.cons_ne_nil _ _
  | cons c rest =>
      rw [splitChars]
      split
      · exact List.cons_ne_nil _ _
      · split <;> exact List.cons_ne_nil _ _

theorem splitChars_cons_of_sep (here : sep c = true) (rest : List Char) :
    splitChars sep (c :: rest) = [] :: splitChars sep rest := by
  rw [splitChars, if_pos here]

/-- A character that does not separate goes into the first piece. -/
theorem splitChars_cons_of_not (here : sep c = false) {rest piece : List Char}
    {pieces : List (List Char)} (split : splitChars sep rest = piece :: pieces) :
    splitChars sep (c :: rest) = (c :: piece) :: pieces := by
  rw [splitChars, if_neg (by rw [here]; exact Bool.false_ne_true), split]

/-- Only the empty text is one empty piece. -/
theorem eq_nil_of_splitChars {chars : List Char} (split : splitChars sep chars = [[]]) :
    chars = [] := by
  cases chars with
  | nil => rfl
  | cons c rest =>
      cases cuts : sep c with
      | true =>
          rw [splitChars_cons_of_sep cuts] at split
          exact absurd (List.cons.inj split).2 (splitChars_ne_nil sep rest)
      | false =>
          obtain ⟨piece, pieces, inner⟩ := List.exists_cons_of_ne_nil (splitChars_ne_nil sep rest)
          rw [splitChars_cons_of_not cuts inner] at split
          cases split

/-- A separator cuts. -/
theorem splitChars_sep (here : sep c = true) (before after : List Char) :
    splitChars sep (before ++ c :: after) = splitChars sep before ++ splitChars sep after := by
  induction before with
  | nil => exact splitChars_cons_of_sep here after
  | cons d rest ih =>
      cases cuts : sep d with
      | true =>
          rw [List.cons_append, splitChars_cons_of_sep cuts, splitChars_cons_of_sep cuts, ih]
          rfl
      | false =>
          obtain ⟨piece, pieces, split⟩ := List.exists_cons_of_ne_nil (splitChars_ne_nil sep rest)
          rw [split] at ih
          rw [List.cons_append, splitChars_cons_of_not cuts ih, splitChars_cons_of_not cuts split]
          rfl

variable (sep) in
/-- A character separates or lies in a piece. -/
theorem mem_piece_of_mem {chars : List Char} {d : Char} (member : d ∈ chars) :
    sep d = true ∨ ∃ piece ∈ splitChars sep chars, d ∈ piece := by
  induction chars with
  | nil => cases member
  | cons e rest ih =>
      cases cuts : sep e with
      | true =>
          rw [splitChars_cons_of_sep cuts]
          rcases List.mem_cons.mp member with rfl | later
          · exact .inl cuts
          · exact (ih later).imp_right fun ⟨piece, among, inside⟩ =>
              ⟨piece, List.mem_cons_of_mem _ among, inside⟩
      | false =>
          obtain ⟨first, others, split⟩ := List.exists_cons_of_ne_nil (splitChars_ne_nil sep rest)
          rw [split] at ih
          rw [splitChars_cons_of_not cuts split]
          rcases List.mem_cons.mp member with rfl | later
          · exact .inr ⟨_, List.mem_cons_self, List.mem_cons_self⟩
          · refine (ih later).imp_right ?_
            rintro ⟨piece, among, inside⟩
            rcases List.mem_cons.mp among with rfl | after
            · exact ⟨_, List.mem_cons_self, List.mem_cons_of_mem _ inside⟩
            · exact ⟨piece, List.mem_cons_of_mem _ after, inside⟩

/-- Texts joined by a separator are cut apart again. -/
theorem splitChars_intercalate (here : sep c = true) {pieces : List (List Char)}
    (nonempty : pieces ≠ []) (plain : ∀ piece ∈ pieces, ∀ d ∈ piece, sep d = false) :
    splitChars sep (List.intercalate [c] pieces) = pieces := by
  induction pieces with
  | nil => exact absurd rfl nonempty
  | cons piece rest ih =>
      have first := splitChars_single (plain piece List.mem_cons_self)
      cases rest with
      | nil => rw [List.intercalate_singleton, first]
      | cons next others =>
          rw [List.intercalate_cons_cons, List.append_assoc, List.singleton_append,
            splitChars_sep here, first, ih (List.cons_ne_nil _ _)
              fun other member => plain other (List.mem_cons_of_mem _ member)]
          rfl

/-- No piece has a separator. -/
theorem sep_of_mem_splitChars {chars piece : List Char} (member : piece ∈ splitChars sep chars) :
    ∀ c ∈ piece, sep c = false := by
  induction chars generalizing piece with
  | nil =>
      cases List.mem_singleton.mp member
      intro c inside
      cases inside
  | cons d rest ih =>
      cases cuts : sep d with
      | true =>
          rw [splitChars_cons_of_sep cuts] at member
          rcases List.mem_cons.mp member with rfl | later
          · intro c inside
            cases inside
          · exact ih later
      | false =>
          obtain ⟨first, others, split⟩ := List.exists_cons_of_ne_nil (splitChars_ne_nil sep rest)
          rw [split] at ih
          rw [splitChars_cons_of_not cuts split] at member
          rcases List.mem_cons.mp member with rfl | later
          · intro c inside
            rcases List.mem_cons.mp inside with rfl | after
            · exact cuts
            · exact ih List.mem_cons_self c after
          · exact ih (List.mem_cons_of_mem _ later)

/-- The first piece is what the text begins with. -/
theorem head_prefix_splitChars {chars piece : List Char} {pieces : List (List Char)}
    (split : splitChars sep chars = piece :: pieces) : piece <+: chars := by
  induction chars generalizing piece pieces with
  | nil =>
      cases split
      exact List.nil_prefix
  | cons c rest ih =>
      cases cuts : sep c with
      | true =>
          rw [splitChars_cons_of_sep cuts] at split
          cases split
          exact List.nil_prefix
      | false =>
          obtain ⟨first, others, inner⟩ := List.exists_cons_of_ne_nil (splitChars_ne_nil sep rest)
          rw [splitChars_cons_of_not cuts inner] at split
          cases split
          exact List.cons_prefix_cons.mpr ⟨rfl, ih inner⟩

/-- A part without separators goes into the first piece of what follows it. -/
theorem splitChars_part_append {part : List Char} (none : ∀ c ∈ part, sep c = false)
    (after : List Char) :
    ∃ piece pieces, splitChars sep after = piece :: pieces ∧
      splitChars sep (part ++ after) = (part ++ piece) :: pieces ∧
      (piece = [] ↔ BeginsIn sep after) := by
  obtain ⟨piece, pieces, split⟩ := List.exists_cons_of_ne_nil (splitChars_ne_nil sep after)
  refine ⟨piece, pieces, split, ?_, ?_⟩
  · induction part with
    | nil => exact split
    | cons c rest ih =>
        have there := ih fun d member => none d (List.mem_cons_of_mem _ member)
        exact splitChars_cons_of_not (none c List.mem_cons_self) there
  · cases after with
    | nil =>
        cases split
        exact ⟨fun _ c empty => (by cases empty), fun _ => rfl⟩
    | cons c rest =>
        simp only [BeginsIn, List.head?_cons, Option.mem_some_iff, forall_eq']
        cases cuts : sep c with
        | true =>
            rw [splitChars_cons_of_sep cuts] at split
            cases split
            exact ⟨fun _ => rfl, fun _ => rfl⟩
        | false =>
            obtain ⟨first, others, inner⟩ :=
              List.exists_cons_of_ne_nil (splitChars_ne_nil sep rest)
            rw [splitChars_cons_of_not cuts inner] at split
            cases split
            exact ⟨fun empty => (by cases empty), fun no => (by cases no)⟩

/-- A part without separators goes into the last piece of what stands before it. -/
theorem splitChars_append_part {part : List Char} (none : ∀ c ∈ part, sep c = false)
    (before : List Char) :
    ∃ pieces piece, splitChars sep before = pieces ++ [piece] ∧
      splitChars sep (before ++ part) = pieces ++ [piece ++ part] ∧
      (piece = [] ↔ EndsIn sep before) := by
  induction before with
  | nil =>
      refine ⟨[], [], rfl, splitChars_single none, ?_⟩
      exact ⟨fun _ c empty => (by cases empty), fun _ => rfl⟩
  | cons c rest ih =>
      obtain ⟨pieces, piece, split, joined, ends⟩ := ih
      cases cuts : sep c with
      | true =>
          refine ⟨[] :: pieces, piece, ?_, ?_, ?_⟩
          · rw [splitChars_cons_of_sep cuts, split]
            rfl
          · rw [List.cons_append, splitChars_cons_of_sep cuts, joined]
            rfl
          · rw [ends]
            cases rest with
            | nil => simp [EndsIn, cuts]
            | cons d others => simp only [EndsIn, List.getLast?_cons_cons]
      | false =>
          cases pieces with
          | nil =>
              refine ⟨[], c :: piece, splitChars_cons_of_not cuts split,
                splitChars_cons_of_not cuts joined, ?_⟩
              refine ⟨fun empty => (by cases empty), fun closes => ?_⟩
              cases rest with
              | nil =>
                  have closed := closes c rfl
                  rw [cuts] at closed
                  cases closed
              | cons d others =>
                  -- the rest would be one empty piece
                  have empty : piece = [] := ends.mpr fun e last => closes e last
                  rw [empty] at split
                  cases eq_nil_of_splitChars split
          | cons first others =>
              refine ⟨(c :: first) :: others, piece, splitChars_cons_of_not cuts split,
                splitChars_cons_of_not cuts joined, ?_⟩
              rw [ends]
              cases rest with
              | nil => exact absurd (congrArg List.length split) (by simp [splitChars])
              | cons d others => simp only [EndsIn, List.getLast?_cons_cons]

end Splitting

/-! ## Words -/

section Words

variable {sep : Char → Bool} {c : Char}

theorem words_sep (here : sep c = true) (before after : List Char) :
    words sep (before ++ c :: after) = words sep before ++ words sep after := by
  rw [words, splitChars_sep here, List.filter_append]
  rfl

theorem words_cons_of_sep (here : sep c = true) (rest : List Char) :
    words sep (c :: rest) = words sep rest := words_sep here [] rest

/-- A gap cuts. -/
theorem words_gap {gap : List Char} (nonempty : gap ≠ []) (blank : ∀ c ∈ gap, sep c = true)
    (before after : List Char) :
    words sep (before ++ (gap ++ after)) = words sep before ++ words sep after := by
  obtain ⟨c, rest, rfl⟩ := List.exists_cons_of_ne_nil nonempty
  rw [List.cons_append, words_sep (blank c List.mem_cons_self)]
  congr 1
  have later : ∀ d ∈ rest, sep d = true := fun d member => blank d (List.mem_cons_of_mem _ member)
  clear nonempty blank
  induction rest with
  | nil => rfl
  | cons d others ih =>
      rw [List.cons_append, words_cons_of_sep (later d List.mem_cons_self)]
      exact ih fun e member => later e (List.mem_cons_of_mem _ member)

theorem sep_of_mem_words {chars word : List Char} (member : word ∈ words sep chars) :
    ∀ c ∈ word, sep c = false := sep_of_mem_splitChars (List.mem_filter.mp member).1

/-- A part without separators begins the first word, which is longer where no separator
follows. -/
theorem words_part_append {part : List Char} (nonempty : part ≠ [])
    (none : ∀ c ∈ part, sep c = false) (after : List Char) :
    ∃ piece rest, words sep (part ++ after) = (part ++ piece) :: rest ∧
      words sep after = [piece].filter (fun piece => !piece.isEmpty) ++ rest ∧
      piece <+: after ∧ (piece = [] ↔ BeginsIn sep after) := by
  obtain ⟨piece, pieces, split, joined, begins⟩ := splitChars_part_append none after
  refine ⟨piece, pieces.filter fun piece => !piece.isEmpty, ?_, ?_, head_prefix_splitChars split,
    begins⟩
  · rw [words, joined, List.filter_cons_of_pos (by simp [nonempty])]
  · rw [words, split, ← List.filter_append, List.singleton_append]

/-- A part without separators ends the last word, which is longer where no separator stands
before it. -/
theorem words_append_part {part : List Char} (nonempty : part ≠ [])
    (none : ∀ c ∈ part, sep c = false) (before : List Char) :
    ∃ init piece, words sep (before ++ part) = init ++ [piece ++ part] ∧
      words sep before = init ++ [piece].filter (fun piece => !piece.isEmpty) ∧
      (piece = [] ↔ EndsIn sep before) := by
  obtain ⟨pieces, piece, split, joined, ends⟩ := splitChars_append_part none before
  refine ⟨pieces.filter fun piece => !piece.isEmpty, piece, ?_, ?_, ends⟩
  · rw [words, joined, List.filter_append, List.filter_cons_of_pos (by simp [nonempty]),
      List.filter_nil]
  · rw [words, split, List.filter_append]

end Words

/-! ## Checks of the pieces -/

section Checks

variable {sep : Char → Bool} {c : Char}

/-- What no white space at an end matters to holds of the trimmed text. -/
theorem trimChars_rule {motive : List Char → Prop}
    (front : ∀ c chars, isWhitespace c = true → motive (c :: chars) → motive chars)
    (back : ∀ c chars, isWhitespace c = true → motive (chars ++ [c]) → motive chars)
    {chars : List Char} (holds : motive chars) : motive (trimChars chars) := by
  obtain ⟨leading, trailing, split, before, after⟩ := trimChars_split chars
  rw [split] at holds
  clear split
  have started : motive (trimChars chars ++ trailing) := by
    induction leading with
    | nil => exact holds
    | cons c rest ih =>
        exact ih (front c _ (before c List.mem_cons_self) holds)
          fun d member => before d (List.mem_cons_of_mem _ member)
  clear holds
  induction trailing using List.reverseRecOn with
  | nil => exact (List.append_nil (trimChars chars)) ▸ started
  | append_singleton rest c ih =>
      rw [← List.append_assoc] at started
      exact ih (fun d member => after d (List.mem_append_left _ member))
        (back c _ (after c (List.mem_append_right _ List.mem_cons_self)) started)

variable {check : List Char → Bool}

theorem anyPiece_sep (here : sep c = true) (before after : List Char) :
    (splitChars sep (before ++ c :: after)).any check =
      ((splitChars sep before).any check || (splitChars sep after).any check) := by
  rw [splitChars_sep here, List.any_append]

/-- A part between separators is checked by itself. -/
theorem anyPiece_around (empty : check [] = false) {before part after : List Char}
    (ends : EndsIn sep before) (none : ∀ c ∈ part, sep c = false) (begins : BeginsIn sep after) :
    (splitChars sep (before ++ (part ++ after))).any check =
      ((splitChars sep before).any check || check part || (splitChars sep after).any check) := by
  have right : (splitChars sep (part ++ after)).any check =
      (check part || (splitChars sep after).any check) := by
    obtain ⟨piece, pieces, split, joined, first⟩ := splitChars_part_append none after
    rw [split, joined, first.mpr begins, List.append_nil, List.any_cons, List.any_cons, empty,
      Bool.false_or]
  rcases List.eq_nil_or_concat' before with rfl | ⟨init, c, rfl⟩
  · rw [List.nil_append, right]
    simp only [splitChars, List.any_cons, List.any_nil, empty, Bool.or_false, Bool.false_or]
  · have cuts : sep c = true := ends c List.getLast?_concat
    rw [List.append_assoc, List.singleton_append, anyPiece_sep cuts, right, anyPiece_sep cuts]
    simp only [splitChars, List.any_cons, List.any_nil, empty, Bool.or_false, Bool.or_assoc]

/-- A check that white space inside its piece does not matter to finds the same in the trimmed
text. -/
theorem anyPiece_trimChars (empty : check [] = false)
    (front : ∀ c piece, isWhitespace c = true → sep c = false →
      check (c :: piece) = check piece)
    (back : ∀ c piece, isWhitespace c = true → sep c = false →
      check (piece ++ [c]) = check piece) (chars : List Char) :
    (splitChars sep (trimChars chars)).any check = (splitChars sep chars).any check := by
  refine trimChars_rule (motive := fun text => (splitChars sep text).any check = _)
    (fun c text blank same => ?_) (fun c text blank same => ?_) rfl
  · rw [← same]
    cases cuts : sep c with
    | true => rw [splitChars_cons_of_sep cuts, List.any_cons, empty, Bool.false_or]
    | false =>
        obtain ⟨piece, pieces, split⟩ := List.exists_cons_of_ne_nil (splitChars_ne_nil sep text)
        rw [splitChars_cons_of_not cuts split, split, List.any_cons, List.any_cons,
          front c piece blank cuts]
  · rw [← same]
    cases cuts : sep c with
    | true =>
        rw [anyPiece_sep cuts]
        simp only [splitChars, List.any_cons, List.any_nil, empty, Bool.or_false]
    | false =>
        obtain ⟨pieces, piece, split, joined, -⟩ := splitChars_append_part
          (fun d (member : d ∈ [c]) => (List.mem_singleton.mp member) ▸ cuts) text
        rw [split, joined]
        simp only [List.any_append, List.any_cons, List.any_nil, Bool.or_false,
          back c piece blank cuts]

theorem any_words (chars : List Char) :
    (words sep chars).any check =
      (splitChars sep chars).any fun piece => !piece.isEmpty && check piece := by
  rw [words, List.any_filter]

end Checks

/-! ## Neighbours -/

section Neighbours

variable {α : Type}

/-- The pairs that a list and its tail make are the parts of two elements. -/
theorem mem_zip_tail_iff {values : List α} {a b : α} :
    (a, b) ∈ values.zip values.tail ↔ [a, b] <:+: values := by
  induction values with
  | nil => simp
  | cons v rest ih =>
      cases rest with
      | nil => simp [List.infix_cons_iff]
      | cons w others =>
          rw [List.tail_cons, List.zip_cons_cons, List.mem_cons, List.infix_cons_iff]
          rw [List.tail_cons] at ih
          refine or_congr ?_ ih
          simp [List.cons_prefix_cons]

theorem any_zip_tail_iff {values : List α} {check : α × α → Bool} :
    (values.zip values.tail).any check = true ↔
      ∃ a b, [a, b] <:+: values ∧ check (a, b) = true := by
  simp only [List.any_eq_true, Prod.exists, mem_zip_tail_iff]

/-- Neighbours in a joined list are neighbours in one of the two, or meet where they join. -/
theorem pair_infix_append_iff {first second : List α} {a b : α} :
    [a, b] <:+: first ++ second ↔
      [a, b] <:+: first ∨ [a, b] <:+: second ∨
        (first.getLast? = some a ∧ second.head? = some b) := by
  rw [List.infix_append_iff_ne_nil]
  refine or_congr_right (or_congr_right ⟨?_, ?_⟩)
  · rintro ⟨l, r, left, right, split, ends, begins⟩
    obtain ⟨x, xs, rfl⟩ := List.exists_cons_of_ne_nil left
    obtain ⟨y, ys, rfl⟩ := List.exists_cons_of_ne_nil right
    -- one element on each side
    cases xs with
    | cons _ _ =>
        have longer := congrArg List.length split
        simp only [List.length_append, List.length_cons, List.length_nil] at longer
        omega
    | nil =>
        cases split
        obtain ⟨before, rfl⟩ := ends
        obtain ⟨after, rfl⟩ := begins
        exact ⟨List.getLast?_concat, rfl⟩
  · rintro ⟨last, head⟩
    obtain ⟨before, rfl⟩ := List.getLast?_eq_some_iff.mp last
    obtain ⟨after, rfl⟩ := List.head?_eq_some_iff.mp head
    exact ⟨[a], [b], List.cons_ne_nil _ _, List.cons_ne_nil _ _, rfl, ⟨before, rfl⟩, ⟨after, rfl⟩⟩

/-- A part that begins with nothing of what is before a text lies in the text. -/
theorem infix_after {part leading values : List α} (nonempty : part ≠ [])
    (foreign : ∀ a ∈ part.head?, a ∉ leading) (inside : part <:+: leading ++ values) :
    part <:+: values := by
  obtain ⟨a, rest, rfl⟩ := List.exists_cons_of_ne_nil nonempty
  induction leading with
  | nil => exact inside
  | cons b others ih =>
      rw [List.cons_append, List.infix_cons_iff] at inside
      rcases inside with starts | later
      · rw [List.cons_prefix_cons] at starts
        exact absurd (starts.1 ▸ List.mem_cons_self) (foreign a rfl)
      · exact ih (fun c head member => foreign c head (List.mem_cons_of_mem _ member)) later

/-- A part that begins with nothing of what follows a text, and has not what follows next, lies in
the text. -/
theorem infix_before {part values trailing : List α} (nonempty : part ≠ [])
    (foreign : ∀ a ∈ part.head?, a ∉ trailing) (stops : ∀ a ∈ trailing.head?, a ∉ part)
    (inside : part <:+: values ++ trailing) : part <:+: values := by
  rcases List.infix_append_iff_ne_nil.mp inside with here | later | ⟨l, r, -, right, rfl, -, begins⟩
  · exact here
  · obtain ⟨a, rest, rfl⟩ := List.exists_cons_of_ne_nil nonempty
    exact absurd (later.subset List.mem_cons_self) (foreign a rfl)
  · -- it would go on with what follows next
    obtain ⟨a, rest, rfl⟩ := List.exists_cons_of_ne_nil right
    obtain ⟨more, rfl⟩ := begins
    exact absurd (List.mem_append_right l List.mem_cons_self) (stops a rfl)

end Neighbours

/-! ## Parts -/

theorem contains_iff_part {chars : List Char} {part : String} :
    contains chars part = true ↔ part.toList <:+: chars := by
  simp only [contains, List.any_eq_true, List.mem_tails, List.isPrefixOf_iff_prefix,
    List.infix_iff_prefix_suffix, and_comm]

end AirPaste.Theory.Text
