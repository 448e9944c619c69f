/-
# Agent.SecretLines — a secret with other lines around it

The outer trim of `text_publish_skip_reason` applies to a text alone, and not to the same text
between other lines.  Three checks look at pieces that a line break ends, and one at a part of
the text, so they find in the longer text what they found in the trimmed one.  The check for
bearer tokens splits at ASCII white space only: white space of another kind beside the token is
trimmed from the text alone, and belongs to the word between lines.  `surrounded_iff` says which
texts stay held back between any lines.
-/
import AirPaste.Agent.SecretsInContext

namespace AirPaste.Agent

open AirPaste.Theory

set_option autoImplicit false

/-- A text between two lines. -/
def surrounded (before text after : List Char) : List Char :=
  before ++ ('\n' :: (text ++ ('\n' :: after)))

/-! ## Checks of pieces -/

section Pieces

variable (before text after : List Char)

theorem containsProviderToken_surrounded :
    containsProviderToken (Text.trimChars (surrounded before text after)) =
      (containsProviderToken before || (containsProviderToken (Text.trimChars text) ||
        containsProviderToken after)) := by
  simp only [containsProviderToken_trimChars]
  simp only [containsProviderToken_eq, surrounded]
  rw [Text.anyPiece_sep (by decide), Text.anyPiece_sep (by decide)]

theorem containsSecretAssignment_surrounded :
    containsSecretAssignment (Text.trimChars (surrounded before text after)) =
      (containsSecretAssignment before || (containsSecretAssignment (Text.trimChars text) ||
        containsSecretAssignment after)) := by
  simp only [containsSecretAssignment_trimChars]
  simp only [containsSecretAssignment_eq, surrounded]
  rw [Text.anyPiece_sep rfl, Text.anyPiece_sep rfl]

theorem containsCreditCardLikeNumber_surrounded :
    containsCreditCardLikeNumber (Text.trimChars (surrounded before text after)) =
      (containsCreditCardLikeNumber before ||
        (containsCreditCardLikeNumber (Text.trimChars text) ||
          containsCreditCardLikeNumber after)) := by
  simp only [containsCreditCardLikeNumber_trimChars]
  simp only [containsCreditCardLikeNumber_eq, surrounded]
  rw [Text.anyPiece_sep (by decide), Text.anyPiece_sep (by decide)]

end Pieces

/-! ## Bearer tokens -/

/-- White space at the front is not the scheme's. -/
theorem containsBearerToken_of_cons {c : Char} {text : List Char}
    (blank : Text.isWhitespace c = true) (found : containsBearerToken (c :: text) = true) :
    containsBearerToken text = true := by
  cases cuts : Text.isAsciiWhitespace c with
  | true =>
      rw [containsBearerToken_iff, Text.words_cons_of_sep cuts] at found
      exact containsBearerToken_iff.mpr found
  | false =>
      obtain ⟨piece, rest, joined, split, -⟩ := Text.words_part_append
        (List.cons_ne_nil c []) (fun d member => (List.mem_singleton.mp member) ▸ cuts) text
      obtain ⟨scheme, token, neighbours, pair⟩ := containsBearerToken_iff.mp found
      rw [List.singleton_append] at joined
      rw [joined, List.infix_cons_iff] at neighbours
      rcases neighbours with starts | later
      · -- the word has the white space, so it is not the scheme
        rw [List.cons_prefix_cons] at starts
        rw [bearerPair, Bool.and_eq_true, beq_iff_eq, starts.1] at pair
        have filled := whitespace_of_scheme pair.1 c (List.mem_append_left _ List.mem_cons_self)
        cases blank.symm.trans filled
      · refine containsBearerToken_iff.mpr ⟨scheme, token, ?_, pair⟩
        rw [split]
        exact List.infix_append_of_infix_right later

/-- White space at the end is not the token's. -/
theorem containsBearerToken_of_concat {c : Char} {text : List Char}
    (blank : Text.isWhitespace c = true) (found : containsBearerToken (text ++ [c]) = true) :
    containsBearerToken text = true := by
  cases cuts : Text.isAsciiWhitespace c with
  | true =>
      rw [containsBearerToken_iff, Text.words_sep cuts] at found
      exact containsBearerToken_iff.mpr ((List.append_nil (Text.words _ text)) ▸ found)
  | false =>
      obtain ⟨init, piece, joined, split, -⟩ := Text.words_append_part
        (List.cons_ne_nil c []) (fun d member => (List.mem_singleton.mp member) ▸ cuts) text
      obtain ⟨scheme, token, neighbours, pair⟩ := containsBearerToken_iff.mp found
      rw [joined, Text.pair_infix_append_iff] at neighbours
      rcases neighbours with early | short | ⟨-, last⟩
      · refine containsBearerToken_iff.mpr ⟨scheme, token, ?_, pair⟩
        rw [split]
        exact List.infix_append_of_infix_left early
      · exact absurd short.length_le (by simp)
      · -- the word ends in white space, so it is no token
        cases last
        rw [bearerPair, Bool.and_eq_true, isBearerToken, Bool.and_eq_true] at pair
        have filled := whitespace_of_tokenByte (List.all_eq_true.mp pair.2.2 c
          (List.mem_append_right _ List.mem_cons_self))
        cases blank.symm.trans filled

/-- A bearer token is none of the white space around it: trimming keeps it. -/
theorem containsBearerToken_trimChars {text : List Char} (found : containsBearerToken text = true) :
    containsBearerToken (Text.trimChars text) = true :=
  Text.trimChars_rule (motive := fun text => containsBearerToken text = true)
    (fun _ _ blank => containsBearerToken_of_cons blank)
    (fun _ _ blank => containsBearerToken_of_concat blank) found

/-- Two words in a row are on one side of white space, or meet at it. -/
theorem containsBearerToken_sep {c : Char} (cuts : Text.isAsciiWhitespace c = true)
    (before after : List Char) :
    containsBearerToken (before ++ c :: after) = true ↔
      containsBearerToken before = true ∨ containsBearerToken after = true ∨
        ∃ scheme token, (Text.words Text.isAsciiWhitespace before).getLast? = some scheme ∧
          (Text.words Text.isAsciiWhitespace after).head? = some token ∧
          bearerPair scheme token = true := by
  simp only [containsBearerToken_iff, Text.words_sep cuts, Text.pair_infix_append_iff]
  constructor
  · rintro ⟨scheme, token, early | late | ⟨last, first⟩, pair⟩
    · exact .inl ⟨scheme, token, early, pair⟩
    · exact .inr (.inl ⟨scheme, token, late, pair⟩)
    · exact .inr (.inr ⟨scheme, token, last, first, pair⟩)
  · rintro (⟨scheme, token, early, pair⟩ | ⟨scheme, token, late, pair⟩ |
      ⟨scheme, token, last, first, pair⟩)
    · exact ⟨scheme, token, .inl early, pair⟩
    · exact ⟨scheme, token, .inr (.inl late), pair⟩
    · exact ⟨scheme, token, .inr (.inr ⟨last, first⟩), pair⟩

theorem containsBearerToken_surrounded {before text after : List Char}
    (found : containsBearerToken text = true) :
    containsBearerToken (Text.trimChars (surrounded before text after)) = true := by
  apply containsBearerToken_trimChars
  have feed : Text.isAsciiWhitespace '\n' = true := by decide
  exact (containsBearerToken_sep feed _ _).mpr (.inr (.inl
    ((containsBearerToken_sep feed _ _).mpr (.inl found))))

/-- A line with `x` before a text makes no token of it. -/
theorem containsBearerToken_mark_before {text : List Char}
    (found : containsBearerToken ('x' :: '\n' :: text) = true) :
    containsBearerToken text = true := by
  rcases (containsBearerToken_sep (by decide) ['x'] text).mp found with
    early | late | ⟨scheme, token, last, -, pair⟩
  · exact absurd early (by decide)
  · exact late
  · cases last
    rw [bearerPair, Bool.and_eq_true] at pair
    exact absurd pair.1 (by decide)

theorem containsBearerToken_mark_after {text : List Char}
    (found : containsBearerToken (text ++ ['\n', 'x']) = true) :
    containsBearerToken text = true := by
  rcases (containsBearerToken_sep (by decide) text ['x']).mp found with
    early | late | ⟨scheme, token, -, first, pair⟩
  · exact early
  · exact absurd late (by decide)
  · cases first
    rw [bearerPair, Bool.and_eq_true] at pair
    exact absurd pair.2 (by decide)

/-- A trimmed text with a bearer token has white space in it. -/
theorem exists_blank_of_bearer {text : List Char} (found : containsBearerToken text = true) :
    ∃ c ∈ text, Text.isWhitespace c = true := by
  by_contra none
  have single : Text.splitChars Text.isAsciiWhitespace text = [text] :=
    Text.splitChars_single fun c member => by
      cases cuts : Text.isAsciiWhitespace c with
      | false => rfl
      | true => exact absurd ⟨c, member, Text.whitespace_of_ascii cuts⟩ none
  obtain ⟨scheme, token, neighbours, -⟩ := containsBearerToken_iff.mp found
  have short := neighbours.length_le
  rw [Text.words, single] at short
  have one := List.length_filter_le (fun piece : List Char => !piece.isEmpty) [text]
  simp only [List.length_cons, List.length_nil] at short one
  omega

/-! ## Checks of the whole text -/

/-- A token of three parts has no white space in it. -/
theorem looksLikeJwt_of_blank {text : List Char} {c : Char} (member : c ∈ Text.trimChars text)
    (blank : Text.isWhitespace c = true) : looksLikeJwt text = false := by
  rw [looksLikeJwt]
  split
  · rename_i header payload signature split
    simp only [Bool.and_eq_false_iff]
    refine .inr ?_
    cases base : [header, payload, signature].all fun part => part.all isBase64urlByte with
    | false => rfl
    | true =>
        rcases Text.mem_piece_of_mem (· == '.') member with dot | ⟨part, among, inside⟩
        · rw [beq_iff_eq] at dot
          rw [dot] at blank
          exact absurd blank (by decide)
        · rw [split] at among
          have byte := List.all_eq_true.mp (List.all_eq_true.mp base part among) c inside
          rw [isBase64urlByte, Bool.or_eq_true, Bool.or_eq_true, beq_iff_eq, beq_iff_eq] at byte
          rcases byte with (alnum | rfl) | rfl
          · cases blank.symm.trans (Text.whitespace_of_alphanumeric alnum)
          · exact absurd blank (by decide)
          · exact absurd blank (by decide)
  · rfl

theorem looksLikeOneTimeCode_of_mem {text : List Char} {c : Char}
    (member : c ∈ Text.trimChars text) (other : Text.isAsciiDigit c = false) :
    looksLikeOneTimeCode text = false := by
  have some : (Text.trimChars text).all Text.isAsciiDigit = false := by
    rw [List.all_eq_false]
    exact ⟨c, member, by rw [other]; exact Bool.false_ne_true⟩
  rw [looksLikeOneTimeCode, some, Bool.and_false]

/-- The two parts of a private key's armor. -/
def keyArmor : List String := ["-----begin ", "private key-----"]

theorem looksLikePrivateKey_iff {text : List Char} :
    looksLikePrivateKey text = true ↔
      ∀ armor ∈ keyArmor, armor.toList <:+: Text.asciiLower text := by
  simp [looksLikePrivateKey, keyArmor, Text.contains_iff_part]

theorem looksLikePrivateKey_mono {part text : List Char} (inside : part <:+: text)
    (found : looksLikePrivateKey part = true) : looksLikePrivateKey text = true := by
  rw [looksLikePrivateKey_iff] at found ⊢
  exact fun armor member => (found armor member).trans (inside.map _)

/-- What stands around the trimmed text: white space and the marks. -/
def isMargin (c : Char) : Bool := Text.isWhitespace c || c == 'x'

theorem asciiLower_of_margin {chars : List Char} (margin : ∀ c ∈ chars, isMargin c = true) :
    Text.asciiLower chars = chars := by
  refine (List.map_congr_left (g := id) fun c member => if_neg ?_).trans (List.map_id chars)
  rcases (Bool.or_eq_true _ _).mp (margin c member) with blank | mark
  · rw [Text.upper_of_blank blank]
    exact Bool.false_ne_true
  · rw [beq_iff_eq.mp mark]
    decide

/-- Armor begins with no margin, and the only margin in it is a space. -/
theorem margin_of_armor {armor : String} (member : armor ∈ keyArmor) :
    ∃ c rest, armor.toList = c :: rest ∧ isMargin c = false ∧
      ∀ d ∈ armor.toList, isMargin d = true → d = ' ' := by
  have spaces : keyArmor.all (fun armor =>
      armor.toList.all fun d => !isMargin d || d == ' ') = true := by decide
  have shape := List.all_eq_true.mp (List.all_eq_true.mp spaces armor member)
  have space : ∀ d ∈ armor.toList, isMargin d = true → d = ' ' := by
    intro d inside margin
    have either := shape d inside
    rw [margin] at either
    simpa using either
  rcases List.mem_pair.mp member with rfl | rfl
  · exact ⟨_, _, rfl, by decide, space⟩
  · exact ⟨_, _, rfl, by decide, space⟩

/-- No armor is made by margins around a text, unless a space follows. -/
theorem looksLikePrivateKey_of_margins {leading text trailing : List Char}
    (before : ∀ c ∈ leading, isMargin c = true) (after : ∀ c ∈ trailing, isMargin c = true)
    (noSpace : trailing.head? ≠ some ' ')
    (found : looksLikePrivateKey (leading ++ (text ++ trailing)) = true) :
    looksLikePrivateKey text = true := by
  rw [looksLikePrivateKey_iff] at found ⊢
  intro armor member
  obtain ⟨c, rest, shape, first, space⟩ := margin_of_armor member
  have foreign {margin : List Char} (all : ∀ d ∈ margin, isMargin d = true) :
      ∀ d ∈ armor.toList.head?, d ∉ margin := by
    intro d head inside
    rw [shape] at head
    cases head
    cases first.symm.trans (all c inside)
  have nonempty : armor.toList ≠ [] := by
    rw [shape]
    exact List.cons_ne_nil c rest
  have inside := found armor member
  rw [Text.asciiLower_append, Text.asciiLower_append, asciiLower_of_margin before,
    asciiLower_of_margin after] at inside
  refine Text.infix_before nonempty (foreign after) (fun d head among => noSpace ?_)
    (Text.infix_after nonempty (foreign before) inside)
  rw [Option.mem_def.mp head, space d among (after d (List.mem_of_mem_head? head))]

/-- White space and the mark, as they stand before the trimmed text. -/
theorem margin_of_mark {leading : List Char} (before : ∀ c ∈ leading, Text.isWhitespace c = true) :
    ∀ c ∈ 'x' :: '\n' :: leading, isMargin c = true := by
  intro c member
  rcases List.mem_cons.mp member with rfl | member
  · decide
  · rcases List.mem_cons.mp member with rfl | member
    · decide
    · rw [isMargin, before c member, Bool.true_or]

theorem margin_to_mark {trailing : List Char} (after : ∀ c ∈ trailing, Text.isWhitespace c = true) :
    ∀ c ∈ trailing ++ ['\n', 'x'], isMargin c = true := by
  intro c member
  rcases List.mem_append.mp member with inside | mark
  · rw [isMargin, after c inside, Bool.true_or]
  · rcases List.mem_pair.mp mark with rfl | rfl
    · decide
    · decide

/-! ## The text between marks -/

/-- A check for a secret inside a text, but the one for bearer tokens, finds something. -/
def otherSecret (text : List Char) : Bool :=
  looksLikePrivateKey text || containsProviderToken text || containsSecretAssignment text ||
    containsCreditCardLikeNumber text

section Marks

variable {text : List Char}

theorem trimChars_marked (text : List Char) :
    Text.trimChars (surrounded ['x'] text ['x']) = surrounded ['x'] text ['x'] := by
  have last : Text.EndsIn (fun c => !Text.isWhitespace c) (surrounded ['x'] text ['x']) := by
    intro c ending
    have shape : surrounded ['x'] text ['x'] = ('x' :: '\n' :: (text ++ ['\n'])) ++ ['x'] := by
      simp [surrounded]
    rw [shape, List.getLast?_concat] at ending
    cases ending
    rfl
  have first : Text.BeginsIn (fun c => !Text.isWhitespace c) (surrounded ['x'] text ['x']) := by
    intro c head
    cases head
    rfl
  have around := Text.trimChars_around (List.cons_ne_nil _ _) first last [] []
  simpa [surrounded, Text.dropEnd] using around

/-- Without a mark after it, the text is trimmed at its end as if it stood alone. -/
theorem trimChars_marked_before {leading trailing : List Char}
    (split : text = leading ++ (Text.trimChars text ++ trailing))
    (filled : Text.trimChars text ≠ []) (blank : ∀ c ∈ trailing, Text.isWhitespace c = true) :
    Text.trimChars (surrounded ['x'] text []) =
      'x' :: '\n' :: (leading ++ Text.trimChars text) := by
  have first : Text.BeginsIn (fun c => !Text.isWhitespace c)
      ('x' :: '\n' :: (leading ++ Text.trimChars text)) := by
    intro c head
    cases head
    rfl
  have last : Text.EndsIn (fun c => !Text.isWhitespace c)
      ('x' :: '\n' :: (leading ++ Text.trimChars text)) := by
    intro c ending
    rw [← List.cons_append, ← List.cons_append, List.getLast?_append_of_ne_nil _ filled] at ending
    exact Text.endsIn_dropEnd _ _ c ending
  have dropped : ∀ c ∈ trailing ++ ['\n'], Text.isWhitespace c = true := by
    intro c member
    rcases List.mem_append.mp member with inside | feed
    · exact blank c inside
    · rw [List.mem_singleton.mp feed]
      decide
  have shape : surrounded ['x'] text [] =
      [] ++ (('x' :: '\n' :: (leading ++ Text.trimChars text)) ++ (trailing ++ ['\n'])) := by
    conv_lhs => rw [split]
    simp [surrounded]
  rw [shape, Text.trimChars_around (List.cons_ne_nil _ _) first last, Text.dropEnd_of_all dropped,
    List.append_nil]
  rfl

/-- Between marks only the checks for private keys and bearer tokens can still find something. -/
theorem sensitive_marked {after : List Char} (mark : after = [] ∨ after = ['x'])
    (letter : 'x' ∈ Text.trimChars (surrounded ['x'] text after))
    (feed : '\n' ∈ Text.trimChars (surrounded ['x'] text after))
    (noKey : looksLikePrivateKey (Text.trimChars (surrounded ['x'] text after)) = false)
    (noBearer : containsBearerToken (Text.trimChars (surrounded ['x'] text after)) = false)
    (other : otherSecret (Text.trimChars text) = false) :
    sensitive (Text.trimChars (surrounded ['x'] text after)) = false := by
  simp only [otherSecret, Bool.or_eq_false_iff] at other
  obtain ⟨⟨⟨-, noProvider⟩, noAssignment⟩, noCard⟩ := other
  have noJwt : looksLikeJwt (Text.trimChars (surrounded ['x'] text after)) = false :=
    looksLikeJwt_of_blank ((Text.trimChars_trimChars _).symm ▸ feed) (by decide)
  have noCode : looksLikeOneTimeCode (Text.trimChars (surrounded ['x'] text after)) = false :=
    looksLikeOneTimeCode_of_mem ((Text.trimChars_trimChars _).symm ▸ letter) (by decide)
  rw [sensitive, noKey, noJwt, noBearer, noCode, containsProviderToken_surrounded,
    containsSecretAssignment_surrounded, containsCreditCardLikeNumber_surrounded, noProvider,
    noAssignment, noCard]
  rcases mark with rfl | rfl
  · decide
  · decide

theorem noKey_of_otherSecret (other : otherSecret text = false) :
    looksLikePrivateKey text = false := by
  simp only [otherSecret, Bool.or_eq_false_iff] at other
  exact other.1.1.1

/-- The white space before the scheme hides it behind a mark. -/
theorem sensitive_mark_before {leading trailing : List Char}
    (split : text = leading ++ (Text.trimChars text ++ trailing))
    (filled : Text.trimChars text ≠ []) (before : ∀ c ∈ leading, Text.isWhitespace c = true)
    (after : ∀ c ∈ trailing, Text.isWhitespace c = true)
    (early : containsBearerToken (leading ++ Text.trimChars text) = false)
    (other : otherSecret (Text.trimChars text) = false) :
    sensitive (Text.trimChars (surrounded ['x'] text [])) = false := by
  have shape := trimChars_marked_before split filled after
  refine sensitive_marked (.inl rfl) ?_ ?_ ?_ ?_ other
  · rw [shape]
    exact List.mem_cons_self
  · rw [shape]
    exact List.mem_cons_of_mem _ List.mem_cons_self
  · rw [shape, Bool.eq_false_iff]
    intro found
    have whole : looksLikePrivateKey
        (('x' :: '\n' :: leading) ++ (Text.trimChars text ++ [])) = true := by
      rw [List.append_nil]
      exact found
    have key := looksLikePrivateKey_of_margins (margin_of_mark before)
      (fun c member => (by cases member)) (by decide) whole
    cases (noKey_of_otherSecret other).symm.trans key
  · rw [shape, Bool.eq_false_iff]
    intro found
    cases early.symm.trans (containsBearerToken_mark_before found)

/-- The white space after the token hides it between marks. -/
theorem sensitive_marks_around {leading trailing : List Char}
    (split : text = leading ++ (Text.trimChars text ++ trailing))
    (before : ∀ c ∈ leading, Text.isWhitespace c = true)
    (after : ∀ c ∈ trailing, Text.isWhitespace c = true)
    (early : containsBearerToken (leading ++ Text.trimChars text) = true)
    (alone : containsBearerToken text = false)
    (other : otherSecret (Text.trimChars text) = false) :
    sensitive (Text.trimChars (surrounded ['x'] text ['x'])) = false := by
  have shape : surrounded ['x'] text ['x'] =
      ('x' :: '\n' :: leading) ++ (Text.trimChars text ++ (trailing ++ ['\n', 'x'])) := by
    conv_lhs => rw [split]
    simp [surrounded]
  -- a space after the token would end it without trimming
  have noSpace : (trailing ++ ['\n', 'x']).head? ≠ some ' ' := by
    intro space
    cases trailing with
    | nil => cases space
    | cons c rest =>
        cases space
        rw [split, ← List.append_assoc] at alone
        cases alone.symm.trans ((containsBearerToken_sep (by decide) _ _).mpr (.inl early))
  refine sensitive_marked (.inr rfl) ?_ ?_ ?_ ?_ other
  · rw [trimChars_marked, shape]
    exact List.mem_cons_self
  · rw [trimChars_marked, shape]
    exact List.mem_cons_of_mem _ List.mem_cons_self
  · rw [trimChars_marked, shape, Bool.eq_false_iff]
    intro found
    have key := looksLikePrivateKey_of_margins (margin_of_mark before) (margin_to_mark after)
      noSpace found
    cases (noKey_of_otherSecret other).symm.trans key
  · rw [trimChars_marked, Bool.eq_false_iff]
    intro found
    have inner : containsBearerToken (text ++ ['\n', 'x']) = true :=
      containsBearerToken_mark_before found
    cases alone.symm.trans (containsBearerToken_mark_after inner)

end Marks

/-! ## Which texts stay held back -/

/-- The reasons that name a secret which a longer text may have in it. -/
def secretReasons : List String :=
  ["private key", "bearer token", "provider token", "secret assignment", "credit-card-like number"]

theorem secret_of_reason {policy : TextPublishPolicy} {text reason : String}
    (member : reason ∈ secretReasons) (held : textPublishSkipReason policy text = some reason) :
    containsBearerToken (Text.trimChars text.toList) = true ∨
      otherSecret (Text.trimChars text.toList) = true := by
  by_contra none
  rw [not_or, Bool.not_eq_true, Bool.not_eq_true] at none
  obtain ⟨bearer, other⟩ := none
  simp only [otherSecret, looksLikePrivateKey, Bool.or_eq_false_iff] at other
  obtain ⟨⟨⟨key, provider⟩, assignment⟩, card⟩ := other
  simp only [textPublishSkipReason, key, bearer, provider, assignment, card, Bool.false_eq_true,
    if_false] at held
  -- what is left are the reasons that name no such secret
  split at held
  · cases held
    exact absurd member (by decide)
  · split at held
    · cases held
    · split at held
      · cases held
        exact absurd member (by decide)
      · split at held
        · cases held
          exact absurd member (by decide)
        · cases held

/-- With the filter on and no bound, a bearer token is what a text is held back for. -/
theorem reason_of_bearer {text : String}
    (noKey : looksLikePrivateKey (Text.trimChars text.toList) = false)
    (bearer : containsBearerToken (Text.trimChars text.toList) = true) :
    textPublishSkipReason ⟨true, 0⟩ text = some "bearer token" := by
  obtain ⟨c, member, blank⟩ := exists_blank_of_bearer bearer
  have noJwt : looksLikeJwt (Text.trimChars text.toList) = false :=
    looksLikeJwt_of_blank ((Text.trimChars_trimChars _).symm ▸ member) blank
  rw [looksLikePrivateKey] at noKey
  simp [textPublishSkipReason, noKey, noJwt, bearer]

/-- What is found in the trimmed text beside bearer tokens is found between any lines. -/
theorem otherSecret_surrounded {before text after : List Char}
    (found : otherSecret (Text.trimChars text) = true) :
    sensitive (Text.trimChars (surrounded before text after)) = true := by
  rw [sensitive, containsProviderToken_surrounded, containsSecretAssignment_surrounded,
    containsCreditCardLikeNumber_surrounded]
  simp only [otherSecret, Bool.or_eq_true] at found ⊢
  rcases found with ((key | provider) | assignment) | card
  · have inside : Text.trimChars text <:+: Text.trimChars (surrounded before text after) := by
      have shape : surrounded before text after =
          (before ++ ['\n']) ++ (text ++ ('\n' :: after)) := by
        simp [surrounded]
      rw [shape]
      exact Text.trimChars_infix_trimChars _ text _
    simp only [looksLikePrivateKey_mono inside key, true_or]
  · simp only [provider, true_or, or_true]
  · simp only [assignment, true_or, or_true]
  · simp only [card, true_or, or_true]

/-- Some lines hide a bearer token that is found in the trimmed text only: a mark before it where
the white space in the way is at the front, and a mark after it too where it is at the end. -/
theorem exists_mark_of_bearer {text : List Char}
    (bearer : containsBearerToken (Text.trimChars text) = true)
    (alone : containsBearerToken text = false) (other : otherSecret (Text.trimChars text) = false) :
    ∃ after, sensitive (Text.trimChars (surrounded ['x'] text after)) = false := by
  obtain ⟨leading, trailing, split, before, after⟩ := Text.trimChars_split text
  cases early : containsBearerToken (leading ++ Text.trimChars text) with
  | false =>
      have filled : Text.trimChars text ≠ [] := by
        intro empty
        rw [empty] at bearer
        exact absurd bearer (by decide)
      exact ⟨[], sensitive_mark_before split filled before after early other⟩
  | true => exact ⟨['x'], sensitive_marks_around split before after early alone other⟩

/-- **Which texts stay held back between any lines**: those whose bearer token is found without
trimming as well, or that have another secret in them. -/
theorem surrounded_iff (text : String) :
    (∀ (policy : TextPublishPolicy) (before after : String), policy.filterSensitiveText = true →
      (∃ reason ∈ secretReasons, textPublishSkipReason policy text = some reason) →
      (textPublishSkipReason policy (before ++ "\n" ++ text ++ "\n" ++ after)).isSome = true) ↔
      (containsBearerToken (Text.trimChars text.toList) = true →
        containsBearerToken text.toList = true ∨
          otherSecret (Text.trimChars text.toList) = true) := by
  have chars (before after : String) :
      (before ++ "\n" ++ text ++ "\n" ++ after).toList =
        surrounded before.toList text.toList after.toList := by
    simp [surrounded]
  constructor
  · intro stays bearer
    by_contra missed
    rw [not_or, Bool.not_eq_true, Bool.not_eq_true] at missed
    obtain ⟨alone, other⟩ := missed
    obtain ⟨after, quiet⟩ := exists_mark_of_bearer bearer alone other
    have held := stays ⟨true, 0⟩ "x" (String.ofList after) rfl
      ⟨_, by decide, reason_of_bearer (noKey_of_otherSecret other) bearer⟩
    rw [skipReason_isSome rfl, chars, String.toList_ofList, String.toList_ofList] at held
    have shown : sensitive (Text.trimChars (surrounded ['x'] text.toList after)) = true := held
    cases quiet.symm.trans shown
  · rintro found policy before after enabled ⟨reason, member, held⟩
    rw [skipReason_isSome enabled, chars, Bool.or_eq_true]
    refine .inr ?_
    have caught : containsBearerToken text.toList = true ∨
        otherSecret (Text.trimChars text.toList) = true := by
      rcases secret_of_reason member held with bearer | other
      · exact found bearer
      · exact .inr other
    rcases caught with bearer | other
    · simp only [sensitive, containsBearerToken_surrounded bearer, Bool.or_true, Bool.true_or]
    · exact otherSecret_surrounded other

namespace HardSpace

/-- A bearer token as some pages show it, with a space that does not break before it. -/
def copied : String := "\u00a0Bearer aaaaaaaaaaaaaaaaaaaa"

/-- Refuting pole: between two lines nothing is found in it. -/
theorem lines_publish : ¬ ∀ (policy : TextPublishPolicy) (text before after : String),
    policy.filterSensitiveText = true →
      (∃ reason ∈ secretReasons, textPublishSkipReason policy text = some reason) →
      (textPublishSkipReason policy (before ++ "\n" ++ text ++ "\n" ++ after)).isSome = true := by
  intro always
  have held := always defaultPolicy copied "x" "x" rfl
    ⟨"bearer token", by decide, by decide +kernel⟩
  exact absurd held (by decide +kernel)

end HardSpace

end AirPaste.Agent
