/-
# Agent.SecretsInContext — secrets with something around them

A card number is judged with the digits that stand next to it but for spaces and hyphens, and a
bearer token with the characters up to the next white space.  `card_caught_iff` and
`bearer_caught_iff` say in which surroundings a number or a token makes its text be held back:
where it is judged by itself, or where something else in the text is found.
-/
import AirPaste.Agent.TextDetectors
import Mathlib.Algebra.BigOperators.Group.List.Basic

namespace AirPaste.Agent

open AirPaste.Theory

set_option autoImplicit false

/-! ## Card numbers -/

/-- A card number in a text: groups of digits with single spaces or hyphens between them, thirteen
to nineteen of them in all, with a valid check digit, between characters that are no digits. -/
structure CardInText (pre c post : List Char) : Prop where
  groups : ∀ group ∈ Text.splitChars (fun ch => ch == ' ' || ch == '-') c,
    group ≠ [] ∧ ∀ ch ∈ group, Text.isAsciiDigit ch = true
  thirteen : 13 ≤ (c.filter Text.isAsciiDigit).length
  nineteen : (c.filter Text.isAsciiDigit).length ≤ 19
  valid : luhnValid (c.filter Text.isAsciiDigit) = true
  before : ∀ ch ∈ pre.getLast?, Text.isAsciiDigit ch = false
  after : ∀ ch ∈ post.head?, Text.isAsciiDigit ch = false

instance (pre c post : List Char) : Decidable (CardInText pre c post) :=
  decidable_of_iff
    (((Text.splitChars (fun ch => ch == ' ' || ch == '-') c).all fun group =>
        !group.isEmpty && group.all Text.isAsciiDigit) = true ∧
      13 ≤ (c.filter Text.isAsciiDigit).length ∧ (c.filter Text.isAsciiDigit).length ≤ 19 ∧
      luhnValid (c.filter Text.isAsciiDigit) = true ∧
      (pre.getLast?.all fun ch => !Text.isAsciiDigit ch) = true ∧
      (post.head?.all fun ch => !Text.isAsciiDigit ch) = true) <| by
    simp only [List.all_eq_true, Option.all_eq_true, Bool.and_eq_true, Bool.not_eq_true',
      List.isEmpty_eq_false_iff]
    exact ⟨fun ⟨a, b, c, d, e, f⟩ => ⟨a, b, c, d, e, f⟩,
      fun ⟨a, b, c, d, e, f⟩ => ⟨a, b, c, d, e, f⟩⟩

/-- What stands before the run that a text ends in. -/
def beforeRun (pre : List Char) : List Char := Text.dropEnd (fun c => !endsRun c) pre

/-- The run that a text ends in. -/
def trailingRun (pre : List Char) : List Char :=
  (pre.reverse.takeWhile fun c => !endsRun c).reverse

/-- The run that a text begins with. -/
def leadingRun (post : List Char) : List Char := post.takeWhile fun c => !endsRun c

/-- What stands after the run that a text begins with. -/
def afterRun (post : List Char) : List Char := post.dropWhile fun c => !endsRun c

/-- A check beside the one for card numbers holds the text back. -/
def heldBeforeCards (policy : TextPublishPolicy) (text : String) : Bool :=
  let trimmed := Text.trimChars text.toList
  tooLarge policy text || looksLikePrivateKey trimmed || looksLikeJwt trimmed ||
    containsBearerToken trimmed || containsProviderToken trimmed ||
    containsSecretAssignment trimmed || looksLikeOneTimeCode trimmed

theorem skipReason_iff_card {policy : TextPublishPolicy}
    (enabled : policy.filterSensitiveText = true) (text : String) :
    (textPublishSkipReason policy text).isSome = true ↔
      containsCreditCardLikeNumber text.toList = true ∨ heldBeforeCards policy text = true := by
  rw [skipReason_isSome enabled, sensitive, containsCreditCardLikeNumber_trimChars,
    heldBeforeCards, or_comm, ← Bool.or_eq_true]
  simp only [Bool.or_assoc]

/-- A card number lies in one run. -/
theorem CardInText.not_endsRun {pre c post : List Char} (card : CardInText pre c post) :
    ∀ ch ∈ c, endsRun ch = false := by
  intro ch member
  rw [endsRun, Bool.not_eq_false', Bool.or_assoc, Bool.or_eq_true]
  rcases Text.mem_piece_of_mem (fun ch => ch == ' ' || ch == '-') member with
    gap | ⟨group, among, inside⟩
  · exact .inr gap
  · exact .inl ((card.groups group among).2 ch inside)

theorem beforeRun_trailingRun (pre : List Char) : beforeRun pre ++ trailingRun pre = pre := by
  rw [beforeRun, trailingRun, Text.dropEnd, ← List.reverse_append,
    List.takeWhile_append_dropWhile, List.reverse_reverse]

/-- A card number is judged within the run it lies in, the other runs by themselves. -/
theorem containsCreditCardLikeNumber_around {pre c post : List Char}
    (inside : ∀ ch ∈ c, endsRun ch = false) :
    containsCreditCardLikeNumber (pre ++ (c ++ post)) =
      (containsCreditCardLikeNumber (beforeRun pre) ||
        cardRun (trailingRun pre ++ (c ++ leadingRun post)) ||
        containsCreditCardLikeNumber (afterRun post)) := by
  have split : pre ++ (c ++ post) =
      beforeRun pre ++ ((trailingRun pre ++ (c ++ leadingRun post)) ++ afterRun post) := by
    rw [List.append_assoc, List.append_assoc, leadingRun, afterRun,
      List.takeWhile_append_dropWhile, ← List.append_assoc (beforeRun pre), beforeRun_trailingRun]
  have none : ∀ ch ∈ trailingRun pre ++ (c ++ leadingRun post), endsRun ch = false := by
    intro ch member
    rcases List.mem_append.mp member with trailing | member
    · simpa using List.mem_takeWhile_imp (List.mem_reverse.mp trailing)
    · rcases List.mem_append.mp member with here | leading
      · exact inside ch here
      · simpa using List.mem_takeWhile_imp leading
  have ends : Text.EndsIn endsRun (beforeRun pre) := by
    intro ch last
    simpa using Text.endsIn_dropEnd _ pre ch last
  have begins : Text.BeginsIn endsRun (afterRun post) := by
    intro ch first
    simpa using Text.beginsIn_dropWhile _ post ch first
  rw [containsCreditCardLikeNumber_eq, containsCreditCardLikeNumber_eq,
    containsCreditCardLikeNumber_eq, split]
  exact Text.anyPiece_around cardRun_nil ends none begins

/-- A number with no other digits in its run is caught. -/
theorem card_caught_alone {policy : TextPublishPolicy} (enabled : policy.filterSensitiveText = true)
    {pre c post : List Char} (card : CardInText pre c post)
    (alone : ∀ ch ∈ trailingRun pre ++ leadingRun post, Text.isAsciiDigit ch = false) :
    (textPublishSkipReason policy (String.ofList (pre ++ (c ++ post)))).isSome = true := by
  have before : (trailingRun pre).filter Text.isAsciiDigit = [] :=
    List.filter_eq_nil_iff.mpr fun ch member => by
      rw [alone ch (List.mem_append_left _ member)]
      exact Bool.false_ne_true
  have after : (leadingRun post).filter Text.isAsciiDigit = [] :=
    List.filter_eq_nil_iff.mpr fun ch member => by
      rw [alone ch (List.mem_append_right _ member)]
      exact Bool.false_ne_true
  have here : cardRun (trailingRun pre ++ (c ++ leadingRun post)) = true := by
    rw [cardRun, List.filter_append, List.filter_append, before, after, List.nil_append,
      List.append_nil, creditCardDigitsMatch, card.valid, decide_eq_true card.thirteen,
      decide_eq_true card.nineteen]
    rfl
  refine (skipReason_iff_card enabled _).mpr (.inl ?_)
  rw [String.toList_ofList, containsCreditCardLikeNumber_around card.not_endsRun, here,
    Bool.or_true, Bool.true_or]

/-- **When a card number is caught**: the digits of the run it lies in are a card number's, or
the text has another one, or it is held back on another ground. -/
theorem card_caught_iff {policy : TextPublishPolicy} (enabled : policy.filterSensitiveText = true)
    {pre c post : List Char} (card : CardInText pre c post) :
    (textPublishSkipReason policy (String.ofList (pre ++ (c ++ post)))).isSome = true ↔
      cardRun (trailingRun pre ++ (c ++ leadingRun post)) = true ∨
        containsCreditCardLikeNumber (beforeRun pre) = true ∨
        containsCreditCardLikeNumber (afterRun post) = true ∨
        heldBeforeCards policy (String.ofList (pre ++ (c ++ post))) = true := by
  rw [skipReason_iff_card enabled, String.toList_ofList,
    containsCreditCardLikeNumber_around card.not_endsRun, Bool.or_eq_true, Bool.or_eq_true]
  constructor
  · rintro (((earlier | here) | later) | other)
    · exact .inr (.inl earlier)
    · exact .inl here
    · exact .inr (.inr (.inl later))
    · exact .inr (.inr (.inr other))
  · rintro (here | earlier | later | other)
    · exact .inl (.inl (.inr here))
    · exact .inl (.inl (.inl earlier))
    · exact .inl (.inr later)
    · exact .inr other

namespace OrderNumber

def card : List Char := "4111 1111 1111 1111".toList

theorem card_in_sentence : CardInText "pay with ".toList card " today".toList := by decide

/-- Between words the number is caught. -/
theorem sentence_caught : (textPublishSkipReason defaultPolicy
    (String.ofList ("pay with ".toList ++ (card ++ " today".toList)))).isSome = true :=
  (card_caught_iff rfl card_in_sentence).mpr (.inl (by decide))

/-- Refuting pole: after an order number it is one run with it, too long for a card. -/
theorem order_missed : ¬ ∀ (policy : TextPublishPolicy) (pre c post : List Char),
    policy.filterSensitiveText = true → CardInText pre c post →
      (textPublishSkipReason policy (String.ofList (pre ++ (c ++ post)))).isSome = true := by
  intro always
  have caught := always defaultPolicy "order 12345 ".toList card [] rfl (by decide)
  exact absurd caught (by decide +kernel)

end OrderNumber

/-! ## Bearer tokens -/

/-- A bearer token in a text: the scheme in any case, white space and twenty characters or more of
a token, after no letter or digit and before no character of a token. -/
structure BearerInText (pre scheme gap token post : List Char) : Prop where
  lower : Text.asciiLower scheme = "bearer".toList
  nonempty : gap ≠ []
  blank : ∀ c ∈ gap, Text.isAsciiWhitespace c = true
  twenty : 20 ≤ token.length
  bytes : ∀ c ∈ token, isTokenByte c = true
  before : ∀ c ∈ pre.getLast?, Text.isAsciiAlphanumeric c = false
  after : ∀ c ∈ post.head?, isTokenByte c = false

instance (pre scheme gap token post : List Char) :
    Decidable (BearerInText pre scheme gap token post) :=
  decidable_of_iff
    (Text.asciiLower scheme = "bearer".toList ∧ gap ≠ [] ∧
      gap.all Text.isAsciiWhitespace = true ∧ 20 ≤ token.length ∧ token.all isTokenByte = true ∧
      (pre.getLast?.all fun c => !Text.isAsciiAlphanumeric c) = true ∧
      (post.head?.all fun c => !isTokenByte c) = true) <| by
    simp only [List.all_eq_true, Option.all_eq_true, Bool.not_eq_true']
    exact ⟨fun ⟨a, b, c, d, e, f, g⟩ => ⟨a, b, c, d, e, f, g⟩,
      fun ⟨a, b, c, d, e, f, g⟩ => ⟨a, b, c, d, e, f, g⟩⟩

/-- A check beside the one for bearer tokens holds the text back. -/
def heldBesideBearers (policy : TextPublishPolicy) (text : String) : Bool :=
  let trimmed := Text.trimChars text.toList
  tooLarge policy text || looksLikePrivateKey trimmed || looksLikeJwt trimmed ||
    containsProviderToken trimmed || containsSecretAssignment trimmed ||
    looksLikeOneTimeCode trimmed || containsCreditCardLikeNumber trimmed

theorem skipReason_iff_bearer {policy : TextPublishPolicy}
    (enabled : policy.filterSensitiveText = true) (text : String) :
    (textPublishSkipReason policy text).isSome = true ↔
      containsBearerToken (Text.trimChars text.toList) = true ∨
        heldBesideBearers policy text = true := by
  have same : (tooLarge policy text || sensitive (Text.trimChars text.toList)) =
      (containsBearerToken (Text.trimChars text.toList) || heldBesideBearers policy text) := by
    simp only [sensitive, heldBesideBearers]
    ac_rfl
  rw [skipReason_isSome enabled, same, Bool.or_eq_true]

theorem length_le_byteLen (chars : List Char) : chars.length ≤ Text.byteLen chars := by
  have positive : ∀ n ∈ chars.map Char.utf8Size, 1 ≤ n := by
    intro n member
    obtain ⟨c, -, rfl⟩ := List.mem_map.mp member
    exact Char.utf8Size_pos c
  have bound := List.length_le_sum_of_one_le _ positive
  rw [List.length_map] at bound
  exact bound

section Bearer

variable {pre scheme gap token post : List Char}

theorem BearerInText.isBearerToken (bearer : BearerInText pre scheme gap token post) :
    isBearerToken token = true := by
  rw [Agent.isBearerToken, decide_eq_true (bearer.twenty.trans (length_le_byteLen token)),
    List.all_eq_true.mpr bearer.bytes]
  rfl

/-- The scheme has no white space. -/
theorem whitespace_of_scheme (lower : Text.asciiLower scheme = "bearer".toList) :
    ∀ c ∈ scheme, Text.isWhitespace c = false := by
  intro c member
  cases blank : Text.isWhitespace c with
  | false => rfl
  | true =>
      have letter := Text.mem_asciiLower_of_blank blank member
      rw [lower] at letter
      have letters : "bearer".toList.any Text.isWhitespace = false := by decide
      cases blank.symm.trans (Text.none_of_any letters c letter)

theorem ascii_of_not_whitespace {c : Char} (filled : Text.isWhitespace c = false) :
    Text.isAsciiWhitespace c = false := by
  cases blank : Text.isAsciiWhitespace c with
  | false => rfl
  | true => cases filled.symm.trans (Text.whitespace_of_ascii blank)

theorem BearerInText.scheme_ne_nil (bearer : BearerInText pre scheme gap token post) :
    scheme ≠ [] := by
  rintro rfl
  exact absurd bearer.lower (by decide)

theorem BearerInText.token_ne_nil (bearer : BearerInText pre scheme gap token post) :
    token ≠ [] := by
  rintro rfl
  exact absurd bearer.twenty (by decide)

/-- With more before it a word is not the scheme. -/
theorem bearerPair_longer_scheme (lower : Text.asciiLower scheme = "bearer".toList)
    {more : List Char} {other : List Char} (pair : bearerPair (more ++ scheme) other = true) :
    more = [] := by
  rw [bearerPair, Bool.and_eq_true, beq_iff_eq] at pair
  have length := congrArg List.length (pair.1.trans lower.symm)
  rw [Text.asciiLower, Text.asciiLower, List.length_map, List.length_map,
    List.length_append] at length
  exact List.eq_nil_of_length_eq_zero (by omega)

/-- A word that begins with the token and goes on with something else is no token. -/
theorem bearerPair_longer_token {more other : List Char}
    (stops : ∀ c ∈ more.head?, isTokenByte c = false)
    (pair : bearerPair other (token ++ more) = true) : more = [] := by
  cases more with
  | nil => rfl
  | cons c rest =>
      rw [bearerPair, Bool.and_eq_true, isBearerToken, Bool.and_eq_true] at pair
      have bytes := List.all_eq_true.mp pair.2.2 c
        (List.mem_append_right _ List.mem_cons_self)
      rw [stops c rfl] at bytes
      cases bytes

/-- The scheme and the token are found between what is before and after them where white space
stands around both; else only what is before the token or after the scheme is found. -/
theorem containsBearerToken_around (bearer : BearerInText pre scheme gap token post)
    {x y : List Char} (stops : ∀ c ∈ y.head?, isTokenByte c = false) :
    containsBearerToken (x ++ (scheme ++ (gap ++ (token ++ y)))) = true ↔
      (Text.EndsIn Text.isAsciiWhitespace x ∧ Text.BeginsIn Text.isAsciiWhitespace y) ∨
        containsBearerToken (x ++ scheme) = true ∨ containsBearerToken (token ++ y) = true := by
  have schemePlain : ∀ c ∈ scheme, Text.isAsciiWhitespace c = false :=
    fun c member => ascii_of_not_whitespace (whitespace_of_scheme bearer.lower c member)
  have tokenPlain : ∀ c ∈ token, Text.isAsciiWhitespace c = false :=
    fun c member => ascii_of_not_whitespace (whitespace_of_tokenByte (bearer.bytes c member))
  obtain ⟨init, left, before, -, leftEmpty⟩ :=
    Text.words_append_part bearer.scheme_ne_nil schemePlain x
  obtain ⟨right, rest, after, -, rightPart, rightEmpty⟩ :=
    Text.words_part_append bearer.token_ne_nil tokenPlain y
  simp only [containsBearerToken_iff]
  rw [← List.append_assoc x scheme, Text.words_gap bearer.nonempty bearer.blank, ← leftEmpty,
    ← rightEmpty]
  constructor
  · rintro ⟨other, following, neighbours, pair⟩
    rcases Text.pair_infix_append_iff.mp neighbours with early | late | ⟨last, first⟩
    · exact .inr (.inl ⟨other, following, early, pair⟩)
    · exact .inr (.inr ⟨other, following, late, pair⟩)
    · -- they meet at the gap
      rw [before, List.getLast?_concat] at last
      rw [after, List.head?_cons] at first
      cases last
      cases first
      refine .inl ⟨bearerPair_longer_scheme bearer.lower pair,
        bearerPair_longer_token (fun c head => stops c ?_) pair⟩
      obtain ⟨more, rfl⟩ := rightPart
      cases right with
      | nil => cases head
      | cons d others => exact head
  · rintro (⟨rfl, rfl⟩ | ⟨other, following, early, pair⟩ | ⟨other, following, late, pair⟩)
    · refine ⟨scheme, token, Text.pair_infix_append_iff.mpr (.inr (.inr ⟨?_, ?_⟩)), ?_⟩
      · rw [before, List.getLast?_concat, List.nil_append]
      · rw [after, List.head?_cons, List.append_nil]
      · rw [bearerPair, bearer.lower, bearer.isBearerToken]
        rfl
    · exact ⟨other, following, Text.pair_infix_append_iff.mpr (.inl early), pair⟩
    · exact ⟨other, following, Text.pair_infix_append_iff.mpr (.inr (.inl late)), pair⟩

/-- Trimming leaves the scheme and the token, and trims what is around them. -/
theorem BearerInText.trimChars (bearer : BearerInText pre scheme gap token post) :
    Text.trimChars (pre ++ (scheme ++ (gap ++ (token ++ post)))) =
      pre.dropWhile Text.isWhitespace ++
        (scheme ++ (gap ++ (token ++ Text.dropEnd Text.isWhitespace post))) := by
  have filled : scheme ++ (gap ++ token) ≠ [] :=
    List.append_ne_nil_of_left_ne_nil bearer.scheme_ne_nil _
  have first : Text.BeginsIn (fun c => !Text.isWhitespace c) (scheme ++ (gap ++ token)) := by
    intro c head
    rw [List.head?_append_of_ne_nil _ bearer.scheme_ne_nil] at head
    show (!Text.isWhitespace c) = true
    rw [whitespace_of_scheme bearer.lower c (List.mem_of_mem_head? head)]
    rfl
  have last : Text.EndsIn (fun c => !Text.isWhitespace c) (scheme ++ (gap ++ token)) := by
    intro c ending
    rw [← List.append_assoc, List.getLast?_append_of_ne_nil _ bearer.token_ne_nil] at ending
    show (!Text.isWhitespace c) = true
    rw [whitespace_of_tokenByte (bearer.bytes c (List.mem_of_mem_getLast? ending))]
    rfl
  have around := Text.trimChars_around filled first last pre post
  simp only [List.append_assoc] at around
  exact around

/-- **When a bearer token is caught**: white space stands around the scheme and the token, or an
end of the text but for white space does, or another token is found, or the text is held back
on another ground. -/
theorem bearer_caught_iff {policy : TextPublishPolicy} (enabled : policy.filterSensitiveText = true)
    (bearer : BearerInText pre scheme gap token post) :
    (textPublishSkipReason policy
        (String.ofList (pre ++ (scheme ++ (gap ++ (token ++ post)))))).isSome = true ↔
      (Text.EndsIn Text.isAsciiWhitespace (pre.dropWhile Text.isWhitespace) ∧
        Text.BeginsIn Text.isAsciiWhitespace (Text.dropEnd Text.isWhitespace post)) ∨
      containsBearerToken (pre.dropWhile Text.isWhitespace ++ scheme) = true ∨
      containsBearerToken (token ++ Text.dropEnd Text.isWhitespace post) = true ∨
      heldBesideBearers policy
        (String.ofList (pre ++ (scheme ++ (gap ++ (token ++ post))))) = true := by
  have stops : ∀ c ∈ (Text.dropEnd Text.isWhitespace post).head?, isTokenByte c = false := by
    intro c head
    obtain ⟨dropped, split, -⟩ := Text.dropEnd_split Text.isWhitespace post
    refine bearer.after c ?_
    rw [split]
    cases shape : Text.dropEnd Text.isWhitespace post with
    | nil =>
        rw [shape] at head
        cases head
    | cons d rest =>
        rw [shape] at head
        exact head
  rw [skipReason_iff_bearer enabled, String.toList_ofList, bearer.trimChars,
    containsBearerToken_around bearer stops, or_assoc, or_assoc]

end Bearer

namespace QuotedHeader

def token : List Char := List.replicate 20 'a'

theorem token_in_header :
    BearerInText "Authorization: ".toList "Bearer".toList [' '] token ['\n'] := by decide

/-- On a line of its own the header is caught. -/
theorem header_caught : (textPublishSkipReason defaultPolicy (String.ofList
    ("Authorization: ".toList ++ ("Bearer".toList ++ ([' '] ++ (token ++ ['\n'])))))).isSome =
      true :=
  (bearer_caught_iff rfl token_in_header).mpr (.inl ⟨by decide, by decide⟩)

/-- Refuting pole: in a shell command the quote after the token hides it. -/
theorem command_missed : ¬ ∀ (policy : TextPublishPolicy) (pre scheme gap token post : List Char),
    policy.filterSensitiveText = true → BearerInText pre scheme gap token post →
      (textPublishSkipReason policy
        (String.ofList (pre ++ (scheme ++ (gap ++ (token ++ post)))))).isSome = true := by
  intro always
  have caught := always defaultPolicy "curl -H 'Authorization: ".toList "Bearer".toList [' ']
    token ['\''] rfl (by decide)
  exact absurd caught (by decide +kernel)

end QuotedHeader

end AirPaste.Agent
