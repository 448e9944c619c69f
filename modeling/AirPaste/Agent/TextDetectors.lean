/-
# Agent.TextDetectors — what each check of a text looks at

`text_publish_skip_reason` trims a text and asks seven detectors in turn, so a text is held back
when it is too large or any of them finds something (`skipReason_isSome`).  Four of them look at
pieces of the text by themselves: card numbers at the runs of digits, spaces and hyphens,
provider tokens at words, assignments at lines, bearer tokens at two words in a row.  What is
found in pieces is found in the trimmed text as well, and beside anything that a separator
keeps apart.
-/
import AirPaste.Agent.TextFilter
import AirPaste.Theory.Pieces

namespace AirPaste.Agent

open AirPaste.Theory

set_option autoImplicit false

/-! ## The chain of checks -/

def looksLikePrivateKey (text : List Char) : Bool :=
  Text.contains (Text.asciiLower text) "-----begin " &&
    Text.contains (Text.asciiLower text) "private key-----"

def tooLarge (policy : TextPublishPolicy) (text : String) : Bool :=
  0 < policy.maxTextClipBytes && policy.maxTextClipBytes < Text.byteLen text.toList

/-- Some detector finds something. -/
def sensitive (text : List Char) : Bool :=
  looksLikePrivateKey text || looksLikeJwt text || containsBearerToken text ||
    containsProviderToken text || containsSecretAssignment text || looksLikeOneTimeCode text ||
    containsCreditCardLikeNumber text

theorem isSome_ite {α : Type} (condition : Bool) (a : α) (rest : Option α) :
    (if condition = true then some a else rest).isSome = (condition || rest.isSome) := by
  cases condition with
  | true => rfl
  | false => rfl

theorem skipReason_isSome {policy : TextPublishPolicy} (enabled : policy.filterSensitiveText = true)
    (text : String) :
    (textPublishSkipReason policy text).isSome =
      (tooLarge policy text || sensitive (Text.trimChars text.toList)) := by
  simp only [textPublishSkipReason, enabled, Bool.not_true, Bool.false_eq_true, if_false,
    isSome_ite, Option.isSome_none, Bool.or_false, tooLarge, sensitive, looksLikePrivateKey,
    Bool.or_assoc]

/-! ## White space -/

theorem whitespace_of_tokenByte {c : Char} (token : isTokenByte c = true) :
    Text.isWhitespace c = false := by
  rw [isTokenByte, Bool.or_eq_true, List.contains_iff_mem] at token
  rcases token with alnum | mark
  · exact Text.whitespace_of_alphanumeric alnum
  · have marks : ['.', '_', '-', '~', '+', '/', '='].any Text.isWhitespace = false := by decide
    exact Text.none_of_any marks c mark

theorem digit_of_whitespace {c : Char} (blank : Text.isWhitespace c = true) :
    Text.isAsciiDigit c = false := by
  cases digit : Text.isAsciiDigit c with
  | false => rfl
  | true =>
      have filled := Text.whitespace_of_alphanumeric (c := c) (by
        rw [Text.isAsciiAlphanumeric, digit]
        rfl)
      rw [blank] at filled
      cases filled

/-! ## Card numbers: runs -/

/-- What ends a run of the scanner. -/
def endsRun (c : Char) : Bool := !(Text.isAsciiDigit c || c == ' ' || c == '-')

/-- The digits of a run are a card number's. -/
def cardRun (run : List Char) : Bool := creditCardDigitsMatch (run.filter Text.isAsciiDigit)

theorem cardRun_nil : cardRun [] = false := by decide

/-- The scanner goes through the runs, the first after what it has collected. -/
theorem creditCardScan_eq (digits text : List Char) {run : List Char} {runs : List (List Char)}
    (split : Text.splitChars endsRun text = run :: runs) :
    creditCardScan digits text =
      (creditCardDigitsMatch (digits.reverse ++ run.filter Text.isAsciiDigit) ||
        runs.any cardRun) := by
  induction text generalizing digits run runs with
  | nil =>
      cases split
      simp only [creditCardScan, List.filter_nil, List.append_nil, List.any_nil, Bool.or_false]
  | cons c rest ih =>
      obtain ⟨next, others, inner⟩ := List.exists_cons_of_ne_nil
        (Text.splitChars_ne_nil endsRun rest)
      rw [creditCardScan]
      cases digit : Text.isAsciiDigit c with
      | true =>
          have stays : endsRun c = false := by rw [endsRun, digit]; rfl
          rw [Text.splitChars_cons_of_not stays inner] at split
          cases split
          rw [if_pos rfl, ih _ inner, List.reverse_cons, List.filter_cons_of_pos digit,
            List.append_assoc]
          rfl
      | false =>
          rw [if_neg Bool.false_ne_true]
          cases gap : (c == ' ' || c == '-') with
          | true =>
              have stays : endsRun c = false := by rw [endsRun, digit, Bool.false_or, gap]; rfl
              rw [Text.splitChars_cons_of_not stays inner] at split
              cases split
              rw [if_pos rfl, ih _ inner, List.filter_cons_of_neg (by rw [digit]; exact
                Bool.false_ne_true)]
          | false =>
              have ends : endsRun c = true := by rw [endsRun, digit, Bool.false_or, gap]; rfl
              rw [Text.splitChars_cons_of_sep ends, inner] at split
              cases split
              rw [if_neg Bool.false_ne_true, ih _ inner, List.any_cons, List.filter_nil,
                List.append_nil]
              cases creditCardDigitsMatch digits.reverse with
              | true => rfl
              | false => rfl

/-- A space ends no run and is no digit. -/
theorem cardRun_concat {c : Char} (digit : Text.isAsciiDigit c = false) (run : List Char) :
    cardRun (run ++ [c]) = cardRun run := by
  rw [cardRun, List.filter_append, List.filter_cons_of_neg (by rw [digit]; exact
    Bool.false_ne_true), List.filter_nil, List.append_nil]
  rfl

theorem cardRun_cons {c : Char} (digit : Text.isAsciiDigit c = false) (run : List Char) :
    cardRun (c :: run) = cardRun run := by
  rw [cardRun, List.filter_cons_of_neg (by rw [digit]; exact Bool.false_ne_true)]
  rfl

/-- Card numbers are looked for in each run by itself. -/
theorem containsCreditCardLikeNumber_eq (text : List Char) :
    containsCreditCardLikeNumber text = (Text.splitChars endsRun text).any cardRun := by
  have space : [' '].any endsRun = false := by decide
  obtain ⟨runs, run, split, joined, -⟩ :=
    Text.splitChars_append_part (Text.none_of_any space) text
  obtain ⟨first, others, shape⟩ := List.exists_cons_of_ne_nil
    (Text.splitChars_ne_nil endsRun (text ++ [' ']))
  have scanned : containsCreditCardLikeNumber text =
      (Text.splitChars endsRun (text ++ [' '])).any cardRun := by
    rw [containsCreditCardLikeNumber, creditCardScan_eq [] _ shape, shape, List.any_cons]
    rfl
  rw [scanned, joined, split, List.any_append, List.any_append, List.any_cons, List.any_cons,
    cardRun_concat (by decide)]

theorem containsCreditCardLikeNumber_trimChars (text : List Char) :
    containsCreditCardLikeNumber (Text.trimChars text) = containsCreditCardLikeNumber text := by
  rw [containsCreditCardLikeNumber_eq, containsCreditCardLikeNumber_eq]
  exact Text.anyPiece_trimChars cardRun_nil
    (fun c run blank _ => cardRun_cons (digit_of_whitespace blank) run)
    (fun c run blank _ => cardRun_concat (digit_of_whitespace blank) run) text

/-! ## Provider tokens: words -/

/-- The word is a provider's token, but for quotes and punctuation around it. -/
def providerWord (word : List Char) : Bool :=
  let token := Text.trimMatches (['"', '\'', '`', ',', ';'].contains ·) word
  let lower := String.ofList (Text.asciiLower token)
  Text.startsWith lower "github_pat_" || Text.startsWith lower "ghp_" ||
    (Text.startsWith lower "sk-" && 32 ≤ Text.byteLen token)

theorem containsProviderToken_eq (text : List Char) :
    containsProviderToken text = (Text.splitChars Text.isWhitespace text).any fun word =>
      !word.isEmpty && providerWord word := Text.any_words text

theorem containsProviderToken_trimChars (text : List Char) :
    containsProviderToken (Text.trimChars text) = containsProviderToken text := by
  rw [containsProviderToken_eq, containsProviderToken_eq]
  refine Text.anyPiece_trimChars rfl (fun c word blank inside => ?_) (fun c word blank inside => ?_)
    text
  · cases blank.symm.trans inside
  · cases blank.symm.trans inside

/-! ## Secret assignments: lines -/

/-- The trimmed line assigns something to a name of a secret. -/
def secretLine (line : List Char) : Bool :=
  if line.isEmpty || line.head? == some '#' || "//".toList.isPrefixOf line then false
  else
    match line.span (fun c => c != '=' && c != ':') with
    | (_, []) => false
    | (key, _ :: value) =>
        let key := Text.asciiLower
          (Text.trimMatches (['"', '\'', '`'].contains ·) (Text.trimChars key))
        let value := Text.trimMatches (['"', '\'', '`', ',', ';'].contains ·)
          (Text.trimChars value)
        8 ≤ Text.byteLen value && secretKeys.any (Text.contains key)

/-- What a line ends with is trimmed anyway, and an empty line assigns nothing. -/
theorem containsSecretAssignment_eq (text : List Char) :
    containsSecretAssignment text = (Text.splitChars (· == '\n') text).any fun line =>
      secretLine (Text.trimChars line) := by
  have stripped (line : List Char) :
      Text.trimChars (if line.getLast? = some '\r' then line.dropLast else line) =
        Text.trimChars line := by
    split
    · rename_i ends
      obtain ⟨before, rfl⟩ := List.getLast?_eq_some_iff.mp ends
      rw [List.dropLast_concat, Text.trimChars_concat_of_blank (by decide)]
    · rfl
  have whole : containsSecretAssignment text =
      (Text.lines text).any fun line => secretLine (Text.trimChars line) := rfl
  rw [whole, Text.lines]
  generalize Text.splitChars (· == '\n') text = pieces
  rcases List.eq_nil_or_concat' pieces with rfl | ⟨before, last, rfl⟩
  · rfl
  · rw [List.dropLast_concat, List.getLast?_concat, List.any_append, List.any_append, List.any_map]
    simp only [Function.comp_def, stripped]
    refine congrArg _ ?_
    cases last with
    | nil => rfl
    | cons c rest =>
        rw [Option.filter_some, if_pos (decide_eq_true (List.cons_ne_nil c rest)),
          Option.toList_some, List.any_cons]

theorem containsSecretAssignment_trimChars (text : List Char) :
    containsSecretAssignment (Text.trimChars text) = containsSecretAssignment text := by
  rw [containsSecretAssignment_eq, containsSecretAssignment_eq]
  refine Text.anyPiece_trimChars rfl (fun c line blank _ => ?_) (fun c line blank _ => ?_) text
  · rw [Text.trimChars_cons_of_blank blank]
  · rw [Text.trimChars_concat_of_blank blank]

/-! ## Bearer tokens: two words in a row -/

/-- The scheme and its token. -/
def bearerPair (scheme token : List Char) : Bool :=
  Text.asciiLower scheme == "bearer".toList && isBearerToken token

/-- No word has the space that the first branch asks for. -/
theorem stripPrefix_bearer {text word : List Char}
    (member : word ∈ Text.words Text.isWhitespace text) :
    Text.stripPrefix (String.ofList word) "Bearer " = none := by
  rw [Text.stripPrefix, if_neg]
  intro starts
  rw [Text.startsWith, List.isPrefixOf_iff_prefix] at starts
  obtain ⟨rest, shape⟩ := starts
  have space : ' ' ∈ word := by
    rw [← String.toList_ofList (l := word), ← shape]
    exact List.mem_append_left _ (by decide)
  cases Text.sep_of_mem_words member ' ' space

/-- A bearer token is found exactly where two words in a row are its scheme and its token. -/
theorem containsBearerToken_iff {text : List Char} :
    containsBearerToken text = true ↔ ∃ scheme token,
      [scheme, token] <:+: Text.words Text.isAsciiWhitespace text ∧
        bearerPair scheme token = true := by
  rw [containsBearerToken, Bool.or_eq_true, or_iff_right]
  · exact Text.any_zip_tail_iff
  · intro found
    obtain ⟨word, member, accepted⟩ := List.any_eq_true.mp found
    rw [stripPrefix_bearer member] at accepted
    cases accepted

end AirPaste.Agent
