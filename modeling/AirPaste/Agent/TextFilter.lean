/-
# Agent.TextFilter — texts that are not published by themselves

`text_publish_skip_reason` names why a text that appears on the clipboard is not to be
published: it is too large, or it looks like a secret.  The checks work on the bytes of a
text; a byte of a character outside ASCII satisfies none of them, so the model works on the
characters.
-/
import AirPaste.Theory.Text

namespace AirPaste.Agent

open AirPaste.Theory

set_option autoImplicit false

structure TextPublishPolicy where
  filterSensitiveText : Bool
  maxTextClipBytes : Nat

/-- The policy of an agent that is told nothing else. -/
def defaultPolicy : TextPublishPolicy := ⟨true, 128 * 1024⟩

def isBase64urlByte (c : Char) : Bool :=
  Text.isAsciiAlphanumeric c || c == '-' || c == '_'

def isTokenByte (c : Char) : Bool :=
  Text.isAsciiAlphanumeric c || ['.', '_', '-', '~', '+', '/', '='].contains c

def looksLikeJwt (text : List Char) : Bool :=
  match Text.splitChars (· == '.') (Text.trimChars text) with
  | [header, payload, signature] =>
      8 ≤ Text.byteLen header && 8 ≤ Text.byteLen payload && 16 ≤ Text.byteLen signature &&
        [header, payload, signature].all fun part => part.all isBase64urlByte
  | _ => false

def isBearerToken (token : List Char) : Bool :=
  20 ≤ Text.byteLen token && token.all isTokenByte

def containsBearerToken (text : List Char) : Bool :=
  ((Text.words Text.isWhitespace text).any fun word =>
    match Text.stripPrefix (String.ofList word) "Bearer " with
    | some token => isBearerToken token.toList
    | none => false) ||
  let words := Text.words Text.isAsciiWhitespace text
  (words.zip words.tail).any fun (scheme, token) =>
    Text.asciiLower scheme == "bearer".toList && isBearerToken token

def containsProviderToken (text : List Char) : Bool :=
  (Text.words Text.isWhitespace text).any fun word =>
    let token := Text.trimMatches (['"', '\'', '`', ',', ';'].contains ·) word
    let lower := String.ofList (Text.asciiLower token)
    Text.startsWith lower "github_pat_" || Text.startsWith lower "ghp_" ||
      (Text.startsWith lower "sk-" && 32 ≤ Text.byteLen token)

def secretKeys : List String :=
  ["api_key", "apikey", "access_key", "access_token", "auth_token", "client_secret", "password",
    "passwd", "private_key", "secret", "token"]

def containsSecretAssignment (text : List Char) : Bool :=
  (Text.lines text).any fun line =>
    let line := Text.trimChars line
    if line.isEmpty || line.head? == some '#' || "//".toList.isPrefixOf line then false
    else
      match line.span (fun c => c != '=' && c != ':') with
      | (_, []) => false
      | (key, _ :: value) =>
          let key := Text.asciiLower
            (Text.trimMatches (['"', '\'', '`'].contains ·) (Text.trimChars key))
          let value := Text.trimMatches (['"', '\'', '`', ',', ';'].contains ·)
            (Text.trimChars value)
          8 ≤ Text.byteLen value && secretKeys.any (Text.contains key)

def looksLikeOneTimeCode (text : List Char) : Bool :=
  let code := Text.trimChars text
  4 ≤ Text.byteLen code && Text.byteLen code ≤ 8 && code.all Text.isAsciiDigit

/-- The Luhn sum of digits from the last one, every second of them doubled. -/
def luhnSum : Bool → List Char → Nat
  | _, [] => 0
  | double, c :: rest =>
      let digit := c.toNat - '0'.toNat
      let digit := if double then (if 2 * digit > 9 then 2 * digit - 9 else 2 * digit) else digit
      digit + luhnSum (!double) rest

def luhnValid (digits : List Char) : Bool := luhnSum false digits.reverse % 10 == 0

def creditCardDigitsMatch (digits : List Char) : Bool :=
  13 ≤ digits.length && digits.length ≤ 19 && luhnValid digits

/-- The loop over the characters: `digits` are those collected, newest first. -/
def creditCardScan : List Char → List Char → Bool
  | digits, [] => creditCardDigitsMatch digits.reverse
  | digits, c :: rest =>
      if Text.isAsciiDigit c then creditCardScan (c :: digits) rest
      else if c == ' ' || c == '-' then creditCardScan digits rest
      else if creditCardDigitsMatch digits.reverse then true
      else creditCardScan [] rest

def containsCreditCardLikeNumber (text : List Char) : Bool := creditCardScan [] (text ++ [' '])

def textPublishSkipReason (policy : TextPublishPolicy) (text : String) : Option String :=
  if 0 < policy.maxTextClipBytes && policy.maxTextClipBytes < Text.byteLen text.toList then
    some "text too large"
  else if !policy.filterSensitiveText then none
  else
    let trimmed := Text.trimChars text.toList
    let lower := Text.asciiLower trimmed
    if Text.contains lower "-----begin " && Text.contains lower "private key-----" then
      some "private key"
    else if looksLikeJwt trimmed then some "jwt"
    else if containsBearerToken trimmed then some "bearer token"
    else if containsProviderToken trimmed then some "provider token"
    else if containsSecretAssignment trimmed then some "secret assignment"
    else if looksLikeOneTimeCode trimmed then some "one-time code"
    else if containsCreditCardLikeNumber trimmed then some "credit-card-like number"
    else none

end AirPaste.Agent
