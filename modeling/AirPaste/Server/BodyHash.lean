/-
# Server.BodyHash — the hash of a body as a text

`base64url_no_pad` is written out by hand, with shifts and masks on 32 bits
(`base64urlNoPadShifted_eq`).  It is the unpadded encoding over the URL-safe alphabet
(`base64urlNoPad_eq_encode`), so that a decoder gives the bytes back.

`verify_signed_request` compares the text a request carries with the text of the body's hash.
`signedDeviceBy` has that comparison as a parameter; `base64urlNoPad_faithful` puts the
comparison of the digests there.
-/
import AirPaste.Server.Routes
import AirPaste.Theory.Base64

namespace AirPaste.Server

open AirPaste.Core
open AirPaste.Protocol
open AirPaste.Theory

set_option autoImplicit false

/-! ## Shifts and masks -/

/-- A unit of six bits, as the source masks it. -/
def maskedChar (value : UInt32) : Char := base64urlAlphabet.getD (value &&& 0x3f).toNat 'A'

/-- `base64url_no_pad` in the operations of the source. -/
def base64urlNoPadShifted : List UInt8 → List Char
  | a :: b :: c :: rest =>
      let value := a.toUInt32 <<< 16 ||| b.toUInt32 <<< 8 ||| c.toUInt32
      maskedChar (value >>> 18) :: maskedChar (value >>> 12) :: maskedChar (value >>> 6) ::
        maskedChar value :: base64urlNoPadShifted rest
  | [a, b] =>
      let value := a.toUInt32 <<< 16 ||| b.toUInt32 <<< 8
      [maskedChar (value >>> 18), maskedChar (value >>> 12), maskedChar (value >>> 6)]
  | [a] =>
      let value := a.toUInt32 <<< 16
      [maskedChar (value >>> 18), maskedChar (value >>> 12)]
  | [] => []

/-- The value of a chunk of three bytes, as its bits are put together. -/
theorem chunk_value (a b c : UInt8) :
    a.toNat <<< 16 ||| b.toNat <<< 8 ||| c.toNat =
      a.toNat * 65536 + b.toNat * 256 + c.toNat := by
  have second := b.toNat_lt
  have third := c.toNat_lt
  have low : b.toNat <<< 8 ||| c.toNat = b.toNat <<< 8 + c.toNat :=
    (Nat.shiftLeft_add_eq_or_of_lt third b.toNat).symm
  have fits : b.toNat <<< 8 + c.toNat < 2 ^ 16 := by
    rw [Nat.shiftLeft_eq]
    omega
  rw [Nat.or_assoc, low, ← Nat.shiftLeft_add_eq_or_of_lt fits, Nat.shiftLeft_eq, Nat.shiftLeft_eq]
  omega

theorem maskedChar_eq (value : UInt32) : maskedChar value = base64urlChar value.toNat := by
  have low : (value &&& 0x3f).toNat = value.toNat % 64 := by
    rw [UInt32.toNat_and]
    exact Nat.and_two_pow_sub_one_eq_mod value.toNat 6
  rw [maskedChar, low, base64urlChar]

theorem toNat_shiftLeft {b : UInt8} {n : UInt32} (small : n.toNat ≤ 24) :
    (b.toUInt32 <<< n).toNat = b.toNat <<< n.toNat := by
  have bound := b.toNat_lt
  have fits : b.toNat * 2 ^ n.toNat < 2 ^ 32 := by
    calc b.toNat * 2 ^ n.toNat ≤ b.toNat * 2 ^ 24 :=
          Nat.mul_le_mul_left _ (Nat.pow_le_pow_right (by decide) small)
      _ < 2 ^ 32 := by omega
  have inside : n.toNat % 32 = n.toNat := Nat.mod_eq_of_lt (by omega)
  rw [UInt32.toNat_shiftLeft, UInt8.toNat_toUInt32, inside, Nat.shiftLeft_eq,
    Nat.mod_eq_of_lt fits]

theorem toNat_chunk (a b c : UInt8) :
    (a.toUInt32 <<< 16 ||| b.toUInt32 <<< 8 ||| c.toUInt32).toNat =
      a.toNat * 65536 + b.toNat * 256 + c.toNat := by
  have first : (a.toUInt32 <<< 16).toNat = a.toNat <<< 16 := toNat_shiftLeft (by decide)
  have second : (b.toUInt32 <<< 8).toNat = b.toNat <<< 8 := toNat_shiftLeft (by decide)
  rw [UInt32.toNat_or, UInt32.toNat_or, first, second, UInt8.toNat_toUInt32, chunk_value]

theorem toNat_shiftRight (value n : UInt32) (small : n.toNat < 32) :
    (value >>> n).toNat = value.toNat / 2 ^ n.toNat := by
  rw [UInt32.toNat_shiftRight, Nat.mod_eq_of_lt small, Nat.shiftRight_eq_div_pow]

theorem base64urlNoPadShifted_eq (bytes : List UInt8) :
    base64urlNoPadShifted bytes = base64urlNoPad bytes := by
  have eighteen (value : UInt32) : (value >>> 18).toNat = value.toNat / 262144 :=
    toNat_shiftRight value 18 (by decide)
  have twelve (value : UInt32) : (value >>> 12).toNat = value.toNat / 4096 :=
    toNat_shiftRight value 12 (by decide)
  have six (value : UInt32) : (value >>> 6).toNat = value.toNat / 64 :=
    toNat_shiftRight value 6 (by decide)
  induction bytes using base64urlNoPad.induct with
  | case1 a b c rest ih =>
      simp only [base64urlNoPadShifted, base64urlNoPad, maskedChar_eq, eighteen, twelve, six,
        toNat_chunk, ih]
  | case2 a b =>
      have value := toNat_chunk a b 0
      rw [show (0 : UInt8).toUInt32 = 0 from rfl, UInt32.or_zero,
        show (0 : UInt8).toNat = 0 from rfl, Nat.add_zero] at value
      simp only [base64urlNoPadShifted, base64urlNoPad, maskedChar_eq, eighteen, twelve, six, value]
  | case3 a =>
      have value : (a.toUInt32 <<< 16).toNat = a.toNat * 65536 := by
        rw [toNat_shiftLeft (by decide), Nat.shiftLeft_eq]
        rfl
      simp only [base64urlNoPadShifted, base64urlNoPad, maskedChar_eq, eighteen, twelve, value]
  | case4 => rfl

/-! ## The encoder -/

theorem base64urlAlphabet_eq : base64urlAlphabet = Alphabet.urlSafe.chars := by decide

theorem base64urlChar_eq (value : Nat) :
    base64urlChar value = Alphabet.urlSafe.digit (value % 64) := by
  have inside : value % 64 < Alphabet.urlSafe.chars.length := by
    rw [Alphabet.length_chars]
    omega
  rw [base64urlChar, base64urlAlphabet_eq, Alphabet.digit, List.getD_eq_getElem _ _ inside,
    List.getD_eq_getElem _ _ inside]

/-- The hand-written encoder is the encoder. -/
theorem base64urlNoPad_eq_encode (bytes : List UInt8) :
    base64urlNoPad bytes = Alphabet.urlSafe.encode bytes := by
  rw [Alphabet.encode]
  induction bytes using base64urlNoPad.induct with
  | case1 a b c rest ih =>
      have first := a.toNat_lt
      have second := b.toNat_lt
      have third := c.toNat_lt
      have top : (a.toNat * 65536 + b.toNat * 256 + c.toNat) / 262144 % 64 =
          (a.toNat * 65536 + b.toNat * 256 + c.toNat) / 262144 := by omega
      simp only [base64urlNoPad, Alphabet.sextets, List.map_cons, base64urlChar_eq, top, ih]
  | case2 a b =>
      have first := a.toNat_lt
      have second := b.toNat_lt
      have top : (a.toNat * 65536 + b.toNat * 256) / 262144 % 64 =
          (a.toNat * 65536 + b.toNat * 256) / 262144 := by omega
      simp only [base64urlNoPad, Alphabet.sextets, List.map_cons, List.map_nil, base64urlChar_eq,
        top]
  | case3 a =>
      have first := a.toNat_lt
      have top : a.toNat * 65536 / 262144 % 64 = a.toNat * 65536 / 262144 := by omega
      simp only [base64urlNoPad, Alphabet.sextets, List.map_cons, List.map_nil, base64urlChar_eq,
        top]
  | case4 => rfl

/-- A text is that of a body's hash where it decodes to the hash. -/
theorem restBodySha256Base64url_eq_iff {sha256 : List UInt8 → List UInt8} {body : List UInt8}
    {carried : String} :
    restBodySha256Base64url sha256 body = carried ↔
      Alphabet.urlSafe.decode carried.toList = some (sha256 body) := by
  rw [restBodySha256Base64url, base64urlNoPad_eq_encode, Alphabet.decode_eq_some_iff]
  constructor
  · rintro rfl
    exact String.toList_ofList.symm
  · intro same
    rw [same, String.ofList_toList]

/-- `verify_signed_request` up to its nonce, with a comparison of the body with the hash that a
request carries. -/
def signedDeviceBy (x : Crates) (sameHash : List UInt8 → String → Bool) (state : AppState)
    (now : Timestamp) (request : HttpRequest) : ApiResult (Device × SignedRequestHeaders) := do
  let body ← readBody request
  let headers ← SignedRequestHeaders.fromHeaders request.headers
  ensure (sameHash body headers.bodySha256) (.unauthorized "request body hash mismatch")
  let device ← validateTrustedDevice state headers.deviceId
  validateTimestamp x now headers.timestamp
  verifyRestSignature x device request.method request.pathAndQuery headers
  return (device, headers)

/-- The text that a request carries decodes to the body's digest. -/
def sameDigest (x : Crates) (body : List UInt8) (carried : String) : Bool :=
  Alphabet.urlSafe.decode carried.toList == some (x.sha256 body)

theorem signedDevice_eq_signedDeviceBy (x : Crates) :
    signedDevice x = signedDeviceBy x (sameDigest x) := by
  have same : (fun body carried => restBodySha256Base64url x.sha256 body == carried) =
      sameDigest x := by
    funext body carried
    rw [sameDigest, Bool.eq_iff_iff, beq_iff_eq, beq_iff_eq]
    exact restBodySha256Base64url_eq_iff
  rw [← same]
  rfl

/-- **The hash as a text stands for the hash**: the encoder is base64 over the bits of the bytes,
so texts differ where digests do, and the check of a signed request compares digests. -/
theorem base64urlNoPad_faithful :
    (∀ bytes : List UInt8,
      base64urlNoPadShifted bytes = base64urlNoPad bytes ∧
      base64urlNoPad bytes =
        (Alphabet.sixes (bytes.flatMap Alphabet.bits)).map Alphabet.urlSafe.digit ∧
      (base64urlNoPad bytes).length = (4 * bytes.length + 2) / 3 ∧
      (∀ c ∈ base64urlNoPad bytes, c ∈ Alphabet.urlSafe.chars) ∧
      Alphabet.urlSafe.decode (base64urlNoPad bytes) = some bytes) ∧
    Function.Injective base64urlNoPad ∧
    (∀ (sha256 : List UInt8 → List UInt8) (body other : List UInt8),
      restBodySha256Base64url sha256 body = restBodySha256Base64url sha256 other ↔
        sha256 body = sha256 other) ∧
    ∀ x : Crates, signedDevice x = signedDeviceBy x (sameDigest x) := by
  have same : base64urlNoPad = Alphabet.urlSafe.encode := funext base64urlNoPad_eq_encode
  refine ⟨fun bytes => ?_, ?_, fun sha256 body other => ?_, signedDevice_eq_signedDeviceBy⟩
  · refine ⟨base64urlNoPadShifted_eq bytes, ?_⟩
    rw [same]
    exact ⟨Alphabet.encode_eq_bits bytes, Alphabet.length_encode bytes,
      fun c member => Alphabet.mem_encode member, Alphabet.decode_encode bytes⟩
  · rw [same]
    exact Alphabet.encode_injective
  · rw [restBodySha256Base64url, restBodySha256Base64url, String.ofList_inj, same]
    exact Alphabet.encode_injective.eq_iff

end AirPaste.Server
