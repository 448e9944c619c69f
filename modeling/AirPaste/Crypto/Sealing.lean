/-
# Crypto.Sealing — content sealed to recipient devices

The content is encrypted under a fresh content key.  For each recipient the content key
is encrypted again, under a key derived from an ephemeral agreement with the recipient's
public key and bound to both public keys.  Random draws are arguments; a recipient's are
those of its position.

With ideal primitives a sealed content opens to itself on exactly the devices it is sealed
to (`openBytes_sealBytes`, `openText_sealText`): a recipient's id opens it with the identity
of the key registered for that id, and with no other.
-/
import Mathlib.Data.List.Nodup
import AirPaste.Core.Model
import AirPaste.Theory.Check
import AirPaste.Theory.Base64
import AirPaste.Theory.Cipher
import AirPaste.Theory.Text

namespace AirPaste.Crypto

open AirPaste.Core
open AirPaste.Theory

set_option autoImplicit false

def textEncryptionScheme : String := "airpaste-x25519-xchacha20poly1305-v1"

def keyWrapInfo : List UInt8 := "airpaste-key-wrap-v1".toUTF8.toList
def bodyAad : List UInt8 := "airpaste-text-body-v1".toUTF8.toList

/-- The primitives of the crates. -/
structure Primitives (Key : Type) where
  x25519 : Agreement (Bytes 32) (Bytes 32) (Bytes 32)
  /-- HKDF-SHA256 without salt: extract from a secret, and expand to a cipher key. -/
  hkdf : Bytes 32 → List UInt8 → Option Key
  /-- The cipher key of a content key. -/
  contentKey : Bytes 32 → Key
  /-- XChaCha20-Poly1305. -/
  aead : Aead Key (Bytes 24)
  /-- Base64 in the standard alphabet. -/
  base64 : Codec

structure Primitives.Ideal {Key : Type} (p : Primitives Key) : Prop where
  agrees : p.x25519.Commutes
  derives : DerivesInjectively p.hkdf
  encrypts : p.aead.Ideal
  decodes : p.base64.RoundTrips

inductive CryptoError where
  | base64 (error : String)
  | length
  | aead
  | hkdf
  | noWrappedKey
  | utf8
  deriving DecidableEq

def CryptoError.message : CryptoError → String
  | .base64 error => "base64 decode failed: " ++ error
  | .length => "invalid key or nonce length"
  | .aead => "AEAD encrypt/decrypt failed"
  | .hkdf => "HKDF expansion failed"
  | .noWrappedKey => "no wrapped content key for this device"
  | .utf8 => "decrypted text was not valid UTF-8"

structure EncryptionIdentity where
  secret : Bytes 32

structure Recipient where
  deviceId : DeviceId
  publicKeyBase64 : String
  deriving DecidableEq

structure SealedBytes where
  bodyCiphertext : List UInt8
  bodyNonce : Bytes 24
  wrappedKeys : List WrappedKey

structure SealedText where
  bodyCiphertextBase64 : String
  bodyNonceBase64 : String
  wrappedKeys : List WrappedKey

/-- What is drawn for one recipient. -/
structure WrapDraw where
  ephemeral : Bytes 32
  nonce : Bytes 24

structure SealDraws where
  cek : Bytes 32
  bodyNonce : Bytes 24
  /-- By the recipient's position. -/
  wraps : Nat → WrapDraw

section Model

variable {Key : Type} (p : Primitives Key)

def decodeBase64 (value : String) : Except CryptoError (List UInt8) :=
  (p.base64.decode value).mapError .base64

def decodeArray (n : Nat) (value : String) : Except CryptoError (Bytes n) := do
  let bytes ← decodeBase64 p value
  okOr (Bytes.ofList? n bytes) .length

def decodePublicKey (value : String) : Except CryptoError (Bytes 32) := decodeArray p 32 value

def deriveWrapKey (shared ephemeralPub recipientPub : Bytes 32) : Except CryptoError Key :=
  okOr (p.hkdf shared (keyWrapInfo ++ ephemeralPub.toList ++ recipientPub.toList)) .hkdf

namespace EncryptionIdentity

def publicKey (identity : EncryptionIdentity) : Bytes 32 := p.x25519.publicKey identity.secret

def publicKeyBase64 (identity : EncryptionIdentity) : String :=
  p.base64.encode (identity.publicKey p).toList

end EncryptionIdentity

/-- The content key wrapped for one recipient. -/
def wrapKey (cek : Bytes 32) (draw : WrapDraw) (recipient : Recipient) :
    Except CryptoError WrappedKey := do
  let recipientPub ← decodePublicKey p recipient.publicKeyBase64
  let ephemeralPub := p.x25519.publicKey draw.ephemeral
  let shared := p.x25519.diffieHellman draw.ephemeral recipientPub
  let wrapKey ← deriveWrapKey p shared ephemeralPub recipientPub
  let wrapped ← okOr (p.aead.encrypt wrapKey draw.nonce [] cek.toList) .aead
  return {
    deviceId := recipient.deviceId
    ephemeralPublicKey := p.base64.encode ephemeralPub.toList
    nonce := p.base64.encode draw.nonce.toList
    ciphertext := p.base64.encode wrapped }

/-- The content key wrapped for every recipient, from a position on. -/
def wrapKeys (cek : Bytes 32) (draws : Nat → WrapDraw) :
    Nat → List Recipient → Except CryptoError (List WrappedKey)
  | _, [] => .ok []
  | position, recipient :: rest => do
      let wrapped ← wrapKey p cek (draws position) recipient
      let later ← wrapKeys cek draws (position + 1) rest
      return wrapped :: later

def sealBytes (draws : SealDraws) (plaintext : List UInt8) (recipients : List Recipient) :
    Except CryptoError SealedBytes := do
  ensure (!recipients.isEmpty) .noWrappedKey
  let bodyCiphertext ←
    okOr (p.aead.encrypt (p.contentKey draws.cek) draws.bodyNonce bodyAad plaintext) .aead
  let wrappedKeys ← wrapKeys p draws.cek draws.wraps 0 recipients
  return ⟨bodyCiphertext, draws.bodyNonce, wrappedKeys⟩

def sealText (draws : SealDraws) (plaintext : String) (recipients : List Recipient) :
    Except CryptoError SealedText := do
  let sealed ← sealBytes p draws plaintext.toUTF8.toList recipients
  return {
    bodyCiphertextBase64 := p.base64.encode sealed.bodyCiphertext
    bodyNonceBase64 := p.base64.encode sealed.bodyNonce.toList
    wrappedKeys := sealed.wrappedKeys }

/-- The content key out of a wrapped key. -/
def unwrapKey (wrapped : WrappedKey) (identity : EncryptionIdentity) :
    Except CryptoError (Bytes 32) := do
  let ephemeralPub ← decodePublicKey p wrapped.ephemeralPublicKey
  let shared := p.x25519.diffieHellman identity.secret ephemeralPub
  let recipientPub := identity.publicKey p
  let wrapKey ← deriveWrapKey p shared ephemeralPub recipientPub
  let wrapNonce ← decodeArray p 24 wrapped.nonce
  let wrappedCt ← decodeBase64 p wrapped.ciphertext
  let cek ← okOr (p.aead.decrypt wrapKey wrapNonce [] wrappedCt) .aead
  okOr (Bytes.ofList? 32 cek) .length

def openBytes (bodyCiphertext bodyNonce : List UInt8) (wrappedKeys : List WrappedKey)
    (deviceId : DeviceId) (identity : EncryptionIdentity) : Except CryptoError (List UInt8) := do
  let wrapped ← okOr (wrappedKeys.find? fun key => key.deviceId == deviceId) .noWrappedKey
  let cek ← unwrapKey p wrapped identity
  let bodyNonce ← okOr (Bytes.ofList? 24 bodyNonce) .length
  okOr (p.aead.decrypt (p.contentKey cek) bodyNonce bodyAad bodyCiphertext) .aead

def openText (bodyCiphertextBase64 bodyNonceBase64 : String) (wrappedKeys : List WrappedKey)
    (deviceId : DeviceId) (identity : EncryptionIdentity) : Except CryptoError String := do
  let bodyCiphertext ← decodeBase64 p bodyCiphertextBase64
  let bodyNonce ← decodeBase64 p bodyNonceBase64
  let plaintext ← openBytes p bodyCiphertext bodyNonce wrappedKeys deviceId identity
  okOr (Text.fromUtf8 plaintext) .utf8

/-- One of the recipients has this id, and its key is the public key of the identity. -/
def SealedTo (recipients : List Recipient) (deviceId : DeviceId) (identity : EncryptionIdentity) :
    Prop :=
  ∃ recipient ∈ recipients, recipient.deviceId = deviceId ∧
    decodePublicKey p recipient.publicKeyBase64 = .ok (identity.publicKey p)

end Model

variable {Key : Type} {p : Primitives Key}

/-! ## Decoding -/

theorem decodeBase64_ok_iff {value : String} {bytes : List UInt8} :
    decodeBase64 p value = .ok bytes ↔ p.base64.decode value = .ok bytes :=
  mapError_ok_iff

theorem decodeArray_ok_iff {n : Nat} {value : String} {b : Bytes n} :
    decodeArray p n value = .ok b ↔ p.base64.decode value = .ok b.toList := by
  simp only [decodeArray, bind_ok_iff, decodeBase64_ok_iff, okOr_ok_iff,
    Bytes.ofList?_eq_some_iff]
  constructor
  · rintro ⟨bytes, decoded, rfl⟩
    exact decoded
  · exact fun decoded => ⟨b.toList, decoded, rfl⟩

theorem Primitives.Ideal.decodeBase64_encode (ideal : p.Ideal) (bytes : List UInt8) :
    decodeBase64 p (p.base64.encode bytes) = .ok bytes :=
  decodeBase64_ok_iff.mpr (ideal.decodes bytes)

theorem Primitives.Ideal.decodeArray_encode (ideal : p.Ideal) {n : Nat} (b : Bytes n) :
    decodeArray p n (p.base64.encode b.toList) = .ok b :=
  decodeArray_ok_iff.mpr (ideal.decodes b.toList)

/-- A device's own key, as it registers it, is the key of its identity. -/
theorem Primitives.Ideal.decodePublicKey_own (ideal : p.Ideal) (identity : EncryptionIdentity) :
    decodePublicKey p (identity.publicKeyBase64 p) = .ok (identity.publicKey p) :=
  ideal.decodeArray_encode _

/-! ## One wrapped key -/

/-- The info string gives both public keys back. -/
theorem wrapInfo_inj {ephemeral ephemeral' recipient recipient' : Bytes 32}
    (same : keyWrapInfo ++ ephemeral.toList ++ recipient.toList =
      keyWrapInfo ++ ephemeral'.toList ++ recipient'.toList) :
    ephemeral = ephemeral' ∧ recipient = recipient' := by
  simp only [List.append_assoc] at same
  have lengths : ephemeral.toList.length = ephemeral'.toList.length := by
    rw [ephemeral.length_toList, ephemeral'.length_toList]
  obtain ⟨ephemerals, recipients⟩ := List.append_inj (List.append_cancel_left same) lengths
  exact ⟨Bytes.toList_injective ephemerals, Bytes.toList_injective recipients⟩

/-- Derived keys are equal for the same agreement and the same public keys only. -/
theorem deriveWrapKey_inj (ideal : p.Ideal)
    {shared shared' ephemeral ephemeral' recipient recipient' : Bytes 32} {key : Key}
    (derived : deriveWrapKey p shared ephemeral recipient = .ok key)
    (derived' : deriveWrapKey p shared' ephemeral' recipient' = .ok key) :
    shared = shared' ∧ ephemeral = ephemeral' ∧ recipient = recipient' := by
  obtain ⟨secrets, infos⟩ := ideal.derives (okOr_ok_iff.mp derived) (okOr_ok_iff.mp derived')
  exact ⟨secrets, wrapInfo_inj infos⟩

/-- How a wrapped key comes about. -/
structure Wraps (p : Primitives Key) (cek : Bytes 32) (draw : WrapDraw) (recipient : Recipient)
    (recipientPub : Bytes 32) (key : Key) (ciphertext : List UInt8) (wrapped : WrappedKey) :
    Prop where
  decoded : decodePublicKey p recipient.publicKeyBase64 = .ok recipientPub
  derived : deriveWrapKey p (p.x25519.diffieHellman draw.ephemeral recipientPub)
    (p.x25519.publicKey draw.ephemeral) recipientPub = .ok key
  encrypted : p.aead.encrypt key draw.nonce [] cek.toList = some ciphertext
  same : wrapped =
    { deviceId := recipient.deviceId
      ephemeralPublicKey := p.base64.encode (p.x25519.publicKey draw.ephemeral).toList
      nonce := p.base64.encode draw.nonce.toList
      ciphertext := p.base64.encode ciphertext }

theorem wrapKey_ok_iff {cek : Bytes 32} {draw : WrapDraw} {recipient : Recipient}
    {wrapped : WrappedKey} :
    wrapKey p cek draw recipient = .ok wrapped ↔
      ∃ recipientPub key ciphertext, Wraps p cek draw recipient recipientPub key ciphertext
        wrapped := by
  simp only [wrapKey, bind_ok_iff, okOr_ok_iff]
  constructor
  · rintro ⟨recipientPub, decoded, key, derived, ciphertext, encrypted, built⟩
    exact ⟨recipientPub, key, ciphertext, decoded, derived, encrypted, (Except.ok.inj built).symm⟩
  · rintro ⟨recipientPub, key, ciphertext, decoded, derived, encrypted, rfl⟩
    exact ⟨recipientPub, decoded, key, derived, ciphertext, encrypted, rfl⟩

/-- Unwrapping a wrapped key comes down to one decryption. -/
theorem unwrapKey_wrapped_iff (ideal : p.Ideal) {ephemeralPub : Bytes 32} {nonce : Bytes 24}
    {ciphertext : List UInt8} {deviceId : DeviceId} {identity : EncryptionIdentity}
    {cek : Bytes 32} :
    unwrapKey p ⟨deviceId, p.base64.encode ephemeralPub.toList, p.base64.encode nonce.toList,
        p.base64.encode ciphertext⟩ identity = .ok cek ↔
      ∃ key, deriveWrapKey p (p.x25519.diffieHellman identity.secret ephemeralPub) ephemeralPub
          (identity.publicKey p) = .ok key ∧
        p.aead.decrypt key nonce [] ciphertext = some cek.toList := by
  have ephemeralDecoded : decodePublicKey p (p.base64.encode ephemeralPub.toList) =
      .ok ephemeralPub := ideal.decodeArray_encode ephemeralPub
  simp only [unwrapKey, ephemeralDecoded, ideal.decodeArray_encode, ideal.decodeBase64_encode,
    bind_ok_iff, okOr_ok_iff, Except.ok.injEq, Bytes.ofList?_eq_some_iff, exists_eq_left']
  constructor
  · rintro ⟨key, derived, bytes, decrypted, rfl⟩
    exact ⟨key, derived, decrypted⟩
  · rintro ⟨key, derived, decrypted⟩
    exact ⟨key, derived, cek.toList, decrypted, rfl⟩

/-- A wrapped key gives the content key back to exactly the identity it was wrapped for. -/
theorem unwrapKey_wrapKey (ideal : p.Ideal) {cek opened : Bytes 32} {draw : WrapDraw}
    {recipient : Recipient} {wrapped : WrappedKey} {identity : EncryptionIdentity}
    (made : wrapKey p cek draw recipient = .ok wrapped) :
    unwrapKey p wrapped identity = .ok opened ↔
      opened = cek ∧ decodePublicKey p recipient.publicKeyBase64 = .ok (identity.publicKey p) := by
  obtain ⟨recipientPub, key, ciphertext, decoded, derived, encrypted, rfl⟩ :=
    wrapKey_ok_iff.mp made
  rw [unwrapKey_wrapped_iff ideal, decoded]
  constructor
  · rintro ⟨other, derivedOther, decrypted⟩
    obtain ⟨rfl, -, -, same⟩ := (ideal.encrypts.decrypt_iff encrypted).mp decrypted
    obtain ⟨-, -, bound⟩ := deriveWrapKey_inj ideal derived derivedOther
    exact ⟨Bytes.toList_injective same, congrArg Except.ok bound⟩
  · rintro ⟨rfl, own⟩
    cases own
    -- the identity agrees with the ephemeral key on what the ephemeral secret agreed on
    have agreed : p.x25519.diffieHellman draw.ephemeral (identity.publicKey p) =
        p.x25519.diffieHellman identity.secret (p.x25519.publicKey draw.ephemeral) :=
      ideal.agrees draw.ephemeral identity.secret
    rw [agreed] at derived
    exact ⟨key, derived, ideal.encrypts.opens encrypted⟩

/-! ## The wrapped keys of a content -/

theorem wrapKeys_deviceIds {cek : Bytes 32} {draws : Nat → WrapDraw} {position : Nat}
    {recipients : List Recipient} {wrappedKeys : List WrappedKey}
    (made : wrapKeys p cek draws position recipients = .ok wrappedKeys) :
    wrappedKeys.map WrappedKey.deviceId = recipients.map Recipient.deviceId := by
  induction recipients generalizing position wrappedKeys with
  | nil =>
      cases made
      rfl
  | cons recipient rest ih =>
      simp only [wrapKeys, bind_ok_iff] at made
      obtain ⟨wrapped, first, later, others, built⟩ := made
      cases built
      obtain ⟨_, _, _, wraps⟩ := wrapKey_ok_iff.mp first
      rw [List.map_cons, List.map_cons, ih others, wraps.same]

/-- Every wrapped key is one of a recipient's. -/
theorem mem_wrapKeys {cek : Bytes 32} {draws : Nat → WrapDraw} {position : Nat}
    {recipients : List Recipient} {wrappedKeys : List WrappedKey} {wrapped : WrappedKey}
    (made : wrapKeys p cek draws position recipients = .ok wrappedKeys)
    (member : wrapped ∈ wrappedKeys) :
    ∃ recipient ∈ recipients, ∃ draw, wrapKey p cek draw recipient = .ok wrapped := by
  induction recipients generalizing position wrappedKeys with
  | nil =>
      cases made
      exact absurd member List.not_mem_nil
  | cons recipient rest ih =>
      simp only [wrapKeys, bind_ok_iff] at made
      obtain ⟨first, wrapsFirst, later, others, built⟩ := made
      cases built
      rcases List.mem_cons.mp member with rfl | member
      · exact ⟨recipient, List.mem_cons_self, draws position, wrapsFirst⟩
      · obtain ⟨other, among, wraps⟩ := ih others member
        exact ⟨other, List.mem_cons_of_mem _ among, wraps⟩

/-- What a device finds under its id was wrapped for the recipient of that id. -/
theorem found_wrapKey {cek : Bytes 32} {draws : Nat → WrapDraw} {position : Nat}
    {recipients : List Recipient} {wrappedKeys : List WrappedKey} {wrapped : WrappedKey}
    {deviceId : DeviceId} (made : wrapKeys p cek draws position recipients = .ok wrappedKeys)
    (found : wrappedKeys.find? (fun key => key.deviceId == deviceId) = some wrapped) :
    ∃ recipient ∈ recipients, recipient.deviceId = deviceId ∧
      ∃ draw, wrapKey p cek draw recipient = .ok wrapped := by
  obtain ⟨recipient, among, draw, wraps⟩ := mem_wrapKeys made (List.mem_of_find?_eq_some found)
  obtain ⟨_, _, _, built⟩ := wrapKey_ok_iff.mp wraps
  have named : wrapped.deviceId = deviceId := by simpa using List.find?_some found
  rw [built.same] at named
  exact ⟨recipient, among, named, draw, wraps⟩

/-- Every recipient finds a wrapped key under its id. -/
theorem find_wrapKeys {cek : Bytes 32} {draws : Nat → WrapDraw} {position : Nat}
    {recipients : List Recipient} {wrappedKeys : List WrappedKey} {recipient : Recipient}
    (made : wrapKeys p cek draws position recipients = .ok wrappedKeys)
    (among : recipient ∈ recipients) :
    ∃ wrapped, wrappedKeys.find? (fun key => key.deviceId == recipient.deviceId) =
      some wrapped := by
  have listed : recipient.deviceId ∈ wrappedKeys.map WrappedKey.deviceId := by
    rw [wrapKeys_deviceIds made]
    exact List.mem_map_of_mem among
  obtain ⟨candidate, candidateIn, candidateId⟩ := List.mem_map.mp listed
  have present : (wrappedKeys.find? fun key => key.deviceId == recipient.deviceId).isSome :=
    List.find?_isSome.mpr ⟨candidate, candidateIn, beq_iff_eq.mpr candidateId⟩
  exact Option.isSome_iff_exists.mp present

/-- What a device finds under its id unwraps to the content key exactly for the identity of
the key it is registered with. -/
theorem unwrap_found_iff (ideal : p.Ideal) {cek opened : Bytes 32} {draws : Nat → WrapDraw}
    {position : Nat} {recipients : List Recipient} {wrappedKeys : List WrappedKey}
    {deviceId : DeviceId} {identity : EncryptionIdentity}
    (distinct : (recipients.map Recipient.deviceId).Nodup)
    (made : wrapKeys p cek draws position recipients = .ok wrappedKeys) :
    (∃ wrapped, wrappedKeys.find? (fun key => key.deviceId == deviceId) = some wrapped ∧
        unwrapKey p wrapped identity = .ok opened) ↔
      opened = cek ∧ SealedTo p recipients deviceId identity := by
  constructor
  · rintro ⟨wrapped, found, unwrapped⟩
    obtain ⟨recipient, among, named, draw, wraps⟩ := found_wrapKey made found
    obtain ⟨rfl, own⟩ := (unwrapKey_wrapKey ideal wraps).mp unwrapped
    exact ⟨rfl, recipient, among, named, own⟩
  · rintro ⟨rfl, recipient, among, rfl, own⟩
    obtain ⟨wrapped, found⟩ := find_wrapKeys made among
    obtain ⟨other, otherAmong, named, draw, wraps⟩ := found_wrapKey made found
    -- the ids are distinct, so the key found is the recipient's own
    cases List.inj_on_of_nodup_map distinct otherAmong among named
    exact ⟨wrapped, found, (unwrapKey_wrapKey ideal wraps).mpr ⟨rfl, own⟩⟩

/-! ## The whole content -/

theorem sealBytes_ok_iff {draws : SealDraws} {plaintext : List UInt8} {recipients : List Recipient}
    {sealed : SealedBytes} :
    sealBytes p draws plaintext recipients = .ok sealed ↔
      recipients ≠ [] ∧ sealed.bodyNonce = draws.bodyNonce ∧
      p.aead.encrypt (p.contentKey draws.cek) draws.bodyNonce bodyAad plaintext =
        some sealed.bodyCiphertext ∧
      wrapKeys p draws.cek draws.wraps 0 recipients = .ok sealed.wrappedKeys := by
  simp only [sealBytes, bind_ok_iff, ensure_ok_iff, okOr_ok_iff, Bool.not_eq_true',
    List.isEmpty_eq_false_iff]
  constructor
  · rintro ⟨_, nonempty, bodyCiphertext, encrypted, wrappedKeys, made, built⟩
    cases built
    exact ⟨nonempty, rfl, encrypted, made⟩
  · rintro ⟨nonempty, nonce, encrypted, made⟩
    refine ⟨(), nonempty, sealed.bodyCiphertext, encrypted, sealed.wrappedKeys, made, ?_⟩
    rw [← nonce]
    rfl

/-- What is sealed opens to itself on exactly the devices it is sealed to. -/
theorem openBytes_sealBytes (ideal : p.Ideal) {draws : SealDraws} {plaintext opened : List UInt8}
    {recipients : List Recipient} {sealed : SealedBytes} {deviceId : DeviceId}
    {identity : EncryptionIdentity}
    (distinct : (recipients.map Recipient.deviceId).Nodup)
    (made : sealBytes p draws plaintext recipients = .ok sealed) :
    openBytes p sealed.bodyCiphertext sealed.bodyNonce.toList sealed.wrappedKeys deviceId identity =
        .ok opened ↔
      opened = plaintext ∧ SealedTo p recipients deviceId identity := by
  obtain ⟨-, nonce, encrypted, wraps⟩ := sealBytes_ok_iff.mp made
  simp only [openBytes, bind_ok_iff, okOr_ok_iff, nonce, Bytes.ofList?_toList, Option.some.injEq,
    exists_eq_left']
  constructor
  · rintro ⟨wrapped, found, cek, unwrapped, decrypted⟩
    obtain ⟨rfl, sealedTo⟩ := (unwrap_found_iff ideal distinct wraps).mp ⟨wrapped, found, unwrapped⟩
    exact ⟨((ideal.encrypts.decrypt_iff encrypted).mp decrypted).2.2.2, sealedTo⟩
  · rintro ⟨rfl, sealedTo⟩
    obtain ⟨wrapped, found, unwrapped⟩ :=
      (unwrap_found_iff ideal distinct wraps).mpr ⟨rfl, sealedTo⟩
    exact ⟨wrapped, found, draws.cek, unwrapped, ideal.encrypts.opens encrypted⟩

/-- A sealed text opens to itself on exactly the devices it is sealed to. -/
theorem openText_sealText (ideal : p.Ideal) {draws : SealDraws} {plaintext opened : String}
    {recipients : List Recipient} {sealed : SealedText} {deviceId : DeviceId}
    {identity : EncryptionIdentity}
    (distinct : (recipients.map Recipient.deviceId).Nodup)
    (made : sealText p draws plaintext recipients = .ok sealed) :
    openText p sealed.bodyCiphertextBase64 sealed.bodyNonceBase64 sealed.wrappedKeys deviceId
        identity = .ok opened ↔
      opened = plaintext ∧ SealedTo p recipients deviceId identity := by
  simp only [sealText, bind_ok_iff] at made
  obtain ⟨body, sealedBody, built⟩ := made
  cases built
  simp only [openText, bind_ok_iff, okOr_ok_iff, ideal.decodeBase64_encode, Except.ok.injEq,
    exists_eq_left', openBytes_sealBytes ideal distinct sealedBody]
  constructor
  · rintro ⟨bytes, ⟨rfl, sealedTo⟩, text⟩
    rw [Text.fromUtf8_toUTF8] at text
    exact ⟨(Option.some.inj text).symm, sealedTo⟩
  · rintro ⟨rfl, sealedTo⟩
    exact ⟨_, ⟨rfl, sealedTo⟩, Text.fromUtf8_toUTF8 opened⟩

/-! ## Ideal primitives with recorded values

The values of one sealing, of a short text to one device, are those of the real primitives;
elsewhere the primitives are stand-ins that are ideal too. -/

namespace Sample

/-- The secret of a device. -/
def identity : EncryptionIdentity := ⟨Bytes.fill 32 1⟩

def devicePublic : Bytes 32 :=
  ⟨[164, 224, 146, 146, 182, 81, 194, 120, 185, 119, 44, 86, 159, 95, 169, 187, 19, 217, 6, 180,
     106, 182, 140, 157, 249, 220, 43, 68, 9, 248, 162, 9], rfl⟩

def ephemeralPublic : Bytes 32 :=
  ⟨[206, 141, 58, 209, 204, 182, 51, 236, 123, 112, 193, 120, 20, 165, 199, 110, 205, 2, 150,
     133, 5, 13, 52, 71, 69, 186, 5, 135, 14, 88, 125, 89], rfl⟩

def shared : Bytes 32 :=
  ⟨[46, 215, 106, 181, 73, 177, 231, 60, 3, 30, 180, 156, 148, 72, 240, 121, 138, 234, 129, 182,
     152, 39, 154, 12, 61, 195, 228, 159, 191, 196, 185, 83], rfl⟩

def derived : List UInt8 :=
  [82, 96, 88, 6, 94, 233, 168, 231, 186, 105, 87, 85, 225, 226, 155, 233, 67, 20, 49, 97, 38,
    19, 54, 30, 238, 146, 71, 182, 154, 16, 95, 176]

def plaintext : List UInt8 := [104, 101, 108, 108, 111]

def bodyCiphertext : List UInt8 :=
  [83, 144, 118, 158, 240, 221, 188, 85, 153, 11, 96, 158, 23, 230, 64, 81, 61, 158, 125, 76,
    190]

def wrapCiphertext : List UInt8 :=
  [144, 241, 175, 203, 207, 190, 136, 247, 234, 203, 231, 61, 94, 240, 18, 100, 100, 138, 244,
    34, 40, 49, 35, 227, 83, 50, 134, 232, 190, 212, 38, 32, 121, 117, 204, 129, 234, 243, 10,
    17, 87, 14, 213, 238, 58, 60, 251, 195]

def draws : SealDraws where
  cek := Bytes.fill 32 6
  bodyNonce := Bytes.fill 24 4
  wraps _ := ⟨Bytes.fill 32 2, Bytes.fill 24 5⟩

/-- What the holders of two public keys agree on. -/
def agreed (a b : Bytes 32) : Bytes 32 :=
  if (a = devicePublic ∧ b = ephemeralPublic) ∨ (a = ephemeralPublic ∧ b = devicePublic) then shared
  else ⟨List.zipWith (· + ·) a.toList b.toList, by simp [a.length_toList, b.length_toList]⟩

def publicKey (secret : Bytes 32) : Bytes 32 :=
  if secret = Bytes.fill 32 1 then devicePublic
  else if secret = Bytes.fill 32 2 then ephemeralPublic
  else secret

def derive (secret : Bytes 32) (info : List UInt8) : List UInt8 :=
  if secret = shared ∧
      info = keyWrapInfo ++ ephemeralPublic.toList ++ devicePublic.toList then derived
  else 0 :: (secret.toList ++ info)

def records : List (Aead.Recorded (List UInt8) (Bytes 24)) :=
  [⟨(Bytes.fill 32 6).toList, Bytes.fill 24 4, bodyAad, plaintext, bodyCiphertext⟩,
   ⟨derived, Bytes.fill 24 5, [], (Bytes.fill 32 6).toList, wrapCiphertext⟩]

def primitives : Primitives (List UInt8) where
  x25519 := ⟨publicKey, fun secret other => agreed (publicKey secret) other⟩
  hkdf secret info := some (derive secret info)
  contentKey := Bytes.toList
  aead := Aead.recorded records (Aead.framed 24)
  base64 := Alphabet.standard.codec

theorem agreed_comm (a b : Bytes 32) : agreed a b = agreed b a := by
  unfold agreed
  refine if_congr ?_ rfl (Bytes.toList_injective ?_)
  · constructor
    · rintro (⟨rfl, rfl⟩ | ⟨rfl, rfl⟩)
      · exact Or.inr ⟨rfl, rfl⟩
      · exact Or.inl ⟨rfl, rfl⟩
    · rintro (⟨rfl, rfl⟩ | ⟨rfl, rfl⟩)
      · exact Or.inr ⟨rfl, rfl⟩
      · exact Or.inl ⟨rfl, rfl⟩
  · exact List.zipWith_comm_of_comm fun x y => UInt8.add_comm x y

theorem derive_inj {secret secret' : Bytes 32} {info info' : List UInt8}
    (same : derive secret info = derive secret' info') : secret = secret' ∧ info = info' := by
  have short : ∀ (bytes : Bytes 32) (rest : List UInt8),
      (0 :: (bytes.toList ++ rest)).length ≠ derived.length := by
    intro bytes rest
    rw [List.length_cons, List.length_append, bytes.length_toList]
    show 32 + rest.length + 1 ≠ 32
    omega
  unfold derive at same
  split at same
  · rename_i first
    split at same
    · rename_i second
      exact ⟨first.1.trans second.1.symm, first.2.trans second.2.symm⟩
    · exact absurd (congrArg List.length same).symm (short _ _)
  · split at same
    · exact absurd (congrArg List.length same) (short _ _)
    · obtain ⟨secrets, infos⟩ := List.append_inj (List.cons.inj same).2 (by
        rw [secret.length_toList, secret'.length_toList])
      exact ⟨Bytes.toList_injective secrets, infos⟩

theorem records_new : ∀ r ∈ records, ∀ (key : List UInt8) (nonce : Bytes 24)
    (associated message : List UInt8),
    (Aead.framed 24).encrypt key nonce associated message ≠ some r.ciphertext := by
  intro r member key nonce associated message encrypted
  have head := Aead.framed_head encrypted
  simp only [records, List.mem_cons, List.not_mem_nil, or_false] at member
  rcases member with rfl | rfl
  · exact absurd head (by decide)
  · exact absurd head (by decide)

theorem primitives_ideal : primitives.Ideal where
  agrees a b := agreed_comm (publicKey a) (publicKey b)
  derives {secret secret' info info' key} derived derived' := by
    exact derive_inj ((Option.some.inj derived).trans (Option.some.inj derived').symm)
  encrypts := Aead.recorded_ideal (Aead.framed_ideal 24) (by decide) records_new
  decodes := Alphabet.codec_roundTrips

end Sample

end AirPaste.Crypto
