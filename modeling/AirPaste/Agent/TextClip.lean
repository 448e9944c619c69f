/-
# Agent.TextClip — publishing a text and reading one

`publish_text_clip` seals a text to every trusted device with an encryption key, this
device among them; `decrypt_remote_text` reads a text clip by its scheme.  A text clip is
encoded here and, for the uploads of simple devices, on the server (`EncodedAs`).

`encodedAs_readable`: whoever encoded a text clip, the one decoder reads it.  A sealed clip
reads as its text on exactly the trusted devices with a registered key whose identity is
used, and as an error for every other device id and identity; a plaintext clip reads as its
text everywhere.
-/
import AirPaste.Agent.Download
import AirPaste.Server.Clips

namespace AirPaste.Agent

open AirPaste.Core
open AirPaste.Crypto
open AirPaste.Protocol
open AirPaste.Server
open AirPaste.Theory

set_option autoImplicit false

def textClipExpiresAt (now : Timestamp) (ttlSecs : Nat) : Option Timestamp :=
  if ttlSecs = 0 then none else some (now + seconds (min ttlSecs i64Max : Nat))

/-- The trusted devices with an encryption key, of the devices the server lists. -/
def trustedEncryptionRecipients (listed : Except String (List Device)) :
    Except String (List Recipient) := do
  let devices ← listed
  return (devices.filter fun device =>
    device.trusted && Text.trim device.encryptionPublicKey ≠ "").map fun device =>
      ⟨device.deviceId, device.encryptionPublicKey⟩

section Model

variable {Key : Type} (p : Primitives Key)

/-- The clip `publish_text_clip` asks the server to create. -/
def publishTextClip (draws : SealDraws) (listed : Except String (List Device)) (now : Timestamp)
    (deviceId : DeviceId) (text : String) (ttlSecs : Nat) (mirrorSimple : Bool) :
    Except String CreateClipRequest := do
  let recipients ← trustedEncryptionRecipients listed
  ensure (!recipients.isEmpty)
    "no trusted device has an encryption public key; cannot encrypt text"
  let sealed ← (sealText p draws text recipients).mapError fun error =>
    "failed to encrypt text clip: " ++ error.message
  let keyWrappedFor := sealed.wrappedKeys.map WrappedKey.deviceId
  let clip : TextClip :=
    { utf8Len := Text.byteLen text.toList
      preview := none
      encryptedBodyRef :=
        ⟨textEncryptionScheme, Text.byteLen sealed.bodyCiphertextBase64.toList⟩
      encryptedInlineBody := some sealed.bodyCiphertextBase64 }
  return {
    sourceDeviceId := deviceId
    expiresAt := textClipExpiresAt now ttlSecs
    kind := .text clip
    encryption :=
      { scheme := textEncryptionScheme
        keyWrappedFor := keyWrappedFor
        wrappedKeys := sealed.wrappedKeys
        bodyNonce := some sealed.bodyNonceBase64 }
    simpleMirrorText := if mirrorSimple then some text else none }

/-- The plaintext of a text clip; none when there is nothing to apply. -/
def decryptRemoteText (textClip : TextClip) (encryptionInfo : EncryptionInfo)
    (deviceId : DeviceId) (encryption : EncryptionIdentity) : Except String (Option String) :=
  if encryptionInfo.scheme = textEncryptionScheme then do
    let body ← okOr textClip.encryptedInlineBody "encrypted text clip is missing its body"
    let nonce ← okOr encryptionInfo.bodyNonce "encrypted text clip is missing its body nonce"
    let text ← (openText p body nonce encryptionInfo.wrappedKeys deviceId encryption).mapError
      fun error => "failed to decrypt text clip: " ++ error.message
    return some text
  else .ok textClip.encryptedInlineBody

/-- The text is encoded as this clip for the devices registered: published by an agent
that was told of them, or uploaded by a simple device to the server that keeps them. -/
inductive EncodedAs (devices : List Device) (text : String) : ClipKind → EncryptionInfo → Prop where
  | published (draws : SealDraws) (now : Timestamp) (deviceId : DeviceId) (ttlSecs : Nat)
      (mirrorSimple : Bool) (request : CreateClipRequest)
      (made : publishTextClip p draws (.ok devices) now deviceId text ttlSecs mirrorSimple =
        .ok request) :
      EncodedAs devices text request.kind request.encryption
  | uploaded (draws : SealDraws) (app : AppState) (mint : Minting) (deviceName : Option String)
      (before after : ClipState) (response : CreateClipResponse) (clip : ClipRecord)
      (registered : app.store.devices.rows = devices)
      (made : simpleCreateClip p draws app mint ⟨text, deviceName⟩ before = (.ok response, after))
      (filed : after.clips.get response.clipId.asStr = some clip) :
      EncodedAs devices text clip.kind clip.encryption

/-- The device of this id is trusted and registered a key, which is the identity's. -/
def TrustedRecipient (devices : List Device) (deviceId : DeviceId) (identity : EncryptionIdentity) :
    Prop :=
  ∃ device ∈ devices, device.deviceId = deviceId ∧ device.trusted = true ∧
    Text.trim device.encryptionPublicKey ≠ "" ∧
    decodePublicKey p device.encryptionPublicKey = .ok (identity.publicKey p)

end Model

variable {Key : Type} {p : Primitives Key}

/-! ## The recipients -/

/-- Both encoders select the same recipients. -/
theorem trustedEncryptionRecipients_eq (devices : List Device) :
    trustedEncryptionRecipients (.ok devices) = .ok (simpleRecipients devices) := rfl

theorem mem_simpleRecipients_iff {devices : List Device} {recipient : Recipient} :
    recipient ∈ simpleRecipients devices ↔
      ∃ device ∈ devices, device.trusted = true ∧ Text.trim device.encryptionPublicKey ≠ "" ∧
        ⟨device.deviceId, device.encryptionPublicKey⟩ = recipient := by
  simp only [simpleRecipients, List.mem_map, List.mem_filter, Bool.and_eq_true, decide_eq_true_eq]
  constructor
  · rintro ⟨device, ⟨listed, trusted, advertises⟩, same⟩
    exact ⟨device, listed, trusted, advertises, same⟩
  · rintro ⟨device, listed, trusted, advertises, same⟩
    exact ⟨device, ⟨listed, trusted, advertises⟩, same⟩

theorem sealedTo_simpleRecipients_iff {devices : List Device} {deviceId : DeviceId}
    {identity : EncryptionIdentity} :
    SealedTo p (simpleRecipients devices) deviceId identity ↔
      TrustedRecipient p devices deviceId identity := by
  constructor
  · rintro ⟨recipient, among, named, own⟩
    obtain ⟨device, listed, trusted, advertises, rfl⟩ := mem_simpleRecipients_iff.mp among
    exact ⟨device, listed, named, trusted, advertises, own⟩
  · rintro ⟨device, listed, named, trusted, advertises, own⟩
    exact ⟨_, mem_simpleRecipients_iff.mpr ⟨device, listed, trusted, advertises, rfl⟩, named, own⟩

theorem simpleRecipients_distinct {devices : List Device}
    (distinct : (devices.map Device.deviceId).Nodup) :
    ((simpleRecipients devices).map Recipient.deviceId).Nodup := by
  have sub : ((simpleRecipients devices).map Recipient.deviceId).Sublist
      (devices.map Device.deviceId) := by
    simp only [simpleRecipients, List.map_map]
    exact List.filter_sublist.map Device.deviceId
  exact distinct.sublist sub

/-! ## Reading -/

/-- What the two encoders make of a sealed text. -/
structure Carries (sealed : SealedText) (kind : ClipKind) (encryption : EncryptionInfo)
    (textClip : TextClip) : Prop where
  kind : kind = .text textClip
  scheme : encryption.scheme = textEncryptionScheme
  body : textClip.encryptedInlineBody = some sealed.bodyCiphertextBase64
  nonce : encryption.bodyNonce = some sealed.bodyNonceBase64
  wrappedKeys : encryption.wrappedKeys = sealed.wrappedKeys

/-- The decoder gives the sealed text on the devices it is sealed to, and only there. -/
theorem Carries.decryptRemoteText_ok_iff (ideal : p.Ideal) {draws : SealDraws} {text : String}
    {recipients : List Recipient} {sealed : SealedText} {kind : ClipKind}
    {encryption : EncryptionInfo} {textClip : TextClip} {deviceId : DeviceId}
    {identity : EncryptionIdentity} {read : Option String}
    (carries : Carries sealed kind encryption textClip)
    (distinct : (recipients.map Recipient.deviceId).Nodup)
    (made : sealText p draws text recipients = .ok sealed) :
    decryptRemoteText p textClip encryption deviceId identity = .ok read ↔
      read = some text ∧ SealedTo p recipients deviceId identity := by
  simp only [decryptRemoteText, if_pos carries.scheme, bind_ok_iff, okOr_ok_iff, carries.body,
    carries.nonce, carries.wrappedKeys, Option.some.injEq, exists_eq_left', mapError_ok_iff,
    openText_sealText ideal distinct made]
  constructor
  · rintro ⟨opened, ⟨rfl, sealedTo⟩, built⟩
    exact ⟨(Except.ok.inj built).symm, sealedTo⟩
  · rintro ⟨rfl, sealedTo⟩
    exact ⟨text, ⟨rfl, sealedTo⟩, rfl⟩

/-- A text published by an agent is sealed to the recipients. -/
theorem publishTextClip_carries {draws : SealDraws} {devices : List Device} {now : Timestamp}
    {deviceId : DeviceId} {text : String} {ttlSecs : Nat} {mirrorSimple : Bool}
    {request : CreateClipRequest}
    (made : publishTextClip p draws (.ok devices) now deviceId text ttlSecs mirrorSimple =
      .ok request) :
    simpleRecipients devices ≠ [] ∧ ∃ sealed textClip,
      sealText p draws text (simpleRecipients devices) = .ok sealed ∧
      Carries sealed request.kind request.encryption textClip := by
  simp only [publishTextClip, trustedEncryptionRecipients_eq, bind_ok_iff, Except.ok.injEq,
    exists_eq_left', ensure_ok_iff, Bool.not_eq_true', List.isEmpty_eq_false_iff,
    mapError_ok_iff] at made
  obtain ⟨_, present, sealed, sealedText, built⟩ := made
  cases built
  exact ⟨present, sealed, _, sealedText, rfl, rfl, rfl, rfl, rfl⟩

/-- A simple upload is sealed to the recipients, or in plaintext when there are none. -/
theorem simpleBody_ok {draws : SealDraws} {recipients : List Recipient} {text : String}
    {kind : ClipKind} {encryption : EncryptionInfo}
    (made : simpleBody p draws recipients text = .ok (kind, encryption)) :
    (recipients ≠ [] ∧ ∃ sealed textClip, sealText p draws text recipients = .ok sealed ∧
        Carries sealed kind encryption textClip) ∨
      (recipients = [] ∧ encryption.scheme = simplePlaintextScheme ∧
        ∃ textClip, kind = .text textClip ∧ textClip.encryptedInlineBody = some text) := by
  unfold simpleBody at made
  split at made
  · rename_i none
    cases made
    exact Or.inr ⟨List.isEmpty_iff.mp none, rfl, _, rfl, rfl⟩
  · rename_i present
    split at made
    · cases made
    · rename_i sealed sealedText
      cases made
      have nonempty : recipients ≠ [] := fun empty => present (List.isEmpty_iff.mpr empty)
      exact Or.inl ⟨nonempty, sealed, _, sealedText, rfl, rfl, rfl, rfl, rfl⟩

/-- A text clip of either encoder is sealed, or in plaintext when nobody has a key. -/
theorem EncodedAs.cases {devices : List Device} {text : String} {kind : ClipKind}
    {encryption : EncryptionInfo} (encoded : EncodedAs p devices text kind encryption) :
    (simpleRecipients devices ≠ [] ∧ ∃ draws sealed textClip,
        sealText p draws text (simpleRecipients devices) = .ok sealed ∧
        Carries sealed kind encryption textClip) ∨
      (simpleRecipients devices = [] ∧ encryption.scheme = simplePlaintextScheme ∧
        ∃ textClip, kind = .text textClip ∧ textClip.encryptedInlineBody = some text) := by
  cases encoded with
  | published draws now deviceId ttlSecs mirrorSimple request made =>
      obtain ⟨present, sealed, textClip, sealedText, carries⟩ := publishTextClip_carries made
      exact Or.inl ⟨present, draws, sealed, textClip, sealedText, carries⟩
  | uploaded draws app mint deviceName before after response clip registered made filed =>
      obtain ⟨other, also, body⟩ := simpleCreateClip_filed made
      cases Option.some.inj (filed.symm.trans also)
      rw [registered] at body
      rcases simpleBody_ok body with ⟨present, sealed, textClip, sealedText, carries⟩ | plaintext
      · exact Or.inl ⟨present, draws, sealed, textClip, sealedText, carries⟩
      · exact Or.inr plaintext

/-- Every encoder of text clips agrees with the decoder. -/
theorem encodedAs_readable (ideal : p.Ideal) {devices : List Device} {text : String}
    {kind : ClipKind} {encryption : EncryptionInfo}
    (distinct : (devices.map Device.deviceId).Nodup)
    (encoded : EncodedAs p devices text kind encryption) :
    ∃ textClip, kind = .text textClip ∧
      ((encryption.scheme = textEncryptionScheme ∧ ∀ deviceId identity,
          (TrustedRecipient p devices deviceId identity →
            decryptRemoteText p textClip encryption deviceId identity = .ok (some text)) ∧
          (¬ TrustedRecipient p devices deviceId identity →
            ∃ error, decryptRemoteText p textClip encryption deviceId identity = .error error)) ∨
        (encryption.scheme = simplePlaintextScheme ∧ simpleRecipients devices = [] ∧
          ∀ deviceId identity,
            decryptRemoteText p textClip encryption deviceId identity = .ok (some text))) := by
  rcases encoded.cases with ⟨-, draws, sealed, textClip, sealedText, carries⟩ |
    ⟨none, scheme, textClip, rfl, body⟩
  · refine ⟨textClip, carries.kind, Or.inl ⟨carries.scheme, fun deviceId identity => ?_⟩⟩
    constructor
    · intro trusted
      exact (carries.decryptRemoteText_ok_iff ideal (simpleRecipients_distinct distinct)
        sealedText).mpr ⟨rfl, sealedTo_simpleRecipients_iff.mpr trusted⟩
    · intro stranger
      cases outcome : decryptRemoteText p textClip encryption deviceId identity with
      | error error => exact ⟨error, rfl⟩
      | ok read =>
          have opened := (carries.decryptRemoteText_ok_iff ideal
            (simpleRecipients_distinct distinct) sealedText).mp outcome
          exact absurd (sealedTo_simpleRecipients_iff.mp opened.2) stranger
  · refine ⟨textClip, rfl, Or.inr ⟨scheme, none, fun deviceId identity => ?_⟩⟩
    have unsealed : encryption.scheme ≠ textEncryptionScheme := by
      rw [scheme]
      decide +kernel
    simp only [decryptRemoteText, if_neg unsealed, body]

/-! ## One text to one device -/

namespace Hello

open AirPaste.Crypto.Sample

def laptop : Device :=
  { deviceId := ⟨"dev_laptop"⟩
    name := "laptop"
    publicKey := ""
    encryptionPublicKey := "pOCSkrZRwni5dyxWn1+puxPZBrRqtoyd+dwrRAn4ogk="
    trusted := true
    createdAt := 0
    lastSeenAt := none }

/-- A device from before encryption keys. -/
def tablet : Device :=
  { laptop with deviceId := ⟨"dev_tablet"⟩, name := "tablet", encryptionPublicKey := "" }

def textClip : TextClip :=
  { utf8Len := 5
    preview := none
    encryptedBodyRef := ⟨"airpaste-x25519-xchacha20poly1305-v1", 28⟩
    encryptedInlineBody := some "U5B2nvDdvFWZC2CeF+ZAUT2efUy+" }

def encryption : EncryptionInfo :=
  { scheme := "airpaste-x25519-xchacha20poly1305-v1"
    keyWrappedFor := [⟨"dev_laptop"⟩]
    wrappedKeys :=
      [{ deviceId := ⟨"dev_laptop"⟩
         ephemeralPublicKey := "zo060cy2M+x7cMF4FKXHbs0CloUFDTRHRboFhw5YfVk="
         nonce := "BQUFBQUFBQUFBQUFBQUFBQUFBQUFBQUF"
         ciphertext := "kPGvy8++iPfqy+c9XvASZGSK9CIoMSPjUzKG6L7UJiB5dcyB6vMKEVcO1e46PPvD" }]
    bodyNonce := some "BAQEBAQEBAQEBAQEBAQEBAQEBAQEBAQE" }

def request : CreateClipRequest := ⟨⟨"dev_tablet"⟩, none, .text textClip, encryption, none⟩

theorem request_made :
    publishTextClip primitives draws (.ok [laptop, tablet]) 0 ⟨"dev_tablet"⟩ "hello" 0 false =
      .ok request := by
  decide +kernel

/-- The laptop reads the text, and its id is of no use to anyone else. -/
theorem laptop_reads :
    decryptRemoteText primitives textClip encryption ⟨"dev_laptop"⟩ identity =
        .ok (some "hello") ∧
      ∃ error, decryptRemoteText primitives textClip encryption ⟨"dev_laptop"⟩
        ⟨Bytes.fill 32 9⟩ = .error error := by
  have distinct : ([laptop, tablet].map Device.deviceId).Nodup := by decide
  obtain ⟨read, same, outcome⟩ := encodedAs_readable primitives_ideal distinct
    (.published draws 0 ⟨"dev_tablet"⟩ 0 false request request_made)
  cases same
  rcases outcome with ⟨-, reads⟩ | ⟨plain, -⟩
  · refine ⟨(reads ⟨"dev_laptop"⟩ identity).1 ?_, (reads ⟨"dev_laptop"⟩ _).2 ?_⟩
    · exact ⟨laptop, List.mem_cons_self, rfl, rfl, by decide +kernel, by decide +kernel⟩
    · rintro ⟨device, listed, named, -, -, own⟩
      simp only [List.mem_cons, List.not_mem_nil, or_false] at listed
      rcases listed with rfl | rfl
      · exact absurd own (by decide +kernel)
      · exact absurd named (by decide)
  · exact absurd plain (by decide +kernel)

end Hello

end AirPaste.Agent
