/-
# Agent.BadKeys — sealing to devices whose keys are not all keys

Both encoders of text clips select the trusted devices whose registered key is not blank, and
wrap the content key for each of them; the first key that does not decode ends the sealing.
`OthersRead` is what the devices with well-formed keys are owed whatever the other devices
registered.  `othersRead_iff`: they get it exactly when nobody has a well-formed key, or every
trusted device's key is blank or well formed.
-/
import AirPaste.Agent.TextClip
import AirPaste.Theory.Pieces

namespace AirPaste.Agent

open AirPaste.Core
open AirPaste.Crypto
open AirPaste.Protocol
open AirPaste.Server
open AirPaste.Theory

set_option autoImplicit false

section Model

variable {Key : Type} (p : Primitives Key)

/-- The string decodes to a public key. -/
def WellFormedKey (key : String) : Prop := ∃ pub, decodePublicKey p key = .ok pub

/-- The primitives at work: a key is derived from every agreement, messages up to a limit are
encrypted, among them content keys, and white space stands for no bytes. -/
structure Working (limit : Nat) : Prop where
  derives : ∀ secret info, (p.hkdf secret info).isSome = true
  encrypts : ∀ key nonce associated message, message.length ≤ limit →
    (p.aead.encrypt key nonce associated message).isSome = true
  holdsKey : 32 ≤ limit
  blank : ∀ value, Text.trim value = "" → ∀ bytes, p.base64.decode value = .ok bytes → bytes = []

/-- The clip reads as the text on every trusted device with a well-formed key. -/
def ReadByAll (devices : List Device) (text : String) (kind : ClipKind)
    (encryption : EncryptionInfo) : Prop :=
  ∃ textClip, kind = .text textClip ∧
    ∀ device ∈ devices, device.trusted = true → ∀ identity : EncryptionIdentity,
      decodePublicKey p device.encryptionPublicKey = .ok (identity.publicKey p) →
      decryptRemoteText p textClip encryption device.deviceId identity = .ok (some text)

/-- If one trusted device has a well-formed key, both encoders seal the text to those that do. -/
def OthersRead (devices : List Device) (draws : SealDraws) (text : String) : Prop :=
  (∃ device ∈ devices, device.trusted = true ∧ WellFormedKey p device.encryptionPublicKey) →
    (∀ now deviceId ttlSecs mirrorSimple, ∃ request,
      publishTextClip p draws (.ok devices) now deviceId text ttlSecs mirrorSimple = .ok request ∧
      ReadByAll p devices text request.kind request.encryption) ∧
    ∀ (app : AppState) mint deviceName before, app.store.devices.rows = devices →
      Text.trim text ≠ "" → Text.byteLen text.toList ≤ maxSimpleTextBytes →
      ∃ response after clip,
        simpleCreateClip p draws app mint ⟨text, deviceName⟩ before = (.ok response, after) ∧
        after.clips.get response.clipId.asStr = some clip ∧
        ReadByAll p devices text clip.kind clip.encryption

end Model

variable {Key : Type} {p : Primitives Key} {limit : Nat}

/-! ## What sealing needs -/

theorem wrapKey_ok_iff_wellFormed (works : Working p limit) (cek : Bytes 32) (draw : WrapDraw)
    {recipient : Recipient} :
    (∃ wrapped, wrapKey p cek draw recipient = .ok wrapped) ↔
      WellFormedKey p recipient.publicKeyBase64 := by
  constructor
  · rintro ⟨wrapped, made⟩
    obtain ⟨recipientPub, _, _, wraps⟩ := wrapKey_ok_iff.mp made
    exact ⟨recipientPub, wraps.decoded⟩
  · rintro ⟨recipientPub, decoded⟩
    obtain ⟨key, derived⟩ := Option.isSome_iff_exists.mp
      (works.derives (p.x25519.diffieHellman draw.ephemeral recipientPub)
        (keyWrapInfo ++ (p.x25519.publicKey draw.ephemeral).toList ++ recipientPub.toList))
    obtain ⟨ciphertext, encrypted⟩ := Option.isSome_iff_exists.mp
      (works.encrypts key draw.nonce [] cek.toList (by
        rw [cek.length_toList]
        exact works.holdsKey))
    exact ⟨_, wrapKey_ok_iff.mpr ⟨recipientPub, key, ciphertext, decoded,
      okOr_ok_iff.mpr derived, encrypted, rfl⟩⟩

/-- One key that does not decode is enough for no content key to be wrapped. -/
theorem wrapKeys_ok_iff_wellFormed (works : Working p limit) (cek : Bytes 32)
    (draws : Nat → WrapDraw) (position : Nat) {recipients : List Recipient} :
    (∃ wrappedKeys, wrapKeys p cek draws position recipients = .ok wrappedKeys) ↔
      ∀ recipient ∈ recipients, WellFormedKey p recipient.publicKeyBase64 := by
  induction recipients generalizing position with
  | nil => exact iff_of_true ⟨[], rfl⟩ fun recipient member => by cases member
  | cons recipient rest ih =>
      rw [List.forall_mem_cons, ← wrapKey_ok_iff_wellFormed works cek (draws position),
        ← ih (position + 1)]
      simp only [wrapKeys, bind_ok_iff]
      constructor
      · rintro ⟨_, wrapped, first, later, others, -⟩
        exact ⟨⟨wrapped, first⟩, later, others⟩
      · rintro ⟨⟨wrapped, first⟩, later, others⟩
        exact ⟨wrapped :: later, wrapped, first, later, others, rfl⟩

theorem sealText_ok_iff_wellFormed (works : Working p limit) (draws : SealDraws) {text : String}
    {recipients : List Recipient} (fits : text.toUTF8.toList.length ≤ limit) :
    (∃ sealed, sealText p draws text recipients = .ok sealed) ↔
      recipients ≠ [] ∧ ∀ recipient ∈ recipients, WellFormedKey p recipient.publicKeyBase64 := by
  rw [← wrapKeys_ok_iff_wellFormed works draws.cek draws.wraps 0]
  simp only [sealText, bind_ok_iff, sealBytes_ok_iff]
  constructor
  · rintro ⟨_, body, ⟨nonempty, -, -, made⟩, -⟩
    exact ⟨nonempty, body.wrappedKeys, made⟩
  · rintro ⟨nonempty, wrappedKeys, made⟩
    obtain ⟨ciphertext, encrypted⟩ := Option.isSome_iff_exists.mp
      (works.encrypts (p.contentKey draws.cek) draws.bodyNonce bodyAad _ fits)
    exact ⟨_, ⟨ciphertext, draws.bodyNonce, wrappedKeys⟩, ⟨nonempty, rfl, encrypted, made⟩, rfl⟩

/-- A well-formed key is not blank. -/
theorem WellFormedKey.advertised (works : Working p limit) {key : String}
    (formed : WellFormedKey p key) : Text.trim key ≠ "" := by
  intro blank
  obtain ⟨pub, decoded⟩ := formed
  have none := works.blank key blank _ (decodeArray_ok_iff.mp decoded)
  have length := pub.length_toList
  rw [none] at length
  cases length

/-! ## The two encoders -/

section Encoders

variable {devices : List Device} {draws : SealDraws} {text : String}

/-- A sealed text is published. -/
theorem publishTextClip_of_sealText {sealed : SealedText}
    (made : sealText p draws text (simpleRecipients devices) = .ok sealed)
    (present : simpleRecipients devices ≠ []) (now : Timestamp) (deviceId : DeviceId)
    (ttlSecs : Nat) (mirrorSimple : Bool) :
    ∃ request, publishTextClip p draws (.ok devices) now deviceId text ttlSecs mirrorSimple =
      .ok request := by
  refine ⟨_, bind_ok_iff.mpr ⟨simpleRecipients devices, trustedEncryptionRecipients_eq devices,
    bind_ok_iff.mpr ⟨(), ensure_ok_iff.mpr ?_, bind_ok_iff.mpr ⟨sealed,
      mapError_ok_iff.mpr made, rfl⟩⟩⟩⟩
  rw [List.isEmpty_eq_false_iff.mpr present]
  rfl

/-- A sealed text of a simple device is filed. -/
theorem simpleCreateClip_of_sealText {sealed : SealedText} {app : AppState}
    (made : sealText p draws text (simpleRecipients app.store.devices.rows) = .ok sealed)
    (present : simpleRecipients app.store.devices.rows ≠ []) (filled : Text.trim text ≠ "")
    (small : Text.byteLen text.toList ≤ maxSimpleTextBytes) (mint : Minting)
    (deviceName : Option String) (before : ClipState) :
    ∃ response after, simpleCreateClip p draws app mint ⟨text, deviceName⟩ before =
      (.ok response, after) := by
  have body : ∃ content,
      simpleBody p draws (simpleRecipients app.store.devices.rows) text = .ok content := by
    unfold simpleBody
    rw [List.isEmpty_eq_false_iff.mpr present, if_neg Bool.false_ne_true, made]
    exact ⟨_, rfl⟩
  obtain ⟨⟨kind, encryption⟩, body⟩ := body
  simp only [simpleCreateClip]
  rw [if_neg filled, if_neg (Nat.not_lt.mpr small), body]
  exact ⟨_, _, rfl⟩

/-- What either encoder makes of a sealed text reads on every device with a well-formed key. -/
theorem readByAll_of_encodedAs (ideal : p.Ideal) (works : Working p limit) {kind : ClipKind}
    {encryption : EncryptionInfo} (distinct : (devices.map Device.deviceId).Nodup)
    (encoded : EncodedAs p devices text kind encryption) :
    ReadByAll p devices text kind encryption := by
  obtain ⟨textClip, rfl, reads⟩ := encodedAs_readable ideal distinct encoded
  refine ⟨textClip, rfl, fun device listed trusted identity decoded => ?_⟩
  rcases reads with ⟨-, sealedReads⟩ | ⟨-, -, plainReads⟩
  · exact (sealedReads device.deviceId identity).1
      ⟨device, listed, rfl, trusted, WellFormedKey.advertised works ⟨_, decoded⟩, decoded⟩
  · exact plainReads device.deviceId identity

theorem forall_simpleRecipients_iff :
    (∀ recipient ∈ simpleRecipients devices, WellFormedKey p recipient.publicKeyBase64) ↔
      ∀ device ∈ devices, device.trusted = true → Text.trim device.encryptionPublicKey ≠ "" →
        WellFormedKey p device.encryptionPublicKey := by
  constructor
  · intro every device listed trusted advertises
    exact every _ (mem_simpleRecipients_iff.mpr ⟨device, listed, trusted, advertises, rfl⟩)
  · intro every recipient member
    obtain ⟨device, listed, trusted, advertises, rfl⟩ := mem_simpleRecipients_iff.mp member
    exact every device listed trusted advertises

end Encoders

/-! ## A blank key beside a good one, and a bad one -/

namespace KioskKey

open AirPaste.Crypto.Sample
open Hello

/-- White space stands for no bytes. -/
theorem decode_blank {value : String} (blank : Text.trim value = "") {bytes : List UInt8}
    (decoded : primitives.base64.decode value = .ok bytes) : bytes = [] := by
  have chars : Text.trimChars value.toList = [] := by
    rw [← String.toList_ofList (l := Text.trimChars value.toList)]
    exact congrArg String.toList blank
  obtain ⟨leading, trailing, split, before, after⟩ := Text.trimChars_split value.toList
  rw [chars, List.nil_append] at split
  have spaces : ∀ c ∈ value.toList, Text.isWhitespace c = true := by
    rw [split]
    intro c member
    exact (List.mem_append.mp member).elim (before c) (after c)
  have foreign : Alphabet.standard.chars.all (fun c => !Text.isWhitespace c) = true := by decide
  simp only [primitives, Alphabet.codec, Alphabet.decodePadded] at decoded
  cases characters : value.toList with
  | nil =>
      rw [characters] at decoded
      cases decoded
      rfl
  | cons c rest =>
      have blankHead := spaces c (characters ▸ List.mem_cons_self)
      have unknown : Alphabet.standard.value c = none := by
        have absent : c ∉ Alphabet.standard.chars := by
          intro member
          have filled := List.all_eq_true.mp foreign c member
          rw [blankHead] at filled
          cases filled
        simp only [Alphabet.value, List.idxOf_of_notMem absent, Alphabet.standard.length_chars]
        rfl
      have whole : Text.dropEnd (· == '=') value.toList = value.toList := by
        refine Text.dropEnd_of_none fun d member => beq_eq_false_iff_ne.mpr ?_
        rintro rfl
        exact absurd (spaces '=' member) (by decide)
      have fails : Alphabet.standard.decode (c :: rest) = none := by
        rw [Alphabet.decode, List.mapM_cons, unknown]
        rfl
      rw [whole, characters, fails, ite_self] at decoded
      cases decoded

theorem works : Working primitives 4096 where
  derives _ _ := rfl
  encrypts key nonce associated message _ := by
    show (Aead.encrypt (Aead.recorded records (Aead.framed 24)) key nonce associated
      message).isSome = true
    simp only [Aead.recorded]
    split
    · rfl
    · rfl
  holdsKey := by decide
  blank _ blank _ decoded := decode_blank blank decoded

/-- A device whose key is not one. -/
def kiosk : Device :=
  { laptop with deviceId := ⟨"dev_kiosk"⟩, name := "kiosk", encryptionPublicKey := "not-a-key" }

/-- Refuting pole: with the kiosk trusted, nobody is sent a text. -/
theorem kiosk_blocks : ¬ ∀ (devices : List Device) (draws : SealDraws) (text : String),
    (devices.map Device.deviceId).Nodup → OthersRead primitives devices draws text := by
  intro always
  have others := always [laptop, kiosk] draws "hello" (by decide)
  obtain ⟨request, made, -⟩ := (others ⟨laptop, List.mem_cons_self, rfl, ⟨devicePublic, by
    decide +kernel⟩⟩).1 0 ⟨""⟩ 0 false
  obtain ⟨-, sealed, _, sealedText, -⟩ := publishTextClip_carries made
  obtain ⟨-, formed⟩ :=
    (sealText_ok_iff_wellFormed works draws (by decide +kernel)).mp ⟨sealed, sealedText⟩
  obtain ⟨pub, decoded⟩ := forall_simpleRecipients_iff.mp formed kiosk
    (List.mem_cons_of_mem _ List.mem_cons_self) rfl (by decide +kernel)
  have undecoded : decodePublicKey primitives kiosk.encryptionPublicKey =
      .error (.base64 "invalid base64") := by
    decide +kernel
  cases undecoded.symm.trans decoded

end KioskKey

/-- **When the other devices read**: no trusted device has a well-formed key, or every key that a
trusted device registered, if it is not blank, is well formed. -/
theorem othersRead_iff (ideal : p.Ideal) (works : Working p limit) {devices : List Device}
    (distinct : (devices.map Device.deviceId).Nodup) (draws : SealDraws) {text : String}
    (fits : text.toUTF8.toList.length ≤ limit) :
    OthersRead p devices draws text ↔
      (∀ device ∈ devices, device.trusted = true →
        ¬ WellFormedKey p device.encryptionPublicKey) ∨
      ∀ device ∈ devices, device.trusted = true → Text.trim device.encryptionPublicKey ≠ "" →
        WellFormedKey p device.encryptionPublicKey := by
  constructor
  · intro others
    by_cases someone : ∃ device ∈ devices, device.trusted = true ∧
        WellFormedKey p device.encryptionPublicKey
    · obtain ⟨request, made, -⟩ := (others someone).1 0 ⟨""⟩ 0 false
      obtain ⟨-, sealed, _, sealedText, -⟩ := publishTextClip_carries made
      exact .inr (forall_simpleRecipients_iff.mp
        ((sealText_ok_iff_wellFormed works draws fits).mp ⟨sealed, sealedText⟩).2)
    · refine .inl fun device listed trusted formed => someone ⟨device, listed, trusted, formed⟩
  · rintro (nobody | everyone)
    · rintro ⟨device, listed, trusted, formed⟩
      exact absurd formed (nobody device listed trusted)
    · rintro ⟨device, listed, trusted, formed⟩
      have present : simpleRecipients devices ≠ [] := List.ne_nil_of_mem
        (mem_simpleRecipients_iff.mpr ⟨device, listed, trusted, formed.advertised works, rfl⟩)
      obtain ⟨sealed, made⟩ := (sealText_ok_iff_wellFormed works draws fits).mpr
        ⟨present, forall_simpleRecipients_iff.mpr everyone⟩
      refine ⟨fun now deviceId ttlSecs mirrorSimple => ?_, fun app mint deviceName before rows
        filled small => ?_⟩
      · obtain ⟨request, published⟩ :=
          publishTextClip_of_sealText made present now deviceId ttlSecs mirrorSimple
        exact ⟨request, published, readByAll_of_encodedAs ideal works distinct
          (.published draws now deviceId ttlSecs mirrorSimple request published)⟩
      · subst rows
        obtain ⟨response, after, created⟩ :=
          simpleCreateClip_of_sealText made present filled small mint deviceName before
        obtain ⟨clip, filed, -⟩ := simpleCreateClip_filed created
        exact ⟨response, after, clip, created, filed, readByAll_of_encodedAs ideal works distinct
          (.uploaded draws app mint deviceName before after response clip rfl created filed)⟩

namespace KioskKey

open AirPaste.Crypto.Sample
open Hello

theorem tablet_does_not_block : OthersRead primitives [laptop, tablet] draws "hello" := by
  refine (othersRead_iff primitives_ideal works (by decide) draws (by decide +kernel)).mpr (.inr ?_)
  intro device listed trusted advertises
  simp only [List.mem_cons, List.not_mem_nil, or_false] at listed
  rcases listed with rfl | rfl
  · exact ⟨devicePublic, by decide +kernel⟩
  · exact absurd (by decide +kernel) advertises

end KioskKey

end AirPaste.Agent
