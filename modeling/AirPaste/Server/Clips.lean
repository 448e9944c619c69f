/-
# Server.Clips — the clip table and the endpoints that create clips

Clips are filed under their id and pruned when they have expired.  Two endpoints create
them: `create_clip` files what a device sends, and `simple_create_clip` seals a text of a
simple device to the trusted devices, or files it in plaintext while none of them has an
encryption key.  Both announce the clip and may leave a plaintext copy in the simple inbox.
Clock readings, ULIDs and the draws of the encryption are arguments.
-/
import AirPaste.Crypto.Sealing
import AirPaste.Server.Routes

namespace AirPaste.Server

open AirPaste.Core
open AirPaste.Crypto
open AirPaste.Protocol
open AirPaste.Theory

set_option autoImplicit false

def clipIsExpired (now : Timestamp) (clip : ClipRecord) : Bool :=
  clip.expiresAt.any fun expiresAt => decide (expiresAt ≤ now)

/-- The `CLIPS` table. -/
abbrev ClipTable := KeyedTable fun clip : ClipRecord => clip.clipId.asStr

namespace ClipTable

def cleanupExpiredClips (now : Timestamp) (clips : ClipTable) : ClipTable :=
  clips.retain fun clip => !clipIsExpired now clip

def createClip (ulid : String) (now : Timestamp) (clip : ClipRecord) (clips : ClipTable) :
    ClipRecord × ClipTable :=
  let clip := if clip.clipId.asStr = "" then { clip with clipId := ClipId.new ulid } else clip
  (clip, (clips.cleanupExpiredClips now).put clip)

def deleteClip (clipId : ClipId) (clips : ClipTable) : ClipTable := clips.remove clipId.asStr

def getClip (now : Timestamp) (clipId : ClipId) (clips : ClipTable) :
    Option ClipRecord × ClipTable :=
  match clips.get clipId.asStr with
  | none => (none, clips)
  | some clip =>
      if clipIsExpired now clip then (none, clips.deleteClip clipId) else (some clip, clips)

end ClipTable

structure SimpleInboxEntry where
  text : String
  source : String
  createdAt : Timestamp
  expiresAt : Option Timestamp
  deriving DecidableEq

/-- `ServerEvent::ClipCreated`. -/
structure ClipCreated where
  clipId : ClipId
  sourceDeviceId : DeviceId
  kind : String
  deriving DecidableEq

/-- What the clip endpoints change. -/
structure ClipState where
  clips : ClipTable
  simpleInbox : Option SimpleInboxEntry
  /-- The events broadcast, oldest first. -/
  broadcast : List ClipCreated

/-- What the creation of a clip draws, and the clock readings it makes in turn: for
`created_at`, for a lifetime, and for the cleanup. -/
structure Minting where
  clipUlid : String
  spareUlid : String
  createdAt : Timestamp
  expiring : Timestamp
  cleaning : Timestamp

def maxSimpleTextBytes : Nat := 128 * 1024
def simpleClipTtlSecs : Int := 600
def simplePlaintextScheme : String := "plaintext-simple-v1"

/-- File a clip and announce it. -/
def ClipState.publish (mint : Minting) (clip : ClipRecord) (state : ClipState) :
    ClipRecord × ClipState :=
  let kind := clip.kind.name
  let (clip, clips) := state.clips.createClip mint.spareUlid mint.cleaning clip
  (clip, { state with
    clips := clips
    broadcast := state.broadcast ++ [⟨clip.clipId, clip.sourceDeviceId, kind⟩] })

/-- `POST /v1/clips`, for the device that signed the request. -/
def createClip (app : AppState) (mint : Minting) (requestDevice : Device)
    (request : CreateClipRequest) (state : ClipState) : ApiResult CreateClipResponse × ClipState :=
  if request.sourceDeviceId ≠ requestDevice.deviceId then
    (.error (.forbidden "clip source device must match request device"), state)
  else
    let clip : ClipRecord :=
      { clipId := ClipId.new mint.clipUlid
        sourceDeviceId := request.sourceDeviceId
        createdAt := mint.createdAt
        expiresAt := request.expiresAt
        kind := request.kind
        encryption := request.encryption }
    let (clip, state) := state.publish mint clip
    let response : CreateClipResponse := ⟨clip.clipId, clip.createdAt⟩
    match request.simpleMirrorText with
    | none => (.ok response, state)
    | some text =>
        if app.simpleToken.isSome && Text.byteLen text.toList ≤ maxSimpleTextBytes then
          (.ok response, { state with
            simpleInbox := some ⟨text, requestDevice.name, clip.createdAt, clip.expiresAt⟩ })
        else (.ok response, state)

section Simple

variable {Key : Type} (p : Primitives Key)

/-- The recipients of a simple upload. -/
def simpleRecipients (devices : List Device) : List Recipient :=
  (devices.filter fun device =>
    device.trusted && Text.trim device.encryptionPublicKey ≠ "").map fun device =>
      ⟨device.deviceId, device.encryptionPublicKey⟩

/-- The body of a simple upload: sealed, or in plaintext when there are no recipients. -/
def simpleBody (draws : SealDraws) (recipients : List Recipient) (text : String) :
    ApiResult (ClipKind × EncryptionInfo) :=
  if recipients.isEmpty then
    .ok (
      .text {
        utf8Len := Text.byteLen text.toList
        preview := none
        encryptedBodyRef := ⟨simplePlaintextScheme, Text.byteLen text.toList⟩
        encryptedInlineBody := some text },
      { scheme := simplePlaintextScheme
        keyWrappedFor := []
        wrappedKeys := []
        bodyNonce := none })
  else
    match sealText p draws text recipients with
    | .error error => .error ⟨500, "failed to seal simple clip: " ++ error.message⟩
    | .ok sealed =>
        .ok (
          .text {
            utf8Len := Text.byteLen text.toList
            preview := none
            encryptedBodyRef :=
              ⟨textEncryptionScheme, Text.byteLen sealed.bodyCiphertextBase64.toList⟩
            encryptedInlineBody := some sealed.bodyCiphertextBase64 },
          { scheme := textEncryptionScheme
            keyWrappedFor := sealed.wrappedKeys.map WrappedKey.deviceId
            wrappedKeys := sealed.wrappedKeys
            bodyNonce := some sealed.bodyNonceBase64 })

/-- `POST /v1/simple/clips`. -/
def simpleCreateClip (draws : SealDraws) (app : AppState) (mint : Minting)
    (request : SimpleClipUpload) (state : ClipState) : ApiResult CreateClipResponse × ClipState :=
  let text := request.text
  if Text.trim text = "" then (.error (.badRequest "text must not be empty"), state)
  else if maxSimpleTextBytes < Text.byteLen text.toList then
    (.error (.badRequest "text too large"), state)
  else
    let source := ((request.deviceName.map Text.trim).filter (· ≠ "")).getD "simple-device"
    match simpleBody p draws (simpleRecipients app.store.devices.rows) text with
    | .error error => (.error error, state)
    | .ok (kind, encryption) =>
        let clip : ClipRecord :=
          { clipId := ClipId.new mint.clipUlid
            sourceDeviceId := ⟨"simple:" ++ source⟩
            createdAt := mint.createdAt
            expiresAt := some (mint.expiring + seconds simpleClipTtlSecs)
            kind := kind
            encryption := encryption }
        let (clip, state) := state.publish mint clip
        (.ok ⟨clip.clipId, clip.createdAt⟩, { state with
          simpleInbox := some ⟨text, source, clip.createdAt, clip.expiresAt⟩ })

end Simple

/-! ## What is filed -/

/-- A clip that is published is filed under its id as it was built. -/
theorem publish_new (state : ClipState) (mint : Minting) (clip : ClipRecord) (ulid : String)
    (new : clip.clipId = ClipId.new ulid) :
    (state.publish mint clip).1 = clip ∧
      (state.publish mint clip).2.clips.get clip.clipId.asStr = some clip := by
  have named : clip.clipId.asStr ≠ "" := new ▸ ClipId.new_asStr_ne_empty ulid
  simp only [ClipState.publish, ClipTable.createClip, if_neg named]
  exact ⟨trivial, KeyedTable.get_put_self _ clip⟩

/-- A simple upload that is accepted is filed with its body. -/
theorem simpleCreateClip_filed {Key : Type} {p : Primitives Key} {draws : SealDraws}
    {app : AppState} {mint : Minting} {request : SimpleClipUpload} {state after : ClipState}
    {response : CreateClipResponse}
    (created : simpleCreateClip p draws app mint request state = (.ok response, after)) :
    ∃ clip, after.clips.get response.clipId.asStr = some clip ∧
      simpleBody p draws (simpleRecipients app.store.devices.rows) request.text =
        .ok (clip.kind, clip.encryption) := by
  simp only [simpleCreateClip] at created
  split at created
  · cases created
  · split at created
    · cases created
    · split at created
      · cases created
      · rename_i kind encryption body
        have filed := fun sourceDeviceId expiresAt => publish_new state mint
          ⟨ClipId.new mint.clipUlid, sourceDeviceId, mint.createdAt, expiresAt, kind, encryption⟩
          mint.clipUlid rfl
        simp only [filed _ _ |>.1] at created
        cases created
        exact ⟨_, (filed _ _).2, body⟩

end AirPaste.Server
