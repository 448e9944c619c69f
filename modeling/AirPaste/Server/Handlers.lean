/-
# Server.Handlers — the whole server, one handler after the other

`ServerState` is everything the handlers read and write: the tables of the database, the
tokens and nonces, the event hub and the simple inbox.  `ServerRequest` is a request as its
handler takes it, with the device its `TrustedDevice` extractor holds and its extracted
parameters and body, or a step of a control connection; clock readings, ULIDs and the draws
of the encryption are part of it.  `serveRequest` runs one handler.
-/
import AirPaste.Server.ClipStore
import AirPaste.Server.EventHub
import AirPaste.Server.RelayHub
import AirPaste.Server.SimpleLatest
import AirPaste.Theory.Unwinding

namespace AirPaste.Server

open AirPaste.Core
open AirPaste.Crypto
open AirPaste.Protocol
open AirPaste.Theory

set_option autoImplicit false

/-- `AppState`, less the relay rooms. -/
structure ServerState where
  app : AppState
  clips : ClipTable
  relays : RelayTable
  simpleInbox : Option SimpleInboxEntry
  hub : EventHub

/-- What a handler answers with. -/
inductive ServerReply where
  | health (response : HealthResponse)
  /-- The reply of an endpoint of the device and pairing tables. -/
  | table (reply : Reply)
  | devices (devices : List Device)
  | created (response : CreateClipResponse)
  | simpleLatest (latest : Option SimpleClipLatest)
  | clip (clip : ClipRecord)
  | latest (clip : Option ClipRecord)
  | history (clips : List ClipSummary)
  | noContent
  | relay (relay : RelaySession)
  /-- The connection is upgraded, of a relay with these limits. -/
  | upgrade (admission : Option Admission)
  /-- What a step of a control connection sends to its own client. -/
  | socket (event : Option ServerEvent)
  deriving DecidableEq

abbrev Served := ApiResult ServerReply × ServerState

namespace ServerState

def broadcast (s : ServerState) (event : ServerEvent) : ServerState :=
  { s with hub := s.hub.broadcast event }

/-- `send_to`. -/
def sendTo (s : ServerState) (deviceId : DeviceId) (event : ServerEvent) : ServerState :=
  { s with hub := s.hub.sendOn deviceId event }

/-- An endpoint of the device and pairing tables. -/
def onStore (s : ServerState) (operation : StoreM (ApiResult Reply)) : Served :=
  let run := operation.run s.app.store
  (run.1.map .table, { s with app := { s.app with store := run.2 } })

/-- `touch_device`. -/
def touch (s : ServerState) (now : Timestamp) (deviceId : DeviceId) : ServerState :=
  { s with app := { s.app with
      store := ((Store.touchDevice now deviceId).run s.app.store).2 } }

/-- The device that an endpoint answers with is announced. -/
def announced (answer : ApiResult ServerReply) (s : ServerState) : ServerState :=
  match answer with
  | .ok (.table (.device device)) => s.broadcast (.deviceOnline device.deviceId)
  | _ => s

def announceDevice (served : Served) : Served := (served.1, announced served.1 served.2)

/-- An endpoint that works on the clips and the simple inbox, and announces clips. -/
def onClips {α : Type} (s : ServerState) (reply : α → ServerReply)
    (endpoint : ClipState → ApiResult α × ClipState) : Served :=
  let run := endpoint ⟨s.clips, s.simpleInbox, []⟩
  (run.1.map reply, { s with
    clips := run.2.clips
    simpleInbox := run.2.simpleInbox
    hub := run.2.broadcast.foldl
      (fun hub event => hub.broadcast (.clipCreated event.clipId event.sourceDeviceId event.kind))
      s.hub })

end ServerState

/-! ## Handlers -/

def cargoPkgVersion : String := "0.1.1"

def health (now : Timestamp) : HealthResponse := ⟨"ok", cargoPkgVersion, now⟩

def getClip (now : Timestamp) (clipId : String) (s : ServerState) : Served :=
  let run := s.clips.getClip now ⟨clipId⟩
  ((okOr run.1 (.notFound "clip not found")).map .clip, { s with clips := run.2 })

def latestClip (now : Timestamp) (s : ServerState) : Served :=
  let run := s.clips.latestClip now
  (.ok (.latest run.1), { s with clips := run.2 })

def clipSummary (clip : ClipRecord) : ClipSummary :=
  ⟨clip.clipId, clip.sourceDeviceId, clip.createdAt, clip.expiresAt, clip.kind.name⟩

def clipHistory (now : Timestamp) (limit : Option Nat) (s : ServerState) : Served :=
  let limit := min (max (limit.getD 50) 1) 200
  let run := s.clips.clipHistory now limit
  (.ok (.history (run.1.map clipSummary)), { s with clips := run.2 })

def deleteClip (clipId : String) (s : ServerState) : Served :=
  let run := s.clips.removeClip ⟨clipId⟩
  (if run.1 then .ok .noContent else .error (.notFound "clip not found"),
    { s with clips := run.2 })

def ensureTrustedDevice (app : AppState) (deviceId : DeviceId) : ApiResult Device := do
  let device ← okOr (app.store.devices.get deviceId.asStr) (.notFound "device not found")
  ensure device.trusted (.forbidden "device is not trusted")
  return device

/-- The checks of `create_relay_session`. -/
def relayParties (app : AppState) (requestDevice : Device)
    (request : CreateRelaySessionRequest) : ApiResult Unit := do
  ensure (request.sourceDeviceId == requestDevice.deviceId ||
      request.recipientDeviceId == requestDevice.deviceId)
    (.forbidden "relay requester must be the source or recipient device")
  let _source ← ensureTrustedDevice app request.sourceDeviceId
  let _recipient ← ensureTrustedDevice app request.recipientDeviceId

def createRelaySession (ulid : String) (expiring created : Timestamp) (requestDevice : Device)
    (request : CreateRelaySessionRequest) (s : ServerState) : Served :=
  match relayParties s.app requestDevice request with
  | .error error => (.error error, s)
  | .ok () =>
      let run := s.relays.createRelaySession ulid expiring created request.clipId
        request.sourceDeviceId request.recipientDeviceId request.maxBytes request.ttlSeconds
      let relay := run.1
      let event : ServerEvent := .transferRelayReady relay.sessionId relay.clipId
        relay.sourceDeviceId relay.recipientDeviceId
      let s := { s with relays := run.2 }
      (.ok (.relay relay),
        (s.sendTo relay.sourceDeviceId event).sendTo relay.recipientDeviceId event)

/-- The first message of a control connection. -/
def hello (now : Timestamp) (requestDeviceId : DeviceId) (first : Option ClientEvent)
    (s : ServerState) : Served :=
  match first with
  | some (.hello deviceId) =>
      if deviceId ≠ requestDeviceId then
        (.ok (.socket (some (.error "hello device does not match request device"))), s)
      else
        (.ok (.socket (some (.helloAck deviceId))),
          (s.touch now deviceId).broadcast (.deviceOnline deviceId))
  | _ => (.ok (.socket (some (.error "first websocket message must be hello"))), s)

/-- A client's event on its control connection. -/
def clientEvent (now : Timestamp) (fromDeviceId : DeviceId) (event : ClientEvent)
    (s : ServerState) : ServerState :=
  match event with
  | .hello _ => s.touch now fromDeviceId
  | .heartbeat => s.touch now fromDeviceId
  | event =>
      match handleClientEvent fromDeviceId event with
      | none => s
      | some (toDeviceId, sent) => s.sendTo toDeviceId sent

/-! ## Requests -/

inductive ServerRequest where
  | health (now : Timestamp)
  | registerDevice (now : Timestamp) (ulid : String) (request : HttpRequest)
  | listDevices (requestDevice : Device)
  | trustDevice (requestDevice : Device) (deviceId : String)
  | renameDevice (requestDevice : Device) (deviceId : String) (request : HttpRequest)
  | startPairing (now : Timestamp) (ulid : Nat) (requestDevice : Device) (request : HttpRequest)
  | confirmPairing (now : Timestamp) (request : HttpRequest)
  | createClip (mint : Minting) (requestDevice : Device) (request : CreateClipRequest)
  | simpleCreateClip (draws : SealDraws) (mint : Minting) (request : SimpleClipUpload)
  | simpleLatestClip (now : Timestamp)
  | getClip (now : Timestamp) (requestDevice : Device) (clipId : String)
  | latestClip (now : Timestamp) (requestDevice : Device)
  | clipHistory (now : Timestamp) (requestDevice : Device) (limit : Option Nat)
  | deleteClip (requestDevice : Device) (clipId : String)
  | createRelaySession (ulid : String) (expiring created : Timestamp) (requestDevice : Device)
      (request : CreateRelaySessionRequest)
  | relayWsUpgrade (now : Timestamp) (requestDevice : Device) (sessionId : String)
  | wsUpgrade (requestDevice : Device)
  /-- The first message of a control connection; `none` is one that does not parse. -/
  | hello (now : Timestamp) (requestDeviceId : DeviceId) (first : Option ClientEvent)
  | subscribe (deviceId : DeviceId)
  | clientEvent (now : Timestamp) (deviceId : DeviceId) (event : ClientEvent)
  /-- The server's own heartbeat of a control connection. -/
  | heartbeat (now : Timestamp) (deviceId : DeviceId)
  /-- A control connection ends. -/
  | leave (deviceId : DeviceId)

section Serve

variable {Key : Type} (p : Primitives Key) (x : Crates)

def serveRequest (s : ServerState) : ServerRequest → Served
  | .health now => (.ok (.health (health now)), s)
  | .registerDevice now ulid request => s.onStore (registerDevice x ulid now request)
  | .listDevices _ => (.ok (.devices s.app.store.devices.rows), s)
  | .trustDevice requestDevice deviceId =>
      ServerState.announceDevice (s.onStore (trustDevice x (some requestDevice) deviceId))
  | .renameDevice requestDevice deviceId request =>
      s.onStore (renameDevice x (some requestDevice) deviceId request)
  | .startPairing now ulid requestDevice request =>
      s.onStore (startPairing x ulid now (some requestDevice) request)
  | .confirmPairing now request =>
      ServerState.announceDevice (s.onStore (confirmPairing x now request))
  | .createClip mint requestDevice request =>
      s.onClips .created (createClip s.app mint requestDevice request)
  | .simpleCreateClip draws mint request =>
      s.onClips .created (simpleCreateClip p draws s.app mint request)
  | .simpleLatestClip now =>
      s.onClips .simpleLatest fun state =>
        (.ok (simpleLatestClip now state).1, (simpleLatestClip now state).2)
  | .getClip now _ clipId => getClip now clipId s
  | .latestClip now _ => latestClip now s
  | .clipHistory now _ limit => clipHistory now limit s
  | .deleteClip _ clipId => deleteClip clipId s
  | .createRelaySession ulid expiring created requestDevice request =>
      createRelaySession ulid expiring created requestDevice request s
  | .relayWsUpgrade now requestDevice sessionId =>
      ((relayWsUpgrade s.relays now requestDevice.deviceId ⟨sessionId⟩).map (.upgrade ∘ some), s)
  | .wsUpgrade _ => (.ok (.upgrade none), s)
  | .hello now requestDeviceId first => hello now requestDeviceId first s
  | .subscribe deviceId =>
      (.ok (.socket none), { s with hub := (s.hub.subscribeDevice deviceId).2 })
  | .clientEvent now deviceId event => (.ok (.socket none), clientEvent now deviceId event s)
  | .heartbeat now deviceId => (.ok (.socket none), s.touch now deviceId)
  | .leave deviceId => (.ok (.socket none), s.broadcast (.deviceOffline deviceId))

/-- The state after the requests. -/
def servedAll (s : ServerState) (requests : List ServerRequest) : ServerState :=
  runFrom (nextState (serveRequest p x)) s requests

/-- The responses to the requests, in order. -/
def responses (s : ServerState) (requests : List ServerRequest) : List (ApiResult ServerReply) :=
  answers (serveRequest p x) s requests

end Serve

end AirPaste.Server
