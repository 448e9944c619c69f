/-
# Server.MirrorText — a mirrored text reaches the simple inbox and nothing else

`simple_mirror_text` is a plaintext copy of a clip that is otherwise sealed.  `create_clip`
puts it in the simple inbox, which only `simple_latest_clip` reads.

Two runs of the server over requests that agree once the mirrored texts are erased are
compared: `mirror_isolated` says that they leave the same database, publish the same events
and answer alike, except to `GET /v1/simple/clips/latest`, and alike there too when simple
access is off.
-/
import AirPaste.Server.Handlers

namespace AirPaste.Server

open AirPaste.Core
open AirPaste.Crypto
open AirPaste.Protocol
open AirPaste.Theory

set_option autoImplicit false

/-- The request without its mirrored text. -/
def withoutMirror (request : CreateClipRequest) : CreateClipRequest :=
  { request with simpleMirrorText := none }

namespace ServerRequest

/-- The request with a mirrored text erased. -/
def eraseMirror : ServerRequest → ServerRequest
  | .createClip mint requestDevice request => .createClip mint requestDevice (withoutMirror request)
  | request => request

/-- Every request but `GET /v1/simple/clips/latest`. -/
def Visible (request : ServerRequest) : Prop := ∀ now, request ≠ .simpleLatestClip now

def IsCreateClip (request : ServerRequest) : Prop :=
  ∃ mint requestDevice body, request = .createClip mint requestDevice body

variable {request other : ServerRequest}

theorem eraseMirror_of_not (elsewhere : ¬ request.IsCreateClip) :
    request.eraseMirror = request := by
  cases request with
  | createClip mint requestDevice body => exact absurd ⟨mint, requestDevice, body, rfl⟩ elsewhere
  | _ => rfl

theorem isCreateClip_eraseMirror : request.eraseMirror.IsCreateClip ↔ request.IsCreateClip := by
  by_cases creates : request.IsCreateClip
  · obtain ⟨mint, requestDevice, body, rfl⟩ := creates
    exact iff_of_true ⟨mint, requestDevice, withoutMirror body, rfl⟩
      ⟨mint, requestDevice, body, rfl⟩
  · rw [eraseMirror_of_not creates]

/-- Requests that agree but for a mirrored text are the same, or create a clip from bodies
that agree but for it. -/
theorem eraseMirror_eq (same : request.eraseMirror = other.eraseMirror) :
    request = other ∨ ∃ mint requestDevice body body',
      request = .createClip mint requestDevice body ∧
      other = .createClip mint requestDevice body' ∧ withoutMirror body = withoutMirror body' := by
  by_cases creates : request.IsCreateClip
  · have createsToo : other.IsCreateClip := by
      rwa [← isCreateClip_eraseMirror, ← same, isCreateClip_eraseMirror]
    obtain ⟨mint, requestDevice, body, rfl⟩ := creates
    obtain ⟨mint', requestDevice', body', rfl⟩ := createsToo
    obtain ⟨rfl, rfl, bodies⟩ := ServerRequest.createClip.inj same
    exact Or.inr ⟨mint, requestDevice, body, body', rfl, rfl, bodies⟩
  · have elsewhere : ¬ other.IsCreateClip := by
      rwa [← isCreateClip_eraseMirror, ← same, isCreateClip_eraseMirror]
    rw [eraseMirror_of_not creates, eraseMirror_of_not elsewhere] at same
    exact Or.inl same

end ServerRequest

/-- The same database, and the same events published to everyone and to each device. -/
structure SameOutside (s t : ServerState) : Prop where
  store : s.app.store = t.app.store
  clips : s.clips = t.clips
  relays : s.relays = t.relays
  hub : s.hub = t.hub

/-! ## What `create_clip` does with the text -/

section CreateClip

variable {app : AppState} {mint : Minting} {requestDevice : Device}

/-- What two clip states share whatever their simple inboxes hold. -/
def SameClips (a b : ClipState) : Prop := a.clips = b.clips ∧ a.broadcast = b.broadcast

/-- The clip a device's request files. -/
def requestedClip (mint : Minting) (body : CreateClipRequest) : ClipRecord where
  clipId := ClipId.new mint.clipUlid
  sourceDeviceId := body.sourceDeviceId
  createdAt := mint.createdAt
  expiresAt := body.expiresAt
  kind := body.kind
  encryption := body.encryption

/-- Whatever becomes of the text, the clip is filed, announced and answered with. -/
theorem createClip_published (app : AppState) (mint : Minting) {body : CreateClipRequest}
    (state : ClipState)
    (own : body.sourceDeviceId = requestDevice.deviceId) :
    let published := state.publish mint (requestedClip mint body)
    (createClip app mint requestDevice body state).1 =
        .ok ⟨published.1.clipId, published.1.createdAt⟩ ∧
      SameClips (createClip app mint requestDevice body state).2 published.2 := by
  simp only [createClip, if_neg (not_not.mpr own)]
  cases body.simpleMirrorText with
  | none => exact ⟨rfl, rfl, rfl⟩
  | some text =>
      simp only
      split
      · exact ⟨rfl, rfl, rfl⟩
      · exact ⟨rfl, rfl, rfl⟩

theorem publish_alike (mint : Minting) {a b : ClipState} (states : SameClips a b)
    (clip : ClipRecord) :
    (a.publish mint clip).1 = (b.publish mint clip).1 ∧
      SameClips (a.publish mint clip).2 (b.publish mint clip).2 := by
  obtain ⟨clips, broadcast⟩ := states
  simp only [ClipState.publish, SameClips, clips, broadcast, and_self]

/-- Neither the text nor the inbox shows in the answer, the table or the events. -/
theorem createClip_alike (app : AppState) (mint : Minting) (requestDevice : Device)
    {body body' : CreateClipRequest} {a b : ClipState}
    (bodies : withoutMirror body = withoutMirror body') (states : SameClips a b) :
    (createClip app mint requestDevice body a).1 = (createClip app mint requestDevice body' b).1 ∧
      SameClips (createClip app mint requestDevice body a).2
        (createClip app mint requestDevice body' b).2 := by
  obtain ⟨source, expiry, kind, encryption, -⟩ := CreateClipRequest.mk.inj bodies
  have requested : requestedClip mint body = requestedClip mint body' := by
    simp only [requestedClip, source, expiry, kind, encryption]
  by_cases own : body.sourceDeviceId = requestDevice.deviceId
  · obtain ⟨answer, clips, broadcast⟩ := createClip_published app mint a own
    obtain ⟨answer', clips', broadcast'⟩ :=
      createClip_published app mint b (source ▸ own)
    obtain ⟨same, sameClips, sameBroadcast⟩ :=
      publish_alike mint states (requestedClip mint body')
    rw [requested] at answer clips broadcast
    refine ⟨?_, ?_, ?_⟩
    · rw [answer, answer', same]
    · rw [clips, clips', sameClips]
    · rw [broadcast, broadcast', sameBroadcast]
  · simp only [createClip, if_pos own, if_pos (source ▸ own)]
    exact ⟨trivial, states⟩

/-- Without simple access the text makes no difference at all. -/
theorem createClip_disabled (mint : Minting) (requestDevice : Device)
    {body body' : CreateClipRequest} (disabled : app.simpleToken = none)
    (bodies : withoutMirror body = withoutMirror body') (state : ClipState) :
    createClip app mint requestDevice body state =
      createClip app mint requestDevice body' state := by
  have inbox : ∀ body : CreateClipRequest, mirrored app requestDevice body = none := by
    intro body
    simp [mirrored, disabled]
  obtain ⟨answer, clips, broadcast⟩ :=
    createClip_alike app mint requestDevice bodies ⟨rfl, rfl⟩
  have slots : (createClip app mint requestDevice body state).2.simpleInbox =
      (createClip app mint requestDevice body' state).2.simpleInbox := by
    rw [createClip_simpleInbox, createClip_simpleInbox, inbox, inbox]
    rfl
  exact Prod.ext answer (by
    cases left : (createClip app mint requestDevice body state).2
    cases right : (createClip app mint requestDevice body' state).2
    rw [left, right] at clips broadcast slots
    cases clips
    cases broadcast
    cases slots
    rfl)

end CreateClip

/-! ## One request -/

section Step

variable {Key : Type} {p : Primitives Key} {x : Crates}

def ServerState.withInbox (s : ServerState) (inbox : Option SimpleInboxEntry) : ServerState :=
  { s with simpleInbox := inbox }

/-- A served request whose answer is the same, and whose state differs in the inbox only. -/
def Alike (first second : Served) : Prop :=
  first.1 = second.1 ∧ ∃ inbox, second.2 = first.2.withInbox inbox

/-- An endpoint of which neither the answer nor the table nor the events depend on the
inbox. -/
theorem onClips_alike {α : Type} (s : ServerState) (inbox : Option SimpleInboxEntry)
    (reply : α → ServerReply) {endpoint endpoint' : ClipState → ApiResult α × ClipState}
    (alike : ∀ a b, SameClips a b →
      (endpoint a).1 = (endpoint' b).1 ∧ SameClips (endpoint a).2 (endpoint' b).2) :
    Alike (s.onClips reply endpoint) ((s.withInbox inbox).onClips reply endpoint') := by
  obtain ⟨answer, clips, broadcast⟩ :=
    alike ⟨s.clips, s.simpleInbox, []⟩ ⟨s.clips, inbox, []⟩ ⟨rfl, rfl⟩
  refine ⟨congrArg (Except.map reply) answer,
    (endpoint' ⟨s.clips, inbox, []⟩).2.simpleInbox, ?_⟩
  simp only [ServerState.onClips, ServerState.withInbox, clips, broadcast]

theorem simpleCreateClip_alike (draws : SealDraws) (app : AppState) (mint : Minting)
    (request : SimpleClipUpload) {a b : ClipState} (states : SameClips a b) :
    (simpleCreateClip p draws app mint request a).1 =
        (simpleCreateClip p draws app mint request b).1 ∧
      SameClips (simpleCreateClip p draws app mint request a).2
        (simpleCreateClip p draws app mint request b).2 := by
  have filed := fun clip => (publish_alike mint states clip).1
  have table := fun clip => (publish_alike mint states clip).2.1
  have events := fun clip => (publish_alike mint states clip).2.2
  simp only [simpleCreateClip]
  split
  · exact ⟨rfl, states⟩
  · split
    · exact ⟨rfl, states⟩
    · split
      · exact ⟨rfl, states⟩
      · simp only [SameClips, filed, table, events, and_self]

/-- The announcement of a device leaves the inbox alone. -/
theorem announceDevice_alike (s : ServerState) (inbox : Option SimpleInboxEntry)
    (operation : StoreM (ApiResult Reply)) :
    Alike (ServerState.announceDevice (s.onStore operation))
      (ServerState.announceDevice ((s.withInbox inbox).onStore operation)) := by
  refine ⟨rfl, inbox, ?_⟩
  show ServerState.announced (s.onStore operation).1 ((s.onStore operation).2.withInbox inbox) =
    (ServerState.announced (s.onStore operation).1 (s.onStore operation).2).withInbox inbox
  unfold ServerState.announced
  split
  · rfl
  · rfl

theorem createRelaySession_alike (s : ServerState) (inbox : Option SimpleInboxEntry)
    (ulid : String) (expiring created : Timestamp) (requestDevice : Device)
    (request : CreateRelaySessionRequest) :
    Alike (createRelaySession ulid expiring created requestDevice request s)
      (createRelaySession ulid expiring created requestDevice request (s.withInbox inbox)) := by
  simp only [createRelaySession, ServerState.withInbox]
  split
  · exact ⟨rfl, inbox, rfl⟩
  · exact ⟨rfl, inbox, rfl⟩

theorem clientEvent_withInbox (s : ServerState) (inbox : Option SimpleInboxEntry)
    (now : Timestamp) (deviceId : DeviceId) (event : ClientEvent) :
    clientEvent now deviceId event (s.withInbox inbox) =
      (clientEvent now deviceId event s).withInbox inbox := by
  cases event <;> rfl

theorem hello_alike (s : ServerState) (inbox : Option SimpleInboxEntry) (now : Timestamp)
    (requestDeviceId : DeviceId) (first : Option ClientEvent) :
    Alike (hello now requestDeviceId first s)
      (hello now requestDeviceId first (s.withInbox inbox)) := by
  unfold hello
  split
  · split
    · exact ⟨rfl, inbox, rfl⟩
    · exact ⟨rfl, inbox, rfl⟩
  · exact ⟨rfl, inbox, rfl⟩

/-- Serving requests that agree but for a mirrored text tells two states that differ in the
inbox apart by the answer of `simple_latest_clip` alone. -/
theorem serveRequest_alike (s : ServerState) (inbox : Option SimpleInboxEntry)
    {request other : ServerRequest} (same : request.eraseMirror = other.eraseMirror) :
    (∃ inbox', (serveRequest p x (s.withInbox inbox) other).2 =
        (serveRequest p x s request).2.withInbox inbox') ∧
      (request.Visible → (serveRequest p x s request).1 =
        (serveRequest p x (s.withInbox inbox) other).1) := by
  have alike : Alike (serveRequest p x s request) (serveRequest p x (s.withInbox inbox) other) →
      _ := fun ⟨answer, state⟩ => And.intro state fun _ : request.Visible => answer
  rcases ServerRequest.eraseMirror_eq same with
    rfl | ⟨mint, requestDevice, body, body', rfl, rfl, bodies⟩
  · cases request with
    | createClip mint requestDevice body =>
        exact alike (onClips_alike s inbox .created fun a b =>
          createClip_alike s.app mint requestDevice rfl)
    | simpleCreateClip draws mint body =>
        exact alike (onClips_alike s inbox .created fun a b =>
          simpleCreateClip_alike draws s.app mint body)
    | simpleLatestClip now =>
        exact ⟨⟨_, rfl⟩, fun visible => absurd rfl (visible now)⟩
    | trustDevice requestDevice deviceId => exact alike (announceDevice_alike s inbox _)
    | confirmPairing now request => exact alike (announceDevice_alike s inbox _)
    | createRelaySession ulid expiring created requestDevice request =>
        exact alike (createRelaySession_alike s inbox ulid expiring created requestDevice request)
    | clientEvent now deviceId event =>
        exact alike ⟨rfl, inbox, clientEvent_withInbox s inbox now deviceId event⟩
    | hello now requestDeviceId first => exact alike (hello_alike s inbox now requestDeviceId first)
    | _ => exact alike ⟨rfl, inbox, rfl⟩
  · exact alike (onClips_alike s inbox .created fun a b =>
      createClip_alike s.app mint requestDevice bodies)

theorem announceDevice_simpleToken (s : ServerState) (operation : StoreM (ApiResult Reply)) :
    (ServerState.announceDevice (s.onStore operation)).2.app.simpleToken = s.app.simpleToken := by
  unfold ServerState.announceDevice ServerState.announced
  split
  · rfl
  · rfl

/-- No request changes the tokens. -/
theorem serveRequest_simpleToken (s : ServerState) (request : ServerRequest) :
    (serveRequest p x s request).2.app.simpleToken = s.app.simpleToken := by
  cases request with
  | trustDevice requestDevice deviceId => exact announceDevice_simpleToken s _
  | confirmPairing now request => exact announceDevice_simpleToken s _
  | createRelaySession ulid expiring created requestDevice request =>
      simp only [serveRequest, createRelaySession]
      split
      · rfl
      · rfl
  | clientEvent now deviceId event => cases event <;> rfl
  | hello now requestDeviceId first =>
      simp only [serveRequest, hello]
      split
      · split
        · rfl
        · rfl
      · rfl
  | _ => rfl

/-- With simple access off, requests that agree but for a mirrored text are served alike. -/
theorem serveRequest_disabled {s : ServerState} (disabled : s.app.simpleToken = none)
    {request other : ServerRequest} (same : request.eraseMirror = other.eraseMirror) :
    serveRequest p x s request = serveRequest p x s other := by
  rcases ServerRequest.eraseMirror_eq same with
    rfl | ⟨mint, requestDevice, body, body', rfl, rfl, bodies⟩
  · rfl
  · have clip := createClip_disabled mint requestDevice disabled bodies
      ⟨s.clips, s.simpleInbox, []⟩
    simp only [serveRequest, ServerState.onClips, clip]

end Step

/-! ## Two runs -/

section Runs

variable {Key : Type} (p : Primitives Key) (x : Crates)

/-- **A mirrored text is seen by `GET /v1/simple/clips/latest` and by nothing else.** -/
theorem mirror_isolated (s : ServerState) (requests others : List ServerRequest)
    (agree : requests.map ServerRequest.eraseMirror = others.map ServerRequest.eraseMirror) :
    SameOutside (servedAll p x s requests) (servedAll p x s others) ∧
      (∀ (i : Nat) (request : ServerRequest), requests[i]? = some request → request.Visible →
        (responses p x s requests)[i]? = (responses p x s others)[i]?) ∧
      (s.app.simpleToken = none → responses p x s requests = responses p x s others) := by
  have keeps : ∀ (s t : ServerState) (request other : ServerRequest),
      (∃ inbox, t = s.withInbox inbox) → request.eraseMirror = other.eraseMirror →
      (∃ inbox, (serveRequest p x t other).2 = (serveRequest p x s request).2.withInbox inbox) ∧
        (request.Visible → (serveRequest p x s request).1 = (serveRequest p x t other).1) := by
    rintro s t request other ⟨inbox, rfl⟩ same
    exact serveRequest_alike s inbox same
  obtain ⟨⟨inbox, final⟩, alike⟩ := unwinding keeps agree ⟨s.simpleInbox, rfl⟩
  refine ⟨?_, alike, fun disabled => ?_⟩
  · have final : servedAll p x s others = (servedAll p x s requests).withInbox inbox := final
    rw [final]
    exact ⟨rfl, rfl, rfl, rfl⟩
  · have keepsToo : ∀ (s t : ServerState) (request other : ServerRequest),
        (s = t ∧ s.app.simpleToken = none) → request.eraseMirror = other.eraseMirror →
        ((serveRequest p x s request).2 = (serveRequest p x t other).2 ∧
          (serveRequest p x s request).2.app.simpleToken = none) ∧
        (serveRequest p x s request).1 = (serveRequest p x t other).1 := by
      rintro s t request other ⟨rfl, off⟩ same
      rw [serveRequest_simpleToken, serveRequest_disabled off same]
      exact ⟨⟨rfl, off⟩, rfl⟩
    exact answers_eq keepsToo agree ⟨rfl, disabled⟩

end Runs

/-! ## A secret and no secret -/

namespace Mirrored

def server : ServerState := ⟨app, .empty, .empty, none, .new⟩

def mint : Minting := ⟨"01J", "01K", 0, 0, 0⟩

/-- The laptop's clip with its secret in the clear, and a look at the clips. -/
def loud : List ServerRequest :=
  [.createClip mint laptop request, .latestClip 0 laptop, .simpleLatestClip 0]

def quiet : List ServerRequest := loud.map ServerRequest.eraseMirror

/-- Admitting pole: the runs differ in what a simple device reads, and in nothing else. -/
theorem secret_isolated :
    loud.map ServerRequest.eraseMirror = quiet.map ServerRequest.eraseMirror ∧
      (responses Sample.primitives Server.Sample.crates server loud)[2]? ≠
        (responses Sample.primitives Server.Sample.crates server quiet)[2]? ∧
      SameOutside (servedAll Sample.primitives Server.Sample.crates server loud)
        (servedAll Sample.primitives Server.Sample.crates server quiet) := by
  refine ⟨rfl, by decide +kernel, ?_⟩
  exact (mirror_isolated Sample.primitives Server.Sample.crates server loud quiet rfl).1

end Mirrored

end AirPaste.Server
