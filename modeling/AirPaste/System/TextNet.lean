/-
# System.TextNet — a text, from one desk to the others

Devices create clips on the server; the server announces each clip once, to everyone who is
subscribed; each desk reads what its connection relays, fetches the clips it is told of and puts
the texts that it can read on its clipboard, or into its inbox.  Connections come and go,
receivers fall behind, clips expire and are deleted, fetches and clipboards fail.

The two steps of creating a clip, the row and the announcement, are apart, so announcements may
overtake one another.  The row that a fetch finds expired is pruned by a call of its own.

`sound_step` is what a step does to the server: what was created stays so, rows and announcements
say what was created, and no clip is announced twice.  `handle_texts` is what an event does to a
desk: it takes up the text announced, or loses its connection.
-/
import AirPaste.Agent.ServerEvents
import AirPaste.Server.ClipStore
import AirPaste.Server.MirrorText
import AirPaste.Server.RelayedEvents

namespace AirPaste.System

open AirPaste.Agent
open AirPaste.Core
open AirPaste.Crypto
open AirPaste.Protocol
open AirPaste.Server
open AirPaste.Theory

set_option autoImplicit false

/-- An agent, with its control connection. -/
structure TextDesk where
  control : Control
  /-- The handler at the other end, and how many of the events it has sent were read. -/
  link : Option (Nat × Nat)
  /-- The events read, over all connections; no step reads them. -/
  handled : List ServerEvent

/-- A clip that is to be created, of an agent or of a simple device. -/
inductive ClipRequest where
  | agent (app : AppState) (mint : Minting) (requestDevice : Device) (request : CreateClipRequest)
  | simple (draws : SealDraws) (app : AppState) (mint : Minting) (request : SimpleClipUpload)

def ClipRequest.clipUlid : ClipRequest → String
  | .agent _ mint _ _ => mint.clipUlid
  | .simple _ _ mint _ => mint.clipUlid

structure TextNet where
  server : ClipState
  /-- The clip that was created under an id; no step reads it. -/
  created : ClipId → Option ClipRecord
  /-- The clips that are filed and not announced yet. -/
  unannounced : List ServerEvent
  plane : ControlPlane
  desks : Nat → TextDesk

/-- The clip that the event announces. -/
def announcedClip : ServerEvent → Option ClipId
  | .clipCreated clipId _ _ => some clipId
  | _ => none

/-- A step of the control plane that announces no clip. -/
def QuietStep : Type :=
  { event : WsEvent // ∀ sent, event = .broadcasts sent → announcedClip sent = none }

/-- A call on the clip table that creates no clip. -/
def QuietCall : Type := { call : ClipStore.Event // call.creates = none }

inductive TextNetEvent where
  /-- A clip is filed, or refused. -/
  | creates (request : ClipRequest)
  /-- The clip at this place of those that are not announced is announced. -/
  | announces (k : Nat)
  | calls (call : QuietCall)
  | socket (event : QuietStep)
  /-- A desk that has no connection opens one, and says hello. -/
  | dials (i : Nat)
  /-- A desk reads the next event that was broadcast to it; the server may be out of reach when
  it fetches the clip. -/
  | reads (i : Nat) (now : Timestamp) (reaches isolated : Bool) (paste : PasteAnswers)
  /-- A desk reads an event that was sent to its device alone. -/
  | hears (i : Nat) (event : { event : ServerEvent // announcedClip event = none })
      (answers : EventAnswers)
  /-- What the desk's user and its other loops leave of its inbox and its clipboard. -/
  | works (i : Nat) (desk : InboxDesk) (lastLocalWrite : Option String)
  /-- A desk loses its connection. -/
  | drops (i : Nat)

def TextNetEvent.clipUlid : TextNetEvent → Option String
  | .creates request => some request.clipUlid
  | _ => none

/-- Every clip draws a ULID of its own. -/
def FreshClips (events : List TextNetEvent) : Prop :=
  (events.filterMap TextNetEvent.clipUlid).Nodup

/-- `GET /v1/clips/:id`, at the client. -/
def fetchClip (reaches : Bool) (now : Timestamp) (clips : ClipTable) (clipId : ClipId) :
    Except Failure ClipRecord :=
  if !reaches then .error .network
  else
    match (clips.getClip now clipId).1 with
    | none => .error .network
    | some clip => .ok clip

def clipCreatedEvent (announced : ClipCreated) : ServerEvent :=
  .clipCreated announced.clipId announced.sourceDeviceId announced.kind

def deliveredText : Delivery → Option String
  | .inbox text => some text
  | .clipboard text => some text
  | .pending _ => none

/-- The texts that the desk has taken up, oldest first. -/
def TextDesk.texts (desk : TextDesk) : List String := desk.control.delivered.filterMap deliveredText

namespace TextNet

def setDesk (net : TextNet) (i : Nat) (desk : TextDesk) : TextNet :=
  { net with desks := Function.update net.desks i desk }

/-- What was broadcast, oldest first. -/
def log (net : TextNet) : List ServerEvent := net.plane.hub.globalTx.log

section Step

variable {Key : Type} (p : Primitives Key) (ctxs : Nat → AgentCtx)

def serveClip (state : ClipState) : ClipRequest → ClipState
  | .agent app mint requestDevice request => (createClip app mint requestDevice request state).2
  | .simple draws app mint request => (simpleCreateClip p draws app mint request state).2

/-- What the handler would broadcast is announced by a step of its own. -/
def creates (net : TextNet) (request : ClipRequest) : TextNet :=
  let server := serveClip p net.server request
  let filed := server.broadcast.drop net.server.broadcast.length
  { net with
    server := server
    created := fun clipId =>
      if filed.any (·.clipId = clipId) then server.clips.get clipId.asStr else net.created clipId
    unannounced := net.unannounced ++ filed.map clipCreatedEvent }

def announces (net : TextNet) (k : Nat) : TextNet :=
  match net.unannounced[k]? with
  | none => net
  | some event =>
      { net with
        unannounced := net.unannounced.eraseIdx k
        plane := net.plane.broadcasts event }

def dials (net : TextNet) (i : Nat) : TextNet :=
  match (net.desks i).link with
  | some _ => net
  | none =>
      let deviceId := (ctxs i).deviceId
      { net with plane := net.plane.connects deviceId (some (.hello deviceId)) }.setDesk i
        { net.desks i with link := some (net.plane.handlers.length, 0) }

/-- The next event on a connection. -/
def nextEvent (net : TextNet) (link : Nat × Nat) : Option ServerEvent :=
  (net.plane.view link.1).bind fun view => view.sent[link.2]?

/-- The desk after an event; an error ends its connection. -/
def handle (ctx : AgentCtx) (answers : EventAnswers) (event : ServerEvent) (desk : TextDesk)
    (next : Nat × Nat) : TextDesk :=
  let (result, control) :=
    handleServerEvent p ctx answers event (desk.control.switch answers.isolated)
  { control := control
    link := if result.isOk then some next else none
    handled := desk.handled ++ [event] }

def reads (net : TextNet) (i : Nat) (now : Timestamp) (reaches isolated : Bool)
    (paste : PasteAnswers) : TextNet :=
  match (net.desks i).link with
  | none => net
  | some link =>
      match net.nextEvent link with
      | none => net
      | some event =>
          let answers : EventAnswers := ⟨fetchClip reaches now net.server.clips, isolated, paste⟩
          net.setDesk i (handle p (ctxs i) answers event (net.desks i) (link.1, link.2 + 1))

def hears (net : TextNet) (i : Nat) (event : ServerEvent) (answers : EventAnswers) : TextNet :=
  match (net.desks i).link with
  | none => net
  | some link =>
      let desk := handle p (ctxs i) answers event (net.desks i) link
      net.setDesk i { desk with handled := (net.desks i).handled }

def works (net : TextNet) (i : Nat) (desk : InboxDesk) (lastLocalWrite : Option String) :
    TextNet :=
  let control := { (net.desks i).control with desk := desk, lastLocalWrite := lastLocalWrite }
  net.setDesk i { net.desks i with control := control }

def step (net : TextNet) : TextNetEvent → TextNet
  | .creates request => net.creates p request
  | .announces k => net.announces k
  | .calls call =>
      { net with server := { net.server with clips := ClipStore.step net.server.clips call.1 } }
  | .socket event => { net with plane := net.plane.step event.1 }
  | .dials i => net.dials ctxs i
  | .reads i now reaches isolated paste => net.reads p ctxs i now reaches isolated paste
  | .hears i event answers => net.hears p ctxs i event.1 answers
  | .works i desk lastLocalWrite => net.works i desk lastLocalWrite
  | .drops i => net.setDesk i { net.desks i with link := none }

/-- The net after the events. -/
def after (net : TextNet) (events : List TextNetEvent) : TextNet :=
  runFrom (step p ctxs) net events

/-- The text that an event announces to this desk, which may read it. -/
def textFor (ctx : AgentCtx) (created : ClipId → Option ClipRecord) : ServerEvent → Option String
  | .clipCreated clipId sourceDeviceId kind =>
      if ctx.applyRemote && sourceDeviceId ≠ ctx.deviceId && kind = "text" then
        (created clipId).bind fun clip =>
          match clip.kind with
          | .text textClip =>
              match decryptRemoteText p textClip clip.encryption ctx.deviceId ctx.encryption with
              | .ok text => text
              | .error _ => none
          | _ => none
      else none
  | _ => none

end Step

/-- No clip yet, and no connection; the desks are as they are. -/
def start (controls : Nat → Control) : TextNet where
  server := ⟨.empty, none, []⟩
  created := fun _ => none
  unannounced := []
  plane := .new
  desks := fun i => ⟨{ controls i with delivered := [] }, none, []⟩

/-! ## What is created -/

section Created

variable {Key : Type} {p : Primitives Key} {state : ClipState}

/-- The clip is what the request asked for. -/
def Made (p : Primitives Key) : ClipRequest → ClipRecord → Prop
  | .agent _ _ requestDevice request, clip =>
      clip.sourceDeviceId = requestDevice.deviceId ∧ clip.kind = request.kind ∧
        clip.encryption = request.encryption
  | .simple _ app _ request, clip =>
      EncodedAs p app.store.devices.rows request.text clip.kind clip.encryption

/-- What a request does to the clips: nothing, or a clip is filed under a new id and announced. -/
inductive Filing (p : Primitives Key) (request : ClipRequest) (state after : ClipState) : Prop where
  | refused (clips : after.clips = state.clips) (broadcast : after.broadcast = state.broadcast)
  | filed (clip : ClipRecord) (now : Timestamp)
      (named : clip.clipId = ClipId.new request.clipUlid)
      (clips : after.clips = (state.clips.cleanupExpiredClips now).put clip)
      (broadcast : after.broadcast =
        state.broadcast ++ [⟨clip.clipId, clip.sourceDeviceId, clip.kind.name⟩])
      (made : Made p request clip)

/-- A clip that is published is filed as it was built, and announced. -/
theorem publish_filed {mint : Minting} {clip : ClipRecord}
    (named : clip.clipId = ClipId.new mint.clipUlid) :
    state.publish mint clip = (clip,
      { state with
        clips := (state.clips.cleanupExpiredClips mint.cleaning).put clip
        broadcast :=
          state.broadcast ++ [⟨clip.clipId, clip.sourceDeviceId, clip.kind.name⟩] }) := by
  have filed : clip.clipId.asStr ≠ "" := named ▸ ClipId.new_asStr_ne_empty mint.clipUlid
  simp only [ClipState.publish, ClipTable.createClip, if_neg filed]

theorem createClip_filing (app : AppState) (mint : Minting) (requestDevice : Device)
    (request : CreateClipRequest) :
    Filing p (.agent app mint requestDevice request) state
      (createClip app mint requestDevice request state).2 := by
  by_cases own : request.sourceDeviceId = requestDevice.deviceId
  · obtain ⟨-, clips, broadcast⟩ := createClip_published app mint state own
    rw [publish_filed rfl] at clips broadcast
    exact .filed _ _ rfl clips broadcast ⟨own, rfl, rfl⟩
  · rw [createClip, if_pos own]
    exact .refused rfl rfl

theorem simpleCreateClip_filing (draws : SealDraws) (app : AppState) (mint : Minting)
    (request : SimpleClipUpload) :
    Filing p (.simple draws app mint request) state
      (simpleCreateClip p draws app mint request state).2 := by
  cases answered : simpleCreateClip p draws app mint request state with
  | mk result after =>
      have outcome := answered
      simp only [simpleCreateClip] at outcome
      split at outcome
      · cases outcome
        exact .refused rfl rfl
      · split at outcome
        · cases outcome
          exact .refused rfl rfl
        · split at outcome
          · cases outcome
            exact .refused rfl rfl
          · rw [publish_filed rfl] at outcome
            cases outcome
            refine .filed _ _ rfl rfl rfl ?_
            exact .uploaded draws app mint request.deviceName state _ _ _ rfl answered
              (KeyedTable.get_put_self _ _)

theorem serveClip_filing (request : ClipRequest) :
    Filing p request state (serveClip p state request) := by
  cases request with
  | agent app mint requestDevice request => exact createClip_filing app mint requestDevice request
  | simple draws app mint request => exact simpleCreateClip_filing draws app mint request

end Created

/-- A call that creates no clip adds no row. -/
theorem calls_sub (call : QuietCall) {clips : ClipTable} {id : String} {clip : ClipRecord}
    (filed : (ClipStore.step clips call.1).get id = some clip) : clips.get id = some clip := by
  obtain ⟨⟨now, call⟩, quiet⟩ := call
  have kept : ∀ keep : ClipRecord → Bool, (clips.retain keep).get id = some clip →
      clips.get id = some clip := by
    intro keep among
    rw [KeyedTable.get_retain] at among
    exact Option.eq_some_of_filter_eq_some among
  cases call with
  | createClip ulid clip => cases quiet
  | getClip clipId =>
      simp only [ClipStore.step, ClipStore.Event.answer, ClipTable.getClip, Prod.map_snd, id_eq]
        at filed
      split at filed
      · exact filed
      · split at filed
        · exact kept _ filed
        · exact filed
  | latestClip => exact kept _ filed
  | clipHistory limit => exact kept _ filed
  | deleteClip clipId => exact kept _ filed

/-! ## What is announced -/

/-- What the rows and the announcements say is what was created, and each clip is announced
once. -/
structure Sound (net : TextNet) : Prop where
  rows : ∀ clipId clip, net.server.clips.get clipId.asStr = some clip →
    net.created clipId = some clip
  announced : ∀ event ∈ net.log ++ net.unannounced, ∀ clipId, announcedClip event = some clipId →
    ∃ clip, net.created clipId = some clip ∧
      event = .clipCreated clipId clip.sourceDeviceId clip.kind.name
  once : ((net.log ++ net.unannounced).filterMap announcedClip).Nodup

/-- The event creates no clip under an id that was drawn before. -/
def Fresh (net : TextNet) (e : TextNetEvent) : Prop :=
  ∀ ulid, e.clipUlid = some ulid → net.created (ClipId.new ulid) = none

/-- What was created stays so, and what was broadcast. -/
structure Grows (net next : TextNet) : Prop where
  created : ∀ clipId clip, net.created clipId = some clip → next.created clipId = some clip
  log : net.log <+: next.log

theorem sound_start (controls : Nat → Control) : (start controls).Sound := by
  refine ⟨?_, ?_, List.nodup_nil⟩
  · intro _ _ filed
    cases filed
  · intro _ member
    cases member

section Facts

variable {Key : Type} {p : Primitives Key} {ctxs : Nat → AgentCtx} {net next : TextNet}

/-- Soundness and growth are about the server alone. -/
theorem sound_same (sound : net.Sound) (server : next.server = net.server)
    (created : next.created = net.created) (unannounced : next.unannounced = net.unannounced)
    (log : next.log = net.log) : next.Sound ∧ Grows net next := by
  obtain ⟨rows, announced, once⟩ := sound
  rw [← log, ← unannounced] at announced once
  rw [← server, ← created] at rows
  rw [← created] at announced
  refine ⟨⟨rows, announced, once⟩, ?_, ?_⟩
  · rw [created]
    exact fun _ _ held => held
  · rw [log]

/-- A request that is refused changes nothing of this; one that is not adds its clip. -/
theorem creates_cases (net : TextNet) (request : ClipRequest) :
    ((net.creates p request).server.clips = net.server.clips ∧
        (net.creates p request).created = net.created ∧
        (net.creates p request).unannounced = net.unannounced) ∨
      ∃ clip now, clip.clipId = ClipId.new request.clipUlid ∧ Made p request clip ∧
        (net.creates p request).server.clips =
          (net.server.clips.cleanupExpiredClips now).put clip ∧
        (net.creates p request).created = Function.update net.created clip.clipId (some clip) ∧
        (net.creates p request).unannounced =
          net.unannounced ++ [.clipCreated clip.clipId clip.sourceDeviceId clip.kind.name] := by
  have filing : Filing p request net.server (serveClip p net.server request) :=
    serveClip_filing request
  unfold creates
  cases filing with
  | refused clips broadcast =>
      refine .inl ⟨clips, ?_, ?_⟩
      · simp only [broadcast, List.drop_length, List.any_nil, Bool.false_eq_true, if_false]
      · simp only [broadcast, List.drop_length, List.map_nil, List.append_nil]
  | filed clip now named clips broadcast made =>
      refine .inr ⟨clip, now, named, made, clips, ?_, ?_⟩
      · funext clipId
        simp only [broadcast, List.drop_left, List.any_cons, List.any_nil, Bool.or_false,
          decide_eq_true_eq, clips]
        by_cases same : clip.clipId = clipId
        · subst same
          rw [if_pos rfl, Function.update_self, KeyedTable.get_put_self]
        · rw [if_neg same, Function.update_of_ne (Ne.symm same)]
      · simp only [broadcast, List.drop_left, List.map_cons, List.map_nil, clipCreatedEvent]

theorem sound_creates (sound : net.Sound) (request : ClipRequest)
    (fresh : net.created (ClipId.new request.clipUlid) = none) :
    (net.creates p request).Sound ∧ Grows net (net.creates p request) := by
  rcases creates_cases (p := p) net request with ⟨clips, created, unannounced⟩ |
    ⟨clip, now, named, -, clips, created, unannounced⟩
  · obtain ⟨rows, announced, once⟩ := sound
    refine ⟨⟨?_, ?_, ?_⟩, ?_, List.prefix_refl _⟩
    · rw [clips, created]
      exact rows
    · rw [unannounced, created]
      exact announced
    · rw [unannounced]
      exact once
    · rw [created]
      exact fun _ _ held => held
  · rw [← named] at fresh
    have kept : ∀ clipId other, net.created clipId = some other →
        (net.creates p request).created clipId = some other := by
      intro clipId other held
      have ne : clipId ≠ clip.clipId := by
        rintro rfl
        cases fresh.symm.trans held
      rw [created, Function.update_of_ne ne]
      exact held
    refine ⟨⟨?_, ?_, ?_⟩, kept, List.prefix_refl _⟩
    · intro clipId other filed
      rw [clips, KeyedTable.get_put] at filed
      split at filed
      · rename_i same
        cases filed
        obtain rfl := ClipStore.asStr_inj.mp same
        rw [created, Function.update_self]
      · refine kept clipId other (sound.rows clipId other ?_)
        rw [ClipTable.cleanupExpiredClips, KeyedTable.get_retain] at filed
        exact Option.eq_some_of_filter_eq_some filed
    · intro event member clipId announces
      rw [unannounced, ← List.append_assoc] at member
      rcases List.mem_append.mp member with earlier | here
      · obtain ⟨other, held, same⟩ := sound.announced event earlier clipId announces
        exact ⟨other, kept clipId other held, same⟩
      · obtain rfl := List.mem_singleton.mp here
        cases announces
        exact ⟨clip, by rw [created, Function.update_self], rfl⟩
    · rw [unannounced, ← List.append_assoc, List.filterMap_append]
      refine List.nodup_append.mpr ⟨sound.once, List.nodup_singleton _, ?_⟩
      intro clipId earlier other here
      obtain rfl := List.mem_singleton.mp here
      obtain ⟨event, member, announces⟩ := List.mem_filterMap.mp earlier
      obtain ⟨other, held, -⟩ := sound.announced event member clipId announces
      rintro rfl
      cases fresh.symm.trans held

theorem sound_announces (sound : net.Sound) (k : Nat) :
    (net.announces k).Sound ∧ Grows net (net.announces k) := by
  unfold announces
  cases found : net.unannounced[k]? with
  | none => exact ⟨sound, fun _ _ held => held, List.prefix_refl _⟩
  | some event =>
      obtain ⟨bound, same⟩ := List.getElem?_eq_some_iff.mp found
      have perm : ((net.log ++ [event]) ++ net.unannounced.eraseIdx k).Perm
          (net.log ++ net.unannounced) := by
        rw [List.append_assoc, List.singleton_append, ← same]
        exact (List.getElem_cons_eraseIdx_perm bound).append_left net.log
      refine ⟨⟨sound.rows, ?_, ?_⟩, fun _ _ held => held, List.prefix_append _ _⟩
      · intro other member
        exact sound.announced other (perm.mem_iff.mp member)
      · exact (perm.filterMap announcedClip).nodup_iff.mpr sound.once

theorem sound_socket (sound : net.Sound) (e : QuietStep) :
    ({ net with plane := net.plane.step e.1 } : TextNet).Sound ∧
      Grows net { net with plane := net.plane.step e.1 } := by
  rcases ControlPlane.step_globalTx net.plane e.1 with same | ⟨event, sent, what⟩
  · exact sound_same sound rfl rfl rfl (congrArg Broadcast.log same)
  · have quiet : announcedClip event = none := by
      rcases what with asked | ⟨deviceId, rfl | rfl⟩
      · exact e.2 event asked
      · rfl
      · rfl
    have log : ({ net with plane := net.plane.step e.1 } : TextNet).log = net.log ++ [event] :=
      congrArg Broadcast.log sent
    refine ⟨⟨sound.rows, ?_, ?_⟩, fun _ _ held => held, ?_⟩
    · intro other member clipId announces
      rw [log, List.append_assoc] at member
      refine sound.announced other ?_ clipId announces
      rcases List.mem_append.mp member with earlier | later
      · exact List.mem_append_left _ earlier
      · rcases List.mem_cons.mp later with rfl | waiting
        · cases quiet.symm.trans announces
        · exact List.mem_append_right _ waiting
    · have once := sound.once
      rw [List.filterMap_append] at once
      rw [log, List.append_assoc, List.filterMap_append, List.filterMap_append]
      rw [List.filterMap_cons_none quiet, List.filterMap_nil, List.nil_append]
      exact once
    · rw [log]
      exact List.prefix_append _ _

theorem setDesk_sound (sound : net.Sound) (i : Nat) (desk : TextDesk) :
    (net.setDesk i desk).Sound ∧ Grows net (net.setDesk i desk) :=
  sound_same sound rfl rfl rfl rfl

/-- **What a step does to the server.** -/
theorem sound_step (sound : net.Sound) (e : TextNetEvent) (fresh : net.Fresh e) :
    (net.step p ctxs e).Sound ∧ Grows net (net.step p ctxs e) := by
  cases e with
  | creates request => exact sound_creates sound request (fresh _ rfl)
  | announces k => exact sound_announces sound k
  | calls call =>
      refine ⟨⟨?_, sound.announced, sound.once⟩, fun _ _ held => held, List.prefix_refl _⟩
      exact fun clipId clip filed => sound.rows clipId clip (calls_sub call filed)
  | socket event => exact sound_socket sound event
  | dials i =>
      simp only [step, dials]
      split
      · exact ⟨sound, fun _ _ held => held, List.prefix_refl _⟩
      · exact sound_same sound rfl rfl rfl rfl
  | reads i now reaches isolated paste =>
      simp only [step, reads]
      split
      · exact ⟨sound, fun _ _ held => held, List.prefix_refl _⟩
      · split
        · exact ⟨sound, fun _ _ held => held, List.prefix_refl _⟩
        · exact setDesk_sound sound i _
  | hears i event answers =>
      simp only [step, hears]
      split
      · exact ⟨sound, fun _ _ held => held, List.prefix_refl _⟩
      · exact setDesk_sound sound i _
  | works i desk lastLocalWrite => exact setDesk_sound sound i _
  | drops i => exact setDesk_sound sound i _

end Facts

/-! ## What a desk takes up -/

section Handled

variable {Key : Type} {p : Primitives Key} {ctx : AgentCtx} {answers : EventAnswers}

/-- A handler that fails has taken up no text. -/
theorem failed_texts {event : ServerEvent} {s after : Control} {failure : Failure}
    (failed : handleServerEvent p ctx answers event s = (.error failure, after)) :
    after.delivered.filterMap deliveredText = s.delivered.filterMap deliveredText := by
  have text : ∀ text, receiveText answers text s = (.error failure, after) →
      after.delivered = s.delivered := by
    intro text failed
    unfold receiveText at failed
    split at failed
    · cases failed
    · split at failed
      · cases failed
      · cases failed
        rfl
  have textClip : ∀ clipId, receiveTextClip p ctx answers clipId s = (.error failure, after) →
      after.delivered = s.delivered := by
    intro clipId failed
    unfold receiveTextClip at failed
    split at failed
    · cases failed
      rfl
    · split at failed
      · split at failed
        · exact text _ failed
        · cases failed
        · cases failed
      · cases failed
  have fileClip : ∀ clipId, receiveFileClip ctx answers clipId s = (.error failure, after) →
      after.delivered.filterMap deliveredText = s.delivered.filterMap deliveredText := by
    intro clipId failed
    unfold receiveFileClip at failed
    split at failed
    · cases failed
      rfl
    · split at failed
      · unfold receiveFiles at failed
        dsimp only at failed
        split at failed
        · obtain ⟨-, rfl⟩ := Prod.mk.inj failed
          simp only [Control.storeFiles, List.filterMap_append, List.filterMap_cons,
            List.filterMap_nil, deliveredText, List.append_nil]
        · cases failed
      · cases failed
  unfold handleServerEvent at failed
  split at failed
  · split at failed
    · exact congrArg (List.filterMap deliveredText) (textClip _ failed)
    · split at failed
      · exact fileClip _ failed
      · cases failed
  · split at failed
    · cases failed
    · cases failed
  · cases failed

theorem fetchClip_ok {reaches : Bool} {now : Timestamp} {clips : ClipTable} {clipId : ClipId}
    {clip : ClipRecord} (fetched : fetchClip reaches now clips clipId = .ok clip) :
    clips.get clipId.asStr = some clip := by
  unfold fetchClip at fetched
  split at fetched
  · cases fetched
  · split at fetched
    · cases fetched
    · rename_i answered
      cases fetched
      have row := (ClipStore.getClip_some_iff.mp answered).1
      rw [← (ClipStore.getClip_some_iff.mp answered).2]
      exact KeyedTable.get_of_mem (List.mem_filter.mp row).1

/-- What an event that is handled well brings of text is what it announces. -/
theorem due_text {created : ClipId → Option ClipRecord} {event : ServerEvent}
    (fetches : ∀ clipId clip, answers.getClip clipId = .ok clip → created clipId = some clip)
    (fine : ¬ Fails p ctx ⟨event, answers⟩) :
    (due p ctx ⟨event, answers⟩).bind deliveredText = textFor p ctx created event := by
  cases event with
  | clipCreated clipId source kind =>
      unfold due textFor
      dsimp only
      by_cases applies : (ctx.applyRemote && source ≠ ctx.deviceId) = true
      · rw [applies, Bool.true_and, if_pos rfl]
        cases fetched : answers.getClip clipId with
        | error failure =>
            have other : kind ≠ "text" := by
              rintro rfl
              rw [Bool.and_eq_true, decide_eq_true_eq] at applies
              exact fine (.inl ⟨clipId, "text", failure,
                ⟨applies.1, source, applies.2, rfl⟩, .inl rfl, fetched⟩)
            rw [decide_eq_false other]
            rfl
        | ok clip =>
            rw [fetches clipId clip fetched]
            obtain ⟨_, _, _, _, held, encryption⟩ := clip
            cases held with
            | text textClip =>
                by_cases isText : kind = "text"
                · subst isText
                  simp only [ClipKind.name, Except.toOption, Option.bind_some, if_true, deliveryOf,
                    decide_true]
                  split
                  · rename_i read
                    rw [read]
                    cases answers.isolated <;> rfl
                  · rename_i unread
                    split
                    · rename_i text read
                      cases text with
                      | none => rfl
                      | some text => exact absurd read (unread text)
                    · rfl
                · rw [decide_eq_false isText]
                  simp only [ClipKind.name, Except.toOption, Option.bind_some, Ne.symm isText,
                    if_false, Option.bind_none, Bool.false_eq_true]
            | image image =>
                simp only [Except.toOption, Option.bind_some, deliveryOf, ite_self,
                  Option.bind_none]
            | files fileClip =>
                simp only [Except.toOption, Option.bind_some, deliveryOf, ite_self]
                split <;> rfl
      · rw [Bool.not_eq_true] at applies
        rw [applies, Bool.false_and, if_neg Bool.false_ne_true, if_neg Bool.false_ne_true]
        rfl
  | _ => rfl

/-- A desk takes up the text that an event announces, or the event ends its connection. -/
theorem handle_texts (p : Primitives Key) (ctx : AgentCtx) (answers : EventAnswers)
    (created : ClipId → Option ClipRecord) (event : ServerEvent) (desk : TextDesk)
    (next : Nat × Nat)
    (fetches : ∀ clipId clip, answers.getClip clipId = .ok clip → created clipId = some clip) :
    ((handle p ctx answers event desk next).link = some next ∧
        (handle p ctx answers event desk next).texts =
          desk.texts ++ (textFor p ctx created event).toList) ∨
      ((handle p ctx answers event desk next).link = none ∧
        (handle p ctx answers event desk next).texts = desk.texts) := by
  have settles : Settles (desk.control.switch answers.isolated) (Fails p ctx ⟨event, answers⟩)
      (due p ctx ⟨event, answers⟩)
      (handleServerEvent p ctx answers event (desk.control.switch answers.isolated)) :=
    handleServerEvent_settles ⟨event, answers⟩ rfl
  unfold handle TextDesk.texts
  cases handled : handleServerEvent p ctx answers event (desk.control.switch answers.isolated) with
  | mk result after =>
      rw [handled] at settles
      cases settles with
      | failed failure after why =>
          have same := failed_texts handled
          exact .inr ⟨rfl, same⟩
      | done after fine delivered holds =>
          refine .inl ⟨rfl, ?_⟩
          rw [← due_text fetches fine]
          dsimp only
          rw [delivered, List.filterMap_append]
          cases due p ctx ⟨event, answers⟩ with
          | none => rfl
          | some delivery =>
              cases delivery <;> rfl

end Handled

end TextNet

end AirPaste.System
