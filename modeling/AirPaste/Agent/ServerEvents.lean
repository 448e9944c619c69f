/-
# Agent.ServerEvents — the events of a control connection, one after the other

`run_ws_once` reads the messages of its connection and `handle_server_event` acts on each
event.  An error of the handler ends the connection.  A text that cannot be decrypted and a
relay session that fails are only logged; a clip that cannot be fetched, a clipboard that
cannot be written and an automatic apply that fails are errors of the handler.

`delivered` records what reached the inbox, the clipboard or the slot, where it does; nothing
reads it.  `noneLost_iff`: the connection is kept and everything due arrives exactly when no
event `Fails`.  In `Expired.text_lost` one expired clip costs the text that follows it.
-/
import AirPaste.Agent.InboxDesk
import AirPaste.Agent.TextClip
import AirPaste.Protocol.Events

namespace AirPaste.Agent

open AirPaste.Core
open AirPaste.Crypto
open AirPaste.Protocol
open AirPaste.Theory

set_option autoImplicit false

/-- What the connection is run with. -/
structure AgentCtx extends FileApplyCtx where
  deviceId : DeviceId
  encryption : EncryptionIdentity
  applyRemote : Bool
  autoApplyFiles : Bool
  autoPasteFiles : Bool

/-- What the handling of an event asks of the outside. -/
structure EventAnswers where
  getClip : ClipId → Except Failure ClipRecord
  /-- The mode by then; the UI may have switched it. -/
  isolated : Bool
  paste : PasteAnswers

inductive Delivery where
  | inbox (text : String)
  | clipboard (text : String)
  | pending (clip : PendingFileClip)
  deriving DecidableEq

structure Control where
  desk : InboxDesk
  lastLocalWrite : Option String
  /-- The relay sessions served, with their recipients. -/
  serving : List (SessionId × DeviceId)
  delivered : List Delivery

/-- A message of the websocket, its text read as an event. -/
inductive WsMessage where
  | text (event : Except Failure ServerEvent)
  | other

structure Arrival where
  message : Except Failure WsMessage
  answers : EventAnswers

namespace Control

def switch (s : Control) (isolated : Bool) : Control :=
  { s with desk := { s.desk with isolated := isolated } }

def storeText (s : Control) (text : String) : Control :=
  { s with
    desk := s.desk.storeText text
    delivered := s.delivered ++ [.inbox text] }

/-- The text is on the clipboard. -/
def wroteText (s : Control) (text : String) : Control :=
  { s with
    lastLocalWrite := some text
    delivered := s.delivered ++ [.clipboard text] }

def storeFiles (s : Control) (clip : PendingFileClip) : Control :=
  { s with
    desk := s.desk.storeFiles clip
    delivered := s.delivered ++ [.pending clip] }

end Control

section Model

variable {Key : Type} (p : Primitives Key) (ctx : AgentCtx)

def receiveText (answers : EventAnswers) (text : String) (s : Control) :
    Except Failure Unit × Control :=
  if s.desk.isolated then (.ok (), s.storeText text)
  else if answers.paste.setsText then (.ok (), s.wroteText text)
  else (.error .io, s)

def receiveFiles (answers : EventAnswers) (pending : PendingFileClip) (s : Control) :
    Except Failure Unit × Control :=
  let stored := s.storeFiles pending
  if ctx.autoApplyFiles then
    let (result, desk) :=
      stored.desk.applyPendingFileClip ctx.toFileApplyCtx ctx.autoPasteFiles answers.paste
    (result.map fun _ => (), { stored with desk := desk })
  else (.ok (), stored)

/-- A clip announced as a text is fetched. -/
def receiveTextClip (answers : EventAnswers) (clipId : ClipId) (s : Control) :
    Except Failure Unit × Control :=
  match answers.getClip clipId with
  | .error failure => (.error failure, s)
  | .ok clip =>
      match clip.kind with
      | .text textClip =>
          match decryptRemoteText p textClip clip.encryption ctx.deviceId ctx.encryption with
          | .ok (some text) => receiveText answers text s
          | .ok none => (.ok (), s)
          | .error _ => (.ok (), s)
      | _ => (.ok (), s)

/-- A clip announced as files is fetched. -/
def receiveFileClip (answers : EventAnswers) (clipId : ClipId) (s : Control) :
    Except Failure Unit × Control :=
  match answers.getClip clipId with
  | .error failure => (.error failure, s)
  | .ok clip =>
      match clip.kind with
      | .files fileClip =>
          receiveFiles ctx answers ⟨clip.clipId, clip.sourceDeviceId, fileClip⟩ s
      | _ => (.ok (), s)

def handleServerEvent (answers : EventAnswers) (event : ServerEvent) (s : Control) :
    Except Failure Unit × Control :=
  match event with
  | .clipCreated clipId sourceDeviceId kind =>
      if ctx.applyRemote && sourceDeviceId ≠ ctx.deviceId && kind = "text" then
        receiveTextClip p ctx answers clipId s
      else if ctx.applyRemote && sourceDeviceId ≠ ctx.deviceId && kind = "files" then
        receiveFileClip ctx answers clipId s
      else (.ok (), s)
  | .transferRelayReady sessionId _ sourceDeviceId recipientDeviceId =>
      if sourceDeviceId = ctx.deviceId then
        (.ok (), { s with serving := s.serving ++ [(sessionId, recipientDeviceId)] })
      else (.ok (), s)
  | _ => (.ok (), s)

/-- The loop of `run_ws_once`: it ends with its stream, or at the first error. -/
def readMessages : List Arrival → Control → Except Failure Unit × Control
  | [], s => (.ok (), s)
  | arrival :: rest, s =>
      match arrival.message with
      | .error failure => (.error failure, s)
      | .ok .other => readMessages rest s
      | .ok (.text (.error failure)) => (.error failure, s)
      | .ok (.text (.ok event)) =>
          match handleServerEvent p ctx arrival.answers event
            (s.switch arrival.answers.isolated) with
          | (.error failure, after) => (.error failure, after)
          | (.ok (), after) => readMessages rest after

/-- The connection opens, or not, and its messages are read. -/
def runWsOnce (opened : Except Failure Unit) (arrivals : List Arrival) (s : Control) :
    Except Failure Unit × Control :=
  match opened with
  | .error failure => (.error failure, s)
  | .ok () => readMessages p ctx arrivals s

/-! ## What an event is due to deliver -/

/-- An event that arrives, with what its handling finds. -/
structure EventArrival where
  event : ServerEvent
  answers : EventAnswers

def EventArrival.arrival (e : EventArrival) : Arrival := ⟨.ok (.text (.ok e.event)), e.answers⟩

/-- The event announces a clip of another device that the agent is to apply. -/
def Announces (event : ServerEvent) (clipId : ClipId) (kind : String) : Prop :=
  ctx.applyRemote = true ∧ ∃ source, source ≠ ctx.deviceId ∧
    event = .clipCreated clipId source kind

/-- What a clip brings that was fetched. -/
def deliveryOf (isolated : Bool) (clip : ClipRecord) : Option Delivery :=
  match clip.kind with
  | .text textClip =>
      match decryptRemoteText p textClip clip.encryption ctx.deviceId ctx.encryption with
      | .ok (some text) => some (if isolated then .inbox text else .clipboard text)
      | _ => none
  | .files fileClip => some (.pending ⟨clip.clipId, clip.sourceDeviceId, fileClip⟩)
  | .image _ => none

/-- What an event brings: a clip announced as what it is, which can be fetched and read. -/
def due (e : EventArrival) : Option Delivery :=
  match e.event with
  | .clipCreated clipId sourceDeviceId kind =>
      if ctx.applyRemote && sourceDeviceId ≠ ctx.deviceId then
        (e.answers.getClip clipId).toOption.bind fun clip =>
          if clip.kind.name = kind then deliveryOf p ctx e.answers.isolated clip else none
      else none
  | _ => none

/-- A text or files clip is announced that cannot be fetched. -/
def Unfetched (e : EventArrival) : Prop :=
  ∃ clipId kind failure, Announces ctx e.event clipId kind ∧ (kind = "text" ∨ kind = "files") ∧
    e.answers.getClip clipId = .error failure

/-- The clipboard cannot be written, or a clip that is to be applied at once cannot be
applied, or not pasted. -/
def Undelivered (answers : EventAnswers) : Delivery → Prop
  | .inbox _ => False
  | .clipboard _ => answers.paste.setsText = false
  | .pending clip => ctx.autoApplyFiles = true ∧
      ((∃ failure, ctx.apply answers.paste.surroundings answers.paste.machine clip =
          .error failure) ∨
        ctx.autoPasteFiles = true ∧ answers.paste.pastes = false)

def Fails (e : EventArrival) : Prop :=
  Unfetched ctx e ∨ ∃ delivery, due p ctx e = some delivery ∧ Undelivered ctx e.answers delivery

/-- What was delivered last is where it belongs; the slot's clip may have been applied from
there. -/
def Control.Holds (s : Control) : Delivery → Prop
  | .inbox text => newestText s.desk.inbox = some text
  | .clipboard text => s.lastLocalWrite = some text
  | .pending clip => s.desk.pendingFileClip = some clip ∨ clip.clipId ∈ s.desk.downloaded

/-- The connection is kept, everything due arrives, in order, and each is in its place once its
event was handled. -/
structure NoneLost (events : List EventArrival) (s : Control) : Prop where
  kept : (runWsOnce p ctx (.ok ()) (events.map EventArrival.arrival) s).1 = .ok ()
  delivered : (runWsOnce p ctx (.ok ()) (events.map EventArrival.arrival) s).2.delivered =
    s.delivered ++ events.filterMap (due p ctx)
  placed : ∀ before e after, events = before ++ e :: after → ∀ delivery,
    due p ctx e = some delivery →
      (runWsOnce p ctx (.ok ()) ((before ++ [e]).map EventArrival.arrival) s).2.Holds delivery

end Model

/-! ## One event -/

/-- A handler fails, or ends well with what was due delivered. -/
inductive Settles (s : Control) (fails : Prop) (due : Option Delivery) :
    Except Failure Unit × Control → Prop
  | failed (failure : Failure) (after : Control) (why : fails) :
      Settles s fails due (.error failure, after)
  | done (after : Control) (fine : ¬ fails)
      (delivered : after.delivered = s.delivered ++ due.toList)
      (holds : ∀ delivery, due = some delivery → after.Holds delivery) :
      Settles s fails due (.ok (), after)

section Handled

variable {Key : Type} {p : Primitives Key} {ctx : AgentCtx} {answers : EventAnswers} {s : Control}

/-- Nothing happens where nothing is due. -/
theorem settles_same {fails : Prop} {due : Option Delivery} (fine : ¬ fails) (none : due = none) :
    Settles s fails due (.ok (), s) := by
  subst none
  exact .done s fine (List.append_nil _).symm fun _ some => by cases some

theorem receiveText_settles (text : String) :
    Settles s (Undelivered ctx answers
        (if s.desk.isolated then .inbox text else .clipboard text))
      (some (if s.desk.isolated then .inbox text else .clipboard text))
      (receiveText answers text s) := by
  unfold receiveText
  cases s.desk.isolated with
  | true =>
      refine .done _ (fun wrong => wrong) rfl fun delivery same => ?_
      cases same
      rfl
  | false =>
      simp only [Bool.false_eq_true, if_false]
      cases writes : answers.paste.setsText with
      | true =>
          refine .done _ (fun wrong => ?_) rfl fun delivery same => ?_
          · cases writes.symm.trans wrong
          · cases same
            rfl
      | false => exact .failed _ _ writes

/-- The slot holds the clip that has just arrived, so that is what an automatic apply takes. -/
theorem receiveFiles_settles (pending : PendingFileClip) :
    Settles s (Undelivered ctx answers (.pending pending)) (some (.pending pending))
      (receiveFiles ctx answers pending s) := by
  unfold receiveFiles
  cases auto : ctx.autoApplyFiles with
  | false =>
      refine .done _ (fun wrong => ?_) rfl fun delivery same => ?_
      · cases auto.symm.trans wrong.1
      · cases same
        exact .inl rfl
  | true =>
      have held : (s.storeFiles pending).desk.pendingFileClip = some pending := rfl
      simp only [if_true]
      cases result : ctx.apply answers.paste.surroundings answers.paste.machine pending with
      | error failure =>
          rw [InboxDesk.applyPendingFileClip_failed held result]
          exact .failed _ _ ⟨auto, .inl ⟨failure, result⟩⟩
      | ok files =>
          rw [InboxDesk.applyPendingFileClip_done held result]
          by_cases unpasted : (ctx.autoPasteFiles && !answers.paste.pastes) = true
          · rw [if_pos unpasted]
            rw [Bool.and_eq_true, Bool.not_eq_true'] at unpasted
            exact .failed _ _ ⟨auto, .inr unpasted⟩
          · rw [if_neg unpasted]
            refine .done _ (fun wrong => ?_) rfl fun delivery same => ?_
            · rcases wrong.2 with ⟨failure, failed⟩ | notPasted
              · cases result.symm.trans failed
              · rw [Bool.and_eq_true, Bool.not_eq_true'] at unpasted
                exact unpasted notPasted
            · cases same
              exact .inr List.mem_cons_self

section Event

variable {e : EventArrival}

/-- An event that announces no clip for this agent neither fails nor brings anything. -/
theorem unannounced (without : ∀ clipId kind, ¬ Announces ctx e.event clipId kind) :
    ¬ Fails p ctx e ∧ due p ctx e = none := by
  have nothing : due p ctx e = none := by
    unfold due
    cases event : e.event with
    | clipCreated clipId source kind =>
        refine if_neg fun applies => without clipId kind ?_
        rw [Bool.and_eq_true, decide_eq_true_eq] at applies
        exact ⟨applies.1, source, applies.2, event⟩
    | _ => rfl
  refine ⟨?_, nothing⟩
  rintro (⟨clipId, kind, -, announced, -⟩ | ⟨delivery, some, -⟩)
  · exact without clipId kind announced
  · cases nothing.symm.trans some

section Announced

variable {clipId : ClipId} {kind : String} {clip : ClipRecord}

theorem due_announced (announced : Announces ctx e.event clipId kind)
    (fetched : e.answers.getClip clipId = .ok clip) :
    due p ctx e =
      if clip.kind.name = kind then deliveryOf p ctx e.answers.isolated clip else none := by
  obtain ⟨applies, source, other, event⟩ := announced
  unfold due
  rw [event]
  dsimp only
  rw [applies, fetched, decide_eq_true other]
  rfl

/-- Of a clip that was fetched, only what it brings can fail. -/
theorem fails_announced_iff (announced : Announces ctx e.event clipId kind)
    (fetched : e.answers.getClip clipId = .ok clip) :
    Fails p ctx e ↔
      ∃ delivery, due p ctx e = some delivery ∧ Undelivered ctx e.answers delivery := by
  refine ⟨fun fails => fails.resolve_left ?_, .inr⟩
  rintro ⟨otherId, otherKind, failure, ⟨-, source, -, event⟩, -, failed⟩
  obtain ⟨-, own, -, same⟩ := announced
  cases same.symm.trans event
  cases fetched.symm.trans failed

theorem settles_nothing (announced : Announces ctx e.event clipId kind)
    (fetched : e.answers.getClip clipId = .ok clip) (nothing : due p ctx e = none) :
    Settles s (Fails p ctx e) (due p ctx e) (.ok (), s) := by
  refine settles_same ?_ nothing
  rw [fails_announced_iff announced fetched]
  rintro ⟨delivery, some, -⟩
  cases nothing.symm.trans some

theorem settles_delivery {delivery : Delivery} {result : Except Failure Unit × Control}
    (announced : Announces ctx e.event clipId kind)
    (fetched : e.answers.getClip clipId = .ok clip) (brings : due p ctx e = some delivery)
    (settles : Settles s (Undelivered ctx e.answers delivery) (some delivery) result) :
    Settles s (Fails p ctx e) (due p ctx e) result := by
  rw [fails_announced_iff announced fetched, brings]
  simpa only [Option.some.injEq, exists_eq_left'] using settles

/-- A clip that is not what it was announced as brings nothing. -/
theorem due_other (announced : Announces ctx e.event clipId kind)
    (fetched : e.answers.getClip clipId = .ok clip) (other : clip.kind.name ≠ kind) :
    due p ctx e = none :=
  (due_announced announced fetched).trans (if_neg other)

end Announced

theorem receiveTextClip_settles {clipId : ClipId} (mode : s.desk.isolated = e.answers.isolated)
    (announced : Announces ctx e.event clipId "text") :
    Settles s (Fails p ctx e) (due p ctx e) (receiveTextClip p ctx e.answers clipId s) := by
  unfold receiveTextClip
  cases fetched : e.answers.getClip clipId with
  | error failure =>
      exact .failed failure s (.inl ⟨clipId, "text", failure, announced, .inl rfl, fetched⟩)
  | ok clip =>
      have brings := due_announced (p := p) announced fetched
      dsimp only
      cases kind : clip.kind with
      | text textClip =>
          rw [kind, if_pos (by rfl), deliveryOf, kind] at brings
          dsimp only at brings ⊢
          cases read : decryptRemoteText p textClip clip.encryption ctx.deviceId
              ctx.encryption with
          | error error =>
              rw [read] at brings
              exact settles_nothing announced fetched brings
          | ok text =>
              rw [read] at brings
              cases text with
              | none => exact settles_nothing announced fetched brings
              | some text =>
                  rw [← mode] at brings
                  exact settles_delivery announced fetched brings (receiveText_settles text)
      | image image =>
          exact settles_nothing announced fetched
            (due_other announced fetched (by simp [kind, ClipKind.name]))
      | files fileClip =>
          exact settles_nothing announced fetched
            (due_other announced fetched (by simp [kind, ClipKind.name]))

theorem receiveFileClip_settles {clipId : ClipId}
    (announced : Announces ctx e.event clipId "files") :
    Settles s (Fails p ctx e) (due p ctx e) (receiveFileClip ctx e.answers clipId s) := by
  unfold receiveFileClip
  cases fetched : e.answers.getClip clipId with
  | error failure =>
      exact .failed failure s (.inl ⟨clipId, "files", failure, announced, .inr rfl, fetched⟩)
  | ok clip =>
      have brings := due_announced (p := p) announced fetched
      dsimp only
      cases kind : clip.kind with
      | text textClip =>
          exact settles_nothing announced fetched
            (due_other announced fetched (by simp [kind, ClipKind.name]))
      | image image =>
          exact settles_nothing announced fetched
            (due_other announced fetched (by simp [kind, ClipKind.name]))
      | files fileClip =>
          rw [kind, if_pos (by rfl), deliveryOf, kind] at brings
          exact settles_delivery announced fetched brings (receiveFiles_settles _)

/-- A clip announced as neither a text nor files brings nothing. -/
theorem ignored {clipId : ClipId} {kind : String} (announced : Announces ctx e.event clipId kind)
    (notText : kind ≠ "text") (notFiles : kind ≠ "files") :
    ¬ Fails p ctx e ∧ due p ctx e = none := by
  have nothing : due p ctx e = none := by
    cases fetched : e.answers.getClip clipId with
    | error failure =>
        obtain ⟨applies, source, other, event⟩ := announced
        unfold due
        rw [event]
        dsimp only
        rw [fetched]
        exact ite_self _
    | ok clip =>
        rw [due_announced announced fetched]
        cases held : clip.kind with
        | text textClip => exact if_neg fun same => notText same.symm
        | image image =>
            rw [deliveryOf, held]
            exact ite_self _
        | files fileClip => exact if_neg fun same => notFiles same.symm
  refine ⟨?_, nothing⟩
  rintro (⟨otherId, otherKind, failure, ⟨-, source, -, event⟩, known, -⟩ | ⟨delivery, some, -⟩)
  · obtain ⟨-, own, -, same⟩ := announced
    cases same.symm.trans event
    exact known.elim notText notFiles
  · cases nothing.symm.trans some

theorem handleServerEvent_settles (e : EventArrival) (mode : s.desk.isolated = e.answers.isolated) :
    Settles s (Fails p ctx e) (due p ctx e) (handleServerEvent p ctx e.answers e.event s) := by
  cases event : e.event with
  | clipCreated clipId source kind =>
      unfold handleServerEvent
      dsimp only
      by_cases applies : (ctx.applyRemote && source ≠ ctx.deviceId) = true
      · have announced : Announces ctx e.event clipId kind := by
          rw [Bool.and_eq_true, decide_eq_true_eq] at applies
          exact ⟨applies.1, source, applies.2, event⟩
        rw [applies, Bool.true_and, Bool.true_and]
        by_cases isText : kind = "text"
        · subst isText
          exact receiveTextClip_settles mode announced
        · by_cases isFiles : kind = "files"
          · subst isFiles
            exact receiveFileClip_settles announced
          · rw [decide_eq_false isText, decide_eq_false isFiles]
            have nothing := ignored (p := p) announced isText isFiles
            exact settles_same nothing.1 nothing.2
      · have none : ∀ otherId otherKind, ¬ Announces ctx e.event otherId otherKind := by
          rintro otherId otherKind ⟨on, own, other, same⟩
          cases event.symm.trans same
          refine applies ?_
          rw [on, decide_eq_true other]
          rfl
        rw [Bool.not_eq_true] at applies
        rw [applies, Bool.false_and, Bool.false_and]
        exact settles_same (unannounced none).1 (unannounced none).2
  | transferRelayReady sessionId clipId source recipient =>
      have without : ∀ clipId kind, ¬ Announces ctx e.event clipId kind := by
        rintro clipId kind ⟨-, other, -, same⟩
        cases event.symm.trans same
      have nothing := unannounced (p := p) without
      unfold handleServerEvent
      dsimp only
      by_cases own : source = ctx.deviceId
      · rw [if_pos own, nothing.2]
        exact .done _ nothing.1 (List.append_nil _).symm fun _ some => by cases some
      · rw [if_neg own]
        exact settles_same nothing.1 nothing.2
  | _ =>
      have without : ∀ clipId kind, ¬ Announces ctx e.event clipId kind := by
        rintro clipId kind ⟨-, other, -, same⟩
        cases event.symm.trans same
      have nothing := unannounced (p := p) without
      exact settles_same nothing.1 nothing.2

end Event

/-! ## A run of events -/

/-- One event that arrives: it ends the connection, or the rest is read after it. -/
theorem readMessages_cons (p : Primitives Key) (ctx : AgentCtx) (e : EventArrival)
    (rest : List Arrival) (s : Control) :
    (Fails p ctx e ∧ ∃ failure after,
        readMessages p ctx (e.arrival :: rest) s = (.error failure, after)) ∨
      (¬ Fails p ctx e ∧ ∃ after,
        readMessages p ctx (e.arrival :: rest) s = readMessages p ctx rest after ∧
        after.delivered = s.delivered ++ (due p ctx e).toList ∧
        ∀ delivery, due p ctx e = some delivery → after.Holds delivery) := by
  have settles : Settles (s.switch e.answers.isolated) (Fails p ctx e) (due p ctx e)
      (handleServerEvent p ctx e.answers e.event (s.switch e.answers.isolated)) :=
    handleServerEvent_settles e rfl
  have reads : readMessages p ctx (e.arrival :: rest) s =
      match handleServerEvent p ctx e.answers e.event (s.switch e.answers.isolated) with
      | (.error failure, after) => (.error failure, after)
      | (.ok (), after) => readMessages p ctx rest after := rfl
  rw [reads]
  generalize handleServerEvent p ctx e.answers e.event (s.switch e.answers.isolated) = result
    at settles ⊢
  cases settles with
  | failed failure after why => exact .inl ⟨why, failure, after, rfl⟩
  | done after fine delivered holds => exact .inr ⟨fine, after, rfl, delivered, holds⟩

theorem readMessages_kept_iff (events : List EventArrival) (s : Control) :
    (readMessages p ctx (events.map EventArrival.arrival) s).1 = .ok () ↔
      ∀ e ∈ events, ¬ Fails p ctx e := by
  induction events generalizing s with
  | nil => exact iff_of_true rfl fun _ member => by cases member
  | cons e rest ih =>
      rw [List.map_cons, List.forall_mem_cons]
      rcases readMessages_cons p ctx e (rest.map EventArrival.arrival) s with
        ⟨why, failure, after, ends⟩ | ⟨fine, after, goesOn, -⟩
      · rw [ends]
        exact iff_of_false (fun wrong => by cases wrong) fun fine => fine.1 why
      · rw [goesOn, and_iff_right fine]
        exact ih after

/-- While no event fails, what is due is delivered. -/
theorem readMessages_delivered (events : List EventArrival) (s : Control)
    (fine : ∀ e ∈ events, ¬ Fails p ctx e) :
    (readMessages p ctx (events.map EventArrival.arrival) s).2.delivered =
      s.delivered ++ events.filterMap (due p ctx) := by
  induction events generalizing s with
  | nil => exact (List.append_nil _).symm
  | cons e rest ih =>
      obtain ⟨here, later⟩ := List.forall_mem_cons.mp fine
      rw [List.map_cons]
      rcases readMessages_cons p ctx e (rest.map EventArrival.arrival) s with
        ⟨why, -⟩ | ⟨-, after, goesOn, delivered, -⟩
      · exact absurd why here
      · rw [goesOn, ih after later, delivered, List.append_assoc, List.filterMap_cons]
        cases due p ctx e with
        | none => rfl
        | some delivery => rfl

/-- While no event fails, what the last one brings is in its place. -/
theorem readMessages_placed (before : List EventArrival) (e : EventArrival) (s : Control)
    (fine : ∀ x ∈ before ++ [e], ¬ Fails p ctx x) {delivery : Delivery}
    (brings : due p ctx e = some delivery) :
    (readMessages p ctx ((before ++ [e]).map EventArrival.arrival) s).2.Holds delivery := by
  induction before generalizing s with
  | nil =>
      rw [List.nil_append, List.map_singleton]
      rcases readMessages_cons p ctx e [] s with ⟨why, -⟩ | ⟨-, after, goesOn, -, holds⟩
      · exact absurd why (fine e List.mem_cons_self)
      · rw [goesOn]
        exact holds delivery brings
  | cons first rest ih =>
      rw [List.cons_append, List.forall_mem_cons] at fine
      rw [List.cons_append, List.map_cons]
      rcases readMessages_cons p ctx first ((rest ++ [e]).map EventArrival.arrival) s with
        ⟨why, -⟩ | ⟨-, after, goesOn, -⟩
      · exact absurd why fine.1
      · rw [goesOn]
        exact ih after fine.2

/-- No bad event costs the others exactly when there is none. -/
theorem noneLost_iff (p : Primitives Key) (ctx : AgentCtx) (events : List EventArrival)
    (s : Control) : NoneLost p ctx events s ↔ ∀ e ∈ events, ¬ Fails p ctx e := by
  constructor
  · intro safe
    exact (readMessages_kept_iff events s).mp safe.kept
  · intro fine
    refine ⟨(readMessages_kept_iff events s).mpr fine, readMessages_delivered events s fine, ?_⟩
    intro before e after split delivery brings
    refine readMessages_placed before e s (fun x member => fine x ?_) brings
    rw [split]
    rcases List.mem_append.mp member with earlier | here
    · exact List.mem_append_left _ earlier
    · cases List.mem_singleton.mp here
      exact List.mem_append_right _ List.mem_cons_self

end Handled

namespace Expired

open AirPaste.Crypto.Sample

def ctx : AgentCtx :=
  { Doomed.ctx with
    deviceId := ⟨"dev_laptop"⟩
    encryption := identity
    applyRemote := true
    autoApplyFiles := false
    autoPasteFiles := false }

def start : Control := ⟨.new true 0, none, [], []⟩

/-- A text that a simple device uploaded when no device had a key. -/
def hello : ClipRecord where
  clipId := ⟨"clip_2"⟩
  sourceDeviceId := ⟨"dev_phone"⟩
  createdAt := 0
  expiresAt := none
  kind := .text ⟨5, none, ⟨"plaintext-simple-v1", 5⟩, some "hello"⟩
  encryption := ⟨"plaintext-simple-v1", [], [], none⟩

/-- The server has the second clip, not the first, which has expired. -/
def answers : EventAnswers where
  getClip := fun clipId => if clipId = hello.clipId then .ok hello else .error .network
  isolated := true
  paste := ⟨Doomed.source true, Doomed.disk, true, true⟩

def events : List EventArrival :=
  [⟨.clipCreated ⟨"clip_1"⟩ ⟨"dev_phone"⟩ "text", answers⟩,
    ⟨.clipCreated ⟨"clip_2"⟩ ⟨"dev_phone"⟩ "text", answers⟩]

theorem text_lost : ¬ NoneLost primitives ctx events start := by
  intro safe
  have outcome : events.filterMap (due primitives ctx) = [.inbox "hello"] ∧
      (runWsOnce primitives ctx (.ok ()) (events.map EventArrival.arrival) start).2.delivered =
        [] := by
    decide +kernel
  have delivered := outcome.2.symm.trans safe.delivered
  rw [outcome.1] at delivered
  cases delivered

end Expired

end AirPaste.Agent
