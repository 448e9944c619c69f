/-
# Server.RelayedEvents — what a handler has sent of what was broadcast

Of a handler of the control plane only its place in the global channel matters here, and what it
has sent of that channel: its `GlobalView`.  `step_view` says once what a step of the plane can
do to the view of any handler.  In every run a handler has sent, in order and without repeating
anything, a part of what was broadcast since it subscribed (`sentSince_step`), and all of it up
to its place while it does not fall behind (`sentAll_step`).
-/
import AirPaste.Server.EventHub

namespace AirPaste.Server

open AirPaste.Core
open AirPaste.Protocol
open AirPaste.Theory

set_option autoImplicit false

/-- A handler's place in the global channel. -/
inductive GlobalStage where
  | before
  | at (globalRx : Nat)
  | gone
  deriving DecidableEq

structure GlobalView where
  stage : GlobalStage
  sent : List ServerEvent
  deriving DecidableEq

def WsPhase.stage : WsPhase → GlobalStage
  | .announcing | .acknowledging | .subscribingGlobal => .before
  | .subscribingDevice globalRx | .looping globalRx _ => .at globalRx
  | .leaving | .done => .gone

def WsHandler.view (handler : WsHandler) : GlobalView := ⟨handler.phase.stage, handler.globalSent⟩

/-- What one step can do to the global channel and to the view of a handler. -/
inductive ViewStep (channel : Broadcast ServerEvent) :
    GlobalView → Broadcast ServerEvent → GlobalView → Prop where
  | same (view : GlobalView) : ViewStep channel view channel view
  | sends (item : ServerEvent) (view : GlobalView) :
      ViewStep channel view (channel.send item) view
  | subscribes (sent : List ServerEvent) :
      ViewStep channel ⟨.before, sent⟩ channel ⟨.at channel.subscribe, sent⟩
  | receives (globalRx later : Nat) (item : ServerEvent) (sent : List ServerEvent)
      (received : channel.recv globalCapacity globalRx = .event item later) :
      ViewStep channel ⟨.at globalRx, sent⟩ channel ⟨.at later, sent ++ [item]⟩
  | lags (globalRx skipped later : Nat) (sent : List ServerEvent)
      (lagged : channel.recv globalCapacity globalRx = .lagged skipped later) :
      ViewStep channel ⟨.at globalRx, sent⟩ channel ⟨.at later, sent⟩
  | leaves (stage : GlobalStage) (sent : List ServerEvent) :
      ViewStep channel ⟨stage, sent⟩ channel ⟨.gone, sent⟩

namespace ControlPlane

/-- The view of the handler at this place. -/
def view (s : ControlPlane) (h : Nat) : Option GlobalView :=
  (s.handlers[h]?).map WsHandler.view

/-- The handler at this place is still there, its view moved on by one step. -/
def ViewMoves (s t : ControlPlane) (h : Nat) (view : GlobalView) : Prop :=
  ∃ later, t.view h = some later ∧ ViewStep s.hub.globalTx view t.hub.globalTx later

section Moves

variable {s : ControlPlane} {h g : Nat} {view : GlobalView} {handler : WsHandler}

theorem viewMoves_self (held : s.view h = some view) : ViewMoves s s h view :=
  ⟨view, held, .same view⟩

/-- One handler is replaced, and the hub left alone. -/
theorem viewMoves_setHandler (held : s.view h = some view) (found : s.handlers[g]? = some handler)
    {new : WsHandler}
    (own : ViewStep s.hub.globalTx handler.view s.hub.globalTx new.view) :
    ViewMoves s (s.setHandler g new) h view := by
  unfold ViewMoves ControlPlane.view setHandler
  by_cases here : g = h
  · subst here
    rw [ControlPlane.view, found] at held
    obtain rfl := Option.some.inj held
    rw [List.getElem?_set_self (List.getElem?_eq_some_iff.mp found).1]
    exact ⟨_, rfl, own⟩
  · rw [List.getElem?_set_ne here]
    exact ⟨view, held, .same view⟩

theorem viewMoves_setPhase (held : s.view h = some view) (found : s.handlers[g]? = some handler)
    {phase : WsPhase} (own : ViewStep s.hub.globalTx ⟨handler.phase.stage, handler.globalSent⟩
      s.hub.globalTx ⟨phase.stage, handler.globalSent⟩) :
    ViewMoves s (s.setPhase g handler phase) h view :=
  viewMoves_setHandler held found own

theorem view_owesGlobal (event : ServerEvent) (handler : WsHandler) :
    (handler.owesGlobal event).view = handler.view := by
  unfold WsHandler.owesGlobal
  split <;> rfl

theorem view_owesDevice (deviceId : DeviceId) (event : ServerEvent) (handler : WsHandler) :
    (handler.owesDevice deviceId event).view = handler.view := by
  unfold WsHandler.owesDevice
  split <;> rfl

/-- What the handlers owe changes no view. -/
theorem view_map {owes : WsHandler → WsHandler}
    (same : ∀ handler, (owes handler).view = handler.view) (handlers : List WsHandler) (h : Nat) :
    ((handlers.map owes)[h]?).map WsHandler.view = (handlers[h]?).map WsHandler.view := by
  rw [List.getElem?_map, Option.map_map]
  exact congrArg (Option.map · handlers[h]?) (funext same)

theorem view_broadcasts (s : ControlPlane) (event : ServerEvent) (h : Nat) :
    (s.broadcasts event).view h = s.view h :=
  view_map (view_owesGlobal event) s.handlers h

theorem viewMoves_broadcasts (held : s.view h = some view) (event : ServerEvent) :
    ViewMoves s (s.broadcasts event) h view :=
  ⟨view, (view_broadcasts s event h).trans held, .sends event view⟩

theorem viewMoves_owesDevice (held : s.view h = some view) {t : ControlPlane}
    (handlers : t.handlers = s.handlers) (channel : t.hub.globalTx = s.hub.globalTx)
    (deviceId : DeviceId) (event : ServerEvent) :
    ViewMoves s (t.owesDevice deviceId event) h view := by
  refine ⟨view, ?_, ?_⟩
  · exact (view_map (view_owesDevice deviceId event) t.handlers h).trans (handlers ▸ held)
  · show ViewStep s.hub.globalTx view t.hub.globalTx view
    rw [channel]
    exact .same view

/-- A handler is replaced by one of the same view, and then an event is broadcast. -/
theorem viewMoves_announcement (held : s.view h = some view)
    (found : s.handlers[g]? = some handler) {phase : WsPhase}
    (same : phase.stage = handler.phase.stage) (event : ServerEvent) :
    ViewMoves s ((s.setPhase g handler phase).broadcasts event) h view := by
  refine ⟨view, (view_broadcasts _ event h).trans ?_, .sends event view⟩
  by_cases here : g = h
  · subst here
    rw [ControlPlane.view, found] at held
    obtain rfl := Option.some.inj held
    simp only [ControlPlane.view, setPhase, setHandler]
    rw [List.getElem?_set_self (List.getElem?_eq_some_iff.mp found).1]
    simp only [Option.map_some, WsHandler.view, same]
  · simp only [ControlPlane.view, setPhase, setHandler]
    rw [List.getElem?_set_ne here]
    exact held

end Moves

/-! ## One step -/

section Step

variable {s : ControlPlane} {h : Nat} {view : GlobalView}

theorem view_connects (held : s.view h = some view) (requestDeviceId : DeviceId)
    (first : Option ClientEvent) : (s.connects requestDeviceId first).view h = some view := by
  have there : h < s.handlers.length := by
    by_contra beyond
    rw [ControlPlane.view, List.getElem?_eq_none (Nat.le_of_not_lt beyond)] at held
    cases held
  unfold ControlPlane.view connects
  rw [List.getElem?_append_left there]
  exact held

theorem looksUp_view (held : s.view h = some view) (call : Nat) (deviceId : DeviceId)
    (event : ServerEvent) : ViewMoves s (s.looksUp call deviceId event) h view := by
  unfold looksUp
  split
  · exact viewMoves_owesDevice held rfl rfl deviceId event
  · exact viewMoves_self held
  · exact viewMoves_self held

theorem relaysGlobal_view (held : s.view h = some view) (g : Nat) (ok : Bool) :
    ViewMoves s (s.relaysGlobal g ok) h view := by
  unfold relaysGlobal
  cases found : s.handlers[g]? with
  | none => exact viewMoves_self held
  | some handler =>
      obtain ⟨deviceId, phase, globalDue, deviceDue, globalSent, deviceSent⟩ := handler
      cases phase with
      | looping globalRx deviceRx =>
          dsimp only
          cases received : s.hub.globalTx.recv globalCapacity globalRx with
          | empty => exact viewMoves_self held
          | lagged skipped next =>
              exact viewMoves_setPhase held found (.lags globalRx skipped next _ received)
          | event event next =>
              cases ok with
              | true =>
                  exact viewMoves_setHandler held found (.receives globalRx next event _ received)
              | false => exact viewMoves_setPhase held found (.leaves _ _)
      | _ => exact viewMoves_self held

/-- What is relayed of the device's own channel leaves the view as it is. -/
theorem relaysDevice_view (held : s.view h = some view) (g : Nat) (ok : Bool) :
    ViewMoves s (s.relaysDevice g ok) h view := by
  unfold relaysDevice
  cases found : s.handlers[g]? with
  | none => exact viewMoves_self held
  | some handler =>
      obtain ⟨deviceId, phase, globalDue, deviceDue, globalSent, deviceSent⟩ := handler
      cases phase with
      | looping globalRx deviceRx =>
          dsimp only
          cases s.hub.deviceTxs deviceId with
          | none => exact viewMoves_self held
          | some channel =>
              dsimp only
              cases channel.recv deviceCapacity deviceRx with
              | empty => exact viewMoves_self held
              | lagged skipped next => exact viewMoves_setPhase held found (.same _)
              | event event next =>
                  cases ok with
                  | true => exact viewMoves_setHandler held found (.same _)
                  | false => exact viewMoves_setPhase held found (.leaves _ _)
      | _ => exact viewMoves_self held

/-- **What a step can do to the view of a handler.** -/
theorem step_view (e : WsEvent) (held : s.view h = some view) :
    ViewMoves s (s.step e) h view := by
  cases e with
  | connects requestDeviceId first =>
      exact ⟨view, view_connects held requestDeviceId first, .same view⟩
  | relaysGlobal g ok => exact relaysGlobal_view held g ok
  | relaysDevice g ok => exact relaysDevice_view held g ok
  | broadcasts event => exact viewMoves_broadcasts held event
  | looksUp call deviceId event => exact looksUp_view held call deviceId event
  | sends call =>
      simp only [step, sends]
      split
      · exact viewMoves_self held
      · exact viewMoves_owesDevice (t := { s.setCall call none with hub := s.hub.sendOn _ _ })
          held rfl sendOn_globalTx _ _
  | announces g =>
      simp only [step, announces]
      cases found : s.handlers[g]? with
      | none => exact viewMoves_self held
      | some handler =>
          dsimp only
          split
          · rename_i standing
            exact viewMoves_announcement held found (by rw [standing]; rfl) _
          · exact viewMoves_self held
  | leaves g =>
      simp only [step, leaves]
      cases found : s.handlers[g]? with
      | none => exact viewMoves_self held
      | some handler =>
          dsimp only
          split
          · rename_i standing
            exact viewMoves_announcement held found (by rw [standing]; rfl) _
          · exact viewMoves_self held
  | acknowledges g ok =>
      simp only [step, acknowledges]
      cases found : s.handlers[g]? with
      | none => exact viewMoves_self held
      | some handler =>
          dsimp only
          split
          · rename_i standing
            cases ok with
            | true => exact viewMoves_setPhase held found (standing.symm ▸ .same _)
            | false => exact viewMoves_setPhase held found (.leaves _ _)
          · exact viewMoves_self held
  | subscribesGlobal g =>
      simp only [step, subscribesGlobal]
      cases found : s.handlers[g]? with
      | none => exact viewMoves_self held
      | some handler =>
          dsimp only
          split
          · rename_i standing
            exact viewMoves_setPhase held found (standing ▸ .subscribes _)
          · exact viewMoves_self held
  | subscribesDevice g =>
      simp only [step, subscribesDevice]
      cases found : s.handlers[g]? with
      | none => exact viewMoves_self held
      | some handler =>
          dsimp only
          split
          · rename_i globalRx standing
            exact viewMoves_setPhase (s := { s with hub := _ }) held found (standing ▸ .same _)
          · exact viewMoves_self held
  | closes g =>
      simp only [step, closes]
      cases found : s.handlers[g]? with
      | none => exact viewMoves_self held
      | some handler =>
          dsimp only
          split
          · exact viewMoves_setPhase held found (.leaves _ _)
          · exact viewMoves_self held
  | hears g event call =>
      simp only [step, hears]
      split
      · exact viewMoves_self held
      · split
        · exact looksUp_view held call _ _
        · exact viewMoves_self held

/-- What a step broadcasts: the event that it is asked to, or that a device comes or goes. -/
theorem step_globalTx (s : ControlPlane) (e : WsEvent) :
    (s.step e).hub.globalTx = s.hub.globalTx ∨
      ∃ event, (s.step e).hub.globalTx = s.hub.globalTx.send event ∧
        (e = .broadcasts event ∨ ∃ deviceId, event = .deviceOnline deviceId ∨
          event = .deviceOffline deviceId) := by
  have looks : ∀ call deviceId event,
      (s.looksUp call deviceId event).hub.globalTx = s.hub.globalTx := by
    intro call deviceId event
    unfold looksUp
    split <;> rfl
  cases e with
  | broadcasts event => exact .inr ⟨event, rfl, .inl rfl⟩
  | announces g =>
      simp only [step, announces]
      split
      · exact .inl rfl
      · split
        · exact .inr ⟨_, rfl, .inr ⟨_, .inl rfl⟩⟩
        · exact .inl rfl
  | leaves g =>
      simp only [step, leaves]
      split
      · exact .inl rfl
      · split
        · exact .inr ⟨_, rfl, .inr ⟨_, .inr rfl⟩⟩
        · exact .inl rfl
  | sends call =>
      simp only [step, sends]
      split
      · exact .inl rfl
      · exact .inl sendOn_globalTx
  | hears g event call =>
      simp only [step, hears]
      split
      · exact .inl rfl
      · split
        · exact .inl (looks _ _ _)
        · exact .inl rfl
  | looksUp call deviceId event => exact .inl (looks call deviceId event)
  | connects => exact .inl rfl
  | acknowledges g ok =>
      simp only [step, acknowledges]
      split
      · exact .inl rfl
      · split <;> exact .inl rfl
  | subscribesGlobal g =>
      simp only [step, subscribesGlobal]
      split
      · exact .inl rfl
      · split <;> exact .inl rfl
  | subscribesDevice g =>
      simp only [step, subscribesDevice]
      split
      · exact .inl rfl
      · split <;> exact .inl rfl
  | relaysGlobal g ok =>
      refine .inl ?_
      simp only [step, relaysGlobal]
      repeat' split
      all_goals rfl
  | relaysDevice g ok =>
      refine .inl ?_
      simp only [step, relaysDevice]
      repeat' split
      all_goals rfl
  | closes g =>
      simp only [step, closes]
      split
      · exact .inl rfl
      · split <;> exact .inl rfl

end Step

end ControlPlane

/-! ## What was sent since -/

namespace GlobalView

/-- What the handler has sent was broadcast after the first `k` events, in this order. -/
def SentSince (channel : Broadcast ServerEvent) (k : Nat) (view : GlobalView) : Prop :=
  match view.stage with
  | .before => k ≤ channel.log.length ∧ view.sent = []
  | .at globalRx => channel.Received k globalRx view.sent
  | .gone => k ≤ channel.log.length ∧ view.sent.Sublist (channel.log.drop k)

/-- After `sent` the handler has sent everything from the place `k` on, up to its own. -/
def SentAll (channel : Broadcast ServerEvent) (k : Nat) (sent : List ServerEvent)
    (view : GlobalView) : Prop :=
  match view.stage with
  | .before => False
  | .at globalRx => ∃ later, view.sent = sent ++ later ∧ channel.ReceivedAll k globalRx later
  | .gone => True

/-- A receiver's place is not behind the ring. -/
def KeepsUp (channel : Broadcast ServerEvent) (view : GlobalView) : Prop :=
  ∀ globalRx, view.stage = .at globalRx → channel.log.length ≤ globalRx + globalCapacity

variable {channel channel' : Broadcast ServerEvent} {view view' : GlobalView} {k : Nat}

theorem SentSince.among (since : SentSince channel k view) :
    view.sent.Sublist (channel.log.drop k) := by
  obtain ⟨stage, sent⟩ := view
  cases stage with
  | before =>
      obtain rfl : sent = [] := since.2
      exact List.nil_sublist _
  | «at» globalRx => exact since.among.trans ((List.take_sublist _ _).drop k)
  | gone => exact since.2

theorem SentSince.le (since : SentSince channel k view) : k ≤ channel.log.length := by
  obtain ⟨stage, sent⟩ := view
  cases stage with
  | before => exact since.1
  | «at» globalRx => exact Nat.le_trans since.le since.bound
  | gone => exact since.1

theorem sent_prefix (moves : ViewStep channel view channel' view') : view.sent <+: view'.sent := by
  cases moves with
  | receives globalRx later item sent received => exact List.prefix_append sent [item]
  | _ => exact List.prefix_refl _

theorem sentSince_step (moves : ViewStep channel view channel' view')
    (since : SentSince channel k view) : SentSince channel' k view' := by
  cases moves with
  | same => exact since
  | sends item =>
      have longer : k ≤ (channel.send item).log.length :=
        Nat.le_trans since.le Broadcast.length_le_send
      obtain ⟨stage, sent⟩ := view
      cases stage with
      | before => exact ⟨longer, since.2⟩
      | «at» globalRx => exact since.send
      | gone =>
          refine ⟨longer, ?_⟩
          rw [Broadcast.send, List.drop_append_of_le_length since.1]
          exact since.2.trans (List.sublist_append_left _ _)
  | subscribes sent =>
      obtain rfl : sent = [] := since.2
      exact ⟨since.1, Nat.le_refl _, List.nil_sublist _⟩
  | receives globalRx later item sent received => exact Broadcast.Received.event since received
  | lags globalRx skipped later sent lagged => exact Broadcast.Received.lagged since lagged
  | leaves stage sent => exact ⟨since.le, since.among⟩

theorem sentAll_step {sent : List ServerEvent} (moves : ViewStep channel view channel' view')
    (keepsUp : KeepsUp channel view) (all : SentAll channel k sent view) :
    SentAll channel' k sent view' := by
  cases moves with
  | same => exact all
  | sends item =>
      obtain ⟨stage, now⟩ := view
      cases stage with
      | before => exact all
      | «at» globalRx =>
          obtain ⟨later, same, received⟩ := all
          exact ⟨later, same, received.send⟩
      | gone => trivial
  | subscribes => exact all.elim
  | receives globalRx later item now received =>
      obtain ⟨items, same, all⟩ := all
      refine ⟨items ++ [item], ?_, all.event received⟩
      dsimp only at same ⊢
      rw [same, List.append_assoc]
  | lags globalRx skipped later now lagged =>
      have behind := Broadcast.recv_lagged_iff.mp ⟨skipped, later, lagged⟩
      exact absurd behind (Nat.not_lt.mpr (keepsUp globalRx rfl))
  | leaves => trivial

end GlobalView

end AirPaste.Server
