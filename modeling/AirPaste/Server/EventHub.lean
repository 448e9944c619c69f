/-
# Server.EventHub — control connections and the events published to them

The hub has one broadcast channel for everyone and one for each device that has ever
subscribed.  `ws_handler` takes a hello, announces the device, acknowledges the hello,
subscribes to both channels, and then sends what it receives from them to its client until
the socket closes.  `send_to` looks the device's channel up under a lock and sends on it
after that.

`WsEvent` are the steps of any number of handlers and of the requests that publish.  A
handler keeps what was published while its client counts on it, from the acknowledgement to
the end of its loop, and what it has sent of that; no step reads either.

`noneMissed_iff` says in which runs no event is missed: those in which nothing is published
between the acknowledgement and the subscription, and no loop ends while something waits.
In `BeforeSubscribing.clip_missed` a clip is announced in between.
-/
import AirPaste.Protocol.Events
import AirPaste.Theory.Broadcast
import AirPaste.Theory.Run

namespace AirPaste.Server

open AirPaste.Core
open AirPaste.Protocol
open AirPaste.Theory

set_option autoImplicit false

def globalCapacity : Nat := 512
def deviceCapacity : Nat := 256

structure EventHub where
  globalTx : Broadcast ServerEvent
  deviceTxs : DeviceId → Option (Broadcast ServerEvent)

namespace EventHub

def new : EventHub := ⟨.new, fun _ => none⟩

def setDevice (hub : EventHub) (deviceId : DeviceId) (channel : Broadcast ServerEvent) :
    EventHub :=
  { hub with
    deviceTxs := fun other => if other = deviceId then some channel else hub.deviceTxs other }

def subscribeGlobal (hub : EventHub) : Nat := hub.globalTx.subscribe

/-- The device's channel is created at the first subscription. -/
def subscribeDevice (hub : EventHub) (deviceId : DeviceId) : Nat × EventHub :=
  let channel := (hub.deviceTxs deviceId).getD .new
  (channel.subscribe, hub.setDevice deviceId channel)

def broadcast (hub : EventHub) (event : ServerEvent) : EventHub :=
  { hub with globalTx := hub.globalTx.send event }

/-- The second half of `send_to`, on the channel that the first half has found. -/
def sendOn (hub : EventHub) (deviceId : DeviceId) (event : ServerEvent) : EventHub :=
  match hub.deviceTxs deviceId with
  | none => hub
  | some channel => hub.setDevice deviceId (channel.send event)

end EventHub

/-- What `handle_client_event` sends, and to whom. -/
def handleClientEvent (fromDeviceId : DeviceId) : ClientEvent → Option (DeviceId × ServerEvent)
  | .hello _ => none
  | .heartbeat => none
  | .transferOffer toDeviceId payload => some (toDeviceId, .transferOffer fromDeviceId payload)
  | .transferAnswer toDeviceId payload => some (toDeviceId, .transferAnswer fromDeviceId payload)
  | .transferCandidate toDeviceId payload =>
      some (toDeviceId, .transferCandidate fromDeviceId payload)
  | .transferCancelled toDeviceId sessionId reason =>
      some (toDeviceId, .transferCancelled fromDeviceId sessionId reason)

/-- Where a `ws_handler` stands. -/
inductive WsPhase where
  | announcing
  | acknowledging
  | subscribingGlobal
  | subscribingDevice (globalRx : Nat)
  | looping (globalRx deviceRx : Nat)
  /-- The loop has ended, the device is not announced to be offline yet. -/
  | leaving
  | done
  deriving DecidableEq

structure WsHandler where
  deviceId : DeviceId
  phase : WsPhase
  /-- What was published to everyone, and to the device, while the client counts on it. -/
  globalDue : List ServerEvent
  deviceDue : List ServerEvent
  /-- What was sent of either. -/
  globalSent : List ServerEvent
  deviceSent : List ServerEvent
  deriving DecidableEq

namespace WsHandler

def new (deviceId : DeviceId) (phase : WsPhase) : WsHandler := ⟨deviceId, phase, [], [], [], []⟩

/-- The hello is acknowledged and the loop has not ended. -/
def isOpen (handler : WsHandler) : Bool :=
  match handler.phase with
  | .subscribingGlobal | .subscribingDevice _ | .looping _ _ => true
  | _ => false

def owesGlobal (event : ServerEvent) (handler : WsHandler) : WsHandler :=
  if handler.isOpen then { handler with globalDue := handler.globalDue ++ [event] } else handler

def owesDevice (deviceId : DeviceId) (event : ServerEvent) (handler : WsHandler) : WsHandler :=
  if handler.isOpen && handler.deviceId = deviceId then
    { handler with deviceDue := handler.deviceDue ++ [event] }
  else handler

/-- What the global receiver has before it. -/
def globalWaiting (hub : EventHub) (handler : WsHandler) : List ServerEvent :=
  match handler.phase with
  | .subscribingDevice globalRx => hub.globalTx.waiting globalRx
  | .looping globalRx _ => hub.globalTx.waiting globalRx
  | _ => []

/-- What the device's receiver has before it. -/
def deviceWaiting (hub : EventHub) (handler : WsHandler) : List ServerEvent :=
  match handler.phase with
  | .looping _ deviceRx =>
      match hub.deviceTxs handler.deviceId with
      | none => []
      | some channel => channel.waiting deviceRx
  | _ => []

end WsHandler

/-- The hub, the handlers, and the calls of `send_to` that have found their channel. -/
structure ControlPlane where
  hub : EventHub
  handlers : List WsHandler
  calls : Nat → Option (DeviceId × ServerEvent)

inductive WsEvent where
  /-- A socket opens, and its first message arrives. -/
  | connects (requestDeviceId : DeviceId) (first : Option ClientEvent)
  | announces (h : Nat)
  | acknowledges (h : Nat) (ok : Bool)
  | subscribesGlobal (h : Nat)
  | subscribesDevice (h : Nat)
  | relaysGlobal (h : Nat) (ok : Bool)
  | relaysDevice (h : Nat) (ok : Bool)
  /-- A client's event; the handler sends on it in a call of `send_to`. -/
  | hears (h : Nat) (event : ClientEvent) (call : Nat)
  | closes (h : Nat)
  | leaves (h : Nat)
  | broadcasts (event : ServerEvent)
  | looksUp (call : Nat) (deviceId : DeviceId) (event : ServerEvent)
  | sends (call : Nat)

namespace ControlPlane

def new : ControlPlane := ⟨.new, [], fun _ => none⟩

def setHandler (s : ControlPlane) (h : Nat) (handler : WsHandler) : ControlPlane :=
  { s with handlers := s.handlers.set h handler }

def setPhase (s : ControlPlane) (h : Nat) (handler : WsHandler) (phase : WsPhase) :
    ControlPlane :=
  s.setHandler h { handler with phase := phase }

def setCall (s : ControlPlane) (call : Nat) (what : Option (DeviceId × ServerEvent)) :
    ControlPlane :=
  { s with calls := fun other => if other = call then what else s.calls other }

def broadcasts (s : ControlPlane) (event : ServerEvent) : ControlPlane :=
  { s with
    hub := s.hub.broadcast event
    handlers := s.handlers.map (WsHandler.owesGlobal event) }

def owesDevice (s : ControlPlane) (deviceId : DeviceId) (event : ServerEvent) : ControlPlane :=
  { s with handlers := s.handlers.map (WsHandler.owesDevice deviceId event) }

def connects (s : ControlPlane) (requestDeviceId : DeviceId) (first : Option ClientEvent) :
    ControlPlane :=
  let phase : WsPhase :=
    match first with
    | some (.hello deviceId) => if deviceId = requestDeviceId then .announcing else .done
    | _ => .done
  { s with handlers := s.handlers ++ [.new requestDeviceId phase] }

def announces (s : ControlPlane) (h : Nat) : ControlPlane :=
  match s.handlers[h]? with
  | none => s
  | some handler =>
      match handler.phase with
      | .announcing =>
          (s.setPhase h handler .acknowledging).broadcasts (.deviceOnline handler.deviceId)
      | _ => s

def acknowledges (s : ControlPlane) (h : Nat) (ok : Bool) : ControlPlane :=
  match s.handlers[h]? with
  | none => s
  | some handler =>
      match handler.phase with
      | .acknowledging => s.setPhase h handler (if ok then .subscribingGlobal else .done)
      | _ => s

def subscribesGlobal (s : ControlPlane) (h : Nat) : ControlPlane :=
  match s.handlers[h]? with
  | none => s
  | some handler =>
      match handler.phase with
      | .subscribingGlobal => s.setPhase h handler (.subscribingDevice s.hub.subscribeGlobal)
      | _ => s

def subscribesDevice (s : ControlPlane) (h : Nat) : ControlPlane :=
  match s.handlers[h]? with
  | none => s
  | some handler =>
      match handler.phase with
      | .subscribingDevice globalRx =>
          let (deviceRx, hub) := s.hub.subscribeDevice handler.deviceId
          { s with hub := hub }.setPhase h handler (.looping globalRx deviceRx)
      | _ => s

/-- One turn of the loop with the global receiver ready; a lagging receiver skips. -/
def relaysGlobal (s : ControlPlane) (h : Nat) (ok : Bool) : ControlPlane :=
  match s.handlers[h]? with
  | none => s
  | some handler =>
      match handler.phase with
      | .looping globalRx deviceRx =>
          match s.hub.globalTx.recv globalCapacity globalRx with
          | .empty => s
          | .lagged _ next => s.setPhase h handler (.looping next deviceRx)
          | .event event next =>
              if ok then
                s.setHandler h { handler with
                  phase := .looping next deviceRx
                  globalSent := handler.globalSent ++ [event] }
              else s.setPhase h handler .leaving
      | _ => s

def relaysDevice (s : ControlPlane) (h : Nat) (ok : Bool) : ControlPlane :=
  match s.handlers[h]? with
  | none => s
  | some handler =>
      match handler.phase, s.hub.deviceTxs handler.deviceId with
      | .looping globalRx deviceRx, some channel =>
          match channel.recv deviceCapacity deviceRx with
          | .empty => s
          | .lagged _ next => s.setPhase h handler (.looping globalRx next)
          | .event event next =>
              if ok then
                s.setHandler h { handler with
                  phase := .looping globalRx next
                  deviceSent := handler.deviceSent ++ [event] }
              else s.setPhase h handler .leaving
      | _, _ => s

/-- The first half of `send_to`: without a channel the call is over. -/
def looksUp (s : ControlPlane) (call : Nat) (deviceId : DeviceId) (event : ServerEvent) :
    ControlPlane :=
  match s.calls call, s.hub.deviceTxs deviceId with
  | none, none => s.owesDevice deviceId event
  | none, some _ => s.setCall call (some (deviceId, event))
  | some _, _ => s

def sends (s : ControlPlane) (call : Nat) : ControlPlane :=
  match s.calls call with
  | none => s
  | some (deviceId, event) =>
      { s.setCall call none with hub := s.hub.sendOn deviceId event }.owesDevice deviceId event

def hears (s : ControlPlane) (h : Nat) (event : ClientEvent) (call : Nat) : ControlPlane :=
  match s.handlers[h]? with
  | none => s
  | some handler =>
      match handler.phase, handleClientEvent handler.deviceId event with
      | .looping _ _, some (toDeviceId, sent) => s.looksUp call toDeviceId sent
      | _, _ => s

/-- The socket closes or fails, and the loop ends. -/
def closes (s : ControlPlane) (h : Nat) : ControlPlane :=
  match s.handlers[h]? with
  | none => s
  | some handler =>
      match handler.phase with
      | .looping _ _ => s.setPhase h handler .leaving
      | _ => s

def leaves (s : ControlPlane) (h : Nat) : ControlPlane :=
  match s.handlers[h]? with
  | none => s
  | some handler =>
      match handler.phase with
      | .leaving => (s.setPhase h handler .done).broadcasts (.deviceOffline handler.deviceId)
      | _ => s

def step (s : ControlPlane) : WsEvent → ControlPlane
  | .connects requestDeviceId first => s.connects requestDeviceId first
  | .announces h => s.announces h
  | .acknowledges h ok => s.acknowledges h ok
  | .subscribesGlobal h => s.subscribesGlobal h
  | .subscribesDevice h => s.subscribesDevice h
  | .relaysGlobal h ok => s.relaysGlobal h ok
  | .relaysDevice h ok => s.relaysDevice h ok
  | .hears h event call => s.hears h event call
  | .closes h => s.closes h
  | .leaves h => s.leaves h
  | .broadcasts event => s.broadcasts event
  | .looksUp call deviceId event => s.looksUp call deviceId event
  | .sends call => s.sends call

end ControlPlane

/-! ## What a client misses -/

namespace WsHandler

/-- What is due was sent or waits. -/
structure Kept (hub : EventHub) (handler : WsHandler) : Prop where
  globalDue : handler.globalDue = handler.globalSent ++ handler.globalWaiting hub
  deviceDue : handler.deviceDue = handler.deviceSent ++ handler.deviceWaiting hub

/-- The handler's receivers are places in the hub's channels. -/
def Placed (hub : EventHub) (handler : WsHandler) : Prop :=
  match handler.phase with
  | .subscribingDevice globalRx => globalRx ≤ hub.globalTx.log.length
  | .looping globalRx deviceRx => globalRx ≤ hub.globalTx.log.length ∧
      ∃ channel, hub.deviceTxs handler.deviceId = some channel ∧ deviceRx ≤ channel.log.length
  | _ => True

/-- The hello is acknowledged, and one of the subscriptions is still to come. -/
def Subscribing (handler : WsHandler) : Prop :=
  handler.phase = .subscribingGlobal ∨ ∃ globalRx, handler.phase = .subscribingDevice globalRx

end WsHandler

/-- The socket takes what the loop sends. -/
def WsEvent.SendsSucceed : WsEvent → Prop
  | .relaysGlobal _ ok => ok = true
  | .relaysDevice _ ok => ok = true
  | _ => True

namespace ControlPlane

/-- No receiver has fallen behind its channel's capacity when its turn comes. -/
def NeverLags (s : ControlPlane) : WsEvent → Prop
  | .relaysGlobal h _ => ∀ handler globalRx deviceRx, s.handlers[h]? = some handler →
      handler.phase = .looping globalRx deviceRx →
      s.hub.globalTx.log.length ≤ globalRx + globalCapacity
  | .relaysDevice h _ => ∀ handler globalRx deviceRx channel, s.handlers[h]? = some handler →
      handler.phase = .looping globalRx deviceRx →
      s.hub.deviceTxs handler.deviceId = some channel →
      channel.log.length ≤ deviceRx + deviceCapacity
  | _ => True

/-- Nothing that was published while a client counts on it is missing, or sent twice. -/
def NoneMissed (s : ControlPlane) : Prop := ∀ handler ∈ s.handlers, handler.Kept s.hub

/-- No handler is about to subscribe to the global channel. -/
def GlobalSettled (s : ControlPlane) : Prop :=
  ∀ handler ∈ s.handlers, handler.phase ≠ .subscribingGlobal

/-- No handler of the device is about to subscribe. -/
def DeviceSettled (s : ControlPlane) (deviceId : DeviceId) : Prop :=
  ∀ handler ∈ s.handlers, handler.deviceId = deviceId → ¬ handler.Subscribing

/-- A call of `send_to` comes when no handler of the device is about to subscribe, or finds
the channel. -/
def LookupSettled (s : ControlPlane) (call : Nat) (deviceId : DeviceId) : Prop :=
  s.calls call = none → s.hub.deviceTxs deviceId = none → s.DeviceSettled deviceId

/-- Nothing is published between an acknowledgement and the subscriptions, and no loop ends
while something waits. -/
def Prompt (s : ControlPlane) : WsEvent → Prop
  | .announces h => ∀ handler, s.handlers[h]? = some handler → handler.phase = .announcing →
      s.GlobalSettled
  | .leaves h => ∀ handler, s.handlers[h]? = some handler → handler.phase = .leaving →
      s.GlobalSettled
  | .broadcasts _ => s.GlobalSettled
  | .looksUp call deviceId _ => s.LookupSettled call deviceId
  | .hears h event call => ∀ handler globalRx deviceRx toDeviceId sent,
      s.handlers[h]? = some handler → handler.phase = .looping globalRx deviceRx →
      handleClientEvent handler.deviceId event = some (toDeviceId, sent) →
      s.LookupSettled call toDeviceId
  | .sends call => ∀ deviceId event, s.calls call = some (deviceId, event) →
      s.DeviceSettled deviceId
  | .closes h => ∀ handler globalRx deviceRx, s.handlers[h]? = some handler →
      handler.phase = .looping globalRx deviceRx →
      handler.globalWaiting s.hub = [] ∧ handler.deviceWaiting s.hub = []
  | _ => True

def AllPlaced (s : ControlPlane) : Prop := ∀ handler ∈ s.handlers, handler.Placed s.hub

/-! ### One handler -/

variable {hub : EventHub} {handler : WsHandler} {event : ServerEvent}

theorem placed_broadcast (placed : handler.Placed hub) :
    (handler.owesGlobal event).Placed (hub.broadcast event) := by
  obtain ⟨deviceId, phase, globalDue, deviceDue, globalSent, deviceSent⟩ := handler
  have longer : hub.globalTx.log.length ≤ (hub.broadcast event).globalTx.log.length :=
    Broadcast.length_le_send
  cases phase with
  | subscribingDevice globalRx => exact Nat.le_trans placed longer
  | looping globalRx deviceRx => exact ⟨Nat.le_trans placed.1 longer, placed.2⟩
  | _ => trivial

/-- A broadcast reaches every handler that counts on it, but one that has not subscribed. -/
theorem kept_broadcast_iff (placed : handler.Placed hub) (kept : handler.Kept hub) :
    (handler.owesGlobal event).Kept (hub.broadcast event) ↔
      handler.phase ≠ .subscribingGlobal := by
  obtain ⟨deviceId, phase, globalDue, deviceDue, globalSent, deviceSent⟩ := handler
  obtain ⟨globalKept, deviceKept⟩ := kept
  cases phase with
  | subscribingGlobal =>
      refine iff_of_false (fun after => ?_) (fun other => other rfl)
      have due := after.globalDue
      have before : globalDue = globalSent ++ [] := globalKept
      have wrong : globalDue ++ [event] = globalSent ++ [] := due
      rw [before] at wrong
      simp at wrong
  | subscribingDevice globalRx =>
      refine iff_of_true ⟨?_, deviceKept⟩ (by simp)
      show globalDue ++ [event] = globalSent ++ (hub.globalTx.send event).waiting globalRx
      rw [Broadcast.waiting_send placed, ← List.append_assoc]
      exact congrArg (· ++ [event]) globalKept
  | looping globalRx deviceRx =>
      refine iff_of_true ⟨?_, deviceKept⟩ (by simp)
      show globalDue ++ [event] = globalSent ++ (hub.globalTx.send event).waiting globalRx
      rw [Broadcast.waiting_send placed.1, ← List.append_assoc]
      exact congrArg (· ++ [event]) globalKept
  | _ => exact iff_of_true ⟨globalKept, deviceKept⟩ (by simp)

/-- A handler sees of the hub the global channel and its own device's. -/
theorem kept_congr {other : EventHub} (sameGlobal : other.globalTx = hub.globalTx)
    (sameDevice : other.deviceTxs handler.deviceId = hub.deviceTxs handler.deviceId) :
    handler.Kept other ↔ handler.Kept hub := by
  have global : handler.globalWaiting other = handler.globalWaiting hub := by
    unfold WsHandler.globalWaiting
    rw [sameGlobal]
  have device : handler.deviceWaiting other = handler.deviceWaiting hub := by
    unfold WsHandler.deviceWaiting
    rw [sameDevice]
  constructor
  · rintro ⟨globalDue, deviceDue⟩
    exact ⟨global ▸ globalDue, device ▸ deviceDue⟩
  · rintro ⟨globalDue, deviceDue⟩
    exact ⟨global.symm ▸ globalDue, device.symm ▸ deviceDue⟩

theorem placed_congr {other : EventHub} (sameGlobal : other.globalTx = hub.globalTx)
    (sameDevice : other.deviceTxs handler.deviceId = hub.deviceTxs handler.deviceId) :
    handler.Placed other ↔ handler.Placed hub := by
  unfold WsHandler.Placed
  rw [sameGlobal, sameDevice]

variable {deviceId : DeviceId} {channel : Broadcast ServerEvent}

theorem setDevice_globalTx : (hub.setDevice deviceId channel).globalTx = hub.globalTx := rfl

theorem setDevice_same : (hub.setDevice deviceId channel).deviceTxs deviceId = some channel :=
  if_pos rfl

theorem setDevice_other {other : DeviceId} (ne : other ≠ deviceId) :
    (hub.setDevice deviceId channel).deviceTxs other = hub.deviceTxs other :=
  if_neg ne

theorem sendOn_missing (missing : hub.deviceTxs deviceId = none) :
    hub.sendOn deviceId event = hub := by
  unfold EventHub.sendOn
  rw [missing]

theorem sendOn_found (found : hub.deviceTxs deviceId = some channel) :
    hub.sendOn deviceId event = hub.setDevice deviceId (channel.send event) := by
  unfold EventHub.sendOn
  rw [found]

theorem sendOn_globalTx : (hub.sendOn deviceId event).globalTx = hub.globalTx := by
  unfold EventHub.sendOn
  split <;> rfl

theorem sendOn_other {other : DeviceId} (ne : other ≠ deviceId) :
    (hub.sendOn deviceId event).deviceTxs other = hub.deviceTxs other := by
  cases found : hub.deviceTxs deviceId with
  | none => rw [sendOn_missing found]
  | some channel => rw [sendOn_found found, setDevice_other ne]

theorem owesDevice_other (ne : handler.deviceId ≠ deviceId) :
    handler.owesDevice deviceId event = handler := by
  unfold WsHandler.owesDevice
  rw [if_neg]
  simp [ne]

theorem owesDevice_closed (closed : handler.isOpen = false) :
    handler.owesDevice deviceId event = handler := by
  unfold WsHandler.owesDevice
  rw [if_neg]
  simp [closed]

theorem owesDevice_own (counts : handler.isOpen = true) :
    handler.owesDevice handler.deviceId event =
      { handler with deviceDue := handler.deviceDue ++ [event] } := by
  unfold WsHandler.owesDevice
  rw [if_pos]
  simp [counts]

theorem placed_send (placed : handler.Placed hub) :
    (handler.owesDevice deviceId event).Placed (hub.sendOn deviceId event) := by
  by_cases same : handler.deviceId = deviceId
  · subst same
    obtain ⟨deviceId, phase, globalDue, deviceDue, globalSent, deviceSent⟩ := handler
    cases phase with
    | subscribingDevice globalRx =>
        rw [owesDevice_own rfl]
        show globalRx ≤ (hub.sendOn deviceId event).globalTx.log.length
        rw [sendOn_globalTx]
        exact placed
    | looping globalRx deviceRx =>
        obtain ⟨globalPlaced, channel, found, devicePlaced⟩ := placed
        rw [owesDevice_own rfl, sendOn_found found]
        exact ⟨globalPlaced, _, setDevice_same,
          Nat.le_trans devicePlaced Broadcast.length_le_send⟩
    | subscribingGlobal =>
        rw [owesDevice_own rfl]
        trivial
    | _ =>
        rw [owesDevice_closed rfl]
        trivial
  · rw [owesDevice_other same]
    exact (placed_congr sendOn_globalTx (sendOn_other same)).mpr placed

/-- What is sent to a device reaches each of its handlers that counts on it, but one that has
not subscribed. -/
theorem kept_send_iff (placed : handler.Placed hub) (kept : handler.Kept hub) :
    (handler.owesDevice deviceId event).Kept (hub.sendOn deviceId event) ↔
      (handler.deviceId = deviceId → ¬ handler.Subscribing) := by
  by_cases same : handler.deviceId = deviceId
  · subst same
    rw [imp_iff_right rfl]
    obtain ⟨deviceId, phase, globalDue, deviceDue, globalSent, deviceSent⟩ := handler
    obtain ⟨globalKept, deviceKept⟩ := kept
    have overdue : deviceDue = deviceSent ++ [] → deviceDue ++ [event] ≠ deviceSent ++ [] := by
      intro before after
      rw [before] at after
      simp at after
    cases phase with
    | subscribingGlobal =>
        rw [owesDevice_own rfl]
        exact iff_of_false (fun after => overdue deviceKept after.deviceDue)
          (not_not_intro (.inl rfl))
    | subscribingDevice globalRx =>
        rw [owesDevice_own rfl]
        exact iff_of_false (fun after => overdue deviceKept after.deviceDue)
          (not_not_intro (.inr ⟨globalRx, rfl⟩))
    | looping globalRx deviceRx =>
        obtain ⟨globalPlaced, channel, found, devicePlaced⟩ := placed
        have before : (WsHandler.mk deviceId (.looping globalRx deviceRx) globalDue deviceDue
            globalSent deviceSent).deviceWaiting hub = channel.waiting deviceRx := by
          unfold WsHandler.deviceWaiting
          simp only [found]
        rw [owesDevice_own rfl, sendOn_found found]
        refine iff_of_true ⟨globalKept, ?_⟩ ?_
        · show deviceDue ++ [event] = deviceSent ++ _
          unfold WsHandler.deviceWaiting
          simp only [setDevice_same]
          rw [Broadcast.waiting_send devicePlaced, ← List.append_assoc, ← before]
          exact congrArg (· ++ [event]) deviceKept
        · rintro (other | ⟨rx, other⟩)
          · cases other
          · cases other
    | _ =>
        rw [owesDevice_closed rfl]
        refine iff_of_true ⟨?_, deviceKept⟩ ?_
        · exact globalKept
        · rintro (other | ⟨rx, other⟩)
          · cases other
          · cases other
  · rw [owesDevice_other same]
    exact iff_of_true ((kept_congr sendOn_globalTx (sendOn_other same)).mpr kept)
      (fun own => absurd own same)

/-- A subscription only creates a channel that no handler listens to yet. -/
theorem subscribeDevice_keeps (placed : handler.Placed hub) :
    (handler.Kept (hub.subscribeDevice deviceId).2 ↔ handler.Kept hub) ∧
      handler.Placed (hub.subscribeDevice deviceId).2 := by
  have after : (hub.subscribeDevice deviceId).2 =
      hub.setDevice deviceId ((hub.deviceTxs deviceId).getD .new) := rfl
  rw [after]
  by_cases same : handler.deviceId = deviceId
  · subst same
    cases found : hub.deviceTxs handler.deviceId with
    | some channel =>
        have unchanged : (hub.setDevice handler.deviceId channel).deviceTxs handler.deviceId =
            hub.deviceTxs handler.deviceId := setDevice_same.trans found.symm
        exact ⟨kept_congr setDevice_globalTx unchanged,
          (placed_congr setDevice_globalTx unchanged).mpr placed⟩
    | none =>
        obtain ⟨deviceId, phase, globalDue, deviceDue, globalSent, deviceSent⟩ := handler
        cases phase with
        | looping globalRx deviceRx =>
            obtain ⟨globalPlaced, channel, there, devicePlaced⟩ := placed
            cases found.symm.trans there
        | _ => exact ⟨⟨fun kept => ⟨kept.1, kept.2⟩, fun kept => ⟨kept.1, kept.2⟩⟩, placed⟩
  · exact ⟨kept_congr setDevice_globalTx (setDevice_other same),
      (placed_congr setDevice_globalTx (setDevice_other same)).mpr placed⟩

/-! ### One step -/

theorem forall_mem_set_iff {α : Type} {P : α → Prop} {xs : List α} {i : Nat} {old new : α}
    (found : xs[i]? = some old) (before : P old) :
    (∀ x ∈ xs.set i new, P x) ↔ (∀ x ∈ xs, P x) ∧ P new := by
  have bound : i < xs.length := (List.getElem?_eq_some_iff.mp found).1
  constructor
  · intro all
    refine ⟨fun x member => ?_, all new (List.mem_set bound _)⟩
    obtain ⟨j, there⟩ := List.mem_iff_getElem?.mp member
    by_cases same : j = i
    · rw [same, found] at there
      cases there
      exact before
    · exact all x (List.mem_of_getElem? ((List.getElem?_set_ne (Ne.symm same)).trans there))
  · rintro ⟨all, here⟩ x member
    rcases List.mem_or_eq_of_mem_set member with old | rfl
    · exact all x old
    · exact here

variable {s : ControlPlane} {h : Nat} {changed : WsHandler}

/-- A step leaves all receivers in place, and misses something exactly when it is not
prompt. -/
structure Works (s t : ControlPlane) (prompt : Prop) : Prop where
  placed : t.AllPlaced
  missed : s.NoneMissed → (t.NoneMissed ↔ prompt)

theorem works_self {prompt : Prop} (all : s.AllPlaced) (promptly : prompt) :
    Works s s prompt :=
  ⟨all, fun none => iff_of_true none promptly⟩

theorem Works.after {t u : ControlPlane} {prompt : Prop} (second : Works t u prompt)
    (first : Works s t True) : Works s u prompt :=
  ⟨second.placed, fun none => second.missed ((first.missed none).mpr trivial)⟩

/-- A step of one handler. -/
theorem works_setHandler {prompt : Prop} (found : s.handlers[h]? = some handler)
    (all : s.AllPlaced) (placed : changed.Placed s.hub)
    (kept : handler.Kept s.hub → (changed.Kept s.hub ↔ prompt)) :
    Works s (s.setHandler h changed) prompt := by
  have member := List.mem_of_getElem? found
  refine ⟨(forall_mem_set_iff found (all handler member)).mpr ⟨all, placed⟩, fun none => ?_⟩
  have before := none handler member
  exact ((forall_mem_set_iff found before).trans (and_iff_right none)).trans (kept before)

/-- A step between two phases in which nothing waits. -/
theorem works_setPhase (phase : WsPhase) (found : s.handlers[h]? = some handler)
    (all : s.AllPlaced) (placed : ({ handler with phase := phase } : WsHandler).Placed s.hub)
    (global : ({ handler with phase := phase } : WsHandler).globalWaiting s.hub =
      handler.globalWaiting s.hub)
    (device : ({ handler with phase := phase } : WsHandler).deviceWaiting s.hub =
      handler.deviceWaiting s.hub) :
    Works s (s.setPhase h handler phase) True := by
  refine works_setHandler found all placed fun kept => iff_of_true ⟨?_, ?_⟩ trivial
  · rw [global]
    exact kept.globalDue
  · rw [device]
    exact kept.deviceDue

/-- A publication to everyone. -/
theorem works_broadcasts (all : s.AllPlaced) : Works s (s.broadcasts event) s.GlobalSettled := by
  constructor
  · intro later member
    obtain ⟨handler, old, rfl⟩ := List.mem_map.mp member
    exact placed_broadcast (all handler old)
  · intro none
    unfold NoneMissed GlobalSettled
    rw [broadcasts, List.forall_mem_map]
    exact forall₂_congr fun handler member =>
      kept_broadcast_iff (all handler member) (none handler member)

/-- A publication to a device. -/
theorem works_send {t : ControlPlane} (all : s.AllPlaced)
    (hub : t.hub = s.hub.sendOn deviceId event)
    (handlers : t.handlers = s.handlers.map (WsHandler.owesDevice deviceId event)) :
    Works s t (s.DeviceSettled deviceId) := by
  constructor
  · intro later member
    rw [handlers] at member
    obtain ⟨handler, old, rfl⟩ := List.mem_map.mp member
    rw [hub]
    exact placed_send (all handler old)
  · intro none
    unfold NoneMissed DeviceSettled
    rw [handlers, hub, List.forall_mem_map]
    exact forall₂_congr fun handler member =>
      kept_send_iff (all handler member) (none handler member)

/-- A handler's own announcement: it does not count on it itself. -/
theorem works_announcement (published : ServerEvent) {phase : WsPhase}
    (found : s.handlers[h]? = some handler)
    (before : handler.phase ≠ .subscribingGlobal) (later : phase ≠ .subscribingGlobal)
    (moves : Works s (s.setPhase h handler phase) True) :
    Works s ((s.setPhase h handler phase).broadcasts published) s.GlobalSettled := by
  have settled : (s.setPhase h handler phase).GlobalSettled ↔ s.GlobalSettled :=
    (forall_mem_set_iff found before).trans (and_iff_left later)
  rw [← settled]
  exact (works_broadcasts moves.placed).after moves

theorem connects_fresh {requestDeviceId : DeviceId} {first : Option ClientEvent} :
    ∃ phase, (phase = .announcing ∨ phase = .done) ∧ s.connects requestDeviceId first =
      { s with handlers := s.handlers ++ [.new requestDeviceId phase] } := by
  refine ⟨_, ?_, rfl⟩
  split
  · split
    · exact .inl rfl
    · exact .inr rfl
  · exact .inr rfl

theorem connects_works {requestDeviceId : DeviceId} {first : Option ClientEvent}
    (all : s.AllPlaced) : Works s (s.connects requestDeviceId first) True := by
  obtain ⟨phase, fresh, after⟩ := @connects_fresh s requestDeviceId first
  have placed : (WsHandler.new requestDeviceId phase).Placed s.hub := by
    rcases fresh with rfl | rfl <;> trivial
  have kept : (WsHandler.new requestDeviceId phase).Kept s.hub := by
    rcases fresh with rfl | rfl <;> exact ⟨rfl, rfl⟩
  rw [after]
  constructor
  · exact List.forall_mem_append.mpr ⟨all, List.forall_mem_singleton.mpr placed⟩
  · intro none
    exact iff_of_true (List.forall_mem_append.mpr ⟨none, List.forall_mem_singleton.mpr kept⟩)
      trivial

/-- The condition on a step that a handler takes in one phase only. -/
theorem works_in_phase {t : ControlPlane} {phase : WsPhase} {Settled : Prop}
    (found : s.handlers[h]? = some handler) (standing : handler.phase = phase)
    (works : Works s t Settled) :
    Works s t (∀ handler, s.handlers[h]? = some handler → handler.phase = phase → Settled) := by
  refine ⟨works.placed, fun none => (works.missed none).trans ?_⟩
  constructor
  · intro settled _ _ _
    exact settled
  · intro promptly
    exact promptly _ found standing

/-- In every other phase it does nothing. -/
theorem works_elsewhere {phase : WsPhase} {Settled : Prop} (all : s.AllPlaced)
    (found : s.handlers[h]? = some handler) (elsewhere : handler.phase ≠ phase) :
    Works s s (∀ handler, s.handlers[h]? = some handler → handler.phase = phase → Settled) := by
  refine works_self all fun other there standing => ?_
  cases found.symm.trans there
  exact absurd standing elsewhere

theorem announces_works (all : s.AllPlaced) :
    Works s (s.announces h) (s.Prompt (.announces h)) := by
  unfold announces
  cases found : s.handlers[h]? with
  | none => exact works_self all fun handler there => by cases found.symm.trans there
  | some handler =>
      obtain ⟨deviceId, phase, globalDue, deviceDue, globalSent, deviceSent⟩ := handler
      cases phase with
      | announcing =>
          have moves := works_setPhase .acknowledging found all trivial rfl rfl
          exact works_in_phase found rfl
            (works_announcement (.deviceOnline deviceId) found (by simp) (by simp) moves)
      | _ => exact works_elsewhere all found fun standing => by cases standing

theorem leaves_works (all : s.AllPlaced) : Works s (s.leaves h) (s.Prompt (.leaves h)) := by
  unfold leaves
  cases found : s.handlers[h]? with
  | none => exact works_self all fun handler there => by cases found.symm.trans there
  | some handler =>
      obtain ⟨deviceId, phase, globalDue, deviceDue, globalSent, deviceSent⟩ := handler
      cases phase with
      | leaving =>
          have moves := works_setPhase .done found all trivial rfl rfl
          exact works_in_phase found rfl
            (works_announcement (.deviceOffline deviceId) found (by simp) (by simp) moves)
      | _ => exact works_elsewhere all found fun standing => by cases standing

theorem acknowledges_works {ok : Bool} (all : s.AllPlaced) :
    Works s (s.acknowledges h ok) True := by
  unfold acknowledges
  cases found : s.handlers[h]? with
  | none => exact works_self all trivial
  | some handler =>
      obtain ⟨deviceId, phase, globalDue, deviceDue, globalSent, deviceSent⟩ := handler
      cases phase with
      | acknowledging =>
          cases ok with
          | true => exact works_setPhase .subscribingGlobal found all trivial rfl rfl
          | false => exact works_setPhase .done found all trivial rfl rfl
      | _ => exact works_self all trivial

theorem subscribesGlobal_works (all : s.AllPlaced) : Works s (s.subscribesGlobal h) True := by
  unfold subscribesGlobal
  cases found : s.handlers[h]? with
  | none => exact works_self all trivial
  | some handler =>
      obtain ⟨deviceId, phase, globalDue, deviceDue, globalSent, deviceSent⟩ := handler
      cases phase with
      | subscribingGlobal =>
          exact works_setPhase _ found all (Nat.le_refl _) Broadcast.waiting_subscribe rfl
      | _ => exact works_self all trivial

theorem subscribesDevice_works (all : s.AllPlaced) : Works s (s.subscribesDevice h) True := by
  unfold subscribesDevice
  cases found : s.handlers[h]? with
  | none => exact works_self all trivial
  | some handler =>
      obtain ⟨deviceId, phase, globalDue, deviceDue, globalSent, deviceSent⟩ := handler
      cases phase with
      | subscribingDevice globalRx =>
          have created : Works s { s with hub := (s.hub.subscribeDevice deviceId).2 } True :=
            ⟨fun handler member => (subscribeDevice_keeps (all handler member)).2,
              fun none => iff_of_true
                (fun handler member => (subscribeDevice_keeps (all handler member)).1.mpr
                  (none handler member)) trivial⟩
          have globalPlaced : globalRx ≤ s.hub.globalTx.log.length :=
            all _ (List.mem_of_getElem? found)
          refine Works.after (works_setPhase _ ?_ created.placed ?_ rfl ?_) created
          · exact found
          · exact ⟨globalPlaced, _, setDevice_same, Nat.le_refl _⟩
          · unfold WsHandler.deviceWaiting
            simp only [setDevice_same]
            exact Broadcast.waiting_subscribe
      | _ => exact works_self all trivial

theorem closes_works (all : s.AllPlaced) : Works s (s.closes h) (s.Prompt (.closes h)) := by
  unfold closes
  cases found : s.handlers[h]? with
  | none => exact works_self all fun handler _ _ there => by cases found.symm.trans there
  | some handler =>
      obtain ⟨deviceId, phase, globalDue, deviceDue, globalSent, deviceSent⟩ := handler
      cases phase with
      | looping globalRx deviceRx =>
          refine works_setHandler found all trivial fun kept => ?_
          obtain ⟨globalKept, deviceKept⟩ := kept
          constructor
          · rintro ⟨globalAfter, deviceAfter⟩ handler _ _ there _
            cases found.symm.trans there
            exact ⟨List.append_cancel_left (globalKept.symm.trans globalAfter),
              List.append_cancel_left (deviceKept.symm.trans deviceAfter)⟩
          · intro promptly
            obtain ⟨globalEmpty, deviceEmpty⟩ := promptly _ globalRx deviceRx found rfl
            rw [globalEmpty] at globalKept
            rw [deviceEmpty] at deviceKept
            exact ⟨globalKept, deviceKept⟩
      | _ =>
          refine works_self all fun handler _ _ there standing => ?_
          cases found.symm.trans there
          cases standing

theorem relaysGlobal_works {ok : Bool} (all : s.AllPlaced)
    (succeeds : (WsEvent.relaysGlobal h ok).SendsSucceed)
    (keepsUp : s.NeverLags (.relaysGlobal h ok)) : Works s (s.relaysGlobal h ok) True := by
  unfold relaysGlobal
  cases found : s.handlers[h]? with
  | none => exact works_self all trivial
  | some handler =>
      obtain ⟨deviceId, phase, globalDue, deviceDue, globalSent, deviceSent⟩ := handler
      cases phase with
      | looping globalRx deviceRx =>
          have room := keepsUp _ globalRx deviceRx found rfl
          dsimp only
          cases received : s.hub.globalTx.recv globalCapacity globalRx with
          | empty => exact works_self all trivial
          | lagged skipped next =>
              exact absurd (Broadcast.recv_lagged_iff.mp ⟨_, _, received⟩) (Nat.not_lt.mpr room)
          | event event next =>
              cases succeeds
              obtain ⟨waited, bound⟩ := Broadcast.recv_event received
              have placed := all _ (List.mem_of_getElem? found)
              refine works_setHandler found all ⟨bound, placed.2⟩ fun kept => ?_
              refine iff_of_true ⟨?_, kept.deviceDue⟩ trivial
              calc globalDue = globalSent ++ s.hub.globalTx.waiting globalRx := kept.globalDue
                _ = globalSent ++ [event] ++ s.hub.globalTx.waiting next := by
                    rw [waited, List.append_assoc, List.singleton_append]
      | _ => exact works_self all trivial

theorem relaysDevice_works {ok : Bool} (all : s.AllPlaced)
    (succeeds : (WsEvent.relaysDevice h ok).SendsSucceed)
    (keepsUp : s.NeverLags (.relaysDevice h ok)) : Works s (s.relaysDevice h ok) True := by
  unfold relaysDevice
  cases found : s.handlers[h]? with
  | none => exact works_self all trivial
  | some handler =>
      obtain ⟨deviceId, phase, globalDue, deviceDue, globalSent, deviceSent⟩ := handler
      cases phase with
      | looping globalRx deviceRx =>
          obtain ⟨globalPlaced, channel, there, devicePlaced⟩ :=
            all _ (List.mem_of_getElem? found)
          have room := keepsUp _ globalRx deviceRx channel found rfl there
          simp only [there]
          cases received : channel.recv deviceCapacity deviceRx with
          | empty => exact works_self all trivial
          | lagged skipped next =>
              exact absurd (Broadcast.recv_lagged_iff.mp ⟨_, _, received⟩) (Nat.not_lt.mpr room)
          | event event next =>
              cases succeeds
              obtain ⟨waited, bound⟩ := Broadcast.recv_event received
              refine works_setHandler found all ⟨globalPlaced, channel, there, bound⟩
                fun kept => ?_
              refine iff_of_true ⟨kept.globalDue, ?_⟩ trivial
              have due := kept.deviceDue
              unfold WsHandler.deviceWaiting at due ⊢
              simp only [there] at due ⊢
              rw [due, waited, List.append_assoc, List.singleton_append]
      | _ => exact works_self all trivial

theorem looksUp_works {call : Nat} (all : s.AllPlaced) :
    Works s (s.looksUp call deviceId event) (s.LookupSettled call deviceId) := by
  unfold looksUp LookupSettled
  cases free : s.calls call with
  | some what => exact works_self all fun wrong => by cases wrong
  | none =>
      cases found : s.hub.deviceTxs deviceId with
      | some channel => exact ⟨all, fun none => iff_of_true none fun _ wrong => by cases wrong⟩
      | none =>
          have works : Works s (s.owesDevice deviceId event) (s.DeviceSettled deviceId) :=
            works_send all (sendOn_missing found).symm rfl
          refine ⟨works.placed, fun none => (works.missed none).trans ?_⟩
          exact ⟨fun settled _ _ => settled, fun promptly => promptly rfl rfl⟩

theorem sends_works {call : Nat} (all : s.AllPlaced) :
    Works s (s.sends call) (s.Prompt (.sends call)) := by
  unfold sends
  cases found : s.calls call with
  | none => exact works_self all fun _ _ there => by cases found.symm.trans there
  | some what =>
      obtain ⟨deviceId, event⟩ := what
      have works : Works s (({ s.setCall call none with
          hub := s.hub.sendOn deviceId event } : ControlPlane).owesDevice deviceId event)
          (s.DeviceSettled deviceId) := works_send all rfl rfl
      refine ⟨works.placed, fun none => (works.missed none).trans ?_⟩
      constructor
      · intro settled _ _ there
        cases found.symm.trans there
        exact settled
      · intro promptly
        exact promptly _ _ found

theorem hears_works {said : ClientEvent} {call : Nat} (all : s.AllPlaced) :
    Works s (s.hears h said call) (s.Prompt (.hears h said call)) := by
  unfold hears
  cases found : s.handlers[h]? with
  | none => exact works_self all fun handler _ _ _ _ there => by cases found.symm.trans there
  | some handler =>
      obtain ⟨deviceId, phase, globalDue, deviceDue, globalSent, deviceSent⟩ := handler
      cases phase with
      | looping globalRx deviceRx =>
          dsimp only
          cases meant : handleClientEvent deviceId said with
          | none =>
              refine works_self all fun handler _ _ _ _ there _ wrong => ?_
              cases found.symm.trans there
              cases meant.symm.trans wrong
          | some what =>
              obtain ⟨toDeviceId, sent⟩ := what
              dsimp only
              have works := @looksUp_works sent toDeviceId s call all
              refine ⟨works.placed, fun none => (works.missed none).trans ?_⟩
              constructor
              · intro settled _ _ _ _ _ there _ again
                cases found.symm.trans there
                cases meant.symm.trans again
                exact settled
              · intro promptly
                exact promptly _ _ _ _ _ found rfl meant
      | _ =>
          refine works_self all fun handler _ _ _ _ there standing => ?_
          cases found.symm.trans there
          cases standing

theorem step_works (e : WsEvent) (all : s.AllPlaced) (succeeds : e.SendsSucceed)
    (keepsUp : s.NeverLags e) : Works s (step s e) (s.Prompt e) := by
  cases e with
  | connects requestDeviceId first => exact connects_works all
  | announces h => exact announces_works all
  | acknowledges h ok => exact acknowledges_works all
  | subscribesGlobal h => exact subscribesGlobal_works all
  | subscribesDevice h => exact subscribesDevice_works all
  | relaysGlobal h ok => exact relaysGlobal_works all succeeds keepsUp
  | relaysDevice h ok => exact relaysDevice_works all succeeds keepsUp
  | hears h said call => exact hears_works all
  | closes h => exact closes_works all
  | leaves h => exact leaves_works all
  | broadcasts event => exact works_broadcasts all
  | looksUp call deviceId event => exact looksUp_works all
  | sends call => exact sends_works all

/-! ### Whole runs -/

/-- In a run in which sends succeed and no receiver lags, no client misses an event exactly
when nothing is published between an acknowledgement and the subscriptions, and no loop ends
while something waits. -/
theorem noneMissed_iff (events : List WsEvent) (succeed : ∀ e ∈ events, e.SendsSucceed)
    (keepsUp : Along step NeverLags new events) :
    Throughout step NoneMissed new events ↔ Along step Prompt new events := by
  have keeps : ∀ s e, AllPlaced s → (s.NeverLags e ∧ e.SendsSucceed) → AllPlaced (step s e) :=
    fun s e all steps => (step_works e all steps.2 steps.1).placed
  have misses : ∀ s e, AllPlaced s → (s.NeverLags e ∧ e.SendsSucceed) → NoneMissed s →
      (NoneMissed (step s e) ↔ s.Prompt e) :=
    fun s e all steps => (step_works e all steps.2 steps.1).missed
  refine throughout_iff_of_along keeps misses ?_ ?_ (along_and keepsUp succeed)
  · intro handler member
    cases member
  · intro handler member
    cases member

end ControlPlane

namespace BeforeSubscribing

open ControlPlane

def phone : DeviceId := .new "phone"
def clip : ServerEvent := .clipCreated (.new "1") (.new "laptop") "text"

/-- The phone's hello is acknowledged. -/
def acknowledged : List WsEvent :=
  [.connects phone (some (.hello phone)), .announces 0, .acknowledges 0 true]

/-- A clip is announced to everyone before the handler subscribes. -/
def early : List WsEvent :=
  acknowledged ++ [.broadcasts clip, .subscribesGlobal 0, .subscribesDevice 0]

/-- A clip is announced after the handler has subscribed. -/
def late : List WsEvent :=
  acknowledged ++ [.subscribesGlobal 0, .subscribesDevice 0, .broadcasts clip,
    .relaysGlobal 0 true, .closes 0]

theorem clip_missed : ¬ Throughout step NoneMissed new early := by
  intro all
  have missed := (all early [] (List.append_nil _).symm) ⟨phone, .looping 2 0, [clip], [], [], []⟩
    (by decide)
  cases missed.globalDue

theorem late_kept : Throughout step NoneMissed new late := by
  refine (noneMissed_iff late ?_ ?_).mpr ?_
  · simp [late, acknowledged, WsEvent.SendsSucceed]
  · refine ⟨trivial, trivial, trivial, trivial, trivial, trivial, ?_, trivial, trivial⟩
    intro handler globalRx deviceRx found standing
    cases found
    cases standing
    decide
  · refine ⟨trivial, ?_, trivial, trivial, trivial, ?_, trivial, ?_, trivial⟩
    · intro _ _ _
      unfold GlobalSettled
      decide
    · show GlobalSettled _
      unfold GlobalSettled
      decide
    · intro handler globalRx deviceRx found standing
      cases found
      cases standing
      decide

end BeforeSubscribing

end AirPaste.Server
