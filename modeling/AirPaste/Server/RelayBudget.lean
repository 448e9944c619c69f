/-
# Server.RelayBudget — what the relay forwards for a session

`Turn` says what a step can do to one connection and `Stirs` what it does to the list of
them.  `Metered` is what a reader's counter knows: the frames it has handed on are the
longest prefix of those it has read that fits the budget.

The counter is one connection's, the budget is the session's.  `budget_iff` says in which
runs the connections of a session keep it together; in `BothWays.over_budget` each of two
connections keeps it and both together do not.
-/
import AirPaste.Server.RelayRooms
import AirPaste.Theory.Budget

namespace AirPaste.Server

open AirPaste.Core
open AirPaste.Theory

set_option autoImplicit false

/-- The event is not a connection that leaves. -/
def RelayEvent.Stays : RelayEvent → Prop
  | .leaves _ => False
  | _ => True

/-! ## What a step does to a connection -/

/-- What a step can do to a connection. -/
inductive Turn (event : RelayEvent) (connection : Connection) : Connection → Prop
  | refused (upgraded : connection.handler = .upgraded) :
      Turn event connection { connection with handler := .refused }
  | joined (ends : RelayEnds) (upgraded : connection.handler = .upgraded) :
      Turn event connection { connection with handler := .joined (.new ends) }
  | sent (incoming : Incoming) (sends : ∃ c, event = .sends c incoming) :
      Turn event connection { connection with
        stream := connection.stream ++ [incoming]
        sent := connection.sent ++ incoming.toMessage.toList }
  | took (pump : Pump) (incoming : Incoming) (rest : List Incoming)
      (joined : connection.handler = .joined pump) (reading : pump.reader = .reading)
      (stream : connection.stream = incoming :: rest) :
      Turn event connection { connection with
        stream := rest
        handler := .joined (pump.takes connection.maxBytes incoming) }
  | moved (pump later : Pump) (joined : connection.handler = .joined pump)
      (forwarded : later.forwarded = pump.forwarded) (received : later.received = pump.received)
      (handed : later.handed = pump.handed)
      (reader : later.reader ≠ .ended → pump.reader ≠ .ended)
      (stage : event.Stays → later.stage = .left → pump.stage = .left) :
      Turn event connection { connection with handler := .joined later }

/-- What a step can do to the list of connections. -/
inductive Stirs (s : RelayNet) : RelayEvent → List Connection → Prop
  | same {event : RelayEvent} : Stirs s event s.connections
  | turns {event : RelayEvent} (c : Nat) (before after : Connection)
      (there : s.connections[c]? = some before) (turn : Turn event before after) :
      Stirs s event (s.connections.set c after)
  | enters (now : Timestamp) (requestDevice : DeviceId) (sessionId : SessionId)
      (admission : Admission)
      (admitted : relayWsUpgrade s.relays now requestDevice sessionId = .ok admission) :
      Stirs s (.upgrades now requestDevice sessionId)
        (s.connections ++ [.new requestDevice admission])

namespace Stirs

variable {s : RelayNet} {event : RelayEvent} {connections : List Connection}

/-- A connection was there before, or has just been admitted. -/
theorem mem (stirs : Stirs s event connections) {connection : Connection}
    (member : connection ∈ connections) :
    connection ∈ s.connections ∨ (∃ before ∈ s.connections, Turn event before connection) ∨
      ∃ now requestDevice sessionId admission,
        relayWsUpgrade s.relays now requestDevice sessionId = .ok admission ∧
        connection = .new requestDevice admission := by
  cases stirs with
  | same => exact .inl member
  | turns c before after there turn =>
      rcases List.mem_or_eq_of_mem_set member with old | rfl
      · exact .inl old
      · exact .inr (.inl ⟨before, List.mem_of_getElem? there, turn⟩)
  | enters now requestDevice sessionId admission admitted =>
      rw [List.mem_append, List.mem_singleton] at member
      rcases member with old | rfl
      · exact .inl old
      · exact .inr (.inr ⟨now, requestDevice, sessionId, admission, admitted, rfl⟩)

/-- A connection stays where it is. -/
theorem getElem (stirs : Stirs s event connections) {i : Nat} {before : Connection}
    (there : s.connections[i]? = some before) :
    ∃ after, connections[i]? = some after ∧ (after = before ∨ Turn event before after) := by
  have bound : i < s.connections.length := (List.getElem?_eq_some_iff.mp there).1
  cases stirs with
  | same => exact ⟨before, there, .inl rfl⟩
  | turns c found after thereToo turn =>
      by_cases same : c = i
      · subst same
        cases there.symm.trans thereToo
        exact ⟨after, List.getElem?_set_self bound, .inr turn⟩
      · exact ⟨before, (List.getElem?_set_ne same).trans there, .inl rfl⟩
  | enters now requestDevice sessionId admission admitted =>
      exact ⟨before, (List.getElem?_append_left bound).trans there, .inl rfl⟩

end Stirs

namespace RelayNet

variable {s : RelayNet}

theorem withPump_stirs {event : RelayEvent} {c : Nat} {act : Connection → Pump → RelayNet}
    (moves : ∀ connection pump, s.connections[c]? = some connection →
      connection.handler = .joined pump → Stirs s event (act connection pump).connections) :
    Stirs s event (s.withPump c act).connections := by
  rcases withPump_cases c act with same | ⟨connection, pump, there, joined, acts⟩
  · exact same.symm ▸ .same
  · exact acts.symm ▸ moves connection pump there joined

theorem step_stirs (s : RelayNet) (event : RelayEvent) :
    Stirs s event (s.step event).connections := by
  cases event with
  | creates ulid expiring created clipId source recipient maxBytes ttlSeconds =>
      simp only [step, creates]
      split
      · exact .same
      · exact .same
  | upgrades now requestDevice sessionId =>
      simp only [step, upgrades]
      split
      · exact .same
      next admission admitted => exact .enters now requestDevice sessionId admission admitted
  | joins c =>
      simp only [step, joins]
      split
      · exact .same
      next connection there =>
          split
          next upgraded =>
              split
              · exact .turns c connection _ there (.joined _ upgraded)
              · exact .turns c connection _ there (.refused upgraded)
          · exact .same
  | sends c incoming =>
      simp only [step, sends]
      split
      · exact .same
      next connection there => exact .turns c connection _ there (.sent incoming ⟨c, rfl⟩)
  | reads c =>
      refine withPump_stirs fun connection pump there joined => ?_
      split
      next incoming rest reading stream =>
          exact .turns c connection _ there (.took pump incoming rest joined reading stream)
      · exact .same
  | forwards c =>
      refine withPump_stirs fun connection pump there joined => ?_
      split
      next frame sending =>
          split
          · split
            · exact .same
            · exact .turns c connection _ there
                (.moved pump _ joined rfl rfl rfl (fun _ => by simp [sending]) fun _ => id)
          · exact .turns c connection _ there
              (.moved pump _ joined rfl rfl rfl (fun ended => absurd rfl ended) fun _ => id)
      · exact .same
  | receives c =>
      refine withPump_stirs fun connection pump there joined => ?_
      split
      · split
        · exact .turns c connection _ there (.moved pump _ joined rfl rfl rfl id fun _ => id)
        · split
          · exact .same
          · exact .turns c connection _ there (.moved pump _ joined rfl rfl rfl id fun _ => id)
      · exact .same
  | delivers c ok =>
      refine withPump_stirs fun connection pump there joined => ?_
      split
      · split
        · exact .turns c connection _ there (.moved pump _ joined rfl rfl rfl id fun _ => id)
        · exact .turns c connection _ there (.moved pump _ joined rfl rfl rfl id fun _ => id)
      · exact .same
  | selects c ttl =>
      refine withPump_stirs fun connection pump there joined => ?_
      split
      · refine .turns c connection _ there (.moved pump _ joined rfl rfl rfl id ?_)
        intro _ left
        cases left
      · exact .same
  | abortsReader c =>
      refine withPump_stirs fun connection pump there joined => ?_
      split
      · exact .same
      · exact .turns c connection _ there
          (.moved pump _ joined rfl rfl rfl (fun ended => absurd rfl ended) fun _ => id)
  | abortsWriter c =>
      refine withPump_stirs fun connection pump there joined => ?_
      split
      · exact .same
      · exact .turns c connection _ there (.moved pump _ joined rfl rfl rfl id fun _ => id)
  | leaves c =>
      refine withPump_stirs fun connection pump there joined => ?_
      split
      · exact .turns c connection _ there
          (.moved pump _ joined rfl rfl rfl id fun stays => absurd stays id)
      · exact .same

end RelayNet

/-! ## The reader's counter -/

namespace Connection

/-- The frames the reader has taken from the socket. -/
def received (connection : Connection) : List RelayFrame :=
  match connection.handler with
  | .joined pump => pump.received
  | _ => []

/-- The frames the reader has handed on to the peer's channel. -/
def handed (connection : Connection) : List RelayFrame :=
  match connection.handler with
  | .joined pump => pump.handed
  | _ => []

end Connection

/-- The frame of an item of a socket. -/
def Incoming.frames (incoming : Incoming) : List RelayFrame := payload incoming.toMessage.toList

/-- What a connection's counter has seen and let through. -/
structure Metered (connection : Connection) : Prop where
  split : payload connection.sent = connection.received ++ connection.waiting
  handed : connection.handed = fitting RelayFrame.len connection.maxBytes connection.received
  counted : ∀ pump, connection.handler = .joined pump →
    pump.forwarded = (pump.received.map RelayFrame.len).sum
  going : ∀ pump, connection.handler = .joined pump → pump.reader ≠ .ended →
    pump.handed = pump.received

theorem payload_append (first second : List WsMessage) :
    payload (first ++ second) = payload first ++ payload second := List.filterMap_append

theorem waiting_cons {connection : Connection} {incoming : Incoming} {rest : List Incoming}
    (stream : connection.stream = incoming :: rest) :
    connection.waiting =
      incoming.frames ++ payload (rest.filterMap Incoming.toMessage) := by
  rw [Connection.waiting, stream]
  cases incoming with
  | failed => rfl
  | message content =>
      exact payload_append [content] (rest.filterMap Incoming.toMessage)

/-- The reader counts a frame, or takes something that carries none. -/
theorem takes_cases (maxBytes : Nat) (pump : Pump) (incoming : Incoming) :
    (∃ frame, incoming.frames = [frame] ∧
        pump.takes maxBytes incoming = pump.counts maxBytes frame) ∨
      (incoming.frames = [] ∧ (pump.takes maxBytes incoming = pump ∨
        pump.takes maxBytes incoming = { pump with reader := .ended })) := by
  cases incoming with
  | failed => exact .inr ⟨rfl, .inr rfl⟩
  | message content =>
      cases content with
      | text content => exact .inl ⟨.text content, rfl, rfl⟩
      | binary bytes => exact .inl ⟨.binary bytes, rfl, rfl⟩
      | ping => exact .inr ⟨rfl, .inl rfl⟩
      | pong => exact .inr ⟨rfl, .inl rfl⟩
      | close => exact .inr ⟨rfl, .inr rfl⟩

section Metered

variable {connection : Connection} {pump : Pump}

theorem new_metered (device : DeviceId) (admission : Admission) :
    Metered (.new device admission) where
  split := rfl
  handed := rfl
  counted pump joined := by cases joined
  going pump joined := by cases joined

/-- A reader that has not ended has counted no more than the budget. -/
theorem Metered.within (metered : Metered connection) (joined : connection.handler = .joined pump)
    (going : pump.reader ≠ .ended) :
    (pump.received.map RelayFrame.len).sum ≤ connection.maxBytes := by
  have handed := metered.handed
  simp only [Connection.handed, Connection.received, joined] at handed
  rw [← metered.going pump joined going, handed]
  exact weight_fitting_le _ _ _

theorem counts_metered (metered : Metered connection) (joined : connection.handler = .joined pump)
    (reading : pump.reader = .reading) (frame : RelayFrame) {rest : List Incoming}
    (waiting : connection.waiting = frame :: payload (rest.filterMap Incoming.toMessage)) :
    Metered { connection with
      stream := rest
      handler := .joined (pump.counts connection.maxBytes frame) } := by
  have going : pump.reader ≠ .ended := by simp [reading]
  have within := metered.within joined going
  have counted := metered.counted pump joined
  have handed := metered.going pump joined going
  have split := metered.split
  rw [waiting] at split
  simp only [Connection.received, joined] at split
  simp only [Pump.counts, counted]
  split
  next exceeds =>
      refine ⟨?_, ?_, ?_, ?_⟩
      · simp only [Connection.received, Connection.waiting, split, List.append_assoc,
          List.singleton_append]
      · show pump.handed = fitting _ connection.maxBytes (pump.received ++ [frame])
        rw [fitting_over _ within exceeds, handed]
      · rintro _ ⟨⟩
        simp only [List.map_append, List.sum_append, List.map_cons, List.map_nil, List.sum_cons,
          List.sum_nil, Nat.add_zero]
      · rintro _ ⟨⟩ ended
        exact absurd rfl ended
  next fits =>
      have all : ((pump.received ++ [frame]).map RelayFrame.len).sum ≤ connection.maxBytes := by
        simp only [List.map_append, List.sum_append, List.map_cons, List.map_nil, List.sum_cons,
          List.sum_nil, Nat.add_zero]
        exact Nat.not_lt.mp fits
      refine ⟨?_, ?_, ?_, ?_⟩
      · simp only [Connection.received, Connection.waiting, split, List.append_assoc,
          List.singleton_append]
      · show pump.handed ++ [frame] = fitting _ connection.maxBytes (pump.received ++ [frame])
        rw [fitting_eq_self _ all, handed]
      · rintro _ ⟨⟩
        simp only [List.map_append, List.sum_append, List.map_cons, List.map_nil, List.sum_cons,
          List.sum_nil, Nat.add_zero]
      · rintro _ ⟨⟩ _
        exact congrArg (· ++ [frame]) handed

/-- A pump that goes on with its counter. -/
theorem Metered.moved (metered : Metered connection) {later : Pump} {stream : List Incoming}
    (joined : connection.handler = .joined pump)
    (waiting : payload (stream.filterMap Incoming.toMessage) = connection.waiting)
    (forwarded : later.forwarded = pump.forwarded) (received : later.received = pump.received)
    (handed : later.handed = pump.handed)
    (reader : later.reader ≠ .ended → pump.reader ≠ .ended) :
    Metered { connection with stream := stream, handler := .joined later } := by
  have split := metered.split
  have fits := metered.handed
  simp only [Connection.received, Connection.handed, joined] at split fits
  refine ⟨?_, ?_, ?_, ?_⟩
  · simp only [Connection.received, Connection.waiting, received, waiting]
    exact split
  · simp only [Connection.received, Connection.handed, received, handed]
    exact fits
  · rintro _ ⟨⟩
    rw [forwarded, received]
    exact metered.counted pump joined
  · rintro _ ⟨⟩ going
    rw [handed, received]
    exact metered.going pump joined (reader going)

/-- What a step does to a connection keeps it metered. -/
theorem turn_metered (metered : Metered connection) {event : RelayEvent} {after : Connection}
    (turn : Turn event connection after) : Metered after := by
  have split := metered.split
  cases turn with
  | refused upgraded =>
      simp only [Connection.received, upgraded] at split
      refine ⟨split, rfl, ?_, ?_⟩
      · rintro _ ⟨⟩
      · rintro _ ⟨⟩
  | joined ends upgraded =>
      simp only [Connection.received, upgraded] at split
      refine ⟨split, rfl, ?_, ?_⟩
      · rintro _ ⟨⟩
        rfl
      · rintro _ ⟨⟩ _
        rfl
  | sent incoming sends =>
      refine ⟨?_, metered.handed, metered.counted, metered.going⟩
      have one : payload ([incoming].filterMap Incoming.toMessage) = incoming.frames := by
        cases incoming <;> rfl
      show payload (connection.sent ++ incoming.toMessage.toList) = connection.received ++
        payload ((connection.stream ++ [incoming]).filterMap Incoming.toMessage)
      rw [payload_append, split, List.filterMap_append, payload_append, one, List.append_assoc]
      rfl
  | took pump incoming rest joined reading stream =>
      have waiting := waiting_cons stream
      rcases takes_cases connection.maxBytes pump incoming with ⟨frame, one, counts⟩ | ⟨none, same⟩
      · rw [one] at waiting
        rw [counts]
        exact counts_metered metered joined reading frame waiting
      · rw [none, List.nil_append] at waiting
        rcases same with same | same
        · rw [same]
          exact metered.moved joined waiting.symm rfl rfl rfl id
        · rw [same]
          exact metered.moved joined waiting.symm rfl rfl rfl fun ended => absurd rfl ended
  | moved pump later joined forwarded received handed reader stage =>
      exact metered.moved joined rfl forwarded received handed reader

end Metered

/-! ## The session's budget -/

/-- What a connection forwards, counted for the session. -/
def forwardedFor (sessionId : SessionId) (connection : Connection) : Nat :=
  if connection.sessionId = sessionId then (connection.handed.map RelayFrame.len).sum else 0

/-- What a connection has read, as far as it fits the budget on its own, counted for the
session. -/
def fittingFor (sessionId : SessionId) (maxBytes : Nat) (connection : Connection) : Nat :=
  if connection.sessionId = sessionId then
    ((fitting RelayFrame.len maxBytes connection.received).map RelayFrame.len).sum
  else 0

/-- The connection was admitted for a session of the table, as one of its devices. -/
def PartyOf (relays : RelayTable) (connection : Connection) : Prop :=
  ∃ relay, relays.getRelaySession connection.sessionId = some relay ∧
    connection.device = party relay connection.role ∧ connection.maxBytes = relay.maxBytes

namespace RelayNet

/-- The payload bytes that the server has forwarded for a session, over all connections and
in both directions. -/
def forwarded (s : RelayNet) (sessionId : SessionId) : Nat :=
  (s.connections.map (forwardedFor sessionId)).sum

/-- Every connection is metered, and was admitted. -/
structure Accounted (s : RelayNet) : Prop where
  metered : ∀ connection ∈ s.connections, Metered connection
  admitted : ∀ connection ∈ s.connections, PartyOf s.relays connection

variable {s : RelayNet}

theorem turn_admission {event : RelayEvent} {connection after : Connection}
    (turn : Turn event connection after) :
    after.admission = connection.admission ∧ after.device = connection.device := by
  cases turn <;> exact ⟨rfl, rfl⟩

theorem withPump_relays (c : Nat) {act : Connection → Pump → RelayNet}
    (same : ∀ connection pump, (act connection pump).relays = s.relays) :
    (s.withPump c act).relays = s.relays := by
  rcases withPump_cases c act with quiet | ⟨connection, pump, _, _, acts⟩
  · rw [quiet]
  · rw [acts, same]

/-- A session stays in the table. -/
theorem step_stored (event : RelayEvent) {sessionId : SessionId} {relay : RelaySession}
    (stored : s.relays.getRelaySession sessionId = some relay) :
    (s.step event).relays.getRelaySession sessionId = some relay := by
  have quietly : (s.step event).relays = s.relays →
      (s.step event).relays.getRelaySession sessionId = some relay := by
    intro same
    rw [same, stored]
  cases event with
  | creates ulid expiring created clipId source recipient maxBytes ttlSeconds =>
      simp only [step, creates]
      split
      · exact stored
      next missing =>
          have other : sessionId ≠ SessionId.new ulid := by
            rintro rfl
            cases missing.symm.trans stored
          refine (KeyedTable.get_put_ne s.relays ?_).trans stored
          exact fun same => other (SessionId.asStr_injective same.symm)
  | upgrades now requestDevice sessionId =>
      refine quietly ?_
      simp only [step, upgrades]
      split <;> rfl
  | joins c =>
      refine quietly ?_
      simp only [step, joins]
      split
      · rfl
      · split
        · split <;> rfl
        · rfl
  | sends c incoming =>
      refine quietly ?_
      simp only [step, sends]
      split <;> rfl
  | reads c =>
      refine quietly (withPump_relays c fun connection pump => ?_)
      split <;> rfl
  | forwards c =>
      refine quietly (withPump_relays c fun connection pump => ?_)
      split
      · split
        · split <;> rfl
        · rfl
      · rfl
  | receives c =>
      refine quietly (withPump_relays c fun connection pump => ?_)
      split
      · split
        · rfl
        · split <;> rfl
      · rfl
  | delivers c ok =>
      refine quietly (withPump_relays c fun connection pump => ?_)
      split
      · split <;> rfl
      · rfl
  | selects c ttl =>
      refine quietly (withPump_relays c fun connection pump => ?_)
      split <;> rfl
  | abortsReader c =>
      refine quietly (withPump_relays c fun connection pump => ?_)
      split <;> rfl
  | abortsWriter c =>
      refine quietly (withPump_relays c fun connection pump => ?_)
      split <;> rfl
  | leaves c =>
      refine quietly (withPump_relays c fun connection pump => ?_)
      split <;> rfl

theorem partyOf_upgrade {relays : RelayTable} {now : Timestamp} {requestDevice : DeviceId}
    {sessionId : SessionId} {admission : Admission}
    (admitted : relayWsUpgrade relays now requestDevice sessionId = .ok admission) :
    PartyOf relays (.new requestDevice admission) := by
  obtain ⟨rfl, relay, stored, _, own, maxBytes⟩ := relayWsUpgrade_ok admitted
  exact ⟨relay, stored, own, maxBytes⟩

theorem new_accounted : new.Accounted where
  metered connection member := by cases member
  admitted connection member := by cases member

theorem step_accounted (s : RelayNet) (event : RelayEvent) (accounted : s.Accounted) :
    (s.step event).Accounted := by
  have still : ∀ connection, PartyOf s.relays connection →
      PartyOf (s.step event).relays connection := by
    rintro connection ⟨relay, stored, rest⟩
    exact ⟨relay, step_stored event stored, rest⟩
  refine ⟨fun connection member => ?_, fun connection member => ?_⟩
  · rcases (step_stirs s event).mem member with old | ⟨before, old, turn⟩ |
      ⟨now, device, sessionId, admission, _, rfl⟩
    · exact accounted.metered connection old
    · exact turn_metered (accounted.metered before old) turn
    · exact new_metered device admission
  · rcases (step_stirs s event).mem member with old | ⟨before, old, turn⟩ |
      ⟨now, device, sessionId, admission, admitted, rfl⟩
    · exact still connection (accounted.admitted connection old)
    · have same := turn_admission turn
      have known := still before (accounted.admitted before old)
      simp only [PartyOf, Connection.sessionId, Connection.role, Connection.maxBytes, same.1,
        same.2] at known ⊢
      exact known
    · exact still _ (partyOf_upgrade admitted)

/-- The readers' logs only grow. -/
theorem turn_handed {event : RelayEvent} {connection after : Connection}
    (turn : Turn event connection after) :
    connection.handed <+: after.handed := by
  cases turn with
  | refused upgraded => simp [Connection.handed, upgraded]
  | joined ends upgraded => simp [Connection.handed, upgraded]
  | sent incoming sends => exact List.prefix_rfl
  | took pump incoming rest joined reading stream =>
      simp only [Connection.handed, joined]
      rcases takes_cases connection.maxBytes pump incoming with ⟨frame, _, counts⟩ | ⟨_, same⟩
      · rw [counts]
        simp only [Pump.counts]
        split
        · exact List.prefix_rfl
        · exact List.prefix_append _ _
      · rcases same with same | same
        · rw [same]
        · rw [same]
  | moved pump later joined forwarded received handed reader stage =>
      simp only [Connection.handed, joined, handed]
      exact List.prefix_rfl

/-- What is forwarded for a session only grows. -/
theorem step_forwarded (event : RelayEvent) (sessionId : SessionId) :
    s.forwarded sessionId ≤ (s.step event).forwarded sessionId := by
  refine sum_map_mono _ fun i before there => ?_
  obtain ⟨after, found, turned⟩ := (step_stirs s event).getElem there
  refine ⟨after, found, ?_⟩
  rcases turned with rfl | turn
  · exact Nat.le_refl _
  · have same : after.sessionId = before.sessionId :=
      congrArg Admission.sessionId (turn_admission turn).1
    unfold forwardedFor
    rw [same]
    by_cases own : before.sessionId = sessionId
    · rw [if_pos own, if_pos own]
      exact sum_map_initial _ (turn_handed turn)
    · rw [if_neg own, if_neg own]

/-- What is forwarded for a session is what its connections have read, each as far as it
fits the session's budget on its own. -/
theorem Accounted.forwarded_eq (accounted : s.Accounted) {sessionId : SessionId}
    {relay : RelaySession} (stored : s.relays.getRelaySession sessionId = some relay) :
    s.forwarded sessionId =
      (s.connections.map (fittingFor sessionId relay.maxBytes)).sum := by
  refine congrArg List.sum (List.map_congr_left fun connection member => ?_)
  simp only [forwardedFor, fittingFor]
  split
  next own =>
      obtain ⟨other, found, _, maxBytes⟩ := accounted.admitted connection member
      rw [own] at found
      cases found.symm.trans stored
      rw [(accounted.metered connection member).handed, maxBytes]
  · rfl

/-- In a run, the server keeps a session's budget exactly when what its connections have
read, each as far as it fits the budget on its own, fits it together. -/
theorem budget_iff (events : List RelayEvent) (sessionId : SessionId) (relay : RelaySession)
    (stored : (runFrom step new events).relays.getRelaySession sessionId = some relay) :
    Throughout step (fun s => s.forwarded sessionId ≤ relay.maxBytes) new events ↔
      ((runFrom step new events).connections.map (fittingFor sessionId relay.maxBytes)).sum ≤
        relay.maxBytes := by
  have accounted : (runFrom step new events).Accounted :=
    run_preserves step_accounted new_accounted events
  rw [← accounted.forwarded_eq stored]
  constructor
  · intro all
    exact all events [] (List.append_nil _).symm
  · intro atLast before after split
    subst split
    rw [runFrom_append] at atLast
    have grows : ∀ (rest : List RelayEvent) (t : RelayNet),
        t.forwarded sessionId ≤ (runFrom step t rest).forwarded sessionId := by
      intro rest
      induction rest with
      | nil => exact fun t => Nat.le_refl _
      | cons event rest ih =>
          exact fun t => Nat.le_trans (step_forwarded event sessionId) (ih (t.step event))
    exact Nat.le_trans (grows after _) atLast

end RelayNet

namespace BothWays

open RelayNet

def laptop : DeviceId := ⟨"dev_laptop"⟩
def desktop : DeviceId := ⟨"dev_desktop"⟩
def session : SessionId := ⟨"sess_01J"⟩

def relay : RelaySession := ⟨session, ⟨"clip_1"⟩, laptop, desktop, 10, seconds 1800, 0⟩

/-- Both devices join a session of ten bytes. -/
def joined : List RelayEvent :=
  [.creates "01J" 0 0 ⟨"clip_1"⟩ laptop desktop (some 10) none,
    .upgrades 0 laptop session, .upgrades 0 desktop session, .joins 0, .joins 1]

/-- A frame of six bytes on its way through connection `c` to connection `d`. -/
def sixBytes (c d : Nat) : List RelayEvent :=
  [.sends c (.message (.binary [1, 2, 3, 4, 5, 6])), .reads c, .forwards c, .receives d,
    .delivers d true]

/-- Each device sends six bytes, and the other one gets them: twelve bytes of ten. -/
theorem over_budget :
    (runFrom step new (joined ++ sixBytes 0 1 ++ sixBytes 1 0)).relays.getRelaySession session =
        some relay ∧
      (runFrom step new (joined ++ sixBytes 0 1 ++ sixBytes 1 0)).connections.map
          Connection.delivered =
        [[(1, .binary [1, 2, 3, 4, 5, 6])], [(0, .binary [1, 2, 3, 4, 5, 6])]] ∧
      ¬ (runFrom step new (joined ++ sixBytes 0 1 ++ sixBytes 1 0)).forwarded session ≤
        relay.maxBytes := by
  decide +kernel

/-- The laptop alone sends. -/
theorem source_within :
    Throughout step (fun s => s.forwarded session ≤ relay.maxBytes) new
      (joined ++ sixBytes 0 1) := by
  have stored : (runFrom step new (joined ++ sixBytes 0 1)).relays.getRelaySession session =
        some relay ∧
      ((runFrom step new (joined ++ sixBytes 0 1)).connections.map
        (fittingFor session relay.maxBytes)).sum ≤ relay.maxBytes := by
    decide +kernel
  exact (budget_iff _ session relay stored.1).mpr stored.2

end BothWays

end AirPaste.Server
