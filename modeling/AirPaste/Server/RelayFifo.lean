/-
# Server.RelayFifo — what two clients see of the relay

`peer` is the connection that has joined a session in a role.  As long as no connection has
left, what it has got is a prefix of what the peer in the other role has sent
(`delivered_prefix`), and nobody else has sent any of it (`delivered_origin`).

Readers and writers go on while the steps are calm and no budget is exceeded (`Going`); then
all that was sent is delivered once nothing is on its way.  `relay_fifo` collects this.
-/
import AirPaste.Server.RelayPipe

namespace AirPaste.Server

open AirPaste.Core
open AirPaste.Theory

set_option autoImplicit false

/-- The messages that carry a frame. -/
def payloadMessages (messages : List WsMessage) : List WsMessage :=
  messages.filter fun message => message.frame.isSome

theorem payloadMessages_eq (messages : List WsMessage) :
    payloadMessages messages = (payload messages).map RelayFrame.message := by
  induction messages with
  | nil => rfl
  | cons message rest ih =>
      cases message with
      | text content => exact congrArg (WsMessage.text content :: ·) ih
      | binary bytes => exact congrArg (WsMessage.binary bytes :: ·) ih
      | ping => exact ih
      | pong => exact ih
      | close => exact ih

def Connection.isJoined (connection : Connection) : Bool :=
  match connection.handler with
  | .joined _ => true
  | _ => false

theorem Connection.isJoined_iff {connection : Connection} :
    connection.isJoined = true ↔ ∃ pump, connection.handler = .joined pump := by
  unfold isJoined
  cases connection.handler with
  | joined pump => exact iff_of_true rfl ⟨pump, rfl⟩
  | upgraded => exact iff_of_false Bool.false_ne_true (by simp)
  | refused => exact iff_of_false Bool.false_ne_true (by simp)

namespace RelayNet

/-- The connection that has joined the session in the role. -/
def peer (s : RelayNet) (sessionId : SessionId) (role : RelayRole) : Option Connection :=
  s.connections.find? fun connection =>
    connection.isJoined && connection.sessionId = sessionId && connection.role = role

/-- What the session's client in the role has got. -/
def deliveredTo (s : RelayNet) (sessionId : SessionId) (role : RelayRole) : List WsMessage :=
  match s.peer sessionId role with
  | none => []
  | some connection => connection.delivered.map Prod.snd

/-- The text and binary messages that the session's client in the role has sent. -/
def sentBy (s : RelayNet) (sessionId : SessionId) (role : RelayRole) : List WsMessage :=
  match s.peer sessionId role with
  | none => []
  | some connection => payloadMessages connection.sent

variable {s : RelayNet}

theorem peer_some {sessionId : SessionId} {role : RelayRole} {connection : Connection}
    (found : s.peer sessionId role = some connection) :
    ∃ (i : Nat) (pump : Pump), s.connections[i]? = some connection ∧
      connection.handler = .joined pump ∧ connection.sessionId = sessionId ∧
      connection.role = role := by
  have test := List.find?_some found
  simp only [Bool.and_eq_true, decide_eq_true_eq] at test
  obtain ⟨pump, joined⟩ := Connection.isJoined_iff.mp test.1.1
  obtain ⟨i, there⟩ := List.getElem?_of_mem (List.mem_of_find?_eq_some found)
  exact ⟨i, pump, there, joined, test.1.2, test.2⟩

/-- A connection that has joined is its session's peer in its role. -/
theorem Wired.peer_eq (wired : s.Wired) {i : Nat} {connection : Connection} {pump : Pump}
    (there : s.connections[i]? = some connection) (joined : connection.handler = .joined pump) :
    s.peer connection.sessionId connection.role = some connection := by
  cases found : s.peer connection.sessionId connection.role with
  | none =>
      have test := List.find?_eq_none.mp found connection (List.mem_of_getElem? there)
      simp [Connection.isJoined, joined] at test
  | some other =>
      obtain ⟨j, otherPump, otherThere, otherJoined, session, role⟩ := peer_some found
      have same := wired.alone there joined otherThere otherJoined session.symm role.symm
      subst same
      exact congrArg some (Option.some.inj (otherThere.symm.trans there))

/-- Who has pushed to the channel a connection receives from: its peer. -/
theorem Piped.sender (wired : s.Wired) (piped : s.Piped) {i : Nat} {connection : Connection}
    {pump : Pump} (there : s.connections[i]? = some connection)
    (joined : connection.handler = .joined pump) {item : Nat × RelayFrame}
    (member : item ∈ (s.channels pump.ends.outboundRx).pushed) :
    ∃ sender senderPump, s.connections[item.1]? = some sender ∧
      sender.handler = .joined senderPump ∧ senderPump.ends.peerTx = pump.ends.outboundRx ∧
      sender.sessionId = connection.sessionId ∧ sender.role = connection.role.opposite := by
  obtain ⟨sender, senderPump, senderThere, senderJoined, feeds⟩ := piped.owner _ item member
  obtain ⟨room, found, ends, _, _⟩ := wired.room there joined
  obtain ⟨other, otherFound, otherEnds, _, _⟩ := wired.room senderThere senderJoined
  refine ⟨sender, senderPump, senderThere, senderJoined, feeds, ?_, ?_⟩
  · rw [otherEnds, ends] at feeds
    exact wired.housed.apart _ _ other room otherFound found (congrArg ChannelId.room feeds)
  · rw [otherEnds, ends] at feeds
    have roles : sender.role.opposite = connection.role := congrArg ChannelId.receiver feeds
    rw [← roles, RelayRole.opposite_opposite]

theorem wire_messages (items : List (Nat × RelayFrame)) :
    (items.map wire).map Prod.snd = (items.map Prod.snd).map RelayFrame.message := by
  rw [List.map_map, List.map_map]
  rfl

/-- What a client has got is a prefix of what the other one has sent. -/
theorem delivered_prefix (wired : s.Wired) (accounted : s.Accounted) (piped : s.Piped)
    (sessionId : SessionId) (role : RelayRole) :
    s.deliveredTo sessionId role <+: s.sentBy sessionId role.opposite := by
  unfold deliveredTo
  cases found : s.peer sessionId role with
  | none => exact List.nil_prefix
  | some connection =>
      obtain ⟨i, pump, there, joined, session, ownRole⟩ := peer_some found
      have drawn := piped.drawn i connection pump there joined
      have got : connection.delivered.map Prod.snd <+:
          ((s.channels pump.ends.outboundRx).pushed.map Prod.snd).map RelayFrame.message := by
        rw [← wire_messages]
        refine List.IsPrefix.map Prod.snd (List.IsPrefix.trans ?_
          (List.IsPrefix.map wire (Channel.popped_prefix _)))
        simp only [Connection.delivered, joined]
        exact (List.prefix_append _ _).trans drawn.first
      cases log : (s.channels pump.ends.outboundRx).pushed with
      | nil =>
          rw [log] at got
          exact got.trans List.nil_prefix
      | cons item rest =>
          obtain ⟨sender, senderPump, senderThere, senderJoined, feeds, senderSession,
              senderRole⟩ :=
            piped.sender wired there joined (log ▸ List.mem_cons_self)
          have isPeer := wired.peer_eq senderThere senderJoined
          rw [senderSession, senderRole, session, ownRole] at isPeer
          have fed := piped.fed item.1 sender senderPump senderThere senderJoined
          have metered := accounted.metered sender (List.mem_of_getElem? senderThere)
          have handed : senderPump.handed <+: payload sender.sent := by
            have fits := metered.handed
            rw [metered.split]
            simp only [Connection.handed, Connection.received, senderJoined] at fits ⊢
            rw [fits]
            exact (fitting_initial _ _ _).trans (List.prefix_append _ _)
          simp only [sentBy, isPeer, payloadMessages_eq]
          refine got.trans (List.IsPrefix.map RelayFrame.message ?_)
          rw [← feeds]
          exact ((List.prefix_append _ _).trans fed.first).trans handed

/-- What is delivered was sent by a connection of the same session in the other role. -/
theorem delivered_origin (wired : s.Wired) (piped : s.Piped) {connection : Connection}
    (listed : connection ∈ s.connections) {item : Nat × WsMessage}
    (member : item ∈ connection.delivered) :
    ∃ sender, s.connections[item.1]? = some sender ∧
      sender.sessionId = connection.sessionId ∧ sender.role = connection.role.opposite := by
  cases joined : connection.handler with
  | upgraded => simp [Connection.delivered, joined] at member
  | refused => simp [Connection.delivered, joined] at member
  | joined pump =>
      obtain ⟨i, there⟩ := List.getElem?_of_mem listed
      have drawn := piped.drawn i connection pump there joined
      simp only [Connection.delivered, joined] at member
      have popped := drawn.first.subset (List.mem_append_left _ member)
      obtain ⟨frame, inLog, rfl⟩ := List.mem_map.mp popped
      have pushed := (Channel.popped_prefix _).subset inLog
      obtain ⟨sender, _, senderThere, _, _, session, role⟩ :=
        piped.sender wired there joined pushed
      exact ⟨sender, senderThere, session, role⟩

end RelayNet

/-! ## Nothing is cut off -/

/-- The item is a message other than a close. -/
def Incoming.Calm : Incoming → Prop
  | .message .close => False
  | .message _ => True
  | .failed => False

/-- The event neither closes a connection nor fails. -/
def RelayEvent.Calm : RelayEvent → Prop
  | .sends _ incoming => incoming.Calm
  | .delivers _ ok => ok = true
  | .selects _ ttl => ttl = false
  | .leaves _ => False
  | _ => True

theorem RelayEvent.Calm.stays {event : RelayEvent} (calm : event.Calm) : event.Stays := by
  cases event <;> first | exact trivial | exact calm

/-- A handler whose tasks have not ended. -/
structure Running (pump : Pump) : Prop where
  stage : pump.stage = .selecting
  reader : pump.reader ≠ .ended
  writer : pump.writer ≠ .ended

/-- A calm item ends a reader only when it exceeds the budget. -/
theorem takes_running {maxBytes : Nat} {pump : Pump} {incoming : Incoming} (running : Running pump)
    (calm : incoming.Calm)
    (fits : pump.forwarded + (incoming.frames.map RelayFrame.len).sum ≤ maxBytes) :
    Running (pump.takes maxBytes incoming) := by
  have counts : ∀ frame, incoming.frames = [frame] → Running (pump.counts maxBytes frame) := by
    intro frame one
    rw [one, List.map_singleton, List.sum_singleton] at fits
    simp only [Pump.counts, if_neg (Nat.not_lt.mpr fits)]
    exact ⟨running.stage, by simp, running.writer⟩
  cases incoming with
  | failed => exact absurd calm id
  | message content =>
      cases content with
      | text content => exact counts (.text content) rfl
      | binary bytes => exact counts (.binary bytes) rfl
      | ping => exact running
      | pong => exact running
      | close => exact absurd calm id

namespace RelayNet

variable {s : RelayNet} {sessionId : SessionId}

/-- The clients of a session have sent no more than its budget, each of them. -/
def Within (s : RelayNet) (sessionId : SessionId) : Prop :=
  ∀ connection ∈ s.connections, connection.sessionId = sessionId →
    ((payload connection.sent).map RelayFrame.len).sum ≤ connection.maxBytes

/-- All handlers of a session run. -/
def AllRun (s : RelayNet) (sessionId : SessionId) : Prop :=
  ∀ connection ∈ s.connections, connection.sessionId = sessionId → ∀ pump,
    connection.handler = .joined pump → Running pump

/-- Sockets yield calm items, and the handlers of a session run while its clients keep the
budget. -/
structure Going (s : RelayNet) (sessionId : SessionId) : Prop where
  calm : ∀ connection ∈ s.connections, ∀ incoming ∈ connection.stream, incoming.Calm
  running : s.Within sessionId → s.AllRun sessionId

/-- The peer of a connection that runs can receive. -/
theorem Wired.receiverAlive (wired : s.Wired) (runs : s.AllRun sessionId) {i : Nat}
    {connection : Connection} {pump : Pump} (there : s.connections[i]? = some connection)
    (joined : connection.handler = .joined pump) (session : connection.sessionId = sessionId) :
    s.receiverAlive connection.sessionId pump.ends.peerTx = true := by
  obtain ⟨room, found, ends, _, _⟩ := wired.room there joined
  rw [RelayNet.receiverAlive, found, ends, Bool.or_eq_true]
  cases free : room.rx connection.role.opposite with
  | true => exact .inl (by simp [endsOf, free])
  | false =>
      obtain ⟨seat, member, live, seatSession, seatRole⟩ :=
        wired.taken connection.sessionId room connection.role.opposite found free
      obtain ⟨other, listed, rfl⟩ := mem_seats.mp member
      obtain ⟨otherPump, otherJoined⟩ := joined_of_held live
      have otherSession : other.sessionId = connection.sessionId := seatSession
      have otherRole : other.role = connection.role.opposite := seatRole
      obtain ⟨j, otherThere⟩ := List.getElem?_of_mem listed
      obtain ⟨otherRoom, otherFound, otherEnds, _, _⟩ := wired.room otherThere otherJoined
      rw [otherSession, found] at otherFound
      cases otherFound
      have running := runs other listed (otherSession.trans session) otherPump otherJoined
      refine .inr (List.any_eq_true.mpr ⟨other, listed, ?_⟩)
      simp only [otherJoined, otherEnds, otherRole, endsOf, Bool.and_eq_true, decide_eq_true_eq]
      exact ⟨trivial, running.writer⟩

/-- The channel of a connection that has joined keeps the sender in its room. -/
theorem Wired.senderAlive (wired : s.Wired) {i : Nat} {connection : Connection} {pump : Pump}
    (there : s.connections[i]? = some connection) (joined : connection.handler = .joined pump) :
    s.senderAlive connection.sessionId pump.ends.outboundRx = true := by
  obtain ⟨room, found, ends, _, _⟩ := wired.room there joined
  simp [RelayNet.senderAlive, found, ends, endsOf]

theorem AllRun.set {t : RelayNet} (runs : t.AllRun sessionId) {c : Nat} {connection : Connection}
    (own : connection.sessionId = sessionId →
      ∀ pump, connection.handler = .joined pump → Running pump) :
    (t.setConnection c connection).AllRun sessionId := by
  intro other member session pump joined
  rcases List.mem_or_eq_of_mem_set member with old | rfl
  · exact runs other old session pump joined
  · exact own session pump joined

/-- One connection of the session, or of another, takes a turn. -/
theorem AllRun.setPump {t : RelayNet} (runs : t.AllRun sessionId) {c : Nat}
    {found connection : Connection} {pump later : Pump} (there : t.connections[c]? = some found)
    (joined : found.handler = .joined pump) (admission : connection.admission = found.admission)
    (keeps : found.sessionId = sessionId → Running pump → Running later) :
    (t.setPump c connection later).AllRun sessionId := by
  refine runs.set fun session otherPump otherJoined => ?_
  cases otherJoined
  have same : found.sessionId = sessionId :=
    (congrArg Admission.sessionId admission).symm.trans session
  exact keeps same (runs found (List.mem_of_getElem? there) same pump joined)

theorem withPump_runs (runs : s.AllRun sessionId) {c : Nat} {act : Connection → Pump → RelayNet}
    (moves : ∀ connection pump, s.connections[c]? = some connection →
      connection.handler = .joined pump → (act connection pump).AllRun sessionId) :
    (s.withPump c act).AllRun sessionId := by
  rcases withPump_cases c act with same | ⟨connection, pump, there, joined, acts⟩
  · rw [same]
    exact runs
  · rw [acts]
    exact moves connection pump there joined

/-- What a client has sent only grows. -/
theorem Within.before {event : RelayEvent} (within : (s.step event).Within sessionId) :
    s.Within sessionId := by
  intro connection member session
  obtain ⟨i, there⟩ := List.getElem?_of_mem member
  obtain ⟨after, found, turned⟩ := (step_stirs s event).getElem there
  have later := within after (List.mem_of_getElem? found)
  rcases turned with rfl | turn
  · exact later session
  · have admission := (turn_admission turn).1
    have grows : payload connection.sent <+: payload after.sent := by
      cases turn with
      | sent incoming sends =>
          rw [payload_append]
          exact List.prefix_append _ _
      | _ => exact List.prefix_rfl
    have bound := later ((congrArg Admission.sessionId admission).trans session)
    rw [show after.maxBytes = connection.maxBytes from congrArg Admission.maxBytes admission]
      at bound
    exact Nat.le_trans (sum_map_initial _ grows) bound

theorem reads_runs (accounted : s.Accounted) (going : s.Going sessionId)
    (within : s.Within sessionId) (c : Nat) : (s.reads c).AllRun sessionId := by
  have runs := going.running within
  refine withPump_runs runs fun connection pump there joined => ?_
  split
  next incoming rest reading stream =>
      have listed := List.mem_of_getElem? there
      have metered := accounted.metered connection listed
      refine runs.setPump there joined rfl fun session running => ?_
      refine takes_running running (going.calm connection listed incoming ?_) ?_
      · rw [stream]
        exact List.mem_cons_self
      · have split := metered.split
        rw [waiting_cons stream, ← List.append_assoc] at split
        simp only [Connection.received, joined] at split
        have bound := within connection listed session
        rw [split, List.map_append, List.map_append, List.sum_append, List.sum_append] at bound
        rw [metered.counted pump joined]
        omega
  · exact runs

theorem joins_runs (runs : s.AllRun sessionId) (c : Nat) : (s.joins c).AllRun sessionId := by
  unfold joins
  split
  · exact runs
  next connection there =>
      split
      · simp only
        split
        · refine AllRun.set runs fun _ pump joined => ?_
          cases joined
          exact ⟨rfl, by simp [Pump.new], by simp [Pump.new]⟩
        · exact AllRun.set runs fun _ pump joined => by cases joined
      · exact runs

/-- The reader's `send` does not fail: the peer of a connection that runs can receive. -/
theorem forwards_runs (wired : s.Wired) (runs : s.AllRun sessionId) (c : Nat) :
    (s.forwards c).AllRun sessionId := by
  refine withPump_runs runs fun connection pump there joined => ?_
  split
  next frame sending =>
      split
      · split
        · exact runs
        next channel _ =>
            have channelRuns : (s.setChannel pump.ends.peerTx channel).AllRun sessionId := runs
            exact channelRuns.setPump there joined rfl fun _ running =>
              ⟨running.stage, by simp, running.writer⟩
      next gone =>
          exact runs.setPump there joined rfl fun session _ =>
            absurd (wired.receiverAlive runs there joined session) gone
  · exact runs

/-- The writer's channel is not closed: the room keeps a sender. -/
theorem receives_runs (wired : s.Wired) (runs : s.AllRun sessionId) (c : Nat) :
    (s.receives c).AllRun sessionId := by
  refine withPump_runs runs fun connection pump there joined => ?_
  split
  · split
    next item channel _ =>
        have channelRuns : (s.setChannel pump.ends.outboundRx channel).AllRun sessionId := runs
        exact channelRuns.setPump there joined rfl fun _ running =>
          ⟨running.stage, running.reader, by simp⟩
    · rw [if_pos (wired.senderAlive there joined)]
      exact runs
  · exact runs

/-- In a calm step, the handlers of a session go on while its clients keep the budget. -/
theorem step_runs (event : RelayEvent) (calm : event.Calm) (wired : s.Wired)
    (accounted : s.Accounted) (going : s.Going sessionId) (within : s.Within sessionId) :
    (s.step event).AllRun sessionId := by
  have runs := going.running within
  cases event with
  | creates ulid expiring created clipId source recipient maxBytes ttlSeconds =>
      simp only [step, creates]
      split
      · exact runs
      · exact runs
  | upgrades now requestDevice session =>
      simp only [step, upgrades]
      split
      · exact runs
      · intro other member session pump joined
        rcases List.mem_append.mp member with old | new
        · exact runs other old session pump joined
        · cases List.mem_singleton.mp new
          cases joined
  | joins c => exact joins_runs runs c
  | sends c incoming =>
      simp only [step, sends]
      split
      · exact runs
      next connection there => exact runs.set (runs connection (List.mem_of_getElem? there))
  | reads c => exact reads_runs accounted going within c
  | forwards c => exact forwards_runs wired runs c
  | receives c => exact receives_runs wired runs c
  | delivers c ok =>
      have sent : ok = true := calm
      refine withPump_runs runs fun connection pump there joined => ?_
      split
      · rw [if_pos sent]
        exact runs.setPump there joined rfl fun _ running =>
          ⟨running.stage, running.reader, by simp⟩
      · exact runs
  | selects c ttl =>
      have early : ttl = false := calm
      refine withPump_runs runs fun connection pump there joined => ?_
      split
      next ready =>
          refine runs.setPump there joined rfl fun _ running => ?_
          rcases ready.2 with readerEnded | writerEnded | due
          · exact absurd readerEnded running.reader
          · exact absurd writerEnded running.writer
          · rw [early] at due
            cases due
      · exact runs
  | abortsReader c =>
      refine withPump_runs runs fun connection pump there joined => ?_
      split
      · exact runs
      next closing =>
          exact runs.setPump there joined rfl fun _ running => absurd running.stage closing
  | abortsWriter c =>
      refine withPump_runs runs fun connection pump there joined => ?_
      split
      · exact runs
      next closing =>
          exact runs.setPump there joined rfl fun _ running => absurd running.stage closing
  | leaves c => exact absurd calm id

theorem step_going (event : RelayEvent) (calm : event.Calm) (wired : s.Wired)
    (accounted : s.Accounted) (going : s.Going sessionId) : (s.step event).Going sessionId where
  calm connection member incoming waits := by
    rcases (step_stirs s event).mem member with old | ⟨before, old, turn⟩ |
      ⟨now, device, session, admission, _, rfl⟩
    · exact going.calm connection old incoming waits
    · have early := going.calm before old
      cases turn with
      | sent item sends =>
          obtain ⟨c, rfl⟩ := sends
          rcases List.mem_append.mp waits with first | last
          · exact early incoming first
          · cases List.mem_singleton.mp last
            exact calm
      | took pump item rest joined reading stream =>
          exact early incoming (stream ▸ List.mem_cons_of_mem _ waits)
      | _ => exact early incoming waits
    · cases waits
  running within := step_runs event calm wired accounted going within.before

/-- No frame is on its way to the session's client in the role. -/
def Drained (s : RelayNet) (sessionId : SessionId) (role : RelayRole) : Prop :=
  (∀ sender pump, s.peer sessionId role.opposite = some sender →
    sender.handler = .joined pump →
    sender.waiting = [] ∧ pump.reader.hand = [] ∧ (s.channels pump.ends.peerTx).queue = []) ∧
  ∀ receiver pump, s.peer sessionId role = some receiver → receiver.handler = .joined pump →
    pump.writer.hand = []

/-- The receiver of a role that no connection has is still in the room. -/
theorem Wired.free_of_no_peer (wired : s.Wired) {role : RelayRole} {room : RelayRoom}
    (found : s.hub.rooms sessionId = some room) (missing : s.peer sessionId role = none) :
    room.rx role = true := by
  cases rx : room.rx role with
  | true => rfl
  | false =>
      obtain ⟨seat, member, live, session, sameRole⟩ := wired.taken sessionId room role found rx
      obtain ⟨connection, listed, rfl⟩ := mem_seats.mp member
      obtain ⟨pump, joined⟩ := joined_of_held live
      obtain ⟨i, there⟩ := List.getElem?_of_mem listed
      have isPeer := wired.peer_eq there joined
      have seats : connection.sessionId = sessionId ∧ connection.role = role :=
        ⟨session, sameRole⟩
      rw [seats.1, seats.2, missing] at isPeer
      cases isPeer

/-- When nothing is on its way, the client has got all that the other one has sent. -/
theorem delivered_all (wired : s.Wired) (accounted : s.Accounted) (piped : s.Piped)
    (runs : s.AllRun sessionId) {role : RelayRole} (drained : s.Drained sessionId role) :
    s.deliveredTo sessionId role = s.sentBy sessionId role.opposite := by
  cases senderFound : s.peer sessionId role.opposite with
  | none =>
      have nothing := delivered_prefix wired accounted piped sessionId role
      rw [sentBy, senderFound] at nothing ⊢
      exact List.prefix_nil.mp nothing
  | some sender =>
      obtain ⟨i, pump, there, joined, session, senderRole⟩ := peer_some senderFound
      obtain ⟨waiting, hand, queue⟩ := drained.1 sender pump senderFound joined
      have running := runs sender (List.mem_of_getElem? there) session pump joined
      have metered := accounted.metered sender (List.mem_of_getElem? there)
      have sent : payload sender.sent = (s.channels pump.ends.peerTx).popped.map Prod.snd := by
        have fed := (piped.fed i sender pump there joined).all running.reader
        have split := metered.split
        simp only [Connection.received, joined] at split
        rw [hand, List.append_nil] at fed
        rw [split, waiting, List.append_nil, Channel.popped_eq_pushed queue, fed,
          metered.going pump joined running.reader]
      have channel : ∃ room, s.hub.rooms sessionId = some room ∧
          pump.ends.peerTx = ⟨room.room, role⟩ := by
        obtain ⟨room, found, ends, _, _⟩ := wired.room there joined
        refine ⟨room, session ▸ found, ?_⟩
        rw [ends, senderRole]
        simp only [endsOf, RelayRole.opposite_opposite]
      obtain ⟨room, found, tx⟩ := channel
      rw [sentBy, senderFound]
      simp only [payloadMessages_eq]
      rw [sent, tx]
      cases receiverFound : s.peer sessionId role with
      | none =>
          have free : room.rx role = true := wired.free_of_no_peer found receiverFound
          rw [deliveredTo, receiverFound, piped.unread sessionId room role found free]
          rfl
      | some receiver =>
          obtain ⟨j, otherPump, otherThere, otherJoined, otherSession, otherRole⟩ :=
            peer_some receiverFound
          obtain ⟨otherRoom, otherFound, otherEnds, _, _⟩ := wired.room otherThere otherJoined
          rw [otherSession, found] at otherFound
          cases otherFound
          have otherRunning :=
            runs receiver (List.mem_of_getElem? otherThere) otherSession otherPump otherJoined
          have got := (piped.drawn j receiver otherPump otherThere otherJoined).all
            otherRunning.writer
          rw [drained.2 receiver otherPump receiverFound otherJoined, List.map_nil,
            List.append_nil, otherEnds, otherRole] at got
          rw [deliveredTo, receiverFound, ← wire_messages]
          simp only [Connection.delivered, otherJoined, got]
          rfl

/-- What holds in a run in which no connection leaves. -/
structure Relaying (s : RelayNet) : Prop where
  wired : s.Wired
  accounted : s.Accounted
  piped : s.Piped

theorem new_relaying : new.Relaying where
  wired := new_wired
  accounted := new_accounted
  piped := new_piped

theorem step_relaying (s : RelayNet) (event : RelayEvent) (stays : event.Stays)
    (relaying : s.Relaying) : (s.step event).Relaying where
  wired := step_wired s event stays relaying.wired
  accounted := step_accounted s event relaying.accounted
  piped := step_piped s event stays relaying.wired relaying.piped

/-- The handlers of a session run as long as the steps are calm and its clients keep the
budget. -/
theorem runs_going (events : List RelayEvent) (calm : ∀ event ∈ events, event.Calm)
    (sessionId : SessionId) : (runFrom step new events).Going sessionId := by
  have keeps : ∀ (s : RelayNet) (event : RelayEvent), event.Calm →
      s.Relaying ∧ s.Going sessionId →
        (s.step event).Relaying ∧ (s.step event).Going sessionId := by
    rintro s event calm ⟨relaying, going⟩
    exact ⟨step_relaying s event calm.stays relaying,
      step_going event calm relaying.wired relaying.accounted going⟩
  have initially : new.Going sessionId := by
    refine ⟨?_, fun _ => ?_⟩
    · intro connection member
      cases member
    · intro connection member
      cases member
  exact (run_keeps RelayEvent.Calm keeps calm ⟨new_relaying, initially⟩).2

/-- In a run in which no connection leaves: each role of a session is held by at most one
connection; what a client has got is a prefix of what the other client of its session has
sent, and all of it when nothing is on its way and nothing was cut off; what a client has
got was sent by a connection of its session in the other role; and every connection was
admitted as a device of its session, in that device's role. -/
theorem relay_fifo (events : List RelayEvent) (stays : ∀ event ∈ events, event.Stays) :
    (∀ connection ∈ (runFrom step new events).connections, connection.isJoined →
        (runFrom step new events).peer connection.sessionId connection.role = some connection) ∧
      (∀ sessionId role, (runFrom step new events).deliveredTo sessionId role <+:
        (runFrom step new events).sentBy sessionId role.opposite) ∧
      ((∀ event ∈ events, event.Calm) → ∀ sessionId role,
        (runFrom step new events).Within sessionId →
        (runFrom step new events).Drained sessionId role →
        (runFrom step new events).deliveredTo sessionId role =
          (runFrom step new events).sentBy sessionId role.opposite) ∧
      (∀ connection ∈ (runFrom step new events).connections, ∀ item ∈ connection.delivered,
        ∃ sender, (runFrom step new events).connections[item.1]? = some sender ∧
          sender.sessionId = connection.sessionId ∧ sender.role = connection.role.opposite) ∧
      ∀ connection ∈ (runFrom step new events).connections,
        PartyOf (runFrom step new events).relays connection := by
  have relaying : (runFrom step new events).Relaying :=
    run_keeps RelayEvent.Stays step_relaying stays new_relaying
  obtain ⟨wired, accounted, piped⟩ := relaying
  refine ⟨?_, ?_, ?_, ?_, accounted.admitted⟩
  · intro connection member joined
    obtain ⟨pump, handler⟩ := Connection.isJoined_iff.mp joined
    obtain ⟨i, there⟩ := List.getElem?_of_mem member
    exact wired.peer_eq there handler
  · exact delivered_prefix wired accounted piped
  · intro calm sessionId role within drained
    exact delivered_all wired accounted piped ((runs_going events calm sessionId).running within)
      drained
  · intro connection member item delivered
    exact delivered_origin wired piped member delivered

end RelayNet

namespace SentEarly

open RelayNet

def laptop : DeviceId := ⟨"dev_laptop"⟩
def desktop : DeviceId := ⟨"dev_desktop"⟩
def session : SessionId := ⟨"sess_01J"⟩

/-- The laptop sends two frames before the desktop has joined. -/
def events : List RelayEvent :=
  [.creates "01J" 0 0 ⟨"clip_1"⟩ laptop desktop none none, .upgrades 0 laptop session,
    .joins 0, .sends 0 (.message (.text "hello")), .sends 0 (.message .ping),
    .sends 0 (.message (.binary [1, 2])), .reads 0, .forwards 0, .reads 0, .reads 0, .forwards 0,
    .upgrades 0 desktop session, .joins 1, .receives 1, .delivers 1 true, .receives 1,
    .delivers 1 true]

/-- The two connections at the end. -/
def source : Connection :=
  { device := laptop
    admission := ⟨session, .source, 2147483648, 1800⟩
    handler := .joined ⟨endsOf 0 .source, .selecting, .reading, .receiving, 7,
      [.text "hello", .binary [1, 2]], [.text "hello", .binary [1, 2]], []⟩
    stream := []
    sent := [.text "hello", .ping, .binary [1, 2]] }

def recipient : Connection :=
  { device := desktop
    admission := ⟨session, .recipient, 2147483648, 1800⟩
    handler := .joined ⟨endsOf 0 .recipient, .selecting, .reading, .receiving, 0, [], [],
      [(0, .text "hello"), (0, .binary [1, 2])]⟩
    stream := []
    sent := [] }

/-- The desktop gets both. -/
theorem desktop_gets_both :
    (runFrom step new events).deliveredTo session .recipient =
      (runFrom step new events).sentBy session .source := by
  have calm : ∀ event ∈ events, event.Calm := by
    simp [events, RelayEvent.Calm, Incoming.Calm]
  have atLast : (runFrom step new events).connections = [source, recipient] ∧
      ((runFrom step new events).channels ⟨0, .recipient⟩).queue = [] ∧
      [source, recipient].all (fun connection =>
        ((payload connection.sent).map RelayFrame.len).sum ≤ connection.maxBytes) := by
    decide +kernel
  obtain ⟨connections, queue, fits⟩ := atLast
  have within : (runFrom step new events).Within session := by
    intro connection member _
    rw [connections] at member
    exact of_decide_eq_true (List.all_eq_true.mp fits connection member)
  have peers : (runFrom step new events).peer session .source = some source ∧
      (runFrom step new events).peer session .recipient = some recipient := by
    unfold peer
    rw [connections]
    decide +kernel
  have drained : (runFrom step new events).Drained session .recipient := by
    constructor
    · intro sender pump found joined
      cases peers.1.symm.trans found
      cases joined
      exact ⟨rfl, rfl, queue⟩
    · intro receiver pump found joined
      cases peers.2.symm.trans found
      cases joined
      rfl
  exact (relay_fifo events fun event member => (calm event member).stays).2.2.1 calm session
    .recipient within drained

end SentEarly

end AirPaste.Server
