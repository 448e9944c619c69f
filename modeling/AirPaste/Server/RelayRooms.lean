/-
# Server.RelayRooms — who holds which role of a session

A connection is live from its join until it leaves, and holds its ends of a room's
channels.  `Seating` says what a step can do to the hub and to the ends that are held;
`Housed` is what holds of them as long as no connection joins a session that has lost its
room while another one is still live.

`rooms_iff` says in which runs joins are exclusive and leaves are local, whichever way the
connections then close.  In `Rejoined.recipient_twice` the source leaves first: the room is
gone while the old recipient is still there, a new recipient joins, and the old one removes
the new one's room.
-/
import AirPaste.Server.RelayNet
import AirPaste.Theory.Run

namespace AirPaste.Server

open AirPaste.Core
open AirPaste.Theory

set_option autoImplicit false

/-- The ends a connection holds while it is live. -/
def Connection.held (connection : Connection) : Option RelayEnds :=
  match connection.handler with
  | .joined pump => if pump.stage = .left then none else some pump.ends
  | _ => none

/-- A connection as far as the rooms are concerned. -/
structure Seat where
  sessionId : SessionId
  role : RelayRole
  held : Option RelayEnds

def Connection.seat (connection : Connection) : Seat :=
  ⟨connection.sessionId, connection.role, connection.held⟩

/-- The connection closes: its `select!` returns, or it leaves. -/
def RelayEvent.Closes : RelayEvent → Prop
  | .selects _ _ => True
  | .leaves _ => True
  | _ => False

namespace RelayNet

def seats (s : RelayNet) : List Seat := s.connections.map Connection.seat

/-- A join succeeds only where no live connection holds the role, and a leave removes no
room but the one that the connection joined. -/
def RightStep (s : RelayNet) : RelayEvent → Prop
  | .joins c => ∀ connection, s.connections[c]? = some connection →
      connection.handler = .upgraded →
      (s.hub.join connection.sessionId connection.role).1.isSome →
      ∀ other ∈ s.connections, other.held.isSome → other.sessionId = connection.sessionId →
        other.role ≠ connection.role
  | .leaves c => ∀ connection pump, s.connections[c]? = some connection →
      connection.handler = .joined pump → pump.stage = .leaving →
      ∀ room, s.hub.rooms connection.sessionId = some room →
        pump.ends = endsOf room.room connection.role
  | _ => True

/-- A connection that joins finds the session's room, or no live connection of the session. -/
def NoLeftover (s : RelayNet) (event : RelayEvent) : Prop :=
  ∀ c connection, event = .joins c → s.connections[c]? = some connection →
    connection.handler = .upgraded → s.hub.rooms connection.sessionId = none →
    ∀ other ∈ s.connections, other.held.isSome → other.sessionId ≠ connection.sessionId

/-! ## What a step does to the rooms -/

variable {s : RelayNet}

theorem withPump_cases (c : Nat) (act : Connection → Pump → RelayNet) :
    s.withPump c act = s ∨ ∃ connection pump, s.connections[c]? = some connection ∧
      connection.handler = .joined pump ∧ s.withPump c act = act connection pump := by
  unfold withPump
  cases found : s.connections[c]? with
  | none => exact .inl rfl
  | some connection =>
      obtain ⟨device, admission, handler, stream, sent⟩ := connection
      cases handler with
      | upgraded => exact .inl rfl
      | refused => exact .inl rfl
      | joined pump => exact .inr ⟨_, pump, rfl, rfl, rfl⟩

theorem withPump_joined {c : Nat} {act : Connection → Pump → RelayNet} {connection : Connection}
    {pump : Pump} (found : s.connections[c]? = some connection)
    (joined : connection.handler = .joined pump) : s.withPump c act = act connection pump := by
  simp only [withPump, found, joined]

theorem getElem_setConnection {c d : Nat} {found connection : Connection}
    (there : s.connections[c]? = some found) :
    (s.setConnection c connection).connections[d]? =
      if d = c then some connection else s.connections[d]? := by
  have bound : c < s.connections.length := by
    by_contra beyond
    rw [List.getElem?_eq_none (Nat.not_lt.mp beyond)] at there
    cases there
  by_cases same : d = c
  · subst same
    rw [if_pos rfl]
    exact List.getElem?_set_self bound
  · rw [if_neg same]
    exact List.getElem?_set_ne (Ne.symm same)

theorem setConnection_seats (c : Nat) (connection : Connection) :
    (s.setConnection c connection).seats = s.seats.set c connection.seat := by
  simp only [seats, setConnection, List.map_set]

/-- A connection whose seat stays the same leaves the seats as they are. -/
theorem setConnection_seats_same {c : Nat} {found connection : Connection}
    (there : s.connections[c]? = some found) (same : connection.seat = found.seat) :
    (s.setConnection c connection).seats = s.seats := by
  rw [setConnection_seats, same]
  apply List.ext_getElem?
  intro d
  by_cases here : d = c
  · subst here
    have bound : d < s.seats.length := by
      by_contra beyond
      have missing : s.seats[d]? = none := List.getElem?_eq_none (Nat.not_lt.mp beyond)
      simp only [seats, List.getElem?_map, there] at missing
      cases missing
    rw [List.getElem?_set_self bound]
    simp only [seats, List.getElem?_map, there, Option.map_some]
  · exact List.getElem?_set_ne (Ne.symm here)

end RelayNet

/-- What a step can do to the hub and the seats. -/
inductive Seating (s : RelayNet) : RelayEvent → RelayNet → Prop
  | quiet {event : RelayEvent} {after : RelayNet} (hub : after.hub = s.hub)
      (seats : after.seats = s.seats) : Seating s event after
  | enters {event : RelayEvent} {after : RelayNet} (seat : Seat) (out : seat.held = none)
      (hub : after.hub = s.hub) (seats : after.seats = s.seats ++ [seat]) : Seating s event after
  | joins {after : RelayNet} (c : Nat) (connection : Connection)
      (there : s.connections[c]? = some connection) (upgraded : connection.handler = .upgraded)
      (free : (s.hub.roomOf connection.sessionId).rx connection.role = true)
      (hub : after.hub = s.hub.insert connection.sessionId
        ((s.hub.roomOf connection.sessionId).takeRx connection.role))
      (seats : after.seats = s.seats.set c ⟨connection.sessionId, connection.role,
        some (endsOf (s.hub.roomOf connection.sessionId).room connection.role)⟩) :
      Seating s (.joins c) after
  | leaves {after : RelayNet} (c : Nat) (connection : Connection)
      (there : s.connections[c]? = some connection)
      (hub : after.hub = s.hub.leave connection.sessionId)
      (seats : after.seats = s.seats.set c ⟨connection.sessionId, connection.role, none⟩) :
      Seating s (.leaves c) after

namespace RelayNet

variable {s : RelayNet}

/-- A pump that goes on with its ends and stays live keeps its seat. -/
theorem setPump_quiet {event : RelayEvent} {c : Nat} {found connection : Connection}
    {before pump : Pump} (there : s.connections[c]? = some found)
    (joined : found.handler = .joined before) (admission : connection.admission = found.admission)
    (ends : pump.ends = before.ends) (stage : pump.stage = .left ↔ before.stage = .left) :
    Seating s event (s.setPump c connection pump) := by
  refine .quiet rfl (setConnection_seats_same there ?_)
  simp only [Connection.seat, Connection.sessionId, Connection.role, Connection.held, admission,
    joined, ends, stage]

/-- The channels do not matter to the seats. -/
theorem setChannel_seating {id : ChannelId}
    {channel : Channel (Nat × RelayFrame) relayQueueCapacity} {event : RelayEvent}
    {after : RelayNet} (seating : Seating (s.setChannel id channel) event after) :
    Seating s event after := by
  cases seating with
  | quiet hub seats => exact .quiet hub seats
  | enters seat out hub seats => exact .enters seat out hub seats
  | joins c connection there upgraded free hub seats =>
      exact .joins c connection there upgraded free hub seats
  | leaves c connection there hub seats => exact .leaves c connection there hub seats

theorem takes_ends (maxBytes : Nat) (pump : Pump) (incoming : Incoming) :
    (pump.takes maxBytes incoming).ends = pump.ends ∧
      (pump.takes maxBytes incoming).stage = pump.stage := by
  have counts : ∀ frame, (pump.counts maxBytes frame).ends = pump.ends ∧
      (pump.counts maxBytes frame).stage = pump.stage := by
    intro frame
    simp only [Pump.counts]
    split
    · exact ⟨rfl, rfl⟩
    · exact ⟨rfl, rfl⟩
  cases incoming with
  | failed => exact ⟨rfl, rfl⟩
  | message content =>
      cases content with
      | text content => exact counts (.text content)
      | binary bytes => exact counts (.binary bytes)
      | ping => exact ⟨rfl, rfl⟩
      | pong => exact ⟨rfl, rfl⟩
      | close => exact ⟨rfl, rfl⟩

theorem joins_seating (c : Nat) : Seating s (.joins c) (s.joins c) := by
  unfold joins
  split
  · exact .quiet rfl rfl
  next connection there =>
      split
      next upgraded =>
          simp only [RelayHub.join]
          by_cases free : (s.hub.roomOf connection.sessionId).rx connection.role = true
          · simp only [if_pos free]
            exact .joins c connection there upgraded free rfl (setConnection_seats c _)
          · simp only [if_neg free]
            have kept : s.hub.insert connection.sessionId (s.hub.roomOf connection.sessionId) =
                s.hub := RelayHub.insert_roomOf fun empty => by
              simp [RelayHub.roomOf, empty] at free
            rw [kept]
            refine .quiet rfl (setConnection_seats_same there ?_)
            simp only [Connection.seat, Connection.sessionId, Connection.role, Connection.held,
              upgraded]
      · exact .quiet rfl rfl

/-- A step of a joined handler is a step of `Seating` when its action is. -/
theorem withPump_seating {event : RelayEvent} {c : Nat} {act : Connection → Pump → RelayNet}
    (moves : ∀ connection pump, s.connections[c]? = some connection →
      connection.handler = .joined pump → Seating s event (act connection pump)) :
    Seating s event (s.withPump c act) := by
  rcases withPump_cases c act with same | ⟨connection, pump, there, joined, acts⟩
  · exact same.symm ▸ .quiet rfl rfl
  · exact acts.symm ▸ moves connection pump there joined

theorem leaves_seating (c : Nat) : Seating s (.leaves c) (s.leaves c) := by
  refine withPump_seating fun connection pump there joined => ?_
  split
  next leaving =>
      refine .leaves c connection there rfl ?_
      show (s.setConnection c _).seats = _
      rw [setConnection_seats]
      rfl
  · exact .quiet rfl rfl

/-- Every step is one of the steps of `Seating`. -/
theorem step_seating (s : RelayNet) (event : RelayEvent) : Seating s event (s.step event) := by
  cases event with
  | creates ulid expiring created clipId source recipient maxBytes ttlSeconds =>
      simp only [step, creates]
      split
      · exact .quiet rfl rfl
      · exact .quiet rfl rfl
  | upgrades now requestDevice sessionId =>
      simp only [step, upgrades]
      split
      · exact .quiet rfl rfl
      next admission _ =>
          refine .enters (Connection.new requestDevice admission).seat rfl rfl ?_
          simp only [seats, List.map_append, List.map_cons, List.map_nil]
  | joins c => exact joins_seating c
  | sends c incoming =>
      simp only [step, sends]
      split
      · exact .quiet rfl rfl
      next connection there => exact .quiet rfl (setConnection_seats_same there rfl)
  | reads c =>
      refine withPump_seating fun connection pump there joined => ?_
      split
      next incoming rest reading stream =>
          have ends := takes_ends connection.maxBytes pump incoming
          exact setPump_quiet there joined rfl ends.1 (by rw [ends.2])
      · exact .quiet rfl rfl
  | forwards c =>
      refine withPump_seating fun connection pump there joined => ?_
      split
      · split
        · split
          · exact .quiet rfl rfl
          next channel _ =>
              exact setChannel_seating (setPump_quiet there joined rfl rfl Iff.rfl)
        · exact setPump_quiet there joined rfl rfl Iff.rfl
      · exact .quiet rfl rfl
  | receives c =>
      refine withPump_seating fun connection pump there joined => ?_
      split
      · split
        next frame channel _ =>
            exact setChannel_seating (setPump_quiet there joined rfl rfl Iff.rfl)
        · split
          · exact .quiet rfl rfl
          · exact setPump_quiet there joined rfl rfl Iff.rfl
      · exact .quiet rfl rfl
  | delivers c ok =>
      refine withPump_seating fun connection pump there joined => ?_
      split
      · split
        · exact setPump_quiet there joined rfl rfl Iff.rfl
        · exact setPump_quiet there joined rfl rfl Iff.rfl
      · exact .quiet rfl rfl
  | selects c ttl =>
      refine withPump_seating fun connection pump there joined => ?_
      split
      next ready => exact setPump_quiet there joined rfl rfl (by simp [ready.1])
      · exact .quiet rfl rfl
  | abortsReader c =>
      refine withPump_seating fun connection pump there joined => ?_
      split
      · exact .quiet rfl rfl
      · exact setPump_quiet there joined rfl rfl Iff.rfl
  | abortsWriter c =>
      refine withPump_seating fun connection pump there joined => ?_
      split
      · exact .quiet rfl rfl
      · exact setPump_quiet there joined rfl rfl Iff.rfl
  | leaves c => exact leaves_seating c

/-! ## Rooms that are not left over -/

/-- Rooms are numbered in turn, and a live connection whose session has a room is in that
room and has taken its role's receiver. -/
structure Housed (s : RelayNet) : Prop where
  known : ∀ sessionId room, s.hub.rooms sessionId = some room → room.room < s.hub.nextRoom
  apart : ∀ first second room other, s.hub.rooms first = some room →
    s.hub.rooms second = some other → room.room = other.room → first = second
  paired : ∀ seat ∈ s.seats, ∀ ends, seat.held = some ends →
    ∃ room, room < s.hub.nextRoom ∧ ends = endsOf room seat.role
  here : ∀ seat ∈ s.seats, ∀ ends room, seat.held = some ends →
    s.hub.rooms seat.sessionId = some room →
    ends = endsOf room.room seat.role ∧ room.rx seat.role = false
  alone : ∀ (i j : Nat) (a b : Seat), s.seats[i]? = some a → s.seats[j]? = some b →
    a.held.isSome → b.held.isSome → a.sessionId = b.sessionId → a.role = b.role → i = j

theorem mem_seats {seat : Seat} :
    seat ∈ s.seats ↔ ∃ connection ∈ s.connections, connection.seat = seat := List.mem_map

theorem getElem_seats {c : Nat} {connection : Connection}
    (there : s.connections[c]? = some connection) : s.seats[c]? = some connection.seat := by
  simp only [seats, List.getElem?_map, there, Option.map_some]

theorem getElem_set_cases {seats : List Seat} {c i : Nat} {seat found : Seat}
    (there : (seats.set c seat)[i]? = some found) :
    (i = c ∧ found = seat) ∨ seats[i]? = some found := by
  rw [List.getElem?_set] at there
  split at there
  next same =>
      split at there
      · exact .inl ⟨same.symm, (Option.some.inj there).symm⟩
      · cases there
  · exact .inr there

theorem new_housed : new.Housed where
  known sessionId room there := by cases there
  apart first second room other there _ _ := by cases there
  paired seat member := by cases member
  here seat member := by cases member
  alone i j a b there := by cases there

/-- Live connections of the session that a connection joins sit in its room, with their
receivers taken. -/
theorem Housed.neighbour (housed : s.Housed) {c : Nat} {connection : Connection}
    (there : s.connections[c]? = some connection) (upgraded : connection.handler = .upgraded)
    (noLeftover : s.NoLeftover (.joins c)) {seat : Seat} (member : seat ∈ s.seats)
    {ends : RelayEnds} (live : seat.held = some ends)
    (same : seat.sessionId = connection.sessionId) :
    s.hub.rooms connection.sessionId = some (s.hub.roomOf connection.sessionId) ∧
      ends = endsOf (s.hub.roomOf connection.sessionId).room seat.role ∧
      (s.hub.roomOf connection.sessionId).rx seat.role = false := by
  obtain ⟨other, listed, rfl⟩ := mem_seats.mp member
  cases found : s.hub.rooms connection.sessionId with
  | none =>
      have isLive : other.held.isSome := by
        show other.seat.held.isSome
        rw [live]
        rfl
      exact absurd same (noLeftover c connection rfl there upgraded found other listed isLive)
  | some room =>
      have room_eq : s.hub.roomOf connection.sessionId = room := by
        rw [RelayHub.roomOf, found, Option.getD_some]
      rw [room_eq]
      exact ⟨rfl, housed.here _ member ends room live (same ▸ found)⟩

/-- No live connection of the session has a role whose receiver is free. -/
theorem Housed.role_ne (housed : s.Housed) {c : Nat} {connection : Connection}
    (there : s.connections[c]? = some connection) (upgraded : connection.handler = .upgraded)
    (noLeftover : s.NoLeftover (.joins c))
    (free : (s.hub.roomOf connection.sessionId).rx connection.role = true) {j : Nat} {seat : Seat}
    (found : s.seats[j]? = some seat) (live : seat.held.isSome)
    (same : seat.sessionId = connection.sessionId) : seat.role ≠ connection.role := by
  intro role
  obtain ⟨ends, held⟩ := Option.isSome_iff_exists.mp live
  have taken := (housed.neighbour there upgraded noLeftover (List.mem_of_getElem? found) held
    same).2.2
  rw [role, free] at taken
  cases taken

/-- A room that a session gets has no room of another session beside it. -/
theorem Housed.roomOf_apart (housed : s.Housed) {sessionId other : SessionId} {room : RelayRoom}
    (there : s.hub.rooms other = some room)
    (same : (s.hub.roomOf sessionId).room = room.room) : sessionId = other := by
  cases found : s.hub.rooms sessionId with
  | none =>
      have below := housed.known other room there
      simp only [RelayHub.roomOf, found, Option.getD_none, RelayRoom.new] at same
      omega
  | some here =>
      refine housed.apart sessionId other here room found there ?_
      simpa [RelayHub.roomOf, found] using same

section Takes

variable {hub : RelayHub} {sessionId : SessionId} {role : RelayRole}

/-- The hub whose room a connection joins numbers its rooms in turn. -/
theorem Housed.takes_known (housed : s.Housed)
    (inserted : hub = s.hub.insert sessionId ((s.hub.roomOf sessionId).takeRx role)) :
    ∀ id room, hub.rooms id = some room → room.room < hub.nextRoom := by
  subst inserted
  intro id room found
  by_cases same : id = sessionId
  · subst same
    cases (RelayHub.insert_self _).symm.trans found
    rw [RelayRoom.takeRx_room]
    exact RelayHub.roomOf_lt housed.known _
  · rw [RelayHub.insert_other same] at found
    exact Nat.lt_of_lt_of_le (housed.known id room found) (RelayHub.nextRoom_le_insert _)

/-- A room that is joined is no other session's. -/
theorem Housed.takes_apart (housed : s.Housed)
    (inserted : hub = s.hub.insert sessionId ((s.hub.roomOf sessionId).takeRx role)) :
    ∀ first second room other, hub.rooms first = some room → hub.rooms second = some other →
      room.room = other.room → first = second := by
  subst inserted
  intro first second room other found foundOther equal
  by_cases one : first = sessionId
  · by_cases two : second = sessionId
    · exact one.trans two.symm
    · subst one
      cases (RelayHub.insert_self _).symm.trans found
      rw [RelayHub.insert_other two] at foundOther
      rw [RelayRoom.takeRx_room] at equal
      exact housed.roomOf_apart foundOther equal
  · rw [RelayHub.insert_other one] at found
    by_cases two : second = sessionId
    · subst two
      cases (RelayHub.insert_self _).symm.trans foundOther
      rw [RelayRoom.takeRx_room] at equal
      exact (housed.roomOf_apart found equal.symm).symm
    · rw [RelayHub.insert_other two] at foundOther
      exact housed.apart first second room other found foundOther equal

end Takes

theorem joins_housed (housed : s.Housed) {after : RelayNet} {c : Nat} {connection : Connection}
    (there : s.connections[c]? = some connection) (upgraded : connection.handler = .upgraded)
    (noLeftover : s.NoLeftover (.joins c))
    (free : (s.hub.roomOf connection.sessionId).rx connection.role = true)
    (hub : after.hub = s.hub.insert connection.sessionId
      ((s.hub.roomOf connection.sessionId).takeRx connection.role))
    (seats : after.seats = s.seats.set c ⟨connection.sessionId, connection.role,
      some (endsOf (s.hub.roomOf connection.sessionId).room connection.role)⟩) :
    after.Housed := by
  have next : s.hub.nextRoom ≤ after.hub.nextRoom := hub ▸ RelayHub.nextRoom_le_insert _
  have room_lt : (s.hub.roomOf connection.sessionId).room < after.hub.nextRoom :=
    hub ▸ RelayHub.roomOf_lt housed.known _
  have room_self : after.hub.rooms connection.sessionId =
      some ((s.hub.roomOf connection.sessionId).takeRx connection.role) :=
    hub ▸ RelayHub.insert_self _
  have room_other : ∀ other, other ≠ connection.sessionId →
      after.hub.rooms other = s.hub.rooms other :=
    fun other ne => hub ▸ RelayHub.insert_other ne
  refine ⟨housed.takes_known hub, housed.takes_apart hub, ?_, ?_, ?_⟩
  · intro seat member ends held
    rw [seats] at member
    rcases List.mem_or_eq_of_mem_set member with old | rfl
    · obtain ⟨room, below, paired⟩ := housed.paired seat old ends held
      exact ⟨room, Nat.lt_of_lt_of_le below next, paired⟩
    · cases held
      exact ⟨_, room_lt, rfl⟩
  · intro seat member ends room held found
    rw [seats] at member
    rcases List.mem_or_eq_of_mem_set member with old | rfl
    · by_cases same : seat.sessionId = connection.sessionId
      · obtain ⟨-, paired, taken⟩ :=
          housed.neighbour there upgraded noLeftover old held same
        rw [same, room_self] at found
        cases found
        rw [RelayRoom.takeRx_room]
        exact ⟨paired, RelayRoom.takeRx_rx taken⟩
      · exact housed.here seat old ends room held (room_other _ same ▸ found)
    · cases held
      cases room_self.symm.trans found
      rw [RelayRoom.takeRx_room]
      exact ⟨rfl, RelayRoom.takeRx_self _ _⟩
  · intro i j a b foundA foundB liveA liveB session role
    rw [seats] at foundA foundB
    rcases getElem_set_cases foundA with ⟨one, rfl⟩ | oldA
    · rcases getElem_set_cases foundB with ⟨two, rfl⟩ | oldB
      · exact one.trans two.symm
      · exact absurd role.symm
          (housed.role_ne there upgraded noLeftover free oldB liveB session.symm)
    · rcases getElem_set_cases foundB with ⟨two, rfl⟩ | oldB
      · exact absurd role (housed.role_ne there upgraded noLeftover free oldA liveA session)
      · exact housed.alone i j a b oldA oldB liveA liveB session role

theorem leaves_housed (housed : s.Housed) {after : RelayNet} {c : Nat} {connection : Connection}
    (hub : after.hub = s.hub.leave connection.sessionId)
    (seats : after.seats = s.seats.set c ⟨connection.sessionId, connection.role, none⟩) :
    after.Housed := by
  have room_old : ∀ sessionId room, after.hub.rooms sessionId = some room →
      s.hub.rooms sessionId = some room := by
    intro sessionId room found
    rw [hub] at found
    by_cases same : sessionId = connection.sessionId
    · subst same
      rw [RelayHub.leave_self] at found
      cases found
    · rwa [RelayHub.leave_other same] at found
  have next : after.hub.nextRoom = s.hub.nextRoom := by rw [hub]; rfl
  have seat_old : ∀ seat ∈ after.seats, ∀ ends, seat.held = some ends → seat ∈ s.seats := by
    intro seat member ends held
    rw [seats] at member
    rcases List.mem_or_eq_of_mem_set member with old | rfl
    · exact old
    · cases held
  refine ⟨?_, ?_, ?_, ?_, ?_⟩
  · intro sessionId room found
    rw [next]
    exact housed.known sessionId room (room_old _ _ found)
  · intro first second room other found foundOther equal
    exact housed.apart first second room other (room_old _ _ found) (room_old _ _ foundOther) equal
  · intro seat member ends held
    rw [next]
    exact housed.paired seat (seat_old seat member ends held) ends held
  · intro seat member ends room held found
    exact housed.here seat (seat_old seat member ends held) ends room held (room_old _ _ found)
  · intro i j a b foundA foundB liveA liveB session role
    rw [seats] at foundA foundB
    rcases getElem_set_cases foundA with ⟨_, rfl⟩ | oldA
    · cases liveA
    · rcases getElem_set_cases foundB with ⟨_, rfl⟩ | oldB
      · cases liveB
      · exact housed.alone i j a b oldA oldB liveA liveB session role

theorem enters_housed (housed : s.Housed) {after : RelayNet} {seat : Seat}
    (out : seat.held = none) (hub : after.hub = s.hub) (seats : after.seats = s.seats ++ [seat]) :
    after.Housed := by
  have seat_old : ∀ other ∈ after.seats, ∀ ends, other.held = some ends → other ∈ s.seats := by
    intro other member ends held
    rw [seats, List.mem_append, List.mem_singleton] at member
    rcases member with old | rfl
    · exact old
    · cases out.symm.trans held
  have index_old : ∀ (i : Nat) (a : Seat), after.seats[i]? = some a → a.held.isSome →
      s.seats[i]? = some a := by
    intro i a found live
    rw [seats] at found
    rcases Nat.lt_or_ge i s.seats.length with within | beyond
    · rwa [List.getElem?_append_left within] at found
    · rw [List.getElem?_append_right beyond, List.getElem?_singleton] at found
      split at found
      · cases found
        rw [out] at live
        cases live
      · cases found
  refine ⟨?_, ?_, ?_, ?_, ?_⟩
  · rw [hub]
    exact housed.known
  · rw [hub]
    exact housed.apart
  · intro other member ends held
    rw [hub]
    exact housed.paired other (seat_old other member ends held) ends held
  · intro other member ends room held found
    rw [hub] at found
    exact housed.here other (seat_old other member ends held) ends room held found
  · intro i j a b foundA foundB liveA liveB session role
    exact housed.alone i j a b (index_old i a foundA liveA) (index_old j b foundB liveB)
      liveA liveB session role

theorem step_housed (s : RelayNet) (event : RelayEvent) (housed : s.Housed)
    (noLeftover : s.NoLeftover event) : (s.step event).Housed := by
  cases step_seating s event with
  | quiet hub seats =>
      obtain ⟨known, apart, paired, here, alone⟩ := housed
      exact ⟨hub ▸ known, hub ▸ apart, hub ▸ seats ▸ paired, hub ▸ seats ▸ here, seats ▸ alone⟩
  | enters seat out hub seats => exact enters_housed housed out hub seats
  | joins c connection there upgraded free hub seats =>
      exact joins_housed housed there upgraded noLeftover free hub seats
  | leaves c connection there hub seats => exact leaves_housed housed hub seats

/-! ## Exclusive joins and local leaves -/

theorem Housed.rightStep (housed : s.Housed) {event : RelayEvent}
    (noLeftover : s.NoLeftover event) : s.RightStep event := by
  cases event with
  | joins c =>
      intro connection there upgraded succeeds other listed live session role
      obtain ⟨ends, held⟩ := Option.isSome_iff_exists.mp live
      have member : other.seat ∈ s.seats := mem_seats.mpr ⟨other, listed, rfl⟩
      have taken := (housed.neighbour there upgraded noLeftover member held session).2.2
      have sameRole : other.seat.role = connection.role := role
      rw [sameRole] at taken
      simp [RelayHub.join, taken] at succeeds
  | leaves c =>
      intro connection pump there joined leaving room found
      have held : connection.seat.held = some pump.ends := by
        simp [Connection.seat, Connection.held, joined, leaving]
      exact (housed.here connection.seat
        (mem_seats.mpr ⟨connection, List.mem_of_getElem? there, rfl⟩) pump.ends room held found).1
  | _ => trivial

/-- A connection that joins a session without a room gets one that is new. -/
theorem joins_new {c : Nat} {connection : Connection} (there : s.connections[c]? = some connection)
    (upgraded : connection.handler = .upgraded)
    (gone : s.hub.rooms connection.sessionId = none) :
    (s.joins c).hub.rooms connection.sessionId =
        some ((RelayRoom.new s.hub.nextRoom).takeRx connection.role) ∧
      ∀ d, d ≠ c → (s.joins c).connections[d]? = s.connections[d]? := by
  have room : s.hub.roomOf connection.sessionId = .new s.hub.nextRoom := by
    rw [RelayHub.roomOf, gone, Option.getD_none]
  simp only [joins, there, upgraded, RelayHub.join, room, RelayRoom.new_rx, if_true]
  refine ⟨RelayHub.insert_self _, fun d ne => ?_⟩
  exact List.getElem?_set_ne (Ne.symm ne)

/-- At the deadline, a live connection is about to leave. -/
theorem selects_leaving {d : Nat} {other : Connection} (there : s.connections[d]? = some other)
    (live : other.held.isSome) :
    ∃ connection pump, (s.selects d true).connections[d]? = some connection ∧
      connection.sessionId = other.sessionId ∧ connection.role = other.role ∧
      connection.handler = .joined pump ∧ pump.stage = .leaving ∧
      other.held = some pump.ends ∧ (s.selects d true).hub = s.hub := by
  cases joined : other.handler with
  | upgraded => simp [Connection.held, joined] at live
  | refused => simp [Connection.held, joined] at live
  | joined pump =>
      rw [selects, withPump_joined there joined]
      have held : other.held = if pump.stage = .left then none else some pump.ends := by
        simp only [Connection.held, joined]
      cases stage : pump.stage with
      | selecting =>
          rw [if_pos ⟨rfl, .inr (.inr rfl)⟩]
          refine ⟨{ other with handler := .joined { pump with stage := .leaving } }, _,
            ?_, rfl, rfl, rfl, rfl, ?_, rfl⟩
          · exact (getElem_setConnection there).trans (if_pos rfl)
          · simp [held, stage]
      | leaving =>
          rw [if_neg (by simp)]
          exact ⟨other, pump, there, rfl, rfl, joined, stage, by simp [held, stage], rfl⟩
      | left => simp [held, stage] at live

/-- A connection that joins while another one of the session has lost its room: the other
one's leave removes the new room. -/
theorem leftover_wrong (housed : s.Housed) {c d : Nat} {connection other : Connection}
    (there : s.connections[c]? = some connection) (upgraded : connection.handler = .upgraded)
    (gone : s.hub.rooms connection.sessionId = none)
    (otherThere : s.connections[d]? = some other) (live : other.held.isSome)
    (session : other.sessionId = connection.sessionId) :
    ¬ Along step RightStep s [.joins c, .selects d true, .leaves d] := by
  rintro ⟨_, _, leave, _⟩
  have ne : d ≠ c := by
    rintro rfl
    cases there.symm.trans otherThere
    simp [Connection.held, upgraded] at live
  obtain ⟨room, rest⟩ := joins_new there upgraded gone
  obtain ⟨closing, pump, found, closingSession, closingRole, joined, leaving, held, hub⟩ :=
    selects_leaving ((rest d ne).trans otherThere) live
  have wrong := leave closing pump found joined leaving
    ((RelayRoom.new s.hub.nextRoom).takeRx connection.role) (by
      rw [closingSession, session]
      exact (congrArg (fun hub : RelayHub => hub.rooms connection.sessionId) hub).trans room)
  obtain ⟨number, below, paired⟩ := housed.paired other.seat
    (mem_seats.mpr ⟨other, List.mem_of_getElem? otherThere, rfl⟩) pump.ends held
  rw [paired, RelayRoom.takeRx_room] at wrong
  have same : number = s.hub.nextRoom := endsOf_room wrong
  omega

/-- Whichever way connections close after a run, every step of it was right: joins are
exclusive and leaves are local. -/
def RightHowever (s : RelayNet) (events : List RelayEvent) : Prop :=
  ∀ before after closing, events = before ++ after → (∀ event ∈ closing, event.Closes) →
    Along step RightStep s (before ++ closing)

theorem rightHowever_of_noLeftover (housed : s.Housed) {events : List RelayEvent}
    (noLeftover : Along step NoLeftover s events) : s.RightHowever events := by
  intro before after closing split closes
  have closed : ∀ t : RelayNet, Along step NoLeftover t closing := by
    clear split
    induction closing with
    | nil => exact fun _ => trivial
    | cons event rest ih =>
        intro t
        refine ⟨?_, ih (fun later member => closes later (List.mem_cons_of_mem _ member)) _⟩
        rintro c connection rfl
        exact absurd (closes (.joins c) List.mem_cons_self) id
  subst split
  have along : Along step NoLeftover s (before ++ closing) :=
    along_append.mpr ⟨(along_append.mp noLeftover).1, closed _⟩
  clear noLeftover
  generalize before ++ closing = events at along
  induction events generalizing s with
  | nil => trivial
  | cons event rest ih =>
      exact ⟨housed.rightStep along.1, ih (step_housed s event housed along.1) along.2⟩

theorem noLeftover_of_rightHowever (housed : s.Housed) {events : List RelayEvent}
    (right : s.RightHowever events) : Along step NoLeftover s events := by
  induction events generalizing s with
  | nil => trivial
  | cons event rest ih =>
      have here : s.NoLeftover event := by
        rintro c connection rfl there upgraded gone other listed live session
        obtain ⟨d, otherThere⟩ := List.getElem?_of_mem listed
        refine leftover_wrong housed there upgraded gone otherThere live session ?_
        exact right [.joins c] rest [.selects d true, .leaves d] rfl (by simp [RelayEvent.Closes])
      refine ⟨here, ih (step_housed s event housed here) ?_⟩
      intro before after closing split closes
      exact (right (event :: before) after closing (by rw [split, List.cons_append]) closes).2

/-- In a run, followed by connections that close, joins are exclusive and leaves are local
exactly when no connection joins while one of its session has lost its room. -/
theorem rooms_iff (events : List RelayEvent) :
    new.RightHowever events ↔ Along step NoLeftover new events :=
  ⟨noLeftover_of_rightHowever new_housed, rightHowever_of_noLeftover new_housed⟩

end RelayNet

namespace Rejoined

open RelayNet

def laptop : DeviceId := ⟨"dev_laptop"⟩
def desktop : DeviceId := ⟨"dev_desktop"⟩
def session : SessionId := ⟨"sess_01J"⟩

/-- Both devices join; the laptop leaves, and the desktop connects again while its first
connection is still there. -/
def untilRejoin : List RelayEvent :=
  [.creates "01J" 0 0 ⟨"clip_1"⟩ laptop desktop none none,
    .upgrades 0 laptop session, .upgrades 0 desktop session, .joins 0, .joins 1,
    .sends 0 (.message .close), .reads 0, .selects 0 false, .leaves 0,
    .upgrades 0 desktop session]

/-- The new connection joins, and then the old one leaves. -/
def untilLeave : List RelayEvent :=
  untilRejoin ++ [.joins 2, .sends 1 (.message .close), .reads 1, .selects 1 false]

theorem recipient_twice :
    ¬ RightStep (runFrom step new untilRejoin) (.joins 2) ∧
      ¬ RightStep (runFrom step new untilLeave) (.leaves 1) := by
  constructor
  · intro exclusive
    have found : (runFrom step new untilRejoin).connections[2]? =
        some (.new desktop ⟨session, .recipient, 2147483648, 1800⟩) := by decide +kernel
    have again : ((runFrom step new untilRejoin).hub.join session .recipient).1.isSome ∧
        ∃ other ∈ (runFrom step new untilRejoin).connections, other.held.isSome ∧
          other.sessionId = session ∧ other.role = .recipient := by decide +kernel
    obtain ⟨succeeds, other, listed, live, sameSession, sameRole⟩ := again
    exact exclusive _ found rfl succeeds other listed live sameSession sameRole
  · intro ownRoom
    have found : (runFrom step new untilLeave).connections[1]? =
        some ⟨desktop, ⟨session, .recipient, 2147483648, 1800⟩,
          .joined ⟨endsOf 0 .recipient, .leaving, .ended, .receiving, 0, [], [], []⟩, [],
          [.close]⟩ := by decide +kernel
    have room : (runFrom step new untilLeave).hub.rooms session = some ⟨1, true, false⟩ := by
      decide +kernel
    exact absurd (ownRoom _ _ found rfl rfl _ room) (by decide)

end Rejoined

end AirPaste.Server
