/-
# Server.RelayPipe — the relay as one queue in each direction

As long as no connection has left, a session keeps its room, and each of its roles is held
by at most one connection (`Wired`).  Then what a client has sent is on its way through one
line of places: the socket, the reader's hand, the channel, the writer's hand, the peer
(`Piped`).

Channels have one sender and one receiver each, and a connection that joins finds its
channels as new: these two facts carry the line from one step to the next.  Both come from
ends being given out once, so the line holds also where connections leave
(`step_piped_of_once`).
-/
import AirPaste.Server.RelayEnds

namespace AirPaste.Server

open AirPaste.Core
open AirPaste.Theory

set_option autoImplicit false

namespace RelayNet

variable {s : RelayNet}

/-! ## Rooms that are never left -/

/-- A live connection has its session's room, and a receiver that is gone was taken by a
live connection. -/
structure Wired (s : RelayNet) : Prop where
  housed : s.Housed
  kept : ∀ seat ∈ s.seats, seat.held.isSome → s.hub.rooms seat.sessionId ≠ none
  taken : ∀ sessionId room role, s.hub.rooms sessionId = some room → room.rx role = false →
    ∃ seat ∈ s.seats, seat.held.isSome ∧ seat.sessionId = sessionId ∧ seat.role = role
  stays : ∀ connection ∈ s.connections, ∀ pump, connection.handler = .joined pump →
    pump.stage ≠ .left

theorem new_wired : new.Wired where
  housed := new_housed
  kept seat member := by cases member
  taken sessionId room role there := by cases there
  stays connection member := by cases member

theorem Wired.noLeftover (wired : s.Wired) (event : RelayEvent) : s.NoLeftover event := by
  intro c connection _ _ _ gone other listed live same
  have session : other.seat.sessionId = connection.sessionId := same
  refine wired.kept other.seat (mem_seats.mpr ⟨other, listed, rfl⟩) live ?_
  rw [session, gone]

theorem held_of_joined {connection : Connection} {pump : Pump}
    (joined : connection.handler = .joined pump) (stays : pump.stage ≠ .left) :
    connection.held = some pump.ends := by
  simp only [Connection.held, joined, if_neg stays]

theorem joined_of_held {connection : Connection} (live : connection.held.isSome) :
    ∃ pump, connection.handler = .joined pump := by
  cases joined : connection.handler with
  | joined pump => exact ⟨pump, rfl⟩
  | upgraded => simp [Connection.held, joined] at live
  | refused => simp [Connection.held, joined] at live

/-- A connection that has joined sits in its session's room. -/
theorem Wired.room (wired : s.Wired) {i : Nat} {connection : Connection} {pump : Pump}
    (there : s.connections[i]? = some connection) (joined : connection.handler = .joined pump) :
    ∃ room, s.hub.rooms connection.sessionId = some room ∧
      pump.ends = endsOf room.room connection.role ∧ room.rx connection.role = false ∧
      room.room < s.hub.nextRoom := by
  have member := List.mem_of_getElem? there
  have held := held_of_joined joined (wired.stays connection member pump joined)
  have seated : connection.seat ∈ s.seats := mem_seats.mpr ⟨connection, member, rfl⟩
  have live : connection.seat.held = some pump.ends := held
  obtain ⟨room, found⟩ := Option.ne_none_iff_exists'.mp
    (wired.kept connection.seat seated (live ▸ rfl))
  obtain ⟨ends, taken⟩ := wired.housed.here connection.seat seated pump.ends room live found
  exact ⟨room, found, ends, taken, wired.housed.known _ room found⟩

/-- Two connections of one session and role are one. -/
theorem Wired.alone (wired : s.Wired) {i j : Nat} {first second : Connection} {a b : Pump}
    (there : s.connections[i]? = some first) (joined : first.handler = .joined a)
    (thereToo : s.connections[j]? = some second) (joinedToo : second.handler = .joined b)
    (session : first.sessionId = second.sessionId) (role : first.role = second.role) : i = j := by
  have heldA := held_of_joined joined
    (wired.stays first (List.mem_of_getElem? there) a joined)
  have heldB := held_of_joined joinedToo
    (wired.stays second (List.mem_of_getElem? thereToo) b joinedToo)
  refine wired.housed.alone i j first.seat second.seat (getElem_seats there)
    (getElem_seats thereToo) ?_ ?_ session role
  · show first.held.isSome
    rw [heldA]
    rfl
  · show second.held.isSome
    rw [heldB]
    rfl

/-- No two connections receive from one channel. -/
theorem Wired.outboundRx_injective (wired : s.Wired) {i j : Nat} {first second : Connection}
    {a b : Pump} (there : s.connections[i]? = some first) (joined : first.handler = .joined a)
    (thereToo : s.connections[j]? = some second) (joinedToo : second.handler = .joined b)
    (same : a.ends.outboundRx = b.ends.outboundRx) : i = j := by
  obtain ⟨room, found, ends, _, _⟩ := wired.room there joined
  obtain ⟨other, foundToo, endsToo, _, _⟩ := wired.room thereToo joinedToo
  rw [ends, endsToo] at same
  have rooms : room.room = other.room := congrArg ChannelId.room same
  have roles : first.role = second.role := congrArg ChannelId.receiver same
  exact wired.alone there joined thereToo joinedToo
    (wired.housed.apart _ _ room other found foundToo rooms) roles

/-- Where connections have their rooms, the ends they were given are their own. -/
theorem Wired.once (wired : s.Wired) : s.GivenOnce := by
  have own : ∀ (i : Nat) (place : Seat) (ends : RelayEnds), s.places[i]? = some place →
      place.held = some ends → ∃ connection pump, s.connections[i]? = some connection ∧
        connection.place = place ∧ connection.handler = .joined pump ∧ pump.ends = ends := by
    intro i place ends found held
    simp only [places, List.getElem?_map, Option.map_eq_some_iff] at found
    obtain ⟨connection, there, rfl⟩ := found
    simp only [Connection.place, Connection.ends] at held
    split at held
    next pump joined => exact ⟨connection, pump, there, rfl, joined, Option.some.inj held⟩
    · cases held
  refine ⟨wired.housed.known, wired.housed.apart, ?_, ?_, ?_, ?_⟩
  · intro place member ends held
    obtain ⟨i, found⟩ := List.getElem?_of_mem member
    obtain ⟨connection, pump, there, rfl, joined, rfl⟩ := own i place ends found held
    obtain ⟨room, _, ends, _, below⟩ := wired.room there joined
    exact ⟨room.room, below, ends⟩
  · intro place member sessionId room found held
    obtain ⟨i, listed⟩ := List.getElem?_of_mem member
    obtain ⟨connection, pump, there, rfl, joined, ends⟩ := own i place _ listed held
    obtain ⟨ownRoom, ownFound, ownEnds, gone, _⟩ := wired.room there joined
    have session := wired.housed.apart _ _ ownRoom room ownFound found
      (endsOf_room (ownEnds.symm.trans ends))
    refine ⟨session, ?_⟩
    rw [session, found] at ownFound
    cases ownFound
    exact gone
  · intro i j a b foundA foundB ends heldA heldB
    obtain ⟨first, p, there, rfl, joined, endsA⟩ := own i a ends foundA heldA
    obtain ⟨second, q, thereToo, rfl, joinedToo, endsB⟩ := own j b ends foundB heldB
    exact wired.outboundRx_injective there joined thereToo joinedToo
      (congrArg RelayEnds.outboundRx (endsA.trans endsB.symm))
  · intro a memberA b memberB room heldA heldB
    obtain ⟨i, foundA⟩ := List.getElem?_of_mem memberA
    obtain ⟨j, foundB⟩ := List.getElem?_of_mem memberB
    obtain ⟨first, p, there, rfl, joined, endsA⟩ := own i a _ foundA heldA
    obtain ⟨second, q, thereToo, rfl, joinedToo, endsB⟩ := own j b _ foundB heldB
    obtain ⟨one, oneFound, oneEnds, _, _⟩ := wired.room there joined
    obtain ⟨two, twoFound, twoEnds, _, _⟩ := wired.room thereToo joinedToo
    refine wired.housed.apart _ _ one two oneFound twoFound ?_
    exact (endsOf_room (oneEnds.symm.trans endsA)).trans
      (endsOf_room (twoEnds.symm.trans endsB)).symm

/-- While none leaves, no handler that joined is out of its room. -/
theorem step_joinedStay (event : RelayEvent) (stays : event.Stays)
    (stage : ∀ connection ∈ s.connections, ∀ pump,
      connection.handler = .joined pump → pump.stage ≠ .left) :
    ∀ connection ∈ (s.step event).connections, ∀ pump,
      connection.handler = .joined pump → pump.stage ≠ .left := by
  intro connection member pump joined
  rcases (step_stirs s event).mem member with old | ⟨before, old, turn⟩ |
    ⟨now, device, sessionId, admission, _, rfl⟩
  · exact stage connection old pump joined
  · cases turn with
    | refused upgraded => cases joined
    | joined ends upgraded =>
        cases joined
        intro left
        cases left
    | sent incoming sends => exact stage before old pump joined
    | took found incoming rest wasJoined reading stream =>
        cases joined
        rw [(takes_ends _ _ _).2]
        exact stage before old found wasJoined
    | moved found later wasJoined forwarded received handed reader keeps =>
        cases joined
        exact fun left => stage before old found wasJoined (keeps stays left)
  · cases joined

section Joins

variable {after : RelayNet} {c : Nat} {connection : Connection}

/-- Whoever was live before a connection joins is still there. -/
theorem joins_live {ends : RelayEnds} (there : s.connections[c]? = some connection)
    (upgraded : connection.handler = .upgraded)
    (seats : after.seats = s.seats.set c ⟨connection.sessionId, connection.role, some ends⟩)
    {seat : Seat} (member : seat ∈ s.seats) (live : seat.held.isSome) : seat ∈ after.seats := by
  rw [seats]
  obtain ⟨i, found⟩ := List.getElem?_of_mem member
  have ne : c ≠ i := by
    rintro rfl
    cases (getElem_seats there).symm.trans found
    simp [Connection.seat, Connection.held, upgraded] at live
  exact List.mem_of_getElem? ((List.getElem?_set_ne ne).trans found)

theorem joins_kept (wired : s.Wired) {ends : RelayEnds}
    (hub : after.hub = s.hub.insert connection.sessionId
      ((s.hub.roomOf connection.sessionId).takeRx connection.role))
    (seats : after.seats = s.seats.set c ⟨connection.sessionId, connection.role, some ends⟩) :
    ∀ seat ∈ after.seats, seat.held.isSome → after.hub.rooms seat.sessionId ≠ none := by
  rw [hub, seats]
  intro seat member live
  by_cases same : seat.sessionId = connection.sessionId
  · rw [same, RelayHub.insert_self]
    simp
  · rw [RelayHub.insert_other same]
    rcases List.mem_or_eq_of_mem_set member with old | rfl
    · exact wired.kept seat old live
    · exact absurd rfl same

/-- A receiver that was taken is held by who joins, or by whoever held it before. -/
theorem joins_taken (wired : s.Wired) {ends : RelayEnds}
    (there : s.connections[c]? = some connection) (upgraded : connection.handler = .upgraded)
    (hub : after.hub = s.hub.insert connection.sessionId
      ((s.hub.roomOf connection.sessionId).takeRx connection.role))
    (seats : after.seats = s.seats.set c ⟨connection.sessionId, connection.role, some ends⟩)
    (sessionId : SessionId) (room : RelayRoom) (role : RelayRole)
    (found : after.hub.rooms sessionId = some room) (gone : room.rx role = false) :
    ∃ seat ∈ after.seats, seat.held.isSome ∧ seat.sessionId = sessionId ∧ seat.role = role := by
  have self : ⟨connection.sessionId, connection.role, some ends⟩ ∈ after.seats := by
    rw [seats]
    exact List.mem_set (List.getElem?_eq_some_iff.mp (getElem_seats there)).1 _
  rw [hub] at found
  by_cases same : sessionId = connection.sessionId
  · subst same
    rw [RelayHub.insert_self] at found
    cases found
    by_cases own : role = connection.role
    · exact ⟨_, self, rfl, rfl, own.symm⟩
    · have goneBefore : (s.hub.roomOf connection.sessionId).rx role = false :=
        RelayRoom.rx_of_takeRx (Ne.symm own) gone
      cases before : s.hub.rooms connection.sessionId with
      | none => simp [RelayHub.roomOf, before] at goneBefore
      | some old =>
          rw [RelayHub.roomOf, before, Option.getD_some] at goneBefore
          obtain ⟨seat, member, live, rest⟩ :=
            wired.taken connection.sessionId old role before goneBefore
          exact ⟨seat, joins_live there upgraded seats member live, live, rest⟩
  · rw [RelayHub.insert_other same] at found
    obtain ⟨seat, member, live, rest⟩ := wired.taken sessionId room role found gone
    exact ⟨seat, joins_live there upgraded seats member live, live, rest⟩

end Joins

theorem step_wired (s : RelayNet) (event : RelayEvent) (stays : event.Stays) (wired : s.Wired) :
    (s.step event).Wired := by
  have stage := step_joinedStay event stays wired.stays
  have housed := step_housed s event wired.housed (wired.noLeftover event)
  cases step_seating s event with
  | quiet hub seats =>
      refine ⟨housed, ?_, ?_, stage⟩
      · rw [hub, seats]
        exact wired.kept
      · rw [hub, seats]
        exact wired.taken
  | enters seat out hub seats =>
      refine ⟨housed, ?_, ?_, stage⟩
      · rw [hub, seats]
        intro other member live
        rw [List.mem_append, List.mem_singleton] at member
        rcases member with old | rfl
        · exact wired.kept other old live
        · rw [out] at live
          cases live
      · rw [hub, seats]
        intro sessionId room role found gone
        obtain ⟨other, member, rest⟩ := wired.taken sessionId room role found gone
        exact ⟨other, List.mem_append_left _ member, rest⟩
  | joins c connection there upgraded free hub seats =>
      exact ⟨housed, joins_kept wired hub seats, joins_taken wired there upgraded hub seats, stage⟩
  | leaves c connection there hub seats => exact absurd stays id

end RelayNet

/-! ## One line of places -/

/-- A frame as it goes out on a socket, with the number of its sender. -/
def wire (item : Nat × RelayFrame) : Nat × WsMessage := (item.1, item.2.message)

/-- What a reader has handed on is in the channel, or in its hand while it has not ended. -/
structure Fed (pushed : List (Nat × RelayFrame)) (pump : Pump) : Prop where
  first : pushed.map Prod.snd ++ pump.reader.hand <+: pump.handed
  all : pump.reader ≠ .ended → pushed.map Prod.snd ++ pump.reader.hand = pump.handed

/-- What a writer has taken from the channel is delivered, or in its hand while it has not
ended. -/
structure Drawn (popped : List (Nat × RelayFrame)) (pump : Pump) : Prop where
  first : pump.delivered ++ pump.writer.hand.map wire <+: popped.map wire
  all : pump.writer ≠ .ended → pump.delivered ++ pump.writer.hand.map wire = popped.map wire

theorem Fed.of_all {pushed : List (Nat × RelayFrame)} {pump : Pump}
    (all : pushed.map Prod.snd ++ pump.reader.hand = pump.handed) : Fed pushed pump :=
  ⟨all ▸ List.prefix_rfl, fun _ => all⟩

theorem Drawn.of_all {popped : List (Nat × RelayFrame)} {pump : Pump}
    (all : pump.delivered ++ pump.writer.hand.map wire = popped.map wire) : Drawn popped pump :=
  ⟨all ▸ List.prefix_rfl, fun _ => all⟩

/-- A reader that ends drops what it has in its hand. -/
theorem Fed.ended {pushed : List (Nat × RelayFrame)} {pump later : Pump} (fed : Fed pushed pump)
    (handed : later.handed = pump.handed) (ended : later.reader = .ended) : Fed pushed later where
  first := by
    rw [ended, handed]
    exact (List.prefix_append _ _).trans (by simpa [Reader.hand] using fed.first)
  all going := absurd ended going

theorem Drawn.ended {popped : List (Nat × RelayFrame)} {pump later : Pump}
    (drawn : Drawn popped pump) (delivered : later.delivered = pump.delivered)
    (ended : later.writer = .ended) : Drawn popped later where
  first := by
    rw [ended, delivered]
    exact (List.prefix_append _ _).trans (by simpa [Writer.hand] using drawn.first)
  all going := absurd ended going

namespace RelayNet

/-- The channels hold what the readers have handed on and the writers have not taken yet. -/
structure Piped (s : RelayNet) : Prop where
  owner : ∀ id, ∀ item ∈ (s.channels id).pushed, ∃ connection pump,
    s.connections[item.1]? = some connection ∧ connection.handler = .joined pump ∧
      pump.ends.peerTx = id
  fed : ∀ (i : Nat) (connection : Connection) (pump : Pump), s.connections[i]? = some connection →
    connection.handler = .joined pump → Fed (s.channels pump.ends.peerTx).pushed pump
  drawn : ∀ (i : Nat) (connection : Connection) (pump : Pump),
    s.connections[i]? = some connection → connection.handler = .joined pump →
    Drawn (s.channels pump.ends.outboundRx).popped pump
  untouched : ∀ id, s.hub.nextRoom ≤ id.room → (s.channels id).pushed = []
  unread : ∀ sessionId room role, s.hub.rooms sessionId = some room → room.rx role = true →
    (s.channels ⟨room.room, role⟩).popped = []

variable {s : RelayNet}

theorem new_piped : new.Piped where
  owner id item member := by cases member
  fed i connection pump there := by cases there
  drawn i connection pump there := by cases there
  untouched id _ := rfl
  unread sessionId room role there := by cases there

/-- One connection takes a turn, and the channels of the others stay as they are. -/
theorem Piped.turn (piped : s.Piped) {after : RelayNet} {c : Nat} {found later : Connection}
    (there : s.connections[c]? = some found)
    (connections : after.connections = s.connections.set c later)
    (keeps : ∀ pump, found.handler = .joined pump →
      ∃ next, later.handler = .joined next ∧ next.ends = pump.ends)
    (owned : ∀ id, ∀ item ∈ (after.channels id).pushed, item ∈ (s.channels id).pushed ∨
      (item.1 = c ∧ ∃ next, later.handler = .joined next ∧ next.ends.peerTx = id))
    (others : ∀ (i : Nat) (connection : Connection) (pump : Pump), i ≠ c →
      s.connections[i]? = some connection → connection.handler = .joined pump →
      (after.channels pump.ends.peerTx).pushed = (s.channels pump.ends.peerTx).pushed ∧
      (after.channels pump.ends.outboundRx).popped = (s.channels pump.ends.outboundRx).popped)
    (fits : ∀ next, later.handler = .joined next →
      Fed (after.channels next.ends.peerTx).pushed next ∧
      Drawn (after.channels next.ends.outboundRx).popped next)
    (untouched : ∀ id, after.hub.nextRoom ≤ id.room → (after.channels id).pushed = [])
    (unread : ∀ sessionId room role, after.hub.rooms sessionId = some room →
      room.rx role = true → (after.channels ⟨room.room, role⟩).popped = []) : after.Piped := by
  have bound : c < s.connections.length := (List.getElem?_eq_some_iff.mp there).1
  have self : after.connections[c]? = some later := by
    rw [connections]
    exact List.getElem?_set_self bound
  have rest : ∀ i, i ≠ c → after.connections[i]? = s.connections[i]? := by
    intro i ne
    rw [connections]
    exact List.getElem?_set_ne (Ne.symm ne)
  refine ⟨?_, ?_, ?_, untouched, unread⟩
  · intro id item member
    rcases owned id item member with old | ⟨here, next, joined, feeds⟩
    · obtain ⟨connection, pump, sender, joined, feeds⟩ := piped.owner id item old
      by_cases same : item.1 = c
      · rw [same] at sender
        cases there.symm.trans sender
        obtain ⟨next, joinedToo, ends⟩ := keeps pump joined
        exact ⟨later, next, same ▸ self, joinedToo, ends ▸ feeds⟩
      · exact ⟨connection, pump, (rest _ same).trans sender, joined, feeds⟩
    · exact ⟨later, next, here ▸ self, joined, feeds⟩
  · intro i connection pump found joined
    by_cases same : i = c
    · subst same
      cases self.symm.trans found
      exact (fits pump joined).1
    · rw [rest i same] at found
      rw [(others i connection pump same found joined).1]
      exact piped.fed i connection pump found joined
  · intro i connection pump found joined
    by_cases same : i = c
    · subst same
      cases self.symm.trans found
      exact (fits pump joined).2
    · rw [rest i same] at found
      rw [(others i connection pump same found joined).2]
      exact piped.drawn i connection pump found joined

/-- A pump takes a turn beside its channels. -/
theorem Piped.setPump (piped : s.Piped) {c : Nat} {found connection : Connection}
    {pump later : Pump} (there : s.connections[c]? = some found)
    (joined : found.handler = .joined pump) (ends : later.ends = pump.ends)
    (fed : Fed (s.channels pump.ends.peerTx).pushed pump →
      Fed (s.channels pump.ends.peerTx).pushed later)
    (drawn : Drawn (s.channels pump.ends.outboundRx).popped pump →
      Drawn (s.channels pump.ends.outboundRx).popped later) :
    (s.setPump c connection later).Piped := by
  refine piped.turn there rfl ?_ (fun _ _ member => .inl member)
    (fun _ _ _ _ _ _ => ⟨rfl, rfl⟩) ?_ piped.untouched piped.unread
  · intro found' same
    cases joined.symm.trans same
    exact ⟨later, rfl, ends⟩
  · rintro next ⟨⟩
    rw [ends]
    exact ⟨fed (piped.fed c found pump there joined), drawn (piped.drawn c found pump there joined)⟩

theorem setChannel_self (id : ChannelId)
    (channel : Channel (Nat × RelayFrame) relayQueueCapacity) :
    (s.setChannel id channel).channels id = channel := if_pos rfl

theorem setChannel_other {id other : ChannelId}
    {channel : Channel (Nat × RelayFrame) relayQueueCapacity} (ne : other ≠ id) :
    (s.setChannel id channel).channels other = s.channels other := if_neg ne

/-- The reader's frame goes from its hand to the channel. -/
theorem forwards_piped (once : s.GivenOnce) (piped : s.Piped) {c : Nat} {connection : Connection}
    {pump : Pump} {frame : RelayFrame}
    {channel : Channel (Nat × RelayFrame) relayQueueCapacity}
    (there : s.connections[c]? = some connection) (joined : connection.handler = .joined pump)
    (sending : pump.reader = .sending frame)
    (pushes : (s.channels pump.ends.peerTx).push (c, frame) = some channel) :
    ((s.setChannel pump.ends.peerTx channel).setPump c connection
      { pump with reader := .reading }).Piped := by
  obtain ⟨_, pushed, popped⟩ := Channel.push_some pushes
  have popped_same : ∀ id, ((s.setChannel pump.ends.peerTx channel).channels id).popped =
      (s.channels id).popped := by
    intro id
    by_cases same : id = pump.ends.peerTx
    · rw [same, setChannel_self, popped]
    · rw [setChannel_other same]
  refine piped.turn there rfl ?_ ?_ ?_ ?_ ?_ ?_
  · intro before same
    cases joined.symm.trans same
    exact ⟨_, rfl, rfl⟩
  · intro id item member
    have member : item ∈ ((s.setChannel pump.ends.peerTx channel).channels id).pushed := member
    by_cases same : id = pump.ends.peerTx
    · rw [same, setChannel_self, pushed, List.mem_append, List.mem_singleton] at member
      rcases member with old | rfl
      · exact .inl (same ▸ old)
      · exact .inr ⟨rfl, _, rfl, same.symm⟩
    · rw [setChannel_other same] at member
      exact .inl member
  · intro i other otherPump ne found otherJoined
    refine ⟨?_, popped_same _⟩
    show ((s.setChannel pump.ends.peerTx channel).channels otherPump.ends.peerTx).pushed = _
    rw [setChannel_other]
    exact fun same => ne (once.peerTx_injective found otherJoined there joined same)
  · rintro next ⟨⟩
    constructor
    · refine .of_all ?_
      show ((s.setChannel pump.ends.peerTx channel).channels
        pump.ends.peerTx).pushed.map _ ++ [] = _
      have all := (piped.fed c connection pump there joined).all (by simp [sending])
      rw [sending, Reader.hand_sending] at all
      rw [setChannel_self, pushed, List.map_append, List.append_nil]
      exact all
    · have drawn := piped.drawn c connection pump there joined
      rw [← popped_same] at drawn
      exact ⟨drawn.first, drawn.all⟩
  · intro id beyond
    obtain ⟨room, below, ends⟩ := once.room there joined
    have other : id ≠ pump.ends.peerTx := by
      rintro rfl
      rw [ends] at beyond
      exact absurd below (Nat.not_lt.mpr beyond)
    show ((s.setChannel pump.ends.peerTx channel).channels id).pushed = []
    rw [setChannel_other other]
    exact piped.untouched id beyond
  · intro sessionId room role found free
    exact (popped_same _).trans (piped.unread sessionId room role found free)

/-- The oldest frame goes from the channel to the writer's hand. -/
theorem receives_piped (once : s.GivenOnce) (piped : s.Piped) {c : Nat} {connection : Connection}
    {pump : Pump} {item : Nat × RelayFrame}
    {channel : Channel (Nat × RelayFrame) relayQueueCapacity}
    (there : s.connections[c]? = some connection) (joined : connection.handler = .joined pump)
    (receiving : pump.writer = .receiving)
    (pops : (s.channels pump.ends.outboundRx).pop = some (item, channel)) :
    ((s.setChannel pump.ends.outboundRx channel).setPump c connection
      { pump with writer := .sending item }).Piped := by
  obtain ⟨_, pushed, popped⟩ := Channel.pop_some pops
  have pushed_same : ∀ id, ((s.setChannel pump.ends.outboundRx channel).channels id).pushed =
      (s.channels id).pushed := by
    intro id
    by_cases same : id = pump.ends.outboundRx
    · rw [same, setChannel_self, pushed]
    · rw [setChannel_other same]
  refine piped.turn there rfl ?_ ?_ ?_ ?_ ?_ ?_
  · intro before same
    cases joined.symm.trans same
    exact ⟨_, rfl, rfl⟩
  · intro id other member
    exact .inl ((pushed_same id) ▸ member)
  · intro i other otherPump ne found otherJoined
    refine ⟨pushed_same _, ?_⟩
    show ((s.setChannel pump.ends.outboundRx channel).channels otherPump.ends.outboundRx).popped = _
    rw [setChannel_other]
    exact fun same => ne (once.outboundRx_injective found otherJoined there joined same)
  · rintro next ⟨⟩
    constructor
    · have fed := piped.fed c connection pump there joined
      rw [← pushed_same] at fed
      exact ⟨fed.first, fed.all⟩
    · refine .of_all ?_
      show pump.delivered ++ [wire item] =
        ((s.setChannel pump.ends.outboundRx channel).channels pump.ends.outboundRx).popped.map wire
      have all := (piped.drawn c connection pump there joined).all (by simp [receiving])
      rw [receiving, Writer.hand_receiving, List.map_nil, List.append_nil] at all
      rw [setChannel_self, popped, List.map_append, ← all]
      rfl
  · intro id beyond
    exact (pushed_same id).trans (piped.untouched id beyond)
  · intro sessionId room role found free
    have found : s.hub.rooms sessionId = some room := found
    obtain ⟨own, _, ends⟩ := once.room there joined
    obtain ⟨member, held⟩ := place_of_joined there joined
    have other : (⟨room.room, role⟩ : ChannelId) ≠ pump.ends.outboundRx := by
      intro same
      rw [ends] at same held
      have rooms : room.room = own := congrArg ChannelId.room same
      have roles : role = connection.role := congrArg ChannelId.receiver same
      have gone := (once.taken connection.place member sessionId room found (rooms ▸ held)).2
      rw [show connection.place.role = role from roles.symm, free] at gone
      cases gone
    show ((s.setChannel pump.ends.outboundRx channel).channels ⟨room.room, role⟩).popped = []
    rw [setChannel_other other]
    exact piped.unread sessionId room role found free

/-- A channel whose receiver is still in the room has given out nothing. -/
theorem Piped.free_unread (piped : s.Piped) {sessionId : SessionId} {role : RelayRole}
    (free : (s.hub.roomOf sessionId).rx role = true) :
    (s.channels ⟨(s.hub.roomOf sessionId).room, role⟩).popped = [] := by
  cases found : s.hub.rooms sessionId with
  | some room =>
      rw [RelayHub.roomOf, found, Option.getD_some] at free ⊢
      exact piped.unread sessionId room role found free
  | none =>
      rw [RelayHub.roomOf, found, Option.getD_none]
      have pushed := piped.untouched ⟨s.hub.nextRoom, role⟩ (Nat.le_refl _)
      exact List.prefix_nil.mp (pushed ▸ Channel.popped_prefix _)

/-- Nobody feeds the channel of a role whose own receiver is still in the room. -/
theorem Piped.free_unfed (once : s.GivenOnce) (piped : s.Piped) {sessionId : SessionId}
    {role : RelayRole} (free : (s.hub.roomOf sessionId).rx role = true) :
    (s.channels ⟨(s.hub.roomOf sessionId).room, role.opposite⟩).pushed = [] := by
  refine List.eq_nil_iff_forall_not_mem.mpr fun item member => ?_
  obtain ⟨sender, pump, there, joined, feeds⟩ := piped.owner _ item member
  obtain ⟨room, _, ends⟩ := once.room there joined
  obtain ⟨listed, held⟩ := place_of_joined there joined
  rw [ends] at feeds held
  have rooms : room = (s.hub.roomOf sessionId).room := congrArg ChannelId.room feeds
  have roles : sender.role.opposite = role.opposite := congrArg ChannelId.receiver feeds
  have role_eq : sender.role = role := by
    rw [← sender.role.opposite_opposite, roles, RelayRole.opposite_opposite]
  have gone := (once.inRoomOf listed (rooms ▸ held)).2
  rw [show sender.place.role = role from role_eq, free] at gone
  cases gone

/-- A connection that joins finds its channels as new. -/
theorem joins_piped (once : s.GivenOnce) (piped : s.Piped) (c : Nat) : (s.joins c).Piped := by
  unfold joins
  split
  · exact piped
  next connection there =>
      split
      next upgraded =>
          have notJoined : ∀ pump, connection.handler ≠ .joined pump := by simp [upgraded]
          simp only [RelayHub.join]
          by_cases free : (s.hub.roomOf connection.sessionId).rx connection.role = true
          · simp only [if_pos free]
            refine piped.turn there rfl (fun pump joined => absurd joined (notJoined pump))
              (fun _ _ member => .inl member) (fun _ _ _ _ _ _ => ⟨rfl, rfl⟩) ?_ ?_ ?_
            · rintro next ⟨⟩
              constructor
              · refine .of_all ?_
                show (s.channels ⟨_, connection.role.opposite⟩).pushed.map _ ++ [] = []
                rw [Piped.free_unfed once piped free]
                rfl
              · refine .of_all ?_
                show [] ++ [] = (s.channels ⟨_, connection.role⟩).popped.map wire
                rw [piped.free_unread free]
                rfl
            · intro id beyond
              exact piped.untouched id (Nat.le_trans (RelayHub.nextRoom_le_insert _) beyond)
            · intro sessionId room role found freeToo
              have found : (s.hub.insert connection.sessionId
                ((s.hub.roomOf connection.sessionId).takeRx connection.role)).rooms sessionId =
                  some room := found
              by_cases same : sessionId = connection.sessionId
              · subst same
                rw [RelayHub.insert_self] at found
                cases found
                have other : connection.role ≠ role := by
                  rintro rfl
                  rw [RelayRoom.takeRx_self] at freeToo
                  cases freeToo
                have before : (s.hub.roomOf connection.sessionId).rx role = true := by
                  cases rx : (s.hub.roomOf connection.sessionId).rx role with
                  | true => rfl
                  | false =>
                      rw [RelayRoom.takeRx_rx rx] at freeToo
                      cases freeToo
                rw [RelayRoom.takeRx_room]
                exact piped.free_unread before
              · rw [RelayHub.insert_other same] at found
                exact piped.unread sessionId room role found freeToo
          · simp only [if_neg free]
            have kept : s.hub.insert connection.sessionId (s.hub.roomOf connection.sessionId) =
                s.hub := RelayHub.insert_roomOf fun empty => by
              simp [RelayHub.roomOf, empty] at free
            rw [kept]
            exact piped.turn there rfl (fun pump joined => absurd joined (notJoined pump))
              (fun _ _ member => .inl member) (fun _ _ _ _ _ _ => ⟨rfl, rfl⟩) (by rintro next ⟨⟩)
              piped.untouched piped.unread
      · exact piped

/-- A connection that has just been admitted has no channels yet. -/
theorem upgrades_piped (piped : s.Piped) (requestDevice : DeviceId) (admission : Admission) :
    ({ s with connections := s.connections ++ [.new requestDevice admission] } : RelayNet).Piped
    := by
  have old : ∀ (i : Nat) (connection : Connection) (pump : Pump),
      (s.connections ++ [Connection.new requestDevice admission])[i]? = some connection →
      connection.handler = .joined pump → s.connections[i]? = some connection := by
    intro i connection pump found joined
    rcases Nat.lt_or_ge i s.connections.length with within | beyond
    · rwa [List.getElem?_append_left within] at found
    · rw [List.getElem?_append_right beyond, List.getElem?_singleton] at found
      split at found
      · cases found
        cases joined
      · cases found
  refine ⟨?_, ?_, ?_, piped.untouched, piped.unread⟩
  · intro id item member
    obtain ⟨connection, pump, there, rest⟩ := piped.owner id item member
    have bound := (List.getElem?_eq_some_iff.mp there).1
    exact ⟨connection, pump, (List.getElem?_append_left bound).trans there, rest⟩
  · intro i connection pump found joined
    exact piped.fed i connection pump (old i connection pump found joined) joined
  · intro i connection pump found joined
    exact piped.drawn i connection pump (old i connection pump found joined) joined

theorem withPump_piped (piped : s.Piped) {c : Nat} {act : Connection → Pump → RelayNet}
    (moves : ∀ connection pump, s.connections[c]? = some connection →
      connection.handler = .joined pump → (act connection pump).Piped) :
    (s.withPump c act).Piped := by
  rcases withPump_cases c act with same | ⟨connection, pump, there, joined, acts⟩
  · rw [same]
    exact piped
  · rw [acts]
    exact moves connection pump there joined

theorem reads_piped (piped : s.Piped) (c : Nat) : (s.reads c).Piped := by
  refine withPump_piped piped fun connection pump there joined => ?_
  split
  next incoming rest reading stream =>
      have ends := (takes_ends connection.maxBytes pump incoming).1
      refine piped.setPump there joined ends (fun fed => ?_) (fun drawn => ?_)
      · rcases takes_cases connection.maxBytes pump incoming with ⟨frame, _, counts⟩ | ⟨_, same⟩
        · rw [counts]
          have all := fed.all (by simp [reading])
          rw [reading, Reader.hand_reading, List.append_nil] at all
          simp only [Pump.counts]
          split
          · exact fed.ended rfl rfl
          · exact .of_all (congrArg (· ++ [frame]) all)
        · rcases same with same | same
          · rw [same]
            exact fed
          · rw [same]
            exact fed.ended rfl rfl
      · have same : (pump.takes connection.maxBytes incoming).delivered = pump.delivered ∧
            (pump.takes connection.maxBytes incoming).writer = pump.writer := by
          rcases takes_cases connection.maxBytes pump incoming with ⟨frame, _, counts⟩ | ⟨_, same⟩
          · rw [counts]
            simp only [Pump.counts]
            split
            · exact ⟨rfl, rfl⟩
            · exact ⟨rfl, rfl⟩
          · rcases same with same | same
            · rw [same]
              exact ⟨rfl, rfl⟩
            · rw [same]
              exact ⟨rfl, rfl⟩
        refine ⟨?_, fun going => ?_⟩
        · rw [same.1, same.2]
          exact drawn.first
        · rw [same.1, same.2]
          exact drawn.all (same.2 ▸ going)
  · exact piped

theorem delivers_piped (piped : s.Piped) (c : Nat) (ok : Bool) : (s.delivers c ok).Piped := by
  refine withPump_piped piped fun connection pump there joined => ?_
  split
  next item sending =>
      split
      · refine piped.setPump there joined rfl (fun fed => ⟨fed.first, fed.all⟩) (fun drawn => ?_)
        have all := drawn.all (by simp [sending])
        rw [sending, Writer.hand_sending] at all
        refine .of_all ?_
        show pump.delivered ++ [wire item] ++ [] = _
        rw [List.append_nil]
        exact all
      · exact piped.setPump there joined rfl (fun fed => ⟨fed.first, fed.all⟩)
          (fun drawn => drawn.ended rfl rfl)
  · exact piped

theorem leaves_piped (piped : s.Piped) (c : Nat) : (s.leaves c).Piped := by
  refine withPump_piped piped fun connection pump there joined => ?_
  split
  next leaving =>
      refine piped.turn there rfl ?_ (fun _ _ member => .inl member)
        (fun _ _ _ _ _ _ => ⟨rfl, rfl⟩) ?_ piped.untouched ?_
      · intro before same
        cases joined.symm.trans same
        exact ⟨_, rfl, rfl⟩
      · rintro next ⟨⟩
        have fed := piped.fed c connection pump there joined
        have drawn := piped.drawn c connection pump there joined
        exact ⟨⟨fed.first, fed.all⟩, ⟨drawn.first, drawn.all⟩⟩
      · intro sessionId room role found free
        refine piped.unread sessionId room role ?_ free
        by_cases same : sessionId = connection.sessionId
        · subst same
          have gone : (s.hub.leave connection.sessionId).rooms connection.sessionId = none :=
            RelayHub.leave_self
          cases gone.symm.trans found
        · exact (RelayHub.leave_other same).symm.trans found
  · exact piped

/-- The line holds in every run, whoever leaves. -/
theorem step_piped_of_once (s : RelayNet) (event : RelayEvent) (once : s.GivenOnce)
    (piped : s.Piped) : (s.step event).Piped := by
  cases event with
  | creates ulid expiring created clipId source recipient maxBytes ttlSeconds =>
      simp only [step, creates]
      split
      · exact piped
      · exact ⟨piped.owner, piped.fed, piped.drawn, piped.untouched, piped.unread⟩
  | upgrades now requestDevice sessionId =>
      simp only [step, upgrades]
      split
      · exact piped
      next admission _ => exact upgrades_piped piped requestDevice admission
  | joins c => exact joins_piped once piped c
  | sends c incoming =>
      simp only [step, sends]
      split
      · exact piped
      next connection there =>
          refine piped.turn there rfl (fun pump joined => ⟨pump, joined, rfl⟩)
            (fun _ _ member => .inl member) (fun _ _ _ _ _ _ => ⟨rfl, rfl⟩) ?_ piped.untouched
            piped.unread
          intro pump joined
          exact ⟨piped.fed c connection pump there joined,
            piped.drawn c connection pump there joined⟩
  | reads c => exact reads_piped piped c
  | forwards c =>
      refine withPump_piped piped fun connection pump there joined => ?_
      split
      next frame sending =>
          split
          · split
            · exact piped
            next channel pushes => exact forwards_piped once piped there joined sending pushes
          · exact piped.setPump there joined rfl (fun fed => fed.ended rfl rfl)
              (fun drawn => ⟨drawn.first, drawn.all⟩)
      · exact piped
  | receives c =>
      refine withPump_piped piped fun connection pump there joined => ?_
      split
      next receiving =>
          split
          next item channel pops => exact receives_piped once piped there joined receiving pops
          · split
            · exact piped
            · exact piped.setPump there joined rfl (fun fed => ⟨fed.first, fed.all⟩)
                (fun drawn => drawn.ended rfl rfl)
      · exact piped
  | delivers c ok => exact delivers_piped piped c ok
  | selects c ttl =>
      refine withPump_piped piped fun connection pump there joined => ?_
      split
      · exact piped.setPump there joined rfl (fun fed => ⟨fed.first, fed.all⟩)
          (fun drawn => ⟨drawn.first, drawn.all⟩)
      · exact piped
  | abortsReader c =>
      refine withPump_piped piped fun connection pump there joined => ?_
      split
      · exact piped
      · exact piped.setPump there joined rfl (fun fed => fed.ended rfl rfl)
          (fun drawn => ⟨drawn.first, drawn.all⟩)
  | abortsWriter c =>
      refine withPump_piped piped fun connection pump there joined => ?_
      split
      · exact piped
      · exact piped.setPump there joined rfl (fun fed => ⟨fed.first, fed.all⟩)
          (fun drawn => drawn.ended rfl rfl)
  | leaves c => exact leaves_piped piped c

theorem step_piped (s : RelayNet) (event : RelayEvent) (_ : event.Stays) (wired : s.Wired)
    (piped : s.Piped) : (s.step event).Piped :=
  step_piped_of_once s event wired.once piped

end RelayNet

end AirPaste.Server
