/-
# Server.RelayEnds — the ends of a channel are given out once

`RelayHub::join` takes each receiver out of a room once, and rooms are numbered in turn, so
the ends a connection was given are never given to another one, whichever connections leave
and whichever rooms are removed and created again.

`PlaceStep` says what a step does to the hub and to the ends given out; `GivenOnce` is what
holds of them in every run (`step_givenOnce`), also where `Housed` does not.
-/
import AirPaste.Server.RelayBudget

namespace AirPaste.Server

open AirPaste.Core
open AirPaste.Theory

set_option autoImplicit false

/-- The ends a connection was given when it joined; it has them for good. -/
def Connection.ends (connection : Connection) : Option RelayEnds :=
  match connection.handler with
  | .joined pump => some pump.ends
  | _ => none

/-- A connection as far as its ends are concerned. -/
def Connection.place (connection : Connection) : Seat :=
  ⟨connection.sessionId, connection.role, connection.ends⟩

namespace RelayNet

def places (s : RelayNet) : List Seat := s.connections.map Connection.place

variable {s : RelayNet}

theorem getElem_places {c : Nat} {connection : Connection}
    (there : s.connections[c]? = some connection) : s.places[c]? = some connection.place := by
  simp only [places, List.getElem?_map, there, Option.map_some]

theorem setConnection_places (c : Nat) (connection : Connection) :
    (s.setConnection c connection).places = s.places.set c connection.place := by
  simp only [places, setConnection, List.map_set]

theorem setConnection_places_same {c : Nat} {found connection : Connection}
    (there : s.connections[c]? = some found) (same : connection.place = found.place) :
    (s.setConnection c connection).places = s.places := by
  obtain ⟨bound, here⟩ := List.getElem?_eq_some_iff.mp (getElem_places there)
  rw [setConnection_places, same, ← here]
  exact List.set_getElem_self bound

end RelayNet

/-- What a step can do to the hub and the ends given out. -/
inductive PlaceStep (s : RelayNet) (after : RelayNet) : Prop
  | quiet (hub : after.hub = s.hub) (places : after.places = s.places)
  | enters (place : Seat) (out : place.held = none) (hub : after.hub = s.hub)
      (places : after.places = s.places ++ [place])
  | joins (c : Nat) (sessionId : SessionId) (role : RelayRole)
      (free : (s.hub.roomOf sessionId).rx role = true)
      (hub : after.hub = s.hub.insert sessionId ((s.hub.roomOf sessionId).takeRx role))
      (places : after.places = s.places.set c
        ⟨sessionId, role, some (endsOf (s.hub.roomOf sessionId).room role)⟩)
  | leaves (sessionId : SessionId) (hub : after.hub = s.hub.leave sessionId)
      (places : after.places = s.places)

namespace RelayNet

variable {s : RelayNet}

/-- A pump that goes on with its ends keeps its place. -/
theorem setPump_places {c : Nat} {found connection : Connection} {before pump : Pump}
    (there : s.connections[c]? = some found) (joined : found.handler = .joined before)
    (admission : connection.admission = found.admission) (ends : pump.ends = before.ends) :
    (s.setPump c connection pump).places = s.places := by
  refine setConnection_places_same there ?_
  simp only [Connection.place, Connection.sessionId, Connection.role, Connection.ends, admission,
    joined, ends]

theorem setPump_placeStep {c : Nat} {found connection : Connection} {before pump : Pump}
    (there : s.connections[c]? = some found) (joined : found.handler = .joined before)
    (admission : connection.admission = found.admission) (ends : pump.ends = before.ends) :
    PlaceStep s (s.setPump c connection pump) :=
  .quiet rfl (setPump_places there joined admission ends)

theorem withPump_placeStep {c : Nat} {act : Connection → Pump → RelayNet}
    (moves : ∀ connection pump, s.connections[c]? = some connection →
      connection.handler = .joined pump → PlaceStep s (act connection pump)) :
    PlaceStep s (s.withPump c act) := by
  rcases withPump_cases c act with same | ⟨connection, pump, there, joined, acts⟩
  · exact same.symm ▸ .quiet rfl rfl
  · exact acts.symm ▸ moves connection pump there joined

theorem joins_placeStep (c : Nat) : PlaceStep s (s.joins c) := by
  unfold joins
  split
  · exact .quiet rfl rfl
  next connection there =>
      split
      next upgraded =>
          simp only [RelayHub.join]
          by_cases free : (s.hub.roomOf connection.sessionId).rx connection.role = true
          · simp only [if_pos free]
            exact .joins c connection.sessionId connection.role free rfl (setConnection_places c _)
          · simp only [if_neg free]
            have kept : s.hub.insert connection.sessionId (s.hub.roomOf connection.sessionId) =
                s.hub := RelayHub.insert_roomOf fun empty => by
              simp [RelayHub.roomOf, empty] at free
            rw [kept]
            refine .quiet rfl (setConnection_places_same there ?_)
            simp only [Connection.place, Connection.sessionId, Connection.role, Connection.ends,
              upgraded]
      · exact .quiet rfl rfl

/-- Every step is one of the steps of `PlaceStep`. -/
theorem step_placeStep (s : RelayNet) (event : RelayEvent) : PlaceStep s (s.step event) := by
  cases event with
  | creates ulid expiring created clipId source recipient maxBytes ttlSeconds =>
      simp only [step, creates]
      split
      · exact .quiet rfl rfl
      · exact .quiet rfl rfl
  | upgrades now requestDevice sessionId =>
      simp only [step, upgrades]
      split
      · exact .quiet rfl rfl
      next admission _ =>
          refine .enters (Connection.new requestDevice admission).place rfl rfl ?_
          simp only [places, List.map_append, List.map_cons, List.map_nil]
  | joins c => exact joins_placeStep c
  | sends c incoming =>
      simp only [step, sends]
      split
      · exact .quiet rfl rfl
      next connection there => exact .quiet rfl (setConnection_places_same there rfl)
  | reads c =>
      refine withPump_placeStep fun connection pump there joined => ?_
      split
      next incoming rest reading stream =>
          exact setPump_placeStep there joined rfl (takes_ends connection.maxBytes pump incoming).1
      · exact .quiet rfl rfl
  | forwards c =>
      refine withPump_placeStep fun connection pump there joined => ?_
      split
      · split
        · split
          · exact .quiet rfl rfl
          · exact .quiet rfl (setPump_places (s := s) there joined rfl rfl)
        · exact setPump_placeStep there joined rfl rfl
      · exact .quiet rfl rfl
  | receives c =>
      refine withPump_placeStep fun connection pump there joined => ?_
      split
      · split
        · exact .quiet rfl (setPump_places (s := s) there joined rfl rfl)
        · split
          · exact .quiet rfl rfl
          · exact setPump_placeStep there joined rfl rfl
      · exact .quiet rfl rfl
  | delivers c ok =>
      refine withPump_placeStep fun connection pump there joined => ?_
      split
      · split
        · exact setPump_placeStep there joined rfl rfl
        · exact setPump_placeStep there joined rfl rfl
      · exact .quiet rfl rfl
  | selects c ttl =>
      refine withPump_placeStep fun connection pump there joined => ?_
      split
      · exact setPump_placeStep there joined rfl rfl
      · exact .quiet rfl rfl
  | abortsReader c =>
      refine withPump_placeStep fun connection pump there joined => ?_
      split
      · exact .quiet rfl rfl
      · exact setPump_placeStep there joined rfl rfl
  | abortsWriter c =>
      refine withPump_placeStep fun connection pump there joined => ?_
      split
      · exact .quiet rfl rfl
      · exact setPump_placeStep there joined rfl rfl
  | leaves c =>
      refine withPump_placeStep fun connection pump there joined => ?_
      split
      · exact .leaves connection.sessionId rfl (setPump_places (s := s) there joined rfl rfl)
      · exact .quiet rfl rfl

/-! ## Given once -/

/-- Rooms are numbered in turn; the ends given out belong to rooms there have been, and while
a room is there, to its session and with their receiver taken; no two connections have the
same ends, and two with ends of one room are of one session. -/
structure GivenOnce (s : RelayNet) : Prop where
  known : ∀ sessionId room, s.hub.rooms sessionId = some room → room.room < s.hub.nextRoom
  apart : ∀ first second room other, s.hub.rooms first = some room →
    s.hub.rooms second = some other → room.room = other.room → first = second
  given : ∀ place ∈ s.places, ∀ ends, place.held = some ends →
    ∃ room, room < s.hub.nextRoom ∧ ends = endsOf room place.role
  taken : ∀ place ∈ s.places, ∀ sessionId room, s.hub.rooms sessionId = some room →
    place.held = some (endsOf room.room place.role) →
    place.sessionId = sessionId ∧ room.rx place.role = false
  alone : ∀ (i j : Nat) (a b : Seat), s.places[i]? = some a → s.places[j]? = some b →
    ∀ ends, a.held = some ends → b.held = some ends → i = j
  mates : ∀ a ∈ s.places, ∀ b ∈ s.places, ∀ room, a.held = some (endsOf room a.role) →
    b.held = some (endsOf room b.role) → a.sessionId = b.sessionId

theorem new_givenOnce : new.GivenOnce where
  known sessionId room there := by cases there
  apart first second room other there _ _ := by cases there
  given place member := by cases member
  taken place member := by cases member
  alone i j a b there := by cases there
  mates a member := by cases member

theorem endsOf_inj {room room' : Nat} {role role' : RelayRole}
    (same : endsOf room role = endsOf room' role') : room = room' ∧ role = role' :=
  ⟨endsOf_room same, congrArg (fun ends : RelayEnds => ends.outboundRx.receiver) same⟩

/-- The rooms alone are housed. -/
theorem GivenOnce.bare (once : s.GivenOnce) : ({ s with connections := [] } : RelayNet).Housed where
  known := once.known
  apart := once.apart
  paired seat member := by cases member
  here seat member := by cases member
  alone i j a b there := by cases there

/-- Whoever has ends of the room that a session gets is of that session, with the receiver
taken. -/
theorem GivenOnce.inRoomOf (once : s.GivenOnce) {place : Seat} (member : place ∈ s.places)
    {sessionId : SessionId}
    (held : place.held = some (endsOf (s.hub.roomOf sessionId).room place.role)) :
    place.sessionId = sessionId ∧ (s.hub.roomOf sessionId).rx place.role = false := by
  cases found : s.hub.rooms sessionId with
  | some room =>
      rw [RelayHub.roomOf, found, Option.getD_some] at held ⊢
      exact once.taken place member sessionId room found held
  | none =>
      obtain ⟨number, below, same⟩ := once.given place member _ held
      rw [RelayHub.roomOf, found, Option.getD_none] at same
      have number_eq : s.hub.nextRoom = number := endsOf_room same
      omega

section Joins

variable {after : RelayNet} {c : Nat} {sessionId : SessionId} {role : RelayRole}

theorem joins_givenOnce (once : s.GivenOnce) (free : (s.hub.roomOf sessionId).rx role = true)
    (hub : after.hub = s.hub.insert sessionId ((s.hub.roomOf sessionId).takeRx role))
    (places : after.places = s.places.set c
      ⟨sessionId, role, some (endsOf (s.hub.roomOf sessionId).room role)⟩) : after.GivenOnce := by
  -- who has ends of the room joined is its session's, in the other role
  have neighbour : ∀ place ∈ s.places, ∀ other,
      place.held = some (endsOf (s.hub.roomOf sessionId).room other) →
        other = place.role ∧ place.sessionId = sessionId ∧ place.role ≠ role ∧
          (s.hub.roomOf sessionId).rx place.role = false := by
    intro place member other held
    obtain ⟨number, _, same⟩ := once.given place member _ held
    obtain ⟨-, rfl⟩ := endsOf_inj same
    obtain ⟨session, gone⟩ := once.inRoomOf member held
    refine ⟨rfl, session, ?_, gone⟩
    intro own
    rw [own, free] at gone
    cases gone
  have next : s.hub.nextRoom ≤ after.hub.nextRoom := hub ▸ RelayHub.nextRoom_le_insert _
  have apart := once.bare.takes_apart hub
  refine ⟨once.bare.takes_known hub, apart, ?_, ?_, ?_, ?_⟩
  · intro place member ends held
    rw [places] at member
    rcases List.mem_or_eq_of_mem_set member with old | rfl
    · obtain ⟨room, below, same⟩ := once.given place old ends held
      exact ⟨room, Nat.lt_of_lt_of_le below next, same⟩
    · cases held
      exact ⟨_, hub ▸ RelayHub.roomOf_lt once.known _, rfl⟩
  · intro place member session room found held
    rw [places] at member
    rcases List.mem_or_eq_of_mem_set member with old | rfl
    · rw [hub] at found
      by_cases same : session = sessionId
      · subst same
        cases (RelayHub.insert_self _).symm.trans found
        rw [RelayRoom.takeRx_room] at held
        obtain ⟨-, own, -, gone⟩ := neighbour place old _ held
        exact ⟨own, RelayRoom.takeRx_rx gone⟩
      · rw [RelayHub.insert_other same] at found
        exact once.taken place old session room found held
    · have number : (s.hub.roomOf sessionId).room = room.room :=
        endsOf_room (Option.some.inj held)
      have own : sessionId = session := by
        refine apart sessionId session ((s.hub.roomOf sessionId).takeRx role) room ?_ found ?_
        · rw [hub]
          exact RelayHub.insert_self _
        · rw [RelayRoom.takeRx_room]
          exact number
      refine ⟨own, ?_⟩
      subst own
      rw [hub] at found
      cases (RelayHub.insert_self _).symm.trans found
      exact RelayRoom.takeRx_self _ _
  · intro i j a b foundA foundB ends heldA heldB
    rw [places] at foundA foundB
    rcases getElem_set_cases foundA with ⟨one, rfl⟩ | oldA
    · rcases getElem_set_cases foundB with ⟨two, rfl⟩ | oldB
      · exact one.trans two.symm
      · cases heldA
        obtain ⟨same, -, other, -⟩ := neighbour b (List.mem_of_getElem? oldB) _ heldB
        exact absurd same.symm other
    · rcases getElem_set_cases foundB with ⟨two, rfl⟩ | oldB
      · cases heldB
        obtain ⟨same, -, other, -⟩ := neighbour a (List.mem_of_getElem? oldA) _ heldA
        exact absurd same.symm other
      · exact once.alone i j a b oldA oldB ends heldA heldB
  · intro a memberA b memberB room heldA heldB
    rw [places] at memberA memberB
    rcases List.mem_or_eq_of_mem_set memberA with oldA | rfl
    · rcases List.mem_or_eq_of_mem_set memberB with oldB | rfl
      · exact once.mates a oldA b oldB room heldA heldB
      · rw [← endsOf_room (Option.some.inj heldB)] at heldA
        exact (neighbour a oldA _ heldA).2.1
    · rcases List.mem_or_eq_of_mem_set memberB with oldB | rfl
      · rw [← endsOf_room (Option.some.inj heldA)] at heldB
        exact (neighbour b oldB _ heldB).2.1.symm
      · rfl

end Joins

/-- A room that is removed is nobody's. -/
theorem leaves_givenOnce (once : s.GivenOnce) {after : RelayNet} {sessionId : SessionId}
    (hub : after.hub = s.hub.leave sessionId) (places : after.places = s.places) :
    after.GivenOnce := by
  have old : ∀ other room, after.hub.rooms other = some room →
      s.hub.rooms other = some room := by
    intro other room found
    rw [hub] at found
    by_cases same : other = sessionId
    · subst same
      rw [RelayHub.leave_self] at found
      cases found
    · rwa [RelayHub.leave_other same] at found
  have next : after.hub.nextRoom = s.hub.nextRoom := by
    rw [hub]
    rfl
  refine ⟨?_, ?_, ?_, ?_, ?_, ?_⟩
  · intro session room found
    rw [next]
    exact once.known session room (old session room found)
  · intro first second room other found foundToo
    exact once.apart first second room other (old first room found) (old second other foundToo)
  · rw [places, next]
    exact once.given
  · rw [places]
    intro place member session room found
    exact once.taken place member session room (old session room found)
  · rw [places]
    exact once.alone
  · rw [places]
    exact once.mates

/-- A connection that has just been admitted has no ends. -/
theorem enters_givenOnce (once : s.GivenOnce) {after : RelayNet} {place : Seat}
    (out : place.held = none) (hub : after.hub = s.hub)
    (places : after.places = s.places ++ [place]) : after.GivenOnce := by
  have old : ∀ other ∈ after.places, ∀ ends, other.held = some ends → other ∈ s.places := by
    intro other member ends held
    rw [places, List.mem_append, List.mem_singleton] at member
    rcases member with earlier | rfl
    · exact earlier
    · cases out.symm.trans held
  have index : ∀ (i : Nat) (a : Seat), after.places[i]? = some a → ∀ ends, a.held = some ends →
      s.places[i]? = some a := by
    intro i a found ends held
    rw [places] at found
    rcases Nat.lt_or_ge i s.places.length with within | beyond
    · rwa [List.getElem?_append_left within] at found
    · rw [List.getElem?_append_right beyond, List.getElem?_singleton] at found
      split at found
      · cases found
        cases out.symm.trans held
      · cases found
  refine ⟨hub ▸ once.known, hub ▸ once.apart, ?_, ?_, ?_, ?_⟩
  · rw [hub]
    intro other member ends held
    exact once.given other (old other member ends held) ends held
  · rw [hub]
    intro other member session room found held
    exact once.taken other (old other member _ held) session room found held
  · intro i j a b foundA foundB ends heldA heldB
    exact once.alone i j a b (index i a foundA ends heldA) (index j b foundB ends heldB) ends heldA
      heldB
  · intro a memberA b memberB room heldA heldB
    exact once.mates a (old a memberA _ heldA) b (old b memberB _ heldB) room heldA heldB

theorem step_givenOnce (s : RelayNet) (event : RelayEvent) (once : s.GivenOnce) :
    (s.step event).GivenOnce := by
  cases step_placeStep s event with
  | quiet hub places =>
      obtain ⟨known, apart, given, taken, alone, mates⟩ := once
      exact ⟨hub ▸ known, hub ▸ apart, hub ▸ places ▸ given, hub ▸ places ▸ taken,
        places ▸ alone, places ▸ mates⟩
  | enters place out hub places => exact enters_givenOnce once out hub places
  | joins c sessionId role free hub places => exact joins_givenOnce once free hub places
  | leaves sessionId hub places => exact leaves_givenOnce once hub places

/-! ## The ends of a connection -/

section Connections

variable {i j : Nat} {first second : Connection} {a b : Pump}

theorem place_of_joined (there : s.connections[i]? = some first)
    (joined : first.handler = .joined a) :
    first.place ∈ s.places ∧ first.place.held = some a.ends := by
  refine ⟨List.mem_of_getElem? (getElem_places there), ?_⟩
  simp only [Connection.place, Connection.ends, joined]

/-- The ends of a connection are those of its role in some room. -/
theorem GivenOnce.room (once : s.GivenOnce) (there : s.connections[i]? = some first)
    (joined : first.handler = .joined a) :
    ∃ room, room < s.hub.nextRoom ∧ a.ends = endsOf room first.role := by
  obtain ⟨member, held⟩ := place_of_joined there joined
  exact once.given first.place member a.ends held

/-- Two connections with the same ends are one. -/
theorem GivenOnce.same (once : s.GivenOnce) (there : s.connections[i]? = some first)
    (joined : first.handler = .joined a) (thereToo : s.connections[j]? = some second)
    (joinedToo : second.handler = .joined b) (ends : a.ends = b.ends) : i = j := by
  obtain ⟨_, heldA⟩ := place_of_joined there joined
  obtain ⟨_, heldB⟩ := place_of_joined thereToo joinedToo
  rw [ends] at heldA
  exact once.alone i j _ _ (getElem_places there) (getElem_places thereToo) b.ends heldA heldB

/-- No two connections feed one channel. -/
theorem GivenOnce.peerTx_injective (once : s.GivenOnce) (there : s.connections[i]? = some first)
    (joined : first.handler = .joined a) (thereToo : s.connections[j]? = some second)
    (joinedToo : second.handler = .joined b) (same : a.ends.peerTx = b.ends.peerTx) : i = j := by
  obtain ⟨room, _, endsA⟩ := once.room there joined
  obtain ⟨other, _, endsB⟩ := once.room thereToo joinedToo
  rw [endsA, endsB] at same
  have rooms : room = other := congrArg ChannelId.room same
  have roles : first.role.opposite = second.role.opposite := congrArg ChannelId.receiver same
  refine once.same there joined thereToo joinedToo ?_
  rw [endsA, endsB, rooms, ← first.role.opposite_opposite, roles, RelayRole.opposite_opposite]

/-- No two connections receive from one channel. -/
theorem GivenOnce.outboundRx_injective (once : s.GivenOnce)
    (there : s.connections[i]? = some first) (joined : first.handler = .joined a)
    (thereToo : s.connections[j]? = some second) (joinedToo : second.handler = .joined b)
    (same : a.ends.outboundRx = b.ends.outboundRx) : i = j := by
  obtain ⟨room, _, endsA⟩ := once.room there joined
  obtain ⟨other, _, endsB⟩ := once.room thereToo joinedToo
  rw [endsA, endsB] at same
  have rooms : room = other := congrArg ChannelId.room same
  have roles : first.role = second.role := congrArg ChannelId.receiver same
  refine once.same there joined thereToo joinedToo ?_
  rw [endsA, endsB, rooms, roles]

end Connections

end RelayNet

end AirPaste.Server
