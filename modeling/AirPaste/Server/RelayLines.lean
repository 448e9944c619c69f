/-
# Server.RelayLines — the relay when connections leave

Connections of a session may leave and come back, rooms be removed and created again, and a
connection may remove a room that is not its own.  Still each connection gets frames from
one other connection only, the one that was given the other ends of its room, and what it
gets is a prefix of what that one has sent (`relay_lines`).

`Rejoined.second_recipient` has two generations of connections in one session: the new
recipient gets what the new source sends, and nothing of what the first source sent.
-/
import AirPaste.Server.RelayFifo

namespace AirPaste.Server

open AirPaste.Core
open AirPaste.Theory

set_option autoImplicit false

namespace RelayNet

/-- What holds in every run. -/
structure Lined (s : RelayNet) : Prop where
  once : s.GivenOnce
  accounted : s.Accounted
  piped : s.Piped

theorem new_lined : new.Lined where
  once := new_givenOnce
  accounted := new_accounted
  piped := new_piped

theorem step_lined (s : RelayNet) (event : RelayEvent) (lined : s.Lined) :
    (s.step event).Lined where
  once := step_givenOnce s event lined.once
  accounted := step_accounted s event lined.accounted
  piped := step_piped_of_once s event lined.once lined.piped

theorem runs_lined (events : List RelayEvent) : (runFrom step new events).Lined :=
  run_preserves step_lined new_lined events

variable {s : RelayNet} {i : Nat} {connection : Connection} {pump : Pump}

/-- Who has pushed to the channel a connection receives from: the one in the other role of its
room. -/
theorem Lined.sender (lined : s.Lined) (there : s.connections[i]? = some connection)
    (joined : connection.handler = .joined pump) {item : Nat × RelayFrame}
    (member : item ∈ (s.channels pump.ends.outboundRx).pushed) :
    ∃ sender senderPump, s.connections[item.1]? = some sender ∧
      sender.handler = .joined senderPump ∧ senderPump.ends.peerTx = pump.ends.outboundRx ∧
      sender.sessionId = connection.sessionId ∧ sender.role = connection.role.opposite := by
  obtain ⟨sender, senderPump, senderThere, senderJoined, feeds⟩ :=
    lined.piped.owner _ item member
  obtain ⟨room, _, ends⟩ := lined.once.room there joined
  obtain ⟨other, _, senderEnds⟩ := lined.once.room senderThere senderJoined
  obtain ⟨placed, held⟩ := place_of_joined there joined
  obtain ⟨senderPlaced, senderHeld⟩ := place_of_joined senderThere senderJoined
  refine ⟨sender, senderPump, senderThere, senderJoined, feeds, ?_, ?_⟩
  · rw [ends] at feeds held
    rw [senderEnds] at feeds senderHeld
    have rooms : other = room := congrArg ChannelId.room feeds
    exact lined.once.mates _ senderPlaced _ placed room (rooms ▸ senderHeld) held
  · rw [ends, senderEnds] at feeds
    have roles : sender.role.opposite = connection.role := congrArg ChannelId.receiver feeds
    rw [← roles, RelayRole.opposite_opposite]

/-- A reader has handed on an initial part of what its client has sent. -/
theorem Lined.handed_prefix (lined : s.Lined) (there : s.connections[i]? = some connection)
    (joined : connection.handler = .joined pump) : pump.handed <+: payload connection.sent := by
  have metered := lined.accounted.metered connection (List.mem_of_getElem? there)
  have fits := metered.handed
  rw [metered.split]
  simp only [Connection.handed, Connection.received, joined] at fits ⊢
  rw [fits]
  exact (fitting_initial _ _ _).trans (List.prefix_append _ _)

/-- Items that all come from one sender are told by their frames. -/
theorem map_wire_of_sender {items : List (Nat × RelayFrame)} {j : Nat}
    (same : ∀ item ∈ items, item.1 = j) :
    items.map wire = ((items.map Prod.snd).map RelayFrame.message).map (Prod.mk j) := by
  rw [List.map_map, List.map_map]
  refine List.map_congr_left fun item member => ?_
  simp only [wire, same item member, Function.comp_apply]

/-- A connection that has got something has got it from one other connection of its session,
in the other role, and got a prefix of what that one has sent; and nobody else has got
anything of it. -/
theorem Lined.delivered_line (lined : s.Lined) (there : s.connections[i]? = some connection)
    (got : connection.delivered ≠ []) :
    ∃ j sender, s.connections[j]? = some sender ∧ sender.sessionId = connection.sessionId ∧
      sender.role = connection.role.opposite ∧
      connection.delivered <+: (payloadMessages sender.sent).map (Prod.mk j) ∧
      ∀ (k : Nat) (other : Connection), s.connections[k]? = some other →
        ∀ item ∈ other.delivered, item.1 = j → k = i := by
  cases handler : connection.handler with
  | upgraded => exact absurd (by rw [Connection.delivered, handler]) got
  | refused => exact absurd (by rw [Connection.delivered, handler]) got
  | joined pump =>
      have drawn : ∀ (k : Nat) (other : Connection) (otherPump : Pump),
          s.connections[k]? = some other → other.handler = .joined otherPump →
          other.delivered <+: (s.channels otherPump.ends.outboundRx).pushed.map wire := by
        intro k other otherPump found joined
        have first := (lined.piped.drawn k other otherPump found joined).first
        simp only [Connection.delivered, joined]
        exact (((List.prefix_append _ _).trans first).trans
          ((Channel.popped_prefix _).map wire))
      have here := drawn i connection pump there handler
      cases log : (s.channels pump.ends.outboundRx).pushed with
      | nil =>
          rw [log] at here
          exact absurd (List.prefix_nil.mp here) got
      | cons item rest =>
          obtain ⟨sender, senderPump, senderThere, senderJoined, feeds, session, role⟩ :=
            lined.sender there handler (log ▸ List.mem_cons_self)
          have alone : ∀ other ∈ (s.channels pump.ends.outboundRx).pushed, other.1 = item.1 := by
            intro other member
            obtain ⟨_, otherPump, otherThere, otherJoined, otherFeeds, _, _⟩ :=
              lined.sender there handler member
            exact lined.once.peerTx_injective otherThere otherJoined senderThere senderJoined
              (otherFeeds.trans feeds.symm)
          have fed := (lined.piped.fed item.1 sender senderPump senderThere senderJoined).first
          rw [feeds] at fed
          have sent : (s.channels pump.ends.outboundRx).pushed.map Prod.snd <+:
              payload sender.sent :=
            ((List.prefix_append _ _).trans fed).trans
              (lined.handed_prefix senderThere senderJoined)
          refine ⟨item.1, sender, senderThere, session, role, ?_, ?_⟩
          · rw [map_wire_of_sender alone] at here
            rw [payloadMessages_eq]
            exact here.trans ((sent.map RelayFrame.message).map _)
          · intro k other found received member same
            cases joined : other.handler with
            | upgraded => simp [Connection.delivered, joined] at member
            | refused => simp [Connection.delivered, joined] at member
            | joined otherPump =>
                obtain ⟨pushed, listed, wires⟩ := List.mem_map.mp
                  ((drawn k other otherPump found joined).subset member)
                obtain ⟨_, _, pusher, pusherJoined, pusherFeeds, _, _⟩ :=
                  lined.sender found joined listed
                have number : pushed.1 = item.1 := by
                  rw [← same, ← wires]
                  rfl
                rw [number] at pusher
                cases senderThere.symm.trans pusher
                cases senderJoined.symm.trans pusherJoined
                exact lined.once.outboundRx_injective found joined there handler
                  (pusherFeeds.symm.trans feeds)

/-- **In every run**, whoever leaves and whatever room is removed: a connection gets frames
from one other connection of its session only, in the other role; it gets a prefix of what
that one has sent, and it alone gets them. -/
theorem relay_lines (events : List RelayEvent) {i : Nat} {connection : Connection}
    (there : (runFrom step new events).connections[i]? = some connection)
    (got : connection.delivered ≠ []) :
    ∃ j sender, (runFrom step new events).connections[j]? = some sender ∧
      sender.sessionId = connection.sessionId ∧ sender.role = connection.role.opposite ∧
      connection.delivered <+: (payloadMessages sender.sent).map (Prod.mk j) ∧
      ∀ (k : Nat) (other : Connection), (runFrom step new events).connections[k]? = some other →
        ∀ item ∈ other.delivered, item.1 = j → k = i :=
  (runs_lined events).delivered_line there got

end RelayNet

namespace Rejoined

open RelayNet

/-- The laptop comes back as well and sends to the desktop's new connection, while the old one
removes the room they are in. -/
def untilDelivered : List RelayEvent :=
  untilRejoin ++ [.joins 2, .upgrades 0 laptop session, .joins 3,
    .sends 3 (.message (.text "again")), .reads 3, .forwards 3, .sends 1 (.message .close),
    .reads 1, .selects 1 false, .leaves 1, .receives 2, .delivers 2 true]

/-- Satisfiable pole: the new connection gets what the laptop sent on its own new one. -/
theorem second_recipient :
    ∃ j sender, (runFrom step new untilDelivered).connections[j]? = some sender ∧
      sender.sessionId = session ∧ sender.role = .source ∧
      [((3 : Nat), WsMessage.text "again")] <+:
        (payloadMessages sender.sent).map (Prod.mk j) ∧
      ∀ (k : Nat) (other : Connection),
        (runFrom step new untilDelivered).connections[k]? = some other →
          ∀ item ∈ other.delivered, item.1 = j → k = 2 := by
  have there : (runFrom step new untilDelivered).connections[2]? =
      some ⟨desktop, ⟨session, .recipient, 2147483648, 1800⟩,
        .joined ⟨endsOf 1 .recipient, .selecting, .reading, .receiving, 0, [], [],
          [(3, .text "again")]⟩, [], []⟩ := by decide +kernel
  exact relay_lines untilDelivered there (by simp [Connection.delivered])

end Rejoined

end AirPaste.Server
