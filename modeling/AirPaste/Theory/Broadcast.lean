/-
# Theory.Broadcast — a broadcast channel with a ring of bounded length

A broadcast channel appends what is sent to a log.  A receiver is a place in the log: it is
created at the end and moves on as it receives, and when more than the capacity waits for
it, it has lagged and skips to the oldest item that is still kept.  A receiver that does not
lag receives the log from its place on, in order: `waiting` is what it has before it, which
a send extends (`waiting_send`) and a receive shortens (`recv_event`).
-/
import Mathlib.Data.List.Basic

namespace AirPaste.Theory

set_option autoImplicit false

structure Broadcast (α : Type) where
  log : List α
  deriving DecidableEq

/-- What a receiver finds. -/
inductive Recv (α : Type) where
  | empty
  | event (item : α) (next : Nat)
  | lagged (skipped next : Nat)
  deriving DecidableEq

namespace Broadcast

variable {α : Type}

def new : Broadcast α := ⟨[]⟩

def send (channel : Broadcast α) (item : α) : Broadcast α := ⟨channel.log ++ [item]⟩

/-- A new receiver. -/
def subscribe (channel : Broadcast α) : Nat := channel.log.length

/-- What a receiver has before it. -/
def waiting (channel : Broadcast α) (next : Nat) : List α := channel.log.drop next

def recv (capacity : Nat) (channel : Broadcast α) (next : Nat) : Recv α :=
  if next + capacity < channel.log.length then
    .lagged (channel.log.length - capacity - next) (channel.log.length - capacity)
  else
    match channel.log[next]? with
    | none => .empty
    | some item => .event item (next + 1)

variable {channel : Broadcast α} {capacity next later : Nat} {item : α}

@[simp] theorem waiting_subscribe : channel.waiting channel.subscribe = [] :=
  List.drop_length

theorem waiting_send (bound : next ≤ channel.log.length) :
    (channel.send item).waiting next = channel.waiting next ++ [item] :=
  List.drop_append_of_le_length bound

theorem length_le_send : channel.log.length ≤ (channel.send item).log.length := by
  rw [send, List.length_append]
  exact Nat.le_add_right _ _

theorem recv_event (received : channel.recv capacity next = .event item later) :
    channel.waiting next = item :: channel.waiting later ∧ later ≤ channel.log.length := by
  unfold recv at received
  split at received
  · cases received
  · split at received
    · cases received
    next found =>
        cases received
        have bound : next < channel.log.length := (List.getElem?_eq_some_iff.mp found).1
        have here := List.drop_eq_getElem_cons bound
        rw [(List.getElem?_eq_some_iff.mp found).2] at here
        exact ⟨here, bound⟩

theorem recv_lagged_iff :
    (∃ skipped later, channel.recv capacity next = .lagged skipped later) ↔
      next + capacity < channel.log.length := by
  unfold recv
  split
  next behind => exact iff_of_true ⟨_, _, rfl⟩ behind
  next keeps =>
      refine iff_of_false ?_ keeps
      rintro ⟨skipped, later, same⟩
      split at same
      · cases same
      · cases same

/-! ## What a receiver has received -/

/-- A receiver that was created at `start` and stands at `next` has received no more than what
was sent in between, in order. -/
structure Received (channel : Broadcast α) (start next : Nat) (items : List α) : Prop where
  le : start ≤ next
  bound : next ≤ channel.log.length
  among : items.Sublist ((channel.log.take next).drop start)

/-- And no less. -/
structure ReceivedAll (channel : Broadcast α) (start next : Nat) (items : List α) : Prop where
  le : start ≤ next
  bound : next ≤ channel.log.length
  all : items = (channel.log.take next).drop start

variable {start : Nat} {items : List α}

theorem Received.send (received : channel.Received start next items) :
    (channel.send item).Received start next items where
  le := received.le
  bound := Nat.le_trans received.bound length_le_send
  among := by
    rw [Broadcast.send, List.take_append_of_le_length received.bound]
    exact received.among

theorem ReceivedAll.send (received : channel.ReceivedAll start next items) :
    (channel.send item).ReceivedAll start next items where
  le := received.le
  bound := Nat.le_trans received.bound length_le_send
  all := by
    rw [Broadcast.send, List.take_append_of_le_length received.bound]
    exact received.all

/-- The item received is the one at the receiver's place. -/
theorem recv_event_get (received : channel.recv capacity next = .event item later) :
    channel.log[next]? = some item ∧ later = next + 1 := by
  unfold recv at received
  split at received
  · cases received
  · split at received
    · cases received
    · rename_i found
      cases received
      exact ⟨found, rfl⟩

theorem take_drop_succ {log : List α} (le : start ≤ next) (found : log[next]? = some item) :
    (log.take (next + 1)).drop start = (log.take next).drop start ++ [item] := by
  obtain ⟨bound, same⟩ := List.getElem?_eq_some_iff.mp found
  rw [List.take_succ_eq_append_getElem bound, same, List.drop_append_of_le_length]
  rw [List.length_take]
  omega

theorem Received.event (received : channel.Received start next items)
    (event : channel.recv capacity next = .event item later) :
    channel.Received start later (items ++ [item]) := by
  obtain ⟨found, rfl⟩ := recv_event_get event
  refine ⟨Nat.le_succ_of_le received.le, (List.getElem?_eq_some_iff.mp found).1, ?_⟩
  rw [take_drop_succ received.le found]
  exact received.among.append_right _

theorem ReceivedAll.event (received : channel.ReceivedAll start next items)
    (event : channel.recv capacity next = .event item later) :
    channel.ReceivedAll start later (items ++ [item]) := by
  obtain ⟨found, rfl⟩ := recv_event_get event
  refine ⟨Nat.le_succ_of_le received.le, (List.getElem?_eq_some_iff.mp found).1, ?_⟩
  rw [take_drop_succ received.le found, received.all]

/-- A receiver that has lagged has only moved on. -/
theorem Received.lagged {skipped : Nat} (received : channel.Received start next items)
    (lags : channel.recv capacity next = .lagged skipped later) :
    channel.Received start later items := by
  unfold recv at lags
  split at lags
  · rename_i behind
    cases lags
    have on : next ≤ channel.log.length - capacity := by omega
    refine ⟨Nat.le_trans received.le on, Nat.sub_le _ _, received.among.trans ?_⟩
    exact (List.take_sublist_take_left on).drop start
  · split at lags
    · cases lags
    · cases lags

end Broadcast

end AirPaste.Theory
