/-
# Theory.Channel — a bounded first-in first-out channel

A channel holds the items that were pushed and not yet popped, at most `capacity` of them.
It keeps a log of both ends; that the log of the pushes is the log of the pops followed by
what waits is part of the type, so that what comes out is a prefix of what went in in every
state (`popped_prefix`), and all of it when the queue is empty (`popped_eq_pushed`).
-/
import Mathlib.Data.List.Infix

namespace AirPaste.Theory

set_option autoImplicit false

structure Channel (α : Type) (capacity : Nat) where
  queue : List α
  pushed : List α
  popped : List α
  fifo : pushed = popped ++ queue
  bounded : queue.length ≤ capacity

namespace Channel

variable {α : Type} {capacity : Nat}

def empty : Channel α capacity := ⟨[], [], [], rfl, Nat.zero_le capacity⟩

/-- Append an item, if there is room. -/
def push (channel : Channel α capacity) (item : α) : Option (Channel α capacity) :=
  if room : channel.queue.length < capacity then
    some {
      queue := channel.queue ++ [item]
      pushed := channel.pushed ++ [item]
      popped := channel.popped
      fifo := by rw [channel.fifo, List.append_assoc]
      bounded := by rw [List.length_append]; exact room }
  else none

/-- Take the oldest item, if there is one. -/
def pop (channel : Channel α capacity) : Option (α × Channel α capacity) :=
  match waiting : channel.queue with
  | [] => none
  | item :: rest =>
      some (item, {
        queue := rest
        pushed := channel.pushed
        popped := channel.popped ++ [item]
        fifo := by rw [channel.fifo, waiting, List.append_assoc, List.singleton_append]
        bounded := by
          have bounded := channel.bounded
          rw [waiting, List.length_cons] at bounded
          exact Nat.le_of_succ_le bounded })

variable {channel after : Channel α capacity} {item : α}

@[simp] theorem empty_pushed : (empty : Channel α capacity).pushed = [] := rfl

@[simp] theorem empty_popped : (empty : Channel α capacity).popped = [] := rfl

@[simp] theorem empty_queue : (empty : Channel α capacity).queue = [] := rfl

theorem push_some (pushes : channel.push item = some after) :
    after.queue = channel.queue ++ [item] ∧ after.pushed = channel.pushed ++ [item] ∧
      after.popped = channel.popped := by
  unfold push at pushes
  split at pushes
  · cases pushes
    exact ⟨rfl, rfl, rfl⟩
  · cases pushes

theorem pop_some (pops : channel.pop = some (item, after)) :
    channel.queue = item :: after.queue ∧ after.pushed = channel.pushed ∧
      after.popped = channel.popped ++ [item] := by
  unfold pop at pops
  split at pops
  · cases pops
  next first rest waiting =>
      cases pops
      exact ⟨waiting, rfl, rfl⟩

/-- What has come out is a prefix of what has gone in. -/
theorem popped_prefix (channel : Channel α capacity) : channel.popped <+: channel.pushed :=
  ⟨channel.queue, channel.fifo.symm⟩

/-- Nothing waits: all that has gone in has come out. -/
theorem popped_eq_pushed (drained : channel.queue = []) : channel.popped = channel.pushed := by
  rw [channel.fifo, drained, List.append_nil]

end Channel

end AirPaste.Theory
