/-
# Theory.Unwinding — two runs of one machine that a secret cannot tell apart

A machine answers every event: `step : σ → ε → ω × σ`.  Two runs over events that agree
once their secrets are erased are indistinguishable when some relation between states is
kept by every pair of steps over events that agree, and makes the answers to `visible`
events equal.  `unwinding` is that rule: the runs end in related states, and answer alike
wherever the event is visible.
-/
import AirPaste.Theory.Run

namespace AirPaste.Theory

set_option autoImplicit false

section Unwinding

variable {σ ε ω δ : Type} (step : σ → ε → ω × σ)

/-- The state after one event. -/
def nextState (s : σ) (e : ε) : σ := (step s e).2

/-- The answers of a run, in order. -/
def answers : σ → List ε → List ω
  | _, [] => []
  | s, e :: rest => (step s e).1 :: answers (step s e).2 rest

variable {step} {erase : ε → δ} {Related : σ → σ → Prop} {visible : ε → Prop}

theorem unwinding
    (keeps : ∀ s t e f, Related s t → erase e = erase f →
      Related (step s e).2 (step t f).2 ∧ (visible e → (step s e).1 = (step t f).1))
    {events others : List ε} (agree : events.map erase = others.map erase)
    {s t : σ} (related : Related s t) :
    Related (runFrom (nextState step) s events) (runFrom (nextState step) t others) ∧
      ∀ (i : Nat) (e : ε), events[i]? = some e → visible e →
        (answers step s events)[i]? = (answers step t others)[i]? := by
  induction events generalizing others s t with
  | nil =>
      obtain rfl : others = [] := List.map_eq_nil_iff.mp agree.symm
      exact ⟨related, fun _ _ _ _ => rfl⟩
  | cons e rest ih =>
      cases others with
      | nil => cases agree
      | cons f others =>
          obtain ⟨same, agree⟩ := List.cons.inj agree
          obtain ⟨next, alike⟩ := keeps s t e f related same
          obtain ⟨final, later⟩ := ih agree next
          refine ⟨final, fun i event found seen => ?_⟩
          cases i with
          | zero =>
              cases found
              exact congrArg some (alike seen)
          | succ i => exact later i event found seen

/-- Where every event is visible, the answers are the same. -/
theorem answers_eq
    (keeps : ∀ s t e f, Related s t → erase e = erase f →
      Related (step s e).2 (step t f).2 ∧ (step s e).1 = (step t f).1)
    {events others : List ε} (agree : events.map erase = others.map erase)
    {s t : σ} (related : Related s t) : answers step s events = answers step t others := by
  induction events generalizing others s t with
  | nil =>
      obtain rfl : others = [] := List.map_eq_nil_iff.mp agree.symm
      rfl
  | cons e rest ih =>
      cases others with
      | nil => cases agree
      | cons f others =>
          obtain ⟨same, agree⟩ := List.cons.inj agree
          obtain ⟨next, alike⟩ := keeps s t e f related same
          rw [answers, answers, alike, ih agree next]

end Unwinding

end AirPaste.Theory
