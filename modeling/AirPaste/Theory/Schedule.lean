/-
# Theory.Schedule — parties that take turns in any order

A system of several parties is a step function: each turn one of them takes its next
step, or stays where it is because it has to wait.  A schedule says whose turn it is; it is
fair when everybody's turn comes again and again.

`fair_ends`: when every step that changes anything goes down in a well-founded order, and
somebody can always move before the end, every fair schedule ends.
-/
import Mathlib.Order.WellFounded

namespace AirPaste.Theory

set_option autoImplicit false

section Schedule

variable {σ π μ : Type} (step : σ → π → σ)

/-- The state after so many turns. -/
def scheduled (s : σ) (schedule : Nat → π) : Nat → σ
  | 0 => s
  | n + 1 => step (scheduled s schedule n) (schedule n)

/-- Everybody's turn comes again. -/
def Fair (schedule : Nat → π) : Prop := ∀ party n, ∃ m, n ≤ m ∧ schedule m = party

variable {step} {Inv Ended : σ → Prop} {s : σ} {schedule : Nat → π}

theorem scheduled_invariant (keeps : ∀ s party, Inv s → Inv (step s party)) (holds : Inv s)
    (n : Nat) : Inv (scheduled step s schedule n) := by
  induction n with
  | zero => exact holds
  | succ n ih => exact keeps _ _ ih

variable {measure : σ → μ} {r : μ → μ → Prop}

/-- While nothing changes, the state is the same; the first change goes down. -/
theorem scheduled_same_or_down
    (down : ∀ s party, Inv s → step s party = s ∨ r (measure (step s party)) (measure s))
    (keeps : ∀ s party, Inv s → Inv (step s party)) (holds : Inv s) (n : Nat) {m : Nat}
    (later : n ≤ m) :
    scheduled step s schedule m = scheduled step s schedule n ∨
      ∃ k, r (measure (scheduled step s schedule k)) (measure (scheduled step s schedule n)) := by
  induction later with
  | refl => exact Or.inl rfl
  | @step m _ ih =>
      rcases ih with same | below
      · rcases down (scheduled step s schedule m) (schedule m)
          (scheduled_invariant keeps holds m) with waits | moves
        · exact Or.inl (waits.trans same)
        · refine Or.inr ⟨m + 1, ?_⟩
          rw [← same]
          exact moves
      · exact Or.inr below

/-- Every fair schedule ends. -/
theorem fair_ends (wf : WellFounded r)
    (down : ∀ s party, Inv s → step s party = s ∨ r (measure (step s party)) (measure s))
    (keeps : ∀ s party, Inv s → Inv (step s party))
    (progress : ∀ s, Inv s → ¬ Ended s → ∃ party, step s party ≠ s)
    (fair : Fair schedule) (holds : Inv s) : ∃ n, Ended (scheduled step s schedule n) := by
  -- induction on the measure reached after `n` turns
  have ends : ∀ value n, measure (scheduled step s schedule n) = value →
      ∃ m, Ended (scheduled step s schedule m) := by
    intro value
    induction value using wf.induction with
    | _ value ih =>
        rintro n rfl
        by_cases ended : Ended (scheduled step s schedule n)
        · exact ⟨n, ended⟩
        · obtain ⟨party, moves⟩ := progress _ (scheduled_invariant keeps holds n) ended
          obtain ⟨m, later, turn⟩ := fair party n
          rcases scheduled_same_or_down down keeps holds n later with same | ⟨k, below⟩
          · have next : scheduled step s schedule (m + 1) =
                step (scheduled step s schedule n) party := by
              rw [scheduled, turn, same]
            rcases down _ party (scheduled_invariant keeps holds n) with waits | below
            · exact absurd waits moves
            · rw [← next] at below
              exact ih _ below (m + 1) rfl
          · exact ih _ below k rfl
  exact ends _ 0 rfl

end Schedule

end AirPaste.Theory
