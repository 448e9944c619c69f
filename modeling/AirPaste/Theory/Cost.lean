/-
# Theory.Cost — what a run costs

Every step of a run costs something, depending on the state it finds.  `costFrom` is what the
steps cost together.  Where each step pays for itself out of a potential and an allowance, the
run costs at most what there was of both (`costFrom_le`).
-/
import AirPaste.Theory.Run

namespace AirPaste.Theory

set_option autoImplicit false

section Cost

variable {σ ε : Type} (step : σ → ε → σ) (cost : σ → ε → Nat)

/-- What the steps of a run cost together. -/
def costFrom : σ → List ε → Nat
  | _, [] => 0
  | s, e :: rest => cost s e + costFrom (step s e) rest

variable {step cost} {allowance : σ → ε → Nat} {Inv : σ → Prop} {s : σ}

theorem costFrom_le (potential : σ → Nat) (keeps : ∀ s e, Inv s → Inv (step s e))
    (pays : ∀ s e, Inv s → cost s e + potential (step s e) ≤ potential s + allowance s e)
    (holds : Inv s) (events : List ε) :
    costFrom step cost s events + potential (runFrom step s events) ≤
      potential s + costFrom step allowance s events := by
  induction events generalizing s with
  | nil => simp [costFrom]
  | cons e rest ih =>
      have here := pays s e holds
      have later := ih (keeps s e holds)
      rw [costFrom, costFrom, runFrom_cons]
      omega

end Cost

end AirPaste.Theory
