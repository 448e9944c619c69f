/-
# Theory.Check — chains of checks that may fail

A validation is a chain of checks in `Except`: it goes on with the value of a
check that passes and stops at the error of the first that does not.  The
inversion rules take an accepted chain apart, one check at a time.
-/
import Mathlib.Logic.Basic

namespace AirPaste.Theory

set_option autoImplicit false

section Check

variable {ε α β : Type}

/-- Pass when the condition holds. -/
def ensure (condition : Bool) (error : ε) : Except ε Unit :=
  if condition then .ok () else .error error

/-- `Option::ok_or`. -/
def okOr (value : Option α) (error : ε) : Except ε α :=
  match value with
  | none => .error error
  | some a => .ok a

@[simp] theorem ensure_ok_iff {condition : Bool} {error : ε} {u : Unit} :
    ensure condition error = .ok u ↔ condition = true := by
  unfold ensure
  split
  · rename_i holds
    exact ⟨fun _ => holds, fun _ => rfl⟩
  · rename_i fails
    exact ⟨nofun, fun holds => absurd holds fails⟩

@[simp] theorem okOr_ok_iff {value : Option α} {error : ε} {a : α} :
    okOr value error = .ok a ↔ value = some a := by
  cases value with
  | none => exact ⟨nofun, nofun⟩
  | some b => exact ⟨fun same => congrArg some (Except.ok.inj same),
      fun same => congrArg Except.ok (Option.some.inj same)⟩

/-- A chain is accepted when its first check is, and the rest is from there. -/
theorem bind_ok_iff {first : Except ε α} {rest : α → Except ε β} {b : β} :
    (first >>= rest) = .ok b ↔ ∃ a, first = .ok a ∧ rest a = .ok b := by
  cases first with
  | error error => exact ⟨nofun, fun ⟨_, impossible, _⟩ => nomatch impossible⟩
  | ok a =>
      constructor
      · intro accepted
        exact ⟨a, rfl, accepted⟩
      · rintro ⟨c, same, accepted⟩
        cases same
        exact accepted

/-- A loop of checks is accepted when each of them is. -/
theorem forIn_ensure_ok_iff {items : List α} {condition : α → Bool} {error : α → ε}
    {u : PUnit.{1}} :
    (forIn items PUnit.unit fun item _ => do
      ensure (condition item) (error item)
      pure (ForInStep.yield PUnit.unit)) = Except.ok u ↔ ∀ item ∈ items, condition item = true := by
  induction items with
  | nil => exact iff_of_true rfl fun _ member => absurd member List.not_mem_nil
  | cons item rest ih =>
      rw [List.forIn_cons, bind_ok_iff, List.forall_mem_cons, ← ih]
      constructor
      · rintro ⟨step, passes, goesOn⟩
        obtain ⟨_, checked, same⟩ := bind_ok_iff.mp passes
        cases same
        exact ⟨ensure_ok_iff.mp checked, goesOn⟩
      · rintro ⟨checked, goesOn⟩
        exact ⟨_, bind_ok_iff.mpr ⟨(), ensure_ok_iff.mpr checked, rfl⟩, goesOn⟩

@[simp] theorem mapError_ok_iff {ε' : Type} {result : Except ε α} {f : ε → ε'} {a : α} :
    result.mapError f = .ok a ↔ result = .ok a := by
  cases result with
  | error error =>
      constructor
      · intro same
        cases same
      · intro same
        cases same
  | ok found =>
      show (.ok found : Except ε' α) = .ok a ↔ (.ok found : Except ε α) = .ok a
      rw [Except.ok.injEq, Except.ok.injEq]

theorem map_ok_iff {result : Except ε α} {f : α → β} {b : β} :
    result.map f = .ok b ↔ ∃ a, result = .ok a ∧ f a = b := by
  cases result with
  | error error =>
      constructor
      · intro same
        cases same
      · rintro ⟨a, impossible, -⟩
        cases impossible
  | ok found =>
      constructor
      · intro same
        exact ⟨found, rfl, Except.ok.inj same⟩
      · rintro ⟨a, same, rfl⟩
        cases same
        rfl

end Check

end AirPaste.Theory
