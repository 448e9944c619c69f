/-
# Theory.Obeys — programs of transactions under a contract

A `Contract` has an invariant of the store, the transactions that are allowed under it, and
what is promised of their results: the invariant makes the promises good, and an allowed
transaction keeps the invariant.  A program obeys the contract (`Prog.Obeys`) when it
performs allowed transactions only, as long as it is answered as promised.

`Obeys.advance` is the rule for interleavings: advanced on a store that satisfies the
invariant, whoever else has been at work on it, an obedient program keeps the invariant and
stays obedient.
-/
import AirPaste.Theory.Transaction

namespace AirPaste.Theory

set_option autoImplicit false

/-- What the clients of a store may do, and what they may count on. -/
structure Contract {σ : Type} (T : Transactions σ) where
  holds : σ → Prop
  allowed : T.Op → Prop
  promised : (op : T.Op) → T.Res op → Prop
  answers : ∀ op s, holds s → promised op (T.exec op s).1
  keeps : ∀ op s, holds s → allowed op → holds (T.exec op s).2

namespace Prog

variable {σ α β : Type} {T : Transactions σ} (c : Contract T)

/-- Allowed transactions only, whatever promised answers they get. -/
def Obeys : Prog T α → Prop
  | .done _ => True
  | .call op next => c.allowed op ∧ ∀ answer, c.promised op answer → Obeys (next answer)

variable {c}

theorem Obeys.bind {p : Prog T α} {f : α → Prog T β} (first : p.Obeys c)
    (later : ∀ a, (f a).Obeys c) : (p >>= f).Obeys c := by
  induction p with
  | done a => exact later a
  | call op next ih => exact ⟨first.1, fun answer good => ih answer (first.2 answer good)⟩

theorem Obeys.map {p : Prog T α} (obeys : p.Obeys c) (f : α → β) :
    (p >>= fun a => (pure (f a) : Prog T β)).Obeys c :=
  obeys.bind fun _ => trivial

/-- One transaction of an obedient program. -/
theorem Obeys.advance {p : Prog T α} {s : σ} (obeys : p.Obeys c) (holds : c.holds s) :
    (p.advance s).1.Obeys c ∧ c.holds (p.advance s).2 := by
  cases p with
  | done a => exact ⟨trivial, holds⟩
  | call op next => exact ⟨obeys.2 _ (c.answers op s holds), c.keeps op s holds obeys.1⟩

end Prog

end AirPaste.Theory
