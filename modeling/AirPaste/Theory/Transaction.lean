/-
# Theory.Transaction — programs of atomic transactions, run alone or interleaved

A client of a transactional store is a program whose only contact with the store
is a sequence of atomic transactions; what it does next depends on what the last
one returned.  `Prog T α` is that program.  It has two readings:

* `Prog.run` executes it with nobody else around;
* a `Pool` holds any number of such programs over one store, and a schedule (a
  list of thread names) says whose transaction comes next.

The rules of `Theory.Run` carry invariants along a schedule.  `view_run` is the commit-order
argument for read-modify-write clients: when a step either leaves the observed
part of the store alone, or finishes its thread and applies that thread's effect
to it, then what an interleaving leaves behind is the fold of the effects in the
order in which the threads finished (`finishing`).
-/
import Mathlib.Logic.Function.Basic
import Mathlib.Data.List.Nodup
import AirPaste.Theory.Run

namespace AirPaste.Theory

set_option autoImplicit false

/-- The transactions a store offers, and what each returns and leaves behind. -/
structure Transactions (σ : Type) where
  Op : Type
  Res : Op → Type
  exec : (op : Op) → σ → Res op × σ

/-- A client: finished, or about to perform one transaction. -/
inductive Prog {σ : Type} (T : Transactions σ) (α : Type) : Type where
  | done (result : α)
  | call (op : T.Op) (next : T.Res op → Prog T α)

namespace Prog

variable {σ α β : Type} {T : Transactions σ}

def bind : Prog T α → (α → Prog T β) → Prog T β
  | .done a, f => f a
  | .call op next, f => .call op fun r => (next r).bind f

instance : Monad (Prog T) where
  pure := .done
  bind := bind

/-- The one-transaction program. -/
def perform (op : T.Op) : Prog T (T.Res op) := .call op .done

/-- Execute alone. -/
def run : Prog T α → σ → α × σ
  | .done a, s => (a, s)
  | .call op next, s => (next (T.exec op s).1).run (T.exec op s).2

/-- Perform the next transaction; a finished program does nothing. -/
def advance : Prog T α → σ → Prog T α × σ
  | .done a, s => (.done a, s)
  | .call op next, s => (next (T.exec op s).1, (T.exec op s).2)

/-- Finished, with a result `success` accepts. -/
def Succeeded (success : α → Bool) (p : Prog T α) : Prop := ∃ a, p = .done a ∧ success a = true

theorem not_succeeded_call {success : α → Bool} {op : T.Op} {next : T.Res op → Prog T α} :
    ¬ (Prog.call op next).Succeeded success := by
  rintro ⟨a, finished, -⟩
  cases finished

theorem succeeded_done {success : α → Bool} {a : α} :
    (Prog.done a : Prog T α).Succeeded success ↔ success a = true := by
  constructor
  · rintro ⟨b, finished, ok⟩
    cases finished
    exact ok
  · exact fun ok => ⟨a, rfl, ok⟩

@[simp] theorem advance_done (a : α) (s : σ) :
    (Prog.done a : Prog T α).advance s = (.done a, s) := rfl

@[simp] theorem advance_call (op : T.Op) (next : T.Res op → Prog T α) (s : σ) :
    (Prog.call op next).advance s = (next (T.exec op s).1, (T.exec op s).2) := rfl

@[simp] theorem pure_eq (a : α) : (pure a : Prog T α) = .done a := rfl

@[simp] theorem done_bind (a : α) (f : α → Prog T β) : (Prog.done a >>= f) = f a := rfl

@[simp] theorem call_bind (op : T.Op) (next : T.Res op → Prog T α) (f : α → Prog T β) :
    (Prog.call op next >>= f) = .call op fun r => next r >>= f := rfl

@[simp] theorem perform_bind (op : T.Op) (f : T.Res op → Prog T β) :
    (perform op >>= f) = .call op f := rfl

@[simp] theorem run_done (a : α) (s : σ) : (Prog.done a : Prog T α).run s = (a, s) := rfl

@[simp] theorem run_call (op : T.Op) (next : T.Res op → Prog T α) (s : σ) :
    (Prog.call op next).run s = (next (T.exec op s).1).run (T.exec op s).2 := rfl

@[simp] theorem run_perform (op : T.Op) (s : σ) : (perform op : Prog T _).run s = T.exec op s := rfl

/-- Sequencing runs the second program from what the first one left. -/
@[simp] theorem run_bind (p : Prog T α) (f : α → Prog T β) (s : σ) :
    (p >>= f).run s = (f (p.run s).1).run (p.run s).2 := by
  induction p generalizing s with
  | done a => rfl
  | call op next ih => exact ih (T.exec op s).1 (T.exec op s).2

end Prog

/-- Any number of programs over one store. -/
structure Pool {σ : Type} (T : Transactions σ) (ι α : Type) where
  state : σ
  threads : ι → Prog T α

namespace Pool

variable {σ α ι : Type} {T : Transactions σ} [DecidableEq ι]

/-- Thread `i` performs its next transaction. -/
def step (p : Pool T ι α) (i : ι) : Pool T ι α :=
  { state := ((p.threads i).advance p.state).2
    threads := Function.update p.threads i ((p.threads i).advance p.state).1 }

def run (p : Pool T ι α) (schedule : List ι) : Pool T ι α := runFrom step p schedule

@[simp] theorem run_nil (p : Pool T ι α) : p.run [] = p := rfl

@[simp] theorem run_cons (p : Pool T ι α) (i : ι) (rest : List ι) :
    p.run (i :: rest) = (p.step i).run rest := rfl

theorem run_append (p : Pool T ι α) (first second : List ι) :
    p.run (first ++ second) = (p.run first).run second :=
  runFrom_append step p first second

theorem step_state (p : Pool T ι α) (i : ι) :
    (p.step i).state = ((p.threads i).advance p.state).2 := rfl

theorem step_thread (p : Pool T ι α) (i : ι) :
    (p.step i).threads i = ((p.threads i).advance p.state).1 :=
  Function.update_self _ _ _

theorem step_threads_ne (p : Pool T ι α) {i j : ι} (ne : j ≠ i) :
    (p.step i).threads j = p.threads j :=
  Function.update_of_ne ne _ _

/-- What holds of every thread holds after a step, when it holds of the one that went on. -/
theorem step_forall {P : ι → Prog T α → Prop} {p : Pool T ι α} {i : ι}
    (all : ∀ j, P j (p.threads j)) (next : P i ((p.threads i).advance p.state).1) (j : ι) :
    P j ((p.step i).threads j) := by
  by_cases here : j = i
  · subst here
    rw [step_thread]
    exact next
  · rw [step_threads_ne p here]
    exact all j

/-- A finished thread stays finished. -/
theorem step_keeps_done {p : Pool T ι α} {j : ι} {a : α} (h : p.threads j = .done a) (i : ι) :
    (p.step i).threads j = .done a := by
  by_cases same : j = i
  · subst same
    rw [step_thread, h]
    rfl
  · rw [step_threads_ne p same, h]

theorem run_keeps_done {p : Pool T ι α} {j : ι} {a : α} (h : p.threads j = .done a)
    (schedule : List ι) : (p.run schedule).threads j = .done a := by
  induction schedule generalizing p with
  | nil => exact h
  | cons i rest ih => exact ih (step_keeps_done h i)

/-- `C` holds at every step of the schedule, in the pool that step finds. -/
abbrev Along (C : Pool T ι α → ι → Prop) (p : Pool T ι α) (schedule : List ι) : Prop :=
  Theory.Along step C p schedule

section Commit

variable (success : α → Bool)

/-- Thread `i` has finished, and successfully. -/
def Succeeded (p : Pool T ι α) (i : ι) : Prop := (p.threads i).Succeeded success

def succeeded (p : Pool T ι α) (i : ι) : Bool :=
  match p.threads i with
  | .done a => success a
  | .call _ _ => false

omit [DecidableEq ι] in
theorem succeeded_iff {p : Pool T ι α} {i : ι} :
    p.succeeded success i = true ↔ p.Succeeded success i := by
  unfold succeeded Succeeded
  cases p.threads i with
  | done a =>
      show success a = true ↔ _
      exact Prog.succeeded_done.symm
  | call op next => exact ⟨nofun, fun h => absurd h Prog.not_succeeded_call⟩

theorem step_succeeded {p : Pool T ι α} {i : ι} :
    (p.step i).Succeeded success i ↔
      ((p.threads i).advance p.state).1.Succeeded success := by
  simp only [Succeeded]
  rw [step_thread]

/-- The next transaction of thread `i` is the one it finishes successfully with. -/
def finishes (p : Pool T ι α) (i : ι) : Bool :=
  !p.succeeded success i && (p.step i).succeeded success i

theorem finishes_iff {p : Pool T ι α} {i : ι} :
    p.finishes success i = true ↔
      ¬ p.Succeeded success i ∧ (p.step i).Succeeded success i := by
  simp only [finishes]
  rw [Bool.and_eq_true, Bool.not_eq_true', ← Bool.not_eq_true, succeeded_iff, succeeded_iff]

/-- The threads that finish successfully during the schedule, in that order. -/
def finishing : Pool T ι α → List ι → List ι
  | _, [] => []
  | p, i :: rest =>
      if p.finishes success i then i :: finishing (p.step i) rest
      else finishing (p.step i) rest

theorem finishing_cons (p : Pool T ι α) (i : ι) (rest : List ι) :
    finishing success p (i :: rest) =
      if p.finishes success i then i :: finishing success (p.step i) rest
      else finishing success (p.step i) rest := rfl

theorem step_keeps_succeeded {p : Pool T ι α} {j : ι} (h : p.Succeeded success j) (i : ι) :
    (p.step i).Succeeded success j := by
  obtain ⟨a, finished, ok⟩ := h
  exact ⟨a, step_keeps_done finished i, ok⟩

theorem run_keeps_succeeded {p : Pool T ι α} {j : ι} (h : p.Succeeded success j)
    (schedule : List ι) : (p.run schedule).Succeeded success j := by
  obtain ⟨a, finished, ok⟩ := h
  exact ⟨a, run_keeps_done finished schedule, ok⟩

/-- A step changes the success of no thread but the one that moves. -/
theorem step_succeeded_ne {p : Pool T ι α} {i j : ι} (ne : j ≠ i) :
    (p.step i).Succeeded success j ↔ p.Succeeded success j := by
  simp only [Succeeded]
  rw [step_threads_ne p ne]

theorem mem_finishing {p : Pool T ι α} {schedule : List ι} {j : ι} :
    j ∈ finishing success p schedule ↔
      ¬ p.Succeeded success j ∧ (p.run schedule).Succeeded success j := by
  induction schedule generalizing p with
  | nil => exact ⟨nofun, fun h => absurd h.2 h.1⟩
  | cons i rest ih =>
      have here := finishes_iff success (p := p) (i := i)
      have later : j ∈ finishing success (p.step i) rest ↔
          ¬ (p.step i).Succeeded success j ∧ ((p.step i).run rest).Succeeded success j := ih
      rw [finishing_cons, run_cons]
      by_cases same : j = i
      · subst same
        split
        · rename_i now
          have now := here.mp now
          exact ⟨fun _ => ⟨now.1, run_keeps_succeeded success now.2 rest⟩,
            fun _ => List.mem_cons_self⟩
        · rename_i notNow
          rw [later]
          constructor
          · rintro ⟨notYet, last⟩
            exact ⟨fun before => notYet (step_keeps_succeeded success before j), last⟩
          · rintro ⟨before, last⟩
            exact ⟨fun now => notNow (here.mpr ⟨before, now⟩), last⟩
      · rw [← step_succeeded_ne success same, ← later]
        split
        · exact ⟨fun h => (List.mem_cons.mp h).resolve_left same, List.mem_cons_of_mem i⟩
        · rfl

theorem finishing_nodup (p : Pool T ι α) (schedule : List ι) :
    (finishing success p schedule).Nodup := by
  induction schedule generalizing p with
  | nil => exact List.nodup_nil
  | cons i rest ih =>
      rw [finishing_cons]
      split
      · rename_i now
        refine List.nodup_cons.mpr ⟨fun again => ?_, ih _⟩
        exact ((mem_finishing success).mp again).1 ((finishes_iff success).mp now).2
      · exact ih _

/-- **Commit order.** When every step either leaves the view alone without
finishing its thread successfully, or finishes it and applies its effect to the
view, the view after the schedule is the fold of the effects in finishing
order. -/
theorem view_run {ω : Type} (view : σ → ω) (effect : ι → ω → ω)
    {C : Pool T ι α → ι → Prop}
    (atomic : ∀ p i, C p i →
      (view (p.step i).state = view p.state ∧
        ((p.step i).Succeeded success i → p.Succeeded success i)) ∨
      (view (p.step i).state = effect i (view p.state) ∧
        ¬ p.Succeeded success i ∧ (p.step i).Succeeded success i))
    {p : Pool T ι α} {schedule : List ι} (along : Along C p schedule) :
    view (p.run schedule).state =
      (finishing success p schedule).foldl (fun v i => effect i v) (view p.state) := by
  induction schedule generalizing p with
  | nil => rfl
  | cons i rest ih =>
      rw [run_cons, ih along.2, finishing_cons]
      rcases atomic p i along.1 with ⟨same, silent⟩ | ⟨changed, before, after⟩
      · rw [if_neg (fun now => ?_), same]
        exact ((finishes_iff success).mp now).1 (silent ((finishes_iff success).mp now).2)
      · rw [if_pos ((finishes_iff success).mpr ⟨before, after⟩), List.foldl_cons, changed]

end Commit

end Pool

end AirPaste.Theory
