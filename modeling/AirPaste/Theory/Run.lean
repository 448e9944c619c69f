/-
# Theory.Run — runs of a step function

A system that takes one event after the other is a function `step : σ → ε → σ`;
its run over a list of events is `runFrom`.  `Along C` says that a condition on
the state found and the event taken holds at every step.  The rules carry an
invariant over a run, whether every step keeps it, or only steps that satisfy a
condition, and a fact that a condition on the events alone protects.  `Thinned`
relates a run to one that leaves some of its events out; `thinned_related` carries
a relation between the states of the two.  `Throughout P` says that every state of a
run satisfies `P`; `throughout_iff` finds the steps that this comes down to.
-/
import Mathlib.Data.List.Basic

namespace AirPaste.Theory

set_option autoImplicit false

section Run

variable {σ ε : Type} (step : σ → ε → σ)

/-- The state reached by a list of events. -/
def runFrom (s : σ) (events : List ε) : σ := events.foldl step s

@[simp] theorem runFrom_nil (s : σ) : runFrom step s [] = s := rfl

@[simp] theorem runFrom_cons (s : σ) (e : ε) (rest : List ε) :
    runFrom step s (e :: rest) = runFrom step (step s e) rest := rfl

theorem runFrom_append (s : σ) (first second : List ε) :
    runFrom step s (first ++ second) = runFrom step (runFrom step s first) second :=
  List.foldl_append

/-- `C` holds at every step, of the state it finds and the event it takes. -/
def Along (C : σ → ε → Prop) : σ → List ε → Prop
  | _, [] => True
  | s, e :: rest => C s e ∧ Along C (step s e) rest

/-- `P` holds in every state of a run. -/
def Throughout (P : σ → Prop) (s : σ) (events : List ε) : Prop :=
  ∀ before after, events = before ++ after → P (runFrom step s before)

variable {step} {C : σ → ε → Prop} {Inv : σ → Prop} {s : σ} {events : List ε}

theorem along_append {first second : List ε} :
    Along step C s (first ++ second) ↔
      Along step C s first ∧ Along step C (runFrom step s first) second := by
  induction first generalizing s with
  | nil => simp [Along]
  | cons e rest ih => simp only [List.cons_append, Along, runFrom_cons, ih, and_assoc]

theorem along_iff :
    Along step C s events ↔
      ∀ before e after, events = before ++ e :: after → C (runFrom step s before) e := by
  induction events generalizing s with
  | nil =>
      refine ⟨fun _ before e after split => ?_, fun _ => trivial⟩
      cases before <;> cases split
  | cons first rest ih =>
      constructor
      · rintro ⟨here, along⟩ before e after split
        cases before with
        | nil =>
            cases split
            exact here
        | cons head before =>
            cases split
            exact ih.mp along before e after rfl
      · intro all
        refine ⟨all [] first rest rfl, ih.mpr fun before e after split => ?_⟩
        exact all (first :: before) e after (by rw [split, List.cons_append])

/-- A condition on the events alone joins the condition on the steps. -/
theorem along_and {ok : ε → Prop} (along : Along step C s events) (all : ∀ e ∈ events, ok e) :
    Along step (fun s e => C s e ∧ ok e) s events := by
  induction events generalizing s with
  | nil => trivial
  | cons e rest ih =>
      exact ⟨⟨along.1, all e List.mem_cons_self⟩,
        ih along.2 fun later member => all later (List.mem_cons_of_mem _ member)⟩

/-- An invariant of the steps that satisfy `C`, over a run of such steps. -/
theorem run_invariant (keeps : ∀ s e, Inv s → C s e → Inv (step s e))
    (along : Along step C s events) (holds : Inv s) : Inv (runFrom step s events) := by
  induction events generalizing s with
  | nil => exact holds
  | cons e rest ih => exact ih along.2 (keeps s e holds along.1)

/-- An invariant of every step, over any run. -/
theorem run_preserves (keeps : ∀ s e, Inv s → Inv (step s e)) (holds : Inv s)
    (events : List ε) : Inv (runFrom step s events) := by
  induction events generalizing s with
  | nil => exact holds
  | cons e rest ih => exact ih (keeps s e holds)

/-- An invariant of the steps over events that satisfy `ok`. -/
theorem run_keeps (ok : ε → Prop) (keeps : ∀ s e, ok e → Inv s → Inv (step s e))
    (all : ∀ e ∈ events, ok e) (holds : Inv s) : Inv (runFrom step s events) := by
  induction events generalizing s with
  | nil => exact holds
  | cons e rest ih =>
      exact ih (fun e member => all e (List.mem_cons_of_mem _ member))
        (keeps s e (all e List.mem_cons_self) holds)

/-- A fact that does not hold at first and holds at last comes to hold at some step. -/
theorem run_origin (Fact : σ → Prop) (initially : ¬ Fact s)
    (atLast : Fact (runFrom step s events)) :
    ∃ before e after, events = before ++ e :: after ∧ ¬ Fact (runFrom step s before) ∧
      Fact (step (runFrom step s before) e) := by
  induction events generalizing s with
  | nil => exact absurd atLast initially
  | cons e rest ih =>
      by_cases now : Fact (step s e)
      · exact ⟨[], e, rest, rfl, initially, now⟩
      · obtain ⟨before, later, after, split, missing, there⟩ := ih now atLast
        exact ⟨e :: before, later, after, by rw [split, List.cons_append], missing, there⟩

/-- An invariant of the steps may be assumed at every step of a run. -/
theorem along_invariant (keeps : ∀ s e, Inv s → Inv (step s e)) (along : Along step C s events)
    (holds : Inv s) : Along step (fun s e => C s e ∧ Inv s) s events := by
  induction events generalizing s with
  | nil => trivial
  | cons e rest ih => exact ⟨⟨along.1, holds⟩, ih along.2 (keeps s e holds)⟩

/-- Conditions that agree in the states of an invariant agree along a run, when the steps
that satisfy them keep the invariant. -/
theorem along_congr_of_keeps {D : σ → ε → Prop}
    (keeps : ∀ s e, Inv s → C s e → Inv (step s e))
    (agree : ∀ s e, Inv s → (C s e ↔ D s e)) (holds : Inv s) :
    Along step C s events ↔ Along step D s events := by
  induction events generalizing s with
  | nil => rfl
  | cons e rest ih =>
      rw [Along, Along, ← agree s e holds]
      exact and_congr_right fun here => ih (keeps s e holds here)

theorem along_congr {D : σ → ε → Prop} (keeps : ∀ s e, Inv s → Inv (step s e))
    (agree : ∀ s e, Inv s → (C s e ↔ D s e)) (holds : Inv s) :
    Along step C s events ↔ Along step D s events :=
  along_congr_of_keeps (fun s e holds _ => keeps s e holds) agree holds

/-- A log is clean at the end of a run when it was clean before and every step kept it so. -/
theorem run_clean_iff {Clean : σ → Prop} (keeps : ∀ s e, Inv s → Inv (step s e))
    (cleans : ∀ s e, Inv s → (Clean (step s e) ↔ Clean s ∧ C s e)) (holds : Inv s) :
    Clean (runFrom step s events) ↔ Clean s ∧ Along step C s events := by
  induction events generalizing s with
  | nil => exact (and_iff_left trivial).symm
  | cons e rest ih => rw [runFrom_cons, ih (keeps s e holds), cleans s e holds, and_assoc, Along]

@[simp] theorem throughout_nil {P : σ → Prop} : Throughout step P s [] ↔ P s := by
  constructor
  · intro all
    exact all [] [] rfl
  · intro here before after split
    rw [(List.append_eq_nil_iff.mp split.symm).1]
    exact here

theorem throughout_cons {P : σ → Prop} {e : ε} {rest : List ε} :
    Throughout step P s (e :: rest) ↔ P s ∧ Throughout step P (step s e) rest := by
  constructor
  · intro all
    refine ⟨all [] _ rfl, fun before after split => ?_⟩
    exact all (e :: before) after (by rw [split, List.cons_append])
  · rintro ⟨here, later⟩ before after split
    cases before with
    | nil => exact here
    | cons head before =>
        cases split
        exact later before after rfl

/-- Where a step that satisfies `D` leads from one good state to another exactly when it
satisfies `C`, all states of a run of such steps are good exactly when all of them satisfy
`C`. -/
theorem throughout_iff_of_along {P : σ → Prop} {D : σ → ε → Prop}
    (keeps : ∀ s e, Inv s → D s e → Inv (step s e))
    (works : ∀ s e, Inv s → D s e → P s → (P (step s e) ↔ C s e)) (holds : Inv s) (good : P s)
    (along : Along step D s events) :
    Throughout step P s events ↔ Along step C s events := by
  induction events generalizing s with
  | nil => exact throughout_nil.trans (iff_of_true good trivial)
  | cons e rest ih =>
      rw [throughout_cons, Along, and_iff_right good]
      have next := ih (keeps s e holds along.1)
      constructor
      · intro later
        have goodToo : P (step s e) := later [] rest rfl
        exact ⟨(works s e holds along.1 good).mp goodToo, (next goodToo along.2).mp later⟩
      · rintro ⟨here, later⟩
        exact (next ((works s e holds along.1 good).mpr here) along.2).mpr later

/-- The same for the runs of all steps. -/
theorem throughout_iff {P : σ → Prop} (keeps : ∀ s e, Inv s → Inv (step s e))
    (works : ∀ s e, Inv s → P s → (P (step s e) ↔ C s e)) (holds : Inv s) (good : P s) :
    Throughout step P s events ↔ Along step C s events := by
  have always : ∀ t, Along step (fun _ _ => True) t events := by
    induction events with
    | nil => exact fun _ => trivial
    | cons e rest ih => exact fun t => ⟨trivial, ih (step t e)⟩
  exact throughout_iff_of_along (fun s e holds _ => keeps s e holds)
    (fun s e holds _ => works s e holds) holds good (always s)

/-- `fewer` is `events` with some of the events left out that may be left out of a run
from `s`: those that satisfy `D` where they happen. -/
inductive Thinned (step : σ → ε → σ) (D : σ → ε → Prop) : σ → List ε → List ε → Prop
  | nil (s : σ) : Thinned step D s [] []
  | keep {s : σ} (e : ε) {rest fewer : List ε} (later : Thinned step D (step s e) rest fewer) :
      Thinned step D s (e :: rest) (e :: fewer)
  | drop {s : σ} (e : ε) {rest fewer : List ε} (here : D s e)
      (later : Thinned step D (step s e) rest fewer) : Thinned step D s (e :: rest) fewer

/-- A relation that both a kept and a dropped event preserve holds of the states the
two runs reach. -/
theorem thinned_related {D : σ → ε → Prop} {R : σ → σ → Prop}
    (keeps : ∀ s t e, C s e → R s t → R (step s e) (step t e))
    (drops : ∀ s t e, C s e → D s e → R s t → R (step s e) t)
    {fewer : List ε} (thinned : Thinned step D s events fewer) (along : Along step C s events)
    {t : σ} (related : R s t) : R (runFrom step s events) (runFrom step t fewer) := by
  induction thinned generalizing t with
  | nil s => exact related
  | keep e later ih => exact ih along.2 (keeps _ t e along.1 related)
  | drop e here later ih => exact ih along.2 (drops _ t e along.1 here related)

end Run

end AirPaste.Theory
