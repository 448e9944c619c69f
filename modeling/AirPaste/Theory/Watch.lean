/-
# Theory.Watch — a polled value with a one-slot guard

A watcher looks at a value from time to time and announces a key that is not the one
it saw last, unless a guard names that key: then it clears the guard and keeps silent.
The guard is armed from outside.  `Watch.after` is the watcher after a history of arms
and looks; histories are written newest first.  What a watcher then knows is a matter of
the history alone: the last key it saw is the last one it read (`after_seen`), and the
guard names a key that was armed last and not met since (`after_guard`).
-/
import Mathlib.Data.List.Basic

namespace AirPaste.Theory

set_option autoImplicit false

structure Watch (K : Type) where
  seen : Option K
  guard : Option K
  deriving DecidableEq

inductive WatchEvent (K : Type) where
  | arms (key : Option K)
  | looks (reading : Option K)
  deriving DecidableEq

namespace Watch

variable {K : Type} [DecidableEq K]

/-- Take a key for the last one seen.  It is announced unless the guard names it. -/
def meet (watch : Watch K) (key : K) : Watch K × Option K :=
  if watch.guard = some key then (⟨some key, none⟩, none) else (⟨some key, watch.guard⟩, some key)

/-- Look at a reading: a key other than the last one seen is met. -/
def look (watch : Watch K) : Option K → Watch K × Option K
  | none => (watch, none)
  | some key => if watch.seen = some key then (watch, none) else watch.meet key

def step (watch : Watch K) : WatchEvent K → Watch K
  | .arms key => { watch with guard := key }
  | .looks reading => (watch.look reading).1

/-- The watcher after a history, newest first. -/
def after (watch : Watch K) : List (WatchEvent K) → Watch K
  | [] => watch
  | event :: older => (after watch older).step event

/-! ## What the history says -/

/-- The last key read. -/
def lastRead (watch : Watch K) : List (WatchEvent K) → Option K
  | [] => watch.seen
  | .looks (some key) :: _ => some key
  | .looks none :: older => lastRead watch older
  | .arms _ :: older => lastRead watch older

/-- `key` is what the guard was armed with last, and no look since has met it. -/
def Unmet (watch : Watch K) (key : K) : List (WatchEvent K) → Prop
  | [] => watch.guard = some key
  | .arms armed :: _ => armed = some key
  | .looks reading :: older =>
      Unmet watch key older ∧ (reading = some key → lastRead watch older = some key)

section History

variable (watch : Watch K) {history : List (WatchEvent K)} {key : K}

@[simp] theorem meet_seen : (watch.meet key).1.seen = some key := by
  unfold meet
  split <;> rfl

theorem meet_guard {other : K} :
    (watch.meet key).1.guard = some other ↔ watch.guard = some other ∧ key ≠ other := by
  unfold meet
  split
  next named =>
      have equal : watch.guard = some other ↔ key = other := by simp [named]
      simp [equal]
  next unnamed =>
      constructor
      · intro named
        refine ⟨named, fun same => ?_⟩
        exact unnamed (same ▸ named)
      · exact And.left

theorem meet_announces_iff : (watch.meet key).2 = some key ↔ watch.guard ≠ some key := by
  unfold meet
  split <;> simp_all

theorem look_seen (reading : Option K) :
    (watch.look reading).1.seen = if reading = none then watch.seen else reading := by
  cases reading with
  | none => rfl
  | some read =>
      simp only [look]
      split <;> simp_all

theorem look_guard (reading : Option K) :
    (watch.look reading).1.guard = some key ↔
      watch.guard = some key ∧ (reading = some key → watch.seen = some key) := by
  cases reading with
  | none => simp [look]
  | some read =>
      by_cases same : watch.seen = some read
      · simp only [look, same, Option.some.injEq]
        tauto
      · simp only [look, if_neg same, meet_guard, Option.some.injEq, ne_eq]
        refine and_congr_right fun _ => ⟨fun other equal => absurd equal other, ?_⟩
        rintro old rfl
        exact same (old rfl)

theorem look_announces_iff :
    (watch.look (some key)).2 = some key ↔ watch.seen ≠ some key ∧ watch.guard ≠ some key := by
  simp only [look]
  split
  next same => simp [same]
  next other =>
      rw [meet_announces_iff]
      exact (and_iff_right other).symm

theorem after_seen : (watch.after history).seen = lastRead watch history := by
  induction history with
  | nil => rfl
  | cons event older ih =>
      cases event with
      | arms armed => exact ih
      | looks reading =>
          simp only [after, step, look_seen]
          cases reading with
          | none => exact ih
          | some read => rfl

theorem after_guard : (watch.after history).guard = some key ↔ Unmet watch key history := by
  induction history with
  | nil => rfl
  | cons event older ih =>
      cases event with
      | arms armed => rfl
      | looks reading => simp only [after, step, look_guard, ih, after_seen, Unmet]

/-- After a history, a look at a key announces it exactly when it is not the last key
read and not an unmet one. -/
theorem after_announces_iff :
    ((watch.after history).look (some key)).2 = some key ↔
      lastRead watch history ≠ some key ∧ ¬ Unmet watch key history := by
  rw [look_announces_iff, after_seen, ne_eq (after watch history).guard, after_guard]

instance : Decidable (Unmet watch key history) :=
  decidable_of_iff _ (after_guard watch)

end History

end Watch

end AirPaste.Theory
