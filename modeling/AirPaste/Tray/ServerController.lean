/-
# Tray.ServerController — the embedded server, started and stopped from the tray

`start` spawns a task that opens the database, serves until its shutdown channel resolves, and
then writes how it ended to the shared status, whatever has been started since.  A controller
is the status, the stored sender, the tasks spawned so far and the database file they share;
the calls come one after the other, and the tasks move in between, also between the locks of
one call.

The database is open in one store at a time.  A store is dropped some time after `serve` has
returned, with the last connection that was upgraded to a websocket.

The sender stored after a start is always that of the task it spawned (`Sound`), and no two
tasks serve at once (`serving_unique`).  The status is truthful in every state of a run exactly
when no task of an earlier start completes while the newest one has not (`truthful_iff`).
-/
import AirPaste.Theory.Run

namespace AirPaste.Tray

open AirPaste.Theory

set_option autoImplicit false

inductive ServerStatus where
  | off
  | running
  | failed (error : String)
  deriving DecidableEq

/-- The user's calls. -/
inductive UserCall where
  | start
  | stop
  deriving DecidableEq

/-- Where the user's last call stands.  Each of its locks is taken and released by itself. -/
inductive Progress where
  | returned
  /-- `start` has found that the server is not running. -/
  | checked
  /-- `start` has stored the sender of a new channel. -/
  | stored
  /-- `stop` has taken the sender, if there was one, and sent on it. -/
  | taken
  deriving DecidableEq

/-- How far a spawned task is. -/
inductive ServeTask where
  /-- `serve` has not opened the database yet. -/
  | opening
  /-- The database is open: `serve` binds, serves, or drains its connections. -/
  | serving
  /-- `serve` has returned, and the task has not written the status. -/
  | returned (result : Except String Unit)
  | completed
  deriving DecidableEq

structure ServerController where
  status : ServerStatus
  /-- The task whose shutdown sender is stored. -/
  shutdown : Option Nat
  /-- The tasks in the order of their starts. -/
  tasks : List ServeTask
  /-- The task whose store has the database open. -/
  database : Option Nat
  lastCall : Option UserCall
  progress : Progress

inductive ControllerEvent where
  | start
  | stop
  /-- The call in progress takes its next lock. -/
  | goOn
  | opens (task : Nat)
  /-- `Store::open` fails, as it does whenever another store has the database open. -/
  | openFails (task : Nat) (error : String)
  /-- `serve` returns. -/
  | returns (task : Nat) (result : Except String Unit)
  /-- The store of a `serve` that has returned is dropped. -/
  | closes
  /-- The task writes the status, and is done. -/
  | completes (task : Nat)

namespace ServerController

def new : ServerController := ⟨.off, none, [], none, none, .returned⟩

def isRunning (controller : ServerController) : Bool := controller.status == .running

/-- The status a task ends with. -/
def endStatus : Except String Unit → ServerStatus
  | .ok () => .off
  | .error error => .failed error

def setTask (controller : ServerController) (task : Nat) (next : ServeTask) : ServerController :=
  { controller with tasks := controller.tasks.set task next }

def opens (controller : ServerController) (task : Nat) : ServerController :=
  match controller.tasks[task]? with
  | some .opening =>
      if controller.database.isNone then
        { controller.setTask task .serving with database := some task }
      else controller
  | _ => controller

def openFails (controller : ServerController) (task : Nat) (error : String) : ServerController :=
  match controller.tasks[task]? with
  | some .opening => controller.setTask task (.returned (.error error))
  | _ => controller

/-- `serve` returns with an error at any time, and cleanly once its shutdown resolves, which it
does when the sender is sent on or dropped. -/
def returns (controller : ServerController) (task : Nat) (result : Except String Unit) :
    ServerController :=
  match controller.tasks[task]? with
  | some .serving =>
      if result.isOk = true ∧ controller.shutdown = some task then controller
      else controller.setTask task (.returned result)
  | _ => controller

def closes (controller : ServerController) : ServerController :=
  match controller.database with
  | none => controller
  | some task =>
      if controller.tasks[task]? = some .serving then controller
      else { controller with database := none }

def completes (controller : ServerController) (task : Nat) : ServerController :=
  match controller.tasks[task]? with
  | some (.returned result) =>
      { controller.setTask task .completed with status := endStatus result }
  | _ => controller

/-- Spawning reads neither the status nor the sender, so it goes with the lock before it. -/
def step (controller : ServerController) : ControllerEvent → ServerController
  | .start =>
      match controller.progress with
      | .returned =>
          if controller.isRunning then { controller with lastCall := some .start }
          else { controller with lastCall := some .start, progress := .checked }
      | _ => controller
  | .stop =>
      match controller.progress with
      | .returned =>
          { controller with shutdown := none, lastCall := some .stop, progress := .taken }
      | _ => controller
  | .goOn =>
      match controller.progress with
      | .returned => controller
      | .checked =>
          { controller with shutdown := some controller.tasks.length, progress := .stored }
      | .stored =>
          { controller with
            status := .running, tasks := controller.tasks ++ [.opening], progress := .returned }
      | .taken => { controller with status := .off, progress := .returned }
  | .opens task => controller.opens task
  | .openFails task error => controller.openFails task error
  | .returns task result => controller.returns task result
  | .closes => controller.closes
  | .completes task => controller.completes task

/-- The user's last call is a start, and it has returned. -/
def Started (controller : ServerController) : Prop :=
  controller.progress = .returned ∧ controller.lastCall = some .start

/-- After a start the status is `Running` just until the newest task completes, and the stored
sender is that task's. -/
def Truthful (controller : ServerController) : Prop :=
  controller.Started → ∃ newest, controller.tasks.length = newest + 1 ∧
    (controller.status = .running ↔ controller.tasks[newest]? ≠ some .completed) ∧
    controller.shutdown = some newest

/-- A task of an earlier start completes while the newest task has not. -/
def Late (controller : ServerController) : ControllerEvent → Prop
  | .completes task =>
      controller.Started ∧ (∃ result, controller.tasks[task]? = some (.returned result)) ∧
        ∃ newest, controller.tasks.length = newest + 1 ∧ task ≠ newest ∧
          controller.tasks[newest]? ≠ some .completed
  | _ => False

/-! ## What the tasks can do -/

/-- The steps of the tasks that leave the status alone. -/
inductive Turn (controller : ServerController) : ServerController → Prop
  | idle : Turn controller controller
  | opened (task : Nat) (opening : controller.tasks[task]? = some .opening)
      (free : controller.database = none) :
      Turn controller { controller.setTask task .serving with database := some task }
  | ended (task : Nat) (result : Except String Unit)
      (unfinished : controller.tasks[task]? = some .opening ∨
        controller.tasks[task]? = some .serving) :
      Turn controller (controller.setTask task (.returned result))
  | closed (task : Nat) (holds : controller.database = some task)
      (ended : controller.tasks[task]? ≠ some .serving) :
      Turn controller { controller with database := none }

section Turns

variable {controller : ServerController}

theorem turn_opens (task : Nat) : Turn controller (controller.opens task) := by
  unfold opens
  split
  · rename_i opening
    split
    · rename_i free
      exact .opened task opening (Option.isNone_iff_eq_none.mp free)
    · exact .idle
  · exact .idle

theorem turn_openFails (task : Nat) (error : String) :
    Turn controller (controller.openFails task error) := by
  unfold openFails
  split
  · rename_i opening
    exact .ended task _ (.inl opening)
  · exact .idle

theorem turn_returns (task : Nat) (result : Except String Unit) :
    Turn controller (controller.returns task result) := by
  unfold returns
  split
  · rename_i serving
    split
    · exact .idle
    · exact .ended task result (.inr serving)
  · exact .idle

theorem turn_closes : Turn controller controller.closes := by
  unfold closes
  split
  · exact .idle
  · rename_i task holds
    split
    · exact .idle
    · rename_i ended
      exact .closed task holds ended

theorem setTask_other {task other : Nat} (apart : task ≠ other) (next : ServeTask) :
    (controller.setTask task next).tasks[other]? = controller.tasks[other]? :=
  List.getElem?_set_ne apart

/-- A task that moves on without completing leaves the completed ones as they are. -/
theorem completed_setTask {task other : Nat} {here next : ServeTask}
    (found : controller.tasks[task]? = some here) (before : here ≠ .completed)
    (after : next ≠ .completed) :
    (controller.setTask task next).tasks[other]? = some .completed ↔
      controller.tasks[other]? = some .completed := by
  have bound : task < controller.tasks.length := (List.getElem?_eq_some_iff.mp found).1
  by_cases own : task = other
  · subst own
    have set : (controller.setTask task next).tasks[task]? = some next :=
      List.getElem?_set_self bound
    rw [set, found, Option.some.injEq, Option.some.injEq]
    exact iff_of_false after before
  · rw [setTask_other own]

/-- Such a step changes neither the calls, the sender and the status, nor which tasks have
completed. -/
theorem Turn.keeps {next : ServerController} (turn : Turn controller next) :
    next.status = controller.status ∧ next.shutdown = controller.shutdown ∧
      next.tasks.length = controller.tasks.length ∧ next.lastCall = controller.lastCall ∧
      next.progress = controller.progress ∧
      ∀ task : Nat, next.tasks[task]? = some .completed ↔
        controller.tasks[task]? = some .completed := by
  cases turn with
  | idle => exact ⟨rfl, rfl, rfl, rfl, rfl, fun _ => Iff.rfl⟩
  | opened task opening free =>
      exact ⟨rfl, rfl, List.length_set, rfl, rfl, fun _ => completed_setTask opening nofun nofun⟩
  | ended task result unfinished =>
      refine ⟨rfl, rfl, List.length_set, rfl, rfl, fun _ => ?_⟩
      rcases unfinished with opening | serving
      · exact completed_setTask opening nofun nofun
      · exact completed_setTask serving nofun nofun
  | closed task holds ended => exact ⟨rfl, rfl, rfl, rfl, rfl, fun _ => Iff.rfl⟩

end Turns

/-! ## What every run keeps -/

/-- Which call is in progress, what it has stored, when the status may be `Running`, and who
serves. -/
structure Sound (controller : ServerController) : Prop where
  starting : controller.progress = .checked ∨ controller.progress = .stored →
    controller.lastCall = some .start
  stopping : controller.progress = .taken → controller.lastCall = some .stop
  stored : controller.progress = .stored → controller.shutdown = some controller.tasks.length
  idle : controller.progress = .returned → controller.lastCall ≠ some .start →
    controller.status ≠ .running
  sender : controller.Started →
    ∃ newest, controller.tasks.length = newest + 1 ∧ controller.shutdown = some newest
  locked : ∀ task : Nat, controller.tasks[task]? = some .serving →
    controller.database = some task

theorem sound_new : Sound new where
  starting := by rintro (checked | stored) <;> contradiction
  stopping := nofun
  stored := nofun
  idle := nofun
  sender := fun started => nomatch started.2
  locked := fun _ serving => nomatch serving

theorem endStatus_ne_running (result : Except String Unit) : endStatus result ≠ .running := by
  rcases result with error | ⟨⟨⟩⟩
  · exact nofun
  · exact nofun

variable {controller : ServerController}

theorem sound_start (sound : Sound controller) : Sound (controller.step .start) := by
  cases progress : controller.progress with
  | returned =>
      simp only [step, progress]
      split
      · rename_i running
        have sender := sound.sender
        -- The server runs, so the call before this one was a start as well.
        by_cases before : controller.lastCall = some .start
        · exact ⟨fun _ => rfl, nofun, nofun, fun _ other => absurd rfl other,
            fun _ => sender ⟨progress, before⟩, sound.locked⟩
        · exact absurd (beq_iff_eq.mp running) (sound.idle progress before)
      · exact ⟨fun _ => rfl, nofun, nofun, nofun, fun started => (nomatch started.1),
          sound.locked⟩
  | _ =>
      simp only [step, progress]
      exact sound

theorem sound_stop (sound : Sound controller) : Sound (controller.step .stop) := by
  cases progress : controller.progress with
  | returned =>
      simp only [step, progress]
      exact ⟨by rintro (checked | stored) <;> contradiction, fun _ => rfl, nofun,
        nofun, fun started => (nomatch started.1), sound.locked⟩
  | _ =>
      simp only [step, progress]
      exact sound

theorem sound_goOn (sound : Sound controller) : Sound (controller.step .goOn) := by
  cases progress : controller.progress with
  | returned =>
      simp only [step, progress]
      exact sound
  | checked =>
      simp only [step, progress]
      exact ⟨fun _ => sound.starting (.inl progress), nofun, fun _ => rfl, nofun,
        fun started => (nomatch started.1), sound.locked⟩
  | stored =>
      have own := sound.starting (.inr progress)
      simp only [step, progress]
      refine ⟨by rintro (checked | stored) <;> contradiction, nofun, nofun,
        fun _ other => absurd own other,
        fun _ => ⟨controller.tasks.length, List.length_append, sound.stored progress⟩,
        fun task serving => ?_⟩
      rw [List.getElem?_append] at serving
      split at serving
      · exact sound.locked task serving
      · cases List.mem_singleton.mp (List.mem_of_getElem? serving)
  | taken =>
      have own := sound.stopping progress
      simp only [step, progress]
      exact ⟨by rintro (checked | stored) <;> contradiction, nofun, nofun,
        fun _ _ => nofun, fun started => (nomatch own.symm.trans started.2), sound.locked⟩

/-- The place of a task after a step that may have set another. -/
theorem serving_setTask {task other : Nat} {next : ServeTask}
    (serving : (controller.setTask task next).tasks[other]? = some .serving)
    (elsewhere : next ≠ .serving) : controller.tasks[other]? = some .serving := by
  by_cases own : task = other
  · subst own
    obtain ⟨bound, here⟩ := List.getElem?_eq_some_iff.mp serving
    exact absurd ((List.getElem_set_self _).symm.trans here) elsewhere
  · rwa [setTask_other own] at serving

theorem sound_turn {next : ServerController} (sound : Sound controller)
    (turn : Turn controller next) : Sound next := by
  obtain ⟨status, shutdown, length, lastCall, progress, -⟩ := turn.keeps
  refine ⟨?_, ?_, ?_, ?_, ?_, ?_⟩
  · rw [progress, lastCall]
    exact sound.starting
  · rw [progress, lastCall]
    exact sound.stopping
  · rw [progress, shutdown, length]
    exact sound.stored
  · rw [progress, lastCall, status]
    exact sound.idle
  · unfold Started
    rw [progress, lastCall, length, shutdown]
    exact sound.sender
  · intro other serving
    cases turn with
    | idle => exact sound.locked other serving
    | opened task opening free =>
        by_cases own : task = other
        · exact congrArg some own
        · have before := (setTask_other own _).symm.trans serving
          cases free.symm.trans (sound.locked other before)
    | ended task result unfinished => exact sound.locked other (serving_setTask serving nofun)
    | closed task holds ended =>
        cases holds.symm.trans (sound.locked other serving)
        exact absurd serving ended

theorem sound_completes (sound : Sound controller) (task : Nat) :
    Sound (controller.completes task) := by
  unfold completes
  split
  · rename_i result _
    refine ⟨sound.starting, sound.stopping, fun stored => ?_,
      fun _ _ => endStatus_ne_running result, fun started => ?_, fun other serving => ?_⟩
    · exact (sound.stored stored).trans (congrArg some List.length_set.symm)
    · obtain ⟨newest, length, sender⟩ := sound.sender started
      exact ⟨newest, List.length_set.trans length, sender⟩
    · exact sound.locked other (serving_setTask serving nofun)
  · exact sound

theorem sound_step (controller : ServerController) (event : ControllerEvent)
    (sound : Sound controller) : Sound (controller.step event) := by
  cases event with
  | start => exact sound_start sound
  | stop => exact sound_stop sound
  | goOn => exact sound_goOn sound
  | opens task => exact sound_turn sound (turn_opens task)
  | openFails task error => exact sound_turn sound (turn_openFails task error)
  | returns task result => exact sound_turn sound (turn_returns task result)
  | closes => exact sound_turn sound turn_closes
  | completes task => exact sound_completes sound task

/-- No two tasks serve at once. -/
theorem serving_unique (events : List ControllerEvent) {first second : Nat}
    (one : (runFrom step new events).tasks[first]? = some .serving)
    (other : (runFrom step new events).tasks[second]? = some .serving) : first = second := by
  have sound : Sound (runFrom step new events) := run_preserves sound_step sound_new events
  exact Option.some.inj ((sound.locked first one).symm.trans (sound.locked second other))

/-! ## The status -/

/-- The user's calls keep the status truthful. -/
theorem truthful_call (sound : Sound controller) (truthful : controller.Truthful) :
    (controller.step .start).Truthful ∧ (controller.step .stop).Truthful ∧
      (controller.step .goOn).Truthful := by
  refine ⟨?_, ?_, ?_⟩
  · cases progress : controller.progress with
    | returned =>
        simp only [step, progress]
        split
        · rename_i running
          by_cases before : controller.lastCall = some .start
          · exact fun _ => truthful ⟨progress, before⟩
          · exact absurd (beq_iff_eq.mp running) (sound.idle progress before)
        · exact fun started => nomatch started.1
    | _ =>
        simp only [step, progress]
        exact truthful
  · cases progress : controller.progress with
    | returned =>
        simp only [step, progress]
        exact fun started => nomatch started.1
    | _ =>
        simp only [step, progress]
        exact truthful
  · cases progress : controller.progress with
    | returned =>
        simp only [step, progress]
        exact truthful
    | checked =>
        simp only [step, progress]
        exact fun started => nomatch started.1
    | stored =>
        simp only [step, progress]
        refine fun _ => ⟨controller.tasks.length, List.length_append, ⟨fun _ done => ?_,
          fun _ => rfl⟩, sound.stored progress⟩
        rw [List.getElem?_concat_length] at done
        cases done
    | taken =>
        have own := sound.stopping progress
        simp only [step, progress]
        exact fun started => nomatch own.symm.trans started.2

theorem truthful_turn {next : ServerController} (truthful : controller.Truthful)
    (turn : Turn controller next) : next.Truthful := by
  obtain ⟨status, shutdown, length, lastCall, progress, completed⟩ := turn.keeps
  intro started
  unfold Started at started
  rw [progress, lastCall] at started
  obtain ⟨newest, count, running, sender⟩ := truthful started
  refine ⟨newest, length.trans count, ?_, shutdown.trans sender⟩
  rw [status, running]
  exact not_congr (completed newest).symm

/-- A completion keeps the status truthful exactly when it is not late. -/
theorem truthful_completes_iff (truthful : controller.Truthful) (task : Nat) :
    (controller.step (.completes task)).Truthful ↔ ¬ controller.Late (.completes task) := by
  show (controller.completes task).Truthful ↔ _
  unfold completes
  split
  · rename_i result ended
    by_cases started : controller.Started
    · obtain ⟨newest, count, running, sender⟩ := truthful started
      have length : (controller.setTask task .completed).tasks.length = newest + 1 :=
        List.length_set.trans count
      have down : endStatus result ≠ .running := endStatus_ne_running result
      by_cases still : task ≠ newest ∧ controller.tasks[newest]? ≠ some .completed
      · refine iff_of_false (fun claims => ?_) fun fine =>
          fine ⟨started, ⟨result, ended⟩, newest, count, still⟩
        obtain ⟨other, sameCount, shown, -⟩ := claims started
        obtain rfl := Nat.succ.inj (length.symm.trans sameCount)
        refine down (shown.mpr ?_)
        exact fun done => still.2 ((setTask_other still.1 _).symm.trans done)
      · refine iff_of_true
          (fun _ => ⟨newest, length, ⟨fun shown => absurd shown down, fun runs => ?_⟩, sender⟩) ?_
        · refine absurd ⟨fun own => ?_, fun done => ?_⟩ still
          · subst own
            exact runs (List.getElem?_set_self (List.getElem?_eq_some_iff.mp ended).1)
          · by_cases own : task = newest
            · subst own
              cases ended.symm.trans done
            · exact runs ((setTask_other own _).trans done)
        · rintro ⟨-, -, other, sameCount, different, runs⟩
          obtain rfl := Nat.succ.inj (count.symm.trans sameCount)
          exact still ⟨different, runs⟩
    · exact iff_of_true (fun other => absurd other started) fun late => started late.1
  · rename_i other
    exact iff_of_true truthful fun late => other _ late.2.1.choose_spec

theorem truthful_step_iff (controller : ServerController) (event : ControllerEvent)
    (sound : Sound controller) (truthful : controller.Truthful) :
    (controller.step event).Truthful ↔ ¬ controller.Late event := by
  obtain ⟨start, stop, goOn⟩ := truthful_call sound truthful
  cases event with
  | start => exact iff_of_true start not_false
  | stop => exact iff_of_true stop not_false
  | goOn => exact iff_of_true goOn not_false
  | opens task => exact iff_of_true (truthful_turn truthful (turn_opens task)) not_false
  | openFails task error =>
      exact iff_of_true (truthful_turn truthful (turn_openFails task error)) not_false
  | returns task result =>
      exact iff_of_true (truthful_turn truthful (turn_returns task result)) not_false
  | closes => exact iff_of_true (truthful_turn truthful turn_closes) not_false
  | completes task => exact truthful_completes_iff truthful task

/-- **The status is truthful throughout a run exactly when no completion in it is late.** -/
theorem truthful_iff (events : List ControllerEvent) :
    Throughout step Truthful new events ↔
      Along step (fun controller event => ¬ controller.Late event) new events :=
  throughout_iff sound_step truthful_step_iff sound_new fun started => nomatch started.2

end ServerController

/-! ## Off and on again -/

namespace OffAndOn

open ServerController

def on : List ControllerEvent := [.start, .goOn, .goOn]

def off : List ControllerEvent := [.stop, .goOn]

/-- The first `serve` returns and its store is dropped, the server is turned on again, and the
second task opens the database; then the first one writes the status. -/
def overtaken : List ControllerEvent :=
  on ++ [.opens 0] ++ off ++ [.returns 0 (.ok ()), .closes] ++ on ++ [.opens 1, .completes 0]

/-- The second task serves, and the status says that nothing runs. -/
theorem overtaken_serves :
    (runFrom step new overtaken).tasks = [.completed, .serving] ∧
      (runFrom step new overtaken).status = .off := by decide

/-- Refuting pole: the first task writes `Off` over the `Running` of the second. -/
theorem overtaken_untruthful : ¬ ∀ events, Throughout step Truthful new events := by
  intro always
  obtain ⟨tasks, status⟩ := overtaken_serves
  have last : (runFrom step new overtaken).Truthful :=
    always overtaken overtaken [] (List.append_nil _).symm
  obtain ⟨newest, count, shown, -⟩ := last ⟨by decide, by decide⟩
  rw [tasks] at count shown
  obtain rfl : 1 = newest := Nat.succ.inj count
  exact nomatch status.symm.trans (shown.mpr (by decide))

end OffAndOn

end AirPaste.Tray
