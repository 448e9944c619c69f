/-
# Tray.SendTab — the draft of the send tab

A click on send spawns a task that publishes a copy of the draft and sets a flag; the task
reports how it went to one status, whichever send that was.  A redraw that finds the status
`Sent` and the flag clears the draft, whatever the draft holds by then.

`clears_sent_iff`: a redraw can clear only a draft that was published, in every state of a
run, exactly when every success that is reported while the flag is set finds such a draft, and
no edit puts another one between the report and the redraw.
-/
import AirPaste.Theory.Run
import AirPaste.Theory.Text

namespace AirPaste.Tray

open AirPaste.Theory

set_option autoImplicit false

inductive SendStatus where
  | sending
  | sent
  | failed (error : String)
  deriving DecidableEq

/-- The status a task ends with. -/
def SendStatus.ofResult : Except String Unit → SendStatus
  | .ok () => .sent
  | .error error => .failed error

/-- Where a task of `send_text` stands: `publish_text_clip` has returned, or not, and the status
is written after that. -/
inductive SendPhase where
  | publishing
  | published (result : Except String Unit)
  | reported (result : Except String Unit)

structure SendTask where
  text : String
  phase : SendPhase

/-- The publish of the task has completed successfully. -/
def SendTask.succeeded (task : SendTask) : Bool :=
  match task.phase with
  | .publishing => false
  | .published result => result.isOk
  | .reported result => result.isOk

structure SendTab where
  sendInput : String
  sendClearPending : Bool
  /-- `send_text_status`. -/
  sendText : Option SendStatus
  /-- The spawned tasks, in the order of the clicks. -/
  tasks : List SendTask

inductive SendEvent where
  | edits (text : String)
  /-- A click on the button, with what the agent's connection is by then. -/
  | clicks (connected hasClient : Bool)
  /-- `publish_text_clip` returns in a task. -/
  | publishes (task : Nat) (result : Except String Unit)
  /-- The task writes the status. -/
  | reports (task : Nat)
  | redraws

namespace SendTab

def new : SendTab := ⟨"", false, none, []⟩

/-- `AgentHandle::send_text`. -/
def send (s : SendTab) (hasClient : Bool) (text : String) : SendTab :=
  if !hasClient then { s with sendText := some (.failed "尚未连接") }
  else
    { s with
      sendText := some .sending
      tasks := s.tasks ++ [⟨text, .publishing⟩] }

def click (s : SendTab) (connected hasClient : Bool) : SendTab :=
  let canSend := connected && Text.trim s.sendInput ≠ ""
  if canSend then { s.send hasClient s.sendInput with sendClearPending := true } else s

def publish (s : SendTab) (task : Nat) (result : Except String Unit) : SendTab :=
  match s.tasks[task]? with
  | some ⟨text, .publishing⟩ => { s with tasks := s.tasks.set task ⟨text, .published result⟩ }
  | _ => s

def report (s : SendTab) (task : Nat) : SendTab :=
  match s.tasks[task]? with
  | some ⟨text, .published result⟩ =>
      { s with
        sendText := some (.ofResult result)
        tasks := s.tasks.set task ⟨text, .reported result⟩ }
  | _ => s

/-- The statuses of `show`. -/
def redraw (s : SendTab) : SendTab :=
  match s.sendText with
  | some .sent =>
      if s.sendClearPending then { s with sendClearPending := false, sendInput := "" } else s
  | some (.failed _) => { s with sendClearPending := false }
  | _ => s

def step (s : SendTab) : SendEvent → SendTab
  | .edits text => { s with sendInput := text }
  | .clicks connected hasClient => s.click connected hasClient
  | .publishes task result => s.publish task result
  | .reports task => s.report task
  | .redraws => s.redraw

/-! ## What a redraw clears -/

/-- A redraw clears the draft. -/
def Clears (s : SendTab) : Prop := s.sendText = some .sent ∧ s.sendClearPending = true

instance (s : SendTab) : Decidable s.Clears := inferInstanceAs (Decidable (_ ∧ _))

/-- The text is one whose publish has completed successfully. -/
def Published (s : SendTab) (text : String) : Prop :=
  ∃ task ∈ s.tasks, task.text = text ∧ task.succeeded = true

instance (s : SendTab) (text : String) : Decidable (s.Published text) :=
  inferInstanceAs (Decidable (∃ task ∈ s.tasks, task.text = text ∧ task.succeeded = true))

/-- A draft that a redraw would clear was published. -/
def Safe (s : SendTab) : Prop := s.Clears → s.Published s.sendInput

/-- A success is reported while a clear is pending only for a draft that was published, and such
a draft is not edited before the redraw into one that was not. -/
def KeepsDraft (s : SendTab) : SendEvent → Prop
  | .edits text => s.Clears → s.Published text
  | .reports task => s.sendClearPending = true →
      (∃ text, s.tasks[task]? = some ⟨text, .published (.ok ())⟩) → s.Published s.sendInput
  | _ => True

/-! ## The tasks -/

variable {s : SendTab}

theorem published_iff {text : String} :
    s.Published text ↔
      ∃ (i : Nat) (task : SendTask),
        s.tasks[i]? = some task ∧ task.text = text ∧ task.succeeded = true := by
  constructor
  · rintro ⟨task, member, same, succeeded⟩
    obtain ⟨i, here⟩ := List.mem_iff_getElem?.mp member
    exact ⟨i, task, here, same, succeeded⟩
  · rintro ⟨i, task, here, same, succeeded⟩
    exact ⟨task, List.mem_of_getElem? here, same, succeeded⟩

/-- A task that goes on keeps what was published. -/
theorem Published.set {t : SendTab} {i : Nat} {task next : SendTask} {text : String}
    (published : s.Published text) (here : s.tasks[i]? = some task)
    (tasks : t.tasks = s.tasks.set i next) (sameText : next.text = task.text)
    (keeps : task.succeeded = true → next.succeeded = true) :
    t.Published text := by
  obtain ⟨j, other, there, same, succeeded⟩ := published_iff.mp published
  have inside : i < s.tasks.length := (List.getElem?_eq_some_iff.mp here).1
  refine published_iff.mpr ?_
  rw [tasks]
  by_cases at_i : i = j
  · subst at_i
    cases here.symm.trans there
    exact ⟨i, next, by simp [inside], sameText.trans same, keeps succeeded⟩
  · exact ⟨j, other, by rw [List.getElem?_set_ne at_i, there], same, succeeded⟩

/-- A task that only reports adds nothing to what was published: taken back, it is a task that
goes on. -/
theorem Published.of_set {t : SendTab} {i : Nat} {task next : SendTask} {text : String}
    (published : t.Published text) (here : s.tasks[i]? = some task)
    (tasks : t.tasks = s.tasks.set i next) (sameText : next.text = task.text)
    (keeps : next.succeeded = true → task.succeeded = true) :
    s.Published text := by
  obtain ⟨inside, at_i⟩ := List.getElem?_eq_some_iff.mp here
  have there : t.tasks[i]? = some next := by
    rw [tasks, List.getElem?_set_self inside]
  have back : s.tasks = t.tasks.set i task := by
    rw [tasks, List.set_set, ← at_i, List.set_getElem_self]
  exact published.set there back sameText.symm keeps

/-! ## Step by step -/

theorem click_safe (connected hasClient : Bool) (safe : s.Safe) :
    (s.click connected hasClient).Safe := by
  unfold click
  dsimp only
  split
  · rintro ⟨sent, -⟩
    unfold send at sent
    split at sent <;> cases sent
  · exact safe

theorem publish_safe (i : Nat) (result : Except String Unit) (safe : s.Safe) :
    (s.publish i result).Safe := by
  unfold publish
  split
  · rename_i text here
    intro clears
    exact (safe clears).set here rfl rfl fun wrong => absurd wrong Bool.false_ne_true
  · exact safe

theorem redraw_safe (safe : s.Safe) : s.redraw.Safe := by
  unfold redraw
  split
  · split
    · rintro ⟨-, pending⟩
      cases pending
    · exact safe
  · rintro ⟨-, pending⟩
    cases pending
  · exact safe

theorem report_safe_iff (i : Nat) (safe : s.Safe) :
    (s.report i).Safe ↔ s.KeepsDraft (.reports i) := by
  unfold report KeepsDraft
  split
  · rename_i text result here
    cases result with
    | error error =>
        refine iff_of_true ?_ ?_
        · rintro ⟨sent, -⟩
          cases sent
        · rintro - ⟨other, there⟩
          cases here.symm.trans there
    | ok done =>
        constructor
        · intro after pending _
          exact (after ⟨rfl, pending⟩).of_set here rfl rfl id
        · rintro keeps ⟨-, pending⟩
          exact (keeps pending ⟨text, here⟩).set here rfl rfl id
  · rename_i other
    refine iff_of_true safe ?_
    rintro - ⟨text, there⟩
    exact absurd there (other text (.ok ()))

theorem step_safe_iff (s : SendTab) (event : SendEvent) (safe : s.Safe) :
    (s.step event).Safe ↔ s.KeepsDraft event := by
  cases event with
  | edits text => exact Iff.rfl
  | clicks connected hasClient => exact iff_of_true (click_safe connected hasClient safe) trivial
  | publishes task result => exact iff_of_true (publish_safe task result safe) trivial
  | reports task => exact report_safe_iff task safe
  | redraws => exact iff_of_true (redraw_safe safe) trivial

/-- **When only a draft that was sent is cleared**: in the runs in which every success that is
reported while a clear is pending finds a published draft, and the draft stays one. -/
theorem clears_sent_iff (events : List SendEvent) :
    (∀ before later, events = before ++ later → (runFrom step new before).Clears →
      (runFrom step new before).Published (runFrom step new before).sendInput) ↔
      Along step KeepsDraft new events := by
  have start : new.Safe := by
    rintro ⟨sent, -⟩
    cases sent
  have keeps : ∀ (s : SendTab) (event : SendEvent), True → True := fun _ _ holds => holds
  exact throughout_iff keeps (fun s event _ => step_safe_iff s event) trivial start

namespace EditedDraft

/-- The draft is extended while it is sent. -/
def events : List SendEvent :=
  [.edits "milk", .clicks true true, .edits "milk and bread", .publishes 0 (.ok ()), .reports 0]

/-- Refuting pole: the redraw clears what was never sent. -/
theorem unsent_cleared : ¬ ∀ events before later : List SendEvent,
    events = before ++ later → (runFrom step new before).Clears →
      (runFrom step new before).Published (runFrom step new before).sendInput := by
  intro always
  have published := always events events [] (List.append_nil _).symm (by decide +kernel)
  exact absurd published (by decide +kernel)

end EditedDraft

end SendTab

end AirPaste.Tray
