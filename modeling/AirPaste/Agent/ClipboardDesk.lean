/-
# Agent.ClipboardDesk — the clipboard between the user, the agent and the loop

`Desk` is the clipboard with the agent around it: the user copies, the event handler
applies remote texts and files, the mode is switched, and the loop ticks, each in one step.
Next to what the code keeps, a desk records who put the present content there and in which
mode, and for each channel what its guard and its memory went through, newest first; no
step reads these records.

A tick then announces a file list exactly when it is not the last one that was read and
not one of the agent's that is still unmet (`recorded_announcesFiles_iff`), and likewise a text
(`recorded_announcesText_iff`).
-/
import AirPaste.Agent.ClipboardPoll

namespace AirPaste.Agent

open AirPaste.Theory

set_option autoImplicit false

structure Desk (P : Type) where
  poll : PollState
  clipboard : Clipboard P
  isolated : Bool
  /-- The content was put there by the agent, not by the user. -/
  fromAgent : Bool
  /-- The content was put there while isolated mode was on. -/
  placedIsolated : Bool
  textHistory : List (WatchEvent String)
  filesHistory : List (WatchEvent String)

inductive DeskEvent (P : Type) where
  | copies (content : Clipboard P)
  | appliesText (text : String)
  | appliesFiles (files : List P)
  | setsIsolated (value : Bool)
  | ticks (filesFail textFail : Bool)

namespace Desk

variable {P : Type} (toStringLossy : P → String) (textPublishSkipReason : String → Option String)

/-- The user copies something. -/
def copies (desk : Desk P) (content : Clipboard P) : Desk P :=
  { desk with clipboard := content, fromAgent := false, placedIsolated := desk.isolated }

/-- A remote text: in system mode it is put on the clipboard and recorded; in isolated mode
it goes to the inbox. -/
def appliesText (desk : Desk P) (text : String) : Desk P :=
  if desk.isolated then desk
  else
    { desk with
      clipboard := ⟨none, some text⟩
      poll := { desk.poll with lastLocalWrite := some text }
      fromAgent := true
      placedIsolated := false
      textHistory := .arms (some text) :: desk.textHistory }

/-- The downloaded files of a clip; `set_files` leaves the clipboard alone without files. -/
def appliesFiles (desk : Desk P) (files : List P) : Desk P :=
  if files.isEmpty then desk
  else
    { desk with
      clipboard := ⟨some files, none⟩
      poll := { desk.poll with lastLocalFileWrite := clipboardSignature toStringLossy files }
      fromAgent := true
      placedIsolated := desk.isolated
      filesHistory := .arms (clipboardSignature toStringLossy files) :: desk.filesHistory }

/-- What a tick reads of the text channel. -/
def textRead (desk : Desk P) (filesFail textFail : Bool) : Option String :=
  Agent.textRead toStringLossy desk.poll desk.isolated (desk.clipboard.getFiles filesFail)
    (desk.clipboard.getText textFail)

/-- What a tick reads of the file channel. -/
def filesRead (desk : Desk P) (filesFail : Bool) : Option String :=
  filesKey toStringLossy (desk.clipboard.getFiles filesFail)

/-- A round of the loop: the memory it leaves, and what it announces. -/
def tick (desk : Desk P) (filesFail textFail : Bool) : PollState × Option (Announced P) :=
  pollTick toStringLossy textPublishSkipReason desk.poll desk.isolated
    (desk.clipboard.getFiles filesFail) (desk.clipboard.getText textFail)

def step (desk : Desk P) : DeskEvent P → Desk P
  | .copies content => desk.copies content
  | .appliesText text => desk.appliesText text
  | .appliesFiles files => desk.appliesFiles toStringLossy files
  | .setsIsolated value => { desk with isolated := value }
  | .ticks filesFail textFail =>
      { desk with
        poll := (desk.tick toStringLossy textPublishSkipReason filesFail textFail).1
        textHistory := .looks (desk.textRead toStringLossy filesFail textFail) :: desk.textHistory
        filesHistory := .looks (desk.filesRead toStringLossy filesFail) :: desk.filesHistory }

/-- A desk whose records are still empty. -/
def Fresh (desk : Desk P) : Prop := desk.textHistory = [] ∧ desk.filesHistory = []

/-- Each channel stands as its record says, from where it started. -/
structure Recorded (start : PollState) (desk : Desk P) : Prop where
  text : desk.poll.text = start.text.after desk.textHistory
  files : desk.poll.files = start.files.after desk.filesHistory

variable {toStringLossy textPublishSkipReason} {start : PollState} {desk : Desk P}

theorem step_recorded (event : DeskEvent P) (recorded : Recorded start desk) :
    Recorded start (desk.step toStringLossy textPublishSkipReason event) := by
  cases event with
  | copies content => exact ⟨recorded.text, recorded.files⟩
  | setsIsolated value => exact ⟨recorded.text, recorded.files⟩
  | appliesText text =>
      simp only [step, appliesText]
      split
      · exact recorded
      · refine ⟨?_, recorded.files⟩
        rw [Watch.after, ← recorded.text]
        rfl
  | appliesFiles files =>
      simp only [step, appliesFiles]
      split
      · exact recorded
      · refine ⟨recorded.text, ?_⟩
        rw [Watch.after, ← recorded.files]
        rfl
  | ticks filesFail textFail =>
      constructor
      · simp only [step, tick, Watch.after]
        rw [pollTick_text, recorded.text]
        rfl
      · simp only [step, tick, Watch.after]
        rw [pollTick_files, recorded.files]
        rfl

theorem Fresh.recorded (fresh : desk.Fresh) : Recorded desk.poll desk := by
  constructor
  · rw [fresh.1]
    rfl
  · rw [fresh.2]
    rfl

theorem run_recorded (fresh : desk.Fresh) (events : List (DeskEvent P)) :
    Recorded desk.poll (runFrom (step toStringLossy textPublishSkipReason) desk events) :=
  run_preserves (fun _ event => step_recorded event) fresh.recorded events

/-- A tick announces a file list exactly when it reads it, and it is neither the last list
read nor one the agent put there that no tick has met. -/
theorem recorded_announcesFiles_iff {files : List P} {filesFail textFail : Bool}
    (recorded : Recorded start desk) :
    (desk.tick toStringLossy textPublishSkipReason filesFail textFail).2 = some (.files files) ↔
      desk.clipboard.getFiles filesFail = .held files ∧
        ∃ key, clipboardSignature toStringLossy files = some key ∧
          start.files.lastRead desk.filesHistory ≠ some key ∧
          ¬ start.files.Unmet key desk.filesHistory := by
  simp only [tick, pollTick_files_iff, recorded.files, Watch.after_announces_iff]

/-- A tick announces a text exactly when it reads it, it is neither the last text read nor
one the agent put there that no tick has met, and the filter lets it pass. -/
theorem recorded_announcesText_iff {text : String} {filesFail textFail : Bool}
    (recorded : Recorded start desk) :
    (desk.tick toStringLossy textPublishSkipReason filesFail textFail).2 = some (.text text) ↔
      desk.textRead toStringLossy filesFail textFail = some text ∧
        (start.text.lastRead desk.textHistory ≠ some text ∧
          ¬ start.text.Unmet text desk.textHistory) ∧ textPublishSkipReason text = none := by
  simp only [tick, pollTick_text_iff, recorded.text, Watch.after_announces_iff, textRead]

end Desk

/-! ## A copy after a remote text -/

/-- The events of a desk that only texts come to. -/
inductive TextEvent where
  | copies (text : String)
  | applies (text : String)
  | ticks

def TextEvent.event {P : Type} : TextEvent → DeskEvent P
  | .copies text => .copies ⟨none, some text⟩
  | .applies text => .appliesText text
  | .ticks => .ticks false false

section Texts

variable {P : Type} {toStringLossy : P → String} {textPublishSkipReason : String → Option String}
  {desk : Desk P} {text : String}

/-- The desk after a run of text events. -/
def afterTexts (toStringLossy : P → String) (textPublishSkipReason : String → Option String)
    (desk : Desk P) (events : List TextEvent) : Desk P :=
  runFrom (Desk.step toStringLossy textPublishSkipReason) desk (events.map TextEvent.event)

theorem afterTexts_system (system : desk.isolated = false) (events : List TextEvent) :
    (afterTexts toStringLossy textPublishSkipReason desk events).isolated = false := by
  unfold afterTexts
  induction events generalizing desk with
  | nil => exact system
  | cons event rest ih =>
      apply ih
      cases event with
      | copies text => exact system
      | ticks => exact system
      | applies text => simp [TextEvent.event, Desk.step, Desk.appliesText, system]

theorem afterTexts_copied (events : List TextEvent) :
    (afterTexts toStringLossy textPublishSkipReason desk (events ++ [.copies text])).clipboard =
      ⟨none, some text⟩ := by
  simp [afterTexts, runFrom_append, TextEvent.event, Desk.step, Desk.copies]

/-- In system mode, after any remote texts, copies and ticks: a text the user copies is
published by the next tick exactly when it is not empty, it is not the last text that was
read, and it is not a remote text still unmet. -/
theorem copyPublished_iff (fresh : desk.Fresh) (system : desk.isolated = false)
    (passes : textPublishSkipReason text = none) (events : List TextEvent) :
    let later := afterTexts toStringLossy textPublishSkipReason desk (events ++ [.copies text])
    (later.tick toStringLossy textPublishSkipReason false false).2 = some (.text text) ↔
      text ≠ "" ∧ desk.poll.text.lastRead later.textHistory ≠ some text ∧
        ¬ desk.poll.text.Unmet text later.textHistory := by
  intro later
  have recorded : later.Recorded desk.poll := Desk.run_recorded fresh _
  have holds : later.clipboard = ⟨none, some text⟩ := afterTexts_copied events
  have inSystem : later.isolated = false := afterTexts_system system _
  have reads : later.textRead toStringLossy false false = some text ↔ text ≠ "" := by
    simp [Desk.textRead, textRead, holds, inSystem, Clipboard.getFiles, Clipboard.getText,
      filesNews, textKey_eq_some_iff]
  rw [Desk.recorded_announcesText_iff recorded, reads]
  simp only [passes, and_true]

end Texts

namespace Swallowed

/-- The agent starts over an agenda on the clipboard. -/
def start : Desk String where
  poll := pollStart id .absent (.held "agenda")
  clipboard := ⟨none, some "agenda"⟩
  isolated := false
  fromAgent := false
  placedIsolated := false
  textHistory := []
  filesHistory := []

/-- The same agenda arrives from another device, then the user copies a draft. -/
def upToDraft : List TextEvent := [.applies "agenda", .ticks, .copies "draft"]

/-- The tick over the draft clears no guard.  The user copies the agenda, which no tick has
read since, and the next tick keeps silent. -/
theorem agenda_swallowed :
    let beforeTick := afterTexts id (textPublishSkipReason defaultPolicy) start upToDraft
    let later := afterTexts id (textPublishSkipReason defaultPolicy) start
      (upToDraft ++ [.ticks, .copies "agenda"])
    beforeTick.clipboard.text ≠ some "agenda" ∧
      textPublishSkipReason defaultPolicy "agenda" = none ∧
      later.clipboard = ⟨none, some "agenda"⟩ ∧
      (later.tick id (textPublishSkipReason defaultPolicy) false false).2 ≠
        some (.text "agenda") := by
  decide +kernel

/-- Where another text came from the other device, the agenda is published. -/
theorem agenda_published :
    let later := afterTexts id (textPublishSkipReason defaultPolicy) start
      [.applies "minutes", .ticks, .copies "draft", .ticks, .copies "agenda"]
    (later.tick id (textPublishSkipReason defaultPolicy) false false).2 =
      some (.text "agenda") := by
  have passes : textPublishSkipReason defaultPolicy "agenda" = none := by decide +kernel
  exact (copyPublished_iff ⟨rfl, rfl⟩ rfl passes
    [.applies "minutes", .ticks, .copies "draft", .ticks]).mpr (by decide +kernel)

end Swallowed

/-! ## Files copied again -/

section Files

variable {P : Type} {toStringLossy : P → String} {textPublishSkipReason : String → Option String}
  {desk : Desk P}

/-- In either mode, after any run: a tick that sees a file list announces it exactly when
its signature is neither that of the last list read nor that of a list of the agent's that
is still unmet. -/
theorem filesAnnounced_iff (fresh : desk.Fresh) (events : List (DeskEvent P)) {files : List P}
    {key : String} (textFail : Bool) (signed : clipboardSignature toStringLossy files = some key) :
    let later := runFrom (Desk.step toStringLossy textPublishSkipReason) desk events
    later.clipboard.files = some files →
      ((later.tick toStringLossy textPublishSkipReason false textFail).2 = some (.files files) ↔
        desk.poll.files.lastRead later.filesHistory ≠ some key ∧
          ¬ desk.poll.files.Unmet key later.filesHistory) := by
  intro later sees
  have recorded : later.Recorded desk.poll := Desk.run_recorded fresh events
  have reads : later.clipboard.getFiles false = .held files := by simp [Clipboard.getFiles, sees]
  rw [Desk.recorded_announcesFiles_iff recorded]
  constructor
  · rintro ⟨-, other, otherSigned, news⟩
    cases signed.symm.trans otherSigned
    exact news
  · intro news
    exact ⟨reads, key, signed, news⟩

end Files

namespace Recopied

/-- The agent starts over an empty clipboard. -/
def start : Desk String where
  poll := pollStart id .absent .absent
  clipboard := ⟨none, none⟩
  isolated := false
  fromAgent := false
  placedIsolated := false
  textHistory := []
  filesHistory := []

def report : Clipboard String := ⟨some ["/home/u/report.pdf"], none⟩

/-- The user copies a file, which a tick announces, and a text, which a tick reads; then the
same file again.  The next tick does not announce it. -/
theorem report_notAnnounced :
    let before := runFrom (Desk.step id (textPublishSkipReason defaultPolicy)) start
      [.copies report, .ticks false false, .copies ⟨none, some "draft"⟩]
    let later := runFrom (Desk.step id (textPublishSkipReason defaultPolicy)) before
      [.ticks false false, .copies report]
    before.clipboard.files = none ∧ later.clipboard = report ∧ later.fromAgent = false ∧
      (later.tick id (textPublishSkipReason defaultPolicy) false false).2 ≠
        some (.files ["/home/u/report.pdf"]) := by
  decide +kernel

/-- With another file in between it is announced. -/
theorem report_announced :
    let later := runFrom (Desk.step id (textPublishSkipReason defaultPolicy)) start
      [.copies report, .ticks false false, .copies ⟨some ["/home/u/slides.pdf"], none⟩,
        .ticks false false, .copies report]
    (later.tick id (textPublishSkipReason defaultPolicy) false false).2 =
      some (.files ["/home/u/report.pdf"]) := by
  have signed : clipboardSignature id ["/home/u/report.pdf"] = some "/home/u/report.pdf" := by
    decide +kernel
  exact (filesAnnounced_iff ⟨rfl, rfl⟩
    [.copies report, .ticks false false, .copies ⟨some ["/home/u/slides.pdf"], none⟩,
      .ticks false false, .copies report] false signed rfl).mpr (by decide +kernel)

end Recopied

/-! ## Texts copied in isolated mode -/

section Isolated

variable {P : Type} (toStringLossy : P → String) (textPublishSkipReason : String → Option String)

/-- A text that a tick announces was put on the clipboard while isolated mode was off. -/
def StaysLocal (desk : Desk P) (event : DeskEvent P) : Prop :=
  ∀ filesFail textFail text, event = .ticks filesFail textFail →
    (desk.tick toStringLossy textPublishSkipReason filesFail textFail).2 = some (.text text) →
    desk.placedIsolated = false

/-- A tick that reads a text put there in isolated mode reads the last text it read, a
remote text still unmet, or one that the filter holds back. -/
def HeldBack (start : PollState) (desk : Desk P) (event : DeskEvent P) : Prop :=
  ∀ filesFail textFail text, event = .ticks filesFail textFail → desk.placedIsolated = true →
    desk.textRead toStringLossy filesFail textFail = some text →
    start.text.lastRead desk.textHistory = some text ∨
      start.text.Unmet text desk.textHistory ∨ textPublishSkipReason text ≠ none

variable {toStringLossy textPublishSkipReason}

theorem staysLocal_iff {start : PollState} {desk : Desk P} {event : DeskEvent P}
    (recorded : desk.Recorded start) :
    StaysLocal toStringLossy textPublishSkipReason desk event ↔
      HeldBack toStringLossy textPublishSkipReason start desk event := by
  simp only [StaysLocal, HeldBack, Desk.recorded_announcesText_iff recorded]
  refine forall_congr' fun filesFail => forall_congr' fun textFail => forall_congr' fun text =>
    forall_congr' fun _ => ?_
  cases desk.placedIsolated with
  | false => simp
  | true => tauto

/-- Over any run, no tick announces a text that was put on the clipboard in isolated mode
exactly when each tick that reads such a text has a reason to hold it back. -/
theorem isolatedStaysLocal_iff {desk : Desk P} (fresh : desk.Fresh) (events : List (DeskEvent P)) :
    Along (Desk.step toStringLossy textPublishSkipReason)
        (StaysLocal toStringLossy textPublishSkipReason) desk events ↔
      Along (Desk.step toStringLossy textPublishSkipReason)
        (HeldBack toStringLossy textPublishSkipReason desk.poll) desk events :=
  along_congr (fun _ event => Desk.step_recorded event) (fun _ _ => staysLocal_iff) fresh.recorded

end Isolated

namespace SwitchedOff

/-- The agent starts in isolated mode. -/
def start : Desk String := { Recopied.start with isolated := true }

/-- The user copies a text in isolated mode and switches it off: the next tick announces
the text. -/
theorem note_leaks :
    ¬ Along (Desk.step id (textPublishSkipReason defaultPolicy))
      (StaysLocal id (textPublishSkipReason defaultPolicy)) start
      [.copies ⟨none, some "note"⟩, .ticks false false, .setsIsolated false,
        .ticks false false] := by
  intro along
  have leaked := along.2.2.2.1 false false "note" rfl (by decide +kernel)
  exact absurd leaked (by decide +kernel)

/-- With the text replaced first, nothing leaks. -/
theorem note_replaced :
    Along (Desk.step id (textPublishSkipReason defaultPolicy))
      (StaysLocal id (textPublishSkipReason defaultPolicy)) start
      [.copies ⟨none, some "note"⟩, .setsIsolated false, .copies ⟨none, some "draft"⟩,
        .ticks false false] := by
  refine (isolatedStaysLocal_iff ⟨rfl, rfl⟩ _).mpr ⟨nofun, nofun, nofun, ?_, trivial⟩
  intro filesFail textFail text _ placed
  cases placed

end SwitchedOff

end AirPaste.Agent
