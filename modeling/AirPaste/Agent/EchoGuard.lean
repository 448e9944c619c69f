/-
# Agent.EchoGuard — the loop and the event handler, step by step

The event handler puts remote content on the clipboard and records it in the guard in a
second step; the loop reads the clipboard and checks the guard in a second step.  `Interplay`
is the two of them in system mode, with any number of file applies at work next to each
other and the user copying in between.  A step takes place at once; `polls_pollTick` shows
that the steps of the loop, with nothing in between, make up `pollTick`.

The loop publishes no content of the agent's exactly when, at each check of such content,
the write that was recorded last is one of this very content, and the loop has not met it
since (`noEcho_iff`).
-/
import AirPaste.Agent.ClipboardPoll

namespace AirPaste.Agent

open AirPaste.Theory

set_option autoImplicit false

/-- Where the loop stands.  Content it has read and is about to check comes with whether
the agent had put it on the clipboard. -/
inductive PollPhase (P : Type) where
  | waiting
  | filesHeld (files : List P) (fromAgent : Bool)
  | betweenReads
  | textHeld (text : String) (fromAgent : Bool)
  deriving DecidableEq

/-- The clipboard, the loop and the applies of remote content.  `textHistory` and
`filesHistory` record what the guards and the memory of the loop went through, newest
first; no step reads them. -/
structure Interplay (P : Type) where
  poll : PollState
  phase : PollPhase P
  clipboard : Clipboard P
  fromAgent : Bool
  /-- The text the event handler has written and not yet recorded. -/
  unrecordedText : Option String
  /-- The file lists that applies have written and not yet recorded. -/
  unrecordedFiles : List (List P)
  /-- What the loop has published, and whether the agent had put it there. -/
  published : List (Announced P × Bool)
  textHistory : List (WatchEvent String)
  filesHistory : List (WatchEvent String)

inductive InterplayEvent (P : Type) where
  | setsText (text : String)
  | recordsText
  | setsFiles (files : List P)
  /-- One of the applies records its files. -/
  | recordsFiles (apply : Nat)
  | copies (content : Clipboard P)
  /-- The loop takes its next step. -/
  | polls

namespace Interplay

variable {P : Type} (toStringLossy : P → String) (textPublishSkipReason : String → Option String)

/-- The handler handles one event at a time, so it writes no text before it has recorded
the last one. -/
def setsText (s : Interplay P) (text : String) : Interplay P :=
  match s.unrecordedText with
  | some _ => s
  | none =>
      { s with clipboard := ⟨none, some text⟩, fromAgent := true, unrecordedText := some text }

def recordsText (s : Interplay P) : Interplay P :=
  match s.unrecordedText with
  | none => s
  | some text =>
      { s with
        poll := { s.poll with lastLocalWrite := some text }
        unrecordedText := none
        textHistory := .arms (some text) :: s.textHistory }

/-- An apply that has downloaded nothing does not come to `set_files`. -/
def setsFiles (s : Interplay P) (files : List P) : Interplay P :=
  if files.isEmpty then s
  else
    { s with
      clipboard := ⟨some files, none⟩
      fromAgent := true
      unrecordedFiles := files :: s.unrecordedFiles }

def recordsFiles (s : Interplay P) (apply : Nat) : Interplay P :=
  match s.unrecordedFiles[apply]? with
  | none => s
  | some files =>
      { s with
        poll := { s.poll with lastLocalFileWrite := clipboardSignature toStringLossy files }
        unrecordedFiles := s.unrecordedFiles.eraseIdx apply
        filesHistory := .arms (clipboardSignature toStringLossy files) :: s.filesHistory }

def polls (s : Interplay P) : Interplay P :=
  match s.phase with
  | .waiting =>
      match filesNews toStringLossy s.poll (s.clipboard.getFiles false) with
      | some files => { s with phase := .filesHeld files s.fromAgent }
      | none => { s with phase := .betweenReads }
  | .filesHeld files fromAgent =>
      let (poll, announced) := checkFiles toStringLossy s.poll files
      { s with
        poll := poll
        phase := .waiting
        published := announced.toList.map (·, fromAgent) ++ s.published
        filesHistory := .looks (clipboardSignature toStringLossy files) :: s.filesHistory }
  | .betweenReads =>
      match textNews s.poll (s.clipboard.getText false) with
      | some text => { s with phase := .textHeld text s.fromAgent }
      | none => { s with phase := .waiting }
  | .textHeld text fromAgent =>
      let (poll, announced) := checkText textPublishSkipReason s.poll text
      { s with
        poll := poll
        phase := .waiting
        published := announced.toList.map (·, fromAgent) ++ s.published
        textHistory := .looks (some text) :: s.textHistory }

def step (s : Interplay P) : InterplayEvent P → Interplay P
  | .setsText text => s.setsText text
  | .recordsText => s.recordsText
  | .setsFiles files => s.setsFiles files
  | .recordsFiles apply => s.recordsFiles toStringLossy apply
  | .copies content => { s with clipboard := content, fromAgent := false }
  | .polls => s.polls toStringLossy textPublishSkipReason

/-- The loop is about to begin a round, and nothing is recorded yet. -/
structure Fresh (s : Interplay P) : Prop where
  phase : s.phase = .waiting
  published : s.published = []
  textHistory : s.textHistory = []
  filesHistory : s.filesHistory = []

/-- The loop has published nothing that the agent had put on the clipboard. -/
def NoEcho (s : Interplay P) : Prop := ∀ announced, (announced, true) ∉ s.published

/-- Where the loop is about to check content that the agent had put there, and which the
filter lets pass, the write recorded last is one of this content, and the loop has not met
it since. -/
def LastRecorded (start : PollState) (s : Interplay P) (event : InterplayEvent P) : Prop :=
  event = .polls →
    (∀ text, s.phase = .textHeld text true → textPublishSkipReason text = none →
      start.text.Unmet text s.textHistory) ∧
    ∀ files key, s.phase = .filesHeld files true →
      clipboardSignature toStringLossy files = some key → start.files.Unmet key s.filesHistory

/-- Each channel stands as its record says, and content that the loop holds is not what it
saw last. -/
structure Sound (start : PollState) (s : Interplay P) : Prop where
  text : s.poll.text = start.text.after s.textHistory
  files : s.poll.files = start.files.after s.filesHistory
  textHeld : ∀ text fromAgent, s.phase = .textHeld text fromAgent → s.poll.lastSeen ≠ some text
  filesHeld : ∀ files fromAgent, s.phase = .filesHeld files fromAgent →
    ∃ key, clipboardSignature toStringLossy files = some key ∧ s.poll.lastSeenFiles ≠ some key

variable {toStringLossy textPublishSkipReason} {start : PollState} {s : Interplay P}

/-- Between a read and the check that follows it, the loop alone moves its memory: a check
of content that was news is a look at it. -/
theorem look_of_news {watch : Watch String} {key : String} (news : watch.seen ≠ some key) :
    watch.look (some key) = watch.meet key := if_neg news

theorem polls_sound (sound : s.Sound toStringLossy start) :
    (s.polls toStringLossy textPublishSkipReason).Sound toStringLossy start := by
  cases phase : s.phase with
  | waiting =>
      simp only [polls, phase]
      split
      next files news =>
          refine ⟨sound.text, sound.files, nofun, ?_⟩
          intro held fromAgent same
          cases same
          exact (filesNews_eq_some_iff.mp news).2
      next seen => exact ⟨sound.text, sound.files, nofun, nofun⟩
  | betweenReads =>
      simp only [polls, phase]
      split
      next text news =>
          refine ⟨sound.text, sound.files, ?_, nofun⟩
          intro held fromAgent same
          cases same
          exact (textNews_eq_some_iff.mp news).2
      next seen => exact ⟨sound.text, sound.files, nofun, nofun⟩
  | filesHeld files fromAgent =>
      obtain ⟨key, signed, news⟩ := sound.filesHeld files fromAgent phase
      simp only [polls, phase]
      refine ⟨sound.text, ?_, nofun, nofun⟩
      rw [checkFiles_files signed, ← look_of_news news, sound.files, signed]
      rfl
  | textHeld text fromAgent =>
      have news := sound.textHeld text fromAgent phase
      simp only [polls, phase]
      refine ⟨?_, sound.files, nofun, nofun⟩
      rw [checkText_text, ← look_of_news news, sound.text]
      rfl

theorem step_sound (event : InterplayEvent P) (sound : s.Sound toStringLossy start) :
    (s.step toStringLossy textPublishSkipReason event).Sound toStringLossy start := by
  cases event with
  | polls => exact polls_sound sound
  | copies content => exact ⟨sound.text, sound.files, sound.textHeld, sound.filesHeld⟩
  | setsText text =>
      simp only [step, setsText]
      split
      · exact sound
      · exact ⟨sound.text, sound.files, sound.textHeld, sound.filesHeld⟩
  | setsFiles files =>
      simp only [step, setsFiles]
      split
      · exact sound
      · exact ⟨sound.text, sound.files, sound.textHeld, sound.filesHeld⟩
  | recordsText =>
      simp only [step, recordsText]
      split
      · exact sound
      · refine ⟨?_, sound.files, sound.textHeld, sound.filesHeld⟩
        rw [Watch.after, ← sound.text]
        rfl
  | recordsFiles apply =>
      simp only [step, recordsFiles]
      split
      · exact sound
      · refine ⟨sound.text, ?_, sound.textHeld, sound.filesHeld⟩
        rw [Watch.after, ← sound.files]
        rfl

theorem Fresh.sound (fresh : s.Fresh) : s.Sound toStringLossy s.poll := by
  constructor
  · rw [fresh.textHistory]
    rfl
  · rw [fresh.filesHistory]
    rfl
  · intro text fromAgent held
    rw [fresh.phase] at held
    cases held
  · intro files fromAgent held
    rw [fresh.phase] at held
    cases held

theorem published_noEcho_iff {old : List (Announced P × Bool)} {announced : Option (Announced P)}
    {fromAgent : Bool} :
    (∀ content, (content, true) ∉ announced.toList.map (·, fromAgent) ++ old) ↔
      (∀ content, (content, true) ∉ old) ∧ (fromAgent = true → announced = none) := by
  cases announced with
  | none => simp
  | some called =>
      cases fromAgent with
      | false => simp
      | true =>
          simp only [Option.toList_some, List.map_cons, List.map_nil, List.singleton_append,
            List.mem_cons, Prod.mk.injEq, and_true, not_or, reduceCtorEq, imp_false,
            not_true_eq_false, and_false, iff_false, not_forall, not_and, not_not]
          exact ⟨called, fun other => absurd rfl other⟩

/-- A step of the loop publishes nothing of the agent's exactly when the write recorded
last is of the content it checks. -/
theorem polls_noEcho_iff (sound : s.Sound toStringLossy start) :
    (s.polls toStringLossy textPublishSkipReason).NoEcho ↔
      s.NoEcho ∧ s.LastRecorded toStringLossy textPublishSkipReason start .polls := by
  cases phase : s.phase with
  | waiting =>
      have unchanged : (s.polls toStringLossy textPublishSkipReason).published = s.published := by
        simp only [polls, phase]
        split <;> rfl
      simp [NoEcho, LastRecorded, phase, unchanged]
  | betweenReads =>
      have unchanged : (s.polls toStringLossy textPublishSkipReason).published = s.published := by
        simp only [polls, phase]
        split <;> rfl
      simp [NoEcho, LastRecorded, phase, unchanged]
  | filesHeld files fromAgent =>
      obtain ⟨key, signed, -⟩ := sound.filesHeld files fromAgent phase
      simp only [NoEcho, polls, phase, published_noEcho_iff, checkFiles_silent_iff signed,
        sound.files, Watch.after_guard, LastRecorded, reduceCtorEq, false_implies, implies_true,
        true_and, PollPhase.filesHeld.injEq]
      refine and_congr_right fun _ => ?_
      constructor
      · rintro recorded - files key ⟨rfl, rfl⟩ otherSigned
        cases signed.symm.trans otherSigned
        exact recorded rfl
      · rintro recorded rfl
        exact recorded trivial files key ⟨rfl, rfl⟩ signed
  | textHeld text fromAgent =>
      simp only [NoEcho, polls, phase, published_noEcho_iff, checkText_silent_iff,
        sound.text, Watch.after_guard, LastRecorded, reduceCtorEq, false_implies, implies_true,
        and_true, PollPhase.textHeld.injEq]
      refine and_congr_right fun _ => ?_
      constructor
      · rintro recorded - text ⟨rfl, rfl⟩ passes
        exact recorded rfl passes
      · rintro recorded rfl passes
        exact recorded trivial text ⟨rfl, rfl⟩ passes

theorem step_noEcho_iff (event : InterplayEvent P) (sound : s.Sound toStringLossy start) :
    (s.step toStringLossy textPublishSkipReason event).NoEcho ↔
      s.NoEcho ∧ s.LastRecorded toStringLossy textPublishSkipReason start event := by
  cases event with
  | polls => exact polls_noEcho_iff sound
  | copies content => simp [step, NoEcho, LastRecorded]
  | setsText text =>
      simp only [step, setsText, LastRecorded, reduceCtorEq, false_implies, and_true]
      split <;> rfl
  | setsFiles files =>
      simp only [step, setsFiles, LastRecorded, reduceCtorEq, false_implies, and_true]
      split <;> rfl
  | recordsText =>
      simp only [step, recordsText, LastRecorded, reduceCtorEq, false_implies, and_true]
      split <;> rfl
  | recordsFiles apply =>
      simp only [step, recordsFiles, LastRecorded, reduceCtorEq, false_implies, and_true]
      split <;> rfl

/-- Over any interleaving, the loop publishes nothing that the agent had put on the
clipboard exactly when, wherever it is about to check such content, the write recorded last
is one of this content and the loop has not met it since. -/
theorem noEcho_iff (fresh : s.Fresh) (events : List (InterplayEvent P)) :
    (runFrom (step toStringLossy textPublishSkipReason) s events).NoEcho ↔
      Along (step toStringLossy textPublishSkipReason)
        (LastRecorded toStringLossy textPublishSkipReason s.poll) s events := by
  have clean : s.NoEcho := fun announced member => by
    rw [fresh.published] at member
    cases member
  have keeps : ∀ (t : Interplay P) event, t.Sound toStringLossy s.poll →
      (t.step toStringLossy textPublishSkipReason event).Sound toStringLossy s.poll :=
    fun _ event => step_sound event
  rw [run_clean_iff keeps (fun _ event => step_noEcho_iff event) fresh.sound]
  exact and_iff_right clean

/-! ## The steps of a round -/

/-- The steps of a round with nothing in between are a tick. -/
theorem polls_pollTick (waiting : s.phase = .waiting) :
    ∃ steps : Nat,
      let tick := pollTick toStringLossy textPublishSkipReason s.poll false
        (s.clipboard.getFiles false) (s.clipboard.getText false)
      let later := runFrom (step toStringLossy textPublishSkipReason) s
        (List.replicate steps .polls)
      later.phase = .waiting ∧ later.poll = tick.1 ∧
        later.published = tick.2.toList.map (·, s.fromAgent) ++ s.published := by
  cases files : filesNews toStringLossy s.poll (s.clipboard.getFiles false) with
  | some news =>
      refine ⟨2, ?_⟩
      simp [step, polls, waiting, files, pollTick, List.replicate]
  | none =>
      cases text : textNews s.poll (s.clipboard.getText false) with
      | some news =>
          refine ⟨3, ?_⟩
          simp [step, polls, waiting, files, text, pollTick, List.replicate]
      | none =>
          refine ⟨2, ?_⟩
          simp [step, polls, waiting, files, text, pollTick, List.replicate]

end Interplay

namespace LateRecord

open Interplay

/-- The agent starts over an empty clipboard. -/
def start : Interplay String where
  poll := pollStart id .absent .absent
  phase := .waiting
  clipboard := ⟨none, none⟩
  fromAgent := false
  unrecordedText := none
  unrecordedFiles := []
  published := []
  textHistory := []
  filesHistory := []

/-- A whole round of the loop falls between the two steps of the event handler. -/
theorem minutes_echoed :
    ¬ (runFrom (step id (textPublishSkipReason defaultPolicy)) start
      [.setsText "minutes", .polls, .polls, .polls, .recordsText]).NoEcho := by
  intro clean
  exact clean (.text "minutes") (by decide +kernel)

/-- The same text recorded before the loop comes to check it. -/
def inTime : List (InterplayEvent String) :=
  [.setsText "minutes", .polls, .polls, .recordsText, .polls]

theorem minutes_kept :
    (runFrom (step id (textPublishSkipReason defaultPolicy)) start inTime).NoEcho := by
  refine (noEcho_iff ⟨rfl, rfl, rfl, rfl⟩ inTime).mpr ⟨nofun, ?_, ?_, nofun, ?_, trivial⟩
  · exact fun _ => ⟨nofun, nofun⟩
  · have phase : (runFrom (step id (textPublishSkipReason defaultPolicy)) start
        (inTime.take 2)).phase = .betweenReads := by decide +kernel
    refine fun _ => ⟨fun text held => ?_, fun files key held => ?_⟩
    · cases phase.symm.trans held
    · cases phase.symm.trans held
  · have phase : (runFrom (step id (textPublishSkipReason defaultPolicy)) start
        (inTime.take 4)).phase = .textHeld "minutes" true := by decide +kernel
    refine fun _ => ⟨fun text held _ => ?_, fun files key held => ?_⟩
    · cases phase.symm.trans held
      exact (by decide +kernel : start.poll.text.Unmet "minutes" [.arms (some "minutes")])
    · cases phase.symm.trans held

end LateRecord

end AirPaste.Agent
