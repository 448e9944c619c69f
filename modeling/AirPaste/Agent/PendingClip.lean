/-
# Agent.PendingClip — the slot of the latest file clip

A file clip that arrives goes to the slot `pending_file_clip` and to a row of the inbox.
`apply_pending_file_clip` clones the slot, downloads the clip it found, and clears the slot
when the download has succeeded; then it marks the row.  Calls of it may overlap, and the
event handler goes on while they download: `SlotEvent` are the steps of them all, each of
which takes one lock.

A call clears the slot whatever it holds by then.  `noneLost` says when no file clip is
lost that way; `Replaced.second_lost` loses one.
-/
import AirPaste.Theory.Run
import AirPaste.Agent.Download

namespace AirPaste.Agent

open AirPaste.Core
open AirPaste.Theory

set_option autoImplicit false

deriving instance DecidableEq for PendingFileClip

inductive FileDownloadState where
  | idle
  | downloading
  | done (paths : List (LexPath String))
  | failed (message : String)
  deriving DecidableEq

inductive InboxItemKind where
  | text (text : String)
  | files (clip : PendingFileClip) (state : FileDownloadState)
  deriving DecidableEq

structure InboxItem where
  id : Nat
  kind : InboxItemKind
  deriving DecidableEq

def inboxHistoryMax : Nat := 20

/-- Put an item in front, and drop the oldest one of too many. -/
def pushInbox (inbox : List InboxItem) (item : InboxItem) : List InboxItem :=
  (item :: inbox).take inboxHistoryMax

/-- Set the state of the first row of a clip. -/
def setInboxFileStateByClip (clipId : ClipId) (state : FileDownloadState) :
    List InboxItem → List InboxItem
  | [] => []
  | ⟨id, .files clip old⟩ :: rest =>
      if clip.clipId = clipId then ⟨id, .files clip state⟩ :: rest
      else ⟨id, .files clip old⟩ :: setInboxFileStateByClip clipId state rest
  | item :: rest => item :: setInboxFileStateByClip clipId state rest

/-- Where a call of `apply_pending_file_clip` stands. -/
inductive ApplyPhase where
  | idle
  | downloading (pending : PendingFileClip)
  /-- The download has succeeded, the slot is not cleared yet. -/
  | clearing (pending : PendingFileClip) (downloadedFiles : List (LexPath String))
  /-- The slot is cleared, the row is not marked yet. -/
  | marking (pending : PendingFileClip) (downloadedFiles : List (LexPath String))
  deriving DecidableEq

/-- The slot and the inbox, with the calls at work.  `latest` and `applied` record which
file clip arrived last and which ones a call completed; no step reads them. -/
structure Slot where
  pendingFileClip : Option PendingFileClip
  inbox : List InboxItem
  arrivalSeq : Nat
  fileSeq : Nat
  /-- The clip that the event handler has put in the slot and not yet in the inbox. -/
  unlisted : Option PendingFileClip
  applies : Nat → ApplyPhase
  latest : Option PendingFileClip
  applied : List PendingFileClip

inductive SlotEvent where
  | arrives (clip : PendingFileClip)
  | lists
  | starts (call : Nat)
  /-- What `apply_file_clip` returns to a call. -/
  | downloads (call : Nat) (result : Except Failure (List (LexPath String)))
  | clears (call : Nat)
  | marks (call : Nat)

namespace Slot

def setPhase (s : Slot) (call : Nat) (phase : ApplyPhase) : Slot :=
  { s with applies := fun other => if other = call then phase else s.applies other }

/-- The handler handles one event at a time: it lists a clip before the next one arrives. -/
def arrives (s : Slot) (clip : PendingFileClip) : Slot :=
  match s.unlisted with
  | some _ => s
  | none => { s with pendingFileClip := some clip, unlisted := some clip, latest := some clip }

def lists (s : Slot) : Slot :=
  match s.unlisted with
  | none => s
  | some clip =>
      let seq := s.arrivalSeq + 1
      { s with
        inbox := pushInbox s.inbox ⟨seq, .files clip .idle⟩
        arrivalSeq := seq
        fileSeq := seq
        unlisted := none }

/-- A call finds the slot empty, and returns at once, or clones what it holds. -/
def starts (s : Slot) (call : Nat) : Slot :=
  match s.applies call, s.pendingFileClip with
  | .idle, some pending => s.setPhase call (.downloading pending)
  | _, _ => s

def downloads (s : Slot) (call : Nat) (result : Except Failure (List (LexPath String))) : Slot :=
  match s.applies call with
  | .downloading pending =>
      match result with
      | .ok downloadedFiles => s.setPhase call (.clearing pending downloadedFiles)
      | .error _ => s.setPhase call .idle
  | _ => s

def clears (s : Slot) (call : Nat) : Slot :=
  match s.applies call with
  | .clearing pending downloadedFiles =>
      { s.setPhase call (.marking pending downloadedFiles) with
        pendingFileClip := none
        applied := pending :: s.applied }
  | _ => s

def marks (s : Slot) (call : Nat) : Slot :=
  match s.applies call with
  | .marking pending downloadedFiles =>
      { s.setPhase call .idle with
        inbox := setInboxFileStateByClip pending.clipId (.done downloadedFiles) s.inbox }
  | _ => s

def step (s : Slot) : SlotEvent → Slot
  | .arrives clip => s.arrives clip
  | .lists => s.lists
  | .starts call => s.starts call
  | .downloads call result => s.downloads call result
  | .clears call => s.clears call
  | .marks call => s.marks call

/-- No call is at work. -/
def Quiet (s : Slot) : Prop := ∀ call, s.applies call = .idle

/-- When no call is at work, the slot holds the file clip that arrived last, unless a call
that started from this clip has completed. -/
def NoneLost (s : Slot) : Prop :=
  s.Quiet → s.pendingFileClip = s.latest ∨ ∃ clip ∈ s.applied, s.latest = some clip

/-- A call that clears the slot finds it empty, or holding the clip that the call started
from, or one that another call has completed or downloaded. -/
def ClearsOwn (s : Slot) (event : SlotEvent) : Prop :=
  ∀ call pending downloadedFiles, event = .clears call →
    s.applies call = .clearing pending downloadedFiles →
    ∀ clip, s.pendingFileClip = some clip → clip = pending ∨ clip ∈ s.applied ∨
      ∃ other files, other ≠ call ∧ s.applies other = .clearing clip files

/-- The file clip that arrived last is in the slot, or a call has completed it, or is about
to clear the slot after having downloaded it. -/
def Kept (s : Slot) : Prop :=
  s.pendingFileClip = s.latest ∨ ∃ clip, s.latest = some clip ∧
    (clip ∈ s.applied ∨ ∃ call files, s.applies call = .clearing clip files)

/-- No call is at work, and the slot holds what arrived last. -/
structure Fresh (s : Slot) : Prop where
  quiet : s.Quiet
  latest : s.pendingFileClip = s.latest

variable {s : Slot}

theorem Kept.nothingLost (kept : s.Kept) : s.NoneLost := by
  intro quiet
  rcases kept with held | ⟨clip, latest, completed | ⟨call, files, clearing⟩⟩
  · exact .inl held
  · exact .inr ⟨clip, completed, latest⟩
  · rw [quiet call] at clearing
    cases clearing

@[simp] theorem setPhase_self (call : Nat) (phase : ApplyPhase) :
    (s.setPhase call phase).applies call = phase := if_pos rfl

theorem setPhase_other {call other : Nat} {phase : ApplyPhase} (ne : other ≠ call) :
    (s.setPhase call phase).applies other = s.applies other := if_neg ne

/-- A call that is not about to clear the slot may move on. -/
theorem Kept.setPhase {call : Nat} {phase : ApplyPhase} (kept : s.Kept)
    (before : ∀ clip files, s.applies call ≠ .clearing clip files) :
    (s.setPhase call phase).Kept := by
  rcases kept with held | ⟨clip, latest, completed | ⟨other, files, clearing⟩⟩
  · exact .inl held
  · exact .inr ⟨clip, latest, .inl completed⟩
  · have ne : other ≠ call := fun same => before clip files (same ▸ clearing)
    exact .inr ⟨clip, latest, .inr ⟨other, files, (setPhase_other ne).trans clearing⟩⟩

theorem clears_kept (call : Nat) (kept : s.Kept) (own : s.ClearsOwn (.clears call)) :
    (s.clears call).Kept := by
  unfold clears
  split
  next pending downloadedFiles phase =>
      have still : ∀ clip : PendingFileClip, (∃ other files, other ≠ call ∧
          s.applies other = .clearing clip files) → ∃ other files,
            (s.setPhase call (.marking pending downloadedFiles)).applies other =
              .clearing clip files := by
        rintro clip ⟨other, files, ne, clearing⟩
        exact ⟨other, files, (setPhase_other ne).trans clearing⟩
      rcases kept with held | ⟨clip, latest, completed | ⟨other, files, clearing⟩⟩
      · cases latest : s.latest with
        | none => exact .inl latest.symm
        | some clip =>
            refine .inr ⟨clip, latest, ?_⟩
            rcases own call pending downloadedFiles rfl phase clip (held.trans latest) with
              rfl | completed | elsewhere
            · exact .inl List.mem_cons_self
            · exact .inl (List.mem_cons_of_mem _ completed)
            · exact .inr (still clip elsewhere)
      · exact .inr ⟨clip, latest, .inl (List.mem_cons_of_mem _ completed)⟩
      · refine .inr ⟨clip, latest, ?_⟩
        by_cases same : other = call
        · subst same
          cases phase.symm.trans clearing
          exact .inl List.mem_cons_self
        · exact .inr (still clip ⟨other, files, same, clearing⟩)
  next => exact kept

theorem step_kept (event : SlotEvent) (kept : s.Kept) (own : s.ClearsOwn event) :
    (s.step event).Kept := by
  cases event with
  | arrives clip =>
      simp only [step, arrives]
      split
      · exact kept
      · exact .inl rfl
  | lists =>
      simp only [step, lists]
      split
      · exact kept
      · exact kept
  | starts call =>
      simp only [step, starts]
      split
      next pending phase slot => exact kept.setPhase fun clip files => by simp [phase]
      next => exact kept
  | downloads call result =>
      simp only [step, downloads]
      split
      next pending phase =>
          cases result with
          | ok files => exact kept.setPhase fun clip files => by simp [phase]
          | error failure => exact kept.setPhase fun clip files => by simp [phase]
      next => exact kept
  | clears call => exact clears_kept call kept own
  | marks call =>
      simp only [step, marks]
      split
      next pending files phase =>
          have moved : (s.setPhase call .idle).Kept :=
            kept.setPhase fun clip files => by simp [phase]
          exact moved
      next => exact kept

/-- In every state of a run in which each call clears its own clip, no file clip is lost. -/
theorem noneLost (fresh : s.Fresh) {events before after : List SlotEvent}
    (own : Along step ClearsOwn s events) (split : events = before ++ after) :
    (runFrom step s before).NoneLost := by
  subst split
  have kept : (runFrom step s before).Kept :=
    run_invariant (fun _ event => step_kept event) (along_append.mp own).1 (.inl fresh.latest)
  exact kept.nothingLost

/-- A call that is at work alone and clears a clip that is not its own, and that none has
completed, loses it. -/
theorem clears_loses {call : Nat} {pending clip : PendingFileClip} {files : List (LexPath String)}
    (alone : ∀ other, other ≠ call → s.applies other = .idle)
    (phase : s.applies call = .clearing pending files) (latest : s.latest = some clip)
    (foreign : clip ≠ pending) (pendingStill : clip ∉ s.applied) :
    ¬ (runFrom step s [.clears call, .marks call]).NoneLost := by
  intro kept
  have cleared : runFrom step s [.clears call, .marks call] =
      { (s.setPhase call (.marking pending files)).setPhase call .idle with
        pendingFileClip := none
        applied := pending :: s.applied
        inbox := setInboxFileStateByClip pending.clipId (.done files) s.inbox } := by
    simp [step, clears, marks, phase, setPhase]
  rw [cleared] at kept
  have quiet : ∀ other, (((s.setPhase call (.marking pending files)).setPhase call .idle)).applies
      other = .idle := by
    intro other
    by_cases same : other = call
    · rw [same, setPhase_self]
    · rw [setPhase_other same, setPhase_other same, alone other same]
  rcases kept quiet with held | ⟨other, completed, same⟩
  · cases held.trans latest
  · cases latest.symm.trans same
    rcases List.mem_cons.mp completed with own | earlier
    · exact foreign own
    · exact pendingStill earlier

end Slot

namespace Replaced

open Slot

def empty : Slot where
  pendingFileClip := none
  inbox := []
  arrivalSeq := 0
  fileSeq := 0
  unlisted := none
  applies := fun _ => .idle
  latest := none
  applied := []

def clip (id name : String) : PendingFileClip where
  clipId := ⟨id⟩
  sourceDeviceId := ⟨"dev_laptop"⟩
  fileClip :=
    { files := [⟨name, name, 3, none, none, .file⟩]
      totalSize := 3
      transferToken := ⟨"tt_" ++ id⟩
      sourcePeerUrl := none
      transferExpiresAt := none }

def first : PendingFileClip := clip "clip_1" "report.pdf"
def second : PendingFileClip := clip "clip_2" "slides.pdf"

/-- What the download of the first clip returns. -/
def report : List (LexPath String) := [LexPath.parse "/home/u/cache/tt_clip_1/report.pdf"]

/-- The second clip arrives while the first is downloaded. -/
def duringDownload : List SlotEvent :=
  [.arrives first, .lists, .starts 0, .arrives second, .lists, .downloads 0 (.ok report)]

theorem second_lost :
    ¬ (runFrom step empty (duringDownload ++ [.clears 0, .marks 0])).NoneLost := by
  rw [runFrom_append]
  have alone : ∀ other, other ≠ 0 → (runFrom step empty duringDownload).applies other = .idle := by
    intro other ne
    simp [duringDownload, step, arrives, lists, starts, downloads, setPhase, empty, ne]
  exact clears_loses alone rfl rfl (by decide +kernel) List.not_mem_nil

/-- The second clip arrives when the first has been applied, and stays. -/
def inTurn : List SlotEvent :=
  [.arrives first, .lists, .starts 0, .downloads 0 (.ok report), .clears 0, .marks 0,
    .arrives second, .lists]

theorem second_kept : (runFrom step empty inTurn).NoneLost := by
  have own : Along step ClearsOwn empty inTurn := by
    refine ⟨nofun, nofun, nofun, nofun, ?_, nofun, nofun, nofun, trivial⟩
    intro call pending files same clearing clip held
    cases same
    cases clearing
    cases held
    exact .inl rfl
  exact noneLost ⟨fun _ => rfl, rfl⟩ own (List.append_nil _).symm

end Replaced

end AirPaste.Agent
