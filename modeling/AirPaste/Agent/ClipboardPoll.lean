/-
# Agent.ClipboardPoll — the loop that watches the clipboard

`poll_clipboard` reads the file list of the clipboard and then its text, and publishes
what is news to it.  `checkFiles` and `checkText` are what it does with news: it compares
the guard that the event handler sets after it has put remote content on the clipboard,
and keeps silent about content the guard names.  A tick is `pollTick`.  Each of the two
channels is a `Watch`, by its memory and its guard (`pollTick_text`, `pollTick_files`).

A clipboard left as it is for any number of ticks gives rise to at most one announcement
a channel; `clipsOf_le_one_iff` says when to at most one clip.
-/
import AirPaste.Agent.TextFilter
import AirPaste.Theory.Watch
import AirPaste.Theory.Run

namespace AirPaste.Agent

open AirPaste.Theory

set_option autoImplicit false

/-- What a read of the clipboard yields. -/
inductive Reading (α : Type) where
  | held (value : α)
  | absent
  | failed
  deriving DecidableEq, Repr

/-- What the clipboard holds; a selection of files may come with a text. -/
structure Clipboard (P : Type) where
  files : Option (List P)
  text : Option String
  deriving DecidableEq, Repr

namespace Clipboard

variable {P : Type}

def getFiles (clipboard : Clipboard P) (fails : Bool) : Reading (List P) :=
  if fails then .failed else clipboard.files.elim .absent .held

def getText (clipboard : Clipboard P) (fails : Bool) : Reading String :=
  if fails then .failed else clipboard.text.elim .absent .held

end Clipboard

/-- What the loop remembers of the clipboard, and the guards it shares with the event
handler. -/
structure PollState where
  lastSeen : Option String
  lastSeenFiles : Option String
  lastLocalWrite : Option String
  lastLocalFileWrite : Option String
  deriving DecidableEq, Repr

/-- What the loop calls `publish_file_manifest` or `publish_text_clip` for. -/
inductive Announced (P : Type) where
  | files (paths : List P)
  | text (text : String)
  deriving DecidableEq, Repr

section Poll

variable {P : Type} (toStringLossy : P → String)

def clipboardSignature (paths : List P) : Option String :=
  if paths.isEmpty then none else some ("\n".intercalate (paths.map toStringLossy))

/-- The file list of a reading, where it is not the one last seen. -/
def filesNews (state : PollState) : Reading (List P) → Option (List P)
  | .held files =>
      if !files.isEmpty && clipboardSignature toStringLossy files != state.lastSeenFiles then
        some files
      else none
  | .absent => none
  | .failed => none

/-- The text of a reading, where it is not the one last seen. -/
def textNews (state : PollState) : Reading String → Option String
  | .held text => if text.isEmpty || some text == state.lastSeen then none else some text
  | .absent => none
  | .failed => none

/-- Take notice of a file list: it is announced unless the guard names it. -/
def checkFiles (state : PollState) (files : List P) : PollState × Option (Announced P) :=
  let signature := clipboardSignature toStringLossy files
  let ignored := state.lastLocalFileWrite == signature
  ({ state with
      lastLocalFileWrite := if ignored then none else state.lastLocalFileWrite
      lastSeenFiles := signature },
   if ignored then none else some (.files files))

variable (textPublishSkipReason : String → Option String)

/-- Take notice of a text: it is announced unless the guard names it or it is not to be
published. -/
def checkText (state : PollState) (text : String) : PollState × Option (Announced P) :=
  let ignored := state.lastLocalWrite == some text
  ({ state with
      lastLocalWrite := if ignored then none else state.lastLocalWrite
      lastSeen := some text },
   if ignored then none
   else
     match textPublishSkipReason text with
     | some _ => none
     | none => some (.text text))

/-- One round of the loop.  The text is only read where no file list is news. -/
def pollTick (state : PollState) (isolated : Bool) (getFiles : Reading (List P))
    (getText : Reading String) : PollState × Option (Announced P) :=
  match filesNews toStringLossy state getFiles with
  | some files => checkFiles toStringLossy state files
  | none =>
      if isolated then (state, none)
      else
        match textNews state getText with
        | some text => checkText textPublishSkipReason state text
        | none => (state, none)

/-- The memory of the loop before its first round. -/
def pollStart (getFiles : Reading (List P)) (getText : Reading String) : PollState where
  lastSeen := match getText with
    | .held text => some text
    | _ => none
  lastSeenFiles := match getFiles with
    | .held files => clipboardSignature toStringLossy files
    | _ => none
  lastLocalWrite := none
  lastLocalFileWrite := none

end Poll

/-! ## The two channels -/

/-- The text channel: the text last seen and the guard of remote texts. -/
def PollState.text (state : PollState) : Watch String := ⟨state.lastSeen, state.lastLocalWrite⟩

/-- The file channel: the signature last seen and the guard of downloaded files. -/
def PollState.files (state : PollState) : Watch String :=
  ⟨state.lastSeenFiles, state.lastLocalFileWrite⟩

section Channels

variable {P : Type} (toStringLossy : P → String)

/-- What the file channel reads: an empty list is no reading. -/
def filesKey : Reading (List P) → Option String
  | .held files => clipboardSignature toStringLossy files
  | _ => none

/-- What the text channel reads: an empty text is no reading. -/
def textKey : Reading String → Option String
  | .held text => if text.isEmpty then none else some text
  | _ => none

variable {toStringLossy} {state : PollState} {files : List P} {text key : String}
  {getFiles : Reading (List P)} {getText : Reading String} {isolated : Bool}
  {textPublishSkipReason : String → Option String}

theorem clipboardSignature_eq_none_iff :
    clipboardSignature toStringLossy files = none ↔ files = [] := by
  unfold clipboardSignature
  cases files <;> simp

variable (toStringLossy) in
theorem clipboardSignature_of_ne_nil (held : files ≠ []) :
    ∃ key, clipboardSignature toStringLossy files = some key := by
  cases signed : clipboardSignature toStringLossy files with
  | none => exact absurd (clipboardSignature_eq_none_iff.mp signed) held
  | some key => exact ⟨key, rfl⟩

theorem textKey_eq_some_iff : textKey getText = some text ↔ getText = .held text ∧ text ≠ "" := by
  cases getText with
  | absent => simp [textKey]
  | failed => simp [textKey]
  | held value =>
      simp only [textKey, String.isEmpty_iff, Option.ite_none_left_eq_some, Option.some.injEq,
        Reading.held.injEq]
      constructor
      · rintro ⟨held, rfl⟩
        exact ⟨rfl, held⟩
      · rintro ⟨rfl, held⟩
        exact ⟨held, rfl⟩

theorem filesNews_eq_some_iff :
    filesNews toStringLossy state getFiles = some files ↔
      getFiles = .held files ∧ ∃ key, clipboardSignature toStringLossy files = some key ∧
        state.lastSeenFiles ≠ some key := by
  cases getFiles with
  | absent => simp [filesNews]
  | failed => simp [filesNews]
  | held value =>
      simp only [filesNews, Option.ite_none_right_eq_some, Bool.and_eq_true, Bool.not_eq_true',
        List.isEmpty_eq_false_iff, bne_iff_ne, ne_eq, Option.some.injEq, Reading.held.injEq]
      constructor
      · rintro ⟨⟨held, other⟩, rfl⟩
        obtain ⟨key, signed⟩ := clipboardSignature_of_ne_nil toStringLossy held
        exact ⟨rfl, key, signed, fun same => other (signed.trans same.symm)⟩
      · rintro ⟨rfl, key, signed, other⟩
        refine ⟨⟨?_, fun same => other (same.symm.trans signed)⟩, rfl⟩
        rintro rfl
        cases signed

theorem textNews_eq_some_iff :
    textNews state getText = some text ↔
      textKey getText = some text ∧ state.lastSeen ≠ some text := by
  rw [textKey_eq_some_iff]
  cases getText with
  | absent => simp [textNews]
  | failed => simp [textNews]
  | held value =>
      simp only [textNews, Bool.or_eq_true, String.isEmpty_iff, beq_iff_eq,
        Option.ite_none_left_eq_some, not_or, Option.some.injEq, Reading.held.injEq]
      constructor
      · rintro ⟨⟨held, other⟩, rfl⟩
        exact ⟨⟨rfl, held⟩, Ne.symm other⟩
      · rintro ⟨⟨rfl, held⟩, other⟩
        exact ⟨⟨held, Ne.symm other⟩, rfl⟩

theorem checkFiles_files (signed : clipboardSignature toStringLossy files = some key) :
    (checkFiles toStringLossy state files).1.files = (state.files.meet key).1 := by
  by_cases named : state.lastLocalFileWrite = some key
  · simp [checkFiles, PollState.files, Watch.meet, signed, named]
  · simp [checkFiles, PollState.files, Watch.meet, signed, named]

@[simp] theorem checkFiles_text : (checkFiles toStringLossy state files).1.text = state.text := rfl

theorem checkText_text :
    (checkText (P := P) textPublishSkipReason state text).1.text = (state.text.meet text).1 := by
  by_cases named : state.lastLocalWrite = some text
  · simp [checkText, PollState.text, Watch.meet, named]
  · simp [checkText, PollState.text, Watch.meet, named]

@[simp] theorem checkText_files :
    (checkText (P := P) textPublishSkipReason state text).1.files = state.files := rfl

theorem checkFiles_announces_iff {announced : Announced P}
    (signed : clipboardSignature toStringLossy files = some key) :
    (checkFiles toStringLossy state files).2 = some announced ↔
      announced = .files files ∧ state.files.guard ≠ some key := by
  by_cases named : state.lastLocalFileWrite = some key
  · simp [checkFiles, PollState.files, signed, named]
  · simp only [checkFiles, PollState.files, signed, beq_iff_eq, named, if_false,
      Option.some.injEq, ne_eq, not_false_eq_true, and_true]
    exact eq_comm

theorem checkText_announces_iff {announced : Announced P} :
    (checkText textPublishSkipReason state text).2 = some announced ↔
      announced = .text text ∧ state.text.guard ≠ some text ∧
        textPublishSkipReason text = none := by
  by_cases named : state.lastLocalWrite = some text
  · simp [checkText, PollState.text, named]
  · cases skipped : textPublishSkipReason text with
    | none =>
        simp only [checkText, PollState.text, beq_iff_eq, named, if_false, skipped,
          Option.some.injEq, ne_eq, not_false_eq_true, and_true]
        exact eq_comm
    | some reason => simp [checkText, named, skipped]

theorem checkFiles_silent_iff (signed : clipboardSignature toStringLossy files = some key) :
    (checkFiles toStringLossy state files).2 = none ↔ state.files.guard = some key := by
  simp only [Option.eq_none_iff_forall_not_mem, Option.mem_def, checkFiles_announces_iff signed]
  constructor
  · intro silent
    by_contra unnamed
    exact silent (.files files) ⟨rfl, unnamed⟩
  · rintro named announced ⟨-, unnamed⟩
    exact unnamed named

theorem checkText_silent_iff :
    (checkText (P := P) textPublishSkipReason state text).2 = none ↔
      (textPublishSkipReason text = none → state.text.guard = some text) := by
  rw [Option.eq_none_iff_forall_not_mem]
  simp only [Option.mem_def, checkText_announces_iff]
  constructor
  · intro silent passes
    by_contra unnamed
    exact silent (.text text) ⟨rfl, unnamed, passes⟩
  · rintro named announced ⟨-, unnamed, passes⟩
    exact unnamed (named passes)

/-- What a tick reads of the text channel: nothing where a file list is news, or in
isolated mode. -/
def textRead (toStringLossy : P → String) (state : PollState) (isolated : Bool)
    (getFiles : Reading (List P)) (getText : Reading String) : Option String :=
  if (filesNews toStringLossy state getFiles).isSome || isolated then none else textKey getText

theorem pollTick_files :
    (pollTick toStringLossy textPublishSkipReason state isolated getFiles getText).1.files =
      (state.files.look (filesKey toStringLossy getFiles)).1 := by
  unfold pollTick
  split
  next files news =>
      obtain ⟨rfl, key, signed, other⟩ := filesNews_eq_some_iff.mp news
      rw [checkFiles_files signed]
      simp [filesKey, signed, Watch.look, PollState.files, other]
  next old =>
      have unseen : (state.files.look (filesKey toStringLossy getFiles)).1 = state.files := by
        cases read : filesKey toStringLossy getFiles with
        | none => rfl
        | some key =>
            have seen : state.lastSeenFiles = some key := by
              by_contra other
              cases getFiles with
              | absent => cases read
              | failed => cases read
              | held files =>
                  have news : filesNews toStringLossy state (.held files) = some files :=
                    filesNews_eq_some_iff.mpr ⟨rfl, key, read, other⟩
                  rw [old] at news
                  cases news
            simp [Watch.look, PollState.files, seen]
      rw [unseen]
      split
      · rfl
      · split <;> rfl

theorem pollTick_text :
    (pollTick toStringLossy textPublishSkipReason state isolated getFiles getText).1.text =
      (state.text.look (textRead toStringLossy state isolated getFiles getText)).1 := by
  unfold pollTick
  split
  next files news => simp [textRead, news, Watch.look]
  next old =>
      cases isolated with
      | true => simp [textRead, Watch.look]
      | false =>
          simp only [textRead, old, Option.isSome_none, Bool.or_false, Bool.false_eq_true, if_false]
          split
          next text news =>
              obtain ⟨read, other⟩ := textNews_eq_some_iff.mp news
              rw [checkText_text, read]
              simp [Watch.look, PollState.text, other]
          next seen =>
              cases read : textKey getText with
              | none => rfl
              | some text =>
                  have same : state.lastSeen = some text := by
                    by_contra other
                    rw [textNews_eq_some_iff.mpr ⟨read, other⟩] at seen
                    cases seen
                  simp [Watch.look, PollState.text, same]

theorem pollTick_files_iff :
    (pollTick toStringLossy textPublishSkipReason state isolated getFiles getText).2 =
        some (.files files) ↔
      getFiles = .held files ∧ ∃ key, clipboardSignature toStringLossy files = some key ∧
        (state.files.look (some key)).2 = some key := by
  unfold pollTick
  split
  next news found =>
      obtain ⟨rfl, key, signed, other⟩ := filesNews_eq_some_iff.mp found
      rw [checkFiles_announces_iff signed, Announced.files.injEq, Reading.held.injEq]
      constructor
      · rintro ⟨rfl, unnamed⟩
        exact ⟨rfl, key, signed, state.files.look_announces_iff.mpr ⟨other, unnamed⟩⟩
      · rintro ⟨rfl, found, foundSigned, announced⟩
        cases signed.symm.trans foundSigned
        exact ⟨rfl, (state.files.look_announces_iff.mp announced).2⟩
  next old =>
      constructor
      · intro announced
        split at announced
        · cases announced
        · split at announced
          · cases (checkText_announces_iff.mp announced).1
          · cases announced
      · rintro ⟨held, key, signed, announced⟩
        have news := filesNews_eq_some_iff.mpr
          ⟨held, key, signed, (state.files.look_announces_iff.mp announced).1⟩
        rw [old] at news
        cases news

theorem pollTick_text_iff :
    (pollTick toStringLossy textPublishSkipReason state isolated getFiles getText).2 =
        some (.text text) ↔
      textRead toStringLossy state isolated getFiles getText = some text ∧
        (state.text.look (some text)).2 = some text ∧ textPublishSkipReason text = none := by
  unfold pollTick
  split
  next news found =>
      obtain ⟨rfl, key, signed, other⟩ := filesNews_eq_some_iff.mp found
      simp [checkFiles_announces_iff signed, textRead, found]
  next old =>
      cases isolated with
      | true => simp [textRead]
      | false =>
          simp only [textRead, old, Option.isSome_none, Bool.or_false, Bool.false_eq_true, if_false]
          split
          next news found =>
              obtain ⟨read, other⟩ := textNews_eq_some_iff.mp found
              rw [checkText_announces_iff, read, Announced.text.injEq, Option.some.injEq]
              constructor
              · rintro ⟨rfl, unnamed, passes⟩
                exact ⟨rfl, state.text.look_announces_iff.mpr ⟨other, unnamed⟩, passes⟩
              · rintro ⟨rfl, announced, passes⟩
                exact ⟨rfl, (state.text.look_announces_iff.mp announced).2, passes⟩
          next seen =>
              constructor
              · intro announced
                cases announced
              · rintro ⟨read, announced, -⟩
                have news := textNews_eq_some_iff.mpr
                  ⟨read, (state.text.look_announces_iff.mp announced).1⟩
                rw [seen] at news
                cases news

end Channels

/-! ## A clipboard that stays as it is -/

section Unchanged

variable {P : Type} (toStringLossy : P → String) (textPublishSkipReason : String → Option String)
  (clipboard : Clipboard P)

/-- A tick in system mode over the clipboard. -/
def tickOver (state : PollState) : PollState × Option (Announced P) :=
  pollTick toStringLossy textPublishSkipReason state false (clipboard.getFiles false)
    (clipboard.getText false)

/-- The clips that `ticks` rounds bring about over a clipboard that stays as it is.  A call
to publish may fail, or find nothing to transfer: `creates` says of the call made in a
given round whether it creates a clip. -/
def clipsOf : Nat → (Nat → Announced P → Bool) → PollState → Nat
  | 0, _, _ => 0
  | ticks + 1, creates, state =>
      let (next, announced) := tickOver toStringLossy textPublishSkipReason clipboard state
      (if announced.any (creates 0) then 1 else 0) +
        clipsOf ticks (fun round => creates (round + 1)) next

/-- The file list of the clipboard is one the loop would announce: it is not the one last
seen, and the guard does not name it. -/
def FilesDue (state : PollState) (files : List P) : Prop :=
  clipboard.files = some files ∧ files ≠ [] ∧
    clipboardSignature toStringLossy files ≠ state.lastSeenFiles ∧
    clipboardSignature toStringLossy files ≠ state.lastLocalFileWrite

/-- The text of the clipboard is one the loop would announce: it is not empty, not the one
last seen, the guard does not name it, and the filter lets it pass. -/
def TextDue (state : PollState) (text : String) : Prop :=
  clipboard.text = some text ∧ text ≠ "" ∧ state.lastSeen ≠ some text ∧
    state.lastLocalWrite ≠ some text ∧ textPublishSkipReason text = none

variable {toStringLossy textPublishSkipReason clipboard} {state : PollState}

theorem tickOver_files : (tickOver toStringLossy textPublishSkipReason clipboard state).1.files =
    (state.files.look (filesKey toStringLossy (clipboard.getFiles false))).1 := pollTick_files

theorem tickOver_text : (tickOver toStringLossy textPublishSkipReason clipboard state).1.text =
    (state.text.look (textRead toStringLossy state false (clipboard.getFiles false)
      (clipboard.getText false))).1 := pollTick_text

/-- After a tick its file list is no news. -/
theorem tickOver_filesSeen :
    filesNews toStringLossy (tickOver toStringLossy textPublishSkipReason clipboard state).1
      (clipboard.getFiles false) = none := by
  cases news : filesNews toStringLossy
      (tickOver toStringLossy textPublishSkipReason clipboard state).1
      (clipboard.getFiles false) with
  | none => rfl
  | some files =>
      obtain ⟨held, key, signed, other⟩ := filesNews_eq_some_iff.mp news
      have looked : (tickOver toStringLossy textPublishSkipReason clipboard state).1.files.seen =
          some key := by
        rw [tickOver_files, Watch.look_seen, held]
        simp [filesKey, signed]
      exact absurd looked other

/-- After a tick that came to its text, the text is no news. -/
theorem tickOver_textSeen
    (seen : filesNews toStringLossy state (clipboard.getFiles false) = none) :
    textNews (tickOver toStringLossy textPublishSkipReason clipboard state).1
      (clipboard.getText false) = none := by
  cases news : textNews (tickOver toStringLossy textPublishSkipReason clipboard state).1
      (clipboard.getText false) with
  | none => rfl
  | some text =>
      obtain ⟨read, other⟩ := textNews_eq_some_iff.mp news
      have looked : (tickOver toStringLossy textPublishSkipReason clipboard state).1.text.seen =
          some text := by
        rw [tickOver_text, Watch.look_seen]
        simp [textRead, seen, read]
      exact absurd looked other

theorem tickOver_quiet (noFiles : filesNews toStringLossy state (clipboard.getFiles false) = none)
    (noText : textNews state (clipboard.getText false) = none) :
    tickOver toStringLossy textPublishSkipReason clipboard state = (state, none) := by
  simp [tickOver, pollTick, noFiles, noText]

theorem clipsOf_quiet (ticks : Nat) (creates : Nat → Announced P → Bool)
    (noFiles : filesNews toStringLossy state (clipboard.getFiles false) = none)
    (noText : textNews state (clipboard.getText false) = none) :
    clipsOf toStringLossy textPublishSkipReason clipboard ticks creates state = 0 := by
  induction ticks generalizing creates with
  | zero => rfl
  | succ ticks ih => simp [clipsOf, tickOver_quiet noFiles noText, ih]

/-- Where the file list is no news, only the first tick can announce anything. -/
theorem clipsOf_seenFiles (ticks : Nat) (creates : Nat → Announced P → Bool)
    (seen : filesNews toStringLossy state (clipboard.getFiles false) = none) :
    clipsOf toStringLossy textPublishSkipReason clipboard (ticks + 1) creates state =
      if (tickOver toStringLossy textPublishSkipReason clipboard state).2.any (creates 0)
      then 1 else 0 := by
  simp only [clipsOf]
  rw [clipsOf_quiet ticks _ tickOver_filesSeen (tickOver_textSeen seen), Nat.add_zero]

theorem filesDue_iff {files : List P} :
    FilesDue toStringLossy clipboard state files ↔
      (tickOver toStringLossy textPublishSkipReason clipboard state).2 = some (.files files) := by
  simp only [tickOver, pollTick_files_iff, Watch.look_announces_iff, FilesDue, PollState.files]
  have reads : clipboard.getFiles false = .held files ↔ clipboard.files = some files := by
    cases clipboard with
    | mk held text => cases held <;> simp [Clipboard.getFiles]
  rw [reads]
  refine and_congr_right fun _ => ?_
  constructor
  · rintro ⟨held, unseen, unnamed⟩
    obtain ⟨key, signed⟩ := clipboardSignature_of_ne_nil toStringLossy held
    rw [signed] at unseen unnamed
    exact ⟨key, signed, Ne.symm unseen, Ne.symm unnamed⟩
  · rintro ⟨key, signed, unseen, unnamed⟩
    refine ⟨?_, signed ▸ Ne.symm unseen, signed ▸ Ne.symm unnamed⟩
    rintro rfl
    cases signed

theorem textDue_iff {text : String}
    (seen : filesNews toStringLossy state (clipboard.getFiles false) = none) :
    TextDue textPublishSkipReason clipboard state text ↔
      (tickOver toStringLossy textPublishSkipReason clipboard state).2 = some (.text text) := by
  have reads : clipboard.getText false = .held text ↔ clipboard.text = some text := by
    cases clipboard with
    | mk files held => cases held <;> simp [Clipboard.getText]
  simp only [tickOver, pollTick_text_iff, Watch.look_announces_iff, textRead, seen, TextDue,
    Option.isSome_none, Bool.or_self, Bool.false_eq_true, if_false, textKey_eq_some_iff, reads,
    PollState.text, and_assoc]

/-- A tick that announces a file list leaves the text channel alone. -/
theorem textDue_afterFiles {files : List P} {text : String}
    (news : filesNews toStringLossy state (clipboard.getFiles false) = some files) :
    TextDue textPublishSkipReason clipboard
        (tickOver toStringLossy textPublishSkipReason clipboard state).1 text ↔
      TextDue textPublishSkipReason clipboard state text := by
  simp [tickOver, pollTick, news, checkFiles, TextDue]

theorem FilesDue.news {files : List P} (due : FilesDue toStringLossy clipboard state files) :
    filesNews toStringLossy state (clipboard.getFiles false) = some files := by
  obtain ⟨held, nonempty, unseen, -⟩ := due
  obtain ⟨key, signed⟩ := clipboardSignature_of_ne_nil toStringLossy nonempty
  refine filesNews_eq_some_iff.mpr ⟨by simp [Clipboard.getFiles, held], key, signed, ?_⟩
  rw [signed] at unseen
  exact Ne.symm unseen

variable (textPublishSkipReason) in
/-- The first round brings about a clip of its file list. -/
theorem files_created_iff {files : List P} {creates : Announced P → Bool}
    (news : filesNews toStringLossy state (clipboard.getFiles false) = some files) :
    (tickOver toStringLossy textPublishSkipReason clipboard state).2.any creates = true ↔
      ∃ files, FilesDue toStringLossy clipboard state files ∧ creates (.files files) = true := by
  rw [Option.any_eq_true]
  constructor
  · rintro ⟨announced, called, created⟩
    have same : announced = .files files := by
      obtain ⟨-, key, signed, -⟩ := filesNews_eq_some_iff.mp news
      simp only [tickOver, pollTick, news] at called
      exact ((checkFiles_announces_iff signed).mp called).1
    subst same
    exact ⟨files, filesDue_iff.mpr called, created⟩
  · rintro ⟨files, due, created⟩
    exact ⟨.files files, filesDue_iff.mp due, created⟩

variable (textPublishSkipReason) in
/-- A round in which no file list is news brings about a clip of its text. -/
theorem text_created_iff {creates : Announced P → Bool}
    (seen : filesNews toStringLossy state (clipboard.getFiles false) = none) :
    (tickOver toStringLossy textPublishSkipReason clipboard state).2.any creates = true ↔
      ∃ text, TextDue textPublishSkipReason clipboard state text ∧ creates (.text text) = true := by
  rw [Option.any_eq_true]
  constructor
  · rintro ⟨announced, called, created⟩
    cases announced with
    | text text => exact ⟨text, (textDue_iff seen).mpr called, created⟩
    | files files =>
        have news := (filesDue_iff.mpr called).news
        rw [seen] at news
        cases news
  · rintro ⟨text, due, created⟩
    exact ⟨.text text, (textDue_iff seen).mp due, created⟩

/-- A clipboard that stays as it is for any number of ticks gives rise to at most one clip,
unless both its file list and its text are due, and both calls create their clip: the file
list is announced in the first round and its text in the second. -/
theorem clipsOf_le_one_iff (ticks : Nat) (creates : Nat → Announced P → Bool) :
    clipsOf toStringLossy textPublishSkipReason clipboard ticks creates state ≤ 1 ↔
      ¬ (2 ≤ ticks ∧ ∃ files text, FilesDue toStringLossy clipboard state files ∧
        TextDue textPublishSkipReason clipboard state text ∧
        creates 0 (.files files) = true ∧ creates 1 (.text text) = true) := by
  cases ticks with
  | zero => simp [clipsOf]
  | succ ticks =>
      cases news : filesNews toStringLossy state (clipboard.getFiles false) with
      | none =>
          rw [clipsOf_seenFiles ticks creates news]
          refine iff_of_true (by split <;> omega) ?_
          rintro ⟨-, files, -, due, -⟩
          have again := due.news
          rw [news] at again
          cases again
      | some files =>
          cases ticks with
          | zero =>
              refine iff_of_true ?_ (by omega)
              simp only [clipsOf]
              split <;> omega
          | succ ticks =>
              have seen : filesNews toStringLossy
                  (tickOver toStringLossy textPublishSkipReason clipboard state).1
                  (clipboard.getFiles false) = none := tickOver_filesSeen
              have first : (tickOver toStringLossy textPublishSkipReason clipboard state).2.any
                    (creates 0) = true ↔
                  ∃ files, FilesDue toStringLossy clipboard state files ∧
                    creates 0 (.files files) = true :=
                files_created_iff textPublishSkipReason news
              have second : (tickOver toStringLossy textPublishSkipReason clipboard
                    (tickOver toStringLossy textPublishSkipReason clipboard state).1).2.any
                    (creates 1) = true ↔
                  ∃ text, TextDue textPublishSkipReason clipboard state text ∧
                    creates 1 (.text text) = true := by
                simp only [← textDue_afterFiles news]
                exact text_created_iff textPublishSkipReason seen
              have counted : clipsOf toStringLossy textPublishSkipReason clipboard (ticks + 2)
                  creates state ≤ 1 ↔
                  ¬ ((tickOver toStringLossy textPublishSkipReason clipboard state).2.any
                      (creates 0) = true ∧
                    (tickOver toStringLossy textPublishSkipReason clipboard
                      (tickOver toStringLossy textPublishSkipReason clipboard state).1).2.any
                      (creates 1) = true) := by
                rw [clipsOf]
                simp only [clipsOf_seenFiles ticks _ tickOver_filesSeen, Nat.zero_add]
                split <;> split <;> simp_all
              rw [counted, first, second]
              constructor
              · rintro once ⟨-, files, text, filesDue, textDue, filesCreated, textCreated⟩
                exact once ⟨⟨files, filesDue, filesCreated⟩, ⟨text, textDue, textCreated⟩⟩
              · rintro notBoth ⟨⟨files, filesDue, filesCreated⟩, ⟨text, textDue, textCreated⟩⟩
                exact notBoth ⟨by omega, files, text, filesDue, textDue, filesCreated, textCreated⟩

end Unchanged

namespace NamesAlongside

/-- A file manager puts the names of the files next to them, as a text. -/
def copied : Clipboard String := ⟨some ["/home/u/report.pdf"], some "report.pdf"⟩

/-- The first round publishes the file, the second its name. -/
theorem report_twice :
    ¬ clipsOf id (textPublishSkipReason defaultPolicy) copied 2 (fun _ _ => true)
      (pollStart id .absent .absent) ≤ 1 := by
  decide +kernel

end NamesAlongside

end AirPaste.Agent
