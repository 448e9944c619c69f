/-
# Agent.InboxDownloads — downloads of the UI beside applies of the hotkey

`download_inbox_files` claims a row, downloads its clip and stores the outcome in the row;
`apply_pending_file_clip` downloads the clip in the slot, clears the slot and marks the
clip's row.  Only the first claims the row before it starts, and both store what they come
to without looking at the row again.  `InboxStep` are the steps of any number of calls of
both, with arrivals in between; each takes one lock.  A source serves an index of a clip
once: a call is not served what another one was.

A call of the UI that is at work records whether its row was marked as done meanwhile; no
step reads that.  `doneFinal_iff` says in which runs a row that is done stays so; in
`Doomed.done_becomes_failed` a download of the UI fails because the hotkey's apply, begun
after it, got the file.
-/
import AirPaste.Agent.Inbox

namespace AirPaste.Agent

open AirPaste.Core
open AirPaste.Theory

set_option autoImplicit false

/-- What both ways of applying a clip are given. -/
structure FileApplyCtx where
  policy : FileTransferPolicy
  preferRelay : Bool
  cacheDir : LexPath String
  /-- `{error:#}` of an error. -/
  describe : Failure → String

def FileApplyCtx.apply (ctx : FileApplyCtx) (x : Surroundings) (machine : Receiver)
    (clip : PendingFileClip) : Except Failure (List (LexPath String)) :=
  (applyFileClip x ctx.policy ctx.preferRelay ctx.cacheDir clip machine).1

/-- The state that a download leaves in its row. -/
def FileDownloadState.ofResult : Except String (List (LexPath String)) → FileDownloadState
  | .ok paths => .done paths
  | .error message => .failed message

/-- The file clips of the server, which never change. -/
abbrev StoredClips := ClipId → DeviceId × FileClip

/-- What an agent keeps of the answer of `get_clip`. -/
def StoredClips.pending (stored : StoredClips) (clipId : ClipId) : PendingFileClip :=
  ⟨clipId, (stored clipId).1, (stored clipId).2⟩

/-- The source delivers the whole file at an index, on either route. -/
def Surroundings.serves (x : Surroundings) (index : Nat) : Bool :=
  (match x.responses index with
    | some response => response.ends
    | none => false) || (x.relayed index).isSome

/-- What a download of the clip is served. -/
def Surroundings.served (x : Surroundings) (clip : PendingFileClip) : List (ClipId × Nat) :=
  ((List.range clip.fileClip.files.length).filter x.serves).map fun index => (clip.clipId, index)

/-- Where a call of `download_inbox_files` stands. -/
inductive UiCall where
  | idle
  /-- The agent had its client when the call was made. -/
  | pressed (id : Nat)
  | downloading (id : Nat) (clip : PendingFileClip) (overtaken : Bool)
  | storing (id : Nat) (result : Except String (List (LexPath String))) (overtaken : Bool)

/-- The row is marked as done. -/
def UiCall.overtake (id : Nat) : UiCall → UiCall
  | .downloading own clip overtaken => .downloading own clip (overtaken || own == id)
  | .storing own result overtaken => .storing own result (overtaken || own == id)
  | call => call

structure InboxDownloads where
  slot : Slot
  /-- The agent has its client and its `FileApplyCtx`. -/
  connected : Bool
  calls : Nat → UiCall
  served : List (ClipId × Nat)

inductive InboxStep where
  | connects
  | arrivesText (text : String)
  | arrives (clipId : ClipId)
  | lists
  | starts (apply : Nat)
  | applies (apply : Nat) (x : Surroundings) (machine : Receiver)
  | clears (apply : Nat)
  | marks (apply : Nat)
  | presses (call : Nat) (id : Nat)
  | claims (call : Nat)
  | downloads (call : Nat) (x : Surroundings) (machine : Receiver)
  | stores (call : Nat)

namespace InboxDownloads

def setCall (s : InboxDownloads) (call : Nat) (atWork : UiCall) : InboxDownloads :=
  { s with calls := fun other => if other = call then atWork else s.calls other }

def setInbox (s : InboxDownloads) (inbox : List InboxItem) : InboxDownloads :=
  { s with slot := { s.slot with inbox := inbox } }

/-- The row is marked as done before all calls. -/
def overtakes (s : InboxDownloads) (id : Nat) : InboxDownloads :=
  { s with calls := fun call => (s.calls call).overtake id }

/-- The event handler takes events once the agent is connected, and lists a file clip before
the next event. -/
def arrivesText (s : InboxDownloads) (text : String) : InboxDownloads :=
  match s.connected, s.slot.unlisted with
  | true, none =>
      let seq := s.slot.arrivalSeq + 1
      { s with slot := { s.slot with
          inbox := pushInbox s.slot.inbox ⟨seq, .text text⟩
          arrivalSeq := seq } }
  | _, _ => s

def arrives (s : InboxDownloads) (clip : PendingFileClip) : InboxDownloads :=
  if s.connected then { s with slot := s.slot.arrives clip } else s

def applies (s : InboxDownloads) (ctx : FileApplyCtx) (apply : Nat) (x : Surroundings)
    (machine : Receiver) : InboxDownloads :=
  match s.slot.applies apply with
  | .downloading pending =>
      if (x.served pending).all (· ∉ s.served) then
        { s with
          slot := s.slot.downloads apply (ctx.apply x machine pending)
          served := x.served pending ++ s.served }
      else s
  | _ => s

def marks (s : InboxDownloads) (apply : Nat) : InboxDownloads :=
  match s.slot.applies apply with
  | .marking pending _ =>
      let marked := { s with slot := s.slot.marks apply }
      match s.slot.inbox.find? (InboxItem.isOf pending.clipId) with
      | none => marked
      | some row => marked.overtakes row.id
  | _ => s

def presses (s : InboxDownloads) (call id : Nat) : InboxDownloads :=
  match s.calls call with
  | .idle =>
      s.setCall call (if s.connected then .pressed id else .storing id (.error "尚未连接") false)
  | _ => s

def claims (s : InboxDownloads) (call : Nat) : InboxDownloads :=
  match s.calls call with
  | .pressed id =>
      match claimInboxDownload s.slot.inbox id with
      | none => s.setCall call .idle
      | some (clip, claimed) => (s.setInbox claimed).setCall call (.downloading id clip false)
  | _ => s

def downloads (s : InboxDownloads) (ctx : FileApplyCtx) (call : Nat) (x : Surroundings)
    (machine : Receiver) : InboxDownloads :=
  match s.calls call with
  | .downloading id clip overtaken =>
      if (x.served clip).all (· ∉ s.served) then
        { s.setCall call (.storing id ((ctx.apply x machine clip).mapError ctx.describe)
            overtaken) with
          served := x.served clip ++ s.served }
      else s
  | _ => s

def stores (s : InboxDownloads) (call : Nat) : InboxDownloads :=
  match s.calls call with
  | .storing id result _ =>
      let stored := (s.setInbox (setInboxFileState s.slot.inbox id (.ofResult result))).setCall
        call .idle
      match result with
      | .ok _ => stored.overtakes id
      | .error _ => stored
  | _ => s

def step (stored : StoredClips) (ctx : FileApplyCtx) (s : InboxDownloads) :
    InboxStep → InboxDownloads
  | .connects => { s with connected := true }
  | .arrivesText text => s.arrivesText text
  | .arrives clipId => s.arrives (stored.pending clipId)
  | .lists => { s with slot := s.slot.lists }
  | .starts apply => { s with slot := s.slot.starts apply }
  | .applies apply x machine => s.applies ctx apply x machine
  | .clears apply => { s with slot := s.slot.clears apply }
  | .marks apply => s.marks apply
  | .presses call id => s.presses call id
  | .claims call => s.claims call
  | .downloads call x machine => s.downloads ctx call x machine
  | .stores call => s.stores call

def new (arrivalSeq : Nat) : InboxDownloads where
  slot := ⟨none, [], arrivalSeq, 0, none, fun _ => .idle, none, []⟩
  connected := false
  calls := fun _ => .idle
  served := []

end InboxDownloads

/-! ## Rows that are done -/

def InboxItem.isDone (item : InboxItem) : Bool :=
  match item.kind with
  | .files _ state => state.isDone
  | .text _ => false

/-- A row that is done stays as it is, or has left the inbox. -/
def StaysDone (before after : List InboxItem) : Prop :=
  ∀ row ∈ before, row.isDone = true → row ∈ after ∨ ∀ other ∈ after, other.id ≠ row.id

namespace InboxDownloads

/-- In every part of the run, the rows that are done at its start stay as they are until they
leave the inbox. -/
def DoneFinal (stored : StoredClips) (ctx : FileApplyCtx) (s : InboxDownloads)
    (events : List InboxStep) : Prop :=
  ∀ before middle after, events = before ++ middle ++ after →
    StaysDone (runFrom (step stored ctx) s before).slot.inbox
      (runFrom (step stored ctx) s (before ++ middle)).slot.inbox

/-- A download of the UI that has failed does not store that in a row that was marked as done
meanwhile. -/
def NotOvertaken (s : InboxDownloads) : InboxStep → Prop
  | .stores call => ∀ id message, s.calls call = .storing id (.error message) true →
      ∀ row ∈ s.slot.inbox, row.id ≠ id
  | _ => True

end InboxDownloads

/-! ## What the steps keep -/

/-- The paths are those of the clip in this row. -/
def InboxItem.Destined (cacheDir : LexPath String) (paths : List (LexPath String))
    (item : InboxItem) : Prop :=
  ∃ clip state, item.kind = .files clip state ∧ paths = destinations cacheDir clip.fileClip

/-- The rows have growing numbers, hold clips of the server, and are done with the paths of
their clips. -/
structure Shelf (stored : StoredClips) (cacheDir : LexPath String) (seq : Nat)
    (inbox : List InboxItem) : Prop where
  ordered : History.Ordered InboxItem.id inbox
  numbered : ∀ row ∈ inbox, row.id ≤ seq
  own : ∀ row ∈ inbox, ∀ clip state, row.kind = .files clip state →
    clip = stored.pending clip.clipId
  done : ∀ row ∈ inbox, ∀ clip paths, row.kind = .files clip (.done paths) →
    paths = destinations cacheDir clip.fileClip

/-- A call of the UI knows its row: it is done exactly when it was marked meanwhile. -/
def UiCall.Fits (cacheDir : LexPath String) (seq : Nat) (inbox : List InboxItem) : UiCall → Prop
  | .downloading id clip overtaken => id ≤ seq ∧ ∀ row ∈ inbox, row.id = id →
      row.isDone = overtaken ∧ ∃ state, row.kind = .files clip state
  | .storing id result overtaken =>
      (overtaken = true ∨ (∃ paths, result = .ok paths) → id ≤ seq) ∧
        ∀ row ∈ inbox, row.id = id → row.isDone = overtaken ∧
          ∀ paths, result = .ok paths → row.Destined cacheDir paths
  | _ => True

/-- A call of the hotkey has a clip of the server and, after the download, its paths. -/
def ApplyPhase.Fits (stored : StoredClips) (cacheDir : LexPath String) : ApplyPhase → Prop
  | .idle => True
  | .downloading pending => pending = stored.pending pending.clipId
  | .clearing pending files | .marking pending files =>
      pending = stored.pending pending.clipId ∧ files = destinations cacheDir pending.fileClip

section Rows

variable {stored : StoredClips} {cacheDir : LexPath String} {seq id : Nat}
  {inbox : List InboxItem} {kind : InboxItemKind} {state : FileDownloadState} {row : InboxItem}
  {call : UiCall} {paths : List (LexPath String)}

/-- What has just arrived is not done. -/
def InboxItemKind.Fresh (stored : StoredClips) (kind : InboxItemKind) : Prop :=
  ∀ clip state, kind = .files clip state → clip = stored.pending clip.clipId ∧ state = .idle

theorem InboxItemKind.Fresh.not_done (fresh : kind.Fresh stored) :
    (InboxItem.mk id kind).isDone = false := by
  cases kind with
  | text content => rfl
  | files clip state =>
      obtain ⟨-, rfl⟩ := fresh clip state rfl
      rfl

theorem Shelf.newest (shelf : Shelf stored cacheDir seq inbox) :
    ∀ old ∈ inbox, old.id < (InboxItem.mk (seq + 1) kind).id :=
  fun old member => Nat.lt_succ_of_le (shelf.numbered old member)

theorem Shelf.push (shelf : Shelf stored cacheDir seq inbox) (fresh : kind.Fresh stored) :
    Shelf stored cacheDir (seq + 1) (pushInbox inbox ⟨seq + 1, kind⟩) where
  ordered := History.push_ordered shelf.ordered shelf.newest
  numbered := by
    intro row member
    rcases History.mem_of_mem_push member with rfl | old
    · exact Nat.le_refl _
    · exact Nat.le_succ_of_le (shelf.numbered row old)
  own := by
    intro row member clip state held
    rcases History.mem_of_mem_push member with rfl | old
    · exact (fresh clip state held).1
    · exact shelf.own row old clip state held
  done := by
    intro row member clip paths held
    rcases History.mem_of_mem_push member with rfl | old
    · cases (fresh clip _ held).2
    · exact shelf.done row old clip paths held

theorem UiCall.Fits.push (fits : call.Fits cacheDir seq inbox) (fresh : kind.Fresh stored) :
    call.Fits cacheDir (seq + 1) (pushInbox inbox ⟨seq + 1, kind⟩) := by
  cases call with
  | downloading id clip overtaken =>
      obtain ⟨bound, rows⟩ := fits
      refine ⟨Nat.le_succ_of_le bound, fun row member same => ?_⟩
      rcases History.mem_of_mem_push member with rfl | old
      · exact absurd same (Nat.ne_of_gt (Nat.lt_succ_of_le bound))
      · exact rows row old same
  | storing id result overtaken =>
      obtain ⟨bound, rows⟩ := fits
      refine ⟨fun known => Nat.le_succ_of_le (bound known), fun row member same => ?_⟩
      rcases History.mem_of_mem_push member with rfl | old
      · have unknown : ¬ (overtaken = true ∨ ∃ paths, result = .ok paths) := by
          intro known
          exact absurd same (Nat.ne_of_gt (Nat.lt_succ_of_le (bound known)))
        obtain ⟨notOvertaken, failed⟩ := not_or.mp unknown
        rw [fresh.not_done, Bool.eq_false_iff.mpr notOvertaken]
        exact ⟨rfl, fun paths done => absurd ⟨paths, done⟩ failed⟩
      · exact rows row old same
  | _ => trivial

theorem StaysDone.push (shelf : Shelf stored cacheDir seq inbox) :
    StaysDone inbox (pushInbox inbox ⟨seq + 1, kind⟩) :=
  fun _ member _ => History.kept_or_evicted shelf.ordered shelf.newest member

theorem StaysDone.refl (inbox : List InboxItem) : StaysDone inbox inbox :=
  fun _ member _ => .inl member

theorem InboxItem.setState_files {clip : PendingFileClip} {old : FileDownloadState}
    (held : row.kind = .files clip old) : (row.setState state).kind = .files clip state := by
  obtain ⟨id, kind⟩ := row
  cases held
  rfl

theorem InboxItem.isDone_of_files {clip : PendingFileClip} {old : FileDownloadState}
    (held : row.kind = .files clip old) : row.isDone = old.isDone := by
  rw [isDone, held]

theorem InboxItem.isDone_setState (undone : state.isDone = false) :
    (row.setState state).isDone = false := by
  obtain ⟨id, kind⟩ := row
  cases kind with
  | text content => rfl
  | files clip old => exact undone

theorem InboxItem.Destined.setState (destined : row.Destined cacheDir paths) :
    (row.setState state).Destined cacheDir paths := by
  obtain ⟨clip, old, held, same⟩ := destined
  exact ⟨clip, state, setState_files held, same⟩

/-- A row keeps its clip when its state is set. -/
theorem InboxItem.clip_of_setState {clip : PendingFileClip} {new : FileDownloadState}
    (held : (row.setState state).kind = .files clip new) :
    ∃ old, row.kind = .files clip old ∧ new = state := by
  obtain ⟨id, kind⟩ := row
  cases kind with
  | text content => cases held
  | files own old =>
      cases held
      exact ⟨old, rfl, rfl⟩

theorem Shelf.set (shelf : Shelf stored cacheDir seq inbox)
    (destined : ∀ paths, state = .done paths → ∀ row ∈ inbox, row.id = id →
      row.Destined cacheDir paths) :
    Shelf stored cacheDir seq (setInboxFileState inbox id state) where
  ordered := setInboxFileState_ordered shelf.ordered
  numbered := by
    intro row member
    rcases (mem_setInboxFileState_iff shelf.ordered).mp member with
      ⟨old, there, -, rfl⟩ | ⟨there, -⟩
    · rw [InboxItem.setState_id]
      exact shelf.numbered old there
    · exact shelf.numbered row there
  own := by
    intro row member clip new held
    rcases (mem_setInboxFileState_iff shelf.ordered).mp member with
      ⟨old, there, -, rfl⟩ | ⟨there, -⟩
    · obtain ⟨before, heldBefore, -⟩ := InboxItem.clip_of_setState held
      exact shelf.own old there clip before heldBefore
    · exact shelf.own row there clip new held
  done := by
    intro row member clip paths held
    rcases (mem_setInboxFileState_iff shelf.ordered).mp member with
      ⟨old, there, same, rfl⟩ | ⟨there, -⟩
    · obtain ⟨before, heldBefore, becomes⟩ := InboxItem.clip_of_setState held
      obtain ⟨own, _, heldToo, goes⟩ := destined paths becomes.symm old there same
      cases heldBefore.symm.trans heldToo
      exact goes
    · exact shelf.done row there clip paths held

/-- A row that is not done may change to another state that is not done. -/
theorem UiCall.Fits.setUndone (ordered : History.Ordered InboxItem.id inbox)
    (before : ∀ row ∈ inbox, row.id = id → row.isDone = false) (undone : state.isDone = false)
    (fits : call.Fits cacheDir seq inbox) :
    call.Fits cacheDir seq (setInboxFileState inbox id state) := by
  cases call with
  | downloading own clip overtaken =>
      obtain ⟨bound, rows⟩ := fits
      refine ⟨bound, fun row member same => ?_⟩
      rcases (mem_setInboxFileState_iff ordered).mp member with
        ⟨old, there, changed, rfl⟩ | ⟨there, -⟩
      · rw [InboxItem.setState_id] at same
        obtain ⟨marked, before', held⟩ := rows old there same
        rw [InboxItem.isDone_setState undone, ← marked, before old there changed]
        exact ⟨rfl, state, InboxItem.setState_files held⟩
      · exact rows row there same
  | storing own result overtaken =>
      obtain ⟨bound, rows⟩ := fits
      refine ⟨bound, fun row member same => ?_⟩
      rcases (mem_setInboxFileState_iff ordered).mp member with
        ⟨old, there, changed, rfl⟩ | ⟨there, -⟩
      · rw [InboxItem.setState_id] at same
        obtain ⟨marked, destined⟩ := rows old there same
        rw [InboxItem.isDone_setState undone, ← marked, before old there changed]
        exact ⟨rfl, fun paths done => (destined paths done).setState⟩
      · exact rows row there same
  | _ => trivial

/-- When a row is marked as done, the calls that know it record that. -/
theorem UiCall.Fits.setDone (ordered : History.Ordered InboxItem.id inbox) (bound : id ≤ seq)
    (destined : ∀ row ∈ inbox, row.id = id → row.Destined cacheDir paths)
    (fits : call.Fits cacheDir seq inbox) :
    (call.overtake id).Fits cacheDir seq (setInboxFileState inbox id (.done paths)) := by
  have marked : ∀ old ∈ inbox, old.id = id → (old.setState (.done paths)).isDone = true := by
    intro old there same
    obtain ⟨clip, state, held, -⟩ := destined old there same
    rw [InboxItem.isDone_of_files (InboxItem.setState_files held)]
    rfl
  cases call with
  | downloading own clip overtaken =>
      obtain ⟨known, rows⟩ := fits
      refine ⟨known, fun row member same => ?_⟩
      rcases (mem_setInboxFileState_iff ordered).mp member with
        ⟨old, there, changed, rfl⟩ | ⟨there, other⟩
      · rw [InboxItem.setState_id] at same
        obtain ⟨-, state, held⟩ := rows old there same
        rw [marked old there changed, ← same, changed, beq_self_eq_true, Bool.or_true]
        exact ⟨rfl, _, InboxItem.setState_files held⟩
      · rw [← same, beq_false_of_ne other, Bool.or_false]
        exact rows row there same
  | storing own result overtaken =>
      obtain ⟨known, rows⟩ := fits
      refine ⟨?_, fun row member same => ?_⟩
      · rintro (reached | done)
        · rcases (Bool.or_eq_true _ _).mp reached with before | now
          · exact known (.inl before)
          · rw [beq_iff_eq.mp now]
            exact bound
        · exact known (.inr done)
      · rcases (mem_setInboxFileState_iff ordered).mp member with
          ⟨old, there, changed, rfl⟩ | ⟨there, other⟩
        · rw [InboxItem.setState_id] at same
          rw [marked old there changed, ← same, changed, beq_self_eq_true, Bool.or_true]
          exact ⟨rfl, fun paths done => ((rows old there same).2 paths done).setState⟩
        · rw [← same, beq_false_of_ne other, Bool.or_false]
          exact rows row there same
  | _ => trivial

theorem StaysDone.setUndone (ordered : History.Ordered InboxItem.id inbox)
    (before : ∀ row ∈ inbox, row.id = id → row.isDone = false) :
    StaysDone inbox (setInboxFileState inbox id state) := by
  intro row member done
  refine .inl ((mem_setInboxFileState_iff ordered).mpr (.inr ⟨member, fun same => ?_⟩))
  rw [before row member same] at done
  cases done

theorem StaysDone.setDone (shelf : Shelf stored cacheDir seq inbox)
    (destined : ∀ row ∈ inbox, row.id = id → row.Destined cacheDir paths) :
    StaysDone inbox (setInboxFileState inbox id (.done paths)) := by
  intro row member done
  refine .inl ((mem_setInboxFileState_iff shelf.ordered).mpr ?_)
  by_cases same : row.id = id
  · refine .inl ⟨row, member, same, ?_⟩
    obtain ⟨clip, state, held, goes⟩ := destined row member same
    rw [InboxItem.isDone_of_files held] at done
    cases state with
    | done old =>
        obtain rfl := goes.trans (shelf.done row member clip old held).symm
        obtain ⟨number, kind⟩ := row
        cases held
        rfl
    | _ => cases done
  · exact .inr ⟨member, same⟩

end Rows

namespace InboxDownloads

/-- What holds between the steps. -/
structure Sound (stored : StoredClips) (ctx : FileApplyCtx) (s : InboxDownloads) : Prop where
  shelf : Shelf stored ctx.cacheDir s.slot.arrivalSeq s.slot.inbox
  pending : ∀ clip, s.slot.pendingFileClip = some clip → clip = stored.pending clip.clipId
  unlisted : ∀ clip, s.slot.unlisted = some clip → clip = stored.pending clip.clipId
  applies : ∀ apply, (s.slot.applies apply).Fits stored ctx.cacheDir
  calls : ∀ call, (s.calls call).Fits ctx.cacheDir s.slot.arrivalSeq s.slot.inbox
  unconnected : s.connected = false → s.slot.inbox = [] ∧ s.slot.unlisted = none

/-- What a step that keeps its rows does. -/
structure Keeps (stored : StoredClips) (ctx : FileApplyCtx) (s t : InboxDownloads) : Prop where
  sound : Sound stored ctx t
  stays : StaysDone s.slot.inbox t.slot.inbox

variable {stored : StoredClips} {ctx : FileApplyCtx} {s : InboxDownloads}

theorem Keeps.same (sound : Sound stored ctx s) : Keeps stored ctx s s :=
  ⟨sound, StaysDone.refl _⟩

theorem pending_fresh (clipId : ClipId) :
    stored.pending clipId = stored.pending (stored.pending clipId).clipId := rfl

/-! ### The hotkey and the arrivals -/

theorem setPhase_fits {apply : Nat} {phase : ApplyPhase} (sound : Sound stored ctx s)
    (fits : phase.Fits stored ctx.cacheDir) (other : Nat) :
    ((s.slot.setPhase apply phase).applies other).Fits stored ctx.cacheDir := by
  by_cases same : other = apply
  · rw [same, Slot.setPhase_self]
    exact fits
  · rw [Slot.setPhase_other same]
    exact sound.applies other

/-- A new row. -/
theorem push_keeps (kind : InboxItemKind) (sound : Sound stored ctx s)
    (fresh : kind.Fresh stored) {t : InboxDownloads}
    (inbox : t.slot.inbox = pushInbox s.slot.inbox ⟨s.slot.arrivalSeq + 1, kind⟩)
    (seq : t.slot.arrivalSeq = s.slot.arrivalSeq + 1)
    (pending : t.slot.pendingFileClip = s.slot.pendingFileClip)
    (unlisted : t.slot.unlisted = none) (applies : t.slot.applies = s.slot.applies)
    (calls : t.calls = s.calls) (connected : t.connected = true) : Keeps stored ctx s t := by
  refine ⟨⟨?_, ?_, ?_, ?_, ?_, ?_⟩, ?_⟩
  · rw [inbox, seq]
    exact sound.shelf.push fresh
  · rw [pending]
    exact sound.pending
  · intro clip listed
    cases unlisted.symm.trans listed
  · rw [applies]
    exact sound.applies
  · intro call
    rw [calls, inbox, seq]
    exact (sound.calls call).push fresh
  · intro wrong
    cases connected.symm.trans wrong
  · rw [inbox]
    exact StaysDone.push sound.shelf

theorem arrivesText_keeps (content : String) (sound : Sound stored ctx s) :
    Keeps stored ctx s (s.arrivesText content) := by
  unfold arrivesText
  split
  next connected listed =>
      exact push_keeps (.text content) sound (fun clip state held => by cases held) rfl rfl rfl
        listed rfl rfl connected
  next => exact .same sound

theorem lists_keeps (sound : Sound stored ctx s) :
    Keeps stored ctx s { s with slot := s.slot.lists } := by
  unfold Slot.lists
  split
  next => exact .same sound
  next clip listed =>
      have connected : s.connected = true := by
        cases there : s.connected with
        | true => rfl
        | false => cases (sound.unconnected there).2.symm.trans listed
      refine push_keeps (.files clip .idle) sound ?_ rfl rfl rfl rfl rfl rfl connected
      intro own state held
      cases held
      exact ⟨sound.unlisted clip listed, rfl⟩

theorem arrives_keeps (clipId : ClipId) (sound : Sound stored ctx s) :
    Keeps stored ctx s (s.arrives (stored.pending clipId)) := by
  unfold arrives
  split
  next connected =>
      unfold Slot.arrives
      split
      · exact .same sound
      · refine ⟨{ sound with
          pending := ?_, unlisted := ?_, unconnected := ?_ }, StaysDone.refl _⟩
        · intro clip held
          cases held
          exact pending_fresh clipId
        · intro clip held
          cases held
          exact pending_fresh clipId
        · intro wrong
          cases connected.symm.trans wrong
  next => exact .same sound

theorem starts_keeps (apply : Nat) (sound : Sound stored ctx s) :
    Keeps stored ctx s { s with slot := s.slot.starts apply } := by
  unfold Slot.starts
  split
  next pending idle held =>
      refine ⟨{ sound with applies := ?_ }, StaysDone.refl _⟩
      exact setPhase_fits sound (sound.pending pending held)
  next => exact .same sound

theorem applies_keeps (apply : Nat) (x : Surroundings) (machine : Receiver)
    (sound : Sound stored ctx s) : Keeps stored ctx s (s.applies ctx apply x machine) := by
  unfold applies
  split
  next pending phase =>
      split
      · have fits := sound.applies apply
        rw [phase] at fits
        unfold Slot.downloads
        rw [phase]
        cases result : ctx.apply x machine pending with
        | ok files =>
            refine ⟨{ sound with applies := ?_ }, StaysDone.refl _⟩
            exact setPhase_fits sound ⟨fits, (applyFileClip_destinations result).1⟩
        | error failure =>
            refine ⟨{ sound with applies := ?_ }, StaysDone.refl _⟩
            exact setPhase_fits sound trivial
      · exact .same sound
  next => exact .same sound

theorem clears_keeps (apply : Nat) (sound : Sound stored ctx s) :
    Keeps stored ctx s { s with slot := s.slot.clears apply } := by
  unfold Slot.clears
  split
  next pending files phase =>
      have fits := sound.applies apply
      rw [phase] at fits
      refine ⟨{ sound with pending := ?_, applies := ?_ }, StaysDone.refl _⟩
      · intro clip held
        cases held
      · exact setPhase_fits sound fits
  next => exact .same sound

theorem marks_keeps (apply : Nat) (sound : Sound stored ctx s) :
    Keeps stored ctx s (s.marks apply) := by
  unfold marks
  split
  next pending files phase =>
      have fits := sound.applies apply
      rw [phase] at fits
      obtain ⟨own, goes⟩ := fits
      have phases : ∀ other, ((s.slot.setPhase apply .idle).applies other).Fits stored
          ctx.cacheDir := setPhase_fits sound trivial
      unfold Slot.marks
      simp only [phase]
      rcases setInboxFileStateByClip_cases pending.clipId (.done files) sound.shelf.ordered with
        ⟨missing, unchanged⟩ | ⟨row, found, member, isOf, changed⟩
      · rw [missing, unchanged]
        exact ⟨{ sound with applies := phases }, StaysDone.refl _⟩
      · have destined : ∀ other ∈ s.slot.inbox, other.id = row.id →
            other.Destined ctx.cacheDir files := by
          intro other there same
          obtain rfl := sound.shelf.ordered.eq_of_key there member same
          obtain ⟨clip, state, held, named⟩ := InboxItem.isOf_files isOf
          refine ⟨clip, state, held, ?_⟩
          rw [goes, own, ← named, ← sound.shelf.own other member clip state held]
        rw [found, changed]
        refine ⟨⟨?_, sound.pending, sound.unlisted, phases, ?_, ?_⟩, ?_⟩
        · refine sound.shelf.set fun paths becomes => ?_
          cases becomes
          exact destined
        · intro call
          exact (sound.calls call).setDone sound.shelf.ordered
            (sound.shelf.numbered row member) destined
        · intro wrong
          rw [(sound.unconnected wrong).1] at member
          cases member
        · exact StaysDone.setDone sound.shelf destined
  next => exact .same sound

theorem applies_served {apply : Nat} {pending : PendingFileClip} {x : Surroundings}
    {machine : Receiver} (phase : s.slot.applies apply = .downloading pending)
    (free : (x.served pending).all (· ∉ s.served) = true) :
    (s.applies ctx apply x machine).slot =
      s.slot.downloads apply (ctx.apply x machine pending) := by
  unfold applies
  rw [phase]
  dsimp only
  rw [if_pos free]

theorem applies_idle {apply : Nat} {x : Surroundings} {machine : Receiver}
    (phase : s.slot.applies apply = .idle) : s.applies ctx apply x machine = s := by
  unfold applies
  rw [phase]

theorem marks_slot (apply : Nat) : (s.marks apply).slot = s.slot.marks apply := by
  unfold marks
  split
  · dsimp only
    split
    · rfl
    · rfl
  next other =>
      unfold Slot.marks
      split
      next pending files phase => exact absurd phase (other pending files)
      next => rfl

/-! ### The calls of the UI -/

theorem setCall_self (call : Nat) (atWork : UiCall) : (s.setCall call atWork).calls call = atWork :=
  if_pos rfl

theorem presses_idle {call id : Nat} (idle : s.calls call = .idle)
    (connected : s.connected = true) :
    s.presses call id = s.setCall call (.pressed id) := by
  unfold presses
  rw [idle, connected]
  rfl

theorem claims_pressed {call id : Nat} (pressed : s.calls call = .pressed id) :
    s.claims call =
      match claimInboxDownload s.slot.inbox id with
      | none => s.setCall call .idle
      | some (clip, claimed) =>
          (s.setInbox claimed).setCall call (.downloading id clip false) := by
  unfold claims
  rw [pressed]

theorem downloads_served {call id : Nat} {clip : PendingFileClip} {overtaken : Bool}
    {x : Surroundings} {machine : Receiver}
    (atWork : s.calls call = .downloading id clip overtaken)
    (free : (x.served clip).all (· ∉ s.served) = true) :
    s.downloads ctx call x machine =
      { s.setCall call (.storing id ((ctx.apply x machine clip).mapError ctx.describe)
          overtaken) with
        served := x.served clip ++ s.served } := by
  unfold downloads
  rw [atWork]
  exact if_pos free

theorem downloads_idle {call : Nat} {x : Surroundings} {machine : Receiver}
    (idle : s.calls call = .idle) : s.downloads ctx call x machine = s := by
  unfold downloads
  rw [idle]

theorem stores_idle {call : Nat} (idle : s.calls call = .idle) : s.stores call = s := by
  unfold stores
  rw [idle]

theorem stores_inbox {call id : Nat} {result : Except String (List (LexPath String))}
    {overtaken : Bool} (atWork : s.calls call = .storing id result overtaken) :
    (s.stores call).slot.inbox = setInboxFileState s.slot.inbox id (.ofResult result) := by
  unfold stores
  rw [atWork]
  cases result with
  | ok paths => rfl
  | error message => rfl

theorem setCall_fits {seq : Nat} {inbox : List InboxItem} {call : Nat} {atWork : UiCall}
    (calls : ∀ other, (s.calls other).Fits ctx.cacheDir seq inbox)
    (fits : atWork.Fits ctx.cacheDir seq inbox) (other : Nat) :
    ((s.setCall call atWork).calls other).Fits ctx.cacheDir seq inbox := by
  unfold setCall
  by_cases same : other = call
  · simp only [same, if_true]
    exact fits
  · simp only [same, if_false]
    exact calls other

theorem presses_keeps (call id : Nat) (sound : Sound stored ctx s) :
    Keeps stored ctx s (s.presses call id) := by
  unfold presses
  split
  next idle =>
      refine ⟨{ sound with calls := setCall_fits sound.calls ?_ }, StaysDone.refl _⟩
      split
      · trivial
      next unconnected =>
          have empty : s.slot.inbox = [] :=
            (sound.unconnected (Bool.eq_false_iff.mpr unconnected)).1
          refine ⟨?_, fun row member => ?_⟩
          · rintro (wrong | ⟨paths, wrong⟩)
            · cases wrong
            · cases wrong
          · have nowhere : row ∈ s.slot.inbox := member
            rw [empty] at nowhere
            cases nowhere
  next => exact .same sound

theorem claims_keeps (call : Nat) (sound : Sound stored ctx s) :
    Keeps stored ctx s (s.claims call) := by
  unfold claims
  split
  next id pressed =>
      split
      next => exact ⟨{ sound with calls := setCall_fits sound.calls trivial }, StaysDone.refl _⟩
      next clip claimed claims =>
          obtain ⟨old, member, undone, rfl⟩ := claimInboxDownload_some claims
          have before : ∀ row ∈ s.slot.inbox, row.id = id → row.isDone = false := by
            intro row there same
            rw [sound.shelf.ordered.eq_of_key there member same]
            exact undone
          have fits : (UiCall.downloading id clip false).Fits ctx.cacheDir s.slot.arrivalSeq
              (setInboxFileState s.slot.inbox id .downloading) := by
            refine ⟨sound.shelf.numbered _ member, fun row there same => ?_⟩
            rcases (mem_setInboxFileState_iff sound.shelf.ordered).mp there with
              ⟨row, before, own, rfl⟩ | ⟨-, other⟩
            · rw [sound.shelf.ordered.eq_of_key before member own]
              exact ⟨rfl, .downloading, rfl⟩
            · exact absurd same other
          refine ⟨⟨?_, sound.pending, sound.unlisted, sound.applies, ?_, ?_⟩, ?_⟩
          · exact sound.shelf.set fun paths becomes => by cases becomes
          · refine setCall_fits (fun other => ?_) fits
            exact (sound.calls other).setUndone sound.shelf.ordered before rfl
          · intro wrong
            rw [(sound.unconnected wrong).1] at member
            cases member
          · exact StaysDone.setUndone sound.shelf.ordered before
  next => exact .same sound

theorem downloads_keeps (call : Nat) (x : Surroundings) (machine : Receiver)
    (sound : Sound stored ctx s) : Keeps stored ctx s (s.downloads ctx call x machine) := by
  unfold downloads
  split
  next id clip overtaken atWork =>
      split
      · have fits := sound.calls call
        rw [atWork] at fits
        obtain ⟨known, rows⟩ := fits
        refine ⟨{ sound with calls := setCall_fits sound.calls ⟨fun _ => known, ?_⟩ },
          StaysDone.refl _⟩
        intro row member same
        obtain ⟨marked, state, held⟩ := rows row member same
        refine ⟨marked, fun paths done => ⟨clip, state, held, ?_⟩⟩
        exact (applyFileClip_destinations (mapError_ok_iff.mp done)).1
      · exact .same sound
  next => exact .same sound

theorem stores_keeps (call : Nat) (sound : Sound stored ctx s)
    (promptly : s.NotOvertaken (.stores call)) : Keeps stored ctx s (s.stores call) := by
  unfold stores
  split
  next id result overtaken atWork =>
      have fits := sound.calls call
      rw [atWork] at fits
      obtain ⟨known, rows⟩ := fits
      have unconnected : ∀ state, s.connected = false →
          setInboxFileState s.slot.inbox id state = [] ∧ s.slot.unlisted = none := by
        intro state wrong
        obtain ⟨empty, unlisted⟩ := sound.unconnected wrong
        rw [empty]
        exact ⟨rfl, unlisted⟩
      cases result with
      | ok paths =>
          have destined : ∀ row ∈ s.slot.inbox, row.id = id → row.Destined ctx.cacheDir paths :=
            fun row member same => (rows row member same).2 paths rfl
          refine ⟨⟨?_, sound.pending, sound.unlisted, sound.applies, ?_, unconnected _⟩, ?_⟩
          · refine sound.shelf.set fun others becomes => ?_
            cases becomes
            exact destined
          · intro other
            have idle : UiCall.idle.Fits ctx.cacheDir s.slot.arrivalSeq s.slot.inbox := trivial
            exact (setCall_fits sound.calls idle other).setDone sound.shelf.ordered
              (known (.inr ⟨paths, rfl⟩)) destined
          · exact StaysDone.setDone sound.shelf destined
      | error message =>
          have before : ∀ row ∈ s.slot.inbox, row.id = id → row.isDone = false := by
            intro row member same
            rw [(rows row member same).1]
            cases overtaken with
            | true => exact absurd same (promptly id message atWork row member)
            | false => rfl
          refine ⟨⟨?_, sound.pending, sound.unlisted, sound.applies, ?_, unconnected _⟩, ?_⟩
          · exact sound.shelf.set fun paths becomes => by cases becomes
          · refine setCall_fits (fun other => ?_) trivial
            exact (sound.calls other).setUndone sound.shelf.ordered before rfl
          · exact StaysDone.setUndone sound.shelf.ordered before
  next => exact .same sound

/-- A step in which no failed download meets a row marked meanwhile keeps the rows that are
done. -/
theorem step_keeps (e : InboxStep) (sound : Sound stored ctx s) (promptly : s.NotOvertaken e) :
    Keeps stored ctx s (step stored ctx s e) := by
  cases e with
  | connects =>
      refine ⟨{ sound with unconnected := ?_ }, StaysDone.refl _⟩
      intro wrong
      cases wrong
  | arrivesText text => exact arrivesText_keeps text sound
  | arrives clipId => exact arrives_keeps clipId sound
  | lists => exact lists_keeps sound
  | starts apply => exact starts_keeps apply sound
  | applies apply x machine => exact applies_keeps apply x machine sound
  | clears apply => exact clears_keeps apply sound
  | marks apply => exact marks_keeps apply sound
  | presses call id => exact presses_keeps call id sound
  | claims call => exact claims_keeps call sound
  | downloads call x machine => exact downloads_keeps call x machine sound
  | stores call => exact stores_keeps call sound promptly

/-- A failed download that meets a row marked meanwhile takes its mark away. -/
theorem notOvertaken_of_staysDone (e : InboxStep) (sound : Sound stored ctx s)
    (stays : StaysDone s.slot.inbox (step stored ctx s e).slot.inbox) : s.NotOvertaken e := by
  cases e with
  | stores call =>
      intro id message atWork row member same
      have fits := sound.calls call
      rw [atWork] at fits
      have marked : row.isDone = true := (fits.2 row member same).1
      have after : (step stored ctx s (.stores call)).slot.inbox =
          setInboxFileState s.slot.inbox id (.failed message) := stores_inbox atWork
      rw [after] at stays
      have stored : row.setState (.failed message) ∈
          setInboxFileState s.slot.inbox id (.failed message) :=
        (mem_setInboxFileState_iff sound.shelf.ordered).mpr (.inl ⟨row, member, same, rfl⟩)
      have undone : (row.setState (.failed message)).isDone = false :=
        InboxItem.isDone_setState rfl
      rcases stays row member marked with kept | gone
      · have both := (setInboxFileState_ordered sound.shelf.ordered).eq_of_key kept stored
          (InboxItem.setState_id _ row).symm
        rw [← both, marked] at undone
        cases undone
      · exact gone _ stored (InboxItem.setState_id _ row)
  | _ => trivial

/-! ### Whole runs -/

/-- Later rows are rows that were there, or newer ones. -/
structure Onward (s t : InboxDownloads) : Prop where
  seq : s.slot.arrivalSeq ≤ t.slot.arrivalSeq
  rows : ∀ row ∈ t.slot.inbox,
    (∃ old ∈ s.slot.inbox, old.id = row.id) ∨ s.slot.arrivalSeq < row.id

theorem Onward.refl (s : InboxDownloads) : Onward s s :=
  ⟨Nat.le_refl _, fun row member => .inl ⟨row, member, rfl⟩⟩

theorem Onward.same_ids {t : InboxDownloads} (seq : t.slot.arrivalSeq = s.slot.arrivalSeq)
    (ids : t.slot.inbox.map InboxItem.id = s.slot.inbox.map InboxItem.id) : Onward s t := by
  refine ⟨Nat.le_of_eq seq.symm, fun row member => .inl ?_⟩
  have among := List.mem_map_of_mem (f := InboxItem.id) member
  rw [ids] at among
  exact List.mem_map.mp among

theorem Onward.push {t : InboxDownloads} {kind : InboxItemKind}
    (seq : t.slot.arrivalSeq = s.slot.arrivalSeq + 1)
    (inbox : t.slot.inbox = pushInbox s.slot.inbox ⟨s.slot.arrivalSeq + 1, kind⟩) :
    Onward s t := by
  refine ⟨seq.symm ▸ Nat.le_succ _, fun row member => ?_⟩
  rw [inbox] at member
  rcases History.mem_of_mem_push member with rfl | old
  · exact .inr (Nat.lt_succ_self _)
  · exact .inl ⟨row, old, rfl⟩

theorem Onward.trans {t u : InboxDownloads} (first : Onward s t) (second : Onward t u) :
    Onward s u := by
  refine ⟨Nat.le_trans first.seq second.seq, fun row member => ?_⟩
  rcases second.rows row member with ⟨between, there, named⟩ | newer
  · rw [← named]
    exact first.rows between there
  · exact .inr (Nat.lt_of_le_of_lt first.seq newer)

theorem step_onward (stored : StoredClips) (ctx : FileApplyCtx) (s : InboxDownloads)
    (e : InboxStep) : Onward s (step stored ctx s e) := by
  cases e with
  | arrivesText text =>
      simp only [step, arrivesText]
      split
      · exact .push rfl rfl
      · exact .refl s
  | arrives clipId =>
      simp only [step, arrives, Slot.arrives]
      split
      · split
        · exact .refl s
        · exact .same_ids rfl rfl
      · exact .refl s
  | lists =>
      simp only [step, Slot.lists]
      split
      · exact .refl s
      · exact .push rfl rfl
  | starts apply =>
      simp only [step, Slot.starts]
      split
      · exact .same_ids rfl rfl
      · exact .refl s
  | applies apply x machine =>
      simp only [step, applies]
      split
      next pending phase =>
          split
          · simp only [Slot.downloads, phase]
            split
            · exact .same_ids rfl rfl
            · exact .same_ids rfl rfl
          · exact .refl s
      next => exact .refl s
  | clears apply =>
      simp only [step, Slot.clears]
      split
      · exact .same_ids rfl rfl
      · exact .refl s
  | marks apply =>
      simp only [step, marks]
      split
      next pending files phase =>
          have ids : (s.slot.marks apply).inbox.map InboxItem.id =
              s.slot.inbox.map InboxItem.id := by
            simp only [Slot.marks, phase]
            rw [setInboxFileStateByClip_eq]
            exact History.map_key_editFirst (InboxItem.setState_id _)
          have seq : (s.slot.marks apply).arrivalSeq = s.slot.arrivalSeq := by
            simp only [Slot.marks, phase]
            rfl
          split
          · exact .same_ids seq ids
          · exact .same_ids seq ids
      next => exact .refl s
  | presses call id =>
      simp only [step, presses]
      split
      · exact .same_ids rfl rfl
      · exact .refl s
  | claims call =>
      simp only [step, claims]
      split
      next id pressed =>
          split
          next => exact .same_ids rfl rfl
          next clip claimed claims =>
              obtain ⟨old, member, undone, rfl⟩ := claimInboxDownload_some claims
              exact .same_ids rfl (History.map_key_editFirst (InboxItem.setState_id _))
      next => exact .refl s
  | downloads call x machine =>
      simp only [step, downloads]
      split
      next =>
          split
          · exact .same_ids rfl rfl
          · exact .refl s
      next => exact .refl s
  | stores call =>
      simp only [step, stores]
      split
      next id result overtaken atWork =>
          have ids : ∀ state, (setInboxFileState s.slot.inbox id state).map InboxItem.id =
              s.slot.inbox.map InboxItem.id :=
            fun state => History.map_key_editFirst (InboxItem.setState_id state)
          split
          · exact .same_ids rfl (ids _)
          · exact .same_ids rfl (ids _)
      next => exact .refl s
  | connects => exact .same_ids rfl rfl

/-- What is gone does not come back. -/
theorem StaysDone.trans {t u : InboxDownloads} (sound : Sound stored ctx s)
    (first : StaysDone s.slot.inbox t.slot.inbox) (second : StaysDone t.slot.inbox u.slot.inbox)
    (onward : Onward s t) (later : Onward t u) : StaysDone s.slot.inbox u.slot.inbox := by
  intro row member done
  rcases first row member done with kept | gone
  · exact second row kept done
  · refine .inr fun other there same => ?_
    rcases later.rows other there with ⟨old, before, named⟩ | newer
    · exact gone old before (named.trans same)
    · have numbered := sound.shelf.numbered row member
      rw [same] at newer
      exact absurd newer (Nat.not_lt.mpr (Nat.le_trans numbered onward.seq))

theorem run_onward (stored : StoredClips) (ctx : FileApplyCtx) (s : InboxDownloads)
    (events : List InboxStep) : Onward s (runFrom (step stored ctx) s events) := by
  induction events generalizing s with
  | nil => exact .refl s
  | cons e rest ih => exact (step_onward stored ctx s e).trans (ih _)

/-- Over a run of such steps, the rows that are done at its start stay. -/
theorem run_staysDone {events : List InboxStep} (sound : Sound stored ctx s)
    (promptly : Along (step stored ctx) NotOvertaken s events) :
    StaysDone s.slot.inbox (runFrom (step stored ctx) s events).slot.inbox := by
  induction events generalizing s with
  | nil => exact StaysDone.refl _
  | cons e rest ih =>
      have first := step_keeps e sound promptly.1
      exact StaysDone.trans sound first.stays (ih first.sound promptly.2)
        (step_onward stored ctx s e) (run_onward stored ctx _ rest)

theorem new_sound (arrivalSeq : Nat) : Sound stored ctx (new arrivalSeq) where
  shelf :=
    { ordered := List.Pairwise.nil
      numbered := fun _ member => by cases member
      own := fun _ member => by cases member
      done := fun _ member => by cases member }
  pending := fun _ held => by cases held
  unlisted := fun _ held => by cases held
  applies := fun _ => trivial
  calls := fun _ => trivial
  unconnected := fun _ => ⟨rfl, rfl⟩

/-- A row that is done stays so with its paths until it leaves the inbox, in every part of a
run, exactly when no failed download of the UI meets a row that was marked as done while it
was at work. -/
theorem doneFinal_iff (stored : StoredClips) (ctx : FileApplyCtx) (arrivalSeq : Nat)
    (events : List InboxStep) :
    DoneFinal stored ctx (new arrivalSeq) events ↔
      Along (step stored ctx) NotOvertaken (new arrivalSeq) events := by
  have sound : Sound stored ctx (new arrivalSeq) := new_sound arrivalSeq
  constructor
  · intro final
    have eachStep : Along (step stored ctx)
        (fun s e => StaysDone s.slot.inbox (step stored ctx s e).slot.inbox)
        (new arrivalSeq) events := by
      refine along_iff.mpr fun before e after split => ?_
      have stays := final before [e] after (by rw [split, List.append_assoc]; rfl)
      rw [runFrom_append] at stays
      exact stays
    have agree : ∀ s e, Sound stored ctx s →
        (StaysDone s.slot.inbox (step stored ctx s e).slot.inbox ↔ s.NotOvertaken e) :=
      fun s e sound => ⟨notOvertaken_of_staysDone e sound, fun promptly =>
        (step_keeps e sound promptly).stays⟩
    refine (along_congr_of_keeps (fun s e sound stays => ?_) agree sound).mp eachStep
    exact (step_keeps e sound (notOvertaken_of_staysDone e sound stays)).sound
  · intro promptly before middle after split
    rw [split, List.append_assoc] at promptly
    obtain ⟨along, rest⟩ := along_append.mp promptly
    have between : Sound stored ctx (runFrom (step stored ctx) (new arrivalSeq) before) :=
      run_invariant (fun s e sound promptly => (step_keeps e sound promptly).sound) along sound
    rw [runFrom_append]
    exact run_staysDone between (along_append.mp rest).1

end InboxDownloads

namespace Doomed

open InboxDownloads

def manifest : FileClip where
  files := [⟨"report.pdf", "report.pdf", 3, none, none, .file⟩]
  totalSize := 3
  transferToken := ⟨"tt_1"⟩
  sourcePeerUrl := some "http://192.168.1.5:8788"
  transferExpiresAt := none

def stored : StoredClips := fun _ => (⟨"dev_laptop"⟩, manifest)
def report : ClipId := ⟨"clip_1"⟩

def ctx : FileApplyCtx where
  policy := ⟨16, 1000, 1000, 600, 600⟩
  preferRelay := false
  cacheDir := LexPath.parse "/home/u/cache"
  describe := fun _ => "relay fallback after direct download failure also failed"

/-- The source, which serves an index once: to a call that comes first, or to one that comes
too late. -/
def source (first : Bool) : Surroundings where
  sha256 := fun bytes => bytes
  displayTime := fun _ => ""
  fault := fun _ => none
  now := 0
  discovered := none
  responses := fun index => if first && index = 0 then some ⟨[[1, 2, 3]], true⟩ else none
  session := true
  relayed := fun _ => none
  setsClipboard := true

def disk : Receiver := ⟨Disk.empty, [], 0⟩

/-- The UI claims the row; the hotkey's apply starts then, gets the file and marks the row. -/
def untilDone : List InboxStep :=
  [.connects, .arrives report, .lists, .presses 0 1, .claims 0, .starts 0,
    .applies 0 (source true) disk, .clears 0, .marks 0]

/-- The download of the UI comes too late. -/
def tooLate : List InboxStep := [.downloads 0 (source false) disk, .stores 0]

def row (state : FileDownloadState) : InboxItem := ⟨1, .files (stored.pending report) state⟩

theorem done_becomes_failed : ¬ DoneFinal stored ctx (new 0) (untilDone ++ tooLate) := by
  have done : (runFrom (step stored ctx) (new 0) untilDone).slot.inbox =
        [row (.done [LexPath.parse "/home/u/cache/tt_1/report.pdf"])] ∧
      (runFrom (step stored ctx) (new 0) (untilDone ++ tooLate)).slot.inbox =
        [row (.failed "relay fallback after direct download failure also failed")] := by
    decide +kernel
  intro final
  have stays := final untilDone tooLate [] (List.append_nil _).symm
  rw [done.1, done.2] at stays
  rcases stays _ List.mem_cons_self rfl with kept | gone
  · cases List.mem_singleton.mp kept
  · exact gone _ List.mem_cons_self rfl

end Doomed

end AirPaste.Agent
