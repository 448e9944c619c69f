/-
# Agent.InboxDesk — the inbox and the slot, one operation at a time

What arrives goes to the inbox, a file clip to the slot too.  The hotkey pastes a text of the
inbox or applies the clip in the slot; the UI downloads the clip of a row.  Here each of them
is one operation; `wholeDownload_inbox` and `wholeApply_slot` say that the steps of a call
that nothing interrupts come to that.

The desk records which clips were downloaded and when the clip in the slot arrived; no
operation reads that.  `agree_iff` says in which runs the slot never holds a clip that was
downloaded or that a row shows as done: a download of the UI leaves the slot alone, and in
`Forgotten.slot_behind` it is the slot's clip that it downloads.
-/
import AirPaste.Agent.InboxDownloads

namespace AirPaste.Agent

open AirPaste.Core
open AirPaste.Theory

set_option autoImplicit false

structure Toast where
  text : String
  isError : Bool
  deriving DecidableEq

namespace Toast

def info (text : String) : Toast := ⟨text, false⟩
def error (text : String) : Toast := ⟨text, true⟩

end Toast

/-- What the hotkey is given, once the agent has its client. -/
structure PasteCtx extends FileApplyCtx where
  pasteAfterApply : Bool

/-- What an operation of the hotkey asks of the outside. -/
structure PasteAnswers where
  surroundings : Surroundings
  machine : Receiver
  setsText : Bool
  pastes : Bool

/-- What a call of `paste_remote_via_hotkey` acts on. -/
inductive HotkeyAct where
  | pastesText (text : String)
  | appliesFiles (pending : PendingFileClip)
  | nothing
  deriving DecidableEq

/-- Without a text to paste the hotkey turns to the slot. -/
def HotkeyAct.ofSlot : Option PendingFileClip → HotkeyAct
  | none => .nothing
  | some pending => .appliesFiles pending

structure InboxDesk where
  isolated : Bool
  pendingFileClip : Option PendingFileClip
  inbox : List InboxItem
  arrivalSeq : Nat
  inboxSeq : Nat
  fileSeq : Nat
  /-- When the clip in the slot arrived. -/
  pendingSeq : Nat
  /-- The clips that were downloaded. -/
  downloaded : List ClipId

structure Pasted where
  act : HotkeyAct
  toast : Except Failure Toast
  desk : InboxDesk

inductive InboxEvent where
  | arrivesText (text : String)
  | arrivesFiles (clip : PendingFileClip)
  | pasteRemote (answers : PasteAnswers)
  | autoApplies (autoPaste : Bool) (answers : PasteAnswers)
  | downloads (id : Nat) (x : Surroundings) (machine : Receiver)
  | setsIsolated (value : Bool)

/-- A text is put on the clipboard and pasted. -/
def pasteText (answers : PasteAnswers) : Except Failure Toast :=
  if !answers.setsText then .error .io
  else .ok (if answers.pastes then .info "已粘贴"
    else .error "自动粘贴失败,内容已留在剪贴板,可手动 Cmd+V")

/-- The newest text is pasted; none without a text. -/
def pasteInboxText (answers : PasteAnswers) (inbox : List InboxItem) :
    Option (String × Except Failure Toast) :=
  (newestText inbox).map fun text => (text, pasteText answers)

namespace InboxDesk

/-- An agent that starts in a mode, when its process has counted so many arrivals. -/
def new (isolated : Bool) (arrivalSeq : Nat) : InboxDesk :=
  ⟨isolated, none, [], arrivalSeq, 0, 0, 0, []⟩

/-- A text arrives in isolated mode. -/
def storeText (s : InboxDesk) (text : String) : InboxDesk :=
  let seq := s.arrivalSeq + 1
  { s with
    inbox := pushInbox s.inbox ⟨seq, .text text⟩
    arrivalSeq := seq
    inboxSeq := seq }

def storeFiles (s : InboxDesk) (clip : PendingFileClip) : InboxDesk :=
  let seq := s.arrivalSeq + 1
  { s with
    pendingFileClip := some clip
    inbox := pushInbox s.inbox ⟨seq, .files clip .idle⟩
    arrivalSeq := seq
    fileSeq := seq
    pendingSeq := seq }

/-- The slot is cleared and the row of the clip marked. -/
def applied (s : InboxDesk) (pending : PendingFileClip) (downloadedFiles : List (LexPath String)) :
    InboxDesk :=
  { s with
    pendingFileClip := none
    inbox := setInboxFileStateByClip pending.clipId (.done downloadedFiles) s.inbox
    downloaded := pending.clipId :: s.downloaded }

def applyPendingFileClip (ctx : FileApplyCtx) (pasteAfterApply : Bool) (answers : PasteAnswers)
    (s : InboxDesk) : Except Failure (List (LexPath String)) × InboxDesk :=
  match s.pendingFileClip with
  | none => (.ok [], s)
  | some pending =>
      match ctx.apply answers.surroundings answers.machine pending with
      | .error failure => (.error failure, s)
      | .ok downloadedFiles =>
          if pasteAfterApply && !answers.pastes then
            (.error .io, s.applied pending downloadedFiles)
          else (.ok downloadedFiles, s.applied pending downloadedFiles)

def nothingToPaste : Toast := .error "AirPaste 没有可粘贴的内容"

def receivedToast (downloaded : List (LexPath String)) : Toast :=
  if downloaded.isEmpty then nothingToPaste else .info s!"已接收 {downloaded.length} 个文件"

def pasteRemoteViaHotkey (ctx : PasteCtx) (answers : PasteAnswers) (s : InboxDesk) : Pasted :=
  let filesNewer := s.inboxSeq < s.fileSeq && s.pendingFileClip.isSome
  match (if s.isolated && !filesNewer then pasteInboxText answers s.inbox else none) with
  | some (text, toast) => ⟨.pastesText text, toast, s⟩
  | none =>
      let (result, after) :=
        s.applyPendingFileClip ctx.toFileApplyCtx ctx.pasteAfterApply answers
      ⟨.ofSlot s.pendingFileClip, result.map receivedToast, after⟩

/-- `download_inbox_files`: claim the row, download its clip, store the outcome. -/
def downloadInboxFiles (ctx : FileApplyCtx) (id : Nat) (x : Surroundings) (machine : Receiver)
    (s : InboxDesk) : InboxDesk :=
  match claimInboxDownload s.inbox id with
  | none => s
  | some (clip, claimed) =>
      let result := (ctx.apply x machine clip).mapError ctx.describe
      { s with
        inbox := setInboxFileState claimed id (.ofResult result)
        downloaded := if result.isOk then clip.clipId :: s.downloaded else s.downloaded }

def step (ctx : PasteCtx) (s : InboxDesk) : InboxEvent → InboxDesk
  | .arrivesText text => if s.isolated then s.storeText text else s
  | .arrivesFiles clip => s.storeFiles clip
  | .pasteRemote answers => (s.pasteRemoteViaHotkey ctx answers).desk
  | .autoApplies autoPaste answers =>
      (s.applyPendingFileClip ctx.toFileApplyCtx autoPaste answers).2
  | .downloads id x machine => s.downloadInboxFiles ctx.toFileApplyCtx id x machine
  | .setsIsolated value => { s with isolated := value }

/-! ## The slot and the rows agree -/

/-- The clip in the slot was not downloaded, and no row shows it as done. -/
def Agree (s : InboxDesk) : Prop :=
  ∀ pending, s.pendingFileClip = some pending → pending.clipId ∉ s.downloaded ∧
    ∀ row ∈ s.inbox, row.isOf pending.clipId = true → row.isDone = false

/-- A download of the UI that succeeds is not of the clip in the slot, and a clip that
arrives was not downloaded before. -/
def KeepsApart (ctx : PasteCtx) (s : InboxDesk) : InboxEvent → Prop
  | .arrivesFiles clip => clip.clipId ∉ s.downloaded
  | .downloads id x machine => ∀ clip claimed pending paths,
      claimInboxDownload s.inbox id = some (clip, claimed) →
      s.pendingFileClip = some pending → ctx.apply x machine clip = .ok paths →
      clip.clipId ≠ pending.clipId
  | _ => True

variable {ctx : PasteCtx} {s : InboxDesk}

/-- The rows have growing numbers, and there are not too many. -/
structure Ranked (s : InboxDesk) : Prop where
  ordered : History.Ordered InboxItem.id s.inbox
  numbered : ∀ row ∈ s.inbox, row.id ≤ s.arrivalSeq
  bounded : s.inbox.length ≤ inboxHistoryMax

theorem Ranked.push {t : InboxDesk} {kind : InboxItemKind} (ranked : s.Ranked)
    (seq : t.arrivalSeq = s.arrivalSeq + 1)
    (inbox : t.inbox = pushInbox s.inbox ⟨s.arrivalSeq + 1, kind⟩) : t.Ranked := by
  have newest : ∀ old ∈ s.inbox, old.id < s.arrivalSeq + 1 :=
    fun old member => Nat.lt_succ_of_le (ranked.numbered old member)
  refine ⟨?_, ?_, ?_⟩
  · rw [inbox]
    exact History.push_ordered ranked.ordered newest
  · intro row member
    rw [inbox] at member
    rw [seq]
    rcases History.mem_of_mem_push member with rfl | old
    · exact Nat.le_refl _
    · exact Nat.le_of_lt (newest row old)
  · rw [inbox]
    exact History.length_push_le

theorem Ranked.set {t : InboxDesk} {id : Nat} {state : FileDownloadState} (ranked : s.Ranked)
    (seq : t.arrivalSeq = s.arrivalSeq) (inbox : t.inbox = setInboxFileState s.inbox id state) :
    t.Ranked := by
  refine ⟨?_, ?_, ?_⟩
  · rw [inbox]
    exact setInboxFileState_ordered ranked.ordered
  · intro row member
    rw [inbox] at member
    rw [seq]
    rcases (mem_setInboxFileState_iff ranked.ordered).mp member with
      ⟨old, there, -, rfl⟩ | ⟨there, -⟩
    · rw [InboxItem.setState_id]
      exact ranked.numbered old there
    · exact ranked.numbered row there
  · rw [inbox, setInboxFileState_length]
    exact ranked.bounded

theorem applied_ranked (pending : PendingFileClip) (files : List (LexPath String))
    (ranked : s.Ranked) : (s.applied pending files).Ranked := by
  rcases setInboxFileStateByClip_cases pending.clipId (.done files) ranked.ordered with
    ⟨-, unchanged⟩ | ⟨row, -, -, -, changed⟩
  · refine ⟨?_, ?_, ?_⟩
    · rw [applied, unchanged]
      exact ranked.ordered
    · rw [applied, unchanged]
      exact ranked.numbered
    · rw [applied, unchanged]
      exact ranked.bounded
  · exact ranked.set rfl changed

section Apply

variable {ctx : FileApplyCtx} {pasteAfterApply : Bool} {answers : PasteAnswers}
  {pending : PendingFileClip}

theorem applyPendingFileClip_none (empty : s.pendingFileClip = none) :
    s.applyPendingFileClip ctx pasteAfterApply answers = (.ok [], s) := by
  unfold applyPendingFileClip
  rw [empty]

theorem applyPendingFileClip_failed (held : s.pendingFileClip = some pending) {failure : Failure}
    (fails : ctx.apply answers.surroundings answers.machine pending = .error failure) :
    s.applyPendingFileClip ctx pasteAfterApply answers = (.error failure, s) := by
  unfold applyPendingFileClip
  rw [held]
  dsimp only
  rw [fails]

theorem applyPendingFileClip_done (held : s.pendingFileClip = some pending)
    {files : List (LexPath String)}
    (downloads : ctx.apply answers.surroundings answers.machine pending = .ok files) :
    s.applyPendingFileClip ctx pasteAfterApply answers =
      (if pasteAfterApply && !answers.pastes then .error .io else .ok files,
        s.applied pending files) := by
  unfold applyPendingFileClip
  rw [held]
  dsimp only
  rw [downloads]
  dsimp only
  split
  · rfl
  · rfl

end Apply

theorem applyPendingFileClip_cases (ctx : FileApplyCtx) (pasteAfterApply : Bool)
    (answers : PasteAnswers) (s : InboxDesk) :
    (s.applyPendingFileClip ctx pasteAfterApply answers).2 = s ∨
      ∃ pending files, s.pendingFileClip = some pending ∧
        ctx.apply answers.surroundings answers.machine pending = .ok files ∧
        (s.applyPendingFileClip ctx pasteAfterApply answers).2 = s.applied pending files := by
  cases held : s.pendingFileClip with
  | none => exact .inl (congrArg Prod.snd (applyPendingFileClip_none held))
  | some pending =>
      cases result : ctx.apply answers.surroundings answers.machine pending with
      | error failure => exact .inl (congrArg Prod.snd (applyPendingFileClip_failed held result))
      | ok files =>
          exact .inr ⟨pending, files, rfl, result,
            congrArg Prod.snd (applyPendingFileClip_done held result)⟩

/-- The hotkey leaves the desk as it is, or as an apply leaves it. -/
theorem pasteRemoteViaHotkey_desk (ctx : PasteCtx) (answers : PasteAnswers) (s : InboxDesk) :
    (s.pasteRemoteViaHotkey ctx answers).desk = s ∨
      (s.pasteRemoteViaHotkey ctx answers).desk =
        (s.applyPendingFileClip ctx.toFileApplyCtx ctx.pasteAfterApply answers).2 := by
  simp only [pasteRemoteViaHotkey]
  split
  · exact .inl rfl
  · exact .inr rfl

/-- What an operation can make of the desk. -/
inductive Moves (ctx : PasteCtx) (s : InboxDesk) : InboxDesk → Prop
  | same : Moves ctx s s
  | storedText (text : String) : Moves ctx s (s.storeText text)
  | storedFiles (clip : PendingFileClip) : Moves ctx s (s.storeFiles clip)
  | applied (pending : PendingFileClip) (files : List (LexPath String)) :
      Moves ctx s (s.applied pending files)
  | downloaded (id : Nat) (x : Surroundings) (machine : Receiver) :
      Moves ctx s (s.downloadInboxFiles ctx.toFileApplyCtx id x machine)
  | switched (value : Bool) : Moves ctx s { s with isolated := value }

theorem applyPendingFileClip_moves (ctx : PasteCtx) (pasteAfterApply : Bool)
    (answers : PasteAnswers) (s : InboxDesk) :
    Moves ctx s (s.applyPendingFileClip ctx.toFileApplyCtx pasteAfterApply answers).2 := by
  rcases applyPendingFileClip_cases ctx.toFileApplyCtx pasteAfterApply answers s with
    same | ⟨pending, files, -, -, after⟩
  · rw [same]
    exact .same
  · rw [after]
    exact .applied pending files

theorem step_moves (ctx : PasteCtx) (s : InboxDesk) (e : InboxEvent) :
    Moves ctx s (s.step ctx e) := by
  cases e with
  | arrivesText text =>
      simp only [step]
      split
      · exact .storedText text
      · exact .same
  | arrivesFiles clip => exact .storedFiles clip
  | pasteRemote answers =>
      simp only [step]
      rcases pasteRemoteViaHotkey_desk ctx answers s with same | after
      · rw [same]
        exact .same
      · rw [after]
        exact applyPendingFileClip_moves ctx ctx.pasteAfterApply answers s
  | autoApplies autoPaste answers => exact applyPendingFileClip_moves ctx autoPaste answers s
  | downloads id x machine => exact .downloaded id x machine
  | setsIsolated value => exact .switched value

theorem downloadInboxFiles_ranked (ctx : FileApplyCtx) (id : Nat) (x : Surroundings)
    (machine : Receiver) (ranked : s.Ranked) :
    (s.downloadInboxFiles ctx id x machine).Ranked := by
  unfold downloadInboxFiles
  split
  next => exact ranked
  next clip claimed claims =>
      obtain ⟨old, -, -, rfl⟩ := claimInboxDownload_some claims
      have claimed : ({ s with
          inbox := setInboxFileState s.inbox id .downloading } : InboxDesk).Ranked :=
        ranked.set rfl rfl
      exact claimed.set rfl rfl

theorem new_ranked (isolated : Bool) (arrivalSeq : Nat) : (new isolated arrivalSeq).Ranked where
  ordered := List.Pairwise.nil
  numbered := fun _ member => by cases member
  bounded := Nat.zero_le _

/-! ### The agreement over a run -/

/-- A clip that a row shows as done was downloaded. -/
structure Known (s : InboxDesk) : Prop where
  ranked : s.Ranked
  done : ∀ row ∈ s.inbox, ∀ clipId, row.isOf clipId = true → row.isDone = true →
    clipId ∈ s.downloaded

theorem isOf_mk {id : Nat} {clip : PendingFileClip} {state : FileDownloadState} {clipId : ClipId} :
    (InboxItem.mk id (.files clip state)).isOf clipId = true ↔ clip.clipId = clipId :=
  decide_eq_true_iff

theorem applied_known (pending : PendingFileClip) (files : List (LexPath String))
    (known : s.Known) : (s.applied pending files).Known := by
  refine ⟨applied_ranked pending files known.ranked, ?_⟩
  intro row member clipId isOf done
  rcases setInboxFileStateByClip_cases pending.clipId (.done files) known.ranked.ordered with
    ⟨-, unchanged⟩ | ⟨marked, -, there, own, changed⟩
  · simp only [applied, unchanged] at member
    exact List.mem_cons_of_mem _ (known.done row member clipId isOf done)
  · simp only [applied, changed] at member
    rcases (mem_setInboxFileState_iff known.ranked.ordered).mp member with
      ⟨old, before, same, rfl⟩ | ⟨before, -⟩
    · obtain rfl := known.ranked.ordered.eq_of_key before there same
      obtain ⟨id, kind⟩ := old
      cases kind with
      | text content => cases own
      | files clip state =>
          rw [← isOf_mk.mp isOf, isOf_mk.mp own]
          exact List.mem_cons_self
    · exact List.mem_cons_of_mem _ (known.done row before clipId isOf done)

/-- What has just arrived is not done. -/
theorem push_known {t : InboxDesk} {kind : InboxItemKind} (known : s.Known)
    (seq : t.arrivalSeq = s.arrivalSeq + 1)
    (inbox : t.inbox = pushInbox s.inbox ⟨s.arrivalSeq + 1, kind⟩)
    (downloaded : t.downloaded = s.downloaded)
    (undone : (InboxItem.mk (s.arrivalSeq + 1) kind).isDone = false) : t.Known := by
  refine ⟨known.ranked.push seq inbox, ?_⟩
  intro row member clipId isOf done
  rw [inbox] at member
  rw [downloaded]
  rcases History.mem_of_mem_push member with rfl | old
  · cases undone.symm.trans done
  · exact known.done row old clipId isOf done

theorem downloadInboxFiles_known (ctx : FileApplyCtx) (id : Nat) (x : Surroundings)
    (machine : Receiver) (known : s.Known) : (s.downloadInboxFiles ctx id x machine).Known := by
  refine ⟨downloadInboxFiles_ranked ctx id x machine known.ranked, ?_⟩
  unfold downloadInboxFiles
  split
  next => exact known.done
  next clip claimed claims =>
      intro row member clipId isOf done
      rcases (mem_downloaded_iff known.ranked.ordered claims).mp member with rfl | ⟨before, -⟩
      · rw [isOf_mk] at isOf
        subst isOf
        cases result : (ctx.apply x machine clip).mapError ctx.describe with
        | ok paths => exact List.mem_cons_self
        | error message =>
            rw [result] at done
            cases done
      · have among := known.done row before clipId isOf done
        simp only
        split
        · exact List.mem_cons_of_mem _ among
        · exact among

theorem step_known (s : InboxDesk) (e : InboxEvent) (known : s.Known) : (s.step ctx e).Known := by
  have moves := step_moves ctx s e
  generalize s.step ctx e = after at moves ⊢
  cases moves with
  | same => exact known
  | storedText text => exact push_known known rfl rfl rfl rfl
  | storedFiles clip => exact push_known known rfl rfl rfl rfl
  | applied pending files => exact applied_known pending files known
  | downloaded id x machine => exact downloadInboxFiles_known _ id x machine known
  | switched value =>
      exact ⟨⟨known.ranked.ordered, known.ranked.numbered, known.ranked.bounded⟩, known.done⟩

/-- An apply leaves the slot and the rows as they agreed, or the slot empty. -/
theorem applyPendingFileClip_agree (ctx : FileApplyCtx) (pasteAfterApply : Bool)
    (answers : PasteAnswers) (agree : s.Agree) :
    (s.applyPendingFileClip ctx pasteAfterApply answers).2.Agree := by
  rcases applyPendingFileClip_cases ctx pasteAfterApply answers s with
    same | ⟨pending, files, -, -, after⟩
  · rw [same]
    exact agree
  · rw [after]
    intro clip held
    cases held

theorem storeFiles_agree_iff (clip : PendingFileClip) (known : s.Known) :
    (s.storeFiles clip).Agree ↔ clip.clipId ∉ s.downloaded := by
  constructor
  · intro agree
    exact (agree clip rfl).1
  · intro fresh pending held
    cases held
    refine ⟨fresh, fun row member isOf => ?_⟩
    rcases History.mem_of_mem_push member with rfl | old
    · rfl
    · cases done : row.isDone with
      | false => rfl
      | true => exact absurd (known.done row old clip.clipId isOf done) fresh

theorem downloadInboxFiles_failed {ctx : FileApplyCtx} {id : Nat} {x : Surroundings}
    {machine : Receiver} {clip : PendingFileClip} {claimed : List InboxItem} {failure : Failure}
    (claims : claimInboxDownload s.inbox id = some (clip, claimed))
    (applied : ctx.apply x machine clip = .error failure) :
    s.downloadInboxFiles ctx id x machine =
      { s with inbox := setInboxFileState claimed id (.failed (ctx.describe failure)) } := by
  unfold downloadInboxFiles
  rw [claims]
  dsimp only
  rw [applied]
  rfl

theorem downloadInboxFiles_done {ctx : FileApplyCtx} {id : Nat} {x : Surroundings}
    {machine : Receiver} {clip : PendingFileClip} {claimed : List InboxItem}
    {files : List (LexPath String)}
    (claims : claimInboxDownload s.inbox id = some (clip, claimed))
    (applied : ctx.apply x machine clip = .ok files) :
    s.downloadInboxFiles ctx id x machine =
      { s with
        inbox := setInboxFileState claimed id (.done files)
        downloaded := clip.clipId :: s.downloaded } := by
  unfold downloadInboxFiles
  rw [claims]
  dsimp only
  rw [applied]
  rfl

theorem downloadInboxFiles_agree_iff (id : Nat) (x : Surroundings) (machine : Receiver)
    (known : s.Known) (agree : s.Agree) :
    (s.downloadInboxFiles ctx.toFileApplyCtx id x machine).Agree ↔
      s.KeepsApart ctx (.downloads id x machine) := by
  cases claims : claimInboxDownload s.inbox id with
  | none =>
      refine iff_of_true ?_ fun clip claimed pending paths wrong => by cases claims.symm.trans wrong
      unfold downloadInboxFiles
      rw [claims]
      exact agree
  | some what =>
      obtain ⟨clip, claimed⟩ := what
      cases applied : ctx.apply x machine clip with
      | error failure =>
          refine iff_of_true ?_ fun own others pending paths same held wrong => ?_
          · rw [downloadInboxFiles_failed claims applied]
            intro pending held
            refine ⟨(agree pending held).1, fun row member isOf => ?_⟩
            rcases (mem_downloaded_iff known.ranked.ordered claims).mp member with
              rfl | ⟨before, -⟩
            · rfl
            · exact (agree pending held).2 row before isOf
          · cases claims.symm.trans same
            cases applied.symm.trans wrong
      | ok files =>
          rw [downloadInboxFiles_done claims applied]
          constructor
          · intro after own others pending paths same held _ wrong
            cases claims.symm.trans same
            exact (after pending held).1 (wrong ▸ List.mem_cons_self)
          · intro apart pending held
            have other : clip.clipId ≠ pending.clipId :=
              apart clip claimed pending files claims held applied
            refine ⟨?_, fun row member isOf => ?_⟩
            · intro among
              rcases List.mem_cons.mp among with same | before
              · exact other same.symm
              · exact (agree pending held).1 before
            · rcases (mem_downloaded_iff known.ranked.ordered claims).mp member with
                rfl | ⟨before, -⟩
              · exact absurd (isOf_mk.mp isOf) other
              · exact (agree pending held).2 row before isOf

theorem step_agree_iff (s : InboxDesk) (e : InboxEvent) (known : s.Known) (agree : s.Agree) :
    (s.step ctx e).Agree ↔ s.KeepsApart ctx e := by
  cases e with
  | arrivesText text =>
      refine iff_of_true ?_ trivial
      simp only [step]
      split
      · intro pending held
        refine ⟨(agree pending held).1, fun row member isOf => ?_⟩
        rcases History.mem_of_mem_push member with rfl | old
        · rfl
        · exact (agree pending held).2 row old isOf
      · exact agree
  | arrivesFiles clip => exact storeFiles_agree_iff clip known
  | pasteRemote answers =>
      refine iff_of_true ?_ trivial
      simp only [step]
      rcases pasteRemoteViaHotkey_desk ctx answers s with same | after
      · rw [same]
        exact agree
      · rw [after]
        exact applyPendingFileClip_agree _ _ answers agree
  | autoApplies autoPaste answers =>
      exact iff_of_true (applyPendingFileClip_agree _ autoPaste answers agree) trivial
  | downloads id x machine => exact downloadInboxFiles_agree_iff id x machine known agree
  | setsIsolated value => exact iff_of_true agree trivial

/-- In every state of a run the slot and the rows agree exactly when every download of the UI
that succeeds is of another clip than the slot's, and no clip arrives again that was
downloaded. -/
theorem agree_iff (ctx : PasteCtx) (isolated : Bool) (arrivalSeq : Nat)
    (events : List InboxEvent) :
    Throughout (step ctx) Agree (new isolated arrivalSeq) events ↔
      Along (step ctx) (KeepsApart ctx) (new isolated arrivalSeq) events := by
  have known : (new isolated arrivalSeq).Known :=
    ⟨new_ranked isolated arrivalSeq, fun _ member => by cases member⟩
  refine throughout_iff step_known step_agree_iff known ?_
  intro pending held
  cases held

end InboxDesk

/-! ## Calls that nothing interrupts -/

section Whole

variable {stored : StoredClips} {ctx : FileApplyCtx} {s : InboxDownloads} {desk : InboxDesk}

/-- The steps of a call of `download_inbox_files`. -/
def wholeDownload (call id : Nat) (x : Surroundings) (machine : Receiver) : List InboxStep :=
  [.presses call id, .claims call, .downloads call x machine, .stores call]

/-- The steps of a call of `apply_pending_file_clip`. -/
def wholeApply (apply : Nat) (answers : PasteAnswers) : List InboxStep :=
  [.starts apply, .applies apply answers.surroundings answers.machine, .clears apply,
    .marks apply]

theorem wholeDownload_inbox (call id : Nat) (x : Surroundings) (machine : Receiver)
    (idle : s.calls call = .idle) (connected : s.connected = true)
    (free : ∀ clip claimed, claimInboxDownload s.slot.inbox id = some (clip, claimed) →
      (x.served clip).all (· ∉ s.served) = true)
    (same : desk.inbox = s.slot.inbox) :
    (runFrom (InboxDownloads.step stored ctx) s (wholeDownload call id x machine)).slot.inbox =
      (desk.downloadInboxFiles ctx id x machine).inbox := by
  show ((((s.presses call id).claims call).downloads ctx call x machine).stores
    call).slot.inbox = _
  rw [InboxDownloads.presses_idle idle connected,
    InboxDownloads.claims_pressed (InboxDownloads.setCall_self call _)]
  unfold InboxDesk.downloadInboxFiles
  rw [same]
  have inbox : (s.setCall call (.pressed id)).slot.inbox = s.slot.inbox := rfl
  rw [inbox]
  cases claims : claimInboxDownload s.slot.inbox id with
  | none =>
      have idleAgain : ((s.setCall call (.pressed id)).setCall call .idle).calls call = .idle :=
        InboxDownloads.setCall_self call _
      dsimp only
      rw [InboxDownloads.downloads_idle idleAgain, InboxDownloads.stores_idle idleAgain]
      exact same.symm
  | some what =>
      obtain ⟨clip, claimed⟩ := what
      have atWork : (((s.setCall call (.pressed id)).setInbox claimed).setCall call
          (.downloading id clip false)).calls call = .downloading id clip false :=
        InboxDownloads.setCall_self call _
      dsimp only
      rw [InboxDownloads.downloads_served atWork (free clip claimed claims)]
      exact InboxDownloads.stores_inbox (InboxDownloads.setCall_self call _)

/-- An apply that nothing interrupts, and that pastes nothing. -/
theorem wholeApply_slot (apply : Nat) (answers : PasteAnswers)
    (idle : s.slot.applies apply = .idle)
    (free : ∀ pending, s.slot.pendingFileClip = some pending →
      (answers.surroundings.served pending).all (· ∉ s.served) = true)
    (slot : desk.pendingFileClip = s.slot.pendingFileClip) (inbox : desk.inbox = s.slot.inbox) :
    (runFrom (InboxDownloads.step stored ctx) s (wholeApply apply answers)).slot.pendingFileClip =
        (desk.applyPendingFileClip ctx false answers).2.pendingFileClip ∧
      (runFrom (InboxDownloads.step stored ctx) s (wholeApply apply answers)).slot.inbox =
        (desk.applyPendingFileClip ctx false answers).2.inbox := by
  have after : (runFrom (InboxDownloads.step stored ctx) s (wholeApply apply answers)).slot =
      ((({ s with slot := s.slot.starts apply } : InboxDownloads).applies ctx apply
        answers.surroundings answers.machine).slot.clears apply).marks apply :=
    InboxDownloads.marks_slot apply
  rw [after]
  cases held : s.slot.pendingFileClip with
  | none =>
      have starts : s.slot.starts apply = s.slot := by
        unfold Slot.starts
        rw [idle, held]
      rw [starts, InboxDownloads.applies_idle idle,
        InboxDesk.applyPendingFileClip_none (slot.trans held)]
      simp [Slot.clears, Slot.marks, idle, slot, inbox]
  | some pending =>
      have starts : s.slot.starts apply = s.slot.setPhase apply (.downloading pending) := by
        unfold Slot.starts
        rw [idle, held]
      have downloads : (({ s with slot := s.slot.setPhase apply (.downloading pending) } :
          InboxDownloads).applies ctx apply answers.surroundings answers.machine).slot =
          (s.slot.setPhase apply (.downloading pending)).downloads apply
            (ctx.apply answers.surroundings answers.machine pending) := by
        refine InboxDownloads.applies_served ?_ (free pending held)
        exact Slot.setPhase_self apply _
      rw [starts, downloads]
      cases applied : ctx.apply answers.surroundings answers.machine pending with
      | error failure =>
          rw [InboxDesk.applyPendingFileClip_failed (slot.trans held) applied]
          simp [Slot.downloads, Slot.clears, Slot.marks, Slot.setPhase, slot, inbox]
      | ok files =>
          rw [InboxDesk.applyPendingFileClip_done (slot.trans held) applied]
          simp [Slot.downloads, Slot.clears, Slot.marks, Slot.setPhase, InboxDesk.applied, inbox]

end Whole

namespace Forgotten

open InboxDesk

def ctx : PasteCtx := { Doomed.ctx with pasteAfterApply := false }

/-- A file clip arrives and the UI downloads it. -/
def events : List InboxEvent :=
  [.arrivesFiles (Doomed.stored.pending Doomed.report),
    .downloads 1 (Doomed.source true) Doomed.disk]

/-- The slot still holds the clip that its row shows as done. -/
theorem slot_behind : ¬ Throughout (step ctx) Agree (new false 0) events := by
  have after : (runFrom (step ctx) (new false 0) events).pendingFileClip =
        some (Doomed.stored.pending Doomed.report) ∧
      (runFrom (step ctx) (new false 0) events).inbox =
        [Doomed.row (.done [LexPath.parse "/home/u/cache/tt_1/report.pdf"])] := by
    decide +kernel
  intro agree
  have undone := (agree events [] (List.append_nil _).symm _ after.1).2
  rw [after.2] at undone
  cases undone _ List.mem_cons_self rfl

end Forgotten

end AirPaste.Agent
