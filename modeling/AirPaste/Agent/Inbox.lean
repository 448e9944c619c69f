/-
# Agent.Inbox — the rows of the inbox and what a download leaves in them

The inbox is a history of texts and file clips.  A download of the UI claims a row by its
id, and stores its outcome there by id; an apply of the hotkey stores its outcome in the
first row of its clip.

An apply that succeeds returns the destinations of the clip's regular files, of which there
is one (`applyFileClip_destinations`), whatever the routes answered.  So two downloads of
one clip that both succeed leave the same paths.
-/
import AirPaste.Theory.History
import AirPaste.Agent.PendingClip
import AirPaste.Agent.Receive

namespace AirPaste.Agent

open AirPaste.Core
open AirPaste.Theory

set_option autoImplicit false

/-! ## Where the files of a clip go -/

/-- The destinations of the regular files of a clip. -/
def destinations (cacheDir : LexPath String) (fileClip : FileClip) : List (LexPath String) :=
  (fileClip.files.filter fun entry => entry.kind == .file).map
    (destination (clipCacheDir cacheDir fileClip))

section Destinations

variable {x : Surroundings} {fileClip : FileClip} {clipDir cacheDir : LexPath String}
  {pending : PendingFileClip}

/-- What is recorded for an index is the destination of the regular file at it. -/
def Placing (fileClip : FileClip) (clipDir : LexPath String)
    (downloaded : Nat → Option (LexPath String)) : Prop :=
  ∀ index path, downloaded index = some path →
    ∃ entry, IsFile fileClip index entry ∧ path = destination clipDir entry

/-- A route records destinations only, and every file when it succeeds. -/
structure Fills (fileClip : FileClip) (clipDir : LexPath String)
    (result : Except Failure Unit × Receiving) : Prop where
  placing : Placing fileClip clipDir result.2.downloaded
  complete : result.1 = .ok () → Remaining fileClip [] result.2.downloaded

theorem receiveEach_fills
    (fetch : Receiver → FileEntry → Nat → LexPath String → Except Failure Unit × Receiver)
    {missing : List (FileEntry × Nat)} {receiving : Receiving}
    (placing : Placing fileClip clipDir receiving.downloaded)
    (remaining : Remaining fileClip missing receiving.downloaded) :
    Fills fileClip clipDir (receiveEach fetch clipDir missing receiving) := by
  induction missing generalizing receiving with
  | nil => exact ⟨placing, fun _ => remaining⟩
  | cons next rest ih =>
      obtain ⟨entry, index⟩ := next
      have file : IsFile fileClip index entry := remaining.files _ List.mem_cons_self
      simp only [receiveEach]
      generalize fetch receiving.machine entry index
        (safeCachePath clipDir entry.relativePath entry.displayName) = result
      obtain ⟨outcome, after⟩ := result
      cases outcome with
      | error failure => exact ⟨placing, fun failed => by cases failed⟩
      | ok done =>
          apply ih
          · intro other path found
            by_cases same : other = index
            · subst same
              simp only [Function.update_self] at found
              cases found
              exact ⟨entry, file, rfl⟩
            · simp only [Function.update_of_ne same] at found
              exact placing other path found
          · exact remaining_tail remaining _

theorem receiveMissing_fills
    (fetch : Receiver → FileEntry → Nat → LexPath String → Except Failure Unit × Receiver)
    {receiving : Receiving} (placing : Placing fileClip clipDir receiving.downloaded) :
    Fills fileClip clipDir (receiveMissing x fetch clipDir
      (missingFiles fileClip receiving.downloaded) receiving) := by
  unfold receiveMissing
  split
  · exact ⟨placing, fun failed => by cases failed⟩
  · exact receiveEach_fills fetch placing (missingFiles_remaining fileClip receiving.downloaded)

theorem downloadRemoteFiles_fills {receiving : Receiving}
    (placing : Placing pending.fileClip (clipCacheDir cacheDir pending.fileClip)
      receiving.downloaded) :
    Fills pending.fileClip (clipCacheDir cacheDir pending.fileClip)
      (downloadRemoteFiles x cacheDir pending receiving) := by
  unfold downloadRemoteFiles
  split
  · exact ⟨placing, fun failed => by cases failed⟩
  · exact receiveMissing_fills _ placing

theorem downloadViaRelay_fills {receiving : Receiving}
    (placing : Placing fileClip (clipCacheDir cacheDir fileClip) receiving.downloaded) :
    Fills fileClip (clipCacheDir cacheDir fileClip)
      (downloadViaRelay x cacheDir fileClip receiving) := by
  have remaining := missingFiles_remaining fileClip receiving.downloaded
  simp only [downloadViaRelay]
  split
  next nothing =>
      rw [List.isEmpty_iff.mp nothing] at remaining
      exact ⟨placing, fun _ => remaining⟩
  next =>
      split
      · exact ⟨placing, fun failed => by cases failed⟩
      · exact receiveMissing_fills _ placing

theorem downloadFiles_fills (preferRelay : Bool) {receiving : Receiving}
    (placing : Placing pending.fileClip (clipCacheDir cacheDir pending.fileClip)
      receiving.downloaded) :
    Fills pending.fileClip (clipCacheDir cacheDir pending.fileClip)
      (downloadFiles x preferRelay cacheDir pending receiving) := by
  unfold downloadFiles
  cases preferRelay with
  | true => exact downloadViaRelay_fills placing
  | false =>
      have direct := downloadRemoteFiles_fills (x := x) placing
      simp only [Bool.false_eq_true, if_false]
      generalize downloadRemoteFiles x cacheDir pending receiving = result at direct ⊢
      obtain ⟨outcome, between⟩ := result
      cases outcome with
      | ok done => exact direct
      | error failure =>
          have relayed := downloadViaRelay_fills (x := x) direct.placing
          simp only
          generalize downloadViaRelay x cacheDir pending.fileClip between = result at relayed ⊢
          obtain ⟨outcome, last⟩ := result
          cases outcome with
          | ok done => exact relayed
          | error failure => exact ⟨relayed.placing, fun failed => by cases failed⟩

/-- What is recorded when nothing is missing, in the order of the manifest. -/
theorem collected_eq {downloaded : Nat → Option (LexPath String)}
    (placing : Placing fileClip clipDir downloaded) (complete : Remaining fileClip [] downloaded) :
    (fileClip.files.zipIdx.filterMap fun (_, index) => downloaded index) =
      (fileClip.files.filter fun entry => entry.kind == .file).map (destination clipDir) := by
  have recorded : ∀ next ∈ fileClip.files.zipIdx, downloaded next.2 =
      if next.1.kind == .file then some (destination clipDir next.1) else none := by
    intro next member
    have listed : fileClip.files[next.2]? = some next.1 := List.mem_zipIdx_iff_getElem?.mp member
    split
    next regular =>
        have file : IsFile fileClip next.2 next.1 := ⟨listed, beq_iff_eq.mp regular⟩
        rcases complete.complete next.2 next.1 file with some | missing
        · obtain ⟨path, found⟩ := Option.ne_none_iff_exists'.mp some
          obtain ⟨entry, own, same⟩ := placing next.2 path found
          cases own.1.symm.trans listed
          rw [found, same]
        · cases missing
    next other =>
        cases found : downloaded next.2 with
        | none => rfl
        | some path =>
            obtain ⟨entry, own, -⟩ := placing next.2 path found
            cases own.1.symm.trans listed
            exact absurd (beq_iff_eq.mpr own.2) other
  calc (fileClip.files.zipIdx.filterMap fun (_, index) => downloaded index)
      = fileClip.files.zipIdx.filterMap fun next =>
          if next.1.kind == .file then some (destination clipDir next.1) else none :=
        List.filterMap_congr recorded
    _ = (fileClip.files.zipIdx.map Prod.fst).filterMap fun entry =>
          if entry.kind == .file then some (destination clipDir entry) else none := by
        rw [List.filterMap_map]
        rfl
    _ = (fileClip.files.filter fun entry => entry.kind == .file).map (destination clipDir) := by
        rw [List.zipIdx_map_fst, ← List.filterMap_eq_map, List.filterMap_filter]
        rfl

/-- An apply that succeeds returns the destinations of the clip's regular files, and the clip
has one. -/
theorem applyFileClip_destinations {filePolicy : FileTransferPolicy} {preferRelay : Bool}
    {machine : Receiver} {paths : List (LexPath String)}
    (applied : (applyFileClip x filePolicy preferRelay cacheDir pending machine).1 = .ok paths) :
    paths = destinations cacheDir pending.fileClip ∧ paths ≠ [] := by
  have filled : Fills pending.fileClip (clipCacheDir cacheDir pending.fileClip)
      (downloadFiles x preferRelay cacheDir pending ⟨machine, fun _ => none⟩) :=
    downloadFiles_fills preferRelay fun index path found => by cases found
  unfold applyFileClip at applied
  generalize validateFileClip x pending.fileClip filePolicy = valid at applied
  cases valid with
  | error message => cases applied
  | ok valid =>
      simp only at applied
      generalize downloadFiles x preferRelay cacheDir pending ⟨machine, fun _ => none⟩ = result
        at applied filled
      obtain ⟨outcome, receiving⟩ := result
      cases outcome with
      | error failure => cases applied
      | ok done =>
          have collected := collected_eq filled.placing (filled.complete rfl)
          simp only at applied collected
          rw [collected] at applied
          by_cases empty : (destinations cacheDir pending.fileClip).isEmpty
          · rw [destinations] at empty
            rw [if_pos empty] at applied
            cases applied
          · rw [destinations] at empty
            rw [if_neg empty] at applied
            cases writes : x.setsClipboard with
            | false =>
                rw [writes] at applied
                cases applied
            | true =>
                rw [writes] at applied
                cases applied
                exact ⟨rfl, fun none => empty (List.isEmpty_iff.mpr none)⟩

end Destinations

/-! ## The rows -/

def FileDownloadState.isDone : FileDownloadState → Bool
  | .done _ => true
  | _ => false

namespace InboxItem

def setState (state : FileDownloadState) : InboxItem → InboxItem
  | ⟨id, .files clip _⟩ => ⟨id, .files clip state⟩
  | item => item

/-- A row of files of this clip. -/
def isOf (clipId : ClipId) : InboxItem → Bool
  | ⟨_, .files clip _⟩ => clip.clipId = clipId
  | _ => false

@[simp] theorem setState_id (state : FileDownloadState) (item : InboxItem) :
    (item.setState state).id = item.id := by
  obtain ⟨id, kind⟩ := item
  cases kind <;> rfl

end InboxItem

def setInboxFileState (inbox : List InboxItem) (id : Nat) (state : FileDownloadState) :
    List InboxItem :=
  History.editFirst (fun item => item.id == id) (InboxItem.setState state) inbox

/-- The clip of the row, and the inbox with the row claimed. -/
def claimInboxDownload (inbox : List InboxItem) (id : Nat) :
    Option (PendingFileClip × List InboxItem) :=
  match inbox.find? (fun item => item.id == id) with
  | some ⟨_, .files clip state⟩ =>
      match state with
      | .downloading | .done _ => none
      | .idle | .failed _ => some (clip, setInboxFileState inbox id .downloading)
  | _ => none

/-- The text that `paste_inbox_text` pastes. -/
def newestText (inbox : List InboxItem) : Option String :=
  inbox.findSome? fun item =>
    match item.kind with
    | .text text => some text
    | .files _ _ => none

section Rows

variable {inbox : List InboxItem} {id : Nat} {clipId : ClipId} {state : FileDownloadState}
  {item : InboxItem}

theorem setInboxFileStateByClip_eq : setInboxFileStateByClip clipId state inbox =
    History.editFirst (InboxItem.isOf clipId) (InboxItem.setState state) inbox := by
  induction inbox with
  | nil => rfl
  | cons head rest ih =>
      obtain ⟨id, kind⟩ := head
      cases kind with
      | text content =>
          simp only [setInboxFileStateByClip, History.editFirst, InboxItem.isOf, ih,
            Bool.false_eq_true, if_false]
      | files clip old =>
          simp only [setInboxFileStateByClip, History.editFirst, InboxItem.isOf, ih,
            InboxItem.setState, decide_eq_true_eq]

/-- Setting the state of a clip sets the state of its first row. -/
theorem setInboxFileStateByClip_cases (clipId : ClipId) (state : FileDownloadState)
    (ordered : History.Ordered InboxItem.id inbox) :
    (inbox.find? (InboxItem.isOf clipId) = none ∧
        setInboxFileStateByClip clipId state inbox = inbox) ∨
      ∃ row, inbox.find? (InboxItem.isOf clipId) = some row ∧ row ∈ inbox ∧
        row.isOf clipId = true ∧
        setInboxFileStateByClip clipId state inbox = setInboxFileState inbox row.id state := by
  rw [setInboxFileStateByClip_eq]
  cases found : inbox.find? (InboxItem.isOf clipId) with
  | none => exact .inl ⟨rfl, History.editFirst_none found⟩
  | some row =>
      exact .inr ⟨row, rfl, List.mem_of_find?_eq_some found, List.find?_some found,
        History.editFirst_eq_of_find? ordered found⟩

theorem found_id {row : InboxItem} (found : inbox.find? (fun item => item.id == id) = some row) :
    row ∈ inbox ∧ row.id = id := by
  have holds := List.find?_some (p := fun item : InboxItem => item.id == id) found
  exact ⟨List.mem_of_find?_eq_some found, beq_iff_eq.mp holds⟩

/-- The rows after a change of the row with this id. -/
theorem mem_setInboxFileState_iff (ordered : History.Ordered InboxItem.id inbox) :
    item ∈ setInboxFileState inbox id state ↔
      (∃ old ∈ inbox, old.id = id ∧ item = old.setState state) ∨ item ∈ inbox ∧ item.id ≠ id := by
  unfold setInboxFileState
  cases found : inbox.find? (fun item => item.id == id) with
  | none =>
      have others : ∀ row ∈ inbox, row.id ≠ id := fun row member same =>
        List.find?_eq_none.mp found row member (beq_iff_eq.mpr same)
      rw [History.editFirst_none found]
      constructor
      · intro member
        exact .inr ⟨member, others item member⟩
      · rintro (⟨old, member, same, -⟩ | ⟨member, -⟩)
        · exact absurd same (others old member)
        · exact member
  | some row =>
      obtain ⟨member, same⟩ := found_id found
      rw [History.mem_editFirst_iff ordered found, same]
      refine or_congr_left ⟨fun changed => ⟨row, member, same, changed⟩, ?_⟩
      rintro ⟨old, oldMember, oldSame, changed⟩
      rwa [ordered.eq_of_key oldMember member (oldSame.trans same.symm)] at changed

theorem InboxItem.isOf_files {row : InboxItem} (own : row.isOf clipId = true) :
    ∃ clip state, row.kind = .files clip state ∧ clip.clipId = clipId := by
  obtain ⟨id, kind⟩ := row
  cases kind with
  | text content => cases own
  | files clip state => exact ⟨clip, state, rfl, of_decide_eq_true own⟩

theorem setInboxFileState_ordered (ordered : History.Ordered InboxItem.id inbox) :
    History.Ordered InboxItem.id (setInboxFileState inbox id state) :=
  History.editFirst_ordered (InboxItem.setState_id state) ordered

theorem setInboxFileState_length : (setInboxFileState inbox id state).length = inbox.length :=
  History.length_editFirst

/-- A row that is claimed was idle or had failed. -/
theorem claimInboxDownload_some {clip : PendingFileClip} {claimed : List InboxItem}
    (claims : claimInboxDownload inbox id = some (clip, claimed)) :
    ∃ old, ⟨id, .files clip old⟩ ∈ inbox ∧ old.isDone = false ∧
      claimed = setInboxFileState inbox id .downloading := by
  unfold claimInboxDownload at claims
  split at claims
  next rowId rowClip old found =>
      obtain ⟨member, rfl⟩ := found_id found
      split at claims
      · cases claims
      · cases claims
      · cases claims
        exact ⟨_, member, rfl, rfl⟩
      · cases claims
        exact ⟨_, member, rfl, rfl⟩
  next => cases claims

/-- The rows after a download of the UI, from its claim to its outcome. -/
theorem mem_downloaded_iff (ordered : History.Ordered InboxItem.id inbox)
    {clip : PendingFileClip} {claimed : List InboxItem}
    (claims : claimInboxDownload inbox id = some (clip, claimed)) :
    item ∈ setInboxFileState claimed id state ↔
      item = ⟨id, .files clip state⟩ ∨ item ∈ inbox ∧ item.id ≠ id := by
  obtain ⟨old, member, -, rfl⟩ := claimInboxDownload_some claims
  have claimedRow : ⟨id, .files clip .downloading⟩ ∈ setInboxFileState inbox id .downloading :=
    (mem_setInboxFileState_iff ordered).mpr (.inl ⟨_, member, rfl, rfl⟩)
  have claimedOrdered : History.Ordered InboxItem.id (setInboxFileState inbox id .downloading) :=
    setInboxFileState_ordered ordered
  rw [mem_setInboxFileState_iff claimedOrdered]
  constructor
  · rintro (⟨row, there, same, rfl⟩ | ⟨there, other⟩)
    · rw [claimedOrdered.eq_of_key there claimedRow same]
      exact .inl rfl
    · rcases (mem_setInboxFileState_iff ordered).mp there with ⟨row, before, same, rfl⟩ | kept
      · exact absurd ((InboxItem.setState_id _ row).trans same) other
      · exact .inr kept
  · rintro (rfl | kept)
    · exact .inl ⟨_, claimedRow, rfl, rfl⟩
    · exact .inr ⟨(mem_setInboxFileState_iff ordered).mpr (.inr kept), kept.2⟩

end Rows

end AirPaste.Agent
