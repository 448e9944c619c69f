/-
# Agent.Fallback — what a whole apply asks for, in order

`apply_file_clip` again, with the map of downloaded files as the code keeps it, a table
ordered by index, and with a record of what it asks of the source, the server and the
clipboard, newest first.  Without the record it is the apply of Agent.Download
(`applyFileClip_receiving`).

The direct route and the relay fill the same table, and the direct route may fail at any
point; `Accounted` is what holds at every point of both loops, and `applyFileClip_complete`
what it comes to.
-/
import AirPaste.Theory.KeyedTable
import AirPaste.Agent.Receive

namespace AirPaste.Agent

open AirPaste.Core
open AirPaste.Theory

set_option autoImplicit false

inductive TransferRoute where
  | direct
  | relay
  deriving DecidableEq

/-- What a receiver asks for. -/
inductive TransferStep where
  /-- A file is asked of the source, over a route. -/
  | asks (route : TransferRoute) (index : Nat)
  /-- A relay session is asked of the server. -/
  | createsSession
  /-- A file delivered is inserted into the table. -/
  | inserts (index : Nat) (path : LexPath String)
  /-- The files are put on the clipboard. -/
  | setsFiles (paths : List (LexPath String))

/-- The indexes inserted, newest first. -/
def inserted : List TransferStep → List Nat
  | [] => []
  | .inserts index _ :: older => index :: inserted older
  | .asks _ _ :: older => inserted older
  | .createsSession :: older => inserted older
  | .setsFiles _ :: older => inserted older

/-- The indexes downloaded, each with its path, as a `BTreeMap`. -/
abbrev Downloaded := KeyedTable (Prod.fst : Nat × LexPath String → Nat)

structure Transfer where
  machine : Receiver
  downloaded : Downloaded
  /-- What has been asked for, newest first. -/
  steps : List TransferStep

namespace Transfer

/-- The transfer without its record. -/
def receiving (t : Transfer) : Receiving :=
  ⟨t.machine, fun index => (t.downloaded.get index).map Prod.snd⟩

def log (t : Transfer) (step : TransferStep) : Transfer := { t with steps := step :: t.steps }

/-- `downloaded.insert` of a file delivered. -/
def insert (t : Transfer) (machine : Receiver) (index : Nat) (path : LexPath String) : Transfer :=
  ⟨machine, t.downloaded.put (index, path), .inserts index path :: t.steps⟩

@[simp] theorem log_receiving (t : Transfer) (step : TransferStep) :
    (t.log step).receiving = t.receiving := rfl

theorem insert_receiving (t : Transfer) (machine : Receiver) (index : Nat)
    (path : LexPath String) :
    (t.insert machine index path).receiving =
      ⟨machine, Function.update t.receiving.downloaded index (some path)⟩ := by
  simp only [receiving, insert, Receiving.mk.injEq, true_and]
  funext other
  by_cases same : other = index
  · simp [same]
  · simp [Function.update_of_ne same, Ne.symm same]

end Transfer

/-! ## The apply with its record -/

namespace Logged

def receiveEach (route : TransferRoute)
    (fetch : Receiver → FileEntry → Nat → LexPath String → Except Failure Unit × Receiver)
    (clipCacheDir : LexPath String) :
    List (FileEntry × Nat) → Transfer → Except Failure Unit × Transfer
  | [], t => (.ok (), t)
  | (entry, index) :: rest, t =>
      let asked := t.log (.asks route index)
      let destination := safeCachePath clipCacheDir entry.relativePath entry.displayName
      match fetch asked.machine entry index destination with
      | (.error failure, machine) => (.error failure, { asked with machine := machine })
      | (.ok (), machine) =>
          receiveEach route fetch clipCacheDir rest (asked.insert machine index destination)

def receiveMissing (x : Surroundings) (route : TransferRoute)
    (fetch : Receiver → FileEntry → Nat → LexPath String → Except Failure Unit × Receiver)
    (clipCacheDir : LexPath String) (missing : List (FileEntry × Nat)) (t : Transfer) :
    Except Failure Unit × Transfer :=
  match t.machine.createDirAll x.fault none clipCacheDir with
  | (false, machine) => (.error .io, { t with machine := machine })
  | (true, machine) => receiveEach route fetch clipCacheDir missing { t with machine := machine }

def downloadRemoteFiles (x : Surroundings) (cacheDir : LexPath String)
    (pending : PendingFileClip) (t : Transfer) : Except Failure Unit × Transfer :=
  match resolvePeerBaseUrl x pending with
  | .error failure => (.error failure, t)
  | .ok _ =>
      receiveMissing x .direct (fetchDirect x) (clipCacheDir cacheDir pending.fileClip)
        (missingFiles pending.fileClip t.receiving.downloaded) t

def downloadViaRelay (x : Surroundings) (cacheDir : LexPath String) (fileClip : FileClip)
    (t : Transfer) : Except Failure Unit × Transfer :=
  let missing := missingFiles fileClip t.receiving.downloaded
  if missing.isEmpty then (.ok (), t)
  else
    let asked := t.log .createsSession
    if !x.session then (.error .network, asked)
    else
      receiveMissing x .relay (fetchRelayed x) (clipCacheDir cacheDir fileClip) missing asked

def downloadFiles (x : Surroundings) (preferRelay : Bool) (cacheDir : LexPath String)
    (pending : PendingFileClip) (t : Transfer) : Except Failure Unit × Transfer :=
  if preferRelay then downloadViaRelay x cacheDir pending.fileClip t
  else
    match downloadRemoteFiles x cacheDir pending t with
    | (.ok (), t) => (.ok (), t)
    | (.error _, t) =>
        match downloadViaRelay x cacheDir pending.fileClip t with
        | (.ok (), t) => (.ok (), t)
        | (.error failure, t) =>
            (.error
              (.context "relay fallback after direct download failure also failed" failure), t)

def applyFileClip (x : Surroundings) (filePolicy : FileTransferPolicy) (preferRelay : Bool)
    (cacheDir : LexPath String) (pending : PendingFileClip) (machine : Receiver) :
    Except Failure (List (LexPath String)) × Transfer :=
  let t : Transfer := ⟨machine, KeyedTable.empty, []⟩
  match validateFileClip x pending.fileClip filePolicy with
  | .error message => (.error (.text message), t)
  | .ok () =>
      match downloadFiles x preferRelay cacheDir pending t with
      | (.error failure, t) => (.error failure, t)
      | (.ok (), t) =>
          let downloadedFiles := t.downloaded.rows.map Prod.snd
          if downloadedFiles.isEmpty then
            (.error (.text "remote file clip did not contain downloadable files"), t)
          else
            let put := t.log (.setsFiles downloadedFiles)
            if !x.setsClipboard then (.error .io, put) else (.ok downloadedFiles, put)

end Logged

/-! ## Without the record -/

section Erasure

variable {x : Surroundings} {cacheDir : LexPath String} {pending : PendingFileClip}

theorem receiveEach_receiving (route : TransferRoute)
    (fetch : Receiver → FileEntry → Nat → LexPath String → Except Failure Unit × Receiver)
    (clipCacheDir : LexPath String) (missing : List (FileEntry × Nat)) (t : Transfer) :
    (Logged.receiveEach route fetch clipCacheDir missing t).map id Transfer.receiving =
      receiveEach fetch clipCacheDir missing t.receiving := by
  induction missing generalizing t with
  | nil => rfl
  | cons next rest ih =>
      obtain ⟨entry, index⟩ := next
      simp only [Logged.receiveEach, receiveEach]
      have machine : (t.log (.asks route index)).machine = t.receiving.machine := rfl
      rw [machine]
      generalize fetch t.receiving.machine entry index
        (safeCachePath clipCacheDir entry.relativePath entry.displayName) = result
      obtain ⟨outcome, after⟩ := result
      cases outcome with
      | error failure => rfl
      | ok done =>
          simp only [ih, Transfer.insert_receiving, Transfer.log_receiving]

theorem receiveMissing_receiving (route : TransferRoute)
    (fetch : Receiver → FileEntry → Nat → LexPath String → Except Failure Unit × Receiver)
    (clipCacheDir : LexPath String) (missing : List (FileEntry × Nat)) (t : Transfer) :
    (Logged.receiveMissing x route fetch clipCacheDir missing t).map id Transfer.receiving =
      receiveMissing x fetch clipCacheDir missing t.receiving := by
  simp only [Logged.receiveMissing, receiveMissing]
  have machine : t.receiving.machine = t.machine := rfl
  rw [machine]
  generalize t.machine.createDirAll x.fault none clipCacheDir = result
  obtain ⟨made, after⟩ := result
  cases made with
  | false => rfl
  | true => exact receiveEach_receiving route fetch clipCacheDir missing _

theorem downloadRemoteFiles_receiving (t : Transfer) :
    (Logged.downloadRemoteFiles x cacheDir pending t).map id Transfer.receiving =
      downloadRemoteFiles x cacheDir pending t.receiving := by
  simp only [Logged.downloadRemoteFiles, downloadRemoteFiles]
  cases resolvePeerBaseUrl x pending with
  | error failure => rfl
  | ok url => exact receiveMissing_receiving _ _ _ _ _

theorem downloadViaRelay_receiving (t : Transfer) :
    (Logged.downloadViaRelay x cacheDir pending.fileClip t).map id Transfer.receiving =
      downloadViaRelay x cacheDir pending.fileClip t.receiving := by
  simp only [Logged.downloadViaRelay, downloadViaRelay]
  split
  · rfl
  · split
    · rfl
    · exact receiveMissing_receiving _ _ _ _ _

variable (x cacheDir pending) in
theorem downloadFiles_receiving (preferRelay : Bool) (t : Transfer) :
    (Logged.downloadFiles x preferRelay cacheDir pending t).map id Transfer.receiving =
      downloadFiles x preferRelay cacheDir pending t.receiving := by
  simp only [Logged.downloadFiles, downloadFiles]
  cases preferRelay with
  | true => exact downloadViaRelay_receiving t
  | false =>
      simp only [Bool.false_eq_true, if_false]
      rw [← downloadRemoteFiles_receiving]
      generalize Logged.downloadRemoteFiles x cacheDir pending t = result
      obtain ⟨outcome, after⟩ := result
      cases outcome with
      | ok done => rfl
      | error failure =>
          simp only [Prod.map, id]
          rw [← downloadViaRelay_receiving]
          generalize Logged.downloadViaRelay x cacheDir pending.fileClip after = relayed
          obtain ⟨outcome, last⟩ := relayed
          cases outcome <;> rfl

end Erasure

/-! ## What the record comes to -/

section Accounting

variable {x : Surroundings} {fileClip : FileClip} {cacheDir clipDir : LexPath String}
  {pending : PendingFileClip} {t : Transfer}

/-- What holds of the record at every point of the two loops. -/
structure Accounted (fileClip : FileClip) (t : Transfer) : Prop where
  /-- The table has the indexes that were inserted. -/
  keys : ∀ index, index ∈ inserted t.steps ↔ t.receiving.downloaded index ≠ none
  /-- No index is inserted twice. -/
  once : (inserted t.steps).Nodup
  /-- Only regular files are inserted. -/
  files : ∀ index ∈ inserted t.steps, ∃ entry, IsFile fileClip index entry
  /-- An index that has been inserted is asked for no more. -/
  notAgain : ∀ newer route index older, t.steps = newer ++ .asks route index :: older →
    index ∉ inserted older
  /-- A relay session is only created while a file is missing. -/
  session : ∀ newer older, t.steps = newer ++ .createsSession :: older →
    ∃ index entry, IsFile fileClip index entry ∧ index ∉ inserted older
  /-- The files are not on the clipboard yet. -/
  unset : ∀ paths, .setsFiles paths ∉ t.steps

/-- A position in a list with a new head is the head or a position in the tail. -/
theorem split_cons {α : Type} {step mark : α} {steps newer older : List α}
    (split : step :: steps = newer ++ mark :: older) :
    (step = mark ∧ steps = older) ∨ ∃ newer', steps = newer' ++ mark :: older := by
  cases newer with
  | nil => exact .inl (List.cons.inj split)
  | cons head newer' => exact .inr ⟨newer', (List.cons.inj split).2⟩

/-- A step that asks for nothing changes nothing about what was asked. -/
theorem Accounted.notAgain_cons (accounted : Accounted fileClip t) {step : TransferStep}
    (quiet : ∀ route index, step ≠ .asks route index) :
    ∀ newer route index older, step :: t.steps = newer ++ .asks route index :: older →
      index ∉ inserted older := by
  intro newer route index older split
  rcases split_cons split with ⟨same, -⟩ | ⟨newer', earlier⟩
  · exact absurd same (quiet route index)
  · exact accounted.notAgain newer' route index older earlier

theorem Accounted.session_cons (accounted : Accounted fileClip t) {step : TransferStep}
    (quiet : step ≠ .createsSession) :
    ∀ newer older, step :: t.steps = newer ++ .createsSession :: older →
      ∃ index entry, IsFile fileClip index entry ∧ index ∉ inserted older := by
  intro newer older split
  rcases split_cons split with ⟨same, -⟩ | ⟨newer', earlier⟩
  · exact absurd same quiet
  · exact accounted.session newer' older earlier

theorem Accounted.unset_cons (accounted : Accounted fileClip t) {step : TransferStep}
    (quiet : ∀ paths, step ≠ .setsFiles paths) :
    ∀ paths, .setsFiles paths ∉ step :: t.steps := by
  intro paths member
  rcases List.mem_cons.mp member with same | earlier
  · exact quiet paths same.symm
  · exact accounted.unset paths earlier

theorem Accounted.asked (accounted : Accounted fileClip t) (route : TransferRoute) {index : Nat}
    (missing : t.receiving.downloaded index = none) :
    Accounted fileClip (t.log (.asks route index)) where
  keys := accounted.keys
  once := accounted.once
  files := accounted.files
  notAgain := by
    intro newer route' index' older split
    rcases split_cons split with ⟨same, rfl⟩ | ⟨newer', earlier⟩
    · cases same
      exact fun member => (accounted.keys index).mp member missing
    · exact accounted.notAgain newer' route' index' older earlier
  session := accounted.session_cons nofun
  unset := accounted.unset_cons nofun

theorem Accounted.delivered (accounted : Accounted fileClip t) {index : Nat} {entry : FileEntry}
    (file : IsFile fileClip index entry) (missing : t.receiving.downloaded index = none)
    (machine : Receiver) (path : LexPath String) :
    Accounted fileClip (t.insert machine index path) where
  keys := by
    intro other
    rw [Transfer.insert_receiving]
    simp only [Transfer.insert, inserted, List.mem_cons]
    by_cases same : other = index
    · simp [same]
    · simp [same, accounted.keys other]
  once := by
    have unasked := fun member => (accounted.keys index).mp member missing
    exact List.nodup_cons.mpr ⟨unasked, accounted.once⟩
  files := by
    intro other member
    rcases List.mem_cons.mp member with rfl | earlier
    · exact ⟨entry, file⟩
    · exact accounted.files other earlier
  notAgain := accounted.notAgain_cons nofun
  session := accounted.session_cons nofun
  unset := accounted.unset_cons nofun

theorem Accounted.createsSession (accounted : Accounted fileClip t) {index : Nat}
    {entry : FileEntry} (file : IsFile fileClip index entry)
    (missing : t.receiving.downloaded index = none) :
    Accounted fileClip (t.log .createsSession) where
  keys := accounted.keys
  once := accounted.once
  files := accounted.files
  notAgain := accounted.notAgain_cons nofun
  session := by
    intro newer older split
    rcases split_cons split with ⟨-, rfl⟩ | ⟨newer', earlier⟩
    · exact ⟨index, entry, file, fun member => (accounted.keys index).mp member missing⟩
    · exact accounted.session newer' older earlier
  unset := accounted.unset_cons nofun

/-- What a machine does leaves the record alone. -/
theorem Accounted.machine (accounted : Accounted fileClip t) (machine : Receiver) :
    Accounted fileClip { t with machine := machine } :=
  ⟨accounted.keys, accounted.once, accounted.files, accounted.notAgain, accounted.session,
    accounted.unset⟩

theorem accounted_start (machine : Receiver) :
    Accounted fileClip ⟨machine, KeyedTable.empty, []⟩ where
  keys := fun index => by simp [inserted, Transfer.receiving]
  once := List.nodup_nil
  files := nofun
  notAgain := fun newer route index older split => by simp at split
  session := fun newer older split => by simp at split
  unset := nofun

/-- The account is kept, and without an error nothing is missing any more. -/
structure Finished (fileClip : FileClip) (result : Except Failure Unit × Transfer) : Prop where
  accounted : Accounted fileClip result.2
  complete : result.1 = .ok () → Remaining fileClip [] result.2.receiving.downloaded

theorem receiveEach_finished (route : TransferRoute)
    (fetch : Receiver → FileEntry → Nat → LexPath String → Except Failure Unit × Receiver)
    {missing : List (FileEntry × Nat)} (accounted : Accounted fileClip t)
    (remaining : Remaining fileClip missing t.receiving.downloaded) :
    Finished fileClip (Logged.receiveEach route fetch clipDir missing t) := by
  induction missing generalizing t with
  | nil => exact ⟨accounted, fun _ => remaining⟩
  | cons next rest ih =>
      obtain ⟨entry, index⟩ := next
      have absent : t.receiving.downloaded index = none := remaining.fresh _ List.mem_cons_self
      have file : IsFile fileClip index entry := remaining.files _ List.mem_cons_self
      have asked := accounted.asked route absent
      simp only [Logged.receiveEach]
      generalize fetch (t.log (.asks route index)).machine entry index
        (safeCachePath clipDir entry.relativePath entry.displayName) = result
      obtain ⟨outcome, after⟩ := result
      cases outcome with
      | error failure => exact ⟨asked.machine after, nofun⟩
      | ok done =>
          apply ih (asked.delivered file absent after _)
          rw [Transfer.insert_receiving]
          exact remaining_tail remaining _

theorem receiveMissing_finished (route : TransferRoute)
    (fetch : Receiver → FileEntry → Nat → LexPath String → Except Failure Unit × Receiver)
    {missing : List (FileEntry × Nat)} (accounted : Accounted fileClip t)
    (remaining : Remaining fileClip missing t.receiving.downloaded) :
    Finished fileClip (Logged.receiveMissing x route fetch clipDir missing t) := by
  simp only [Logged.receiveMissing]
  generalize t.machine.createDirAll x.fault none clipDir = result
  obtain ⟨made, after⟩ := result
  cases made with
  | false => exact ⟨accounted.machine after, nofun⟩
  | true => exact receiveEach_finished route fetch (accounted.machine after) remaining

theorem downloadRemoteFiles_finished (accounted : Accounted pending.fileClip t) :
    Finished pending.fileClip (Logged.downloadRemoteFiles x cacheDir pending t) := by
  simp only [Logged.downloadRemoteFiles]
  cases resolvePeerBaseUrl x pending with
  | error failure => exact ⟨accounted, nofun⟩
  | ok url => exact receiveMissing_finished _ _ accounted (missingFiles_remaining _ _)

theorem downloadViaRelay_finished (accounted : Accounted fileClip t) :
    Finished fileClip (Logged.downloadViaRelay x cacheDir fileClip t) := by
  have remaining := missingFiles_remaining fileClip t.receiving.downloaded
  simp only [Logged.downloadViaRelay]
  cases missing : missingFiles fileClip t.receiving.downloaded with
  | nil =>
      rw [missing] at remaining
      exact ⟨accounted, fun _ => remaining⟩
  | cons next rest =>
      rw [missing] at remaining
      have asked : Accounted fileClip (t.log .createsSession) :=
        accounted.createsSession (remaining.files _ List.mem_cons_self)
          (remaining.fresh _ List.mem_cons_self)
      simp only [List.isEmpty_cons, Bool.false_eq_true, if_false]
      split
      · exact ⟨asked, nofun⟩
      · exact receiveMissing_finished _ _ asked remaining

variable (x cacheDir) in
theorem downloadFiles_finished (preferRelay : Bool) (accounted : Accounted pending.fileClip t) :
    Finished pending.fileClip (Logged.downloadFiles x preferRelay cacheDir pending t) := by
  simp only [Logged.downloadFiles]
  cases preferRelay with
  | true => exact downloadViaRelay_finished accounted
  | false =>
      simp only [Bool.false_eq_true, if_false]
      have direct : Finished pending.fileClip (Logged.downloadRemoteFiles x cacheDir pending t) :=
        downloadRemoteFiles_finished accounted
      generalize Logged.downloadRemoteFiles x cacheDir pending t = result at direct ⊢
      obtain ⟨outcome, after⟩ := result
      cases outcome with
      | ok done => exact direct
      | error failure =>
          have relayed : Finished pending.fileClip
              (Logged.downloadViaRelay x cacheDir pending.fileClip after) :=
            downloadViaRelay_finished direct.accounted
          simp only
          generalize Logged.downloadViaRelay x cacheDir pending.fileClip after = result at relayed ⊢
          obtain ⟨outcome, last⟩ := result
          cases outcome with
          | ok done => exact relayed
          | error failure => exact ⟨relayed.accounted, nofun⟩

/-- What a whole apply comes to.  `paths` are those given to `set_files`. -/
structure CompleteApply (fileClip : FileClip) (result : Except Failure (List (LexPath String)))
    (t : Transfer) : Prop where
  /-- Whatever is in the table has been inserted, once. -/
  once : (inserted t.steps).Nodup ∧
    ∀ index, index ∈ inserted t.steps ↔ t.downloaded.get index ≠ none
  /-- What has been delivered, by the direct route too, is asked of the relay no more. -/
  notAgain : ∀ newer index older, t.steps = newer ++ .asks .relay index :: older →
    index ∉ inserted older
  /-- A relay session is only created while a file is missing. -/
  session : ∀ newer older, t.steps = newer ++ .createsSession :: older →
    ∃ index entry, IsFile fileClip index entry ∧ index ∉ inserted older
  /-- When the files are put on the clipboard, the table has exactly the regular files. -/
  keys : ∀ paths, .setsFiles paths ∈ t.steps →
    ∀ index, t.downloaded.get index ≠ none ↔ ∃ entry, IsFile fileClip index entry
  /-- The paths are those of the table in the order of the manifest. -/
  ordered : ∀ paths, .setsFiles paths ∈ t.steps →
    paths = (List.range fileClip.files.length).filterMap fun index =>
      (t.downloaded.get index).map Prod.snd
  /-- The paths returned are those put on the clipboard. -/
  returned : ∀ paths, result = .ok paths → .setsFiles paths ∈ t.steps

theorem Accounted.keys_get (accounted : Accounted fileClip t) (index : Nat) :
    index ∈ inserted t.steps ↔ t.downloaded.get index ≠ none := by
  rw [accounted.keys index]
  simp [Transfer.receiving]

/-- The values of the table, in its order, are those of the indexes of the manifest. -/
theorem Accounted.values (accounted : Accounted fileClip t) :
    t.downloaded.rows.map Prod.snd = (List.range fileClip.files.length).filterMap fun index =>
      (t.downloaded.get index).map Prod.snd := by
  have rows : t.downloaded.rows =
      (List.range fileClip.files.length).filterMap t.downloaded.get := by
    apply KeyedTable.rows_eq_of_mem_iff
    · apply List.pairwise_filterMap.mpr
      apply List.pairwise_lt_range.imp
      intro index later less row found laterRow laterFound
      rw [KeyedTable.key_of_get found, KeyedTable.key_of_get laterFound]
      exact less
    · intro row
      rw [List.mem_filterMap, KeyedTable.mem_rows_iff]
      constructor
      · intro found
        have member : row.1 ∈ inserted t.steps := by
          rw [accounted.keys_get, found]
          exact Option.some_ne_none row
        obtain ⟨entry, listed, -⟩ := accounted.files row.1 member
        obtain ⟨bound, -⟩ := List.getElem?_eq_some_iff.mp listed
        exact ⟨row.1, List.mem_range.mpr bound, found⟩
      · rintro ⟨index, -, found⟩
        rw [KeyedTable.key_of_get found]
        exact found
  rw [rows, List.map_filterMap]

theorem complete_of_accounted {failure : Failure} (accounted : Accounted fileClip t) :
    CompleteApply fileClip (.error failure) t where
  once := ⟨accounted.once, accounted.keys_get⟩
  notAgain := fun newer => accounted.notAgain newer .relay
  session := accounted.session
  keys := fun paths member => absurd member (accounted.unset paths)
  ordered := fun paths member => absurd member (accounted.unset paths)
  returned := nofun

theorem complete_of_finished {result : Except Failure (List (LexPath String))}
    (accounted : Accounted fileClip t) (remaining : Remaining fileClip [] t.receiving.downloaded)
    (returned : ∀ paths, result = .ok paths → paths = t.downloaded.rows.map Prod.snd) :
    CompleteApply fileClip result (t.log (.setsFiles (t.downloaded.rows.map Prod.snd))) where
  once := ⟨accounted.once, accounted.keys_get⟩
  notAgain := by
    intro newer index older split
    refine accounted.notAgain_cons (fun route other same => ?_) newer .relay index older split
    cases same
  session := accounted.session_cons nofun
  keys := by
    intro paths _ index
    constructor
    · intro present
      exact accounted.files index ((accounted.keys_get index).mpr present)
    · rintro ⟨entry, file⟩
      apply (accounted.keys_get index).mp
      apply (accounted.keys index).mpr
      exact (remaining.complete index entry file).resolve_right List.not_mem_nil
  ordered := by
    intro paths member
    rcases List.mem_cons.mp member with same | earlier
    · cases same
      exact accounted.values
    · exact absurd earlier (accounted.unset paths)
  returned := by
    intro paths same
    rw [returned paths same]
    exact List.mem_cons_self

theorem applyFileClip_complete (x : Surroundings) (filePolicy : FileTransferPolicy)
    (preferRelay : Bool) (cacheDir : LexPath String) (pending : PendingFileClip)
    (machine : Receiver) :
    CompleteApply pending.fileClip
      (Logged.applyFileClip x filePolicy preferRelay cacheDir pending machine).1
      (Logged.applyFileClip x filePolicy preferRelay cacheDir pending machine).2 := by
  have start : Accounted pending.fileClip ⟨machine, KeyedTable.empty, []⟩ := accounted_start machine
  simp only [Logged.applyFileClip]
  cases validateFileClip x pending.fileClip filePolicy with
  | error message => exact complete_of_accounted start
  | ok valid =>
      have done := downloadFiles_finished x cacheDir preferRelay start
      simp only
      generalize Logged.downloadFiles x preferRelay cacheDir pending
        ⟨machine, KeyedTable.empty, []⟩ = result at done ⊢
      obtain ⟨outcome, t⟩ := result
      cases outcome with
      | error failure => exact complete_of_accounted done.accounted
      | ok finished =>
          simp only
          split
          · exact complete_of_accounted done.accounted
          · split
            · exact complete_of_finished done.accounted (done.complete rfl) nofun
            · refine complete_of_finished done.accounted (done.complete rfl) fun paths same => ?_
              cases same
              rfl

/-- Without the record, the apply is that of the receiver. -/
theorem applyFileClip_receiving (x : Surroundings) (filePolicy : FileTransferPolicy)
    (preferRelay : Bool) (cacheDir : LexPath String) (pending : PendingFileClip)
    (machine : Receiver) :
    (Logged.applyFileClip x filePolicy preferRelay cacheDir pending machine).map id
        Transfer.receiving =
      applyFileClip x filePolicy preferRelay cacheDir pending machine := by
  have start : Accounted pending.fileClip ⟨machine, KeyedTable.empty, []⟩ := accounted_start machine
  have same := downloadFiles_receiving x cacheDir pending preferRelay
    ⟨machine, KeyedTable.empty, []⟩
  have done := downloadFiles_finished x cacheDir preferRelay start
  have empty : (⟨machine, KeyedTable.empty, []⟩ : Transfer).receiving =
      ⟨machine, fun _ => none⟩ := rfl
  rw [empty] at same
  simp only [Logged.applyFileClip, applyFileClip]
  cases validateFileClip x pending.fileClip filePolicy with
  | error message => rfl
  | ok valid =>
      simp only
      rw [← same]
      generalize Logged.downloadFiles x preferRelay cacheDir pending
        ⟨machine, KeyedTable.empty, []⟩ = result at done ⊢
      obtain ⟨outcome, t⟩ := result
      cases outcome with
      | error failure => rfl
      | ok finished =>
          have values : t.downloaded.rows.map Prod.snd =
              pending.fileClip.files.zipIdx.filterMap fun next =>
                t.receiving.downloaded next.2 := by
            rw [done.accounted.values, List.range_eq_range', ← List.zipIdx_map_snd 0,
              List.filterMap_map]
            rfl
          simp only [Prod.map, id, ← values]
          split
          · rfl
          · split <;> rfl

end Accounting

end AirPaste.Agent
