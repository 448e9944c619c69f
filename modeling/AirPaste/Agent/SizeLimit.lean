/-
# Agent.SizeLimit — the limit on the size of a clip

A manifest declares a total size besides the sizes of its files, and `validate_file_clip`
holds the limit against what is declared.  `totalLimit_iff` says which manifests get past
the limit: those whose files add up to more than they declare.

What a download places is counted from its record: each file inserted counts with the bytes
that its route delivered for it (`placedBytes`).  These are the bytes the manifest lists,
each file once (`Weighed`), so whatever keeps the sum within the limit keeps the cache
within it.
-/
import AirPaste.Agent.EntryDownload
import AirPaste.Agent.Fallback

namespace AirPaste.Agent

open AirPaste.Core
open AirPaste.Theory

set_option autoImplicit false

/-! ## The manifest -/

/-- The sizes of the regular files among these entries, added up. -/
def sizeOfFiles : List FileEntry → Nat
  | [] => 0
  | entry :: rest => (if entry.kind = .file then entry.size else 0) + sizeOfFiles rest

/-- The files of a manifest, added up. -/
def fileBytes (fileClip : FileClip) : Nat := sizeOfFiles fileClip.files

/-- The transfer token has expired. -/
def Expired (x : Surroundings) (fileClip : FileClip) : Prop :=
  ∃ expiresAt, fileClip.transferExpiresAt = some expiresAt ∧ expiresAt < x.now

/-- What `validate_file_clip` accepts. -/
structure Validated (x : Surroundings) (fileClip : FileClip) (filePolicy : FileTransferPolicy) :
    Prop where
  count : fileClip.files.length ≤ filePolicy.maxFileCount
  declared : fileClip.totalSize ≤ filePolicy.maxTotalFileBytes
  single : ∀ entry ∈ fileClip.files, entry.kind = .file →
    entry.size ≤ filePolicy.maxSingleFileBytes
  live : ¬ Expired x fileClip

theorem validateFileClip_ok_iff {x : Surroundings} {fileClip : FileClip}
    {filePolicy : FileTransferPolicy} :
    validateFileClip x fileClip filePolicy = .ok () ↔ Validated x fileClip filePolicy := by
  have single : ∀ entry : FileEntry,
      (!(entry.kind == .file && decide (filePolicy.maxSingleFileBytes < entry.size))) = true ↔
        (entry.kind = .file → entry.size ≤ filePolicy.maxSingleFileBytes) := by
    intro entry
    simp [Decidable.imp_iff_not_or]
  unfold validateFileClip
  simp only [bind_ok_iff, ensure_ok_iff, decide_eq_true_eq, forIn_ensure_ok_iff, single]
  constructor
  · rintro ⟨_, count, _, declared, _, each, live⟩
    refine ⟨count, declared, each, ?_⟩
    rintro ⟨expiresAt, listed, late⟩
    rw [listed] at live
    simp [late] at live
  · rintro ⟨count, declared, each, live⟩
    refine ⟨(), count, (), declared, ⟨⟩, each, ?_⟩
    cases listed : fileClip.transferExpiresAt with
    | none => rfl
    | some expiresAt =>
        have unexpired : ¬ expiresAt < x.now := fun late => live ⟨expiresAt, listed, late⟩
        simp [unexpired]

/-! ## What a download places -/

/-- What a route delivers for an index. -/
def contentOf (x : Surroundings) : TransferRoute → Nat → Option (List UInt8)
  | .direct, index => (x.responses index).map fun response => response.chunks.flatten
  | .relay, index => x.relayed index

/-- The bytes that were verified and placed, by a record of the steps, newest first. -/
def placedBytes (x : Surroundings) : List TransferStep → Nat
  | .inserts index _ :: .asks route asked :: older =>
      ((contentOf x route index).map List.length).getD 0 +
        placedBytes x (.asks route asked :: older)
  | _ :: older => placedBytes x older
  | [] => 0

/-- The route delivers the entry, and accepts it. -/
def Delivers (x : Surroundings) (route : TransferRoute) (entry : FileEntry) (index : Nat) : Prop :=
  ∃ bytes, contentOf x route index = some bytes ∧
    match route with
    | .direct => checkDownloaded x entry bytes = .ok ()
    | .relay => checkRelayed x entry bytes = .ok ()

/-- No response has 2^64 bytes. -/
def Receivable (x : Surroundings) : Prop :=
  ∀ index response, x.responses index = some response → response.chunks.flatten.length ≤ u64Max

section Delivered

variable {x : Surroundings} {machine : Receiver} {entry : FileEntry} {index : Nat}
  {destination : LexPath String} {route : TransferRoute}

theorem fetchDirect_delivers
    (done : (fetchDirect x machine entry index destination).1 = .ok ()) :
    Delivers x .direct entry index := by
  unfold fetchDirect at done
  cases answered : x.responses index with
  | none =>
      rw [answered] at done
      cases done
  | some response =>
      rw [answered] at done
      have ending : DownloadEnd x machine index response entry destination := downloadEnd
      refine ⟨response.chunks.flatten, by simp [contentOf, answered], ?_⟩
      cases ending with
      | closed cannot failed same => exact absurd done failed
      | complete made same can completes _ disk => exact completes.verified
      | removed made same can free fails works failed disk => exact absurd done failed
      | left can written fails fault failed content => exact absurd done failed

theorem fetchRelayed_delivers
    (done : (fetchRelayed x machine entry index destination).1 = .ok ()) :
    Delivers x .relay entry index := by
  cases delivered : x.relayed index with
  | none =>
      unfold fetchRelayed at done
      rw [delivered] at done
      cases done
  | some bytes =>
      have fine : (fetchRelayed x machine entry index destination).1 ≠ .error .io := by
        rw [done]
        exact nofun
      exact ⟨bytes, delivered, (fetchRelayed_accepts delivered fine).1.mp done⟩

/-- What is delivered has the size that the manifest lists. -/
theorem Delivers.length (delivers : Delivers x route entry index) (receivable : Receivable x) :
    ((contentOf x route index).map List.length).getD 0 = entry.size := by
  obtain ⟨bytes, content, accepted⟩ := delivers
  rw [content, Option.map_some, Option.getD_some]
  cases route with
  | direct =>
      obtain ⟨response, answered, rfl⟩ := Option.map_eq_some_iff.mp content
      have counted := (checkDownloaded_ok_iff.mp accepted).1
      have within := receivable index response answered
      omega
  | relay => exact (checkRelayed_ok_iff.mp accepted).1

end Delivered

/-! ## Along a download -/

/-- A property of the transfer that its steps keep. -/
structure Keeps (x : Surroundings) (fileClip : FileClip) (P : Transfer → Prop) : Prop where
  machine : ∀ t machine, P t → P { t with machine := machine }
  asks : ∀ t route index, P t → P (t.log (.asks route index))
  session : ∀ t, P t → P (t.log .createsSession)
  inserts : ∀ t route index entry machine path, Accounted fileClip t →
    t.receiving.downloaded index = none → IsFile fileClip index entry →
    Delivers x route entry index → P t →
      P ((t.log (.asks route index)).insert machine index path)

section Download

variable {x : Surroundings} {fileClip : FileClip} {clipDir cacheDir : LexPath String}
  {pending : PendingFileClip} {t : Transfer} {P : Transfer → Prop}

theorem receiveEach_holds (keeps : Keeps x fileClip P) (route : TransferRoute)
    {fetch : Receiver → FileEntry → Nat → LexPath String → Except Failure Unit × Receiver}
    (delivers : ∀ machine entry index destination,
      (fetch machine entry index destination).1 = .ok () → Delivers x route entry index)
    {missing : List (FileEntry × Nat)} (accounted : Accounted fileClip t)
    (remaining : Remaining fileClip missing t.receiving.downloaded) (holds : P t) :
    P (Logged.receiveEach route fetch clipDir missing t).2 := by
  induction missing generalizing t with
  | nil => exact holds
  | cons next rest ih =>
      obtain ⟨entry, index⟩ := next
      have absent : t.receiving.downloaded index = none := remaining.fresh _ List.mem_cons_self
      have file : IsFile fileClip index entry := remaining.files _ List.mem_cons_self
      have asked := accounted.asked route absent
      have fetched := delivers (t.log (.asks route index)).machine entry index
        (safeCachePath clipDir entry.relativePath entry.displayName)
      simp only [Logged.receiveEach]
      generalize fetch (t.log (.asks route index)).machine entry index
        (safeCachePath clipDir entry.relativePath entry.displayName) = result at fetched ⊢
      obtain ⟨outcome, after⟩ := result
      cases outcome with
      | error failure => exact keeps.machine _ after (keeps.asks t route index holds)
      | ok done =>
          apply ih (asked.delivered file absent after _)
          · rw [Transfer.insert_receiving]
            exact remaining_tail remaining _
          · exact keeps.inserts t route index entry after _ accounted absent file (fetched rfl)
              holds

theorem receiveMissing_holds (keeps : Keeps x fileClip P) (route : TransferRoute)
    {fetch : Receiver → FileEntry → Nat → LexPath String → Except Failure Unit × Receiver}
    (delivers : ∀ machine entry index destination,
      (fetch machine entry index destination).1 = .ok () → Delivers x route entry index)
    (accounted : Accounted fileClip t) (holds : P t) :
    P (Logged.receiveMissing x route fetch clipDir
      (missingFiles fileClip t.receiving.downloaded) t).2 := by
  have remaining := missingFiles_remaining fileClip t.receiving.downloaded
  simp only [Logged.receiveMissing]
  generalize t.machine.createDirAll x.fault none clipDir = result
  obtain ⟨made, after⟩ := result
  have goesOn := keeps.machine t after holds
  cases made with
  | false => exact goesOn
  | true => exact receiveEach_holds keeps route delivers (accounted.machine after) remaining goesOn

theorem downloadRemoteFiles_holds (keeps : Keeps x pending.fileClip P)
    (accounted : Accounted pending.fileClip t) (holds : P t) :
    P (Logged.downloadRemoteFiles x cacheDir pending t).2 := by
  simp only [Logged.downloadRemoteFiles]
  cases resolvePeerBaseUrl x pending with
  | error failure => exact holds
  | ok url =>
      exact receiveMissing_holds keeps .direct (fun _ _ _ _ => fetchDirect_delivers) accounted holds

theorem downloadViaRelay_holds (keeps : Keeps x fileClip P) (accounted : Accounted fileClip t)
    (holds : P t) : P (Logged.downloadViaRelay x cacheDir fileClip t).2 := by
  simp only [Logged.downloadViaRelay]
  cases missing : missingFiles fileClip t.receiving.downloaded with
  | nil => exact holds
  | cons next rest =>
      have remaining := missingFiles_remaining fileClip t.receiving.downloaded
      rw [missing] at remaining
      have asked : Accounted fileClip (t.log .createsSession) :=
        accounted.createsSession (remaining.files _ List.mem_cons_self)
          (remaining.fresh _ List.mem_cons_self)
      have goesOn := keeps.session t holds
      simp only [List.isEmpty_cons, Bool.false_eq_true, if_false]
      split
      · exact goesOn
      · rw [← missing]
        exact receiveMissing_holds keeps .relay (fun _ _ _ _ => fetchRelayed_delivers) asked goesOn

/-- Whatever the steps of a download keep holds when it ends. -/
theorem downloadFiles_holds (keeps : Keeps x pending.fileClip P) (preferRelay : Bool)
    (accounted : Accounted pending.fileClip t) (holds : P t) :
    P (Logged.downloadFiles x preferRelay cacheDir pending t).2 := by
  simp only [Logged.downloadFiles]
  cases preferRelay with
  | true => exact downloadViaRelay_holds keeps accounted holds
  | false =>
      simp only [Bool.false_eq_true, if_false]
      have direct : P (Logged.downloadRemoteFiles x cacheDir pending t).2 :=
        downloadRemoteFiles_holds keeps accounted holds
      have finished : Finished pending.fileClip
          (Logged.downloadRemoteFiles x cacheDir pending t) :=
        downloadRemoteFiles_finished accounted
      generalize Logged.downloadRemoteFiles x cacheDir pending t = result at direct finished ⊢
      obtain ⟨outcome, after⟩ := result
      cases outcome with
      | ok done => exact direct
      | error failure =>
          have relayed : P (Logged.downloadViaRelay x cacheDir pending.fileClip after).2 :=
            downloadViaRelay_holds keeps finished.accounted direct
          simp only
          generalize Logged.downloadViaRelay x cacheDir pending.fileClip after = result at relayed ⊢
          obtain ⟨outcome, last⟩ := result
          cases outcome with
          | ok done => exact relayed
          | error failure => exact relayed

/-! ## The weight of what is placed -/

/-- The sizes of the files that have not been inserted, added up. -/
def unplaced (done : List Nat) : List (FileEntry × Nat) → Nat
  | [] => 0
  | (entry, index) :: rest =>
      (if entry.kind = .file ∧ index ∉ done then entry.size else 0) + unplaced done rest

theorem unplaced_nil (files : List FileEntry) (n : Nat) :
    unplaced [] (files.zipIdx n) = sizeOfFiles files := by
  induction files generalizing n with
  | nil => rfl
  | cons entry rest ih =>
      rw [List.zipIdx_cons]
      simp only [unplaced, sizeOfFiles, List.not_mem_nil, not_false_eq_true, and_true, ih]

theorem unplaced_le (index : Nat) (done : List Nat) (files : List (FileEntry × Nat)) :
    unplaced (index :: done) files ≤ unplaced done files := by
  induction files with
  | nil => exact le_rfl
  | cons next rest ih =>
      obtain ⟨entry, other⟩ := next
      simp only [unplaced, List.mem_cons, not_or]
      split
      · rename_i both
        rw [if_pos ⟨both.1, both.2.2⟩]
        omega
      · omega

/-- A file inserted no longer weighs. -/
theorem unplaced_insert {index : Nat} {done : List Nat} {entry : FileEntry}
    {files : List (FileEntry × Nat)} (listed : (entry, index) ∈ files) (file : entry.kind = .file)
    (fresh : index ∉ done) :
    entry.size + unplaced (index :: done) files ≤ unplaced done files := by
  induction files with
  | nil => cases listed
  | cons next rest ih =>
      rcases List.mem_cons.mp listed with rfl | later
      · have others := unplaced_le index done rest
        simp only [unplaced]
        rw [if_neg fun both => both.2 List.mem_cons_self, if_pos ⟨file, fresh⟩]
        omega
      · obtain ⟨other, at'⟩ := next
        have others := ih later
        simp only [unplaced, List.mem_cons, not_or]
        split
        · rename_i both
          rw [if_pos ⟨both.1, both.2.2⟩]
          omega
        · omega

/-- What is placed and what is yet to be placed weigh no more than the manifest lists. -/
def Weighed (x : Surroundings) (fileClip : FileClip) (t : Transfer) : Prop :=
  placedBytes x t.steps + unplaced (inserted t.steps) fileClip.files.zipIdx ≤ fileBytes fileClip

theorem weighed_keeps (receivable : Receivable x) : Keeps x fileClip (Weighed x fileClip) where
  machine := fun _ _ weighed => weighed
  asks := fun _ _ _ weighed => weighed
  session := fun _ weighed => weighed
  inserts := by
    intro t route index entry machine path accounted absent file delivers weighed
    have fresh : index ∉ inserted t.steps := fun member => (accounted.keys index).mp member absent
    have listed : (entry, index) ∈ fileClip.files.zipIdx := List.mem_zipIdx_iff_getElem?.mpr file.1
    have lighter := unplaced_insert listed file.2 fresh
    have length := delivers.length receivable
    unfold Weighed at weighed ⊢
    simp only [Transfer.insert, Transfer.log, placedBytes, inserted]
    omega

theorem weighed_start (machine : Receiver) :
    Weighed x fileClip ⟨machine, KeyedTable.empty, []⟩ := by
  unfold Weighed fileBytes
  simp only [placedBytes, inserted]
  rw [unplaced_nil, Nat.zero_add]

/-- **An apply places no more than its manifest lists.** -/
theorem applyFileClip_weighed (receivable : Receivable x) (filePolicy : FileTransferPolicy)
    (preferRelay : Bool) (machine : Receiver) :
    placedBytes x (Logged.applyFileClip x filePolicy preferRelay cacheDir pending machine).2.steps ≤
      fileBytes pending.fileClip := by
  have weighed : Weighed x pending.fileClip (Logged.downloadFiles x preferRelay cacheDir pending
      ⟨machine, KeyedTable.empty, []⟩).2 :=
    downloadFiles_holds (weighed_keeps receivable) preferRelay (accounted_start machine)
      (weighed_start machine)
  have light := Nat.le_of_add_right_le weighed
  simp only [Logged.applyFileClip]
  cases validateFileClip x pending.fileClip filePolicy with
  | error message => exact Nat.zero_le _
  | ok valid =>
      simp only
      generalize Logged.downloadFiles x preferRelay cacheDir pending
        ⟨machine, KeyedTable.empty, []⟩ = result at light ⊢
      obtain ⟨outcome, t⟩ := result
      cases outcome with
      | error failure => exact light
      | ok finished =>
          simp only at light ⊢
          split
          · exact light
          · split
            · exact light
            · exact light

end Download

/-! ## The limit -/

/-- The limit on the total size binds: a manifest that is accepted lists no more, and an apply
that completes places no more. -/
structure LimitBinds (x : Surroundings) (fileClip : FileClip) (filePolicy : FileTransferPolicy) :
    Prop where
  accepted : validateFileClip x fileClip filePolicy = .ok () →
    fileBytes fileClip ≤ filePolicy.maxTotalFileBytes
  placed : Receivable x → ∀ preferRelay cacheDir clipId sourceDeviceId machine files,
    (Logged.applyFileClip x filePolicy preferRelay cacheDir ⟨clipId, sourceDeviceId, fileClip⟩
      machine).1 = .ok files →
    placedBytes x (Logged.applyFileClip x filePolicy preferRelay cacheDir
      ⟨clipId, sourceDeviceId, fileClip⟩ machine).2.steps ≤ filePolicy.maxTotalFileBytes

/-- An apply that completes was accepted. -/
theorem validated_of_applied {x : Surroundings} {filePolicy : FileTransferPolicy}
    {preferRelay : Bool} {cacheDir : LexPath String} {pending : PendingFileClip}
    {machine : Receiver} {files : List (LexPath String)}
    (applied : (Logged.applyFileClip x filePolicy preferRelay cacheDir pending machine).1 =
      .ok files) : validateFileClip x pending.fileClip filePolicy = .ok () := by
  simp only [Logged.applyFileClip] at applied
  cases valid : validateFileClip x pending.fileClip filePolicy with
  | error message =>
      rw [valid] at applied
      cases applied
  | ok accepted => rfl

theorem limitBinds_iff_accepted {x : Surroundings} {fileClip : FileClip}
    {filePolicy : FileTransferPolicy} :
    LimitBinds x fileClip filePolicy ↔
      (validateFileClip x fileClip filePolicy = .ok () →
        fileBytes fileClip ≤ filePolicy.maxTotalFileBytes) := by
  refine ⟨LimitBinds.accepted, fun binds => ⟨binds, ?_⟩⟩
  intro receivable preferRelay cacheDir clipId sourceDeviceId machine files applied
  exact (applyFileClip_weighed receivable filePolicy preferRelay machine).trans
    (binds (validated_of_applied applied))

/-- The manifest passes every check that is made, and its files exceed the limit. -/
structure SlipsThrough (x : Surroundings) (fileClip : FileClip) (filePolicy : FileTransferPolicy) :
    Prop extends Validated x fileClip filePolicy where
  exceeds : filePolicy.maxTotalFileBytes < fileBytes fileClip

/-- The largest size listed. -/
def largest : List FileEntry → Nat
  | [] => 0
  | entry :: rest => max entry.size (largest rest)

theorem le_largest {files : List FileEntry} {entry : FileEntry} (listed : entry ∈ files) :
    entry.size ≤ largest files := by
  induction files with
  | nil => cases listed
  | cons first rest ih =>
      rcases List.mem_cons.mp listed with rfl | later
      · exact le_max_left _ _
      · exact (ih later).trans (le_max_right _ _)

/-- The policy whose limits a manifest just meets, by its own account. -/
def tightPolicy (fileClip : FileClip) : FileTransferPolicy where
  maxFileCount := fileClip.files.length
  maxTotalFileBytes := fileClip.totalSize
  maxSingleFileBytes := largest fileClip.files
  transferTokenTtl := 0
  transferTokenTtlSecs := 0

/-- **The limit binds unless a manifest understates what it lists.**  It does under every
policy exactly when the declared total covers the files, or the token has expired. -/
theorem totalLimit_iff (x : Surroundings) (fileClip : FileClip) :
    (∀ filePolicy, LimitBinds x fileClip filePolicy ↔ ¬ SlipsThrough x fileClip filePolicy) ∧
      ((∀ filePolicy, LimitBinds x fileClip filePolicy) ↔
        fileBytes fileClip ≤ fileClip.totalSize ∨ Expired x fileClip) := by
  have each : ∀ filePolicy,
      LimitBinds x fileClip filePolicy ↔ ¬ SlipsThrough x fileClip filePolicy := by
    intro filePolicy
    rw [limitBinds_iff_accepted, validateFileClip_ok_iff]
    constructor
    · rintro binds ⟨validated, exceeds⟩
      exact absurd exceeds (not_lt.mpr (binds validated))
    · intro none validated
      exact not_lt.mp fun exceeds => none ⟨validated, exceeds⟩
  refine ⟨each, fun binds => ?_, fun covered filePolicy => (each filePolicy).mpr ?_⟩
  · by_contra neither
    obtain ⟨understated, live⟩ := not_or.mp neither
    refine (each (tightPolicy fileClip)).mp (binds _) ⟨⟨le_rfl, le_rfl, ?_, live⟩, ?_⟩
    · exact fun entry listed _ => le_largest listed
    · exact not_le.mp understated
  · rintro ⟨validated, exceeds⟩
    rcases covered with covers | expired
    · exact absurd (covers.trans validated.declared) (not_le.mpr exceeds)
    · exact validated.live expired

/-! ## A manifest that declares nothing -/

namespace Understated

def movie (name : String) : FileEntry := ⟨name, name, 800000, none, none, .file⟩

/-- Two files of 800000 bytes each, and a total of zero. -/
def fileClip : FileClip :=
  ⟨[movie "a.mp4", movie "b.mp4"], 0, ⟨"tt_1"⟩, some "http://192.168.1.5:8788", none⟩

def policy : FileTransferPolicy := ⟨100, 1000000, 1000000, 600, 600⟩

/-- Refuting pole: the manifest is accepted under a limit of 1000000 bytes. -/
theorem movies_accepted : ¬ ∀ (x : Surroundings) (fileClip : FileClip)
    (filePolicy : FileTransferPolicy), LimitBinds x fileClip filePolicy := by
  intro binds
  have validated : Validated OneByte.surroundings fileClip policy := by
    refine ⟨by decide, by decide, by decide, ?_⟩
    rintro ⟨expiresAt, listed, -⟩
    cases listed
  have exceeds : policy.maxTotalFileBytes < fileBytes fileClip := by decide
  exact absurd ((binds OneByte.surroundings fileClip policy).accepted
    (validateFileClip_ok_iff.mpr validated)) (not_le.mpr exceeds)

end Understated

end AirPaste.Agent
