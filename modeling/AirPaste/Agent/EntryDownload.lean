/-
# Agent.EntryDownload — one entry, complete or not at all

What `download_peer_file_to_cache` leaves on the disk, in each of the ways it can end
(`transferFile_cases`, `DownloadEnd`).  It writes to a temporary file beside the destination
and renames that over it once size and digest are verified, so it is all or nothing exactly
when nothing was at the temporary path that it may not lose (`allOrNothing_iff`).

The relay verifies the same entry in its own words; `routesAgree_iff` says which contents
one of the two accepts and the other rejects.
-/
import AirPaste.Agent.Receive

namespace AirPaste.Agent

open AirPaste.Core
open AirPaste.Theory
open AirPaste.Theory.Machine

set_option autoImplicit false

/-- The manifest's digest is that of the content, up to the case of its letters. -/
def DigestUpToCase (x : Surroundings) (entry : FileEntry) (bytes : List UInt8) : Prop :=
  ∀ expected, entry.sha256 = some expected →
    eqIgnoreAsciiCase expected (hexLower (x.sha256 bytes)) = true

theorem checkDownloaded_ok_iff {x : Surroundings} {entry : FileEntry} {bytes : List UInt8} :
    checkDownloaded x entry bytes = .ok () ↔
      min bytes.length u64Max = entry.size ∧ DigestUpToCase x entry bytes := by
  simp only [checkDownloaded, bind_ok_iff, ensure_ok_iff, beq_iff_eq, DigestUpToCase]
  cases entry.sha256 with
  | none =>
      constructor
      · rintro ⟨_, sized, _⟩
        exact ⟨sized, fun expected listed => by cases listed⟩
      · rintro ⟨sized, -⟩
        exact ⟨(), sized, rfl⟩
  | some expected =>
      simp only [ensure_ok_iff, Option.some.injEq]
      constructor
      · rintro ⟨_, sized, same⟩
        refine ⟨sized, ?_⟩
        rintro _ rfl
        exact same
      · rintro ⟨sized, same⟩
        exact ⟨(), sized, same expected rfl⟩

section Transfer

variable {x : Surroundings} {machine : Receiver} {index : Nat} {response : Response}
  {entry : FileEntry} {temporary destination : LexPath String}

/-- Receiving chunks writes them all to the temporary file, or fails after a part. -/
theorem receiveChunks_cases (x : Surroundings) (index : Nat) (chunks : List (List UInt8))
    {got : List UInt8}
    (content : machine.disk temporary.locate = some (.file got)) :
    (∃ after, receiveChunks x index temporary chunks got machine =
        (some (got ++ chunks.flatten), after) ∧
      after.disk = machine.disk.set temporary.locate (some (.file (got ++ chunks.flatten))) ∧
      after.calls = machine.calls + chunks.length ∧
      ∀ n < chunks.length, x.fault (machine.calls + n) = none) ∨
    ∃ after written, receiveChunks x index temporary chunks got machine = (none, after) ∧
      after.disk = machine.disk.set temporary.locate (some (.file written)) ∧
      ∃ n < chunks.length, x.fault (machine.calls + n) ≠ none := by
  induction chunks generalizing got machine with
  | nil =>
      refine .inl ⟨machine, ?_, ?_, rfl, fun n within => absurd within (Nat.not_lt_zero n)⟩
      · rw [List.flatten_nil, List.append_nil]
        rfl
      · rw [List.flatten_nil, List.append_nil, ← content, Disk.set_same]
  | cons chunk rest ih =>
      unfold receiveChunks
      obtain ⟨after, calls, ⟨works, result, disk⟩ | ⟨n, fails, result, disk⟩⟩ :=
        writeAll_cases x.fault machine (some index) temporary chunk
      · rw [Disk.append_eq_set content] at disk
        have more : after.disk temporary.locate = some (.file (got ++ chunk)) := by
          rw [disk, Disk.set_self]
        have all : got ++ chunk ++ rest.flatten = got ++ (chunk :: rest).flatten := by
          rw [List.flatten_cons, List.append_assoc]
        rw [result]
        rcases ih more with ⟨last, received, lastDisk, lastCalls, allWork⟩ |
          ⟨last, written, stopped, lastDisk, m, within, failed⟩
        · refine .inl ⟨last, ?_, ?_, ?_, ?_⟩
          · rw [← all]
            exact received
          · rw [lastDisk, disk, Disk.set_set, all]
          · rw [lastCalls, calls, List.length_cons]
            omega
          · intro m within
            cases m with
            | zero => exact works
            | succ m =>
                have later := allWork m (Nat.lt_of_succ_lt_succ within)
                rwa [calls, Nat.add_assoc, Nat.add_comm 1 m] at later
        · refine .inr ⟨last, written, stopped, ?_, m + 1, Nat.succ_lt_succ within, ?_⟩
          · rw [lastDisk, disk, Disk.set_set]
          · rwa [calls, Nat.add_assoc, Nat.add_comm 1 m] at failed
      · rw [Disk.append_eq_set content] at disk
        rw [result]
        refine .inr ⟨after, got ++ chunk.take n, rfl, disk, 0, Nat.succ_pos _, ?_⟩
        rw [Nat.add_zero, fails]
        exact Option.some_ne_none n

/-- The response is complete and what was declared, and the calls of the transfer (a write
for each chunk, the flush and the rename) succeed. -/
structure Completes (x : Surroundings) (machine : Receiver) (response : Response)
    (entry : FileEntry) (destination : LexPath String) : Prop where
  ends : response.ends = true
  verified : checkDownloaded x entry response.chunks.flatten = .ok ()
  legal : destination.hasNul = false
  free : machine.disk destination.locate ≠ some .dir
  works : ∀ n < response.chunks.length + 2, x.fault (machine.calls + n) = none

/-- The rest of a transfer whose chunks have all been received. -/
structure Finishes (x : Surroundings) (received : Receiver) (response : Response)
    (entry : FileEntry) (destination : LexPath String) (got : List UInt8) : Prop where
  ends : response.ends = true
  flushed : x.fault received.calls = none
  verified : checkDownloaded x entry got = .ok ()
  legal : destination.hasNul = false
  free : received.disk destination.locate ≠ some .dir
  renamed : x.fault (received.calls + 1) = none

/-- Once the chunks are received, the disk stays as it is up to the rename. -/
theorem transferFile_received (entry : FileEntry) (destination : LexPath String)
    {received : Receiver} {got : List UInt8}
    (all : receiveChunks x index temporary response.chunks [] machine = (some got, received))
    (full : received.disk temporary.locate = some (.file got)) (named : temporary.hasNul = false) :
    (Finishes x received response entry destination got ∧
      ∃ after, transferFile x machine index response entry temporary destination =
          (.ok (), after) ∧
        after.disk = (received.disk.set temporary.locate none).set destination.locate
          (some (.file got))) ∨
    ¬ Finishes x received response entry destination got ∧
      ∃ failure after, transferFile x machine index response entry temporary destination =
          (.error failure, after) ∧
        after.disk = received.disk := by
  unfold transferFile
  rw [all]
  simp only
  cases ends : response.ends with
  | false =>
      refine .inr ⟨fun done => ?_, .network, received, rfl, rfl⟩
      cases ends.symm.trans done.ends
  | true =>
      simp only [Bool.not_true, Bool.false_eq_true, if_false, flush]
      cases flushed : x.fault received.calls with
      | some n =>
          refine .inr ⟨fun done => ?_, .io, _, rfl, rfl⟩
          cases flushed.symm.trans done.flushed
      | none =>
          simp only [Option.isNone_none]
          cases checked : checkDownloaded x entry got with
          | error message =>
              refine .inr ⟨fun done => ?_, .text message, _, rfl, rfl⟩
              cases checked.symm.trans done.verified
          | ok verified =>
              simp only
              rcases rename_cases x.fault { received with calls := received.calls + 1 }
                  (some index) destination full named with
                ⟨last, renamed, ⟨legal, free, works⟩, disk⟩ | ⟨last, renamed, fails, disk⟩
              · rw [renamed]
                exact .inl ⟨⟨ends, flushed, checked, legal, free, works⟩, last, rfl, disk⟩
              · rw [renamed]
                exact .inr ⟨fun done => fails ⟨done.legal, done.free, done.renamed⟩, .io, last, rfl,
                  disk⟩

/-- With all chunks received, the transfer completes when its rest does. -/
theorem finishes_iff_completes {received : Receiver}
    (content : machine.disk temporary.locate = some (.file []))
    (disk : received.disk = machine.disk.set temporary.locate
      (some (.file response.chunks.flatten)))
    (calls : received.calls = machine.calls + response.chunks.length)
    (works : ∀ n < response.chunks.length, x.fault (machine.calls + n) = none) :
    Finishes x received response entry destination response.chunks.flatten ↔
      Completes x machine response entry destination := by
  -- The temporary file is a file all along, so the destination is a directory before or never.
  have sameDirs : received.disk destination.locate ≠ some .dir ↔
      machine.disk destination.locate ≠ some .dir := by
    by_cases own : destination.locate = temporary.locate
    · rw [own, disk, Disk.set_self, content]
      exact iff_of_true nofun nofun
    · rw [disk, Disk.set_of_ne _ own]
  constructor
  · rintro ⟨ends, flushed, verified, legal, free, renamed⟩
    refine ⟨ends, verified, legal, sameDirs.mp free, fun n within => ?_⟩
    rcases Nat.lt_or_ge n response.chunks.length with early | late
    · exact works n early
    · rcases Nat.eq_or_lt_of_le late with rfl | later
      · rw [← calls, flushed]
      · have own : n = response.chunks.length + 1 := by omega
        rw [own, ← Nat.add_assoc, ← calls, renamed]
  · rintro ⟨ends, verified, legal, free, all⟩
    refine ⟨ends, ?_, verified, legal, sameDirs.mpr free, ?_⟩
    · rw [calls]
      exact all response.chunks.length (by omega)
    · rw [calls, Nat.add_assoc]
      exact all (response.chunks.length + 1) (by omega)

/-- **How a transfer ends**: the temporary file becomes the destination, or it is left with
some bytes. -/
theorem transferFile_cases (x : Surroundings) (index : Nat) (response : Response)
    (entry : FileEntry) (destination : LexPath String)
    (content : machine.disk temporary.locate = some (.file []))
    (named : temporary.hasNul = false) :
    (Completes x machine response entry destination ∧
      ∃ after, transferFile x machine index response entry temporary destination =
          (.ok (), after) ∧
        after.disk = (machine.disk.set temporary.locate none).set destination.locate
          (some (.file response.chunks.flatten))) ∨
    ¬ Completes x machine response entry destination ∧
      ∃ failure after written,
        transferFile x machine index response entry temporary destination =
          (.error failure, after) ∧
        after.disk = machine.disk.set temporary.locate (some (.file written)) := by
  rcases receiveChunks_cases x index response.chunks content with
    ⟨received, all, disk, calls, works⟩ | ⟨after, written, stopped, disk, n, within, failed⟩
  · rw [List.nil_append] at all disk
    have full : received.disk temporary.locate = some (.file response.chunks.flatten) := by
      rw [disk, Disk.set_self]
    rw [← finishes_iff_completes content disk calls works]
    rcases transferFile_received entry destination all full named with
      ⟨finishes, after, done, afterDisk⟩ | ⟨fails, failure, after, stopped, afterDisk⟩
    · refine .inl ⟨finishes, after, done, ?_⟩
      rw [afterDisk, disk, Disk.set_set]
    · exact .inr ⟨fails, failure, after, _, stopped, afterDisk.trans disk⟩
  · refine .inr ⟨fun completes => failed (completes.works n (by omega)), .io, after, written, ?_,
      disk⟩
    rw [transferFile, stopped]

/-- A complete response is refused by the checks, unless the file system fails. -/
theorem transferFile_verdict (content : machine.disk temporary.locate = some (.file []))
    (ends : response.ends = true)
    (fine : (transferFile x machine index response entry temporary destination).1 ≠ .error .io) :
    (transferFile x machine index response entry temporary destination).1 = .ok () ↔
      checkDownloaded x entry response.chunks.flatten = .ok () := by
  unfold transferFile at fine ⊢
  rcases receiveChunks_cases x index response.chunks content with
    ⟨after, received, -⟩ | ⟨after, written, stopped, -⟩
  · rw [List.nil_append] at received
    simp only [received, ends, Bool.not_true, Bool.false_eq_true, if_false] at fine ⊢
    generalize after.flush x.fault = result at fine ⊢
    obtain ⟨works, afterFlush⟩ := result
    cases works with
    | false => exact absurd rfl fine
    | true =>
        cases checked : checkDownloaded x entry response.chunks.flatten with
        | error message => exact iff_of_false nofun nofun
        | ok done =>
            simp only [checked] at fine ⊢
            generalize afterFlush.rename x.fault (some index) temporary destination = result
              at fine ⊢
            obtain ⟨works, last⟩ := result
            cases works with
            | false => exact absurd rfl fine
            | true => exact iff_of_true rfl trivial
  · rw [stopped] at fine
    exact absurd rfl fine

end Transfer

/-! ## All or nothing -/

section AllOrNothing

variable (x : Surroundings) (machine : Receiver) (index : Nat) (response : Response)
  (entry : FileEntry) (destination : LexPath String)

/-- Where the direct route writes before it has verified the content. -/
def temporaryPath : LexPath String := destination.withExtension "airpaste-download"

/-- The receiver once the temporary file has been created. -/
def openedTemporary : Receiver :=
  ((createParent x machine index destination).2.createFile x.fault (some index)
    (temporaryPath destination)).2

/-- The transfer into the temporary file and on to the destination. -/
def transferred : Except Failure Unit × Receiver :=
  transferFile x (openedTemporary x machine index destination) index response entry
    (temporaryPath destination) destination

/-- The download of the entry. -/
def downloaded : Except Failure Unit × Receiver :=
  downloadPeerFileToCache x machine index response entry destination

/-- Either the destination holds exactly the content, verified, or it holds what it held
before and the temporary file is gone; and no other file is touched. -/
structure AllOrNothing : Prop where
  done : (downloaded x machine index response entry destination).1 = .ok () →
    (downloaded x machine index response entry destination).2.disk destination.locate =
        some (.file response.chunks.flatten) ∧
      response.chunks.flatten.length = entry.size ∧
      DigestUpToCase x entry response.chunks.flatten
  failed : (downloaded x machine index response entry destination).1 ≠ .ok () →
    (∀ bytes, (downloaded x machine index response entry destination).2.disk destination.locate =
        some (.file bytes) ↔ machine.disk destination.locate = some (.file bytes)) ∧
      (CanOpen x machine index destination → ∀ bytes,
        (downloaded x machine index response entry destination).2.disk
          (temporaryPath destination).locate ≠ some (.file bytes))
  others : ∀ place bytes, place ≠ destination.locate → machine.disk place = some (.file bytes) →
    (downloaded x machine index response entry destination).2.disk place = some (.file bytes)

/-- What the download relies on, once it opens its temporary file: nothing was there, or it
is the destination itself and the transfer completes; where the transfer does not, the
temporary file can be removed; and where it does, the saturating count was exact. -/
structure Unspoiled : Prop where
  apart : ∀ bytes, machine.disk (temporaryPath destination).locate = some (.file bytes) →
    (temporaryPath destination).locate = destination.locate ∧
      Completes x (openedTemporary x machine index destination) response entry destination
  removed : ¬ Completes x (openedTemporary x machine index destination) response entry
      destination →
    x.fault (transferred x machine index response entry destination).2.calls = none
  counted : Completes x (openedTemporary x machine index destination) response entry
      destination →
    response.chunks.flatten.length ≤ u64Max

/-- A later disk with the same files. -/
def SameFiles (before after : Disk) : Prop :=
  ∀ place, after place = before place ∨ before place = none ∧ after place = some .dir

/-- How a download ends.  `made` is the disk with the directories of the destination. -/
inductive DownloadEnd : Prop where
  /-- It cannot open its temporary file. -/
  | closed (cannot : ¬ CanOpen x machine index destination)
      (failed : (downloaded x machine index response entry destination).1 ≠ .ok ())
      (same : SameFiles machine.disk
        (downloaded x machine index response entry destination).2.disk)
  /-- The temporary file becomes the destination. -/
  | complete (made : Disk) (same : SameFiles machine.disk made)
      (can : CanOpen x machine index destination)
      (completes : Completes x (openedTemporary x machine index destination) response entry
        destination)
      (done : (downloaded x machine index response entry destination).1 = .ok ())
      (disk : (downloaded x machine index response entry destination).2.disk =
        (made.set (temporaryPath destination).locate none).set destination.locate
          (some (.file response.chunks.flatten)))
  /-- The temporary file is removed. -/
  | removed (made : Disk) (same : SameFiles machine.disk made)
      (can : CanOpen x machine index destination)
      (free : made (temporaryPath destination).locate ≠ some .dir)
      (fails : ¬ Completes x (openedTemporary x machine index destination) response entry
        destination)
      (works : x.fault (transferred x machine index response entry destination).2.calls = none)
      (failed : (downloaded x machine index response entry destination).1 ≠ .ok ())
      (disk : (downloaded x machine index response entry destination).2.disk =
        made.set (temporaryPath destination).locate none)
  /-- The temporary file stays. -/
  | left (can : CanOpen x machine index destination) (written : List UInt8)
      (fails : ¬ Completes x (openedTemporary x machine index destination) response entry
        destination)
      (fault : x.fault (transferred x machine index response entry destination).2.calls ≠ none)
      (failed : (downloaded x machine index response entry destination).1 ≠ .ok ())
      (content : (downloaded x machine index response entry destination).2.disk
        (temporaryPath destination).locate = some (.file written))

variable {x machine index response entry destination}

theorem createParent_sameFiles (x : Surroundings) (machine : Receiver) (index : Nat)
    (destination : LexPath String) :
    SameFiles machine.disk (createParent x machine index destination).2.disk := by
  intro place
  unfold createParent
  cases destination.parent with
  | none => exact .inl rfl
  | some parent =>
      simp only [createDirAll]
      split
      · exact .inl rfl
      · exact ensureDirs_node x.fault (some index) parent.way machine place

/-- Without its temporary file the download fails, and leaves the files as they are. -/
theorem downloaded_closed (response : Response) (entry : FileEntry)
    (cannot : ¬ CanOpen x machine index destination) :
    (downloaded x machine index response entry destination).1 = .error .io ∧
      SameFiles machine.disk (downloaded x machine index response entry destination).2.disk := by
  have made := createParent_sameFiles x machine index destination
  unfold CanOpen at cannot
  unfold downloaded downloadPeerFileToCache
  generalize createParent x machine index destination = parent at cannot made ⊢
  obtain ⟨done, after⟩ := parent
  cases done with
  | false => exact ⟨rfl, made⟩
  | true =>
      rcases createFile_cases x.fault after (some index)
          (destination.withExtension "airpaste-download") with
        ⟨last, created, -⟩ | ⟨last, created, disk⟩
      · exact absurd ⟨rfl, congrArg Prod.fst created⟩ cannot
      · simp only [created, disk]
        exact ⟨trivial, made⟩

/-- With it, the download is the transfer, undone when that fails. -/
theorem downloaded_open (response : Response) (entry : FileEntry)
    (can : CanOpen x machine index destination) :
    downloaded x machine index response entry destination =
      match transferred x machine index response entry destination with
      | (.ok (), after) => (.ok (), after)
      | (.error failure, after) =>
          (.error failure,
            (after.removeFile x.fault (some index) (temporaryPath destination)).2) := by
  unfold CanOpen at can
  unfold downloaded downloadPeerFileToCache transferred openedTemporary temporaryPath
  generalize createParent x machine index destination = parent at can ⊢
  obtain ⟨done, after⟩ := parent
  obtain ⟨rfl, opens⟩ := can
  simp only at opens ⊢
  generalize after.createFile x.fault (some index)
    (destination.withExtension "airpaste-download") = created at opens ⊢
  obtain ⟨done, last⟩ := created
  cases opens
  rfl

/-- The temporary file, just created. -/
theorem openedTemporary_spec (can : CanOpen x machine index destination) :
    ∃ made : Disk, SameFiles machine.disk made ∧
      made (temporaryPath destination).locate ≠ some .dir ∧
      (temporaryPath destination).hasNul = false ∧
      (openedTemporary x machine index destination).disk =
        made.set (temporaryPath destination).locate (some (.file [])) := by
  refine ⟨(createParent x machine index destination).2.disk,
    createParent_sameFiles x machine index destination, ?_⟩
  rcases createFile_cases x.fault (createParent x machine index destination).2 (some index)
      (temporaryPath destination) with ⟨last, created, legal, free, disk⟩ | ⟨last, created, -⟩
  · rw [openedTemporary, created]
    exact ⟨free, legal, disk⟩
  · exact nomatch can.2.symm.trans (congrArg Prod.fst created)

theorem downloadEnd : DownloadEnd x machine index response entry destination := by
  by_cases can : CanOpen x machine index destination
  · obtain ⟨made, same, free, legal, disk⟩ := openedTemporary_spec can
    have content : (openedTemporary x machine index destination).disk
        (temporaryPath destination).locate = some (.file []) := by rw [disk, Disk.set_self]
    have whole := downloaded_open response entry can
    rcases transferFile_cases x index response entry destination content legal with
      ⟨completes, after, moved, afterDisk⟩ | ⟨fails, failure, after, written, stopped, afterDisk⟩
    · rw [transferred, moved] at whole
      refine .complete made same can completes (by rw [whole]) ?_
      rw [whole, afterDisk, disk, Disk.set_set]
    · have transfer : transferred x machine index response entry destination =
          (.error failure, after) := stopped
      have last : after.disk (temporaryPath destination).locate = some (.file written) := by
        rw [afterDisk, Disk.set_self]
      rw [transfer] at whole
      have failed : (downloaded x machine index response entry destination).1 ≠ .ok () := by
        rw [whole]
        exact nofun
      rcases removeFile_cases x.fault after (some index) last legal with
        ⟨works, gone⟩ | ⟨fault, stays⟩
      · refine .removed made same can free fails (by rw [transfer]; exact works) failed ?_
        rw [whole, gone, afterDisk, disk, Disk.set_set, Disk.set_set]
      · refine .left can written fails (by rw [transfer]; exact fault) failed ?_
        rw [whole, stays, last]
  · obtain ⟨failed, same⟩ := downloaded_closed response entry can
    exact .closed can (by rw [failed]; exact nofun) same

theorem SameFiles.file {before after : Disk} (same : SameFiles before after) {place : Place}
    {bytes : List UInt8} :
    after place = some (.file bytes) ↔ before place = some (.file bytes) := by
  rcases same place with kept | ⟨nothing, made⟩
  · rw [kept]
  · rw [nothing, made]
    exact iff_of_false nofun nofun

/-- An all-or-nothing download had nothing to lose at its temporary path. -/
theorem unspoiled_of_allOrNothing (can : CanOpen x machine index destination)
    (whole : AllOrNothing x machine index response entry destination) :
    Unspoiled x machine index response entry destination := by
  have ending : DownloadEnd x machine index response entry destination := downloadEnd
  cases ending with
  | closed cannot => exact absurd can cannot
  | complete made same can completes done disk =>
      refine ⟨fun bytes before => ⟨?_, completes⟩, fun fails => absurd completes fails, fun _ => ?_⟩
      · by_contra apart
        have kept := whole.others _ bytes apart before
        rw [disk, Disk.set_of_ne _ apart, Disk.set_self] at kept
        cases kept
      · obtain ⟨-, exact', -⟩ := whole.done done
        have counted := (checkDownloaded_ok_iff.mp completes.verified).1
        omega
  | removed made same can free fails works failed disk =>
      refine ⟨fun bytes before => ?_, fun _ => works, fun completes => absurd completes fails⟩
      -- The file that was there is lost, whether it is the destination or another one.
      exfalso
      by_cases own : (temporaryPath destination).locate = destination.locate
      · have kept := ((whole.failed failed).1 bytes).mpr (own ▸ before)
        rw [disk, ← own, Disk.set_self] at kept
        cases kept
      · have kept := whole.others _ bytes own before
        rw [disk, Disk.set_self] at kept
        cases kept
  | left can written fails fault failed content =>
      exact absurd content ((whole.failed failed).2 can written)

theorem allOrNothing_of_unspoiled
    (unspoiled : CanOpen x machine index destination →
      Unspoiled x machine index response entry destination) :
    AllOrNothing x machine index response entry destination := by
  have ending : DownloadEnd x machine index response entry destination := downloadEnd
  cases ending with
  | closed cannot failed same =>
      exact ⟨fun done => absurd done failed,
        fun _ => ⟨fun bytes => same.file, fun can => absurd can cannot⟩,
        fun place bytes _ before => same.file.mpr before⟩
  | complete made same can completes done disk =>
      have fine := unspoiled can
      obtain ⟨counted, digest⟩ := checkDownloaded_ok_iff.mp completes.verified
      refine ⟨fun _ => ⟨?_, ?_, digest⟩, fun failed => absurd done failed,
        fun place bytes other before => ?_⟩
      · rw [disk, Disk.set_self]
      · have exact' := fine.counted completes
        omega
      · have apart : place ≠ (temporaryPath destination).locate := by
          rintro rfl
          exact other (fine.apart bytes before).1
        rw [disk, Disk.set_of_ne _ other, Disk.set_of_ne _ apart]
        exact same.file.mpr before
  | removed made same can free fails works failed disk =>
      have nothing : ∀ bytes, machine.disk (temporaryPath destination).locate ≠
          some (.file bytes) := fun bytes before => fails ((unspoiled can).apart bytes before).2
      refine ⟨fun done => absurd done failed, fun _ => ⟨fun bytes => ?_, fun _ bytes => ?_⟩,
        fun place bytes _ before => ?_⟩
      · rw [disk]
        by_cases own : destination.locate = (temporaryPath destination).locate
        · rw [own, Disk.set_self]
          exact iff_of_false nofun (nothing bytes)
        · rw [Disk.set_of_ne _ own]
          exact same.file
      · rw [disk, Disk.set_self]
        exact nofun
      · have apart : place ≠ (temporaryPath destination).locate := by
          rintro rfl
          exact nothing bytes before
        rw [disk, Disk.set_of_ne _ apart]
        exact same.file.mpr before
  | left can written fails fault failed content =>
      exact absurd ((unspoiled can).removed fails) fault

/-- **When a direct download is all or nothing.** -/
theorem allOrNothing_iff (x : Surroundings) (machine : Receiver) (index : Nat)
    (response : Response) (entry : FileEntry) (destination : LexPath String) :
    AllOrNothing x machine index response entry destination ↔
      (CanOpen x machine index destination →
        Unspoiled x machine index response entry destination) :=
  ⟨fun whole can => unspoiled_of_allOrNothing can whole, allOrNothing_of_unspoiled⟩

end AllOrNothing

/-! ## The verdicts of the two routes -/

/-- The manifest's digest is that of the content, letter for letter. -/
def DigestExact (x : Surroundings) (entry : FileEntry) (bytes : List UInt8) : Prop :=
  ∀ expected, entry.sha256 = some expected → expected = hexLower (x.sha256 bytes)

theorem checkRelayed_ok_iff {x : Surroundings} {entry : FileEntry} {bytes : List UInt8} :
    checkRelayed x entry bytes = .ok () ↔
      bytes.length = entry.size ∧ DigestExact x entry bytes := by
  simp only [checkRelayed, bind_ok_iff, ensure_ok_iff, beq_iff_eq, DigestExact]
  cases entry.sha256 with
  | none =>
      constructor
      · rintro ⟨_, sized, _⟩
        exact ⟨sized, fun expected listed => by cases listed⟩
      · rintro ⟨sized, -⟩
        exact ⟨(), sized, rfl⟩
  | some expected =>
      simp only [ensure_ok_iff, Option.some.injEq, beq_iff_eq]
      constructor
      · rintro ⟨_, sized, same⟩
        refine ⟨sized, ?_⟩
        rintro _ rfl
        exact same.symm
      · rintro ⟨sized, same⟩
        exact ⟨(), sized, (same expected rfl).symm⟩

theorem DigestExact.upToCase {x : Surroundings} {entry : FileEntry} {bytes : List UInt8}
    (exactly : DigestExact x entry bytes) : DigestUpToCase x entry bytes := by
  intro expected listed
  rw [← exactly expected listed]
  exact beq_self_eq_true _

/-- The content has the declared size, as the direct route counts, and the declared digest up
to the case of its letters, but not both to the letter. -/
structure ToldApart (x : Surroundings) (entry : FileEntry) (bytes : List UInt8) : Prop where
  sized : min bytes.length u64Max = entry.size
  digest : DigestUpToCase x entry bytes
  apart : ¬ DigestExact x entry bytes ∨ u64Max < bytes.length

theorem verdicts_iff {x : Surroundings} {entry : FileEntry} {bytes : List UInt8}
    (sized : entry.size ≤ u64Max) :
    (checkDownloaded x entry bytes = .ok () ↔ checkRelayed x entry bytes = .ok ()) ↔
      ¬ ToldApart x entry bytes := by
  rw [checkDownloaded_ok_iff, checkRelayed_ok_iff]
  constructor
  · rintro agree ⟨counted, digest, apart⟩
    obtain ⟨exactSize, exactly⟩ := agree.mp ⟨counted, digest⟩
    rcases apart with differs | longer
    · exact differs exactly
    · omega
  · intro same
    constructor
    · rintro ⟨counted, digest⟩
      have both : ¬ (¬ DigestExact x entry bytes ∨ u64Max < bytes.length) :=
        fun apart => same ⟨counted, digest, apart⟩
      obtain ⟨exactly, within⟩ := not_or.mp both
      exact ⟨by omega, not_not.mp exactly⟩
    · rintro ⟨exactSize, exactly⟩
      exact ⟨by omega, exactly.upToCase⟩

section Routes

variable (x : Surroundings) (machine other : Receiver) (index : Nat) (entry : FileEntry)
  (destination : LexPath String)

/-- Neither route fails on the file system. -/
structure NoFileSystemError : Prop where
  direct : (fetchDirect x machine entry index destination).1 ≠ .error .io
  relayed : (fetchRelayed x other entry index destination).1 ≠ .error .io

/-- One route accepts the entry when the other does, and then both leave the same bytes at
the destination. -/
structure RoutesAgree : Prop where
  accept : (fetchDirect x machine entry index destination).1 = .ok () ↔
    (fetchRelayed x other entry index destination).1 = .ok ()
  place : (fetchDirect x machine entry index destination).1 = .ok () →
    (fetchRelayed x other entry index destination).1 = .ok () → ∃ bytes,
      (fetchDirect x machine entry index destination).2.disk destination.locate =
        some (.file bytes) ∧
      (fetchRelayed x other entry index destination).2.disk destination.locate =
        some (.file bytes)

variable {x machine other index entry destination}

/-- The relay accepts what passes its checks, and places it. -/
theorem fetchRelayed_accepts {bytes : List UInt8} (delivered : x.relayed index = some bytes)
    (fine : (fetchRelayed x other entry index destination).1 ≠ .error .io) :
    ((fetchRelayed x other entry index destination).1 = .ok () ↔
      checkRelayed x entry bytes = .ok ()) ∧
    ((fetchRelayed x other entry index destination).1 = .ok () →
      (fetchRelayed x other entry index destination).2.disk destination.locate =
        some (.file bytes)) := by
  unfold fetchRelayed at fine ⊢
  simp only [delivered] at fine ⊢
  cases checked : checkRelayed x entry bytes with
  | error message => exact ⟨iff_of_false nofun nofun, nofun⟩
  | ok verified =>
      simp only [checked] at fine ⊢
      generalize createParent x other index destination = result at fine ⊢
      obtain ⟨made, after⟩ := result
      cases made with
      | false => exact absurd rfl fine
      | true =>
          have written : (after.write x.fault (some index) destination bytes).1 = true → _ :=
            write_done
          simp only at fine ⊢
          generalize after.write x.fault (some index) destination bytes = result
            at fine written ⊢
          obtain ⟨wrote, last⟩ := result
          cases wrote with
          | false => exact absurd rfl fine
          | true => exact ⟨iff_of_true rfl trivial, fun _ => (written rfl).1⟩

/-- So does the direct route. -/
theorem fetchDirect_accepts {chunks : List (List UInt8)}
    (answered : x.responses index = some ⟨chunks, true⟩)
    (fine : (fetchDirect x machine entry index destination).1 ≠ .error .io) :
    ((fetchDirect x machine entry index destination).1 = .ok () ↔
      checkDownloaded x entry chunks.flatten = .ok ()) ∧
    ((fetchDirect x machine entry index destination).1 = .ok () →
      (fetchDirect x machine entry index destination).2.disk destination.locate =
        some (.file chunks.flatten)) := by
  have whole : fetchDirect x machine entry index destination =
      downloaded x machine index ⟨chunks, true⟩ entry destination := by
    unfold fetchDirect
    rw [answered]
    rfl
  rw [whole] at fine ⊢
  have ending : DownloadEnd x machine index ⟨chunks, true⟩ entry destination := downloadEnd
  by_cases can : CanOpen x machine index destination
  · obtain ⟨made, -, -, -, disk⟩ := openedTemporary_spec can
    have content : (openedTemporary x machine index destination).disk
        (temporaryPath destination).locate = some (.file []) := by rw [disk, Disk.set_self]
    have outcome : (downloaded x machine index ⟨chunks, true⟩ entry destination).1 =
        (transferred x machine index ⟨chunks, true⟩ entry destination).1 := by
      rw [downloaded_open ⟨chunks, true⟩ entry can]
      generalize transferred x machine index ⟨chunks, true⟩ entry destination = result
      obtain ⟨verdict, after⟩ := result
      cases verdict with
      | error failure => rfl
      | ok done => rfl
    rw [outcome] at fine ⊢
    refine ⟨transferFile_verdict content rfl fine, fun done => ?_⟩
    cases ending with
    | closed cannot => exact absurd can cannot
    | complete made same can completes done disk => rw [disk, Disk.set_self]
    | removed made same can free fails works failed disk => exact absurd (outcome.trans done) failed
    | left can written fails fault failed content => exact absurd (outcome.trans done) failed
  · exact absurd (downloaded_closed ⟨chunks, true⟩ entry can).1 fine

end Routes

/-- **The two routes accept the same contents, but for the letter case of a digest** (and a
count that saturates). -/
theorem routesAgree_iff {x : Surroundings} {machine other : Receiver} {index : Nat}
    {entry : FileEntry} {clipDir : LexPath String} {chunks : List (List UInt8)}
    (size : entry.size ≤ u64Max) (answered : x.responses index = some ⟨chunks, true⟩)
    (delivered : x.relayed index = some chunks.flatten)
    (fine : NoFileSystemError x machine other index entry (destination clipDir entry)) :
    RoutesAgree x machine other index entry (destination clipDir entry) ↔
      ¬ ToldApart x entry chunks.flatten := by
  obtain ⟨direct, placed⟩ := fetchDirect_accepts answered fine.direct
  obtain ⟨relayed, placedToo⟩ := fetchRelayed_accepts delivered fine.relayed
  rw [← verdicts_iff size, ← direct, ← relayed]
  exact ⟨fun agree => agree.accept,
    fun accept => ⟨accept, fun first second => ⟨_, placed first, placedToo second⟩⟩⟩

/-! ## One byte, by either route -/

namespace OneByte

/-- The SHA-256 digest of the byte 97. -/
def digest : List UInt8 :=
  [202, 151, 129, 18, 202, 27, 189, 202, 250, 194, 49, 179, 154, 35, 220, 77, 167, 134, 239, 248,
   20, 124, 78, 114, 185, 128, 119, 133, 175, 238, 72, 187]

/-- That byte arrives by both routes, and nothing fails. -/
def surroundings : Surroundings where
  sha256 := fun bytes => if bytes = [97] then digest else []
  displayTime := fun _ => ""
  fault := fun _ => none
  now := 0
  discovered := some "192.168.1.5:8788"
  responses := fun _ => some ⟨[[97]], true⟩
  session := true
  relayed := fun _ => some [97]
  setsClipboard := true

def clipDir : LexPath String := LexPath.parse "/home/u/cache/tt_1"

/-- The notes, with this digest in the manifest. -/
def notes (sha256 : String) : FileEntry := ⟨"notes.txt", "notes.txt", 1, none, some sha256, .file⟩

def lower : String := "ca978112ca1bbdcafac231b39a23dc4da786eff8147c4e72b9807785afee48bb"

def upper : String := "CA978112CA1BBDCAFAC231B39A23DC4DA786EFF8147C4E72B9807785AFEE48BB"

/-- Nothing on the disk. -/
def blank : Receiver := ⟨Disk.empty, [], 0⟩

/-- The cache holds a file `notes.airpaste-download`. -/
def beside : Receiver :=
  ⟨Disk.empty.set (clipDir.child "notes.airpaste-download").locate (some (.file [98])), [], 0⟩

/-- Refuting pole: the download of the notes takes the file beside them away. -/
theorem beside_lost : ¬ ∀ (x : Surroundings) (machine : Receiver) (index : Nat)
    (response : Response) (entry : FileEntry) (destination : LexPath String),
    AllOrNothing x machine index response entry destination := by
  intro always
  have can : CanOpen surroundings beside 0 (clipDir.child "notes.txt") := by
    unfold CanOpen
    decide +kernel
  have own := (unspoiled_of_allOrNothing can
    (always surroundings beside 0 ⟨[[97]], true⟩ (notes lower) (clipDir.child "notes.txt"))).apart
      [98] (by decide +kernel)
  exact absurd own.1 (by decide +kernel)

/-- Satisfiable pole: with the digest in lower case both routes accept the byte. -/
theorem lower_agrees : RoutesAgree surroundings blank blank 0 (notes lower)
    (destination clipDir (notes lower)) := by
  have answered : surroundings.responses 0 = some ⟨[[97]], true⟩ := rfl
  refine (routesAgree_iff (by decide) answered rfl
    ⟨by decide +kernel, by decide +kernel⟩).mpr fun told => ?_
  rcases told.apart with differs | longer
  · refine differs fun expected listed => ?_
    cases listed
    decide +kernel
  · exact absurd longer (by decide)

/-- Refuting pole: with the digest in upper case the relay rejects what the direct route
accepts. -/
theorem upper_disputed : ¬ ∀ {x : Surroundings} {machine other : Receiver} {index : Nat}
    {entry : FileEntry} {clipDir : LexPath String} {chunks : List (List UInt8)},
    entry.size ≤ u64Max → x.responses index = some ⟨chunks, true⟩ →
      x.relayed index = some chunks.flatten →
      NoFileSystemError x machine other index entry (destination clipDir entry) →
      RoutesAgree x machine other index entry (destination clipDir entry) := by
  intro always
  have accepted : (fetchDirect surroundings blank (notes upper) 0
      (destination clipDir (notes upper))).1 = .ok () := by decide +kernel
  have rejected : (fetchRelayed surroundings blank (notes upper) 0
      (destination clipDir (notes upper))).1 ≠ .ok () := by decide +kernel
  have agree : RoutesAgree surroundings blank blank 0 (notes upper)
      (destination clipDir (notes upper)) := by
    have answered : surroundings.responses 0 = some ⟨[[97]], true⟩ := rfl
    refine always (by decide) answered rfl ⟨?_, by decide +kernel⟩
    rw [accepted]
    exact nofun
  exact rejected (agree.accept.mp accepted)

end OneByte

end AirPaste.Agent
