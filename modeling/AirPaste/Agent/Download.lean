/-
# Agent.Download — applying a file clip

`apply_file_clip` validates a manifest, downloads its regular files from the source
peer, and falls back to the encrypted relay for those that were not delivered.  Both
routes write under the clip's directory in the cache, which is named after the
transfer token.  `Surroundings` holds what they ask of the outside: the answers of the
peer and the relay by file index, and which system calls fail.  Every effect on the
disk is traced under the index it is made for.
-/
import AirPaste.Agent.CachePath
import AirPaste.Core.Model
import AirPaste.Theory.Check

namespace AirPaste.Agent

open AirPaste.Core
open AirPaste.Theory
open AirPaste.Theory.Machine

set_option autoImplicit false

def u64Max : Nat := 2 ^ 64 - 1

def i64Max : Nat := 2 ^ 63 - 1

structure FileTransferPolicy where
  maxFileCount : Nat
  maxTotalFileBytes : Nat
  maxSingleFileBytes : Nat
  transferTokenTtl : Int
  transferTokenTtlSecs : Nat

structure PendingFileClip where
  clipId : ClipId
  sourceDeviceId : DeviceId
  fileClip : FileClip

/-- Why a step of a transfer failed. -/
inductive Failure where
  | io
  | network
  | text (message : String)
  | context (message : String) (cause : Failure)
  deriving DecidableEq

/-- The body of a response: the chunks that arrive, and whether it then ends or breaks. -/
structure Response where
  chunks : List (List UInt8)
  ends : Bool

/-- What a receiver asks of the outside. -/
structure Surroundings where
  sha256 : List UInt8 → List UInt8
  /-- `Display` of a timestamp. -/
  displayTime : Timestamp → String
  fault : Nat → Option Nat
  now : Timestamp
  /-- `PeerDirectory::resolve` of the source device. -/
  discovered : Option String
  /-- `open_peer_file_download` of an index. -/
  responses : Nat → Option Response
  /-- The relay session is created and connected to. -/
  session : Bool
  /-- The file relayed for an index, received and decrypted. -/
  relayed : Nat → Option (List UInt8)
  setsClipboard : Bool

/-- The index an effect is made for; none for the directory of the clip. -/
abbrev Receiver := Machine (Option Nat)

structure Receiving where
  machine : Receiver
  downloaded : Nat → Option (LexPath String)

def hexLower (bytes : List UInt8) : String :=
  String.ofList
    (bytes.flatMap fun b => [Nat.digitChar (b.toNat / 16), Nat.digitChar (b.toNat % 16)])

def eqIgnoreAsciiCase (a b : String) : Bool :=
  a.toList.map Char.toLower == b.toList.map Char.toLower

def validateFileClip (x : Surroundings) (fileClip : FileClip) (filePolicy : FileTransferPolicy) :
    Except String Unit := do
  ensure (fileClip.files.length ≤ filePolicy.maxFileCount)
    s!"remote file clip contains {fileClip.files.length} items, above configured limit {filePolicy.maxFileCount}"
  ensure (fileClip.totalSize ≤ filePolicy.maxTotalFileBytes)
    s!"remote file clip is {fileClip.totalSize} bytes, above configured limit {filePolicy.maxTotalFileBytes}"
  for entry in fileClip.files do
    ensure (!(entry.kind == .file && filePolicy.maxSingleFileBytes < entry.size))
      s!"remote file {entry.relativePath} is {entry.size} bytes, above configured single-file limit {filePolicy.maxSingleFileBytes}"
  match fileClip.transferExpiresAt with
  | none => return ()
  | some expiresAt =>
      ensure (!(expiresAt < x.now))
        s!"remote file clip transfer token expired at {x.displayTime expiresAt}"

/-- `missing_file_indexes`, each with its entry. -/
def missingFiles (fileClip : FileClip) (downloaded : Nat → Option (LexPath String)) :
    List (FileEntry × Nat) :=
  fileClip.files.zipIdx.filter fun (entry, index) =>
    entry.kind == .file && (downloaded index).isNone

def resolvePeerBaseUrl (x : Surroundings) (pending : PendingFileClip) : Except Failure String :=
  match x.discovered with
  | some addr => .ok ("http://" ++ addr)
  | none =>
      match pending.fileClip.sourcePeerUrl with
      | some url => .ok (String.ofList (Text.dropEnd (· == '/') url.toList))
      | none => .error (.text s!"source peer {pending.sourceDeviceId.asStr} was not found via mDNS and the manifest has no source_peer_url")

/-! ## The direct route -/

/-- Write the chunks of a response to the temporary file; the bytes written, if all are. -/
def receiveChunks (x : Surroundings) (index : Nat) (temporary : LexPath String) :
    List (List UInt8) → List UInt8 → Receiver → Option (List UInt8) × Receiver
  | [], got, machine => (some got, machine)
  | chunk :: rest, got, machine =>
      match machine.writeAll x.fault (some index) temporary chunk with
      | (true, machine) => receiveChunks x index temporary rest (got ++ chunk) machine
      | (false, machine) => (none, machine)

/-- The checks of a direct download on the bytes received. -/
def checkDownloaded (x : Surroundings) (entry : FileEntry) (bytes : List UInt8) :
    Except String Unit := do
  let downloadedSize := min bytes.length u64Max
  ensure (downloadedSize == entry.size)
    s!"remote file size mismatch for {entry.relativePath}: manifest declared {entry.size} bytes, downloaded {downloadedSize} bytes"
  match entry.sha256 with
  | none => return ()
  | some expectedSha256 =>
      let actualSha256 := hexLower (x.sha256 bytes)
      ensure (eqIgnoreAsciiCase expectedSha256 actualSha256)
        s!"remote file SHA-256 mismatch for {entry.relativePath}: manifest declared {expectedSha256}, downloaded {actualSha256}"

/-- What `download_peer_file_to_cache` does between creating the temporary file and
removing it again on an error. -/
def transferFile (x : Surroundings) (machine : Receiver) (index : Nat) (response : Response)
    (entry : FileEntry) (temporary destination : LexPath String) :
    Except Failure Unit × Receiver :=
  match receiveChunks x index temporary response.chunks [] machine with
  | (none, machine) => (.error .io, machine)
  | (some bytes, machine) =>
      if !response.ends then (.error .network, machine)
      else
        match machine.flush x.fault with
        | (false, machine) => (.error .io, machine)
        | (true, machine) =>
            match checkDownloaded x entry bytes with
            | .error message => (.error (.text message), machine)
            | .ok () =>
                match machine.rename x.fault (some index) temporary destination with
                | (false, machine) => (.error .io, machine)
                | (true, machine) => (.ok (), machine)

/-- Create the directories a destination lies in. -/
def createParent (x : Surroundings) (machine : Receiver) (index : Nat)
    (destination : LexPath String) : Bool × Receiver :=
  match destination.parent with
  | none => (true, machine)
  | some parent => machine.createDirAll x.fault (some index) parent

def downloadPeerFileToCache (x : Surroundings) (machine : Receiver) (index : Nat)
    (response : Response) (entry : FileEntry) (destination : LexPath String) :
    Except Failure Unit × Receiver :=
  match createParent x machine index destination with
  | (false, machine) => (.error .io, machine)
  | (true, machine) =>
      let temporary := destination.withExtension "airpaste-download"
      match machine.createFile x.fault (some index) temporary with
      | (false, machine) => (.error .io, machine)
      | (true, machine) =>
          match transferFile x machine index response entry temporary destination with
          | (.ok (), machine) => (.ok (), machine)
          | (.error failure, machine) =>
              (.error failure, (machine.removeFile x.fault (some index) temporary).2)

/-- The loop over the missing files: fetch each to its destination and record it there. -/
def receiveEach
    (fetch : Receiver → FileEntry → Nat → LexPath String → Except Failure Unit × Receiver)
    (clipCacheDir : LexPath String) :
    List (FileEntry × Nat) → Receiving → Except Failure Unit × Receiving
  | [], receiving => (.ok (), receiving)
  | (entry, index) :: rest, receiving =>
      let destination := safeCachePath clipCacheDir entry.relativePath entry.displayName
      match fetch receiving.machine entry index destination with
      | (.error failure, machine) => (.error failure, { receiving with machine := machine })
      | (.ok (), machine) =>
          receiveEach fetch clipCacheDir rest
            ⟨machine, Function.update receiving.downloaded index (some destination)⟩

/-- Create the directory of the clip, then fetch the missing files into it. -/
def receiveMissing (x : Surroundings)
    (fetch : Receiver → FileEntry → Nat → LexPath String → Except Failure Unit × Receiver)
    (clipCacheDir : LexPath String) (missing : List (FileEntry × Nat)) (receiving : Receiving) :
    Except Failure Unit × Receiving :=
  match receiving.machine.createDirAll x.fault none clipCacheDir with
  | (false, machine) => (.error .io, { receiving with machine := machine })
  | (true, machine) => receiveEach fetch clipCacheDir missing { receiving with machine := machine }

/-- The body of the loop of `download_remote_files`. -/
def fetchDirect (x : Surroundings) (machine : Receiver) (entry : FileEntry) (index : Nat)
    (destination : LexPath String) : Except Failure Unit × Receiver :=
  match x.responses index with
  | none => (.error .network, machine)
  | some response => downloadPeerFileToCache x machine index response entry destination

/-- `cache_dir.join(transfer_token)`. -/
def clipCacheDir (cacheDir : LexPath String) (fileClip : FileClip) : LexPath String :=
  cacheDir.push fileClip.transferToken.asStr

def downloadRemoteFiles (x : Surroundings) (cacheDir : LexPath String)
    (pending : PendingFileClip) (receiving : Receiving) : Except Failure Unit × Receiving :=
  match resolvePeerBaseUrl x pending with
  | .error failure => (.error failure, receiving)
  | .ok _ =>
      receiveMissing x (fetchDirect x) (clipCacheDir cacheDir pending.fileClip)
        (missingFiles pending.fileClip receiving.downloaded) receiving

/-! ## The relay -/

/-- The checks of a relay download on the bytes received. -/
def checkRelayed (x : Surroundings) (entry : FileEntry) (plaintext : List UInt8) :
    Except String Unit := do
  ensure (plaintext.length == entry.size)
    s!"relayed file {entry.relativePath} size mismatch: got {plaintext.length}, expected {entry.size}"
  match entry.sha256 with
  | none => return ()
  | some expected =>
      ensure (hexLower (x.sha256 plaintext) == expected)
        s!"relayed file {entry.relativePath} failed sha256 verification"

/-- The body of the loop of `download_via_relay`. -/
def fetchRelayed (x : Surroundings) (machine : Receiver) (entry : FileEntry) (index : Nat)
    (destination : LexPath String) : Except Failure Unit × Receiver :=
  match x.relayed index with
  | none => (.error .network, machine)
  | some plaintext =>
      match checkRelayed x entry plaintext with
      | .error message => (.error (.text message), machine)
      | .ok () =>
          match createParent x machine index destination with
          | (false, machine) => (.error .io, machine)
          | (true, machine) =>
              match machine.write x.fault (some index) destination plaintext with
              | (false, machine) => (.error .io, machine)
              | (true, machine) => (.ok (), machine)

def downloadViaRelay (x : Surroundings) (cacheDir : LexPath String) (fileClip : FileClip)
    (receiving : Receiving) : Except Failure Unit × Receiving :=
  let missing := missingFiles fileClip receiving.downloaded
  if missing.isEmpty then (.ok (), receiving)
  else if !x.session then (.error .network, receiving)
  else receiveMissing x (fetchRelayed x) (clipCacheDir cacheDir fileClip) missing receiving

/-! ## The whole clip -/

/-- The files of a clip through the relay only, or directly with the relay as fallback. -/
def downloadFiles (x : Surroundings) (preferRelay : Bool) (cacheDir : LexPath String)
    (pending : PendingFileClip) (receiving : Receiving) : Except Failure Unit × Receiving :=
  if preferRelay then downloadViaRelay x cacheDir pending.fileClip receiving
  else
    match downloadRemoteFiles x cacheDir pending receiving with
    | (.ok (), receiving) => (.ok (), receiving)
    | (.error _, receiving) =>
        match downloadViaRelay x cacheDir pending.fileClip receiving with
        | (.ok (), receiving) => (.ok (), receiving)
        | (.error failure, receiving) =>
            (.error (.context "relay fallback after direct download failure also failed" failure),
              receiving)

def applyFileClip (x : Surroundings) (filePolicy : FileTransferPolicy) (preferRelay : Bool)
    (cacheDir : LexPath String) (pending : PendingFileClip) (machine : Receiver) :
    Except Failure (List (LexPath String)) × Receiving :=
  let receiving : Receiving := ⟨machine, fun _ => none⟩
  match validateFileClip x pending.fileClip filePolicy with
  | .error message => (.error (.text message), receiving)
  | .ok () =>
      match downloadFiles x preferRelay cacheDir pending receiving with
      | (.error failure, receiving) => (.error failure, receiving)
      | (.ok (), receiving) =>
          let downloadedFiles := pending.fileClip.files.zipIdx.filterMap fun (_, index) =>
            receiving.downloaded index
          if downloadedFiles.isEmpty then
            (.error (.text "remote file clip did not contain downloadable files"), receiving)
          else if !x.setsClipboard then (.error .io, receiving)
          else (.ok downloadedFiles, receiving)

/-! ## The effects of one entry -/

section Effects

variable {x : Surroundings} {machine : Receiver} {index : Nat}
  {P : Option Nat → FileEffect → Prop}

theorem createDirAll_extends {tag : Option Nat} {path : LexPath String}
    (makes : ∀ place ∈ clearWay machine.disk path.way, machine.disk place = none →
      P tag (.madeDir place)) :
    Extends P machine (machine.createDirAll x.fault tag path).2 := by
  unfold createDirAll
  split
  · exact Extends.refl machine
  · exact ensureDirs_extends makes

theorem receiveChunks_extends {temporary : LexPath String}
    (writes : P (some index) (.wrote temporary.locate)) (chunks : List (List UInt8))
    (got : List UInt8) (machine : Receiver) :
    Extends P machine (receiveChunks x index temporary chunks got machine).2 := by
  induction chunks generalizing got machine with
  | nil => exact Extends.refl machine
  | cons chunk rest ih =>
      have wrote := writeAll_extends x.fault machine chunk writes
      unfold receiveChunks
      generalize machine.writeAll x.fault (some index) temporary chunk = result at wrote ⊢
      obtain ⟨done, after⟩ := result
      cases done with
      | false => exact wrote
      | true => exact wrote.trans (ih _ after)

theorem transferFile_extends (x : Surroundings) (machine : Receiver) (response : Response)
    (entry : FileEntry) {temporary destination : LexPath String}
    (writes : P (some index) (.wrote temporary.locate))
    (renames : P (some index) (.renamed temporary.locate destination.locate)) :
    Extends P machine
      (transferFile x machine index response entry temporary destination).2 := by
  have received := receiveChunks_extends (x := x) writes response.chunks [] machine
  unfold transferFile
  generalize receiveChunks x index temporary response.chunks [] machine = result at received ⊢
  obtain ⟨bytes, after⟩ := result
  cases bytes with
  | none => exact received
  | some bytes =>
      simp only
      split
      · exact received
      · have flushed := received.trans (flush_extends x.fault after)
        generalize after.flush x.fault = result at flushed ⊢
        obtain ⟨done, afterFlush⟩ := result
        cases done with
        | false => exact flushed
        | true =>
            simp only
            split
            · exact flushed
            · have renamed := flushed.trans (rename_extends x.fault afterFlush renames)
              generalize afterFlush.rename x.fault (some index) temporary destination = result
                at renamed ⊢
              obtain ⟨done, last⟩ := result
              cases done with
              | false => exact renamed
              | true => exact renamed

/-- **What a direct download of one entry does**: it makes directories on the way to its
destination, works on its temporary file, and renames that to the destination. -/
theorem downloadPeerFileToCache_extends {response : Response} {entry : FileEntry}
    {parent : LexPath String} {file : String}
    (makes : ∀ place ∈ clearWay machine.disk parent.way, machine.disk place = none →
      P (some index) (.madeDir place))
    (creates : P (some index)
      (.created ((parent.child file).withExtension "airpaste-download").locate))
    (writes : P (some index)
      (.wrote ((parent.child file).withExtension "airpaste-download").locate))
    (renames : P (some index)
      (.renamed ((parent.child file).withExtension "airpaste-download").locate
        (parent.child file).locate))
    (removes : P (some index)
      (.removed ((parent.child file).withExtension "airpaste-download").locate)) :
    Extends P machine
      (downloadPeerFileToCache x machine index response entry (parent.child file)).2 := by
  have made := createDirAll_extends (x := x) makes
  simp only [downloadPeerFileToCache, createParent]
  rw [LexPath.parent_child]
  simp only
  generalize machine.createDirAll x.fault (some index) parent = result at made ⊢
  obtain ⟨done, after⟩ := result
  cases done with
  | false => exact made
  | true =>
      have created := made.trans (createFile_extends x.fault after creates)
      simp only
      generalize after.createFile x.fault (some index)
        ((parent.child file).withExtension "airpaste-download") = result at created ⊢
      obtain ⟨done, afterCreate⟩ := result
      cases done with
      | false => exact created
      | true =>
          have transferred := created.trans
            (transferFile_extends x afterCreate response entry writes renames)
          simp only
          generalize transferFile x afterCreate index response entry
            ((parent.child file).withExtension "airpaste-download") (parent.child file) = result
            at transferred ⊢
          obtain ⟨outcome, afterTransfer⟩ := result
          cases outcome with
          | ok done => exact transferred
          | error failure =>
              exact transferred.trans
                (removeFile_extends x.fault afterTransfer removes)

/-- **What a relayed download of one entry does**: it makes directories on the way to
its destination, and creates and writes that. -/
theorem fetchRelayed_extends {entry : FileEntry} {parent : LexPath String} {file : String}
    (makes : ∀ place ∈ clearWay machine.disk parent.way, machine.disk place = none →
      P (some index) (.madeDir place))
    (creates : P (some index) (.created (parent.child file).locate))
    (writes : P (some index) (.wrote (parent.child file).locate)) :
    Extends P machine (fetchRelayed x machine entry index (parent.child file)).2 := by
  have made := createDirAll_extends (x := x) makes
  simp only [fetchRelayed, createParent]
  rw [LexPath.parent_child]
  cases x.relayed index with
  | none => exact Extends.refl machine
  | some plaintext =>
      simp only
      split
      · exact Extends.refl machine
      · generalize machine.createDirAll x.fault (some index) parent = result at made ⊢
        obtain ⟨done, after⟩ := result
        cases done with
        | false => exact made
        | true =>
            have wrote := made.trans (write_extends x.fault after plaintext creates writes)
            simp only
            generalize after.write x.fault (some index) (parent.child file) plaintext = result
              at wrote ⊢
            obtain ⟨done, last⟩ := result
            cases done with
            | false => exact wrote
            | true => exact wrote

end Effects

/-! ## The effects of a loop -/

section Loop

variable {P : Option Nat → FileEffect → Prop} {clipCacheDir : LexPath String}
  {fetch : Receiver → FileEntry → Nat → LexPath String → Except Failure Unit × Receiver}

/-- A loop does what its fetches do, when these keep what they rely on. -/
theorem receiveEach_extends (relied : Disk → Prop) {missing : List (FileEntry × Nat)}
    (keeps : ∀ before after : Receiver, relied before.disk → Extends P before after →
      relied after.disk)
    (fetches : ∀ (machine : Receiver) (next : FileEntry × Nat), next ∈ missing →
      relied machine.disk → Extends P machine (fetch machine next.1 next.2
        (safeCachePath clipCacheDir next.1.relativePath next.1.displayName)).2)
    (receiving : Receiving) (holds : relied receiving.machine.disk) :
    Extends P receiving.machine (receiveEach fetch clipCacheDir missing receiving).2.machine := by
  induction missing generalizing receiving with
  | nil => exact Extends.refl _
  | cons next rest ih =>
      obtain ⟨entry, index⟩ := next
      have first := fetches receiving.machine (entry, index) List.mem_cons_self holds
      simp only [receiveEach]
      simp only at first ⊢
      generalize fetch receiving.machine entry index
        (safeCachePath clipCacheDir entry.relativePath entry.displayName) = result at first ⊢
      obtain ⟨outcome, after⟩ := result
      cases outcome with
      | error failure => exact first
      | ok done =>
          refine Extends.trans first (ih (fun machine next member => ?_) ⟨after, _⟩ ?_)
          · exact fetches machine next (List.mem_cons_of_mem _ member)
          · exact keeps receiving.machine after holds first

/-- A loop over two lists is a loop over the first, and when that succeeds one over the
second. -/
theorem receiveEach_append (before after : List (FileEntry × Nat)) (receiving : Receiving) :
    receiveEach fetch clipCacheDir (before ++ after) receiving =
      match receiveEach fetch clipCacheDir before receiving with
      | (.error failure, between) => (.error failure, between)
      | (.ok (), between) => receiveEach fetch clipCacheDir after between := by
  induction before generalizing receiving with
  | nil => rfl
  | cons next rest ih =>
      obtain ⟨entry, index⟩ := next
      simp only [List.cons_append, receiveEach]
      generalize fetch receiving.machine entry index
        (safeCachePath clipCacheDir entry.relativePath entry.displayName) = result
      obtain ⟨outcome, machine⟩ := result
      cases outcome with
      | error failure => rfl
      | ok done => exact ih _

end Loop

end AirPaste.Agent
