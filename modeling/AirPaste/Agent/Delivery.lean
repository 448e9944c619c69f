/-
# Agent.Delivery — no file of a clip is lost

A receiver applies a manifest against an honest source.  `allDelivered_iff` says exactly
when every file of the selection then stands complete at its own destination, and none
was touched again on behalf of another: when the destinations of the collected relative
paths are pairwise different, and the direct route comes to open no temporary file that is
the destination of an earlier file.
-/
import AirPaste.Agent.Publish
import AirPaste.Agent.Receive

namespace AirPaste.Agent

open AirPaste.Core
open AirPaste.Theory

set_option autoImplicit false

/-! ## A whole clip -/

section Clip

variable {x : Surroundings} {fileClip : FileClip} {clipDir cacheDir : LexPath String}
  {bytesOf : Nat → Option (List UInt8)} {receiving : Receiving}

theorem inLoop_start (fileClip : FileClip) (clipDir : LexPath String) (disk : Disk) (calls : Nat) :
    InLoop fileClip clipDir (missingFiles fileClip fun _ => none)
      ⟨⟨disk, [], calls⟩, fun _ => none⟩ where
  recorded := ⟨nofun, fun _ _ _ _ split => absurd split.symm (by simp)⟩
  remaining := missingFiles_remaining fileClip fun _ => none
  behind := fun _ member => absurd member List.not_mem_nil

theorem intact_start (fileClip : FileClip) (clipDir : LexPath String) (disk : Disk) (calls : Nat) :
    Intact fileClip clipDir bytesOf ⟨⟨disk, [], calls⟩, fun _ => none⟩ where
  content := nofun
  undisturbed := List.Pairwise.nil

/-- A clip that is applied has been downloaded. -/
theorem applyFileClip_ok {filePolicy : FileTransferPolicy} {preferRelay : Bool}
    {pending : PendingFileClip} {machine : Receiver} {files : List (LexPath String)}
    (applied : (applyFileClip x filePolicy preferRelay cacheDir pending machine).1 = .ok files) :
    downloadFiles x preferRelay cacheDir pending ⟨machine, fun _ => none⟩ =
      (.ok (), (applyFileClip x filePolicy preferRelay cacheDir pending machine).2) := by
  unfold applyFileClip at applied ⊢
  generalize validateFileClip x pending.fileClip filePolicy = valid at applied ⊢
  cases valid with
  | error message => cases applied
  | ok valid =>
      simp only at applied ⊢
      generalize downloadFiles x preferRelay cacheDir pending ⟨machine, fun _ => none⟩ = result
        at applied ⊢
      obtain ⟨outcome, receiving⟩ := result
      cases outcome with
      | error failure => cases applied
      | ok done =>
          simp only at applied ⊢
          split
          · rfl
          · split
            · rfl
            · rfl

/-- When nothing is left, every file is recorded at its destination. -/
theorem recorded_of_done (state : InLoop fileClip clipDir [] receiving) {index : Nat}
    {entry : FileEntry} (file : IsFile fileClip index entry) :
    receiving.downloaded index = some (destination clipDir entry) := by
  rcases state.remaining.complete index entry file with recorded | waiting
  · obtain ⟨path, found⟩ := Option.ne_none_iff_exists'.mp recorded
    obtain ⟨other, also, rfl, -⟩ := state.recorded.recorded index path found
    cases Option.some.inj (file.1.symm.trans also.1)
    exact found
  · exact absurd waiting List.not_mem_nil

/-- An opened temporary file that is not disturbing is no earlier destination. -/
theorem temporariesApart_of_undisturbed (state : InLoop fileClip clipDir [] receiving)
    (undisturbed : receiving.machine.trace.Pairwise (Undisturbed fileClip clipDir)) :
    TemporariesApart fileClip clipDir receiving.machine.trace := by
  intro i j first second less file listed opened same
  obtain ⟨before, after, split⟩ := List.append_of_mem opened
  obtain ⟨act, member, tagged, touches⟩ :=
    state.recorded.ordered before j _ after split i first less file
  rw [split, List.pairwise_append] at undisturbed
  have apart := undisturbed.2.2 act member _ List.mem_cons_self i first file tagged
    (fun other => absurd (Option.some.inj other) (Nat.ne_of_gt less)) touches
  exact apart (List.mem_singleton.mpr same.symm)

end Clip

/-! ## From a selection to its delivery -/

section Selection

variable {N : Type}

/-- The path a registry serves for an index of a token. -/
def servedPath (registry : PeerFileRegistry (LexPath N)) (token : String) (index : Nat) :
    Option (LexPath N) :=
  (registry token).bind fun grant => grant.paths[index]?

/-- The source answers an index with the file it serves for it, whenever it answers
completely. -/
structure HonestSource (source : SourceFiles N) (registry : PeerFileRegistry (LexPath N))
    (token : String) (x : Surroundings) : Prop where
  direct : ∀ index response, x.responses index = some response → response.ends = true →
    ∃ path, servedPath registry token index = some path ∧
      source.contents path = some response.chunks.flatten
  relayed : ∀ index bytes, x.relayed index = some bytes →
    ∃ path, servedPath registry token index = some path ∧ source.contents path = some bytes

/-- Every file of the selection stands complete at the destination recorded for it; the
destinations differ, and none was touched for another file once it had been used. -/
structure AllDelivered (source : SourceFiles N) (collected : List (Collected N))
    (receiving : Receiving) : Prop where
  complete : ∀ index relativePath sourcePath,
    collected[index]? = some (relativePath, sourcePath) →
      ∃ path bytes, receiving.downloaded index = some path ∧
        source.contents sourcePath = some bytes ∧
        receiving.machine.disk path.locate = some (.file bytes)
  distinct : ∀ i j first second, i ≠ j → receiving.downloaded i = some first →
    receiving.downloaded j = some second → first.locate ≠ second.locate
  undisturbed : receiving.machine.trace.Pairwise fun earlier later =>
    ∀ index path, receiving.downloaded index = some path → earlier.1 = some index →
      later.1 ≠ some index → path.locate ∈ earlier.2.files → path.locate ∉ later.2.files

/-- Where a collected relative path goes. -/
def cachePathOf (clipDir : LexPath String) (relativePath : String) : LexPath String :=
  safeCachePath clipDir relativePath (displayName relativePath)

/-- The destinations of the collected relative paths are pairwise different, and the
direct route comes to open no temporary file that is the destination of an earlier file. -/
structure NoCollision (x : Surroundings) (preferRelay : Bool) (cacheDir : LexPath String)
    (pending : PendingFileClip) (machine : Receiver) (collected : List (Collected N)) : Prop where
  destinations : ∀ (i j : Nat) (first second : Collected N), i ≠ j → collected[i]? = some first →
    collected[j]? = some second →
      (cachePathOf (clipCacheDir cacheDir pending.fileClip) first.1).locate ≠
        (cachePathOf (clipCacheDir cacheDir pending.fileClip) second.1).locate
  temporaries : ∀ (i j : Nat) (first second : Collected N), i < j → collected[i]? = some first →
    collected[j]? = some second →
      OpensTemporary x preferRelay cacheDir pending machine j
        (cachePathOf (clipCacheDir cacheDir pending.fileClip) second.1) →
      ((cachePathOf (clipCacheDir cacheDir pending.fileClip) second.1).withExtension
          "airpaste-download").locate ≠
        (cachePathOf (clipCacheDir cacheDir pending.fileClip) first.1).locate

variable {source : SourceFiles N} {sha256 : List UInt8 → List UInt8}

/-- The manifest lists the collected files in order, each as a regular file. -/
theorem manifestEntries_files {filePolicy : FileTransferPolicy} {collected : List (Collected N)}
    {start total : Nat} {entries : List FileEntry}
    (listed : manifestEntries source sha256 filePolicy collected start = .ok (entries, total)) :
    entries.map (fun entry => (entry.relativePath, entry.displayName, entry.kind)) =
      collected.map fun file => (file.1, displayName file.1, FileEntryKind.file) := by
  induction collected generalizing start total entries with
  | nil =>
      cases listed
      rfl
  | cons file rest ih =>
      obtain ⟨relativePath, sourcePath⟩ := file
      simp only [manifestEntries, bind_ok_iff] at listed
      obtain ⟨_, _, _, _, bytes, _, ⟨later, total'⟩, listedRest, same⟩ := listed
      cases same
      simp only [List.map_cons, ih listedRest]

/-- The manifest of some collected files, as far as their delivery depends on it. -/
def Lists (fileClip : FileClip) (collected : List (Collected N)) : Prop :=
  fileClip.files.map (fun entry => (entry.relativePath, entry.displayName, entry.kind)) =
    collected.map fun file => (file.1, displayName file.1, FileEntryKind.file)

theorem fileManifest_lists {filePolicy : FileTransferPolicy} {url : String}
    {answers : PublishAnswers} {paths servedPaths : List (LexPath N)} {fileClip : FileClip}
    (listed : fileManifest source sha256 filePolicy url answers paths =
      .ok (some (fileClip, servedPaths))) :
    ∃ collected, collectPublishFiles source paths = .ok collected ∧ Lists fileClip collected ∧
      servedPaths = collected.map Prod.snd := by
  unfold fileManifest at listed
  obtain ⟨collected, collects, listed⟩ := bind_ok_iff.mp listed
  refine ⟨collected, collects, ?_⟩
  split at listed
  · cases listed
  · obtain ⟨_, _, listed⟩ := bind_ok_iff.mp listed
    obtain ⟨⟨entries, total⟩, entriesListed, same⟩ := bind_ok_iff.mp listed
    cases same
    exact ⟨manifestEntries_files entriesListed, rfl⟩

/-- What a publication leaves: a manifest of the collected files, and their paths served
under its token. -/
theorem publishFileManifest_published {deviceId : DeviceId}
    {registry : PeerFileRegistry (LexPath N)} {filePolicy : FileTransferPolicy} {url : String}
    {answers : PublishAnswers} {paths : List (LexPath N)} {fileClip : FileClip}
    (published : (publishFileManifest source sha256 deviceId registry filePolicy url answers
      paths).1 = .ok (some fileClip)) :
    ∃ collected, collectPublishFiles source paths = .ok collected ∧ Lists fileClip collected ∧
      ∀ index, servedPath (publishFileManifest source sha256 deviceId registry filePolicy url
        answers paths).2 fileClip.transferToken.asStr index = collected[index]?.map Prod.snd := by
  unfold publishFileManifest at published ⊢
  cases manifest : fileManifest source sha256 filePolicy url answers paths with
  | error message =>
      rw [manifest] at published
      cases published
  | ok result =>
      rw [manifest] at published
      rcases result with _ | ⟨listed, servedPaths⟩
      · cases published
      · obtain ⟨collected, collects, lists, rfl⟩ := fileManifest_lists manifest
        generalize answers.trustedKeys = trusted at published ⊢
        cases trusted with
        | none => cases published
        | some keys =>
            simp only at published ⊢
            generalize answers.createClip listed = created at published ⊢
            cases created with
            | none => cases published
            | some clipId =>
                cases published
                refine ⟨collected, collects, lists, fun index => ?_⟩
                simp only [servedPath, PeerFileRegistry.bindClipId, PeerFileRegistry.modify,
                  PeerFileRegistry.register, Function.update_self, Option.map_some,
                  Option.bind_some, List.getElem?_map]

/-- The files of such a manifest are the files collected. -/
theorem Lists.isFile_iff {fileClip : FileClip} {collected : List (Collected N)}
    (lists : Lists fileClip collected) (index : Nat) :
    (∀ entry, IsFile fileClip index entry → ∃ file, collected[index]? = some file ∧
      ∀ clipDir, destination clipDir entry = cachePathOf clipDir file.1) ∧
    (∀ file, collected[index]? = some file → ∃ entry, IsFile fileClip index entry ∧
      ∀ clipDir, destination clipDir entry = cachePathOf clipDir file.1) := by
  have at' := congrArg (fun list : List (String × String × FileEntryKind) => list[index]?) lists
  simp only [List.getElem?_map] at at'
  constructor
  · intro entry file
    rw [file.1, Option.map_some] at at'
    obtain ⟨found, there, same⟩ := Option.map_eq_some_iff.mp at'.symm
    simp only [Prod.mk.injEq] at same
    refine ⟨found, there, fun clipDir => ?_⟩
    rw [destination, cachePathOf, ← same.1, ← same.2.1]
  · intro found there
    rw [there, Option.map_some] at at'
    obtain ⟨entry, listed, same⟩ := Option.map_eq_some_iff.mp at'
    simp only [Prod.mk.injEq] at same
    refine ⟨entry, ⟨listed, same.2.2⟩, fun clipDir => ?_⟩
    rw [destination, cachePathOf, same.1, same.2.1]

/-- Collisions, in terms of the manifest and of the files a run has opened. -/
theorem noCollision_iff (x : Surroundings) (preferRelay : Bool) (cacheDir : LexPath String)
    (pending : PendingFileClip) (disk : Disk) (calls : Nat) {collected : List (Collected N)}
    (lists : Lists pending.fileClip collected) :
    NoCollision x preferRelay cacheDir pending ⟨disk, [], calls⟩ collected ↔
      DistinctDestinations pending.fileClip (clipCacheDir cacheDir pending.fileClip) ∧
        TemporariesApart pending.fileClip (clipCacheDir cacheDir pending.fileClip)
          (downloadFiles x preferRelay cacheDir pending
            ⟨⟨disk, [], calls⟩, fun _ => none⟩).2.machine.trace := by
  constructor
  · rintro ⟨destinations, temporaries⟩
    have distinct : DistinctDestinations pending.fileClip
        (clipCacheDir cacheDir pending.fileClip) := by
      intro i j first second different atFirst atSecond
      obtain ⟨file, found, same⟩ := (lists.isFile_iff i).1 first atFirst
      obtain ⟨other, there, sameOther⟩ := (lists.isFile_iff j).1 second atSecond
      rw [same, sameOther]
      exact destinations i j file other different found there
    refine ⟨distinct, fun i j first second less atFirst atSecond opened collides => ?_⟩
    obtain ⟨file, found, same⟩ := (lists.isFile_iff i).1 first atFirst
    obtain ⟨other, there, sameOther⟩ := (lists.isFile_iff j).1 second atSecond
    -- a colliding temporary file is not the destination of its own entry
    have different := distinct i j first second (Nat.ne_of_lt less) atFirst atSecond
    rw [← collides] at different
    have opens := (downloadFiles_opened atSecond different).mp opened
    simp only [temporary] at collides
    rw [sameOther] at opens collides
    rw [same] at collides
    exact temporaries i j file other less found there opens collides
  · rintro ⟨distinct, apart⟩
    have destinations : ∀ (i j : Nat) (file other : Collected N), i ≠ j →
        collected[i]? = some file → collected[j]? = some other →
          (cachePathOf (clipCacheDir cacheDir pending.fileClip) file.1).locate ≠
            (cachePathOf (clipCacheDir cacheDir pending.fileClip) other.1).locate := by
      intro i j file other different found there
      obtain ⟨first, atFirst, same⟩ := (lists.isFile_iff i).2 file found
      obtain ⟨second, atSecond, sameOther⟩ := (lists.isFile_iff j).2 other there
      rw [← same, ← sameOther]
      exact distinct i j first second different atFirst atSecond
    refine ⟨destinations, fun i j file other less found there opens collides => ?_⟩
    have different := destinations i j file other (Nat.ne_of_lt less) found there
    obtain ⟨first, atFirst, same⟩ := (lists.isFile_iff i).2 file found
    obtain ⟨second, atSecond, sameOther⟩ := (lists.isFile_iff j).2 other there
    rw [← collides] at different
    rw [← sameOther] at opens collides different
    rw [← same] at collides
    exact apart i j first second less atFirst atSecond
      ((downloadFiles_opened atSecond different).mpr opens) collides

/-- Delivery, in terms of the manifest, once every file is recorded. -/
theorem allDelivered_iff_intact {fileClip : FileClip} {collected : List (Collected N)}
    (lists : Lists fileClip collected) {clipDir : LexPath String} {receiving : Receiving}
    (state : InLoop fileClip clipDir [] receiving) :
    AllDelivered source collected receiving ↔ DistinctDestinations fileClip clipDir ∧
      Intact fileClip clipDir
        (fun index => collected[index]?.bind fun file => source.contents file.2) receiving := by
  constructor
  · intro delivered
    refine ⟨fun i j first second different atFirst atSecond => ?_, ?_, ?_⟩
    · exact delivered.distinct i j _ _ different (recorded_of_done state atFirst)
        (recorded_of_done state atSecond)
    · intro index path recorded
      obtain ⟨entry, listed, -⟩ := state.recorded.recorded index path recorded
      obtain ⟨⟨relativePath, sourcePath⟩, found, -⟩ := (lists.isFile_iff index).1 entry listed
      obtain ⟨also, bytes, same, content, there⟩ :=
        delivered.complete index relativePath sourcePath found
      cases Option.some.inj (recorded.symm.trans same)
      refine ⟨bytes, ?_, there⟩
      rw [found]
      exact content
    · refine delivered.undisturbed.imp fun undisturbed index entry listed => ?_
      exact undisturbed index _ (recorded_of_done state listed)
  · rintro ⟨distinct, intact⟩
    refine ⟨fun index relativePath sourcePath found => ?_, ?_, ?_⟩
    · obtain ⟨entry, listed, -⟩ := (lists.isFile_iff index).2 _ found
      have recorded := recorded_of_done state listed
      obtain ⟨bytes, content, there⟩ := intact.content index _ recorded
      rw [found] at content
      exact ⟨_, bytes, recorded, content, there⟩
    · intro i j first second different atFirst atSecond
      obtain ⟨entry, listed, rfl, -⟩ := state.recorded.recorded i first atFirst
      obtain ⟨other, also, rfl, -⟩ := state.recorded.recorded j second atSecond
      exact distinct i j entry other different listed also
    · refine intact.undisturbed.imp fun undisturbed index path recorded => ?_
      obtain ⟨entry, listed, rfl, -⟩ := state.recorded.recorded index path recorded
      exact undisturbed index entry listed

variable {x : Surroundings} {deviceId : DeviceId} {registry : PeerFileRegistry (LexPath N)}
  {publishPolicy filePolicy : FileTransferPolicy} {url : String} {answers : PublishAnswers}
  {paths : List (LexPath N)} {collected : List (Collected N)} {fileClip : FileClip}
  {clipId : ClipId} {sourceDeviceId : DeviceId} {cacheDir : LexPath String} {disk : Disk}
  {calls : Nat} {files : List (LexPath String)} {preferRelay : Bool}

/-- **When no file of a selection is lost.** -/
theorem allDelivered_iff (collects : collectPublishFiles source paths = .ok collected)
    (published : (publishFileManifest source x.sha256 deviceId registry publishPolicy url answers
      paths).1 = .ok (some fileClip))
    (honest : HonestSource source (publishFileManifest source x.sha256 deviceId registry
      publishPolicy url answers paths).2 fileClip.transferToken.asStr x)
    (applied : (applyFileClip x filePolicy preferRelay cacheDir
      ⟨clipId, sourceDeviceId, fileClip⟩ ⟨disk, [], calls⟩).1 = .ok files) :
    AllDelivered source collected (applyFileClip x filePolicy preferRelay cacheDir
        ⟨clipId, sourceDeviceId, fileClip⟩ ⟨disk, [], calls⟩).2 ↔
      NoCollision x preferRelay cacheDir ⟨clipId, sourceDeviceId, fileClip⟩ ⟨disk, [], calls⟩
        collected := by
  obtain ⟨found, collectsFound, lists, served⟩ := publishFileManifest_published published
  cases Except.ok.inj (collects.symm.trans collectsFound)
  have answers : HonestAnswers (fun index => collected[index]?.bind fun file =>
      source.contents file.2) x := by
    refine ⟨fun index response answered ends => ?_, fun index bytes answered => ?_⟩
    · obtain ⟨path, serves, content⟩ := honest.direct index response answered ends
      rw [served] at serves
      obtain ⟨file, there, rfl⟩ := Option.map_eq_some_iff.mp serves
      rw [there]
      exact content
    · obtain ⟨path, serves, content⟩ := honest.relayed index bytes answered
      rw [served] at serves
      obtain ⟨file, there, rfl⟩ := Option.map_eq_some_iff.mp serves
      rw [there]
      exact content
  have downloaded := applyFileClip_ok applied
  have loop := downloadFiles_done ⟨clipId, sourceDeviceId, fileClip⟩ preferRelay answers
    (inLoop_start fileClip (clipCacheDir cacheDir fileClip) disk calls)
  have noCollision := noCollision_iff x preferRelay cacheDir ⟨clipId, sourceDeviceId, fileClip⟩
    disk calls lists
  rw [downloaded] at loop noCollision
  obtain ⟨⟨left, state, success⟩, -, intact⟩ := loop
  obtain rfl := success rfl
  rw [noCollision]
  clear noCollision
  simp only at state intact ⊢
  generalize (applyFileClip x filePolicy preferRelay cacheDir ⟨clipId, sourceDeviceId, fileClip⟩
    ⟨disk, [], calls⟩).2 = receiving at state intact ⊢
  rw [allDelivered_iff_intact lists state]
  constructor
  · rintro ⟨distinct, whole⟩
    exact ⟨distinct, temporariesApart_of_undisturbed state whole.undisturbed⟩
  · rintro ⟨distinct, apart⟩
    exact ⟨distinct, intact distinct apart (intact_start ..)⟩

/-- No file of a clip is lost, whatever its name. -/
def NoFileLost (N : Type) : Prop :=
  ∀ (source : SourceFiles N) (x : Surroundings) (deviceId : DeviceId)
    (registry : PeerFileRegistry (LexPath N)) (publishPolicy filePolicy : FileTransferPolicy)
    (url : String) (answers : PublishAnswers) (paths : List (LexPath N))
    (collected : List (Collected N)) (fileClip : FileClip) (clipId : ClipId)
    (sourceDeviceId : DeviceId) (cacheDir : LexPath String) (disk : Disk) (calls : Nat)
    (preferRelay : Bool) (files : List (LexPath String)),
    collectPublishFiles source paths = .ok collected →
    (publishFileManifest source x.sha256 deviceId registry publishPolicy url answers paths).1 =
      .ok (some fileClip) →
    HonestSource source (publishFileManifest source x.sha256 deviceId registry publishPolicy url
      answers paths).2 fileClip.transferToken.asStr x →
    (applyFileClip x filePolicy preferRelay cacheDir ⟨clipId, sourceDeviceId, fileClip⟩
      ⟨disk, [], calls⟩).1 = .ok files →
    AllDelivered source collected (applyFileClip x filePolicy preferRelay cacheDir
      ⟨clipId, sourceDeviceId, fileClip⟩ ⟨disk, [], calls⟩).2

end Selection

/-! ## Two files of one name -/

namespace SameName

def firstPath : LexPath String := LexPath.parse "/home/u/a/x.txt"

def secondPath (name : String) : LexPath String := LexPath.parse ("/home/u/b/" ++ name)

/-- The first file holds one letter, every other file another one. -/
def source : SourceFiles String where
  found := fun _ => .file
  size := fun _ => some 1
  contents := fun path => some (if path = firstPath then [97] else [98])
  toStringLossy := id
  display := fun _ => ""
  le := fun a b => a ≤ b

def sha256 (bytes : List UInt8) : List UInt8 :=
  if bytes = [97] then
    [202, 151, 129, 18, 202, 27, 189, 202, 250, 194, 49, 179, 154, 35, 220, 77, 167, 134,
     239, 248, 20, 124, 78, 114, 185, 128, 119, 133, 175, 238, 72, 187]
  else
    [62, 35, 232, 22, 0, 57, 89, 74, 51, 137, 79, 101, 100, 225, 177, 52, 139, 189,
     122, 0, 136, 212, 44, 74, 203, 115, 238, 174, 213, 156, 0, 157]

/-- The source delivers both files directly, and nothing fails. -/
def surroundings : Surroundings where
  sha256 := sha256
  displayTime := fun _ => ""
  fault := fun _ => none
  now := 0
  discovered := some "http://192.168.1.5:8788"
  responses
    | 0 => some ⟨[[97]], true⟩
    | 1 => some ⟨[[98]], true⟩
    | _ => none
  session := false
  relayed := fun _ => none
  setsClipboard := true

def policy : FileTransferPolicy := ⟨100, 1000000, 1000000, seconds 600, 600⟩

def answers : PublishAnswers := ⟨⟨"tt_1"⟩, 0, 0, 0, some fun _ => none, fun _ => some ⟨"clip_1"⟩⟩

def cacheDir : LexPath String := LexPath.parse "/home/u/cache"

/-- The manifest of the first file and a second one of this name. -/
def fileClip (name : String) : FileClip :=
  ⟨[⟨"x.txt", "x.txt", 1, none,
      some "ca978112ca1bbdcafac231b39a23dc4da786eff8147c4e72b9807785afee48bb", .file⟩,
    ⟨name, name, 1, none,
      some "3e23e8160039594a33894f6564e1b1348bbd7a0088d42c4acb73eeaed59c009d", .file⟩],
   2, ⟨"tt_1"⟩, some "http://192.168.1.5:8788", some (seconds 600)⟩

/-- Publishing the first file and a second one of this name. -/
def published (name : String) :
    Except Failure (Option FileClip) × PeerFileRegistry (LexPath String) :=
  publishFileManifest source surroundings.sha256 ⟨"dev_source"⟩ PeerFileRegistry.empty policy
    "http://192.168.1.5:8788/" answers [firstPath, secondPath name]

/-- Applying the manifest. -/
def applied (name : String) : Except Failure (List (LexPath String)) × Receiving :=
  applyFileClip surroundings policy false cacheDir ⟨⟨"clip_1"⟩, ⟨"dev_source"⟩, fileClip name⟩
    ⟨Disk.empty, [], 0⟩

/-- The files collected from the selection. -/
def collected (name : String) : List (Collected String) :=
  [("x.txt", firstPath), (name, secondPath name)]

theorem collected_cases {name : String} {index : Nat} {file : Collected String}
    (found : (collected name)[index]? = some file) :
    index = 0 ∧ file = ("x.txt", firstPath) ∨ index = 1 ∧ file = (name, secondPath name) := by
  match index, found with
  | 0, rfl => exact .inl ⟨rfl, rfl⟩
  | 1, rfl => exact .inr ⟨rfl, rfl⟩

/-- The source of a selection that has been published is honest. -/
theorem honest {name : String}
    (collects : collectPublishFiles source [firstPath, secondPath name] = .ok (collected name))
    (isPublished : (published name).1 = .ok (some (fileClip name)))
    (other : secondPath name ≠ firstPath) :
    HonestSource source (published name).2 "tt_1" surroundings := by
  obtain ⟨files, collectsFiles, -, served⟩ := publishFileManifest_published isPublished
  cases Except.ok.inj (collects.symm.trans collectsFiles)
  constructor
  · rintro index response answered -
    match index, answered with
    | 0, rfl => exact ⟨firstPath, served 0, congrArg some (if_pos rfl)⟩
    | 1, rfl => exact ⟨secondPath name, served 1, congrArg some (if_neg other)⟩
  · exact nofun

theorem y_applied :
    collectPublishFiles source [firstPath, secondPath "y.txt"] = .ok (collected "y.txt") ∧
      (published "y.txt").1 = .ok (some (fileClip "y.txt")) ∧
      (applied "y.txt").1 = .ok
        [LexPath.parse "/home/u/cache/tt_1/x.txt", LexPath.parse "/home/u/cache/tt_1/y.txt"] ∧
      secondPath "y.txt" ≠ firstPath := by decide +kernel

/-- Satisfiable pole: a second file of another name is delivered with the first. -/
theorem y_delivered : AllDelivered source (collected "y.txt") (applied "y.txt").2 := by
  obtain ⟨collects, isPublished, isApplied, other⟩ := y_applied
  refine (allDelivered_iff collects isPublished (honest collects isPublished other)
    isApplied).mpr ⟨?_, ?_⟩
  · intro i j first second different atFirst atSecond
    rcases collected_cases atFirst with ⟨rfl, rfl⟩ | ⟨rfl, rfl⟩ <;>
      rcases collected_cases atSecond with ⟨rfl, rfl⟩ | ⟨rfl, rfl⟩
    · exact absurd rfl different
    · decide +kernel
    · decide +kernel
    · exact absurd rfl different
  · intro i j first second less atFirst atSecond opens
    rcases collected_cases atFirst with ⟨rfl, rfl⟩ | ⟨rfl, rfl⟩ <;>
      rcases collected_cases atSecond with ⟨rfl, rfl⟩ | ⟨rfl, rfl⟩
    · omega
    · decide +kernel
    · omega
    · omega

/-- Both files are recorded at the one destination, which holds the second one. -/
theorem x_applied :
    collectPublishFiles source [firstPath, secondPath "x.txt"] = .ok (collected "x.txt") ∧
      (published "x.txt").1 = .ok (some (fileClip "x.txt")) ∧
      secondPath "x.txt" ≠ firstPath ∧
      (applied "x.txt").1 = .ok
        [LexPath.parse "/home/u/cache/tt_1/x.txt", LexPath.parse "/home/u/cache/tt_1/x.txt"] ∧
      (applied "x.txt").2.downloaded 0 = some (LexPath.parse "/home/u/cache/tt_1/x.txt") ∧
      (applied "x.txt").2.machine.disk (LexPath.parse "/home/u/cache/tt_1/x.txt").locate =
        some (.file [98]) := by decide +kernel

/-- Refuting pole: of two files of one name, both recorded as delivered, one is lost. -/
theorem x_overwritten : ¬ NoFileLost String := by
  intro noFileLost
  obtain ⟨collects, isPublished, other, isApplied, recordedAt, overwritten⟩ := x_applied
  have delivered : AllDelivered source (collected "x.txt") (applied "x.txt").2 :=
    noFileLost source surroundings ⟨"dev_source"⟩ PeerFileRegistry.empty policy policy
      "http://192.168.1.5:8788/" answers [firstPath, secondPath "x.txt"] (collected "x.txt")
      (fileClip "x.txt") ⟨"clip_1"⟩ ⟨"dev_source"⟩ cacheDir Disk.empty 0 false _ collects
      isPublished (honest collects isPublished other) isApplied
  obtain ⟨path, bytes, recorded, content, there⟩ := delivered.complete 0 "x.txt" firstPath rfl
  rw [Option.some.inj (recorded.symm.trans recordedAt)] at there
  have holds : some (Node.file bytes) = some (.file [98]) := there.symm.trans overwritten
  have first : source.contents firstPath = some [97] := congrArg some (if_pos rfl)
  rw [Option.some.inj (content.symm.trans first)] at holds
  exact absurd holds (by decide)

end SameName

end AirPaste.Agent
