/-
# Agent.Containment — what a download may touch

The directory of a clip is named after its transfer token, a text from the manifest
that is joined to the cache directory as it is.  `contained_iff` says for which tokens
every effect of a download, whatever the manifest lists and however the network and the
disk answer, stays strictly below the cache directory: the directories missing on the
way to the clip's directory lie strictly below it, and the clip's directory is the
cache directory or below it.
-/
import AirPaste.Agent.Download

namespace AirPaste.Agent

open AirPaste.Core
open AirPaste.Theory
open AirPaste.Theory.Machine

set_option autoImplicit false

/-- Every place an effect touches lies strictly below the cache directory. -/
def Inside (cacheDir : LexPath String) (effect : FileEffect) : Prop :=
  ∀ place ∈ effect.places, cacheDir.locate.Below place

/-- The places where a directory would be made on the way to the clip's directory lie
strictly below the cache directory, and where the way leads, if no file is on it, is the
cache directory or below. -/
structure WayInside (cacheDir clipDir : LexPath String) (disk : Disk) : Prop where
  made : ∀ place ∈ clearWay disk clipDir.way, disk place = none → cacheDir.locate.Below place
  reached : (∀ place ∈ clipDir.way, disk place = none ∨ disk place = some .dir) →
    cacheDir.locate.Within clipDir.locate

/-- The directory named after the token is reached inside the cache directory, or its
path is refused by every system call. -/
def Confined (disk : Disk) (cacheDir : LexPath String) (token : TransferToken) : Prop :=
  (cacheDir.push token.asStr).hasNul = true ∨ WayInside cacheDir (cacheDir.push token.asStr) disk

/-- A receiver that starts on this disk. -/
def Receiving.on (disk : Disk) (calls : Nat) (downloaded : Nat → Option (LexPath String)) :
    Receiving :=
  ⟨⟨disk, [], calls⟩, downloaded⟩

/-- Whatever a manifest with this token lists, and however the network and the disk
answer, the routes stay strictly below the cache directory, alone and one after the
other. -/
structure Contained (disk : Disk) (cacheDir : LexPath String) (token : TransferToken) : Prop where
  direct : ∀ (x : Surroundings) (pending : PendingFileClip) (calls : Nat)
    (downloaded : Nat → Option (LexPath String)), pending.fileClip.transferToken = token →
    ∀ entry ∈ (downloadRemoteFiles x cacheDir pending
      (Receiving.on disk calls downloaded)).2.machine.trace, Inside cacheDir entry.2
  relayed : ∀ (x : Surroundings) (fileClip : FileClip) (calls : Nat)
    (downloaded : Nat → Option (LexPath String)), fileClip.transferToken = token →
    ∀ entry ∈ (downloadViaRelay x cacheDir fileClip
      (Receiving.on disk calls downloaded)).2.machine.trace, Inside cacheDir entry.2
  applied : ∀ (x : Surroundings) (filePolicy : FileTransferPolicy) (preferRelay : Bool)
    (pending : PendingFileClip) (calls : Nat), pending.fileClip.transferToken = token →
    ∀ entry ∈ (applyFileClip x filePolicy preferRelay cacheDir pending
      ⟨disk, [], calls⟩).2.machine.trace, Inside cacheDir entry.2

/-! ## Below the clip's directory -/

section Below

variable {x : Surroundings} {cacheDir clipDir : LexPath String} {machine : Receiver}

/-- The effects of any tag that stay below the cache directory. -/
abbrev Insides (cacheDir : LexPath String) : Option Nat → FileEffect → Prop :=
  fun _ effect => Inside cacheDir effect

theorem inside_one {cacheDir : LexPath String} {effect : FileEffect} {place : Place}
    (touches : effect.places = [place]) (below : cacheDir.locate.Below place) :
    Inside cacheDir effect := by
  intro other member
  rw [touches] at member
  exact List.mem_singleton.mp member ▸ below

/-- The clip's directory is inside and exists with all the directories on its way. -/
structure Ready (cacheDir clipDir : LexPath String) (disk : Disk) : Prop where
  inside : cacheDir.locate.Within clipDir.locate
  present : ∀ place ∈ clipDir.way, disk place = some .dir

theorem Ready.extends (ready : Ready cacheDir clipDir machine.disk) {after : Receiver}
    {P : Option Nat → FileEffect → Prop} (extends' : Extends P machine after) :
    Ready cacheDir clipDir after.disk where
  inside := ready.inside
  present := fun place member => extends'.dirs place (ready.present place member)

/-- From a clip's directory that is ready, new directories lie below. -/
theorem Ready.makes (ready : Ready cacheDir clipDir machine.disk) (dirs : List String) :
    ∀ place ∈ clearWay machine.disk (descend clipDir dirs).way, machine.disk place = none →
      Inside cacheDir (.madeDir place) := by
  intro place member missing
  have onWay := (List.takeWhile_sublist _).mem member
  rcases (descend_within ready.inside dirs).2 place onWay with before | below
  · exact nomatch missing.symm.trans (ready.present place before)
  · exact inside_one rfl below

theorem Ready.child_below (ready : Ready cacheDir clipDir machine.disk) (dirs : List String)
    (file : String) : cacheDir.locate.Below ((descend clipDir dirs).child file).locate := by
  rw [LexPath.locate_child]
  exact Location.below_enter_iff.mpr (descend_within ready.inside dirs).1

theorem fetchDirect_inside (ready : Ready cacheDir clipDir machine.disk) (entry : FileEntry)
    (index : Nat) :
    Extends (Insides cacheDir) machine
      (fetchDirect x machine entry index
        (safeCachePath clipDir entry.relativePath entry.displayName)).2 := by
  obtain ⟨dirs, file, shape⟩ := safeCachePath_eq clipDir entry.relativePath entry.displayName
  rw [shape]
  have temporary : cacheDir.locate.Below
      (((descend clipDir dirs).child file).withExtension "airpaste-download").locate := by
    rw [LexPath.withExtension_child]
    exact ready.child_below dirs _
  unfold fetchDirect
  cases x.responses index with
  | none => exact Extends.refl machine
  | some response =>
      apply downloadPeerFileToCache_extends (ready.makes dirs)
      · exact inside_one rfl temporary
      · exact inside_one rfl temporary
      · intro place member
        rcases List.mem_cons.mp member with rfl | member
        · exact temporary
        · exact List.mem_singleton.mp member ▸ ready.child_below dirs file
      · exact inside_one rfl temporary

theorem fetchRelayed_inside (ready : Ready cacheDir clipDir machine.disk) (entry : FileEntry)
    (index : Nat) :
    Extends (Insides cacheDir) machine
      (fetchRelayed x machine entry index
        (safeCachePath clipDir entry.relativePath entry.displayName)).2 := by
  obtain ⟨dirs, file, shape⟩ := safeCachePath_eq clipDir entry.relativePath entry.displayName
  rw [shape]
  apply fetchRelayed_extends (ready.makes dirs)
  · exact inside_one rfl (ready.child_below dirs file)
  · exact inside_one rfl (ready.child_below dirs file)

/-- Fetching an entry from a clip's directory that is ready stays inside. -/
def FetchesInside (cacheDir clipDir : LexPath String)
    (fetch : Receiver → FileEntry → Nat → LexPath String → Except Failure Unit × Receiver) : Prop :=
  ∀ (machine : Receiver) (entry : FileEntry) (index : Nat),
    Ready cacheDir clipDir machine.disk → Extends (Insides cacheDir) machine
      (fetch machine entry index
        (safeCachePath clipDir entry.relativePath entry.displayName)).2

/-- A loop that fetches every file inside stays inside. -/
theorem receiveEach_inside
    {fetch : Receiver → FileEntry → Nat → LexPath String → Except Failure Unit × Receiver}
    (fetches : FetchesInside cacheDir clipDir fetch)
    (missing : List (FileEntry × Nat)) (receiving : Receiving)
    (ready : Ready cacheDir clipDir receiving.machine.disk) :
    Extends (Insides cacheDir) receiving.machine
      (receiveEach fetch clipDir missing receiving).2.machine := by
  refine receiveEach_extends (Ready cacheDir clipDir)
    (fun _ _ ready further => ready.extends further) ?_ receiving ready
  exact fun machine next _ ready => fetches machine next.1 next.2 ready

/-- A clip's directory that is ready has its way inside. -/
theorem Ready.wayInside {disk : Disk} (ready : Ready cacheDir clipDir disk) :
    WayInside cacheDir clipDir disk where
  made := fun place member missing =>
    nomatch missing.symm.trans (ready.present place ((List.takeWhile_sublist _).mem member))
  reached := fun _ => ready.inside

/-- Creating the clip's directory stays inside and leaves its way inside; when it
succeeds, the directory is ready. -/
theorem createClipDir_inside (way : WayInside cacheDir clipDir machine.disk) :
    Extends (Insides cacheDir) machine (machine.createDirAll x.fault none clipDir).2 ∧
      WayInside cacheDir clipDir (machine.createDirAll x.fault none clipDir).2.disk ∧
      ((machine.createDirAll x.fault none clipDir).1 = true →
        Ready cacheDir clipDir (machine.createDirAll x.fault none clipDir).2.disk) := by
  refine ⟨createDirAll_extends fun place member missing => ?_, ?_, ?_⟩
  · exact inside_one rfl (way.made place member missing)
  · unfold createDirAll
    split
    · exact way
    · have node := ensureDirs_node x.fault (none : Option Nat) clipDir.way machine
      have clear : ∀ place,
          ((ensureDirs x.fault none clipDir.way machine).2.disk place = none ∨
            (ensureDirs x.fault none clipDir.way machine).2.disk place = some .dir) ↔
          (machine.disk place = none ∨ machine.disk place = some .dir) := by
        intro place
        rcases node place with same | ⟨nothing, present⟩
        · rw [same]
        · exact iff_of_true (.inr present) (.inl nothing)
      constructor
      · intro place member missing
        simp only [clearWay] at member
        simp only [clear] at member
        apply way.made place member
        rcases node place with same | ⟨nothing, -⟩
        · exact same.symm.trans missing
        · exact nothing
      · exact fun all => way.reached fun place member => (clear place).mp (all place member)
  · unfold createDirAll
    split
    · exact fun done => absurd done Bool.false_ne_true
    · intro done
      exact ⟨way.reached (ensureDirs_clear done), ensureDirs_done done⟩

end Below

/-! ## The routes -/

section Routes

variable {x : Surroundings} {cacheDir : LexPath String} {receiving : Receiving}

/-- A route has gone on inside, and has left the way to the clip's directory inside. -/
structure StaysInside (cacheDir clipDir : LexPath String) (before after : Receiver) : Prop where
  extends' : Extends (Insides cacheDir) before after
  way : clipDir.hasNul = true ∨ WayInside cacheDir clipDir after.disk

theorem receiveMissing_inside {clipDir : LexPath String}
    {fetch : Receiver → FileEntry → Nat → LexPath String → Except Failure Unit × Receiver}
    (fetches : FetchesInside cacheDir clipDir fetch)
    (way : clipDir.hasNul = true ∨ WayInside cacheDir clipDir receiving.machine.disk)
    (missing : List (FileEntry × Nat)) :
    StaysInside cacheDir clipDir receiving.machine
      (receiveMissing x fetch clipDir missing receiving).2.machine := by
  unfold receiveMissing
  rcases way with nul | way
  · simp only [createDirAll]
    rw [if_pos nul]
    exact ⟨Extends.refl _, .inl nul⟩
  · obtain ⟨extends', after, ready⟩ := createClipDir_inside (x := x) way
    generalize receiving.machine.createDirAll x.fault none clipDir = result
      at extends' after ready ⊢
    obtain ⟨done, machine⟩ := result
    cases done with
    | false => exact ⟨extends', .inr after⟩
    | true =>
        have loop := receiveEach_inside fetches missing
          { receiving with machine := machine } (ready rfl)
        exact ⟨extends'.trans loop, .inr ((ready rfl).extends loop).wayInside⟩

theorem downloadRemoteFiles_inside (x : Surroundings) (pending : PendingFileClip)
    (receiving : Receiving)
    (way : (clipCacheDir cacheDir pending.fileClip).hasNul = true ∨
      WayInside cacheDir (clipCacheDir cacheDir pending.fileClip) receiving.machine.disk) :
    StaysInside cacheDir (clipCacheDir cacheDir pending.fileClip) receiving.machine
      (downloadRemoteFiles x cacheDir pending receiving).2.machine := by
  unfold downloadRemoteFiles
  cases resolvePeerBaseUrl x pending with
  | error failure => exact ⟨Extends.refl _, way⟩
  | ok url =>
      have fetches : FetchesInside cacheDir (clipCacheDir cacheDir pending.fileClip)
          (fetchDirect x) := fun _ entry index ready => fetchDirect_inside ready entry index
      exact receiveMissing_inside fetches way _

theorem downloadViaRelay_inside (x : Surroundings) (fileClip : FileClip) (receiving : Receiving)
    (way : (clipCacheDir cacheDir fileClip).hasNul = true ∨
      WayInside cacheDir (clipCacheDir cacheDir fileClip) receiving.machine.disk) :
    StaysInside cacheDir (clipCacheDir cacheDir fileClip) receiving.machine
      (downloadViaRelay x cacheDir fileClip receiving).2.machine := by
  have fetches : FetchesInside cacheDir (clipCacheDir cacheDir fileClip) (fetchRelayed x) :=
    fun _ entry index ready => fetchRelayed_inside ready entry index
  simp only [downloadViaRelay]
  split
  · exact ⟨Extends.refl _, way⟩
  · split
    · exact ⟨Extends.refl _, way⟩
    · exact receiveMissing_inside fetches way _

theorem applyFileClip_inside {filePolicy : FileTransferPolicy} {preferRelay : Bool}
    {pending : PendingFileClip} {machine : Receiver}
    (way : (clipCacheDir cacheDir pending.fileClip).hasNul = true ∨
      WayInside cacheDir (clipCacheDir cacheDir pending.fileClip) machine.disk) :
    Extends (Insides cacheDir) machine
      (applyFileClip x filePolicy preferRelay cacheDir pending machine).2.machine := by
  have downloads : Extends (Insides cacheDir) machine
      (downloadFiles x preferRelay cacheDir pending ⟨machine, fun _ => none⟩).2.machine := by
    unfold downloadFiles
    cases preferRelay with
    | true =>
        have relayed := downloadViaRelay_inside x pending.fileClip ⟨machine, fun _ => none⟩ way
        exact relayed.extends'
    | false =>
        have direct := downloadRemoteFiles_inside x pending ⟨machine, fun _ => none⟩ way
        simp only [Bool.false_eq_true, if_false]
        generalize downloadRemoteFiles x cacheDir pending ⟨machine, fun _ => none⟩ = result
          at direct ⊢
        obtain ⟨outcome, receiving⟩ := result
        cases outcome with
        | ok done => exact direct.extends'
        | error failure =>
            have relayed := downloadViaRelay_inside x pending.fileClip receiving direct.way
            simp only
            generalize downloadViaRelay x cacheDir pending.fileClip receiving = result
              at relayed ⊢
            obtain ⟨outcome, last⟩ := result
            cases outcome with
            | ok done => exact direct.extends'.trans relayed.extends'
            | error failure => exact direct.extends'.trans relayed.extends'
  simp only [applyFileClip]
  split
  · exact Extends.refl _
  · generalize downloadFiles x preferRelay cacheDir pending ⟨machine, fun _ => none⟩ = result
      at downloads ⊢
    obtain ⟨outcome, receiving⟩ := result
    cases outcome with
    | error failure => exact downloads
    | ok done =>
        simp only
        split
        · exact downloads
        · split
          · exact downloads
          · exact downloads

end Routes

/-! ## Which tokens are contained -/

section Confinement

variable {disk : Disk} {cacheDir : LexPath String} {token : TransferToken}

/-- The effects of a run that starts without any are those it goes on with. -/
theorem inside_of_extends {disk : Disk} {calls : Nat} {after : Receiver}
    (extends' : Extends (Insides cacheDir) ⟨disk, [], calls⟩ after) :
    ∀ entry ∈ after.trace, Inside cacheDir entry.2 := fun _ member =>
  (extends'.mem member).resolve_left List.not_mem_nil

theorem contained_of_confined (confined : Confined disk cacheDir token) :
    Contained disk cacheDir token where
  direct := by
    rintro x pending calls downloaded rfl
    have run := downloadRemoteFiles_inside x pending (Receiving.on disk calls downloaded) confined
    exact inside_of_extends run.extends'
  relayed := by
    rintro x fileClip calls downloaded rfl
    have run := downloadViaRelay_inside x fileClip (Receiving.on disk calls downloaded) confined
    exact inside_of_extends run.extends'
  applied := by
    rintro x filePolicy preferRelay pending calls rfl
    exact inside_of_extends (applyFileClip_inside confined)

/-- Surroundings in which nothing fails and every relayed file is empty. -/
def smooth : Surroundings where
  sha256 := fun _ => []
  displayTime := fun _ => ""
  fault := fun _ => none
  now := 0
  discovered := some ""
  responses := fun _ => none
  session := true
  relayed := fun _ => some []
  setsClipboard := true

/-- A name of one character, some number of times. -/
def plainName (n : Nat) : String := String.ofList (List.replicate (n + 1) 'x')

theorem plainName_injective : Function.Injective plainName := by
  intro n m same
  have chars := congrArg (fun name : String => name.toList.length) same
  simpa [plainName] using chars

theorem sanitize_plainName (n : Nat) : sanitizeComponent (plainName n) = some (plainName n) := by
  have only : ∀ ch ∈ List.replicate (n + 1) 'x', ch = 'x' := fun ch member =>
    List.eq_of_mem_replicate member
  have trimmed : Text.trimChars (List.replicate (n + 1) 'x') = List.replicate (n + 1) 'x' :=
    Text.trimChars_of_none fun ch member => by
      rw [only ch member]
      rfl
  have cleaned : Text.dropEnd (fun ch => ch == ' ' || ch == '.') (List.replicate (n + 1) 'x') =
      List.replicate (n + 1) 'x' :=
    Text.dropEnd_of_none fun ch member => by
      rw [only ch member]
      rfl
  have plain : sanitizeChar 'x' = 'x' := by decide
  have nonempty : List.replicate (n + 1) 'x' ≠ [] := List.cons_ne_nil _ _
  have dot : List.replicate (n + 1) 'x' ≠ ['.'] := fun same => by
    have head := List.head_eq_of_cons_eq same
    exact absurd head (by decide)
  have dots : List.replicate (n + 1) 'x' ≠ ['.', '.'] := fun same => by
    have head := List.head_eq_of_cons_eq same
    exact absurd head (by decide)
  simp only [sanitizeComponent, plainName]
  simp only [String.toList_ofList, trimmed, List.map_replicate, plain, cleaned, nonempty, dot, dots,
    or_self, if_false]

theorem safeCachePath_plainName (clipDir : LexPath String) (n : Nat) (displayName : String) :
    safeCachePath clipDir (plainName n) displayName = clipDir.child (plainName n) := by
  have single : Text.splitChars (fun ch => ch == '/' || ch == '\\') (plainName n).toList =
      [(plainName n).toList] := by
    apply Text.splitChars_single
    intro ch member
    rw [plainName, String.toList_ofList] at member
    obtain rfl := List.eq_of_mem_replicate member
    rfl
  simp only [safeCachePath]
  rw [single]
  simp only [List.filterMap_cons, List.filterMap_nil, String.ofList_toList, sanitize_plainName,
    List.foldl_cons, List.foldl_nil, List.isEmpty_cons, Bool.false_eq_true, if_false]
  exact push_sanitized (sanitize_plainName n) clipDir

/-- What creating the clip's directory does stays in the trace. -/
theorem receiveMissing_keeps {x : Surroundings} {clipDir : LexPath String} {receiving : Receiving}
    {entry : Option Nat × FileEffect}
    (member : entry ∈ (receiving.machine.createDirAll x.fault none clipDir).2.trace) :
    entry ∈ (receiveMissing x (fetchDirect x) clipDir [] receiving).2.machine.trace := by
  unfold receiveMissing
  generalize receiving.machine.createDirAll x.fault none clipDir = result at member ⊢
  obtain ⟨done, machine⟩ := result
  cases done with
  | false => exact member
  | true => exact member

theorem receiveEach_single
    (fetch : Receiver → FileEntry → Nat → LexPath String → Except Failure Unit × Receiver)
    (clipDir : LexPath String) (entry : FileEntry) (index : Nat) (receiving : Receiving) :
    (receiveEach fetch clipDir [(entry, index)] receiving).2.machine =
      (fetch receiving.machine entry index
        (safeCachePath clipDir entry.relativePath entry.displayName)).2 := by
  simp only [receiveEach]
  generalize fetch receiving.machine entry index
    (safeCachePath clipDir entry.relativePath entry.displayName) = result
  obtain ⟨outcome, after⟩ := result
  cases outcome with
  | error failure => rfl
  | ok done => rfl

/-- A manifest of one empty file of this name. -/
def oneFile (token : TransferToken) (name : String) : FileClip :=
  ⟨[⟨name, name, 0, none, none, .file⟩], 0, token, none, none⟩

/-- In smooth surroundings a relayed file is created under a name that is free. -/
theorem fetchRelayed_creates {machine : Receiver} {clipDir : LexPath String}
    (legal : clipDir.hasNul = false)
    (present : ∀ place ∈ clipDir.way, machine.disk place = some .dir)
    {n : Nat} (free : machine.disk (clipDir.child (plainName n)).locate = none)
    {entry : FileEntry} (empty : checkRelayed smooth entry [] = .ok ()) :
    (some 0, .created (clipDir.child (plainName n)).locate) ∈
      (fetchRelayed smooth machine entry 0 (clipDir.child (plainName n))).2.trace := by
  have parent : createParent smooth machine 0 (clipDir.child (plainName n)) = (true, machine) := by
    simp only [createParent, createDirAll]
    rw [LexPath.parent_child]
    simp only [legal, Bool.false_eq_true, if_false]
    exact ensureDirs_present _ _ present
  have legal : (clipDir.child (plainName n)).hasNul = false := by
    rw [LexPath.hasNul_child, legal, Bool.false_or, plainName, String.toList_ofList,
      ← Bool.not_eq_true, List.contains_iff_mem]
    exact fun member => absurd (List.eq_of_mem_replicate member) (by decide)
  have notDir : machine.disk (clipDir.child (plainName n)).locate ≠ some .dir := by
    rw [free]
    exact (Option.some_ne_none _).symm
  have created := createFile_makes machine (some 0) legal notDir
  have member : (some 0, .created (clipDir.child (plainName n)).locate) ∈
      (machine.write smooth.fault (some 0) (clipDir.child (plainName n)) []).2.trace := by
    simp only [Machine.write]
    rw [show smooth.fault = fun _ => none from rfl, created]
    exact List.mem_append_left _ (List.mem_append_right _ (List.mem_singleton_self _))
  simp only [fetchRelayed]
  rw [show smooth.relayed 0 = some [] from rfl]
  simp only [empty, parent]
  generalize machine.write smooth.fault (some 0) (clipDir.child (plainName n)) [] = result
    at member ⊢
  obtain ⟨done, after⟩ := result
  cases done with
  | false => exact member
  | true => exact member

theorem confined_of_contained (contained : Contained disk cacheDir token) :
    Confined disk cacheDir token := by
  by_cases nul : (cacheDir.push token.asStr).hasNul = true
  · exact .inl nul
  · refine .inr ⟨?_, ?_⟩
    · intro place member missing
      have made : (none, .madeDir place) ∈ (downloadRemoteFiles smooth cacheDir
          ⟨⟨""⟩, ⟨""⟩, ⟨[], 0, token, none, none⟩⟩
          (Receiving.on disk 0 fun _ => none)).2.machine.trace := by
        apply receiveMissing_keeps
        simp only [createDirAll]
        rw [clipCacheDir, if_neg nul]
        exact ensureDirs_makes member missing
      exact contained.direct smooth _ 0 _ rfl _ made place (List.mem_singleton_self _)
    · intro clear
      -- With the directory made, some name in it is still free; a file of that name is created.
      let clipDir := cacheDir.push token.asStr
      let start : Receiver := ⟨disk, [], 0⟩
      have legal : clipDir.hasNul = false := Bool.eq_false_iff.mpr nul
      have done : (ensureDirs smooth.fault none clipDir.way start).1 = true :=
        ensureDirs_succeeds clear
      have present := ensureDirs_done done
      have creates : start.createDirAll smooth.fault none clipDir =
          (true, (ensureDirs smooth.fault none clipDir.way start).2) := by
        simp only [createDirAll]
        rw [legal]
        exact Prod.ext done rfl
      generalize (ensureDirs smooth.fault none clipDir.way start).2 = made at present creates
      have distinct : Function.Injective fun n => (clipDir.child (plainName n)).locate := by
        intro n m same
        simp only [LexPath.locate_child, Location.enter, Location.mk.injEq, List.cons.injEq] at same
        exact plainName_injective same.2.2.1
      obtain ⟨n, free⟩ := made.disk.exists_free distinct
      have member : (some 0, .created (clipDir.child (plainName n)).locate) ∈
          (downloadViaRelay smooth cacheDir (oneFile token (plainName n))
            (Receiving.on disk 0 fun _ => none)).2.machine.trace := by
        have whole : downloadViaRelay smooth cacheDir (oneFile token (plainName n))
            (Receiving.on disk 0 fun _ => none) =
              receiveMissing smooth (fetchRelayed smooth) clipDir
                [(⟨plainName n, plainName n, 0, none, none, .file⟩, 0)]
                ⟨start, fun _ => none⟩ := rfl
        rw [whole, receiveMissing]
        simp only [creates, receiveEach_single, safeCachePath_plainName]
        exact fetchRelayed_creates legal present free rfl
      have below := contained.relayed smooth _ 0 _ rfl _ member _ (List.mem_singleton_self _)
      rw [LexPath.locate_child] at below
      exact Location.below_enter_iff.mp below

/-- **Which transfer tokens keep a download below the cache directory.** -/
theorem contained_iff : Contained disk cacheDir token ↔ Confined disk cacheDir token :=
  ⟨confined_of_contained, contained_of_confined⟩

end Confinement

/-! ## A token that leads elsewhere -/

namespace Escape

def cacheDir : LexPath String := LexPath.parse "/home/u/cache"

def token : TransferToken := ⟨"../.ssh"⟩

/-- The home directory of a user, with the cache in it. -/
def disk : Disk :=
  ((Disk.empty.set (LexPath.parse "/home").locate (some .dir)).set
    (LexPath.parse "/home/u").locate (some .dir)).set cacheDir.locate (some .dir)

/-- The relay delivers a key for a manifest that names it. -/
def delivered : Receiving :=
  (downloadViaRelay { smooth with relayed := fun _ => some [107, 101, 121] } cacheDir
    ⟨[⟨"authorized_keys", "authorized_keys", 3, none, none, .file⟩], 3, token, none, none⟩
    (Receiving.on disk 0 fun _ => none)).2

/-- Refuting pole: the key is written next to the cache directory. -/
theorem key_not_contained :
    delivered.machine.disk (LexPath.parse "/home/u/.ssh/authorized_keys").locate =
        some (.file [107, 101, 121]) ∧
      ¬ ∀ (disk : Disk) (cacheDir : LexPath String) (token : TransferToken),
        Contained disk cacheDir token := by
  refine ⟨by decide +kernel, fun contained => ?_⟩
  have created : (some 0, .created (LexPath.parse "/home/u/.ssh/authorized_keys").locate) ∈
      delivered.machine.trace := by decide +kernel
  have below := (contained disk cacheDir token).relayed _ _ 0 _ rfl _ created _
    (List.mem_singleton_self _)
  exact absurd below (by decide +kernel)

end Escape

end AirPaste.Agent
