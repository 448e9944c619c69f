/-
# Agent.Receive — the loop over the missing files

What fetching one entry does, by either route (`Fetched`), what the loop over the missing
files preserves (`InLoop`, `Intact`), and what a whole download comes to (`LoopDone`):
nothing delivered is touched again, unless two destinations are one, or a temporary file
opened is the destination of an earlier entry.  `downloadFiles_opened` says when the
direct route opens a temporary file.
-/
import AirPaste.Agent.Download

namespace AirPaste.Agent

open AirPaste.Core
open AirPaste.Theory
open AirPaste.Theory.Machine

set_option autoImplicit false

/-- Where an entry of a clip goes. -/
def destination (clipDir : LexPath String) (entry : FileEntry) : LexPath String :=
  safeCachePath clipDir entry.relativePath entry.displayName

/-- Where the direct route writes an entry before it is complete. -/
def temporary (clipDir : LexPath String) (entry : FileEntry) : LexPath String :=
  (destination clipDir entry).withExtension "airpaste-download"

/-- The manifest lists a regular file at the index. -/
def IsFile (fileClip : FileClip) (index : Nat) (entry : FileEntry) : Prop :=
  fileClip.files[index]? = some entry ∧ entry.kind = .file

/-- Whatever arrives complete for an index is what the source holds for it. -/
structure HonestAnswers (bytesOf : Nat → Option (List UInt8)) (x : Surroundings) : Prop where
  direct : ∀ index response, x.responses index = some response → response.ends = true →
    bytesOf index = some response.chunks.flatten
  relayed : ∀ index bytes, x.relayed index = some bytes → bytesOf index = some bytes

/-! ## Fetching one entry -/

section Fetch

variable {x : Surroundings} {clipDir : LexPath String} {bytesOf : Nat → Option (List UInt8)}
  {entry : FileEntry} {index : Nat} {machine : Receiver}

/-- An effect on behalf of one entry: a directory where nothing was, or something done to
one of its own files. -/
structure OwnEffect (disk : Disk) (index : Nat) (own : Place → Prop) (tag : Option Nat)
    (effect : FileEffect) : Prop where
  tagged : tag = some index
  made : ∀ place, effect = .madeDir place → disk place = none
  files : ∀ place ∈ effect.files, own place

/-- The temporary file of an entry has been opened. -/
def Opened (clipDir : LexPath String) (entry : FileEntry) (index : Nat)
    (trace : List (Option Nat × FileEffect)) : Prop :=
  (some index, .created (temporary clipDir entry).locate) ∈ trace

/-- The own files of an entry: its destination, and its temporary file once opened. -/
def Own (clipDir : LexPath String) (entry : FileEntry) (index : Nat)
    (trace : List (Option Nat × FileEffect)) (place : Place) : Prop :=
  place = (destination clipDir entry).locate ∨
    place = (temporary clipDir entry).locate ∧ Opened clipDir entry index trace

/-- What fetching an entry does, by either route. -/
structure Fetched (bytesOf : Nat → Option (List UInt8)) (clipDir : LexPath String)
    (entry : FileEntry) (index : Nat) (machine : Receiver)
    (result : Except Failure Unit × Receiver) : Prop where
  effects : Extends (OwnEffect machine.disk index (Own clipDir entry index result.2.trace))
    machine result.2
  delivers : result.1 = .ok () →
    ∃ act ∈ result.2.trace, act.1 = some index ∧ (destination clipDir entry).locate ∈ act.2.files
  content : result.1 = .ok () → ∃ bytes, bytesOf index = some bytes ∧
    result.2.disk (destination clipDir entry).locate = some (.file bytes)

theorem receiveChunks_done {path : LexPath String} {chunks : List (List UInt8)}
    {got bytes : List UInt8} (content : machine.disk path.locate = some (.file got))
    (done : (receiveChunks x index path chunks got machine).1 = some bytes) :
    bytes = got ++ chunks.flatten ∧
      (receiveChunks x index path chunks got machine).2.disk path.locate = some (.file bytes) := by
  induction chunks generalizing got machine with
  | nil =>
      cases done
      exact ⟨(List.append_nil _).symm, content⟩
  | cons chunk rest ih =>
      have written : (machine.writeAll x.fault (some index) path chunk).1 = true → _ :=
        writeAll_done content
      unfold receiveChunks at done ⊢
      generalize machine.writeAll x.fault (some index) path chunk = result at written done ⊢
      obtain ⟨wrote, after⟩ := result
      cases wrote with
      | false => cases done
      | true =>
          obtain ⟨all, complete⟩ := ih (written rfl) done
          refine ⟨?_, complete⟩
          rw [all, List.flatten_cons, List.append_assoc]

theorem transferFile_done {response : Response} {temporary destination : LexPath String}
    (content : machine.disk temporary.locate = some (.file []))
    (done : (transferFile x machine index response entry temporary destination).1 = .ok ()) :
    response.ends = true ∧
      (transferFile x machine index response entry temporary destination).2.disk
        destination.locate = some (.file response.chunks.flatten) ∧
      (some index, .renamed temporary.locate destination.locate) ∈
        (transferFile x machine index response entry temporary destination).2.trace := by
  have received : ∀ bytes,
      (receiveChunks x index temporary response.chunks [] machine).1 = some bytes → _ :=
    fun bytes => receiveChunks_done content
  unfold transferFile at done ⊢
  generalize receiveChunks x index temporary response.chunks [] machine = result
    at received done ⊢
  obtain ⟨bytes, after⟩ := result
  cases bytes with
  | none => cases done
  | some bytes =>
      obtain ⟨all, complete⟩ := received bytes rfl
      cases ends : response.ends with
      | false =>
          simp only [ends, Bool.not_false, if_true] at done
          cases done
      | true =>
          have flushed : (after.flush x.fault).2.disk = after.disk := rfl
          simp only [ends, Bool.not_true, Bool.false_eq_true, if_false] at done ⊢
          generalize after.flush x.fault = result at flushed done ⊢
          obtain ⟨works, afterFlush⟩ := result
          cases works with
          | false => cases done
          | true =>
              cases checked : checkDownloaded x entry bytes with
              | error message =>
                  simp only [checked] at done
                  cases done
              | ok passes =>
                  have renamed : (afterFlush.rename x.fault (some index) temporary
                      destination).1 = true → _ :=
                    rename_done ((congrFun (congrArg Disk.node flushed) _).trans complete)
                  simp only [checked] at done ⊢
                  generalize afterFlush.rename x.fault (some index) temporary destination = result
                    at renamed done ⊢
                  obtain ⟨works, last⟩ := result
                  cases works with
                  | false => cases done
                  | true =>
                      obtain ⟨there, member⟩ := renamed rfl
                      rw [all, List.nil_append] at there
                      exact ⟨trivial, there, member⟩

/-- A directory made where nothing was is an own effect, whatever the entry owns. -/
theorem ownEffect_made {disk : Disk} {own : Place → Prop} {place : Place}
    (missing : disk place = none) : OwnEffect disk index own (some index) (.madeDir place) where
  tagged := rfl
  made := by
    rintro other same
    cases same
    exact missing
  files := fun _ member => absurd member List.not_mem_nil

/-- So is what is done to an own file. -/
theorem ownEffect_file {disk : Disk} {own : Place → Prop} {effect : FileEffect}
    (file : ∀ place, effect ≠ .madeDir place) (owned : ∀ place ∈ effect.files, own place) :
    OwnEffect disk index own (some index) effect where
  tagged := rfl
  made := fun place same => absurd same (file place)
  files := owned

theorem madeDirs_own (x : Surroundings) (machine : Receiver) (index : Nat)
    (parent : LexPath String) (own : Place → Prop) :
    Extends (OwnEffect machine.disk index own) machine
      (machine.createDirAll x.fault (some index) parent).2 :=
  createDirAll_extends fun _ _ missing => ownEffect_made missing

/-- The directories a destination lies in and its temporary file can be created. -/
def CanOpen (x : Surroundings) (machine : Receiver) (index : Nat) (destination : LexPath String) :
    Prop :=
  (createParent x machine index destination).1 = true ∧
    ((createParent x machine index destination).2.createFile x.fault (some index)
      (destination.withExtension "airpaste-download")).1 = true

/-- What a direct download can come to. -/
inductive DirectOutcome (x : Surroundings) (clipDir : LexPath String) (entry : FileEntry)
    (index : Nat) (response : Response) (machine : Receiver) :
    Except Failure Unit × Receiver → Prop where
  /-- It gets no further than directories. -/
  | stopped (failure : Failure) (after : Receiver)
      (closed : ¬ CanOpen x machine index (destination clipDir entry))
      (made : ∀ own, Extends (OwnEffect machine.disk index own) machine after) :
      DirectOutcome x clipDir entry index response machine (.error failure, after)
  /-- It opens the temporary file; when it succeeds, the destination holds the response. -/
  | opened (outcome : Except Failure Unit) (after : Receiver)
      (can : CanOpen x machine index (destination clipDir entry))
      (opens : Opened clipDir entry index after.trace)
      (complete : outcome = .ok () → response.ends = true ∧
        after.disk (destination clipDir entry).locate = some (.file response.chunks.flatten) ∧
        (some index, .renamed (temporary clipDir entry).locate
          (destination clipDir entry).locate) ∈ after.trace) :
      DirectOutcome x clipDir entry index response machine (outcome, after)

theorem downloadPeerFileToCache_outcome (x : Surroundings) (response : Response)
    {parent : LexPath String} (inside : (destination clipDir entry).parent = some parent) :
    DirectOutcome x clipDir entry index response machine
      (downloadPeerFileToCache x machine index response entry (destination clipDir entry)) := by
  have made := madeDirs_own x machine index parent
  have can : CanOpen x machine index (destination clipDir entry) ↔
      (machine.createDirAll x.fault (some index) parent).1 = true ∧
        ((machine.createDirAll x.fault (some index) parent).2.createFile x.fault (some index)
          (temporary clipDir entry)).1 = true := by
    simp only [CanOpen, createParent]
    rw [inside, ← temporary]
  simp only [downloadPeerFileToCache, createParent]
  rw [inside, ← temporary]
  simp only
  generalize machine.createDirAll x.fault (some index) parent = result at made can ⊢
  obtain ⟨done, after⟩ := result
  cases done with
  | false => exact .stopped .io after (fun opens => Bool.false_ne_true (can.mp opens).1) made
  | true =>
      have created : (after.createFile x.fault (some index) (temporary clipDir entry)).1 = true →
          _ := createFile_done
      have failed : (after.createFile x.fault (some index) (temporary clipDir entry)).1 = false →
          ∀ own, Extends (OwnEffect machine.disk index own) after _ :=
        fun failed _ => createFile_failed failed
      simp only
      generalize after.createFile x.fault (some index) (temporary clipDir entry) = result
        at created failed can ⊢
      obtain ⟨done, afterCreate⟩ := result
      cases done with
      | false =>
          exact .stopped .io afterCreate (fun opens => Bool.false_ne_true (can.mp opens).2)
            fun own => (made own).trans (failed rfl own)
      | true =>
          have can := can.mpr ⟨rfl, rfl⟩
          obtain ⟨empty, opens⟩ := created rfl
          have goesOn : Extends (fun _ _ => True) afterCreate
              (transferFile x afterCreate index response entry (temporary clipDir entry)
                (destination clipDir entry)).2 :=
            transferFile_extends x afterCreate response entry trivial trivial
          have transferred : (transferFile x afterCreate index response entry
              (temporary clipDir entry) (destination clipDir entry)).1 = .ok () → _ :=
            transferFile_done empty
          simp only
          generalize transferFile x afterCreate index response entry (temporary clipDir entry)
            (destination clipDir entry) = result at goesOn transferred ⊢
          obtain ⟨outcome, afterTransfer⟩ := result
          cases outcome with
          | ok done => exact .opened (.ok ()) afterTransfer can (goesOn.keeps opens) transferred
          | error failure =>
              have removes : Extends (fun _ _ => True) afterTransfer
                  (afterTransfer.removeFile x.fault (some index) (temporary clipDir entry)).2 :=
                removeFile_extends x.fault afterTransfer trivial
              refine .opened (.error failure) _ can (removes.keeps (goesOn.keeps opens)) ?_
              intro done
              cases done

/-- The direct route fetches an entry. -/
theorem fetchDirect_fetched (honest : HonestAnswers bytesOf x) :
    Fetched bytesOf clipDir entry index machine
      (fetchDirect x machine entry index (destination clipDir entry)) := by
  obtain ⟨dirs, file, shape⟩ := safeCachePath_eq clipDir entry.relativePath entry.displayName
  have shape : destination clipDir entry = (descend clipDir dirs).child file := shape
  unfold fetchDirect
  cases answered : x.responses index with
  | none => exact ⟨Extends.refl machine, nofun, nofun⟩
  | some response =>
      have inside : (destination clipDir entry).parent = some (descend clipDir dirs) := by
        rw [shape, LexPath.parent_child]
      have effects : ∀ own : Place → Prop, own (temporary clipDir entry).locate →
          own (destination clipDir entry).locate →
          Extends (OwnEffect machine.disk index own) machine
            (downloadPeerFileToCache x machine index response entry
              (destination clipDir entry)).2 := by
        intro own ownTemporary ownDestination
        simp only [temporary] at ownTemporary
        rw [shape] at ownTemporary ownDestination ⊢
        refine downloadPeerFileToCache_extends (fun _ _ missing => ownEffect_made missing)
          ?_ ?_ ?_ ?_
        · exact ownEffect_file nofun fun _ member => List.mem_singleton.mp member ▸ ownTemporary
        · exact ownEffect_file nofun fun _ member => List.mem_singleton.mp member ▸ ownTemporary
        · refine ownEffect_file nofun fun place member => ?_
          rcases List.mem_cons.mp member with rfl | member
          · exact ownTemporary
          · exact List.mem_singleton.mp member ▸ ownDestination
        · exact ownEffect_file nofun fun _ member => List.mem_singleton.mp member ▸ ownTemporary
      have outcome : DirectOutcome x clipDir entry index response machine _ :=
        downloadPeerFileToCache_outcome x response inside
      simp only
      generalize downloadPeerFileToCache x machine index response entry
        (destination clipDir entry) = result at effects outcome ⊢
      cases outcome with
      | stopped failure after closed made => exact ⟨made _, nofun, nofun⟩
      | opened outcome after can opens complete =>
          refine ⟨effects _ (.inr ⟨rfl, opens⟩) (.inl rfl), fun done => ?_, fun done => ?_⟩
          · obtain ⟨-, -, member⟩ := complete done
            exact ⟨_, member, rfl, List.mem_cons_of_mem _ (List.mem_singleton_self _)⟩
          · obtain ⟨ends, there, -⟩ := complete done
            exact ⟨_, honest.direct index response answered ends, there⟩

theorem fetchRelayed_done {path : LexPath String}
    (done : (fetchRelayed x machine entry index path).1 = .ok ()) :
    ∃ plaintext, x.relayed index = some plaintext ∧
      (fetchRelayed x machine entry index path).2.disk path.locate = some (.file plaintext) ∧
      (some index, .created path.locate) ∈ (fetchRelayed x machine entry index path).2.trace := by
  unfold fetchRelayed at done ⊢
  cases answered : x.relayed index with
  | none =>
      rw [answered] at done
      cases done
  | some plaintext =>
      simp only [answered] at done ⊢
      cases checked : checkRelayed x entry plaintext with
      | error message =>
          simp only [checked] at done
          cases done
      | ok passes =>
          simp only [checked] at done ⊢
          generalize createParent x machine index path = result at done ⊢
          obtain ⟨works, after⟩ := result
          cases works with
          | false => cases done
          | true =>
              have written : (after.write x.fault (some index) path plaintext).1 = true → _ :=
                write_done
              simp only at done ⊢
              generalize after.write x.fault (some index) path plaintext = result
                at written done ⊢
              obtain ⟨works, last⟩ := result
              cases works with
              | false => cases done
              | true =>
                  obtain ⟨there, member⟩ := written rfl
                  exact ⟨plaintext, rfl, there, member⟩

/-- The relay fetches an entry. -/
theorem fetchRelayed_fetched (honest : HonestAnswers bytesOf x) :
    Fetched bytesOf clipDir entry index machine
      (fetchRelayed x machine entry index (destination clipDir entry)) := by
  obtain ⟨dirs, file, shape⟩ := safeCachePath_eq clipDir entry.relativePath entry.displayName
  have shape : destination clipDir entry = (descend clipDir dirs).child file := shape
  have effects : ∀ own : Place → Prop, own (destination clipDir entry).locate →
      Extends (OwnEffect machine.disk index own) machine
        (fetchRelayed x machine entry index (destination clipDir entry)).2 := by
    intro own owned
    rw [shape] at owned ⊢
    refine fetchRelayed_extends (fun _ _ missing => ownEffect_made missing) ?_ ?_
    · exact ownEffect_file nofun fun _ member => List.mem_singleton.mp member ▸ owned
    · exact ownEffect_file nofun fun _ member => List.mem_singleton.mp member ▸ owned
  refine ⟨effects _ (.inl rfl), fun done => ?_, fun done => ?_⟩
  · obtain ⟨plaintext, answered, there, member⟩ := fetchRelayed_done done
    exact ⟨_, member, rfl, List.mem_singleton_self _⟩
  · obtain ⟨plaintext, answered, there, member⟩ := fetchRelayed_done done
    exact ⟨plaintext, honest.relayed index plaintext answered, there⟩

end Fetch

/-! ## The loop -/

section Loop

variable {x : Surroundings} {fileClip : FileClip} {clipDir : LexPath String}
  {bytesOf : Nat → Option (List UInt8)} {receiving : Receiving}
  {missing : List (FileEntry × Nat)}

/-- What is still missing: files of the manifest in the order of their indexes, and every
file that is not recorded. -/
structure Remaining (fileClip : FileClip) (missing : List (FileEntry × Nat))
    (downloaded : Nat → Option (LexPath String)) : Prop where
  files : ∀ next ∈ missing, IsFile fileClip next.2 next.1
  ascending : missing.Pairwise fun a b => a.2 < b.2
  fresh : ∀ next ∈ missing, downloaded next.2 = none
  complete : ∀ index entry, IsFile fileClip index entry →
    downloaded index ≠ none ∨ (entry, index) ∈ missing

theorem missingFiles_remaining (fileClip : FileClip)
    (downloaded : Nat → Option (LexPath String)) :
    Remaining fileClip (missingFiles fileClip downloaded) downloaded where
  files := by
    intro next member
    obtain ⟨listed, kept⟩ := List.mem_filter.mp member
    rw [Bool.and_eq_true, beq_iff_eq] at kept
    exact ⟨List.mem_zipIdx_iff_getElem?.mp listed, kept.1⟩
  ascending := by
    apply List.Pairwise.sublist List.filter_sublist
    have indexes : (fileClip.files.zipIdx.map Prod.snd).Pairwise (· < ·) := by
      rw [List.zipIdx_map_snd]
      exact List.pairwise_lt_range'
    exact List.pairwise_map.mp indexes
  fresh := by
    intro next member
    obtain ⟨-, kept⟩ := List.mem_filter.mp member
    rw [Bool.and_eq_true, Option.isNone_iff_eq_none] at kept
    exact kept.2
  complete := by
    intro index entry file
    by_cases recorded : downloaded index = none
    · refine .inr (List.mem_filter.mpr ⟨List.mem_zipIdx_iff_getElem?.mpr file.1, ?_⟩)
      rw [Bool.and_eq_true, beq_iff_eq, Option.isNone_iff_eq_none]
      exact ⟨file.2, recorded⟩
    · exact .inl recorded

/-- The trace has an effect for the index on its destination. -/
def Put (clipDir : LexPath String) (entry : FileEntry) (index : Nat)
    (trace : List (Option Nat × FileEffect)) : Prop :=
  ∃ act ∈ trace, act.1 = some index ∧ (destination clipDir entry).locate ∈ act.2.files

/-- All files of the manifest before the index have been put at their destinations. -/
def PutBefore (fileClip : FileClip) (clipDir : LexPath String) (index : Nat)
    (trace : List (Option Nat × FileEffect)) : Prop :=
  ∀ earlier entry, earlier < index → IsFile fileClip earlier entry →
    Put clipDir entry earlier trace

theorem Put.append {entry : FileEntry} {index : Nat} {trace : List (Option Nat × FileEffect)}
    (put : Put clipDir entry index trace) (more : List (Option Nat × FileEffect)) :
    Put clipDir entry index (trace ++ more) := by
  obtain ⟨act, member, tagged, touches⟩ := put
  exact ⟨act, List.mem_append_left _ member, tagged, touches⟩

/-- Every file recorded is recorded at its destination, and has been put there; whatever
was done for an entry, the entries before it had been put. -/
structure Recorded (fileClip : FileClip) (clipDir : LexPath String) (receiving : Receiving) :
    Prop where
  recorded : ∀ index path, receiving.downloaded index = some path →
    ∃ entry, IsFile fileClip index entry ∧ path = destination clipDir entry ∧
      Put clipDir entry index receiving.machine.trace
  ordered : ∀ before index effect after,
    receiving.machine.trace = before ++ (some index, effect) :: after →
    PutBefore fileClip clipDir index before

/-- Effects for entries whose predecessors have been put keep the order. -/
theorem ordered_append {trace new : List (Option Nat × FileEffect)}
    (ordered : ∀ before index effect after, trace = before ++ (some index, effect) :: after →
      PutBefore fileClip clipDir index before)
    (fresh : ∀ act ∈ new, ∀ index, act.1 = some index → PutBefore fileClip clipDir index trace) :
    ∀ before index effect after, trace ++ new = before ++ (some index, effect) :: after →
      PutBefore fileClip clipDir index before := by
  intro before index effect after split
  rcases List.append_eq_append_iff.mp split with ⟨part, rfl, rest⟩ | ⟨part, rfl, rest⟩
  · have here : (some index, effect) ∈ new := by
      rw [rest]
      exact List.mem_append_right _ List.mem_cons_self
    intro earlier entry less file
    exact (fresh _ here index rfl earlier entry less file).append part
  · cases part with
    | nil =>
        have here : (some index, effect) ∈ new := by
          rw [List.nil_append] at rest
          rw [← rest]
          exact List.mem_cons_self
        have all := fresh _ here index rfl
        rw [List.append_nil] at all
        exact all
    | cons first others =>
        obtain ⟨rfl, -⟩ := List.cons_eq_cons.mp rest
        exact ordered before index effect others rfl

/-- At the next missing file, all files before it have been put. -/
theorem putBefore_next (state : Recorded fileClip clipDir receiving) {entry : FileEntry}
    {index : Nat} {rest : List (FileEntry × Nat)}
    (remaining : Remaining fileClip ((entry, index) :: rest) receiving.downloaded) :
    PutBefore fileClip clipDir index receiving.machine.trace := by
  intro earlier listed less file
  rcases remaining.complete earlier listed file with recorded | waiting
  · obtain ⟨path, found⟩ := Option.ne_none_iff_exists'.mp recorded
    obtain ⟨other, also, -, put⟩ := state.recorded earlier path found
    cases Option.some.inj (file.1.symm.trans also.1)
    exact put
  · rcases List.mem_cons.mp waiting with same | later
    · cases same
      omega
    · have after := List.rel_of_pairwise_cons remaining.ascending later
      omega

/-- Fetching the next missing file keeps the records, and recording it too. -/
theorem recorded_fetch (state : Recorded fileClip clipDir receiving) {entry : FileEntry}
    {index : Nat} {rest : List (FileEntry × Nat)}
    (remaining : Remaining fileClip ((entry, index) :: rest) receiving.downloaded)
    {result : Except Failure Unit × Receiver}
    (fetched : Fetched bytesOf clipDir entry index receiving.machine result) :
    Recorded fileClip clipDir ⟨result.2, receiving.downloaded⟩ ∧
      (result.1 = .ok () → Recorded fileClip clipDir
        ⟨result.2, Function.update receiving.downloaded index
          (some (destination clipDir entry))⟩) := by
  obtain ⟨new, traced, own, -⟩ := fetched.effects.trace
  have before := putBefore_next state remaining
  have ordered : ∀ before index effect after,
      result.2.trace = before ++ (some index, effect) :: after →
      PutBefore fileClip clipDir index before := by
    rw [traced]
    apply ordered_append state.ordered
    intro act member k tagged
    have same := (own act member).tagged.symm.trans tagged
    cases Option.some.inj same
    exact before
  have keeps : ∀ other path, receiving.downloaded other = some path →
      ∃ entry, IsFile fileClip other entry ∧ path = destination clipDir entry ∧
        Put clipDir entry other result.2.trace := by
    intro other path found
    obtain ⟨listed, file, there, put⟩ := state.recorded other path found
    refine ⟨listed, file, there, ?_⟩
    rw [traced]
    exact put.append new
  refine ⟨⟨keeps, ordered⟩, fun done => ⟨fun other path found => ?_, ordered⟩⟩
  by_cases same : other = index
  · subst same
    simp only [Function.update_self] at found
    cases found
    exact ⟨entry, remaining.files _ List.mem_cons_self, rfl, fetched.delivers done⟩
  · simp only [Function.update_of_ne same] at found
    exact keeps other path found

/-- Once the first missing file is recorded, the others remain. -/
theorem remaining_tail {entry : FileEntry} {index : Nat} {rest : List (FileEntry × Nat)}
    {downloaded : Nat → Option (LexPath String)}
    (remaining : Remaining fileClip ((entry, index) :: rest) downloaded) (path : LexPath String) :
    Remaining fileClip rest (Function.update downloaded index (some path)) where
  files := fun next member => remaining.files next (List.mem_cons_of_mem _ member)
  ascending := (List.pairwise_cons.mp remaining.ascending).2
  fresh := by
    intro next member
    have less := List.rel_of_pairwise_cons remaining.ascending member
    rw [Function.update_of_ne (Nat.ne_of_gt less)]
    exact remaining.fresh next (List.mem_cons_of_mem _ member)
  complete := by
    intro other listed file
    by_cases same : other = index
    · subst same
      exact .inl (by rw [Function.update_self]; exact Option.some_ne_none _)
    · rw [Function.update_of_ne same]
      apply (remaining.complete other listed file).imp_right
      intro member
      refine (List.mem_cons.mp member).resolve_left fun both => same ?_
      cases both
      rfl

/-- Nothing has been done yet for an entry after the next missing one. -/
def Behind (missing : List (FileEntry × Nat)) (trace : List (Option Nat × FileEffect)) : Prop :=
  ∀ act ∈ trace, ∀ index, act.1 = some index → ∀ next ∈ missing, index ≤ next.2

/-- The destinations of the manifest's files are pairwise different. -/
def DistinctDestinations (fileClip : FileClip) (clipDir : LexPath String) : Prop :=
  ∀ i j first second, i ≠ j → IsFile fileClip i first → IsFile fileClip j second →
    (destination clipDir first).locate ≠ (destination clipDir second).locate

/-- No temporary file that was opened is the destination of an earlier file. -/
def TemporariesApart (fileClip : FileClip) (clipDir : LexPath String)
    (trace : List (Option Nat × FileEffect)) : Prop :=
  ∀ i j first second, i < j → IsFile fileClip i first → IsFile fileClip j second →
    Opened clipDir second j trace →
      (temporary clipDir second).locate ≠ (destination clipDir first).locate

/-- After something is done for an entry to its destination, nothing is done there for
another. -/
def Undisturbed (fileClip : FileClip) (clipDir : LexPath String)
    (earlier later : Option Nat × FileEffect) : Prop :=
  ∀ index entry, IsFile fileClip index entry → earlier.1 = some index → later.1 ≠ some index →
    (destination clipDir entry).locate ∈ earlier.2.files →
      (destination clipDir entry).locate ∉ later.2.files

/-- The files recorded are complete, and none was disturbed. -/
structure Intact (fileClip : FileClip) (clipDir : LexPath String)
    (bytesOf : Nat → Option (List UInt8)) (receiving : Receiving) : Prop where
  content : ∀ index path, receiving.downloaded index = some path →
    ∃ bytes, bytesOf index = some bytes ∧
      receiving.machine.disk path.locate = some (.file bytes)
  undisturbed : receiving.machine.trace.Pairwise (Undisturbed fileClip clipDir)

/-- Another entry does not own the destination of an entry something was done for. -/
theorem not_own (distinct : DistinctDestinations fileClip clipDir) {entry other : FileEntry}
    {index earlier : Nat} {trace : List (Option Nat × FileEffect)}
    (apart : TemporariesApart fileClip clipDir trace) (file : IsFile fileClip index entry)
    (listed : IsFile fileClip earlier other) (less : earlier < index) :
    ¬ Own clipDir entry index trace (destination clipDir other).locate := by
  rintro (same | ⟨same, opened⟩)
  · exact distinct earlier index other entry (Nat.ne_of_lt less) listed file same
  · exact apart earlier index other entry less listed file opened same.symm

/-- **Fetching the next missing file leaves the others intact.** -/
theorem intact_fetch (state : Recorded fileClip clipDir receiving)
    (intact : Intact fileClip clipDir bytesOf receiving)
    (distinct : DistinctDestinations fileClip clipDir) {entry : FileEntry} {index : Nat}
    {rest : List (FileEntry × Nat)}
    (remaining : Remaining fileClip ((entry, index) :: rest) receiving.downloaded)
    (behind : Behind ((entry, index) :: rest) receiving.machine.trace)
    {result : Except Failure Unit × Receiver}
    (fetched : Fetched bytesOf clipDir entry index receiving.machine result)
    (apart : TemporariesApart fileClip clipDir result.2.trace) :
    Intact fileClip clipDir bytesOf ⟨result.2, receiving.downloaded⟩ ∧
      (result.1 = .ok () → Intact fileClip clipDir bytesOf
        ⟨result.2, Function.update receiving.downloaded index
          (some (destination clipDir entry))⟩) := by
  have file : IsFile fileClip index entry := remaining.files _ List.mem_cons_self
  have earlier : ∀ act ∈ receiving.machine.trace, ∀ other, act.1 = some other → other ≠ index →
      other < index := by
    intro act member other tagged different
    exact lt_of_le_of_ne (behind act member other tagged _ List.mem_cons_self) different
  have content : ∀ other path, receiving.downloaded other = some path →
      ∃ bytes, bytesOf other = some bytes ∧ result.2.disk path.locate = some (.file bytes) := by
    intro other path found
    obtain ⟨listed, itsFile, rfl, act, member, tagged, -⟩ := state.recorded other path found
    obtain ⟨bytes, source, there⟩ := intact.content other _ found
    have different : other ≠ index := by
      rintro rfl
      exact nomatch found.symm.trans (remaining.fresh _ List.mem_cons_self)
    have less := earlier act member other tagged different
    refine ⟨bytes, source, (fetched.effects.frame fun tag effect own touched => ?_).trans there⟩
    rcases FileEffect.mem_places touched with made | touched
    · exact nomatch (own.made _ made).symm.trans there
    · exact not_own distinct apart file itsFile less (own.files _ touched)
  have undisturbed : result.2.trace.Pairwise (Undisturbed fileClip clipDir) := by
    obtain ⟨new, traced, own, -⟩ := fetched.effects.trace
    rw [traced, List.pairwise_append]
    refine ⟨intact.undisturbed, ?_, ?_⟩
    · apply List.pairwise_of_forall_mem_list
      intro a first b second other listed _ tagged others
      exact absurd ((own b second).tagged.trans ((own a first).tagged.symm.trans tagged)) others
    · intro a old b fresh other listed itsFile tagged others touched again
      have different : other ≠ index := by
        rintro rfl
        exact others (own b fresh).tagged
      have less := earlier a old other tagged different
      exact not_own distinct apart file itsFile less ((own b fresh).files _ again)
  refine ⟨⟨content, undisturbed⟩, fun done => ⟨fun other path found => ?_, undisturbed⟩⟩
  by_cases same : other = index
  · subst same
    simp only [Function.update_self] at found
    cases found
    exact fetched.content done
  · simp only [Function.update_of_ne same] at found
    exact content other path found

/-- The state of the loop with these files left. -/
structure InLoop (fileClip : FileClip) (clipDir : LexPath String) (left : List (FileEntry × Nat))
    (receiving : Receiving) : Prop where
  recorded : Recorded fileClip clipDir receiving
  remaining : Remaining fileClip left receiving.downloaded
  behind : Behind left receiving.machine.trace

theorem behind_fetch {entry : FileEntry} {index : Nat} {rest : List (FileEntry × Nat)}
    (remaining : Remaining fileClip ((entry, index) :: rest) receiving.downloaded)
    (behind : Behind ((entry, index) :: rest) receiving.machine.trace)
    {result : Except Failure Unit × Receiver}
    (fetched : Fetched bytesOf clipDir entry index receiving.machine result) :
    Behind ((entry, index) :: rest) result.2.trace := by
  intro act member other tagged next waiting
  rcases fetched.effects.mem member with before | own
  · exact behind act before other tagged next waiting
  · obtain rfl := Option.some.inj (own.tagged.symm.trans tagged)
    rcases List.mem_cons.mp waiting with rfl | later
    · omega
    · exact Nat.le_of_lt (List.rel_of_pairwise_cons remaining.ascending later)

/-- What a loop over the missing files comes to: with some files left, none if it
succeeds, and nothing lost unless names collide. -/
structure LoopDone (fileClip : FileClip) (clipDir : LexPath String)
    (bytesOf : Nat → Option (List UInt8)) (receiving : Receiving)
    (result : Except Failure Unit × Receiving) : Prop where
  left : ∃ left, InLoop fileClip clipDir left result.2 ∧ (result.1 = .ok () → left = [])
  goesOn : Extends (fun _ _ => True) receiving.machine result.2.machine
  intact : DistinctDestinations fileClip clipDir →
    TemporariesApart fileClip clipDir result.2.machine.trace →
      Intact fileClip clipDir bytesOf receiving → Intact fileClip clipDir bytesOf result.2

/-- What holds of a longer trace about opened files holds of a shorter one. -/
theorem TemporariesApart.earlier {before after : Receiver}
    (apart : TemporariesApart fileClip clipDir after.trace)
    (goesOn : Extends (fun _ _ => True) before after) :
    TemporariesApart fileClip clipDir before.trace :=
  fun i j first second less file listed opened =>
    apart i j first second less file listed (goesOn.keeps opened)

theorem receiveEach_done
    {fetch : Receiver → FileEntry → Nat → LexPath String → Except Failure Unit × Receiver}
    (fetches : ∀ machine entry index, Fetched bytesOf clipDir entry index machine
      (fetch machine entry index (destination clipDir entry)))
    (missing : List (FileEntry × Nat)) (receiving : Receiving)
    (state : InLoop fileClip clipDir missing receiving) :
    LoopDone fileClip clipDir bytesOf receiving
      (receiveEach fetch clipDir missing receiving) := by
  induction missing generalizing receiving with
  | nil => exact ⟨⟨[], state, fun _ => rfl⟩, Extends.refl _, fun _ _ intact => intact⟩
  | cons next rest ih =>
      obtain ⟨entry, index⟩ := next
      obtain ⟨recorded, remaining, behind⟩ := state
      have fetched := fetches receiving.machine entry index
      unfold receiveEach
      rw [← destination]
      simp only
      generalize fetch receiving.machine entry index (destination clipDir entry) = result
        at fetched ⊢
      have records := recorded_fetch recorded remaining fetched
      have stays := behind_fetch remaining behind fetched
      have further : Extends (fun _ _ => True) receiving.machine result.2 :=
        fetched.effects.mono fun _ _ _ => trivial
      obtain ⟨outcome, after⟩ := result
      cases outcome with
      | error failure =>
          refine ⟨⟨_, ⟨records.1, remaining, stays⟩, nofun⟩, further,
            fun distinct apart intact => ?_⟩
          exact (intact_fetch recorded intact distinct remaining behind fetched apart).1
      | ok done =>
          have next := ih ⟨after, Function.update receiving.downloaded index
              (some (destination clipDir entry))⟩
            ⟨records.2 rfl, remaining_tail remaining _, fun act member other tagged later waiting =>
              stays act member other tagged later (List.mem_cons_of_mem _ waiting)⟩
          refine ⟨next.left, further.trans next.goesOn, fun distinct apart intact => ?_⟩
          apply next.intact distinct apart
          exact (intact_fetch recorded intact distinct remaining behind fetched
            (apart.earlier next.goesOn)).2 rfl

end Loop

/-! ## The routes -/

section Routes

variable {x : Surroundings} {fileClip : FileClip} {clipDir : LexPath String}
  {bytesOf : Nat → Option (List UInt8)} {receiving : Receiving}
  {left : List (FileEntry × Nat)}

/-- A directory made for the clip, where nothing was. -/
def ClipDirEffect (disk : Disk) (tag : Option Nat) (effect : FileEffect) : Prop :=
  tag = none ∧ ∃ place, effect = .madeDir place ∧ disk place = none

theorem inLoop_clipDir (state : InLoop fileClip clipDir left receiving) {machine : Receiver}
    (made : Extends (ClipDirEffect receiving.machine.disk) receiving.machine machine) :
    InLoop fileClip clipDir left { receiving with machine := machine } := by
  obtain ⟨new, traced, all, -⟩ := made.trace
  have untagged : ∀ act ∈ new, ∀ index : Nat, act.1 ≠ some index := by
    intro act member index tagged
    exact nomatch (all act member).1.symm.trans tagged
  refine ⟨⟨fun index path found => ?_, ?_⟩, state.remaining, ?_⟩
  · obtain ⟨entry, file, there, put⟩ := state.recorded.recorded index path found
    refine ⟨entry, file, there, ?_⟩
    simp only [traced]
    exact put.append new
  · simp only [traced]
    apply ordered_append state.recorded.ordered
    intro act member index tagged
    exact absurd tagged (untagged act member index)
  · intro act member index tagged
    simp only [traced] at member
    rcases List.mem_append.mp member with before | here
    · exact state.behind act before index tagged
    · exact absurd tagged (untagged act here index)

theorem intact_clipDir (intact : Intact fileClip clipDir bytesOf receiving) {machine : Receiver}
    (made : Extends (ClipDirEffect receiving.machine.disk) receiving.machine machine) :
    Intact fileClip clipDir bytesOf { receiving with machine := machine } where
  content := by
    intro index path found
    obtain ⟨bytes, source, there⟩ := intact.content index path found
    refine ⟨bytes, source, (made.frame fun tag effect own touched => ?_).trans there⟩
    obtain ⟨-, place, rfl, missing⟩ := own
    obtain rfl := List.mem_singleton.mp touched
    exact nomatch missing.symm.trans there
  undisturbed := by
    obtain ⟨new, traced, all, -⟩ := made.trace
    have untouched : ∀ act ∈ new, act.2.files = [] := by
      intro act member
      obtain ⟨-, place, same, -⟩ := all act member
      rw [same]
      rfl
    simp only [traced, List.pairwise_append]
    refine ⟨intact.undisturbed, ?_, ?_⟩
    · apply List.pairwise_of_forall_mem_list
      intro a _ b second _ _ _ _ _ _
      rw [untouched b second]
      exact List.not_mem_nil
    · intro a _ b second _ _ _ _ _ _
      rw [untouched b second]
      exact List.not_mem_nil

theorem receiveMissing_done
    {fetch : Receiver → FileEntry → Nat → LexPath String → Except Failure Unit × Receiver}
    (fetches : ∀ machine entry index, Fetched bytesOf clipDir entry index machine
      (fetch machine entry index (destination clipDir entry)))
    (missing : List (FileEntry × Nat)) (receiving : Receiving)
    (state : InLoop fileClip clipDir missing receiving) :
    LoopDone fileClip clipDir bytesOf receiving
      (receiveMissing x fetch clipDir missing receiving) := by
  have made : Extends (ClipDirEffect receiving.machine.disk) receiving.machine
      (receiving.machine.createDirAll x.fault none clipDir).2 :=
    createDirAll_extends fun place _ nothing => ⟨rfl, place, rfl, nothing⟩
  unfold receiveMissing
  generalize receiving.machine.createDirAll x.fault none clipDir = result at made ⊢
  obtain ⟨done, machine⟩ := result
  have state := inLoop_clipDir state made
  have further : Extends (fun _ _ => True) receiving.machine machine :=
    made.mono fun _ _ _ => trivial
  cases done with
  | false => exact ⟨⟨missing, state, nofun⟩, further, fun _ _ intact => intact_clipDir intact made⟩
  | true =>
      have loop := receiveEach_done fetches missing { receiving with machine := machine } state
      refine ⟨loop.left, further.trans loop.goesOn, fun distinct apart intact => ?_⟩
      exact loop.intact distinct apart (intact_clipDir intact made)

/-- The loop can be entered again, with whatever is missing now. -/
theorem inLoop_again (state : InLoop fileClip clipDir left receiving) :
    InLoop fileClip clipDir (missingFiles fileClip receiving.downloaded) receiving where
  recorded := state.recorded
  remaining := missingFiles_remaining fileClip receiving.downloaded
  behind := by
    intro act member index tagged next waiting
    have again := missingFiles_remaining fileClip receiving.downloaded
    rcases state.remaining.complete next.2 next.1 (again.files next waiting) with recorded | there
    · exact absurd (again.fresh next waiting) recorded
    · exact state.behind act member index tagged _ there

variable {cacheDir : LexPath String}

theorem downloadRemoteFiles_done {pending : PendingFileClip} (honest : HonestAnswers bytesOf x)
    (state : InLoop pending.fileClip (clipCacheDir cacheDir pending.fileClip) left receiving) :
    LoopDone pending.fileClip (clipCacheDir cacheDir pending.fileClip) bytesOf receiving
      (downloadRemoteFiles x cacheDir pending receiving) := by
  unfold downloadRemoteFiles
  cases resolvePeerBaseUrl x pending with
  | error failure => exact ⟨⟨left, state, nofun⟩, Extends.refl _, fun _ _ intact => intact⟩
  | ok url =>
      exact receiveMissing_done (fun _ _ _ => fetchDirect_fetched honest) _ receiving
        (inLoop_again state)

theorem downloadViaRelay_done (honest : HonestAnswers bytesOf x)
    (state : InLoop fileClip (clipCacheDir cacheDir fileClip) left receiving) :
    LoopDone fileClip (clipCacheDir cacheDir fileClip) bytesOf receiving
      (downloadViaRelay x cacheDir fileClip receiving) := by
  have again := inLoop_again state
  simp only [downloadViaRelay]
  split
  · rename_i nothing
    refine ⟨⟨_, again, fun _ => ?_⟩, Extends.refl _, fun _ _ intact => intact⟩
    exact List.isEmpty_iff.mp nothing
  · split
    · exact ⟨⟨_, again, nofun⟩, Extends.refl _, fun _ _ intact => intact⟩
    · exact receiveMissing_done (fun _ _ _ => fetchRelayed_fetched honest) _ receiving again

/-- Both routes together: the relay goes on where the direct route stopped. -/
theorem downloadFiles_done (pending : PendingFileClip) (preferRelay : Bool)
    (honest : HonestAnswers bytesOf x)
    (state : InLoop pending.fileClip (clipCacheDir cacheDir pending.fileClip) left receiving) :
    LoopDone pending.fileClip (clipCacheDir cacheDir pending.fileClip) bytesOf receiving
      (downloadFiles x preferRelay cacheDir pending receiving) := by
  unfold downloadFiles
  cases preferRelay with
  | true => exact downloadViaRelay_done honest state
  | false =>
      have direct := downloadRemoteFiles_done honest state
      simp only [Bool.false_eq_true, if_false]
      generalize downloadRemoteFiles x cacheDir pending receiving = result at direct ⊢
      obtain ⟨outcome, between⟩ := result
      cases outcome with
      | ok done => exact direct
      | error failure =>
          obtain ⟨left, stopped, -⟩ := direct.left
          have relayed := downloadViaRelay_done honest stopped
          simp only
          generalize downloadViaRelay x cacheDir pending.fileClip between = result at relayed ⊢
          obtain ⟨outcome, last⟩ := result
          have further := direct.goesOn.trans relayed.goesOn
          have intact : DistinctDestinations pending.fileClip _ →
              TemporariesApart pending.fileClip _ last.machine.trace →
              Intact pending.fileClip _ bytesOf receiving →
              Intact pending.fileClip (clipCacheDir cacheDir pending.fileClip) bytesOf last :=
            fun distinct apart intact => relayed.intact distinct apart
              (direct.intact distinct (apart.earlier relayed.goesOn) intact)
          obtain ⟨left, after, success⟩ := relayed.left
          cases outcome with
          | ok done => exact ⟨⟨left, after, success⟩, further, intact⟩
          | error failure => exact ⟨⟨left, after, nofun⟩, further, intact⟩

end Routes

/-! ## Opening a temporary file -/

section Opening

variable {x : Surroundings} {fileClip : FileClip} {clipDir cacheDir : LexPath String}
  {entry : FileEntry} {index : Nat}

/-- The direct route comes to open the temporary file of an entry: it is taken and
delivers every file before, the source answers, and the file can be created. -/
structure OpensTemporary (x : Surroundings) (preferRelay : Bool) (cacheDir : LexPath String)
    (pending : PendingFileClip) (machine : Receiver) (index : Nat)
    (destination : LexPath String) : Prop where
  direct : preferRelay = false
  source : ∃ url, resolvePeerBaseUrl x pending = .ok url
  answered : x.responses index ≠ none
  reached : ∃ receiving, CanOpen x receiving.machine index destination ∧
    receiveMissing x (fetchDirect x) (clipCacheDir cacheDir pending.fileClip)
      ((missingFiles pending.fileClip fun _ => none).filter fun next => next.2 < index)
      ⟨machine, fun _ => none⟩ = (.ok (), receiving)

/-- Nothing has been done for an index. -/
def Untouched (index : Nat) (trace : List (Option Nat × FileEffect)) : Prop :=
  ∀ effect, (some index, effect) ∉ trace

theorem Untouched.not_opened {trace : List (Option Nat × FileEffect)}
    (untouched : Untouched index trace) : ¬ Opened clipDir entry index trace :=
  untouched _

theorem Untouched.extends {P : Option Nat → FileEffect → Prop} {before after : Receiver}
    (untouched : Untouched index before.trace) (further : Extends P before after)
    (others : ∀ effect, ¬ P (some index) effect) : Untouched index after.trace :=
  fun effect member => (further.mem member).elim (untouched effect) (others effect)

/-- Effects for other indexes open nothing for this one. -/
theorem opened_extends {P : Option Nat → FileEffect → Prop} {before after : Receiver}
    (further : Extends P before after)
    (others : ¬ P (some index) (.created (temporary clipDir entry).locate)) :
    Opened clipDir entry index after.trace ↔ Opened clipDir entry index before.trace :=
  ⟨fun opened => (further.mem opened).resolve_right others, further.keeps⟩

/-- Fetching an entry directly opens its temporary file exactly if the source answers
and the file can be created. -/
theorem fetchDirect_opened (x : Surroundings) (clipDir : LexPath String) (entry : FileEntry)
    {machine : Receiver} (untouched : Untouched index machine.trace) :
    Opened clipDir entry index
        (fetchDirect x machine entry index (destination clipDir entry)).2.trace ↔
      x.responses index ≠ none ∧ CanOpen x machine index (destination clipDir entry) := by
  obtain ⟨dirs, file, shape⟩ := safeCachePath_eq clipDir entry.relativePath entry.displayName
  have inside : (destination clipDir entry).parent = some (descend clipDir dirs) := by
    rw [destination, shape, LexPath.parent_child]
  unfold fetchDirect
  cases x.responses index with
  | none => exact iff_of_false untouched.not_opened fun both => both.1 rfl
  | some response =>
      have outcome : DirectOutcome x clipDir entry index response machine _ :=
        downloadPeerFileToCache_outcome x response inside
      simp only
      generalize downloadPeerFileToCache x machine index response entry
        (destination clipDir entry) = result at outcome ⊢
      cases outcome with
      | stopped failure after closed made =>
          refine iff_of_false (fun opened => ?_) fun both => closed both.2
          rcases (made fun _ => False).mem opened with before | own
          · exact untouched _ before
          · exact own.files _ (List.mem_singleton_self _)
      | opened outcome after can opens complete =>
          exact iff_of_true opens ⟨Option.some_ne_none _, can⟩

/-- What a loop of direct fetches does is tagged with one of its indexes. -/
theorem receiveEach_tagged (x : Surroundings) (clipDir : LexPath String)
    (missing : List (FileEntry × Nat)) (receiving : Receiving) :
    Extends (fun tag _ => ∃ next ∈ missing, tag = some next.2) receiving.machine
      (receiveEach (fetchDirect x) clipDir missing receiving).2.machine := by
  refine receiveEach_extends (fun _ => True) (fun _ _ _ _ => trivial) ?_ receiving trivial
  intro machine next member _
  obtain ⟨dirs, file, shape⟩ := safeCachePath_eq clipDir next.1.relativePath next.1.displayName
  rw [shape]
  unfold fetchDirect
  cases x.responses next.2 with
  | none => exact Extends.refl machine
  | some response =>
      have tagged : ∃ other ∈ missing, some next.2 = some other.2 := ⟨next, member, rfl⟩
      exact downloadPeerFileToCache_extends (fun _ _ _ => tagged) tagged tagged tagged tagged

/-- **Where a loop of direct fetches opens a temporary file**: at its entry, when the
loop gets there. -/
theorem receiveEach_opened (x : Surroundings) (clipDir : LexPath String) (entry : FileEntry)
    {before after : List (FileEntry × Nat)} (receiving : Receiving)
    (untouched : Untouched index receiving.machine.trace)
    (earlier : ∀ next ∈ before, next.2 < index) (later : ∀ next ∈ after, index < next.2) :
    Opened clipDir entry index
        (receiveEach (fetchDirect x) clipDir (before ++ (entry, index) :: after)
          receiving).2.machine.trace ↔
      x.responses index ≠ none ∧ ∃ between,
        CanOpen x between.machine index (destination clipDir entry) ∧
        receiveEach (fetchDirect x) clipDir before receiving = (.ok (), between) := by
  have tagged := receiveEach_tagged x clipDir before receiving
  rw [receiveEach_append]
  generalize receiveEach (fetchDirect x) clipDir before receiving = result at tagged ⊢
  obtain ⟨outcome, between⟩ := result
  have untouched : Untouched index between.machine.trace := by
    apply untouched.extends tagged
    intro _
    rintro ⟨next, member, same⟩
    have before : next.2 < index := earlier next member
    have here := Option.some.inj same
    omega
  cases outcome with
  | error failure =>
      apply iff_of_false untouched.not_opened
      rintro ⟨-, other, -, same⟩
      cases same
  | ok done =>
      have here : Opened clipDir entry index _ ↔ _ :=
        fetchDirect_opened x clipDir entry untouched
      have result_iff : (∃ other, CanOpen x other.machine index (destination clipDir entry) ∧
          ((.ok (), between) : Except Failure Unit × Receiving) = (.ok (), other)) ↔
          CanOpen x between.machine index (destination clipDir entry) := by
        constructor
        · rintro ⟨other, can, same⟩
          cases same
          exact can
        · exact fun can => ⟨between, can, rfl⟩
      rw [result_iff, ← here]
      simp only [receiveEach]
      rw [← destination]
      generalize fetchDirect x between.machine entry index (destination clipDir entry) = result
      obtain ⟨outcome, machine⟩ := result
      cases outcome with
      | error failure => exact Iff.rfl
      | ok done =>
          refine opened_extends (receiveEach_tagged x clipDir after ⟨machine, Function.update
            between.downloaded index (some (destination clipDir entry))⟩) ?_
          rintro ⟨next, member, same⟩
          have behind : index < next.2 := later next member
          have here := Option.some.inj same
          omega

/-- So does the loop with the directory of the clip created before it. -/
theorem receiveMissing_opened (x : Surroundings) (clipDir : LexPath String) (entry : FileEntry)
    {before after : List (FileEntry × Nat)} (receiving : Receiving)
    (untouched : Untouched index receiving.machine.trace)
    (earlier : ∀ next ∈ before, next.2 < index) (later : ∀ next ∈ after, index < next.2) :
    Opened clipDir entry index
        (receiveMissing x (fetchDirect x) clipDir (before ++ (entry, index) :: after)
          receiving).2.machine.trace ↔
      x.responses index ≠ none ∧ ∃ between,
        CanOpen x between.machine index (destination clipDir entry) ∧
        receiveMissing x (fetchDirect x) clipDir before receiving = (.ok (), between) := by
  have made : Extends (fun tag _ => tag = none) receiving.machine
      (receiving.machine.createDirAll x.fault none clipDir).2 :=
    createDirAll_extends fun _ _ _ => rfl
  unfold receiveMissing
  generalize receiving.machine.createDirAll x.fault none clipDir = result at made ⊢
  obtain ⟨done, machine⟩ := result
  have untouched : Untouched index machine.trace := untouched.extends made fun _ => nofun
  cases done with
  | false =>
      apply iff_of_false untouched.not_opened
      rintro ⟨-, other, -, same⟩
      cases same
  | true =>
      exact receiveEach_opened x clipDir entry { receiving with machine := machine } untouched
        earlier later

/-- What the relay creates for an index is the destination of its file. -/
def RelayEffect (fileClip : FileClip) (clipDir : LexPath String) (tag : Option Nat)
    (effect : FileEffect) : Prop :=
  ∀ index place, tag = some index → effect = .created place →
    ∃ entry, IsFile fileClip index entry ∧ place = (destination clipDir entry).locate

theorem downloadViaRelay_relays (receiving : Receiving) :
    Extends (RelayEffect fileClip (clipCacheDir cacheDir fileClip)) receiving.machine
      (downloadViaRelay x cacheDir fileClip receiving).2.machine := by
  have made : Extends (RelayEffect fileClip (clipCacheDir cacheDir fileClip)) receiving.machine
      (receiving.machine.createDirAll x.fault none (clipCacheDir cacheDir fileClip)).2 :=
    createDirAll_extends fun _ _ _ => nofun
  simp only [downloadViaRelay]
  split
  · exact Extends.refl _
  · split
    · exact Extends.refl _
    · unfold receiveMissing
      generalize receiving.machine.createDirAll x.fault none (clipCacheDir cacheDir fileClip)
        = result at made ⊢
      obtain ⟨done, machine⟩ := result
      cases done with
      | false => exact made
      | true =>
          refine made.trans (receiveEach_extends (fun _ => True) (fun _ _ _ _ => trivial)
            (fun machine next member _ => ?_) { receiving with machine := machine } trivial)
          have file := (missingFiles_remaining fileClip receiving.downloaded).files next member
          obtain ⟨dirs, last, shape⟩ := safeCachePath_eq (clipCacheDir cacheDir fileClip)
            next.1.relativePath next.1.displayName
          rw [shape]
          refine fetchRelayed_extends (fun _ _ _ => nofun) ?_ nofun
          rintro index place tagged created
          cases tagged
          cases created
          refine ⟨next.1, file, ?_⟩
          rw [destination, shape]

/-- The relay opens no temporary file, unless that is the destination itself. -/
theorem downloadViaRelay_opened (receiving : Receiving) (file : IsFile fileClip index entry)
    (different : (temporary (clipCacheDir cacheDir fileClip) entry).locate ≠
      (destination (clipCacheDir cacheDir fileClip) entry).locate) :
    Opened (clipCacheDir cacheDir fileClip) entry index
        (downloadViaRelay x cacheDir fileClip receiving).2.machine.trace ↔
      Opened (clipCacheDir cacheDir fileClip) entry index receiving.machine.trace := by
  apply opened_extends (downloadViaRelay_relays receiving)
  intro relays
  obtain ⟨other, also, same⟩ := relays index _ rfl rfl
  cases Option.some.inj (file.1.symm.trans also.1)
  exact different same

/-- The missing files around one of them. -/
theorem missingFiles_split (file : IsFile fileClip index entry) :
    ∃ before after, missingFiles fileClip (fun _ => none) = before ++ (entry, index) :: after ∧
      before = (missingFiles fileClip fun _ => none).filter (fun next => next.2 < index) ∧
      (∀ next ∈ before, next.2 < index) ∧ ∀ next ∈ after, index < next.2 := by
  have remaining := missingFiles_remaining fileClip fun _ => none
  have member := (remaining.complete index entry file).resolve_left fun recorded => recorded rfl
  obtain ⟨before, after, split⟩ := List.append_of_mem member
  have ascending := remaining.ascending
  rw [split, List.pairwise_append, List.pairwise_cons] at ascending
  obtain ⟨-, ⟨later, -⟩, apart⟩ := ascending
  have earlier : ∀ next ∈ before, next.2 < index :=
    fun next member => apart next member _ List.mem_cons_self
  refine ⟨before, after, split, ?_, earlier, later⟩
  rw [split, List.filter_append, List.filter_eq_self.mpr, List.filter_eq_nil_iff.mpr,
    List.append_nil]
  · intro next member
    rcases List.mem_cons.mp member with rfl | member
    · simp
    · simpa using Nat.le_of_lt (later next member)
  · exact fun next member => decide_eq_true (earlier next member)

theorem downloadRemoteFiles_opened {pending : PendingFileClip} {disk : Disk} {calls : Nat}
    (file : IsFile pending.fileClip index entry) :
    Opened (clipCacheDir cacheDir pending.fileClip) entry index
        (downloadRemoteFiles x cacheDir pending
          ⟨⟨disk, [], calls⟩, fun _ => none⟩).2.machine.trace ↔
      OpensTemporary x false cacheDir pending ⟨disk, [], calls⟩ index
        (destination (clipCacheDir cacheDir pending.fileClip) entry) := by
  have untouched : Untouched index ([] : List (Option Nat × FileEffect)) :=
    fun _ => List.not_mem_nil
  unfold downloadRemoteFiles
  cases resolved : resolvePeerBaseUrl x pending with
  | error failure =>
      apply iff_of_false untouched.not_opened
      intro opens
      obtain ⟨url, found⟩ := opens.source
      exact nomatch resolved.symm.trans found
  | ok url =>
      obtain ⟨before, after, split, filtered, earlier, later⟩ := missingFiles_split file
      have opened := receiveMissing_opened x (clipCacheDir cacheDir pending.fileClip) entry
        ⟨⟨disk, [], calls⟩, fun _ => none⟩ untouched earlier later
      rw [← split, filtered] at opened
      refine opened.trans ⟨fun both => ⟨rfl, ⟨url, resolved⟩, both.1, both.2⟩, fun opens => ?_⟩
      exact ⟨opens.answered, opens.reached⟩

/-- **When the direct route opens a temporary file.** -/
theorem downloadFiles_opened {preferRelay : Bool} {pending : PendingFileClip} {disk : Disk}
    {calls : Nat} (file : IsFile pending.fileClip index entry)
    (different : (temporary (clipCacheDir cacheDir pending.fileClip) entry).locate ≠
      (destination (clipCacheDir cacheDir pending.fileClip) entry).locate) :
    Opened (clipCacheDir cacheDir pending.fileClip) entry index
        (downloadFiles x preferRelay cacheDir pending
          ⟨⟨disk, [], calls⟩, fun _ => none⟩).2.machine.trace ↔
      OpensTemporary x preferRelay cacheDir pending ⟨disk, [], calls⟩ index
        (destination (clipCacheDir cacheDir pending.fileClip) entry) := by
  unfold downloadFiles
  cases preferRelay with
  | true =>
      simp only [if_true]
      rw [downloadViaRelay_opened _ file different]
      exact iff_of_false List.not_mem_nil fun opens => nomatch opens.direct
  | false =>
      rw [← downloadRemoteFiles_opened file]
      simp only [Bool.false_eq_true, if_false]
      generalize downloadRemoteFiles x cacheDir pending _ = result
      obtain ⟨outcome, between⟩ := result
      cases outcome with
      | ok done => exact Iff.rfl
      | error failure =>
          rw [← downloadViaRelay_opened between file different]
          simp only
          generalize downloadViaRelay x cacheDir pending.fileClip between = result
          obtain ⟨outcome, last⟩ := result
          cases outcome with
          | ok done => exact Iff.rfl
          | error failure => exact Iff.rfl

end Opening

end AirPaste.Agent
