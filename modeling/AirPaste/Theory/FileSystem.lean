/-
# Theory.FileSystem — system calls on paths, and what they touch

A disk has a directory or a file with its bytes at each lexical location, or nothing.
A `Machine` is a disk with a trace of the effects so far, each under a tag that says on
whose behalf it happened.  Whether the n-th call fails is given by `fault`: `none` when
it succeeds, and otherwise how much a failing write had written.

`Extends P` relates a machine to a later one when every effect in between satisfies
`P`; it carries the frame: what no effect touches is unchanged, and directories stay.
-/
import Mathlib.Data.Set.Finite.Basic
import Mathlib.Logic.Function.Basic
import AirPaste.Theory.LexPath

namespace AirPaste.Theory

set_option autoImplicit false

abbrev Place := Location String

inductive Node where
  | dir
  | file (bytes : List UInt8)
  deriving DecidableEq

/-- What is at each place.  A disk holds finitely many directories and files. -/
structure Disk where
  node : Place → Option Node
  finite : {place | node place ≠ none}.Finite

instance : CoeFun Disk fun _ => Place → Option Node := ⟨Disk.node⟩

namespace Disk

def empty : Disk := ⟨fun _ => none, Set.finite_empty.subset fun _ present => present rfl⟩

def set (disk : Disk) (place : Place) (node : Option Node) : Disk where
  node := Function.update disk.node place node
  finite := by
    apply (disk.finite.insert place).subset
    intro other present
    by_cases same : other = place
    · exact Set.mem_insert_iff.mpr (.inl same)
    · have present : Function.update disk.node place node other ≠ none := present
      rw [Function.update_of_ne same] at present
      exact Set.mem_insert_of_mem _ present

/-- Append to the file at a place, if there is one. -/
def append (disk : Disk) (place : Place) (bytes : List UInt8) : Disk :=
  match disk place with
  | some (.file before) => disk.set place (some (.file (before ++ bytes)))
  | _ => disk

variable {disk : Disk} {place other : Place}

theorem ext_node {first second : Disk} (same : ∀ place, first place = second place) :
    first = second := by
  obtain ⟨node, finite⟩ := first
  obtain ⟨node', finite'⟩ := second
  obtain rfl : node = node' := funext same
  rfl

@[simp] theorem set_self (disk : Disk) (place : Place) (node : Option Node) :
    disk.set place node place = node := Function.update_self ..

theorem set_of_ne (disk : Disk) (different : other ≠ place) (node : Option Node) :
    disk.set place node other = disk other := Function.update_of_ne different ..

theorem set_same (disk : Disk) (place : Place) : disk.set place (disk place) = disk :=
  ext_node fun other => congrFun (Function.update_eq_self place disk.node) other

@[simp] theorem set_set (disk : Disk) (place : Place) (first second : Option Node) :
    (disk.set place first).set place second = disk.set place second :=
  ext_node fun other => by
    simp only [set]
    rw [Function.update_idem]

theorem append_of_ne (disk : Disk) (different : other ≠ place) (bytes : List UInt8) :
    disk.append place bytes other = disk other := by
  unfold append
  rcases disk place with _ | (_ | before)
  · rfl
  · rfl
  · exact set_of_ne _ different _

theorem append_eq_set {before : List UInt8} (content : disk place = some (.file before))
    (bytes : List UInt8) :
    disk.append place bytes = disk.set place (some (.file (before ++ bytes))) := by
  simp only [append]
  simp only [content]

theorem append_file {before : List UInt8} (content : disk place = some (.file before))
    (bytes : List UInt8) : disk.append place bytes place = some (.file (before ++ bytes)) := by
  rw [append_eq_set content, set_self]

theorem append_dir (present : disk other = some .dir) (bytes : List UInt8) :
    disk.append place bytes other = some .dir := by
  by_cases same : other = place
  · subst same
    simp only [append]
    simp only [present]
  · exact (disk.append_of_ne same bytes).trans present

/-- Somewhere among infinitely many places there is nothing. -/
theorem exists_free (disk : Disk) {places : Nat → Place} (distinct : Function.Injective places) :
    ∃ n, disk (places n) = none := by
  obtain ⟨_, ⟨n, rfl⟩, free⟩ :=
    (Set.infinite_range_of_injective distinct).exists_notMem_finite disk.finite
  exact ⟨n, not_not.mp free⟩

end Disk

inductive FileEffect where
  | madeDir (place : Place)
  | created (place : Place)
  | wrote (place : Place)
  | renamed (source target : Place)
  | removed (place : Place)
  deriving DecidableEq

/-- The places an effect creates, changes or removes something at. -/
def FileEffect.places : FileEffect → List Place
  | .madeDir place => [place]
  | .created place => [place]
  | .wrote place => [place]
  | .renamed source target => [source, target]
  | .removed place => [place]

/-- The places whose file an effect creates, changes or removes. -/
def FileEffect.files : FileEffect → List Place
  | .madeDir _ => []
  | effect => effect.places

theorem FileEffect.mem_places {effect : FileEffect} {place : Place}
    (member : place ∈ effect.places) : effect = .madeDir place ∨ place ∈ effect.files := by
  cases effect with
  | madeDir made =>
      obtain rfl := List.mem_singleton.mp member
      exact .inl rfl
  | _ => exact .inr member

structure Machine (τ : Type) where
  disk : Disk
  trace : List (τ × FileEffect)
  /-- How many calls have been made. -/
  calls : Nat

namespace Machine

variable {τ : Type}

/-- One call: it has its effect when it is possible and does not fail. -/
def call (fault : Nat → Option Nat) (machine : Machine τ) (tag : τ) (possible : Bool)
    (effect : FileEffect) (disk : Disk) : Bool × Machine τ :=
  if possible = true ∧ fault machine.calls = none then
    (true, ⟨disk, machine.trace ++ [(tag, effect)], machine.calls + 1⟩)
  else (false, { machine with calls := machine.calls + 1 })

/-- A call without effect. -/
def flush (fault : Nat → Option Nat) (machine : Machine τ) : Bool × Machine τ :=
  ((fault machine.calls).isNone, { machine with calls := machine.calls + 1 })

/-- `mkdir`, unless the directory exists. -/
def ensureDir (fault : Nat → Option Nat) (machine : Machine τ) (tag : τ) (place : Place) :
    Bool × Machine τ :=
  if machine.disk place = some .dir then (true, machine)
  else
    machine.call fault tag (machine.disk place).isNone (.madeDir place)
      (machine.disk.set place (some .dir))

def ensureDirs (fault : Nat → Option Nat) (tag : τ) :
    List Place → Machine τ → Bool × Machine τ
  | [], machine => (true, machine)
  | place :: rest, machine =>
      match machine.ensureDir fault tag place with
      | (true, machine) => ensureDirs fault tag rest machine
      | (false, machine) => (false, machine)

/-- `create_dir_all`: the directories a path names on the way, as far as they are missing. -/
def createDirAll (fault : Nat → Option Nat) (machine : Machine τ) (tag : τ)
    (path : LexPath String) : Bool × Machine τ :=
  if path.hasNul then (false, machine) else ensureDirs fault tag path.way machine

/-- `File::create`: an empty file, or an existing one truncated. -/
def createFile (fault : Nat → Option Nat) (machine : Machine τ) (tag : τ)
    (path : LexPath String) : Bool × Machine τ :=
  machine.call fault tag (!path.hasNul && machine.disk path.locate != some .dir)
    (.created path.locate) (machine.disk.set path.locate (some (.file [])))

/-- `write_all` to an open file: when it fails, a part may have been written. -/
def writeAll (fault : Nat → Option Nat) (machine : Machine τ) (tag : τ) (path : LexPath String)
    (bytes : List UInt8) : Bool × Machine τ :=
  let written : List UInt8 :=
    match fault machine.calls with
    | none => bytes
    | some n => bytes.take n
  ((fault machine.calls).isNone,
    { disk := machine.disk.append path.locate written
      trace := machine.trace ++ [(tag, .wrote path.locate)]
      calls := machine.calls + 1 })

/-- `rename` of a file. -/
def rename (fault : Nat → Option Nat) (machine : Machine τ) (tag : τ)
    (source target : LexPath String) : Bool × Machine τ :=
  match machine.disk source.locate with
  | some (.file bytes) =>
      machine.call fault tag
        (!source.hasNul && !target.hasNul && machine.disk target.locate != some .dir)
        (.renamed source.locate target.locate)
        ((machine.disk.set source.locate none).set target.locate (some (.file bytes)))
  | _ => (false, { machine with calls := machine.calls + 1 })

/-- `remove_file`. -/
def removeFile (fault : Nat → Option Nat) (machine : Machine τ) (tag : τ)
    (path : LexPath String) : Bool × Machine τ :=
  match machine.disk path.locate with
  | some (.file _) =>
      machine.call fault tag (!path.hasNul) (.removed path.locate)
        (machine.disk.set path.locate none)
  | _ => (false, { machine with calls := machine.calls + 1 })

/-- `fs::write`. -/
def write (fault : Nat → Option Nat) (machine : Machine τ) (tag : τ) (path : LexPath String)
    (bytes : List UInt8) : Bool × Machine τ :=
  match machine.createFile fault tag path with
  | (true, machine) => machine.writeAll fault tag path bytes
  | (false, machine) => (false, machine)

/-! ## Effects and frames -/

/-- The later machine has gone on with effects that satisfy `P`. -/
structure Extends (P : τ → FileEffect → Prop) (before after : Machine τ) : Prop where
  trace : ∃ new, after.trace = before.trace ++ new ∧ (∀ entry ∈ new, P entry.1 entry.2) ∧
    ∀ place, (∀ entry ∈ new, place ∉ entry.2.places) → after.disk place = before.disk place
  dirs : ∀ place, before.disk place = some .dir → after.disk place = some .dir

section Extends

variable {P Q : τ → FileEffect → Prop} {first second third machine : Machine τ}
  {fault : Nat → Option Nat} {tag : τ} {path : LexPath String}

theorem Extends.refl (machine : Machine τ) : Extends P machine machine where
  trace := ⟨[], (List.append_nil _).symm, nofun, fun _ _ => rfl⟩
  dirs := fun _ present => present

theorem Extends.trans (left : Extends P first second) (right : Extends P second third) :
    Extends P first third where
  trace := by
    obtain ⟨new, traced, all, frame⟩ := left.trace
    obtain ⟨more, tracedMore, allMore, frameMore⟩ := right.trace
    refine ⟨new ++ more, by rw [tracedMore, traced, List.append_assoc], ?_, ?_⟩
    · intro entry member
      rcases List.mem_append.mp member with early | late
      · exact all entry early
      · exact allMore entry late
    · intro place untouched
      rw [frameMore place fun entry member => untouched entry (List.mem_append_right _ member)]
      exact frame place fun entry member => untouched entry (List.mem_append_left _ member)
  dirs := fun place present => right.dirs place (left.dirs place present)

theorem Extends.mono (extends' : Extends P first second)
    (weaker : ∀ tag effect, P tag effect → Q tag effect) : Extends Q first second where
  trace := by
    obtain ⟨new, traced, all, frame⟩ := extends'.trace
    exact ⟨new, traced, fun entry member => weaker _ _ (all entry member), frame⟩
  dirs := extends'.dirs

/-- What no effect that satisfies `P` touches is unchanged. -/
theorem Extends.frame (extends' : Extends P first second) {place : Place}
    (avoids : ∀ tag effect, P tag effect → place ∉ effect.places) :
    second.disk place = first.disk place := by
  obtain ⟨new, -, all, frame⟩ := extends'.trace
  exact frame place fun entry member => avoids _ _ (all entry member)

/-- An effect of the later machine happened before or satisfies `P`. -/
theorem Extends.mem (extends' : Extends P first second) {entry : τ × FileEffect}
    (member : entry ∈ second.trace) : entry ∈ first.trace ∨ P entry.1 entry.2 := by
  obtain ⟨new, traced, all, -⟩ := extends'.trace
  rw [traced] at member
  exact (List.mem_append.mp member).imp_right (all entry)

theorem Extends.keeps (extends' : Extends P first second) {entry : τ × FileEffect}
    (member : entry ∈ first.trace) : entry ∈ second.trace := by
  obtain ⟨new, traced, -, -⟩ := extends'.trace
  rw [traced]
  exact List.mem_append_left _ member

/-- Only the number of calls has changed. -/
theorem extends_calls (machine : Machine τ) (calls : Nat) :
    Extends P machine { machine with calls := calls } where
  trace := ⟨[], (List.append_nil _).symm, nofun, fun _ _ => rfl⟩
  dirs := fun _ present => present

/-- A call is its effect or nothing. -/
theorem call_extends {possible : Bool} {effect : FileEffect} {disk : Disk} (holds : P tag effect)
    (frame : ∀ place, place ∉ effect.places → disk place = machine.disk place)
    (dirs : possible = true → ∀ place, machine.disk place = some .dir → disk place = some .dir) :
    Extends P machine (machine.call fault tag possible effect disk).2 := by
  unfold call
  split
  · rename_i succeeds
    exact
      { trace := by
          refine ⟨[(tag, effect)], rfl, ?_, ?_⟩
          · intro entry member
            obtain rfl := List.mem_singleton.mp member
            exact holds
          · intro place untouched
            exact frame place (untouched (tag, effect) (List.mem_singleton_self _))
        dirs := dirs succeeds.1 }
  · exact extends_calls machine _

theorem flush_extends (fault : Nat → Option Nat) (machine : Machine τ) :
    Extends P machine (machine.flush fault).2 :=
  extends_calls machine _

theorem createFile_extends (fault : Nat → Option Nat) (machine : Machine τ)
    (holds : P tag (.created path.locate)) :
    Extends P machine (machine.createFile fault tag path).2 := by
  simp only [createFile]
  apply call_extends holds
  · intro place untouched
    exact Disk.set_of_ne _ (fun same => untouched (List.mem_singleton.mpr same)) _
  · intro possible place present
    refine (Disk.set_of_ne _ ?_ _).trans present
    rintro rfl
    simp [present] at possible

theorem writeAll_extends (fault : Nat → Option Nat) (machine : Machine τ) (bytes : List UInt8)
    (holds : P tag (.wrote path.locate)) :
    Extends P machine (machine.writeAll fault tag path bytes).2 where
  trace := by
    refine ⟨[(tag, .wrote path.locate)], rfl, ?_, ?_⟩
    · intro entry member
      obtain rfl := List.mem_singleton.mp member
      exact holds
    · intro place untouched
      have elsewhere : place ≠ path.locate := fun same =>
        untouched (tag, .wrote path.locate) (List.mem_singleton_self _)
          (List.mem_singleton.mpr same)
      exact Disk.append_of_ne _ elsewhere _
  dirs := fun _ present => Disk.append_dir present _

theorem rename_extends (fault : Nat → Option Nat) (machine : Machine τ)
    {source target : LexPath String} (holds : P tag (.renamed source.locate target.locate)) :
    Extends P machine (machine.rename fault tag source target).2 := by
  unfold rename
  split
  · rename_i bytes content
    apply call_extends holds
    · intro place untouched
      rw [Disk.set_of_ne, Disk.set_of_ne]
      · exact fun same => untouched (List.mem_cons.mpr (.inl same))
      · exact fun same => untouched (List.mem_cons_of_mem _ (List.mem_singleton.mpr same))
    · intro possible place present
      rw [Disk.set_of_ne, Disk.set_of_ne, present]
      · rintro rfl
        exact nomatch content.symm.trans present
      · rintro rfl
        simp [present] at possible
  · exact extends_calls machine _

theorem removeFile_extends (fault : Nat → Option Nat) (machine : Machine τ)
    (holds : P tag (.removed path.locate)) :
    Extends P machine (machine.removeFile fault tag path).2 := by
  unfold removeFile
  split
  · rename_i bytes content
    apply call_extends holds
    · intro place untouched
      exact Disk.set_of_ne _ (fun same => untouched (List.mem_singleton.mpr same)) _
    · intro possible place present
      refine (Disk.set_of_ne _ ?_ _).trans present
      rintro rfl
      exact nomatch content.symm.trans present
  · exact extends_calls machine _

theorem write_extends (fault : Nat → Option Nat) (machine : Machine τ) (bytes : List UInt8)
    (creates : P tag (.created path.locate)) (writes : P tag (.wrote path.locate)) :
    Extends P machine (machine.write fault tag path bytes).2 := by
  have created := createFile_extends fault machine creates
  unfold write
  generalize machine.createFile fault tag path = result at created ⊢
  obtain ⟨done, after⟩ := result
  cases done with
  | false => exact created
  | true => exact created.trans (writeAll_extends fault after bytes writes)

/-! ## What successful calls leave -/

theorem createFile_done (done : (machine.createFile fault tag path).1 = true) :
    (machine.createFile fault tag path).2.disk path.locate = some (.file []) ∧
      (tag, .created path.locate) ∈ (machine.createFile fault tag path).2.trace := by
  unfold createFile call at done ⊢
  split
  · exact ⟨Disk.set_self .., List.mem_append_right _ (List.mem_singleton_self _)⟩
  · rename_i fails
    rw [if_neg fails] at done
    cases done

/-- A file that cannot be created leaves nothing behind. -/
theorem createFile_failed (failed : (machine.createFile fault tag path).1 = false) :
    Extends P machine (machine.createFile fault tag path).2 := by
  unfold createFile call at failed ⊢
  split
  · rename_i succeeds
    rw [if_pos succeeds] at failed
    cases failed
  · exact extends_calls machine _

/-- Creating a file leaves it empty, or changes nothing. -/
theorem createFile_cases (fault : Nat → Option Nat) (machine : Machine τ) (tag : τ)
    (path : LexPath String) :
    (∃ after, machine.createFile fault tag path = (true, after) ∧ path.hasNul = false ∧
      machine.disk path.locate ≠ some .dir ∧
      after.disk = machine.disk.set path.locate (some (.file []))) ∨
    ∃ after, machine.createFile fault tag path = (false, after) ∧ after.disk = machine.disk := by
  simp only [createFile, call]
  split
  · rename_i succeeds
    simp only [Bool.and_eq_true, Bool.not_eq_true', bne_iff_ne] at succeeds
    exact .inl ⟨_, rfl, succeeds.1.1, succeeds.1.2, rfl⟩
  · exact .inr ⟨_, rfl, rfl⟩

/-- Writing appends everything, or fails after a part. -/
theorem writeAll_cases (fault : Nat → Option Nat) (machine : Machine τ) (tag : τ)
    (path : LexPath String) (bytes : List UInt8) :
    ∃ after, after.calls = machine.calls + 1 ∧
      ((fault machine.calls = none ∧ machine.writeAll fault tag path bytes = (true, after) ∧
          after.disk = machine.disk.append path.locate bytes) ∨
        ∃ n, fault machine.calls = some n ∧
          machine.writeAll fault tag path bytes = (false, after) ∧
          after.disk = machine.disk.append path.locate (bytes.take n)) := by
  simp only [writeAll]
  cases fault machine.calls with
  | none => exact ⟨_, rfl, .inl ⟨rfl, rfl, rfl⟩⟩
  | some n => exact ⟨_, rfl, .inr ⟨n, rfl, rfl, rfl⟩⟩

/-- A file is renamed to any place that is no directory, unless the call fails. -/
theorem rename_cases (fault : Nat → Option Nat) (machine : Machine τ) (tag : τ)
    {source : LexPath String} (target : LexPath String) {bytes : List UInt8}
    (content : machine.disk source.locate = some (.file bytes)) (legal : source.hasNul = false) :
    (∃ after, machine.rename fault tag source target = (true, after) ∧
      (target.hasNul = false ∧ machine.disk target.locate ≠ some .dir ∧
        fault machine.calls = none) ∧
      after.disk = (machine.disk.set source.locate none).set target.locate (some (.file bytes))) ∨
    ∃ after, machine.rename fault tag source target = (false, after) ∧
      ¬ (target.hasNul = false ∧ machine.disk target.locate ≠ some .dir ∧
        fault machine.calls = none) ∧ after.disk = machine.disk := by
  have possible : ((!source.hasNul && !target.hasNul &&
      machine.disk target.locate != some .dir) = true ∧ fault machine.calls = none) ↔
        target.hasNul = false ∧ machine.disk target.locate ≠ some .dir ∧
          fault machine.calls = none := by
    rw [legal, Bool.not_false, Bool.true_and, Bool.and_eq_true_iff, Bool.not_eq_true',
      bne_iff_ne, and_assoc]
  simp only [rename]
  simp only [content, call, possible]
  split
  · rename_i succeeds
    exact .inl ⟨_, rfl, succeeds, rfl⟩
  · rename_i fails
    exact .inr ⟨_, rfl, fails, rfl⟩

/-- A file is removed, unless the call fails. -/
theorem removeFile_cases (fault : Nat → Option Nat) (machine : Machine τ) (tag : τ)
    {path : LexPath String} {bytes : List UInt8}
    (content : machine.disk path.locate = some (.file bytes)) (legal : path.hasNul = false) :
    (fault machine.calls = none ∧
      (machine.removeFile fault tag path).2.disk = machine.disk.set path.locate none) ∨
    fault machine.calls ≠ none ∧ (machine.removeFile fault tag path).2.disk = machine.disk := by
  simp only [removeFile]
  simp only [content, call, legal, Bool.not_false, true_and]
  split
  · rename_i succeeds
    exact .inl ⟨succeeds, rfl⟩
  · rename_i fails
    exact .inr ⟨fails, rfl⟩

theorem writeAll_done {before bytes : List UInt8}
    (content : machine.disk path.locate = some (.file before))
    (done : (machine.writeAll fault tag path bytes).1 = true) :
    (machine.writeAll fault tag path bytes).2.disk path.locate =
      some (.file (before ++ bytes)) := by
  have works : fault machine.calls = none := Option.isNone_iff_eq_none.mp done
  simp only [writeAll]
  rw [works]
  exact Disk.append_file content bytes

theorem rename_done {source target : LexPath String} {bytes : List UInt8}
    (content : machine.disk source.locate = some (.file bytes))
    (done : (machine.rename fault tag source target).1 = true) :
    (machine.rename fault tag source target).2.disk target.locate = some (.file bytes) ∧
      (tag, .renamed source.locate target.locate) ∈
        (machine.rename fault tag source target).2.trace := by
  simp only [rename] at done ⊢
  simp only [content] at done ⊢
  unfold call at done ⊢
  split
  · exact ⟨Disk.set_self .., List.mem_append_right _ (List.mem_singleton_self _)⟩
  · rename_i fails
    rw [if_neg fails] at done
    cases done

theorem write_done {bytes : List UInt8} (done : (machine.write fault tag path bytes).1 = true) :
    (machine.write fault tag path bytes).2.disk path.locate = some (.file bytes) ∧
      (tag, .created path.locate) ∈ (machine.write fault tag path bytes).2.trace := by
  have created : (machine.createFile fault tag path).1 = true → _ := createFile_done
  unfold write at done ⊢
  generalize machine.createFile fault tag path = result at created done ⊢
  obtain ⟨made, after⟩ := result
  cases made with
  | false => cases done
  | true =>
      obtain ⟨empty, member⟩ := created rfl
      exact ⟨writeAll_done empty done, List.mem_append_left _ member⟩

/-! ## Creating directories -/

/-- The places of a way up to the first that holds a file. -/
def clearWay (disk : Disk) (way : List Place) : List Place :=
  way.takeWhile fun place => disk place = none ∨ disk place = some .dir

/-- A directory is only made where there is nothing. -/
theorem ensureDir_extends {place : Place}
    (holds : machine.disk place = none → P tag (.madeDir place)) :
    Extends P machine (machine.ensureDir fault tag place).2 := by
  unfold ensureDir
  split
  · exact Extends.refl machine
  · cases content : machine.disk place with
    | none =>
        apply call_extends (holds content)
        · intro other untouched
          exact Disk.set_of_ne _ (fun same => untouched (List.mem_singleton.mpr same)) _
        · intro _ other present
          refine (Disk.set_of_ne _ ?_ _).trans present
          rintro rfl
          exact nomatch content.symm.trans present
    | some node =>
        simp only [call]
        rw [if_neg (by simp)]
        exact extends_calls machine _

/-- Ensuring a directory succeeds where nothing or a directory is, or changes nothing. -/
theorem ensureDir_cases (fault : Nat → Option Nat) (machine : Machine τ) (tag : τ)
    (place : Place) :
    (∃ after, machine.ensureDir fault tag place = (true, after) ∧
      (machine.disk place = none ∨ machine.disk place = some .dir) ∧
      after.disk = machine.disk.set place (some .dir) ∧
      (machine.disk place = none → (tag, .madeDir place) ∈ after.trace)) ∨
    ∃ after, machine.ensureDir fault tag place = (false, after) ∧ after.disk = machine.disk ∧
      machine.disk place ≠ some .dir ∧
      (machine.disk place = none → fault machine.calls ≠ none) := by
  simp only [ensureDir]
  by_cases present : machine.disk place = some .dir
  · refine .inl ⟨machine, if_pos present, .inr present, ?_, fun missing => ?_⟩
    · rw [← present, Disk.set_same]
    · exact nomatch missing.symm.trans present
  · rw [if_neg present]
    simp only [call]
    by_cases succeeds : (machine.disk place).isNone = true ∧ fault machine.calls = none
    · refine .inl ⟨_, if_pos succeeds, .inl ?_, rfl, fun _ => ?_⟩
      · exact Option.isNone_iff_eq_none.mp succeeds.1
      · exact List.mem_append_right _ (List.mem_singleton_self _)
    · refine .inr ⟨_, if_neg succeeds, rfl, present, fun missing works => succeeds ⟨?_, works⟩⟩
      exact Option.isNone_iff_eq_none.mpr missing

/-- Ensuring a directory leaves the same places clear of files. -/
theorem clearWay_ensured {disk : Disk} {place : Place}
    (clear : disk place = none ∨ disk place = some .dir) (way : List Place) :
    clearWay (disk.set place (some .dir)) way = clearWay disk way := by
  simp only [clearWay]
  congr 1
  funext other
  by_cases same : other = place
  · subst same
    simp only [Disk.set_self, clear, or_true, decide_true]
  · simp only [Disk.set_of_ne _ same]

theorem clearWay_cons {disk : Disk} {place : Place}
    (clear : disk place = none ∨ disk place = some .dir) (rest : List Place) :
    clearWay disk (place :: rest) = place :: clearWay disk rest :=
  List.takeWhile_cons_of_pos (decide_eq_true clear)

/-- Directories are made at the missing places of a way up to the first file. -/
theorem ensureDirs_extends {way : List Place}
    (holds : ∀ place ∈ clearWay machine.disk way, machine.disk place = none →
      P tag (.madeDir place)) :
    Extends P machine (ensureDirs fault tag way machine).2 := by
  induction way generalizing machine with
  | nil => exact Extends.refl machine
  | cons place rest ih =>
      have here : Extends P machine (machine.ensureDir fault tag place).2 := by
        refine ensureDir_extends fun missing => holds place ?_ missing
        rw [clearWay_cons (.inl missing)]
        exact List.mem_cons_self
      unfold ensureDirs
      rcases ensureDir_cases fault machine tag place with
        ⟨after, result, clear, disk, -⟩ | ⟨after, result, -⟩
      · rw [result] at here ⊢
        refine here.trans (ih fun other member missing => holds other ?_ ?_)
        · rw [clearWay_cons clear, ← clearWay_ensured clear, ← disk]
          exact List.mem_cons_of_mem _ member
        · rw [disk] at missing
          by_cases same : other = place
          · rw [same, Disk.set_self] at missing
            cases missing
          · rw [Disk.set_of_ne _ same] at missing
            exact missing
      · rw [result] at here ⊢
        exact here

/-- Ensuring directories only puts directories where nothing was. -/
theorem ensureDirs_node (fault : Nat → Option Nat) (tag : τ) (way : List Place)
    (machine : Machine τ) (place : Place) :
    (ensureDirs fault tag way machine).2.disk place = machine.disk place ∨
      machine.disk place = none ∧
        (ensureDirs fault tag way machine).2.disk place = some .dir := by
  induction way generalizing machine with
  | nil => exact .inl rfl
  | cons first rest ih =>
      unfold ensureDirs
      rcases ensureDir_cases fault machine tag first with
        ⟨after, result, clear, disk, -⟩ | ⟨after, result, disk, -⟩
      · rw [result]
        have later := ih after
        rw [disk] at later
        by_cases same : place = first
        · subst same
          rw [Disk.set_self] at later
          have present := later.elim id And.right
          rcases clear with nothing | before
          · exact .inr ⟨nothing, present⟩
          · exact .inl (present.trans before.symm)
        · rw [Disk.set_of_ne _ same] at later
          exact later
      · rw [result, ← disk]
        exact .inl rfl

/-- Once the directories of a way are ensured, they are all there. -/
theorem ensureDirs_done {way : List Place} (done : (ensureDirs fault tag way machine).1 = true) :
    ∀ place ∈ way, (ensureDirs fault tag way machine).2.disk place = some .dir := by
  induction way generalizing machine with
  | nil => exact fun _ member => absurd member List.not_mem_nil
  | cons place rest ih =>
      unfold ensureDirs at done ⊢
      rcases ensureDir_cases fault machine tag place with
        ⟨after, result, clear, disk, -⟩ | ⟨after, result, -⟩
      · rw [result] at done ⊢
        have stays : Extends (fun _ _ => True) after (ensureDirs fault tag rest after).2 :=
          ensureDirs_extends fun _ _ _ => trivial
        intro other member
        rcases List.mem_cons.mp member with rfl | member
        · exact stays.dirs other (by rw [disk, Disk.set_self])
        · exact ih done other member
      · rw [result] at done
        cases done

/-- A way whose directories are ensured had no file on it. -/
theorem ensureDirs_clear {way : List Place} (done : (ensureDirs fault tag way machine).1 = true) :
    ∀ place ∈ way, machine.disk place = none ∨ machine.disk place = some .dir := by
  induction way generalizing machine with
  | nil => exact fun _ member => absurd member List.not_mem_nil
  | cons first rest ih =>
      unfold ensureDirs at done
      rcases ensureDir_cases fault machine tag first with
        ⟨after, result, clear, disk, -⟩ | ⟨after, result, -⟩
      · rw [result] at done
        intro place member
        rcases List.mem_cons.mp member with rfl | member
        · exact clear
        · by_cases same : place = first
          · exact same ▸ clear
          · have later := ih done place member
            rw [disk, Disk.set_of_ne _ same] at later
            exact later
      · rw [result] at done
        cases done

/-- Where all directories of a way exist, ensuring them does nothing. -/
theorem ensureDirs_present (fault : Nat → Option Nat) (tag : τ) {way : List Place}
    (present : ∀ place ∈ way, machine.disk place = some .dir) :
    ensureDirs fault tag way machine = (true, machine) := by
  induction way with
  | nil => rfl
  | cons place rest ih =>
      simp only [ensureDirs, ensureDir]
      rw [if_pos (present place List.mem_cons_self)]
      exact ih fun other member => present other (List.mem_cons_of_mem _ member)

/-- When no call fails, a file is created wherever no directory is. -/
theorem createFile_makes (machine : Machine τ) (tag : τ) (legal : path.hasNul = false)
    (free : machine.disk path.locate ≠ some .dir) :
    machine.createFile (fun _ => none) tag path =
      (true, ⟨machine.disk.set path.locate (some (.file [])),
        machine.trace ++ [(tag, .created path.locate)], machine.calls + 1⟩) := by
  unfold createFile call
  rw [if_pos ⟨by rw [legal, Bool.not_false, Bool.true_and, bne_iff_ne]; exact free, rfl⟩]

/-- When no call fails, a clear way is made. -/
theorem ensureDirs_succeeds {way : List Place}
    (clear : ∀ place ∈ way, machine.disk place = none ∨ machine.disk place = some .dir) :
    (ensureDirs (fun _ => none) tag way machine).1 = true := by
  induction way generalizing machine with
  | nil => rfl
  | cons place rest ih =>
      unfold ensureDirs
      rcases ensureDir_cases (fun _ => none) machine tag place with
        ⟨after, result, -, disk, -⟩ | ⟨after, result, -, missing, fails⟩
      · rw [result]
        apply ih
        intro other member
        rw [disk]
        by_cases same : other = place
        · exact .inr (by rw [same, Disk.set_self])
        · rw [Disk.set_of_ne _ same]
          exact clear other (List.mem_cons_of_mem _ member)
      · rcases clear place List.mem_cons_self with nothing | present
        · exact absurd rfl (fails nothing)
        · exact absurd present missing

/-- When no call fails, every missing place up to the first file is made. -/
theorem ensureDirs_makes {way : List Place} {place : Place}
    (member : place ∈ clearWay machine.disk way) (missing : machine.disk place = none) :
    (tag, .madeDir place) ∈ (ensureDirs (fun _ => none) tag way machine).2.trace := by
  induction way generalizing machine with
  | nil => cases member
  | cons first rest ih =>
      have clear : machine.disk first = none ∨ machine.disk first = some .dir := by
        by_contra blocked
        simp only [clearWay] at member
        rw [List.takeWhile_cons_of_neg (by simpa using blocked)] at member
        cases member
      rw [clearWay_cons clear] at member
      unfold ensureDirs
      rcases ensureDir_cases (fun _ => none) machine tag first with
        ⟨after, result, -, disk, makes⟩ | ⟨after, result, -, absent, fails⟩
      · rw [result]
        have goesOn : Extends (fun _ _ => True) after
            (ensureDirs (fun _ => none) tag rest after).2 := ensureDirs_extends fun _ _ _ => trivial
        by_cases same : place = first
        · subst same
          exact goesOn.keeps (makes missing)
        · have later : place ∈ clearWay after.disk rest := by
            rw [disk, clearWay_ensured clear]
            exact (List.mem_cons.mp member).resolve_left same
          apply ih later
          rw [disk, Disk.set_of_ne _ same]
          exact missing
      · rcases clear with nothing | present
        · exact absurd rfl (fails nothing)
        · exact absurd present absent

end Extends

end Machine

end AirPaste.Theory
