/-
# Agent.PublishWalk — the files that a selection stands for

`collect_publish_files` asks the file system what stands at a path, without following a link,
and walks into directories only.  `SourceCalls` is what it can ask, an answer for every path;
`publishCalls` is the walk over these answers, of a bounded depth.  Behind a link the answers
may go on for ever: where they show a finite tree at every input, the walk ends whatever they
are, with what `collectPublishFiles` makes of the trees (`publishCalls_eq`).

`FileBelow` says which files lie below a path through directories only.
`collectPublishFiles_exact`: input by input these are the files returned, in the order of their
names, each under the name of its input and the names on the way down.
-/
import AirPaste.Agent.Publish

namespace AirPaste.Agent

open AirPaste.Core
open AirPaste.Theory

set_option autoImplicit false

/-- What `symlink_metadata` tells about a path. -/
inductive SourceKind where
  | file
  | dir
  | symlink
  | special
  deriving DecidableEq

structure SourceCalls (N : Type) where
  symlinkMetadata : LexPath N → Option SourceKind
  /-- The names of the entries of a directory, in any order. -/
  readDir : LexPath N → Option (List N)

section Calls

variable {N : Type} (source : SourceFiles N) (calls : SourceCalls N)

/-- The walk over the answers: none when it did not end within the depth. -/
def walkPublishCalls : Nat → LexPath N → String → ExceptT String Option (List (Collected N))
  | 0, _, _ => (none : Option _)
  | depth + 1, path, rel =>
      match calls.symlinkMetadata path with
      | none => throw s!"failed to stat {source.display path}"
      | some .file => return [(rel, path)]
      | some .dir =>
          match calls.readDir path with
          | none => throw s!"failed to read directory {source.display path}"
          | some names =>
              (names.insertionSort fun a b => source.le a b).foldlM (fun out name => do
                let found ← walkPublishCalls depth (path.child name)
                  (rel ++ "/" ++ source.toStringLossy name)
                return out ++ found) []
      | some .symlink => return []
      | some .special => return []

/-- The name that an input has in the clip. -/
def baseName (input : LexPath N) : String :=
  ((input.fileName.map source.toStringLossy).filter (· ≠ "")).getD "item"

/-- `collect_publish_files`, over the answers. -/
def publishCalls (depth : Nat) (inputs : List (LexPath N)) :
    ExceptT String Option (List (Collected N)) :=
  inputs.foldlM (fun out input => do
    let found ← walkPublishCalls source calls depth input (baseName source input)
    return out ++ found) []

end Calls

section Trees

variable {N : Type}

namespace SourceEntries

def names : SourceEntries N → List N
  | .nil => []
  | .cons name _ rest => name :: rest.names

end SourceEntries

mutual

/-- The answers at the path are those of the tree.  Nothing is said about paths behind a link. -/
def SourceNode.Shown (calls : SourceCalls N) (path : LexPath N) : SourceNode N → Prop
  | .file => calls.symlinkMetadata path = some .file
  | .dir entries => calls.symlinkMetadata path = some .dir ∧
      calls.readDir path = some entries.names ∧ entries.Shown calls path
  | .unreadable => calls.symlinkMetadata path = some .dir ∧ calls.readDir path = none
  | .other => calls.symlinkMetadata path = some .symlink ∨
      calls.symlinkMetadata path = some .special
  | .missing => calls.symlinkMetadata path = none

def SourceEntries.Shown (calls : SourceCalls N) (dir : LexPath N) : SourceEntries N → Prop
  | .nil => True
  | .cons name node rest => node.Shown calls (dir.child name) ∧ rest.Shown calls dir

end

mutual

/-- Everything can be read, and the names in a directory are distinct. -/
def SourceNode.Sound : SourceNode N → Prop
  | .file => True
  | .dir entries => entries.names.Nodup ∧ entries.Sound
  | .unreadable => False
  | .other => True
  | .missing => False

def SourceEntries.Sound : SourceEntries N → Prop
  | .nil => True
  | .cons _ node rest => node.Sound ∧ rest.Sound

end

mutual

def SourceNode.height : SourceNode N → Nat
  | .dir entries => entries.height + 1
  | _ => 1

def SourceEntries.height : SourceEntries N → Nat
  | .nil => 0
  | .cons _ node rest => max node.height rest.height

end

end Trees

/-! ## The walk over the answers is the walk over the trees -/

section Refinement

variable {N : Type} {source : SourceFiles N} {calls : SourceCalls N}

theorem run_bind_of_ok {α β : Type} {first : ExceptT String Option α} {a : α}
    (ran : first.run = some (.ok a)) (rest : α → ExceptT String Option β) :
    (first >>= rest).run = (rest a).run := by
  rw [ExceptT.run_bind, ran]
  rfl

theorem run_bind_of_error {α β : Type} {first : ExceptT String Option α} {error : String}
    (ran : first.run = some (.error error)) (rest : α → ExceptT String Option β) :
    (first >>= rest).run = some (.error error) := by
  rw [ExceptT.run_bind, ran]
  rfl

/-- The loop over entries concatenates their results, up to the first error. -/
theorem foldlM_found {I : Type} {step : I → ExceptT String Option (List (Collected N))}
    {result : I → Except String (List (Collected N))} {items : List I}
    (each : ∀ item ∈ items, (step item).run = some (result item)) (out : List (Collected N)) :
    (items.foldlM (fun out item => do
        let found ← step item
        return out ++ found) out).run =
      some ((concatResults (items.map result)).map (out ++ ·)) := by
  induction items generalizing out with
  | nil =>
      show some (Except.ok out) = some (Except.ok (out ++ []))
      rw [List.append_nil]
  | cons item rest ih =>
      have here := each item List.mem_cons_self
      have later := ih fun other member => each other (List.mem_cons_of_mem _ member)
      rw [List.foldlM_cons, List.map_cons, concatResults]
      cases outcome : result item with
      | error error =>
          rw [outcome] at here
          rw [run_bind_of_error (run_bind_of_error here _)]
          rfl
      | ok found =>
          rw [outcome] at here
          have next := run_bind_of_ok here fun found =>
            (pure (out ++ found) : ExceptT String Option (List (Collected N)))
          rw [run_bind_of_ok next, later]
          cases concatResults (rest.map result) with
          | error error => rfl
          | ok others =>
              show some (Except.ok (out ++ found ++ others)) = some (.ok (out ++ (found ++ others)))
              rw [List.append_assoc]

/-- The entries of a directory, walked in the order of their names. -/
theorem concatResults_sorted {entries : SourceEntries N} {path : LexPath N} {rel : String}
    {result : N → Except String (List (Collected N))}
    (walked : walkPublishDir source entries path rel =
      entries.names.map fun name => (name, result name)) :
    concatResults (((walkPublishDir source entries path rel).insertionSort
        fun a b => source.le a.1 b.1).map Prod.snd) =
      concatResults ((entries.names.insertionSort fun a b => source.le a b).map result) := by
  have sorts := List.map_insertionSort (fun a b => source.le a b = true)
    (fun a b => source.le a.1 b.1 = true) (fun name => (name, result name)) entries.names
    fun a _ b _ => Iff.rfl
  rw [walked, ← sorts, List.map_map]
  rfl

theorem SourceNode.height_pos (node : SourceNode N) : 0 < node.height := by
  cases node <;> simp [SourceNode.height]

/-- What the walk answers for an entry. -/
def entryResult (source : SourceFiles N) (calls : SourceCalls N) (depth : Nat) (dir : LexPath N)
    (rel : String) (name : N) : Option (Except String (List (Collected N))) :=
  (walkPublishCalls source calls depth (dir.child name)
    (rel ++ "/" ++ source.toStringLossy name)).run

mutual

/-- **The walk ends with what the tree holds**, within its height. -/
theorem walkPublishCalls_eq (path : LexPath N) (rel : String) :
    ∀ {node : SourceNode N} {depth : Nat}, node.Shown calls path → node.height ≤ depth →
      (walkPublishCalls source calls depth path rel).run = some (walkPublish source node path rel)
  | node, 0, _, high => absurd node.height_pos (Nat.not_lt.mpr high)
  | .file, depth + 1, shown, _ => by
      rw [SourceNode.Shown] at shown
      rw [walkPublishCalls, shown]
      rfl
  | .missing, depth + 1, shown, _ => by
      rw [SourceNode.Shown] at shown
      rw [walkPublishCalls, shown]
      rfl
  | .unreadable, depth + 1, shown, _ => by
      rw [SourceNode.Shown] at shown
      rw [walkPublishCalls, shown.1]
      simp only [shown.2]
      rfl
  | .other, depth + 1, shown, _ => by
      rw [SourceNode.Shown] at shown
      rw [walkPublishCalls]
      rcases shown with link | special
      · rw [link]
        rfl
      · rw [special]
        rfl
  | .dir entries, depth + 1, shown, high => by
      rw [SourceNode.Shown] at shown
      obtain ⟨kind, listed, inner⟩ := shown
      rw [walkPublishCalls, kind]
      have within : entries.height ≤ depth := by
        rw [SourceNode.height] at high
        omega
      have walked := walkPublishDir_eq path rel inner within
      have each : ∀ name ∈ entries.names.insertionSort fun a b => source.le a b,
          (walkPublishCalls source calls depth (path.child name)
            (rel ++ "/" ++ source.toStringLossy name)).run =
            some ((entryResult source calls depth path rel name).getD (.ok [])) := by
        intro name member
        obtain ⟨outcome, answered⟩ := Option.isSome_iff_exists.mp
          (walked.1 name (List.mem_insertionSort _ |>.mp member))
        rw [answered]
        exact answered
      simp only [listed]
      rw [foldlM_found each, walkPublish, concatResults_sorted walked.2]
      cases concatResults _ with
      | error error => rfl
      | ok found => rfl

theorem walkPublishDir_eq (dir : LexPath N) (rel : String) :
    ∀ {entries : SourceEntries N} {depth : Nat}, entries.Shown calls dir → entries.height ≤ depth →
      (∀ name ∈ entries.names, (entryResult source calls depth dir rel name).isSome = true) ∧
        walkPublishDir source entries dir rel = entries.names.map fun name =>
          (name, (entryResult source calls depth dir rel name).getD (.ok []))
  | .nil, _, _, _ => ⟨fun name member => (by cases member), rfl⟩
  | .cons name node rest, depth, shown, high => by
      rw [SourceEntries.Shown] at shown
      rw [SourceEntries.height] at high
      have here : entryResult source calls depth dir rel name =
          some (walkPublish source node (dir.child name)
            (rel ++ "/" ++ source.toStringLossy name)) :=
        walkPublishCalls_eq _ _ shown.1 (le_of_max_le_left high)
      obtain ⟨answered, later⟩ := walkPublishDir_eq dir rel shown.2 (le_of_max_le_right high)
      constructor
      · intro other member
        rcases List.mem_cons.mp member with rfl | among
        · rw [here]
          rfl
        · exact answered other among
      · rw [walkPublishDir, SourceEntries.names, List.map_cons, here, later]
        rfl

end

theorem collectPublishFiles_eq (inputs : List (LexPath N)) :
    collectPublishFiles source inputs = concatResults (inputs.map fun input =>
      walkPublish source (source.found input) input (baseName source input)) := by
  induction inputs with
  | nil => rfl
  | cons input rest ih =>
      rw [collectPublishFiles, List.map_cons, concatResults, ih]
      rfl

/-- Where the answers show a tree at every input, the walk ends with what the trees hold. -/
theorem publishCalls_eq {inputs : List (LexPath N)} {depth : Nat}
    (shown : ∀ input ∈ inputs, (source.found input).Shown calls input)
    (high : ∀ input ∈ inputs, (source.found input).height ≤ depth) :
    (publishCalls source calls depth inputs).run = some (collectPublishFiles source inputs) := by
  have each : ∀ input ∈ inputs,
      (walkPublishCalls source calls depth input (baseName source input)).run =
        some (walkPublish source (source.found input) input (baseName source input)) :=
    fun input member => walkPublishCalls_eq input _ (shown input member) (high input member)
  rw [publishCalls, foldlM_found each, collectPublishFiles_eq]
  cases concatResults _ with
  | error error => rfl
  | ok found => rfl

variable (source) in
/-- Some depth is enough for all inputs. -/
theorem exists_height (inputs : List (LexPath N)) :
    ∃ depth, ∀ input ∈ inputs, (source.found input).height ≤ depth := by
  induction inputs with
  | nil => exact ⟨0, fun input member => by cases member⟩
  | cons input rest ih =>
      obtain ⟨depth, within⟩ := ih
      refine ⟨max (source.found input).height depth, List.forall_mem_cons.mpr ⟨?_, ?_⟩⟩
      · exact le_max_left _ _
      · exact fun other member => (within other member).trans (le_max_right _ _)

end Refinement

/-! ## The files below a path -/

section Below

variable {N : Type}

/-- The path a walk reaches from `path` by these names. -/
def walkedTo (path : LexPath N) (names : List N) : LexPath N := names.foldl LexPath.child path

/-- These names lead from the path through directories to a regular file. -/
inductive FileBelow (calls : SourceCalls N) : LexPath N → List N → Prop
  | file {path : LexPath N} (kind : calls.symlinkMetadata path = some .file) :
      FileBelow calls path []
  | dir {path : LexPath N} {listed names : List N} {name : N}
      (kind : calls.symlinkMetadata path = some .dir) (lists : calls.readDir path = some listed)
      (member : name ∈ listed) (below : FileBelow calls (path.child name) names) :
      FileBelow calls path (name :: names)

variable (source : SourceFiles N)

/-- How a file is collected that these names lead to. -/
def collectedAt (path : LexPath N) (rel : String) (names : List N) : Collected N :=
  ("/".intercalate (rel :: names.map source.toStringLossy), walkedTo path names)

mutual

/-- The names that lead to the files of a tree, as the walk comes to them. -/
def SourceNode.ways : SourceNode N → List (List N)
  | .file => [[]]
  | .dir entries =>
      ((entries.ways).insertionSort fun a b => source.le a.1 b.1).flatMap fun entry =>
        entry.2.map (entry.1 :: ·)
  | .unreadable => []
  | .other => []
  | .missing => []

def SourceEntries.ways : SourceEntries N → List (N × List (List N))
  | .nil => []
  | .cons name node rest => (name, node.ways) :: rest.ways

end

end Below

section Ways

variable {N : Type} {source : SourceFiles N}

theorem concatResults_map_ok {I : Type} (items : List I) (found : I → List (Collected N)) :
    concatResults (items.map fun item => .ok (found item)) = .ok (items.flatMap found) := by
  induction items with
  | nil => rfl
  | cons first rest ih =>
      rw [List.map_cons, concatResults, ih]
      rfl

mutual

/-- The walk over a tree collects its ways. -/
theorem walkPublish_ways (path : LexPath N) (rel : String) :
    ∀ {node : SourceNode N}, node.Sound →
      walkPublish source node path rel =
        .ok ((node.ways source).map (collectedAt source path rel))
  | .file, _ => rfl
  | .other, _ => rfl
  | .unreadable, sound => by
      rw [SourceNode.Sound] at sound
      exact sound.elim
  | .missing, sound => by
      rw [SourceNode.Sound] at sound
      exact sound.elim
  | .dir entries, sound => by
      rw [SourceNode.Sound] at sound
      have walked := walkPublishDir_ways path rel sound.2
      have sorts := List.map_insertionSort
        (fun a b : N × List (List N) => source.le a.1 b.1 = true)
        (fun a b => source.le a.1 b.1 = true)
        (fun entry => (entry.1, (.ok (entry.2.map fun names =>
          collectedAt source path rel (entry.1 :: names)) : Except String (List (Collected N)))))
        (entries.ways source) fun a _ b _ => Iff.rfl
      rw [walkPublish, walked, SourceNode.ways, ← sorts, List.map_map]
      refine (concatResults_map_ok _ fun entry : N × List (List N) => entry.2.map fun names =>
        collectedAt source path rel (entry.1 :: names)).trans ?_
      rw [List.map_flatMap]
      simp only [List.map_map]
      rfl

theorem walkPublishDir_ways (dir : LexPath N) (rel : String) :
    ∀ {entries : SourceEntries N}, entries.Sound →
      walkPublishDir source entries dir rel = (entries.ways source).map fun entry =>
        (entry.1, .ok (entry.2.map fun names => collectedAt source dir rel (entry.1 :: names)))
  | .nil, _ => rfl
  | .cons name node rest, sound => by
      rw [SourceEntries.Sound] at sound
      rw [walkPublishDir, walkPublish_ways _ _ sound.1, walkPublishDir_ways dir rel sound.2]
      rfl

end

mutual

/-- The ways of a tree lead to the files below the path that shows it. -/
theorem mem_ways_iff {calls : SourceCalls N} (path : LexPath N) :
    ∀ {node : SourceNode N} {names : List N}, node.Sound → node.Shown calls path →
      (names ∈ node.ways source ↔ FileBelow calls path names)
  | .file, names, _, shown => by
      rw [SourceNode.Shown] at shown
      rw [SourceNode.ways, List.mem_singleton]
      constructor
      · rintro rfl
        exact .file shown
      · intro below
        cases below with
        | file => rfl
        | dir kind => cases shown.symm.trans kind
  | .other, names, _, shown => by
      rw [SourceNode.Shown] at shown
      refine iff_of_false List.not_mem_nil fun below => ?_
      cases below with
      | file kind => rcases shown with other | other <;> cases other.symm.trans kind
      | dir kind => rcases shown with other | other <;> cases other.symm.trans kind
  | .unreadable, _, sound, _ => by
      rw [SourceNode.Sound] at sound
      exact sound.elim
  | .missing, _, sound, _ => by
      rw [SourceNode.Sound] at sound
      exact sound.elim
  | .dir entries, names, sound, shown => by
      rw [SourceNode.Sound] at sound
      rw [SourceNode.Shown] at shown
      obtain ⟨kind, listed, inner⟩ := shown
      rw [SourceNode.ways, List.mem_flatMap]
      simp only [List.mem_insertionSort, List.mem_map]
      constructor
      · rintro ⟨⟨name, ways⟩, among, rest, member, rfl⟩
        have below := (mem_entryWays_iff path sound.2 inner).mp ⟨ways, among, member⟩
        exact .dir kind listed below.1 below.2
      · intro below
        cases below with
        | file other => cases kind.symm.trans other
        | dir _ lists member below =>
            cases listed.symm.trans lists
            obtain ⟨ways, among, inside⟩ :=
              (mem_entryWays_iff path sound.2 inner).mpr ⟨member, below⟩
            exact ⟨_, among, _, inside, rfl⟩

theorem mem_entryWays_iff {calls : SourceCalls N} (dir : LexPath N) :
    ∀ {entries : SourceEntries N} {name : N} {names : List N}, entries.Sound →
      entries.Shown calls dir →
      ((∃ ways, (name, ways) ∈ entries.ways source ∧ names ∈ ways) ↔
        name ∈ entries.names ∧ FileBelow calls (dir.child name) names)
  | .nil, _, _, _, _ => by
      refine iff_of_false ?_ fun both => ?_
      · rintro ⟨ways, among, -⟩
        cases among
      · cases both.1
  | .cons first node rest, name, names, sound, shown => by
      rw [SourceEntries.Sound] at sound
      rw [SourceEntries.Shown] at shown
      constructor
      · rintro ⟨ways, among, member⟩
        rcases List.mem_cons.mp among with same | after
        · cases same
          exact ⟨List.mem_cons_self,
            (mem_ways_iff (dir.child first) sound.1 shown.1).mp member⟩
        · obtain ⟨inside, below⟩ :=
            (mem_entryWays_iff dir sound.2 shown.2).mp ⟨ways, after, member⟩
          exact ⟨List.mem_cons_of_mem _ inside, below⟩
      · rintro ⟨inside, below⟩
        rcases List.mem_cons.mp inside with rfl | after
        · exact ⟨_, List.mem_cons_self,
            (mem_ways_iff (dir.child name) sound.1 shown.1).mpr below⟩
        · obtain ⟨ways, among, member⟩ :=
            (mem_entryWays_iff dir sound.2 shown.2).mpr ⟨after, below⟩
          exact ⟨ways, List.mem_cons_of_mem _ among, member⟩

end

variable (source) in
theorem names_ways :
    ∀ entries : SourceEntries N, (entries.ways source).map Prod.fst = entries.names
  | .nil => rfl
  | .cons name node rest => by
      rw [SourceEntries.ways, List.map_cons, names_ways rest, SourceEntries.names]

end Ways

section Order

variable {N : Type} [LinearOrder N] {source : SourceFiles N}

/-- Blocks in the order of their first names are in order, when each of them is. -/
theorem pairwise_blocks {blocks : List (N × List (List N))}
    (sorted : blocks.Pairwise fun a b => a.1 < b.1)
    (inner : ∀ block ∈ blocks, block.2.Pairwise (· < ·)) :
    (blocks.flatMap fun block => block.2.map (block.1 :: ·)).Pairwise (· < ·) := by
  rw [List.pairwise_flatMap]
  constructor
  · intro block member
    rw [List.pairwise_map]
    exact (inner block member).imp fun before => List.cons_lt_cons_iff.mpr (.inr ⟨rfl, before⟩)
  · refine sorted.imp fun before x first y second => ?_
    obtain ⟨_, -, rfl⟩ := List.mem_map.mp first
    obtain ⟨_, -, rfl⟩ := List.mem_map.mp second
    exact List.cons_lt_cons_iff.mpr (.inl before)

/-- Sorting distinct names puts them in strict order. -/
theorem sorted_ways (ordered : ∀ a b, source.le a b = decide (a ≤ b)) {entries : SourceEntries N}
    (distinct : entries.names.Nodup) :
    ((entries.ways source).insertionSort fun a b => source.le a.1 b.1).Pairwise
      fun a b => a.1 < b.1 := by
  have le_iff (a b : N × List (List N)) : source.le a.1 b.1 = true ↔ a.1 ≤ b.1 := by
    rw [ordered, decide_eq_true_eq]
  have : Std.Total fun a b : N × List (List N) => source.le a.1 b.1 = true :=
    ⟨fun a b => by
      rw [le_iff, le_iff]
      exact le_total a.1 b.1⟩
  have : IsTrans (N × List (List N)) fun a b => source.le a.1 b.1 = true :=
    ⟨fun a b c => by
      rw [le_iff, le_iff, le_iff]
      exact le_trans⟩
  have sorts := List.pairwise_insertionSort
    (fun a b : N × List (List N) => source.le a.1 b.1 = true) (entries.ways source)
  have apart : ((entries.ways source).insertionSort fun a b => source.le a.1 b.1).Pairwise
      fun a b => a.1 ≠ b.1 := by
    rw [← names_ways source] at distinct
    exact List.pairwise_map.mp
      ((List.perm_insertionSort _ _).map Prod.fst |>.nodup_iff.mpr distinct)
  exact sorts.imp₂ (fun a b before other => lt_of_le_of_ne ((le_iff a b).mp before) other) apart

mutual

/-- The walk comes to the files in the order of their names. -/
theorem pairwise_ways (ordered : ∀ a b, source.le a b = decide (a ≤ b)) :
    ∀ {node : SourceNode N}, node.Sound → (node.ways source).Pairwise (· < ·)
  | .file, _ => List.pairwise_singleton _ _
  | .other, _ => List.Pairwise.nil
  | .unreadable, _ => List.Pairwise.nil
  | .missing, _ => List.Pairwise.nil
  | .dir entries, sound => by
      rw [SourceNode.Sound] at sound
      refine pairwise_blocks (sorted_ways ordered sound.1) fun block member => ?_
      exact pairwise_entryWays ordered sound.2 block ((List.mem_insertionSort _).mp member)

theorem pairwise_entryWays (ordered : ∀ a b, source.le a b = decide (a ≤ b)) :
    ∀ {entries : SourceEntries N}, entries.Sound →
      ∀ block ∈ entries.ways source, block.2.Pairwise (· < ·)
  | .nil, _ => fun block member => by cases member
  | .cons name node rest, sound => by
      rw [SourceEntries.Sound] at sound
      exact List.forall_mem_cons.mpr ⟨pairwise_ways ordered sound.1,
        pairwise_entryWays ordered sound.2⟩

end

end Order

/-! ## What is returned -/

section Exact

variable {N : Type}

theorem locate_walkedTo (path : LexPath N) (names : List N) :
    (walkedTo path names).locate =
      { path.locate with names := names.reverse ++ path.locate.names } := by
  induction names generalizing path with
  | nil => rfl
  | cons name rest ih =>
      show (walkedTo (path.child name) rest).locate = _
      rw [ih, LexPath.locate_child, List.reverse_cons, List.append_assoc]
      rfl

/-- Where two walks meet, one started inside the other's start. -/
theorem within_of_walkedTo {a b : LexPath N} {first second : List N}
    (meet : (walkedTo a first).locate = (walkedTo b second).locate) :
    a.locate.Within b.locate ∨ b.locate.Within a.locate := by
  rw [locate_walkedTo, locate_walkedTo] at meet
  have absolute : a.locate.absolute = b.locate.absolute :=
    (congrArg Location.absolute meet :)
  have ups : a.locate.ups = b.locate.ups := (congrArg Location.ups meet :)
  have names : first.reverse ++ a.locate.names = second.reverse ++ b.locate.names :=
    (congrArg Location.names meet :)
  rcases List.append_eq_append_iff.mp names with ⟨inner, -, longer⟩ | ⟨inner, -, longer⟩
  · exact .inr ⟨absolute, ups, inner, longer⟩
  · exact .inl ⟨absolute.symm, ups.symm, inner, longer⟩

/-- Neither of the two selected paths contains the other. -/
def Apart (a b : LexPath N) : Prop :=
  ¬ a.locate.Within b.locate ∧ ¬ b.locate.Within a.locate

/-- Walks from selected paths that are apart, along different names, end at different places. -/
theorem nodup_places {inputs : List (LexPath N)} {ways : LexPath N → List (List N)}
    (apart : inputs.Pairwise Apart) (distinct : ∀ input ∈ inputs, (ways input).Nodup) :
    (inputs.flatMap fun input =>
      (ways input).map fun names => (walkedTo input names).locate).Nodup := by
  rw [List.nodup_flatMap]
  constructor
  · intro input member
    refine (distinct input member).map fun first second same => ?_
    rw [locate_walkedTo, locate_walkedTo] at same
    exact List.reverse_injective (List.append_cancel_right (congrArg Location.names same))
  · refine apart.imp fun {a b} split => ?_
    intro place first second
    obtain ⟨names, -, rfl⟩ := List.mem_map.mp first
    obtain ⟨others, -, meet⟩ := List.mem_map.mp second
    rcases within_of_walkedTo meet with inside | inside
    · exact split.2 inside
    · exact split.1 inside

/-- **The walk publishes exactly the selected files.**  Whatever the answers are behind a link, it
ends; input by input it returns the files below, in the order of the names that lead to them,
under these names; and no place is returned twice. -/
theorem collectPublishFiles_exact [LinearOrder N] {source : SourceFiles N} {calls : SourceCalls N}
    {inputs : List (LexPath N)} (ordered : ∀ a b, source.le a b = decide (a ≤ b))
    (shown : ∀ input ∈ inputs, (source.found input).Shown calls input)
    (sound : ∀ input ∈ inputs, (source.found input).Sound) (apart : inputs.Pairwise Apart) :
    ∃ (collected : List (Collected N)) (ways : LexPath N → List (List N)),
      (∃ depth, ∀ deeper ≥ depth,
        (publishCalls source calls deeper inputs).run = some (.ok collected)) ∧
      collectPublishFiles source inputs = .ok collected ∧
      collected = inputs.flatMap (fun input =>
        (ways input).map (collectedAt source input (baseName source input))) ∧
      (∀ input ∈ inputs, (ways input).Pairwise (· < ·) ∧
        ∀ names, names ∈ ways input ↔ FileBelow calls input names) ∧
      (collected.map fun file => file.2.locate).Nodup := by
  have walked : collectPublishFiles source inputs = .ok (inputs.flatMap fun input =>
      ((source.found input).ways source).map
        (collectedAt source input (baseName source input))) := by
    rw [collectPublishFiles_eq, ← concatResults_map_ok]
    refine congrArg concatResults (List.map_congr_left fun input member => ?_)
    exact walkPublish_ways input _ (sound input member)
  obtain ⟨depth, high⟩ := exists_height source inputs
  have order (input : LexPath N) (member : input ∈ inputs) :=
    pairwise_ways ordered (sound input member)
  refine ⟨_, fun input => (source.found input).ways source, ⟨depth, fun deeper enough => ?_⟩,
    walked, rfl, fun input member => ⟨order input member, fun names => ?_⟩, ?_⟩
  · rw [← walked]
    exact publishCalls_eq shown fun input member => (high input member).trans enough
  · exact mem_ways_iff input (sound input member) (shown input member)
  · rw [List.map_flatMap]
    simp only [List.map_map]
    exact nodup_places apart fun input member =>
      (order input member).imp fun before => ne_of_lt before

end Exact

/-! ## A folder with a link to itself -/

namespace LinkedFolder

/-- The name of a file; 1 is a link to the folder it is in. -/
def calls : SourceCalls Nat where
  symlinkMetadata path :=
    match path.fileName with
    | some 1 => some .symlink
    | some 2 => some .file
    | _ => some .dir
  readDir _ := some [2, 1]

def files : SourceFiles Nat where
  found _ := .dir (.cons 2 .file (.cons 1 .other .nil))
  size _ := none
  contents _ := none
  toStringLossy name := toString name
  display _ := ""
  le a b := decide (a ≤ b)

def selected : LexPath Nat := ⟨true, [.name 7]⟩

/-- Behind the link the answers go on for ever, and the walk ends with the one file. -/
theorem walk_ends : ∃ depth, ∀ deeper ≥ depth,
    (publishCalls files calls deeper [selected]).run =
      some (.ok [("7/2", ⟨true, [.name 7, .name 2]⟩)]) := by
  have shown : ∀ input ∈ [selected], (files.found input).Shown calls input := by
    intro input member
    rw [List.mem_singleton.mp member]
    exact ⟨rfl, rfl, rfl, .inl rfl, trivial⟩
  have sound : ∀ input ∈ [selected], (files.found input).Sound :=
    fun _ _ => ⟨by decide, trivial, trivial, trivial⟩
  obtain ⟨collected, ways, ends, walked, -⟩ :=
    collectPublishFiles_exact (fun _ _ => rfl) shown sound (List.pairwise_singleton Apart selected)
  have outcome : collectPublishFiles files [selected] =
      .ok [("7/2", ⟨true, [.name 7, .name 2]⟩)] := by
    decide +kernel
  cases walked.symm.trans outcome
  exact ends

end LinkedFolder

end AirPaste.Agent
