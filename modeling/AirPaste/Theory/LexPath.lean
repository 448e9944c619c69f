/-
# Theory.LexPath — paths, read lexically

A path is absolute or not and has components: the names of directories or files,
and `..`.  Joining an absolute path replaces the base, `..` is kept.  `locate` is
lexical normalisation: it walks the components from the root or the current
directory, and `..` leaves the directory entered last.  `Below` and `Within` compare
the places reached; `way` lists the places the names of a path reach on the way.
-/
import AirPaste.Theory.Text

namespace AirPaste.Theory

set_option autoImplicit false

inductive PathComponent (N : Type) where
  | parent
  | name (n : N)
  deriving DecidableEq

structure LexPath (N : Type) where
  absolute : Bool
  components : List (PathComponent N)
  deriving DecidableEq

/-- A place in the file system: names from the root, or from so many directories above
the current one.  The innermost name stands first. -/
structure Location (N : Type) where
  absolute : Bool
  ups : Nat
  names : List N
  deriving DecidableEq

namespace Location

variable {N : Type}

def enter (place : Location N) : PathComponent N → Location N
  | .name n => { place with names := n :: place.names }
  | .parent =>
      match place.names with
      | _ :: outer => { place with names := outer }
      | [] => if place.absolute then place else { place with ups := place.ups + 1 }

/-- The place is `base` or a descendant of it. -/
def Within (base place : Location N) : Prop :=
  place.absolute = base.absolute ∧ place.ups = base.ups ∧ ∃ inner, place.names = inner ++ base.names

/-- The place is a strict descendant of `base`. -/
def Below (base place : Location N) : Prop :=
  place.absolute = base.absolute ∧ place.ups = base.ups ∧
    ∃ n inner, place.names = n :: (inner ++ base.names)

variable {base place : Location N}

theorem Below.within (below : Below base place) : Within base place := by
  obtain ⟨absolute, ups, n, inner, names⟩ := below
  exact ⟨absolute, ups, n :: inner, names⟩

/-- A name leads strictly below exactly from inside. -/
theorem below_enter_iff {n : N} : Below base (place.enter (.name n)) ↔ Within base place := by
  constructor
  · rintro ⟨absolute, ups, m, inner, names⟩
    exact ⟨absolute, ups, inner, List.tail_eq_of_cons_eq names⟩
  · rintro ⟨absolute, ups, inner, names⟩
    exact ⟨absolute, ups, n, inner, congrArg (n :: ·) names⟩

instance [DecidableEq N] (base place : Location N) : Decidable (Below base place) :=
  decidable_of_iff
    (place.absolute = base.absolute ∧ place.ups = base.ups ∧
      base.names.length < place.names.length ∧
      place.names.drop (place.names.length - base.names.length) = base.names) <| by
    refine and_congr_right fun _ => and_congr_right fun _ => ?_
    constructor
    · rintro ⟨longer, suffix⟩
      cases names : place.names with
      | nil =>
          rw [names] at longer
          exact absurd longer (Nat.not_lt_zero _)
      | cons n rest =>
          rw [names, List.length_cons] at longer suffix
          refine ⟨n, rest.take (rest.length - base.names.length), ?_⟩
          have shift : rest.length + 1 - base.names.length =
              rest.length - base.names.length + 1 := by omega
          rw [shift, List.drop_succ_cons] at suffix
          conv_lhs => rw [← List.take_append_drop (rest.length - base.names.length) rest, suffix]
    · rintro ⟨n, inner, names⟩
      rw [names]
      constructor
      · simp only [List.length_cons, List.length_append]
        omega
      · rw [← List.cons_append, List.length_append, Nat.add_sub_cancel, List.drop_left]

end Location

namespace LexPath

variable {N : Type}

/-- Where a walk along a path starts. -/
def origin (path : LexPath N) : Location N := ⟨path.absolute, 0, []⟩

/-- Lexical normalisation. -/
def locate (path : LexPath N) : Location N := path.components.foldl Location.enter path.origin

/-- `PathBuf::join`. -/
def join (base arg : LexPath N) : LexPath N :=
  if arg.absolute then arg else { base with components := base.components ++ arg.components }

/-- `Path::parent`. -/
def parent (path : LexPath N) : Option (LexPath N) :=
  if path.components.isEmpty then none
  else some { path with components := path.components.dropLast }

/-- `Path::file_name`. -/
def fileName (path : LexPath N) : Option N :=
  match path.components.getLast? with
  | some (.name n) => some n
  | _ => none

/-- The path with one more name. -/
def child (path : LexPath N) (n : N) : LexPath N :=
  { path with components := path.components ++ [.name n] }

/-- The places a walk reaches by a name, in order. -/
def wayFrom (place : Location N) : List (PathComponent N) → List (Location N)
  | [] => []
  | .parent :: rest => wayFrom (place.enter .parent) rest
  | .name n :: rest => place.enter (.name n) :: wayFrom (place.enter (.name n)) rest

def way (path : LexPath N) : List (Location N) := wayFrom path.origin path.components

theorem wayFrom_append (place : Location N) (first second : List (PathComponent N)) :
    wayFrom place (first ++ second) =
      wayFrom place first ++ wayFrom (first.foldl Location.enter place) second := by
  induction first generalizing place with
  | nil => rfl
  | cons component rest ih =>
      cases component with
      | parent => simp only [List.cons_append, wayFrom, List.foldl_cons, ih]
      | name n => simp only [List.cons_append, wayFrom, List.foldl_cons, ih]

@[simp] theorem locate_child (path : LexPath N) (n : N) :
    (path.child n).locate = path.locate.enter (.name n) := by
  simp only [locate, child]
  rw [List.foldl_append]
  rfl

@[simp] theorem way_child (path : LexPath N) (n : N) :
    (path.child n).way = path.way ++ [(path.child n).locate] := by
  rw [locate_child]
  simp only [way, child]
  rw [wayFrom_append]
  rfl

@[simp] theorem parent_child (path : LexPath N) (n : N) : (path.child n).parent = some path := by
  unfold parent child
  rw [if_neg (by rw [List.isEmpty_iff]; exact List.append_ne_nil_of_right_ne_nil _ nofun),
    List.dropLast_concat]

end LexPath

/-! ## Text -/

namespace LexPath

/-- One piece of a path between separators. -/
def component (piece : List Char) : Option (PathComponent String) :=
  if piece = [] ∨ piece = ['.'] then none
  else if piece = ['.', '.'] then some .parent
  else some (.name (String.ofList piece))

/-- The path a text denotes. -/
def parse (text : String) : LexPath String where
  absolute := text.toList.head? == some '/'
  components := (Text.splitChars (· == '/') text.toList).filterMap component

/-- `PathBuf::push`, as `PathBuf::join` of a text. -/
def push (path : LexPath String) (text : String) : LexPath String := path.join (parse text)

/-- A name up to its last dot, unless that is its first character. -/
def stem (name : List Char) : List Char :=
  match name.reverse.dropWhile (· != '.') with
  | [] => name
  | [_] => name
  | _ :: before => before.reverse

/-- `Path::with_extension`, for an extension that is not empty. -/
def withExtension (path : LexPath String) (extension : String) : LexPath String :=
  match path.components.getLast? with
  | some (.name n) =>
      { path with
        components := path.components.dropLast ++
          [.name (String.ofList (stem n.toList ++ '.' :: extension.toList))] }
  | _ => path

/-- A system call refuses a path with a NUL byte. -/
def hasNul (path : LexPath String) : Bool :=
  path.components.any fun
    | .name n => n.toList.contains '\x00'
    | .parent => false

/-- A text that is the name of a file or a directory. -/
def IsName (text : List Char) : Prop :=
  text ≠ [] ∧ text ≠ ['.'] ∧ text ≠ ['.', '.'] ∧ '/' ∉ text

instance (text : List Char) : Decidable (IsName text) :=
  inferInstanceAs (Decidable (_ ∧ _ ∧ _ ∧ _))

/-- Pushing a name adds it as one component. -/
theorem push_name {text : List Char} (named : IsName text) (path : LexPath String) :
    path.push (String.ofList text) = path.child (String.ofList text) := by
  obtain ⟨nonempty, dot, dots, single⟩ := named
  have parsed : parse (String.ofList text) = ⟨false, [.name (String.ofList text)]⟩ := by
    simp only [parse]
    rw [String.toList_ofList, Text.splitChars_single fun c inside => ?_]
    · have relative : (text.head? == some '/') = false := by
        rw [beq_eq_false_iff_ne]
        exact fun first => single (List.mem_of_head? first)
      simp only [relative, List.filterMap_cons, List.filterMap_nil, component, nonempty, dot, dots,
        or_self, if_false]
    · rw [beq_eq_false_iff_ne]
      rintro rfl
      exact single inside
  rw [push, parsed]
  rfl

theorem withExtension_child (path : LexPath String) (n extension : String) :
    (path.child n).withExtension extension =
      path.child (String.ofList (stem n.toList ++ '.' :: extension.toList)) := by
  simp only [withExtension, child]
  rw [List.getLast?_concat]
  simp only [List.dropLast_concat]

theorem hasNul_child (path : LexPath String) (n : String) :
    (path.child n).hasNul = (path.hasNul || n.toList.contains '\x00') := by
  simp only [hasNul, child]
  rw [List.any_append, List.any_cons, List.any_nil, Bool.or_false]

end LexPath

end AirPaste.Theory
