/-
# Agent.CachePath — where a downloaded file goes

`safe_cache_path` rebuilds the subdirectories of a relative path under the directory
it is given, one sanitised component at a time.  Every component it pushes is a name,
so the result lies strictly below that directory (`safeCachePath_below`), whatever the
relative path and the display name are.  `safeCachePath_structure` says which names these are.
-/
import AirPaste.Theory.FileSystem
import AirPaste.Theory.Pieces

namespace AirPaste.Agent

open AirPaste.Theory

set_option autoImplicit false

/-- The character a sanitised component has for `ch`. -/
def sanitizeChar (ch : Char) : Char :=
  if ch ∈ ['<', '>', ':', '"', '|', '?', '*', '/', '\\', '\x00'] then '_'
  else if Text.isControl ch then '_'
  else ch

def sanitizeComponent (component : String) : Option String :=
  let trimmed := Text.trimChars component.toList
  if trimmed = [] ∨ trimmed = ['.'] ∨ trimmed = ['.', '.'] then none
  else
    let cleaned := Text.dropEnd (fun ch => ch == ' ' || ch == '.') (trimmed.map sanitizeChar)
    if cleaned = [] then none else some (String.ofList cleaned)

def safeCachePath (cacheDir : LexPath String) (relativePath displayName : String) :
    LexPath String :=
  let names :=
    (Text.splitChars (fun ch => ch == '/' || ch == '\\') relativePath.toList).filterMap
      fun component => sanitizeComponent (String.ofList component)
  let path := names.foldl LexPath.push cacheDir
  if names.isEmpty then path.push ((sanitizeComponent displayName).getD "download.bin") else path

/-! ## Sanitised components are names -/

theorem sanitizeChar_ne_slash (ch : Char) : sanitizeChar ch ≠ '/' := by
  unfold sanitizeChar
  split
  · decide
  · rename_i legal
    split
    · decide
    · rintro rfl
      exact legal (by decide)

/-- A text that does not end in a dot is neither `.` nor `..`. -/
theorem isName_of_getLast {text : List Char} (nonempty : text ≠ [])
    (last : text.getLast nonempty ≠ '.') (single : '/' ∉ text) : LexPath.IsName text := by
  refine ⟨nonempty, ?_, ?_, single⟩
  · rintro rfl
    exact last rfl
  · rintro rfl
    exact last rfl

theorem sanitizeComponent_isName {component name : String}
    (sanitized : sanitizeComponent component = some name) : LexPath.IsName name.toList := by
  simp only [sanitizeComponent] at sanitized
  split at sanitized
  · cases sanitized
  · split at sanitized
    · cases sanitized
    · rename_i nonempty
      obtain rfl := Option.some.inj sanitized
      rw [String.toList_ofList]
      apply isName_of_getLast nonempty
      · have stops := Text.getLast_dropEnd nonempty
        rintro dot
        rw [dot] at stops
        exact absurd stops (by decide)
      · intro inside
        obtain ⟨ch, -, slash⟩ := List.mem_map.mp (Text.mem_of_mem_dropEnd inside)
        exact sanitizeChar_ne_slash ch slash

/-! ## The shape of a cache path -/

/-- The directory reached from `base` by these names. -/
def descend (base : LexPath String) (names : List String) : LexPath String :=
  names.foldl LexPath.child base

theorem push_sanitized {component name : String}
    (sanitized : sanitizeComponent component = some name)
    (path : LexPath String) : path.push name = path.child name := by
  have pushed := LexPath.push_name (sanitizeComponent_isName sanitized) path
  rw [String.ofList_toList] at pushed
  exact pushed

/-- What stands between the separators of a relative path. -/
def pathComponents (relativePath : String) : List String :=
  (Text.splitChars (fun ch => ch == '/' || ch == '\\') relativePath.toList).map String.ofList

/-- The components that are usable, sanitised. -/
def usableComponents (relativePath : String) : List String :=
  (pathComponents relativePath).filterMap sanitizeComponent

/-- The one name that stands in for the components. -/
def fallbackName (displayName : String) : String :=
  (sanitizeComponent displayName).getD "download.bin"

theorem push_fallbackName (displayName : String) (path : LexPath String) :
    path.push (fallbackName displayName) = path.child (fallbackName displayName) := by
  unfold fallbackName
  cases sanitized : sanitizeComponent displayName with
  | none => exact LexPath.push_name (by decide : LexPath.IsName "download.bin".toList) _
  | some name => exact push_sanitized sanitized _

theorem foldl_push_usable (components : List String) (base : LexPath String) :
    (components.filterMap sanitizeComponent).foldl LexPath.push base =
      descend base (components.filterMap sanitizeComponent) := by
  simp only [descend]
  induction components generalizing base with
  | nil => rfl
  | cons component rest ih =>
      cases sanitized : sanitizeComponent component with
      | none =>
          rw [List.filterMap_cons_none sanitized]
          exact ih base
      | some name =>
          rw [List.filterMap_cons_some sanitized, List.foldl_cons, List.foldl_cons,
            push_sanitized sanitized]
          exact ih _

/-- A cache path descends along the usable components, or to the fallback name. -/
theorem safeCachePath_descend (cacheDir : LexPath String) (relativePath displayName : String) :
    safeCachePath cacheDir relativePath displayName =
      descend cacheDir (if usableComponents relativePath = [] then [fallbackName displayName]
        else usableComponents relativePath) := by
  have names :
      (Text.splitChars (fun ch => ch == '/' || ch == '\\') relativePath.toList).filterMap
          (fun component => sanitizeComponent (String.ofList component)) =
        usableComponents relativePath := by
    rw [usableComponents, pathComponents, List.filterMap_map]
    rfl
  simp only [safeCachePath, names, List.isEmpty_iff]
  have pushed : (usableComponents relativePath).foldl LexPath.push cacheDir =
      descend cacheDir (usableComponents relativePath) := foldl_push_usable _ _
  rw [pushed]
  split
  · rename_i none
    rw [none]
    exact push_fallbackName displayName cacheDir
  · rfl

/-- A cache path is some directories, and a file in the last of them. -/
theorem safeCachePath_eq (cacheDir : LexPath String) (relativePath displayName : String) :
    ∃ dirs file, safeCachePath cacheDir relativePath displayName =
      (descend cacheDir dirs).child file := by
  rw [safeCachePath_descend]
  rcases List.eq_nil_or_concat' (usableComponents relativePath) with none | ⟨dirs, file, some⟩
  · exact ⟨[], fallbackName displayName, by rw [if_pos none]; rfl⟩
  · refine ⟨dirs, file, ?_⟩
    rw [if_neg (by rw [some]; exact List.append_ne_nil_of_right_ne_nil dirs (List.cons_ne_nil _ _)),
      some, descend,
      List.foldl_append]
    rfl

/-! ## Containment -/

section Containment

variable {base : Place} {cacheDir : LexPath String}

/-- Names lead from inside to inside, and the places they reach on the way lie strictly
below. -/
theorem descend_within (inside : base.Within cacheDir.locate) (names : List String) :
    base.Within (descend cacheDir names).locate ∧
      ∀ place ∈ (descend cacheDir names).way, place ∈ cacheDir.way ∨ base.Below place := by
  simp only [descend]
  induction names generalizing cacheDir with
  | nil => exact ⟨inside, fun _ member => .inl member⟩
  | cons name rest ih =>
      have below : base.Below (cacheDir.child name).locate := by
        rw [LexPath.locate_child]
        exact Location.below_enter_iff.mpr inside
      obtain ⟨within, way⟩ := ih below.within
      refine ⟨within, fun place member => ?_⟩
      rcases way place member with before | after
      · rw [LexPath.way_child] at before
        rcases List.mem_append.mp before with early | here
        · exact .inl early
        · obtain rfl := List.mem_singleton.mp here
          exact .inr below
      · exact .inr after

/-- **A cache path lies strictly below its directory**, whatever the texts are. -/
theorem safeCachePath_below (inside : base.Within cacheDir.locate)
    (relativePath displayName : String) :
    base.Below (safeCachePath cacheDir relativePath displayName).locate := by
  obtain ⟨dirs, file, shape⟩ := safeCachePath_eq cacheDir relativePath displayName
  rw [shape, LexPath.locate_child]
  exact Location.below_enter_iff.mpr (descend_within inside dirs).1

end Containment

/-! ## The names that are pushed -/

/-- A name that any file system takes. -/
structure CleanName (name : String) : Prop where
  nonempty : name ≠ ""
  notDot : name ≠ "."
  notDotDot : name ≠ ".."
  legal : ∀ ch ∈ name.toList,
    ch ∉ ['<', '>', ':', '"', '|', '?', '*', '/', '\\', '\x00'] ∧ Text.isControl ch = false
  last : ∀ ch ∈ name.toList.getLast?, ch ≠ '.' ∧ ch ≠ ' '

instance (name : String) : Decidable (CleanName name) :=
  decidable_of_iff
    (name ≠ "" ∧ name ≠ "." ∧ name ≠ ".." ∧
      (name.toList.all fun ch => decide
        (ch ∉ ['<', '>', ':', '"', '|', '?', '*', '/', '\\', '\x00'] ∧
          Text.isControl ch = false)) = true ∧
      (name.toList.getLast?.all fun ch => decide (ch ≠ '.' ∧ ch ≠ ' ')) = true) <| by
    simp only [List.all_eq_true, Option.all_eq_true, decide_eq_true_eq]
    exact ⟨fun ⟨a, b, c, d, e⟩ => ⟨a, b, c, d, e⟩, fun ⟨a, b, c, d, e⟩ => ⟨a, b, c, d, e⟩⟩

theorem sanitizeChar_legal (ch : Char) :
    sanitizeChar ch ∉ ['<', '>', ':', '"', '|', '?', '*', '/', '\\', '\x00'] ∧
      Text.isControl (sanitizeChar ch) = false := by
  unfold sanitizeChar
  split
  · decide
  · rename_i legal
    split
    · decide
    · rename_i printable
      exact ⟨legal, Bool.eq_false_of_not_eq_true printable⟩

theorem sanitizeChar_of_legal {ch : Char}
    (legal : ch ∉ ['<', '>', ':', '"', '|', '?', '*', '/', '\\', '\x00'] ∧
      Text.isControl ch = false) : sanitizeChar ch = ch := by
  rw [sanitizeChar, if_neg legal.1, if_neg (by rw [legal.2]; exact Bool.false_ne_true)]

theorem string_eq_iff {s t : String} : s = t ↔ s.toList = t.toList := String.toList_inj.symm

/-- Sanitising leaves a clean name, whatever the trims and replacements before made of it. -/
theorem sanitizeComponent_clean {component name : String}
    (sanitized : sanitizeComponent component = some name) : CleanName name := by
  have named := sanitizeComponent_isName sanitized
  simp only [sanitizeComponent] at sanitized
  split at sanitized
  · cases sanitized
  · split at sanitized
    · cases sanitized
    · obtain rfl := Option.some.inj sanitized
      obtain ⟨nonempty, single, double, -⟩ := named
      constructor
      · rw [ne_eq, string_eq_iff]
        exact nonempty
      · rw [ne_eq, string_eq_iff]
        exact single
      · rw [ne_eq, string_eq_iff]
        exact double
      · intro ch member
        rw [String.toList_ofList] at member
        obtain ⟨before, -, rfl⟩ := List.mem_map.mp (Text.mem_of_mem_dropEnd member)
        exact sanitizeChar_legal before
      · intro ch last
        rw [String.toList_ofList] at last
        have stops := Text.endsIn_dropEnd _ _ ch last
        simpa [and_comm] using stops

/-- A clean name without white space around it is left as it is. -/
theorem sanitizeComponent_of_clean {name : String} (clean : CleanName name)
    (trimmed : Text.trim name = name) : sanitizeComponent name = some name := by
  have stays : Text.trimChars name.toList = name.toList := by
    rw [string_eq_iff, Text.trim, String.toList_ofList] at trimmed
    exact trimmed
  have same : name.toList.map sanitizeChar = name.toList :=
    (List.map_congr_left fun ch member => sanitizeChar_of_legal (clean.legal ch member)).trans
      (List.map_id _)
  have whole : Text.dropEnd (fun ch => ch == ' ' || ch == '.') name.toList = name.toList := by
    rw [Text.dropEnd_eq_self_iff]
    intro ch last
    simpa [and_comm] using clean.last ch last
  have nonempty : name.toList ≠ [] := fun empty => clean.nonempty (string_eq_iff.mpr empty)
  simp only [sanitizeComponent, stays, same, whole]
  rw [if_neg, if_neg nonempty, String.ofList_toList]
  rintro (empty | dot | dots)
  · exact nonempty empty
  · exact clean.notDot (string_eq_iff.mpr dot)
  · exact clean.notDotDot (string_eq_iff.mpr dots)

theorem fallbackName_clean (displayName : String) : CleanName (fallbackName displayName) := by
  unfold fallbackName
  cases sanitized : sanitizeComponent displayName with
  | none => decide +kernel
  | some name => exact sanitizeComponent_clean sanitized

theorem usableComponents_clean {relativePath name : String}
    (member : name ∈ usableComponents relativePath) : CleanName name := by
  obtain ⟨component, -, sanitized⟩ := List.mem_filterMap.mp member
  exact sanitizeComponent_clean sanitized

/-- Components that are clean and trimmed are all usable, as they are. -/
theorem usableComponents_of_clean {relativePath : String}
    (clean : ∀ component ∈ pathComponents relativePath,
      CleanName component ∧ Text.trim component = component) :
    usableComponents relativePath = pathComponents relativePath := by
  unfold usableComponents
  rw [List.filterMap_congr fun component member =>
    sanitizeComponent_of_clean (clean component member).1 (clean component member).2]
  exact List.filterMap_some

theorem pathComponents_ne_nil (relativePath : String) : pathComponents relativePath ≠ [] := by
  simp only [pathComponents, ne_eq, List.map_eq_nil_iff]
  exact Text.splitChars_ne_nil _ _

/-- **A cache path keeps the structure of a relative path**: it is the directory and the
sanitised usable components, in order, or one name in their stead where there are none; every
name is clean, and components that are clean and trimmed are reproduced. -/
theorem safeCachePath_structure (cacheDir : LexPath String) (relativePath displayName : String) :
    ∃ names, safeCachePath cacheDir relativePath displayName = descend cacheDir names ∧
      names ≠ [] ∧ (∀ name ∈ names, CleanName name) ∧
      (names = usableComponents relativePath ∨
        usableComponents relativePath = [] ∧
          names = [fallbackName displayName]) ∧
      ((∀ component ∈ pathComponents relativePath,
          CleanName component ∧ Text.trim component = component) →
        names = pathComponents relativePath) := by
  refine ⟨_, safeCachePath_descend cacheDir relativePath displayName, ?_⟩
  by_cases none : usableComponents relativePath = []
  · rw [if_pos none]
    refine ⟨List.cons_ne_nil _ _, fun name member => ?_, .inr ⟨none, rfl⟩, fun clean => ?_⟩
    · rw [List.mem_singleton.mp member]
      exact fallbackName_clean displayName
    · rw [usableComponents_of_clean clean] at none
      exact absurd none (pathComponents_ne_nil relativePath)
  · rw [if_neg none]
    exact ⟨none, fun _ => usableComponents_clean, .inl rfl, usableComponents_of_clean⟩

namespace LeadingSpace

/-- Refuting pole: a component that begins with a space is clean, and is not reproduced. -/
theorem not_reproduced : ¬ ∀ (cacheDir : LexPath String) (relativePath displayName : String),
    (∀ component ∈ pathComponents relativePath, CleanName component) →
      safeCachePath cacheDir relativePath displayName =
        descend cacheDir (pathComponents relativePath) := by
  intro always
  have reproduced := always ⟨true, []⟩ " a" "" fun component member => by
    obtain rfl := List.mem_singleton.mp member
    decide +kernel
  exact absurd reproduced (by decide +kernel)

end LeadingSpace

end AirPaste.Agent
