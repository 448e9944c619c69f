/-
# Theory.History — a bounded history, newest first

Rows are put in front of a history under growing keys, and the oldest of too many are
dropped.  So the keys decrease strictly, a key names at most one row, and a row stays until
all rows before it have filled the history (`kept_or_evicted`).  `editFirst` changes the
first row that satisfies a condition and keeps its key; `mem_editFirst_iff` says which rows
there are then.
-/
import Mathlib.Data.List.Basic
import Mathlib.Data.List.Pairwise

namespace AirPaste.Theory

set_option autoImplicit false

namespace History

variable {α : Type} (key : α → Nat)

/-- The keys decrease strictly. -/
def Ordered (rows : List α) : Prop := rows.Pairwise fun newer older => key older < key newer

def push (capacity : Nat) (rows : List α) (row : α) : List α := (row :: rows).take capacity

def editFirst (p : α → Bool) (change : α → α) : List α → List α
  | [] => []
  | row :: rest => if p row then change row :: rest else row :: editFirst p change rest

variable {key} {capacity : Nat} {rows : List α} {row : α} {p : α → Bool} {change : α → α}

theorem Ordered.eq_of_key (ordered : Ordered key rows) {a b : α} (first : a ∈ rows)
    (second : b ∈ rows) (same : key a = key b) : a = b := by
  induction rows with
  | nil => cases first
  | cons head rest ih =>
      obtain ⟨older, later⟩ := List.pairwise_cons.mp ordered
      rcases List.mem_cons.mp first with rfl | firstBehind
      · rcases List.mem_cons.mp second with rfl | secondBehind
        · rfl
        · exact absurd same (Nat.ne_of_gt (older b secondBehind))
      · rcases List.mem_cons.mp second with rfl | secondBehind
        · exact absurd same (Nat.ne_of_lt (older a firstBehind))
        · exact ih later firstBehind secondBehind

/-! ## A new row -/

theorem push_ordered (ordered : Ordered key rows) (newest : ∀ old ∈ rows, key old < key row) :
    Ordered key (push capacity rows row) :=
  (List.pairwise_cons.mpr ⟨newest, ordered⟩).sublist (List.take_sublist _ _)

theorem length_push_le : (push capacity rows row).length ≤ capacity := by
  rw [push, List.length_take]
  exact Nat.min_le_left _ _

theorem mem_of_mem_push {other : α} (member : other ∈ push capacity rows row) :
    other = row ∨ other ∈ rows :=
  List.mem_cons.mp (List.mem_of_mem_take member)

/-- A row is kept, or no row has its key any more. -/
theorem kept_or_evicted (ordered : Ordered key rows) (newest : ∀ old ∈ rows, key old < key row)
    {old : α} (member : old ∈ rows) :
    old ∈ push capacity rows row ∨ ∀ other ∈ push capacity rows row, key other ≠ key old := by
  by_cases kept : old ∈ push capacity rows row
  · exact .inl kept
  · refine .inr fun other there same => kept ?_
    have both : Ordered key (row :: rows) := List.pairwise_cons.mpr ⟨newest, ordered⟩
    have among : other ∈ row :: rows := List.mem_of_mem_take there
    rw [← both.eq_of_key among (List.mem_cons_of_mem _ member) same]
    exact there

theorem map_key_editFirst (keeps : ∀ row, key (change row) = key row) :
    (editFirst p change rows).map key = rows.map key := by
  induction rows with
  | nil => rfl
  | cons head rest ih =>
      unfold editFirst
      split
      · rw [List.map_cons, List.map_cons, keeps]
      · rw [List.map_cons, List.map_cons, ih]

theorem ordered_iff_map : Ordered key rows ↔ (rows.map key).Pairwise (· > ·) := by
  rw [List.pairwise_map]
  rfl

theorem editFirst_ordered (keeps : ∀ row, key (change row) = key row)
    (ordered : Ordered key rows) : Ordered key (editFirst p change rows) := by
  rw [ordered_iff_map, map_key_editFirst keeps]
  exact ordered_iff_map.mp ordered

theorem length_editFirst : (editFirst p change rows).length = rows.length := by
  have keeps : (editFirst p change rows).map (fun _ => 0) = rows.map (fun _ => 0) :=
    map_key_editFirst fun _ => rfl
  have lengths := congrArg List.length keeps
  rwa [List.length_map, List.length_map] at lengths

theorem editFirst_none (missing : rows.find? p = none) : editFirst p change rows = rows := by
  induction rows with
  | nil => rfl
  | cons head rest ih =>
      rw [List.find?_eq_none] at missing
      unfold editFirst
      rw [if_neg (missing head List.mem_cons_self),
        ih (List.find?_eq_none.mpr fun row member =>
          missing row (List.mem_cons_of_mem _ member))]

/-- The rows after a change: the changed one, and those with other keys. -/
theorem mem_editFirst_iff (ordered : Ordered key rows) {old other : α}
    (found : rows.find? p = some old) :
    other ∈ editFirst p change rows ↔ other = change old ∨ other ∈ rows ∧ key other ≠ key old := by
  induction rows with
  | nil => cases found
  | cons head rest ih =>
      obtain ⟨older, later⟩ := List.pairwise_cons.mp ordered
      rw [List.find?_cons] at found
      unfold editFirst
      cases here : p head with
      | true =>
          rw [here] at found
          cases found
          rw [if_pos rfl, List.mem_cons, List.mem_cons]
          refine or_congr_right ⟨fun member => ⟨.inr member, ?_⟩, ?_⟩
          · exact Nat.ne_of_lt (older other member)
          · rintro ⟨rfl | member, other⟩
            · exact absurd rfl other
            · exact member
      | false =>
          rw [here] at found
          have behind : old ∈ rest := List.mem_of_find?_eq_some found
          rw [if_neg Bool.false_ne_true, List.mem_cons, List.mem_cons, ih later found]
          constructor
          · rintro (rfl | changed | ⟨member, other⟩)
            · exact .inr ⟨.inl rfl, (Nat.ne_of_lt (older old behind)).symm⟩
            · exact .inl changed
            · exact .inr ⟨.inr member, other⟩
          · rintro (changed | ⟨rfl | member, other⟩)
            · exact .inr (.inl changed)
            · exact .inl rfl
            · exact .inr (.inr ⟨member, other⟩)

/-- A change of the first row that satisfies a condition is the change of the row with its
key. -/
theorem editFirst_eq_of_find? (ordered : Ordered key rows) {old : α}
    (found : rows.find? p = some old) :
    editFirst p change rows = editFirst (fun row => key row == key old) change rows := by
  induction rows with
  | nil => rfl
  | cons head rest ih =>
      obtain ⟨older, later⟩ := List.pairwise_cons.mp ordered
      rw [List.find?_cons] at found
      unfold editFirst
      cases here : p head with
      | true =>
          rw [here] at found
          cases found
          rw [if_pos rfl, if_pos (beq_self_eq_true _)]
      | false =>
          rw [here] at found
          have other : (key head == key old) = false :=
            beq_false_of_ne (Nat.ne_of_gt (older old (List.mem_of_find?_eq_some found)))
          rw [other, if_neg Bool.false_ne_true, if_neg Bool.false_ne_true, ih later found]

end History

end AirPaste.Theory
