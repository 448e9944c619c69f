/-
# Theory.KeyedTable — an ordered table whose rows carry their own key

A table of an embedded store maps an ordered key to a row.  When every row names
the key it is filed under, "filed under the wrong key" is not a state: a
`KeyedTable key` is the list of its rows in strictly increasing key order, and
the key of a row is `key row`.  Lookups, upserts, removals and filters are the
table transactions; `get_put` and `get_retain` say what an upsert and a filter change.
-/
import Mathlib.Order.Basic
import Mathlib.Data.List.Sort

namespace AirPaste.Theory

set_option autoImplicit false

/-- Rows in strictly increasing key order. -/
structure KeyedTable {K V : Type} [LinearOrder K] (key : V → K) where
  rows : List V
  sorted : rows.Pairwise fun a b => key a < key b

namespace KeyedTable

variable {K V : Type} [LinearOrder K] {key : V → K}

def empty : KeyedTable key := ⟨[], List.Pairwise.nil⟩

def isEmpty (t : KeyedTable key) : Bool := t.rows.isEmpty

/-- The row filed under `k`. -/
def get (t : KeyedTable key) (k : K) : Option V := t.rows.find? fun v => key v = k

/-- Upsert into a key-ordered row list. -/
def insertRow (key : V → K) (v : V) : List V → List V
  | [] => [v]
  | w :: rest =>
      if key v < key w then v :: w :: rest
      else if key v = key w then v :: rest
      else w :: insertRow key v rest

theorem mem_insertRow {v x : V} {rows : List V} (h : x ∈ insertRow key v rows) :
    x = v ∨ x ∈ rows := by
  induction rows with
  | nil => simpa [insertRow] using h
  | cons w rest ih =>
      unfold insertRow at h
      split at h
      · simpa using h
      · split at h
        · simp only [List.mem_cons] at h ⊢
          tauto
        · simp only [List.mem_cons] at h ⊢
          rcases h with h | h
          · exact Or.inr (Or.inl h)
          · rcases ih h with h | h
            · exact Or.inl h
            · exact Or.inr (Or.inr h)

theorem insertRow_sorted (v : V) {rows : List V}
    (sorted : rows.Pairwise fun a b => key a < key b) :
    (insertRow key v rows).Pairwise fun a b => key a < key b := by
  induction rows with
  | nil => simp [insertRow]
  | cons w rest ih =>
      rw [List.pairwise_cons] at sorted
      unfold insertRow
      split
      · rename_i below
        refine List.Pairwise.cons ?_ (List.Pairwise.cons sorted.1 sorted.2)
        intro x hx
        rcases List.mem_cons.mp hx with rfl | hx
        · exact below
        · exact below.trans (sorted.1 x hx)
      · split
        · rename_i same
          refine List.Pairwise.cons ?_ sorted.2
          intro x hx
          rw [same]
          exact sorted.1 x hx
        · rename_i notBelow notSame
          refine List.Pairwise.cons ?_ (ih sorted.2)
          intro x hx
          rcases mem_insertRow hx with rfl | hx
          · exact lt_of_le_of_ne (not_lt.mp notBelow) (Ne.symm notSame)
          · exact sorted.1 x hx

def put (t : KeyedTable key) (v : V) : KeyedTable key :=
  ⟨insertRow key v t.rows, insertRow_sorted v t.sorted⟩

/-- Keep the rows satisfying `p`. -/
def retain (t : KeyedTable key) (p : V → Bool) : KeyedTable key :=
  ⟨t.rows.filter p, t.sorted.filter p⟩

def remove (t : KeyedTable key) (k : K) : KeyedTable key :=
  t.retain fun v => key v ≠ k

theorem key_of_get {t : KeyedTable key} {k : K} {v : V} (h : t.get k = some v) : key v = k := by
  simpa using List.find?_some h

theorem mem_of_get {t : KeyedTable key} {k : K} {v : V} (h : t.get k = some v) : v ∈ t.rows :=
  List.mem_of_find?_eq_some h

/-- In a sorted row list, a row is what the lookup of its key finds. -/
theorem find?_of_mem {rows : List V} (sorted : rows.Pairwise fun a b => key a < key b)
    {v : V} (member : v ∈ rows) : rows.find? (fun x => key x = key v) = some v := by
  induction rows with
  | nil => simp at member
  | cons w rest ih =>
      rw [List.pairwise_cons] at sorted
      rcases List.mem_cons.mp member with rfl | member
      · simp
      · have ne : key w ≠ key v := (sorted.1 v member).ne
        rw [List.find?_cons_of_neg (by simpa using ne)]
        exact ih sorted.2 member

theorem get_of_mem {t : KeyedTable key} {v : V} (member : v ∈ t.rows) : t.get (key v) = some v :=
  find?_of_mem t.sorted member

theorem mem_rows_iff {t : KeyedTable key} {v : V} : v ∈ t.rows ↔ t.get (key v) = some v :=
  ⟨get_of_mem, mem_of_get⟩

@[simp] theorem get_empty (k : K) : (empty : KeyedTable key).get k = none := rfl

theorem isEmpty_iff {t : KeyedTable key} : t.isEmpty = true ↔ ∀ k, t.get k = none := by
  simp only [isEmpty, get]
  constructor
  · intro h k
    rw [List.isEmpty_iff.mp h]
    rfl
  · intro h
    rw [List.isEmpty_iff, List.eq_nil_iff_forall_not_mem]
    intro v member
    have := find?_of_mem t.sorted member
    rw [h (key v)] at this
    cases this

theorem find?_insertRow (v : V) (k : K) (rows : List V)
    (sorted : rows.Pairwise fun a b => key a < key b) :
    (insertRow key v rows).find? (fun x => key x = k) =
      if key v = k then some v else rows.find? (fun x => key x = k) := by
  induction rows with
  | nil => by_cases h : key v = k <;> simp [insertRow, h]
  | cons w rest ih =>
      rw [List.pairwise_cons] at sorted
      unfold insertRow
      split
      · by_cases h : key v = k <;> simp [h]
      · split
        · rename_i same
          by_cases h : key v = k
          · simp [h]
          · have hw : key w ≠ k := same ▸ h
            simp [h, hw]
        · rename_i notBelow notSame
          by_cases hw : key w = k
          · have hv : key v ≠ k := fun h => notSame (h.trans hw.symm)
            simp [hw, hv]
          · rw [List.find?_cons_of_neg (by simpa using hw), ih sorted.2,
              List.find?_cons_of_neg (by simpa using hw)]

@[simp] theorem get_put (t : KeyedTable key) (v : V) (k : K) :
    (t.put v).get k = if key v = k then some v else t.get k :=
  find?_insertRow v k t.rows t.sorted

theorem get_put_self (t : KeyedTable key) (v : V) : (t.put v).get (key v) = some v := by
  simp

theorem get_put_ne (t : KeyedTable key) {v : V} {k : K} (ne : key v ≠ k) :
    (t.put v).get k = t.get k := by
  simp [ne]

theorem put_isEmpty (t : KeyedTable key) (v : V) : (t.put v).isEmpty = false := by
  rw [Bool.eq_false_iff]
  intro h
  have := isEmpty_iff.mp h (key v)
  rw [get_put_self] at this
  cases this

@[simp] theorem get_retain (t : KeyedTable key) (p : V → Bool) (k : K) :
    (t.retain p).get k = (t.get k).filter p := by
  cases found : t.get k with
  | none =>
      have absent := List.find?_eq_none.mp found
      refine List.find?_eq_none.mpr fun v member => absent v ?_
      exact (List.mem_filter.mp member).1
  | some v =>
      have hk := key_of_get found
      subst hk
      by_cases hp : p v = true
      · rw [Option.filter_some_pos hp]
        exact get_of_mem (t := t.retain p) (List.mem_filter.mpr ⟨mem_of_get found, hp⟩)
      · rw [Option.filter_some_neg (Bool.eq_false_iff.mpr hp)]
        refine List.find?_eq_none.mpr fun w member same => hp ?_
        obtain ⟨member, hw⟩ := List.mem_filter.mp member
        have : t.get (key w) = some w := get_of_mem member
        rw [of_decide_eq_true same, found] at this
        cases this
        exact hw

/-- The rows of a table are the only list of them in key order. -/
theorem rows_eq_of_mem_iff {t : KeyedTable key} {rows : List V}
    (sorted : rows.Pairwise fun a b => key a < key b)
    (members : ∀ v, v ∈ t.rows ↔ v ∈ rows) : t.rows = rows := by
  have perm : t.rows.Perm rows :=
    (List.perm_ext_iff_of_nodup
      (t.sorted.imp fun h e => absurd (congrArg key e) h.ne)
      (sorted.imp fun h e => absurd (congrArg key e) h.ne)).mpr members
  exact perm.eq_of_pairwise (fun a b _ _ hab hba => absurd (hab.trans hba) (lt_irrefl _))
    t.sorted sorted

/-- A table is what its lookups find. -/
theorem ext_get {t u : KeyedTable key} (same : ∀ k, t.get k = u.get k) : t = u := by
  obtain ⟨rows, sorted⟩ := u
  have rows_eq : t.rows = rows := by
    apply rows_eq_of_mem_iff sorted
    intro v
    rw [mem_rows_iff, same]
    exact mem_rows_iff.symm
  obtain ⟨_, _⟩ := t
  cases rows_eq
  rfl

/-- To put a row that is there already changes nothing. -/
theorem put_eq_self {t : KeyedTable key} {v : V} (stored : t.get (key v) = some v) :
    t.put v = t := by
  apply ext_get
  intro k
  rw [get_put]
  split
  · rename_i here
    rw [← here, stored]
  · rfl

end KeyedTable

end AirPaste.Theory
