/-
# Theory.Newest — the greatest element of a list, and the list from the greatest on

`maxByKey` is the fold of an iterator's `max_by_key`, which keeps the last of several
greatest elements; `sortByReverseKey` is the stable sort by descending key, which puts the
first of them at the head.  The two agree exactly when there are not several
(`maxByKey_eq_head?_iff`).
-/
import Mathlib.Data.List.Sort

namespace AirPaste.Theory

set_option autoImplicit false

section Newest

variable {V K : Type} [LinearOrder K] (key : V → K)

/-- The greatest so far, after one more element. -/
def keepGreater (best : Option V) (v : V) : Option V :=
  match best with
  | none => some v
  | some greatest => if key v < key greatest then some greatest else some v

/-- `max_by_key`. -/
def maxByKey (values : List V) : Option V := values.foldl (keepGreater key) none

/-- `sort_by_key` with the reversed key. -/
def sortByReverseKey (values : List V) : List V :=
  values.insertionSort fun a b => key b ≤ key a

variable {key} {values : List V}

theorem foldl_keepGreater (key : V → K) (greatest : V) (values : List V) :
    ∃ last, values.foldl (keepGreater key) (some greatest) = some last ∧
      (last = greatest ∨ last ∈ values) ∧ key greatest ≤ key last ∧
      ∀ v ∈ values, key v ≤ key last := by
  induction values generalizing greatest with
  | nil => exact ⟨greatest, rfl, Or.inl rfl, le_refl _, nofun⟩
  | cons head rest ih =>
      by_cases below : key head < key greatest
      · obtain ⟨last, found, member, above, all⟩ := ih greatest
        refine ⟨last, ?_, member.imp_right (List.mem_cons_of_mem head), above, ?_⟩
        · rw [List.foldl_cons, keepGreater, if_pos below, found]
        · rw [List.forall_mem_cons]
          exact ⟨below.le.trans above, all⟩
      · obtain ⟨last, found, member, above, all⟩ := ih head
        refine ⟨last, ?_, Or.inr ?_, (not_lt.mp below).trans above, ?_⟩
        · rw [List.foldl_cons, keepGreater, if_neg below, found]
        · rcases member with rfl | member
          · exact List.mem_cons_self
          · exact List.mem_cons_of_mem head member
        · rw [List.forall_mem_cons]
          exact ⟨above, all⟩

theorem maxByKey_eq_none_iff : maxByKey key values = none ↔ values = [] := by
  cases values with
  | nil => exact iff_of_true rfl rfl
  | cons head rest =>
      obtain ⟨last, found, -⟩ := foldl_keepGreater key head rest
      refine iff_of_false (fun nothing => ?_) (List.cons_ne_nil head rest)
      rw [maxByKey, List.foldl_cons, keepGreater, found] at nothing
      cases nothing

/-- What is found is in the list, and nothing in the list is greater. -/
theorem maxByKey_some {last : V} (found : maxByKey key values = some last) :
    last ∈ values ∧ ∀ v ∈ values, key v ≤ key last := by
  cases values with
  | nil => cases found
  | cons head rest =>
      obtain ⟨greatest, kept, member, above, all⟩ := foldl_keepGreater key head rest
      rw [maxByKey, List.foldl_cons, keepGreater, kept] at found
      cases found
      refine ⟨?_, List.forall_mem_cons.mpr ⟨above, all⟩⟩
      rcases member with rfl | member
      · exact List.mem_cons_self
      · exact List.mem_cons_of_mem head member

theorem sortByReverseKey_perm (key : V → K) (values : List V) :
    (sortByReverseKey key values).Perm values :=
  List.perm_insertionSort _ values

theorem sortByReverseKey_pairwise (key : V → K) (values : List V) :
    (sortByReverseKey key values).Pairwise fun a b => key b ≤ key a :=
  haveI : Std.Total fun a b : V => key b ≤ key a := ⟨fun a b => le_total (key b) (key a)⟩
  haveI : IsTrans V fun a b => key b ≤ key a := ⟨fun _ _ _ first second => second.trans first⟩
  List.pairwise_insertionSort _ values

/-! ## Several greatest elements -/

variable (key values) in
/-- In the list, and nothing in the list is greater. -/
def Greatest (v : V) : Prop := v ∈ values ∧ ∀ w ∈ values, key w ≤ key v

/-- From a greatest so far on, the fold ends at it or at the last of the greatest after it. -/
theorem foldl_keepGreater_last {greatest last : V} {values : List V}
    (found : values.foldl (keepGreater key) (some greatest) = some last) :
    (last = greatest ∧ ∀ v ∈ values, key v < key last) ∨
      ∃ before after, values = before ++ last :: after ∧ ∀ v ∈ after, key v < key last := by
  induction values generalizing greatest with
  | nil =>
      cases found
      exact Or.inl ⟨rfl, nofun⟩
  | cons head rest ih =>
      rw [List.foldl_cons, keepGreater] at found
      split at found
      · rename_i below
        rcases ih found with ⟨rfl, all⟩ | ⟨before, after, rfl, behind⟩
        · exact Or.inl ⟨rfl, List.forall_mem_cons.mpr ⟨below, all⟩⟩
        · exact Or.inr ⟨head :: before, after, rfl, behind⟩
      · rcases ih found with ⟨rfl, all⟩ | ⟨before, after, rfl, behind⟩
        · exact Or.inr ⟨[], rest, rfl, all⟩
        · exact Or.inr ⟨head :: before, after, rfl, behind⟩

/-- What is found is the last of the greatest. -/
theorem maxByKey_last {last : V} (found : maxByKey key values = some last) :
    ∃ before after, values = before ++ last :: after ∧ ∀ v ∈ after, key v < key last := by
  cases values with
  | nil => cases found
  | cons head rest =>
      rw [maxByKey, List.foldl_cons, keepGreater] at found
      rcases foldl_keepGreater_last found with ⟨rfl, all⟩ | ⟨before, after, rfl, behind⟩
      · exact ⟨[], rest, rfl, all⟩
      · exact ⟨head :: before, after, rfl, behind⟩

/-- The head of the sorted list is the first of the greatest. -/
theorem sortByReverseKey_first {first : V} {sorted : List V}
    (sorts : sortByReverseKey key values = first :: sorted) :
    ∃ before after, values = before ++ first :: after ∧ ∀ v ∈ before, key v < key first := by
  induction values generalizing first sorted with
  | nil => cases sorts
  | cons head rest ih =>
      rw [sortByReverseKey, List.insertionSort_cons] at sorts
      cases tail : rest.insertionSort fun a b => key b ≤ key a with
      | nil =>
          rw [tail, List.orderedInsert_nil] at sorts
          cases sorts
          exact ⟨[], rest, rfl, nofun⟩
      | cons next later =>
          rw [tail, List.orderedInsert_cons] at sorts
          split at sorts
          · cases sorts
            exact ⟨[], rest, rfl, nofun⟩
          · rename_i above
            cases sorts
            obtain ⟨before, after, rfl, below⟩ := ih tail
            exact ⟨head :: before, after, rfl,
              List.forall_mem_cons.mpr ⟨not_le.mp above, below⟩⟩

theorem sortByReverseKey_greatest {first : V} {sorted : List V}
    (sorts : sortByReverseKey key values = first :: sorted) : Greatest key values first := by
  have perm := sortByReverseKey_perm key values
  have descending := sortByReverseKey_pairwise key values
  rw [sorts] at perm descending
  refine ⟨perm.mem_iff.mp List.mem_cons_self, fun v member => ?_⟩
  rcases List.mem_cons.mp (perm.mem_iff.mpr member) with rfl | later
  · exact le_refl _
  · exact (List.pairwise_cons.mp descending).1 v later

/-- Of a list without repetitions, the greatest element is the head of the sorted list exactly
when no other element is as great. -/
theorem maxByKey_eq_head?_iff (distinct : values.Nodup) :
    maxByKey key values = (sortByReverseKey key values).head? ↔
      ∀ v w, Greatest key values v → Greatest key values w → v = w := by
  cases sorts : sortByReverseKey key values with
  | nil =>
      have perm := sortByReverseKey_perm key values
      rw [sorts] at perm
      obtain rfl := perm.nil_eq
      exact iff_of_true rfl fun v w greatest => absurd greatest.1 List.not_mem_nil
  | cons first sorted =>
      have own := sortByReverseKey_greatest sorts
      have nonempty : values ≠ [] := List.ne_nil_of_mem own.1
      obtain ⟨last, found⟩ : ∃ last, maxByKey key values = some last :=
        Option.ne_none_iff_exists'.mp fun absent => nonempty (maxByKey_eq_none_iff.mp absent)
      rw [found, List.head?_cons, Option.some.injEq]
      constructor
      · -- No element before the first and none after the last of the greatest is as great.
        rintro rfl
        obtain ⟨before, after, rfl, behind⟩ := maxByKey_last found
        obtain ⟨before', after', same, ahead⟩ := sortByReverseKey_first sorts
        have once := List.nodup_middle.mp distinct
        obtain ⟨unlisted, -⟩ := List.nodup_cons.mp once
        rw [List.mem_append, not_or] at unlisted
        obtain ⟨rfl, -, rfl⟩ := (List.append_cons_inj_of_notMem unlisted.1 unlisted.2).mp same
        have only : ∀ v, Greatest key (before ++ last :: after) v → v = last := by
          rintro v ⟨member, all⟩
          have high : key last ≤ key v := all last own.1
          rcases List.mem_append.mp member with early | late
          · exact absurd (ahead v early) (not_lt.mpr high)
          · rcases List.mem_cons.mp late with same | later
            · exact same
            · exact absurd (behind v later) (not_lt.mpr high)
        exact fun v w first second => (only v first).trans (only w second).symm
      · exact fun unique => unique last first (maxByKey_some found) own

end Newest

end AirPaste.Theory
