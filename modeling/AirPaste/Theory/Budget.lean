/-
# Theory.Budget — the longest prefix within a budget

Items have weights, and a meter lets them through one after the other until the first one
that exceeds the budget.  `fitting` is what it lets through: a prefix within the budget
(`fitting_initial`, `weight_fitting_le`), all of the items when they fit together
(`fitting_eq_self`), and no longer one once an item did not fit (`fitting_over`).
-/
import Mathlib.Algebra.Order.BigOperators.Group.List
import Mathlib.Algebra.Order.Group.Nat
import Mathlib.Algebra.Ring.Nat
import Mathlib.Data.List.Basic

namespace AirPaste.Theory

set_option autoImplicit false

section Budget

variable {α : Type} (weight : α → Nat)

theorem sum_map_initial {first all : List α} (isPrefix : first <+: all) :
    (first.map weight).sum ≤ (all.map weight).sum :=
  (isPrefix.sublist.map weight).sum_le_sum fun _ _ => Nat.zero_le _

/-- Where every item has a heavier one in its place, the whole is heavier. -/
theorem sum_map_mono {items later : List α}
    (heavier : ∀ (i : Nat) (item : α), items[i]? = some item →
      ∃ other, later[i]? = some other ∧ weight item ≤ weight other) :
    (items.map weight).sum ≤ (later.map weight).sum := by
  induction items generalizing later with
  | nil => exact Nat.zero_le _
  | cons item rest ih =>
      obtain ⟨other, first, le⟩ := heavier 0 item rfl
      cases later with
      | nil => cases first
      | cons head tail =>
          cases first
          have others := @ih tail fun i next found => heavier (i + 1) next found
          rw [List.map_cons, List.sum_cons, List.map_cons, List.sum_cons]
          omega

/-- What is let through. -/
def fitting : Nat → List α → List α
  | _, [] => []
  | budget, item :: rest =>
      if weight item ≤ budget then item :: fitting (budget - weight item) rest else []

theorem fitting_initial (budget : Nat) (items : List α) :
    fitting weight budget items <+: items := by
  induction items generalizing budget with
  | nil => exact List.prefix_rfl
  | cons item rest ih =>
      unfold fitting
      split
      · exact List.cons_prefix_cons.mpr ⟨rfl, ih _⟩
      · exact List.nil_prefix

theorem weight_fitting_le (budget : Nat) (items : List α) :
    ((fitting weight budget items).map weight).sum ≤ budget := by
  induction items generalizing budget with
  | nil => exact Nat.zero_le budget
  | cons item rest ih =>
      unfold fitting
      split
      · have later := ih (budget - weight item)
        rw [List.map_cons, List.sum_cons]
        omega
      · exact Nat.zero_le budget

theorem fitting_eq_self {budget : Nat} {items : List α} (fits : (items.map weight).sum ≤ budget) :
    fitting weight budget items = items := by
  induction items generalizing budget with
  | nil => rfl
  | cons item rest ih =>
      rw [List.map_cons, List.sum_cons] at fits
      rw [fitting, if_pos (by omega), ih (by omega)]

/-- The first item that does not fit closes the meter. -/
theorem fitting_over {budget : Nat} {items : List α} {item : α}
    (fits : (items.map weight).sum ≤ budget)
    (exceeds : budget < (items.map weight).sum + weight item) :
    fitting weight budget (items ++ [item]) = items := by
  induction items generalizing budget with
  | nil =>
      rw [List.map_nil, List.sum_nil] at exceeds
      rw [List.nil_append, fitting, if_neg (by omega)]
  | cons first rest ih =>
      rw [List.map_cons, List.sum_cons] at fits exceeds
      rw [List.cons_append, fitting, if_pos (by omega), ih (by omega) (by omega)]

end Budget

end AirPaste.Theory
