/-
# Theory.LazyTable — a table whose expired rows are dropped late

Rows expire as time passes.  A table that drops an expired row at once is the rows that
are not expired; one that prunes now and then still holds some that are.  `Lags now table
full` relates such a table to the one that never drops any: it holds no row that the other
does not, and every row that is live `now`.  Every operation that both make, and every
removal of an expired row, keeps the relation, so that at any time the two have the same
live rows (`Lags.live_eq`).
-/
import AirPaste.Theory.KeyedTable

namespace AirPaste.Theory

set_option autoImplicit false

section LazyTable

variable {K V T : Type} [LinearOrder K] {key : V → K} (expired : T → V → Bool)

namespace KeyedTable

/-- The rows that have not expired. -/
def live (now : T) (table : KeyedTable key) : KeyedTable key :=
  table.retain fun v => !expired now v

variable {expired} {now : T} {table : KeyedTable key} {v : V}

theorem get_live_eq_some {k : K} :
    (table.live expired now).get k = some v ↔ table.get k = some v ∧ expired now v = false := by
  rw [live, get_retain, Option.filter_eq_some_iff, Bool.not_eq_true']

theorem mem_live :
    v ∈ (table.live expired now).rows ↔ v ∈ table.rows ∧ expired now v = false := by
  rw [mem_rows_iff, get_live_eq_some, mem_rows_iff]

theorem get_remove_eq_some {k removed : K} :
    (table.remove removed).get k = some v ↔ table.get k = some v ∧ k ≠ removed := by
  rw [remove, get_retain, Option.filter_eq_some_iff, decide_eq_true_eq]
  exact and_congr_right fun found => by rw [key_of_get found]

theorem mem_remove {removed : K} :
    v ∈ (table.remove removed).rows ↔ v ∈ table.rows ∧ key v ≠ removed := by
  rw [mem_rows_iff, get_remove_eq_some, mem_rows_iff]

theorem mem_put {put : V} :
    v ∈ (table.put put).rows ↔ v = put ∨ v ∈ table.rows ∧ key v ≠ key put := by
  rw [mem_rows_iff, get_put, mem_rows_iff]
  split
  next same =>
      constructor
      · intro found
        exact Or.inl (Option.some.inj found).symm
      · rintro (rfl | ⟨-, other⟩)
        · rfl
        · exact absurd same.symm other
  next other =>
      constructor
      · intro found
        exact Or.inr ⟨found, Ne.symm other⟩
      · rintro (rfl | ⟨found, -⟩)
        · exact absurd rfl other
        · exact found

end KeyedTable

/-- `table` holds the live rows of `full`, and of the expired ones it may hold any. -/
structure Lags (now : T) (table full : KeyedTable key) : Prop where
  sub : ∀ k v, table.get k = some v → full.get k = some v
  live : ∀ k v, full.get k = some v → expired now v = false → table.get k = some v

namespace Lags

variable {expired} {now : T} {table full : KeyedTable key}

theorem refl (now : T) (table : KeyedTable key) : Lags expired now table table :=
  ⟨fun _ _ found => found, fun _ _ found _ => found⟩

/-- Once expired, a row stays expired. -/
theorem later {then_ : T} (stays : ∀ v, expired now v = true → expired then_ v = true)
    (lags : Lags expired now table full) : Lags expired then_ table full where
  sub := lags.sub
  live := fun k v found fresh => by
    refine lags.live k v found ?_
    rw [← Bool.not_eq_true] at fresh ⊢
    exact fun gone => fresh (stays v gone)

theorem put (lags : Lags expired now table full) (v : V) :
    Lags expired now (table.put v) (full.put v) where
  sub := fun k w found => by
    rw [KeyedTable.get_put] at found ⊢
    split
    next same => rwa [if_pos same] at found
    next other => exact lags.sub k w (by rwa [if_neg other] at found)
  live := fun k w found fresh => by
    rw [KeyedTable.get_put] at found ⊢
    split
    next same => rwa [if_pos same] at found
    next other => exact lags.live k w (by rwa [if_neg other] at found) fresh

theorem remove (lags : Lags expired now table full) (k : K) :
    Lags expired now (table.remove k) (full.remove k) where
  sub := fun other v found => by
    rw [KeyedTable.get_remove_eq_some] at found ⊢
    exact ⟨lags.sub other v found.1, found.2⟩
  live := fun other v found fresh => by
    rw [KeyedTable.get_remove_eq_some] at found ⊢
    exact ⟨lags.live other v found.1 fresh, found.2⟩

/-- All expired rows are dropped. -/
theorem prune (lags : Lags expired now table full) :
    Lags expired now (table.live expired now) full where
  sub := fun k v found => lags.sub k v (KeyedTable.get_live_eq_some.mp found).1
  live := fun k v found fresh => KeyedTable.get_live_eq_some.mpr ⟨lags.live k v found fresh, fresh⟩

/-- One expired row is dropped. -/
theorem drop (lags : Lags expired now table full) {k : K} {v : V}
    (found : table.get k = some v) (gone : expired now v = true) :
    Lags expired now (table.remove k) full where
  sub := fun other w stored => lags.sub other w (KeyedTable.get_remove_eq_some.mp stored).1
  live := fun other w stored fresh => by
    refine KeyedTable.get_remove_eq_some.mpr ⟨lags.live other w stored fresh, ?_⟩
    rintro rfl
    rw [lags.sub other v found] at stored
    cases stored
    rw [gone] at fresh
    cases fresh

/-- The two tables have the same live rows. -/
theorem live_eq (lags : Lags expired now table full) :
    table.live expired now = full.live expired now := by
  apply KeyedTable.ext_get
  intro k
  apply Option.ext
  intro v
  rw [KeyedTable.get_live_eq_some, KeyedTable.get_live_eq_some]
  constructor
  · rintro ⟨found, fresh⟩
    exact ⟨lags.sub k v found, fresh⟩
  · rintro ⟨found, fresh⟩
    exact ⟨lags.live k v found fresh, fresh⟩

end Lags

end LazyTable

end AirPaste.Theory
