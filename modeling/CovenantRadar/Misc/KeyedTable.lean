import CovenantRadar.Misc.Select
import Mathlib

/-!
# Tables with a primary key

Rows in insertion order, no two with the same key: a row is found by its key, a new row is added
at the end, and an update replaces a row in its place.
-/

namespace CovenantRadar

/-- Rows with a primary key. -/
structure KeyedTable {α κ : Type} (key : α → κ) where
  rows : List α
  distinct : (rows.map key).Nodup

namespace KeyedTable

variable {α κ : Type} {key : α → κ}

/-- The table without rows. -/
def empty : KeyedTable key := ⟨[], List.nodup_nil⟩

variable [DecidableEq κ]

/-- The row of a key. -/
def find (table : KeyedTable key) (k : κ) : Option α := table.rows.find? fun row => key row = k

theorem find_eq_some_iff {table : KeyedTable key} {k : κ} {row : α} :
    table.find k = some row ↔ row ∈ table.rows ∧ key row = k :=
  find?_key_eq_some_iff table.distinct

theorem find_eq_none_iff {table : KeyedTable key} {k : κ} :
    table.find k = none ↔ k ∉ table.rows.map key := by
  simp [find]

theorem find_of_mem {table : KeyedTable key} {row : α} (listed : row ∈ table.rows) :
    table.find (key row) = some row := find_eq_some_iff.mpr ⟨listed, rfl⟩

/-- Adds a row with a new key. -/
def insert (table : KeyedTable key) (row : α) (fresh : table.find (key row) = none) :
    KeyedTable key where
  rows := table.rows ++ [row]
  distinct := by
    rw [List.map_append, List.nodup_append]
    refine ⟨table.distinct, List.nodup_singleton _, ?_⟩
    intro k listed k' listed' same
    rw [List.map_singleton, List.mem_singleton] at listed'
    subst same listed'
    exact find_eq_none_iff.mp fresh listed

/-- A row in the place of another of the same key changes no key. -/
theorem map_key_replace (rows : List α) (row : α) :
    (rows.map fun old => if key old = key row then row else old).map key = rows.map key := by
  rw [List.map_map]
  apply List.map_congr_left
  intro old _
  by_cases equal : key old = key row <;> simp [equal]

/-- Replaces the row of the same key. -/
def put (table : KeyedTable key) (row : α) : KeyedTable key where
  rows := table.rows.map fun old => if key old = key row then row else old
  distinct := by
    rw [map_key_replace]
    exact table.distinct

@[simp] theorem rows_put (table : KeyedTable key) (row : α) :
    (table.put row).rows = table.rows.map fun old => if key old = key row then row else old := rfl

@[simp] theorem rows_insert {table : KeyedTable key} {row : α}
    (fresh : table.find (key row) = none) : (table.insert row fresh).rows = table.rows ++ [row] :=
  rfl

theorem find_insert {table : KeyedTable key} {row : α} (fresh : table.find (key row) = none)
    (k : κ) : (table.insert row fresh).find k = if k = key row then some row else table.find k := by
  unfold find
  rw [rows_insert, List.find?_append, List.find?_singleton]
  by_cases same : k = key row
  · subst same
    have absent : (table.rows.find? fun old => key old = key row) = none := fresh
    simp [absent]
  · simp [same, Ne.symm same]

theorem find_put {table : KeyedTable key} {row old : α} (present : table.find (key row) = some old)
    (k : κ) : (table.put row).find k = if k = key row then some row else table.find k := by
  obtain ⟨listed, equal⟩ := find_eq_some_iff.mp present
  by_cases same : k = key row
  · rw [if_pos same, find_eq_some_iff]
    refine ⟨?_, same.symm⟩
    exact List.mem_map.mpr ⟨old, listed, if_pos equal⟩
  · rw [if_neg same]
    cases found : table.find k with
    | some other =>
      obtain ⟨listed', equal'⟩ := find_eq_some_iff.mp found
      rw [find_eq_some_iff]
      refine ⟨List.mem_map.mpr ⟨other, listed', if_neg ?_⟩, equal'⟩
      rw [equal']
      exact same
    | none =>
      rw [find_eq_none_iff] at found ⊢
      intro listed'
      apply found
      rwa [rows_put, map_key_replace] at listed'

/-- Adds a row unless its key is taken. -/
def insertNew (table : KeyedTable key) (row : α) : KeyedTable key :=
  if fresh : table.find (key row) = none then table.insert row fresh else table

theorem insertNew_of_present {table : KeyedTable key} {row old : α}
    (present : table.find (key row) = some old) : table.insertNew row = table :=
  dif_neg (by simp [present])

/-- A key that is taken stays with its row; otherwise it is the new one's. -/
theorem find_insertNew (table : KeyedTable key) (row : α) (k : κ) :
    (table.insertNew row).find k =
      if k = key row then some ((table.find k).getD row) else table.find k := by
  unfold insertNew
  split_ifs with fresh same same
  · rw [find_insert, if_pos same, same, fresh]
    rfl
  · rw [find_insert, if_neg same]
  · obtain ⟨old, present⟩ := Option.ne_none_iff_exists'.mp fresh
    rw [same, present]
    rfl
  · rfl

/-- Changes rows in their places, without their keys. -/
def update (table : KeyedTable key) (f : α → α) (keeps : ∀ row, key (f row) = key row) :
    KeyedTable key where
  rows := table.rows.map f
  distinct := by
    rw [List.map_map]
    have same : key ∘ f = key := funext keeps
    rw [same]
    exact table.distinct

theorem find_update {table : KeyedTable key} {f : α → α} (keeps : ∀ row, key (f row) = key row)
    (k : κ) : (table.update f keeps).find k = (table.find k).map f := by
  unfold find update
  rw [List.find?_map]
  congr 1
  apply List.find?_congr
  intro row _
  simp [keeps]

end KeyedTable

end CovenantRadar
