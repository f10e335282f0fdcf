import CovenantRadar.Ingestion.Database

/-!
# Inserting signals

What `_insert_valid` leaves: every signal of the batch is stored under its content hash, rows
stored before stay, and the signals counted as inserted or duplicate are all of them.
-/

namespace CovenantRadar

/-- A row whose key is new makes a table longer by one, another one does not. -/
theorem KeyedTable.length_insertNew {α κ : Type} {key : α → κ} [DecidableEq κ]
    (table : KeyedTable key) (row : α) :
    table.rows.length ≤ (table.insertNew row).rows.length ∧
      (table.insertNew row).rows.length ≤ table.rows.length + 1 := by
  unfold insertNew
  split_ifs with fresh
  · rw [rows_insert, List.length_append, List.length_singleton]
    omega
  · omega

theorem KeyedTable.find_insertNew_of_some {α κ : Type} {key : α → κ} [DecidableEq κ]
    {table : KeyedTable key} {k : κ} {old : α} (held : table.find k = some old) (row : α) :
    (table.insertNew row).find k = some old := by
  rw [find_insertNew, held, Option.getD_some, ite_self]

namespace Ingestion.Database

open Taxonomy (Builtins SignalEvent)

variable {py : Builtins} {hexdigest : ByteArray → Text}

/-! ## First signals -/

/-- The loop body of `firstOfEachHash`. -/
def keepFirst (unique : List (PreparedSignal py hexdigest))
    (candidate : PreparedSignal py hexdigest) : List (PreparedSignal py hexdigest) :=
  if unique.any fun known => known.event.contentHash = candidate.event.contentHash then unique
  else unique ++ [candidate]

theorem firstOfEachHash_eq (signals : List (PreparedSignal py hexdigest)) :
    firstOfEachHash signals = signals.foldl keepFirst [] := rfl

/-- What the loop keeps of the signals read so far. -/
structure KeepsFirst (signals unique : List (PreparedSignal py hexdigest)) : Prop where
  listed : ∀ signal ∈ unique, signal ∈ signals
  keyed : ∀ signal ∈ signals, ∃ first ∈ unique,
    first.event.contentHash = signal.event.contentHash
  short : unique.length ≤ signals.length

theorem KeepsFirst.step {signals unique : List (PreparedSignal py hexdigest)}
    (keeps : KeepsFirst signals unique) (candidate : PreparedSignal py hexdigest) :
    KeepsFirst (signals ++ [candidate]) (keepFirst unique candidate) := by
  unfold keepFirst
  split_ifs with known
  · obtain ⟨first, member, same⟩ := List.any_eq_true.mp known
    refine ⟨fun signal listed => List.mem_append_left _ (keeps.listed signal listed), ?_, ?_⟩
    · intro signal listed
      rcases List.mem_append.mp listed with earlier | last
      · exact keeps.keyed signal earlier
      · rw [List.mem_singleton.mp last]
        exact ⟨first, member, of_decide_eq_true same⟩
    · rw [List.length_append]
      exact le_trans keeps.short (Nat.le_add_right _ _)
  · refine ⟨?_, ?_, ?_⟩
    · intro signal listed
      rcases List.mem_append.mp listed with earlier | last
      · exact List.mem_append_left _ (keeps.listed signal earlier)
      · exact List.mem_append_right _ last
    · intro signal listed
      rcases List.mem_append.mp listed with earlier | last
      · obtain ⟨first, member, same⟩ := keeps.keyed signal earlier
        exact ⟨first, List.mem_append_left _ member, same⟩
      · rw [List.mem_singleton.mp last]
        exact ⟨candidate, List.mem_append_right _ (List.mem_singleton_self _), rfl⟩
    · rw [List.length_append, List.length_append]
      exact Nat.add_le_add_right keeps.short _

theorem keepsFirst (signals : List (PreparedSignal py hexdigest)) :
    KeepsFirst signals (firstOfEachHash signals) := by
  rw [firstOfEachHash_eq]
  induction signals using List.reverseRecOn with
  | nil => exact ⟨by simp, by simp, Nat.le_refl _⟩
  | append_singleton signals last ih =>
    rw [List.foldl_append]
    exact ih.step last

/-! ## Rows -/

/-- The insert statements of a batch. -/
def insertSignals (ingestedAt : UtcInstant) (table : KeyedTable (@SignalRow.contentHash py hexdigest))
    (signals : List (PreparedSignal py hexdigest)) :
    KeyedTable (@SignalRow.contentHash py hexdigest) :=
  signals.foldl (fun table signal => table.insertNew ⟨signal.event, ingestedAt⟩) table

theorem length_insertSignals (ingestedAt : UtcInstant)
    (table : KeyedTable (@SignalRow.contentHash py hexdigest))
    (signals : List (PreparedSignal py hexdigest)) :
    table.rows.length ≤ (insertSignals ingestedAt table signals).rows.length ∧
      (insertSignals ingestedAt table signals).rows.length ≤
        table.rows.length + signals.length := by
  induction signals generalizing table with
  | nil => exact ⟨Nat.le_refl _, Nat.le_refl _⟩
  | cons signal signals ih =>
    have one := table.length_insertNew ⟨signal.event, ingestedAt⟩
    have others := ih (table.insertNew ⟨signal.event, ingestedAt⟩)
    rw [List.length_cons]
    unfold insertSignals at others ⊢
    rw [List.foldl_cons]
    omega

theorem find_insertSignals_of_some {ingestedAt : UtcInstant}
    {table : KeyedTable (@SignalRow.contentHash py hexdigest)} {hash : Text}
    {row : SignalRow py hexdigest} (held : table.find hash = some row)
    (signals : List (PreparedSignal py hexdigest)) :
    (insertSignals ingestedAt table signals).find hash = some row := by
  induction signals generalizing table with
  | nil => exact held
  | cons signal signals ih => exact ih (KeyedTable.find_insertNew_of_some held _)

/-- Every signal is stored under its hash. -/
theorem find_insertSignals {ingestedAt : UtcInstant}
    {table : KeyedTable (@SignalRow.contentHash py hexdigest)}
    {signals : List (PreparedSignal py hexdigest)} {signal : PreparedSignal py hexdigest}
    (member : signal ∈ signals) :
    ∃ row, (insertSignals ingestedAt table signals).find signal.event.contentHash = some row := by
  induction signals generalizing table with
  | nil => cases member
  | cons first signals ih =>
    rcases List.mem_cons.mp member with rfl | later
    · have stored := table.find_insertNew ⟨signal.event, ingestedAt⟩ signal.event.contentHash
      have key : signal.event.contentHash =
          SignalRow.contentHash ⟨signal.event, ingestedAt⟩ := rfl
      rw [if_pos key] at stored
      exact ⟨_, find_insertSignals_of_some stored signals⟩
    · exact ih later

/-- Signals whose hashes are all stored change nothing. -/
theorem insertSignals_of_stored {ingestedAt : UtcInstant}
    {table : KeyedTable (@SignalRow.contentHash py hexdigest)}
    {signals : List (PreparedSignal py hexdigest)}
    (stored : ∀ signal ∈ signals, ∃ row, table.find signal.event.contentHash = some row) :
    insertSignals ingestedAt table signals = table := by
  induction signals with
  | nil => rfl
  | cons signal signals ih =>
    obtain ⟨⟨row, first⟩, rest⟩ := List.forall_mem_cons.mp stored
    have same : table.insertNew ⟨signal.event, ingestedAt⟩ = table :=
      KeyedTable.insertNew_of_present first
    unfold insertSignals at ih ⊢
    rw [List.foldl_cons, same]
    exact ih rest

/-! ## The batch -/

theorem insertValid_eq (database : Database py hexdigest)
    (signals : List (PreparedSignal py hexdigest)) (ingestedAt : UtcInstant) :
    (database.insertValid signals ingestedAt).1 =
      { database with
        signals := insertSignals ingestedAt database.signals (firstOfEachHash signals) } := rfl

/-- The accepted signals are counted as inserted or duplicate. -/
theorem insertValid_counts (database : Database py hexdigest)
    (signals : List (PreparedSignal py hexdigest)) (ingestedAt : UtcInstant) :
    (database.insertValid signals ingestedAt).2.1 +
      (database.insertValid signals ingestedAt).2.2 = signals.length := by
  have short := (keepsFirst signals).short
  have lengths := length_insertSignals ingestedAt database.signals (firstOfEachHash signals)
  unfold insertSignals at lengths
  unfold insertValid
  simp only
  omega

/-- Every accepted signal is stored. -/
theorem find_insertValid (database : Database py hexdigest)
    {signals : List (PreparedSignal py hexdigest)} (ingestedAt : UtcInstant)
    {signal : PreparedSignal py hexdigest} (member : signal ∈ signals) :
    ∃ row, (database.insertValid signals ingestedAt).1.signals.find signal.event.contentHash =
      some row := by
  obtain ⟨first, listed, same⟩ := (keepsFirst signals).keyed signal member
  rw [← same]
  exact find_insertSignals listed

/-- Signals that are stored already are duplicates, and nothing is inserted. -/
theorem insertValid_of_stored {database : Database py hexdigest}
    {signals : List (PreparedSignal py hexdigest)} (ingestedAt : UtcInstant)
    (stored : ∀ signal ∈ signals, ∃ row,
      database.signals.find signal.event.contentHash = some row) :
    database.insertValid signals ingestedAt = (database, 0, signals.length) := by
  have unchanged : insertSignals ingestedAt database.signals (firstOfEachHash signals) =
      database.signals :=
    insertSignals_of_stored fun signal member =>
      stored signal ((keepsFirst signals).listed signal member)
  have short := (keepsFirst signals).short
  unfold insertSignals at unchanged
  unfold insertValid
  simp only [unchanged, Nat.sub_self, Nat.sub_zero, Prod.mk.injEq, true_and]
  omega

end Ingestion.Database

end CovenantRadar
