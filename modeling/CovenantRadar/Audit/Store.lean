import CovenantRadar.Audit.Verify

/-!
# The append-only store

Source `audit/store.py`: `InMemoryAuditStore.append` computes the sequence, the
link and the digest of the next row. Every store built by appends is an intact
chain, so `verify_chain` reports no break on it or on any range of it.
-/

namespace CovenantRadar.Audit

open HashChain

/-- Source `AuditRecord`, as far as `append` reads it for the chain. -/
structure AuditRecord where
  eventType : Text
  subjectType : Text
  subjectId : Uuid
  payload : AuditValue
  actorId : Option Uuid
  actorLabel : Option Text
  occurredAt : Datetime

/-- Source `InMemoryAuditStore`: the stored rows, oldest first. -/
structure InMemoryAuditStore where
  rows : List AuditChainRow

namespace InMemoryAuditStore

variable (py : Builtins) (hexdigest : ByteArray → Text)

def empty : InMemoryAuditStore := ⟨[]⟩

/-- Source `InMemoryAuditStore.append`. -/
def append (store : InMemoryAuditStore) (record : AuditRecord) :
    Except AuditError InMemoryAuditStore := do
  let payload ← normalisePayload py record.payload
  let previous := store.rows.getLast?
  let sequence := previous.elim 1 (fun row => row.sequence + 1)
  let prevHash := previous.map AuditChainRow.hash
  let stored := AuditValue.mapping (AuditValue.ofJsonEntries payload)
  let digest ← computeEventHash py hexdigest sequence record.occurredAt
    (chosenActor record.actorId record.actorLabel) record.eventType record.subjectType
    (.uuid record.subjectId) stored prevHash
  .ok ⟨store.rows ++ [{
    sequence, occurredAt := record.occurredAt, actorId := record.actorId
    actorLabel := record.actorLabel, eventType := record.eventType
    subjectType := record.subjectType, subjectId := record.subjectId
    payload := stored, prevHash, hash := digest }]⟩

/-- A call of `append`: one that raises leaves the store as it was. -/
def call (store : InMemoryAuditStore) (record : AuditRecord) : InMemoryAuditStore :=
  match append py hexdigest store record with
  | .ok stored => stored
  | .error _ => store

/-- Any number of calls, one after another. -/
def run (records : List AuditRecord) : InMemoryAuditStore := records.foldl (call py hexdigest) empty

/-- Source `InMemoryAuditStore.verify_chain`. -/
def verifyChain (store : InMemoryAuditStore) (fromSequence toSequence : Option Int) :
    Except AuditError (Option AuditChainBreak) :=
  Audit.verifyChain py hexdigest store.rows fromSequence toSequence

variable {py hexdigest}

/-- What one append does: a sealed row that follows the last one. -/
theorem append_eq_ok {store stored : InMemoryAuditStore} {record : AuditRecord}
    (returned : append py hexdigest store record = .ok stored) :
    ∃ row, stored.rows = store.rows ++ [row] ∧ (rowLinks py hexdigest).Sealed row ∧
      row.sequence = store.rows.getLast?.elim 1 (fun last => last.sequence + 1) ∧
      row.prevHash = store.rows.getLast?.map AuditChainRow.hash := by
  obtain ⟨payload, -, rest⟩ := Except.bind_eq_ok_iff.mp returned
  obtain ⟨digest, hashed, last⟩ := Except.bind_eq_ok_iff.mp rest
  cases last
  exact ⟨_, rfl, computeEventHash_eq_ok_iff.mp hashed, rfl, rfl⟩

variable (py hexdigest) in
/-- The store's invariant: an intact chain numbered from one without gaps. -/
structure Invariant (store : InMemoryAuditStore) : Prop where
  intact : (rowLinks py hexdigest).Intact store.rows
  contiguous : store.rows.map AuditChainRow.sequence =
    (List.range store.rows.length).map (fun i : Nat => (i : Int) + 1)

theorem invariant_empty : Invariant py hexdigest empty :=
  ⟨Links.intact_nil, rfl⟩

/-- The last of `n` rows has sequence `n`. -/
theorem Invariant.next_sequence {store : InMemoryAuditStore}
    (kept : Invariant py hexdigest store) :
    store.rows.getLast?.elim (1 : Int) (fun last => last.sequence + 1) = store.rows.length + 1 := by
  have last := congrArg List.getLast? kept.contiguous
  rw [List.getLast?_map, List.getLast?_map, List.getLast?_range] at last
  cases position : store.rows.getLast? with
  | none =>
    rw [List.getLast?_eq_none_iff.mp position]
    rfl
  | some row =>
    have nonempty : store.rows.length ≠ 0 := by
      intro zero
      rw [List.length_eq_zero_iff.mp zero] at position
      cases position
    simp only [position, nonempty, if_false, Option.map_some, Option.some.injEq] at last
    simp only [Option.elim_some]
    omega

theorem Invariant.append {store stored : InMemoryAuditStore} {record : AuditRecord}
    (kept : Invariant py hexdigest store)
    (returned : store.append py hexdigest record = .ok stored) :
    Invariant py hexdigest stored := by
  obtain ⟨row, rows, sealed, sequence, prevHash⟩ := append_eq_ok returned
  constructor
  · rw [rows]
    refine kept.intact.append sealed ?_ ?_
    · intro last position
      have found : store.rows.getLast? = some last := position
      rw [found] at sequence prevHash
      refine ⟨?_, prevHash⟩
      change last.sequence < row.sequence
      rw [sequence, Option.elim_some]
      omega
    · intro empty
      rw [empty] at prevHash
      exact prevHash
  · rw [rows, List.map_append, kept.contiguous, List.length_append, List.length_singleton,
      List.range_succ, List.map_append, List.map_singleton, List.map_singleton, sequence,
      kept.next_sequence]

theorem Invariant.call {store : InMemoryAuditStore}
    (kept : Invariant py hexdigest store) (record : AuditRecord) :
    Invariant py hexdigest (store.call py hexdigest record) := by
  unfold InMemoryAuditStore.call
  split
  · rename_i stored returned
    exact kept.append returned
  · exact kept

/-- Every store built by calls of `append` satisfies the invariant. -/
theorem run_invariant (records : List AuditRecord) :
    Invariant py hexdigest (run py hexdigest records) := by
  have general : ∀ store, Invariant py hexdigest store →
      Invariant py hexdigest
        (records.foldl (InMemoryAuditStore.call py hexdigest) store) := by
    induction records with
    | nil => exact fun _ kept => kept
    | cons record records ih => exact fun store kept => ih _ (kept.call record)
  exact general empty invariant_empty

/-- Whatever was appended, no valid range of the store shows a break, and neither does
    any contiguous part of the rows that is checked from a lower bound. -/
theorem run_verifies (py : Builtins) (hexdigest : ByteArray → Text) (records : List AuditRecord) :
    (∀ fromSequence toSequence, (run py hexdigest records).verifyChain py hexdigest fromSequence
        toSequence = (validateRange fromSequence toSequence).map fun _ => none) ∧
      ∀ start count low toSequence,
        Audit.verifyChain py hexdigest (((run py hexdigest records).rows.drop start).take count)
          (some low) toSequence = (validateRange (some low) toSequence).map fun _ => none := by
  have intact := (@run_invariant py hexdigest records).intact
  have increasing := intact.toStretch.pairwise
  constructor
  · intro fromSequence toSequence
    cases fromSequence with
    | some low =>
      exact verifyChain_from (intact.toStretch.of_isInfix (selectRows_isInfix increasing))
    | none =>
      exact verifyChain_to (intact.of_prefix (filter_upTo_isPrefix toSequence increasing))
  · intro start count low toSequence
    have part : ((run py hexdigest records).rows.drop start).take count <:+:
        (run py hexdigest records).rows :=
      (List.take_prefix _ _).isInfix.trans (List.drop_suffix _ _).isInfix
    have selected := @selectRows_isInfix _ (some low) toSequence
      (increasing.sublist part.sublist)
    exact verifyChain_from (intact.toStretch.of_isInfix (selected.trans part))

end InMemoryAuditStore

end CovenantRadar.Audit
