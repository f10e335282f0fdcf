import CovenantRadar.Audit.Chain
import CovenantRadar.Misc.HashChain

/-!
# What `verify_chain` decides

`verify_chain` reports no break exactly on the rows that form a hash chain: the
loop is compared with the abstract notion of `HashChain`.
-/

namespace CovenantRadar.Audit

open HashChain

variable (py : Builtins) (hexdigest : ByteArray → Text)

/-- How audit rows are linked; a row is sealed when its stored digest covers it. -/
def rowLinks : Links AuditChainRow Text where
  ordinal := AuditChainRow.sequence
  digest := AuditChainRow.hash
  previous := AuditChainRow.prevHash
  Sealed row := ∃ c, row.chained py = .ok c ∧ row.hash = hexdigest c.material.encode

variable {py hexdigest}

/-- A digest is computed exactly for the rows whose content can be chained. -/
theorem computeEventHash_eq_ok_iff {sequence : Int} {occurredAt : Datetime}
    {actor : Option Reference} {eventType subjectType : Text} {subjectId : Reference}
    {payload : AuditValue} {prevHash : Option Text} {digest : Text} :
    computeEventHash py hexdigest sequence occurredAt actor eventType subjectType subjectId payload
        prevHash = .ok digest ↔
      ∃ c, chained py sequence occurredAt actor eventType subjectType subjectId payload prevHash =
        .ok c ∧ digest = hexdigest c.material.encode := by
  rw [computeEventHash, Except.bind_eq_ok_iff]
  simp only [Except.ok.injEq, eq_comm]

/-- Only a positive sequence is chained. -/
theorem chained_sequence {sequence : Int} {occurredAt : Datetime}
    {actor : Option Reference} {eventType subjectType : Text} {subjectId : Reference}
    {payload : AuditValue} {prevHash : Option Text} {c : Chained}
    (returned : chained py sequence occurredAt actor eventType subjectType subjectId payload
      prevHash = .ok c) : 1 ≤ sequence := by
  by_contra low
  rw [chained, if_pos (by omega)] at returned
  cases returned

theorem digestBreak_eq_ok_none_iff {previous : Option AuditChainRow} {row : AuditChainRow} :
    digestBreak py hexdigest previous row = .ok none ↔ (rowLinks py hexdigest).Sealed row := by
  have computed : (rowLinks py hexdigest).Sealed row ↔
      computeEventHash py hexdigest row.sequence row.occurredAt
        (chosenActor row.actorId row.actorLabel) row.eventType row.subjectType
        (.uuid row.subjectId) row.payload row.prevHash = .ok row.hash :=
    computeEventHash_eq_ok_iff.symm
  rw [computed, digestBreak]
  split
  · rename_i error failed
    rw [failed]
    split <;> simp
  · rename_i expected returned
    rw [returned, Except.ok.injEq]
    split_ifs with differs
    · simpa using fun same => differs same.symm
    · simpa using (not_not.mp differs).symm

variable (py hexdigest) in
/-- What the link checks ask of the first row that follows `previous`. -/
def LinkHolds (genesis : Bool) (previous : Option AuditChainRow) (row : AuditChainRow) : Prop :=
  match previous with
  | none => genesis = true → row.prevHash = none
  | some before => (rowLinks py hexdigest).Follows before row

variable (py hexdigest) in
theorem linkBreak_eq_none_iff {genesis : Bool} {previous : Option AuditChainRow}
    {row : AuditChainRow} :
    linkBreak genesis previous row = none ↔
      LinkHolds py hexdigest genesis previous row := by
  cases previous with
  | none =>
    have first : LinkHolds py hexdigest genesis none row ↔
        (genesis = true → row.prevHash = none) := Iff.rfl
    rw [first, linkBreak]
    by_cases stray : genesis = true ∧ row.prevHash ≠ none
    · rw [if_pos stray]
      exact ⟨fun absurdity => (Option.some_ne_none _ absurdity).elim,
        fun clean => absurd (clean stray.1) stray.2⟩
    · rw [if_neg stray]
      exact ⟨fun _ start => not_not.mp fun set => stray ⟨start, set⟩, fun _ => rfl⟩
  | some before =>
    have follows : LinkHolds py hexdigest genesis (some before) row ↔
        before.sequence < row.sequence ∧ row.prevHash = some before.hash := Iff.rfl
    rw [follows, linkBreak]
    by_cases stale : row.sequence ≤ before.sequence
    · rw [if_pos stale]
      exact ⟨fun absurdity => (Option.some_ne_none _ absurdity).elim, fun both => by omega⟩
    · rw [if_neg stale]
      by_cases linked : row.prevHash = some before.hash
      · rw [if_neg (not_not.mpr linked)]
        exact ⟨fun _ => ⟨by omega, linked⟩, fun _ => rfl⟩
      · rw [if_pos linked]
        exact ⟨fun absurdity => (Option.some_ne_none _ absurdity).elim,
          fun both => absurd both.2 linked⟩

/-- The loop reports nothing exactly on a stretch of the chain that follows `previous`. -/
theorem verifyRows_eq_ok_none_iff (genesis : Bool) (previous : Option AuditChainRow)
    {rows : List AuditChainRow} :
    verifyRows py hexdigest genesis previous rows = .ok none ↔
      (∀ row ∈ rows.head?, LinkHolds py hexdigest genesis previous row) ∧
        (rowLinks py hexdigest).Stretch rows := by
  induction rows generalizing previous with
  | nil =>
    simp only [verifyRows, List.head?_nil, Option.not_mem_none, false_imp_iff, implies_true,
      true_and, true_iff]
    exact Links.intact_nil.toStretch
  | cons row rows ih =>
    have stretch_cons : (rowLinks py hexdigest).Stretch (row :: rows) ↔
        (rowLinks py hexdigest).Sealed row ∧
          (∀ next ∈ rows.head?, (rowLinks py hexdigest).Follows row next) ∧
            (rowLinks py hexdigest).Stretch rows := by
      constructor
      · intro whole
        refine ⟨whole.sealed row List.mem_cons_self, ?_, whole.of_isInfix (List.suffix_cons _ _).isInfix⟩
        exact (List.isChain_cons.mp whole.linked).1
      · rintro ⟨sealed, linked, rest⟩
        refine ⟨List.isChain_cons.mpr ⟨linked, rest.linked⟩, ?_⟩
        intro other member
        rcases List.mem_cons.mp member with rfl | later
        · exact sealed
        · exact rest.sealed other later
    rw [stretch_cons, verifyRows, Except.bind_eq_ok_iff]
    simp only [List.head?_cons, Option.mem_def, Option.some.injEq, forall_eq',
      ← linkBreak_eq_none_iff py hexdigest]
    constructor
    · rintro ⟨sequence, positive, rest⟩
      cases links : linkBreak genesis previous row with
      | some found => simp [links] at rest
      | none =>
        rw [links] at rest
        obtain ⟨digest, checked, rest⟩ := Except.bind_eq_ok_iff.mp rest
        cases digest with
        | some found => simp at rest
        | none => exact ⟨rfl, digestBreak_eq_ok_none_iff.mp checked, (ih _).mp rest⟩
    · rintro ⟨links, sealed, linked, rest⟩
      obtain ⟨c, returned, -⟩ := id sealed
      refine ⟨row.sequence, if_neg (not_lt.mpr (chained_sequence returned)), ?_⟩
      rw [links]
      exact Except.bind_eq_ok_iff.mpr
        ⟨none, digestBreak_eq_ok_none_iff.mpr sealed, (ih _).mpr ⟨linked, rest⟩⟩

/-- Over the whole sequence `verify_chain` reports nothing exactly on an intact chain. -/
theorem verifyChain_whole_iff {rows : List AuditChainRow} :
    verifyChain py hexdigest rows none none = .ok none ↔ (rowLinks py hexdigest).Intact rows := by
  have all : selectRows rows none none = rows := by
    simp only [selectRows, Option.all_none, List.filter_true]
  have loop : verifyChain py hexdigest rows none none = verifyRows py hexdigest true none rows := by
    rw [verifyChain, all]
    rfl
  rw [loop, verifyRows_eq_ok_none_iff]
  constructor
  · rintro ⟨genesis, stretch⟩
    exact ⟨stretch, fun row first => genesis row first rfl⟩
  · intro whole
    exact ⟨fun row first _ => whole.genesis row first, whole.toStretch⟩

/-- With a lower bound, the selected rows only have to be a stretch of the chain. -/
theorem verifyChain_from {rows : List AuditChainRow} {low : Int} {toSequence : Option Int}
    (stretch : (rowLinks py hexdigest).Stretch (selectRows rows (some low) toSequence)) :
    verifyChain py hexdigest rows (some low) toSequence =
      (validateRange (some low) toSequence).map fun _ => none := by
  unfold verifyChain
  have loop := (verifyRows_eq_ok_none_iff false none).mpr
    ⟨fun _ _ => by simp [LinkHolds], stretch⟩
  cases validateRange (some low) toSequence with
  | error error => rfl
  | ok range => exact loop

/-- With an upper bound only, the selected rows have to be intact. -/
theorem verifyChain_to {rows : List AuditChainRow} {toSequence : Option Int}
    (intact : (rowLinks py hexdigest).Intact (selectRows rows none toSequence)) :
    verifyChain py hexdigest rows none toSequence =
      (validateRange none toSequence).map fun _ => none := by
  unfold verifyChain
  have loop := (verifyRows_eq_ok_none_iff true none).mpr
    ⟨fun row first _ => intact.genesis row first, intact.toStretch⟩
  cases validateRange none toSequence with
  | error error => rfl
  | ok range => exact loop

/-! ## Ranges -/

/-- An upper bound keeps a beginning of rows in sequence order. -/
theorem filter_upTo_isPrefix {rows : List AuditChainRow} (toSequence : Option Int)
    (increasing : rows.Pairwise (fun a b => a.sequence < b.sequence)) :
    rows.filter (fun row => toSequence.all (row.sequence ≤ ·)) <+: rows := by
  refine ⟨rows.filter (fun row => !toSequence.all (row.sequence ≤ ·)), ?_⟩
  apply filter_append_filter_not
  refine increasing.imp fun {a b} less kept => ?_
  cases toSequence with
  | none => rfl
  | some high =>
    simp only [Option.all_some, decide_eq_true_eq] at kept ⊢
    omega

/-- On rows in sequence order the selection is a contiguous part of them. -/
theorem selectRows_isInfix {rows : List AuditChainRow} {fromSequence toSequence : Option Int}
    (increasing : rows.Pairwise (fun a b => a.sequence < b.sequence)) :
    selectRows rows fromSequence toSequence <:+: rows := by
  cases fromSequence with
  | none => exact (filter_upTo_isPrefix toSequence increasing).isInfix
  | some low =>
    have split : rows.filter (fun row => row.sequence < low) ++
        rows.filter (fun row => low ≤ row.sequence) = rows := by
      have parts := @filter_append_filter_not _ (fun row : AuditChainRow => row.sequence < low)
        rows (increasing.imp fun {a b} less kept => by
          simp only [decide_eq_true_eq] at kept ⊢
          omega)
      simpa only [← decide_not, not_lt] using parts
    have inRange : rows.filter (fun row => low ≤ row.sequence && toSequence.all (row.sequence ≤ ·))
        = (rows.filter (fun row => low ≤ row.sequence)).filter
            (fun row => toSequence.all (row.sequence ≤ ·)) := by
      rw [List.filter_filter]
      exact List.filter_congr fun row _ => Bool.and_comm _ _
    have last : (rows.filter (fun row => row.sequence < low)).getLast?.toList <:+
        rows.filter (fun row => row.sequence < low) := by
      cases position : (rows.filter (fun row => row.sequence < low)).getLast? with
      | none => exact List.nil_suffix
      | some row =>
        obtain ⟨front, same⟩ := List.getLast?_eq_some_iff.mp position
        exact ⟨front, by simp [same]⟩
    obtain ⟨before, front⟩ := last
    obtain ⟨after, back⟩ := filter_upTo_isPrefix toSequence
      (increasing.filter fun row => decide (low ≤ row.sequence))
    refine ⟨before, after, ?_⟩
    simp only [selectRows]
    rw [maxBy_of_increasing (increasing.filter _), inRange]
    rw [← List.append_assoc, front, List.append_assoc, back, split]

end CovenantRadar.Audit
