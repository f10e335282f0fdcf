import CovenantRadar.Audit.Tampering

/-!
# Verifying a range against verifying everything

With a lower bound `verify_chain` does not ask the first row to be genesis and
takes the latest row before the range as context. The range from one therefore
agrees with the whole verification up to the genesis check, and on rows in
sequence order a range may be cut in two anywhere.
-/

namespace CovenantRadar.Audit

open HashChain

section

variable {py : Builtins} {hexdigest : ByteArray → Text}

theorem validateRange_between {low high : Int} (positive : 1 ≤ low) (ordered : low ≤ high) :
    validateRange (some low) (some high) = .ok () := by
  have lowPositive : ¬ low < 1 := by omega
  have highPositive : ¬ high < 1 := by omega
  simp [validateRange, lowPositive, highPositive, not_lt.mpr ordered]

/-- From a lower bound nothing is reported exactly on a stretch of the chain. -/
theorem verifyChain_between_iff {rows : List AuditChainRow} {low high : Int}
    (positive : 1 ≤ low) (ordered : low ≤ high) :
    verifyChain py hexdigest rows (some low) (some high) = .ok none ↔
      (rowLinks py hexdigest).Stretch (selectRows rows (some low) (some high)) := by
  have loop : verifyChain py hexdigest rows (some low) (some high) =
      verifyRows py hexdigest false none (selectRows rows (some low) (some high)) := by
    rw [verifyChain, validateRange_between positive ordered]
    rfl
  rw [loop, verifyRows_eq_ok_none_iff]
  apply and_iff_right
  intro _ _
  simp [LinkHolds]

/-- A sealed row has a positive sequence. -/
theorem sequence_of_sealed {row : AuditChainRow} (sealed : (rowLinks py hexdigest).Sealed row) :
    1 ≤ row.sequence := by
  obtain ⟨c, returned, _⟩ := sealed
  exact chained_sequence returned

/-- On positive sequences the range from one up to a bound selects what the bound leaves. -/
theorem selectRows_from_one {rows : List AuditChainRow} (positive : ∀ row ∈ rows, 1 ≤ row.sequence)
    (high : Int) :
    selectRows rows (some 1) (some high) = rows.filter (fun row => row.sequence ≤ high) := by
  have nothing : rows.filter (fun row => row.sequence < 1) = [] := by
    apply List.filter_eq_nil_iff.mpr
    intro row member
    have := positive row member
    simp only [decide_eq_true_eq]
    omega
  have kept : rows.filter (fun row => 1 ≤ row.sequence && (some high).all (row.sequence ≤ ·)) =
      rows.filter (fun row => row.sequence ≤ high) := by
    apply List.filter_congr
    intro row member
    simp [positive row member]
  simp only [selectRows]
  rw [nothing, kept]
  rfl

theorem selectRows_all {rows : List AuditChainRow} {last : Int}
    (positive : ∀ row ∈ rows, 1 ≤ row.sequence) (bounded : ∀ row ∈ rows, row.sequence ≤ last) :
    selectRows rows (some 1) (some last) = rows := by
  rw [selectRows_from_one positive]
  apply List.filter_eq_self.mpr
  intro row member
  exact decide_eq_true (bounded row member)

/-- A stretch selected from one has no row before it, so all rows are positive. -/
theorem positive_of_stretch {rows : List AuditChainRow} {high : Int}
    (stretch : (rowLinks py hexdigest).Stretch (selectRows rows (some 1) (some high))) :
    ∀ row ∈ rows, 1 ≤ row.sequence := by
  intro row member
  by_contra low
  have preceding : row ∈ rows.filter (fun row => row.sequence < 1) :=
    List.mem_filter.mpr ⟨member, decide_eq_true (by omega)⟩
  cases chosen : maxBy AuditChainRow.sequence (rows.filter (fun row => row.sequence < 1)) with
  | none =>
    rw [maxBy_eq_none] at chosen
    rw [chosen] at preceding
    cases preceding
  | some before =>
    have selected : before ∈ selectRows rows (some 1) (some high) := by
      simp only [selectRows]
      rw [chosen]
      exact List.mem_cons_self
    have positive := sequence_of_sealed (stretch.sealed before selected)
    have early := (List.mem_filter.mp (maxBy_mem chosen)).2
    simp only [decide_eq_true_eq] at early
    omega

/-- Everything is intact exactly when the range from one is and starts with genesis. -/
theorem verifyChain_whole_iff_from_one {rows : List AuditChainRow} {last : Int}
    (start : 1 ≤ last) (bounded : ∀ row ∈ rows, row.sequence ≤ last) :
    verifyChain py hexdigest rows none none = .ok none ↔
      (∀ row ∈ rows.head?, row.prevHash = none) ∧
        verifyChain py hexdigest rows (some 1) (some last) = .ok none := by
  rw [verifyChain_whole_iff, verifyChain_between_iff (le_refl 1) start]
  constructor
  · intro whole
    have positive : ∀ row ∈ rows, 1 ≤ row.sequence := fun row member =>
      sequence_of_sealed (whole.sealed row member)
    rw [selectRows_all positive bounded]
    exact ⟨whole.genesis, whole.toStretch⟩
  · intro ⟨genesis, stretch⟩
    have all := selectRows_all (positive_of_stretch stretch) bounded
    rw [all] at stretch
    exact ⟨stretch, genesis⟩

/-- Past the first row the loop does not read whether the genesis check is on. -/
theorem verifyRows_genesis_irrelevant {rows : List AuditChainRow}
    (first : ∀ row ∈ rows.head?, row.prevHash = none) :
    verifyRows py hexdigest true none rows = verifyRows py hexdigest false none rows := by
  have later : ∀ (previous : AuditChainRow) (rows : List AuditChainRow),
      verifyRows py hexdigest true (some previous) rows =
        verifyRows py hexdigest false (some previous) rows := by
    intro previous rows
    induction rows generalizing previous with
    | nil => rfl
    | cons row rows ih =>
      have same : linkBreak true (some previous) row = linkBreak false (some previous) row := rfl
      simp only [verifyRows, same, ih]
  cases rows with
  | nil => rfl
  | cons row rows =>
    have genesis : row.prevHash = none := first row rfl
    have clean : linkBreak true none row = linkBreak false none row := by
      simp [linkBreak, genesis]
    simp only [verifyRows, clean, later]

/-- On positive sequences the whole verification reports a break exactly when the first
    row names a previous one or the range from one reports a break. -/
theorem verifyChain_reports_iff_from_one {rows : List AuditChainRow} {last : Int}
    (start : 1 ≤ last) (bounded : ∀ row ∈ rows, row.sequence ≤ last)
    (positive : ∀ row ∈ rows, 1 ≤ row.sequence) :
    (∃ found, verifyChain py hexdigest rows none none = .ok (some found)) ↔
      (∃ row ∈ rows.head?, row.prevHash ≠ none) ∨
        ∃ found, verifyChain py hexdigest rows (some 1) (some last) = .ok (some found) := by
  have whole : verifyChain py hexdigest rows none none = verifyRows py hexdigest true none rows := by
    have all : selectRows rows none none = rows := by
      simp only [selectRows, Option.all_none, List.filter_true]
    rw [verifyChain, all]
    rfl
  have range : verifyChain py hexdigest rows (some 1) (some last) =
      verifyRows py hexdigest false none rows := by
    rw [verifyChain, validateRange_between (le_refl 1) start, selectRows_all positive bounded]
    rfl
  rw [whole, range]
  by_cases first : ∀ row ∈ rows.head?, row.prevHash = none
  · rw [verifyRows_genesis_irrelevant first]
    have clean : ¬ ∃ row ∈ rows.head?, row.prevHash ≠ none := by
      intro stray
      obtain ⟨row, head, linked⟩ := stray
      exact linked (first row head)
    exact (or_iff_right clean).symm
  · have stray : ∃ row ∈ rows.head?, row.prevHash ≠ none := by
      simpa only [not_forall, exists_prop] using first
    obtain ⟨row, head, linked⟩ := stray
    refine iff_of_true ?_ (Or.inl ⟨row, head, linked⟩)
    cases rows with
    | nil => cases head
    | cons other rows =>
      cases head
      have sequence : rowSequence row = .ok row.sequence :=
        if_neg (not_lt.mpr (positive row List.mem_cons_self))
      have broken : linkBreak true none row =
          some (rowBreak none row "the first row has a previous hash".toList none) :=
        if_pos ⟨rfl, linked⟩
      refine ⟨rowBreak none row "the first row has a previous hash".toList none, ?_⟩
      rw [verifyRows, sequence, broken]
      rfl

/-- On rows in sequence order the range from one may be cut after any sequence. -/
theorem verifyChain_split {rows : List AuditChainRow}
    (inOrder : rows.Pairwise (fun a b => a.sequence ≤ b.sequence)) {cut last : Int}
    (start : 1 ≤ cut) (inside : cut < last) :
    verifyChain py hexdigest rows (some 1) (some last) = .ok none ↔
      verifyChain py hexdigest rows (some 1) (some cut) = .ok none ∧
        verifyChain py hexdigest rows (some (cut + 1)) (some last) = .ok none := by
  rw [verifyChain_between_iff (le_refl 1) (by omega), verifyChain_between_iff (le_refl 1) start,
    verifyChain_between_iff (by omega) (by omega)]
  by_cases positive : ∀ row ∈ rows, 1 ≤ row.sequence
  · -- up to the cut, after it, and the two together
    have front := selectRows_from_one positive cut
    have whole : selectRows rows (some 1) (some last) =
        rows.filter (fun row => row.sequence ≤ cut) ++
          rows.filter (fun row => cut + 1 ≤ row.sequence && (some last).all (row.sequence ≤ ·)) := by
      have parts := @filter_append_filter_not _ (fun row : AuditChainRow => row.sequence ≤ cut)
        (rows.filter (fun row => row.sequence ≤ last))
        ((inOrder.filter _).imp fun {a b} ordered kept => by
          simp only [decide_eq_true_eq] at kept ⊢
          omega)
      rw [selectRows_from_one positive, ← parts, List.filter_filter, List.filter_filter]
      congr 1
      · apply List.filter_congr
        intro row _
        simp only [← Bool.decide_and, decide_eq_decide]
        omega
      · apply List.filter_congr
        intro row _
        simp only [Option.all_some, ← decide_not, ← Bool.decide_and, decide_eq_decide]
        omega
    have context : rows.filter (fun row => row.sequence < cut + 1) =
        rows.filter (fun row => row.sequence ≤ cut) := by
      apply List.filter_congr
      intro row _
      rw [decide_eq_decide]
      omega
    rw [front, whole, Links.stretch_append]
    apply and_congr_right
    intro stretch
    have latest : maxBy AuditChainRow.sequence (rows.filter (fun row => row.sequence ≤ cut)) =
        (rows.filter (fun row => row.sequence ≤ cut)).getLast? :=
      maxBy_of_increasing stretch.pairwise
    simp only [selectRows]
    rw [context, latest]
  · -- a row below one is the context of every range that starts at one
    constructor
    · intro stretch
      exact absurd (positive_of_stretch stretch) positive
    · intro both
      exact absurd (positive_of_stretch both.1) positive

end

/-- Verification in ranges agrees with verification of everything. Up to the genesis
    check the range from one to a bound above every row decides the same, and on rows
    in sequence order that range is intact exactly when its two parts are. -/
theorem verifyChain_ranges_agree (py : Builtins) (hexdigest : ByteArray → Text)
    (rows : List AuditChainRow) {last : Int} (start : 1 ≤ last)
    (bounded : ∀ row ∈ rows, row.sequence ≤ last) :
    (verifyChain py hexdigest rows none none = .ok none ↔
        (∀ row ∈ rows.head?, row.prevHash = none) ∧
          verifyChain py hexdigest rows (some 1) (some last) = .ok none) ∧
      ((∀ row ∈ rows, 1 ≤ row.sequence) →
        ((∃ found, verifyChain py hexdigest rows none none = .ok (some found)) ↔
          (∃ row ∈ rows.head?, row.prevHash ≠ none) ∨
            ∃ found, verifyChain py hexdigest rows (some 1) (some last) = .ok (some found))) ∧
      (rows.Pairwise (fun a b => a.sequence ≤ b.sequence) → ∀ cut, 1 ≤ cut → cut < last →
        ((verifyChain py hexdigest rows (some 1) (some last) = .ok none ↔
            verifyChain py hexdigest rows (some 1) (some cut) = .ok none ∧
              verifyChain py hexdigest rows (some (cut + 1)) (some last) = .ok none) ∧
          (verifyChain py hexdigest rows none none = .ok none ↔
            (∀ row ∈ rows.head?, row.prevHash = none) ∧
              verifyChain py hexdigest rows (some 1) (some cut) = .ok none ∧
                verifyChain py hexdigest rows (some (cut + 1)) (some last) = .ok none))) := by
  have whole := @verifyChain_whole_iff_from_one py hexdigest _ _ start bounded
  refine ⟨whole, verifyChain_reports_iff_from_one start bounded, ?_⟩
  intro inOrder cut lower upper
  have split := @verifyChain_split py hexdigest _ inOrder _ _ lower upper
  exact ⟨split, by rw [whole, split]⟩

/-! ## Sample rows -/

section

variable (hexdigest : ByteArray → Text)

private theorem sampleRows_stretch :
    (rowLinks asciiBuiltins hexdigest).Stretch [firstRow hexdigest, secondRow hexdigest] :=
  (verifyChain_whole_iff.mp (sampleRows_verify hexdigest)).toStretch

private theorem firstRow_stretch :
    (rowLinks asciiBuiltins hexdigest).Stretch [firstRow hexdigest] :=
  (sampleRows_stretch hexdigest).of_isInfix ⟨[], [secondRow hexdigest], rfl⟩

private theorem secondRow_stretch :
    (rowLinks asciiBuiltins hexdigest).Stretch [secondRow hexdigest] :=
  (sampleRows_stretch hexdigest).of_isInfix ⟨[firstRow hexdigest], [], rfl⟩

end

/-- `verifyChain_ranges_agree` on the sample chain, cut after its first row. -/
theorem verifyChain_ranges_agree_sample :
    verifyChain asciiBuiltins sampleDigest [firstRow sampleDigest, secondRow sampleDigest]
        (some 1) (some 1) = .ok none ∧
      verifyChain asciiBuiltins sampleDigest [firstRow sampleDigest, secondRow sampleDigest]
        (some 2) (some 2) = .ok none := by
  have bounded : ∀ row ∈ [firstRow sampleDigest, secondRow sampleDigest], row.sequence ≤ 2 := by
    intro row member
    simp only [List.mem_cons, List.not_mem_nil, or_false] at member
    rcases member with rfl | rfl
    · exact (by decide : (1 : Int) ≤ 2)
    · exact le_refl (2 : Int)
  have inOrder : [firstRow sampleDigest, secondRow sampleDigest].Pairwise
      (fun a b => a.sequence ≤ b.sequence) := by
    apply List.pairwise_pair.mpr
    exact (by decide : (1 : Int) ≤ 2)
  have agree := verifyChain_ranges_agree asciiBuiltins sampleDigest
    [firstRow sampleDigest, secondRow sampleDigest] (by decide : (1 : Int) ≤ 2) bounded
  exact ((agree.2.2 inOrder 1 (le_refl 1) (by decide)).2.mp (sampleRows_verify _)).2

/-- A chain without its first row is reported as a whole and in no range that starts at
    one; out of sequence order a range can be broken while its two parts are intact. -/
theorem verifyChain_ranges_disagree :
    ((∃ found, verifyChain asciiBuiltins sampleDigest [secondRow sampleDigest] none none =
          .ok (some found)) ∧
        verifyChain asciiBuiltins sampleDigest [secondRow sampleDigest] (some 1) (some 2) =
          .ok none ∧
        verifyChain asciiBuiltins sampleDigest [secondRow sampleDigest] (some 1) (some 1) =
          .ok none ∧
        verifyChain asciiBuiltins sampleDigest [secondRow sampleDigest] (some 2) (some 2) =
          .ok none) ∧
      verifyChain asciiBuiltins sampleDigest [secondRow sampleDigest, firstRow sampleDigest]
          (some 1) (some 2) ≠ .ok none ∧
        verifyChain asciiBuiltins sampleDigest [secondRow sampleDigest, firstRow sampleDigest]
          (some 1) (some 1) = .ok none ∧
        verifyChain asciiBuiltins sampleDigest [secondRow sampleDigest, firstRow sampleDigest]
          (some 2) (some 2) = .ok none := by
  refine ⟨⟨⟨_, rfl⟩, ?_, ?_, ?_⟩, ?_, ?_, ?_⟩
  · exact (verifyChain_between_iff (le_refl 1) (by decide)).mpr (secondRow_stretch _)
  · exact (verifyChain_between_iff (le_refl 1) (le_refl 1)).mpr
      Links.intact_nil.toStretch
  · exact (verifyChain_between_iff (by decide) (le_refl 2)).mpr (secondRow_stretch _)
  · intro passed
    have stretch := (verifyChain_between_iff (le_refl 1) (by decide)).mp passed
    have order := List.rel_of_pairwise_cons stretch.pairwise List.mem_cons_self
    exact absurd order (by decide : ¬ (2 : Int) < 1)
  · exact (verifyChain_between_iff (le_refl 1) (le_refl 1)).mpr (firstRow_stretch _)
  · exact (verifyChain_between_iff (by decide) (le_refl 2)).mpr (sampleRows_stretch _)

end CovenantRadar.Audit
