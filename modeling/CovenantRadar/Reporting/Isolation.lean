import CovenantRadar.Reporting.Book

/-!
# Isolation of a borrower's classification

Both services hand `derive_borrower_sma` the conduct of the whole book, and it rolls up
every facility of the mapping, requested or not. A borrower's CRILC outcome and MIS
band therefore depend on its own conduct alone only where nothing can outweigh it.
-/

namespace CovenantRadar.Reporting

open Sma Crilc

/-! ## Roll-ups that depend on the requested facilities alone -/

theorem SameView.trans {a b c : BorrowerSmaDerivation} (first : SameView a b)
    (second : SameView b c) : SameView a c :=
  ⟨first.band.trans second.band, first.reason.trans second.reason, first.worst.trans second.worst⟩

theorem SameView.symm {a b : BorrowerSmaDerivation} (same : SameView a b) : SameView b a :=
  ⟨same.band.symm, same.reason.symm, same.worst.symm⟩

/-- Nothing in the mapping outweighs the requested facilities: it holds no other one, or
    a requested one is beyond SMA-2 already. -/
def OwnDecides (conduct : ConductMap) (asOfDate : Date) (own : List Uuid) : Prop :=
  (∀ entry ∈ conduct, entry.1 ∈ own) ∨
    ∃ id ∈ own, (deriveFacilitySma (selectConduct (conduct.get id) asOfDate) id asOfDate).band =
      .beyond

theorem sameView_own {conduct : ConductMap} {asOfDate : Date} {own : List Uuid}
    (borrowerId : Option Uuid) (decides : OwnDecides conduct asOfDate own) :
    SameView (rollUp borrowerId asOfDate (derivations conduct asOfDate (orderedIds own conduct)))
      (rollUp borrowerId asOfDate (derivations conduct asOfDate own)) := by
  rcases decides with requested | ⟨id, member, beyond⟩
  · rw [orderedIds_of_subset requested]
    exact ⟨rfl, rfl, rfl⟩
  · obtain ⟨extra, same, -⟩ := orderedIds_eq own conduct
    rw [same, derivations, List.map_append]
    exact rollUp_append_of_beyond (List.mem_map_of_mem member) beyond
      (deriveFacilitySma_reason_of_beyond beyond)

/-- The worst facility of a roll-up is one of the requested facilities. -/
theorem worstFacility_mem {conduct : ConductMap} {asOfDate : Date} {borrowerId : Option Uuid}
    {own : List Uuid} {worst : FacilitySmaDerivation}
    (chosen : (rollUp borrowerId asOfDate (derivations conduct asOfDate own)).worstFacility =
      some worst) : worst.facilityId ∈ own := by
  have derived : worst ∈ derivations conduct asOfDate own := by
    have member := (List.mem_filter.mp (maxBy_mem chosen)).1
    unfold rollUp at member
    split at member
    · cases member
    · exact member
  obtain ⟨id, listed, rfl⟩ := List.mem_map.mp derived
  have named : (deriveFacilitySma (selectConduct (conduct.get id) asOfDate) id
      asOfDate).facilityId = id := by
    unfold deriveFacilitySma
    split
    · rfl
    · split_ifs
      · rfl
      · split <;> rfl
  rw [named]
  exact listed

section

variable {conduct conduct' : ConductMap} {asOfDate : Date} {own : List Uuid}

theorem derive_sameView (borrowerId : Option Uuid)
    (gets : ∀ id ∈ own, conduct.get id = conduct'.get id)
    (decides : OwnDecides conduct asOfDate own) (decides' : OwnDecides conduct' asOfDate own) :
    SameView (rollUp borrowerId asOfDate (derivations conduct asOfDate (orderedIds own conduct)))
      (rollUp borrowerId asOfDate
        (derivations conduct' asOfDate (orderedIds own conduct'))) := by
  refine SameView.trans (sameView_own _ decides) ?_
  rw [derivations_congr gets]
  exact SameView.symm (sameView_own _ decides')

/-- The loop body of `build_crilc_report` sees the mapping through the requested
    facilities only. -/
theorem classify_congr {reportType : CrilcReportType} {layout : CrilcLayout} {threshold : Decimal}
    {borrower : CrilcBorrowerFacts}
    (own_eq : (borrower.effectiveFacilities asOfDate).map CrilcFacilityFacts.facilityId = own)
    (distinct : own.Nodup) (gets : ∀ id ∈ own, conduct.get id = conduct'.get id)
    (decides : OwnDecides conduct asOfDate own) (decides' : OwnDecides conduct' asOfDate own) :
    classify reportType asOfDate layout conduct threshold borrower =
      classify reportType asOfDate layout conduct' threshold borrower := by
  have view := derive_sameView (some borrower.borrowerId) gets decides decides'
  have ownView := sameView_own (some borrower.borrowerId) decides
  have overdue : overdueAmount (rollUp (some borrower.borrowerId) asOfDate
      (derivations conduct asOfDate (orderedIds own conduct))).worstFacility conduct =
        overdueAmount (rollUp (some borrower.borrowerId) asOfDate
          (derivations conduct asOfDate (orderedIds own conduct))).worstFacility conduct' := by
    rw [ownView.worst]
    cases chosen : (rollUp (some borrower.borrowerId) asOfDate
        (derivations conduct asOfDate own)).worstFacility with
    | none => rfl
    | some facility => rw [overdueAmount, overdueAmount, gets _ (worstFacility_mem chosen)]
  simp only [classify, own_eq, deriveBorrowerSma_of_nodup distinct, bind, Except.bind]
  rw [candidateRow_congr _ view.band view.worst overdue, view.reason, view.band]

end

/-! ## The book -/

namespace Book

variable (book : Book) (asOfDate : Date)

/-- The two tables hold the same rows of the date for these facilities. -/
def AgreeOn (own : List Uuid) (table table' : ConductTable) : Prop :=
  ∀ row, row.facilityId ∈ own → row.asOfDate = asOfDate → (row ∈ table.rows ↔ row ∈ table'.rows)

/-- The conduct of these facilities alone. -/
def restrict (table : ConductTable) (own : List Uuid) : ConductTable where
  rows := table.rows.filter fun row => row.facilityId ∈ own
  unique := table.unique.sublist (List.filter_sublist.map _)

/-- The borrower's CRILC outcome and MIS band are those derived from its own effective
    facilities' conduct, and other conduct rows change neither. -/
structure Isolated (table : ConductTable) (borrower : Borrower) : Prop where
  crilcAlone : ∀ reportType, book.crilcOutcome asOfDate table reportType borrower =
    book.crilcOutcome asOfDate (restrict table (book.effectiveIds asOfDate borrower)) reportType
      borrower
  misAlone : book.misBand asOfDate table borrower =
    book.misBand asOfDate (restrict table (book.effectiveIds asOfDate borrower)) borrower
  crilcStable : ∀ table', AgreeOn asOfDate (book.effectiveIds asOfDate borrower) table table' →
    ∀ reportType, book.crilcOutcome asOfDate table' reportType borrower =
      book.crilcOutcome asOfDate table reportType borrower
  misStable : ∀ table', AgreeOn asOfDate (book.effectiveIds asOfDate borrower) table table' →
    book.misBand asOfDate table' borrower = book.misBand asOfDate table borrower

/-- No other borrower of the book has an effective facility. -/
def NoOtherFacility (borrower : Borrower) : Prop :=
  ∀ facility ∈ book.facilities, facility.facts.isEffectiveOn asOfDate = true →
    facility.borrowerId = borrower.id

/-- An effective facility of the borrower is more than ninety days past due. -/
def OwnBeyond (table : ConductTable) (borrower : Borrower) : Prop :=
  ∃ row ∈ table.rows, row.facilityId ∈ book.effectiveIds asOfDate borrower ∧
    row.asOfDate = asOfDate ∧ ∃ days, row.daysPastDue = some days ∧ 90 < days

variable {book asOfDate}

theorem Holds.get_congr {conduct conduct' : ConductMap} {table table' : ConductTable}
    {ids own : List Uuid} (holds : Holds conduct asOfDate table ids)
    (holds' : Holds conduct' asOfDate table' ids)
    (agree : AgreeOn asOfDate own table table') : ∀ id ∈ own, conduct.get id = conduct'.get id := by
  intro id member
  ext row
  rw [holds.get, holds'.get]
  constructor
  · rintro ⟨stored, rfl, inIds, dated⟩
    exact ⟨(agree row member dated).mp stored, rfl, inIds, dated⟩
  · rintro ⟨stored, rfl, inIds, dated⟩
    exact ⟨(agree row member dated).mpr stored, rfl, inIds, dated⟩

theorem effectiveIds_subset_crilc {borrower : Borrower} (member : borrower ∈ book.borrowers) :
    book.effectiveIds asOfDate borrower ⊆ book.borrowers.flatMap (book.effectiveIds asOfDate) :=
  fun _ listed => List.mem_flatMap.mpr ⟨borrower, member, listed⟩

theorem mem_misIds_iff {id : Uuid} :
    id ∈ (book.effectiveFacilities asOfDate).map Facility.id ↔
      ∃ facility ∈ book.facilities, facility.facts.isEffectiveOn asOfDate = true ∧
        facility.id = id := by
  simp only [effectiveFacilities, List.mem_map, List.mem_filter]
  constructor
  · rintro ⟨facility, ⟨member, effective⟩, rfl⟩
    exact ⟨facility, member, effective, rfl⟩
  · rintro ⟨facility, member, effective, rfl⟩
    exact ⟨facility, ⟨member, effective⟩, rfl⟩

theorem effectiveIds_subset_mis (borrower : Borrower) :
    book.effectiveIds asOfDate borrower ⊆ (book.effectiveFacilities asOfDate).map Facility.id := by
  intro id listed
  obtain ⟨facility, member, -, effective, same⟩ := mem_effectiveIds_iff.mp listed
  exact mem_misIds_iff.mpr ⟨facility, member, effective, same⟩

/-- Under either condition nothing in a whole-book mapping outweighs the borrower's own
    facilities. -/
theorem ownDecides_of_condition {borrower : Borrower} {table : ConductTable} {conduct : ConductMap}
    {ids : List Uuid} (holds : Holds conduct asOfDate table ids)
    (listed : book.effectiveIds asOfDate borrower ⊆ ids)
    (effective : ∀ id ∈ ids, ∃ facility ∈ book.facilities,
      facility.facts.isEffectiveOn asOfDate = true ∧ facility.id = id)
    (condition : book.NoOtherFacility asOfDate borrower ∨ book.OwnBeyond asOfDate table borrower) :
    OwnDecides conduct asOfDate (book.effectiveIds asOfDate borrower) := by
  rcases condition with alone | ⟨row, stored, own, dated, days, counted, late⟩
  · left
    intro entry member
    obtain ⟨facility, inBook, active, same⟩ := effective entry.1 (holds.keys entry member)
    exact mem_effectiveIds_iff.mpr ⟨facility, inBook, alone facility inBook active, active, same⟩
  · right
    refine ⟨row.facilityId, own, deriveFacilitySma_beyond_iff.mpr ?_⟩
    exact ⟨row, (holds.get _ _).mpr ⟨stored, rfl, listed own, dated⟩, dated, days, counted, late⟩

theorem crilcIds_effective :
    ∀ id ∈ book.borrowers.flatMap (book.effectiveIds asOfDate), ∃ facility ∈ book.facilities,
      facility.facts.isEffectiveOn asOfDate = true ∧ facility.id = id := by
  intro id listed
  obtain ⟨borrower, -, own⟩ := List.mem_flatMap.mp listed
  obtain ⟨facility, member, -, effective, same⟩ := mem_effectiveIds_iff.mp own
  exact ⟨facility, member, effective, same⟩

theorem agreeOn_restrict (table : ConductTable) (own : List Uuid) :
    AgreeOn asOfDate own table (restrict table own) := by
  intro row listed _
  simp [restrict, listed]

theorem OwnBeyond.congr {table table' : ConductTable} {borrower : Borrower}
    (agree : AgreeOn asOfDate (book.effectiveIds asOfDate borrower) table table')
    (beyond : book.OwnBeyond asOfDate table borrower) :
    book.OwnBeyond asOfDate table' borrower := by
  obtain ⟨row, stored, own, dated, late⟩ := beyond
  exact ⟨row, (agree row own dated).mp stored, own, dated, late⟩

/-- Under the condition, tables that agree on the borrower's own rows give it the same
    outcome and band. -/
theorem stable_of_condition {table table' : ConductTable} {borrower : Borrower}
    (member : borrower ∈ book.borrowers)
    (agree : AgreeOn asOfDate (book.effectiveIds asOfDate borrower) table table')
    (condition : book.NoOtherFacility asOfDate borrower ∨ book.OwnBeyond asOfDate table borrower) :
    (∀ reportType, book.crilcOutcome asOfDate table reportType borrower =
        book.crilcOutcome asOfDate table' reportType borrower) ∧
      book.misBand asOfDate table borrower = book.misBand asOfDate table' borrower := by
  have condition' : book.NoOtherFacility asOfDate borrower ∨
      book.OwnBeyond asOfDate table' borrower :=
    condition.imp_right (OwnBeyond.congr agree)
  constructor
  · intro reportType
    have holds := @holds_conductSnapshot book asOfDate table
    have holds' := @holds_conductSnapshot book asOfDate table'
    have listed := @effectiveIds_subset_crilc book asOfDate _ member
    exact classify_congr rfl (effectiveIds_nodup borrower) (holds.get_congr holds' agree)
      (ownDecides_of_condition holds listed crilcIds_effective condition)
      (ownDecides_of_condition holds' listed crilcIds_effective condition')
  · have holds := @holds_misConduct book asOfDate table
    have holds' := @holds_misConduct book asOfDate table'
    have listed := @effectiveIds_subset_mis book asOfDate borrower
    have effective : ∀ id ∈ (book.effectiveFacilities asOfDate).map Facility.id,
        ∃ facility ∈ book.facilities, facility.facts.isEffectiveOn asOfDate = true ∧
          facility.id = id := fun _ => mem_misIds_iff.mp
    have view := derive_sameView (some borrower.id)
      (holds.get_congr holds' agree)
      (ownDecides_of_condition holds listed effective condition)
      (ownDecides_of_condition holds' listed effective condition')
    simp only [misBand, misIds_eq, deriveBorrowerSma_of_nodup (effectiveIds_nodup borrower),
      Except.map, view.band]

/-- The board MIS counts a borrower as beyond SMA-2 exactly when some effective facility
    of the book is, its own or not. -/
theorem misBand_beyond_iff {table : ConductTable} {borrower : Borrower} :
    book.misBand asOfDate table borrower = .ok .beyond ↔
      ∃ row ∈ table.rows, (∃ facility ∈ book.facilities,
          facility.facts.isEffectiveOn asOfDate = true ∧ facility.id = row.facilityId) ∧
        row.asOfDate = asOfDate ∧ ∃ days, row.daysPastDue = some days ∧ 90 < days := by
  have holds := @holds_misConduct book asOfDate table
  simp only [misBand, misIds_eq, deriveBorrowerSma_of_nodup (effectiveIds_nodup borrower),
    Except.map, Except.ok.injEq, rollUp_band_beyond_iff]
  obtain ⟨extra, ids, members⟩ := orderedIds_eq (book.effectiveIds asOfDate borrower)
    (book.misConduct asOfDate table)
  constructor
  · rintro ⟨item, derived, beyond⟩
    obtain ⟨id, -, rfl⟩ := List.mem_map.mp derived
    obtain ⟨row, found, dated, late⟩ := deriveFacilitySma_beyond_iff.mp beyond
    obtain ⟨stored, rfl, listed, -⟩ := (holds.get _ _).mp found
    exact ⟨row, stored, mem_misIds_iff.mp listed, dated, late⟩
  · rintro ⟨row, stored, effective, dated, late⟩
    have found := (holds.get row.facilityId row).mpr ⟨stored, rfl, mem_misIds_iff.mpr effective, dated⟩
    refine ⟨_, List.mem_map_of_mem (a := row.facilityId) ?_,
      deriveFacilitySma_beyond_iff.mpr ⟨row, found, dated, late⟩⟩
    rw [ids, List.mem_append, members]
    by_cases own : row.facilityId ∈ book.effectiveIds asOfDate borrower
    · exact Or.inl own
    · exact Or.inr ⟨own, List.mem_map_of_mem (f := Prod.fst) (ConductMap.mem_of_get found)⟩

/-- A row that puts a facility beyond SMA-2, added to a borrower's own conduct. -/
def addBeyond (table : ConductTable) (own : List Uuid) (facilityId : Uuid) (asOfDate : Date)
    (foreign : facilityId ∉ own) : ConductTable where
  rows := (restrict table own).rows ++ [⟨facilityId, facilityId, asOfDate, some 91, none, none⟩]
  unique := by
    rw [List.map_append, List.nodup_append]
    refine ⟨(restrict table own).unique, List.nodup_singleton _, ?_⟩
    intro key member other last same
    obtain ⟨row, stored, rfl⟩ := List.mem_map.mp member
    have added : other = (facilityId, asOfDate) := List.mem_singleton.mp last
    have facility : row.facilityId = facilityId :=
      congrArg Prod.fst (same.trans added)
    exact foreign (facility ▸ by simpa using (List.mem_filter.mp stored).2)

/-- A borrower's CRILC outcome and MIS band are isolated from the rest of the book
    exactly when no other borrower has an effective facility on the date, or an own
    effective facility is beyond SMA-2. -/
theorem isolated_iff {borrower : Borrower} (member : borrower ∈ book.borrowers)
    (table : ConductTable) :
    book.Isolated asOfDate table borrower ↔
      book.NoOtherFacility asOfDate borrower ∨ book.OwnBeyond asOfDate table borrower := by
  constructor
  · intro isolated
    by_contra neither
    rw [not_or] at neither
    obtain ⟨shared, mild⟩ := neither
    simp only [NoOtherFacility, not_forall] at shared
    obtain ⟨facility, inBook, active, foreign⟩ := shared
    have notOwn : facility.id ∉ book.effectiveIds asOfDate borrower := by
      intro listed
      obtain ⟨other, otherInBook, owner, -, same⟩ := mem_effectiveIds_iff.mp listed
      have equal := List.inj_on_of_nodup_map book.uniqueFacilities otherInBook inBook same
      exact foreign (equal ▸ owner)
    -- the same own conduct, once alone and once beside a facility beyond SMA-2
    have alone := isolated.misStable (restrict table (book.effectiveIds asOfDate borrower))
      (agreeOn_restrict table _)
    have beside := isolated.misStable
      (addBeyond table (book.effectiveIds asOfDate borrower) facility.id asOfDate notOwn) (by
        intro row own _
        have distinct : row ≠ ⟨facility.id, facility.id, asOfDate, some 91, none, none⟩ := by
          rintro rfl
          exact notOwn own
        simp [addBeyond, restrict, own, distinct])
    have raised : book.misBand asOfDate
        (addBeyond table (book.effectiveIds asOfDate borrower) facility.id asOfDate notOwn)
        borrower = .ok .beyond :=
      misBand_beyond_iff.mpr ⟨⟨facility.id, facility.id, asOfDate, some 91, none, none⟩,
        List.mem_append_right _ (List.mem_singleton_self _), ⟨facility, inBook, active, rfl⟩, rfl,
        91, rfl, by decide⟩
    rw [beside, ← alone, misBand_beyond_iff] at raised
    obtain ⟨row, stored, -, dated, late⟩ := raised
    obtain ⟨inTable, own⟩ := List.mem_filter.mp stored
    exact mild ⟨row, inTable, by simpa using own, dated, late⟩
  · intro condition
    have same := fun table' agree => @stable_of_condition _ _ table table' _ member agree condition
    exact {
      crilcAlone := (same _ (agreeOn_restrict table _)).1
      misAlone := (same _ (agreeOn_restrict table _)).2
      crilcStable := fun table' agree reportType => ((same table' agree).1 reportType).symm
      misStable := fun table' agree => (same table' agree).2.symm }

/-! ## A book of two borrowers -/

/-- A facility of ten crore, open since 2025. -/
def sampleFacility (owner id : Uuid) (reference : String) : Facility where
  borrowerId := owner
  facts := {
    facilityId := id
    reference := reference.toList
    sanctionedLimit := ⟨false, 100000000, 0⟩
    currency := "INR".toList
    outstanding := some ⟨false, 80000000, 0⟩
    effectiveFrom := ⟨2025, 4, 1, by decide⟩
    effectiveTo := none
    limitSign := by decide
    currencyCode := by decide
    outstandingSign := by
      rintro amount ⟨⟩
      decide
    period := by
      rintro day ⟨⟩ }

/-- A borrower that pays on time. -/
def currentBorrower : Borrower :=
  ⟨Uuid.ofInt 1, "BRW-1".toList, "Current Ltd".toList, some "C10".toList, none⟩

/-- A borrower that does not. -/
def lateBorrower : Borrower :=
  ⟨⟨2, by decide⟩, "BRW-2".toList, "Late Ltd".toList, some "C10".toList, none⟩

def sampleBook : Book where
  borrowers := [currentBorrower, lateBorrower]
  facilities := [sampleFacility (Uuid.ofInt 1) ⟨11, by decide⟩ "FAC-1",
    sampleFacility ⟨2, by decide⟩ ⟨12, by decide⟩ "FAC-2"]
  uniqueBorrowers := by decide
  uniqueFacilities := by decide

/-- Their conduct on 2026-01-31: nothing overdue, and 120 days past due. -/
def sampleTable : ConductTable where
  rows := [⟨⟨21, by decide⟩, ⟨11, by decide⟩, ⟨2026, 1, 31, by decide⟩, some 0, some ⟨false, 0, 0⟩, none⟩,
    ⟨⟨22, by decide⟩, ⟨12, by decide⟩, ⟨2026, 1, 31, by decide⟩, some 120,
      some ⟨false, 5000000, 0⟩, none⟩]
  unique := by decide

/-- The late borrower of the sample book is isolated: it is beyond SMA-2 by itself. -/
theorem isolated_lateBorrower :
    sampleBook.Isolated ⟨2026, 1, 31, by decide⟩ sampleTable lateBorrower :=
  (isolated_iff (by simp [sampleBook]) sampleTable).mpr
    (Or.inr ⟨⟨⟨22, by decide⟩, ⟨12, by decide⟩, ⟨2026, 1, 31, by decide⟩, some 120,
      some ⟨false, 5000000, 0⟩, none⟩, by simp [sampleTable], by decide, rfl, 120, rfl,
      by decide⟩)

/-- The current borrower is not: both services place it in default because of the other
    borrower's conduct, where its own conduct gives no SMA band. -/
theorem currentBorrower_not_isolated :
    sampleBook.misBand ⟨2026, 1, 31, by decide⟩ sampleTable currentBorrower = .ok .beyond ∧
      sampleBook.misBand ⟨2026, 1, 31, by decide⟩
        (restrict sampleTable (sampleBook.effectiveIds ⟨2026, 1, 31, by decide⟩ currentBorrower))
        currentBorrower = .ok .none ∧
      sampleBook.crilcOutcome ⟨2026, 1, 31, by decide⟩ sampleTable .weeklyDefault
        currentBorrower ≠ .ok .notInDefault ∧
      sampleBook.crilcOutcome ⟨2026, 1, 31, by decide⟩
        (restrict sampleTable (sampleBook.effectiveIds ⟨2026, 1, 31, by decide⟩ currentBorrower))
        .weeklyDefault currentBorrower = .ok .notInDefault := by
  decide

end Book

end CovenantRadar.Reporting
