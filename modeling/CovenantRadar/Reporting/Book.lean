import CovenantRadar.Reporting.Crilc

/-!
# The two report services over one book

Source `services/reporting.py` (`CrilcReportService`) and `reporting/mis.py`
(`MisReportService._borrower_sma_bands`): both collect one conduct mapping for the
whole book and derive every borrower from it.
-/

namespace CovenantRadar.Reporting

open Sma Crilc

/-- A borrower row. -/
structure Borrower where
  id : Uuid
  reference : Text
  legalName : Text
  industryCode : Option Text
  constitution : Option Text

/-- A facility row: its owner, and the facts the reports read. -/
structure Facility where
  borrowerId : Uuid
  facts : CrilcFacilityFacts

def Facility.id (facility : Facility) : Uuid := facility.facts.facilityId

/-- The rows a scope can see. Ids are primary keys, so each facility has one owner and
    the borrowers' facilities are disjoint. -/
structure Book where
  borrowers : List Borrower
  facilities : List Facility
  uniqueBorrowers : (borrowers.map Borrower.id).Nodup
  uniqueFacilities : (facilities.map Facility.id).Nodup

/-- The stored conduct rows, one for a facility and a day
    (`uq_facility_conduct_facility_day`). -/
structure ConductTable where
  rows : List FacilityConduct
  unique : (rows.map fun row => (row.facilityId, row.asOfDate)).Nodup

namespace Book

variable (book : Book) (asOfDate : Date)

/-- One element of `CrilcReportService._borrower_facts`. -/
def borrowerFactsOf (borrower : Borrower) : CrilcBorrowerFacts where
  borrowerId := borrower.id
  reference := borrower.reference
  legalName := borrower.legalName
  industryCode := borrower.industryCode
  constitution := borrower.constitution
  facilities := (book.facilities.filter fun facility => facility.borrowerId = borrower.id).map
    Facility.facts

/-- The effective facilities of one borrower, as ids. -/
def effectiveIds (borrower : Borrower) : List Uuid :=
  ((book.borrowerFactsOf borrower).effectiveFacilities asOfDate).map CrilcFacilityFacts.facilityId

/-- The rows of a query `WHERE facility_id IN (ids) AND as_of_date = asOfDate`. -/
def queryConduct (table : ConductTable) (ids : List Uuid) : List FacilityConduct :=
  table.rows.filter fun row => decide (row.facilityId ∈ ids) && decide (row.asOfDate = asOfDate)

/-- `{row.facility_id: row for row in rows}`. -/
def byFacility (rows : List FacilityConduct) : ConductMap := rows.map fun row => (row.facilityId, row)

/-- Source `CrilcReportService._conduct_snapshot`. -/
def conductSnapshot (table : ConductTable) : ConductMap :=
  let ids := book.borrowers.flatMap (book.effectiveIds asOfDate)
  byFacility ((queryConduct asOfDate table ids).insertionSort fun a b =>
    a.facilityId.int < b.facilityId.int ∨
      (a.facilityId.int = b.facilityId.int ∧ a.id.int ≤ b.id.int))

/-- What the CRILC report of that type makes of one borrower. -/
def crilcOutcome (table : ConductTable) (reportType : CrilcReportType) (borrower : Borrower) :
    Except PyError CrilcOutcome :=
  classify reportType asOfDate reportType.layout (book.conductSnapshot asOfDate table)
    aggregateExposureThreshold (book.borrowerFactsOf borrower)

/-- The facilities `_borrower_sma_bands` keeps (`_is_effective`). -/
def effectiveFacilities : List Facility :=
  book.facilities.filter fun facility => facility.facts.isEffectiveOn asOfDate

/-- The conduct mapping of `_borrower_sma_bands`. -/
def misConduct (table : ConductTable) : ConductMap :=
  byFacility (queryConduct asOfDate table ((book.effectiveFacilities asOfDate).map Facility.id))

/-- The band the board MIS counts one borrower under. -/
def misBand (table : ConductTable) (borrower : Borrower) : Except PyError SmaBand :=
  (deriveBorrowerSma (book.misConduct asOfDate table) asOfDate (some borrower.id)
    (((book.effectiveFacilities asOfDate).filter fun facility =>
      facility.borrowerId = borrower.id).map Facility.id)).map BorrowerSmaDerivation.band

/-! ## Effective facilities -/

variable {book asOfDate}

theorem mem_effectiveIds_iff {borrower : Borrower} {id : Uuid} :
    id ∈ book.effectiveIds asOfDate borrower ↔
      ∃ facility ∈ book.facilities, facility.borrowerId = borrower.id ∧
        facility.facts.isEffectiveOn asOfDate = true ∧ facility.id = id := by
  simp only [effectiveIds, CrilcBorrowerFacts.effectiveFacilities, borrowerFactsOf, List.mem_map,
    List.mem_filter, decide_eq_true_eq]
  constructor
  · rintro ⟨facts, ⟨⟨facility, ⟨member, owner⟩, rfl⟩, effective⟩, rfl⟩
    exact ⟨facility, member, owner, effective, rfl⟩
  · rintro ⟨facility, member, owner, effective, rfl⟩
    exact ⟨facility.facts, ⟨⟨facility, ⟨member, owner⟩, rfl⟩, effective⟩, rfl⟩

/-- The board MIS asks for the same facilities, in the same order. -/
theorem misIds_eq (borrower : Borrower) :
    ((book.effectiveFacilities asOfDate).filter fun facility =>
      facility.borrowerId = borrower.id).map Facility.id = book.effectiveIds asOfDate borrower := by
  unfold effectiveIds CrilcBorrowerFacts.effectiveFacilities borrowerFactsOf effectiveFacilities
  rw [List.filter_map, List.filter_filter, List.map_map, List.filter_filter]
  congr 1
  exact List.filter_congr fun facility _ => Bool.and_comm _ _

theorem effectiveIds_nodup (borrower : Borrower) : (book.effectiveIds asOfDate borrower).Nodup := by
  rw [← misIds_eq]
  exact book.uniqueFacilities.sublist
    (((List.filter_sublist).trans List.filter_sublist).map Facility.id)

/-! ## Conduct mappings -/

theorem mem_queryConduct_iff {table : ConductTable} {ids : List Uuid} {row : FacilityConduct} :
    row ∈ queryConduct asOfDate table ids ↔
      row ∈ table.rows ∧ row.facilityId ∈ ids ∧ row.asOfDate = asOfDate := by
  simp [queryConduct]

/-- Of one date there is at most one row for a facility. -/
theorem queryConduct_unique (table : ConductTable) (ids : List Uuid) :
    ((queryConduct asOfDate table ids).map FacilityConduct.facilityId).Nodup := by
  have rows := table.unique.sublist ((List.filter_sublist (l := table.rows)
    (p := fun row => decide (row.facilityId ∈ ids) && decide (row.asOfDate = asOfDate))).map
      fun row => (row.facilityId, row.asOfDate))
  rw [List.Nodup, List.pairwise_map] at rows ⊢
  refine List.Pairwise.imp_of_mem ?_ rows
  intro a b memberA memberB differ same
  have dateA := (mem_queryConduct_iff.mp memberA).2.2
  have dateB := (mem_queryConduct_iff.mp memberB).2.2
  exact differ (Prod.ext same (dateA.trans dateB.symm))

/-- A mapping built from rows of distinct facilities finds exactly those rows. -/
theorem get_byFacility_iff {rows : List FacilityConduct} {facilityId : Uuid}
    {row : FacilityConduct} (unique : (rows.map FacilityConduct.facilityId).Nodup) :
    ConductMap.get (byFacility rows) facilityId = some row ↔
      row ∈ rows ∧ row.facilityId = facilityId := by
  have keys : (byFacility rows).map Prod.fst = rows.map FacilityConduct.facilityId := by
    simp [byFacility]
  constructor
  · intro found
    obtain ⟨other, member, same⟩ := List.mem_map.mp (ConductMap.mem_of_get found)
    cases same
    exact ⟨member, rfl⟩
  · rintro ⟨member, rfl⟩
    exact ConductMap.get_eq_some (keys ▸ unique) (List.mem_map_of_mem member)

/-- A conduct mapping holds the rows of the date for the given facilities. -/
structure Holds (conduct : ConductMap) (asOfDate : Date) (table : ConductTable)
    (ids : List Uuid) : Prop where
  get : ∀ id row, conduct.get id = some row ↔
    row ∈ table.rows ∧ row.facilityId = id ∧ id ∈ ids ∧ row.asOfDate = asOfDate
  keys : ∀ entry ∈ conduct, entry.1 ∈ ids

theorem holds_byFacility {table : ConductTable} {ids : List Uuid} {rows : List FacilityConduct}
    (selected : rows.Perm (queryConduct asOfDate table ids)) :
    Holds (byFacility rows) asOfDate table ids := by
  have unique : (rows.map FacilityConduct.facilityId).Nodup :=
    (selected.map _).nodup_iff.mpr (queryConduct_unique table ids)
  constructor
  · intro id row
    rw [get_byFacility_iff unique, selected.mem_iff, mem_queryConduct_iff]
    constructor
    · rintro ⟨⟨member, listed, dated⟩, rfl⟩
      exact ⟨member, rfl, listed, dated⟩
    · rintro ⟨member, rfl, listed, dated⟩
      exact ⟨⟨member, listed, dated⟩, rfl⟩
  · intro entry member
    obtain ⟨row, rowMember, rfl⟩ := List.mem_map.mp member
    exact (mem_queryConduct_iff.mp (selected.mem_iff.mp rowMember)).2.1

theorem holds_conductSnapshot (table : ConductTable) :
    Holds (book.conductSnapshot asOfDate table) asOfDate table
      (book.borrowers.flatMap (book.effectiveIds asOfDate)) :=
  holds_byFacility (List.perm_insertionSort _ _)

theorem holds_misConduct (table : ConductTable) :
    Holds (book.misConduct asOfDate table) asOfDate table
      ((book.effectiveFacilities asOfDate).map Facility.id) :=
  holds_byFacility (List.Perm.refl _)

end Book

end CovenantRadar.Reporting
