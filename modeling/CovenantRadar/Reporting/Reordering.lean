import CovenantRadar.Reporting.Isolation
import CovenantRadar.Misc.KeyedTable

/-!
# The CRILC report and the order of its input

`build_crilc_report` sorts the borrowers by reference, but keeps the facilities of a borrower and
the entries of the conduct mapping in the order they come in. Sums of decimals round, and
`worst_facility` takes the first of the facilities that tie for the worst band.
-/

namespace CovenantRadar.Crilc

open Sma

/-- The conduct mapping as the services build it: one row for each facility. -/
abbrev ConductRows : Type := KeyedTable FacilityConduct.facilityId

/-- The `dict` of a conduct mapping. -/
def ConductRows.mapping (conduct : ConductRows) : ConductMap :=
  conduct.rows.map fun row => (row.facilityId, row)

/-- The same borrower, with its facilities in another order. -/
def SameFacts (borrower borrower' : CrilcBorrowerFacts) : Prop :=
  ∃ facilities, borrower.facilities.Perm facilities ∧
    borrower' = { borrower with facilities := facilities }

/-- The same borrowers in another order, each with its facilities in another order. -/
def Reordered (borrowers borrowers' : List CrilcBorrowerFacts) : Prop :=
  ∃ middle, List.Forall₂ SameFacts borrowers middle ∧ middle.Perm borrowers'

/-! ## What is derived for a borrower -/

/-- The identifiers of the borrower's effective facilities. -/
def ownIds (asOfDate : Date) (borrower : CrilcBorrowerFacts) : List Uuid :=
  (borrower.effectiveFacilities asOfDate).map CrilcFacilityFacts.facilityId

/-- The mapping's other facilities, which `derive_borrower_sma` appends. -/
def otherIds (conduct : ConductRows) (asOfDate : Date) (borrower : CrilcBorrowerFacts) :
    List Uuid :=
  (conduct.rows.map FacilityConduct.facilityId).filter fun id =>
    !(ownIds asOfDate borrower).contains id

/-- The derivations of the borrower's effective facilities. -/
def ownDerivations (conduct : ConductRows) (asOfDate : Date) (borrower : CrilcBorrowerFacts) :
    List FacilitySmaDerivation :=
  derivations conduct.mapping asOfDate (ownIds asOfDate borrower)

/-- The derivations of the mapping's other facilities. -/
def otherDerivations (conduct : ConductRows) (asOfDate : Date) (borrower : CrilcBorrowerFacts) :
    List FacilitySmaDerivation :=
  derivations conduct.mapping asOfDate (otherIds conduct asOfDate borrower)

/-- What `derive_borrower_sma` returns for the borrower. -/
def borrowerDerivation (conduct : ConductRows) (asOfDate : Date) (borrower : CrilcBorrowerFacts) :
    BorrowerSmaDerivation :=
  rollUp (some borrower.borrowerId) asOfDate
    (ownDerivations conduct asOfDate borrower ++ otherDerivations conduct asOfDate borrower)

/-- The sum of the sanctioned limits. -/
def exposureOf (facilities : List CrilcFacilityFacts) : Decimal :=
  Decimal.sum (facilities.map CrilcFacilityFacts.sanctionedLimit)

/-- The sum of the outstanding amounts that are recorded. -/
def outstandingOf (facilities : List CrilcFacilityFacts) : Decimal :=
  Decimal.sum ((facilities.map CrilcFacilityFacts.outstanding).filterMap id)

/-- The candidate row of a borrower. -/
def candidate (conduct : ConductRows) (asOfDate : Date) (borrower : CrilcBorrowerFacts) :
    CrilcRow :=
  candidateRow borrower (borrower.effectiveFacilities asOfDate)
    (exposureOf (borrower.effectiveFacilities asOfDate)) (borrowerDerivation conduct asOfDate borrower)
    (borrowerDerivation conduct asOfDate borrower).reason.isNone conduct.mapping asOfDate

/-! ## When the order does not show -/

/-- No facility of the list is in a worse band, and this one is in a band. -/
def isWorst (all : List FacilitySmaDerivation) (item : FacilitySmaDerivation) : Bool :=
  decide (item.band ≠ .none) &&
    all.all fun other => decide (other.band.severity ≤ item.band.severity)

/-- The facilities of which `worst_facility` returns the first: those in the worst band, of the
    borrower itself if it has one there. -/
def deciding (own others : List FacilitySmaDerivation) : List FacilitySmaDerivation :=
  if (own.filter (isWorst (own ++ others))).isEmpty then others.filter (isWorst (own ++ others))
  else own.filter (isWorst (own ++ others))

/-- These facilities of a borrower. -/
def contenders (conduct : ConductRows) (asOfDate : Date) (borrower : CrilcBorrowerFacts) :
    List FacilitySmaDerivation :=
  deciding (ownDerivations conduct asOfDate borrower) (otherDerivations conduct asOfDate borrower)

def CrilcLayout.Shows (layout : CrilcLayout) (name : Text) : Prop :=
  ∃ field ∈ layout.fields, field.name = name

def CrilcLayout.Requires (layout : CrilcLayout) (name : Text) : Prop :=
  ∃ field ∈ layout.fields, field.name = name ∧ field.required = true

/-- The candidate row has a value for every required field. -/
def Complete (layout : CrilcLayout) (row : CrilcRow) : Prop :=
  ∀ field ∈ layout.fields, field.required = true → row.get field.name ≠ some .none

/-- The borrower gets a row or an exception, by its band and the kind of report. -/
def Listed (reportType : CrilcReportType) (derivation : BorrowerSmaDerivation) : Prop :=
  ¬ (reportType = .weeklyDefault ∧ derivation.reason.isNone = true ∧
    ¬ (derivation.reason.isNone &&
      decide (defaultBandFloorSeverity ≤ derivation.band.severity)) = true)

/-- Nothing the layout shows of the borrower depends on an order, and the band is its own. -/
structure RowSettled (layout : CrilcLayout) (conduct : ConductRows) (asOfDate : Date)
    (borrower : CrilcBorrowerFacts) : Prop where
  heldAlike : layout.Requires "overdue_amount".toList →
    ∀ a ∈ contenders conduct asOfDate borrower, ∀ b ∈ contenders conduct asOfDate borrower,
      overdueAmount (some a) conduct.mapping = none → overdueAmount (some b) conduct.mapping = none
  overdue : Complete layout (candidate conduct asOfDate borrower) →
    layout.Shows "overdue_amount".toList →
      ∀ a ∈ contenders conduct asOfDate borrower, ∀ b ∈ contenders conduct asOfDate borrower,
        overdueAmount (some a) conduct.mapping = overdueAmount (some b) conduct.mapping
  daysPastDue : Complete layout (candidate conduct asOfDate borrower) →
    layout.Shows "days_past_due".toList →
      ∀ a ∈ contenders conduct asOfDate borrower, ∀ b ∈ contenders conduct asOfDate borrower,
        a.daysPastDue = b.daysPastDue
  ownBand : Complete layout (candidate conduct asOfDate borrower) →
    layout.Shows "days_past_due".toList →
      (borrowerDerivation conduct asOfDate borrower).reason = none →
        ∃ item ∈ ownDerivations conduct asOfDate borrower, item.daysPastDue ≠ none ∧
          item.band = (borrowerDerivation conduct asOfDate borrower).band
  exposure : Complete layout (candidate conduct asOfDate borrower) →
    layout.Shows "aggregate_exposure_amount".toList →
      ∀ order, (borrower.effectiveFacilities asOfDate).Perm order →
        exposureOf order = exposureOf (borrower.effectiveFacilities asOfDate)
  outstanding : Complete layout (candidate conduct asOfDate borrower) →
    layout.Shows "outstanding_amount".toList →
      (∀ facility ∈ borrower.effectiveFacilities asOfDate, facility.outstanding ≠ none) →
        ∀ order, (borrower.effectiveFacilities asOfDate).Perm order →
          outstandingOf order = outstandingOf (borrower.effectiveFacilities asOfDate)

/-- Adding the limits in another order does not carry the borrower over the threshold, and where
    it is listed its row is settled. -/
structure Settled (reportType : CrilcReportType) (layout : CrilcLayout) (threshold : Decimal)
    (conduct : ConductRows) (asOfDate : Date) (borrower : CrilcBorrowerFacts) : Prop where
  sameSide : ∀ order, (borrower.effectiveFacilities asOfDate).Perm order →
    (exposureOf order).lt threshold =
      (exposureOf (borrower.effectiveFacilities asOfDate)).lt threshold
  row : (exposureOf (borrower.effectiveFacilities asOfDate)).lt threshold = false →
    Listed reportType (borrowerDerivation conduct asOfDate borrower) →
      RowSettled layout conduct asOfDate borrower

/-! ## The worst facility -/

theorem get_isSome_iff {row : CrilcRow} {name : Text} :
    (row.get name).isSome = true ↔ name ∈ row.map Prod.fst := by
  unfold CrilcRow.get
  rw [Option.isSome_map, List.find?_isSome, List.mem_map]
  simp

/-- The row with the fields of the layout, in its order. -/
def shownRow (layout : CrilcLayout) (row : CrilcRow) : CrilcRow :=
  layout.fields.map fun field => (field.name, (row.get field.name).getD .none)

/-- The required fields without a value. -/
def missingFields (layout : CrilcLayout) (row : CrilcRow) : List Text :=
  (layout.fields.filter fun field =>
    field.required && decide (row.get field.name = some .none)).map CrilcLayoutField.name

theorem get_map_name {fields : List CrilcLayoutField} (value : Text → CrilcValue)
    {field : CrilcLayoutField} (member : field ∈ fields) :
    CrilcRow.get (fields.map fun field => (field.name, value field.name)) field.name =
      some (value field.name) := by
  unfold CrilcRow.get
  induction fields with
  | nil => cases member
  | cons other fields ih =>
    rw [List.map_cons]
    by_cases named : other.name = field.name
    · rw [List.find?_cons_of_pos (by simpa using named), Option.map_some, named]
    · rw [List.find?_cons_of_neg (by simpa using named)]
      rcases List.mem_cons.mp member with rfl | later
      · exact absurd rfl named
      · exact ih later

theorem get_shownRow {layout : CrilcLayout} {row : CrilcRow} {field : CrilcLayoutField}
    (member : field ∈ layout.fields) :
    (shownRow layout row).get field.name = some ((row.get field.name).getD .none) :=
  get_map_name (fun name => (row.get name).getD .none) member

theorem projectRow_eq_ok_iff {layout : CrilcLayout} {row shown : CrilcRow} :
    projectRow layout row = .ok shown ↔
      (∀ field ∈ layout.fields, field.name ∈ row.map Prod.fst) ∧ shown = shownRow layout row := by
  unfold projectRow shownRow
  rw [mapM_eq_ok_iff]
  constructor
  · intro returned
    have pairs : List.Forall₂ (fun (field : CrilcLayoutField) entry =>
        field.name ∈ row.map Prod.fst ∧ entry = (field.name, (row.get field.name).getD .none))
          layout.fields shown := by
      refine returned.imp fun field entry returned => ?_
      rw [← get_isSome_iff]
      cases value : row.get field.name with
      | none =>
        rw [value] at returned
        cases returned
      | some value' =>
        rw [value] at returned
        exact ⟨rfl, (Except.ok.inj returned).symm⟩
    clear returned
    generalize layout.fields = fields at pairs
    induction pairs with
    | nil => simp
    | cons head _ ih =>
      obtain ⟨known, rfl⟩ := head
      obtain ⟨rest, rfl⟩ := ih
      exact ⟨List.forall_mem_cons.mpr ⟨known, rest⟩, rfl⟩
  · rintro ⟨known, rfl⟩
    rw [List.forall₂_map_right_iff]
    refine List.forall₂_same.mpr fun field member => ?_
    have present := get_isSome_iff.mpr (known field member)
    cases value : row.get field.name with
    | none =>
      rw [value] at present
      cases present
    | some value' => rfl

/-- The end of the loop body, on a candidate that has every field of the layout. -/
theorem rowOrException_eq_ok_iff {layout : CrilcLayout} {borrower : CrilcBorrowerFacts}
    {reason : Option Text} {row : CrilcRow} {outcome : CrilcOutcome} :
    rowOrException layout borrower reason row = .ok outcome ↔
      (∀ field ∈ layout.fields, field.name ∈ row.map Prod.fst) ∧
        outcome = if missingFields layout row ≠ [] then
          .exception ⟨borrower.reference, (missingFields layout row).insertionSort (· ≤ ·),
            reason.getD "Required field(s) are missing for the published layout.".toList⟩
        else .included (shownRow layout row) := by
  have missing : ∀ shown, (∀ field ∈ layout.fields, field.name ∈ row.map Prod.fst) →
      shown = shownRow layout row → (layout.fields.filter fun field =>
        field.required && decide (shown.get field.name = some .none)).map CrilcLayoutField.name =
          missingFields layout row := by
    rintro shown known rfl
    unfold missingFields
    congr 1
    apply List.filter_congr
    intro field member
    have present := get_isSome_iff.mpr (known field member)
    rw [get_shownRow member]
    cases value : row.get field.name with
    | none =>
      rw [value] at present
      cases present
    | some value => rfl
  unfold rowOrException
  rw [Except.bind_eq_ok_iff]
  constructor
  · rintro ⟨shown, projected, rest⟩
    obtain ⟨known, rfl⟩ := projectRow_eq_ok_iff.mp projected
    simp only [missing _ known rfl] at rest
    refine ⟨known, ?_⟩
    split_ifs at rest ⊢ <;> exact (Except.ok.inj rest).symm
  · rintro ⟨known, rfl⟩
    refine ⟨_, projectRow_eq_ok_iff.mpr ⟨known, rfl⟩, ?_⟩
    simp only [missing _ known rfl]
    split_ifs <;> rfl

theorem complete_iff {layout : CrilcLayout} {row : CrilcRow} :
    Complete layout row ↔ missingFields layout row = [] := by
  unfold Complete missingFields
  rw [List.map_eq_nil_iff, List.filter_eq_nil_iff]
  simp

/-! ## The figures of a candidate row -/

end CovenantRadar.Crilc
