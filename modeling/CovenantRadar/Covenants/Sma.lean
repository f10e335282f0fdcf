import CovenantRadar.Python.Scalars
import CovenantRadar.Misc.Select

/-!
# Supervisory SMA banding

Source `domain/covenants/sma.py`: the band of a facility from its days past due,
and the roll-up to the worst band of a borrower.
-/

namespace CovenantRadar.Sma

/-- Source `SmaBand`. -/
inductive SmaBand where
  | none
  | sma0
  | sma1
  | sma2
  | beyond
  deriving DecidableEq, Repr

namespace SmaBand

def value : SmaBand → Text
  | none => "none".toList
  | sma0 => "SMA-0".toList
  | sma1 => "SMA-1".toList
  | sma2 => "SMA-2".toList
  | beyond => "beyond".toList

/-- Source `SmaBand.severity`. -/
def severity : SmaBand → Nat
  | none => 0
  | sma0 => 1
  | sma1 => 2
  | sma2 => 3
  | beyond => 4

theorem severity_le_beyond (band : SmaBand) : band.severity ≤ beyond.severity := by
  cases band <;> decide

theorem eq_beyond_of_severity_le {band : SmaBand} (worst : beyond.severity ≤ band.severity) :
    band = beyond := by
  revert worst
  cases band <;> decide

end SmaBand

/-- One stored conduct row (`FacilityConduct`), as far as the reports read it. Days past
    due are a count: `sma_band` raises on a negative one, so no report holds it. -/
structure FacilityConduct where
  id : Uuid
  facilityId : Uuid
  asOfDate : Date
  daysPastDue : Option Nat
  overdueAmount : Option Decimal
  sourceId : Option Uuid
  deriving DecidableEq

/-- A `dict` from facility id to its conduct row. -/
abbrev ConductMap := List (Uuid × FacilityConduct)

namespace ConductMap

/-- `dict.get`. -/
def get (conduct : ConductMap) (facilityId : Uuid) : Option FacilityConduct :=
  (conduct.find? (fun entry => entry.1 = facilityId)).map Prod.snd

theorem mem_of_get {conduct : ConductMap} {facilityId : Uuid} {row : FacilityConduct}
    (found : conduct.get facilityId = some row) : (facilityId, row) ∈ conduct := by
  obtain ⟨entry, located, rfl⟩ := Option.map_eq_some_iff.mp found
  have key : entry.1 = facilityId := by simpa using List.find?_some located
  rw [← key]
  exact List.mem_of_find?_eq_some located

/-- With one row for each facility, the row that is listed is the one found. -/
theorem get_eq_some {conduct : ConductMap} {facilityId : Uuid} {row : FacilityConduct}
    (unique : (conduct.map Prod.fst).Nodup) (member : (facilityId, row) ∈ conduct) :
    conduct.get facilityId = some row := by
  cases found : conduct.get facilityId with
  | none =>
    simp only [get, Option.map_eq_none_iff, List.find?_eq_none, decide_eq_true_eq] at found
    exact absurd rfl (found _ member)
  | some other =>
    have same := List.inj_on_of_nodup_map unique (mem_of_get found) member rfl
    rw [(Prod.mk.inj same).2]

end ConductMap

/-- Source `FacilitySmaDerivation`. -/
structure FacilitySmaDerivation where
  facilityId : Uuid
  asOfDate : Date
  band : SmaBand
  daysPastDue : Option Nat
  reason : Option Text
  sourceId : Option Uuid
  deriving DecidableEq

/-- Source `BorrowerSmaDerivation`. -/
structure BorrowerSmaDerivation where
  borrowerId : Option Uuid
  asOfDate : Date
  band : SmaBand
  facilities : List FacilitySmaDerivation
  reason : Option Text

/-- Source `BorrowerSmaDerivation.worst_facility`. -/
def BorrowerSmaDerivation.worstFacility (d : BorrowerSmaDerivation) :
    Option FacilitySmaDerivation :=
  maxBy (fun item => item.band.severity) (d.facilities.filter fun item => item.band ≠ .none)

/-- Source `MISSING_CONDUCT_REASON`. -/
def missingConductReason : Text :=
  "no facility conduct was recorded for the requested date".toList

/-- Source `MISSING_DAYS_REASON`. -/
def missingDaysReason : Text := "facility conduct has no days_past_due value".toList

/-- Source `sma_band`, on a count of days. -/
def smaBand (daysPastDue : Nat) : SmaBand :=
  if daysPastDue = 0 then .none
  else if daysPastDue ≤ 30 then .sma0
  else if daysPastDue ≤ 60 then .sma1
  else if daysPastDue ≤ 90 then .sma2
  else .beyond

/-- Source `derive_facility_sma`. -/
def deriveFacilitySma (conduct : Option FacilityConduct) (facilityId : Uuid) (asOfDate : Date) :
    FacilitySmaDerivation :=
  match conduct with
  | none => ⟨facilityId, asOfDate, .none, none, some missingConductReason, none⟩
  | some row =>
    if row.asOfDate ≠ asOfDate then
      ⟨facilityId, asOfDate, .none, none, some missingConductReason, row.sourceId⟩
    else
      match row.daysPastDue with
      | none => ⟨facilityId, asOfDate, .none, none, some missingDaysReason, row.sourceId⟩
      | some days => ⟨facilityId, asOfDate, smaBand days, some days, none, row.sourceId⟩

/-- Source `_select_conduct`, on the one row a mapping holds for a facility. -/
def selectConduct (row : Option FacilityConduct) (asOfDate : Date) : Option FacilityConduct :=
  row.filter fun row => row.asOfDate = asOfDate

/-- Source `_unique_identifiers`. -/
def uniqueIdentifiers : List Uuid → List Uuid → Except PyError (List Uuid)
  | result, [] => .ok result
  | result, value :: values =>
    if value ∈ result then
      .error (.valueError ("facility_id UUID('" ++ String.ofList value.str ++
        "') was supplied more than once."))
    else
      uniqueIdentifiers (result ++ [value]) values

/-- Source `_aggregate_missing_reason`. -/
def aggregateMissingReason (derivations : List FacilitySmaDerivation) : Option Text :=
  let reasons := derivations.map FacilitySmaDerivation.reason
  if reasons.isEmpty ∨ none ∈ reasons then none
  else
    let first := reasons.head?.join
    if reasons.all (fun reason => reason = first) then first
    else some "facility conduct is incomplete for the requested date".toList

/-- The loop that adds the mapping's other facilities to the requested ones. -/
def orderedIds (expected : List Uuid) (conduct : ConductMap) : List Uuid :=
  conduct.foldl (fun ids entry => if entry.1 ∈ ids then ids else ids ++ [entry.1]) expected

/-- The derivations of the requested facilities and of the mapping's others. -/
def derivations (conduct : ConductMap) (asOfDate : Date) (facilityIds : List Uuid) :
    List FacilitySmaDerivation :=
  facilityIds.map fun facilityId =>
    deriveFacilitySma (selectConduct (conduct.get facilityId) asOfDate) facilityId asOfDate

/-- The end of `derive_borrower_sma`: the worst band, and why conduct may be missing. -/
def rollUp (borrowerId : Option Uuid) (asOfDate : Date) (items : List FacilitySmaDerivation) :
    BorrowerSmaDerivation :=
  match maxBy SmaBand.severity (items.map FacilitySmaDerivation.band) with
  | none => ⟨borrowerId, asOfDate, .none, [], some missingConductReason⟩
  | some worst => ⟨borrowerId, asOfDate, worst, items, aggregateMissingReason items⟩

/-- Source `derive_borrower_sma`, on a mapping of facility id to conduct row. -/
def deriveBorrowerSma (conduct : ConductMap) (asOfDate : Date) (borrowerId : Option Uuid)
    (facilityIds : List Uuid) : Except PyError BorrowerSmaDerivation := do
  let expected ← uniqueIdentifiers [] facilityIds
  .ok (rollUp borrowerId asOfDate (derivations conduct asOfDate (orderedIds expected conduct)))

/-! ## What the roll-up depends on -/

theorem uniqueIdentifiers_of_nodup {result values : List Uuid} (distinct : (result ++ values).Nodup) :
    uniqueIdentifiers result values = .ok (result ++ values) := by
  induction values generalizing result with
  | nil => simp [uniqueIdentifiers]
  | cons value values ih =>
    have fresh : value ∉ result := fun member =>
      List.disjoint_of_nodup_append distinct member List.mem_cons_self
    have regroup : result ++ value :: values = (result ++ [value]) ++ values := by simp
    rw [uniqueIdentifiers, if_neg fresh, regroup]
    exact ih (regroup ▸ distinct)

/-- The requested facilities come first; the others are the mapping's. -/
theorem orderedIds_eq (expected : List Uuid) (conduct : ConductMap) :
    ∃ extra, orderedIds expected conduct = expected ++ extra ∧
      ∀ id, id ∈ extra ↔ id ∉ expected ∧ id ∈ conduct.map Prod.fst := by
  unfold orderedIds
  induction conduct generalizing expected with
  | nil => exact ⟨[], by simp, by simp⟩
  | cons entry conduct ih =>
    rw [List.foldl_cons]
    by_cases listed : entry.1 ∈ expected
    · obtain ⟨extra, same, members⟩ := ih expected
      refine ⟨extra, by rw [if_pos listed, same], fun id => ?_⟩
      rw [members, List.map_cons, List.mem_cons]
      constructor
      · rintro ⟨fresh, member⟩
        exact ⟨fresh, Or.inr member⟩
      · rintro ⟨fresh, rfl | member⟩
        · exact absurd listed fresh
        · exact ⟨fresh, member⟩
    · obtain ⟨extra, same, members⟩ := ih (expected ++ [entry.1])
      refine ⟨entry.1 :: extra, by rw [if_neg listed, same]; simp, fun id => ?_⟩
      rw [List.mem_cons, members, List.map_cons, List.mem_cons, List.mem_append,
        List.mem_singleton, not_or]
      constructor
      · rintro (rfl | ⟨⟨fresh, other⟩, member⟩)
        · exact ⟨listed, Or.inl rfl⟩
        · exact ⟨fresh, Or.inr member⟩
      · rintro ⟨fresh, rfl | member⟩
        · exact Or.inl rfl
        · by_cases same : id = entry.1
          · exact Or.inl same
          · exact Or.inr ⟨⟨fresh, same⟩, member⟩

theorem deriveBorrowerSma_of_nodup {conduct : ConductMap} {asOfDate : Date}
    {borrowerId : Option Uuid} {facilityIds : List Uuid} (distinct : facilityIds.Nodup) :
    deriveBorrowerSma conduct asOfDate borrowerId facilityIds = .ok (rollUp borrowerId asOfDate
      (derivations conduct asOfDate (orderedIds facilityIds conduct))) := by
  have expected := @uniqueIdentifiers_of_nodup [] facilityIds distinct
  rw [deriveBorrowerSma, expected]
  rfl

/-- A mapping without other facilities adds none. -/
theorem orderedIds_of_subset {expected : List Uuid} {conduct : ConductMap}
    (requested : ∀ entry ∈ conduct, entry.1 ∈ expected) : orderedIds expected conduct = expected := by
  obtain ⟨extra, same, members⟩ := orderedIds_eq expected conduct
  have none : extra = [] := by
    rw [List.eq_nil_iff_forall_not_mem]
    intro id member
    obtain ⟨fresh, listed⟩ := (members id).mp member
    obtain ⟨entry, entryMember, rfl⟩ := List.mem_map.mp listed
    exact fresh (requested entry entryMember)
  rw [same, none, List.append_nil]

theorem derivations_congr {conduct conduct' : ConductMap} {asOfDate : Date}
    {facilityIds : List Uuid}
    (same : ∀ id ∈ facilityIds, conduct.get id = conduct'.get id) :
    derivations conduct asOfDate facilityIds = derivations conduct' asOfDate facilityIds :=
  List.map_congr_left fun id member => by rw [same id member]

/-- The derivation from a stored row, case by case. -/
theorem deriveFacilitySma_of_dated {row : FacilityConduct} {asOfDate : Date} (facilityId : Uuid)
    (dated : row.asOfDate = asOfDate) :
    deriveFacilitySma (selectConduct (some row) asOfDate) facilityId asOfDate =
      match row.daysPastDue with
      | none => ⟨facilityId, asOfDate, .none, none, some missingDaysReason, row.sourceId⟩
      | some days => ⟨facilityId, asOfDate, smaBand days, some days, none, row.sourceId⟩ := by
  have selected : selectConduct (some row) asOfDate = some row := by
    simp [selectConduct, Option.filter, dated]
  rw [selected, deriveFacilitySma, if_neg (not_not.mpr dated)]

theorem deriveFacilitySma_of_undated {row : FacilityConduct} {asOfDate : Date} (facilityId : Uuid)
    (undated : row.asOfDate ≠ asOfDate) :
    (deriveFacilitySma (selectConduct (some row) asOfDate) facilityId asOfDate).band = .none := by
  have selected : selectConduct (some row) asOfDate = none := by
    simp [selectConduct, Option.filter, undated]
  rw [selected]
  rfl

/-- A facility is beyond SMA-2 exactly when its row of the date counts over ninety days. -/
theorem deriveFacilitySma_beyond_iff {row : Option FacilityConduct} {facilityId : Uuid}
    {asOfDate : Date} :
    (deriveFacilitySma (selectConduct row asOfDate) facilityId asOfDate).band = .beyond ↔
      ∃ found, row = some found ∧ found.asOfDate = asOfDate ∧
        ∃ days, found.daysPastDue = some days ∧ 90 < days := by
  have banded : ∀ days, smaBand days = .beyond ↔ 90 < days := by
    intro days
    unfold smaBand
    split_ifs <;> simp <;> omega
  cases row with
  | none => simp [selectConduct, deriveFacilitySma]
  | some found =>
    by_cases dated : found.asOfDate = asOfDate
    · rw [deriveFacilitySma_of_dated facilityId dated]
      cases days : found.daysPastDue with
      | none => simp [days]
      | some count => simp [days, banded, dated]
    · rw [deriveFacilitySma_of_undated facilityId dated]
      simp [dated]

/-- A banded facility needs no reason. -/
theorem deriveFacilitySma_reason_of_beyond {row : Option FacilityConduct} {facilityId : Uuid}
    {asOfDate : Date}
    (worst : (deriveFacilitySma (selectConduct row asOfDate) facilityId asOfDate).band = .beyond) :
    (deriveFacilitySma (selectConduct row asOfDate) facilityId asOfDate).reason = none := by
  obtain ⟨found, rfl, dated, days, counted, -⟩ := deriveFacilitySma_beyond_iff.mp worst
  rw [deriveFacilitySma_of_dated facilityId dated, counted]

/-- The borrower is beyond SMA-2 exactly when one of the derived facilities is. -/
theorem rollUp_band_beyond_iff {borrowerId : Option Uuid} {asOfDate : Date}
    {items : List FacilitySmaDerivation} :
    (rollUp borrowerId asOfDate items).band = .beyond ↔ ∃ item ∈ items, item.band = .beyond := by
  unfold rollUp
  cases worst : maxBy SmaBand.severity (items.map FacilitySmaDerivation.band) with
  | none =>
    have empty := List.map_eq_nil_iff.mp (maxBy_eq_none.mp worst)
    simp [empty]
  | some band =>
    constructor
    · rintro rfl
      obtain ⟨item, member, same⟩ := List.mem_map.mp (maxBy_mem worst)
      exact ⟨item, member, same⟩
    · rintro ⟨item, member, beyond⟩
      have largest := le_key_maxBy worst (List.mem_map_of_mem member)
      rw [beyond] at largest
      exact SmaBand.eq_beyond_of_severity_le largest

/-- What a report reads of a roll-up. -/
structure SameView (d d' : BorrowerSmaDerivation) : Prop where
  band : d.band = d'.band
  reason : d.reason = d'.reason
  worst : d.worstFacility = d'.worstFacility

/-- Once a requested facility is beyond SMA-2, facilities that come later change nothing
    a report reads. -/
theorem rollUp_append_of_beyond {borrowerId : Option Uuid} {asOfDate : Date}
    {items extra : List FacilitySmaDerivation} {item : FacilitySmaDerivation}
    (member : item ∈ items) (beyond : item.band = .beyond) (reason : item.reason = none) :
    SameView (rollUp borrowerId asOfDate (items ++ extra)) (rollUp borrowerId asOfDate items) := by
  have whole : item ∈ items ++ extra := List.mem_append_left _ member
  have fields : ∀ list : List FacilitySmaDerivation, item ∈ list →
      (rollUp borrowerId asOfDate list).reason = none ∧
        (rollUp borrowerId asOfDate list).facilities = list := by
    intro list listed
    unfold rollUp
    cases worst : maxBy SmaBand.severity (list.map FacilitySmaDerivation.band) with
    | none =>
      have empty := List.map_eq_nil_iff.mp (maxBy_eq_none.mp worst)
      rw [empty] at listed
      cases listed
    | some band =>
      have missing : (none : Option Text) ∈ list.map FacilitySmaDerivation.reason :=
        reason ▸ List.mem_map_of_mem listed
      exact ⟨by simp [aggregateMissingReason, missing], rfl⟩
  refine ⟨?_, ?_, ?_⟩
  · rw [rollUp_band_beyond_iff.mpr ⟨item, whole, beyond⟩,
      rollUp_band_beyond_iff.mpr ⟨item, member, beyond⟩]
  · rw [(fields _ whole).1, (fields _ member).1]
  · unfold BorrowerSmaDerivation.worstFacility
    rw [(fields _ whole).2, (fields _ member).2, List.filter_append]
    have candidate : item ∈ items.filter fun other => other.band ≠ .none := by
      simp [member, beyond]
    cases worst : maxBy (fun other : FacilitySmaDerivation => other.band.severity)
        (items.filter fun other => other.band ≠ .none) with
    | none =>
      rw [maxBy_eq_none.mp worst] at candidate
      cases candidate
    | some chosen =>
      have largest := le_key_maxBy worst candidate
      rw [beyond] at largest
      refine maxBy_append_of_le worst fun other _ => ?_
      exact le_trans (SmaBand.severity_le_beyond other.band) largest

/-! ## The order of the facilities -/

theorem aggregateMissingReason_perm {items items' : List FacilitySmaDerivation}
    (perm : items.Perm items') :
    aggregateMissingReason items = aggregateMissingReason items' := by
  have reasons := perm.map FacilitySmaDerivation.reason
  have uniform : ∀ {first : Option Text} {rest other : List (Option Text)} {head : Option Text},
      (first :: rest).Perm (head :: other) → (∀ reason ∈ head :: other, reason = head) →
        head = first ∧ ∀ reason ∈ first :: rest, reason = first := by
    intro first rest other head same all
    have equal : ∀ reason ∈ first :: rest, reason = head := fun reason member =>
      all reason (same.mem_iff.mp member)
    have heads := equal first List.mem_cons_self
    refine ⟨heads.symm, ?_⟩
    intro reason member
    rw [equal reason member, heads]
  unfold aggregateMissingReason
  cases first : items.map FacilitySmaDerivation.reason with
  | nil =>
    rw [first] at reasons
    rw [List.nil_perm.mp reasons]
  | cons head rest =>
    cases second : items'.map FacilitySmaDerivation.reason with
    | nil =>
      rw [first, second] at reasons
      cases List.perm_nil.mp reasons
    | cons head' rest' =>
      rw [first, second] at reasons
      simp only [List.isEmpty_cons, List.head?_cons, Option.join_some, Bool.false_eq_true,
        false_or, List.all_eq_true, reasons.mem_iff]
      split_ifs with missing one other other
      · rfl
      · exact (uniform reasons fun reason member => of_decide_eq_true (other reason member)).1.symm
      · have equal : ∀ reason ∈ head :: rest, reason = head := fun reason member =>
          of_decide_eq_true (one reason (reasons.mem_iff.mp member))
        exact absurd (fun reason member => decide_eq_true ((uniform reasons.symm equal).2 reason
          member)) other
      · have equal := uniform reasons fun reason member => of_decide_eq_true (other reason member)
        exact absurd (fun reason member => decide_eq_true (equal.2 reason
          (reasons.mem_iff.mpr member))) one
      · rfl

/-- The band and the reason do not depend on the order of the facilities. -/
theorem rollUp_perm {borrowerId : Option Uuid} {asOfDate : Date}
    {items items' : List FacilitySmaDerivation} (perm : items.Perm items') :
    (rollUp borrowerId asOfDate items).band = (rollUp borrowerId asOfDate items').band ∧
      (rollUp borrowerId asOfDate items).reason = (rollUp borrowerId asOfDate items').reason := by
  have injective : Set.InjOn SmaBand.severity {band | band ∈ items.map FacilitySmaDerivation.band} := by
    intro a _ b _ same
    revert same
    cases a <;> cases b <;> simp [SmaBand.severity]
  have worst := maxBy_perm injective (perm.map FacilitySmaDerivation.band)
  unfold rollUp
  rw [← worst]
  cases maxBy SmaBand.severity (items.map FacilitySmaDerivation.band) with
  | none => exact ⟨rfl, rfl⟩
  | some band => exact ⟨rfl, aggregateMissingReason_perm perm⟩

/-- A mapping with one row for each facility finds the same row in any order. -/
theorem ConductMap.get_perm {conduct conduct' : ConductMap} (unique : (conduct.map Prod.fst).Nodup)
    (perm : conduct.Perm conduct') (facilityId : Uuid) :
    conduct.get facilityId = conduct'.get facilityId := by
  have unique' : (conduct'.map Prod.fst).Nodup := (perm.map Prod.fst).nodup_iff.mp unique
  cases found : conduct'.get facilityId with
  | some row =>
    exact ConductMap.get_eq_some unique (perm.mem_iff.mpr (ConductMap.mem_of_get found))
  | none =>
    cases other : conduct.get facilityId with
    | none => rfl
    | some row =>
      rw [ConductMap.get_eq_some unique' (perm.mem_iff.mp (ConductMap.mem_of_get other))] at found
      cases found

end CovenantRadar.Sma
