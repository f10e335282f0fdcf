import CovenantRadar.Covenants.Sma
import CovenantRadar.Misc.KeyedTable
import CovenantRadar.Misc.Loop

/-!
# The SMA band of the nightly queue

Source `services/nightly.py`, `_borrower_sma_band`, and `services/engine.py`,
`_sma_conduct_snapshot`: two queries for the facilities of a borrower on a date, each with the
conduct of these facilities, from which the band is derived.
-/

namespace CovenantRadar

namespace Nightly

open Sma

/-- Source `Facility`, one effective-dated row. -/
structure Facility where
  id : Uuid
  borrowerId : Uuid
  effectiveFrom : Date
  effectiveTo : Option Date
  deriving DecidableEq

/-- The table `facility`. -/
abbrev FacilityTable : Type := KeyedTable Facility.id

/-- The table `facility_conduct`, with one row for each facility and day. -/
abbrev ConductTable : Type :=
  KeyedTable fun row : FacilityConduct => (row.facilityId, row.asOfDate)

/-! ## Conduct given as a sequence -/

/-- The loop of `_normalise_conduct` over a sequence. -/
def normaliseConductRow (asOfDate : Date) (records : List (Uuid × List FacilityConduct))
    (row : FacilityConduct) : Except PyError (List (Uuid × List FacilityConduct)) :=
  if ((dictGet records row.facilityId).getD []).any fun item =>
      item.asOfDate = row.asOfDate && item.asOfDate = asOfDate then
    .error (.valueError ("More than one conduct row exists for facility UUID('" ++
      String.ofList row.facilityId.str ++ "') on " ++ String.ofList asOfDate.isoformat ++ "."))
  else .ok (appendToKey row.facilityId row records)

/-- Source `_select_conduct`, on stored rows, which all carry a date. -/
def selectConductRows (rows : List FacilityConduct) (asOfDate : Date) :
    Except PyError (Option FacilityConduct) :=
  match rows.filter fun row => row.asOfDate = asOfDate with
  | [] => .ok none
  | [row] => .ok (some row)
  | _ => .error (.valueError ("More than one conduct row exists on " ++
      String.ofList asOfDate.isoformat ++ "."))

/-- The loop that adds the sequence's other facilities to the requested ones. -/
def addFacilities (expected : List Uuid) (facilityIds : List Uuid) : List Uuid :=
  facilityIds.foldl (fun ids id => if id ∈ ids then ids else ids ++ [id]) expected

/-- Source `derive_borrower_sma`, on a sequence of conduct rows. -/
def deriveBorrowerSmaRows (conduct : List FacilityConduct) (asOfDate : Date)
    (borrowerId : Option Uuid) (facilityIds : List Uuid) :
    Except PyError BorrowerSmaDerivation := do
  let expected ← uniqueIdentifiers [] facilityIds
  let records ← conduct.foldlM (normaliseConductRow asOfDate) []
  let items ← (addFacilities expected (records.map Prod.fst)).mapM fun facilityId => do
    let selected ← selectConductRows ((dictGet records facilityId).getD []) asOfDate
    .ok (deriveFacilitySma selected facilityId asOfDate)
  .ok (rollUp borrowerId asOfDate items)

/-! ## The two queries -/

/-- The facilities `_borrower_sma_band` selects: a last day counts. -/
def nightlyFacilityIds (facilities : FacilityTable) (borrowerId : Uuid) (asOfDate : Date) :
    List Uuid :=
  ((facilities.rows.filter fun facility =>
      facility.borrowerId = borrowerId && facility.effectiveFrom ≤ asOfDate &&
        facility.effectiveTo.all fun last => asOfDate ≤ last).map Facility.id).insertionSort
    fun a b => a.int ≤ b.int

/-- Source `_borrower_sma_band`. -/
def borrowerSmaBand (facilities : FacilityTable) (conduct : ConductTable) (borrowerId : Uuid)
    (asOfDate : Date) : Except PyError (Option Text) := do
  let facilityIds := nightlyFacilityIds facilities borrowerId asOfDate
  if facilityIds = [] then .ok none
  else
    let rows := conduct.rows.filter fun row =>
      facilityIds.contains row.facilityId && row.asOfDate = asOfDate
    let derivation ← deriveBorrowerSmaRows rows asOfDate (some borrowerId) facilityIds
    .ok (if derivation.reason.isSome then none else some derivation.band.value)

/-- The facilities `_sma_conduct_snapshot` selects: a last day is excluded. -/
def engineFacilityIds (facilities : FacilityTable) (borrowerId : Uuid) (asOfDate : Date) :
    List Uuid :=
  (((facilities.rows.filter fun facility => facility.borrowerId = borrowerId).insertionSort
      fun a b => toLex (a.effectiveFrom, a.id.int) ≤ toLex (b.effectiveFrom, b.id.int)).filter
    fun facility => facility.effectiveFrom ≤ asOfDate &&
      facility.effectiveTo.all fun last => asOfDate < last).map Facility.id

/-- Source `_sma_conduct_snapshot`, for a borrower in scope. -/
def smaConductSnapshot (facilities : FacilityTable) (conduct : ConductTable) (borrowerId : Uuid)
    (asOfDate : Date) : List Uuid × ConductMap :=
  let facilityIds := engineFacilityIds facilities borrowerId asOfDate
  if facilityIds = [] then ([], [])
  else
    let rows := (conduct.rows.filter fun row =>
      facilityIds.contains row.facilityId && row.asOfDate = asOfDate).insertionSort
        fun a b => toLex (a.facilityId.int, a.id.int) ≤ toLex (b.facilityId.int, b.id.int)
    (facilityIds, rows.map fun row => (row.facilityId, row))

/-- Source `_derive_sma`, without conduct from the caller. -/
def engineDerivation (facilities : FacilityTable) (conduct : ConductTable) (borrowerId : Uuid)
    (asOfDate : Date) : Except PyError BorrowerSmaDerivation :=
  let snapshot := smaConductSnapshot facilities conduct borrowerId asOfDate
  deriveBorrowerSma snapshot.2 asOfDate (some borrowerId) snapshot.1

/-- The band as the queue shows it: unknown where conduct is missing. -/
def queueBand (derivation : BorrowerSmaDerivation) : Option Text :=
  if derivation.reason.isSome then none else some derivation.band.value

/-! ## Sequences and mappings of conduct -/

theorem appendToKey_of_notMem {α β : Type} [DecidableEq α] {key : α} {value : β}
    {groups : List (α × List β)} (fresh : key ∉ groups.map Prod.fst) :
    appendToKey key value groups = groups ++ [(key, [value])] := by
  induction groups with
  | nil => rfl
  | cons entry groups ih =>
    rw [List.map_cons, List.mem_cons, not_or] at fresh
    rw [appendToKey, if_neg (Ne.symm fresh.1), ih fresh.2, List.cons_append]

theorem dictGet_eq_none {α β : Type} [DecidableEq α] {entries : List (α × β)} {key : α}
    (absent : key ∉ entries.map Prod.fst) : dictGet entries key = none := by
  rw [dictGet, Option.map_eq_none_iff, List.find?_eq_none]
  intro entry member same
  exact absent (List.mem_map.mpr ⟨entry, member, by simpa using same⟩)

/-- Rows of different facilities are kept apart. -/
theorem normaliseConductRow_fold {asOfDate : Date} {rows : List FacilityConduct}
    (records : List (Uuid × List FacilityConduct))
    (distinct : (records.map Prod.fst ++ rows.map FacilityConduct.facilityId).Nodup) :
    rows.foldlM (normaliseConductRow asOfDate) records =
      .ok (records ++ rows.map fun row => (row.facilityId, [row])) := by
  induction rows generalizing records with
  | nil => simp [pure, Except.pure]
  | cons row rows ih =>
    have fresh : row.facilityId ∉ records.map Prod.fst := fun member =>
      List.disjoint_of_nodup_append distinct member List.mem_cons_self
    have step : normaliseConductRow asOfDate records row =
        .ok (records ++ [(row.facilityId, [row])]) := by
      rw [normaliseConductRow, dictGet_eq_none fresh, appendToKey_of_notMem fresh]
      rfl
    have rest := ih (records ++ [(row.facilityId, [row])]) (by simpa using distinct)
    rw [List.append_assoc] at rest
    rw [List.foldlM_cons, step]
    exact rest

/-- Nothing is added to facilities that were requested. -/
theorem addFacilities_of_subset {expected facilityIds : List Uuid}
    (requested : ∀ id ∈ facilityIds, id ∈ expected) :
    addFacilities expected facilityIds = expected := by
  induction facilityIds with
  | nil => rfl
  | cons id facilityIds ih =>
    rw [addFacilities, List.foldl_cons, if_pos (requested id List.mem_cons_self)]
    exact ih fun other member => requested other (List.mem_cons_of_mem _ member)

/-- One row of the day for each facility gives the derivation of the mapping. -/
theorem deriveBorrowerSmaRows_eq {rows : List FacilityConduct} {asOfDate : Date}
    {borrowerId : Option Uuid} {facilityIds : List Uuid} (distinct : facilityIds.Nodup)
    (single : (rows.map FacilityConduct.facilityId).Nodup)
    (requested : ∀ row ∈ rows, row.facilityId ∈ facilityIds)
    (dated : ∀ row ∈ rows, row.asOfDate = asOfDate) :
    deriveBorrowerSmaRows rows asOfDate borrowerId facilityIds = .ok (rollUp borrowerId asOfDate
      (derivations (rows.map fun row => (row.facilityId, row)) asOfDate facilityIds)) := by
  have records := @normaliseConductRow_fold asOfDate rows [] (by simpa using single)
  have lookup : ∀ id, (dictGet (rows.map fun row => (row.facilityId, [row])) id).getD [] =
      (ConductMap.get (rows.map fun row => (row.facilityId, row)) id).toList := by
    intro id
    unfold dictGet ConductMap.get
    rw [List.find?_map, List.find?_map]
    cases found : rows.find? ((fun entry => decide (entry.1 = id)) ∘
        fun row : FacilityConduct => (row.facilityId, row)) with
    | none =>
      have missing : rows.find? ((fun entry => decide (entry.1 = id)) ∘
          fun row : FacilityConduct => (row.facilityId, [row])) = none := found
      rw [missing]
      rfl
    | some row =>
      have here : rows.find? ((fun entry => decide (entry.1 = id)) ∘
          fun row : FacilityConduct => (row.facilityId, [row])) = some row := found
      rw [here]
      rfl
  have selected : ∀ id, selectConductRows
      ((dictGet (rows.map fun row => (row.facilityId, [row])) id).getD []) asOfDate =
        .ok (selectConduct (ConductMap.get (rows.map fun row => (row.facilityId, row)) id)
          asOfDate) := by
    intro id
    rw [lookup]
    cases found : ConductMap.get (rows.map fun row => (row.facilityId, row)) id with
    | none => rfl
    | some row =>
      obtain ⟨other, member, pair⟩ := List.mem_map.mp (ConductMap.mem_of_get found)
      cases pair
      simp [selectConductRows, selectConduct, Option.filter, dated _ member]
  have keys : (rows.map fun row => (row.facilityId, [row])).map Prod.fst =
      rows.map FacilityConduct.facilityId := by
    rw [List.map_map]
    rfl
  have added : addFacilities facilityIds
      ((rows.map fun row => (row.facilityId, [row])).map Prod.fst) = facilityIds := by
    apply addFacilities_of_subset
    intro id member
    rw [keys] at member
    obtain ⟨row, listed, rfl⟩ := List.mem_map.mp member
    exact requested row listed
  have expected := @uniqueIdentifiers_of_nodup [] facilityIds distinct
  rw [List.nil_append] at expected records
  rw [deriveBorrowerSmaRows, expected]
  simp only [bind, Except.bind, records, added, selected]
  have items : facilityIds.mapM (fun id => (Except.ok (deriveFacilitySma (selectConduct
      (ConductMap.get (rows.map fun row => (row.facilityId, row)) id) asOfDate) id asOfDate) :
        Except PyError FacilitySmaDerivation)) =
      .ok (derivations (rows.map fun row => (row.facilityId, row)) asOfDate facilityIds) := by
    apply mapM_eq_ok_iff.mpr
    rw [derivations, List.forall₂_map_right_iff]
    exact List.forall₂_same.mpr fun _ _ => rfl
  rw [items]

/-! ## What the two queries find -/

variable {facilities : FacilityTable} {conduct : ConductTable} {borrowerId : Uuid}
  {asOfDate : Date}

theorem mem_nightlyFacilityIds {id : Uuid} :
    id ∈ nightlyFacilityIds facilities borrowerId asOfDate ↔
      ∃ facility ∈ facilities.rows, facility.id = id ∧ facility.borrowerId = borrowerId ∧
        facility.effectiveFrom ≤ asOfDate ∧ ∀ last ∈ facility.effectiveTo, asOfDate ≤ last := by
  unfold nightlyFacilityIds
  rw [List.mem_insertionSort, List.mem_map]
  apply exists_congr
  intro facility
  rw [List.mem_filter]
  simp only [Bool.and_eq_true, decide_eq_true_eq, Option.all_eq_true, Option.mem_def]
  tauto

theorem mem_engineFacilityIds {id : Uuid} :
    id ∈ engineFacilityIds facilities borrowerId asOfDate ↔
      ∃ facility ∈ facilities.rows, facility.id = id ∧ facility.borrowerId = borrowerId ∧
        facility.effectiveFrom ≤ asOfDate ∧ ∀ last ∈ facility.effectiveTo, asOfDate < last := by
  unfold engineFacilityIds
  rw [List.mem_map]
  apply exists_congr
  intro facility
  rw [List.mem_filter, List.mem_insertionSort, List.mem_filter]
  simp only [Bool.and_eq_true, decide_eq_true_eq, Option.all_eq_true, Option.mem_def]
  tauto

theorem nightlyFacilityIds_nodup : (nightlyFacilityIds facilities borrowerId asOfDate).Nodup :=
  (List.perm_insertionSort _ _).nodup_iff.mpr
    (facilities.distinct.sublist (List.filter_sublist.map Facility.id))

theorem engineFacilityIds_nodup : (engineFacilityIds facilities borrowerId asOfDate).Nodup := by
  have sorted : (((facilities.rows.filter fun facility =>
      facility.borrowerId = borrowerId).insertionSort fun a b =>
        toLex (a.effectiveFrom, a.id.int) ≤ toLex (b.effectiveFrom, b.id.int)).map
          Facility.id).Nodup :=
    ((List.perm_insertionSort _ _).map Facility.id).nodup_iff.mpr
      (facilities.distinct.sublist (List.filter_sublist.map Facility.id))
  exact sorted.sublist (List.filter_sublist.map Facility.id)

/-- The conduct of facilities on a day. -/
def conductOn (conduct : ConductTable) (facilityIds : List Uuid) (asOfDate : Date) :
    List FacilityConduct :=
  conduct.rows.filter fun row => facilityIds.contains row.facilityId && row.asOfDate = asOfDate

theorem mem_conductOn {facilityIds : List Uuid} {row : FacilityConduct} :
    row ∈ conductOn conduct facilityIds asOfDate ↔
      row ∈ conduct.rows ∧ row.facilityId ∈ facilityIds ∧ row.asOfDate = asOfDate := by
  rw [conductOn, List.mem_filter, Bool.and_eq_true, List.contains_iff_mem, decide_eq_true_eq]

/-- A facility has one row a day. -/
theorem conductOn_distinct (facilityIds : List Uuid) :
    ((conductOn conduct facilityIds asOfDate).map FacilityConduct.facilityId).Nodup := by
  have keys := conduct.distinct.sublist
    (List.filter_sublist (p := fun row : FacilityConduct =>
      facilityIds.contains row.facilityId && row.asOfDate = asOfDate) |>.map _)
  refine List.Nodup.map_on ?_ (List.Nodup.of_map _ keys)
  intro row member row' member' same
  have dated := (mem_conductOn.mp member).2.2.trans (mem_conductOn.mp member').2.2.symm
  exact List.inj_on_of_nodup_map keys member member' (Prod.ext same dated)

theorem borrowerSmaBand_eq :
    borrowerSmaBand facilities conduct borrowerId asOfDate =
      .ok (queueBand (rollUp (some borrowerId) asOfDate (derivations
        ((conductOn conduct (nightlyFacilityIds facilities borrowerId asOfDate) asOfDate).map
          fun row => (row.facilityId, row)) asOfDate
        (nightlyFacilityIds facilities borrowerId asOfDate)))) := by
  unfold borrowerSmaBand
  simp only
  by_cases empty : nightlyFacilityIds facilities borrowerId asOfDate = []
  · rw [if_pos empty, empty]
    rfl
  · have derived := @deriveBorrowerSmaRows_eq _ _ (some borrowerId) _ nightlyFacilityIds_nodup
      (@conductOn_distinct conduct asOfDate (nightlyFacilityIds facilities borrowerId asOfDate))
      (fun row member => (mem_conductOn.mp member).2.1)
      (fun row member => (mem_conductOn.mp member).2.2)
    rw [if_neg empty]
    unfold conductOn at derived ⊢
    rw [derived]
    rfl

theorem smaConductSnapshot_fst :
    (smaConductSnapshot facilities conduct borrowerId asOfDate).1 =
      engineFacilityIds facilities borrowerId asOfDate := by
  unfold smaConductSnapshot
  simp only
  split_ifs with empty
  · exact empty.symm
  · rfl

theorem smaConductSnapshot_snd_perm :
    (smaConductSnapshot facilities conduct borrowerId asOfDate).2.Perm
      ((conductOn conduct (engineFacilityIds facilities borrowerId asOfDate) asOfDate).map
        fun row => (row.facilityId, row)) := by
  unfold smaConductSnapshot
  simp only
  split_ifs with empty
  · rw [empty]
    have none : conductOn conduct [] asOfDate = [] := by simp [conductOn]
    rw [none]
    exact List.Perm.nil
  · exact (List.perm_insertionSort _ _).map _

theorem engineDerivation_eq :
    ∃ snapshot : ConductMap,
      snapshot.Perm ((conductOn conduct (engineFacilityIds facilities borrowerId asOfDate)
        asOfDate).map fun row => (row.facilityId, row)) ∧
      engineDerivation facilities conduct borrowerId asOfDate =
        .ok (rollUp (some borrowerId) asOfDate (derivations snapshot asOfDate
          (engineFacilityIds facilities borrowerId asOfDate))) := by
  refine ⟨_, smaConductSnapshot_snd_perm, ?_⟩
  unfold engineDerivation
  simp only
  rw [smaConductSnapshot_fst, deriveBorrowerSma_of_nodup engineFacilityIds_nodup,
    orderedIds_of_subset]
  intro entry member
  obtain ⟨row, listed, rfl⟩ := List.mem_map.mp (smaConductSnapshot_snd_perm.mem_iff.mp member)
  exact (mem_conductOn.mp listed).2.1

/-- Facilities of one set give one band, and one reason for missing conduct. -/
theorem queueBand_of_sameFacilities
    (same : ∀ id, id ∈ nightlyFacilityIds facilities borrowerId asOfDate ↔
      id ∈ engineFacilityIds facilities borrowerId asOfDate) :
    ∃ derivation, engineDerivation facilities conduct borrowerId asOfDate = .ok derivation ∧
      borrowerSmaBand facilities conduct borrowerId asOfDate = .ok (queueBand derivation) := by
  obtain ⟨snapshot, perm, derived⟩ := @engineDerivation_eq facilities conduct borrowerId asOfDate
  refine ⟨_, derived, ?_⟩
  have ids : (nightlyFacilityIds facilities borrowerId asOfDate).Perm
      (engineFacilityIds facilities borrowerId asOfDate) :=
    (List.perm_ext_iff_of_nodup nightlyFacilityIds_nodup engineFacilityIds_nodup).mpr same
  have rows : conductOn conduct (nightlyFacilityIds facilities borrowerId asOfDate) asOfDate =
      conductOn conduct (engineFacilityIds facilities borrowerId asOfDate) asOfDate := by
    apply List.filter_congr
    intro row _
    have contains : (nightlyFacilityIds facilities borrowerId asOfDate).contains row.facilityId =
        (engineFacilityIds facilities borrowerId asOfDate).contains row.facilityId := by
      rw [Bool.eq_iff_iff, List.contains_iff_mem, List.contains_iff_mem]
      exact same row.facilityId
    rw [contains]
  have unique : (snapshot.map Prod.fst).Nodup := by
    rw [(perm.map Prod.fst).nodup_iff, List.map_map]
    exact conductOn_distinct _
  rw [borrowerSmaBand_eq, rows, derivations_congr fun id _ => (ConductMap.get_perm unique perm id).symm]
  obtain ⟨band, reason⟩ := @rollUp_perm (some borrowerId) asOfDate _ _
    (ids.map fun id => deriveFacilitySma (selectConduct (snapshot.get id) asOfDate) id asOfDate)
  unfold queueBand derivations
  rw [band, reason]

/-- The nightly step and the engine use the same facilities and derive the same band exactly when
    no facility of the borrower that has begun ends on the date. -/
theorem sma_facilities_agree_iff :
    ((∀ id, id ∈ nightlyFacilityIds facilities borrowerId asOfDate ↔
          id ∈ (smaConductSnapshot facilities conduct borrowerId asOfDate).1) ∧
        ∃ derivation, engineDerivation facilities conduct borrowerId asOfDate = .ok derivation ∧
          borrowerSmaBand facilities conduct borrowerId asOfDate = .ok (queueBand derivation)) ↔
      ∀ facility ∈ facilities.rows, facility.borrowerId = borrowerId →
        facility.effectiveFrom ≤ asOfDate → facility.effectiveTo ≠ some asOfDate := by
  rw [smaConductSnapshot_fst]
  constructor
  · intro ⟨same, _⟩ facility listed owned begun ends
    have nightly := mem_nightlyFacilityIds.mpr ⟨facility, listed, rfl, owned, begun,
      fun last member => by rw [ends] at member; exact le_of_eq (Option.some.inj member)⟩
    obtain ⟨other, listed', same', _, _, later⟩ :=
      mem_engineFacilityIds.mp ((same facility.id).mp nightly)
    rw [List.inj_on_of_nodup_map facilities.distinct listed' listed same'] at later
    exact lt_irrefl asOfDate (later asOfDate ends)
  · intro apart
    have same : ∀ id, id ∈ nightlyFacilityIds facilities borrowerId asOfDate ↔
        id ∈ engineFacilityIds facilities borrowerId asOfDate := by
      intro id
      rw [mem_nightlyFacilityIds, mem_engineFacilityIds]
      constructor
      · rintro ⟨facility, listed, key, owned, begun, later⟩
        refine ⟨facility, listed, key, owned, begun, fun last member => ?_⟩
        refine lt_of_le_of_ne (later last member) ?_
        rintro rfl
        exact apart facility listed owned begun member
      · rintro ⟨facility, listed, key, owned, begun, later⟩
        exact ⟨facility, listed, key, owned, begun, fun last member => le_of_lt (later last member)⟩
    exact ⟨same, queueBand_of_sameFacilities same⟩

/-! ## A facility that ends on the date -/

theorem newYear_valid : 1 ≤ 2026 ∧ 2026 ≤ 9999 ∧ 1 ≤ 1 ∧ 1 ≤ 12 ∧ 1 ≤ 1 ∧
    1 ≤ daysInMonth 2026 1 := by decide

theorem lastOfJanuary_valid : 1 ≤ 2026 ∧ 2026 ≤ 9999 ∧ 1 ≤ 1 ∧ 1 ≤ 12 ∧ 1 ≤ 31 ∧
    31 ≤ daysInMonth 2026 1 := by decide

def newYear : Date := ⟨2026, 1, 1, newYear_valid⟩

def lastOfJanuary : Date := ⟨2026, 1, 31, lastOfJanuary_valid⟩

/-- A facility that ends on the last of January, and one that stays open. -/
def endingFacilities : List Facility :=
  [⟨Uuid.ofInt 5, Uuid.ofInt 1, newYear, some lastOfJanuary⟩,
    ⟨Uuid.ofInt 6, Uuid.ofInt 1, newYear, none⟩]

theorem endingFacilities_distinct : (endingFacilities.map Facility.id).Nodup := by decide

/-- The one that ends is a hundred days past due. -/
def endingConduct : List FacilityConduct :=
  [⟨Uuid.ofInt 15, Uuid.ofInt 5, lastOfJanuary, some 100, none, none⟩,
    ⟨Uuid.ofInt 16, Uuid.ofInt 6, lastOfJanuary, some 0, none, none⟩]

theorem endingConduct_distinct :
    (endingConduct.map fun row => (row.facilityId, row.asOfDate)).Nodup := by decide

/-- On the last day of a facility the nightly queue counts it, and the engine does not. -/
theorem sma_band_on_last_day :
    ¬ (∀ id, id ∈ nightlyFacilityIds ⟨endingFacilities, endingFacilities_distinct⟩ (Uuid.ofInt 1)
          lastOfJanuary ↔
        id ∈ (smaConductSnapshot ⟨endingFacilities, endingFacilities_distinct⟩
          ⟨endingConduct, endingConduct_distinct⟩ (Uuid.ofInt 1) lastOfJanuary).1) ∧
      borrowerSmaBand ⟨endingFacilities, endingFacilities_distinct⟩
          ⟨endingConduct, endingConduct_distinct⟩ (Uuid.ofInt 1) lastOfJanuary =
        .ok (some "beyond".toList) ∧
      (engineDerivation ⟨endingFacilities, endingFacilities_distinct⟩
          ⟨endingConduct, endingConduct_distinct⟩ (Uuid.ofInt 1) lastOfJanuary).map queueBand =
        .ok (some "none".toList) := by
  refine ⟨?_, by decide, by decide⟩
  intro same
  have nightly : Uuid.ofInt 5 ∈ nightlyFacilityIds
      ⟨endingFacilities, endingFacilities_distinct⟩ (Uuid.ofInt 1) lastOfJanuary := by
    decide
  have engine := (same (Uuid.ofInt 5)).mp nightly
  revert engine
  decide

end Nightly

end CovenantRadar
