import CovenantRadar.Covenants.Conduct

/-!
# Each facility once, and the worst of them

What `derive_borrower_sma` makes of any conduct: a derivation for each facility that is supplied,
and the worst of their bands. It loses a facility exactly when two keys of a mapping are one after
trimming.
-/

namespace CovenantRadar.Sma

/-! ## What is supplied -/

/-- The facilities that are supplied, each with its rows. -/
def supplied (asOfDate : Date) : Conduct → Records
  | .absent => []
  | .record row => (row.facilityId.map fun id => (id.trimmed, [row])).toList
  | .mapping mapping =>
    mapping.entries.map fun entry => (entry.1.trimmed, rowsForMappingValue asOfDate entry.2)
  | .sequence rows =>
    groupPairs (rows.filterMap fun row => row.facilityId.map fun id => (id.trimmed, row))

/-- No two keys of a mapping are one after trimming. -/
def KeysApart : Conduct → Prop
  | .mapping mapping => (mapping.entries.map fun entry => entry.1.trimmed).Nodup
  | _ => True

theorem keysApart_iff (asOfDate : Date) (conduct : Conduct) :
    KeysApart conduct ↔ ((supplied asOfDate conduct).map Prod.fst).Nodup := by
  cases conduct with
  | absent => exact iff_of_true trivial List.nodup_nil
  | record row =>
    refine iff_of_true trivial ?_
    cases row with
    | mk facilityId date days source =>
      cases facilityId with
      | none => exact List.nodup_nil
      | some id => exact List.nodup_singleton _
  | mapping mapping =>
    unfold supplied KeysApart
    rw [List.map_map]
    exact Iff.rfl
  | sequence rows => exact iff_of_true trivial (nodup_keys_groupPairs _)

theorem validatedIdentifier_eq_ok {name : String} {given : Option Identifier} {id : Identifier}
    (validated : validatedIdentifier name given = .ok id) : ∃ raw, given = some raw ∧
      id = raw.trimmed := by
  cases given with
  | none => cases validated
  | some raw =>
    refine ⟨raw, rfl, ?_⟩
    cases raw with
    | text value =>
      simp only [validatedIdentifier] at validated
      split_ifs at validated
      exact (Except.ok.inj validated).symm
    | uuid value => exact (Except.ok.inj validated).symm

/-- An identifier that was validated is validated again as it is. -/
theorem validatedIdentifier_again {name name' : String} {given : Option Identifier}
    {id : Identifier} (validated : validatedIdentifier name given = .ok id) :
    validatedIdentifier name' (some id) = .ok id := by
  cases given with
  | none => cases validated
  | some raw =>
    cases raw with
    | uuid value =>
      cases validated
      rfl
    | text value =>
      simp only [validatedIdentifier] at validated
      split_ifs at validated with blank
      cases validated
      simp only [validatedIdentifier, Text.strip_strip]
      exact if_neg blank

theorem addEntry_eq_ok {asOfDate : Date} {result next : Records}
    {entry : Identifier × ConductValue} (added : addEntry asOfDate result entry = .ok next) :
    next = dictSet result entry.1.trimmed (rowsForMappingValue asOfDate entry.2) := by
  obtain ⟨id, validated, added⟩ := Except.bind_eq_ok_iff.mp added
  obtain ⟨_, _, added⟩ := Except.bind_eq_ok_iff.mp added
  obtain ⟨raw, given, rfl⟩ := validatedIdentifier_eq_ok validated
  cases given
  exact (Except.ok.inj added).symm

theorem addRow_eq_ok {asOfDate : Date} {result next : Records} {row : ConductRow}
    (added : addRow asOfDate result row = .ok next) :
    ∃ raw, row.facilityId = some raw ∧ next = appendToKey raw.trimmed row result := by
  obtain ⟨id, validated, added⟩ := Except.bind_eq_ok_iff.mp added
  obtain ⟨_, _, added⟩ := Except.bind_eq_ok_iff.mp added
  obtain ⟨raw, given, rfl⟩ := validatedIdentifier_eq_ok validated
  simp only at added
  split_ifs at added
  exact ⟨raw, given, (Except.ok.inj added).symm⟩

/-- A mapping's records have the trimmed keys, and its rows where no two keys are one. -/
theorem foldlM_addEntry {asOfDate : Date} {entries : List (Identifier × ConductValue)}
    {result records : Records} (distinct : (result.map Prod.fst).Nodup)
    (returned : entries.foldlM (addEntry asOfDate) result = .ok records) :
    (records.map Prod.fst).Nodup ∧
      (∀ id, id ∈ records.map Prod.fst ↔
        id ∈ result.map Prod.fst ∨ id ∈ entries.map fun entry => entry.1.trimmed) ∧
      ((result.map Prod.fst ++ entries.map fun entry => entry.1.trimmed).Nodup →
        records = result ++ entries.map fun entry =>
          (entry.1.trimmed, rowsForMappingValue asOfDate entry.2)) := by
  induction entries generalizing result with
  | nil =>
    cases returned
    exact ⟨distinct, by simp, by simp⟩
  | cons entry entries ih =>
    obtain ⟨next, added, rest⟩ := foldlM_cons_eq_ok_iff.mp returned
    cases addEntry_eq_ok added
    have keys := keys_dictSet result entry.1.trimmed (rowsForMappingValue asOfDate entry.2)
    have distinct' : ((dictSet result entry.1.trimmed
        (rowsForMappingValue asOfDate entry.2)).map Prod.fst).Nodup := by
      rw [keys]
      split_ifs with listed
      · exact distinct
      · exact List.nodup_append.mpr ⟨distinct, List.nodup_singleton _, fun a member b last same =>
          listed (List.mem_singleton.mp last ▸ same ▸ member)⟩
    obtain ⟨nodup, members, whole⟩ := ih distinct' rest
    refine ⟨nodup, fun id => ?_, fun apart => ?_⟩
    · rw [members, keys, List.map_cons, List.mem_cons]
      split_ifs with listed
      · constructor
        · exact fun given => given.imp_right .inr
        · rintro (given | rfl | given)
          · exact .inl given
          · exact .inl listed
          · exact .inr given
      · rw [List.mem_append, List.mem_singleton, or_assoc]
    · rw [List.map_cons] at apart
      have fresh : entry.1.trimmed ∉ result.map Prod.fst := fun member =>
        List.disjoint_of_nodup_append apart member List.mem_cons_self
      rw [dictSet_of_not_mem _ fresh] at whole
      rw [whole]
      · rw [List.map_cons, List.append_assoc]
        rfl
      · rw [List.map_append, List.append_assoc]
        exact apart

/-- A sequence's records collect the rows of each facility. -/
theorem foldlM_addRow {asOfDate : Date} {rows : List ConductRow} {result records : Records}
    (returned : rows.foldlM (addRow asOfDate) result = .ok records) :
    records = (rows.filterMap fun row => row.facilityId.map fun id => (id.trimmed, row)).foldl
      (fun groups pair => appendToKey pair.1 pair.2 groups) result := by
  induction rows generalizing result with
  | nil =>
    cases returned
    rfl
  | cons row rows ih =>
    obtain ⟨next, added, rest⟩ := foldlM_cons_eq_ok_iff.mp returned
    obtain ⟨raw, given, rfl⟩ := addRow_eq_ok added
    rw [List.filterMap_cons, given, Option.map_some]
    exact ih rest

/-- The records have the supplied facilities as keys, and where no two keys are one they are what
    is supplied. -/
theorem normaliseConduct_eq_ok {asOfDate : Date} {conduct : Conduct} {records : Records}
    (returned : normaliseConduct asOfDate conduct = .ok records) :
    (records.map Prod.fst).Nodup ∧
      (∀ id, id ∈ records.map Prod.fst ↔ id ∈ (supplied asOfDate conduct).map Prod.fst) ∧
      (KeysApart conduct → records = supplied asOfDate conduct) := by
  cases conduct with
  | absent =>
    cases returned
    exact ⟨List.nodup_nil, fun _ => Iff.rfl, fun _ => rfl⟩
  | record row =>
    obtain ⟨id, validated, last⟩ := Except.bind_eq_ok_iff.mp returned
    cases last
    obtain ⟨raw, given, rfl⟩ := validatedIdentifier_eq_ok validated
    have same : supplied asOfDate (.record row) = [(raw.trimmed, [row])] := by
      simp only [supplied, given]
      rfl
    rw [same]
    exact ⟨List.nodup_singleton _, fun _ => Iff.rfl, fun _ => rfl⟩
  | mapping mapping =>
    have empty : (([] : Records).map Prod.fst).Nodup := List.nodup_nil
    obtain ⟨nodup, members, whole⟩ := foldlM_addEntry empty returned
    refine ⟨nodup, fun id => ?_, fun apart => whole apart⟩
    rw [members]
    unfold supplied
    rw [List.map_map]
    simp [Function.comp_def]
  | sequence rows =>
    have same : records = supplied asOfDate (.sequence rows) := foldlM_addRow returned
    rw [same]
    exact ⟨nodup_keys_groupPairs _, fun _ => Iff.rfl, fun _ => rfl⟩

/-! ## What is derived -/

theorem uniqueGiven_eq_ok {result values expected : List Identifier}
    (distinct : result.Nodup) (returned : uniqueGiven result values = .ok expected) :
    expected = result ++ values.map Identifier.trimmed ∧ expected.Nodup ∧
      ∀ value ∈ values, validatedIdentifier "facility_id" (some value) = .ok value.trimmed := by
  induction values generalizing result with
  | nil =>
    cases returned
    exact ⟨(List.append_nil _).symm, distinct, nofun⟩
  | cons value values ih =>
    obtain ⟨id, validated, rest⟩ := Except.bind_eq_ok_iff.mp returned
    obtain ⟨raw, given, rfl⟩ := validatedIdentifier_eq_ok validated
    cases given
    split_ifs at rest with listed
    have extended : (result ++ [value.trimmed]).Nodup :=
      List.nodup_append.mpr ⟨distinct, List.nodup_singleton _, fun a member b last same =>
        listed (List.mem_singleton.mp last ▸ same ▸ member)⟩
    obtain ⟨same, nodup, checked⟩ := ih extended rest
    refine ⟨?_, nodup, ?_⟩
    · rw [same, List.append_assoc]
      rfl
    · intro other member
      rcases List.mem_cons.mp member with rfl | member
      · exact validated
      · exact checked other member

/-- The expected facilities come first, then the others in the order of their records. -/
theorem addNew_eq {records : Records} (expected : List Identifier)
    (distinct : (records.map Prod.fst).Nodup) :
    addNew expected records =
      expected ++ (records.map Prod.fst).filter fun id => id ∉ expected := by
  unfold addNew
  induction records generalizing expected with
  | nil => exact (List.append_nil _).symm
  | cons entry records ih =>
    rw [List.map_cons, List.nodup_cons] at distinct
    rw [List.foldl_cons, List.map_cons, List.filter_cons]
    by_cases listed : entry.1 ∈ expected
    · rw [if_pos listed, ih expected distinct.2, if_neg (by simpa using listed)]
    · rw [if_neg listed, ih _ distinct.2, if_pos (by simpa using listed), List.append_assoc]
      refine congrArg (expected ++ entry.1 :: ·) ?_
      apply List.filter_congr
      intro id member
      have other : id ≠ entry.1 := fun same => distinct.1 (same ▸ member)
      simp [other]

theorem addNew_nodup {records : Records} {expected : List Identifier} (unique : expected.Nodup)
    (distinct : (records.map Prod.fst).Nodup) : (addNew expected records).Nodup := by
  rw [addNew_eq expected distinct, List.nodup_append]
  refine ⟨unique, distinct.filter _, ?_⟩
  rintro id member _ kept rfl
  have apart := (List.mem_filter.mp kept).2
  simp only [decide_eq_true_eq] at apart
  exact apart member

theorem mem_addNew {records : Records} {expected : List Identifier}
    (distinct : (records.map Prod.fst).Nodup) {id : Identifier} :
    id ∈ addNew expected records ↔ id ∈ expected ∨ id ∈ records.map Prod.fst := by
  rw [addNew_eq expected distinct, List.mem_append, List.mem_filter, decide_eq_true_eq]
  by_cases listed : id ∈ expected <;> simp [listed]

/-- Expected facilities nothing is supplied for. -/
def unsupplied (records : Records) (expected : List Identifier) : List Identifier :=
  expected.filter fun id => id ∉ records.map Prod.fst

theorem mem_unsupplied {records : Records} {expected : List Identifier} {id : Identifier} :
    id ∈ unsupplied records expected ↔ id ∈ expected ∧ id ∉ records.map Prod.fst := by
  unfold unsupplied
  rw [List.mem_filter, decide_eq_true_eq]

theorem ownDerivation_nil {asOfDate : Date} {name : String} {given : Option Identifier}
    {id : Identifier} (validated : validatedIdentifier name given = .ok id) :
    ownDerivation asOfDate (id, []) = .ok (missingDerivation asOfDate id) := by
  have again := @validatedIdentifier_again _ "facility_id" _ _ validated
  have selected : selectRow [] asOfDate = .ok none := rfl
  unfold ownDerivation deriveFacility
  simp only [selected, again]
  rfl

theorem dictGet_of_not_mem {α β : Type} [DecidableEq α] {entries : List (α × β)} {key : α}
    (fresh : key ∉ entries.map Prod.fst) : dictGet entries key = none := by
  unfold dictGet
  rw [Option.map_eq_none_iff, List.find?_eq_none]
  intro entry member same
  rw [decide_eq_true_eq] at same
  exact fresh (same ▸ List.mem_map_of_mem member)

theorem rollUpAll_facilities (borrowerId : Option Identifier) (asOfDate : Date)
    (items : List FacilityDerivation) :
    (rollUpAll borrowerId asOfDate items).facilities = items := by
  unfold rollUpAll
  cases worst : maxBy SmaBand.severity (items.map FacilityDerivation.band) with
  | none => exact (List.map_eq_nil_iff.mp (maxBy_eq_none.mp worst)).symm
  | some band => rfl

/-- The band is the worst of the facilities', and `none` without any. -/
theorem rollUpAll_band (borrowerId : Option Identifier) (asOfDate : Date)
    (items : List FacilityDerivation) :
    (∀ item ∈ items, item.band.severity ≤ (rollUpAll borrowerId asOfDate items).band.severity) ∧
      ((rollUpAll borrowerId asOfDate items).band = .none ∨
        ∃ item ∈ items, item.band = (rollUpAll borrowerId asOfDate items).band) := by
  unfold rollUpAll
  cases worst : maxBy SmaBand.severity (items.map FacilityDerivation.band) with
  | none =>
    have empty := List.map_eq_nil_iff.mp (maxBy_eq_none.mp worst)
    exact ⟨by simp [empty], .inl rfl⟩
  | some band =>
    constructor
    · intro item member
      exact le_key_maxBy worst (List.mem_map_of_mem member)
    · obtain ⟨item, member, same⟩ := List.mem_map.mp (maxBy_mem worst)
      exact .inr ⟨item, member, same⟩

theorem deriveBorrower_eq_ok {conduct : Conduct} {asOfDate : Date} {borrowerId : Option Identifier}
    {facilityIds : List Identifier} {result : BorrowerDerivation}
    (returned : deriveBorrower conduct asOfDate borrowerId facilityIds = .ok result) :
    ∃ borrower expected records items, uniqueGiven [] facilityIds = .ok expected ∧
      normaliseConduct asOfDate conduct = .ok records ∧
      ((addNew expected records).mapM fun facilityId =>
        ownDerivation asOfDate (facilityId, (dictGet records facilityId).getD [])) = .ok items ∧
      result = rollUpAll borrower asOfDate items := by
  obtain ⟨borrower, _, returned⟩ := Except.bind_eq_ok_iff.mp returned
  obtain ⟨expected, unique, returned⟩ := Except.bind_eq_ok_iff.mp returned
  obtain ⟨records, normalised, returned⟩ := Except.bind_eq_ok_iff.mp returned
  obtain ⟨items, derived, returned⟩ := Except.bind_eq_ok_iff.mp returned
  exact ⟨borrower, expected, records, items, unique, normalised, derived,
    (Except.ok.inj returned).symm⟩

/-! ## Each facility once -/

/-- Every facility that is supplied is derived once from its own rows, and every other expected
    one once without conduct. -/
def EachOnce (conduct : Conduct) (asOfDate : Date) (facilityIds : List Identifier)
    (result : BorrowerDerivation) : Prop :=
  ∃ items, (supplied asOfDate conduct).mapM (ownDerivation asOfDate) = .ok items ∧
    result.facilities.Perm (items ++ (unsupplied (supplied asOfDate conduct)
      (facilityIds.map Identifier.trimmed)).map (missingDerivation asOfDate))

/-- The borrower's band is the worst of the supplied facilities'. -/
def WorstOf (conduct : Conduct) (asOfDate : Date) (result : BorrowerDerivation) : Prop :=
  ∃ items, (supplied asOfDate conduct).mapM (ownDerivation asOfDate) = .ok items ∧
    (∀ item ∈ items, item.band.severity ≤ result.band.severity) ∧
    (result.band = .none ∨ ∃ item ∈ items, item.band = result.band)

section

variable {conduct conduct' : Conduct} {asOfDate : Date} {borrowerId borrowerId' : Option Identifier}
  {facilityIds facilityIds' : List Identifier} {result result' : BorrowerDerivation}

theorem eachOnce_of_keysApart (apart : KeysApart conduct)
    (returned : deriveBorrower conduct asOfDate borrowerId facilityIds = .ok result) :
    EachOnce conduct asOfDate facilityIds result := by
  obtain ⟨borrower, expected, records, items, unique, normalised, derived, rfl⟩ :=
    deriveBorrower_eq_ok returned
  obtain ⟨distinct, _, whole⟩ := normaliseConduct_eq_ok normalised
  obtain ⟨same, expectedNodup, checked⟩ := uniqueGiven_eq_ok List.nodup_nil unique
  rw [List.nil_append] at same
  subst same
  cases whole apart
  have order : (addNew (facilityIds.map Identifier.trimmed) (supplied asOfDate conduct)).Perm
      ((supplied asOfDate conduct).map Prod.fst ++
        unsupplied (supplied asOfDate conduct) (facilityIds.map Identifier.trimmed)) := by
    rw [List.perm_ext_iff_of_nodup (addNew_nodup expectedNodup distinct)]
    · intro id
      rw [mem_addNew distinct, List.mem_append, mem_unsupplied]
      by_cases listed : id ∈ (supplied asOfDate conduct).map Prod.fst <;> simp [listed]
    · refine List.nodup_append.mpr ⟨distinct, expectedNodup.filter _, ?_⟩
      rintro id member _ kept rfl
      exact (mem_unsupplied.mp kept).2 member
  obtain ⟨others, derived', perm⟩ := mapM_perm order derived
  rw [List.mapM_append] at derived'
  obtain ⟨own, first, rest⟩ := Except.bind_eq_ok_iff.mp derived'
  obtain ⟨missing, second, last⟩ := Except.bind_eq_ok_iff.mp rest
  cases last
  refine ⟨own, ?_, ?_⟩
  · rw [← first, List.mapM_map]
    refine mapM_congr_forall₂ (R := Eq) (List.forall₂_refl _) ?_
    rintro entry member _ rfl
    rw [Function.comp_apply, dictGet_of_mem distinct member]
    rfl
  · rw [rollUpAll_facilities]
    have absent : missing = (unsupplied (supplied asOfDate conduct)
        (facilityIds.map Identifier.trimmed)).map (missingDerivation asOfDate) := by
      have each : ∀ id ∈ unsupplied (supplied asOfDate conduct)
          (facilityIds.map Identifier.trimmed),
          ownDerivation asOfDate (id, (dictGet (supplied asOfDate conduct) id).getD []) =
            .ok (missingDerivation asOfDate id) := by
        intro id member
        obtain ⟨listed, fresh⟩ := mem_unsupplied.mp member
        obtain ⟨value, given, rfl⟩ := List.mem_map.mp listed
        rw [dictGet_of_not_mem fresh, Option.getD_none]
        exact ownDerivation_nil (checked value given)
      have all := mapM_eq_ok_iff.mpr (List.forall₂_map_right_iff.mpr (List.forall₂_same.mpr each))
      exact Except.ok.inj (second.symm.trans all)
    rw [absent] at perm
    exact perm

/-- Where two keys are one, there are fewer derivations than facilities. -/
theorem keysApart_of_eachOnce
    (returned : deriveBorrower conduct asOfDate borrowerId facilityIds = .ok result)
    (once : EachOnce conduct asOfDate facilityIds result) : KeysApart conduct := by
  obtain ⟨borrower, expected, records, items, unique, normalised, derived, rfl⟩ :=
    deriveBorrower_eq_ok returned
  obtain ⟨distinct, members, _⟩ := normaliseConduct_eq_ok normalised
  obtain ⟨same, expectedNodup, _⟩ := uniqueGiven_eq_ok List.nodup_nil unique
  rw [List.nil_append] at same
  subst same
  obtain ⟨own, each, perm⟩ := once
  rw [rollUpAll_facilities] at perm
  have count : (addNew (facilityIds.map Identifier.trimmed) records).length =
      ((supplied asOfDate conduct).map Prod.fst ++ unsupplied (supplied asOfDate conduct)
        (facilityIds.map Identifier.trimmed)).length := by
    rw [(mapM_eq_ok_iff.mp derived).length_eq, perm.length_eq, List.length_append,
      List.length_append, List.length_map, List.length_map, (mapM_eq_ok_iff.mp each).length_eq]
  have within : addNew (facilityIds.map Identifier.trimmed) records ⊆
      (supplied asOfDate conduct).map Prod.fst ++ unsupplied (supplied asOfDate conduct)
        (facilityIds.map Identifier.trimmed) := by
    intro id member
    rw [List.mem_append, mem_unsupplied]
    rw [mem_addNew distinct, members] at member
    by_cases listed : id ∈ (supplied asOfDate conduct).map Prod.fst
    · exact .inl listed
    · exact .inr ⟨member.resolve_right listed, listed⟩
  have whole := ((addNew_nodup expectedNodup distinct).subperm within).perm_of_length_le count.ge
  rw [keysApart_iff asOfDate]
  exact (whole.nodup_iff.mp (addNew_nodup expectedNodup distinct)).of_append_left

theorem worstOf_of_eachOnce
    (returned : deriveBorrower conduct asOfDate borrowerId facilityIds = .ok result)
    (once : EachOnce conduct asOfDate facilityIds result) : WorstOf conduct asOfDate result := by
  obtain ⟨borrower, expected, records, items, _, _, _, rfl⟩ := deriveBorrower_eq_ok returned
  obtain ⟨own, each, perm⟩ := once
  rw [rollUpAll_facilities] at perm
  obtain ⟨largest, reached⟩ := rollUpAll_band borrower asOfDate items
  refine ⟨own, each, fun item member => ?_, ?_⟩
  · exact largest item (perm.mem_iff.mpr (List.mem_append_left _ member))
  · rcases reached with none | ⟨item, member, same⟩
    · exact .inl none
    · rcases List.mem_append.mp (perm.mem_iff.mp member) with member | missing
      · exact .inr ⟨item, member, same⟩
      · obtain ⟨id, _, rfl⟩ := List.mem_map.mp missing
        exact .inl same.symm

end

/-! ## Worse conduct -/

/-- The same row with as many days past due or more. -/
def Raised (row row' : ConductRow) : Prop :=
  row'.asOfDate = row.asOfDate ∧
    ∀ days ∈ row.daysPastDue, ∃ days' ∈ row'.daysPastDue, days ≤ days'

/-- Every facility is still supplied, with rows whose days past due have not fallen; others may
    have been added. -/
def Worsened (asOfDate : Date) (conduct conduct' : Conduct) : Prop :=
  ∀ entry ∈ supplied asOfDate conduct, ∃ entry' ∈ supplied asOfDate conduct',
    entry'.1 = entry.1 ∧ List.Forall₂ Raised entry.2 entry'.2

theorem severity_smaBand_mono {days days' : Nat} (more : days ≤ days') :
    (smaBand days).severity ≤ (smaBand days').severity := by
  unfold smaBand
  split_ifs <;> simp only [SmaBand.severity] <;> omega

/-- The band a selected row leads to. -/
def rowBand (asOfDate : Date) : Option ConductRow → SmaBand
  | none => .none
  | some row =>
    if row.asOfDate.isSome ∧ row.asOfDate ≠ some asOfDate then .none
    else (row.daysPastDue.map fun days => smaBand days.toNat).getD .none

theorem deriveFacility_band {selected : Option ConductRow} {facilityId : Identifier}
    {asOfDate : Date} {item : FacilityDerivation}
    (returned : deriveFacility selected facilityId asOfDate = .ok item) :
    item.band = rowBand asOfDate selected := by
  obtain ⟨validated, _, returned⟩ := Except.bind_eq_ok_iff.mp returned
  cases selected with
  | none =>
    cases returned
    rfl
  | some row =>
    simp only at returned
    unfold rowBand
    simp only
    split_ifs at returned ⊢ with undated
    · obtain ⟨source, _, last⟩ := Except.bind_eq_ok_iff.mp returned
      cases last
      rfl
    · cases given : row.daysPastDue with
      | none =>
        rw [given] at returned
        obtain ⟨source, _, last⟩ := Except.bind_eq_ok_iff.mp returned
        cases last
        rfl
      | some days =>
        rw [given] at returned
        cases days with
        | negSucc n => cases returned
        | ofNat n =>
          obtain ⟨source, _, last⟩ := Except.bind_eq_ok_iff.mp returned
          cases last
          rfl

theorem rowBand_mono {asOfDate : Date} {row row' : ConductRow} (raised : Raised row row') :
    (rowBand asOfDate (some row)).severity ≤ (rowBand asOfDate (some row')).severity := by
  obtain ⟨dated, more⟩ := raised
  unfold rowBand
  simp only [dated]
  split_ifs
  · exact le_rfl
  · cases given : row.daysPastDue with
    | none => exact Nat.zero_le _
    | some days =>
      obtain ⟨days', given', grown⟩ := more days given
      rw [given', Option.map_some, Option.map_some, Option.getD_some, Option.getD_some]
      exact severity_smaBand_mono (Int.toNat_le_toNat grown)

theorem head?_cases {R : ConductRow → ConductRow → Prop} {rows rows' : List ConductRow}
    (pairs : List.Forall₂ R rows rows') :
    (rows.head? = none ∧ rows'.head? = none) ∨
      ∃ row row', rows.head? = some row ∧ rows'.head? = some row' ∧ R row row' := by
  cases pairs with
  | nil => exact .inl ⟨rfl, rfl⟩
  | cons first rest => exact .inr ⟨_, _, rfl, rfl, first⟩

/-- Rows that were raised are selected alike. -/
theorem selectRow_cases {asOfDate : Date} {rows rows' : List ConductRow}
    {selected selected' : Option ConductRow} (raised : List.Forall₂ Raised rows rows')
    (returned : selectRow rows asOfDate = .ok selected)
    (returned' : selectRow rows' asOfDate = .ok selected') :
    selected = none ∨ ∃ row row', selected = some row ∧ selected' = some row' ∧
      Raised row row' := by
  have kept : ∀ date : Option Date, List.Forall₂ Raised (rows.filter fun row => row.asOfDate = date)
      (rows'.filter fun row => row.asOfDate = date) := by
    intro date
    refine List.rel_filter ?_ raised
    intro row row' both
    simp only [both.1]
  unfold selectRow at returned returned'
  simp only at returned returned'
  split_ifs at returned returned'
  cases returned
  cases returned'
  rcases head?_cases (kept (some asOfDate)) with ⟨none, none'⟩ | ⟨row, row', first, first', both⟩
  · rw [none, none', Option.none_or, Option.none_or]
    rcases head?_cases (kept Option.none) with ⟨empty, _⟩ | ⟨row, row', first, first', both⟩
    · exact .inl empty
    · exact .inr ⟨row, row', first, first', both⟩
  · rw [first, first', Option.some_or, Option.some_or]
    exact .inr ⟨row, row', rfl, rfl, both⟩

theorem ownDerivation_mono {asOfDate : Date} {entry entry' : Identifier × List ConductRow}
    {item item' : FacilityDerivation} (raised : List.Forall₂ Raised entry.2 entry'.2)
    (returned : ownDerivation asOfDate entry = .ok item)
    (returned' : ownDerivation asOfDate entry' = .ok item') :
    item.band.severity ≤ item'.band.severity := by
  obtain ⟨selected, chosen, made⟩ := Except.bind_eq_ok_iff.mp returned
  obtain ⟨selected', chosen', made'⟩ := Except.bind_eq_ok_iff.mp returned'
  rw [deriveFacility_band made, deriveFacility_band made']
  rcases selectRow_cases raised chosen chosen' with rfl | ⟨row, row', rfl, rfl, both⟩
  · exact Nat.zero_le _
  · exact rowBand_mono both

section

variable {conduct conduct' : Conduct} {asOfDate : Date} {borrowerId borrowerId' : Option Identifier}
  {facilityIds facilityIds' : List Identifier} {result result' : BorrowerDerivation}

/-- Worse conduct never leads to a better band. -/
theorem worstOf_mono (worst : WorstOf conduct asOfDate result)
    (worst' : WorstOf conduct' asOfDate result') (worsened : Worsened asOfDate conduct conduct') :
    result.band.severity ≤ result'.band.severity := by
  obtain ⟨items, each, _, reached⟩ := worst
  obtain ⟨items', each', largest, _⟩ := worst'
  rcases reached with none | ⟨item, member, same⟩
  · rw [none]
    exact Nat.zero_le _
  · obtain ⟨entry, listed, made⟩ := (forall₂_exists (mapM_eq_ok_iff.mp each)).2 item member
    obtain ⟨entry', listed', _, raised⟩ := worsened entry listed
    obtain ⟨item', member', made'⟩ := (forall₂_exists (mapM_eq_ok_iff.mp each')).1 entry' listed'
    rw [← same]
    exact (ownDerivation_mono raised made made').trans (largest item' member')

/-- Every supplied facility is derived once and the band is the worst of theirs, exactly when no
    two keys of a mapping are one after trimming; and under that condition worse conduct never
    leads to a better band. -/
theorem deriveBorrower_iff
    (returned : deriveBorrower conduct asOfDate borrowerId facilityIds = .ok result) :
    (EachOnce conduct asOfDate facilityIds result ∧ WorstOf conduct asOfDate result ↔
      KeysApart conduct) ∧
    (KeysApart conduct → ∀ conduct' borrowerId' facilityIds' result', KeysApart conduct' →
      Worsened asOfDate conduct conduct' →
      deriveBorrower conduct' asOfDate borrowerId' facilityIds' = .ok result' →
        result.band.severity ≤ result'.band.severity) := by
  refine ⟨⟨fun both => keysApart_of_eachOnce returned both.1, fun apart => ?_⟩, ?_⟩
  · have once := eachOnce_of_keysApart apart returned
    exact ⟨once, worstOf_of_eachOnce returned once⟩
  · intro apart conduct' borrowerId' facilityIds' result' apart' worsened returned'
    have once := eachOnce_of_keysApart apart returned
    have once' := eachOnce_of_keysApart apart' returned'
    exact worstOf_mono (worstOf_of_eachOnce returned once) (worstOf_of_eachOnce returned' once')
      worsened

end

/-- A facility with ninety-five days past due, and the same one, with white space around its
    name, with none. -/
theorem overwritten_facility :
    ¬ ∀ (conduct : Conduct) (asOfDate : Date) (borrowerId : Option Identifier)
      (facilityIds : List Identifier) (result : BorrowerDerivation),
      deriveBorrower conduct asOfDate borrowerId facilityIds = .ok result →
        EachOnce conduct asOfDate facilityIds result ∧ WorstOf conduct asOfDate result := by
  intro claimed
  have may : 1 ≤ 2026 ∧ 2026 ≤ 9999 ∧ 1 ≤ 5 ∧ 5 ≤ 12 ∧ 1 ≤ 1 ∧ 1 ≤ daysInMonth 2026 5 := by decide
  obtain ⟨items, each, largest, _⟩ := (claimed
    (.mapping ⟨[(.text "F1".toList, .row ⟨none, none, some 95, none⟩),
      (.text " F1 ".toList, .row ⟨none, none, some 0, none⟩)], by decide⟩)
    ⟨2026, 5, 1, may⟩ none []
    ⟨none, ⟨2026, 5, 1, may⟩, .none,
      [⟨.text "F1".toList, ⟨2026, 5, 1, may⟩, .none, some 0, none, none⟩], none⟩ rfl).2
  cases each
  have worse : SmaBand.beyond.severity ≤ SmaBand.none.severity := largest _ List.mem_cons_self
  exact absurd worse (by decide)

/-- One facility with one row, given as a mapping. -/
theorem deriveBorrower_single :
    ∃ conduct asOfDate result, deriveBorrower conduct asOfDate none [] = .ok result ∧
      (EachOnce conduct asOfDate [] result ∧ WorstOf conduct asOfDate result ↔
        KeysApart conduct) ∧
      (KeysApart conduct → ∀ conduct' borrowerId' facilityIds' result', KeysApart conduct' →
        Worsened asOfDate conduct conduct' →
        deriveBorrower conduct' asOfDate borrowerId' facilityIds' = .ok result' →
          result.band.severity ≤ result'.band.severity) :=
  have may : 1 ≤ 2026 ∧ 2026 ≤ 9999 ∧ 1 ≤ 5 ∧ 5 ≤ 12 ∧ 1 ≤ 1 ∧ 1 ≤ daysInMonth 2026 5 := by decide
  have returned : deriveBorrower
      (.mapping ⟨[(.text "F1".toList, .row ⟨none, none, some 95, none⟩)], by decide⟩)
      ⟨2026, 5, 1, may⟩ none [] =
      .ok ⟨none, ⟨2026, 5, 1, may⟩, .beyond,
        [⟨.text "F1".toList, ⟨2026, 5, 1, may⟩, .beyond, some 95, none, none⟩], none⟩ := rfl
  ⟨_, _, _, returned, deriveBorrower_iff returned⟩

end CovenantRadar.Sma
