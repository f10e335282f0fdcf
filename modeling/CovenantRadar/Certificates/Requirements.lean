import CovenantRadar.Covenants.Cure

/-!
# Certificate requirements

Source `domain/certificates/requirements.py`: the check of a lead time against the
testing frequency, and the grouping of open occurrences into requirements that are
raised a lead time before they are due.
-/

namespace CovenantRadar.Certificates

open Covenants

/-- What `derive_requirements` raises: a `ValidationError`, or `OverflowError` out of the
    range of dates. -/
inductive RequirementError where
  | validation (error : ValidationError)
  | overflow (message : Text)
  deriving DecidableEq, Repr

/-- Source `CERTIFICATE_TEST_BASIS`. -/
def certificateTestBasis : Text := "certificate".toList

/-- Source `validate_lead_time_days`. -/
def validateLeadTimeDays (frequency : Text) (leadTimeDays : Int) : Except RequirementError Unit :=
  if frequency = [] then
    .error (.validation ⟨"covenant_version.frequency is required.".toList, "frequency".toList⟩)
  else if leadTimeDays ≤ 0 then
    .error (.validation ⟨"certificate lead_time_days must be a ".toList ++
      "positive integer.".toList, "lead_time_days".toList⟩)
  else if frequency = "on_event".toList then .ok ()
  else
    match dictGet frequencyWindowDays frequency with
    | none => .error (.validation ⟨"Cannot validate certificate lead time for ".toList ++
        "unknown frequency ".toList ++ Text.repr frequency ++ ".".toList, "frequency".toList⟩)
    | some window =>
      if window ≤ leadTimeDays then
        .error (.validation ⟨"The certificate lead time of ".toList ++ Text.ofInt leadTimeDays ++
          " days is not shorter than the ".toList ++ frequency ++ " testing frequency (".toList ++
          Text.ofNat window ++ " days); it would request a certificate ".toList ++
          "before the covenant's own previous ".toList ++
          "testing cycle could have closed.".toList, "lead_time_days".toList⟩)
      else .ok ()

/-- Source `ScheduleCertificateCandidate`, as far as `derive_requirements` reads it. -/
structure ScheduleCertificateCandidate where
  scheduleId : Uuid
  borrowerId : Uuid
  dueDate : Date
  frequency : Text
  testBasis : Text
  frequencySet : frequency ≠ []
  testBasisSet : testBasis ≠ []
  deriving DecidableEq

/-- Source `CertificateRequirement`: it covers at least one occurrence. -/
structure CertificateRequirement where
  borrowerId : Uuid
  dueDate : Date
  raiseOn : Date
  covenantScheduleIds : List Uuid
  covers : covenantScheduleIds ≠ []
  deriving DecidableEq

namespace CertificateRequirement

/-- Source `CertificateRequirement.__post_init__`. -/
def make (borrowerId : Uuid) (dueDate raiseOn : Date) (covenantScheduleIds : List Uuid) :
    Except RequirementError CertificateRequirement :=
  if covers : covenantScheduleIds ≠ [] then
    .ok ⟨borrowerId, dueDate, raiseOn, covenantScheduleIds, covers⟩
  else
    .error (.validation ⟨"A certificate requirement must cover at ".toList ++
      "least one schedule occurrence.".toList, "covenant_schedule_ids".toList⟩)

/-- Source `CertificateRequirement.anchor_schedule_id`. -/
def anchorScheduleId (requirement : CertificateRequirement) : Uuid :=
  requirement.covenantScheduleIds.head requirement.covers

/-- The key the requirements are sorted by; a UUID's bytes compare like its integer. -/
def sortKey (requirement : CertificateRequirement) : Date ×ₗ ℕ ×ₗ ℕ :=
  toLex (requirement.dueDate, toLex (requirement.borrowerId.int, requirement.anchorScheduleId.int))

end CertificateRequirement

/-- `due_date - timedelta(days=lead_time_days)`, for a positive lead time. -/
def raiseDate (dueDate : Date) (leadTimeDays : Int) : Except RequirementError Date :=
  if 999999999 < leadTimeDays then
    .error (.overflow ("days=".toList ++ Text.ofInt leadTimeDays ++
      "; must have magnitude <= 999999999".toList))
  else
    match dueDate.subDays leadTimeDays.toNat with
    | none => .error (.overflow "date value out of range".toList)
    | some date => .ok date

/-- The requirement of one group of occurrences, once its lead time has elapsed. -/
def groupRequirement (leadTimeDays : Int) (asOf : Date) (group : (Uuid × Date) × List Uuid) :
    Except RequirementError (Option CertificateRequirement) := do
  let raiseOn ← raiseDate group.1.2 leadTimeDays
  if asOf < raiseOn then .ok none
  else
    let orderedIds := group.2.insertionSort fun a b => a.int ≤ b.int
    (CertificateRequirement.make group.1.1 group.1.2 raiseOn orderedIds).map some

/-- The occurrences that need a certificate. -/
def certificateCandidates (candidates : List ScheduleCertificateCandidate) :
    List ScheduleCertificateCandidate :=
  candidates.filter fun candidate => candidate.testBasis = certificateTestBasis

/-- Source `derive_requirements`. -/
def deriveRequirements (candidates : List ScheduleCertificateCandidate) (leadTimeDays : Int)
    (asOf : Date) : Except RequirementError (List CertificateRequirement) := do
  let certificates := certificateCandidates candidates
  certificates.forM fun candidate => validateLeadTimeDays candidate.frequency leadTimeDays
  let groups := groupPairs (certificates.map fun candidate =>
    ((candidate.borrowerId, candidate.dueDate), candidate.scheduleId))
  let requirements ← groups.mapM (groupRequirement leadTimeDays asOf)
  .ok ((requirements.filterMap id).insertionSort fun a b => a.sortKey ≤ b.sortKey)

/-! ## What is derived -/

/-- A lead time is accepted on the nominal length of a period. -/
theorem window_of_validateLeadTimeDays {frequency : Text} {leadTimeDays : Int}
    (accepted : validateLeadTimeDays frequency leadTimeDays = .ok ()) :
    0 < leadTimeDays ∧ (frequency = "on_event".toList ∨
      ∃ window, (frequency, window) ∈ frequencyWindowDays ∧ leadTimeDays < window) := by
  unfold validateLeadTimeDays at accepted
  split_ifs at accepted with blank early event
  · exact ⟨not_le.mp early, Or.inl event⟩
  · refine ⟨not_le.mp early, Or.inr ?_⟩
    cases found : dictGet frequencyWindowDays frequency with
    | none =>
      rw [found] at accepted
      cases accepted
    | some window =>
      rw [found] at accepted
      simp only at accepted
      split_ifs at accepted with long
      exact ⟨window, mem_of_dictGet found, not_le.mp long⟩

theorem toOrdinal_raiseDate {dueDate raiseOn : Date} {leadTimeDays : Int}
    (positive : 0 < leadTimeDays) (computed : raiseDate dueDate leadTimeDays = .ok raiseOn) :
    (dueDate.toOrdinal : Int) = raiseOn.toOrdinal + leadTimeDays := by
  unfold raiseDate at computed
  split_ifs at computed with huge
  cases shifted : dueDate.subDays leadTimeDays.toNat with
  | none =>
    rw [shifted] at computed
    cases computed
  | some date =>
    rw [shifted] at computed
    cases computed
    have days := Date.toOrdinal_subDays shifted
    omega

theorem groupRequirement_eq_ok_some {leadTimeDays : Int} {asOf : Date}
    {group : (Uuid × Date) × List Uuid} {requirement : CertificateRequirement}
    (computed : groupRequirement leadTimeDays asOf group = .ok (some requirement)) :
    raiseDate group.1.2 leadTimeDays = .ok requirement.raiseOn ∧ requirement.raiseOn ≤ asOf ∧
      requirement.borrowerId = group.1.1 ∧ requirement.dueDate = group.1.2 ∧
        requirement.covenantScheduleIds = group.2.insertionSort fun a b => a.int ≤ b.int := by
  obtain ⟨raiseOn, raised, rest⟩ := Except.bind_eq_ok_iff.mp computed
  split_ifs at rest with later
  · cases rest
  · simp only [CertificateRequirement.make] at rest
    split_ifs at rest with covers
    · cases rest
      exact ⟨raised, not_lt.mp later, rfl, rfl, rfl⟩
    · cases rest

/-- A requirement covers exactly the certificate occurrences of its borrower and due
    date, and is raised the lead time before. -/
theorem mem_deriveRequirements {candidates : List ScheduleCertificateCandidate}
    {leadTimeDays : Int} {asOf : Date} {requirements : List CertificateRequirement}
    (derived : deriveRequirements candidates leadTimeDays asOf = .ok requirements)
    {requirement : CertificateRequirement} (member : requirement ∈ requirements) :
    raiseDate requirement.dueDate leadTimeDays = .ok requirement.raiseOn ∧
      requirement.raiseOn ≤ asOf ∧ requirement.covenantScheduleIds.Perm
        (((certificateCandidates candidates).filter fun candidate =>
          candidate.borrowerId = requirement.borrowerId ∧
            candidate.dueDate = requirement.dueDate).map
              ScheduleCertificateCandidate.scheduleId) := by
  obtain ⟨_, _, rest⟩ := Except.bind_eq_ok_iff.mp derived
  obtain ⟨computed, mapped, last⟩ := Except.bind_eq_ok_iff.mp rest
  cases last
  rw [List.mem_insertionSort, List.mem_filterMap] at member
  obtain ⟨found, listed, same⟩ := member
  cases same
  obtain ⟨⟨key, ids⟩, grouped, requirementOf⟩ := (forall₂_exists (mapM_eq_ok_iff.mp mapped)).2 _ listed
  obtain ⟨raised, due, borrower, date, sorted⟩ := groupRequirement_eq_ok_some requirementOf
  obtain ⟨_, values⟩ := mem_groupPairs.mp grouped
  have sameKey : (certificateCandidates candidates).filter (fun candidate =>
      (candidate.borrowerId, candidate.dueDate) = key) =
        (certificateCandidates candidates).filter fun candidate =>
          candidate.borrowerId = requirement.borrowerId ∧
            candidate.dueDate = requirement.dueDate := by
    apply List.filter_congr
    intro candidate _
    rw [borrower, date, decide_eq_decide]
    exact Prod.ext_iff
  rw [List.filter_map, List.map_map] at values
  refine ⟨date ▸ raised, due, ?_⟩
  rw [sorted, ← sameKey]
  exact (List.perm_insertionSort _ _).trans (List.Perm.of_eq values)

theorem validated_of_derived {candidates : List ScheduleCertificateCandidate}
    {leadTimeDays : Int} {asOf : Date} {requirements : List CertificateRequirement}
    (derived : deriveRequirements candidates leadTimeDays asOf = .ok requirements)
    {candidate : ScheduleCertificateCandidate} (member : candidate ∈ certificateCandidates candidates) :
    validateLeadTimeDays candidate.frequency leadTimeDays = .ok () := by
  obtain ⟨_, validated, _⟩ := Except.bind_eq_ok_iff.mp derived
  exact forM_eq_ok_iff.mp validated candidate member

/-! ## Reminders and the period before -/

/-- The days of `cycle` months after the month with this residue, in a common year. -/
def shortCycle (cycle residue : Nat) : Nat :=
  ((List.range cycle).map fun k => Date.shortMonth (residue + 1 + k)).sum

private theorem shortCycle_bounds :
    (∀ residue < 12, 89 ≤ shortCycle 3 residue) ∧ (∀ residue < 12, 181 ≤ shortCycle 6 residue) ∧
      ∀ residue < 12, 365 ≤ shortCycle 12 residue := by decide

/-- A month end on the 28th is that of February in a common year. -/
theorem month_of_day_28 {d : Date} (last : d.IsMonthEnd) (short : d.day = 28) : d.month = 2 := by
  by_contra other
  rw [Date.IsMonthEnd, daysInMonth, if_neg other] at last
  split_ifs at last <;> omega

/-- A lead time accepted for a frequency ends inside the period before the boundary in
    one case only: 29 days before the end of February in a common year. -/
theorem fits_iff_of_validateLeadTimeDays {frequency : Text} {leadTimeDays : Int}
    (accepted : validateLeadTimeDays frequency leadTimeDays = .ok ())
    {fiscalYearStartMonth : Int} {start finish before after : Date} {front back : List Date}
    (boundary : periodEndDates frequency fiscalYearStartMonth start finish =
      .ok (front ++ before :: after :: back)) :
    (before.toOrdinal : Int) + leadTimeDays ≤ after.toOrdinal ↔
      ¬ (frequency = "monthly".toList ∧ leadTimeDays = 29 ∧ after.month = 2 ∧ after.day = 28) := by
  obtain ⟨cycle, known, endBefore, endAfter, index, _⟩ := periodEndDates_consecutive boundary
  obtain ⟨_, event | ⟨window, listed, short⟩⟩ := window_of_validateLeadTimeDays accepted
  · rw [event] at boundary
    unfold periodEndDates at boundary
    rw [if_pos rfl] at boundary
    cases boundary
  have first := before.monthIndex_bounds.1
  have days := (Date.endOrdinal_add first cycle).1
  rw [← index, ← Date.toOrdinal_of_isMonthEnd endBefore, ← Date.toOrdinal_of_isMonthEnd endAfter]
    at days
  have residue : before.monthIndex % 12 < 12 := Nat.mod_lt _ (by decide)
  obtain ⟨quarter, half, year⟩ := shortCycle_bounds
  have shorter : shortCycle cycle (before.monthIndex % 12) + before.toOrdinal ≤ after.toOrdinal := by
    rw [Nat.add_comm]
    exact days
  simp only [cycleMonths, List.mem_cons, List.not_mem_nil, or_false, Prod.mk.injEq] at known
  simp only [frequencyWindowDays, List.mem_cons, List.not_mem_nil, or_false, Prod.mk.injEq] at listed
  rcases known with ⟨rfl, rfl⟩ | ⟨rfl, rfl⟩ | ⟨rfl, rfl⟩ | ⟨rfl, rfl⟩
  · have nominal : window = 30 := by simpa using listed
    have step := Date.endOrdinal_succ first
    rw [← index, ← Date.toOrdinal_of_isMonthEnd endBefore, ← Date.toOrdinal_of_isMonthEnd endAfter,
      ← Date.year_of_monthIndex, ← Date.month_of_monthIndex] at step
    have day : after.toOrdinal = before.toOrdinal + after.day := by
      rw [step, endAfter]
    have february := @month_of_day_28 after endAfter
    have least := (Date.daysInMonth_le after.year after.month).1
    have atLeast : 28 ≤ after.day := by
      rw [endAfter]
      refine le_trans ?_ least
      unfold daysInMonth
      split_ifs <;> omega
    constructor
    · intro fits both
      omega
    · intro other
      by_contra late
      exact other ⟨rfl, by omega, february (by omega), by omega⟩
  · have nominal : window = 90 := by simpa using listed
    have longer := quarter _ residue
    refine iff_of_true (by omega) fun both => ?_
    exact absurd both.1 (by decide)
  · have nominal : window = 180 := by simpa using listed
    have longer := half _ residue
    refine iff_of_true (by omega) fun both => ?_
    exact absurd both.1 (by decide)
  · have nominal : window = 365 := by simpa using listed
    have longer := year _ residue
    refine iff_of_true (by omega) fun both => ?_
    exact absurd both.1 (by decide)

/-- A reminder is raised on or after the boundary before the one it belongs to, except a
    monthly one raised 29 days before the end of February in a common year. -/
theorem raiseOn_after_previous_iff {candidates : List ScheduleCertificateCandidate}
    {leadTimeDays : Int} {asOf : Date} {requirements : List CertificateRequirement}
    (derived : deriveRequirements candidates leadTimeDays asOf = .ok requirements)
    {requirement : CertificateRequirement} (member : requirement ∈ requirements)
    {candidate : ScheduleCertificateCandidate} (listed : candidate ∈ candidates)
    (covered : candidate.testBasis = certificateTestBasis ∧
      candidate.borrowerId = requirement.borrowerId ∧ candidate.dueDate = requirement.dueDate)
    {fiscalYearStartMonth : Int} {start finish before : Date} {front back : List Date}
    (boundary : periodEndDates candidate.frequency fiscalYearStartMonth start finish =
      .ok (front ++ before :: requirement.dueDate :: back)) :
    before ≤ requirement.raiseOn ↔
      ¬ (candidate.frequency = "monthly".toList ∧ leadTimeDays = 29 ∧
        requirement.dueDate.month = 2 ∧ requirement.dueDate.day = 28) := by
  have certificate : candidate ∈ certificateCandidates candidates :=
    List.mem_filter.mpr ⟨listed, decide_eq_true covered.1⟩
  have accepted := validated_of_derived derived certificate
  have positive := (window_of_validateLeadTimeDays accepted).1
  have raised := toOrdinal_raiseDate positive (mem_deriveRequirements derived member).1
  rw [← fits_iff_of_validateLeadTimeDays accepted boundary, ← Date.toOrdinal_strictMono.le_iff_le]
  omega

/-! ## Sample occurrences -/

/-- A monthly occurrence that needs a certificate. -/
def sampleCandidate (dueDate : Date) : ScheduleCertificateCandidate where
  scheduleId := Uuid.ofInt 1
  borrowerId := Uuid.ofInt 2
  dueDate := dueDate
  frequency := "monthly".toList
  testBasis := certificateTestBasis
  frequencySet := by decide
  testBasisSet := by decide

/-- `raiseOn_after_previous_iff` at the end of February 2025, with a lead time of 28 days. -/
theorem raiseOn_after_previous_february :
    ∃ due raiseOn previous requirement, dateOf 2025 2 28 = .ok due ∧
      dateOf 2025 1 31 = .ok raiseOn ∧ dateOf 2025 1 31 = .ok previous ∧
      deriveRequirements [sampleCandidate due] 28 due = .ok [requirement] ∧
        requirement.raiseOn = raiseOn ∧ previous ≤ requirement.raiseOn := by
  let due : Date := ⟨2025, 2, 28, by decide⟩
  let previous : Date := ⟨2025, 1, 31, by decide⟩
  let requirement : CertificateRequirement :=
    ⟨Uuid.ofInt 2, due, previous, [Uuid.ofInt 1], List.cons_ne_nil _ _⟩
  have derived : deriveRequirements [sampleCandidate due] 28 due = .ok [requirement] := by
    decide
  have boundary : periodEndDates "monthly".toList 4 previous ⟨2025, 3, 1, by decide⟩ =
      .ok [previous, due] := by decide
  refine ⟨due, previous, previous, requirement, by decide, by decide,
    by decide, derived, rfl, ?_⟩
  exact (@raiseOn_after_previous_iff _ _ _ _ derived requirement List.mem_cons_self
    (sampleCandidate due) List.mem_cons_self ⟨rfl, rfl, rfl⟩ 4 previous _ previous [] []
    boundary).mpr (by decide)

/-- With an accepted lead time of 29 days the reminder for the end of February 2025 is
    raised on 30 January, inside the period before. -/
theorem raiseOn_before_previous_february :
    ∃ due raiseOn previous finish requirement, dateOf 2025 2 28 = .ok due ∧
      dateOf 2025 1 30 = .ok raiseOn ∧ dateOf 2025 1 31 = .ok previous ∧
      dateOf 2025 3 1 = .ok finish ∧ validateLeadTimeDays "monthly".toList 29 = .ok () ∧
      periodEndDates "monthly".toList 4 previous finish = .ok [previous, due] ∧
      deriveRequirements [sampleCandidate due] 29 due = .ok [requirement] ∧
        requirement.raiseOn = raiseOn ∧ ¬ previous ≤ requirement.raiseOn := by
  let due : Date := ⟨2025, 2, 28, by decide⟩
  let raiseOn : Date := ⟨2025, 1, 30, by decide⟩
  refine ⟨due, raiseOn, ⟨2025, 1, 31, by decide⟩, ⟨2025, 3, 1, by decide⟩,
    ⟨Uuid.ofInt 2, due, raiseOn, [Uuid.ofInt 1], List.cons_ne_nil _ _⟩, ?_⟩
  decide

end CovenantRadar.Certificates
