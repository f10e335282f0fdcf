import CovenantRadar.Certificates.Requirements
import CovenantRadar.Misc.SortedLists

/-!
# Groups of occurrences

Source `domain/certificates/requirements.py`, `derive_requirements`: what is derived is determined by
which occurrences need a certificate and have reached their raise date. It does not depend on the
order they are listed in, and neither a later date nor a longer lead time loses one of them.
-/

namespace CovenantRadar.Certificates

open Covenants

/-- The borrower and due date an occurrence is grouped under. -/
def ScheduleCertificateCandidate.group (candidate : ScheduleCertificateCandidate) : Uuid × Date :=
  (candidate.borrowerId, candidate.dueDate)

/-- The borrower and due date of a requirement. -/
def CertificateRequirement.group (requirement : CertificateRequirement) : Uuid × Date :=
  (requirement.borrowerId, requirement.dueDate)

/-- The raise date of an occurrence has been reached. -/
def reached (leadTimeDays : Int) (asOf : Date) (candidate : ScheduleCertificateCandidate) : Bool :=
  (raiseDate candidate.dueDate leadTimeDays).toOption.any fun raiseOn => raiseOn ≤ asOf

/-- The occurrences of a group that need a certificate. -/
def membersOf (candidates : List ScheduleCertificateCandidate) (group : Uuid × Date) :
    List ScheduleCertificateCandidate :=
  (certificateCandidates candidates).filter fun candidate => candidate.group = group

/-- The occurrences of a group, in the order of their creation. -/
def idsOf (candidates : List ScheduleCertificateCandidate) (group : Uuid × Date) : List Uuid :=
  ((membersOf candidates group).map ScheduleCertificateCandidate.scheduleId).insertionSort
    fun a b => a.int ≤ b.int

theorem Uuid.int_injective : Function.Injective Uuid.int := fun _ _ => Uuid.ext

theorem membersOf_perm {candidates candidates' : List ScheduleCertificateCandidate}
    (perm : candidates.Perm candidates') (group : Uuid × Date) :
    (membersOf candidates group).Perm (membersOf candidates' group) :=
  (perm.filter _).filter _

theorem idsOf_perm {candidates candidates' : List ScheduleCertificateCandidate}
    (perm : candidates.Perm candidates') (group : Uuid × Date) :
    idsOf candidates group = idsOf candidates' group :=
  insertionSort_key_perm Uuid.int_injective.injOn ((membersOf_perm perm group).map _)

/-! ## The groups -/

/-- The groups `derive_requirements` goes through. -/
def groupsOf (candidates : List ScheduleCertificateCandidate) : List ((Uuid × Date) × List Uuid) :=
  groupPairs ((certificateCandidates candidates).map fun candidate =>
    ((candidate.borrowerId, candidate.dueDate), candidate.scheduleId))

theorem mem_groupsOf {candidates : List ScheduleCertificateCandidate} {group : Uuid × Date}
    {ids : List Uuid} : (group, ids) ∈ groupsOf candidates ↔
      membersOf candidates group ≠ [] ∧
        ids = (membersOf candidates group).map ScheduleCertificateCandidate.scheduleId := by
  rw [groupsOf, mem_groupPairs, List.filter_map, List.map_map]
  have same : ((certificateCandidates candidates).filter ((fun pair : (Uuid × Date) × Uuid =>
      decide (pair.1 = group)) ∘ fun candidate =>
        ((candidate.borrowerId, candidate.dueDate), candidate.scheduleId))) =
          membersOf candidates group := rfl
  rw [same]
  constructor
  · rintro ⟨nonempty, rfl⟩
    exact ⟨fun empty => nonempty (by rw [empty]; rfl), rfl⟩
  · rintro ⟨nonempty, rfl⟩
    exact ⟨fun empty => nonempty (List.map_eq_nil_iff.mp empty), rfl⟩

/-- Each occurrence that needs a certificate is in the group of its key. -/
theorem mem_groupsOf_of_mem {candidates : List ScheduleCertificateCandidate}
    {candidate : ScheduleCertificateCandidate} (listed : candidate ∈ certificateCandidates candidates) :
    (candidate.group, (membersOf candidates candidate.group).map
      ScheduleCertificateCandidate.scheduleId) ∈ groupsOf candidates := by
  refine mem_groupsOf.mpr ⟨?_, rfl⟩
  exact List.ne_nil_of_mem (List.mem_filter.mpr ⟨listed, decide_eq_true rfl⟩)

theorem exists_of_mem_groupsOf {candidates : List ScheduleCertificateCandidate}
    {group : Uuid × Date} {ids : List Uuid} (grouped : (group, ids) ∈ groupsOf candidates) :
    ∃ candidate ∈ certificateCandidates candidates, candidate.group = group := by
  obtain ⟨candidate, listed⟩ := List.exists_mem_of_ne_nil _ (mem_groupsOf.mp grouped).1
  obtain ⟨listed, same⟩ := List.mem_filter.mp listed
  exact ⟨candidate, listed, of_decide_eq_true same⟩

/-- A group in reach of the dates gives its requirement from the raise date on. -/
theorem groupRequirement_eq {leadTimeDays : Int} {asOf raiseOn : Date} {group : Uuid × Date}
    {ids : List Uuid} (raised : raiseDate group.2 leadTimeDays = .ok raiseOn) (some : ids ≠ []) :
    ∃ covers, groupRequirement leadTimeDays asOf (group, ids) =
      .ok (if raiseOn ≤ asOf then
        Option.some ⟨group.1, group.2, raiseOn, ids.insertionSort fun a b => a.int ≤ b.int, covers⟩
        else none) := by
  have covers : (ids.insertionSort fun a b => a.int ≤ b.int) ≠ [] := fun empty =>
    some ((List.perm_insertionSort _ _).symm.trans (List.Perm.of_eq empty)).eq_nil
  refine ⟨covers, Except.bind_eq_ok_iff.mpr ⟨raiseOn, raised, ?_⟩⟩
  by_cases due : raiseOn ≤ asOf
  · have made : CertificateRequirement.make group.1 group.2 raiseOn
        (ids.insertionSort fun a b => a.int ≤ b.int) =
          .ok ⟨group.1, group.2, raiseOn, ids.insertionSort fun a b => a.int ≤ b.int, covers⟩ :=
      dif_pos covers
    rw [if_neg (not_lt.mpr due), if_pos due]
    exact congrArg (Except.map Option.some) made
  · rw [if_pos (not_le.mp due), if_neg due]

/-! ## What is derived -/

/-- Whether anything is derived depends on the lead time and the dates alone. -/
theorem exists_deriveRequirements_iff {candidates : List ScheduleCertificateCandidate}
    {leadTimeDays : Int} {asOf : Date} :
    (∃ requirements, deriveRequirements candidates leadTimeDays asOf = .ok requirements) ↔
      ∀ candidate ∈ certificateCandidates candidates,
        validateLeadTimeDays candidate.frequency leadTimeDays = .ok () ∧
          ∃ raiseOn, raiseDate candidate.dueDate leadTimeDays = .ok raiseOn := by
  constructor
  · rintro ⟨requirements, derived⟩ candidate listed
    refine ⟨validated_of_derived derived listed, ?_⟩
    obtain ⟨_, _, rest⟩ := Except.bind_eq_ok_iff.mp derived
    obtain ⟨computed, mapped, _⟩ := Except.bind_eq_ok_iff.mp rest
    obtain ⟨found, _, made⟩ := (forall₂_exists (mapM_eq_ok_iff.mp mapped)).1 _
      (mem_groupsOf_of_mem listed)
    obtain ⟨raiseOn, raised, _⟩ := Except.bind_eq_ok_iff.mp made
    exact ⟨raiseOn, raised⟩
  · intro fine
    have validated : ((certificateCandidates candidates).forM fun candidate =>
        validateLeadTimeDays candidate.frequency leadTimeDays) = .ok () :=
      forM_eq_ok_iff.mpr fun candidate listed => (fine candidate listed).1
    obtain ⟨computed, mapped⟩ : ∃ computed,
        (groupsOf candidates).mapM (groupRequirement leadTimeDays asOf) = .ok computed := by
      apply mapM_returns_iff.mpr
      rintro ⟨group, ids⟩ grouped
      obtain ⟨candidate, listed, same⟩ := exists_of_mem_groupsOf grouped
      obtain ⟨raiseOn, raised⟩ := (fine candidate listed).2
      rw [show candidate.dueDate = group.2 from congrArg Prod.snd same] at raised
      obtain ⟨nonempty, rfl⟩ := mem_groupsOf.mp grouped
      obtain ⟨covers, made⟩ := @groupRequirement_eq leadTimeDays asOf raiseOn group _ raised
        (fun empty => nonempty (List.map_eq_nil_iff.mp empty))
      exact ⟨_, made⟩
    refine ⟨(computed.filterMap id).insertionSort fun a b => a.sortKey ≤ b.sortKey, ?_⟩
    exact Except.bind_eq_ok_iff.mpr ⟨(), validated,
      Except.bind_eq_ok_iff.mpr ⟨computed, mapped, rfl⟩⟩

/-- What is derived, one requirement for each group whose raise date has been reached. -/
theorem mem_deriveRequirements_iff {candidates : List ScheduleCertificateCandidate}
    {leadTimeDays : Int} {asOf : Date} {requirements : List CertificateRequirement}
    (derived : deriveRequirements candidates leadTimeDays asOf = .ok requirements)
    {requirement : CertificateRequirement} :
    requirement ∈ requirements ↔ membersOf candidates requirement.group ≠ [] ∧
      raiseDate requirement.dueDate leadTimeDays = .ok requirement.raiseOn ∧
        requirement.raiseOn ≤ asOf ∧
          requirement.covenantScheduleIds = idsOf candidates requirement.group := by
  obtain ⟨_, _, rest⟩ := Except.bind_eq_ok_iff.mp derived
  obtain ⟨computed, mapped, last⟩ := Except.bind_eq_ok_iff.mp rest
  have pairs := forall₂_exists (mapM_eq_ok_iff.mp mapped)
  cases last
  rw [List.mem_insertionSort, List.mem_filterMap]
  constructor
  · rintro ⟨found, listed, same⟩
    cases same
    obtain ⟨⟨group, ids⟩, grouped, made⟩ := pairs.2 _ listed
    obtain ⟨raised, due, borrower, date, sorted⟩ := groupRequirement_eq_ok_some made
    have key : requirement.group = group := Prod.ext borrower date
    obtain ⟨nonempty, rfl⟩ := mem_groupsOf.mp grouped
    rw [key]
    exact ⟨nonempty, date ▸ raised, due, sorted⟩
  · rintro ⟨nonempty, raised, due, sorted⟩
    have grouped := mem_groupsOf.mpr ⟨nonempty, rfl⟩
    obtain ⟨found, listed, made⟩ := pairs.1 _ grouped
    obtain ⟨covers, same⟩ := @groupRequirement_eq leadTimeDays asOf requirement.raiseOn
      requirement.group _ raised (fun empty => nonempty (List.map_eq_nil_iff.mp empty))
    rw [same, if_pos due] at made
    cases made
    refine ⟨_, listed, congrArg some ?_⟩
    obtain ⟨borrowerId, dueDate, raiseOn, covenantScheduleIds, _⟩ := requirement
    exact CertificateRequirement.mk.injEq .. ▸ ⟨rfl, rfl, rfl, sorted.symm⟩

theorem sublist_groups {leadTimeDays : Int} {asOf : Date}
    {groups : List ((Uuid × Date) × List Uuid)} {computed : List (Option CertificateRequirement)}
    (pairs : List.Forall₂ (fun group found =>
      groupRequirement leadTimeDays asOf group = .ok found) groups computed) :
    ((computed.filterMap id).map CertificateRequirement.group).Sublist (groups.map Prod.fst) := by
  induction pairs with
  | nil => exact List.Sublist.refl _
  | @cons entry found _ _ made _ ih =>
    cases found with
    | none => exact ih.cons _
    | some requirement =>
      obtain ⟨_, _, borrower, date, _⟩ := groupRequirement_eq_ok_some made
      have key : requirement.group = entry.1 := Prod.ext borrower date
      rw [List.filterMap_cons_some (show id (some requirement) = some requirement from rfl),
        List.map_cons, List.map_cons, key]
      exact ih.cons_cons _

/-- No two requirements are of one group. -/
theorem nodup_groups {candidates : List ScheduleCertificateCandidate} {leadTimeDays : Int}
    {asOf : Date} {requirements : List CertificateRequirement}
    (derived : deriveRequirements candidates leadTimeDays asOf = .ok requirements) :
    (requirements.map CertificateRequirement.group).Nodup := by
  obtain ⟨_, _, rest⟩ := Except.bind_eq_ok_iff.mp derived
  obtain ⟨computed, mapped, last⟩ := Except.bind_eq_ok_iff.mp rest
  cases last
  have distinct : ((groupsOf candidates).map Prod.fst).Nodup := nodup_keys_groupPairs _
  have kept : ((computed.filterMap id).map CertificateRequirement.group).Sublist
      ((groupsOf candidates).map Prod.fst) := by
    exact sublist_groups (mapM_eq_ok_iff.mp mapped)
  have perm := (List.perm_insertionSort (fun a b : CertificateRequirement => a.sortKey ≤ b.sortKey)
    (computed.filterMap id)).map CertificateRequirement.group
  exact perm.nodup_iff.mpr (distinct.sublist kept)

theorem group_eq_of_sortKey_eq {a b : CertificateRequirement} (same : a.sortKey = b.sortKey) :
    a.group = b.group := by
  have parts := toLex_inj.mp same
  have rest := toLex_inj.mp (Prod.ext_iff.mp parts).2
  exact Prod.ext (Uuid.ext (Prod.ext_iff.mp rest).1) (Prod.ext_iff.mp parts).1

/-- What is derived is in increasing order of the keys it is sorted by. -/
theorem pairwise_sortKey {candidates : List ScheduleCertificateCandidate} {leadTimeDays : Int}
    {asOf : Date} {requirements : List CertificateRequirement}
    (derived : deriveRequirements candidates leadTimeDays asOf = .ok requirements) :
    requirements.Pairwise fun a b => a.sortKey < b.sortKey := by
  have distinct := List.pairwise_map.mp (nodup_groups derived)
  obtain ⟨_, _, rest⟩ := Except.bind_eq_ok_iff.mp derived
  obtain ⟨computed, _, last⟩ := Except.bind_eq_ok_iff.mp rest
  cases last
  have total : Std.Total (fun a b : CertificateRequirement => a.sortKey ≤ b.sortKey) :=
    ⟨fun a b => le_total a.sortKey b.sortKey⟩
  have transitive : IsTrans CertificateRequirement (fun a b => a.sortKey ≤ b.sortKey) :=
    ⟨fun _ _ _ => le_trans⟩
  have sorted := List.pairwise_insertionSort (fun a b : CertificateRequirement =>
    a.sortKey ≤ b.sortKey) (computed.filterMap id)
  apply (sorted.and distinct).imp
  rintro a b ⟨le, apart⟩
  exact lt_of_le_of_ne le fun same => apart (group_eq_of_sortKey_eq same)

theorem eq_of_pairwise_sortKey {xs ys : List CertificateRequirement}
    (sortedXs : xs.Pairwise fun a b => a.sortKey < b.sortKey)
    (sortedYs : ys.Pairwise fun a b => a.sortKey < b.sortKey) (same : ∀ x, x ∈ xs ↔ x ∈ ys) :
    xs = ys := by
  have apart (a b : CertificateRequirement) (less : a.sortKey < b.sortKey) : a ≠ b := by
    rintro rfl
    exact lt_irrefl _ less
  have perm : xs.Perm ys := (List.perm_ext_iff_of_nodup (sortedXs.imp (apart _ _))
    (sortedYs.imp (apart _ _))).mpr same
  exact perm.eq_of_pairwise (fun _ _ _ _ less more => absurd more (lt_asymm less)) sortedXs sortedYs

/-- The occurrences listed in another order give the same requirements. -/
theorem deriveRequirements_perm {candidates candidates' : List ScheduleCertificateCandidate}
    {leadTimeDays : Int} {asOf : Date} {requirements : List CertificateRequirement}
    (perm : candidates.Perm candidates')
    (derived : deriveRequirements candidates leadTimeDays asOf = .ok requirements) :
    deriveRequirements candidates' leadTimeDays asOf = .ok requirements := by
  have certificates : (certificateCandidates candidates).Perm (certificateCandidates candidates') :=
    perm.filter _
  have fine := exists_deriveRequirements_iff.mp ⟨requirements, derived⟩
  obtain ⟨requirements', derived'⟩ :=
    (@exists_deriveRequirements_iff candidates' leadTimeDays asOf).mpr fun candidate listed =>
      fine candidate (certificates.mem_iff.mpr listed)
  rw [derived']
  apply congrArg Except.ok
  apply eq_of_pairwise_sortKey (pairwise_sortKey derived') (pairwise_sortKey derived)
  intro requirement
  have empty : membersOf candidates' requirement.group ≠ [] ↔
      membersOf candidates requirement.group ≠ [] := by
    rw [← List.length_pos_iff, ← List.length_pos_iff, (membersOf_perm perm _).length_eq]
  rw [mem_deriveRequirements_iff derived', mem_deriveRequirements_iff derived,
    idsOf_perm perm, empty]

theorem reached_iff {leadTimeDays : Int} {asOf : Date} {candidate : ScheduleCertificateCandidate} :
    reached leadTimeDays asOf candidate = true ↔
      ∃ raiseOn, raiseDate candidate.dueDate leadTimeDays = .ok raiseOn ∧ raiseOn ≤ asOf := by
  constructor
  · intro passed
    obtain ⟨raiseOn, raised, due⟩ := Except.exists_of_any passed
    exact ⟨raiseOn, raised, of_decide_eq_true due⟩
  · rintro ⟨raiseOn, raised, due⟩
    rw [reached, raised]
    exact decide_eq_true due

theorem idsOf_ne_nil {candidates : List ScheduleCertificateCandidate} {group : Uuid × Date}
    (some : membersOf candidates group ≠ []) : idsOf candidates group ≠ [] := by
  intro empty
  have perm := List.perm_insertionSort (fun a b : Uuid => a.int ≤ b.int)
    ((membersOf candidates group).map ScheduleCertificateCandidate.scheduleId)
  rw [idsOf] at empty
  rw [empty] at perm
  exact some (List.map_eq_nil_iff.mp perm.symm.eq_nil)

/-- An occurrence is in a requirement from its raise date on. -/
theorem mem_groups_iff_reached {candidates : List ScheduleCertificateCandidate}
    {leadTimeDays : Int} {asOf : Date} {requirements : List CertificateRequirement}
    (derived : deriveRequirements candidates leadTimeDays asOf = .ok requirements)
    {candidate : ScheduleCertificateCandidate} (listed : candidate ∈ certificateCandidates candidates) :
    candidate.group ∈ requirements.map CertificateRequirement.group ↔
      reached leadTimeDays asOf candidate = true := by
  rw [List.mem_map, reached_iff]
  constructor
  · rintro ⟨requirement, member, same⟩
    obtain ⟨_, raised, due, _⟩ := (mem_deriveRequirements_iff derived).mp member
    have date : requirement.dueDate = candidate.dueDate := congrArg Prod.snd same
    exact ⟨requirement.raiseOn, date ▸ raised, due⟩
  · rintro ⟨raiseOn, raised, due⟩
    have some : membersOf candidates candidate.group ≠ [] :=
      List.ne_nil_of_mem (List.mem_filter.mpr ⟨listed, decide_eq_true rfl⟩)
    let requirement : CertificateRequirement :=
      ⟨candidate.borrowerId, candidate.dueDate, raiseOn, idsOf candidates candidate.group,
        idsOf_ne_nil some⟩
    have made : requirement ∈ requirements :=
      (mem_deriveRequirements_iff derived).mpr ⟨some, raised, due, rfl⟩
    exact ⟨requirement, made, rfl⟩

/-- Together the requirements hold each occurrence whose raise date has been reached, once. -/
theorem ids_perm_reached {candidates : List ScheduleCertificateCandidate} {leadTimeDays : Int}
    {asOf : Date} {requirements : List CertificateRequirement}
    (derived : deriveRequirements candidates leadTimeDays asOf = .ok requirements) :
    (requirements.flatMap CertificateRequirement.covenantScheduleIds).Perm
      (((certificateCandidates candidates).filter (reached leadTimeDays asOf)).map
        ScheduleCertificateCandidate.scheduleId) := by
  have each : (requirements.flatMap CertificateRequirement.covenantScheduleIds).Perm
      (requirements.flatMap fun requirement => (membersOf candidates requirement.group).map
        ScheduleCertificateCandidate.scheduleId) := by
    apply List.Perm.flatMap_left
    intro requirement listed
    rw [((mem_deriveRequirements_iff derived).mp listed).2.2.2]
    exact List.perm_insertionSort _ _
  have grouped : (requirements.flatMap fun requirement => (membersOf candidates
      requirement.group).map ScheduleCertificateCandidate.scheduleId) =
        ((requirements.map CertificateRequirement.group).flatMap
          (membersOf candidates)).map ScheduleCertificateCandidate.scheduleId := by
    rw [List.map_flatMap, List.flatMap_map]
  have members : ((requirements.map CertificateRequirement.group).flatMap
      (membersOf candidates)).Perm
        ((certificateCandidates candidates).filter (reached leadTimeDays asOf)) := by
    apply flatMap_filter_key_perm (nodup_groups derived)
    intro candidate listed
    exact (mem_groups_iff_reached derived listed).symm
  exact each.trans ((List.Perm.of_eq grouped).trans (members.map _))

/-! ## Later dates and longer lead times -/

/-- Every group of some requirements is among others, with the same occurrences. -/
def Keeps (requirements later : List CertificateRequirement) : Prop :=
  ∀ requirement ∈ requirements, ∃ other ∈ later, other.borrowerId = requirement.borrowerId ∧
    other.dueDate = requirement.dueDate ∧
      other.covenantScheduleIds = requirement.covenantScheduleIds

/-- A longer lead time does not raise later. -/
theorem raiseDate_antitone {dueDate raiseOn earlier : Date} {leadTimeDays longer : Int}
    (positive : 0 < leadTimeDays) (le : leadTimeDays ≤ longer)
    (raised : raiseDate dueDate leadTimeDays = .ok raiseOn)
    (raised' : raiseDate dueDate longer = .ok earlier) : earlier ≤ raiseOn := by
  have first := toOrdinal_raiseDate positive raised
  have second := toOrdinal_raiseDate (positive.trans_le le) raised'
  rw [← Date.toOrdinal_strictMono.le_iff_le]
  omega

theorem keeps_of_le {candidates : List ScheduleCertificateCandidate} {leadTimeDays longer : Int}
    {asOf later : Date} {requirements others : List CertificateRequirement}
    (lead : leadTimeDays ≤ longer) (date : asOf ≤ later)
    (derived : deriveRequirements candidates leadTimeDays asOf = .ok requirements)
    (derived' : deriveRequirements candidates longer later = .ok others) :
    Keeps requirements others := by
  intro requirement member
  obtain ⟨some, raised, due, ids⟩ := (mem_deriveRequirements_iff derived).mp member
  obtain ⟨candidate, listed⟩ := List.exists_mem_of_ne_nil _ some
  obtain ⟨listed, same⟩ := List.mem_filter.mp listed
  have group : candidate.group = requirement.group := of_decide_eq_true same
  have dueDate : candidate.dueDate = requirement.dueDate := congrArg Prod.snd group
  have positive := (window_of_validateLeadTimeDays (validated_of_derived derived listed)).1
  obtain ⟨earlier, raised'⟩ :=
    (exists_deriveRequirements_iff.mp ⟨others, derived'⟩ candidate listed).2
  rw [dueDate] at raised'
  have before := raiseDate_antitone positive lead raised raised'
  let other : CertificateRequirement :=
    ⟨requirement.borrowerId, requirement.dueDate, earlier, idsOf candidates requirement.group,
      idsOf_ne_nil some⟩
  have made : other ∈ others := (mem_deriveRequirements_iff derived').mpr
    ⟨some, raised', before.trans (due.trans date), rfl⟩
  exact ⟨other, made, rfl, rfl, ids.symm⟩

/-- Requirements are derived exactly where every certificate occurrence has a frequency the lead time
    fits and a raise date in the calendar. They partition the occurrences whose raise date is
    reached into the groups of one borrower and one due date, in any order of the candidates, and a
    later date or a longer lead time keeps every schedule. -/
theorem deriveRequirements_groups (candidates : List ScheduleCertificateCandidate)
    (leadTimeDays : Int) (asOf : Date) :
    ((∃ requirements, deriveRequirements candidates leadTimeDays asOf = .ok requirements) ↔
      ∀ candidate ∈ certificateCandidates candidates,
        validateLeadTimeDays candidate.frequency leadTimeDays = .ok () ∧
          ∃ raiseOn, raiseDate candidate.dueDate leadTimeDays = .ok raiseOn) ∧
    ∀ requirements, deriveRequirements candidates leadTimeDays asOf = .ok requirements →
      ((requirements.flatMap CertificateRequirement.covenantScheduleIds).Perm
        ((candidates.filter fun candidate => candidate.testBasis = certificateTestBasis ∧
          reached leadTimeDays asOf candidate = true).map
            ScheduleCertificateCandidate.scheduleId) ∧
        (∀ requirement ∈ requirements, requirement.covenantScheduleIds.Perm
          ((candidates.filter fun candidate => candidate.testBasis = certificateTestBasis ∧
            candidate.borrowerId = requirement.borrowerId ∧
              candidate.dueDate = requirement.dueDate).map
                ScheduleCertificateCandidate.scheduleId)) ∧
        requirements.Pairwise fun a b => a.borrowerId ≠ b.borrowerId ∨ a.dueDate ≠ b.dueDate) ∧
      (∀ candidates', candidates.Perm candidates' →
        deriveRequirements candidates' leadTimeDays asOf = .ok requirements) ∧
      (∀ later, asOf ≤ later → ∃ others,
        deriveRequirements candidates leadTimeDays later = .ok others ∧
          Keeps requirements others) ∧
      ∀ longer later others, leadTimeDays ≤ longer → asOf ≤ later →
        deriveRequirements candidates longer later = .ok others → Keeps requirements others := by
  refine ⟨exists_deriveRequirements_iff, fun requirements derived => ?_⟩
  refine ⟨⟨?_, ?_, ?_⟩, fun _ perm => deriveRequirements_perm perm derived, ?_, ?_⟩
  · have chosen : (certificateCandidates candidates).filter (reached leadTimeDays asOf) =
        candidates.filter fun candidate => candidate.testBasis = certificateTestBasis ∧
          reached leadTimeDays asOf candidate = true := by
      rw [certificateCandidates, List.filter_filter]
      apply List.filter_congr
      intro candidate _
      rw [Bool.and_comm, Bool.decide_and, Bool.decide_eq_true]
    rw [← chosen]
    exact ids_perm_reached derived
  · intro requirement member
    have covered := (mem_deriveRequirements derived member).2.2
    rw [certificateCandidates, List.filter_filter] at covered
    have chosen : (candidates.filter fun candidate =>
        decide (candidate.borrowerId = requirement.borrowerId ∧
          candidate.dueDate = requirement.dueDate) &&
            decide (candidate.testBasis = certificateTestBasis)) =
        candidates.filter fun candidate => candidate.testBasis = certificateTestBasis ∧
          candidate.borrowerId = requirement.borrowerId ∧
            candidate.dueDate = requirement.dueDate := by
      apply List.filter_congr
      intro candidate _
      rw [Bool.and_comm, ← Bool.decide_and]
    rw [← chosen]
    exact covered
  · apply (List.pairwise_map.mp (nodup_groups derived)).imp
    intro a b apart
    by_contra same
    push Not at same
    exact apart (Prod.ext same.1 same.2)
  · intro later date
    obtain ⟨others, derived'⟩ := (@exists_deriveRequirements_iff candidates leadTimeDays later).mpr
      (exists_deriveRequirements_iff.mp ⟨requirements, derived⟩)
    exact ⟨others, derived', keeps_of_le (le_refl _) date derived derived'⟩
  · intro longer later others lead date derived'
    exact keeps_of_le lead date derived derived'

/-- `deriveRequirements_groups` for one occurrence at the end of February 2025. -/
theorem deriveRequirements_groups_february :
    ∃ due requirement, dateOf 2025 2 28 = .ok due ∧
      deriveRequirements [sampleCandidate due] 28 due = .ok [requirement] ∧
      ∀ later, due ≤ later → ∃ others,
        deriveRequirements [sampleCandidate due] 28 later = .ok others ∧
          Keeps [requirement] others := by
  let due : Date := ⟨2025, 2, 28, by decide⟩
  let requirement : CertificateRequirement :=
    ⟨Uuid.ofInt 2, due, ⟨2025, 1, 31, by decide⟩, [Uuid.ofInt 1], List.cons_ne_nil _ _⟩
  have derived : deriveRequirements [sampleCandidate due] 28 due = .ok [requirement] := by decide
  exact ⟨due, requirement, by decide, derived, ((deriveRequirements_groups _ _ _).2 _ derived).2.2.1⟩

end CovenantRadar.Certificates
