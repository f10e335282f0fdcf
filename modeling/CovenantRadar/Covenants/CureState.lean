import CovenantRadar.Covenants.Cure

/-!
# Cure states

Source `domain/covenants/cure.py`: the state of a breach under its retests. The date of the
evaluation decides whether the window has closed. It does not decide which retests are
read: a pass inside the window cures from every date on.
-/

namespace CovenantRadar.Covenants

/-- Source `CureState`. -/
inductive CureState where
  | windowOpen | cured | confirmed
  deriving DecidableEq

/-- A covenant test or a retest, as `cure_state` reads it. -/
structure CovenantTest where
  verdict : Text
  asOfDate : Date
  cureEndsOn : Option Date
  cureDays : Option Int
  deriving DecidableEq

/-- Source `CureResult`. -/
structure CureResult where
  state : CureState
  cureEndsOn : Option Date
  retest : Option CovenantTest
  deriving DecidableEq

/-- Source `_verdict`. -/
def verdict (record : CovenantTest) : Except PyError Text :=
  let value := Text.strip record.verdict
  if value = [] then .error (.valueError "A covenant test must carry a non-empty verdict.")
  else .ok ((Text.lower value).map fun c => if c = '-' then '_' else c)

/-- `start + timedelta(days=days)`. -/
def plusDays (start : Date) (days : Nat) : Except PyError Date :=
  if 2 ^ 31 ≤ days then .error (.overflowError "Python int too large to convert to C int")
  else if 999999999 < days then
    .error (.overflowError s!"days={days}; must have magnitude <= 999999999")
  else
    match start.addDays days with
    | none => .error (.overflowError "date value out of range")
    | some finish => .ok finish

/-- Source `_cure_end`. -/
def cureEnd (test : CovenantTest) : Except PyError (Option Date) :=
  match test.cureEndsOn with
  | some value =>
    if value < test.asOfDate then
      .error (.valueError "test.cure_ends_on must not precede test.as_of_date.")
    else .ok (some value)
  | none =>
    match test.cureDays with
    | none => .ok none
    | some days =>
      if days < 0 then
        .error (.valueError "test.cure_days must be a non-negative integer or None.")
      else if days = 0 then .ok none
      else (plusDays test.asOfDate days.toNat).map some

/-- Source `cure_state`: the retests by date, and by position on one date. -/
def orderedRetests (retests : List CovenantTest) : List CovenantTest :=
  retests.insertionSort fun a b => a.asOfDate ≤ b.asOfDate

/-- Source `cure_state`: the loop over the retests, up to the first pass inside the window. -/
def passingRetest (testDate cureEndsOn : Date) :
    List CovenantTest → Except PyError (Option CovenantTest)
  | [] => .ok none
  | retest :: rest =>
    if testDate ≤ retest.asOfDate ∧ retest.asOfDate ≤ cureEndsOn then
      match verdict retest with
      | .error error => .error error
      | .ok value =>
        if value = "pass".toList then .ok (some retest) else passingRetest testDate cureEndsOn rest
    else passingRetest testDate cureEndsOn rest

/-- Source `_current_date`, on the date that `thresholds` exposes. -/
def currentDate (testDate : Date) (retests : List CovenantTest) (asOf : Option Date) : Date :=
  match asOf with
  | some configured => configured
  | none => max testDate ((retests.getLast?.map (·.asOfDate)).getD testDate)

/-- Source `cure_state`: what a test with this cure window comes to. -/
def windowResult (test : CovenantTest) (retests : List CovenantTest) (asOf : Option Date) :
    Option Date → Except PyError CureResult
  | none => .ok ⟨.confirmed, none, none⟩
  | some ends => do
    match ← passingRetest test.asOfDate ends (orderedRetests retests) with
    | some retest => return ⟨.cured, some ends, some retest⟩
    | none =>
      if currentDate test.asOfDate (orderedRetests retests) asOf ≤ ends then
        return ⟨.windowOpen, some ends, none⟩
      else return ⟨.confirmed, some ends, none⟩

/-- Source `cure_state`. -/
def cureState (test : CovenantTest) (retests : List CovenantTest) (asOf : Option Date) :
    Except PyError CureResult := do
  let initialVerdict ← verdict test
  if initialVerdict = "breach".toList ∨ initialVerdict = "breach_cure_open".toList then
    windowResult test retests asOf (← cureEnd test)
  else
    throw (.valueError ("cure_state requires a covenant test with verdict 'breach' or " ++
      "'breach_cure_open'."))

/-- The state as of a date. -/
def stateAsOf (test : CovenantTest) (retests : List CovenantTest) (asOf : Date) :
    Except PyError CureState := (cureState test retests (some asOf)).map (·.state)

/-! ## Deciding retests -/

/-- The test failed, so `cure_state` applies to it. -/
def IsBreach (test : CovenantTest) : Prop :=
  verdict test = .ok "breach".toList ∨ verdict test = .ok "breach_cure_open".toList

instance (test : CovenantTest) : Decidable (IsBreach test) := by
  unfold IsBreach
  infer_instance

/-- The loop ends at this retest: it lies inside the window and passes, or its verdict is
    blank and raises. -/
def decides (testDate cureEndsOn : Date) (retest : CovenantTest) : Bool :=
  decide (testDate ≤ retest.asOfDate) && decide (retest.asOfDate ≤ cureEndsOn) &&
    match verdict retest with
    | .error _ => true
    | .ok value => decide (value = "pass".toList)

/-- The retest decides the state of this test. -/
def decidesCure (test retest : CovenantTest) : Bool :=
  match cureEnd test with
  | .ok (some ends) => decides test.asOfDate ends retest
  | _ => false

/-- The loop returns what its first deciding retest is. -/
theorem passingRetest_eq {testDate ends : Date} (retests : List CovenantTest) :
    passingRetest testDate ends retests =
      match retests.find? (decides testDate ends) with
      | none => .ok none
      | some retest => (verdict retest).map fun _ => some retest := by
  induction retests with
  | nil => rfl
  | cons retest rest ih =>
    rw [passingRetest, List.find?_cons]
    by_cases inside : testDate ≤ retest.asOfDate ∧ retest.asOfDate ≤ ends
    · rw [if_pos inside]
      cases read : verdict retest with
      | error error =>
        have ended : decides testDate ends retest = true := by
          simp [decides, inside, read]
        simp [ended, read, Except.map]
      | ok value =>
        by_cases passes : value = "pass".toList
        · have ended : decides testDate ends retest = true := by
            simp [decides, inside, read, passes]
          simp only [ended, if_pos passes, read]
          rfl
        · have goes : decides testDate ends retest = false := by
            simp only [decides, inside, read, passes, decide_true, decide_false, Bool.and_false]
          simp only [goes, if_neg passes, ih]
    · have goes : decides testDate ends retest = false := by
        rcases not_and_or.mp inside with before | after
        · simp [decides, before]
        · simp [decides, after]
      rw [if_neg inside, goes, ih]

/-- The first deciding retest in time. -/
def firstDeciding (test : CovenantTest) (retests : List CovenantTest) : Option CovenantTest :=
  (orderedRetests retests).find? (decidesCure test)

instance : Std.Total (fun a b : CovenantTest => a.asOfDate ≤ b.asOfDate) :=
  ⟨fun a b => le_total a.asOfDate b.asOfDate⟩

instance : IsTrans CovenantTest (fun a b => a.asOfDate ≤ b.asOfDate) := ⟨fun _ _ _ => le_trans⟩

theorem orderedRetests_filter (keep : CovenantTest → Bool) (retests : List CovenantTest) :
    orderedRetests (retests.filter keep) = (orderedRetests retests).filter keep :=
  (filter_insertionSort keep retests).symm

theorem firstDeciding_filter {test : CovenantTest} {keep : CovenantTest → Bool}
    (retests : List CovenantTest) (kept : ∀ retest, decidesCure test retest = true → keep retest) :
    firstDeciding test (retests.filter keep) = firstDeciding test retests := by
  rw [firstDeciding, orderedRetests_filter, List.find?_filter, firstDeciding]
  congr 1
  funext retest
  by_cases deciding : decidesCure test retest = true
  · simp [deciding, kept retest deciding]
  · simp [deciding]

theorem firstDeciding_eq_none {test : CovenantTest} {retests : List CovenantTest} :
    firstDeciding test retests = none ↔ ∀ retest ∈ retests, decidesCure test retest = false := by
  simp [firstDeciding, orderedRetests, List.find?_eq_none]

theorem firstDeciding_spec {test retest : CovenantTest} {retests : List CovenantTest}
    (first : firstDeciding test retests = some retest) :
    retest ∈ retests ∧ decidesCure test retest = true := by
  refine ⟨?_, List.find?_some first⟩
  exact (List.mem_insertionSort _).mp (List.mem_of_find?_eq_some first)

/-! ## The state as of a date -/

/-- With the date given, the retests count through the first deciding one only. -/
theorem windowResult_eq {test : CovenantTest} {ends : Date}
    (window : cureEnd test = .ok (some ends)) (retests : List CovenantTest) (asOf : Date) :
    windowResult test retests (some asOf) (some ends) =
      match firstDeciding test retests with
      | some retest => (verdict retest).map fun _ => ⟨.cured, some ends, some retest⟩
      | none => .ok ⟨if asOf ≤ ends then .windowOpen else .confirmed, some ends, none⟩ := by
  have deciding : decides test.asOfDate ends = decidesCure test := by
    funext retest
    simp only [decidesCure, window]
  simp only [windowResult, passingRetest_eq, deciding, ← firstDeciding.eq_1, currentDate]
  cases firstDeciding test retests with
  | some retest => cases read : verdict retest <;> simp [read, Except.map, bind, Except.bind]; rfl
  | none =>
    by_cases inside : asOf ≤ ends
    · simp [inside, bind, Except.bind, pure, Except.pure]
    · simp [inside, bind, Except.bind, pure, Except.pure]

theorem cureState_congr {test : CovenantTest} {retests retests' : List CovenantTest}
    (same : firstDeciding test retests = firstDeciding test retests') (asOf : Date) :
    cureState test retests (some asOf) = cureState test retests' (some asOf) := by
  unfold cureState
  cases ended : cureEnd test with
  | error error => rfl
  | ok window =>
    have result : windowResult test retests (some asOf) window =
        windowResult test retests' (some asOf) window := by
      cases window with
      | none => rfl
      | some ends => rw [windowResult_eq ended, windowResult_eq ended, same]
    simp only [bind, Except.bind, result]

/-- The state of a breach with a cure window. -/
theorem stateAsOf_eq {test : CovenantTest} (breach : IsBreach test) {ends : Date}
    (window : cureEnd test = .ok (some ends)) (retests : List CovenantTest) (asOf : Date) :
    stateAsOf test retests asOf =
      match firstDeciding test retests with
      | some retest => (verdict retest).map fun _ => .cured
      | none => .ok (if asOf ≤ ends then .windowOpen else .confirmed) := by
  have result : cureState test retests (some asOf) =
      windowResult test retests (some asOf) (some ends) := by
    unfold cureState
    rw [window]
    rcases breach with read | read <;> simp [read, bind, Except.bind]
  rw [stateAsOf, result, windowResult_eq window]
  cases firstDeciding test retests with
  | some retest => cases read : verdict retest <;> simp [read, Except.map]
  | none => rfl

/-- The retests of a test that count as of a date: those on or before it, and the later ones
    that decide the state. -/
def counts (test : CovenantTest) (asOf : Date) (retest : CovenantTest) : Bool :=
  decide (retest.asOfDate ≤ asOf) || decidesCure test retest

/-- A deciding retest dated later is read, and none before. -/
def ReadsAhead (test : CovenantTest) (retests : List CovenantTest) (asOf : Date) : Prop :=
  (∃ later ∈ retests, asOf < later.asOfDate ∧ decidesCure test later = true) ∧
    ∀ earlier ∈ retests, earlier.asOfDate ≤ asOf → decidesCure test earlier = false

/-- The retests on or before a date come first. -/
theorem firstDeciding_split (test : CovenantTest) (retests : List CovenantTest) (asOf : Date) :
    firstDeciding test retests =
      (firstDeciding test (retests.filter fun retest => retest.asOfDate ≤ asOf)).or
        (firstDeciding test (retests.filter fun retest => !decide (retest.asOfDate ≤ asOf))) := by
  have dated : (orderedRetests retests).Pairwise fun a b =>
      decide (b.asOfDate ≤ asOf) = true → decide (a.asOfDate ≤ asOf) = true := by
    refine (List.pairwise_insertionSort _ retests).imp ?_
    intro a b before late
    exact decide_eq_true (le_trans before (of_decide_eq_true late))
  have split := filter_append_filter_not dated
  rw [firstDeciding, firstDeciding, firstDeciding, orderedRetests_filter, orderedRetests_filter,
    ← List.find?_append, split]

theorem isBreach_of_returns {test : CovenantTest} {retests : List CovenantTest}
    {asOf : Option Date} {result : CureResult}
    (returned : cureState test retests asOf = .ok result) : IsBreach test := by
  obtain ⟨initial, read, rest⟩ := Except.bind_eq_ok_iff.mp returned
  by_cases breach : initial = "breach".toList ∨ initial = "breach_cure_open".toList
  · rcases breach with rfl | rfl
    · exact Or.inl read
    · exact Or.inr read
  · rw [if_neg breach] at rest
    cases rest

/-- Without the retests dated later the state is the same, unless it reads ahead. -/
theorem stateAsOf_filter_iff {test : CovenantTest} (breach : IsBreach test)
    (retests : List CovenantTest) (asOf : Date) :
    stateAsOf test (retests.filter fun retest => retest.asOfDate ≤ asOf) asOf =
        stateAsOf test retests asOf ↔ ¬ ReadsAhead test retests asOf := by
  have split := firstDeciding_split test retests asOf
  cases first : firstDeciding test (retests.filter fun retest => retest.asOfDate ≤ asOf) with
  | some early =>
    obtain ⟨member, deciding⟩ := firstDeciding_spec first
    rw [List.mem_filter, decide_eq_true_iff] at member
    have calm : ¬ ReadsAhead test retests asOf := by
      intro ahead
      have idle := ahead.2 early member.1 member.2
      rw [deciding] at idle
      cases idle
    have same : stateAsOf test (retests.filter fun retest => retest.asOfDate ≤ asOf) asOf =
        stateAsOf test retests asOf := by
      rw [stateAsOf, stateAsOf, cureState_congr (by rw [split, first, Option.some_or])]
    exact iff_of_true same calm
  | none =>
    rw [first, Option.none_or] at split
    have idle := firstDeciding_eq_none.mp first
    cases ahead : firstDeciding test
        (retests.filter fun retest => !decide (retest.asOfDate ≤ asOf)) with
    | none =>
      have same : stateAsOf test (retests.filter fun retest => retest.asOfDate ≤ asOf) asOf =
          stateAsOf test retests asOf := by
        rw [stateAsOf, stateAsOf, cureState_congr (by rw [split, first, ahead])]
      refine iff_of_true same ?_
      intro reads
      obtain ⟨later, member, after, deciding⟩ := reads.1
      have none := firstDeciding_eq_none.mp ahead later
        (List.mem_filter.mpr ⟨member, by simpa using after⟩)
      rw [deciding] at none
      cases none
    | some late =>
      obtain ⟨member, deciding⟩ := firstDeciding_spec ahead
      rw [List.mem_filter, Bool.not_eq_true', decide_eq_false_iff_not, not_le] at member
      have reads : ReadsAhead test retests asOf := by
        refine ⟨⟨late, member.1, member.2, deciding⟩, ?_⟩
        intro earlier listed before
        exact idle earlier (List.mem_filter.mpr ⟨listed, decide_eq_true before⟩)
      obtain ⟨ends, window⟩ : ∃ ends, cureEnd test = .ok (some ends) := by
        unfold decidesCure at deciding
        split at deciding
        · exact ⟨_, ‹_›⟩
        · cases deciding
      refine iff_of_false ?_ (not_not_intro reads)
      rw [stateAsOf_eq breach window, stateAsOf_eq breach window, split, first, ahead]
      cases read : verdict late with
      | error error => simp [Except.map, read]
      | ok value => by_cases inside : asOf ≤ ends <;> simp [Except.map, read, inside]

/-- A breach that is cured as of one date is cured as of every date. -/
theorem stateAsOf_cured {test : CovenantTest} {retests : List CovenantTest} {asOf : Date}
    (cured : stateAsOf test retests asOf = .ok .cured) (other : Date) :
    stateAsOf test retests other = .ok .cured := by
  have breach : IsBreach test := by
    cases returned : cureState test retests (some asOf) with
    | error error => simp [stateAsOf, returned, Except.map] at cured
    | ok result => exact isBreach_of_returns returned
  cases ended : cureEnd test with
  | error error =>
    rcases breach with read | read <;>
      simp [stateAsOf, cureState, read, ended, bind, Except.bind, Except.map] at cured
  | ok window =>
    cases window with
    | none =>
      rcases breach with read | read <;>
        simp [stateAsOf, cureState, read, ended, bind, Except.bind, Except.map, windowResult]
          at cured
    | some ends =>
      rw [stateAsOf_eq breach ended] at cured ⊢
      cases first : firstDeciding test retests with
      | some retest =>
        rw [first] at cured
        exact cured
      | none =>
        rw [first] at cured
        by_cases inside : asOf ≤ ends <;> simp [inside] at cured

/-- The state as of a date is a function of the retests up to it and of the later deciding
    ones; the later ones matter exactly when the state reads ahead; a cure is not undone. -/
theorem cureState_point_in_time (test : CovenantTest) (asOf : Date) :
    (∀ retests retests', retests.filter (counts test asOf) = retests'.filter (counts test asOf) →
      cureState test retests (some asOf) = cureState test retests' (some asOf)) ∧
    (IsBreach test → ∀ retests,
      (stateAsOf test (retests.filter fun retest => retest.asOfDate ≤ asOf) asOf =
        stateAsOf test retests asOf ↔ ¬ ReadsAhead test retests asOf)) ∧
    ∀ retests later, asOf ≤ later → stateAsOf test retests asOf = .ok .cured →
      stateAsOf test retests later = .ok .cured := by
  refine ⟨?_, fun breach retests => stateAsOf_filter_iff breach retests asOf,
    fun retests later _ cured => stateAsOf_cured cured later⟩
  intro retests retests' same
  have kept : ∀ retest, decidesCure test retest = true → counts test asOf retest = true := by
    intro retest deciding
    rw [counts, deciding, Bool.or_true]
  have first : firstDeciding test retests = firstDeciding test retests' := by
    rw [← firstDeciding_filter retests kept, same, firstDeciding_filter retests' kept]
  exact cureState_congr first asOf

/-- The breach of a year end, with thirty days to cure it. -/
def yearEndBreach : CovenantTest :=
  ⟨"breach".toList, ⟨2025, 12, 31, by decide⟩, none, some 30⟩

/-- A pass two weeks into the window. -/
def midJanuaryPass : CovenantTest := ⟨"pass".toList, ⟨2026, 1, 15, by decide⟩, none, none⟩

/-- `cureState_point_in_time` for the year-end breach on 20 January. -/
theorem cureState_point_in_time_january :
    stateAsOf yearEndBreach [midJanuaryPass] ⟨2026, 3, 1, by decide⟩ = .ok .cured :=
  (cureState_point_in_time yearEndBreach ⟨2026, 1, 20, by decide⟩).2.2 [midJanuaryPass]
    ⟨2026, 3, 1, by decide⟩ (by decide) (by decide)

/-- As of 10 January the breach is cured by the pass of 15 January. -/
theorem cureState_reads_ahead :
    stateAsOf yearEndBreach [midJanuaryPass] ⟨2026, 1, 10, by decide⟩ = .ok .cured ∧
      stateAsOf yearEndBreach [] ⟨2026, 1, 10, by decide⟩ = .ok .windowOpen ∧
      ¬ ∀ retests retests' : List CovenantTest,
        (retests.filter fun retest => retest.asOfDate ≤ ⟨2026, 1, 10, by decide⟩) =
            (retests'.filter fun retest => retest.asOfDate ≤ ⟨2026, 1, 10, by decide⟩) →
          stateAsOf yearEndBreach retests ⟨2026, 1, 10, by decide⟩ =
            stateAsOf yearEndBreach retests' ⟨2026, 1, 10, by decide⟩ := by
  have cured : stateAsOf yearEndBreach [midJanuaryPass] ⟨2026, 1, 10, by decide⟩ =
      .ok .cured := by decide
  have running : stateAsOf yearEndBreach [] ⟨2026, 1, 10, by decide⟩ = .ok .windowOpen := by
    decide
  refine ⟨cured, running, ?_⟩
  intro depends
  have same := depends [midJanuaryPass] [] (by decide)
  rw [cured, running] at same
  cases same

end CovenantRadar.Covenants
