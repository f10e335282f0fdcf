import CovenantRadar.Covenants.Evaluate

/-!
# Verdicts over the exact numbers

Source `domain/covenants/evaluate.py` and `domain/covenants/headroom.py`. With the exact arithmetic
the headroom of a value is its room to the threshold over the magnitude of the threshold, so the
sign of the headroom, the side that is recorded and the verdict are read off one comparison. The
boundary belongs to the breach; an approved waiver and the outcome of a condition decide before
the comparison does.
-/

namespace CovenantRadar.Covenants

open Forecast (Direction)

/-! ## The room of a value -/

/-- How far the value is on the safe side of the threshold. -/
def room (direction : Direction) (value threshold : ℚ) : ℚ :=
  match direction with
  | .min => value - threshold
  | .max => threshold - value

/-- The side of the threshold that a covenant forbids. -/
def wrongSide : Direction → ThresholdSide
  | .min => .below
  | .max => .above

/-- The value stands on the threshold or on the wrong side of it. -/
def AtOrBeyond (direction : Direction) (value threshold : ℚ) : Prop :=
  room direction value threshold ≤ 0

/-- Both kinds of breach. -/
def CovenantVerdict.IsBreach (verdict : CovenantVerdict) : Prop :=
  verdict = .breach ∨ verdict = .breachCureOpen

section

variable {direction : Direction} {value threshold : ℚ}

theorem exact_le (a b : ℚ) : Arithmetic.exact.le a b = decide (a ≤ b) := by
  unfold Arithmetic.le Arithmetic.exact
  by_cases after : b < a
  · simp [after]
  · simp [after, not_lt.mp after]

theorem exact_eq (a b : ℚ) : Arithmetic.exact.eq a b = decide (a = b) := by
  unfold Arithmetic.eq
  rw [exact_le, exact_le, ← Bool.decide_and, decide_eq_decide]
  exact le_antisymm_iff.symm

theorem ofInt_value_zero : Decimal.value (Decimal.ofInt 0) = 0 := by
  norm_num [Decimal.value, Decimal.magnitude, Decimal.ofInt]

theorem ofInt_value_hundred : Decimal.value (Decimal.ofInt 100) = 100 := by
  norm_num [Decimal.value, Decimal.magnitude, Decimal.ofInt]

theorem value_ne_zero {d : Decimal} (nonzero : d.coefficient ≠ 0) : d.value ≠ 0 := by
  have sized : d.magnitude ≠ 0 := fun zero => nonzero (Decimal.magnitude_eq_zero_iff.mp zero)
  unfold Decimal.value
  split_ifs
  · exact neg_ne_zero.mpr sized
  · exact sized

theorem signedHeadroom_exact (nonzero : threshold ≠ 0) :
    signedHeadroom Arithmetic.exact value threshold direction =
      .ok (room direction value threshold / |threshold| * 100) := by
  unfold signedHeadroom
  rw [exact_eq]
  have guarded : ¬ threshold = Arithmetic.exact.ofDecimal (Decimal.ofInt 0) := by
    intro zero
    exact nonzero (zero.trans ofInt_value_zero)
  rw [if_neg (by rw [decide_eq_true_eq]; exact guarded)]
  have percent : Arithmetic.exact.ofDecimal (Decimal.ofInt 100) = 100 := ofInt_value_hundred
  cases direction with
  | min =>
    exact congrArg (fun hundred => Except.ok ((value - threshold) / |threshold| * hundred)) percent
  | max =>
    exact congrArg (fun hundred => Except.ok ((threshold - value) / |threshold| * hundred)) percent

theorem headroom_neg_iff (nonzero : threshold ≠ 0) :
    room direction value threshold / |threshold| * 100 < 0 ↔
      room direction value threshold < 0 := by
  have magnitude : 0 < |threshold| := abs_pos.mpr nonzero
  rw [← not_le, ← not_le, mul_nonneg_iff_of_pos_right (by norm_num : (0 : ℚ) < 100),
    le_div_iff₀ magnitude, zero_mul]

theorem headroom_eq_zero_iff (nonzero : threshold ≠ 0) :
    room direction value threshold / |threshold| * 100 = 0 ↔
      room direction value threshold = 0 := by
  have magnitude : |threshold| ≠ 0 := abs_ne_zero.mpr nonzero
  simp [magnitude]

theorem headroom_pos_iff (nonzero : threshold ≠ 0) :
    0 < room direction value threshold / |threshold| * 100 ↔
      0 < room direction value threshold := by
  have magnitude : 0 < |threshold| := abs_pos.mpr nonzero
  rw [mul_pos_iff_of_pos_right (by norm_num : (0 : ℚ) < 100), div_pos_iff_of_pos_right magnitude]

/-- The recorded side, read off the room. -/
theorem comparison_side_wrong_iff {observed : Decimal} {name : String} :
    (comparison Arithmetic.exact name threshold observed).side = wrongSide direction ↔
      room direction observed.value threshold < 0 := by
  unfold comparison
  simp only
  rw [exact_eq]
  have lt : Arithmetic.exact.lt threshold (Arithmetic.exact.ofDecimal observed) =
      decide (threshold < observed.value) := rfl
  have eq : Arithmetic.exact.ofDecimal observed = observed.value := rfl
  rw [lt, eq]
  rcases lt_trichotomy observed.value threshold with below | same | above
  · have different : ¬ observed.value = threshold := below.ne
    have notAbove : ¬ threshold < observed.value := not_lt.mpr below.le
    cases direction <;> simp [different, notAbove, wrongSide, room, below]
  · cases direction <;> simp [same, wrongSide, room]
  · have different : ¬ observed.value = threshold := above.ne'
    cases direction <;> simp [different, above, wrongSide, room, above.le]

theorem comparison_side_at_iff {observed : Decimal} {name : String} :
    (comparison Arithmetic.exact name threshold observed).side = .at' ↔
      room direction observed.value threshold = 0 := by
  have side : (comparison Arithmetic.exact name threshold observed).side = .at' ↔
      observed.value = threshold := by
    unfold comparison
    simp only
    rw [exact_eq]
    split_ifs with same above
    · exact iff_of_true rfl (of_decide_eq_true same)
    · exact iff_of_false (by simp) fun equal => same (decide_eq_true equal)
    · exact iff_of_false (by simp) fun equal => same (decide_eq_true equal)
  rw [side]
  cases direction with
  | min => exact sub_eq_zero.symm
  | max => exact eq_comm.trans sub_eq_zero.symm

theorem atOrBeyondBoundary_exact :
    atOrBeyondBoundary Arithmetic.exact value threshold direction = true ↔
      AtOrBeyond direction value threshold := by
  unfold AtOrBeyond room
  cases direction with
  | min =>
    rw [atOrBeyondBoundary, exact_le, decide_eq_true_eq]
    exact sub_nonpos.symm
  | max =>
    rw [atOrBeyondBoundary, exact_le, decide_eq_true_eq]
    exact sub_nonpos.symm

end

/-! ## The evaluation of a value -/

section

variable {version : CovenantVersionFacts} {value : Decimal} {outcome : Option Bool}
  {period : PeriodFacts} {exception : Option ExceptionFacts} {waiver : Option WaiverFacts}

/-- No cure window that the covenant allows ends after the last day of the calendar. -/
def CureWindowFits (version : CovenantVersionFacts) (period : PeriodFacts) : Prop :=
  ∀ days ∈ version.cureDays, ∀ date ∈ period.date, 0 < days → (date.addDays days.toNat).isSome

/-- The threshold in force, as a number. -/
def effectiveThreshold (version : CovenantVersionFacts) (exception : Option ExceptionFacts) : ℚ :=
  (thresholdUnder version.threshold exception).value

/-- The headroom of a value over the threshold in force. -/
def exactHeadroom (version : CovenantVersionFacts) (value : Decimal)
    (exception : Option ExceptionFacts) : ℚ :=
  room version.direction value.value (effectiveThreshold version exception) /
    |effectiveThreshold version exception| * 100

/-- The verdict on a value. -/
def exactVerdict (version : CovenantVersionFacts) (value : Decimal) (outcome : Option Bool)
    (period : PeriodFacts) (exception : Option ExceptionFacts) (waiver : Option WaiverFacts) :
    CovenantVerdict :=
  if (approvedWaiver waiver).isSome then .pass
  else valueVerdict Arithmetic.exact version value (thresholdUnder version.threshold exception)
    (exactHeadroom version value exception) outcome period.date

/-- The threshold in force is never zero: a relaxed one of zero is passed over. -/
theorem effectiveThreshold_ne_zero (version : CovenantVersionFacts)
    (exception : Option ExceptionFacts) : effectiveThreshold version exception ≠ 0 := by
  unfold effectiveThreshold
  apply value_ne_zero
  unfold thresholdUnder
  split
  · exact version.nonzero
  · split_ifs with zero
    · exact version.nonzero
    · exact zero

theorem warningThreshold_exact (threshold pct : ℚ) (direction : Direction) :
    ∃ line, warningThreshold Arithmetic.exact threshold direction pct = .ok line := by
  cases direction with
  | min => exact ⟨_, rfl⟩
  | max => exact ⟨_, rfl⟩

theorem breachVerdict_isBreach (cureDays : Option Int) (testDate : Option Date) :
    (breachVerdict cureDays testDate).IsBreach := by
  unfold breachVerdict
  split_ifs
  · exact .inr rfl
  · exact .inl rfl

theorem breachVerdict_cureOpen_iff {cureDays : Option Int} {testDate : Option Date} :
    breachVerdict cureDays testDate = .breachCureOpen ↔
      (∃ days ∈ cureDays, 0 < days) ∧ testDate.isSome := by
  unfold breachVerdict
  split_ifs with both
  · rw [Bool.and_eq_true, Option.any_eq_true] at both
    simpa using both
  · rw [Bool.and_eq_true, Option.any_eq_true] at both
    simpa using both

theorem breachVerdict_ne_warning (cureDays : Option Int) (testDate : Option Date) :
    breachVerdict cureDays testDate ≠ .warning := by
  unfold breachVerdict
  split_ifs <;> nofun

/-- A verdict on a value is a breach by the outcome of the condition, or else by the comparison. -/
theorem exactVerdict_isBreach_iff :
    (exactVerdict version value outcome period exception waiver).IsBreach ↔
      approvedWaiver waiver = none ∧
        (outcome = some false ∨ outcome = none ∧
          AtOrBeyond version.direction value.value (effectiveThreshold version exception)) := by
  have safe : ¬ CovenantVerdict.IsBreach .pass := nofun
  have warned : ¬ CovenantVerdict.IsBreach .warning := nofun
  unfold exactVerdict
  cases approved : approvedWaiver waiver with
  | some facts => exact iff_of_false safe nofun
  | none =>
    simp only [Option.isSome_none, Bool.false_eq_true, if_false, true_and]
    unfold valueVerdict verdictForCondition
    cases outcome with
    | some met =>
      cases met with
      | true => exact iff_of_false safe (by simp)
      | false => exact iff_of_true (breachVerdict_isBreach _ _) (.inl rfl)
    | none =>
      have boundary : atOrBeyondBoundary Arithmetic.exact (Arithmetic.exact.ofDecimal value)
          (Arithmetic.exact.ofDecimal (thresholdUnder version.threshold exception))
          version.direction = true ↔
          AtOrBeyond version.direction value.value (effectiveThreshold version exception) :=
        atOrBeyondBoundary_exact
      simp only
      split_ifs with beyond near
      · exact iff_of_true (breachVerdict_isBreach _ _) (.inr ⟨trivial, boundary.mp beyond⟩)
      · exact iff_of_false warned (by simpa using mt boundary.mpr beyond)
      · exact iff_of_false safe (by simpa using mt boundary.mpr beyond)

/-- A warning is a comparison's, on the safe side and within the warning headroom. -/
theorem exactVerdict_warning_iff :
    exactVerdict version value outcome period exception waiver = .warning ↔
      approvedWaiver waiver = none ∧ outcome = none ∧
        ¬ AtOrBeyond version.direction value.value (effectiveThreshold version exception) ∧
        ∃ warning ∈ version.warningHeadroomPct,
          exactHeadroom version value exception ≤ warning.value := by
  unfold exactVerdict
  cases approved : approvedWaiver waiver with
  | some facts => exact iff_of_false nofun nofun
  | none =>
    simp only [Option.isSome_none, Bool.false_eq_true, if_false, true_and]
    unfold valueVerdict verdictForCondition
    cases outcome with
    | some met =>
      cases met with
      | true => exact iff_of_false nofun nofun
      | false => exact iff_of_false (breachVerdict_ne_warning _ _) nofun
    | none =>
      have boundary : atOrBeyondBoundary Arithmetic.exact (Arithmetic.exact.ofDecimal value)
          (Arithmetic.exact.ofDecimal (thresholdUnder version.threshold exception))
          version.direction = true ↔
          AtOrBeyond version.direction value.value (effectiveThreshold version exception) :=
        atOrBeyondBoundary_exact
      have within : ∀ headroom : ℚ, (version.warningHeadroomPct.any fun warning =>
          Arithmetic.exact.le headroom (Arithmetic.exact.ofDecimal warning)) = true ↔
          ∃ warning ∈ version.warningHeadroomPct, headroom ≤ warning.value := by
        intro headroom
        rw [Option.any_eq_true]
        refine exists_congr fun warning => and_congr_right fun _ => ?_
        rw [exact_le, decide_eq_true_eq]
        exact Iff.rfl
      simp only
      split_ifs with beyond near
      · refine iff_of_false (breachVerdict_ne_warning _ _) ?_
        rintro ⟨_, above, _⟩
        exact above (boundary.mp beyond)
      · exact iff_of_true rfl ⟨trivial, mt boundary.mpr beyond, (within _).mp near⟩
      · refine iff_of_false nofun ?_
        rintro ⟨_, _, close⟩
        exact near ((within _).mpr close)

theorem isComputed_warnings (threshold : ℚ) (direction : Direction) (given : List Decimal) :
    ∃ lines, (given.mapM fun pct => warningThreshold Arithmetic.exact threshold direction
      (Arithmetic.exact.ofDecimal pct)) = .ok lines := by
  rw [mapM_returns_iff]
  intro pct _
  exact warningThreshold_exact threshold (Arithmetic.exact.ofDecimal pct) direction

/-- Only the end of the cure window is left to raise. -/
theorem evaluateValue_exact (version : CovenantVersionFacts) (value : Decimal)
    (outcome : Option Bool) (period : PeriodFacts) (exception : Option ExceptionFacts)
    (waiver : Option WaiverFacts) :
    ∃ lines, evaluateValue Arithmetic.exact version value outcome period exception waiver =
      (cureWindowEnd (if exactVerdict version value outcome period exception waiver =
        .breachCureOpen then version.cureDays else none) period.date).map fun ends =>
      { value := some value
        thresholdUsed := thresholdUnder version.threshold exception
        headroomPct := some (exactHeadroom version value exception)
        verdict := exactVerdict version value outcome period exception waiver
        exceptionApplied := exception
        waiverApplied := approvedWaiver waiver
        cureEndsOn := ends
        thresholdsCompared := comparison Arithmetic.exact "covenant_threshold"
          (effectiveThreshold version exception) value :: lines } := by
  obtain ⟨warnings, computed⟩ := isComputed_warnings (effectiveThreshold version exception)
    version.direction version.warningHeadroomPct.toList
  have headroom : signedHeadroom Arithmetic.exact (Arithmetic.exact.ofDecimal value)
      (effectiveThreshold version exception) version.direction =
      .ok (exactHeadroom version value exception) :=
    signedHeadroom_exact (effectiveThreshold_ne_zero version exception)
  refine ⟨warnings.map fun line => comparison Arithmetic.exact "warning_threshold" line value, ?_⟩
  have unfolded : evaluateValue Arithmetic.exact version value outcome period exception waiver =
      (do
        let headroom ← signedHeadroom Arithmetic.exact (Arithmetic.exact.ofDecimal value)
          (effectiveThreshold version exception) version.direction
        let warning ← version.warningHeadroomPct.toList.mapM fun pct =>
          warningThreshold Arithmetic.exact (effectiveThreshold version exception)
            version.direction (Arithmetic.exact.ofDecimal pct)
        let verdict :=
          if (approvedWaiver waiver).isSome then .pass
          else valueVerdict Arithmetic.exact version value
            (thresholdUnder version.threshold exception) headroom outcome period.date
        let ends ← cureWindowEnd (if verdict = .breachCureOpen then version.cureDays else none)
          period.date
        .ok {
          value := some value
          thresholdUsed := thresholdUnder version.threshold exception
          headroomPct := some headroom
          verdict := verdict
          exceptionApplied := exception
          waiverApplied := approvedWaiver waiver
          cureEndsOn := ends
          thresholdsCompared := comparison Arithmetic.exact "covenant_threshold"
              (effectiveThreshold version exception) value ::
            warning.map fun line => comparison Arithmetic.exact "warning_threshold" line value }) :=
    rfl
  rw [unfolded, headroom, computed]
  rfl

/-- The end of the window raises exactly when an open cure window does not fit the calendar. -/
theorem cureWindowEnd_cases (verdict : CovenantVerdict) (cureDays : Option Int)
    (testDate : Option Date) :
    (∃ ends, cureWindowEnd (if verdict = .breachCureOpen then cureDays else none) testDate =
        .ok ends) ∨
      verdict = .breachCureOpen ∧
        (∃ days ∈ cureDays, ∃ date ∈ testDate, 0 < days ∧ date.addDays days.toNat = none) ∧
        cureWindowEnd (if verdict = .breachCureOpen then cureDays else none) testDate =
          .error (.overflowError "date value out of range") := by
  by_cases opened : verdict = .breachCureOpen
  · rw [if_pos opened]
    cases cureDays with
    | none => exact .inl ⟨none, rfl⟩
    | some days =>
      cases testDate with
      | none => exact .inl ⟨none, rfl⟩
      | some date =>
        unfold cureWindowEnd
        by_cases counted : days ≤ 0
        · exact .inl ⟨none, if_pos counted⟩
        · simp only [if_neg counted]
          cases added : date.addDays days.toNat with
          | some ends => exact .inl ⟨some ends, rfl⟩
          | none => exact .inr ⟨opened, ⟨days, rfl, date, rfl, not_le.mp counted, added⟩, rfl⟩
  · rw [if_neg opened]
    exact .inl ⟨none, rfl⟩

/-- A breach that is not given an open cure window has none to give. -/
theorem cureWindowFits_of_breach
    (breached : exactVerdict version value outcome period exception waiver = .breach) :
    CureWindowFits version period := by
  have closed : breachVerdict version.cureDays period.date = .breach := by
    unfold exactVerdict valueVerdict verdictForCondition at breached
    split at breached
    · cases breached
    · split at breached
      · split at breached
        · cases breached
        · exact breached
      · split at breached
        · exact breached
        · split at breached <;> cases breached
  intro days counted date dated positive
  have opened : breachVerdict version.cureDays period.date = .breachCureOpen :=
    breachVerdict_cureOpen_iff.mpr
      ⟨⟨days, counted, positive⟩, Option.isSome_iff_exists.mpr ⟨date, dated⟩⟩
  rw [opened] at closed
  cases closed

/-- The evaluation of a value is the one above, or else its cure window does not fit. -/
theorem evaluateCovenant_value (version : CovenantVersionFacts) (value : Decimal)
    (outcome : Option Bool) (period : PeriodFacts) (exception : Option ExceptionFacts)
    (waiver : Option WaiverFacts) (complete : period.isComplete = true) :
    (∃ evaluation, evaluateFacts Arithmetic.exact version (.computable value outcome) period
        exception waiver = .ok evaluation ∧
      evaluation.verdict = exactVerdict version value outcome period exception waiver ∧
      (evaluation.verdict = .breachCureOpen → CureWindowFits version period) ∧
      evaluation.headroomPct = some (exactHeadroom version value exception) ∧
      evaluation.thresholdsCompared.head? = some (comparison Arithmetic.exact
        "covenant_threshold" (effectiveThreshold version exception) value)) ∨
    evaluateFacts Arithmetic.exact version (.computable value outcome) period exception waiver =
        .error (.overflowError "date value out of range") ∧
      exactVerdict version value outcome period exception waiver = .breachCureOpen ∧
      ¬ CureWindowFits version period := by
  have evaluated : evaluateFacts Arithmetic.exact version (.computable value outcome) period
      exception waiver =
      evaluateValue Arithmetic.exact version value outcome period exception waiver := by
    unfold evaluateFacts
    rw [if_neg]
    rw [complete]
    nofun
  obtain ⟨lines, exactly⟩ := evaluateValue_exact version value outcome period exception waiver
  rw [evaluated, exactly]
  rcases cureWindowEnd_cases (exactVerdict version value outcome period exception waiver)
    version.cureDays period.date with ⟨ends, returned⟩ | ⟨opened, ⟨days, counted, date, dated,
      positive, late⟩, raised⟩
  · left
    rw [returned]
    refine ⟨_, rfl, rfl, ?_, rfl, rfl⟩
    intro opened days counted date dated positive
    have opened : exactVerdict version value outcome period exception waiver = .breachCureOpen :=
      opened
    rw [opened, if_pos rfl, counted, dated] at returned
    unfold cureWindowEnd at returned
    simp only [if_neg (not_le.mpr positive)] at returned
    cases added : date.addDays days.toNat with
    | none =>
      rw [added] at returned
      cases returned
    | some last => rfl
  · right
    rw [raised]
    refine ⟨rfl, opened, fun fits => ?_⟩
    have last := fits days counted date dated positive
    rw [late] at last
    cases last

/-- The covenant is broken by the value: by the outcome of a condition, or else because the value
    stands at or beyond the threshold in force. -/
def Adverse (version : CovenantVersionFacts) (value : Decimal) (outcome : Option Bool)
    (exception : Option ExceptionFacts) : Prop :=
  outcome = some false ∨
    outcome = none ∧ AtOrBeyond version.direction value.value (effectiveThreshold version exception)

/-- Without a complete period or a ratio there is neither a headroom nor a verdict on a value. -/
theorem evaluateFacts_unvalued {ratio : RatioResult}
    (unvalued : period.isComplete = false ∨ ∃ reason context, ratio = .notComputable reason context) :
    ∃ evaluation, evaluateFacts Arithmetic.exact version ratio period exception waiver =
        .ok evaluation ∧
      evaluation.headroomPct = none ∧
      (evaluation.verdict = .stale ∨ evaluation.verdict = .notComputable) := by
  unfold evaluateFacts
  split_ifs with stale
  · exact ⟨_, rfl, rfl, .inl rfl⟩
  · rcases unvalued with incomplete | ⟨reason, context, rfl⟩
    · exact absurd (.inl incomplete) stale
    · exact ⟨_, rfl, rfl, .inr rfl⟩

theorem evaluateCovenant_of_ok {ratio : RatioResult} {evaluation : CovenantEvaluation ℚ}
    (evaluated : evaluateFacts Arithmetic.exact version ratio period exception waiver =
      .ok evaluation) :
    evaluateCovenant Arithmetic.exact version ratio period exception waiver = evaluation := by
  unfold evaluateCovenant
  rw [evaluated]

theorem evaluateCovenant_of_error {ratio : RatioResult} {error : PyError}
    (raised : evaluateFacts Arithmetic.exact version ratio period exception waiver =
      .error error) :
    evaluateCovenant Arithmetic.exact version ratio period exception waiver =
      invalidEvaluation version.threshold := by
  unfold evaluateCovenant
  rw [raised]

/-- The verdict, the headroom and the recorded comparison agree: a breach is an unwaived value
    that breaks the covenant, the sign of the headroom is the side that is recorded, and a warning
    is a value on the safe side and within the warning headroom. What the evaluator catches is a
    cure window that ends after the last day of the calendar. -/
theorem evaluateCovenant_exact (version : CovenantVersionFacts) (ratio : RatioResult)
    (period : PeriodFacts) (exception : Option ExceptionFacts) (waiver : Option WaiverFacts) :
    (∀ error, evaluateFacts Arithmetic.exact version ratio period exception waiver =
        .error error → error = .overflowError "date value out of range") ∧
    (evaluateCovenant Arithmetic.exact version ratio period exception waiver).Valid ∧
    ((evaluateCovenant Arithmetic.exact version ratio period exception waiver).verdict.IsBreach ↔
      period.isComplete = true ∧ approvedWaiver waiver = none ∧ CureWindowFits version period ∧
        ∃ value outcome, ratio = .computable value outcome ∧
          Adverse version value outcome exception) ∧
    (∀ headroom ∈
        (evaluateCovenant Arithmetic.exact version ratio period exception waiver).headroomPct,
      ∃ line, (evaluateCovenant Arithmetic.exact version ratio period exception
          waiver).thresholdsCompared.head? = some line ∧
        line.name = "covenant_threshold".toList ∧
        (headroom < 0 ↔ line.side = wrongSide version.direction) ∧
        (headroom = 0 ↔ line.side = .at')) ∧
    ((evaluateCovenant Arithmetic.exact version ratio period exception waiver).verdict =
        .warning →
      ∃ headroom ∈
        (evaluateCovenant Arithmetic.exact version ratio period exception waiver).headroomPct,
        0 < headroom ∧ ∃ warning ∈ version.warningHeadroomPct, headroom ≤ warning.value) := by
  by_cases unvalued : period.isComplete = false ∨
      ∃ reason context, ratio = .notComputable reason context
  · obtain ⟨evaluation, evaluated, unmeasured, verdict⟩ :=
      @evaluateFacts_unvalued version period exception waiver ratio unvalued
    refine ⟨?_, evaluateCovenant_valid version ratio period exception waiver, ?_⟩
    · intro error raised
      rw [evaluated] at raised
      cases raised
    rw [evaluateCovenant_of_ok evaluated, unmeasured]
    refine ⟨iff_of_false ?_ ?_, nofun, ?_⟩
    · rintro (breached | opened)
      · rcases verdict with stale | missing
        · rw [stale] at breached
          cases breached
        · rw [missing] at breached
          cases breached
      · rcases verdict with stale | missing
        · rw [stale] at opened
          cases opened
        · rw [missing] at opened
          cases opened
    · rintro ⟨complete, _, _, value, outcome, rfl, _⟩
      rcases unvalued with incomplete | ⟨_, _, same⟩
      · rw [complete] at incomplete
        cases incomplete
      · cases same
    · intro warned
      rcases verdict with stale | missing
      · rw [stale] at warned
        cases warned
      · rw [missing] at warned
        cases warned
  · push Not at unvalued
    obtain ⟨notIncomplete, valued⟩ := unvalued
    have complete : period.isComplete = true := by simpa using notIncomplete
    cases ratio with
    | notComputable reason context => exact absurd rfl (valued reason context)
    | computable value outcome =>
      have nonzero := effectiveThreshold_ne_zero version exception
      rcases evaluateCovenant_value version value outcome period exception waiver complete with
        ⟨evaluation, evaluated, verdict, fits, measured, compared⟩ | ⟨raised, opened, late⟩
      · refine ⟨?_, evaluateCovenant_valid version _ period exception waiver, ?_⟩
        · intro error raised
          rw [evaluated] at raised
          cases raised
        rw [evaluateCovenant_of_ok evaluated, verdict, measured, compared]
        refine ⟨?_, ?_, ?_⟩
        · rw [exactVerdict_isBreach_iff]
          constructor
          · rintro ⟨unwaived, adverse⟩
            refine ⟨complete, unwaived, ?_, value, outcome, rfl, adverse⟩
            rcases exactVerdict_isBreach_iff.mpr ⟨unwaived, adverse⟩ with breached | opened
            · exact cureWindowFits_of_breach breached
            · exact fits (verdict.trans opened)
          · rintro ⟨_, unwaived, _, _, _, same, adverse⟩
            cases same
            exact ⟨unwaived, adverse⟩
        · rintro headroom ⟨⟩
          refine ⟨_, rfl, rfl, ?_, ?_⟩
          · rw [comparison_side_wrong_iff]
            exact headroom_neg_iff nonzero
          · rw [comparison_side_at_iff]
            exact headroom_eq_zero_iff nonzero
        · intro warned
          obtain ⟨_, _, safe, warning, given, within⟩ := exactVerdict_warning_iff.mp warned
          exact ⟨_, rfl, (headroom_pos_iff nonzero).mpr (not_le.mp safe), warning, given, within⟩
      · refine ⟨?_, evaluateCovenant_valid version _ period exception waiver, ?_⟩
        · intro error same
          rw [raised] at same
          cases same
          rfl
        rw [evaluateCovenant_of_error raised]
        refine ⟨iff_of_false ?_ ?_, nofun, nofun⟩
        · rintro (breached | opened)
          · cases breached
          · cases opened
        · rintro ⟨_, _, fits, _⟩
          exact late fits

/-- A value on the threshold is not on its wrong side, and is a breach. -/
theorem boundary_is_breach :
    ¬ ∀ (version : CovenantVersionFacts) (value : Decimal) (period : PeriodFacts)
      (exception : Option ExceptionFacts) (waiver : Option WaiverFacts),
      period.isComplete = true →
        ((evaluateCovenant Arithmetic.exact version (.computable value none) period exception
            waiver).verdict.IsBreach ↔
          room version.direction value.value (effectiveThreshold version exception) < 0) := by
  intro claimed
  have boundary := claimed
    { id := Uuid.ofInt 1, threshold := ⟨false, 2, 0⟩, direction := .max, warningHeadroomPct := none,
      cureDays := none, nonzero := by decide, warningNonneg := by simp, cureNonneg := by simp }
    ⟨false, 2, 0⟩ {} none none rfl
  have wrong := boundary.mp (.inl (by decide +kernel))
  exact lt_irrefl _ (wrong.trans_eq (sub_self _).symm)

end

end CovenantRadar.Covenants
