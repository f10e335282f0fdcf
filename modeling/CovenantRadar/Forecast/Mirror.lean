import CovenantRadar.Forecast.Crossing
import CovenantRadar.Forecast.Rescale

/-!
# Mirrored forecasts

The two directions are each other's mirror image: with every value and threshold negated
and the direction swapped, a fit, a projection and a crossing search do the same and
return the mirror image of what they returned.
-/

namespace CovenantRadar

namespace Forecast

/-- The other side of the threshold. -/
def Direction.swap : Direction → Direction
  | min => max
  | max => min

/-- An observation of the negated value. -/
def Observation.mirror (item : Observation) : Observation :=
  { item with value := item.value.map Neg.neg }

/-- A fit of the negated values. -/
def TrendResult.mirror (trend : TrendResult) : TrendResult :=
  { slope := -trend.slope
    perDayDrift := -trend.perDayDrift
    currentValue := trend.currentValue.map Neg.neg
    periodLengthDays := trend.periodLengthDays
    usableObservations := trend.usableObservations.map Observation.mirror
    excludedObservations := trend.excludedObservations.map Observation.mirror
    reason := trend.reason
    intercept := trend.intercept.map Neg.neg }

/-- A point of the mirrored path. -/
def PathPoint.mirror (point : PathPoint) : PathPoint :=
  { day := point.day
    value := point.value.map Neg.neg
    trendComponent := -point.trendComponent
    pressureComponent := -point.pressureComponent }

/-- A projection of the negated values towards the negated threshold. -/
def Projection.mirror (projection : Projection) : Projection :=
  { currentValue := projection.currentValue.map Neg.neg
    threshold := -projection.threshold
    direction := projection.direction.swap
    horizonDays := projection.horizonDays
    slope := -projection.slope
    perDayDrift := -projection.perDayDrift
    pressure := projection.pressure
    pressureTerm := -projection.pressureTerm
    netPerDayDrift := -projection.netPerDayDrift
    path := projection.path.map PathPoint.mirror
    trend := projection.trend.mirror
    pressureResult := projection.pressureResult
    requestedPressure := projection.requestedPressure
    reason := projection.reason
    length_path := by rw [List.length_map, projection.length_path]
    starts := by
      intro point first
      rw [List.head?_map] at first
      obtain ⟨start, given, rfl⟩ := Option.map_eq_some_iff.mp first
      exact projection.starts start given }

/-- A scheduled change to the negated threshold. -/
def ThresholdChange.mirror (change : ThresholdChange) : ThresholdChange :=
  { change with threshold := -change.threshold }

def ThresholdPoint.mirror (point : ThresholdPoint) : ThresholdPoint :=
  { point with threshold := -point.threshold }

/-- The reason of a mirrored result names the other direction. -/
def NoCrossing.mirror : NoCrossing → NoCrossing
  | improving direction => improving direction.swap
  | unavailableBefore => unavailableBefore
  | noValues => noValues
  | unavailable => unavailable
  | within => within

/-- The same day, date and margin on the negated path. -/
def Crossing.mirror (crossing : Crossing) : Crossing :=
  { crossing with value := -crossing.value, thresholdUsed := -crossing.thresholdUsed }

def CrossingResult.mirror (result : CrossingResult) : CrossingResult :=
  { direction := result.direction.swap
    threshold := -result.threshold
    path := result.path.map PathPoint.mirror
    thresholdPath := result.thresholdPath.map ThresholdPoint.mirror
    outcome := result.outcome.map NoCrossing.mirror Crossing.mirror
    asOfDate := result.asOfDate
    thresholdChanges := result.thresholdChanges.map ThresholdPoint.mirror }

/-! ## Fits -/

theorem rescale_neg_one : (fun value : ℚ => -1 * value + 0) = Neg.neg := by
  funext value
  ring

theorem Observation.mirror_eq (item : Observation) : item.mirror = item.rescale (-1) 0 := by
  rw [rescale, rescale_neg_one, mirror]

theorem map_mirror_eq (items : List Observation) :
    items.map Observation.mirror = items.map (Observation.rescale (-1) 0) :=
  List.map_congr_left fun item _ => item.mirror_eq

theorem TrendResult.mirror_eq (trend : TrendResult) : trend.mirror = trend.rescale (-1) 0 := by
  rw [rescale, rescale_neg_one, mirror, map_mirror_eq, map_mirror_eq, neg_one_mul, neg_one_mul]

/-- Negation is the rescaling by minus one. -/
theorem fitTrend_mirror (series : List Observation) (recentPeriods : Option Int)
    (periodDays : Option ℚ) :
    fitTrend (series.map Observation.mirror) recentPeriods periodDays =
      (fitTrend series recentPeriods periodDays).map TrendResult.mirror := by
  have mirrored : TrendResult.mirror = TrendResult.rescale (-1) 0 :=
    funext TrendResult.mirror_eq
  rw [map_mirror_eq, fitTrend_rescale, mirrored]

/-! ## Projections -/

theorem TrendResult.mirror_hasSufficientObservations (trend : TrendResult) :
    trend.mirror.hasSufficientObservations ↔ trend.hasSufficientObservations := by
  rw [trend.mirror_eq]
  exact trend.rescale_hasSufficientObservations (-1) 0

theorem signedPressure_swap (magnitude : ℚ) (direction : Direction) :
    signedPressure magnitude direction.swap = -signedPressure magnitude direction := by
  cases direction with
  | min => exact (neg_neg _).symm
  | max => rfl

theorem dailyPath_neg (current : Option ℚ) (drift pressureTerm : ℚ) (horizonDays : Nat) :
    dailyPath (current.map Neg.neg) (-drift) (-pressureTerm) horizonDays =
      (dailyPath current drift pressureTerm horizonDays).map PathPoint.mirror := by
  unfold dailyPath
  rw [List.map_map]
  apply List.map_congr_left
  intro day _
  cases current with
  | none => simp [PathPoint.mirror]
  | some value =>
    simp only [PathPoint.mirror, Option.map_some, Function.comp_apply, PathPoint.mk.injEq,
      Option.some.injEq]
    refine ⟨trivial, ?_, by ring, by ring⟩
    ring

theorem projectTrend_mirror (trend : TrendResult) (carried : Option PressureResult)
    (requested signed threshold : ℚ) (horizonDays : Nat) (direction : Direction) :
    projectTrend trend.mirror carried requested (-signed) horizonDays (-threshold)
        direction.swap =
      (projectTrend trend carried requested signed horizonDays threshold direction).mirror := by
  have effective : (if trend.hasSufficientObservations then -signed else 0) =
      -(if trend.hasSufficientObservations then signed else 0) := by
    split_ifs
    · rfl
    · exact neg_zero.symm
  unfold projectTrend Projection.mirror
  simp only [TrendResult.mirror_hasSufficientObservations]
  simp only [effective, TrendResult.mirror, dailyPath_neg, neg_add]
  rfl

/-- The mirrored series is projected on the mirrored path, or refused alike. -/
theorem project_mirror (series : List Observation) (pressure : Pressure) (horizonDays : Int)
    (threshold : ℚ) (direction : Direction) (recentPeriods : Option Int) (periodDays : Option ℚ) :
    project (series.map Observation.mirror) pressure horizonDays (-threshold) direction.swap
        recentPeriods periodDays =
      (project series pressure horizonDays threshold direction recentPeriods periodDays).map
        Projection.mirror := by
  unfold project
  rw [fitTrend_mirror, pressureValues_eq, pressureValues_eq]
  by_cases past : horizonDays < 0
  · rw [if_pos past, if_pos past]
    rfl
  · rw [if_neg past, if_neg past]
    cases fitTrend series recentPeriods periodDays with
    | error error => rfl
    | ok trend =>
      by_cases negative : pressure.magnitude < 0
      · rw [if_pos negative, if_pos negative]
        rfl
      · rw [if_neg negative, if_neg negative, signedPressure_swap]
        exact congrArg Except.ok (projectTrend_mirror trend _ _ _ threshold _ direction)

/-! ## Crossings -/

theorem breaches_neg (value threshold : ℚ) (direction : Direction) :
    breaches (-value) (-threshold) direction.swap = breaches value threshold direction := by
  cases direction with
  | min => simp [breaches, Direction.swap]
  | max => simp [breaches, Direction.swap]

theorem breachMargin_neg (value threshold : ℚ) (direction : Direction) :
    breachMargin (-value) (-threshold) direction.swap = breachMargin value threshold direction := by
  cases direction with
  | min => exact neg_sub_neg value threshold
  | max => exact neg_sub_neg threshold value

theorem changeRecord_mirror (asOf : Option Date) (change : ThresholdChange) :
    changeRecord asOf change.mirror = (changeRecord asOf change).map ThresholdPoint.mirror := by
  unfold changeRecord ThresholdChange.mirror
  cases change.effective with
  | day day => rfl
  | date date =>
    cases asOf with
    | none => rfl
    | some asOf =>
      simp only
      split_ifs
      · rfl
      · rfl

theorem normaliseChange_mirror (asOf : Option Date) (horizonDays : Nat)
    (change : ThresholdChange) :
    normaliseChange asOf horizonDays change.mirror =
      (normaliseChange asOf horizonDays change).map ThresholdPoint.mirror := by
  unfold normaliseChange
  rw [changeRecord_mirror]
  cases changeRecord asOf change with
  | error error => rfl
  | ok point =>
    simp only [Except.map, Bind.bind, Except.bind, ThresholdPoint.mirror]
    split_ifs
    · rfl
    · rfl

theorem normaliseChanges_mirror (changes : List ThresholdChange) (asOf : Option Date)
    (horizonDays : Nat) :
    normaliseChanges (changes.map ThresholdChange.mirror) asOf horizonDays =
      (normaliseChanges changes asOf horizonDays).map (List.map ThresholdPoint.mirror) := by
  unfold normaliseChanges
  rw [mapM_map_comm fun change => normaliseChange_mirror asOf horizonDays change]
  cases changes.mapM (normaliseChange asOf horizonDays) with
  | error error => rfl
  | ok points =>
    have sorted : (points.map ThresholdPoint.mirror).insertionSort (fun a b => a.day ≤ b.day) =
        (points.insertionSort fun a b => a.day ≤ b.day).map ThresholdPoint.mirror := by
      refine (List.map_insertionSort (fun a b : ThresholdPoint => a.day ≤ b.day)
        (fun a b : ThresholdPoint => a.day ≤ b.day) _ points ?_).symm
      intro a _ b _
      exact Iff.rfl
    have days : ∀ points : List ThresholdPoint,
        (points.map ThresholdPoint.mirror).map (·.day) = points.map (·.day) := by
      intro points
      rw [List.map_map]
      rfl
    simp only [Except.map, Bind.bind, Except.bind, sorted, days]
    split_ifs
    · rfl
    · rfl

theorem changeOn_mirror (changes : List ThresholdPoint) (day : Nat) :
    changeOn (changes.map ThresholdPoint.mirror) day = (changeOn changes day).map Neg.neg := by
  unfold changeOn
  rw [List.find?_map, Option.map_map, Option.map_map]
  rfl

theorem thresholdPath_mirror (changes : List ThresholdPoint) (active : ℚ)
    (path : List PathPoint) :
    thresholdPath (changes.map ThresholdPoint.mirror) (-active) (path.map PathPoint.mirror) =
      (thresholdPath changes active path).map ThresholdPoint.mirror := by
  induction path generalizing active with
  | nil => rfl
  | cons point path ih =>
    have held : ((changeOn changes point.day).map Neg.neg).getD (-active) =
        -((changeOn changes point.day).getD active) := by
      cases changeOn changes point.day with
      | none => rfl
      | some threshold => rfl
    have day : point.mirror.day = point.day := rfl
    simp only [List.map_cons, thresholdPath, day, changeOn_mirror, held, ih]
    rfl

/-- What the loop ends with on the mirrored path. -/
def Scan.mirror : Scan → Scan
  | crossed day value threshold => crossed day (-value) (-threshold)
  | blocked => blocked
  | clear missing => clear missing

theorem scan_mirror (direction : Direction) (missing : Bool)
    (days : List (PathPoint × ThresholdPoint)) :
    scan direction.swap missing (days.map (Prod.map PathPoint.mirror ThresholdPoint.mirror)) =
      (scan direction missing days).mirror := by
  induction days generalizing missing with
  | nil => rfl
  | cons pair days ih =>
    obtain ⟨point, bound⟩ := pair
    cases known : point.value with
    | none =>
      rw [List.map_cons, Prod.map_apply, scan, scan, known]
      simp only [PathPoint.mirror, known, Option.map_none]
      exact ih true
    | some value =>
      rw [List.map_cons, Prod.map_apply, scan, scan, known]
      simp only [PathPoint.mirror, ThresholdPoint.mirror, known, Option.map_some, breaches_neg]
      split_ifs
      · rfl
      · rfl
      · exact ih missing

theorem isImproving_mirror (path : List PathPoint) (direction : Direction) :
    isImproving (path.map PathPoint.mirror) direction.swap = isImproving path direction := by
  have values : (path.map PathPoint.mirror).filterMap (·.value) =
      (path.filterMap (·.value)).map Neg.neg := by
    rw [List.filterMap_map, List.map_filterMap]
    rfl
  unfold isImproving
  rw [values]
  cases path.filterMap (·.value) with
  | nil => rfl
  | cons first rest =>
    cases rest with
    | nil => rfl
    | cons second rest =>
      have last : (-second :: rest.map Neg.neg).getLast (List.cons_ne_nil _ _) =
          -(second :: rest).getLast (List.cons_ne_nil _ _) :=
        @List.getLast_map _ _ Neg.neg (second :: rest) (List.cons_ne_nil _ _)
      simp only [List.map_cons, last]
      cases direction with
      | min => simp [Direction.swap]
      | max => simp [Direction.swap]

theorem clearReason_mirror (path : List PathPoint) (direction : Direction) (missing : Bool) :
    clearReason (path.map PathPoint.mirror) direction.swap missing =
      (clearReason path direction missing).mirror := by
  have absent : (path.map PathPoint.mirror).all (fun point => point.value.isNone) =
      path.all fun point => point.value.isNone := by
    rw [List.all_map]
    congr 1
    funext point
    exact Option.isNone_map
  unfold clearReason
  rw [absent, isImproving_mirror]
  split_ifs <;> rfl

/-- The mirrored projection crosses on the same day by the same margin, or is refused
    alike. -/
theorem firstCrossing_mirror (projection : Projection) (asOf : Option Date)
    (changes : List ThresholdChange) :
    firstCrossing projection.mirror asOf (changes.map ThresholdChange.mirror) =
      (firstCrossing projection asOf changes).map CrossingResult.mirror := by
  have resolved : resolveAsOf asOf projection.mirror = resolveAsOf asOf projection := by
    unfold resolveAsOf Projection.mirror TrendResult.mirror
    rw [List.getLast?_map, Option.map_map]
    rfl
  have horizon : projection.mirror.path.length = projection.path.length := List.length_map _
  unfold firstCrossing
  simp only [resolved, horizon, normaliseChanges_mirror]
  cases normaliseChanges changes (resolveAsOf asOf projection) (projection.path.length - 1) with
  | error error => rfl
  | ok points =>
    have bounds : thresholdPath (points.map ThresholdPoint.mirror) projection.mirror.threshold
        projection.mirror.path = (thresholdPath points projection.threshold projection.path).map
          ThresholdPoint.mirror := thresholdPath_mirror points projection.threshold projection.path
    have scanned : scan projection.mirror.direction false (projection.mirror.path.zip
        ((thresholdPath points projection.threshold projection.path).map ThresholdPoint.mirror)) =
        (scan projection.direction false (projection.path.zip
          (thresholdPath points projection.threshold projection.path))).mirror := by
      rw [← scan_mirror, ← List.zip_map]
      rfl
    simp only [Except.map, Bind.bind, Except.bind, bounds, scanned]
    cases scan projection.direction false (projection.path.zip
        (thresholdPath points projection.threshold projection.path)) with
    | crossed day value threshold =>
      have margin := breachMargin_neg value threshold projection.direction
      simp only [Scan.mirror]
      cases crossingDate (resolveAsOf asOf projection) day with
      | error error => rfl
      | ok date =>
        simp only [Pure.pure, Except.pure, Projection.mirror, margin]
        rfl
    | blocked => rfl
    | clear missing =>
      have reason := clearReason_mirror projection.path projection.direction missing
      simp only [Scan.mirror, Pure.pure, Except.pure, Projection.mirror, reason]
      rfl

end Forecast

end CovenantRadar
