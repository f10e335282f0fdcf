import CovenantRadar.Forecast.Path
import CovenantRadar.Misc.Select

/-!
# Threshold crossings

Source `domain/forecast/crossing.py`: the first day of a projected path at or beyond the
threshold in force that day. A scheduled change holds from its effective day on.
-/

namespace CovenantRadar

namespace Forecast

/-- When a `ThresholdChange` takes effect. -/
inductive EffectiveOn where
  | day (day : Nat)
  | date (date : Date)
  deriving DecidableEq

/-- Source `ThresholdChange`, whose reason no crossing reads. -/
structure ThresholdChange where
  threshold : ℚ
  effective : EffectiveOn
  deriving DecidableEq

/-- Source `ThresholdPoint`. -/
structure ThresholdPoint where
  day : Nat
  threshold : ℚ
  deriving DecidableEq

/-- Source `_change_record`. -/
def changeRecord (asOf : Option Date) (change : ThresholdChange) : Except PyError ThresholdPoint :=
  match change.effective with
  | .day day => .ok ⟨day, change.threshold⟩
  | .date date =>
    match asOf with
    | none =>
      .error (.valueError "as_of_date is required for date-based threshold changes.")
    | some asOf =>
      if date.toOrdinal < asOf.toOrdinal then
        .error (.valueError "threshold change effective_date must not precede as_of_date.")
      else .ok ⟨date.toOrdinal - asOf.toOrdinal, change.threshold⟩

/-- The body of the loop of `_normalise_changes`. -/
def normaliseChange (asOf : Option Date) (horizonDays : Nat) (change : ThresholdChange) :
    Except PyError ThresholdPoint := do
  let point ← changeRecord asOf change
  let day := point.day
  if horizonDays < day then
    .error (.valueError
      s!"threshold change day {day} is outside the forecast horizon 0..{horizonDays}.")
  else .ok point

/-- Source `_normalise_changes`. -/
def normaliseChanges (changes : List ThresholdChange) (asOf : Option Date) (horizonDays : Nat) :
    Except PyError (List ThresholdPoint) := do
  let points ← changes.mapM (normaliseChange asOf horizonDays)
  let sorted := points.insertionSort fun a b => a.day ≤ b.day
  if (sorted.map (·.day)).Nodup then .ok sorted
  else .error (.valueError "Only one threshold change may take effect on a forecast day.")

/-- `changes_by_day.get(day)`. -/
def changeOn (changes : List ThresholdPoint) (day : Nat) : Option ℚ :=
  (changes.find? (·.day = day)).map (·.threshold)

/-- Source `_threshold_path`, from the threshold active before the first point. -/
def thresholdPath (changes : List ThresholdPoint) (active : ℚ) :
    List PathPoint → List ThresholdPoint
  | [] => []
  | point :: path =>
    let active := (changeOn changes point.day).getD active
    ⟨point.day, active⟩ :: thresholdPath changes active path

/-- Source `_breaches`. -/
def breaches (value threshold : ℚ) : Direction → Bool
  | .max => threshold ≤ value
  | .min => value ≤ threshold

/-- Source `_breach_margin`. -/
def breachMargin (value threshold : ℚ) : Direction → ℚ
  | .max => value - threshold
  | .min => threshold - value

/-- Source `_is_improving`. -/
def isImproving (path : List PathPoint) (direction : Direction) : Bool :=
  match path.filterMap (·.value) with
  | first :: second :: rest =>
    let last := (second :: rest).getLast (List.cons_ne_nil _ _)
    match direction with
    | .max => last - first < 0
    | .min => first - last < 0
  | _ => false

/-- Why a result has no crossing. -/
inductive NoCrossing where
  | unavailableBefore
  | noValues
  | unavailable
  | improving (direction : Direction)
  | within
  deriving DecidableEq

/-- The fields a crossing result carries together. -/
structure Crossing where
  day : Nat
  date : Option Date
  value : ℚ
  thresholdUsed : ℚ
  margin : ℚ
  deriving DecidableEq

/-- Source `CrossingResult`: a crossing, or the reason there is none. -/
structure CrossingResult where
  direction : Direction
  threshold : ℚ
  path : List PathPoint
  thresholdPath : List ThresholdPoint
  outcome : NoCrossing ⊕ Crossing
  asOfDate : Option Date
  thresholdChanges : List ThresholdPoint

/-- The crossing of a result, when there is one. -/
def CrossingResult.crossing (result : CrossingResult) : Option Crossing := result.outcome.getRight?

/-- Source `CrossingResult.crossing_day`. -/
def CrossingResult.crossingDay (result : CrossingResult) : Option Nat :=
  result.crossing.map (·.day)

/-- What the loop of `first_crossing` over the days of the path ends with. -/
inductive Scan where
  | crossed (day : Nat) (value threshold : ℚ)
  | blocked
  | clear (missing : Bool)
  deriving DecidableEq

/-- The loop of `first_crossing`; `missing` is `missing_value_seen`. -/
def scan (direction : Direction) (missing : Bool) : List (PathPoint × ThresholdPoint) → Scan
  | [] => .clear missing
  | (point, bound) :: days =>
    match point.value with
    | none => scan direction true days
    | some value =>
      if breaches value bound.threshold direction then
        if missing then .blocked else .crossed point.day value bound.threshold
      else scan direction missing days

/-- Source `_resolve_as_of`, for a projection. -/
def resolveAsOf (asOf : Option Date) (projection : Projection) : Option Date :=
  asOf.or (projection.trend.usableObservations.getLast?.map (·.observedOn))

/-- `None if as_of is None else as_of + timedelta(days=day)`. -/
def crossingDate (asOf : Option Date) (day : Nat) : Except PyError (Option Date) :=
  match asOf with
  | none => .ok none
  | some asOf =>
    match asOf.addDays day with
    | some date => .ok (some date)
    | none => .error (.overflowError "date value out of range")

/-- The reason `first_crossing` gives for a path it scans to the end. -/
def clearReason (path : List PathPoint) (direction : Direction) (missing : Bool) : NoCrossing :=
  if path.all (fun point => point.value.isNone) then .noValues
  else if missing then .unavailable
  else if isImproving path direction then .improving direction
  else .within

/-- Source `first_crossing`, on the threshold and direction of a projection. -/
def firstCrossing (projection : Projection) (asOf : Option Date) (changes : List ThresholdChange) :
    Except PyError CrossingResult := do
  let resolved := resolveAsOf asOf projection
  let points ← normaliseChanges changes resolved (projection.path.length - 1)
  let bounds := thresholdPath points projection.threshold projection.path
  let result (outcome : NoCrossing ⊕ Crossing) : CrossingResult :=
    ⟨projection.direction, projection.threshold, projection.path, bounds, outcome, resolved, points⟩
  match scan projection.direction false (projection.path.zip bounds) with
  | .crossed day value threshold => do
    let date ← crossingDate resolved day
    return result (.inr ⟨day, date, value, threshold,
      breachMargin value threshold projection.direction⟩)
  | .blocked => return result (.inl .unavailableBefore)
  | .clear missing =>
    return result (.inl (clearReason projection.path projection.direction missing))

/-! ## First days -/

/-- The first day up to the horizon that passes a test. -/
def firstDay (test : Nat → Bool) (horizon : Nat) : Option Nat :=
  (List.range (horizon + 1)).find? test

theorem firstDay_eq_some_iff {test : Nat → Bool} {horizon day : Nat} :
    firstDay test horizon = some day ↔
      test day = true ∧ day ≤ horizon ∧ ∀ earlier < day, test earlier = false := by
  unfold firstDay
  rw [List.find?_range_eq_some, List.mem_range, Nat.lt_succ_iff]
  simp only [Bool.not_eq_true']

theorem firstDay_eq_none_iff {test : Nat → Bool} {horizon : Nat} :
    firstDay test horizon = none ↔ ∀ day ≤ horizon, test day = false := by
  unfold firstDay
  rw [List.find?_range_eq_none]
  simp only [Nat.lt_succ_iff, Bool.not_eq_true']

theorem firstDay_zero_iff {test : Nat → Bool} {horizon : Nat} :
    firstDay test horizon = some 0 ↔ test 0 = true := by
  rw [firstDay_eq_some_iff]
  constructor
  · exact fun first => first.1
  · exact fun first => ⟨first, Nat.zero_le _, fun _ before => absurd before (Nat.not_lt_zero _)⟩

theorem firstDay_congr {test other : Nat → Bool} {horizon : Nat}
    (same : ∀ day ≤ horizon, test day = other day) : firstDay test horizon = firstDay other horizon := by
  unfold firstDay
  apply List.find?_congr
  intro day member
  exact same day (Nat.lt_succ_iff.mp (List.mem_range.mp member))

/-- A stricter test passes no earlier, and only where the weaker one passes. -/
theorem firstDay_le {strict weak : Nat → Bool} {horizon day : Nat}
    (weaker : ∀ day ≤ horizon, strict day = true → weak day = true)
    (found : firstDay strict horizon = some day) :
    ∃ first ≤ day, firstDay weak horizon = some first := by
  have passed := firstDay_eq_some_iff.mp found
  cases other : firstDay weak horizon with
  | none =>
    have failed := firstDay_eq_none_iff.mp other day passed.2.1
    rw [weaker day passed.2.1 passed.1] at failed
    cases failed
  | some first =>
    refine ⟨first, ?_, rfl⟩
    by_contra later
    have failed := (firstDay_eq_some_iff.mp other).2.2 day (not_le.mp later)
    rw [weaker day passed.2.1 passed.1] at failed
    cases failed

/-! ## Crossings of straight paths -/

/-- The threshold in force before a day, the changes holding from their day on. -/
def inForceBefore (changes : List ThresholdPoint) (base : ℚ) : Nat → ℚ
  | 0 => base
  | day + 1 => (changeOn changes day).getD (inForceBefore changes base day)

/-- The threshold in force on a day. -/
def inForce (changes : List ThresholdPoint) (base : ℚ) (day : Nat) : ℚ :=
  inForceBefore changes base (day + 1)

theorem thresholdPath_range' {changes : List ThresholdPoint} {base : ℚ} {points : Nat → PathPoint}
    (days : ∀ day, (points day).day = day) (start count : Nat) :
    thresholdPath changes (inForceBefore changes base start)
        ((List.range' start count).map points) =
      (List.range' start count).map fun day => ⟨day, inForce changes base day⟩ := by
  induction count generalizing start with
  | zero => rfl
  | succ count ih =>
    have next := ih (start + 1)
    rw [List.range'_succ, List.map_cons, List.map_cons, thresholdPath, days start, ← next]
    rfl

/-- A path with values crosses on the first day its value is at or beyond the threshold. -/
theorem scan_range' {direction : Direction} {points : Nat → PathPoint} {value bound : Nat → ℚ}
    (days : ∀ day, (points day).day = day) (values : ∀ day, (points day).value = some (value day))
    (start count : Nat) :
    scan direction false (((List.range' start count).map points).zip
        ((List.range' start count).map fun day => ⟨day, bound day⟩)) =
      match (List.range' start count).find? (fun day => breaches (value day) (bound day) direction)
        with
      | some day => .crossed day (value day) (bound day)
      | none => .clear false := by
  induction count generalizing start with
  | zero => rfl
  | succ count ih =>
    rw [List.range'_succ, List.map_cons, List.map_cons, List.zip_cons_cons, scan, values start,
      List.find?_cons, ih (start + 1)]
    cases reached : breaches (value start) (bound start) direction with
    | true => simp [days start, reached]
    | false => simp [reached]

/-- A path without values is scanned to the end. -/
theorem scan_unavailable {direction : Direction} {missing : Bool}
    {pairs : List (PathPoint × ThresholdPoint)} (absent : ∀ pair ∈ pairs, pair.1.value = none) :
    ∃ seen, scan direction missing pairs = .clear seen := by
  induction pairs generalizing missing with
  | nil => exact ⟨missing, rfl⟩
  | cons pair pairs ih =>
    rw [scan, absent pair List.mem_cons_self]
    exact ih fun other member => absent other (List.mem_cons_of_mem _ member)

section

variable {projection : Projection} {asOf : Option Date} {changes : List ThresholdChange}
variable {result : CrossingResult} {current drift pressureTerm : ℚ}

/-- The test of the loop on a straight path. -/
def reaches (projection : Projection) (points : List ThresholdPoint) (current : ℚ) (day : Nat) :
    Bool :=
  breaches (current + projection.netPerDayDrift * day) (inForce points projection.threshold day)
    projection.direction

theorem thresholdPath_straight (straight : projection.Straight) (points : List ThresholdPoint) :
    thresholdPath points projection.threshold projection.path =
      (List.range (projection.horizonDays + 1)).map fun day =>
        ⟨day, inForce points projection.threshold day⟩ := by
  rw [straight.path, dailyPath, List.range_eq_range']
  exact thresholdPath_range' (fun _ => rfl) 0 _

/-- The crossing of a straight path: the first day it reaches the threshold in force. -/
theorem firstCrossing_eq_ok (straight : projection.Straight)
    (known : projection.currentValue = some current)
    (returned : firstCrossing projection asOf changes = .ok result) :
    ∃ points, normaliseChanges changes (resolveAsOf asOf projection) projection.horizonDays =
        .ok points ∧
      result.thresholdPath = (List.range (projection.horizonDays + 1)).map (fun day =>
        ⟨day, inForce points projection.threshold day⟩) ∧
      match firstDay (reaches projection points current) projection.horizonDays with
      | none => result.crossing = none
      | some day => ∃ date, crossingDate (resolveAsOf asOf projection) day = .ok date ∧
          result.crossing = some ⟨day, date, current + projection.netPerDayDrift * day,
            inForce points projection.threshold day,
            breachMargin (current + projection.netPerDayDrift * day)
              (inForce points projection.threshold day) projection.direction⟩ := by
  obtain ⟨points, read, rest⟩ := Except.bind_eq_ok_iff.mp returned
  have horizon : projection.path.length - 1 = projection.horizonDays := by
    rw [projection.length_path]
    rfl
  rw [horizon] at read
  have bounds := thresholdPath_straight straight points
  have scanned : scan projection.direction false
      (projection.path.zip (thresholdPath points projection.threshold projection.path)) =
      match firstDay (reaches projection points current) projection.horizonDays with
      | some day => .crossed day (current + projection.netPerDayDrift * day)
          (inForce points projection.threshold day)
      | none => .clear false := by
    have line := @scan_range' projection.direction
      (fun day => ⟨day, some (current + (projection.perDayDrift + projection.pressureTerm) * day),
        projection.perDayDrift * day, projection.pressureTerm * day⟩)
      (fun day => current + projection.netPerDayDrift * day)
      (fun day => inForce points projection.threshold day)
      (fun _ => rfl) (fun _ => by rw [straight.net]) 0 (projection.horizonDays + 1)
    rw [bounds, straight.path, known]
    rw [← List.range_eq_range'] at line
    exact line
  refine ⟨points, read, ?_⟩
  simp only [scanned] at rest
  cases found : firstDay (reaches projection points current) projection.horizonDays with
  | none =>
    simp only [found] at rest
    cases rest
    exact ⟨bounds, rfl⟩
  | some day =>
    simp only [found] at rest
    obtain ⟨date, dated, last⟩ := Except.bind_eq_ok_iff.mp rest
    cases last
    exact ⟨bounds, date, dated, rfl⟩

/-- A projection without a current value has no crossing. -/
theorem firstCrossing_unavailable (straight : projection.Straight)
    (unknown : projection.currentValue = none)
    (returned : firstCrossing projection asOf changes = .ok result) : result.crossing = none := by
  obtain ⟨points, read, rest⟩ := Except.bind_eq_ok_iff.mp returned
  have absent : ∀ pair ∈ projection.path.zip
      (thresholdPath points projection.threshold projection.path), pair.1.value = none := by
    intro pair member
    have listed := (List.of_mem_zip member).1
    rw [straight.path, unknown, dailyPath] at listed
    obtain ⟨day, _, made⟩ := List.mem_map.mp listed
    rw [← made]
    rfl
  obtain ⟨seen, scanned⟩ := @scan_unavailable projection.direction false _ absent
  simp only [scanned] at rest
  cases rest
  rfl

end

end Forecast

end CovenantRadar
