import CovenantRadar.Forecast.Trend

/-!
# Daily forecast paths

Source `domain/forecast/path.py`, and `evidence_pressure` of `domain/forecast/trend.py`.
Day zero of a path is the current value; the drift and the directional pressure add up
over the days. The copies `formula_inputs` keeps for the trace are left out.
-/

namespace CovenantRadar

namespace Forecast

/-! ## Evidence pressure -/

/-- What `evidence_pressure` reads of an evidence value. -/
structure PressureItem where
  id : Option SourceId
  state : Option Text
  countsTowardPressure : Bool
  materialityPct : Option ℚ
  materiality : Option ℚ
  decayFactor : Option ℚ

/-- Source `PressureTerm`. -/
structure PressureTerm where
  evidenceId : Option SourceId
  materiality : ℚ
  decayFactor : ℚ
  contribution : ℚ
  signedContribution : ℚ
  included : Bool
  reason : String

/-- Source `PressureResult`, as `evidence_pressure` builds it. -/
structure PressureResult where
  direction : Direction
  magnitude : ℚ
  signed : ℚ
  terms : List PressureTerm
  magnitude_eq : magnitude = |signed|

/-- Source `_signed_pressure`. -/
def signedPressure (magnitude : ℚ) : Direction → ℚ
  | .max => magnitude
  | .min => -magnitude

/-- Source `_excluded_pressure_term`. -/
def excludedPressureTerm (evidenceId : Option SourceId) (reason : String) : PressureTerm :=
  ⟨evidenceId, 0, 0, 0, 0, false, reason⟩

/-- The materiality as a fraction; the percentage is read first. -/
def PressureItem.fraction (item : PressureItem) : Option ℚ :=
  match item.materialityPct with
  | some percentage => some (percentage / 100)
  | none => item.materiality

/-- The body of the loop of `evidence_pressure`. -/
def pressureTerm (direction : Direction) (item : PressureItem) : Except PyError PressureTerm :=
  if item.state ≠ some "sustained".toList then
    .ok (excludedPressureTerm item.id "evidence is not sustained")
  else if item.countsTowardPressure = false then
    .ok (excludedPressureTerm item.id "evidence does not count toward pressure")
  else
    match item.fraction with
    | none => .ok (excludedPressureTerm item.id "materiality is unavailable")
    | some materiality =>
      if materiality < 0 then .error (.valueError "materiality must not be negative.")
      else
        match item.decayFactor with
        | none => .ok (excludedPressureTerm item.id "decay factor is unavailable")
        | some decay =>
          if 0 ≤ decay ∧ decay ≤ 1 then
            .ok ⟨item.id, materiality, decay, materiality * decay,
              signedPressure (materiality * decay) direction, true,
              "sustained evidence included in pressure"⟩
          else .error (.valueError "decay_factor must be between zero and one.")

/-- Source `evidence_pressure`. -/
def evidencePressure (items : List PressureItem) (direction : Direction) :
    Except PyError PressureResult := do
  let terms ← items.mapM (pressureTerm direction)
  let signedTotal := ((terms.filter (·.included)).map (·.signedContribution)).sum
  return ⟨direction, |signedTotal|, signedTotal, terms, rfl⟩

/-- The `pressure` argument of `project`: a magnitude, or a result with its terms. -/
inductive Pressure where
  | scalar (magnitude : ℚ)
  | result (pressure : PressureResult)

/-- Source `_pressure_values`: the result, the magnitude and the signed pressure. -/
def pressureValues (pressure : Pressure) (direction : Direction) :
    Except PyError (Option PressureResult × ℚ × ℚ) :=
  let values (result : Option PressureResult) (magnitude : ℚ) :=
    if magnitude < 0 then .error (.valueError "pressure must be non-negative.")
    else .ok (result, magnitude, signedPressure magnitude direction)
  match pressure with
  | .result pressure =>
    values (some pressure)
      (if pressure.direction = direction then pressure.magnitude else |pressure.signed|)
  | .scalar magnitude => values none magnitude

/-- The magnitude of the argument. -/
def Pressure.magnitude : Pressure → ℚ
  | scalar magnitude => magnitude
  | result pressure => pressure.magnitude

/-- The result the argument carries. -/
def Pressure.carried : Pressure → Option PressureResult
  | scalar _ => none
  | result pressure => some pressure

/-- The direction of a pressure result changes neither its magnitude nor its sign. -/
theorem pressureValues_eq (pressure : Pressure) (direction : Direction) :
    pressureValues pressure direction =
      if pressure.magnitude < 0 then .error (.valueError "pressure must be non-negative.")
      else .ok (pressure.carried, pressure.magnitude,
        signedPressure pressure.magnitude direction) := by
  cases pressure with
  | scalar magnitude => rfl
  | result pressure =>
    have same : (if pressure.direction = direction then pressure.magnitude else |pressure.signed|) =
        pressure.magnitude := by
      rw [pressure.magnitude_eq, ite_self]
    simp only [pressureValues, same]
    rfl

/-! ## Projection -/

/-- Source `PathPoint`. -/
structure PathPoint where
  day : Nat
  value : Option ℚ
  trendComponent : ℚ
  pressureComponent : ℚ

/-- Source `Projection`, with the checks of its `__post_init__`. -/
structure Projection where
  currentValue : Option ℚ
  threshold : ℚ
  direction : Direction
  horizonDays : Nat
  slope : ℚ
  perDayDrift : ℚ
  pressure : ℚ
  pressureTerm : ℚ
  netPerDayDrift : ℚ
  path : List PathPoint
  trend : TrendResult
  pressureResult : Option PressureResult
  requestedPressure : ℚ
  reason : Option String
  length_path : path.length = horizonDays + 1
  starts : ∀ point ∈ path.head?, point.day = 0

/-- The comprehension that builds the path. -/
def dailyPath (current : Option ℚ) (drift pressureTerm : ℚ) (horizonDays : Nat) : List PathPoint :=
  (List.range (horizonDays + 1)).map fun (day : ℕ) =>
    ⟨day, current.map (· + (drift + pressureTerm) * day), drift * day, pressureTerm * day⟩

/-- Source `project`, once its arguments are read. -/
def projectTrend (trend : TrendResult) (pressureResult : Option PressureResult)
    (requestedPressure signedPressure : ℚ) (horizonDays : Nat) (threshold : ℚ)
    (direction : Direction) : Projection :=
  let effective := if trend.hasSufficientObservations then signedPressure else 0
  { currentValue := trend.currentValue
    threshold := threshold
    direction := direction
    horizonDays := horizonDays
    slope := trend.slope
    perDayDrift := trend.perDayDrift
    pressure := requestedPressure
    pressureTerm := effective
    netPerDayDrift := trend.perDayDrift + effective
    path := dailyPath trend.currentValue trend.perDayDrift effective horizonDays
    trend := trend
    pressureResult := pressureResult
    requestedPressure := requestedPressure
    reason :=
      if trend.reason = none ∧ ¬ trend.hasSufficientObservations ∧ requestedPressure ≠ 0 then
        some "pressure not applied because fewer than two usable observations exist"
      else trend.reason
    length_path := by simp [dailyPath]
    starts := by simp [dailyPath, List.range_succ_eq_map] }

/-- Source `project`. -/
def project (series : List Observation) (pressure : Pressure) (horizonDays : Int) (threshold : ℚ)
    (direction : Direction) (recentPeriods : Option Int) (periodDays : Option ℚ) :
    Except PyError Projection :=
  if horizonDays < 0 then
    .error (.valueError "horizon_days must be a non-negative integer.")
  else do
    let trend ← fitTrend series recentPeriods periodDays
    let values ← pressureValues pressure direction
    return projectTrend trend values.1 values.2.1 values.2.2 horizonDays.toNat threshold direction

section

variable {series : List Observation} {pressure : Pressure} {horizonDays : Int} {threshold : ℚ}
variable {direction : Direction} {recentPeriods : Option Int} {periodDays : Option ℚ}
variable {projection : Projection}

/-- A projection is made of a fitted trend and a non-negative pressure. -/
theorem project_eq_ok_iff :
    project series pressure horizonDays threshold direction recentPeriods periodDays =
        .ok projection ↔
      0 ≤ horizonDays ∧ 0 ≤ pressure.magnitude ∧
        ∃ trend, fitTrend series recentPeriods periodDays = .ok trend ∧
          projection = projectTrend trend pressure.carried pressure.magnitude
            (signedPressure pressure.magnitude direction) horizonDays.toNat threshold direction := by
  unfold project
  rw [pressureValues_eq]
  by_cases past : horizonDays < 0
  · rw [if_pos past]
    exact iff_of_false nofun fun made => absurd past (not_lt.mpr made.1)
  · rw [if_neg past, Except.bind_eq_ok_iff]
    by_cases negative : pressure.magnitude < 0
    · rw [if_pos negative]
      refine iff_of_false ?_ fun made => absurd negative (not_lt.mpr made.2.1)
      intro made
      obtain ⟨trend, _, failed⟩ := made
      cases failed
    · rw [if_neg negative]
      constructor
      · intro made
        obtain ⟨trend, fitted, last⟩ := made
        cases last
        exact ⟨not_lt.mp past, not_lt.mp negative, trend, fitted, rfl⟩
      · intro made
        obtain ⟨_, _, trend, fitted, rfl⟩ := made
        exact ⟨trend, fitted, rfl⟩

end

/-- The path is the straight line from the current value along the net drift. -/
structure Projection.Straight (projection : Projection) : Prop where
  net : projection.netPerDayDrift = projection.perDayDrift + projection.pressureTerm
  path : projection.path = dailyPath projection.currentValue projection.perDayDrift
    projection.pressureTerm projection.horizonDays

/-- What holds of a projection made from the series. -/
structure Projection.Produced (series : List Observation) (projection : Projection) : Prop extends
    Projection.Straight projection where
  fitted : projection.trend.Fitted series
  current : projection.currentValue = projection.trend.currentValue
  drift : projection.perDayDrift = projection.trend.perDayDrift
  term : projection.pressureTerm =
    if projection.trend.hasSufficientObservations then
      signedPressure projection.pressure projection.direction else 0
  requested : projection.requestedPressure = projection.pressure
  nonneg : 0 ≤ projection.pressure
  carried : ∀ result ∈ projection.pressureResult, result.magnitude = projection.pressure

/-- Every projection is straight, with the pressure applied to a sufficient trend. -/
theorem project_produced {series : List Observation} {pressure : Pressure} {horizonDays : Int}
    {threshold : ℚ} {direction : Direction} {recentPeriods : Option Int} {periodDays : Option ℚ}
    {projection : Projection}
    (returned : project series pressure horizonDays threshold direction recentPeriods periodDays =
      .ok projection) : projection.Produced series := by
  obtain ⟨_, nonneg, trend, fitted, rfl⟩ := project_eq_ok_iff.mp returned
  refine ⟨⟨rfl, rfl⟩, fitTrend_eq_ok fitted, rfl, rfl, rfl, rfl, nonneg, ?_⟩
  intro result given
  cases pressure with
  | scalar magnitude => cases given
  | result pressure =>
    cases given
    rfl

end Forecast

end CovenantRadar
