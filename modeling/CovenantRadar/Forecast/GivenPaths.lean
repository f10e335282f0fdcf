import CovenantRadar.Forecast.Crossing

/-!
# Crossings of given paths

Source `domain/forecast/crossing.py`, where the path is given item by item and not projected: the
values may be anything, and some may be unavailable. The crossing is the first day at or beyond
the threshold in force; a day without a value before it leaves the crossing unknown.
-/

namespace CovenantRadar

namespace Forecast

/-! ## Paths -/

/-- What a caller may list as a day of a path. -/
inductive PathItem where
  | point (given : PathPoint)
  | record (day : Option Int) (value : Option ℚ) (trendComponent pressureComponent : ℚ)
  | value (given : Option ℚ)

/-- The branches of the loop of `_normalise_path`. -/
def PathItem.read (index : Nat) : PathItem → Except PyError PathPoint
  | .point given => .ok given
  | .record day projected trend pressure =>
    match day.getD index with
    | .ofNat day => .ok ⟨day, projected, trend, pressure⟩
    | .negSucc _ => .error (.valueError "day must be a non-negative integer.")
  | .value given => .ok ⟨index, given, 0, 0⟩

/-- The loop of `_normalise_path`. -/
def normaliseItems (index : Nat) : List PathItem → Except PyError (List PathPoint)
  | [] => .ok []
  | item :: items => do
    let point ← item.read index
    if point.day ≠ index then
      .error (.valueError "path days must be contiguous and start at zero.")
    else do
      let points ← normaliseItems (index + 1) items
      .ok (point :: points)

/-- Source `_normalise_path`. -/
def normalisePath (items : List PathItem) : Except PyError (List PathPoint) := normaliseItems 0 items

/-- The days of a path run from the first one on without a gap. -/
def DaysFrom (start : Nat) (path : List PathPoint) : Prop :=
  path.map (·.day) = List.range' start path.length

theorem DaysFrom.tail {start : Nat} {point : PathPoint} {path : List PathPoint}
    (days : DaysFrom start (point :: path)) : point.day = start ∧ DaysFrom (start + 1) path := by
  unfold DaysFrom at days
  rw [List.map_cons, List.length_cons, List.range'_succ, List.cons.injEq] at days
  exact days

theorem normaliseItems_days {start : Nat} {items : List PathItem} {path : List PathPoint}
    (read : normaliseItems start items = .ok path) : DaysFrom start path := by
  induction items generalizing start path with
  | nil =>
    cases read
    rfl
  | cons item items ih =>
    obtain ⟨point, _, rest⟩ := Except.bind_eq_ok_iff.mp read
    split_ifs at rest with gap
    obtain ⟨points, following, last⟩ := Except.bind_eq_ok_iff.mp rest
    cases last
    have days := ih following
    unfold DaysFrom at days ⊢
    rw [List.map_cons, List.length_cons, List.range'_succ, days, not_not.mp gap]

/-- The value of a path on a day. -/
def valueOn (path : List PathPoint) (day : Nat) : Option ℚ := path[day]?.bind (·.value)

/-! ## The crossing of a path -/

/-- The end of `first_crossing`, once its arguments are read. -/
def crossingOver (path : List PathPoint) (threshold : ℚ) (direction : Direction)
    (asOf : Option Date) (points : List ThresholdPoint) : Except PyError CrossingResult :=
  let bounds := thresholdPath points threshold path
  let result (outcome : NoCrossing ⊕ Crossing) : CrossingResult :=
    ⟨direction, threshold, path, bounds, outcome, asOf, points⟩
  match scan direction false (path.zip bounds) with
  | .crossed day value bound => do
    let date ← crossingDate asOf day
    return result (.inr ⟨day, date, value, bound, breachMargin value bound direction⟩)
  | .blocked => return result (.inl .unavailableBefore)
  | .clear missing => return result (.inl (clearReason path direction missing))

/-- Source `first_crossing`, on a path, a threshold and a direction that are given. -/
def firstCrossingOf (items : List PathItem) (threshold : ℚ) (direction : Direction)
    (asOf : Option Date) (changes : List ThresholdChange) : Except PyError CrossingResult := do
  let path ← normalisePath items
  let points ← normaliseChanges changes asOf (path.length - 1)
  crossingOver path threshold direction asOf points

/-! ## The threshold in force -/

/-- The threshold in force on a day: the one of the latest change up to it, or the base. -/
def InForceOn (points : List ThresholdPoint) (base : ℚ) (day : Nat) (threshold : ℚ) : Prop :=
  (∃ point ∈ points, point.day ≤ day ∧ point.threshold = threshold ∧
      ∀ other ∈ points, other.day ≤ day → other.day ≤ point.day) ∨
    threshold = base ∧ ∀ point ∈ points, day < point.day

/-- The changes of a schedule take effect on different days. -/
def OneADay (points : List ThresholdPoint) : Prop := (points.map (·.day)).Nodup

theorem normaliseChanges_oneADay {changes : List ThresholdChange} {asOf : Option Date}
    {horizon : Nat} {points : List ThresholdPoint}
    (read : normaliseChanges changes asOf horizon = .ok points) : OneADay points := by
  obtain ⟨listed, _, checked⟩ := Except.bind_eq_ok_iff.mp read
  simp only at checked
  split_ifs at checked with distinct
  cases checked
  exact distinct

theorem changeOn_eq_some_iff {points : List ThresholdPoint} {day : Nat} {threshold : ℚ}
    (distinct : OneADay points) :
    changeOn points day = some threshold ↔ ⟨day, threshold⟩ ∈ points := by
  unfold changeOn
  constructor
  · intro found
    obtain ⟨point, first, rfl⟩ := Option.map_eq_some_iff.mp found
    have at' : point.day = day := by simpa using List.find?_some first
    have member := List.mem_of_find?_eq_some first
    rw [← at']
    exact member
  · intro member
    cases first : points.find? (·.day = day) with
    | none =>
      have missed := List.find?_eq_none.mp first _ member
      simp at missed
    | some point =>
      have same : point.day = day := by simpa using List.find?_some first
      have equal := List.inj_on_of_nodup_map distinct (List.mem_of_find?_eq_some first) member same
      rw [equal]
      rfl

theorem changeOn_eq_none_iff {points : List ThresholdPoint} {day : Nat} :
    changeOn points day = none ↔ ∀ point ∈ points, point.day ≠ day := by
  unfold changeOn
  rw [Option.map_eq_none_iff, List.find?_eq_none]
  simp only [decide_eq_true_eq, ne_eq]

/-- What the threshold path carries is the threshold in force. -/
theorem inForce_inForceOn {points : List ThresholdPoint} (base : ℚ) (distinct : OneADay points)
    (day : Nat) : InForceOn points base day (inForce points base day) := by
  unfold inForce
  induction day with
  | zero =>
    unfold inForceBefore
    cases changed : changeOn points 0 with
    | none =>
      right
      refine ⟨rfl, fun point member => ?_⟩
      exact Nat.pos_of_ne_zero (changeOn_eq_none_iff.mp changed point member)
    | some threshold =>
      left
      refine ⟨_, (changeOn_eq_some_iff distinct).mp changed, le_refl 0, rfl, ?_⟩
      exact fun other _ within => within
  | succ day ih =>
    unfold inForceBefore
    cases changed : changeOn points (day + 1) with
    | some threshold =>
      left
      refine ⟨_, (changeOn_eq_some_iff distinct).mp changed, le_refl _, rfl, ?_⟩
      exact fun other _ within => within
    | none =>
      have absent := changeOn_eq_none_iff.mp changed
      have earlier : ∀ point ∈ points, point.day ≤ day + 1 → point.day ≤ day := by
        intro point member within
        have different := absent point member
        omega
      rcases ih with ⟨point, member, within, same, latest⟩ | ⟨same, later⟩
      · left
        refine ⟨point, member, within.trans (Nat.le_succ day), same, ?_⟩
        exact fun other listed before => latest other listed (earlier other listed before)
      · right
        refine ⟨same, fun point member => ?_⟩
        have after := later point member
        have different := absent point member
        omega

/-- Only one threshold is in force on a day. -/
theorem inForceOn_iff {points : List ThresholdPoint} {base threshold : ℚ}
    (distinct : OneADay points) {day : Nat} :
    InForceOn points base day threshold ↔ threshold = inForce points base day := by
  constructor
  · intro given
    rcases given with ⟨point, member, within, same, latest⟩ | ⟨same, later⟩
    · rcases inForce_inForceOn base distinct day with
        ⟨other, listed, before, equal, last⟩ | ⟨_, after⟩
      · have together : point.day = other.day :=
          le_antisymm (last point member within) (latest other listed before)
        rw [← same, ← equal, List.inj_on_of_nodup_map distinct member listed together]
      · exact absurd within (not_le.mpr (after point member))
    · rcases inForce_inForceOn base distinct day with ⟨other, listed, before, _, _⟩ | ⟨equal, _⟩
      · exact absurd before (not_le.mpr (later other listed))
      · rw [same, equal]
  · rintro rfl
    exact inForce_inForceOn base distinct day

/-! ## Scanning a path -/

section

variable {direction : Direction} {base : ℚ} {points : List ThresholdPoint}

theorem thresholdPath_of_days {path : List PathPoint} {start : Nat} (days : DaysFrom start path) :
    thresholdPath points (inForceBefore points base start) path =
      path.map fun point => ⟨point.day, inForce points base point.day⟩ := by
  induction path generalizing start with
  | nil => rfl
  | cons point path ih =>
    obtain ⟨first, following⟩ := days.tail
    rw [thresholdPath, List.map_cons, first]
    exact congrArg (List.cons _) (ih following)

/-- The day has a value, and it is at or beyond the threshold in force. -/
def Reached (direction : Direction) (bound : Nat → ℚ) (point : PathPoint) : Prop :=
  ∃ value ∈ point.value, breaches value (bound point.day) direction = true

/-- What the loop of `first_crossing` ends with: the first day reached, unless a day without a
    value comes before it. -/
def Ends (direction : Direction) (bound : Nat → ℚ) (missing : Bool) (path : List PathPoint)
    (outcome : Scan) : Prop :=
  (∃ before point after value, path = before ++ point :: after ∧
    (∀ earlier ∈ before, ¬ Reached direction bound earlier) ∧ point.value = some value ∧
    breaches value (bound point.day) direction = true ∧
    outcome = if (missing || before.any (·.value.isNone)) = true then .blocked
      else .crossed point.day value (bound point.day)) ∨
  (∀ point ∈ path, ¬ Reached direction bound point) ∧ ∃ seen, outcome = .clear seen

theorem Ends.cons {bound : Nat → ℚ} {missing : Bool} {point : PathPoint} {path : List PathPoint}
    {outcome : Scan} (unreached : ¬ Reached direction bound point)
    (ends : Ends direction bound (missing || point.value.isNone) path outcome) :
    Ends direction bound missing (point :: path) outcome := by
  rcases ends with ⟨before, reached, after, value, rfl, none, known, beyond, same⟩ | ⟨none, seen⟩
  · left
    refine ⟨point :: before, reached, after, value, rfl, ?_, known, beyond, ?_⟩
    · intro earlier member
      rcases List.mem_cons.mp member with rfl | member
      · exact unreached
      · exact none earlier member
    · rw [List.any_cons, ← Bool.or_assoc]
      exact same
  · right
    refine ⟨?_, seen⟩
    intro other member
    rcases List.mem_cons.mp member with rfl | member
    · exact unreached
    · exact none other member

theorem scan_ends {bound : Nat → ℚ} (missing : Bool) (path : List PathPoint) :
    Ends direction bound missing path (scan direction missing
      (path.zip (path.map fun point => ⟨point.day, bound point.day⟩))) := by
  induction path generalizing missing with
  | nil => exact .inr ⟨nofun, missing, rfl⟩
  | cons point path ih =>
    rw [List.map_cons, List.zip_cons_cons, scan]
    cases known : point.value with
    | none =>
      have unreached : ¬ Reached direction bound point := by
        rintro ⟨value, given, _⟩
        rw [known] at given
        cases given
      apply Ends.cons unreached
      rw [known, Option.isNone_none, Bool.or_true]
      exact ih true
    | some value =>
      cases beyond : breaches value (bound point.day) direction with
      | true =>
        left
        refine ⟨[], point, path, value, rfl, nofun, known, beyond, ?_⟩
        cases missing <;> simp [beyond]
      | false =>
        have unreached : ¬ Reached direction bound point := by
          rintro ⟨other, given, reached⟩
          rw [known] at given
          cases given
          rw [beyond] at reached
          cases reached
        apply Ends.cons unreached
        rw [known, Option.isNone_some, Bool.or_false]
        simp only [beyond]
        exact ih missing

end

/-! ## Days of a path -/

section

variable {path : List PathPoint} {direction : Direction} {base : ℚ} {points : List ThresholdPoint}
  {asOf : Option Date}

theorem DaysFrom.day_getElem (days : DaysFrom 0 path) {index : Nat} (within : index < path.length) :
    path[index].day = index := by
  have listed : (path.map (·.day))[index]? = some index := by
    rw [days, List.getElem?_range' within]
    simp
  rw [List.getElem?_map, List.getElem?_eq_getElem within] at listed
  exact Option.some.inj listed

/-- The value on a day is at or beyond the threshold in force. -/
def ReachedOn (path : List PathPoint) (direction : Direction) (base : ℚ)
    (points : List ThresholdPoint) (day : Nat) (value threshold : ℚ) : Prop :=
  valueOn path day = some value ∧ InForceOn points base day threshold ∧
    breaches value threshold direction = true

/-- The value on a day is on the safe side of the threshold in force. -/
def ClearOn (path : List PathPoint) (direction : Direction) (base : ℚ)
    (points : List ThresholdPoint) (day : Nat) : Prop :=
  ∃ value threshold, valueOn path day = some value ∧ InForceOn points base day threshold ∧
    breaches value threshold direction = false

theorem valueOn_append_left {before after : List PathPoint} {day : Nat}
    (within : day < before.length) : valueOn (before ++ after) day = valueOn before day := by
  unfold valueOn
  rw [List.getElem?_append_left within]

theorem valueOn_length {before after : List PathPoint} {point : PathPoint} :
    valueOn (before ++ point :: after) before.length = point.value := by
  unfold valueOn
  rw [List.getElem?_append_right (le_refl _), Nat.sub_self]
  rfl

theorem reachedOn_length (days : DaysFrom 0 path) {before after : List PathPoint}
    {point : PathPoint} (split : path = before ++ point :: after) : point.day = before.length := by
  subst split
  have within : before.length < (before ++ point :: after).length := by simp
  have day := days.day_getElem within
  rw [List.getElem_append_right (le_refl _)] at day
  simpa using day

/-- A day of the first part of a path is reached only if its point is. -/
theorem ReachedOn.reached_mem (days : DaysFrom 0 path) (distinct : OneADay points)
    {before after : List PathPoint} (split : path = before ++ after) {day : Nat}
    {value threshold : ℚ} (reached : ReachedOn path direction base points day value threshold)
    (within : day < before.length) :
    ∃ point ∈ before, Reached direction (inForce points base) point := by
  obtain ⟨known, given, beyond⟩ := reached
  have inside : day < path.length := by
    rw [split, List.length_append]
    omega
  have dated := days.day_getElem inside
  subst split
  rw [List.getElem_append_left within] at dated
  rw [valueOn_append_left within] at known
  unfold valueOn at known
  rw [List.getElem?_eq_getElem within, Option.bind_some] at known
  refine ⟨before[day], List.getElem_mem within, value, known, ?_⟩
  rw [dated, ← (inForceOn_iff distinct).mp given]
  exact beyond

theorem valueOn_eq_some {day : Nat} {value : ℚ} (known : valueOn path day = some value) :
    day < path.length := by
  unfold valueOn at known
  by_contra outside
  rw [List.getElem?_eq_none (not_lt.mp outside)] at known
  cases known

theorem ClearOn.not_reachedOn (distinct : OneADay points) {day : Nat} {value threshold : ℚ}
    (clear : ClearOn path direction base points day) :
    ¬ ReachedOn path direction base points day value threshold := by
  rintro ⟨known, given, beyond⟩
  obtain ⟨other, bound, known', given', safe⟩ := clear
  rw [known] at known'
  cases known'
  rw [(inForceOn_iff distinct).mp given, ← (inForceOn_iff distinct).mp given', safe] at beyond
  cases beyond

/-- The loop ends with the first day reached, or no day is reached with all values before it
    known. -/
theorem Ends.onDays (days : DaysFrom 0 path) (distinct : OneADay points) {outcome : Scan}
    (ends : Ends direction (inForce points base) false path outcome) :
    (∃ day value threshold, outcome = .crossed day value threshold ∧
      ReachedOn path direction base points day value threshold ∧
      ∀ earlier < day, ClearOn path direction base points earlier) ∨
    (∀ day value threshold, outcome ≠ .crossed day value threshold) ∧
      ∀ day value threshold, ReachedOn path direction base points day value threshold →
        ∃ earlier < day, valueOn path earlier = none := by
  rcases ends with ⟨before, point, after, value, split, unreached, known, beyond, same⟩ |
    ⟨unreached, seen, rfl⟩
  · have day := reachedOn_length days split
    have late : ∀ day value threshold, ReachedOn path direction base points day value threshold →
        before.length ≤ day := by
      intro day value threshold reached
      by_contra early
      obtain ⟨other, member, sooner⟩ := reached.reached_mem days distinct split (not_le.mp early)
      exact unreached other member sooner
    rw [Bool.false_or] at same
    split_ifs at same with gap
    · right
      refine ⟨fun _ _ _ => by rw [same]; nofun, ?_⟩
      intro later value threshold reached
      obtain ⟨missing, member, absent⟩ := List.any_eq_true.mp gap
      obtain ⟨index, within, rfl⟩ := List.getElem_of_mem member
      refine ⟨index, within.trans_le (late later value threshold reached), ?_⟩
      rw [split, valueOn_append_left within]
      unfold valueOn
      rw [List.getElem?_eq_getElem within, Option.bind_some]
      exact Option.isNone_iff_eq_none.mp absent
    · left
      refine ⟨point.day, value, inForce points base point.day, same, ⟨?_, ?_, beyond⟩, ?_⟩
      · rw [day, split, valueOn_length]
        exact known
      · exact inForce_inForceOn base distinct point.day
      · intro earlier sooner
        rw [day] at sooner
        have member := List.getElem_mem sooner
        have dated : before[earlier].day = earlier := by
          have inside : earlier < path.length := by
            rw [split, List.length_append]
            omega
          have listed := days.day_getElem inside
          subst split
          rwa [List.getElem_append_left sooner] at listed
        cases present : before[earlier].value with
        | none =>
          refine absurd (List.any_eq_true.mpr ⟨_, member, ?_⟩) gap
          rw [present]
          rfl
        | some other =>
          refine ⟨other, _, ?_, inForce_inForceOn base distinct earlier, ?_⟩
          · rw [split, valueOn_append_left sooner]
            unfold valueOn
            rw [List.getElem?_eq_getElem sooner, Option.bind_some]
            exact present
          · have safe := unreached _ member
            rw [← Bool.not_eq_true]
            intro crossed
            refine safe ⟨other, present, ?_⟩
            rw [dated]
            exact crossed
  · right
    refine ⟨nofun, ?_⟩
    intro day value threshold reached
    have within := valueOn_eq_some reached.1
    obtain ⟨point, member, sooner⟩ :=
      reached.reached_mem days distinct (List.append_nil path).symm within
    exact absurd sooner (unreached point member)

/-- The loop of `first_crossing` over a path whose days start at zero. -/
theorem scan_onDays (days : DaysFrom 0 path) (distinct : OneADay points) :
    (∃ day value threshold, scan direction false (path.zip (thresholdPath points base path)) =
        .crossed day value threshold ∧
      ReachedOn path direction base points day value threshold ∧
      ∀ earlier < day, ClearOn path direction base points earlier) ∨
    (∀ day value threshold, scan direction false (path.zip (thresholdPath points base path)) ≠
        .crossed day value threshold) ∧
      ∀ day value threshold, ReachedOn path direction base points day value threshold →
        ∃ earlier < day, valueOn path earlier = none := by
  have bounds : thresholdPath points base path =
      path.map fun point => ⟨point.day, inForce points base point.day⟩ :=
    thresholdPath_of_days days
  rw [bounds]
  exact (scan_ends false path).onDays days distinct

theorem crossingDate_of_fits {day : Nat} (fits : ∀ date ∈ asOf, (date.addDays day).isSome) :
    crossingDate asOf day = .ok (asOf.bind fun from' => from'.addDays day) := by
  cases asOf with
  | none => rfl
  | some date =>
    obtain ⟨crossed, added⟩ := Option.isSome_iff_exists.mp (fits date rfl)
    unfold crossingDate
    simp only [Option.bind_some, added]

theorem ReachedOn.unique (distinct : OneADay points) {day day' : Nat}
    {value value' threshold threshold' : ℚ}
    (reached : ReachedOn path direction base points day value threshold)
    (clear : ∀ earlier < day, ClearOn path direction base points earlier)
    (reached' : ReachedOn path direction base points day' value' threshold')
    (clear' : ∀ earlier < day', ClearOn path direction base points earlier) :
    day = day' ∧ value = value' ∧ threshold = threshold' := by
  rcases lt_trichotomy day day' with before | same | after
  · exact absurd reached ((clear' day before).not_reachedOn distinct)
  · subst same
    have values := reached.1.symm.trans reached'.1
    refine ⟨rfl, Option.some.inj values, ?_⟩
    rw [(inForceOn_iff distinct).mp reached.2.1, (inForceOn_iff distinct).mp reached'.2.1]
  · exact absurd reached' ((clear day' after).not_reachedOn distinct)

/-- The crossing of a given path is the least day at or beyond the threshold in force, with the
    margin of that day, as long as every day before it has a value; and there is none exactly when
    no day is reached so. -/
theorem firstCrossingOf_least {items : List PathItem} {changes : List ThresholdChange}
    (read : normalisePath items = .ok path)
    (scheduled : normaliseChanges changes asOf (path.length - 1) = .ok points)
    (dated : ∀ date ∈ asOf, ∀ day < path.length, (date.addDays day).isSome) :
    ∃ result, firstCrossingOf items base direction asOf changes = .ok result ∧
      (∀ day date value threshold margin,
        result.crossing = some ⟨day, date, value, threshold, margin⟩ ↔
          ReachedOn path direction base points day value threshold ∧
          margin = breachMargin value threshold direction ∧
          date = asOf.bind (fun from' => from'.addDays day) ∧
          ∀ earlier < day, ClearOn path direction base points earlier) ∧
      (result.crossing = none ↔
        ∀ day value threshold, ReachedOn path direction base points day value threshold →
          ∃ earlier < day, valueOn path earlier = none) := by
  have days : DaysFrom 0 path := normaliseItems_days read
  have distinct := normaliseChanges_oneADay scheduled
  have run : firstCrossingOf items base direction asOf changes =
      crossingOver path base direction asOf points := by
    unfold firstCrossingOf
    rw [read]
    exact congrArg (· >>= crossingOver path base direction asOf) scheduled
  rw [run]
  unfold crossingOver
  simp only
  rcases @scan_onDays path direction base points days distinct with
    ⟨day, value, threshold, scanned, reached, clear⟩ | ⟨uncrossed, missing⟩
  · rw [scanned]
    have fits : ∀ date ∈ asOf, (date.addDays day).isSome :=
      fun date given => dated date given day (valueOn_eq_some reached.1)
    simp only [crossingDate_of_fits fits]
    refine ⟨_, rfl, ?_, ?_⟩
    · intro other date value' threshold' margin
      constructor
      · intro crossed
        cases crossed
        exact ⟨reached, rfl, rfl, clear⟩
      · rintro ⟨reached', rfl, rfl, clear'⟩
        obtain ⟨rfl, rfl, rfl⟩ := reached.unique distinct clear reached' clear'
        rfl
    · refine iff_of_false nofun fun behind => ?_
      obtain ⟨earlier, sooner, absent⟩ := behind day value threshold reached
      obtain ⟨other, _, present, _⟩ := clear earlier sooner
      rw [absent] at present
      cases present
  · have finished : ∃ result, (match scan direction false (path.zip (thresholdPath points base path))
        with
        | .crossed day value bound => do
          let date ← crossingDate asOf day
          return (⟨direction, base, path, thresholdPath points base path,
            .inr ⟨day, date, value, bound, breachMargin value bound direction⟩, asOf, points⟩ :
            CrossingResult)
        | .blocked => return ⟨direction, base, path, thresholdPath points base path,
            .inl .unavailableBefore, asOf, points⟩
        | .clear missing => return ⟨direction, base, path, thresholdPath points base path,
            .inl (clearReason path direction missing), asOf, points⟩) = .ok result ∧
        result.crossing = none := by
      cases scanned : scan direction false (path.zip (thresholdPath points base path)) with
      | crossed day value threshold => exact absurd scanned (uncrossed day value threshold)
      | blocked => exact ⟨_, rfl, rfl⟩
      | clear seen => exact ⟨_, rfl, rfl⟩
    obtain ⟨result, returned, none⟩ := finished
    refine ⟨result, returned, ?_, iff_of_true none missing⟩
    intro day date value threshold margin
    rw [none]
    refine iff_of_false nofun ?_
    rintro ⟨reached, _, _, clear⟩
    obtain ⟨earlier, sooner, absent⟩ := missing day value threshold reached
    obtain ⟨other, _, present, _⟩ := clear earlier sooner
    rw [absent] at present
    cases present

end

/-- A first day without a value hides the crossing of the second. -/
theorem missing_hides_crossing :
    ¬ ∀ (items : List PathItem) (path : List PathPoint) (base : ℚ) (direction : Direction)
      (result : CrossingResult), normalisePath items = .ok path →
      firstCrossingOf items base direction none [] = .ok result →
        (result.crossing = none ↔
          ∀ day value threshold, ¬ ReachedOn path direction base [] day value threshold) := by
  intro claimed
  have hidden := (claimed [.value none, .value (some 5)] [⟨0, none, 0, 0⟩, ⟨1, some 5, 0, 0⟩] 3 .max
    ⟨.max, 3, [⟨0, none, 0, 0⟩, ⟨1, some 5, 0, 0⟩], [⟨0, 3⟩, ⟨1, 3⟩], .inl .unavailableBefore, none,
      []⟩ rfl rfl).mp rfl
  exact hidden 1 5 3 ⟨rfl, .inr ⟨rfl, nofun⟩, by decide⟩

/-- The value reaches the lowered threshold on the second day. -/
theorem firstCrossingOf_least_lowered :
    ∃ result, firstCrossingOf [.value (some 1), .value (some 2)] 3 .max none [⟨2, .day 1⟩] =
        .ok result ∧
      (∀ day date value threshold margin,
        result.crossing = some ⟨day, date, value, threshold, margin⟩ ↔
          ReachedOn [⟨0, some 1, 0, 0⟩, ⟨1, some 2, 0, 0⟩] .max 3 [⟨1, 2⟩] day value threshold ∧
          margin = breachMargin value threshold .max ∧
          date = (none : Option Date).bind (fun from' => from'.addDays day) ∧
          ∀ earlier < day, ClearOn [⟨0, some 1, 0, 0⟩, ⟨1, some 2, 0, 0⟩] .max 3 [⟨1, 2⟩] earlier) ∧
      (result.crossing = none ↔
        ∀ day value threshold,
          ReachedOn [⟨0, some 1, 0, 0⟩, ⟨1, some 2, 0, 0⟩] .max 3 [⟨1, 2⟩] day value threshold →
          ∃ earlier < day, valueOn [⟨0, some 1, 0, 0⟩, ⟨1, some 2, 0, 0⟩] earlier = none) :=
  firstCrossingOf_least rfl (by decide) nofun

end Forecast

end CovenantRadar
