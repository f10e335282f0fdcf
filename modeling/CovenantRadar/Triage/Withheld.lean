import CovenantRadar.Triage.Ranking

/-!
# Withheld probabilities

Two books that differ in the probabilities of withheld forecasts only: what the ranking
shows of them is the same, unless such a probability decides which reason is composed and
just one of the two books is refused for it.
-/

namespace CovenantRadar

namespace Triage

/-- A forecast that is suppressed or below the confidence floor. -/
def Withheld (floor : Fraction) (forecast : ForecastFact) : Prop :=
  forecast.suppressed = true ∨ forecast.belowConfidenceFloor = true ∨
    ∃ confidence ∈ forecast.confidence, confidence.number.value < floor.number.value

/-- The same forecast, up to a withheld probability. -/
structure SameForecast (floor : Fraction) (f g : ForecastFact) : Prop where
  covenantVersionId : f.covenantVersionId = g.covenantVersionId
  horizonDays : f.horizonDays = g.horizonDays
  confidence : f.confidence = g.confidence
  belowConfidenceFloor : f.belowConfidenceFloor = g.belowConfidenceFloor
  suppressed : f.suppressed = g.suppressed
  reason : f.reason = g.reason
  probability : Withheld floor f ∨ f.probability = g.probability

/-- The same borrower, up to withheld probabilities. -/
structure SameButWithheld (floor : Fraction) (a b : TriageInput) : Prop where
  borrowerId : a.borrowerId = b.borrowerId
  reference : a.reference = b.reference
  exposure : a.exposure = b.exposure
  smaBand : a.smaBand = b.smaBand
  forecasts : List.Forall₂ (SameForecast floor) a.forecasts b.forecasts

/-- What a ranking shows of a borrower. -/
structure Shown where
  borrowerId : Uuid
  urgency : Option Money
  band : Band
  state : State
  probability : Option Fraction
  deriving DecidableEq

/-- The columns of an entry. -/
def TriageEntry.shown (entry : TriageEntry) : Shown :=
  ⟨entry.borrowerId, entry.urgency, entry.band, entry.state, entry.probability⟩

/-- The ranking of a book as it is shown, or the error it raises. -/
def shownRanking (entries : List TriageInput) (thresholds : TriageThresholds) :
    Except PyError (List Shown) :=
  (rank entries thresholds).map (List.map TriageEntry.shown)

/-- Every reason composed for a book is short enough. -/
def ReasonsFit (thresholds : TriageThresholds) (entries : List TriageInput) : Prop :=
  ∀ value ∈ entries, (composedReason thresholds value).length ≤ 500

/-- A book of distinct borrowers whose exposures fit the decimal context. -/
structure Admissible (entries : List TriageInput) : Prop where
  ids : (entries.map (·.borrowerId)).Nodup
  references : (entries.map (·.reference.text)).Nodup
  exposures : ∀ value ∈ entries, ∀ amount ∈ value.exposure, amount.InContext

/-! ## Selection -/

section

variable {thresholds : TriageThresholds} {a b : TriageInput} {f g : ForecastFact}

/-- A usable forecast is not withheld. -/
theorem not_withheld_of_usable {floor : Fraction} (usable : isUsable floor f = true) :
    ¬ Withheld floor f := by
  simp only [isUsable, Bool.and_eq_true, Option.any_eq_true, Bool.not_eq_true',
    decide_eq_true_eq] at usable
  obtain ⟨_, confidence, known, ⟨open', free⟩, enough⟩ := usable
  rintro (suppressed | below | ⟨confidence', known', low⟩)
  · rw [free] at suppressed
    cases suppressed
  · rw [open'] at below
    cases below
  · rw [Option.mem_def, known] at known'
    cases known'
    exact absurd enough (not_le.mpr low)

theorem SameForecast.eq {floor : Fraction} (same : SameForecast floor f g)
    (shown : ¬ Withheld floor f) : f = g := by
  have probability := same.probability.resolve_left shown
  cases f
  cases g
  obtain ⟨version, horizon, confidence, below, suppressed, reason, _⟩ := same
  simp only at version horizon confidence below suppressed reason probability
  subst version horizon confidence below suppressed reason probability
  rfl

theorem SameForecast.withheld_iff {floor : Fraction} (same : SameForecast floor f g) :
    Withheld floor f ↔ Withheld floor g := by
  unfold Withheld
  rw [same.suppressed, same.belowConfidenceFloor, same.confidence]

theorem SameForecast.usable {floor : Fraction} (same : SameForecast floor f g) :
    isUsable floor f = isUsable floor g := by
  by_cases withheld : Withheld floor f
  · have first : isUsable floor f = false := by
      rw [← Bool.not_eq_true]
      exact fun usable => not_withheld_of_usable usable withheld
    have second : isUsable floor g = false := by
      rw [← Bool.not_eq_true]
      exact fun usable => not_withheld_of_usable usable (same.withheld_iff.mp withheld)
    rw [first, second]
  · rw [same.eq withheld]

/-- The usable forecasts of the two books are the same. -/
theorem usable_eq {floor : Fraction} {fs gs : List ForecastFact}
    (pairs : List.Forall₂ (SameForecast floor) fs gs) :
    fs.filter (isUsable floor) = gs.filter (isUsable floor) := by
  induction pairs with
  | nil => rfl
  | @cons f g fs gs head _ ih =>
    rw [List.filter_cons, List.filter_cons, ← head.usable, ih]
    split_ifs with usable
    · rw [head.eq (not_withheld_of_usable usable)]
    · rfl

/-- Built entries that differ in the withheld forecast they name only. -/
structure Alike (x y : RankedFacts) : Prop where
  borrowerId : x.borrowerId = y.borrowerId
  reference : x.reference = y.reference
  exposure : x.exposure = y.exposure
  urgency : x.urgency = y.urgency
  band : x.band = y.band
  state : x.state = y.state
  probability : x.probability = y.probability

theorem buildRankedEntry_alike (same : SameButWithheld thresholds.confidenceFloor a b) :
    SameOutcome Alike (buildRankedEntry thresholds a) (buildRankedEntry thresholds b) := by
  have usable := usable_eq same.forecasts
  unfold buildRankedEntry
  cases withheld : maxBy suppressedKey a.forecasts with
  | none =>
    have empty := maxBy_eq_none.mp withheld
    have pairs := same.forecasts
    rw [empty, List.forall₂_nil_left_iff] at pairs
    rw [pairs]
    exact .ok ⟨same.borrowerId, same.reference, same.exposure, rfl, rfl, rfl, rfl⟩
  | some forecast =>
    cases withheld' : maxBy suppressedKey b.forecasts with
    | none =>
      have empty := maxBy_eq_none.mp withheld'
      have pairs := same.forecasts
      rw [empty, List.forall₂_nil_right_iff] at pairs
      rw [pairs] at withheld
      cases withheld
    | some forecast' =>
      simp only [usable]
      cases maxBy worstKey (b.forecasts.filter (isUsable thresholds.confidenceFloor)) with
      | none => exact .ok ⟨same.borrowerId, same.reference, same.exposure, rfl, rfl, rfl, rfl⟩
      | some selected =>
        rw [same.exposure]
        apply (SameOutcome.refl (R := Eq) (fun _ => rfl) _).bind
        intro amount _ equal
        subst equal
        cases amount with
        | none =>
          exact .ok ⟨same.borrowerId, same.reference, same.exposure, rfl, rfl, rfl, rfl⟩
        | some amount =>
          apply (SameOutcome.refl (R := Eq) (fun _ => rfl) _).bind
          intro days _ equal
          subst equal
          exact .ok ⟨same.borrowerId, same.reference, same.exposure, rfl, rfl, rfl, rfl⟩

end

/-! ## Ranking two books -/

theorem sortKey_alike {x y : RankedFacts} (alike : Alike x y) : sortKey x = sortKey y := by
  unfold sortKey
  rw [alike.urgency, alike.exposure, alike.reference]

theorem sortByKey_alike {xs ys : List RankedFacts} (pairs : List.Forall₂ Alike xs ys) :
    SameOutcome (List.Forall₂ Alike) (sortByKey xs) (sortByKey ys) := by
  unfold sortByKey
  apply (SameOutcome.mapM (R := fun p q : SortKey × RankedFacts => p.1 = q.1 ∧ Alike p.2 q.2) pairs
    ?_).bind
  · intro keyed keyed' related
    refine .ok ?_
    rw [List.forall₂_map_left_iff, List.forall₂_map_right_iff]
    exact (forall₂_insertionSort (fun _ _ same => same.1) related).imp fun _ _ same => same.2
  · intro x y alike
    rw [sortKey_alike alike]
    cases sortKey y with
    | error e => exact .error e
    | ok key => exact .ok ⟨rfl, alike⟩

/-- The stages of `rank` before the entries are checked. -/
def rankedItems (entries : List TriageInput) (thresholds : TriageThresholds) :
    Except PyError (List RankedFacts) := do
  uniqueBorrowers [] [] entries
  let built ← entries.mapM (buildRankedEntry thresholds)
  sortByKey built

theorem rank_eq (entries : List TriageInput) (thresholds : TriageThresholds) :
    rank entries thresholds =
      rankedItems entries thresholds >>= fun ranked => triageEntries ranked 1 ranked := by
  simp [rank, rankedItems, bind_assoc]

section

variable {thresholds : TriageThresholds} {entries other : List TriageInput}

theorem uniqueBorrowers_same
    (pairs : List.Forall₂ (SameButWithheld thresholds.confidenceFloor) entries other)
    (seen : List Uuid) (references : List Text) :
    uniqueBorrowers seen references entries = uniqueBorrowers seen references other := by
  induction pairs generalizing seen references with
  | nil => rfl
  | cons head _ ih => rw [uniqueBorrowers, uniqueBorrowers, head.borrowerId, head.reference, ih]

theorem rankedItems_alike
    (pairs : List.Forall₂ (SameButWithheld thresholds.confidenceFloor) entries other) :
    SameOutcome (List.Forall₂ Alike) (rankedItems entries thresholds)
      (rankedItems other thresholds) := by
  unfold rankedItems
  rw [uniqueBorrowers_same pairs]
  apply (SameOutcome.refl (R := Eq) (fun _ => rfl) _).bind
  intro _ _ _
  apply (SameOutcome.mapM pairs fun _ _ => buildRankedEntry_alike).bind
  intro built built' alike
  exact sortByKey_alike alike

end

/-- The error of a reason that is refused. -/
def reasonError : PyError :=
  .valueError "reason must be non-empty text of at most 500 characters."

theorem triageEntries_eq_error {ranked items : List RankedFacts} {position : ℕ+} {error : PyError}
    (raised : triageEntries ranked position items = .error error) : error = reasonError := by
  induction items generalizing position with
  | nil => cases raised
  | cons item items ih =>
    rw [triageEntries] at raised
    cases checked : boundedText "reason" 500 item.reason with
    | error error' =>
      have refused : error' = reasonError := by
        unfold boundedText at checked
        split_ifs at checked
        exact (Except.error.inj checked).symm
      unfold triageEntry at raised
      rw [checked] at raised
      cases raised
      exact refused
    | ok reason =>
      unfold triageEntry at raised
      rw [checked] at raised
      cases later : triageEntries ranked (position + 1) items with
      | error error' =>
        rw [later] at raised
        cases raised
        exact ih later
      | ok entries =>
        rw [later] at raised
        cases raised

/-- What a built entry shows. -/
def RankedFacts.shown (item : RankedFacts) : Shown :=
  ⟨item.borrowerId, item.urgency, item.band, item.state, item.probability⟩

theorem triageEntries_shown {ranked items : List RankedFacts} {position : ℕ+}
    {entries : List TriageEntry} (returned : triageEntries ranked position items = .ok entries) :
    entries.map TriageEntry.shown = items.map RankedFacts.shown := by
  induction items generalizing position entries with
  | nil =>
    cases returned
    rfl
  | cons item items ih =>
    obtain ⟨entry, first, rest⟩ := Except.bind_eq_ok_iff.mp returned
    obtain ⟨others, later, last⟩ := Except.bind_eq_ok_iff.mp rest
    cases last
    obtain ⟨reason, checked, made⟩ := Except.bind_eq_ok_iff.mp first
    cases made
    rw [List.map_cons, List.map_cons, ih later]
    rfl

theorem shown_alike {xs ys : List RankedFacts} (pairs : List.Forall₂ Alike xs ys) :
    xs.map RankedFacts.shown = ys.map RankedFacts.shown := by
  rw [← List.forall₂_eq_eq_eq, List.forall₂_map_left_iff, List.forall₂_map_right_iff]
  refine pairs.imp fun x y alike => ?_
  unfold RankedFacts.shown
  rw [alike.borrowerId, alike.urgency, alike.band, alike.state, alike.probability]

section

variable {thresholds : TriageThresholds} {entries other : List TriageInput}

/-- The two rankings are shown alike exactly when both books are ranked or both refused. -/
theorem shownRanking_eq_iff
    (pairs : List.Forall₂ (SameButWithheld thresholds.confidenceFloor) entries other) :
    shownRanking entries thresholds = shownRanking other thresholds ↔
      ((∃ ranked, rank entries thresholds = .ok ranked) ↔
        ∃ ranked, rank other thresholds = .ok ranked) := by
  have stages := rankedItems_alike pairs
  unfold shownRanking
  rw [rank_eq, rank_eq]
  generalize rankedItems entries thresholds = first at stages
  generalize rankedItems other thresholds = second at stages
  cases stages with
  | error error => exact iff_of_true rfl Iff.rfl
  | @ok items items' alike =>
    have left : ((Except.ok items : Except PyError _) >>= fun ranked =>
        triageEntries ranked 1 ranked) = triageEntries items 1 items := rfl
    have right : ((Except.ok items' : Except PyError _) >>= fun ranked =>
        triageEntries ranked 1 ranked) = triageEntries items' 1 items' := rfl
    rw [left, right]
    cases shown : triageEntries items 1 items with
    | error error =>
      cases shown' : triageEntries items' 1 items' with
      | error error' =>
        rw [triageEntries_eq_error shown, triageEntries_eq_error shown']
        exact iff_of_true rfl (by simp)
      | ok ranked' => simp [Except.map]
    | ok ranked =>
      cases shown' : triageEntries items' 1 items' with
      | error error' => simp [Except.map]
      | ok ranked' =>
        refine iff_of_true (congrArg Except.ok ?_) (by simp)
        rw [triageEntries_shown shown, triageEntries_shown shown']
        exact shown_alike alike

theorem admissible_same
    (pairs : List.Forall₂ (SameButWithheld thresholds.confidenceFloor) entries other)
    (admissible : Admissible entries) : Admissible other := by
  have ids : other.map (·.borrowerId) = entries.map (·.borrowerId) := by
    rw [← List.forall₂_eq_eq_eq, List.forall₂_map_left_iff, List.forall₂_map_right_iff]
    exact pairs.flip.imp fun _ _ same => same.borrowerId.symm
  have references : other.map (·.reference.text) = entries.map (·.reference.text) := by
    rw [← List.forall₂_eq_eq_eq, List.forall₂_map_left_iff, List.forall₂_map_right_iff]
    exact pairs.flip.imp fun _ _ same => by rw [same.reference]
  refine ⟨ids ▸ admissible.ids, references ▸ admissible.references, ?_⟩
  intro value member
  obtain ⟨value', listed, same⟩ := (forall₂_exists pairs).2 value member
  rw [← same.exposure]
  exact admissible.exposures value' listed

/-- An admissible book is ranked exactly when its reasons fit. -/
theorem ranked_iff_reasonsFit (admissible : Admissible entries) :
    (∃ ranked, rank entries thresholds = .ok ranked) ↔ ReasonsFit thresholds entries := by
  have unique : uniqueBorrowers [] [] entries = .ok () := by
    rw [uniqueBorrowers_eq_ok_iff]
    exact ⟨⟨admissible.ids, fun _ _ listed => absurd listed List.not_mem_nil⟩,
      admissible.references, fun _ _ listed => absurd listed List.not_mem_nil⟩
  constructor
  · intro h
    obtain ⟨ranked, returned⟩ := h
    exact fun value member => (rankable_of_ranked returned value member).1
  · intro fit
    exact rank_returns unique fun value member => ⟨fit value member, admissible.exposures value member⟩

/-- A book that is ranked is admissible. -/
theorem admissible_of_ranked {ranked : List TriageEntry}
    (returned : rank entries thresholds = .ok ranked) : Admissible entries := by
  obtain ⟨unique, _⟩ := rank_eq_ok_iff.mp returned
  rw [uniqueBorrowers_eq_ok_iff] at unique
  exact ⟨unique.1.1, unique.2.1, fun value member => (rankable_of_ranked returned value member).2⟩

/-- Books that differ in withheld probabilities only are shown in the same order, with the
    same urgency, band, state and displayed probability, exactly unless they are otherwise
    rankable and the reasons of just one of them fit. -/
theorem shownRanking_withheld_iff
    (pairs : List.Forall₂ (SameButWithheld thresholds.confidenceFloor) entries other) :
    shownRanking entries thresholds = shownRanking other thresholds ↔
      (Admissible entries → (ReasonsFit thresholds entries ↔ ReasonsFit thresholds other)) := by
  rw [shownRanking_eq_iff pairs]
  constructor
  · intro both admissible
    rw [← ranked_iff_reasonsFit admissible, both,
      ranked_iff_reasonsFit (admissible_same pairs admissible)]
  · intro fits
    by_cases admissible : Admissible entries
    · rw [ranked_iff_reasonsFit admissible, fits admissible,
        ranked_iff_reasonsFit (admissible_same pairs admissible)]
    · -- a book that is refused for another reason stays refused
      have refused : ¬ Admissible other := by
        intro other'
        have back : List.Forall₂ (SameButWithheld thresholds.confidenceFloor) other entries := by
          refine pairs.flip.imp fun b a same => ?_
          refine ⟨same.borrowerId.symm, same.reference.symm, same.exposure.symm, same.smaBand.symm,
            same.forecasts.flip.imp fun g f one => ?_⟩
          exact ⟨one.covenantVersionId.symm, one.horizonDays.symm, one.confidence.symm,
            one.belowConfidenceFloor.symm, one.suppressed.symm, one.reason.symm,
            one.probability.imp one.withheld_iff.mp Eq.symm⟩
        exact admissible (admissible_same back other')
      refine iff_of_false ?_ ?_
      · exact fun h => admissible (admissible_of_ranked h.choose_spec)
      · exact fun h => refused (admissible_of_ranked h.choose_spec)

end

def oneTenth : Fraction := ⟨⟨false, 1, -1⟩, by norm_num [Decimal.value, Decimal.magnitude]⟩

/-- A suppressed forecast with this probability and reason. -/
def suppressedForecast (version : Nat) (probability : Fraction) (reason : Option (BriefText 500)) :
    ForecastFact :=
  ⟨Uuid.ofInt version, 30, some probability, some half, false, true, reason⟩

/-- A borrower with suppressed forecasts only. -/
def watchedBorrower (forecasts : List ForecastFact) : TriageInput :=
  { borrowerId := Uuid.ofInt 62001
    reference := ⟨"BR-62001".toList, by decide⟩
    exposure := none
    forecasts := forecasts
    smaBand := none }

theorem suppressedForecast_same (floor : Fraction) (version : Nat) (p q : Fraction)
    (reason : Option (BriefText 500)) :
    SameForecast floor (suppressedForecast version p reason) (suppressedForecast version q reason) :=
  ⟨rfl, rfl, rfl, rfl, rfl, rfl, Or.inl (Or.inl rfl)⟩

/-- `shownRanking_withheld_iff` on a suppressed forecast without a reason. -/
theorem shownRanking_withheld_short :
    shownRanking [exposedBorrower, watchedBorrower [suppressedForecast 62002 nineTenths none]]
        usualThresholds =
      shownRanking [exposedBorrower, watchedBorrower [suppressedForecast 62002 oneTenth none]]
        usualThresholds := by
  have same : SameButWithheld usualThresholds.confidenceFloor exposedBorrower exposedBorrower :=
    ⟨rfl, rfl, rfl, rfl, .cons ⟨rfl, rfl, rfl, rfl, rfl, rfl, Or.inr rfl⟩ .nil⟩
  have differs : SameButWithheld usualThresholds.confidenceFloor
      (watchedBorrower [suppressedForecast 62002 nineTenths none])
      (watchedBorrower [suppressedForecast 62002 oneTenth none]) :=
    ⟨rfl, rfl, rfl, rfl, .cons (suppressedForecast_same _ _ _ _ _) .nil⟩
  refine (shownRanking_withheld_iff (.cons same (.cons differs .nil))).mpr fun _ => ?_
  refine iff_of_true ?_ ?_
  · show ∀ value ∈ _, _
    decide +kernel
  · show ∀ value ∈ _, _
    decide +kernel

/-- A suppressed probability decides which of two suppressed forecasts gives the reason, and
    only one of the two books is refused for a reason that is too long. -/
theorem shownRanking_withheld_long :
    List.Forall₂ (SameButWithheld usualThresholds.confidenceFloor)
      [watchedBorrower [suppressedForecast 62003 nineTenths (some longReason),
        suppressedForecast 62004 half none]]
      [watchedBorrower [suppressedForecast 62003 oneTenth (some longReason),
        suppressedForecast 62004 half none]] ∧
    (shownRanking [watchedBorrower [suppressedForecast 62003 nineTenths (some longReason),
        suppressedForecast 62004 half none]] usualThresholds).toOption.isNone ∧
    (shownRanking [watchedBorrower [suppressedForecast 62003 oneTenth (some longReason),
        suppressedForecast 62004 half none]] usualThresholds).toOption.isSome := by
  refine ⟨.cons ⟨rfl, rfl, rfl, rfl, .cons (suppressedForecast_same _ _ _ _ _)
    (.cons (suppressedForecast_same _ _ _ _ _) .nil)⟩ .nil, ?_, ?_⟩
  · decide +kernel
  · decide +kernel

end Triage

end CovenantRadar
