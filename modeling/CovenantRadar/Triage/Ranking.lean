import CovenantRadar.Triage.Urgency

/-!
# The ranking of a book

When `rank` returns every borrower in the documented order, and the same ranking for every
order of the borrowers and of their forecasts.
-/

namespace CovenantRadar

namespace Triage

/-- The value of an optional amount, absent as zero. -/
def amountValue (amount : Option Money) : ℚ := (amount.map (·.number.value)).getD 0

/-- The documented total order: urgency descending and absent urgencies last, then exposure
    descending, then reference ascending. -/
def documentedKey (urgency exposure : Option Money) (reference : BriefText 100) : SortKey :=
  toLex (if urgency.isSome then 0 else 1, toLex (-amountValue urgency,
    toLex (if exposure.isSome then 0 else 1, toLex (-amountValue exposure, reference.text))))

/-- The documented key of an entry. -/
def TriageEntry.key (entry : TriageEntry) : SortKey :=
  documentedKey entry.urgency entry.exposure entry.reference

/-- The same borrower with its forecasts in another order. -/
structure SameBorrower (a b : TriageInput) : Prop where
  borrowerId : a.borrowerId = b.borrowerId
  reference : a.reference = b.reference
  exposure : a.exposure = b.exposure
  smaBand : a.smaBand = b.smaBand
  forecasts : a.forecasts.Perm b.forecasts

/-- The same book in another order, of the borrowers and of the forecasts of each. -/
def Rearranged (entries other : List TriageInput) : Prop :=
  ∃ middle, entries.Perm middle ∧ List.Forall₂ SameBorrower middle other

/-- What a ranking is asked to be. -/
structure Ranking (entries : List TriageInput) (thresholds : TriageThresholds)
    (ranked : List TriageEntry) : Prop where
  everyBorrower : (ranked.map fun entry => (entry.borrowerId, entry.reference)).Perm
    (entries.map fun value => (value.borrowerId, value.reference))
  ranks : ranked.map (fun entry => (entry.rank : ℕ)) = List.range' 1 entries.length
  ordered : ranked.Pairwise fun a b => a.key < b.key
  invariant : ∀ other, Rearranged entries other → rank other thresholds = .ok ranked

/-! ## The inputs of a ranking -/

/-- The usable forecast an entry is built on. -/
def worstForecast (thresholds : TriageThresholds) (value : TriageInput) : Option ForecastFact :=
  maxBy worstKey (value.forecasts.filter (isUsable thresholds.confidenceFloor))

/-- The urgency of a borrower. -/
def borrowerUrgency (thresholds : TriageThresholds) (value : TriageInput) :
    Except PyError (Option Money) :=
  match worstForecast thresholds value with
  | none => .ok none
  | some selected => urgency selected.probability value.exposure selected.confidence

/-- The reason composed for a borrower. -/
def composedReason (thresholds : TriageThresholds) (value : TriageInput) : Text :=
  match maxBy suppressedKey value.forecasts with
  | none => noForecastReason
  | some withheld =>
    match worstForecast thresholds value with
    | none => suppressionReason withheld thresholds.confidenceFloor
    | some selected =>
      if value.exposure.isSome then availableReason (Text.ofNat selected.horizonDays)
      else unrankableReason

/-- The largest exposure the default decimal context can negate. -/
def Money.InContext (amount : Money) : Prop :=
  amount.number.magnitude < DecimalContext.default.limit

/-- An amount as the default context rounds it. -/
def Money.rounded (amount : Money) : ℚ :=
  roundDigits DecimalContext.default.digits DecimalContext.default.least amount.number.value

/-- Equally urgent borrowers whose exposures differ only beyond the digits of the context,
    the larger one with the later reference. -/
def Undistinguished (thresholds : TriageThresholds) (a b : TriageInput) : Prop :=
  (∃ urgency urgency', borrowerUrgency thresholds a = .ok urgency ∧
    borrowerUrgency thresholds b = .ok urgency' ∧ urgency.isSome = urgency'.isSome ∧
      amountValue urgency = amountValue urgency') ∧
  ∃ exposure ∈ a.exposure, ∃ exposure' ∈ b.exposure,
    exposure'.number.value < exposure.number.value ∧ exposure.rounded = exposure'.rounded ∧
      b.reference.text < a.reference.text

/-! ## Amounts -/

theorem Money.value_eq (amount : Money) : amount.number.value = amount.number.magnitude :=
  Decimal.value_eq_magnitude amount.nonneg

theorem Money.mul_eq_ok {a b product : Money} (returned : a.mul b = .ok product) :
    product.number.value = roundDigits DecimalContext.default.digits DecimalContext.default.least
        (a.number.value * b.number.value) ∧ product.InContext := by
  unfold Money.mul at returned
  split at returned
  · rename_i result product
    cases returned
    obtain ⟨value, same, fits⟩ := Decimal.mul_eq_ok a.nonneg b.nonneg product
    exact ⟨value, fits⟩
  · cases returned

theorem Money.mul_returns_iff {a b : Money} :
    (∃ product, a.mul b = .ok product) ↔
      a.number.value * b.number.value < DecimalContext.default.limit := by
  rw [a.value_eq, b.value_eq, ← Decimal.mul_returns_iff]
  unfold Money.mul
  constructor
  · intro returned
    obtain ⟨product, returned⟩ := returned
    split at returned
    · rename_i result known
      exact ⟨result, known⟩
    · cases returned
  · intro returned
    obtain ⟨result, known⟩ := returned
    split
    · exact ⟨_, rfl⟩
    · rename_i error failed
      rw [failed] at known
      cases known

theorem Fraction.mul_le (fraction : Fraction) {amount : ℚ} (nonneg : 0 ≤ amount) :
    fraction.number.value * amount ≤ amount :=
  mul_le_of_le_one_left nonneg fraction.range.2

/-- A product with fractions overflows only where the exposure does. -/
theorem urgency_returns (probability confidence : Option Fraction) {exposure : Option Money}
    (fits : ∀ amount ∈ exposure, amount.InContext) :
    ∃ result, urgency probability exposure confidence = .ok result := by
  unfold urgency
  split
  · rename_i probability amount confidence
    have small : amount.number.value < DecimalContext.default.limit := by
      rw [amount.value_eq]
      exact fits amount rfl
    have bound : probability.amount.number.value * amount.number.value <
        DecimalContext.default.limit := lt_of_le_of_lt (probability.mul_le amount.nonneg) small
    obtain ⟨product, first⟩ := Money.mul_returns_iff.mpr bound
    obtain ⟨_, within⟩ := Money.mul_eq_ok first
    have bound' : product.number.value * confidence.amount.number.value <
        DecimalContext.default.limit := by
      rw [mul_comm]
      refine lt_of_le_of_lt (confidence.mul_le product.nonneg) ?_
      rw [product.value_eq]
      exact within
    obtain ⟨total, second⟩ := Money.mul_returns_iff.mpr bound'
    exact ⟨some total, Except.bind_eq_ok_iff.mpr
      ⟨product, first, Except.bind_eq_ok_iff.mpr ⟨total, second, rfl⟩⟩⟩
  · exact ⟨none, rfl⟩

theorem urgency_isSome {probability confidence : Option Fraction} {exposure result : Option Money}
    (returned : urgency probability exposure confidence = .ok result) :
    result.isSome = (probability.isSome && exposure.isSome && confidence.isSome) := by
  unfold urgency at returned
  split at returned
  · obtain ⟨product, _, rest⟩ := Except.bind_eq_ok_iff.mp returned
    obtain ⟨total, _, last⟩ := Except.bind_eq_ok_iff.mp rest
    cases last
    rfl
  · rename_i absent
    cases returned
    symm
    by_contra all
    simp only [Option.isSome_none, Bool.not_eq_false, Bool.and_eq_true, Option.isSome_iff_exists]
      at all
    obtain ⟨⟨⟨p, rfl⟩, e, rfl⟩, c, rfl⟩ := all
    exact absent p e c rfl rfl rfl

/-- An urgency is rounded already. -/
theorem urgency_rounded {probability confidence : Option Fraction} {exposure : Option Money}
    {result : Money} (returned : urgency probability exposure confidence = .ok (some result)) :
    result.rounded = result.number.value ∧ result.InContext := by
  unfold urgency at returned
  split at returned
  · obtain ⟨product, _, rest⟩ := Except.bind_eq_ok_iff.mp returned
    obtain ⟨total, second, last⟩ := Except.bind_eq_ok_iff.mp rest
    cases last
    obtain ⟨value, fits⟩ := Money.mul_eq_ok second
    refine ⟨?_, fits⟩
    unfold Money.rounded
    rw [value, roundDigits_idem DecimalContext.default.positive
      (mul_nonneg product.nonneg (Fraction.amount _).nonneg)]
  · cases returned

/-! ## Building an entry -/

/-- What is built for a borrower. -/
structure Built (thresholds : TriageThresholds) (value : TriageInput) (item : RankedFacts) :
    Prop where
  borrowerId : item.borrowerId = value.borrowerId
  reference : item.reference = value.reference
  exposure : item.exposure = value.exposure
  urgency : borrowerUrgency thresholds value = .ok item.urgency
  reason : item.reason = composedReason thresholds value

theorem worstForecast_usable {thresholds : TriageThresholds} {value : TriageInput}
    {selected : ForecastFact} (chosen : worstForecast thresholds value = some selected) :
    selected ∈ value.forecasts ∧ isUsable thresholds.confidenceFloor selected = true := by
  exact List.mem_filter.mp (maxBy_mem chosen)

/-- A borrower's urgency is there exactly when its exposure and a usable forecast are. -/
theorem borrowerUrgency_isSome {thresholds : TriageThresholds} {value : TriageInput}
    {selected : ForecastFact} {result : Option Money}
    (chosen : worstForecast thresholds value = some selected)
    (returned : urgency selected.probability value.exposure selected.confidence = .ok result) :
    result.isSome = value.exposure.isSome := by
  have usable := (worstForecast_usable chosen).2
  simp only [isUsable, Bool.and_eq_true, Option.any_eq_true] at usable
  obtain ⟨probable, confidence, known, _⟩ := usable
  rw [urgency_isSome returned, probable, known]
  simp

theorem buildRankedEntry_eq_ok {thresholds : TriageThresholds} {value : TriageInput}
    {item : RankedFacts} (returned : buildRankedEntry thresholds value = .ok item) :
    Built thresholds value item := by
  unfold buildRankedEntry at returned
  cases withheld : maxBy suppressedKey value.forecasts with
  | none =>
    rw [withheld] at returned
    cases returned
    have empty := maxBy_eq_none.mp withheld
    have idle : worstForecast thresholds value = none := by
      unfold worstForecast
      rw [empty]
      rfl
    refine ⟨rfl, rfl, rfl, ?_, ?_⟩
    · unfold borrowerUrgency
      rw [idle]
      rfl
    · unfold composedReason
      rw [withheld]
      rfl
  | some forecast =>
    rw [withheld] at returned
    simp only at returned
    cases chosen : worstForecast thresholds value with
    | none =>
      unfold worstForecast at chosen
      rw [chosen] at returned
      cases returned
      refine ⟨rfl, rfl, rfl, ?_, ?_⟩
      · unfold borrowerUrgency worstForecast
        rw [chosen]
        rfl
      · unfold composedReason worstForecast
        rw [withheld, chosen]
        rfl
    | some selected =>
      have chosen' := chosen
      unfold worstForecast at chosen'
      rw [chosen'] at returned
      obtain ⟨amount, multiplied, rest⟩ := Except.bind_eq_ok_iff.mp returned
      have some := borrowerUrgency_isSome chosen multiplied
      have urgent : borrowerUrgency thresholds value = .ok amount := by
        unfold borrowerUrgency
        rw [chosen]
        exact multiplied
      have text : composedReason thresholds value = if value.exposure.isSome then
          availableReason (Text.ofNat selected.horizonDays) else unrankableReason := by
        unfold composedReason
        rw [withheld, chosen]
      cases amount with
      | none =>
        cases rest
        rw [← some] at text
        exact ⟨rfl, rfl, rfl, urgent, text.symm⟩
      | some amount =>
        obtain ⟨days, written, last⟩ := Except.bind_eq_ok_iff.mp rest
        cases last
        unfold daysText at written
        split_ifs at written
        cases written
        rw [← some] at text
        exact ⟨rfl, rfl, rfl, urgent, text.symm⟩

/-- A borrower whose exposure and reason are short enough is built. -/
theorem buildRankedEntry_returns {thresholds : TriageThresholds} {value : TriageInput}
    (fits : ∀ amount ∈ value.exposure, amount.InContext)
    (short : (composedReason thresholds value).length ≤ 500) :
    ∃ item, buildRankedEntry thresholds value = .ok item := by
  unfold buildRankedEntry
  cases withheld : maxBy suppressedKey value.forecasts with
  | none => exact ⟨_, rfl⟩
  | some forecast =>
    simp only
    cases chosen : worstForecast thresholds value with
    | none =>
      unfold worstForecast at chosen
      rw [chosen]
      exact ⟨_, rfl⟩
    | some selected =>
      obtain ⟨amount, multiplied⟩ := urgency_returns selected.probability selected.confidence fits
      have some := borrowerUrgency_isSome chosen multiplied
      have chosen' := chosen
      unfold worstForecast at chosen'
      rw [chosen']
      cases amount with
      | none =>
        exact ⟨_, Except.bind_eq_ok_iff.mpr ⟨none, multiplied, rfl⟩⟩
      | some amount =>
        have written : daysText selected.horizonDays = .ok (Text.ofNat selected.horizonDays) := by
          unfold composedReason at short
          rw [withheld, chosen] at short
          simp only at short
          rw [← some, Option.isSome_some, if_pos rfl] at short
          unfold daysText availableReason at *
          rw [if_neg]
          simp only [List.length_append] at short
          omega
        exact ⟨_, Except.bind_eq_ok_iff.mpr ⟨_, multiplied,
          Except.bind_eq_ok_iff.mpr ⟨_, written, rfl⟩⟩⟩

/-- Every composed reason has a letter. -/
theorem composedReason_visible (thresholds : TriageThresholds) (value : TriageInput) :
    Text.strip (composedReason thresholds value) ≠ [] := by
  have letters : Text.isSpace 'e' = false := by decide
  apply Text.strip_ne_nil _ letters
  unfold composedReason
  cases maxBy suppressedKey value.forecasts with
  | none => exact List.mem_of_elem_eq_true rfl
  | some withheld =>
    cases worstForecast thresholds value with
    | none =>
      simp only
      unfold suppressionReason
      cases withheld.reason with
      | some reason => exact List.mem_append_left _ (List.mem_of_elem_eq_true rfl)
      | none =>
        simp only
        split_ifs
        · exact List.mem_append_right _ (List.mem_of_elem_eq_true rfl)
        · exact List.mem_of_elem_eq_true rfl
    | some selected =>
      simp only
      split_ifs
      · exact List.mem_append_left _ (List.mem_append_right _ (List.mem_of_elem_eq_true rfl))
      · exact List.mem_of_elem_eq_true rfl

/-! ## Sorting -/

/-- The rounded value of an optional amount, absent as zero. -/
def roundedValue (amount : Option Money) : ℚ := (amount.map Money.rounded).getD 0

/-- The key a built entry is sorted by. -/
def RankedFacts.key (item : RankedFacts) : SortKey :=
  toLex (if item.urgency.isSome then 0 else 1, toLex (-roundedValue item.urgency,
    toLex (if item.exposure.isSome then 0 else 1,
      toLex (-roundedValue item.exposure, item.reference.text))))

theorem negated_eq_ok_iff {amount : Option Money} {result : ℚ} :
    negated amount = .ok result ↔
      (∀ money ∈ amount, money.InContext) ∧ result = -roundedValue amount := by
  cases amount with
  | none =>
    have zero : -roundedValue none = 0 := neg_zero
    rw [zero]
    constructor
    · intro returned
      cases returned
      exact ⟨nofun, rfl⟩
    · intro both
      rw [both.2]
      rfl
  | some money =>
    constructor
    · intro returned
      obtain ⟨negative, computed, last⟩ := Except.bind_eq_ok_iff.mp returned
      cases last
      obtain ⟨value, fits⟩ := Decimal.neg_eq_ok money.nonneg computed
      exact ⟨fun other same => Option.mem_some_iff.mp same ▸ fits, value⟩
    · intro both
      obtain ⟨negative, computed⟩ := Decimal.neg_returns_iff.mpr (both.1 money rfl)
      obtain ⟨value, _⟩ := Decimal.neg_eq_ok money.nonneg computed
      refine Except.bind_eq_ok_iff.mpr ⟨negative, computed, ?_⟩
      rw [both.2]
      exact congrArg Except.ok value

/-- The amounts of an entry that its key negates are in the context. -/
def RankedFacts.InContext (item : RankedFacts) : Prop :=
  (∀ money ∈ item.urgency, money.InContext) ∧ ∀ money ∈ item.exposure, money.InContext

theorem sortKey_eq_ok_iff {item : RankedFacts} {key : SortKey} :
    sortKey item = .ok key ↔ item.InContext ∧ key = item.key := by
  unfold sortKey
  rw [Except.bind_eq_ok_iff]
  constructor
  · intro returned
    obtain ⟨urgency, first, rest⟩ := returned
    obtain ⟨exposure, second, last⟩ := Except.bind_eq_ok_iff.mp rest
    cases last
    obtain ⟨fits, rfl⟩ := negated_eq_ok_iff.mp first
    obtain ⟨fits', rfl⟩ := negated_eq_ok_iff.mp second
    exact ⟨⟨fits, fits'⟩, rfl⟩
  · intro both
    refine ⟨_, negated_eq_ok_iff.mpr ⟨both.1.1, rfl⟩, Except.bind_eq_ok_iff.mpr
      ⟨_, negated_eq_ok_iff.mpr ⟨both.1.2, rfl⟩, ?_⟩⟩
    rw [both.2]
    rfl

/-- The list in the order of its keys. -/
def inOrder (items : List RankedFacts) : List RankedFacts :=
  items.insertionSort fun a b => a.key ≤ b.key

theorem sortByKey_eq_ok_iff {items ranked : List RankedFacts} :
    sortByKey items = .ok ranked ↔ (∀ item ∈ items, item.InContext) ∧ ranked = inOrder items := by
  have sorted : (items.map fun item => (item.key, item)).insertionSort (fun a b => a.1 ≤ b.1) =
      (inOrder items).map fun item => (item.key, item) :=
    (List.map_insertionSort (fun a b : RankedFacts => a.key ≤ b.key)
      (fun a b : SortKey × RankedFacts => a.1 ≤ b.1) _ items fun _ _ _ _ => Iff.rfl).symm
  have second : ((inOrder items).map fun item => (item.key, item)).map Prod.snd =
      inOrder items := by
    rw [List.map_map]
    exact List.map_id _
  unfold sortByKey
  rw [Except.bind_eq_ok_iff]
  constructor
  · intro returned
    obtain ⟨keyed, read, last⟩ := returned
    have pairs := mapM_eq_ok_iff.mp read
    have known : ∀ item pair, (sortKey item).map (fun key => (key, item)) = .ok pair →
        item.InContext ∧ pair = (item.key, item) := by
      intro item pair returned
      cases keyOf : sortKey item with
      | error error =>
        rw [keyOf] at returned
        cases returned
      | ok key =>
        rw [keyOf] at returned
        cases returned
        obtain ⟨fits, rfl⟩ := sortKey_eq_ok_iff.mp keyOf
        exact ⟨fits, rfl⟩
    have listed : keyed = items.map fun item => (item.key, item) := by
      rw [← List.forall₂_eq_eq_eq, List.forall₂_map_right_iff]
      exact pairs.flip.imp fun pair item returned => (known item pair returned).2
    cases last
    rw [listed, sorted, second]
    refine ⟨fun item member => ?_, rfl⟩
    obtain ⟨pair, _, returned⟩ := (forall₂_exists pairs).1 item member
    exact (known item pair returned).1
  · intro both
    refine ⟨items.map fun item => (item.key, item), ?_, ?_⟩
    · rw [mapM_eq_ok_iff, List.forall₂_map_right_iff, List.forall₂_same]
      intro item member
      rw [sortKey_eq_ok_iff.mpr ⟨both.1 item member, rfl⟩]
      rfl
    · rw [sorted, both.2]
      exact congrArg Except.ok second

/-! ## Entries -/

/-- An entry presents what was built. -/
structure Presents (item : RankedFacts) (entry : TriageEntry) : Prop where
  borrowerId : entry.borrowerId = item.borrowerId
  reference : entry.reference = item.reference
  exposure : entry.exposure = item.exposure
  urgency : entry.urgency = item.urgency

theorem boundedText_eq_ok {field : String} {maximum : Nat} {value : Text}
    {result : BriefText maximum} (returned : boundedText field maximum value = .ok result) :
    value.length ≤ maximum := by
  unfold boundedText at returned
  split_ifs at returned with refused
  exact not_lt.mp (not_or.mp refused).2

theorem boundedText_returns (field : String) {maximum : Nat} {value : Text}
    (visible : Text.strip value ≠ []) (short : value.length ≤ maximum) :
    ∃ result, boundedText field maximum value = .ok result := by
  unfold boundedText
  rw [dif_neg (not_or.mpr ⟨visible, not_lt.mpr short⟩)]
  exact ⟨_, rfl⟩

theorem triageEntries_eq_ok {ranked items : List RankedFacts} {position : ℕ+}
    {entries : List TriageEntry} (returned : triageEntries ranked position items = .ok entries) :
    List.Forall₂ Presents items entries ∧
      entries.map (fun entry => (entry.rank : ℕ)) = List.range' position items.length ∧
        ∀ item ∈ items, item.reason.length ≤ 500 := by
  induction items generalizing position entries with
  | nil =>
    cases returned
    exact ⟨.nil, rfl, fun item member => absurd member List.not_mem_nil⟩
  | cons item items ih =>
    obtain ⟨entry, first, rest⟩ := Except.bind_eq_ok_iff.mp returned
    obtain ⟨others, later, last⟩ := Except.bind_eq_ok_iff.mp rest
    cases last
    obtain ⟨reason, checked, made⟩ := Except.bind_eq_ok_iff.mp first
    cases made
    obtain ⟨presented, ranks, short⟩ := ih later
    refine ⟨.cons ⟨rfl, rfl, rfl, rfl⟩ presented, ?_, ?_⟩
    · rw [List.map_cons, ranks, List.length_cons, List.range'_succ]
      rfl
    · exact List.forall_mem_cons.mpr ⟨boundedText_eq_ok checked, short⟩

theorem triageEntries_returns (ranked : List RankedFacts) {items : List RankedFacts} (position : ℕ+)
    (texts : ∀ item ∈ items, Text.strip item.reason ≠ [] ∧ item.reason.length ≤ 500) :
    ∃ entries, triageEntries ranked position items = .ok entries := by
  induction items generalizing position with
  | nil => exact ⟨[], rfl⟩
  | cons item items ih =>
    obtain ⟨visible, short⟩ := texts item List.mem_cons_self
    obtain ⟨reason, checked⟩ := boundedText_returns "reason" visible short
    obtain ⟨others, later⟩ := ih (position + 1) fun other member =>
      texts other (List.mem_cons_of_mem _ member)
    exact ⟨_, Except.bind_eq_ok_iff.mpr ⟨_, Except.bind_eq_ok_iff.mpr ⟨reason, checked, rfl⟩,
      Except.bind_eq_ok_iff.mpr ⟨others, later, rfl⟩⟩⟩

theorem uniqueBorrowers_eq_ok_iff {seen : List Uuid} {references : List Text}
    {entries : List TriageInput} :
    uniqueBorrowers seen references entries = .ok () ↔
      ((entries.map (·.borrowerId)).Nodup ∧ ∀ id ∈ entries.map (·.borrowerId), id ∉ seen) ∧
        (entries.map (·.reference.text)).Nodup ∧
          ∀ text ∈ entries.map (·.reference.text), text ∉ references := by
  induction entries generalizing seen references with
  | nil => simp [uniqueBorrowers]
  | cons value values ih =>
    rw [uniqueBorrowers]
    by_cases known : value.borrowerId ∈ seen
    · simp [known]
    · by_cases named : references.contains value.reference.text
      · rw [if_neg known, if_pos named]
        have listed : value.reference.text ∈ references := List.contains_iff_mem.mp named
        simp [listed]
      · have fresh : value.reference.text ∉ references := fun listed =>
          named (List.contains_iff_mem.mpr listed)
        rw [if_neg known, if_neg named, ih]
        rw [List.map_cons, List.map_cons, List.nodup_cons, List.nodup_cons, List.forall_mem_cons,
          List.forall_mem_cons]
        constructor
        · intro h
          obtain ⟨⟨ids, apart⟩, texts, apart'⟩ := h
          refine ⟨⟨⟨fun member => apart _ member List.mem_cons_self, ids⟩, known, ?_⟩,
            ⟨fun member => apart' _ member List.mem_cons_self, texts⟩, fresh, ?_⟩
          · exact fun id member listed => apart id member (List.mem_cons_of_mem _ listed)
          · exact fun text member listed => apart' text member (List.mem_cons_of_mem _ listed)
        · intro h
          obtain ⟨⟨⟨first, ids⟩, _, apart⟩, ⟨first', texts⟩, _, apart'⟩ := h
          refine ⟨⟨ids, ?_⟩, texts, ?_⟩
          · intro id member listed
            rcases List.mem_cons.mp listed with same | listed
            · exact first (same ▸ member)
            · exact apart id member listed
          · intro text member listed
            rcases List.mem_cons.mp listed with same | listed
            · exact first' (same ▸ member)
            · exact apart' text member listed

/-! ## The order of a book -/

theorem sortKey_lt_iff {a a' c c' : ℕ} {b b' d d' : ℚ} {e e' : Text} :
    (toLex (a, toLex (b, toLex (c, toLex (d, e)))) : SortKey) <
        toLex (a', toLex (b', toLex (c', toLex (d', e')))) ↔
      a < a' ∨ a = a' ∧ (b < b' ∨ b = b' ∧ (c < c' ∨ c = c' ∧ (d < d' ∨ d = d' ∧ e < e'))) := by
  simp only [Prod.Lex.toLex_lt_toLex]

theorem Money.rounded_mono {a b : Money} (ordered : a.number.value ≤ b.number.value) :
    a.rounded ≤ b.rounded :=
  roundDigits_mono DecimalContext.default.positive a.nonneg ordered

/-- `Undistinguished`, of what was built. -/
structure Clash (x y : RankedFacts) : Prop where
  alike : x.urgency.isSome = y.urgency.isSome
  urgency : amountValue x.urgency = amountValue y.urgency
  exposure : ∃ exposure ∈ x.exposure, ∃ exposure' ∈ y.exposure,
    exposure'.number.value < exposure.number.value ∧ exposure.rounded = exposure'.rounded
  reference : y.reference.text < x.reference.text

/-- The urgency of an entry is rounded already. -/
def RankedFacts.Rounded (item : RankedFacts) : Prop :=
  ∀ money ∈ item.urgency, money.rounded = money.number.value

/-- The documented key of what was built. -/
def RankedFacts.documented (item : RankedFacts) : SortKey :=
  documentedKey item.urgency item.exposure item.reference

section

variable {x y : RankedFacts}

theorem RankedFacts.Rounded.value (rounded : x.Rounded) :
    roundedValue x.urgency = amountValue x.urgency := by
  unfold roundedValue amountValue
  cases known : x.urgency with
  | none => rfl
  | some money => exact rounded money known

/-- Clashing entries are documented one way and sorted the other. -/
theorem Clash.opposite (clash : Clash x y) (roundedX : x.Rounded) (roundedY : y.Rounded) :
    x.documented < y.documented ∧ y.key < x.key := by
  obtain ⟨exposure, known, exposure', known', less, same⟩ := clash.exposure
  rw [Option.mem_def] at known known'
  unfold RankedFacts.documented documentedKey RankedFacts.key
  rw [sortKey_lt_iff, sortKey_lt_iff, roundedX.value, roundedY.value, clash.alike, clash.urgency,
    known, known']
  constructor
  · exact Or.inr ⟨rfl, Or.inr ⟨rfl, Or.inr ⟨rfl, Or.inl (neg_lt_neg less)⟩⟩⟩
  · refine Or.inr ⟨rfl, Or.inr ⟨rfl, Or.inr ⟨rfl, Or.inr ⟨?_, clash.reference⟩⟩⟩⟩
    exact congrArg Neg.neg same.symm

/-- Sorted entries that do not clash are in the documented order. -/
theorem documented_lt_of_key_lt (roundedX : x.Rounded) (roundedY : y.Rounded)
    (sorted : x.key < y.key) (distinguished : ¬ Clash y x) : x.documented < y.documented := by
  unfold RankedFacts.key at sorted
  rw [sortKey_lt_iff, roundedX.value, roundedY.value] at sorted
  unfold RankedFacts.documented documentedKey
  rw [sortKey_lt_iff]
  rcases sorted with first | ⟨flags, sorted⟩
  · exact Or.inl first
  rcases sorted with second | ⟨urgency, sorted⟩
  · exact Or.inr ⟨flags, Or.inl second⟩
  rcases sorted with third | ⟨flags', sorted⟩
  · exact Or.inr ⟨flags, Or.inr ⟨urgency, Or.inl third⟩⟩
  refine Or.inr ⟨flags, Or.inr ⟨urgency, Or.inr ⟨flags', ?_⟩⟩⟩
  have alike : y.urgency.isSome = x.urgency.isSome := by
    cases first : x.urgency <;> cases second : y.urgency <;> simp [first, second] at flags ⊢
  cases known : x.exposure with
  | none =>
    cases known' : y.exposure with
    | none =>
      rw [known, known'] at sorted
      exact sorted
    | some exposure' => simp [known, known'] at flags'
  | some exposure =>
    cases known' : y.exposure with
    | none => simp [known, known'] at flags'
    | some exposure' =>
      rw [known, known'] at sorted
      rcases lt_trichotomy exposure'.number.value exposure.number.value with less | same | more
      · exact Or.inl (neg_lt_neg less)
      · rcases sorted with less | ⟨_, reference⟩
        · have rounds : exposure.rounded = exposure'.rounded := by
            unfold Money.rounded
            rw [same]
          exact absurd (neg_lt_neg_iff.mp less) (not_lt.mpr (le_of_eq rounds))
        · exact Or.inr ⟨congrArg Neg.neg same.symm, reference⟩
      · -- the larger exposure comes later only when rounding hides the difference
        rcases sorted with less | ⟨rounds, reference⟩
        · have ordered := Money.rounded_mono (le_of_lt more)
          exact absurd (neg_lt_neg_iff.mp less) (not_lt.mpr ordered)
        · refine absurd (Clash.mk alike (neg_injective urgency).symm ?_ reference) distinguished
          exact ⟨exposure', known', exposure, known, more, (neg_injective rounds).symm⟩

end

section

variable {thresholds : TriageThresholds} {a b : TriageInput} {x y : RankedFacts}

theorem Built.rounded (built : Built thresholds a x) : x.Rounded := by
  intro money known
  have urgent := built.urgency
  rw [Option.mem_def.mp known] at urgent
  unfold borrowerUrgency at urgent
  cases chosen : worstForecast thresholds a with
  | none =>
    rw [chosen] at urgent
    cases urgent
  | some selected =>
    rw [chosen] at urgent
    exact (urgency_rounded urgent).1

theorem Built.inContext (built : Built thresholds a x)
    (fits : ∀ amount ∈ a.exposure, amount.InContext) : x.InContext := by
  refine ⟨fun money known => ?_, fun money known => fits money (built.exposure ▸ known)⟩
  have urgent := built.urgency
  rw [Option.mem_def.mp known] at urgent
  unfold borrowerUrgency at urgent
  cases chosen : worstForecast thresholds a with
  | none =>
    rw [chosen] at urgent
    cases urgent
  | some selected =>
    rw [chosen] at urgent
    exact (urgency_rounded urgent).2

theorem undistinguished_iff (builtA : Built thresholds a x) (builtB : Built thresholds b y) :
    Undistinguished thresholds a b ↔ Clash x y := by
  unfold Undistinguished
  rw [builtA.urgency, builtB.urgency, ← builtA.exposure, ← builtB.exposure, ← builtA.reference,
    ← builtB.reference]
  constructor
  · intro h
    obtain ⟨⟨_, _, first, second, alike, urgency⟩, exposure, known, exposure', known', less, same,
      reference⟩ := h
    cases first
    cases second
    exact ⟨alike, urgency, ⟨exposure, known, exposure', known', less, same⟩, reference⟩
  · intro clash
    obtain ⟨exposure, known, exposure', known', less, same⟩ := clash.exposure
    exact ⟨⟨_, _, rfl, rfl, clash.alike, clash.urgency⟩, exposure, known, exposure', known', less,
      same, clash.reference⟩

end

/-! ## Rearranged books -/

/-- The forecasts of a borrower are told apart by covenant version and horizon. -/
def DistinctForecasts (value : TriageInput) : Prop :=
  (value.forecasts.map fun forecast => (forecast.covenantVersionId, forecast.horizonDays)).Nodup

instance (value : TriageInput) : Decidable (DistinctForecasts value) := by
  unfold DistinctForecasts
  infer_instance

theorem worstKey_injOn {value : TriageInput} (distinct : DistinctForecasts value) :
    Set.InjOn worstKey {forecast | forecast ∈ value.forecasts} := by
  intro f first g second same
  unfold worstKey at same
  simp only [toLex_inj, Prod.mk.injEq, neg_inj, Nat.cast_inj] at same
  obtain ⟨_, _, horizon, version⟩ := same
  exact List.inj_on_of_nodup_map distinct first second
    (Prod.ext (Uuid.ext version) horizon)

theorem suppressedKey_injOn {value : TriageInput} (distinct : DistinctForecasts value) :
    Set.InjOn suppressedKey {forecast | forecast ∈ value.forecasts} := by
  intro f first g second same
  unfold suppressedKey at same
  rw [toLex_inj, Prod.mk.injEq] at same
  exact worstKey_injOn distinct first second same.2

theorem buildRankedEntry_sameBorrower {thresholds : TriageThresholds} {a b : TriageInput}
    (distinct : DistinctForecasts a) (same : SameBorrower a b) :
    buildRankedEntry thresholds a = buildRankedEntry thresholds b := by
  have withheld := maxBy_perm (suppressedKey_injOn distinct) same.forecasts
  have usable : maxBy worstKey (a.forecasts.filter (isUsable thresholds.confidenceFloor)) =
      maxBy worstKey (b.forecasts.filter (isUsable thresholds.confidenceFloor)) := by
    apply maxBy_perm _ (same.forecasts.filter _)
    exact (worstKey_injOn distinct).mono fun forecast member => (List.mem_filter.mp member).1
  unfold buildRankedEntry rankedFacts
  simp only [withheld, usable, same.borrowerId, same.reference, same.exposure, same.smaBand]

/-- The stages of a ranking. -/
theorem rank_eq_ok_iff {entries : List TriageInput} {thresholds : TriageThresholds}
    {ranked : List TriageEntry} :
    rank entries thresholds = .ok ranked ↔
      uniqueBorrowers [] [] entries = .ok () ∧
        ∃ built, entries.mapM (buildRankedEntry thresholds) = .ok built ∧
          (∀ item ∈ built, item.InContext) ∧
            triageEntries (inOrder built) 1 (inOrder built) = .ok ranked := by
  unfold rank
  rw [Except.bind_eq_ok_iff]
  constructor
  · intro h
    obtain ⟨⟨⟩, unique, rest⟩ := h
    obtain ⟨built, read, rest⟩ := Except.bind_eq_ok_iff.mp rest
    obtain ⟨sorted, keyed, last⟩ := Except.bind_eq_ok_iff.mp rest
    obtain ⟨fits, rfl⟩ := sortByKey_eq_ok_iff.mp keyed
    exact ⟨unique, built, read, fits, last⟩
  · intro h
    obtain ⟨unique, built, read, fits, last⟩ := h
    exact ⟨(), unique, Except.bind_eq_ok_iff.mpr ⟨built, read, Except.bind_eq_ok_iff.mpr
      ⟨_, sortByKey_eq_ok_iff.mpr ⟨fits, rfl⟩, last⟩⟩⟩

section

variable {entries : List TriageInput} {thresholds : TriageThresholds} {built : List RankedFacts}

theorem built_of_mapM (read : entries.mapM (buildRankedEntry thresholds) = .ok built) :
    List.Forall₂ (Built thresholds) entries built :=
  (mapM_eq_ok_iff.mp read).imp fun _ _ => buildRankedEntry_eq_ok

theorem references_of_built (pairs : List.Forall₂ (Built thresholds) entries built) :
    built.map (·.reference.text) = entries.map (·.reference.text) := by
  rw [← List.forall₂_eq_eq_eq, List.forall₂_map_left_iff, List.forall₂_map_right_iff]
  exact pairs.flip.imp fun item value made => by rw [made.reference]

theorem identities_of_built (pairs : List.Forall₂ (Built thresholds) entries built) :
    built.map (fun item => (item.borrowerId, item.reference)) =
      entries.map fun value => (value.borrowerId, value.reference) := by
  rw [← List.forall₂_eq_eq_eq, List.forall₂_map_left_iff, List.forall₂_map_right_iff]
  exact pairs.flip.imp fun item value made => by rw [made.reference, made.borrowerId]

theorem key_injOn (distinct : (built.map (·.reference.text)).Nodup) :
    Set.InjOn RankedFacts.key {item | item ∈ built} := by
  intro x first y second same
  unfold RankedFacts.key at same
  simp only [toLex_inj, Prod.mk.injEq] at same
  exact List.inj_on_of_nodup_map distinct first second same.2.2.2.2

theorem inOrder_perm (items : List RankedFacts) : (inOrder items).Perm items :=
  List.perm_insertionSort _ _

theorem inOrder_pairwise (distinct : (built.map (·.reference.text)).Nodup) :
    (inOrder built).Pairwise fun x y => x.key < y.key := by
  have total : Std.Total (fun x y : RankedFacts => x.key ≤ y.key) := ⟨fun x y => le_total _ _⟩
  have transitive : IsTrans RankedFacts (fun x y => x.key ≤ y.key) := ⟨fun _ _ _ => le_trans⟩
  have sorted := List.pairwise_insertionSort (fun x y : RankedFacts => x.key ≤ y.key) built
  have apart : (inOrder built).Pairwise fun x y => x.reference.text ≠ y.reference.text :=
    List.pairwise_map.mp (((inOrder_perm built).map _).nodup_iff.mpr distinct)
  refine (sorted.and apart).imp ?_
  intro x y both
  refine lt_of_le_of_ne both.1 fun same => both.2 ?_
  unfold RankedFacts.key at same
  simp only [toLex_inj, Prod.mk.injEq] at same
  exact same.2.2.2.2

end

/-- A rearranged book is built into the same entries in another order. -/
theorem built_of_rearranged {entries other : List TriageInput} {thresholds : TriageThresholds}
    {built : List RankedFacts} (forecasts : ∀ value ∈ entries, DistinctForecasts value)
    (rearranged : Rearranged entries other)
    (read : entries.mapM (buildRankedEntry thresholds) = .ok built) :
    ∃ built', other.mapM (buildRankedEntry thresholds) = .ok built' ∧ built.Perm built' := by
  obtain ⟨middle, perm, pairs⟩ := rearranged
  obtain ⟨built', read', perm'⟩ := mapM_perm perm read
  refine ⟨built', ?_, perm'⟩
  rw [← read']
  symm
  apply mapM_congr_forall₂ pairs
  intro value member value' same
  exact buildRankedEntry_sameBorrower (forecasts value (perm.mem_iff.mpr member)) same

theorem uniqueBorrowers_of_rearranged {entries other : List TriageInput}
    (rearranged : Rearranged entries other) (unique : uniqueBorrowers [] [] entries = .ok ()) :
    uniqueBorrowers [] [] other = .ok () := by
  obtain ⟨middle, perm, pairs⟩ := rearranged
  have ids : other.map (·.borrowerId) = middle.map (·.borrowerId) := by
    rw [← List.forall₂_eq_eq_eq, List.forall₂_map_left_iff, List.forall₂_map_right_iff]
    exact pairs.flip.imp fun _ _ same => same.borrowerId.symm
  have references : other.map (·.reference.text) = middle.map (·.reference.text) := by
    rw [← List.forall₂_eq_eq_eq, List.forall₂_map_left_iff, List.forall₂_map_right_iff]
    exact pairs.flip.imp fun _ _ same => by rw [same.reference]
  rw [uniqueBorrowers_eq_ok_iff] at unique ⊢
  rw [ids, references]
  refine ⟨⟨(perm.map _).nodup_iff.mp unique.1.1, ?_⟩, (perm.map _).nodup_iff.mp unique.2.1, ?_⟩
  · exact fun _ _ listed => absurd listed List.not_mem_nil
  · exact fun _ _ listed => absurd listed List.not_mem_nil

/-- The conditions under which every borrower of a book gets its entry. -/
def Rankable (entries : List TriageInput) (thresholds : TriageThresholds) : Prop :=
  ∀ value ∈ entries, (composedReason thresholds value).length ≤ 500 ∧
    ∀ amount ∈ value.exposure, amount.InContext

theorem rankable_of_ranked {entries : List TriageInput} {thresholds : TriageThresholds}
    {ranked : List TriageEntry} (returned : rank entries thresholds = .ok ranked) :
    Rankable entries thresholds := by
  obtain ⟨_, built, read, fits, presented⟩ := rank_eq_ok_iff.mp returned
  obtain ⟨_, _, short⟩ := triageEntries_eq_ok presented
  intro value member
  obtain ⟨item, listed, made⟩ := (forall₂_exists (built_of_mapM read)).1 value member
  refine ⟨?_, ?_⟩
  · rw [← made.reason]
    exact short item ((inOrder_perm built).mem_iff.mpr listed)
  · rw [← made.exposure]
    exact (fits item listed).2

/-- A book of distinct borrowers is ranked when every reason is short enough and every
    exposure fits the decimal context. -/
theorem rank_returns {entries : List TriageInput} {thresholds : TriageThresholds}
    (unique : uniqueBorrowers [] [] entries = .ok ()) (rankable : Rankable entries thresholds) :
    ∃ ranked, rank entries thresholds = .ok ranked := by
  have made : ∃ built, entries.mapM (buildRankedEntry thresholds) = .ok built := by
    clear unique
    induction entries with
    | nil => exact ⟨[], rfl⟩
    | cons value values ih =>
      obtain ⟨short, fits⟩ := rankable value List.mem_cons_self
      obtain ⟨item, first⟩ := buildRankedEntry_returns fits short
      obtain ⟨items, rest⟩ := ih fun other member => rankable other (List.mem_cons_of_mem _ member)
      refine ⟨item :: items, ?_⟩
      rw [List.mapM_cons, first, rest]
      rfl
  obtain ⟨built, read⟩ := made
  have pairs := built_of_mapM read
  have source : ∀ item ∈ built, ∃ value ∈ entries, Built thresholds value item :=
    (forall₂_exists pairs).2
  have texts : ∀ item ∈ inOrder built,
      Text.strip item.reason ≠ [] ∧ item.reason.length ≤ 500 := by
    intro item member
    obtain ⟨value, listed, made⟩ := source item ((inOrder_perm built).mem_iff.mp member)
    rw [made.reason]
    exact ⟨composedReason_visible thresholds value, (rankable value listed).1⟩
  obtain ⟨ranked, presented⟩ := triageEntries_returns (inOrder built) 1 texts
  refine ⟨ranked, rank_eq_ok_iff.mpr ⟨unique, built, read, ?_, presented⟩⟩
  intro item member
  obtain ⟨value, listed, made⟩ := source item member
  exact made.inContext (rankable value listed).2

/-- A book of distinct borrowers is ranked as documented, whatever its order, exactly when
    every composed reason has at most 500 characters, every exposure fits the decimal
    context, and no two equally urgent borrowers differ in exposure only beyond its digits. -/
theorem rank_ranking_iff {entries : List TriageInput} {thresholds : TriageThresholds}
    (ids : (entries.map (·.borrowerId)).Nodup)
    (references : (entries.map (·.reference.text)).Nodup)
    (forecasts : ∀ value ∈ entries, DistinctForecasts value) :
    (∃ ranked, rank entries thresholds = .ok ranked ∧ Ranking entries thresholds ranked) ↔
      Rankable entries thresholds ∧
        ∀ a ∈ entries, ∀ b ∈ entries, ¬ Undistinguished thresholds a b := by
  have unique : uniqueBorrowers [] [] entries = .ok () := by
    rw [uniqueBorrowers_eq_ok_iff]
    exact ⟨⟨ids, fun _ _ listed => absurd listed List.not_mem_nil⟩, references,
      fun _ _ listed => absurd listed List.not_mem_nil⟩
  constructor
  · intro h
    obtain ⟨ranked, returned, ranking⟩ := h
    refine ⟨rankable_of_ranked returned, ?_⟩
    intro a memberA b memberB undistinguished
    obtain ⟨_, built, read, _, presented⟩ := rank_eq_ok_iff.mp returned
    have pairs := built_of_mapM read
    obtain ⟨x, listedX, madeX⟩ := (forall₂_exists pairs).1 a memberA
    obtain ⟨y, listedY, madeY⟩ := (forall₂_exists pairs).1 b memberB
    have clash := (undistinguished_iff madeX madeY).mp undistinguished
    obtain ⟨documented, sorted⟩ := clash.opposite madeX.rounded madeY.rounded
    have distinct : (built.map (·.reference.text)).Nodup := by
      rw [references_of_built pairs]
      exact references
    -- both orders hold along the list, so one of the two entries contradicts itself
    have documentedOrder : (inOrder built).Pairwise fun x y => x.documented < y.documented := by
      refine pairwise_of_forall₂ (triageEntries_eq_ok presented).1 ranking.ordered ?_
      intro x x' y y' shown shown' less
      unfold RankedFacts.documented
      rw [← shown.urgency, ← shown.exposure, ← shown.reference, ← shown'.urgency,
        ← shown'.exposure, ← shown'.reference]
      exact less
    have either : (inOrder built).Pairwise fun x y =>
        (x.key < y.key ∧ x.documented < y.documented) ∨
          (y.key < x.key ∧ y.documented < x.documented) :=
      ((inOrder_pairwise distinct).and documentedOrder).imp Or.inl
    have apart : x ≠ y := fun same => lt_irrefl _ (same ▸ sorted)
    have symmetric : Std.Symm fun x y : RankedFacts =>
        (x.key < y.key ∧ x.documented < y.documented) ∨
          (y.key < x.key ∧ y.documented < x.documented) := ⟨fun _ _ => Or.symm⟩
    rcases either.forall ((inOrder_perm built).mem_iff.mpr listedX)
        ((inOrder_perm built).mem_iff.mpr listedY) apart with before | after
    · exact lt_asymm before.1 sorted
    · exact lt_asymm after.2 documented
  · intro h
    obtain ⟨rankable, distinguished⟩ := h
    obtain ⟨ranked, returned⟩ := rank_returns unique rankable
    refine ⟨ranked, returned, ?_⟩
    obtain ⟨_, built, read, fits, presented⟩ := rank_eq_ok_iff.mp returned
    have pairs := built_of_mapM read
    obtain ⟨shown, ranks, _⟩ := triageEntries_eq_ok presented
    have distinct : (built.map (·.reference.text)).Nodup := by
      rw [references_of_built pairs]
      exact references
    refine ⟨?_, ?_, ?_, ?_⟩
    · have listed : ranked.map (fun entry => (entry.borrowerId, entry.reference)) =
          (inOrder built).map fun item => (item.borrowerId, item.reference) := by
        rw [← List.forall₂_eq_eq_eq, List.forall₂_map_left_iff, List.forall₂_map_right_iff]
        exact shown.flip.imp fun entry item same => by rw [same.borrowerId, same.reference]
      rw [listed, ← identities_of_built pairs]
      exact (inOrder_perm built).map _
    · rw [ranks, (inOrder_perm built).length_eq, ← pairs.length_eq]
      rfl
    · have documentedOrder : (inOrder built).Pairwise fun x y => x.documented < y.documented := by
        refine List.Pairwise.imp_of_mem ?_ (inOrder_pairwise distinct)
        intro x y memberX memberY sorted
        obtain ⟨a, listedA, madeA⟩ :=
          (forall₂_exists pairs).2 x ((inOrder_perm built).mem_iff.mp memberX)
        obtain ⟨b, listedB, madeB⟩ :=
          (forall₂_exists pairs).2 y ((inOrder_perm built).mem_iff.mp memberY)
        apply documented_lt_of_key_lt madeA.rounded madeB.rounded sorted
        rw [← undistinguished_iff madeB madeA]
        exact distinguished b listedB a listedA
      refine pairwise_of_forall₂ shown.flip documentedOrder ?_
      intro entry entry' x x' same same' less
      unfold TriageEntry.key
      rw [same.urgency, same.exposure, same.reference, same'.urgency, same'.exposure,
        same'.reference]
      exact less
    · intro other rearranged
      obtain ⟨built', read', perm⟩ := built_of_rearranged forecasts rearranged read
      have order : inOrder built' = inOrder built :=
        (insertionSort_key_perm (key_injOn distinct) perm).symm
      refine rank_eq_ok_iff.mpr ⟨uniqueBorrowers_of_rearranged rearranged unique, built', read',
        fun item member => fits item (perm.mem_iff.mpr member), ?_⟩
      rw [order]
      exact presented

/-- Half and nine tenths. -/
def half : Fraction := ⟨⟨false, 5, -1⟩, by norm_num [Decimal.value, Decimal.magnitude]⟩

def nineTenths : Fraction := ⟨⟨false, 9, -1⟩, by norm_num [Decimal.value, Decimal.magnitude]⟩

/-- Act from nine tenths, amber and the confidence floor from one half. -/
def usualThresholds : TriageThresholds :=
  ⟨nineTenths, half, half, by norm_num [Decimal.value, Decimal.magnitude, half, nineTenths]⟩

/-- A borrower with one usable forecast. -/
def exposedBorrower : TriageInput :=
  { borrowerId := Uuid.ofInt 61001
    reference := ⟨"BR-61001".toList, by decide⟩
    exposure := some ⟨⟨false, 100, 0⟩, by norm_num [Decimal.value, Decimal.magnitude]⟩
    forecasts := [⟨Uuid.ofInt 61002, 90, some half, some nineTenths, false, false, none⟩]
    smaBand := none }

/-- A borrower with neither exposure nor forecast. -/
def silentBorrower : TriageInput :=
  { borrowerId := Uuid.ofInt 61003
    reference := ⟨"BR-61003".toList, by decide⟩
    exposure := none
    forecasts := []
    smaBand := none }

/-- `rank_ranking_iff` on a book of two. -/
theorem rank_ranking_two : ∃ ranked,
    rank [silentBorrower, exposedBorrower] usualThresholds = .ok ranked ∧
      Ranking [silentBorrower, exposedBorrower] usualThresholds ranked := by
  obtain ⟨ranked, returned, _⟩ := @Except.exists_of_any _ _
    (rank [silentBorrower, exposedBorrower] usualThresholds)
    (fun (ranked : List TriageEntry) => ranked.length == 2) (by decide +kernel)
  refine (rank_ranking_iff (by decide +kernel) (by decide +kernel) (by decide +kernel)).mpr
    ⟨rankable_of_ranked returned, ?_⟩
  intro a memberA b memberB clash
  obtain ⟨_, exposure, known, exposure', known', less, _, later⟩ := clash
  simp only [List.mem_cons, List.not_mem_nil, or_false] at memberA memberB
  rcases memberA with rfl | rfl
  · cases known
  · rcases memberB with rfl | rfl
    · cases known'
    · exact lt_irrefl _ later

/-- A forecast reason that `ForecastFact` accepts. -/
def longReason : BriefText 500 := ⟨List.replicate 490 'x', by decide +kernel⟩

/-- A borrower whose only forecast is suppressed for a long reason. -/
def explainedBorrower : TriageInput :=
  { borrowerId := Uuid.ofInt 61004
    reference := ⟨"BR-61004".toList, by decide⟩
    exposure := none
    forecasts := [⟨Uuid.ofInt 61005, 30, none, some half, false, true, some longReason⟩]
    smaBand := none }

/-- The words put before a long reason make it too long for an entry, and the whole book is
    refused. -/
theorem rank_long_reason :
    ((rank [exposedBorrower, explainedBorrower] usualThresholds).toOption.isNone ∧
      ([exposedBorrower, explainedBorrower].map (·.borrowerId)).Nodup ∧
        ([exposedBorrower, explainedBorrower].map (·.reference.text)).Nodup ∧
          ∀ value ∈ [exposedBorrower, explainedBorrower], DistinctForecasts value) ∧
      ¬ ∃ ranked, rank [exposedBorrower, explainedBorrower] usualThresholds = .ok ranked ∧
        Ranking [exposedBorrower, explainedBorrower] usualThresholds ranked := by
  have refused : (rank [exposedBorrower, explainedBorrower] usualThresholds).toOption.isNone := by
    decide +kernel
  refine ⟨⟨refused, by decide +kernel, by decide +kernel, by decide +kernel⟩, ?_⟩
  intro h
  obtain ⟨ranked, returned, _⟩ := h
  rw [returned] at refused
  cases refused

end Triage

end CovenantRadar
