import CovenantRadar.Misc.Loop
import CovenantRadar.Misc.Rounding
import CovenantRadar.Misc.Select
import CovenantRadar.Python.Text

/-!
# Driver attribution

Source `domain/forecast/attribution.py`, and `_quantized_driver_shares` of `services/scoring.py`,
over the exact numbers. The shares close to one before they are rounded; the rounded ones are made
to close by one row, which takes what rounding has added to all the others.
-/

namespace CovenantRadar

namespace Forecast

/-! ## Shares -/

/-- Source `DriverShare`. -/
structure DriverShare where
  name : Text
  share : ℚ
  reason : Option Text
  deriving DecidableEq

def otherName : Text := "other".toList

def neutralName : Text := "neutral".toList

/-- Source `_NEUTRAL_REASON`. -/
def neutralReason : Text :=
  "all driver contributions are zero; no risk delta can be attributed".toList

/-- Source `_validated_terms`, with the terms read so far. -/
def validatedTerms (validated : List (Text × ℚ)) :
    List (Text × ℚ) → Except PyError (List (Text × ℚ))
  | [] => .ok validated
  | term :: terms =>
    let name := Text.strip term.1
    if name = [] then .error (.valueError "Every driver name must be non-empty text.")
    else if name = otherName ∨ name = neutralName then
      .error (.valueError ("Driver name " ++ String.ofList (Text.repr name) ++
        " is reserved for attribution output."))
    else if name ∈ validated.map Prod.fst then
      .error (.valueError ("Driver names must be unique after trimming: " ++
        String.ofList (Text.repr name) ++ "."))
    else validatedTerms (validated ++ [(name, term.2)]) terms

/-- Source `_normalize`: the normalized terms, and whether a residual is required. -/
def normalize (contributions : List (Text × ℚ)) : Except PyError (List (Text × ℚ) × Bool) :=
  let total := (contributions.map Prod.snd).sum
  if 0 < total then
    .ok (contributions.map fun term => (term.1, term.2 / total), false)
  else
    let gross := (contributions.map fun term => |term.2|).sum
    if gross ≤ 0 then
      .error (.valueError "Driver contribution magnitude must be finite and non-zero.")
    else .ok (contributions.map fun term => (term.1, term.2 / gross), true)

/-- The terms that are listed: negative ones, and those from the threshold on. -/
def isListed (threshold : ℚ) (term : Text × ℚ) : Bool :=
  decide (term.2 < 0) || decide (threshold ≤ term.2)

/-- The end of `attribute`: the listed shares, and `other` where it is needed. -/
def listShares (threshold : ℚ) (normalized : List (Text × ℚ)) (requiresResidual : Bool) :
    List DriverShare :=
  let listed := (normalized.filter (isListed threshold)).map fun term =>
    (⟨term.1, term.2, none⟩ : DriverShare)
  let listedTotal := (listed.map DriverShare.share).sum
  if (normalized.any fun term => !isListed threshold term) || requiresResidual then
    if 1 - listedTotal ≠ 0 then listed ++ [⟨otherName, 1 - listedTotal, none⟩] else listed
  else listed

/-- Source `attribute`, with a threshold that is a number. -/
def attributeDrivers (terms : List (Text × ℚ)) (threshold : ℚ) : Except PyError (List DriverShare) :=
  if 0 ≤ threshold ∧ threshold ≤ 1 then do
    let contributions ← validatedTerms [] terms
    if contributions = [] ∨ contributions.all (fun term => term.2 = 0) = true then
      .ok [⟨neutralName, 1, some neutralReason⟩]
    else do
      let normalized ← normalize contributions
      .ok (listShares threshold normalized.1 normalized.2)
  else .error (.valueError "contribution_share must be between zero and one inclusive.")

/-! ## Stored shares -/

/-- `share.quantize(Decimal("0.0001"))`. -/
def quantize (share : ℚ) : ℚ := halfEven (share * 10000) / 10000

/-- The row that takes the residual: `other`, or the largest of the rounded ones. -/
def adjustmentIndex (shares : List DriverShare) (values : List ℚ) : Nat :=
  match shares.findIdx? fun share => share.name = otherName with
  | some index => index
  | none => (maxBy (fun index => |values.getD index 0|) (List.range shares.length)).getD 0

/-- Source `_quantized_driver_shares`. -/
def quantizedDriverShares (shares : List DriverShare) : Except PyError (List DriverShare) :=
  if shares = [] then
    .error (.valueError "Attribution must produce at least one driver share.")
  else
    let values := shares.map fun share => quantize share.share
    let residual := 1 - values.sum
    let adjusted :=
      if residual ≠ 0 then values.modify (adjustmentIndex shares values) (· + residual) else values
    .ok (List.zipWith (fun share value => { share with share := value }) shares adjusted)

/-! ## The shares close to one -/

theorem sum_map_div (terms : List (Text × ℚ)) (total : ℚ) :
    ((terms.map fun term => (term.1, term.2 / total)).map Prod.snd).sum =
      (terms.map Prod.snd).sum / total := by
  induction terms with
  | nil => simp
  | cons term terms ih =>
    rw [List.map_cons, List.map_cons, List.sum_cons, ih, List.map_cons, List.sum_cons, add_div]

theorem listShares_sum {threshold : ℚ} {normalized : List (Text × ℚ)} {requiresResidual : Bool}
    (whole : requiresResidual = false → (normalized.map Prod.snd).sum = 1) :
    ((listShares threshold normalized requiresResidual).map DriverShare.share).sum = 1 := by
  unfold listShares
  simp only
  split_ifs with needed short
  · rw [List.map_append, List.sum_append]
    simp
  · exact (sub_eq_zero.mp (not_not.mp short)).symm
  · rw [Bool.or_eq_true, not_or] at needed
    have every : normalized.filter (isListed threshold) = normalized := by
      rw [List.filter_eq_self]
      intro term member
      by_contra folded
      exact needed.1 (List.any_eq_true.mpr ⟨term, member, by simpa using folded⟩)
    rw [every, List.map_map]
    exact whole (by simpa using needed.2)

/-- The shares of an attribution sum to one. -/
theorem attributeDrivers_sum {terms : List (Text × ℚ)} {threshold : ℚ} {shares : List DriverShare}
    (returned : attributeDrivers terms threshold = .ok shares) :
    (shares.map DriverShare.share).sum = 1 := by
  unfold attributeDrivers at returned
  split_ifs at returned with range
  obtain ⟨contributions, _, returned⟩ := Except.bind_eq_ok_iff.mp returned
  split_ifs at returned with neutral
  · cases returned
    simp
  · obtain ⟨normalized, scaled, last⟩ := Except.bind_eq_ok_iff.mp returned
    cases last
    apply listShares_sum
    intro plain
    unfold normalize at scaled
    simp only at scaled
    split_ifs at scaled with positive zero
    · cases scaled
      rw [sum_map_div, div_self positive.ne']
    · cases scaled
      cases plain

/-! ## The rounded shares -/

theorem quantize_sign (share : ℚ) : 0 ≤ share * quantize share := by
  have zero : halfEven 0 = 0 := by exact_mod_cast halfEven_intCast 0
  unfold quantize
  rcases le_total 0 share with up | down
  · have rounded : 0 ≤ halfEven (share * 10000) := by
      rw [← zero]
      exact halfEven_mono (mul_nonneg up (by norm_num))
    exact mul_nonneg up (div_nonneg (by exact_mod_cast rounded) (by norm_num))
  · have rounded : halfEven (share * 10000) ≤ 0 := by
      rw [← zero]
      exact halfEven_mono (mul_nonpos_of_nonpos_of_nonneg down (by norm_num))
    exact mul_nonneg_of_nonpos_of_nonpos down
      (div_nonpos_of_nonpos_of_nonneg (by exact_mod_cast rounded) (by norm_num))

/-- The row with its share rounded by itself. -/
def DriverShare.rounded (row : DriverShare) : DriverShare := { row with share := quantize row.share }

/-- The rounded shares of some rows, added up. -/
def roundedSum (rows : List DriverShare) : ℚ := (rows.map fun row => quantize row.share).sum

/-- What rounding adds to the shares of some rows. -/
def roundingExcess (rows : List DriverShare) : ℚ :=
  (rows.map fun row => quantize row.share - row.share).sum

theorem roundingExcess_eq (rows : List DriverShare) :
    roundingExcess rows = roundedSum rows - (rows.map DriverShare.share).sum := by
  unfold roundingExcess roundedSum
  induction rows with
  | nil => simp
  | cons row rows ih =>
    simp only [List.map_cons, List.sum_cons]
    rw [ih]
    ring

theorem adjustmentIndex_lt {shares : List DriverShare} (nonempty : shares ≠ []) (values : List ℚ) :
    adjustmentIndex shares values < shares.length := by
  unfold adjustmentIndex
  split
  · rename_i index found
    exact (List.findIdx?_eq_some_iff_getElem.mp found).1
  · cases largest : maxBy (fun index => |values.getD index 0|) (List.range shares.length) with
    | none => exact List.length_pos_of_ne_nil nonempty
    | some index => exact List.mem_range.mp (maxBy_mem largest)

theorem modify_append_length {α : Type} (before after : List α) (x : α) (f : α → α) :
    (before ++ x :: after).modify before.length f = before ++ f x :: after := by
  induction before with
  | nil => rfl
  | cons y before ih =>
    rw [List.cons_append, List.length_cons, List.modify_succ_cons, ih, List.cons_append]

/-- The index of the row that takes the residual. -/
def closingIndex (shares : List DriverShare) : Nat :=
  adjustmentIndex shares (shares.map fun share => quantize share.share)

/-- Every row is rounded by itself but one, which closes the sum. -/
theorem quantizedDriverShares_split {shares : List DriverShare} (nonempty : shares ≠ []) :
    ∃ before row after, shares = before ++ row :: after ∧ before.length = closingIndex shares ∧
      quantizedDriverShares shares = .ok (before.map DriverShare.rounded ++
        { row with share := 1 - roundedSum (before ++ after) } ::
          after.map DriverShare.rounded) := by
  have inside : closingIndex shares < shares.length := adjustmentIndex_lt nonempty _
  obtain ⟨before, row, after, split, length⟩ : ∃ before row after,
      shares = before ++ row :: after ∧ before.length = closingIndex shares := by
    refine ⟨shares.take (closingIndex shares), shares[closingIndex shares],
      shares.drop (closingIndex shares + 1), ?_, ?_⟩
    · rw [List.getElem_cons_drop, List.take_append_drop]
    · rw [List.length_take]
      exact min_eq_left inside.le
  refine ⟨before, row, after, split, length, ?_⟩
  have total : (shares.map fun share => quantize share.share).sum =
      quantize row.share + roundedSum (before ++ after) := by
    rw [split]
    unfold roundedSum
    simp only [List.map_append, List.map_cons, List.sum_append, List.sum_cons]
    ring
  have rows : ∀ list : List DriverShare, List.zipWith
      (fun share value => { share with share := value }) list
      (list.map fun share => quantize share.share) = list.map DriverShare.rounded := by
    intro list
    rw [List.zipWith_map_right, List.zipWith_self]
    rfl
  have adjusted : (if 1 - (shares.map fun share => quantize share.share).sum ≠ 0 then
      (shares.map fun share => quantize share.share).modify (closingIndex shares)
        (· + (1 - (shares.map fun share => quantize share.share).sum))
      else shares.map fun share => quantize share.share) =
      before.map (fun share => quantize share.share) ++ (1 - roundedSum (before ++ after)) ::
        after.map fun share => quantize share.share := by
    have parts : (shares.map fun share => quantize share.share) =
        before.map (fun share => quantize share.share) ++ quantize row.share ::
          after.map fun share => quantize share.share := by
      rw [split, List.map_append, List.map_cons]
    have place : closingIndex shares = (before.map fun share => quantize share.share).length := by
      rw [List.length_map, length]
    rw [total, parts]
    split_ifs with open'
    · rw [place, modify_append_length]
      congr 2
      ring
    · congr 2
      linarith [not_not.mp open']
  unfold quantizedDriverShares
  rw [if_neg nonempty]
  simp only
  have index : adjustmentIndex shares (shares.map fun share => quantize share.share) =
    closingIndex shares := rfl
  rw [index, adjusted]
  nth_rewrite 1 [split]
  rw [List.zipWith_append (by rw [List.length_map]), List.zipWith_cons_cons, rows, rows]

/-- What rounding adds to the other rows is not more than the share of the row that closes the
    sum, where that is positive, and not less, where that is negative. -/
def RoundingFits (shares : List DriverShare) : Prop :=
  ∀ row ∈ shares[closingIndex shares]?,
    (0 < row.share → roundingExcess (shares.eraseIdx (closingIndex shares)) ≤ row.share) ∧
    (row.share < 0 → row.share ≤ roundingExcess (shares.eraseIdx (closingIndex shares)))

/-- No row is stored with the sign opposite to its share. -/
def KeepsSigns (shares stored : List DriverShare) : Prop :=
  ∀ pair ∈ shares.zip stored, 0 ≤ pair.1.share * pair.2.share

theorem rounded_keepsSigns (rows : List DriverShare) :
    KeepsSigns rows (rows.map DriverShare.rounded) := by
  induction rows with
  | nil => nofun
  | cons row rows ih =>
    intro pair member
    rw [List.map_cons, List.zip_cons_cons] at member
    rcases List.mem_cons.mp member with rfl | member
    · exact quantize_sign row.share
    · exact ih pair member

/-- The row that closes the sum keeps its sign exactly where the rounding of the others fits. -/
theorem sign_closing_iff {share excess : ℚ} :
    0 ≤ share * (share - excess) ↔ (0 < share → excess ≤ share) ∧ (share < 0 → share ≤ excess) := by
  rcases lt_trichotomy share 0 with negative | rfl | positive
  · rw [← neg_mul_neg, mul_nonneg_iff_of_pos_left (neg_pos.mpr negative), neg_nonneg, sub_nonpos]
    exact ⟨fun within => ⟨fun up => absurd up negative.not_gt, fun _ => within⟩,
      fun both => both.2 negative⟩
  · simp
  · rw [mul_nonneg_iff_of_pos_left positive, sub_nonneg]
    exact ⟨fun within => ⟨fun _ => within, fun down => absurd down positive.not_gt⟩,
      fun both => both.1 positive⟩

/-- The stored shares sum to one and keep the rows in their places; no sign is lost exactly where
    the rounding fits. -/
theorem quantizedDriverShares_spec {shares : List DriverShare} (nonempty : shares ≠ [])
    (whole : (shares.map DriverShare.share).sum = 1) :
    ∃ stored, quantizedDriverShares shares = .ok stored ∧
      (stored.map DriverShare.share).sum = 1 ∧
      stored.map DriverShare.name = shares.map DriverShare.name ∧
      (KeepsSigns shares stored ↔ RoundingFits shares) := by
  obtain ⟨before, row, after, split, length, returned⟩ := quantizedDriverShares_split nonempty
  refine ⟨_, returned, ?_, ?_, ?_⟩
  · have sums : ∀ rows : List DriverShare,
        ((rows.map DriverShare.rounded).map DriverShare.share).sum = roundedSum rows := by
      intro rows
      rw [List.map_map]
      rfl
    rw [List.map_append, List.map_cons, List.sum_append, List.sum_cons, sums, sums]
    unfold roundedSum
    rw [List.map_append, List.sum_append]
    ring
  · rw [split]
    simp only [List.map_append, List.map_cons, List.map_map]
    rfl
  · have closed : 1 - roundedSum (before ++ after) =
        row.share - roundingExcess (before ++ after) := by
      rw [split] at whole
      simp only [List.map_append, List.map_cons, List.sum_append, List.sum_cons] at whole
      rw [roundingExcess_eq, List.map_append, List.sum_append]
      linarith
    have others : shares.eraseIdx (closingIndex shares) = before ++ after := by
      rw [← length, split, List.eraseIdx_append_of_length_le (le_refl _), Nat.sub_self]
      rfl
    have chosen : shares[closingIndex shares]? = some row := by
      rw [← length, split, List.getElem?_append_right (le_refl _), Nat.sub_self]
      rfl
    have fits : RoundingFits shares ↔ 0 ≤ row.share * (1 - roundedSum (before ++ after)) := by
      unfold RoundingFits
      rw [others, chosen, closed, sign_closing_iff]
      exact ⟨fun all => all row rfl, fun both other same => by cases same; exact both⟩
    rw [fits, split]
    unfold KeepsSigns
    rw [List.zip_append (by rw [List.length_map]), List.zip_cons_cons]
    constructor
    · intro all
      exact all (row, _) (List.mem_append_right _ List.mem_cons_self)
    · intro kept pair member
      rcases List.mem_append.mp member with first | second
      · exact rounded_keepsSigns before pair first
      · rcases List.mem_cons.mp second with rfl | last
        · exact kept
        · exact rounded_keepsSigns after pair last

/-! ## From contributions to stored shares -/

section

variable {terms contributions normalized : List (Text × ℚ)} {threshold : ℚ}
  {shares : List DriverShare}

theorem validatedTerms_eq_ok {validated : List (Text × ℚ)}
    (distinct : (validated.map Prod.fst).Nodup)
    (returned : validatedTerms validated terms = .ok contributions) :
    contributions = validated ++ terms.map (fun term => (Text.strip term.1, term.2)) ∧
      (contributions.map Prod.fst).Nodup ∧
      ∀ term ∈ terms, Text.strip term.1 ≠ otherName ∧ Text.strip term.1 ≠ neutralName := by
  induction terms generalizing validated with
  | nil =>
    cases returned
    exact ⟨(List.append_nil _).symm, distinct, nofun⟩
  | cons term terms ih =>
    unfold validatedTerms at returned
    simp only at returned
    split_ifs at returned with blank reserved listed
    have extended : ((validated ++ [(Text.strip term.1, term.2)]).map Prod.fst).Nodup := by
      rw [List.map_append]
      refine List.nodup_append.mpr ⟨distinct, List.nodup_singleton _, ?_⟩
      rintro name member _ last rfl
      rw [List.map_singleton, List.mem_singleton] at last
      rw [last] at member
      exact listed member
    obtain ⟨same, nodup, free⟩ := ih extended returned
    refine ⟨?_, nodup, ?_⟩
    · rw [same, List.append_assoc]
      rfl
    · intro other member
      rcases List.mem_cons.mp member with rfl | member
      · exact not_or.mp reserved
      · exact free other member

/-- The normalized terms are the contributions over a positive number. -/
theorem normalize_eq_ok {requiresResidual : Bool}
    (returned : normalize contributions = .ok (normalized, requiresResidual)) :
    ∃ scale, 0 < scale ∧ normalized = contributions.map fun term => (term.1, term.2 / scale) := by
  unfold normalize at returned
  simp only at returned
  split_ifs at returned with positive zero
  · cases returned
    exact ⟨_, positive, rfl⟩
  · cases returned
    exact ⟨_, not_le.mp zero, rfl⟩

/-- A row of the result is a normalized term or `other`. -/
theorem mem_listShares {requiresResidual : Bool} {row : DriverShare}
    (member : row ∈ listShares threshold normalized requiresResidual) :
    (row.name, row.share) ∈ normalized ∨ row.name = otherName := by
  have listed : ∀ row ∈ (normalized.filter (isListed threshold)).map (fun term =>
      (⟨term.1, term.2, none⟩ : DriverShare)), (row.name, row.share) ∈ normalized := by
    intro row member
    obtain ⟨term, kept, rfl⟩ := List.mem_map.mp member
    exact (List.mem_filter.mp kept).1
  unfold listShares at member
  simp only at member
  split_ifs at member with needed short
  · rcases List.mem_append.mp member with kept | last
    · exact .inl (listed row kept)
    · rw [List.mem_singleton.mp last]
      exact .inr rfl
  · exact .inl (listed row member)
  · exact .inl (listed row member)

/-- A driver's share has the sign of its contribution. -/
theorem attributeDrivers_sign (returned : attributeDrivers terms threshold = .ok shares) :
    ∀ term ∈ terms, ∀ row ∈ shares, row.name = Text.strip term.1 → 0 ≤ term.2 * row.share := by
  intro term given row member named
  unfold attributeDrivers at returned
  split_ifs at returned with range
  obtain ⟨contributions, checked, returned⟩ := Except.bind_eq_ok_iff.mp returned
  have empty : (([] : List (Text × ℚ)).map Prod.fst).Nodup := List.nodup_nil
  obtain ⟨same, distinct, free⟩ := validatedTerms_eq_ok empty checked
  rw [List.nil_append] at same
  obtain ⟨notOther, notNeutral⟩ := free term given
  split_ifs at returned with neutral
  · cases returned
    rw [List.mem_singleton.mp member] at named
    exact absurd named.symm notNeutral
  · obtain ⟨normalized, scaled, last⟩ := Except.bind_eq_ok_iff.mp returned
    cases last
    obtain ⟨scale, positive, rows⟩ := normalize_eq_ok scaled
    rcases mem_listShares member with kept | other
    · rw [rows, List.mem_map] at kept
      obtain ⟨source, listed, made⟩ := kept
      obtain ⟨name, share⟩ := Prod.mk.inj made
      have own : (Text.strip term.1, term.2) ∈ contributions := by
        rw [same]
        exact List.mem_map_of_mem given
      have equal := List.inj_on_of_nodup_map distinct listed own (name.trans named)
      rw [← share, equal, ← mul_div_assoc]
      exact div_nonneg (mul_self_nonneg _) positive.le
    · exact absurd (named.symm.trans other) notOther

/-- The shares of an attribution sum to one with the signs of the contributions; the stored ones
    sum to one and keep the rows in their places, and they keep the signs exactly where what
    rounding adds to the other rows fits into the row that closes the sum. -/
theorem attributeDrivers_stored (returned : attributeDrivers terms threshold = .ok shares) :
    (shares.map DriverShare.share).sum = 1 ∧
      (∀ term ∈ terms, ∀ row ∈ shares, row.name = Text.strip term.1 →
        0 ≤ term.2 * row.share) ∧
      ∃ stored, quantizedDriverShares shares = .ok stored ∧
        (stored.map DriverShare.share).sum = 1 ∧
        stored.map DriverShare.name = shares.map DriverShare.name ∧
        (KeepsSigns shares stored ↔ RoundingFits shares) := by
  have whole := attributeDrivers_sum returned
  have nonempty : shares ≠ [] := by
    rintro rfl
    simp at whole
  exact ⟨whole, attributeDrivers_sign returned, quantizedDriverShares_spec nonempty whole⟩

end

/-- Three drivers of almost a third each, and one that is folded. -/
def thirdTerms : List (Text × ℚ) :=
  [("a".toList, 33336), ("b".toList, 33336), ("c".toList, 33326), ("d".toList, 2)]

def thirdShares : List DriverShare :=
  [⟨"a".toList, 33336 / 100000, none⟩, ⟨"b".toList, 33336 / 100000, none⟩,
    ⟨"c".toList, 33326 / 100000, none⟩, ⟨otherName, 2 / 100000, none⟩]

theorem attributeDrivers_third : attributeDrivers thirdTerms (1 / 10) = .ok thirdShares := by
  decide +kernel

/-- The folded share is positive, and is stored as a negative one. -/
theorem other_stored_negative :
    ¬ ∀ (terms : List (Text × ℚ)) (threshold : ℚ) (shares stored : List DriverShare),
      attributeDrivers terms threshold = .ok shares → quantizedDriverShares shares = .ok stored →
        KeepsSigns shares stored := by
  intro claimed
  have kept := claimed thirdTerms (1 / 10) thirdShares
    [⟨"a".toList, 3334 / 10000, none⟩, ⟨"b".toList, 3334 / 10000, none⟩,
      ⟨"c".toList, 3333 / 10000, none⟩, ⟨otherName, -1 / 10000, none⟩]
    attributeDrivers_third (by decide +kernel)
    (⟨otherName, 2 / 100000, none⟩, ⟨otherName, -1 / 10000, none⟩) (by decide +kernel)
  norm_num at kept

/-- The same drivers, up to the sign. -/
theorem attributeDrivers_stored_third :
    (thirdShares.map DriverShare.share).sum = 1 ∧
      (∀ term ∈ thirdTerms, ∀ row ∈ thirdShares, row.name = Text.strip term.1 →
        0 ≤ term.2 * row.share) ∧
      ∃ stored, quantizedDriverShares thirdShares = .ok stored ∧
        (stored.map DriverShare.share).sum = 1 ∧
        stored.map DriverShare.name = thirdShares.map DriverShare.name ∧
        (KeepsSigns thirdShares stored ↔ RoundingFits thirdShares) :=
  attributeDrivers_stored attributeDrivers_third

end Forecast

end CovenantRadar
