import CovenantRadar.Python.DecimalContext

/-!
# Decimal division

`Decimal.__truediv__`: the quotient to one digit more than the context keeps, marked when it is
not exact, then rounded. A share of a whole is positive and at most one.
-/

namespace CovenantRadar.Decimal

/-- The coefficient and exponent of an exact quotient, with the trailing zeros cut that its
    exponent falls short of the ideal one by. -/
def stripZeros : Nat → Nat → Int → Nat × Int
  | 0, coefficient, exponent => (coefficient, exponent)
  | short + 1, coefficient, exponent =>
    if coefficient % 10 = 0 then stripZeros short (coefficient / 10) (exponent + 1)
    else (coefficient, exponent)

/-- Cutting zeros leaves the number. -/
theorem stripZeros_value (short coefficient : Nat) (exponent : Int) :
    ((stripZeros short coefficient exponent).1 : ℚ) *
      10 ^ (stripZeros short coefficient exponent).2 = coefficient * 10 ^ exponent := by
  induction short generalizing coefficient exponent with
  | zero => rfl
  | succ short ih =>
    unfold stripZeros
    split_ifs with divisible
    · have whole : coefficient = 10 * (coefficient / 10) := by omega
      have cast : (coefficient : ℚ) = 10 * (coefficient / 10 : ℕ) := by exact_mod_cast whole
      rw [ih, cast, zpow_add_one₀ (by norm_num)]
      ring
    · rfl

/-- The digits a non-zero quotient is shifted by. -/
def quotientShift (context : DecimalContext) (a b : Decimal) : Int :=
  (Nat.log 10 b.coefficient : Int) - Nat.log 10 a.coefficient + context.digits + 1

/-- The two numbers whose whole quotient is taken. -/
def shifted (shift : Int) (a b : Decimal) : Nat × Nat :=
  if 0 ≤ shift then (a.coefficient * 10 ^ shift.toNat, b.coefficient)
  else (a.coefficient, b.coefficient * 10 ^ (-shift).toNat)

/-- The quotient before it is rounded, for a divisor that is not zero. -/
def quotient (context : DecimalContext) (a b : Decimal) : Decimal :=
  let negative := a.negative != b.negative
  let ideal := a.exponent - b.exponent
  if a.coefficient = 0 then ⟨negative, 0, ideal⟩
  else
    let shift := quotientShift context a b
    let (numerator, denominator) := shifted shift a b
    let coefficient := numerator / denominator
    if numerator % denominator ≠ 0 then
      ⟨negative, if coefficient % 5 = 0 then coefficient + 1 else coefficient, ideal - shift⟩
    else
      let (cut, exponent) := stripZeros shift.toNat coefficient (ideal - shift)
      ⟨negative, cut, exponent⟩

/-- `Decimal.__truediv__`. -/
def div (context : DecimalContext) (a b : Decimal) : Except PyError Decimal :=
  if b.coefficient = 0 then
    .error (.arithmeticError (if a.coefficient = 0 then "[<class 'decimal.DivisionUndefined'>]"
      else "[<class 'decimal.DivisionByZero'>]"))
  else fix context (quotient context a b)

/-! ## Shares -/

/-- The digits the quotient of two whole numbers is shifted by. -/
def shareShift (context : DecimalContext) (count total : Nat) : Nat :=
  Nat.log 10 total - Nat.log 10 count + context.digits + 1

theorem quotientShift_share (context : DecimalContext) {count total : Nat} (part : count ≤ total) :
    quotientShift context ⟨false, count, 0⟩ ⟨false, total, 0⟩ = shareShift context count total := by
  have logs : Nat.log 10 count ≤ Nat.log 10 total := Nat.log_mono_right part
  unfold quotientShift shareShift
  simp only
  omega

/-- The whole part of a shifted share has a digit. -/
theorem one_le_share (context : DecimalContext) {count total : Nat} (positive : 0 < count)
    (part : count ≤ total) : 1 ≤ count * 10 ^ shareShift context count total / total := by
  have logs : Nat.log 10 count ≤ Nat.log 10 total := Nat.log_mono_right part
  have lower : 10 ^ Nat.log 10 count ≤ count := Nat.pow_log_le_self 10 (by omega)
  have upper : total < 10 ^ (Nat.log 10 total + 1) := Nat.lt_pow_succ_log_self (by norm_num) total
  rw [Nat.one_le_div_iff (by omega)]
  calc total ≤ 10 ^ (Nat.log 10 total + 1) := le_of_lt upper
    _ ≤ 10 ^ (Nat.log 10 count + shareShift context count total) :=
        Nat.pow_le_pow_right (by norm_num) (by unfold shareShift; omega)
    _ = 10 ^ Nat.log 10 count * 10 ^ shareShift context count total := pow_add _ _ _
    _ ≤ count * 10 ^ shareShift context count total := Nat.mul_le_mul_right _ lower

/-- Marked as inexact or not, the whole part stays within the shifted unit. -/
theorem share_le {count total shift : Nat} (part : count ≤ total) :
    count * 10 ^ shift / total ≤ 10 ^ shift ∧
      (count * 10 ^ shift % total ≠ 0 → count * 10 ^ shift / total + 1 ≤ 10 ^ shift) := by
  have bound : count * 10 ^ shift ≤ 10 ^ shift * total := by
    rw [Nat.mul_comm (10 ^ shift)]
    exact Nat.mul_le_mul_right _ part
  have whole := Nat.div_le_of_le_mul (Nat.mul_comm _ total ▸ bound)
  refine ⟨whole, ?_⟩
  intro inexact
  rcases Nat.lt_or_eq_of_le whole with below | full
  · exact below
  · -- a quotient of one is exact
    have split := Nat.div_add_mod (count * 10 ^ shift) total
    rw [full, Nat.mul_comm] at split
    omega

/-- A coefficient between one and the shifted unit. -/
theorem share_magnitude {coefficient shift : Nat} (atLeast : 1 ≤ coefficient)
    (atMost : coefficient ≤ 10 ^ shift) :
    (10 : ℚ) ^ (-(shift : ℤ)) ≤ coefficient * 10 ^ (0 - (shift : ℤ)) ∧
      (coefficient : ℚ) * 10 ^ (0 - (shift : ℤ)) ≤ 1 := by
  have scale : (0 : ℚ) < 10 ^ (-(shift : ℤ)) := zpow_pos (by norm_num) _
  have lower : (1 : ℚ) ≤ coefficient := by exact_mod_cast atLeast
  have upper : (coefficient : ℚ) ≤ 10 ^ shift := by exact_mod_cast atMost
  rw [zero_sub]
  constructor
  · nlinarith
  · calc (coefficient : ℚ) * 10 ^ (-(shift : ℤ)) ≤ 10 ^ shift * 10 ^ (-(shift : ℤ)) :=
          mul_le_mul_of_nonneg_right upper (le_of_lt scale)
      _ = 1 := by rw [zpow_neg, zpow_natCast, mul_inv_cancel₀ (by positivity)]

/-- A part of a whole, divided by it. -/
theorem quotient_share (context : DecimalContext) {count total : Nat} (positive : 0 < count)
    (part : count ≤ total) :
    (quotient context ⟨false, count, 0⟩ ⟨false, total, 0⟩).negative = false ∧
      (10 : ℚ) ^ (-(shareShift context count total : ℤ)) ≤
        (quotient context ⟨false, count, 0⟩ ⟨false, total, 0⟩).magnitude ∧
      (quotient context ⟨false, count, 0⟩ ⟨false, total, 0⟩).magnitude ≤ 1 := by
  have atLeast := one_le_share context positive part
  have atMost := @share_le count total (shareShift context count total) part
  have nonneg : (0 : Int) ≤ shareShift context count total := Int.natCast_nonneg _
  unfold quotient
  simp only [quotientShift_share context part, shifted, if_neg (Nat.ne_of_gt positive),
    if_pos nonneg, Int.toNat_natCast, sub_self, bne_self_eq_false]
  generalize shareShift context count total = shift at atLeast atMost
  split_ifs with inexact fives
  · exact ⟨rfl, share_magnitude (Nat.le_add_left 1 _) (atMost.2 inexact)⟩
  · exact ⟨rfl, share_magnitude atLeast atMost.1⟩
  · refine ⟨rfl, ?_⟩
    rw [magnitude, stripZeros_value]
    exact share_magnitude atLeast atMost.1

/-- A number on the grid of the least exponent does not round to zero. -/
theorem roundDigits_pos {precision : ℕ} {least : ℤ} {x : ℚ} (digits : 0 < precision)
    (reach : (10 : ℚ) ^ least ≤ x) : 0 < roundDigits precision least x := by
  have positive : (0 : ℚ) < 10 ^ least := zpow_pos (by norm_num) _
  have grid : gridExponent precision least ((10 : ℚ) ^ least) ≤ least := by
    have log : Int.log 10 ((10 : ℚ) ^ least) = least := by
      exact_mod_cast Int.log_zpow (R := ℚ) (b := 10) (by norm_num) least
    unfold gridExponent
    rw [log]
    omega
  have exact : roundDigits precision least ((10 : ℚ) ^ least) = (10 : ℚ) ^ least :=
    @roundDigits_of_multiple precision least _ 1 least (by norm_num) grid
  calc (0 : ℚ) < 10 ^ least := positive
    _ = roundDigits precision least ((10 : ℚ) ^ least) := exact.symm
    _ ≤ roundDigits precision least x := roundDigits_mono digits (le_of_lt positive) reach

/-- One is on every grid that reaches it. -/
theorem roundDigits_one {precision : ℕ} {least : ℤ} (digits : 0 < precision) (reach : least ≤ 0) :
    roundDigits precision least 1 = 1 := by
  have log : Int.log 10 (1 : ℚ) = 0 := Int.log_one_right 10
  refine @roundDigits_of_multiple precision least 1 1 0 (by norm_num) ?_
  unfold gridExponent
  rw [log]
  omega

/-- A part of a whole, divided by it and rounded, is positive and at most one. -/
theorem div_share {count total : Nat} (positive : 0 < count) (part : count ≤ total)
    (small : Nat.log 10 total ≤ 999997) :
    ∃ share, div .default ⟨false, count, 0⟩ ⟨false, total, 0⟩ = .ok share ∧ 0 < share.value ∧
      share.value ≤ 1 := by
  obtain ⟨sign, lower, upper⟩ := quotient_share .default positive part
  have reach : (10 : ℚ) ^ DecimalContext.default.least ≤
      10 ^ (-(shareShift .default count total : ℤ)) := by
    apply zpow_le_zpow_right₀ (by norm_num)
    unfold shareShift DecimalContext.default
    simp only
    omega
  have fits : (quotient .default ⟨false, count, 0⟩ ⟨false, total, 0⟩).magnitude <
      DecimalContext.default.limit := by
    have power : (1 : ℚ) ≤ 10 ^ DecimalContext.default.top :=
      one_le_zpow₀ (by norm_num) (by decide)
    have digits : (1 : ℚ) < 10 ^ DecimalContext.default.digits - 1 / 2 := by
      norm_num [DecimalContext.default]
    unfold DecimalContext.limit
    nlinarith
  obtain ⟨share, rounded⟩ := fix_returns_iff.mpr fits
  have known := fix_eq_ok rounded
  have unsigned : share.value = share.magnitude := by
    unfold value
    rw [known.1, sign, if_neg (by simp)]
  refine ⟨share, ?_, ?_, ?_⟩
  · rw [div, if_neg (by simp only; omega)]
    exact rounded
  · rw [unsigned, known.2.1]
    exact roundDigits_pos (by decide) (le_trans reach lower)
  · rw [unsigned, known.2.1]
    calc roundDigits _ _ _ ≤ roundDigits _ _ 1 :=
          roundDigits_mono (by decide) (magnitude_nonneg _) upper
      _ = 1 := roundDigits_one (by decide) (by decide)

end CovenantRadar.Decimal
