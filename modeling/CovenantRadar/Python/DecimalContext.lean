import CovenantRadar.Python.Scalars
import CovenantRadar.Misc.Loop
import CovenantRadar.Misc.Rounding

/-!
# Decimal arithmetic in a context

`decimal` rounds the result of every operation to the digits of the context, half to even,
on a grid that ends at a least exponent, and raises `Overflow` for a result that does not
fit below the top exponent.
-/

namespace CovenantRadar

/-- The digits of a context, and the least and the top exponent of its results. -/
structure DecimalContext where
  digits : ℕ
  least : ℤ
  top : ℤ
  positive : 0 < digits
  ordered : least ≤ top

namespace DecimalContext

/-- `decimal.DefaultContext`: 28 digits, `Emin` and `Emax` a million but one. -/
def default : DecimalContext := ⟨28, -1000026, 999972, by decide, by decide⟩

/-- The magnitudes from here on overflow. -/
def limit (context : DecimalContext) : ℚ := (10 ^ context.digits - 1 / 2) * 10 ^ context.top

end DecimalContext

namespace Decimal

/-- The number without its sign. -/
def magnitude (d : Decimal) : ℚ := d.coefficient * 10 ^ d.exponent

/-- The number a decimal denotes. -/
def value (d : Decimal) : ℚ := if d.negative then -d.magnitude else d.magnitude

/-- The error of a result that is too large. -/
def overflow : PyError := .arithmeticError "[<class 'decimal.Overflow'>]"

section

variable (context : DecimalContext)

/-- `Decimal._fix`. -/
def fix (d : Decimal) : Except PyError Decimal :=
  if d.coefficient = 0 then
    let largest := context.top + (context.digits - 1 : ℕ)
    .ok { d with exponent := min (max d.exponent context.least) largest }
  else
    let wanted := (Nat.log 10 d.coefficient : ℤ) + d.exponent + 1 - context.digits
    let unit := max wanted context.least
    if context.top < wanted then .error overflow
    else if d.exponent < unit then
      let rounded :=
        (halfEven ((d.coefficient : ℚ) / 10 ^ (unit - d.exponent).toNat)).toNat
      if rounded < 10 ^ context.digits then .ok ⟨d.negative, rounded, unit⟩
      else if context.top < unit + 1 then .error overflow
      else .ok ⟨d.negative, rounded / 10, unit + 1⟩
    else .ok d

/-- `Decimal.__mul__`. -/
def mul (a b : Decimal) : Except PyError Decimal :=
  fix context ⟨a.negative != b.negative, a.coefficient * b.coefficient, a.exponent + b.exponent⟩

/-- `Decimal.__neg__`: a zero comes back without its sign. -/
def neg (d : Decimal) : Except PyError Decimal :=
  fix context { d with negative := decide (d.coefficient ≠ 0) && !d.negative }

/-- `Decimal.__abs__`. -/
def abs (d : Decimal) : Except PyError Decimal := fix context { d with negative := false }

/-- `Decimal.__sub__`: only two zeros, the first one signed and the second one not, leave a
    signed zero. -/
def sub (a b : Decimal) : Except PyError Decimal :=
  let unit := min a.exponent b.exponent
  let difference := a.scaled unit - b.scaled unit
  let zeros := a.coefficient = 0 ∧ b.coefficient = 0
  fix context ⟨decide (difference < 0) || (decide zeros && a.negative && !b.negative),
    difference.natAbs, unit⟩

end

/-! ## What a result is -/

theorem magnitude_nonneg (d : Decimal) : 0 ≤ d.magnitude :=
  mul_nonneg (Nat.cast_nonneg _) (le_of_lt (zpow_pos (by norm_num) _))

theorem magnitude_eq_zero_iff {d : Decimal} : d.magnitude = 0 ↔ d.coefficient = 0 := by
  have power : (10 : ℚ) ^ d.exponent ≠ 0 := zpow_ne_zero _ (by norm_num)
  simp [magnitude, power]

section

variable {context : DecimalContext} {d result : Decimal}

theorem log_magnitude (nonzero : d.coefficient ≠ 0) :
    Int.log 10 d.magnitude = Nat.log 10 d.coefficient + d.exponent := by
  have ten : (10 : ℚ) ≠ 0 := by norm_num
  have scale : (0 : ℚ) < 10 ^ d.exponent := zpow_pos (by norm_num) _
  have positive : 0 < d.magnitude :=
    mul_pos (Nat.cast_pos.mpr (Nat.pos_of_ne_zero nonzero)) scale
  apply le_antisymm
  · apply Int.lt_add_one_iff.mp
    apply (Int.lt_zpow_iff_log_lt (b := 10) (by norm_num) positive).mp
    have digits : d.coefficient < 10 ^ (Nat.log 10 d.coefficient + 1) :=
      Nat.lt_pow_succ_log_self (by norm_num) _
    have cast : (d.coefficient : ℚ) < 10 ^ ((Nat.log 10 d.coefficient : ℤ) + 1) := by
      exact_mod_cast digits
    rw [show (Nat.log 10 d.coefficient : ℤ) + d.exponent + 1 =
      ((Nat.log 10 d.coefficient : ℤ) + 1) + d.exponent by ring]
    push_cast
    rw [zpow_add₀ ten]
    exact mul_lt_mul_of_pos_right cast scale
  · apply (Int.zpow_le_iff_le_log (b := 10) (by norm_num) positive).mp
    have digits : 10 ^ Nat.log 10 d.coefficient ≤ d.coefficient := Nat.pow_log_le_self 10 nonzero
    have cast : (10 : ℚ) ^ (Nat.log 10 d.coefficient : ℤ) ≤ d.coefficient := by
      exact_mod_cast digits
    push_cast
    rw [zpow_add₀ ten]
    exact mul_le_mul_of_nonneg_right cast (le_of_lt scale)

/-- The exponent a non-zero result is rounded to. -/
def grid (context : DecimalContext) (d : Decimal) : ℤ :=
  gridExponent context.digits context.least d.magnitude

/-- The coefficient a non-zero result is rounded to. -/
def rounded (context : DecimalContext) (d : Decimal) : ℤ :=
  halfEven (d.magnitude / 10 ^ d.grid context)

theorem grid_eq (context : DecimalContext) (nonzero : d.coefficient ≠ 0) :
    d.grid context =
      max ((Nat.log 10 d.coefficient : ℤ) + d.exponent + 1 - context.digits) context.least := by
  unfold grid gridExponent
  rw [log_magnitude nonzero]

theorem magnitude_div (coarser : d.exponent ≤ d.grid context) :
    d.magnitude / 10 ^ d.grid context =
      d.coefficient / 10 ^ (d.grid context - d.exponent).toNat := by
  have ten : (10 : ℚ) ≠ 0 := by norm_num
  have gap : (10 : ℚ) ^ d.grid context =
      10 ^ (d.grid context - d.exponent).toNat * 10 ^ d.exponent := by
    rw [← zpow_natCast, Int.toNat_of_nonneg (by omega), ← zpow_add₀ ten]
    congr 1
    ring
  unfold magnitude
  rw [gap, mul_div_mul_right _ _ (zpow_ne_zero _ ten)]

/-- A number on the grid is its own rounding. -/
theorem rounded_exact (finer : d.grid context ≤ d.exponent) :
    (d.rounded context : ℚ) * 10 ^ d.grid context = d.magnitude := by
  have ten : (10 : ℚ) ≠ 0 := by norm_num
  have integral : d.magnitude / 10 ^ d.grid context =
      ((d.coefficient * 10 ^ (d.exponent - d.grid context).toNat : ℤ) : ℚ) := by
    unfold magnitude
    push_cast
    rw [mul_div_assoc, ← zpow_sub₀ ten, ← zpow_natCast, Int.toNat_of_nonneg (by omega)]
  unfold rounded
  rw [integral, halfEven_intCast, ← integral, div_mul_cancel₀ _ (zpow_ne_zero _ ten)]

/-- The scaled number has no more digits than the context. -/
theorem magnitude_div_lt (context : DecimalContext) (d : Decimal) :
    d.magnitude / 10 ^ d.grid context < 10 ^ context.digits := by
  have below := Int.lt_zpow_succ_log_self (R := ℚ) (b := 10) (by norm_num) d.magnitude
  have reach : Int.log 10 d.magnitude + 1 ≤ context.digits + d.grid context := by
    unfold grid gridExponent
    omega
  rw [div_lt_iff₀ (zpow_pos (by norm_num) _), ← zpow_natCast, ← zpow_add₀ (by norm_num)]
  refine lt_of_lt_of_le below ?_
  exact_mod_cast zpow_le_zpow_right₀ (by norm_num : (1 : ℚ) ≤ 10) reach

theorem rounded_range (context : DecimalContext) (d : Decimal) :
    0 ≤ d.rounded context ∧ d.rounded context ≤ 10 ^ context.digits := by
  have zero : halfEven 0 = 0 := by exact_mod_cast halfEven_intCast 0
  have whole : halfEven (10 ^ context.digits) = 10 ^ context.digits := by
    exact_mod_cast halfEven_intCast (10 ^ context.digits)
  constructor
  · rw [← zero]
    exact halfEven_mono (div_nonneg d.magnitude_nonneg (le_of_lt (zpow_pos (by norm_num) _)))
  · rw [← whole]
    exact halfEven_mono (le_of_lt (magnitude_div_lt context d))

/-- A result overflows above the top exponent, or when it is rounded up past it. -/
def Overflows (context : DecimalContext) (d : Decimal) : Prop :=
  context.top < d.grid context ∨
    d.rounded context = 10 ^ context.digits ∧ d.grid context = context.top

/-- What `_fix` does with a number that is not zero. -/
theorem fix_of_ne_zero (context : DecimalContext) (nonzero : d.coefficient ≠ 0) :
    (d.Overflows context → fix context d = .error overflow) ∧
      (¬ d.Overflows context → ∃ result, fix context d = .ok result ∧
        result.negative = d.negative ∧
          result.magnitude = d.rounded context * 10 ^ d.grid context) := by
  have range := rounded_range context d
  have least := context.ordered
  have unit := grid_eq context nonzero
  unfold fix
  rw [if_neg nonzero]
  simp only [← unit]
  by_cases large : context.top <
      (Nat.log 10 d.coefficient : ℤ) + d.exponent + 1 - context.digits
  · rw [if_pos large]
    refine ⟨fun _ => rfl, fun fits => absurd (Or.inl ?_) fits⟩
    omega
  · have inside : d.grid context ≤ context.top := by omega
    rw [if_neg large]
    by_cases coarser : d.exponent < d.grid context
    · have digits := Int.toNat_of_nonneg range.1
      have cast : ((d.rounded context).toNat : ℚ) = d.rounded context := by
        exact_mod_cast digits
      have scaled : halfEven (d.magnitude / 10 ^ d.grid context) = d.rounded context := rfl
      rw [if_pos coarser, ← magnitude_div (le_of_lt coarser)]
      simp only [scaled]
      by_cases short : (d.rounded context).toNat < 10 ^ context.digits
      · rw [if_pos short]
        refine ⟨fun overflows => ?_, fun _ => ⟨_, rfl, rfl, ?_⟩⟩
        · rcases overflows with above | carried
          · omega
          · rw [carried.1] at short
            exact absurd short (by simp [Int.toNat_pow_of_nonneg])
        · rw [magnitude, cast]
      · -- the carry shifts the coefficient by one digit
        have full : (d.rounded context).toNat = 10 ^ context.digits := by
          refine le_antisymm ?_ (not_lt.mp short)
          have bound := range.2
          rw [← digits] at bound
          exact_mod_cast bound
        have whole : d.rounded context = 10 ^ context.digits := by
          rw [← digits, full]
          push_cast
          rfl
        rw [if_neg short]
        by_cases last : context.top < d.grid context + 1
        · rw [if_pos last]
          refine ⟨fun _ => rfl, fun fits => absurd (Or.inr ⟨whole, ?_⟩) fits⟩
          omega
        · rw [if_neg last, full]
          refine ⟨fun overflows => ?_, fun _ => ⟨_, rfl, rfl, ?_⟩⟩
          · rcases overflows with above | carried
            · omega
            · omega
          · obtain ⟨fewer, count⟩ := Nat.exists_eq_succ_of_ne_zero (ne_of_gt context.positive)
            rw [magnitude, whole, count, zpow_add_one₀ (by norm_num), pow_succ, pow_succ,
              Nat.mul_div_cancel _ (by norm_num)]
            push_cast
            ring
    · have exact := rounded_exact (not_lt.mp coarser)
      rw [if_neg coarser]
      refine ⟨fun overflows => ?_, fun _ => ⟨d, rfl, rfl, exact.symm⟩⟩
      rcases overflows with above | carried
      · omega
      · -- an exact coefficient is below the power of ten
        have below := magnitude_div_lt context d
        rw [← exact, mul_div_cancel_right₀ _ (zpow_ne_zero _ (by norm_num)), carried.1] at below
        push_cast at below
        exact absurd below (lt_irrefl _)

theorem limit_pos (context : DecimalContext) : 0 < context.limit := by
  have power : (1 : ℚ) ≤ 10 ^ context.digits := one_le_pow₀ (by norm_num)
  exact mul_pos (by linarith) (zpow_pos (by norm_num) _)

/-- Everything on a finer grid than the top one is below the limit. -/
theorem scaled_lt_limit {grid : ℤ} {coefficient : ℚ} (finer : grid < context.top)
    (bound : coefficient ≤ 10 ^ context.digits) : coefficient * 10 ^ grid < context.limit := by
  have ten : (10 : ℚ) ≠ 0 := by norm_num
  have positive : (0 : ℚ) < 10 ^ grid := zpow_pos (by norm_num) _
  have power : (1 : ℚ) ≤ 10 ^ context.digits := one_le_pow₀ (by norm_num)
  have step : (10 : ℚ) ^ grid * 10 ≤ 10 ^ context.top := by
    rw [← zpow_add_one₀ ten]
    exact zpow_le_zpow_right₀ (by norm_num) (by omega)
  unfold DecimalContext.limit
  calc coefficient * 10 ^ grid ≤ 10 ^ context.digits * 10 ^ grid :=
        mul_le_mul_of_nonneg_right bound (le_of_lt positive)
    _ < (10 ^ context.digits - 1 / 2) * (10 ^ grid * 10) := by nlinarith
    _ ≤ (10 ^ context.digits - 1 / 2) * 10 ^ context.top :=
        mul_le_mul_of_nonneg_left step (by linarith)

/-- On the top grid the last coefficient below the limit is all nines. -/
theorem carry_iff (last : d.grid context = context.top) :
    d.rounded context = 10 ^ context.digits ↔ context.limit ≤ d.magnitude := by
  have positive : (0 : ℚ) < 10 ^ context.top := zpow_pos (by norm_num) _
  have odd : ((10 : ℤ) ^ context.digits - 1) % 2 = 1 := by
    have even : (10 : ℤ) ^ context.digits % 2 = 0 := by
      obtain ⟨fewer, count⟩ := Nat.exists_eq_succ_of_ne_zero (ne_of_gt context.positive)
      rw [count, pow_succ]
      omega
    omega
  have range := rounded_range context d
  have full : d.rounded context = 10 ^ context.digits ↔
      (10 : ℤ) ^ context.digits - 1 < d.rounded context := by omega
  rw [full]
  unfold rounded
  rw [lt_halfEven_iff odd, last, le_div_iff₀ positive]
  unfold DecimalContext.limit
  push_cast
  ring_nf

theorem overflows_iff (nonzero : d.coefficient ≠ 0) :
    d.Overflows context ↔ context.limit ≤ d.magnitude := by
  have positive : (0 : ℚ) < 10 ^ d.grid context := zpow_pos (by norm_num) _
  rcases lt_trichotomy (d.grid context) context.top with finer | last | above
  · have below : d.magnitude < context.limit := by
      rw [← div_mul_cancel₀ d.magnitude (ne_of_gt positive)]
      exact scaled_lt_limit finer (le_of_lt (magnitude_div_lt context d))
    refine iff_of_false ?_ (not_le.mpr below)
    rintro (above | carried)
    · omega
    · omega
  · rw [← carry_iff last]
    constructor
    · rintro (above | carried)
      · omega
      · exact carried.1
    · exact fun carried => Or.inr ⟨carried, last⟩
  · refine iff_of_true (Or.inl above) ?_
    have reach : (10 : ℚ) ^ Int.log 10 d.magnitude ≤ d.magnitude := by
      have some : 0 < d.magnitude := lt_of_le_of_ne d.magnitude_nonneg fun zero =>
        nonzero (magnitude_eq_zero_iff.mp zero.symm)
      exact_mod_cast Int.zpow_log_le_self (b := 10) (by norm_num) some
    have order := context.ordered
    have leading : context.digits + context.top ≤ Int.log 10 d.magnitude := by
      unfold grid gridExponent at above
      omega
    calc context.limit ≤ 10 ^ context.digits * 10 ^ context.top := by
          unfold DecimalContext.limit
          exact mul_le_mul_of_nonneg_right (by linarith) (le_of_lt (zpow_pos (by norm_num) _))
      _ = 10 ^ (context.digits + context.top) := by
          rw [zpow_add₀ (by norm_num), zpow_natCast]
      _ ≤ 10 ^ Int.log 10 d.magnitude := zpow_le_zpow_right₀ (by norm_num) leading
      _ ≤ d.magnitude := reach

theorem fix_of_eq_zero (context : DecimalContext) (zero : d.coefficient = 0) : ∃ result, fix context d = .ok result ∧
    result.negative = d.negative ∧ result.magnitude = 0 := by
  unfold fix
  rw [if_pos zero]
  exact ⟨_, rfl, rfl, magnitude_eq_zero_iff.mpr zero⟩

/-- An operation returns below the limit and overflows from there on. -/
theorem fix_returns_iff : (∃ result, fix context d = .ok result) ↔ d.magnitude < context.limit := by
  by_cases zero : d.coefficient = 0
  · obtain ⟨result, returned, _⟩ := fix_of_eq_zero context zero
    rw [magnitude_eq_zero_iff.mpr zero]
    exact iff_of_true ⟨result, returned⟩ (limit_pos context)
  · have known := fix_of_ne_zero context zero
    rw [← not_le, ← overflows_iff zero]
    constructor
    · rintro ⟨result, returned⟩ overflows
      rw [known.1 overflows] at returned
      cases returned
    · intro fits
      obtain ⟨result, returned, _⟩ := known.2 fits
      exact ⟨result, returned⟩

/-- A result keeps the sign, is the number rounded, and is below the limit again. -/
theorem fix_eq_ok (returned : fix context d = .ok result) :
    result.negative = d.negative ∧
      result.magnitude = roundDigits context.digits context.least d.magnitude ∧
        result.magnitude < context.limit := by
  by_cases zero : d.coefficient = 0
  · obtain ⟨other, returned', sign, nothing⟩ := fix_of_eq_zero context zero
    rw [returned'] at returned
    cases returned
    rw [magnitude_eq_zero_iff.mpr zero, roundDigits_zero, nothing]
    exact ⟨sign, rfl, limit_pos context⟩
  · have known := fix_of_ne_zero context zero
    have fits : ¬ d.Overflows context := by
      intro overflows
      rw [known.1 overflows] at returned
      cases returned
    obtain ⟨other, returned', sign, scaled⟩ := known.2 fits
    rw [returned'] at returned
    cases returned
    refine ⟨sign, ?_, ?_⟩
    · rw [scaled, roundDigits, if_neg fun nothing => zero (magnitude_eq_zero_iff.mp nothing)]
      rfl
    · have range := rounded_range context d
      have bound : (d.rounded context : ℚ) ≤ 10 ^ context.digits := by exact_mod_cast range.2
      rw [scaled]
      rcases lt_trichotomy (d.grid context) context.top with finer | last | above
      · exact scaled_lt_limit finer bound
      · have nines : d.rounded context ≤ 10 ^ context.digits - 1 := by
          have short : d.rounded context ≠ 10 ^ context.digits := fun full =>
            fits (Or.inr ⟨full, last⟩)
          omega
        have cast : (d.rounded context : ℚ) ≤ 10 ^ context.digits - 1 := by exact_mod_cast nines
        rw [last]
        exact mul_lt_mul_of_pos_right (by linarith) (zpow_pos (by norm_num) _)
      · exact absurd (Or.inl above) fits

end

/-! ## Non-negative numbers -/

section

variable {context : DecimalContext} {a b d result : Decimal}

theorem value_eq_magnitude (nonneg : 0 ≤ d.value) : d.value = d.magnitude := by
  have sign := d.magnitude_nonneg
  unfold value at nonneg ⊢
  split_ifs at nonneg ⊢
  · linarith
  · rfl

/-- Only a zero is both signed and non-negative. -/
theorem magnitude_of_negative (nonneg : 0 ≤ d.value) (signed : d.negative = true) :
    d.magnitude = 0 := by
  have sign := d.magnitude_nonneg
  unfold value at nonneg
  rw [if_pos signed] at nonneg
  linarith

theorem neg_returns_iff : (∃ result, neg context d = .ok result) ↔ d.magnitude < context.limit :=
  fix_returns_iff

theorem neg_eq_ok (nonneg : 0 ≤ d.value) (returned : neg context d = .ok result) :
    result.value = -roundDigits context.digits context.least d.value ∧
      d.magnitude < context.limit := by
  obtain ⟨sign, rounds, _⟩ := fix_eq_ok returned
  have fits := fix_returns_iff.mp ⟨result, returned⟩
  refine ⟨?_, fits⟩
  have same : (⟨decide (d.coefficient ≠ 0) && !d.negative, d.coefficient, d.exponent⟩ :
      Decimal).magnitude = d.magnitude := rfl
  rw [same] at rounds
  rw [value_eq_magnitude nonneg, ← rounds]
  unfold value
  by_cases zero : d.coefficient = 0
  · have nothing : result.magnitude = 0 := by
      rw [rounds, magnitude_eq_zero_iff.mpr zero, roundDigits_zero]
    rw [nothing]
    simp
  · have positive : d.negative = false := by
      by_contra signed
      rw [Bool.not_eq_false] at signed
      exact zero (magnitude_eq_zero_iff.mp (magnitude_of_negative nonneg signed))
    rw [sign]
    simp [zero, positive]

theorem magnitude_mul : (⟨a.negative != b.negative, a.coefficient * b.coefficient,
    a.exponent + b.exponent⟩ : Decimal).magnitude = a.magnitude * b.magnitude := by
  unfold magnitude
  push_cast
  rw [zpow_add₀ (by norm_num)]
  ring

/-- A product of non-negative numbers is the exact product rounded. -/
theorem mul_eq_ok (nonneg : 0 ≤ a.value) (nonneg' : 0 ≤ b.value)
    (returned : mul context a b = .ok result) :
    result.value = roundDigits context.digits context.least (a.value * b.value) ∧
      result.magnitude = result.value ∧ result.magnitude < context.limit := by
  obtain ⟨sign, rounds, fits⟩ := fix_eq_ok returned
  rw [magnitude_mul] at rounds
  have value : result.value = result.magnitude := by
    unfold Decimal.value
    split_ifs with signed
    · -- one factor is a signed zero
      rw [sign] at signed
      have zero : a.magnitude * b.magnitude = 0 := by
        cases flag : a.negative with
        | true => rw [magnitude_of_negative nonneg flag, zero_mul]
        | false =>
          have flag' : b.negative = true := by simpa [flag] using signed
          rw [magnitude_of_negative nonneg' flag', mul_zero]
      rw [rounds, zero, roundDigits_zero, neg_zero]
    · rfl
  refine ⟨?_, value.symm, fits⟩
  rw [value, rounds, value_eq_magnitude nonneg, value_eq_magnitude nonneg']

theorem mul_returns_iff :
    (∃ result, mul context a b = .ok result) ↔ a.magnitude * b.magnitude < context.limit := by
  rw [← magnitude_mul]
  exact fix_returns_iff

end

/-! ## Differences -/

section

variable {context : DecimalContext} {a b d result : Decimal}

/-- The same number with the sign of its negation. -/
structure Opposite (d e : Decimal) : Prop where
  coefficient : e.coefficient = d.coefficient
  exponent : e.exponent = d.exponent
  value : e.value = -d.value

theorem Opposite.abs {d e : Decimal} (opposite : Opposite d e) (context : DecimalContext) :
    Decimal.abs context e = Decimal.abs context d := by
  unfold Decimal.abs
  rw [opposite.coefficient, opposite.exponent]

end

end Decimal

end CovenantRadar
