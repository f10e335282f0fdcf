import Mathlib

/-!
# Rounding to significant digits, ties to even

A positive number is rounded on the grid of the multiples of a power of ten: the power
that leaves the wanted number of digits, or a fixed least power where the number is too
small for that.
-/

namespace CovenantRadar

/-- The nearest integer, the even one of two equally near. -/
def halfEven (q : ℚ) : ℤ :=
  let floor := ⌊q⌋
  if q - floor < 1 / 2 ∨ q - floor = 1 / 2 ∧ floor % 2 = 0 then floor else floor + 1

theorem halfEven_intCast (n : ℤ) : halfEven n = n := by
  simp [halfEven]

theorem floor_le_halfEven (q : ℚ) : ⌊q⌋ ≤ halfEven q := by
  unfold halfEven
  simp only
  split_ifs
  · exact le_refl _
  · exact Int.le_add_one (le_refl _)

theorem halfEven_le_floor_add_one (q : ℚ) : halfEven q ≤ ⌊q⌋ + 1 := by
  unfold halfEven
  simp only
  split_ifs
  · exact Int.le_add_one (le_refl _)
  · exact le_refl _

theorem halfEven_mono {p q : ℚ} (ordered : p ≤ q) : halfEven p ≤ halfEven q := by
  have floors := Int.floor_le_floor ordered
  by_cases same : ⌊p⌋ = ⌊q⌋
  · -- on one unit interval the larger number rounds up wherever the smaller one does
    unfold halfEven
    simp only
    rw [same]
    split_ifs with down up
    · exact le_refl _
    · exact Int.le_add_one (le_refl _)
    · exfalso
      rename_i low
      rcases low with low | low
      · exact down (Or.inl (by linarith))
      · by_cases less : p - ⌊q⌋ < 1 / 2
        · exact down (Or.inl less)
        · exact down (Or.inr ⟨le_antisymm (by linarith) (not_lt.mp less), low.2⟩)
    · exact le_refl _
  · calc halfEven p ≤ ⌊p⌋ + 1 := halfEven_le_floor_add_one p
      _ ≤ ⌊q⌋ := lt_of_le_of_ne floors same
      _ ≤ halfEven q := floor_le_halfEven q

/-- An integer is reached from the midpoint below it on, or just after an even one. -/
theorem lt_halfEven_iff {q : ℚ} {n : ℤ} (odd : n % 2 = 1) :
    n < halfEven q ↔ (n : ℚ) + 1 / 2 ≤ q := by
  constructor
  · intro above
    by_contra short
    have small : q < n + 1 / 2 := not_le.mp short
    have bound : ⌊q⌋ ≤ n := by
      have cast : (⌊q⌋ : ℚ) ≤ q := Int.floor_le q
      have close : (⌊q⌋ : ℚ) < n + 1 := by linarith
      exact Int.lt_add_one_iff.mp (by exact_mod_cast close)
    rcases eq_or_lt_of_le bound with same | less
    · have down : halfEven q = n := by
        unfold halfEven
        simp only
        rw [same, if_pos (Or.inl (by linarith))]
      omega
    · have up := halfEven_le_floor_add_one q
      omega
  · intro reached
    have bound : n ≤ ⌊q⌋ := Int.le_floor.mpr (by linarith)
    rcases eq_or_lt_of_le bound with same | less
    · have up : halfEven q = n + 1 := by
        unfold halfEven
        simp only
        rw [← same, if_neg]
        rintro (low | low)
        · linarith
        · omega
      omega
    · exact lt_of_lt_of_le less (floor_le_halfEven q)

section

variable (precision : ℕ) (least : ℤ)

/-- The exponent of the grid a positive number is rounded on. -/
def gridExponent (x : ℚ) : ℤ := max (Int.log 10 x + 1 - precision) least

/-- The number rounded to its grid. -/
def roundDigits (x : ℚ) : ℚ :=
  if x = 0 then 0
  else halfEven (x / 10 ^ gridExponent precision least x) * 10 ^ gridExponent precision least x

variable {precision least}

theorem roundDigits_zero : roundDigits precision least 0 = 0 := if_pos rfl

/-- A multiple of a coarser power of ten is on the grid. -/
theorem halfEven_scaled_zpow {grid power : ℤ} (coarser : grid ≤ power) :
    (halfEven ((10 : ℚ) ^ power / 10 ^ grid) : ℚ) * 10 ^ grid = 10 ^ power := by
  have ten : (10 : ℚ) ≠ 0 := by norm_num
  have integral : ((10 : ℚ) ^ power / 10 ^ grid) = (((10 : ℤ) ^ (power - grid).toNat : ℤ) : ℚ) := by
    rw [← zpow_sub₀ ten]
    push_cast
    rw [← zpow_natCast, Int.toNat_of_nonneg (by omega)]
  rw [integral, halfEven_intCast, ← integral, div_mul_cancel₀ _ (zpow_ne_zero _ ten)]

/-- A multiple of its grid's power, or of a coarser one, is its own rounding. -/
theorem roundDigits_of_multiple {x : ℚ} {n power : ℤ} (multiple : x = n * 10 ^ power)
    (coarser : gridExponent precision least x ≤ power) : roundDigits precision least x = x := by
  have ten : (10 : ℚ) ≠ 0 := by norm_num
  have integral : x / 10 ^ gridExponent precision least x =
      ((n * 10 ^ (power - gridExponent precision least x).toNat : ℤ) : ℚ) := by
    push_cast
    rw [← zpow_natCast, Int.toNat_of_nonneg (by omega), zpow_sub₀ ten, ← mul_div_assoc, ← multiple]
  unfold roundDigits
  split_ifs with zero
  · exact zero.symm
  · rw [integral, halfEven_intCast, ← integral, div_mul_cancel₀ _ (zpow_ne_zero _ ten)]

theorem halfEven_scaled_mono {x y : ℚ} (grid : ℤ) (ordered : x ≤ y) :
    (halfEven (x / 10 ^ grid) : ℚ) * 10 ^ grid ≤ halfEven (y / 10 ^ grid) * 10 ^ grid := by
  have positive : (0 : ℚ) < 10 ^ grid := zpow_pos (by norm_num) _
  apply mul_le_mul_of_nonneg_right _ (le_of_lt positive)
  exact_mod_cast halfEven_mono (div_le_div_of_nonneg_right ordered (le_of_lt positive))

theorem roundDigits_nonneg {x : ℚ} (nonneg : 0 ≤ x) : 0 ≤ roundDigits precision least x := by
  unfold roundDigits
  split_ifs
  · exact le_refl _
  · have start := halfEven_scaled_mono (gridExponent precision least x) nonneg
    rw [zero_div] at start
    have zero : halfEven 0 = 0 := by exact_mod_cast halfEven_intCast 0
    rw [zero] at start
    simpa using start

/-- The rounded coefficient has no more digits than wanted, or is a power of ten. -/
theorem halfEven_scaled_le (precision : ℕ) (least : ℤ) (x : ℚ) :
    halfEven (x / 10 ^ gridExponent precision least x) ≤ 10 ^ precision := by
  have whole : halfEven (10 ^ precision) = 10 ^ precision := by
    exact_mod_cast halfEven_intCast (10 ^ precision)
  have below := Int.lt_zpow_succ_log_self (R := ℚ) (b := 10) (by norm_num) x
  have reach : Int.log 10 x + 1 ≤ precision + gridExponent precision least x := by
    unfold gridExponent
    omega
  rw [← whole]
  apply halfEven_mono
  rw [div_le_iff₀ (zpow_pos (by norm_num) _), ← zpow_natCast, ← zpow_add₀ (by norm_num)]
  refine (le_of_lt below).trans ?_
  exact_mod_cast zpow_le_zpow_right₀ (by norm_num : (1 : ℚ) ≤ 10) reach

/-- A rounded number is its own rounding. -/
theorem roundDigits_idem {x : ℚ} (digits : 0 < precision) (nonneg : 0 ≤ x) :
    roundDigits precision least (roundDigits precision least x) =
      roundDigits precision least x := by
  by_cases zero : roundDigits precision least x = 0
  · rw [zero, roundDigits_zero]
  · have positive : 0 < roundDigits precision least x :=
      lt_of_le_of_ne (roundDigits_nonneg nonneg) (Ne.symm zero)
    have start : x ≠ 0 := by
      intro nothing
      rw [nothing, roundDigits_zero] at zero
      exact zero rfl
    have form : roundDigits precision least x =
        halfEven (x / 10 ^ gridExponent precision least x) *
          10 ^ gridExponent precision least x := if_neg start
    have bound := halfEven_scaled_le precision least x
    have least_le : least ≤ gridExponent precision least x := le_max_right _ _
    rcases eq_or_lt_of_le bound with full | short
    · -- rounded up to a power of ten, which is a multiple of the next power
      rw [full] at form
      push_cast at form
      rw [← zpow_natCast, ← zpow_add₀ (by norm_num)] at form
      have log : Int.log 10 (roundDigits precision least x) =
          precision + gridExponent precision least x := by
        rw [form]
        exact_mod_cast Int.log_zpow (R := ℚ) (b := 10) (by norm_num) _
      have multiple : roundDigits precision least x =
          (1 : ℤ) * 10 ^ (precision + gridExponent precision least x) := by
        rw [form]
        push_cast
        ring
      refine roundDigits_of_multiple multiple ?_
      unfold gridExponent at log least_le ⊢
      omega
    · refine roundDigits_of_multiple form ?_
      have below : Int.log 10 (roundDigits precision least x) <
          precision + gridExponent precision least x := by
        apply (Int.lt_zpow_iff_log_lt (b := 10) (by norm_num) positive).mp
        have cast : (halfEven (x / 10 ^ gridExponent precision least x) : ℚ) < 10 ^ precision := by
          exact_mod_cast short
        rw [form]
        push_cast
        rw [zpow_add₀ (by norm_num), zpow_natCast]
        exact mul_lt_mul_of_pos_right cast (zpow_pos (by norm_num) _)
      have grid : gridExponent precision least (roundDigits precision least x) =
          max (Int.log 10 (roundDigits precision least x) + 1 - precision) least := rfl
      rw [grid]
      omega

/-- Rounding keeps the order of non-negative numbers. -/
theorem roundDigits_mono {x y : ℚ} (digits : 0 < precision) (nonneg : 0 ≤ x) (ordered : x ≤ y) :
    roundDigits precision least x ≤ roundDigits precision least y := by
  by_cases zero : x = 0
  · rw [zero, roundDigits_zero]
    exact roundDigits_nonneg (le_trans nonneg ordered)
  · have positive : 0 < x := lt_of_le_of_ne nonneg (Ne.symm zero)
    have positive' : 0 < y := lt_of_lt_of_le positive ordered
    have logs : Int.log 10 x ≤ Int.log 10 y := Int.log_mono_right positive ordered
    unfold roundDigits
    rw [if_neg zero, if_neg (ne_of_gt positive')]
    by_cases same : gridExponent precision least x = gridExponent precision least y
    · rw [same]
      exact halfEven_scaled_mono _ ordered
    · -- the leading power of ten of `y` is on both grids and between the two numbers
      have finer : Int.log 10 x < Int.log 10 y ∧
          gridExponent precision least y = Int.log 10 y + 1 - precision := by
        unfold gridExponent at same ⊢
        omega
      have below : x ≤ (10 : ℚ) ^ Int.log 10 y := by
        have next := Int.lt_zpow_succ_log_self (R := ℚ) (b := 10) (by norm_num) x
        refine le_trans (le_of_lt next) ?_
        exact_mod_cast zpow_le_zpow_right₀ (by norm_num : (1 : ℚ) ≤ 10) (by omega)
      have above : (10 : ℚ) ^ Int.log 10 y ≤ y := by
        exact_mod_cast Int.zpow_log_le_self (b := 10) (by norm_num) positive'
      have gridX : gridExponent precision least x ≤ Int.log 10 y := by
        unfold gridExponent at same ⊢
        omega
      have gridY : gridExponent precision least y ≤ Int.log 10 y := by omega
      calc _ ≤ (halfEven ((10 : ℚ) ^ Int.log 10 y / 10 ^ gridExponent precision least x) : ℚ) *
              10 ^ gridExponent precision least x := halfEven_scaled_mono _ below
        _ = 10 ^ Int.log 10 y := halfEven_scaled_zpow gridX
        _ = (halfEven ((10 : ℚ) ^ Int.log 10 y / 10 ^ gridExponent precision least y) : ℚ) *
              10 ^ gridExponent precision least y := (halfEven_scaled_zpow gridY).symm
        _ ≤ _ := halfEven_scaled_mono _ above

end

end CovenantRadar
