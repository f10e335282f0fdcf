import CovenantRadar.Python.Datetime

/-!
# Calendar arithmetic

Adding days to a `datetime.date`, and the ordinals of the last days of months. A
month is addressed by the number of months from year zero, so that month ends are
counted without cases.
-/

namespace CovenantRadar

namespace Date

/-! ## Ordinals -/

theorem daysBeforeYear_succ {year : Nat} (positive : 1 ≤ year) :
    daysBeforeYear (year + 1) = daysBeforeYear year + if isLeap year then 366 else 365 := by
  simp only [daysBeforeYear, isLeap, Nat.add_sub_cancel]
  by_cases four : year % 4 = 0
  · by_cases hundred : year % 100 = 0
    · by_cases fourHundred : year % 400 = 0
      · simp [four, fourHundred]
        omega
      · simp [four, hundred, fourHundred]
        omega
    · simp [four, hundred]
      omega
  · simp [four]
    omega

theorem daysBeforeMonth_succ (year : Nat) {month : Nat} (positive : 1 ≤ month) :
    daysBeforeMonth year (month + 1) = daysBeforeMonth year month + daysInMonth year month := by
  obtain ⟨before, rfl⟩ := Nat.exists_eq_add_of_le' positive
  simp [daysBeforeMonth, List.range_succ]

/-- The twelve months make up the year. -/
theorem daysBeforeMonth_thirteen (year : Nat) :
    daysBeforeMonth year 13 = if isLeap year then 366 else 365 := by
  cases leap : isLeap year <;> simp [daysBeforeMonth, daysInMonth, leap, List.range_succ]

theorem daysBeforeMonth_one (year : Nat) : daysBeforeMonth year 1 = 0 := rfl

theorem daysInMonth_pos (year month : Nat) : 1 ≤ daysInMonth year month := by
  unfold daysInMonth
  split_ifs <;> omega

theorem toOrdinal_next {d e : Date} (after : d.next = some e) :
    e.toOrdinal = d.toOrdinal + 1 := by
  have range := d.valid
  unfold next at after
  split_ifs at after with inMonth inYear inRange
  · cases after
    simp only [toOrdinal]
    omega
  · cases after
    have months := daysBeforeMonth_succ d.year range.2.2.1
    simp only [toOrdinal, months]
    omega
  · cases after
    have december : d.month = 12 := by omega
    have whole : daysBeforeMonth d.year 12 + daysInMonth d.year 12 = _ :=
      (daysBeforeMonth_succ d.year (by decide : 1 ≤ 12)).symm.trans (daysBeforeMonth_thirteen d.year)
    have last : d.day = daysInMonth d.year 12 := by
      rw [december] at range inMonth
      omega
    simp only [toOrdinal, daysBeforeYear_succ range.1, daysBeforeMonth_one, december]
    omega

theorem next_prev {d e : Date} (before : d.prev = some e) : e.next = some d := by
  have range := d.valid
  unfold prev at before
  split_ifs at before with inMonth inYear inRange
  · cases before
    unfold next
    rw [dif_pos (by show d.day - 1 < daysInMonth d.year d.month; omega)]
    refine congrArg some (Date.ext rfl rfl ?_)
    show d.day - 1 + 1 = d.day
    omega
  · cases before
    unfold next
    rw [dif_neg (by simp), dif_pos (by show d.month - 1 < 12; omega)]
    refine congrArg some (Date.ext rfl ?_ ?_)
    · show d.month - 1 + 1 = d.month
      omega
    · show 1 = d.day
      omega
  · cases before
    unfold next
    rw [dif_neg (by simp [daysInMonth]), dif_neg (by simp), dif_pos (by show d.year - 1 < 9999; omega)]
    refine congrArg some (Date.ext ?_ ?_ ?_)
    · show d.year - 1 + 1 = d.year
      omega
    · show 1 = d.month
      omega
    · show 1 = d.day
      omega

theorem toOrdinal_prev {d e : Date} (before : d.prev = some e) :
    d.toOrdinal = e.toOrdinal + 1 := toOrdinal_next (next_prev before)

theorem daysBeforeYear_mono {a b : Nat} (positive : 1 ≤ a) (less : a ≤ b) :
    daysBeforeYear a ≤ daysBeforeYear b := by
  induction b, less using Nat.le_induction with
  | base => exact le_refl _
  | succ b later ih =>
    rw [daysBeforeYear_succ (le_trans positive later)]
    omega

theorem daysBeforeMonth_mono (year : Nat) {a b : Nat} (positive : 1 ≤ a) (less : a ≤ b) :
    daysBeforeMonth year a ≤ daysBeforeMonth year b := by
  induction b, less using Nat.le_induction with
  | base => exact le_refl _
  | succ b later ih =>
    rw [daysBeforeMonth_succ year (le_trans positive later)]
    omega

theorem lt_iff {a b : Date} :
    a < b ↔ a.year < b.year ∨ a.year = b.year ∧
      (a.month < b.month ∨ a.month = b.month ∧ a.day < b.day) := by
  have lexed : a < b ↔ (toLex (a.year, toLex (a.month, a.day)) : ℕ ×ₗ ℕ ×ₗ ℕ) <
      toLex (b.year, toLex (b.month, b.day)) := Iff.rfl
  rw [lexed, Prod.Lex.toLex_lt_toLex, Prod.Lex.toLex_lt_toLex]

theorem toOrdinal_strictMono : StrictMono toOrdinal := by
  intro a b less
  have rangeA := a.valid
  have rangeB := b.valid
  have monthEnd := daysBeforeMonth_succ a.year rangeA.2.2.1
  simp only [toOrdinal]
  rcases lt_iff.mp less with years | ⟨years, months | ⟨months, days⟩⟩
  · have whole := daysBeforeMonth_thirteen a.year
    have rest := daysBeforeMonth_mono a.year (show 1 ≤ a.month + 1 by omega)
      (show a.month + 1 ≤ 13 by omega)
    have between := daysBeforeYear_mono (show 1 ≤ a.year + 1 by omega) (show a.year + 1 ≤ b.year from years)
    rw [daysBeforeYear_succ rangeA.1, ← whole] at between
    omega
  · have rest := daysBeforeMonth_mono a.year (show 1 ≤ a.month + 1 by omega)
      (show a.month + 1 ≤ b.month from months)
    rw [← years]
    omega
  · rw [← years, ← months]
    omega

/-! ## Adding days -/

/-- `d + timedelta(days=count)`, `none` past `date.max`. -/
def addDays (d : Date) : Nat → Option Date
  | 0 => some d
  | count + 1 => (addDays d count).bind next

/-- `d - timedelta(days=count)`, `none` before `date.min`. -/
def subDays (d : Date) : Nat → Option Date
  | 0 => some d
  | count + 1 => (subDays d count).bind prev

theorem toOrdinal_addDays {d e : Date} {count : Nat} (shifted : d.addDays count = some e) :
    e.toOrdinal = d.toOrdinal + count := by
  induction count generalizing e with
  | zero =>
    cases shifted
    rfl
  | succ count ih =>
    obtain ⟨m, before, last⟩ := Option.bind_eq_some_iff.mp shifted
    rw [toOrdinal_next last, ih before]
    rfl

theorem toOrdinal_subDays {d e : Date} {count : Nat} (shifted : d.subDays count = some e) :
    d.toOrdinal = e.toOrdinal + count := by
  induction count generalizing e with
  | zero =>
    cases shifted
    rfl
  | succ count ih =>
    obtain ⟨m, before, last⟩ := Option.bind_eq_some_iff.mp shifted
    rw [ih before, toOrdinal_prev last]
    omega

/-! ## Ends of months -/

/-- The date is the last day of its month. -/
def IsMonthEnd (d : Date) : Prop := d.day = daysInMonth d.year d.month

instance (d : Date) : Decidable d.IsMonthEnd := by
  unfold IsMonthEnd
  infer_instance

/-- Months from January of year zero. -/
def monthIndex (d : Date) : Nat := 12 * d.year + (d.month - 1)

/-- The last day of the month with this index, in the years a date can have. -/
def monthEnd (index : Nat) (first : 12 ≤ index) (last : index < 120000) : Date where
  year := index / 12
  month := index % 12 + 1
  day := daysInMonth (index / 12) (index % 12 + 1)
  valid := ⟨by omega, by omega, by omega, by omega, daysInMonth_pos _ _, le_refl _⟩

theorem monthEnd_isMonthEnd {index : Nat} (first : 12 ≤ index) (last : index < 120000) :
    (monthEnd index first last).IsMonthEnd := rfl

theorem monthIndex_monthEnd {index : Nat} (first : 12 ≤ index) (last : index < 120000) :
    (monthEnd index first last).monthIndex = index := by
  show 12 * (index / 12) + (index % 12 + 1 - 1) = index
  omega

theorem monthIndex_bounds (d : Date) : 12 ≤ d.monthIndex ∧ d.monthIndex < 120000 := by
  have range := d.valid
  unfold monthIndex
  omega

theorem year_of_monthIndex (d : Date) : d.year = d.monthIndex / 12 := by
  have range := d.valid
  unfold monthIndex
  omega

theorem month_of_monthIndex (d : Date) : d.month = d.monthIndex % 12 + 1 := by
  have range := d.valid
  unfold monthIndex
  omega

/-- Ends of months compare by their months. -/
theorem lt_iff_monthIndex {a b : Date} (endA : a.IsMonthEnd) (endB : b.IsMonthEnd) :
    a < b ↔ a.monthIndex < b.monthIndex := by
  have rangeA := a.valid
  have rangeB := b.valid
  rw [lt_iff]
  unfold monthIndex
  constructor
  · rintro (years | ⟨years, months | ⟨months, days⟩⟩)
    · omega
    · omega
    · rw [endA, endB, years, months] at days
      omega
  · intro less
    omega

/-- The ordinal of the last day of the month with this index. -/
def endOrdinal (index : Nat) : Nat :=
  daysBeforeYear (index / 12) + daysBeforeMonth (index / 12) (index % 12 + 2)

theorem toOrdinal_of_isMonthEnd {d : Date} (last : d.IsMonthEnd) :
    d.toOrdinal = endOrdinal d.monthIndex := by
  have months := daysBeforeMonth_succ d.year d.valid.2.2.1
  have next : d.monthIndex % 12 + 2 = d.month + 1 := by
    have := d.month_of_monthIndex
    omega
  rw [endOrdinal, toOrdinal, ← d.year_of_monthIndex, next, months, last]
  omega

theorem endOrdinal_succ {index : Nat} (first : 12 ≤ index) :
    endOrdinal (index + 1) = endOrdinal index +
      daysInMonth ((index + 1) / 12) ((index + 1) % 12 + 1) := by
  unfold endOrdinal
  by_cases december : index % 12 = 11
  · have year : (index + 1) / 12 = index / 12 + 1 := by omega
    have month : (index + 1) % 12 = 0 := by omega
    have january := daysBeforeMonth_succ (index / 12 + 1) (le_refl 1)
    rw [daysBeforeMonth_one] at january
    rw [year, month, december, daysBeforeMonth_thirteen,
      daysBeforeYear_succ (show 1 ≤ index / 12 by omega), january, Nat.zero_add, Nat.zero_add]
  · have year : (index + 1) / 12 = index / 12 := by omega
    have month : (index + 1) % 12 = index % 12 + 1 := by omega
    have succ := daysBeforeMonth_succ (index / 12) (show 1 ≤ index % 12 + 2 by omega)
    rw [year, month, Nat.add_right_comm, succ, Nat.add_assoc]

/-- The days of a month in a leap year, counted from month zero. -/
def longMonth (month : Nat) : Nat := daysInMonth 2024 (month % 12 + 1)

/-- The days of a month in a common year, counted from month zero. -/
def shortMonth (month : Nat) : Nat := daysInMonth 2023 (month % 12 + 1)

theorem daysInMonth_le (year month : Nat) :
    daysInMonth 2023 month ≤ daysInMonth year month ∧
      daysInMonth year month ≤ daysInMonth 2024 month := by
  have common : isLeap 2023 = false := by decide
  have leap : isLeap 2024 = true := by decide
  simp only [daysInMonth, common, leap]
  cases isLeap year <;> split_ifs <;> simp_all

/-- The days of `count` successive months lie between their days in common and in leap
    years. -/
theorem endOrdinal_add {index : Nat} (first : 12 ≤ index) (count : Nat) :
    endOrdinal index + ((List.range count).map fun k => shortMonth (index % 12 + 1 + k)).sum ≤
        endOrdinal (index + count) ∧
      endOrdinal (index + count) ≤
        endOrdinal index + ((List.range count).map fun k => longMonth (index % 12 + 1 + k)).sum := by
  induction count with
  | zero => simp
  | succ count ih =>
    have bounds := daysInMonth_le ((index + count + 1) / 12) ((index + count + 1) % 12 + 1)
    have month : (index % 12 + 1 + count) % 12 = (index + count + 1) % 12 := by omega
    have step := endOrdinal_succ (show 12 ≤ index + count by omega)
    simp only [List.range_succ, List.map_append, List.map_singleton, List.sum_append,
      List.sum_singleton, shortMonth, longMonth, month] at ih ⊢
    rw [← Nat.add_assoc index count 1]
    omega

end Date

end CovenantRadar
