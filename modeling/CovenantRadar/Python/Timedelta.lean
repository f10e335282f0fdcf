import CovenantRadar.Python.Calendar
import Mathlib

/-!
# Instants and durations

An instant as the microseconds from the start of the calendar, and an instant shifted by a
`timedelta`: Python raises `OverflowError` outside the years 1 to 9999.
-/

namespace CovenantRadar

namespace UtcInstant

/-- The microseconds from the start of the calendar to an instant. -/
def ticks (instant : UtcInstant) : Int :=
  instant.date.toOrdinal * dayMicroseconds + instant.microsecond

end UtcInstant

theorem emod_inDay (shifted : Int) : (shifted % dayMicroseconds).toNat < dayMicroseconds := by
  have positive : (0 : Int) < dayMicroseconds := by decide
  have := Int.emod_lt_of_pos shifted positive
  omega

namespace UtcInstant

/-- `instant + timedelta(microseconds=delta)`; `none` where Python raises `OverflowError`. -/
def plus (instant : UtcInstant) (delta : Int) : Option UtcInstant :=
  let shifted : Int := instant.microsecond + delta
  let days := shifted / dayMicroseconds
  let date := if 0 ≤ days then instant.date.addDays days.toNat
    else instant.date.subDays days.natAbs
  date.map fun date => ⟨date, (shifted % dayMicroseconds).toNat, emod_inDay shifted⟩

theorem ticks_plus {instant shifted : UtcInstant} {delta : Int}
    (moved : instant.plus delta = some shifted) : shifted.ticks = instant.ticks + delta := by
  obtain ⟨date, found, rfl⟩ := Option.map_eq_some_iff.mp moved
  have positive : (0 : Int) < dayMicroseconds := by decide
  have nonneg := Int.emod_nonneg (instant.microsecond + delta) positive.ne'
  have parts := Int.emod_add_mul_ediv (instant.microsecond + delta) dayMicroseconds
  have ordinal : (date.toOrdinal : Int) =
      instant.date.toOrdinal + (instant.microsecond + delta) / dayMicroseconds := by
    split_ifs at found with forward
    · have := Date.toOrdinal_addDays found
      omega
    · have := Date.toOrdinal_subDays found
      omega
  simp only [ticks, ordinal]
  rw [Int.toNat_of_nonneg nonneg, add_mul]
  linarith

end UtcInstant

/-! ## In range -/

namespace Date

theorem toOrdinal_pos (d : Date) : 1 ≤ d.toOrdinal := by
  have range := d.valid
  unfold toOrdinal
  omega

theorem exists_prev {d : Date} (later : 1 < d.toOrdinal) : ∃ e, d.prev = some e := by
  unfold prev
  split_ifs with inMonth inYear inRange
  · exact ⟨_, rfl⟩
  · exact ⟨_, rfl⟩
  · exact ⟨_, rfl⟩
  · have range := d.valid
    have year : d.year = 1 := by omega
    have month : d.month = 1 := by omega
    have day : d.day = 1 := by omega
    have first : d.toOrdinal = 1 := by
      simp [toOrdinal, year, month, day, daysBeforeYear, daysBeforeMonth]
    omega

theorem exists_subDays {d : Date} {count : Nat} (within : count < d.toOrdinal) :
    ∃ e, d.subDays count = some e := by
  induction count with
  | zero => exact ⟨d, rfl⟩
  | succ count ih =>
    obtain ⟨m, found⟩ := ih (by omega)
    have := toOrdinal_subDays found
    obtain ⟨e, before⟩ := exists_prev (show 1 < m.toOrdinal by omega)
    exact ⟨e, Option.bind_eq_some_iff.mpr ⟨m, found, before⟩⟩

end Date

namespace UtcInstant

theorem dayMicroseconds_le_ticks (instant : UtcInstant) :
    (dayMicroseconds : Int) ≤ instant.ticks := by
  have scaled := Nat.mul_le_mul_right dayMicroseconds (Date.toOrdinal_pos instant.date)
  unfold ticks
  zify at scaled
  omega

/-- Going back stays in range down to the first day of the calendar. -/
theorem exists_plus_of_nonpos {instant : UtcInstant} {delta : Int} (back : delta ≤ 0)
    (within : (dayMicroseconds : Int) ≤ instant.ticks + delta) :
    ∃ moved, instant.plus delta = some moved := by
  have positive : (0 : Int) < dayMicroseconds := by decide
  have inDay := instant.inDay
  have parts := Int.emod_add_mul_ediv (instant.microsecond + delta) dayMicroseconds
  have bound := Int.emod_lt_of_pos (instant.microsecond + delta) positive
  unfold plus
  simp only
  split_ifs with forward
  · have same : (instant.microsecond + delta) / dayMicroseconds = 0 := by
      apply Int.ediv_eq_zero_of_lt
      · by_contra negative
        have := Int.ediv_neg_of_neg_of_pos (not_le.mp negative) positive
        omega
      · omega
    rw [same]
    exact ⟨_, rfl⟩
  · have count : ((instant.microsecond + delta) / dayMicroseconds).natAbs <
        instant.date.toOrdinal := by
      unfold ticks at within
      zify
      rw [abs_of_neg (not_le.mp forward)]
      by_contra! far
      nlinarith
    obtain ⟨date, found⟩ := Date.exists_subDays count
    rw [found]
    exact ⟨_, rfl⟩

end UtcInstant

end CovenantRadar
