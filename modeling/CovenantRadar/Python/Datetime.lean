import CovenantRadar.Python.Scalars

/-!
# Aware datetimes

`datetime.datetime` with an offset from UTC, its conversion to UTC and the text
`isoformat(timespec="microseconds")` writes for a UTC instant.
-/

namespace CovenantRadar

namespace Date

/-- The day after, up to `date.max`. -/
def next (d : Date) : Option Date :=
  if inMonth : d.day < daysInMonth d.year d.month then
    some ⟨d.year, d.month, d.day + 1, by have := d.valid; omega⟩
  else if inYear : d.month < 12 then
    some ⟨d.year, d.month + 1, 1, by
      have := d.valid
      refine ⟨by omega, by omega, by omega, by omega, by omega, ?_⟩
      unfold daysInMonth
      split_ifs <;> omega⟩
  else if inRange : d.year < 9999 then
    some ⟨d.year + 1, 1, 1, by have := d.valid; simp [daysInMonth]; omega⟩
  else none

/-- The day before, down to `date.min`. -/
def prev (d : Date) : Option Date :=
  if inMonth : 1 < d.day then
    some ⟨d.year, d.month, d.day - 1, by have := d.valid; omega⟩
  else if inYear : 1 < d.month then
    some ⟨d.year, d.month - 1, daysInMonth d.year (d.month - 1), by
      have := d.valid
      refine ⟨by omega, by omega, by omega, by omega, ?_, le_refl _⟩
      unfold daysInMonth
      split_ifs <;> omega⟩
  else if inRange : 1 < d.year then
    some ⟨d.year - 1, 12, 31, by have := d.valid; simp [daysInMonth]; omega⟩
  else none

end Date

/-- Microseconds in a day. -/
def dayMicroseconds : Nat := 86400 * 10 ^ 6

/-- `datetime.datetime`: a date, the microsecond of the day, and `utcoffset()` in
    microseconds (`none` for a naive value). -/
structure Datetime where
  date : Date
  microsecond : Nat
  utcoffset : Option Int
  inDay : microsecond < dayMicroseconds
  offsetBound : ∀ offset ∈ utcoffset, offset.natAbs < dayMicroseconds
  deriving DecidableEq

/-- An instant in UTC, to the microsecond. -/
structure UtcInstant where
  date : Date
  microsecond : Nat
  inDay : microsecond < dayMicroseconds
  deriving DecidableEq

/-- `value.astimezone(UTC)`, for an aware value with this offset; `none` where
    Python raises `OverflowError`. -/
def Datetime.astimezone (value : Datetime) (offset : Int) : Option UtcInstant :=
  let shifted : Int := value.microsecond - offset
  let inDay : (shifted % dayMicroseconds).toNat < dayMicroseconds := by
    have positive : (0 : Int) < dayMicroseconds := by decide
    have := Int.emod_lt_of_pos shifted positive
    omega
  if shifted < 0 then
    value.date.prev.map fun date => ⟨date, (shifted % dayMicroseconds).toNat, inDay⟩
  else if shifted < dayMicroseconds then
    some ⟨value.date, (shifted % dayMicroseconds).toNat, inDay⟩
  else
    value.date.next.map fun date => ⟨date, (shifted % dayMicroseconds).toNat, inDay⟩

namespace UtcInstant

@[ext] theorem ext {a b : UtcInstant} (date : a.date = b.date)
    (microsecond : a.microsecond = b.microsecond) : a = b := by
  cases a
  cases b
  simp_all

/-- `isoformat(timespec="microseconds")` of a UTC value: `2026-01-05T09:30:00.000000+00:00`. -/
def isoformat (instant : UtcInstant) : Text :=
  let second := instant.microsecond / 10 ^ 6
  instant.date.isoformat ++ 'T' :: (Text.zeroPad 2 (second / 3600) ++
    ':' :: (Text.zeroPad 2 (second / 60 % 60) ++ ':' :: (Text.zeroPad 2 (second % 60) ++
      '.' :: (Text.zeroPad 6 (instant.microsecond % 10 ^ 6) ++ "+00:00".toList))))

/-- Two digits write any number below a hundred. -/
private theorem length_two {n : Nat} (small : n < 100) : (Text.zeroPad 2 n).length = 2 :=
  Text.length_zeroPad (by decide) (by omega)

theorem isoformat_injective : Function.Injective isoformat := by
  intro a b same
  have dayA : a.microsecond < 86400 * 10 ^ 6 := a.inDay
  have dayB : b.microsecond < 86400 * 10 ^ 6 := b.inDay
  obtain ⟨date, rest⟩ := List.append_inj same
    (by rw [Date.length_isoformat, Date.length_isoformat])
  obtain ⟨hour, rest⟩ := List.append_inj (List.cons.inj rest).2
    (by rw [length_two (by omega), length_two (by omega)])
  obtain ⟨minute, rest⟩ := List.append_inj (List.cons.inj rest).2
    (by rw [length_two (by omega), length_two (by omega)])
  obtain ⟨second, rest⟩ := List.append_inj (List.cons.inj rest).2
    (by rw [length_two (by omega), length_two (by omega)])
  have fraction := List.append_cancel_right (List.cons.inj rest).2
  have hour := Text.zeroPad_injective _ hour
  have minute := Text.zeroPad_injective _ minute
  have second := Text.zeroPad_injective _ second
  have fraction := Text.zeroPad_injective _ fraction
  exact UtcInstant.ext (Date.isoformat_injective date) (by omega)

/-- A UTC timestamp is written with digits and the marks `-`, `T`, `:`, `.`, `+`. -/
theorem not_mem_isoformat_of_lt {c : Char} (control : c.toNat < 32) (instant : UtcInstant) :
    c ∉ instant.isoformat := by
  have digits : ∀ width n, c ∉ Text.zeroPad width n := by
    intro width n member
    have digit := Text.isDigit_of_mem_zeroPad member
    simp only [Char.isDigit, Bool.and_eq_true, decide_eq_true_eq] at digit
    have low : (48 : Nat) ≤ c.toNat := digit.1
    omega
  have marks : ∀ mark ∈ ['-', 'T', ':', '.', '+', '0'], c ≠ mark := by
    rintro mark listed rfl
    revert control
    fin_cases listed <;> decide
  have suffix : c ∉ "+00:00".toList := by
    intro member
    have listed : ∀ d ∈ "+00:00".toList, d ∈ ['-', 'T', ':', '.', '+', '0'] :=
      forall_mem_of_all (by decide)
    exact marks c (listed c member) rfl
  simp only [isoformat, Date.isoformat, List.mem_append, List.mem_cons, digits, suffix,
    marks '-' (by decide), marks 'T' (by decide), marks ':' (by decide), marks '.' (by decide),
    or_self, not_false_eq_true]

end UtcInstant

end CovenantRadar
