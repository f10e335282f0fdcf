import CovenantRadar.Python.Datetime
import CovenantRadar.Python.DecimalContext

/-!
# Numbers and timestamps read from text

`Decimal(text)` and `datetime.fromisoformat(text)`, and the values they read back from the
texts `format(d, "f")` and `isoformat()` write.
-/

namespace CovenantRadar

namespace Text

/-- A character `\d` matches. -/
def isDecimal (c : Char) : Bool := (decimal c).isSome

/-- The number that decimal digits of any script write. -/
def digitsValue (digits : Text) : Nat :=
  digits.foldl (fun value c => 10 * value + (decimal c).getD 0) 0

theorem decimal_of_isDigit {c : Char} (digit : c.isDigit = true) :
    decimal c = some (c.toNat - 48) := by
  simp only [Char.isDigit, Bool.and_eq_true, decide_eq_true_eq] at digit
  have low : 48 ≤ c.toNat := by exact_mod_cast UInt32.le_iff_toNat_le.mp digit.1
  have high : c.toNat ≤ 57 := by exact_mod_cast UInt32.le_iff_toNat_le.mp digit.2
  have first : decimalZeros.find? (fun first => first ≤ c.toNat && c.toNat < first + 10) =
      some 48 := by
    rw [decimalZeros, List.find?_cons_of_pos (by simp; omega)]
  rw [decimal, first]
  rfl

theorem isDecimal_of_isDigit {c : Char} (digit : c.isDigit = true) : isDecimal c = true := by
  rw [isDecimal, decimal_of_isDigit digit]
  rfl

theorem digitsValue_eq {digits : Text} (ascii : ∀ c ∈ digits, c.isDigit = true) :
    digitsValue digits = Nat.ofDigitChars 10 digits 0 := by
  have fold : ∀ start, digits.foldl (fun value c => 10 * value + (decimal c).getD 0) start =
      Nat.ofDigitChars 10 digits start := by
    induction digits with
    | nil => exact fun _ => rfl
    | cons c digits ih =>
      intro start
      rw [List.foldl_cons, Nat.ofDigitChars_cons, decimal_of_isDigit (ascii c List.mem_cons_self),
        ih fun d member => ascii d (List.mem_cons_of_mem _ member)]
      rfl
  exact fold 0

/-- The exponent part of a number, empty or `E` with digits. -/
def exponentPart : Text → Option Int
  | [] => some 0
  | mark :: rest =>
    if mark = 'e' ∨ mark = 'E' then
      let (negative, digits) := match rest with
        | '-' :: digits => (true, digits)
        | '+' :: digits => (false, digits)
        | digits => (false, digits)
      if digits = [] ∨ digits.any (fun c => !isDecimal c) then none
      else some (if negative then -(digitsValue digits : Int) else digitsValue digits)
    else none

end Text

namespace Decimal

/-- `Decimal(text)` past the sign. -/
def ofUnsigned (negative : Bool) (unsigned : Text) : Option Decimal :=
  let whole := unsigned.takeWhile Text.isDecimal
  let (fraction, rest) := match unsigned.dropWhile Text.isDecimal with
    | '.' :: rest => (rest.takeWhile Text.isDecimal, rest.dropWhile Text.isDecimal)
    | rest => ([], rest)
  if whole = [] ∧ fraction = [] then none
  else (Text.exponentPart rest).map fun exponent =>
    ⟨negative, Text.digitsValue (whole ++ fraction), exponent - fraction.length⟩

/-- `Decimal(text)`, and `none` where it raises or the value is not finite. -/
def ofText (text : Text) : Option Decimal :=
  match (Text.strip text).filter (· ≠ '_') with
  | '-' :: rest => ofUnsigned true rest
  | '+' :: rest => ofUnsigned false rest
  | rest => ofUnsigned false rest

/-- The number as `format(d, "f")` keeps it: without a positive exponent. -/
def plain (d : Decimal) : Decimal :=
  if 0 < d.exponent then ⟨d.negative, d.coefficient * 10 ^ d.exponent.toNat, 0⟩ else d

theorem plain_value (d : Decimal) : d.plain.value = d.value := by
  unfold plain
  split_ifs with large
  · have power : (10 : ℚ) ^ d.exponent.toNat = 10 ^ d.exponent := by
      rw [← zpow_natCast, Int.toNat_of_nonneg (le_of_lt large)]
    unfold value magnitude
    push_cast
    rw [power]
    simp
  · rfl

theorem plain_fixed (d : Decimal) : d.plain.fixed = d.fixed := by
  unfold plain
  split_ifs with large
  · rw [fixed_eq, fixed_eq, fixedMagnitude, fixedMagnitude, if_pos (le_refl 0),
      if_pos (le_of_lt large)]
    simp
  · rfl

theorem mem_fixed {d : Decimal} {c : Char} (member : c ∈ d.fixed) :
    c.isDigit = true ∨ c = '-' ∨ c = '.' := by
  rw [fixed_eq, List.mem_append] at member
  rcases member with sign | digit
  · cases flag : d.negative with
    | true => simp_all
    | false => simp_all
  · unfold fixedMagnitude at digit
    split_ifs at digit with whole
    · exact Or.inl (Text.isDigit_of_mem_ofNat digit)
    · rcases List.mem_append.mp digit with high | low
      · exact Or.inl (Text.isDigit_of_mem_ofNat high)
      · rcases List.mem_cons.mp low with point | low
        · exact Or.inr (Or.inr point)
        · exact Or.inl (Text.isDigit_of_mem_zeroPad low)

theorem isSpace_of_isDigit {c : Char} (digit : c.isDigit = true) : Text.isSpace c = false := by
  simp only [Char.isDigit, Bool.and_eq_true, decide_eq_true_eq] at digit
  have low : 48 ≤ c.toNat := by exact_mod_cast UInt32.le_iff_toNat_le.mp digit.1
  have high : c.toNat ≤ 57 := by exact_mod_cast UInt32.le_iff_toNat_le.mp digit.2
  simp [Text.isSpace]
  omega

/-- Nothing is stripped from a number in fixed point. -/
theorem cleaned_fixed (d : Decimal) : (Text.strip d.fixed).filter (· ≠ '_') = d.fixed := by
  have starts : Text.startsVisible d.fixed = true := by
    have ends := d.endsVisible_fixed
    cases text : d.fixed with
    | nil =>
      rw [text] at ends
      cases ends
    | cons c rest =>
      rcases mem_fixed (text ▸ List.mem_cons_self (a := c) (l := rest)) with digit | rfl | rfl
      · simp [Text.startsVisible, isSpace_of_isDigit digit]
      · rfl
      · rfl
  rw [Text.strip_eq_self starts d.endsVisible_fixed, List.filter_eq_self]
  intro c member
  rcases mem_fixed member with digit | rfl | rfl
  · refine decide_eq_true ?_
    rintro rfl
    cases digit
  · decide
  · decide

/-- A run of digits ends where a character is none. -/
theorem span_digits {digits rest : Text} (ascii : ∀ c ∈ digits, c.isDigit = true)
    (ends : ∀ c ∈ rest.head?, Text.isDecimal c = false) :
    (digits ++ rest).takeWhile Text.isDecimal = digits ∧
      (digits ++ rest).dropWhile Text.isDecimal = rest := by
  have all : ∀ c ∈ digits, Text.isDecimal c = true :=
    fun c member => Text.isDecimal_of_isDigit (ascii c member)
  rw [List.takeWhile_append_of_pos all, List.dropWhile_append_of_pos all]
  cases rest with
  | nil => simp
  | cons c rest =>
    have stop : Text.isDecimal c = false := ends c rfl
    simp [stop]

theorem ofUnsigned_fixedMagnitude (d : Decimal) (negative : Bool) :
    ofUnsigned negative d.fixedMagnitude = some { d.plain with negative := negative } := by
  unfold fixedMagnitude
  by_cases whole : 0 ≤ d.exponent
  · have digits : ∀ c ∈ Text.ofNat (d.coefficient * 10 ^ d.exponent.toNat), c.isDigit = true :=
      fun c member => Text.isDigit_of_mem_ofNat member
    obtain ⟨front, back⟩ := @span_digits _ [] digits (by simp)
    rw [List.append_nil] at front back
    have read : Text.digitsValue (Text.ofNat (d.coefficient * 10 ^ d.exponent.toNat)) =
        d.coefficient * 10 ^ d.exponent.toNat := by
      rw [Text.digitsValue_eq digits]
      simp [Text.ofNat, Nat.ofDigitChars_ten_toDigits]
    rw [if_pos whole]
    simp only [ofUnsigned, front, back, Text.ofNat_ne_nil, false_and, if_false, List.append_nil,
      Text.exponentPart, Option.map_some, read]
    unfold plain
    split_ifs with large
    · simp
    · have zero : d.exponent = 0 := by omega
      simp [zero]
  · -- the places after the point are written out in full
    set places := (-d.exponent).toNat with count
    set high := Text.ofNat (d.coefficient / 10 ^ places)
    set low := Text.zeroPad places (d.coefficient % 10 ^ places)
    have digits : ∀ c ∈ high, c.isDigit = true := fun c member => Text.isDigit_of_mem_ofNat member
    have digits' : ∀ c ∈ low, c.isDigit = true :=
      fun c member => Text.isDigit_of_mem_zeroPad member
    have width : low.length = places :=
      Text.length_zeroPad (by omega) (Nat.mod_lt _ (by positivity))
    obtain ⟨front, back⟩ := @span_digits _ ('.' :: low) digits (by
      intro c first
      cases first
      decide)
    obtain ⟨front', back'⟩ := @span_digits _ [] digits' (by simp)
    rw [List.append_nil] at front' back'
    have read : Text.digitsValue (high ++ low) = d.coefficient := by
      rw [Text.digitsValue_eq fun c member =>
          (List.mem_append.mp member).elim (digits c) (digits' c),
        Nat.ofDigitChars_append, Nat.ofDigitChars_eq_ofDigitChars_zero, width,
        Text.ofDigitChars_zeroPad]
      simp only [high, Text.ofNat, Nat.ofDigitChars_ten_toDigits]
      exact Nat.div_add_mod _ _
    have exponent : (0 : ℤ) - places = d.exponent := by omega
    have same : d.plain = d := if_neg (by omega)
    rw [if_neg whole, same]
    simp only [ofUnsigned, front, back, front', back', Text.ofNat_ne_nil, false_and, if_false,
      Text.exponentPart, Option.map_some, read, width, exponent, high]

theorem fixedMagnitude_cons (d : Decimal) :
    ∃ c rest, d.fixedMagnitude = c :: rest ∧ c.isDigit = true := by
  have first : ∀ n rest, ∃ c tail, Text.ofNat n ++ rest = c :: tail ∧ c.isDigit = true := by
    intro n rest
    cases digits : Text.ofNat n with
    | nil => exact absurd digits (Text.ofNat_ne_nil n)
    | cons c tail =>
      exact ⟨c, tail ++ rest, rfl, Text.isDigit_of_mem_ofNat (digits ▸ List.mem_cons_self)⟩
  unfold fixedMagnitude
  split_ifs
  · simpa using first (d.coefficient * 10 ^ d.exponent.toNat) []
  · exact first _ _

/-- The text is read back as the number it was written from. -/
theorem ofText_fixed (d : Decimal) : ofText d.fixed = some d.plain := by
  have unsigned := ofUnsigned_fixedMagnitude d
  have same : ({ d.plain with negative := d.negative } : Decimal) = d.plain := by
    unfold plain
    split_ifs <;> rfl
  rw [ofText, cleaned_fixed, fixed_eq]
  cases flag : d.negative with
  | true =>
    rw [flag] at same
    simp only [if_true, List.cons_append, List.nil_append, unsigned, same]
  | false =>
    rw [flag] at same
    rw [if_neg (by simp), List.nil_append]
    obtain ⟨c, rest, text, digit⟩ := d.fixedMagnitude_cons
    have minus : c ≠ '-' := by
      rintro rfl
      cases digit
    have plus : c ≠ '+' := by
      rintro rfl
      cases digit
    rw [text]
    split
    · rename_i same
      exact absurd (List.cons.inj same).1 minus
    · rename_i same
      exact absurd (List.cons.inj same).1 plus
    · rw [← text, unsigned, same]

end Decimal

/-! ## Timestamps -/

/-- A number of a fixed count of ASCII digits, and the text after it. -/
def Text.readDigits (width : Nat) (text : Text) : Option (Nat × Text) :=
  if width ≤ text.length ∧ (text.take width).all Char.isDigit then
    some (Nat.ofDigitChars 10 (text.take width) 0, text.drop width)
  else none

/-- The text after an expected character. -/
def Text.expect (c : Char) : Text → Option Text
  | [] => none
  | d :: rest => if d = c then some rest else none

theorem Text.readDigits_zeroPad {width n : Nat} (positive : 0 < width) (small : n < 10 ^ width)
    (rest : Text) : readDigits width (zeroPad width n ++ rest) = some (n, rest) := by
  have length := length_zeroPad positive small
  have front : (zeroPad width n ++ rest).take width = zeroPad width n :=
    List.take_left' length
  have back : (zeroPad width n ++ rest).drop width = rest := List.drop_left' length
  have digits : (zeroPad width n).all Char.isDigit = true :=
    List.all_eq_true.mpr fun c member => isDigit_of_mem_zeroPad member
  rw [readDigits, front, back, if_pos ⟨by rw [List.length_append]; omega, digits⟩,
    ofDigitChars_zeroPad]

@[simp] theorem Text.expect_cons (c : Char) (rest : Text) : expect c (c :: rest) = some rest :=
  if_pos rfl

/-- `date(year, month, day)`, and `none` where it raises. -/
def Date.ofParts (year month day : Nat) : Option Date :=
  if valid : 1 ≤ year ∧ year ≤ 9999 ∧ 1 ≤ month ∧ month ≤ 12 ∧ 1 ≤ day ∧
      day ≤ daysInMonth year month then
    some ⟨year, month, day, valid⟩
  else none

/-- `YYYY-MM-DD`. -/
def readDate (text : Text) : Option (Date × Text) := do
  let (year, text) ← Text.readDigits 4 text
  let text ← Text.expect '-' text
  let (month, text) ← Text.readDigits 2 text
  let text ← Text.expect '-' text
  let (day, text) ← Text.readDigits 2 text
  let date ← Date.ofParts year month day
  return (date, text)

/-- `HH:MM:SS`, in seconds. -/
def readClock (text : Text) : Option (Nat × Text) := do
  let (hour, text) ← Text.readDigits 2 text
  let text ← Text.expect ':' text
  let (minute, text) ← Text.readDigits 2 text
  let text ← Text.expect ':' text
  let (second, text) ← Text.readDigits 2 text
  if hour < 24 ∧ minute < 60 ∧ second < 60 then
    return ((hour * 60 + minute) * 60 + second, text)
  else none

/-- The microseconds after the seconds, if any. -/
def readFraction : Text → Option (Nat × Text)
  | '.' :: text => Text.readDigits 6 text
  | text => some (0, text)

/-- The offset after the time: none, `Z`, or a signed `HH:MM` below a day. -/
def readOffset : Text → Option (Option Int)
  | [] => some none
  | sign :: text =>
    if sign = 'Z' ∧ text = [] then some (some 0)
    else if sign = '+' ∨ sign = '-' then do
      let (hours, text) ← Text.readDigits 2 text
      let text ← Text.expect ':' text
      let (minutes, text) ← Text.readDigits 2 text
      let offset : Int := (hours * 60 + minutes) * 60 * 10 ^ 6
      if text = [] ∧ hours < 24 ∧ minutes < 60 then
        return some (if sign = '-' then -offset else offset)
      else none
    else none

/-- The microsecond of the day. -/
def clockMicrosecond (second micro : Nat) : Nat := second * 10 ^ 6 + micro

/-- The datetime at this microsecond of the day, if it is one. -/
def Datetime.ofClock (date : Date) (microsecond : Nat) (offset : Option Int) : Option Datetime :=
  if bounds : microsecond < dayMicroseconds ∧ ∀ o ∈ offset, o.natAbs < dayMicroseconds then
    some ⟨date, microsecond, offset, bounds.1, bounds.2⟩
  else none

/-- `datetime.fromisoformat(text)` on the extended format with seconds, which `isoformat()`
    writes; the shorter formats are left out. -/
def fromIsoformat (text : Text) : Option Datetime :=
  (readDate text).bind fun date =>
    (Text.expect 'T' date.2).bind fun clock =>
      (readClock clock).bind fun time =>
        (readFraction time.2).bind fun fraction =>
          (readOffset fraction.2).bind fun offset =>
            Datetime.ofClock date.1 (clockMicrosecond time.1 fraction.1) offset

theorem readDate_isoformat (date : Date) (rest : Text) :
    readDate (date.isoformat ++ rest) = some (date, rest) := by
  have valid := date.valid
  unfold readDate Date.isoformat
  rw [List.append_assoc, Text.readDigits_zeroPad (by decide) (by omega), List.cons_append,
    List.append_assoc]
  simp only [Option.bind_eq_bind, Option.bind_some, Text.expect_cons]
  rw [Text.readDigits_zeroPad (by decide) (by omega), List.cons_append]
  simp only [Option.bind_some, Text.expect_cons]
  rw [Text.readDigits_zeroPad (by decide) date.day_lt]
  simp only [Option.bind_some, Date.ofParts, dif_pos valid]
  rfl

/-- `date.fromisoformat(text)` on `YYYY-MM-DD`; the shorter formats are left out. -/
def isoDate (text : Text) : Option Date :=
  (readDate text).bind fun read => if read.2 = [] then some read.1 else none

theorem isoDate_isoformat (date : Date) : isoDate date.isoformat = some date := by
  have read := readDate_isoformat date []
  rw [List.append_nil] at read
  unfold isoDate
  rw [read]
  rfl

theorem readClock_zeroPad {second : Nat} (inDay : second < 86400) (rest : Text) :
    readClock (Text.zeroPad 2 (second / 3600) ++ ':' :: (Text.zeroPad 2 (second / 60 % 60) ++
      ':' :: (Text.zeroPad 2 (second % 60) ++ rest))) = some (second, rest) := by
  unfold readClock
  rw [Text.readDigits_zeroPad (by decide) (by omega)]
  simp only [Option.bind_eq_bind, Option.bind_some, Text.expect_cons]
  rw [Text.readDigits_zeroPad (by decide) (by omega)]
  simp only [Option.bind_some, Text.expect_cons]
  rw [Text.readDigits_zeroPad (by decide) (by omega)]
  simp only [Option.bind_some]
  rw [if_pos (by omega)]
  have total : (second / 3600 * 60 + second / 60 % 60) * 60 + second % 60 = second := by omega
  rw [total]
  rfl

/-- A timestamp is read part by part. -/
theorem fromIsoformat_eq {text afterDate clock afterClock zone : Text} {date : Date}
    {second micro : Nat} {offset : Option Int} (dated : readDate text = some (date, afterDate))
    (marked : Text.expect 'T' afterDate = some clock)
    (timed : readClock clock = some (second, afterClock))
    (fraction : readFraction afterClock = some (micro, zone))
    (shifted : readOffset zone = some offset) :
    fromIsoformat text = Datetime.ofClock date (clockMicrosecond second micro) offset := by
  rw [fromIsoformat, dated, Option.bind_some, marked, Option.bind_some, timed, Option.bind_some,
    fraction, Option.bind_some, shifted, Option.bind_some]

/-- The offset of UTC. -/
def utcZone : Text := "+00:00".toList

theorem readOffset_utcZone : readOffset utcZone = some (some 0) := by decide

theorem readFraction_utcZone : readFraction utcZone = some (0, utcZone) := by decide

namespace UtcInstant

/-- `isoformat()` of a UTC value, which leaves out a fraction of zero. -/
def isoformatAuto (instant : UtcInstant) : Text :=
  let second := instant.microsecond / 10 ^ 6
  let micro := instant.microsecond % 10 ^ 6
  instant.date.isoformat ++ 'T' :: (Text.zeroPad 2 (second / 3600) ++
    ':' :: (Text.zeroPad 2 (second / 60 % 60) ++ ':' :: (Text.zeroPad 2 (second % 60) ++
      ((if micro = 0 then [] else '.' :: Text.zeroPad 6 micro) ++ utcZone))))

theorem utc_offsetBound : ∀ offset ∈ (some 0 : Option Int), offset.natAbs < dayMicroseconds := by
  rintro offset ⟨⟩
  decide

/-- The instant as an aware datetime. -/
def aware (instant : UtcInstant) : Datetime where
  date := instant.date
  microsecond := instant.microsecond
  utcoffset := some 0
  inDay := instant.inDay
  offsetBound := utc_offsetBound

theorem ofClock_aware (instant : UtcInstant) :
    Datetime.ofClock instant.date instant.microsecond (some 0) = some instant.aware :=
  dif_pos ⟨instant.inDay, instant.aware.offsetBound⟩

theorem readFraction_point {micro : Nat} (small : micro < 10 ^ 6) (rest : Text) :
    readFraction ('.' :: Text.zeroPad 6 micro ++ rest) = some (micro, rest) := by
  rw [List.cons_append]
  exact Text.readDigits_zeroPad (by decide) small rest

theorem fromIsoformat_isoformatAuto (instant : UtcInstant) :
    fromIsoformat instant.isoformatAuto = some instant.aware := by
  have day : instant.microsecond < 86400 * 10 ^ 6 := instant.inDay
  have total : clockMicrosecond (instant.microsecond / 10 ^ 6) (instant.microsecond % 10 ^ 6) =
      instant.microsecond := Nat.div_add_mod' _ _
  have small : instant.microsecond % 10 ^ 6 < 10 ^ 6 := Nat.mod_lt _ (by decide)
  have clock : instant.microsecond / 10 ^ 6 < 86400 := by omega
  have aware := ofClock_aware instant
  rw [← total] at aware
  unfold isoformatAuto
  generalize instant.microsecond / 10 ^ 6 = second at aware clock
  generalize instant.microsecond % 10 ^ 6 = micro at aware small
  have fraction : readFraction ((if micro = 0 then [] else '.' :: Text.zeroPad 6 micro) ++
      utcZone) = some (micro, utcZone) := by
    by_cases whole : micro = 0
    · rw [if_pos whole, whole]
      exact readFraction_utcZone
    · rw [if_neg whole]
      exact readFraction_point small utcZone
  rw [fromIsoformat_eq (readDate_isoformat instant.date _) (Text.expect_cons 'T' _)
    (readClock_zeroPad clock _) fraction readOffset_utcZone, aware]

theorem astimezone_aware (instant : UtcInstant) : instant.aware.astimezone 0 = some instant := by
  have day := instant.inDay
  have back : ((instant.microsecond : ℤ) % dayMicroseconds).toNat = instant.microsecond := by
    rw [Int.emod_eq_of_lt (by omega) (by exact_mod_cast day)]
    rfl
  unfold Datetime.astimezone aware
  simp only [sub_zero]
  rw [if_neg (by omega), if_pos (by exact_mod_cast day)]
  exact congrArg some (UtcInstant.ext rfl back)

end UtcInstant

end CovenantRadar
