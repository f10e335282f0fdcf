import CovenantRadar.Python.Text
import CovenantRadar.Misc.Framing
import Mathlib.Data.Prod.Lex
import Mathlib.Order.Basic
import Mathlib.Data.Rat.Defs
import Mathlib.Algebra.Order.Field.Rat

/-!
# UUIDs, calendar dates, decimals and floats

The scalar values of the standard library that the modelled modules read,
compare and write as text. Each carries its own range as a field, so a value
outside it cannot be built.
-/

namespace CovenantRadar

/-- `uuid.UUID`: its 128-bit integer. -/
structure Uuid where
  int : Nat
  small : int < 16 ^ 32
  deriving DecidableEq

namespace Uuid

@[ext] theorem ext {a b : Uuid} (same : a.int = b.int) : a = b := by
  cases a
  cases b
  simp_all

/-- `uuid.UUID(int=n)`, for an `n` of 128 bits. -/
def ofInt (n : Nat) : Uuid := ⟨n % 16 ^ 32, Nat.mod_lt _ (by decide)⟩

/-- `str(uuid)`: 32 lowercase hexadecimal digits grouped 8-4-4-4-12. -/
def str (u : Uuid) : Text :=
  let digits := Text.hex 32 u.int
  digits.take 8 ++ '-' :: (digits.drop 8).take 4 ++ '-' :: (digits.drop 12).take 4 ++
    '-' :: (digits.drop 16).take 4 ++ '-' :: digits.drop 20

private theorem filter_dash_of_hex {width n : Nat} {part : Text}
    (sub : part ⊆ Text.hex width n) : part.filter (· ≠ '-') = part := by
  rw [List.filter_eq_self]
  intro c member
  obtain ⟨d, small, rfl⟩ := Text.mem_hex (sub member)
  have table : ∀ x < 16, Nat.digitChar x ≠ '-' := by decide
  exact decide_eq_true (table d small)

/-- Dropping the dashes of `str(uuid)` gives the digits back. -/
theorem filter_dash_str (u : Uuid) : u.str.filter (· ≠ '-') = Text.hex 32 u.int := by
  have pieces : ∀ i j, ((Text.hex 32 u.int).drop i |>.take j).filter (· ≠ '-') =
      ((Text.hex 32 u.int).drop i).take j := fun i j =>
    filter_dash_of_hex (((List.take_sublist _ _).trans (List.drop_sublist _ _)).subset)
  have last : ((Text.hex 32 u.int).drop 20).filter (· ≠ '-') = (Text.hex 32 u.int).drop 20 :=
    filter_dash_of_hex (List.drop_sublist _ _).subset
  have first := pieces 0 8
  simp only [List.drop_zero] at first
  unfold str
  simp only [List.filter_append, List.filter_cons, first, pieces, last]
  simp only [ne_eq, not_true_eq_false, decide_false, Bool.false_eq_true, if_false]
  have rejoin : ∀ i j, ((Text.hex 32 u.int).drop i).take j ++ (Text.hex 32 u.int).drop (i + j) =
      (Text.hex 32 u.int).drop i := by
    intro i j
    rw [← List.drop_drop, List.take_append_drop]
  rw [List.append_assoc, List.append_assoc, List.append_assoc, rejoin 16 4, rejoin 12 4,
    rejoin 8 4, List.take_append_drop]

theorem str_injective : Function.Injective str := by
  intro a b same
  have digits := congrArg (List.filter (· ≠ '-')) same
  rw [filter_dash_str, filter_dash_str] at digits
  exact Uuid.ext (Text.hex_injOn a.small b.small digits)

/-- A UUID is written with hexadecimal digits and dashes. -/
theorem mem_str {u : Uuid} {c : Char} (member : c ∈ u.str) :
    c = '-' ∨ ∃ d < 16, c = Nat.digitChar d := by
  by_cases dash : c = '-'
  · exact Or.inl dash
  · have kept : c ∈ u.str.filter (· ≠ '-') := by simp [member, dash]
    rw [filter_dash_str] at kept
    exact Or.inr (Text.mem_hex kept)

/-- Those characters are printable ASCII. -/
theorem printable_of_mem_str {u : Uuid} {c : Char} (member : c ∈ u.str) :
    32 ≤ c.toNat ∧ c.toNat < 128 := by
  have table : ∀ d < 16, 32 ≤ (Nat.digitChar d).toNat ∧ (Nat.digitChar d).toNat < 128 := by decide
  rcases mem_str member with rfl | ⟨d, small, rfl⟩
  · decide
  · exact table d small

end Uuid

/-! ## Calendar dates -/

/-- `calendar.isleap`. -/
def isLeap (year : Nat) : Bool := year % 4 == 0 && (year % 100 != 0 || year % 400 == 0)

/-- `calendar.monthrange(year, month)[1]`. -/
def daysInMonth (year month : Nat) : Nat :=
  if month = 2 then if isLeap year then 29 else 28
  else if month = 4 ∨ month = 6 ∨ month = 9 ∨ month = 11 then 30 else 31

/-- `datetime.date`. -/
structure Date where
  year : Nat
  month : Nat
  day : Nat
  valid : 1 ≤ year ∧ year ≤ 9999 ∧ 1 ≤ month ∧ month ≤ 12 ∧
    1 ≤ day ∧ day ≤ daysInMonth year month
  deriving DecidableEq

namespace Date

@[ext] theorem ext {a b : Date} (year : a.year = b.year) (month : a.month = b.month)
    (day : a.day = b.day) : a = b := by
  cases a
  cases b
  simp_all

/-- Dates compare by year, then month, then day. -/
instance : LinearOrder Date :=
  LinearOrder.lift' (fun d => (toLex (d.year, toLex (d.month, d.day)) : ℕ ×ₗ ℕ ×ₗ ℕ)) (by
    intro a b same
    have parts := toLex.injective same
    simp only [Prod.mk.injEq, EmbeddingLike.apply_eq_iff_eq] at parts
    exact Date.ext parts.1 parts.2.1 parts.2.2)

/-- `date.isoformat()`, which is also `str(date)`. -/
def isoformat (d : Date) : Text :=
  Text.zeroPad 4 d.year ++ '-' :: (Text.zeroPad 2 d.month ++ '-' :: Text.zeroPad 2 d.day)

theorem day_lt (d : Date) : d.day < 10 ^ 2 := by
  have := d.valid
  unfold daysInMonth at this
  split_ifs at this <;> omega

theorem length_isoformat (d : Date) : d.isoformat.length = 10 := by
  have range := d.valid
  have year : (Text.zeroPad 4 d.year).length = 4 := Text.length_zeroPad (by decide) (by omega)
  have month : (Text.zeroPad 2 d.month).length = 2 :=
    Text.length_zeroPad (by decide) (by omega)
  have day : (Text.zeroPad 2 d.day).length = 2 := Text.length_zeroPad (by decide) d.day_lt
  simp [isoformat, year, month, day]

theorem isoformat_injective : Function.Injective isoformat := by
  intro a b same
  have rangeA := a.valid
  have rangeB := b.valid
  have years : (Text.zeroPad 4 a.year).length = (Text.zeroPad 4 b.year).length := by
    rw [Text.length_zeroPad (by decide) (by omega), Text.length_zeroPad (by decide) (by omega)]
  have months : (Text.zeroPad 2 a.month).length = (Text.zeroPad 2 b.month).length := by
    rw [Text.length_zeroPad (by decide) (by omega), Text.length_zeroPad (by decide) (by omega)]
  obtain ⟨year, rest⟩ := List.append_inj same years
  obtain ⟨month, day⟩ := List.append_inj (List.cons.inj rest).2 months
  exact Date.ext (Text.zeroPad_injective 4 year) (Text.zeroPad_injective 2 month)
    (Text.zeroPad_injective 2 (List.cons.inj day).2)

/-- Days of the years before `year`. -/
def daysBeforeYear (year : Nat) : Nat :=
  (year - 1) * 365 + (year - 1) / 4 - (year - 1) / 100 + (year - 1) / 400

/-- Days of the months of `year` before `month`. -/
def daysBeforeMonth (year month : Nat) : Nat :=
  ((List.range (month - 1)).map (fun i => daysInMonth year (i + 1))).sum

/-- `date.toordinal()`: day 1 is 0001-01-01. -/
def toOrdinal (d : Date) : Nat := daysBeforeYear d.year + daysBeforeMonth d.year d.month + d.day

/-- `date.max.toordinal()`. -/
def maxOrdinal : Nat := 3652059

end Date

/-! ## Decimals -/

/-- A finite `decimal.Decimal`: sign, coefficient and exponent. The special
    values are refused by every `is_finite` check of the modelled code. -/
structure Decimal where
  negative : Bool
  coefficient : Nat
  exponent : Int
  deriving DecidableEq, Repr

namespace Decimal

/-- The integer `value / 10 ^ unit`, for a `unit` not above the exponent. -/
def scaled (d : Decimal) (unit : Int) : Int :=
  (if d.negative then -1 else 1) * d.coefficient * 10 ^ (d.exponent - unit).toNat

/-- `Decimal.__eq__` on finite values: equal numbers, however they are written. -/
def numEq (a b : Decimal) : Bool :=
  let unit := min a.exponent b.exponent
  a.scaled unit == b.scaled unit

/-- `format(d, "f")`: fixed point, keeping the trailing zeros of the exponent. -/
def fixed (d : Decimal) : Text :=
  (if d.negative then ['-'] else []) ++
    if 0 ≤ d.exponent then
      Text.ofNat (d.coefficient * 10 ^ d.exponent.toNat)
    else
      let places := (-d.exponent).toNat
      Text.ofNat (d.coefficient / 10 ^ places) ++
        '.' :: Text.zeroPad places (d.coefficient % 10 ^ places)

/-- `str(d)`: plain notation for a non-positive exponent down to `1E-6`, scientific
    notation otherwise (`decimal` specification, to-scientific-string). -/
def str (d : Decimal) : Text :=
  let digits := Text.ofNat d.coefficient
  let left : Int := d.exponent + digits.length
  let dot : Int := if d.exponent ≤ 0 ∧ -6 < left then left else 1
  let body : Text :=
    if dot ≤ 0 then
      ['0', '.'] ++ List.replicate (-dot).toNat '0' ++ digits
    else if (digits.length : Int) ≤ dot then
      digits ++ List.replicate (dot - digits.length).toNat '0'
    else
      digits.take dot.toNat ++ '.' :: digits.drop dot.toNat
  let suffix : Text :=
    if left = dot then []
    else if 0 ≤ left - dot then 'E' :: '+' :: Text.ofNat (left - dot).toNat
    else 'E' :: '-' :: Text.ofNat (dot - left).toNat
  (if d.negative then ['-'] else []) ++ body ++ suffix

/-- `Decimal(n)` for an integer. -/
def ofInt (i : Int) : Decimal := ⟨decide (i < 0), i.natAbs, 0⟩

/-- `Decimal.__lt__` on finite values. -/
def lt (a b : Decimal) : Bool :=
  let unit := min a.exponent b.exponent
  a.scaled unit < b.scaled unit

/-- Rounds a coefficient half to even after its first `28` digits, as the default
    context does with every result. -/
def roundToContext (d : Decimal) : Decimal :=
  let surplus := (Text.ofNat d.coefficient).length - 28
  if surplus = 0 then d
  else
    let unit := 10 ^ surplus
    let below := d.coefficient / unit
    let gap := d.coefficient % unit
    let rounded := if 2 * gap < unit ∨ (2 * gap = unit ∧ below % 2 = 0) then below else below + 1
    { d with coefficient := rounded, exponent := d.exponent + surplus }

/-- `Decimal.__add__` on finite values in the default context. -/
def add (a b : Decimal) : Decimal :=
  let unit := min a.exponent b.exponent
  let total := a.scaled unit + b.scaled unit
  let negative := decide (total < 0) || (total == 0 && a.negative && b.negative)
  roundToContext ⟨negative, total.natAbs, unit⟩

/-- `sum(items, Decimal("0"))`. -/
def sum (items : List Decimal) : Decimal := items.foldl add ⟨false, 0, 0⟩

/-- The unsigned part of `format(d, "f")`. -/
def fixedMagnitude (d : Decimal) : Text :=
  if 0 ≤ d.exponent then Text.ofNat (d.coefficient * 10 ^ d.exponent.toNat)
  else
    Text.ofNat (d.coefficient / 10 ^ (-d.exponent).toNat) ++
      '.' :: Text.zeroPad (-d.exponent).toNat (d.coefficient % 10 ^ (-d.exponent).toNat)

theorem fixed_eq (d : Decimal) :
    d.fixed = (if d.negative then ['-'] else []) ++ d.fixedMagnitude := rfl

/-- A number in fixed point ends with a digit. -/
theorem endsVisible_fixed (d : Decimal) : Text.endsVisible d.fixed = true := by
  have digits : ∀ {c : Char}, c.isDigit = true → Text.isSpace c = false := by
    intro c digit
    simp only [Char.isDigit, Bool.and_eq_true, decide_eq_true_eq] at digit
    have low : 48 ≤ c.toNat := by exact_mod_cast UInt32.le_iff_toNat_le.mp digit.1
    have high : c.toNat ≤ 57 := by exact_mod_cast UInt32.le_iff_toNat_le.mp digit.2
    simp [Text.isSpace]
    omega
  have all : ∀ t : Text, t ≠ [] → (∀ c ∈ t, c.isDigit = true) → Text.endsVisible t = true := by
    intro t nonempty digit
    rw [Text.endsVisible, List.getLast?_eq_some_getLast nonempty]
    simp [digits (digit _ (List.getLast_mem nonempty))]
  rw [fixed_eq]
  apply Text.endsVisible_append
  unfold fixedMagnitude
  split_ifs with whole
  · exact all _ (Text.ofNat_ne_nil _) fun c member => Text.isDigit_of_mem_ofNat member
  · apply Text.endsVisible_append
    rw [← List.singleton_append]
    apply Text.endsVisible_append
    apply all
    · intro empty
      have places : (Text.zeroPad (-d.exponent).toNat
          (d.coefficient % 10 ^ (-d.exponent).toNat)).length = (-d.exponent).toNat :=
        Text.length_zeroPad (by omega) (Nat.mod_lt _ (by positivity))
      rw [empty] at places
      simp at places
      omega
    · exact fun c member => Text.isDigit_of_mem_zeroPad member
end Decimal

end CovenantRadar
