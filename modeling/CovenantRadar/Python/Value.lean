import CovenantRadar.Python.Scalars
import CovenantRadar.Misc.Json
import Mathlib.Data.Int.Log
import Mathlib.Data.Rat.Floor

/-!
# Dynamically typed values

The values a signal payload can hold before it is checked, and Python's `==` on
the values that survive the check.
-/

namespace CovenantRadar

/-- A Python object, as far as `_canonical_value` and the field checks tell objects apart. -/
inductive PyValue where
  | none
  | bool (value : Bool)
  | int (value : Int)
  | float (value : FloatLiteral)
  /-- `nan`, `inf` or `-inf`. -/
  | specialFloat
  | str (value : Text)
  | decimal (value : Decimal)
  /-- A `Decimal` that is not finite. -/
  | specialDecimal
  | uuid (value : Uuid)
  | date (value : Date)
  | datetime
  | mapping (items : List (PyValue × PyValue))
  /-- A `list` or a `tuple`. -/
  | sequence (items : List PyValue)
  /-- An object of a class no check accepts. -/
  | other (typeName : Text)

namespace PyValue

/-- `type(value).__name__` of the values that reach the unsupported branch. -/
def typeName : PyValue → Text
  | .datetime => "datetime".toList
  | .other name => name
  | _ => []

mutual
/-- A canonical JSON value as the Python object it is. -/
def ofJson : Json → PyValue
  | .null => .none
  | .bool value => .bool value
  | .int value => .int value
  | .float value => .float value
  | .str value => .str value
  | .arr items => .sequence (ofJsonItems items)
  | .obj entries => .mapping (ofJsonEntries entries)
def ofJsonItems : List Json → List PyValue
  | [] => []
  | x :: xs => ofJson x :: ofJsonItems xs
def ofJsonEntries : List (Text × Json) → List (PyValue × PyValue)
  | [] => []
  | (key, value) :: entries => (.str key, ofJson value) :: ofJsonEntries entries
end

end PyValue

/-! ## The number a float denotes -/

namespace FloatLiteral

/-- Round half to even. -/
def roundHalfEven (q : ℚ) : ℤ :=
  let below := ⌊q⌋
  let gap := q - below
  if gap < 1 / 2 then below
  else if 1 / 2 < gap then below + 1
  else if below % 2 = 0 then below else below + 1

/-- The IEEE 754 binary64 value nearest to a rational. -/
def nearestDouble (q : ℚ) : ℚ :=
  if q = 0 then 0
  else
    let quantum : ℚ := 2 ^ (max (Int.log 2 |q|) (-1022) - 52)
    roundHalfEven (q / quantum) * quantum

/-- The number a decimal literal writes. -/
def written (t : Text) : ℚ :=
  let unsigned := t.dropWhile (fun c => c == '-' || c == '+')
  let mantissa := unsigned.takeWhile (fun c => c != 'e')
  let power := (unsigned.dropWhile (fun c => c != 'e')).drop 1
  let whole := mantissa.takeWhile (fun c => c != '.')
  let fraction := (mantissa.dropWhile (fun c => c != '.')).drop 1
  let digits : ℚ := (Nat.ofDigitChars 10 (whole ++ fraction) 0 : Nat)
  let exponent : ℤ := Nat.ofDigitChars 10 (power.filter Char.isDigit) 0
  let scale : ℤ := (if power.head? = some '-' then -exponent else exponent) - fraction.length
  (if t.head? = some '-' then -1 else 1) * digits * 10 ^ scale

/-- The value of a float, read back from its `repr`. -/
def value (f : FloatLiteral) : ℚ := nearestDouble (written f.text)

end FloatLiteral

/-! ## Dictionaries and printing -/

/-- `sys.get_int_max_str_digits()`: an `int` of more digits cannot be written as text. -/
def maxIntDigits : Nat := 4300

namespace Json

/-- `result[key] = value` on an insertion-ordered `dict`. -/
def setKey (result : List (Text × Json)) (key : Text) (value : Json) : List (Text × Json) :=
  if result.any (fun entry => entry.1 = key) then
    result.map (fun entry => if entry.1 = key then (key, value) else entry)
  else
    result ++ [(key, value)]

mutual
/-- No `int` in the value is too long for `int.__repr__`. -/
def intsPrintable : Json → Bool
  | .int i => decide ((Text.ofNat i.natAbs).length ≤ maxIntDigits)
  | .arr items => itemsPrintable items
  | .obj entries => entriesPrintable entries
  | .null => true
  | .bool _ => true
  | .float _ => true
  | .str _ => true
def itemsPrintable : List Json → Bool
  | [] => true
  | x :: xs => intsPrintable x && itemsPrintable xs
def entriesPrintable : List (Text × Json) → Bool
  | [] => true
  | (_, value) :: entries => intsPrintable value && entriesPrintable entries
end

/-! ## Equality -/

/-- `bool`, `int` and `float` are numbers and compare by value. -/
def number : Json → Option ℚ
  | .bool b => some (if b then 1 else 0)
  | .int i => some i
  | .float f => some f.value
  | _ => none

/-- `dict.get`. -/
def lookup (key : Text) (entries : List (Text × Json)) : Option Json :=
  (entries.find? (fun entry => entry.1 = key)).map Prod.snd

mutual
/-- Python's `==` on canonical payload values. -/
def pyEq : Json → Json → Bool
  | .null, .null => true
  | .str s, .str t => s == t
  | .arr xs, .arr ys => itemsEq xs ys
  | .obj es, .obj es' => es.length == es'.length && entriesEq es es'
  | a, b =>
    match number a, number b with
    | some p, some q => p == q
    | _, _ => false
/-- `list.__eq__`. -/
def itemsEq : List Json → List Json → Bool
  | [], [] => true
  | x :: xs, y :: ys => pyEq x y && itemsEq xs ys
  | _, _ => false
/-- Every entry of the first mapping has an equal one in the second. -/
def entriesEq : List (Text × Json) → List (Text × Json) → Bool
  | [], _ => true
  | (key, value) :: entries, other =>
    (match lookup key other with
      | some found => pyEq value found
      | none => false) && entriesEq entries other
end

theorem lookup_of_mem {key : Text} {value : Json} {entries : List (Text × Json)}
    (distinct : entries.Pairwise (fun a b => a.1 < b.1)) (member : (key, value) ∈ entries) :
    lookup key entries = some value := by
  induction entries with
  | nil => cases member
  | cons entry entries ih =>
    rw [List.pairwise_cons] at distinct
    unfold lookup
    rw [List.find?_cons]
    rcases List.mem_cons.mp member with rfl | later
    · simp
    · have other : entry.1 ≠ key := ne_of_lt (distinct.1 _ later)
      simpa [other, lookup] using ih distinct.2 later

mutual
theorem pyEq_self : ∀ {j : Json}, Ordered j → pyEq j j = true
  | .null, _ => rfl
  | .bool value, _ => by simp [pyEq, number]
  | .int value, _ => by simp [pyEq, number]
  | .float value, _ => by simp [pyEq, number]
  | .str value, _ => by simp [pyEq]
  | .arr items, ordered => by
    rw [pyEq]
    exact itemsEq_self ordered
  | .obj entries, ordered => by
    rw [pyEq, beq_self_eq_true, Bool.true_and]
    exact entriesEq_of_subset ordered.2 ordered.1 (List.Subset.refl _)
theorem itemsEq_self : ∀ {xs : List Json}, OrderedItems xs → itemsEq xs xs = true
  | [], _ => rfl
  | x :: xs, ordered => by rw [itemsEq, pyEq_self ordered.1, itemsEq_self ordered.2]; rfl
theorem entriesEq_of_subset : ∀ {es all : List (Text × Json)}, OrderedEntries es →
    all.Pairwise (fun a b => a.1 < b.1) → es ⊆ all → entriesEq es all = true
  | [], _, _, _, _ => rfl
  | (key, value) :: es, all, ordered, distinct, sub => by
    rw [entriesEq, lookup_of_mem distinct (sub List.mem_cons_self)]
    simp only [pyEq_self ordered.1, Bool.true_and]
    exact entriesEq_of_subset ordered.2 distinct
      (fun _ member => sub (List.mem_cons_of_mem _ member))
end

end Json

end CovenantRadar
