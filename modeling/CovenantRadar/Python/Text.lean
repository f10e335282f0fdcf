import Mathlib.Data.Char
import Mathlib.Data.List.Lex
import Mathlib.Data.List.DropRight
import Mathlib.Data.Nat.Digits.Defs
import Mathlib.Tactic

/-!
# Python text

A Python `str` is modelled by the list of its code points. A Lean `Char` is a
Unicode scalar value, so lone surrogates, which every function modelled here
rejects or cannot encode, are outside the model. The definitions below follow
the documented behaviour of `str.strip`, `str(int)` and the zero-padded format
codes, and the bounded-text check that the signal modules repeat
(`evidence.py:_bounded_text`, `supersession.py:_text`).
-/

namespace CovenantRadar

/-- A Python `str`: its code points in order. Ordering is the code point
    lexicographic order Python compares by. -/
abbrev Text := List Char

instance lawfulBEqText : LawfulBEq Text := inferInstance

instance lawfulBEqOptionText : LawfulBEq (Option Text) := inferInstance

/-- The exception classes the modelled functions raise, with their message. -/
inductive PyError where
  | valueError (message : String)
  | typeError (message : String)
  | overflowError (message : String)
  | keyError (key : String)
  | arithmeticError (message : String)
  deriving DecidableEq, Repr

/-- A test that every item of a list passes, item by item. -/
theorem forall_mem_of_all {α : Type} {p : α → Prop} [DecidablePred p] {xs : List α}
    (passed : xs.all (fun x => decide (p x)) = true) : ∀ x ∈ xs, p x := by
  simpa using passed

namespace Text

/-- `str.isspace` on one character: the white space `str.strip()` removes. -/
def isSpace (c : Char) : Bool :=
  (0x09 ≤ c.toNat && c.toNat ≤ 0x0D) || (0x1C ≤ c.toNat && c.toNat ≤ 0x20) ||
    c.toNat == 0x85 || c.toNat == 0xA0 || c.toNat == 0x1680 ||
    (0x2000 ≤ c.toNat && c.toNat ≤ 0x200A) || c.toNat == 0x2028 || c.toNat == 0x2029 ||
    c.toNat == 0x202F || c.toNat == 0x205F || c.toNat == 0x3000

/-- `str.strip()`. -/
def strip (t : Text) : Text := (t.dropWhile isSpace).rdropWhile isSpace

/-- `str.lower()` on ASCII letters. The modelled functions compare its result with words that no
    text with a letter outside ASCII lowers to, or keep it as a name; a name with other letters
    is taken as lowered already. -/
def lower (t : Text) : Text := t.map Char.toLower

/-- The control characters `_bounded_text` refuses: below 32, and DEL. -/
def isControl (c : Char) : Bool := c.toNat < 32 || c.toNat == 127

theorem dropWhile_rdropWhile_dropWhile {α : Type} (p : α → Bool) (t : List α) :
    ((t.dropWhile p).rdropWhile p).dropWhile p = (t.dropWhile p).rdropWhile p := by
  obtain ⟨tail, split⟩ : (t.dropWhile p).rdropWhile p <+: t.dropWhile p :=
    List.rdropWhile_prefix p _
  cases shape : (t.dropWhile p).rdropWhile p with
  | nil => rfl
  | cons head rest =>
    rw [shape, List.cons_append] at split
    have first : p ((t.dropWhile p).head (by simp [← split])) = false := by
      simpa using List.head_dropWhile_not p (l := t) (by simp [← split])
    have keeps : p head = false := by simpa [← split] using first
    simp [keeps]

/-- Stripping is idempotent, so a stripped text passes a second check unchanged. -/
theorem strip_strip (t : Text) : strip (strip t) = strip t := by
  unfold strip
  rw [dropWhile_rdropWhile_dropWhile, List.rdropWhile_idempotent]

/-- A text with a character that is not white space is not blank. -/
theorem strip_ne_nil {t : Text} {c : Char} (member : c ∈ t) (visible : isSpace c = false) :
    strip t ≠ [] := by
  intro blank
  have front : c ∈ t.dropWhile isSpace := by
    rw [← List.takeWhile_append_dropWhile (p := isSpace) (l := t)] at member
    rcases List.mem_append.mp member with dropped | kept
    · have space : isSpace c = true := List.mem_takeWhile_imp dropped
      rw [space] at visible
      cases visible
    · exact kept
  rw [strip, List.rdropWhile_eq_nil_iff] at blank
  rw [blank c front] at visible
  cases visible

/-- The text starts with something else than white space. -/
def startsVisible (t : Text) : Bool := t.head?.any fun c => !isSpace c

/-- The text ends with something else than white space. -/
def endsVisible (t : Text) : Bool := t.getLast?.any fun c => !isSpace c

theorem endsVisible_append {s t : Text} (ends : endsVisible t = true) :
    endsVisible (s ++ t) = true := by
  unfold endsVisible at *
  cases last : t.getLast? with
  | none =>
    rw [last] at ends
    cases ends
  | some c =>
    rw [List.getLast?_append, last, Option.some_or]
    rw [last] at ends
    exact ends

theorem strip_eq_self {t : Text} (starts : startsVisible t = true) (ends : endsVisible t = true) :
    strip t = t := by
  have front : t.dropWhile isSpace = t := by
    cases t with
    | nil => rfl
    | cons c rest =>
      have visible : isSpace c = false := by simpa [startsVisible] using starts
      rw [List.dropWhile_cons, visible]
      rfl
  rw [strip, front, List.rdropWhile_eq_self_iff]
  intro nonempty space
  have last : t.getLast? = some (t.getLast nonempty) := List.getLast?_eq_some_getLast nonempty
  rw [endsVisible, last] at ends
  simp [space] at ends

/-- Source `_bounded_text` (`evidence.py`): strip, then refuse blank, overlong or
    control-character text. The field name only enters the message. -/
def bounded (field : String) (maxLength : Nat) (value : Text) : Except PyError Text :=
  let normalized := strip value
  if normalized = [] then
    .error (.valueError s!"{field} must not be blank.")
  else if maxLength < normalized.length then
    .error (.valueError s!"{field} must be at most {maxLength} characters.")
  else if normalized.any isControl then
    .error (.valueError s!"{field} contains a control character.")
  else
    .ok normalized

/-- What `_bounded_text` guarantees of the text it returns. -/
def IsBounded (maxLength : Nat) (t : Text) : Prop :=
  strip t = t ∧ t ≠ [] ∧ t.length ≤ maxLength ∧ t.any isControl = false

instance (maxLength : Nat) (t : Text) : Decidable (IsBounded maxLength t) := by
  unfold IsBounded
  infer_instance

theorem bounded_ok_iff {field : String} {maxLength : Nat} {value result : Text} :
    bounded field maxLength value = .ok result ↔
      result = strip value ∧ IsBounded maxLength result := by
  unfold bounded IsBounded
  constructor
  · intro returned
    simp only at returned
    split_ifs at returned with blank long control
    cases returned
    exact ⟨rfl, strip_strip value, blank, Nat.not_lt.mp long, by simpa using control⟩
  · rintro ⟨rfl, -, nonblank, short, clean⟩
    simp [nonblank, Nat.not_lt.mpr short, clean]

end Text

/-- A text that `_bounded_text` has accepted with this maximal length. -/
structure BoundedText (maxLength : Nat) where
  text : Text
  bounded : Text.IsBounded maxLength text
  deriving DecidableEq

namespace BoundedText

variable {maxLength : Nat}

@[ext] theorem ext {a b : BoundedText maxLength} (same : a.text = b.text) : a = b := by
  cases a
  cases b
  simpa using same

/-- `_bounded_text` with its guarantee attached. -/
def check (field : String) (maxLength : Nat) (value : Text) :
    Except PyError (BoundedText maxLength) :=
  match returned : Text.bounded field maxLength value with
  | .ok result => .ok ⟨result, (Text.bounded_ok_iff.mp returned).2⟩
  | .error error => .error error

theorem check_ok_iff {field : String} {value : Text} {result : BoundedText maxLength} :
    check field maxLength value = .ok result ↔
      Text.bounded field maxLength value = .ok result.text := by
  unfold check
  split
  · rename_i text returned
    simp only [Except.ok.injEq, returned, BoundedText.ext_iff]
  · rename_i error returned
    simp [returned]

/-- Bounded text passes the check again and comes back unchanged. -/
theorem check_self (field : String) (t : BoundedText maxLength) :
    check field maxLength t.text = .ok t := by
  rw [check_ok_iff, Text.bounded_ok_iff]
  exact ⟨t.bounded.1.symm, t.bounded⟩

instance : LinearOrder (BoundedText maxLength) :=
  LinearOrder.lift' BoundedText.text (fun _ _ same => BoundedText.ext same)

end BoundedText

namespace Text

/-! ## Numbers written as text -/

/-- `str(n)` for a non-negative integer. -/
def ofNat (n : Nat) : Text := Nat.toDigits 10 n

/-- `str(i)`. -/
def ofInt (i : Int) : Text := if i < 0 then '-' :: ofNat i.natAbs else ofNat i.natAbs

/-- The format code `0{width}d`. -/
def zeroPad (width n : Nat) : Text :=
  List.replicate (width - (ofNat n).length) '0' ++ ofNat n

theorem ofNat_injective : Function.Injective ofNat := by
  intro m n same
  have read := congrArg (fun digits => Nat.ofDigitChars 10 digits 0) same
  simpa [ofNat, Nat.ofDigitChars_ten_toDigits] using read

theorem isDigit_of_mem_ofNat {n : Nat} {c : Char} (member : c ∈ ofNat n) : c.isDigit = true :=
  Nat.isDigit_of_mem_toDigits (by decide) (by decide) member

theorem ofNat_ne_nil (n : Nat) : ofNat n ≠ [] := Nat.toDigits_ne_nil

theorem not_mem_ofNat {n : Nat} {c : Char} (nonDigit : c.isDigit = false) : c ∉ ofNat n := by
  intro member
  rw [isDigit_of_mem_ofNat member] at nonDigit
  cases nonDigit

theorem ofInt_injective : Function.Injective ofInt := by
  intro i j same
  unfold ofInt at same
  split_ifs at same with negI negJ negJ
  · have := ofNat_injective (List.cons.inj same).2
    omega
  · exact absurd (same ▸ List.mem_cons_self) (not_mem_ofNat (by decide))
  · exact absurd (same ▸ List.mem_cons_self) (not_mem_ofNat (by decide))
  · have := ofNat_injective same
    omega

theorem isDigit_of_mem_zeroPad {width n : Nat} {c : Char} (member : c ∈ zeroPad width n) :
    c.isDigit = true := by
  rcases List.mem_append.mp member with padding | digit
  · rw [List.eq_of_mem_replicate padding]
    decide
  · exact isDigit_of_mem_ofNat digit

theorem ofDigitChars_zeroPad (width n : Nat) : Nat.ofDigitChars 10 (zeroPad width n) 0 = n := by
  have zeros : ∀ count, Nat.ofDigitChars 10 (List.replicate count '0' ++ ofNat n) 0 = n := by
    intro count
    induction count with
    | zero => simp [ofNat, Nat.ofDigitChars_ten_toDigits]
    | succ count ih => simpa [List.replicate_succ, Nat.ofDigitChars_cons] using ih
  exact zeros _

theorem zeroPad_injective (width : Nat) : Function.Injective (zeroPad width) := by
  intro m n same
  rw [← ofDigitChars_zeroPad width m, same, ofDigitChars_zeroPad]

/-- A number of at most `width` digits is written with exactly `width` characters. -/
theorem length_zeroPad {width n : Nat} (positive : 0 < width) (small : n < 10 ^ width) :
    (zeroPad width n).length = width := by
  have digits : (ofNat n).length ≤ width :=
    (Nat.length_toDigits_le_iff (by decide) positive).mpr small
  simp [zeroPad]
  omega

/-- The lowercase hexadecimal digits of `n`, `width` of them. -/
def hex : Nat → Nat → Text
  | 0, _ => []
  | width + 1, n => hex width (n / 16) ++ [Nat.digitChar (n % 16)]

theorem length_hex (width n : Nat) : (hex width n).length = width := by
  induction width generalizing n with
  | zero => rfl
  | succ width ih => simp [hex, ih]

theorem mem_hex {width n : Nat} {c : Char} (member : c ∈ hex width n) :
    ∃ d < 16, c = Nat.digitChar d := by
  induction width generalizing n with
  | zero => simp [hex] at member
  | succ width ih =>
    rcases List.mem_append.mp member with high | low
    · exact ih high
    · exact ⟨n % 16, Nat.mod_lt _ (by decide), by simpa using low⟩

theorem digitChar_injOn {a b : Nat} (smallA : a < 16) (smallB : b < 16)
    (same : Nat.digitChar a = Nat.digitChar b) : a = b := by
  have table : ∀ x < 16, ∀ y < 16, Nat.digitChar x = Nat.digitChar y → x = y := by decide
  exact table a smallA b smallB same

theorem hex_injOn {width m n : Nat} (smallM : m < 16 ^ width) (smallN : n < 16 ^ width)
    (same : hex width m = hex width n) : m = n := by
  induction width generalizing m n with
  | zero => simp at smallM smallN; omega
  | succ width ih =>
    have parts := List.append_inj' same (by simp)
    have high := ih (m := m / 16) (n := n / 16) (by rw [pow_succ] at smallM; omega)
      (by rw [pow_succ] at smallN; omega) parts.1
    have low := digitChar_injOn (Nat.mod_lt m (by decide)) (Nat.mod_lt n (by decide))
      (List.cons.inj parts.2).1
    omega

/-! ## Quoted text -/

/-- One character as `repr` writes it between these quotes. Beyond ASCII every character
    is written as it stands, which is what `repr` does with the printable ones. -/
def reprChar (quote c : Char) : Text :=
  if c = quote ∨ c = '\\' then ['\\', c]
  else if c = '\n' then ['\\', 'n']
  else if c = '\r' then ['\\', 'r']
  else if c = '\t' then ['\\', 't']
  else if isControl c then '\\' :: 'x' :: hex 2 c.toNat
  else [c]

/-- `repr(t)`. -/
def repr (t : Text) : Text :=
  let quote := if '\'' ∈ t ∧ '"' ∉ t then '"' else '\''
  quote :: (t.flatMap (reprChar quote) ++ [quote])

/-! ## Encoding -/

/-- `str.encode("utf-8")`. -/
def encode (t : Text) : ByteArray := (String.ofList t).toByteArray

theorem encode_injective : Function.Injective encode := by
  intro s t same
  simpa using congrArg String.toList (String.toByteArray_inj.mp same)

/-! ## Case and decimal digits -/

theorem toNat_toLower (c : Char) :
    c.toLower.toNat = if 65 ≤ c.toNat ∧ c.toNat ≤ 90 then c.toNat + 32 else c.toNat := by
  unfold Char.toLower
  by_cases upper : c.val ≥ 'A'.val ∧ c.val ≤ 'Z'.val
  · have range : 65 ≤ c.toNat ∧ c.toNat ≤ 90 :=
      ⟨UInt32.le_iff_toNat_le.mp upper.1, UInt32.le_iff_toNat_le.mp upper.2⟩
    rw [dif_pos upper, if_pos range]
    have sum : (c.val + ('a'.val - 'A'.val)).toNat = (c.val.toNat + 32) % 2 ^ 32 := by
      rw [UInt32.toNat_add]
      rfl
    have small : c.val.toNat ≤ 90 := range.2
    change (c.val + ('a'.val - 'A'.val)).toNat = c.val.toNat + 32
    rw [sum]
    omega
  · have range : ¬ (65 ≤ c.toNat ∧ c.toNat ≤ 90) := by
      intro range
      exact upper ⟨UInt32.le_iff_toNat_le.mpr range.1, UInt32.le_iff_toNat_le.mpr range.2⟩
    rw [dif_neg upper, if_neg range]

theorem isSpace_toLower (c : Char) : isSpace c.toLower = isSpace c := by
  have code := toNat_toLower c
  unfold isSpace
  rw [code]
  split_ifs with upper
  · rw [Bool.eq_iff_iff]
    simp
    omega
  · rfl

theorem toLower_toLower (c : Char) : c.toLower.toLower = c.toLower := by
  apply Char.toNat_inj.mp
  rw [toNat_toLower, toNat_toLower]
  split_ifs <;> omega

theorem strip_lower (t : Text) : strip (lower t) = lower (strip t) := by
  have commutes : (isSpace ∘ Char.toLower) = isSpace := funext isSpace_toLower
  unfold strip lower List.rdropWhile
  rw [List.dropWhile_map, commutes, ← List.map_reverse, List.dropWhile_map, commutes,
    List.map_reverse]

theorem lower_lower (t : Text) : lower (lower t) = lower t := by
  simp [lower, toLower_toLower]
/-- `str.upper()`, letter by letter, on the ASCII letters; other letters are left alone.
    Nothing modelled here reads a text that the two would change differently. -/
def upper (t : Text) : Text := t.map Char.toUpper

/-- The code points of the decimal digits zero, one for each run of ten digits. -/
def decimalZeros : List Nat :=
  [0x30, 0x660, 0x6F0, 0x7C0, 0x966, 0x9E6, 0xA66, 0xAE6, 0xB66, 0xBE6, 0xC66, 0xCE6, 0xD66,
    0xDE6, 0xE50, 0xED0, 0xF20, 0x1040, 0x1090, 0x17E0, 0x1810, 0x1946, 0x19D0, 0x1A80, 0x1A90,
    0x1B50, 0x1BB0, 0x1C40, 0x1C50, 0xA620, 0xA8D0, 0xA900, 0xA9D0, 0xA9F0, 0xAA50, 0xABF0,
    0xFF10, 0x104A0, 0x10D30, 0x11066, 0x110F0, 0x11136, 0x111D0, 0x112F0, 0x11450, 0x114D0,
    0x11650, 0x116C0, 0x11730, 0x118E0, 0x11950, 0x11C50, 0x11D50, 0x11DA0, 0x11F50, 0x16A60,
    0x16AC0, 0x16B50, 0x1D7CE, 0x1D7D8, 0x1D7E2, 0x1D7EC, 0x1D7F6, 0x1E140, 0x1E2F0, 0x1E4F0,
    0x1E950, 0x1FBF0]

/-- The value of a decimal digit of any script: what `\d` matches and `int` reads. -/
def decimal (c : Char) : Option Nat :=
  (decimalZeros.find? (fun first => first ≤ c.toNat && c.toNat < first + 10)).map (c.toNat - ·)

/-- A decimal digit is no lowercase ASCII letter, so upper case leaves it alone. -/
theorem toUpper_of_decimal {c : Char} (digit : (decimal c).isSome) : c.toUpper = c := by
  rw [decimal, Option.isSome_map, List.find?_isSome] at digit
  obtain ⟨first, listed, range⟩ := digit
  have apart : ∀ first ∈ decimalZeros, first + 10 ≤ 97 ∨ 123 ≤ first :=
    forall_mem_of_all (by decide)
  simp only [Bool.and_eq_true, decide_eq_true_eq] at range
  have letter : ¬ (97 ≤ c.toNat ∧ c.toNat ≤ 122) := by
    have := apart first listed
    omega
  unfold Char.toUpper
  rw [dif_neg]
  intro lower
  exact letter ⟨lower.1, lower.2⟩

end Text

end CovenantRadar
