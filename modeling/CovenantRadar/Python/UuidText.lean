import CovenantRadar.Python.Scalars

/-!
# Reading identifiers

`uuid.UUID(text)` on the form `str` writes: hexadecimal digits, grouped by dashes anywhere. The
forms with braces or a `urn:` in front are left out.
-/

namespace CovenantRadar

/-- The value of a hexadecimal digit of either case. -/
def Text.hexDigit (c : Char) : Option Nat :=
  if 48 ≤ c.toNat ∧ c.toNat ≤ 57 then some (c.toNat - 48)
  else if 97 ≤ c.toNat ∧ c.toNat ≤ 102 then some (c.toNat - 87)
  else if 65 ≤ c.toNat ∧ c.toNat ≤ 70 then some (c.toNat - 55)
  else none

/-- `int(text, 16)` of a text of digits. -/
def Text.readHex (text : Text) : Option Nat :=
  text.foldlM (fun value c => (hexDigit c).map fun digit => 16 * value + digit) 0

theorem Text.hexDigit_digitChar {d : Nat} (small : d < 16) :
    hexDigit (Nat.digitChar d) = some d := by
  have table : ∀ d < 16, hexDigit (Nat.digitChar d) = some d := by decide
  exact table d small

theorem Text.readHex_hex {width n : Nat} (small : n < 16 ^ width) :
    readHex (hex width n) = some n := by
  induction width generalizing n with
  | zero =>
    rw [pow_zero, Nat.lt_one_iff] at small
    rw [small]
    rfl
  | succ width ih =>
    have high : n / 16 < 16 ^ width := by
      rw [pow_succ] at small
      omega
    have read := ih high
    unfold readHex at read ⊢
    rw [hex, List.foldlM_append, read]
    simp only [Option.bind_eq_bind, Option.bind_some, List.foldlM_cons, List.foldlM_nil,
      hexDigit_digitChar (Nat.mod_lt n (by decide)), Option.map_some, Nat.div_add_mod]
    rfl

namespace Uuid

/-- `uuid.UUID(text)`, and `none` where it raises. -/
def ofText (text : Text) : Option Uuid :=
  let digits := text.filter (· ≠ '-')
  if digits.length = 32 then (Text.readHex digits).map ofInt else none

theorem ofInt_int (u : Uuid) : ofInt u.int = u := Uuid.ext (Nat.mod_eq_of_lt u.small)

/-- An identifier is read back from its text. -/
theorem ofText_str (u : Uuid) : ofText u.str = some u := by
  unfold ofText
  simp only
  rw [filter_dash_str, if_pos (Text.length_hex 32 u.int), Text.readHex_hex u.small,
    Option.map_some, ofInt_int]

end Uuid

end CovenantRadar
