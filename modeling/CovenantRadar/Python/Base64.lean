import CovenantRadar.Python.Text
import Mathlib

/-!
# Texts as bytes

A text in UTF-8, as a list of bytes, and its decoder; `base64.urlsafe_b64encode(value).rstrip(b"=")`,
and the decoder that puts the padding back: three bytes to four characters, and a last group of two
or three characters for one or two bytes.
-/

namespace CovenantRadar

/-! ## UTF-8 -/

/-- The bytes of a text. -/
def utf8 (text : Text) : List UInt8 := text.encode.data.toList

/-- `bytes.decode("utf-8")`. -/
def decodeUtf8 (data : List UInt8) : Option Text :=
  (ByteArray.mk data.toArray).utf8Decode?.map Array.toList

theorem decodeUtf8_utf8 (text : Text) : decodeUtf8 (utf8 text) = some text := by
  have bytes : ByteArray.mk (utf8 text).toArray = text.encode := by
    unfold utf8
    rw [Array.toArray_toList]
  unfold decodeUtf8
  rw [bytes, Text.encode, String.toByteArray_ofList, List.utf8Decode?_utf8Encode]
  simp

/-! ## Base64 -/

namespace Base64

/-- The alphabet of `urlsafe_b64encode`. -/
def alphabet : Text :=
  "ABCDEFGHIJKLMNOPQRSTUVWXYZabcdefghijklmnopqrstuvwxyz0123456789-_".toList

/-- The character of six bits. -/
def digit (n : Nat) : Char := alphabet.getD n 'A'

/-- The six bits of a character. -/
def value (c : Char) : Option Nat := alphabet.findIdx? (· == c)

theorem value_digit {n : Nat} (small : n < 64) : value (digit n) = some n := by
  have table : ∀ n < 64, value (digit n) = some n := by decide
  exact table n small

theorem digit_mem {n : Nat} (small : n < 64) : digit n ∈ alphabet := by
  have table : ∀ n < 64, digit n ∈ alphabet := by decide +kernel
  exact table n small

/-- `base64.urlsafe_b64encode(value).rstrip(b"=")`. -/
def encode : List UInt8 → Text
  | a :: b :: c :: rest =>
      digit (a.toNat / 4) :: digit (a.toNat % 4 * 16 + b.toNat / 16) ::
        digit (b.toNat % 16 * 4 + c.toNat / 64) :: digit (c.toNat % 64) :: encode rest
  | [a, b] =>
      [digit (a.toNat / 4), digit (a.toNat % 4 * 16 + b.toNat / 16), digit (b.toNat % 16 * 4)]
  | [a] => [digit (a.toNat / 4), digit (a.toNat % 4 * 16)]
  | [] => []

/-- The three bytes of four groups of six bits. -/
def bytes (p q r s : Nat) : List UInt8 :=
  [UInt8.ofNat (p * 4 + q / 16), UInt8.ofNat (q % 16 * 16 + r / 4), UInt8.ofNat (r % 4 * 64 + s)]

/-- `base64.urlsafe_b64decode(value + "=" * (-len(value) % 4))`: the bits a last group leaves over
    are dropped, and one character alone is refused. -/
def decode : Text → Option (List UInt8)
  | p :: q :: r :: s :: rest => do
      let group := bytes (← value p) (← value q) (← value r) (← value s)
      (group ++ ·) <$> decode rest
  | [p, q, r] => do return (bytes (← value p) (← value q) (← value r) 0).take 2
  | [p, q] => do return (bytes (← value p) (← value q) 0 0).take 1
  | [_] => none
  | [] => some []

/-- Bytes are read back from their text. -/
theorem decode_encode (data : List UInt8) : decode (encode data) = some data := by
  have small (b : UInt8) : b.toNat < 256 := b.toNat_lt
  induction data using encode.induct with
  | case1 a b c rest ih =>
    have ha := small a
    have hb := small b
    have hc := small c
    rw [encode, decode, value_digit (by omega), value_digit (by omega), value_digit (by omega),
      value_digit (by omega), ih]
    simp only [bytes, Option.bind_eq_bind, Option.bind_some, Option.map_eq_map, Option.map_some,
      List.cons_append, List.nil_append, Option.some.injEq, List.cons.injEq, and_true]
    refine ⟨?_, ?_, ?_⟩
    · rw [show a.toNat / 4 * 4 + (a.toNat % 4 * 16 + b.toNat / 16) / 16 = a.toNat by omega]
      exact UInt8.ofNat_toNat
    · rw [show (a.toNat % 4 * 16 + b.toNat / 16) % 16 * 16 +
        (b.toNat % 16 * 4 + c.toNat / 64) / 4 = b.toNat by omega]
      exact UInt8.ofNat_toNat
    · rw [show (b.toNat % 16 * 4 + c.toNat / 64) % 4 * 64 + c.toNat % 64 = c.toNat by omega]
      exact UInt8.ofNat_toNat
  | case2 a b =>
    have ha := small a
    have hb := small b
    rw [encode, decode, value_digit (by omega), value_digit (by omega), value_digit (by omega)]
    simp only [bytes, Option.bind_eq_bind, Option.bind_some, Option.pure_def, List.take_succ_cons,
      List.take_zero, Option.some.injEq, List.cons.injEq, and_true]
    refine ⟨?_, ?_⟩
    · rw [show a.toNat / 4 * 4 + (a.toNat % 4 * 16 + b.toNat / 16) / 16 = a.toNat by omega]
      exact UInt8.ofNat_toNat
    · rw [show (a.toNat % 4 * 16 + b.toNat / 16) % 16 * 16 + b.toNat % 16 * 4 / 4 = b.toNat by
        omega]
      exact UInt8.ofNat_toNat
  | case3 a =>
    have ha := small a
    rw [encode, decode, value_digit (by omega), value_digit (by omega)]
    simp only [bytes, Option.bind_eq_bind, Option.bind_some, Option.pure_def, List.take_succ_cons,
      List.take_zero, Option.some.injEq, List.cons.injEq, and_true]
    rw [show a.toNat / 4 * 4 + a.toNat % 4 * 16 / 16 = a.toNat by omega]
    exact UInt8.ofNat_toNat
  | case4 => rfl

/-- Every character written is of the alphabet. -/
theorem mem_alphabet {data : List UInt8} {c : Char} (member : c ∈ encode data) : c ∈ alphabet := by
  have small (b : UInt8) : b.toNat < 256 := b.toNat_lt
  induction data using encode.induct with
  | case1 a b d rest ih =>
    have ha := small a
    have hb := small b
    have hd := small d
    simp only [encode, List.mem_cons] at member
    rcases member with rfl | rfl | rfl | rfl | member
    · exact digit_mem (by omega)
    · exact digit_mem (by omega)
    · exact digit_mem (by omega)
    · exact digit_mem (by omega)
    · exact ih member
  | case2 a b =>
    have ha := small a
    have hb := small b
    simp only [encode, List.mem_cons, List.not_mem_nil, or_false] at member
    rcases member with rfl | rfl | rfl <;> exact digit_mem (by omega)
  | case3 a =>
    have ha := small a
    simp only [encode, List.mem_cons, List.not_mem_nil, or_false] at member
    rcases member with rfl | rfl <;> exact digit_mem (by omega)
  | case4 => cases member

theorem length_encode (data : List UInt8) : (encode data).length = (4 * data.length + 2) / 3 := by
  induction data using encode.induct with
  | case1 a b c rest ih =>
    simp only [encode, List.length_cons, ih]
    omega
  | case2 a b => simp [encode]
  | case3 a => simp [encode]
  | case4 => simp [encode]

theorem length_encode_le (data : List UInt8) : 3 * (encode data).length ≤ 4 * data.length + 2 := by
  rw [length_encode]
  omega

/-- A decoder that refuses an empty text and any character outside the alphabet. -/
def strictDecode (value : Text) : Option (List UInt8) :=
  if value = [] then none
  else if value.any fun c => !alphabet.contains c then none
  else decode value

theorem strictDecode_encode {data : List UInt8} (nonempty : data ≠ []) :
    strictDecode (encode data) = some data := by
  have written : encode data ≠ [] := by
    cases data with
    | nil => exact absurd rfl nonempty
    | cons a data =>
      cases data with
      | nil => simp [encode]
      | cons b data => cases data <;> simp [encode]
  have listed : (encode data).any (fun c => !alphabet.contains c) = false := by
    rw [List.any_eq_false]
    intro c member
    simpa using mem_alphabet member
  unfold strictDecode
  rw [if_neg written, listed, if_neg (by decide), decode_encode]

end Base64

end CovenantRadar
