import CovenantRadar.Misc.Json
import CovenantRadar.Python.UuidText
import Mathlib

/-!
# Reading JSON text

The reader of `json.loads` over the same value tree as the writer, and the round trip of the two.
An object keeps every pair it was written with, so that the last one of a key can be taken, or a
second one refused. A float is kept by its text. Lone surrogates, `NaN` and the infinities are not
read.
-/

namespace CovenantRadar

namespace Json

/-! ## Strings -/

/-- The character a single escape stands for. -/
def unescape (code : Char) : Option Char :=
  if code = '"' then some '"'
  else if code = '\\' then some '\\'
  else if code = '/' then some '/'
  else if code = 'b' then some (Char.ofNat 8)
  else if code = 'f' then some (Char.ofNat 12)
  else if code = 'n' then some '\n'
  else if code = 'r' then some '\r'
  else if code = 't' then some '\t'
  else none

/-- Four hexadecimal digits and what follows them. -/
def readCode (t : Text) : Option (Nat × Text) :=
  if t.length < 4 then none else (Text.readHex (t.take 4)).map fun code => (code, t.drop 4)

/-- One character of a string, an escape taken as a whole. -/
def readUnit : Text → Option (Char × Text)
  | '\\' :: 'u' :: rest => do
      let (code, rest) ← readCode rest
      if code < 55296 ∨ 57344 ≤ code then return (Char.ofNat code, rest)
      -- a high surrogate, which only a low one completes
      let (low, rest) ← match rest with
        | '\\' :: 'u' :: rest => readCode rest
        | _ => none
      if code < 56320 ∧ 56320 ≤ low ∧ low < 57344 then
        return (Char.ofNat (65536 + 1024 * (code - 55296) + (low - 56320)), rest)
      none
  | '\\' :: code :: rest => (unescape code).map fun c => (c, rest)
  | c :: rest => if c.toNat < 32 ∨ c = '\\' then none else some (c, rest)
  | [] => none

/-- The rest of a string, up to its closing quote. -/
def readString : Nat → Text → Option (Text × Text)
  | 0, _ => none
  | _ + 1, '"' :: rest => some ([], rest)
  | fuel + 1, t => do
      let (c, rest) ← readUnit t
      let (text, rest) ← readString fuel rest
      return (c :: text, rest)

private theorem readHex_control :
    ∀ n < 32, Text.readHex ['0', '0', Nat.digitChar (n / 16), Nat.digitChar (n % 16)] = some n := by
  decide

/-- An escaped character is read back. -/
theorem readUnit_escapeChar (c : Char) (rest : Text) :
    readUnit (escapeChar c ++ rest) = some (c, rest) := by
  unfold escapeChar
  split_ifs with quote slash newline carriage tab feed back control
  · subst quote
    rfl
  · subst slash
    rfl
  · subst newline
    rfl
  · subst carriage
    rfl
  · subst tab
    rfl
  · have same : c = Char.ofNat 12 := by rw [← feed, Char.ofNat_toNat]
    subst same
    rfl
  · have same : c = Char.ofNat 8 := by rw [← back, Char.ofNat_toNat]
    subst same
    rfl
  · have code := readHex_control c.toNat control
    have small : c.toNat < 55296 := by omega
    have long : ¬ rest.length + 1 + 1 + 1 + 1 < 4 := by omega
    simp [readUnit, readCode, code, long, small]
  · have plain : ¬ (c.toNat < 32 ∨ c = '\\') := by simp [control, slash]
    have unfolded : readUnit (c :: rest) = some (c, rest) := by
      unfold readUnit
      split
      · next heq => exact absurd (List.cons.inj heq).1 slash
      · next heq => exact absurd (List.cons.inj heq).1 slash
      · next heq =>
        cases heq
        rw [if_neg plain]
      · next heq => cases heq
    exact unfolded

/-- The inside of a quoted text is read back. -/
theorem readString_escaped (t rest : Text) {fuel : Nat} (enough : t.length < fuel) :
    readString fuel (t.flatMap escapeChar ++ '"' :: rest) = some (t, rest) := by
  induction t generalizing fuel with
  | nil =>
    cases fuel with
    | zero => cases enough
    | succ fuel => rfl
  | cons c t ih =>
    cases fuel with
    | zero => cases enough
    | succ fuel =>
      rw [List.length_cons] at enough
      have ih := @ih fuel (by omega)
      rw [List.flatMap_cons, List.append_assoc]
      unfold readString
      split
      · next heq => cases heq
      · next heq => exact absurd heq (escapeChar_append_ne_quote c _ _)
      · next fuel' t' _ same heq =>
        cases same
        rw [readUnit_escapeChar]
        simp [ih]

/-! ## Numbers -/

/-- The fraction of a number, with its point; a point without a digit after it is left. -/
def readFraction : Text → Text × Text
  | '.' :: rest =>
      if rest.takeWhile Char.isDigit = [] then ([], '.' :: rest)
      else ('.' :: rest.takeWhile Char.isDigit, rest.dropWhile Char.isDigit)
  | rest => ([], rest)

/-- The sign of an exponent. -/
def readSign : Text → Text × Text
  | '-' :: rest => (['-'], rest)
  | '+' :: rest => (['+'], rest)
  | rest => ([], rest)

/-- The exponent of a number, with its mark. -/
def readExponent : Text → Text × Text
  | c :: rest =>
      let (sign, digits) := readSign rest
      if c = 'e' ∨ c = 'E' then
        if digits.takeWhile Char.isDigit = [] then ([], c :: rest)
        else ('e' :: (sign ++ digits.takeWhile Char.isDigit), digits.dropWhile Char.isDigit)
      else ([], c :: rest)
  | [] => ([], [])

/-- The whole digits of a number: a zero stands alone. -/
def readWhole : Text → Option (Text × Text)
  | '0' :: rest => some (['0'], rest)
  | t => if t.takeWhile Char.isDigit = [] then none
      else some (t.takeWhile Char.isDigit, t.dropWhile Char.isDigit)

/-- A float with this text, if it is one. -/
def floatOf (text : Text) : Option FloatLiteral :=
  if numeric : text.all isNumberChar = true then
    if marked : text.any (fun c => c == '.' || c == 'e') = true then
      if lead : text.head?.any (fun c => c.isDigit || c == '-') = true then
        some ⟨text, numeric, marked, lead⟩
      else none
    else none
  else none

/-- The number after its sign. -/
def readMagnitude (negative : Bool) (t : Text) : Option (Json × Text) := do
  let (whole, rest) ← readWhole t
  let (fraction, rest) := readFraction rest
  let (exponent, rest) := readExponent rest
  let magnitude : Int := Nat.ofDigitChars 10 whole 0
  if fraction = [] ∧ exponent = [] then
    return (.int (if negative then -magnitude else magnitude), rest)
  let literal ← floatOf ((if negative then ['-'] else []) ++ whole ++ fraction ++ exponent)
  return (.float literal, rest)

/-- The number a text starts with. -/
def readNumber : Text → Option (Json × Text)
  | '-' :: rest => readMagnitude true rest
  | t => readMagnitude false t

/-- What may follow a number: the end, or a delimiter. -/
def Delimited (rest : Text) : Prop :=
  ∀ c, rest.head? = some c → c = ',' ∨ c = ']' ∨ c = '}'

theorem delimited_nil : Delimited [] := by
  intro c first
  cases first

theorem delimited_cons {c : Char} {rest : Text} (delimiter : c = ',' ∨ c = ']' ∨ c = '}') :
    Delimited (c :: rest) := by
  intro d first
  cases first
  exact delimiter

theorem takeWhile_digits {digits rest : Text} (all : ∀ c ∈ digits, c.isDigit = true)
    (delimited : Delimited rest) : (digits ++ rest).takeWhile Char.isDigit = digits := by
  rw [List.takeWhile_append_of_pos all]
  cases rest with
  | nil => simp
  | cons c rest =>
    have stop : c.isDigit = false := by
      rcases delimited c rfl with rfl | rfl | rfl <;> decide
    simp [stop]

theorem dropWhile_digits {digits rest : Text} (all : ∀ c ∈ digits, c.isDigit = true)
    (delimited : Delimited rest) : (digits ++ rest).dropWhile Char.isDigit = rest := by
  rw [List.dropWhile_append_of_pos all]
  cases rest with
  | nil => simp
  | cons c rest =>
    have stop : c.isDigit = false := by
      rcases delimited c rfl with rfl | rfl | rfl <;> decide
    simp [stop]

/-- A number written in full starts with a zero only when it is zero. -/
theorem head_ofNat_eq_zero {n : Nat} (zero : (Text.ofNat n).head? = some '0') : n = 0 := by
  induction n using Nat.strongRecOn with
  | ind n ih =>
    have table : ∀ d < 10, Nat.digitChar d = '0' → d = 0 := by decide
    by_cases small : n < 10
    · unfold Text.ofNat at zero
      rw [Nat.toDigits_of_lt_base small] at zero
      exact table n small (by simpa using zero)
    · unfold Text.ofNat at zero
      rw [Nat.toDigits_of_base_le (by decide) (by omega), List.head?_append_of_ne_nil _
        Nat.toDigits_ne_nil] at zero
      have rest := ih (n / 10) (by omega) zero
      omega

theorem readWhole_ofNat (n : Nat) {rest : Text} (delimited : Delimited rest) :
    readWhole (Text.ofNat n ++ rest) = some (Text.ofNat n, rest) := by
  have digits : ∀ c ∈ Text.ofNat n, c.isDigit = true := fun c => Text.isDigit_of_mem_ofNat
  have taken := takeWhile_digits digits delimited
  have dropped := dropWhile_digits digits delimited
  unfold readWhole
  split
  · next tail heq =>
    have head : (Text.ofNat n).head? = some '0' := by
      rw [← List.head?_append_of_ne_nil _ (Text.ofNat_ne_nil n), heq]
      rfl
    have zero := head_ofNat_eq_zero head
    subst zero
    have same : '0' :: rest = '0' :: tail := heq
    cases same
    rfl
  · rw [taken, dropped, if_neg (Text.ofNat_ne_nil n)]

theorem readMagnitude_ofNat (negative : Bool) (n : Nat) {rest : Text} (delimited : Delimited rest) :
    readMagnitude negative (Text.ofNat n ++ rest) =
      some (.int (if negative then -(n : Int) else n), rest) := by
  have fraction : readFraction rest = ([], rest) := by
    cases rest with
    | nil => rfl
    | cons c rest => rcases delimited c rfl with rfl | rfl | rfl <;> rfl
  have exponent : readExponent rest = ([], rest) := by
    cases rest with
    | nil => rfl
    | cons c rest => rcases delimited c rfl with rfl | rfl | rfl <;> simp [readExponent]
  unfold readMagnitude
  rw [readWhole_ofNat n delimited]
  simp [fraction, exponent, Text.ofNat, Nat.ofDigitChars_ten_toDigits]

/-- An integer is read back. -/
theorem readNumber_ofInt (i : Int) {rest : Text} (delimited : Delimited rest) :
    readNumber (Text.ofInt i ++ rest) = some (.int i, rest) := by
  unfold Text.ofInt
  split_ifs with negative
  · have read := readMagnitude_ofNat true i.natAbs delimited
    have back : -(i.natAbs : Int) = i := by omega
    rw [if_pos rfl, back] at read
    exact read
  · have read := readMagnitude_ofNat false i.natAbs delimited
    have back : (i.natAbs : Int) = i := by omega
    rw [if_neg (by decide), back] at read
    unfold readNumber
    split
    · next heq =>
      have minus : '-' ∈ Text.ofNat i.natAbs := by
        have head : (Text.ofNat i.natAbs).head? = some '-' := by
          rw [← List.head?_append_of_ne_nil _ (Text.ofNat_ne_nil _), heq]
          rfl
        exact List.mem_of_mem_head? head
      exact absurd minus (Text.not_mem_ofNat (by decide))
    · exact read

/-! ## Values -/

/-- Skips what may stand between tokens. -/
def skip (t : Text) : Text :=
  t.dropWhile fun c => c == ' ' || c == '\t' || c == '\n' || c == '\r'

mutual
/-- The value a text starts with; each level of nesting and each item takes one unit of fuel. -/
def readValue : Nat → Text → Option (Json × Text)
  | 0, _ => none
  | fuel + 1, t =>
      match t with
      | '"' :: rest => (readString (rest.length + 1) rest).map fun read => (.str read.1, read.2)
      | '[' :: rest =>
          match skip rest with
          | ']' :: rest => some (.arr [], rest)
          | rest => (readItems fuel rest).map fun read => (.arr read.1, read.2)
      | '{' :: rest =>
          match skip rest with
          | '}' :: rest => some (.obj [], rest)
          | rest => (readEntries fuel rest).map fun read => (.obj read.1, read.2)
      | 'n' :: 'u' :: 'l' :: 'l' :: rest => some (.null, rest)
      | 't' :: 'r' :: 'u' :: 'e' :: rest => some (.bool true, rest)
      | 'f' :: 'a' :: 'l' :: 's' :: 'e' :: rest => some (.bool false, rest)
      | t => readNumber t
/-- The items of an array up to its closing bracket, from the first of them. -/
def readItems : Nat → Text → Option (List Json × Text)
  | 0, _ => none
  | fuel + 1, t => do
      let (item, rest) ← readValue fuel t
      match skip rest with
      | ',' :: rest => (readItems fuel (skip rest)).map fun read => (item :: read.1, read.2)
      | ']' :: rest => some ([item], rest)
      | _ => none
/-- The entries of an object up to its closing brace, from the first of them. -/
def readEntries : Nat → Text → Option (List (Text × Json) × Text)
  | 0, _ => none
  | fuel + 1, t =>
      match t with
      | '"' :: rest => do
          let (key, rest) ← readString (rest.length + 1) rest
          match skip rest with
          | ':' :: rest => do
              let (value, rest) ← readValue fuel (skip rest)
              match skip rest with
              | ',' :: rest =>
                  (readEntries fuel (skip rest)).map fun read => ((key, value) :: read.1, read.2)
              | '}' :: rest => some ([(key, value)], rest)
              | _ => none
          | _ => none
      | _ => none
end

/-- `json.loads(text)`, and `none` where it raises. -/
def loads (text : Text) : Option Json := do
  let (value, rest) ← readValue (text.length + 1) (skip text)
  if skip rest = [] then some value else none

/-! ## The round trip -/

mutual
/-- Every float of a value is written as the number it reads as. -/
def ReadsBack : Json → Prop
  | .float f => ∀ rest, Delimited rest → readNumber (f.text ++ rest) = some (.float f, rest)
  | .arr items => ReadsBackItems items
  | .obj entries => ReadsBackEntries entries
  | .null => True
  | .bool _ => True
  | .int _ => True
  | .str _ => True
def ReadsBackItems : List Json → Prop
  | [] => True
  | x :: xs => ReadsBack x ∧ ReadsBackItems xs
def ReadsBackEntries : List (Text × Json) → Prop
  | [] => True
  | (_, value) :: entries => ReadsBack value ∧ ReadsBackEntries entries
end

theorem skip_cons {c : Char} {rest : Text}
    (visible : (c == ' ' || c == '\t' || c == '\n' || c == '\r') = false) :
    skip (c :: rest) = c :: rest := by
  unfold skip
  rw [List.dropWhile_cons_of_neg]
  simp [visible]

/-- A written number starts with a digit or with its sign. -/
theorem lead_ofInt (i : Int) (rest : Text) :
    (Text.ofInt i ++ rest).head?.any (fun c => c.isDigit || c == '-') = true := by
  unfold Text.ofInt
  split_ifs
  · rfl
  · rw [List.head?_append_of_ne_nil _ (Text.ofNat_ne_nil _)]
    obtain ⟨c, tail, written⟩ := List.exists_cons_of_ne_nil (Text.ofNat_ne_nil i.natAbs)
    have digit := Text.isDigit_of_mem_ofNat (written ▸ List.mem_cons_self : c ∈ _)
    rw [written]
    simp [digit]

theorem lead_float (f : FloatLiteral) (rest : Text) :
    (f.text ++ rest).head?.any (fun c => c.isDigit || c == '-') = true := by
  have lead := f.lead
  cases text : f.text with
  | nil =>
    rw [text] at lead
    cases lead
  | cons c tail =>
    rw [text] at lead
    exact lead

theorem skip_number {t : Text} (lead : t.head?.any (fun c => c.isDigit || c == '-') = true) :
    skip t = t := by
  cases t with
  | nil => rfl
  | cons c rest =>
    apply skip_cons
    have lead : (c.isDigit || c == '-') = true := lead
    cases blank : c == ' ' || c == '\t' || c == '\n' || c == '\r' with
    | false => rfl
    | true =>
      simp only [Bool.or_eq_true, beq_iff_eq] at blank
      obtain ((rfl | rfl) | rfl) | rfl := blank <;> exact absurd lead (by decide)

theorem skip_render (j : Json) (rest : Text) : skip (render j ++ rest) = render j ++ rest := by
  cases j with
  | null => exact skip_cons (by decide)
  | bool value => cases value <;> exact skip_cons (by decide)
  | int i => exact skip_number (lead_ofInt i rest)
  | float f =>
    exact skip_number (lead_float f rest)
  | str s => exact skip_cons (by decide)
  | arr items => cases items <;> exact skip_cons (by decide)
  | obj entries => cases entries <;> exact skip_cons (by decide)

theorem readValue_number {t : Text} {fuel : Nat}
    (lead : t.head?.any (fun c => c.isDigit || c == '-') = true) :
    readValue (fuel + 1) t = readNumber t := by
  unfold readValue
  have not {c : Char} {rest : Text} (other : (c.isDigit || c == '-') = false)
      (first : t = c :: rest) : False := by
    subst first
    have lead : (c.isDigit || c == '-') = true := lead
    rw [other] at lead
    cases lead
  split
  · exact (not (by decide) rfl).elim
  · exact (not (by decide) rfl).elim
  · exact (not (by decide) rfl).elim
  · exact (not (by decide) rfl).elim
  · exact (not (by decide) rfl).elim
  · exact (not (by decide) rfl).elim
  · rfl

theorem readString_quote (s rest : Text) {tail : Text} (quoted : quote s ++ rest = '"' :: tail) :
    readString (tail.length + 1) tail = some (s, rest) := by
  have same : tail = s.flatMap escapeChar ++ '"' :: rest := by
    unfold quote at quoted
    rw [List.cons_append, List.append_assoc] at quoted
    exact (List.cons.inj quoted).2.symm
  have longer : s.length ≤ (s.flatMap escapeChar).length := by
    clear quoted same
    induction s with
    | nil => simp
    | cons c s ih =>
      have written : 0 < (escapeChar c).length := by
        unfold escapeChar
        split_ifs <;> simp
      rw [List.flatMap_cons, List.length_append, List.length_cons]
      omega
  rw [same]
  apply readString_escaped
  rw [List.length_append]
  omega

/-- No value starts like the end of an array. -/
theorem render_ne_bracket (j : Json) (tail rest : Text) : render j ++ tail ≠ ']' :: rest := by
  have number {t : Text} (lead : t.head?.any (fun c => c.isDigit || c == '-') = true) :
      t ≠ ']' :: rest := by
    rintro rfl
    have lead : (']'.isDigit || ']' == '-') = true := lead
    exact absurd lead (by decide)
  cases j with
  | null => exact fun heq => by cases heq
  | bool value => cases value <;> exact fun heq => by cases heq
  | int i => exact number (lead_ofInt i tail)
  | float f => exact number (lead_float f tail)
  | str s => exact fun heq => by cases heq
  | arr items => cases items <;> exact fun heq => by cases heq
  | obj entries => cases entries <;> exact fun heq => by cases heq

/-- The last entry of an object is read from its key, its colon and its value. -/
theorem readEntries_last {key : Text} {value : Json} {tail rest : Text} {fuel : Nat}
    (read : readValue fuel (render value ++ tail) = some (value, tail))
    (closed : skip tail = '}' :: rest) :
    readEntries (fuel + 1) (quote key ++ ':' :: (render value ++ tail)) =
      some ([(key, value)], rest) := by
  have quoted : quote key ++ ':' :: (render value ++ tail) =
      '"' :: (key.flatMap escapeChar ++ ['"'] ++ ':' :: (render value ++ tail)) := rfl
  have colon : skip (':' :: (render value ++ tail)) = ':' :: (render value ++ tail) :=
    skip_cons (by decide)
  have inside := readString_quote key (':' :: (render value ++ tail)) quoted
  rw [quoted, readEntries, inside]
  simp only [Option.bind_eq_bind, Option.bind_some, colon, skip_render, read, closed]

/-- An entry before others is read from its key, its colon and its value. -/
theorem readEntries_more {key : Text} {value : Json} {tail more rest : Text} {fuel : Nat}
    {entries : List (Text × Json)}
    (read : readValue fuel (render value ++ tail) = some (value, tail))
    (comma : skip tail = ',' :: more) (others : readEntries fuel (skip more) = some (entries, rest)) :
    readEntries (fuel + 1) (quote key ++ ':' :: (render value ++ tail)) =
      some ((key, value) :: entries, rest) := by
  have quoted : quote key ++ ':' :: (render value ++ tail) =
      '"' :: (key.flatMap escapeChar ++ ['"'] ++ ':' :: (render value ++ tail)) := rfl
  have colon : skip (':' :: (render value ++ tail)) = ':' :: (render value ++ tail) :=
    skip_cons (by decide)
  have inside := readString_quote key (':' :: (render value ++ tail)) quoted
  rw [quoted, readEntries, inside]
  simp only [Option.bind_eq_bind, Option.bind_some, colon, skip_render, read, comma, others,
    Option.map_some]

mutual
/-- A written value is read back, whatever delimiter follows it. -/
theorem readValue_render : ∀ (j : Json) {rest : Text} {fuel : Nat}, ReadsBack j → Delimited rest →
    (render j).length ≤ fuel → readValue (fuel + 1) (render j ++ rest) = some (j, rest)
  | .null, _, _, _, _, _ => rfl
  | .bool true, _, _, _, _, _ => rfl
  | .bool false, _, _, _, _, _ => rfl
  | .int i, rest, _, _, delimited, _ => by
    rw [render, readValue_number (lead_ofInt i rest), readNumber_ofInt i delimited]
  | .float f, rest, _, readsBack, delimited, _ => by
    rw [render, readValue_number (lead_float f rest), readsBack rest delimited]
  | .str s, rest, fuel, _, _, _ => by
    have quoted : quote s ++ rest = '"' :: (s.flatMap escapeChar ++ ['"'] ++ rest) := rfl
    rw [render, quoted, readValue, readString_quote s rest quoted]
    rfl
  | .arr [], _, _, _, _, _ => rfl
  | .arr (x :: xs), rest, fuel, readsBack, _, enough => by
    rw [render, List.length_cons] at enough
    obtain ⟨fuel, rfl⟩ : ∃ k, fuel = k + 1 := ⟨fuel - 1, by omega⟩
    have items := @readItems_render x xs rest fuel readsBack (by omega)
    have opening : render (.arr (x :: xs)) ++ rest =
        '[' :: (render x ++ (renderItems xs ++ rest)) := by
      rw [render, List.cons_append, List.append_assoc]
    rw [opening, readValue, skip_render]
    split
    · next heq => exact absurd heq (render_ne_bracket x _ _)
    · rw [items]
      rfl
  | .obj [], _, _, _, _, _ => rfl
  | .obj ((key, value) :: entries), rest, fuel, readsBack, _, enough => by
    rw [render, List.length_cons] at enough
    obtain ⟨fuel, rfl⟩ : ∃ k, fuel = k + 1 := ⟨fuel - 1, by omega⟩
    have entries' := @readEntries_render key value entries rest fuel readsBack (by omega)
    have opening : render (.obj ((key, value) :: entries)) ++ rest =
        '{' :: (quote key ++ ':' :: (render value ++ (renderEntries entries ++ rest))) := by
      simp [render]
    rw [opening, readValue]
    have skipped : skip (quote key ++ ':' :: (render value ++ (renderEntries entries ++ rest))) =
        quote key ++ ':' :: (render value ++ (renderEntries entries ++ rest)) := skip_cons (by decide)
    rw [skipped]
    split
    · next heq => cases heq
    · rw [entries']
      rfl
termination_by j => sizeOf j
theorem readItems_render : ∀ (x : Json) (xs : List Json) {rest : Text} {fuel : Nat},
    ReadsBackItems (x :: xs) → (render x ++ renderItems xs).length ≤ fuel →
    readItems (fuel + 1) (render x ++ (renderItems xs ++ rest)) = some (x :: xs, rest)
  | x, [], rest, fuel, readsBack, enough => by
    rw [List.length_append] at enough
    have one : 1 ≤ (renderItems []).length := by simp [renderItems]
    obtain ⟨fuel, rfl⟩ : ∃ k, fuel = k + 1 := ⟨fuel - 1, by omega⟩
    have value := @readValue_render x (renderItems [] ++ rest) fuel readsBack.1
      (delimited_cons (by decide)) (by omega)
    rw [readItems, value]
    rfl
  | x, y :: ys, rest, fuel, readsBack, enough => by
    rw [List.length_append, renderItems, List.length_cons] at enough
    obtain ⟨fuel, rfl⟩ : ∃ k, fuel = k + 1 := ⟨fuel - 1, by omega⟩
    have value := @readValue_render x (renderItems (y :: ys) ++ rest) fuel readsBack.1
      (delimited_cons (by decide)) (by omega)
    have others := @readItems_render y ys rest fuel readsBack.2 (by omega)
    have comma : skip (renderItems (y :: ys) ++ rest) =
        ',' :: (render y ++ (renderItems ys ++ rest)) := by
      rw [renderItems, List.cons_append, List.append_assoc]
      exact skip_cons (by decide)
    rw [readItems, value]
    simp only [Option.bind_eq_bind, Option.bind_some, comma, skip_render, others, Option.map_some]
termination_by x xs => sizeOf x + sizeOf xs + 1
theorem readEntries_render : ∀ (key : Text) (value : Json) (entries : List (Text × Json))
    {rest : Text} {fuel : Nat}, ReadsBackEntries ((key, value) :: entries) →
    (quote key ++ ':' :: (render value ++ renderEntries entries)).length ≤ fuel →
    readEntries (fuel + 1) (quote key ++ ':' :: (render value ++ (renderEntries entries ++ rest))) =
      some ((key, value) :: entries, rest)
  | key, value, [], rest, fuel, readsBack, enough => by
    rw [List.length_append, List.length_cons, List.length_append] at enough
    have one : 1 ≤ (renderEntries []).length := by simp [renderEntries]
    obtain ⟨fuel, rfl⟩ : ∃ k, fuel = k + 1 := ⟨fuel - 1, by omega⟩
    have read := @readValue_render value (renderEntries [] ++ rest) fuel readsBack.1
      (delimited_cons (by decide)) (by omega)
    exact readEntries_last read (skip_cons (by decide))
  | key, value, (key', value') :: entries, rest, fuel, readsBack, enough => by
    rw [List.length_append, List.length_cons, List.length_append, renderEntries,
      List.length_cons] at enough
    obtain ⟨fuel, rfl⟩ : ∃ k, fuel = k + 1 := ⟨fuel - 1, by omega⟩
    have read := @readValue_render value (renderEntries ((key', value') :: entries) ++ rest) fuel
      readsBack.1 (delimited_cons (by decide)) (by omega)
    have others := @readEntries_render key' value' entries rest fuel readsBack.2 (by omega)
    have comma : skip (renderEntries ((key', value') :: entries) ++ rest) =
        ',' :: (quote key' ++ ':' :: (render value' ++ (renderEntries entries ++ rest))) := by
      rw [renderEntries, List.cons_append, List.append_assoc, List.cons_append, List.append_assoc]
      exact skip_cons (by decide)
    have opening : skip (quote key' ++ ':' :: (render value' ++ (renderEntries entries ++ rest))) =
        quote key' ++ ':' :: (render value' ++ (renderEntries entries ++ rest)) :=
      skip_cons (by decide)
    rw [← opening] at others
    exact readEntries_more read comma others
termination_by _ value entries => sizeOf value + sizeOf entries + 1
end

/-- What is written is read back, up to the order of the keys. -/
theorem loads_dumps {j : Json} (readsBack : ReadsBack (sortKeys j)) :
    loads (dumps j) = some (sortKeys j) := by
  have read := @readValue_render (sortKeys j) [] (dumps j).length readsBack delimited_nil le_rfl
  have skipped := skip_render (sortKeys j) []
  rw [List.append_nil] at read skipped
  unfold loads
  rw [dumps, skipped]
  rw [dumps] at read
  rw [read]
  rfl

/-! ## What is read reads back -/

/-- The digits of a whole number: a zero, or digits that do not start with one. -/
def Whole (digits : Text) : Prop :=
  digits = ['0'] ∨ digits ≠ [] ∧ digits.head? ≠ some '0' ∧ ∀ c ∈ digits, c.isDigit = true

/-- A part of a number that is absent, or a mark, perhaps a sign, and digits. -/
def Marked (mark : Char) (signs : List Text) (part : Text) : Prop :=
  part = [] ∨ ∃ sign ∈ signs, ∃ digits ≠ [], (∀ c ∈ digits, c.isDigit = true) ∧
    part = mark :: (sign ++ digits)

theorem isDigit_of_mem_takeWhile {t : Text} : ∀ c ∈ t.takeWhile Char.isDigit, c.isDigit = true :=
  fun _ member => List.mem_takeWhile_imp member

/-- Digits are read up to the first character that is none. -/
theorem takeWhile_stops {digits rest : Text} (all : ∀ c ∈ digits, c.isDigit = true)
    (stops : ∀ c, rest.head? = some c → c.isDigit = false) :
    (digits ++ rest).takeWhile Char.isDigit = digits ∧
      (digits ++ rest).dropWhile Char.isDigit = rest := by
  rw [List.takeWhile_append_of_pos all, List.dropWhile_append_of_pos all]
  cases rest with
  | nil => simp
  | cons c rest => simp [stops c rfl]

theorem whole_of_readWhole {t whole rest : Text} (read : readWhole t = some (whole, rest)) :
    Whole whole := by
  unfold readWhole at read
  split at read
  · cases read
    exact Or.inl rfl
  · next notZero =>
    split_ifs at read with empty
    cases read
    refine Or.inr ⟨empty, ?_, isDigit_of_mem_takeWhile⟩
    cases t with
    | nil => exact absurd rfl empty
    | cons c t =>
      rw [List.takeWhile_cons]
      split_ifs with digit
      · rintro first
        cases first
        exact notZero _ rfl
      · simp

theorem marked_of_readFraction (t : Text) : Marked '.' [[]] (readFraction t).1 := by
  unfold readFraction
  split
  · next rest =>
    split_ifs with empty
    · exact Or.inl rfl
    · exact Or.inr ⟨[], by simp, _, empty, isDigit_of_mem_takeWhile, rfl⟩
  · exact Or.inl rfl

theorem mem_signs_of_readSign (t : Text) : (readSign t).1 ∈ [[], ['-'], ['+']] := by
  unfold readSign
  split <;> simp

theorem marked_of_readExponent (t : Text) :
    Marked 'e' [[], ['-'], ['+']] (readExponent t).1 := by
  unfold readExponent
  split
  · next c rest =>
    dsimp only
    split_ifs with mark empty
    · exact Or.inl rfl
    · exact Or.inr ⟨_, mem_signs_of_readSign rest, _, empty, isDigit_of_mem_takeWhile, rfl⟩
    · exact Or.inl rfl
  · exact Or.inl rfl

/-- What follows the whole digits of a number does not start with a digit. -/
theorem head_marked_append {mark : Char} {signs : List Text} {part rest : Text}
    (marked : Marked mark signs part) (notDigit : mark.isDigit = false)
    (stops : ∀ c, rest.head? = some c → c.isDigit = false) :
    ∀ c, (part ++ rest).head? = some c → c.isDigit = false := by
  intro c first
  rcases marked with rfl | ⟨sign, _, digits, _, _, rfl⟩
  · exact stops c first
  · cases first
    exact notDigit

theorem not_isDigit_of_delimited {rest : Text} (delimited : Delimited rest) :
    ∀ c, rest.head? = some c → c.isDigit = false := by
  intro c first
  rcases delimited c first with rfl | rfl | rfl <;> decide

theorem readWhole_whole {whole rest : Text} (shape : Whole whole)
    (stops : ∀ c, rest.head? = some c → c.isDigit = false) :
    readWhole (whole ++ rest) = some (whole, rest) := by
  rcases shape with rfl | ⟨nonempty, notZero, digits⟩
  · rfl
  · obtain ⟨taken, dropped⟩ := takeWhile_stops digits stops
    unfold readWhole
    split
    · next tail heq =>
      have first : (whole ++ rest).head? = whole.head? := List.head?_append_of_ne_nil _ nonempty
      rw [← first, heq] at notZero
      exact absurd rfl notZero
    · rw [taken, dropped, if_neg nonempty]

theorem readFraction_marked {fraction rest : Text} (shape : Marked '.' [[]] fraction)
    (stops : ∀ c, rest.head? = some c → c.isDigit = false ∧ c ≠ '.') :
    readFraction (fraction ++ rest) = (fraction, rest) := by
  rcases shape with rfl | ⟨sign, isSign, digits, nonempty, all, rfl⟩
  · cases rest with
    | nil => rfl
    | cons c rest =>
      unfold readFraction
      split
      · next heq =>
        cases heq
        exact absurd rfl (stops '.' rfl).2
      · rfl
  · obtain rfl := List.mem_singleton.mp isSign
    obtain ⟨taken, dropped⟩ := takeWhile_stops all fun c first => (stops c first).1
    rw [List.cons_append, List.nil_append, readFraction, taken, dropped, if_neg nonempty]

theorem readSign_signed {sign digits rest : Text} (isSign : sign ∈ [[], ['-'], ['+']])
    (nonempty : digits ≠ []) (all : ∀ c ∈ digits, c.isDigit = true) :
    readSign (sign ++ (digits ++ rest)) = (sign, digits ++ rest) := by
  simp only [List.mem_cons, List.not_mem_nil, or_false] at isSign
  rcases isSign with rfl | rfl | rfl
  · obtain ⟨d, tail, rfl⟩ := List.exists_cons_of_ne_nil nonempty
    have digit := all d List.mem_cons_self
    unfold readSign
    split
    · next heq =>
      cases heq
      exact absurd digit (by decide)
    · next heq =>
      cases heq
      exact absurd digit (by decide)
    · rfl
  · rfl
  · rfl

theorem readExponent_marked {exponent rest : Text}
    (shape : Marked 'e' [[], ['-'], ['+']] exponent) (delimited : Delimited rest) :
    readExponent (exponent ++ rest) = (exponent, rest) := by
  rcases shape with rfl | ⟨sign, isSign, digits, nonempty, all, rfl⟩
  · cases rest with
    | nil => rfl
    | cons c rest =>
      rcases delimited c rfl with rfl | rfl | rfl <;> simp [readExponent]
  · obtain ⟨taken, dropped⟩ := takeWhile_stops all (not_isDigit_of_delimited delimited)
    rw [List.cons_append, List.append_assoc, readExponent]
    simp only [readSign_signed isSign nonempty all, taken, dropped, if_neg nonempty, true_or,
      if_true]

theorem floatOf_text {text : Text} {literal : FloatLiteral} (read : floatOf text = some literal) :
    literal.text = text := by
  unfold floatOf at read
  split_ifs at read
  cases read
  rfl

/-- A number that was read, and written as it was read, is read again. -/
theorem readsBack_of_readMagnitude {negative : Bool} {t rest : Text} {value : Json}
    (read : readMagnitude negative t = some (value, rest)) : ReadsBack value := by
  unfold readMagnitude at read
  simp only [Option.bind_eq_bind, Option.bind_eq_some_iff] at read
  obtain ⟨⟨whole, after⟩, readWhole', read⟩ := read
  have shape := whole_of_readWhole readWhole'
  have shape' := marked_of_readFraction after
  have shape'' := marked_of_readExponent (readFraction after).2
  simp only at read
  split at read
  · cases read
    trivial
  next plain =>
  obtain ⟨literal, isFloat, read⟩ := Option.bind_eq_some_iff.mp read
  cases read
  have text := floatOf_text isFloat
  intro tail delimited
  generalize (readFraction after).1 = fraction at *
  generalize (readExponent (readFraction after).2).1 = exponent at *
  have stops := head_marked_append shape'' (by decide) (not_isDigit_of_delimited delimited)
  have noPoint : ∀ c, (exponent ++ tail).head? = some c → c.isDigit = false ∧ c ≠ '.' := by
    intro c first
    refine ⟨stops c first, ?_⟩
    rcases shape'' with rfl | ⟨sign, _, digits, _, _, rfl⟩
    · rcases delimited c first with rfl | rfl | rfl <;> decide
    · cases first
      decide
  have magnitude : ∀ negative', floatOf ((if negative' then ['-'] else []) ++ whole ++ fraction ++
      exponent) = some literal →
      readMagnitude negative' (whole ++ (fraction ++ (exponent ++ tail))) =
        some (.float literal, tail) := by
    intro negative' isFloat'
    unfold readMagnitude
    rw [readWhole_whole shape (head_marked_append shape' (by decide) stops)]
    simp only [Option.bind_eq_bind, Option.bind_some, readFraction_marked shape' noPoint,
      readExponent_marked shape'' delimited, if_neg plain]
    rw [isFloat']
    rfl
  rw [text]
  cases negative with
  | true => simpa [readNumber] using magnitude true isFloat
  | false =>
    have unsigned := magnitude false isFloat
    have first : (whole ++ (fraction ++ (exponent ++ tail))).head? ≠ some '-' := by
      rcases shape with rfl | ⟨nonempty, _, digits⟩
      · simp
      · rw [List.head?_append_of_ne_nil _ nonempty]
        intro minus
        exact absurd (digits '-' (List.mem_of_mem_head? minus)) (by decide)
    have same : (if false then ['-'] else []) ++ whole ++ fraction ++ exponent ++ tail =
        whole ++ (fraction ++ (exponent ++ tail)) := by simp
    rw [same]
    unfold readNumber
    split
    · next heq =>
      rw [heq] at first
      exact absurd rfl first
    · exact unsigned

theorem readsBack_of_readNumber {t rest : Text} {value : Json}
    (read : readNumber t = some (value, rest)) : ReadsBack value := by
  unfold readNumber at read
  split at read
  · exact readsBack_of_readMagnitude read
  · exact readsBack_of_readMagnitude read

/-- A value, items or entries that were read read back. -/
theorem readsBack_of_read (fuel : Nat) :
    (∀ t value rest, readValue fuel t = some (value, rest) → ReadsBack value) ∧
      (∀ t items rest, readItems fuel t = some (items, rest) → ReadsBackItems items) ∧
      ∀ t entries rest, readEntries fuel t = some (entries, rest) → ReadsBackEntries entries := by
  induction fuel with
  | zero =>
    refine ⟨fun t value rest read => ?_, fun t items rest read => ?_,
      fun t entries rest read => ?_⟩ <;> cases read
  | succ fuel ih =>
    obtain ⟨ihValue, ihItems, ihEntries⟩ := ih
    refine ⟨fun t value rest read => ?_, fun t items rest read => ?_,
      fun t entries rest read => ?_⟩
    · unfold readValue at read
      split at read
      · obtain ⟨_, _, same⟩ := Option.map_eq_some_iff.mp read
        cases same
        trivial
      · split at read
        · cases read
          trivial
        · obtain ⟨⟨items, _⟩, inside, same⟩ := Option.map_eq_some_iff.mp read
          cases same
          exact ihItems _ _ _ inside
      · split at read
        · cases read
          trivial
        · obtain ⟨⟨entries, _⟩, inside, same⟩ := Option.map_eq_some_iff.mp read
          cases same
          exact ihEntries _ _ _ inside
      · cases read
        trivial
      · cases read
        trivial
      · cases read
        trivial
      · exact readsBack_of_readNumber read
    · unfold readItems at read
      simp only [Option.bind_eq_bind] at read
      obtain ⟨⟨item, after⟩, first, read⟩ := Option.bind_eq_some_iff.mp read
      simp only at read
      split at read
      · obtain ⟨⟨others, _⟩, more, same⟩ := Option.map_eq_some_iff.mp read
        cases same
        exact ⟨ihValue _ _ _ first, ihItems _ _ _ more⟩
      · cases read
        exact ⟨ihValue _ _ _ first, trivial⟩
      · cases read
    · unfold readEntries at read
      split at read
      · simp only [Option.bind_eq_bind] at read
        obtain ⟨⟨key, after⟩, _, read⟩ := Option.bind_eq_some_iff.mp read
        simp only at read
        split at read
        · obtain ⟨⟨value, after⟩, first, read⟩ := Option.bind_eq_some_iff.mp read
          simp only at read
          split at read
          · obtain ⟨⟨others, _⟩, more, same⟩ := Option.map_eq_some_iff.mp read
            cases same
            exact ⟨ihValue _ _ _ first, ihEntries _ _ _ more⟩
          · cases read
            exact ⟨ihValue _ _ _ first, trivial⟩
          · cases read
        · cases read
      · cases read

theorem readsBack_of_loads {text : Text} {value : Json} (read : loads text = some value) :
    ReadsBack value := by
  unfold loads at read
  simp only [Option.bind_eq_bind] at read
  obtain ⟨⟨value', rest⟩, inside, read⟩ := Option.bind_eq_some_iff.mp read
  simp only at read
  split_ifs at read
  cases read
  exact (readsBack_of_read _).1 _ _ _ inside

/-! ## The keys of an object -/

mutual
/-- Whether no object of a value has two entries of one key. -/
def distinctKeys : Json → Bool
  | .arr items => distinctKeysItems items
  | .obj entries => decide (entries.map Prod.fst).Nodup && distinctKeysEntries entries
  | .null => true
  | .bool _ => true
  | .int _ => true
  | .float _ => true
  | .str _ => true
def distinctKeysItems : List Json → Bool
  | [] => true
  | x :: xs => distinctKeys x && distinctKeysItems xs
def distinctKeysEntries : List (Text × Json) → Bool
  | [] => true
  | (_, value) :: entries => distinctKeys value && distinctKeysEntries entries
end

theorem readsBackEntries_iff {entries : List (Text × Json)} :
    ReadsBackEntries entries ↔ ∀ entry ∈ entries, ReadsBack entry.2 := by
  induction entries with
  | nil => simp [ReadsBackEntries]
  | cons entry entries ih => simp [ReadsBackEntries, ih]

theorem distinctKeysEntries_iff {entries : List (Text × Json)} :
    distinctKeysEntries entries = true ↔ ∀ entry ∈ entries, distinctKeys entry.2 = true := by
  induction entries with
  | nil => simp [distinctKeysEntries]
  | cons entry entries ih => simp [distinctKeysEntries, ih]

theorem keys_sortKeysEntries (entries : List (Text × Json)) :
    (sortKeysEntries entries).map Prod.fst = entries.map Prod.fst := by
  induction entries with
  | nil => rfl
  | cons entry entries ih => simp [sortKeysEntries, ih]

mutual
/-- Sorting the keys keeps every number. -/
theorem readsBack_sortKeys : ∀ {j : Json}, ReadsBack j → ReadsBack (sortKeys j)
  | .null, _ => trivial
  | .bool _, _ => trivial
  | .int _, _ => trivial
  | .float _, readsBack => readsBack
  | .str _, _ => trivial
  | .arr _, readsBack => readsBackItems_sortKeys readsBack
  | .obj entries, readsBack => by
    have inside := readsBackEntries_iff.mp (@readsBackEntries_sortKeys entries readsBack)
    exact readsBackEntries_iff.mpr fun entry member =>
      inside entry ((List.mem_insertionSort _).mp member)
theorem readsBackItems_sortKeys : ∀ {xs : List Json}, ReadsBackItems xs →
    ReadsBackItems (sortKeysItems xs)
  | [], _ => trivial
  | _ :: _, readsBack => ⟨readsBack_sortKeys readsBack.1, readsBackItems_sortKeys readsBack.2⟩
theorem readsBackEntries_sortKeys : ∀ {entries : List (Text × Json)}, ReadsBackEntries entries →
    ReadsBackEntries (sortKeysEntries entries)
  | [], _ => trivial
  | _ :: _, readsBack => ⟨readsBack_sortKeys readsBack.1, readsBackEntries_sortKeys readsBack.2⟩
end

mutual
/-- Sorting the keys keeps them apart. -/
theorem distinctKeys_sortKeys : ∀ {j : Json}, distinctKeys j = true →
    distinctKeys (sortKeys j) = true
  | .null, _ => rfl
  | .bool _, _ => rfl
  | .int _, _ => rfl
  | .float _, _ => rfl
  | .str _, _ => rfl
  | .arr items, distinct => @distinctKeysItems_sortKeys items distinct
  | .obj entries, distinct => by
    rw [distinctKeys, Bool.and_eq_true, decide_eq_true_eq] at distinct
    have inside := distinctKeysEntries_iff.mp (@distinctKeysEntries_sortKeys entries distinct.2)
    have sorted := List.perm_insertionSort (fun a b => a.1 ≤ b.1) (sortKeysEntries entries)
    rw [sortKeys, distinctKeys, Bool.and_eq_true, decide_eq_true_eq]
    refine ⟨?_, distinctKeysEntries_iff.mpr fun entry member => inside entry ?_⟩
    · rw [(sorted.map Prod.fst).nodup_iff, keys_sortKeysEntries]
      exact distinct.1
    · exact (List.mem_insertionSort _).mp member
theorem distinctKeysItems_sortKeys : ∀ {xs : List Json}, distinctKeysItems xs = true →
    distinctKeysItems (sortKeysItems xs) = true
  | [], _ => rfl
  | _ :: _, distinct => by
    rw [distinctKeysItems, Bool.and_eq_true] at distinct
    rw [sortKeysItems, distinctKeysItems, distinctKeys_sortKeys distinct.1,
      distinctKeysItems_sortKeys distinct.2]
    rfl
theorem distinctKeysEntries_sortKeys : ∀ {entries : List (Text × Json)},
    distinctKeysEntries entries = true → distinctKeysEntries (sortKeysEntries entries) = true
  | [], _ => rfl
  | (_, _) :: _, distinct => by
    rw [distinctKeysEntries, Bool.and_eq_true] at distinct
    rw [sortKeysEntries, distinctKeysEntries, distinctKeys_sortKeys distinct.1,
      distinctKeysEntries_sortKeys distinct.2]
    rfl
end

end Json

end CovenantRadar
