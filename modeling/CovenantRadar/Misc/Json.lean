import CovenantRadar.Python.Text
import Mathlib.Data.List.Sort

/-!
# Compact JSON text

The writer of `json.dumps(..., ensure_ascii=False, sort_keys=True,
separators=(",", ":"), allow_nan=False)` over an arbitrary value tree, and the
fact the digests rest on: the written text determines the value. Nothing here
depends on what is being encoded.
-/

namespace CovenantRadar

/-- The characters a JSON number is written with. -/
def isNumberChar (c : Char) : Bool :=
  c.isDigit || c == '-' || c == '+' || c == '.' || c == 'e'

/-- A finite `float`, identified by its `repr`: Python writes each finite float by
    its shortest round-trip text, which always has a point or an exponent. -/
structure FloatLiteral where
  text : Text
  numeric : text.all isNumberChar = true
  marked : text.any (fun c => c == '.' || c == 'e') = true
  lead : text.head?.any (fun c => c.isDigit || c == '-') = true
  deriving DecidableEq

/-- A value `json.dumps` can write: an object is its list of entries. -/
inductive Json where
  | null
  | bool (value : Bool)
  | int (value : Int)
  | float (value : FloatLiteral)
  | str (value : Text)
  | arr (items : List Json)
  | obj (entries : List (Text × Json))

namespace Json

/-! ## Strings -/

/-- One character inside a JSON string, escaped as `json.encoder.ESCAPE` does. -/
def escapeChar (c : Char) : Text :=
  if c = '"' then ['\\', '"']
  else if c = '\\' then ['\\', '\\']
  else if c = '\n' then ['\\', 'n']
  else if c = '\r' then ['\\', 'r']
  else if c = '\t' then ['\\', 't']
  else if c.toNat = 12 then ['\\', 'f']
  else if c.toNat = 8 then ['\\', 'b']
  else if c.toNat < 32 then
    ['\\', 'u', '0', '0', Nat.digitChar (c.toNat / 16), Nat.digitChar (c.toNat % 16)]
  else [c]

/-- A quoted JSON string. -/
def quote (t : Text) : Text := '"' :: (t.flatMap escapeChar ++ ['"'])

/-- The value of a lowercase hexadecimal digit. -/
def hexValue (c : Char) : Nat := if c.isDigit then c.toNat - 48 else c.toNat - 87

/-- Reads one escaped character back. -/
def readChar : Text → Option (Char × Text)
  | '\\' :: 'u' :: '0' :: '0' :: high :: low :: rest =>
      some (Char.ofNat (16 * hexValue high + hexValue low), rest)
  | '\\' :: code :: rest =>
      if code = 'n' then some ('\n', rest)
      else if code = 'r' then some ('\r', rest)
      else if code = 't' then some ('\t', rest)
      else if code = 'f' then some (Char.ofNat 12, rest)
      else if code = 'b' then some (Char.ofNat 8, rest)
      else some (code, rest)
  | c :: rest => some (c, rest)
  | [] => none

private theorem ofNat_of_toNat {c : Char} {n : Nat} (code : c.toNat = n) : Char.ofNat n = c := by
  rw [← code, Char.ofNat_toNat]

private theorem escape_codes_printable :
    ∀ c ∈ ['\\', '"', 'n', 'r', 't', 'f', 'b', 'u', '0'], ¬ c.toNat < 32 :=
  forall_mem_of_all (by decide)

private theorem digitChar_printable : ∀ n < 16, ¬ (Nat.digitChar n).toNat < 32 := by decide

theorem readChar_escapeChar (c : Char) (rest : Text) :
    readChar (escapeChar c ++ rest) = some (c, rest) := by
  unfold escapeChar
  split_ifs with quote slash newline ret tab feed back control
  · simp [readChar, quote]
  · simp [readChar, slash]
  · simp [readChar, newline]
  · simp [readChar, ret]
  · simp [readChar, tab]
  · simp [readChar]
    exact ofNat_of_toNat feed
  · simp [readChar]
    exact ofNat_of_toNat back
  · have table : ∀ n < 32, 16 * hexValue (Nat.digitChar (n / 16)) +
        hexValue (Nat.digitChar (n % 16)) = n := by decide
    simp [readChar, table _ control]
  · simp [readChar, slash]

/-- Escaping is a prefix code: the first escaped character can be read off. -/
theorem escapeChar_append_inj {c d : Char} {rest rest' : Text}
    (same : escapeChar c ++ rest = escapeChar d ++ rest') : c = d ∧ rest = rest' := by
  have read := congrArg readChar same
  rw [readChar_escapeChar, readChar_escapeChar] at read
  simpa using read

/-- No escaped character starts with the closing quote. -/
theorem escapeChar_append_ne_quote (c : Char) (rest tail : Text) :
    escapeChar c ++ rest ≠ '"' :: tail := by
  unfold escapeChar
  split_ifs with quote <;> simp_all

/-- The body of a quoted string and what follows the closing quote are determined. -/
theorem flatMap_escapeChar_append_inj {s t rest rest' : Text}
    (same : s.flatMap escapeChar ++ '"' :: rest = t.flatMap escapeChar ++ '"' :: rest') :
    s = t ∧ rest = rest' := by
  induction s generalizing t with
  | nil =>
    cases t with
    | nil => exact ⟨rfl, (List.cons.inj same).2⟩
    | cons d t =>
      rw [List.flatMap_cons, List.append_assoc] at same
      exact absurd same.symm (escapeChar_append_ne_quote d _ _)
  | cons c s ih =>
    cases t with
    | nil =>
      rw [List.flatMap_cons, List.append_assoc] at same
      exact absurd same (escapeChar_append_ne_quote c _ _)
    | cons d t =>
      rw [List.flatMap_cons, List.flatMap_cons, List.append_assoc, List.append_assoc] at same
      obtain ⟨heads, tails⟩ := escapeChar_append_inj same
      obtain ⟨bodies, rests⟩ := ih tails
      exact ⟨by rw [heads, bodies], rests⟩

theorem quote_append_inj {s t rest rest' : Text} (same : quote s ++ rest = quote t ++ rest') :
    s = t ∧ rest = rest' := by
  simp only [quote, List.cons_append, List.append_assoc, List.nil_append, List.cons.injEq,
    true_and] at same
  exact flatMap_escapeChar_append_inj same

/-- Every character an escape is written with is printable. -/
theorem printable_of_mem_escapeChar {c d : Char} (member : c ∈ escapeChar d) :
    ¬ c.toNat < 32 := by
  have table := escape_codes_printable
  have pair : ∀ code ∈ ['\\', '"', 'n', 'r', 't', 'f', 'b', 'u', '0'],
      c ∈ ['\\', code] → ¬ c.toNat < 32 := by
    intro code listed either
    rcases List.mem_cons.mp either with rfl | same
    · exact table _ (by decide)
    · rw [List.mem_singleton.mp same]
      exact table code listed
  unfold escapeChar at member
  split_ifs at member with h1 h2 h3 h4 h5 h6 h7 small
  · exact pair _ (by decide) member
  · exact pair _ (by decide) member
  · exact pair _ (by decide) member
  · exact pair _ (by decide) member
  · exact pair _ (by decide) member
  · exact pair _ (by decide) member
  · exact pair _ (by decide) member
  · -- `\u00` and two hexadecimal digits
    simp only [List.mem_cons, List.not_mem_nil, or_false] at member
    rcases member with rfl | rfl | rfl | rfl | digit | digit
    · exact table _ (by decide)
    · exact table _ (by decide)
    · exact table _ (by decide)
    · exact table _ (by decide)
    · rw [digit]
      exact digitChar_printable _ (by omega)
    · rw [digit]
      exact digitChar_printable _ (by omega)
  · rw [List.mem_singleton.mp member]
    exact small

/-- A control character never stands raw in a quoted string. -/
theorem not_mem_quote_of_lt {c : Char} (control : c.toNat < 32) (t : Text) : c ∉ quote t := by
  have notQuote : c ≠ '"' := by
    rintro rfl
    exact absurd control (by decide)
  simp only [quote, List.mem_cons, List.mem_append, List.mem_flatMap, List.not_mem_nil, or_false,
    not_or, not_exists, not_and]
  exact ⟨notQuote, fun _ _ member => printable_of_mem_escapeChar member control, notQuote⟩

/-! ## Values -/

mutual
/-- The text `json.dumps` writes for a value whose keys are already in order. -/
def render : Json → Text
  | .null => ['n', 'u', 'l', 'l']
  | .bool true => ['t', 'r', 'u', 'e']
  | .bool false => ['f', 'a', 'l', 's', 'e']
  | .int i => Text.ofInt i
  | .float f => f.text
  | .str s => quote s
  | .arr [] => ['[', ']']
  | .arr (x :: xs) => '[' :: (render x ++ renderItems xs)
  | .obj [] => ['{', '}']
  | .obj ((key, value) :: entries) =>
      '{' :: (quote key ++ ':' :: (render value ++ renderEntries entries))
/-- The later items of an array, each after a comma, and the closing bracket. -/
def renderItems : List Json → Text
  | [] => [']']
  | x :: xs => ',' :: (render x ++ renderItems xs)
/-- The later entries of an object, each after a comma, and the closing brace. -/
def renderEntries : List (Text × Json) → Text
  | [] => ['}']
  | (key, value) :: entries =>
      ',' :: (quote key ++ ':' :: (render value ++ renderEntries entries))
end

mutual
/-- `sort_keys=True`: the entries of every object in key order. -/
def sortKeys : Json → Json
  | .arr items => .arr (sortKeysItems items)
  | .obj entries => .obj ((sortKeysEntries entries).insertionSort (fun a b => a.1 ≤ b.1))
  | .null => .null
  | .bool value => .bool value
  | .int value => .int value
  | .float value => .float value
  | .str value => .str value
def sortKeysItems : List Json → List Json
  | [] => []
  | x :: xs => sortKeys x :: sortKeysItems xs
def sortKeysEntries : List (Text × Json) → List (Text × Json)
  | [] => []
  | (key, value) :: entries => (key, sortKeys value) :: sortKeysEntries entries
end

/-- `json.dumps(value, ensure_ascii=False, sort_keys=True, separators=(",", ":"))`. -/
def dumps (value : Json) : Text := (sortKeys value).render

/-- What may follow a written value: nothing, or a character no number contains. -/
def Ends (rest : Text) : Prop := ∀ c, rest.head? = some c → isNumberChar c = false

theorem ends_nil : Ends [] := by
  intro c first
  cases first

theorem ends_cons {c : Char} {rest : Text} (delimiter : isNumberChar c = false) :
    Ends (c :: rest) := by
  intro d first
  cases first
  exact delimiter

theorem ends_renderItems (xs : List Json) (rest : Text) : Ends (renderItems xs ++ rest) := by
  cases xs <;> exact ends_cons (by decide)

theorem ends_renderEntries (es : List (Text × Json)) (rest : Text) :
    Ends (renderEntries es ++ rest) := by
  cases es <;> exact ends_cons (by decide)

/-- Numbers are read off up to the first character no number contains. -/
theorem number_append_inj {s t rest rest' : Text} (numS : s.all isNumberChar = true)
    (numT : t.all isNumberChar = true) (ends : Ends rest) (ends' : Ends rest')
    (same : s ++ rest = t ++ rest') : s = t ∧ rest = rest' := by
  have stop : ∀ {u tail : Text}, u.all isNumberChar = true → Ends tail →
      (u ++ tail).takeWhile isNumberChar = u := by
    intro u tail numeric ends
    rw [List.takeWhile_append_of_pos (by simpa using numeric)]
    cases tail with
    | nil => simp
    | cons c tail => simp [ends c rfl]
  have texts : s = t := by
    rw [← stop numS ends, same, stop numT ends']
  subst texts
  exact ⟨rfl, List.append_cancel_left same⟩

theorem ofInt_numeric (i : Int) : (Text.ofInt i).all isNumberChar = true := by
  have digits : ∀ n, (Text.ofNat n).all isNumberChar = true := by
    intro n
    rw [List.all_eq_true]
    intro c member
    simp [isNumberChar, Text.isDigit_of_mem_ofNat member]
  unfold Text.ofInt
  split_ifs
  · simp [digits, isNumberChar]
  · exact digits _

/-- An integer is never written like a float: it has neither point nor exponent. -/
theorem ofInt_ne_float (i : Int) (f : FloatLiteral) : Text.ofInt i ≠ f.text := by
  intro same
  have marked := f.marked
  rw [← same, List.any_eq_true] at marked
  obtain ⟨c, member, mark⟩ := marked
  have nonDigit : c.isDigit = false ∧ c ≠ '-' := by
    rcases (by simpa using mark : c = '.' ∨ c = 'e') with rfl | rfl <;> decide
  unfold Text.ofInt at member
  split_ifs at member
  · rcases List.mem_cons.mp member with minus | digit
    · exact nonDigit.2 minus
    · exact Text.not_mem_ofNat nonDigit.1 digit
  · exact Text.not_mem_ofNat nonDigit.1 member

/-- The syntactic class a text's first character announces. -/
def leadClass (t : Text) : Nat :=
  match t.head? with
  | some 'n' => 0
  | some 't' => 1
  | some 'f' => 2
  | some '"' => 3
  | some '[' => 4
  | some '{' => 5
  | some c => if c.isDigit || c == '-' then 6 else 7
  | none => 8

/-- The class of a value, as its first written character shows it. -/
def valueClass : Json → Nat
  | .null => 0
  | .bool true => 1
  | .bool false => 2
  | .str _ => 3
  | .arr _ => 4
  | .obj _ => 5
  | .int _ => 6
  | .float _ => 6

private theorem leadClass_number {c : Char} {rest : Text}
    (number : (c.isDigit || c == '-') = true) : leadClass (c :: rest) = 6 := by
  have different : c ≠ 'n' ∧ c ≠ 't' ∧ c ≠ 'f' ∧ c ≠ '"' ∧ c ≠ '[' ∧ c ≠ '{' := by
    refine ⟨?_, ?_, ?_, ?_, ?_, ?_⟩ <;> (rintro rfl; revert number; decide)
  simp [leadClass, different, number]

theorem leadClass_render (j : Json) (rest : Text) :
    leadClass (render j ++ rest) = valueClass j := by
  cases j with
  | null => rfl
  | bool value => cases value <;> rfl
  | str value => rfl
  | arr items => cases items <;> simp [render, leadClass, valueClass]
  | obj entries => rcases entries with _ | ⟨⟨key, value⟩, entries⟩ <;>
      simp [render, leadClass, valueClass]
  | int i =>
    simp only [render, valueClass, Text.ofInt]
    split_ifs
    · exact leadClass_number (by decide)
    · cases digits : Text.ofNat i.natAbs with
      | nil => exact absurd digits (Text.ofNat_ne_nil _)
      | cons c tail =>
        apply leadClass_number
        simp [Text.isDigit_of_mem_ofNat (n := i.natAbs) (digits ▸ List.mem_cons_self)]
  | float f =>
    simp only [render, valueClass]
    have lead := f.lead
    cases text : f.text with
    | nil => simp [text] at lead
    | cons c tail =>
      apply leadClass_number
      simpa [text] using lead

mutual
/-- A written value is delimited: followed by a character no number contains, it
    determines both the value and what follows. -/
theorem render_append_inj : ∀ (a b : Json) (rest rest' : Text), Ends rest → Ends rest' →
    render a ++ rest = render b ++ rest' → a = b ∧ rest = rest'
  | a, b, rest, rest', ends, ends', same => by
    have classes : valueClass a = valueClass b := by
      rw [← leadClass_render a rest, same, leadClass_render]
    match a, b with
    | .null, .null => exact ⟨rfl, List.append_cancel_left same⟩
    | .bool true, .bool true => exact ⟨rfl, List.append_cancel_left same⟩
    | .bool false, .bool false => exact ⟨rfl, List.append_cancel_left same⟩
    | .str s, .str t =>
      obtain ⟨texts, rests⟩ := quote_append_inj same
      exact ⟨by rw [texts], rests⟩
    | .int i, .int k =>
      obtain ⟨texts, rests⟩ := number_append_inj (ofInt_numeric i) (ofInt_numeric k) ends ends' same
      exact ⟨by rw [Text.ofInt_injective texts], rests⟩
    | .float f, .float g =>
      obtain ⟨texts, rests⟩ := number_append_inj f.numeric g.numeric ends ends' same
      refine ⟨?_, rests⟩
      cases f
      cases g
      simp_all
    | .int i, .float g =>
      obtain ⟨texts, -⟩ := number_append_inj (ofInt_numeric i) g.numeric ends ends' same
      exact absurd texts (ofInt_ne_float i g)
    | .float f, .int k =>
      obtain ⟨texts, -⟩ := number_append_inj f.numeric (ofInt_numeric k) ends ends' same
      exact absurd texts.symm (ofInt_ne_float k f)
    | .arr [], .arr [] => exact ⟨rfl, List.append_cancel_left same⟩
    | .arr [], .arr (y :: ys) =>
      simp only [render, List.cons_append, List.append_assoc, List.cons.injEq, true_and] at same
      have clash := leadClass_render y (renderItems ys ++ rest')
      rw [← same] at clash
      cases y <;> simp [leadClass, valueClass] at clash
      split at clash <;> simp at clash
    | .arr (x :: xs), .arr [] =>
      simp only [render, List.cons_append, List.append_assoc, List.cons.injEq, true_and] at same
      have clash := leadClass_render x (renderItems xs ++ rest)
      rw [same] at clash
      cases x <;> simp [leadClass, valueClass] at clash
      split at clash <;> simp at clash
    | .arr (x :: xs), .arr (y :: ys) =>
      simp only [render, List.cons_append, List.append_assoc, List.cons.injEq, true_and] at same
      obtain ⟨heads, tails⟩ := render_append_inj x y _ _ (ends_renderItems xs rest)
        (ends_renderItems ys rest') same
      obtain ⟨items, rests⟩ := renderItems_append_inj xs ys rest rest' tails
      exact ⟨by rw [heads, items], rests⟩
    | .obj [], .obj [] => exact ⟨rfl, List.append_cancel_left same⟩
    | .obj [], .obj ((key, value) :: es) =>
      simp [render, quote] at same
    | .obj ((key, value) :: es), .obj [] =>
      simp [render, quote] at same
    | .obj ((key, value) :: es), .obj ((key', value') :: es') =>
      simp only [render, List.cons_append, List.append_assoc, List.cons.injEq, true_and] at same
      obtain ⟨keys, tails⟩ := quote_append_inj same
      obtain ⟨values, more⟩ := render_append_inj value value' _ _ (ends_renderEntries es rest)
        (ends_renderEntries es' rest') (List.cons.inj tails).2
      obtain ⟨entries, rests⟩ := renderEntries_append_inj es es' rest rest' more
      exact ⟨by rw [keys, values, entries], rests⟩
theorem renderItems_append_inj : ∀ (xs ys : List Json) (rest rest' : Text),
    renderItems xs ++ rest = renderItems ys ++ rest' → xs = ys ∧ rest = rest'
  | [], [], _, _, same => ⟨rfl, (List.cons.inj same).2⟩
  | [], _ :: _, _, _, same => by simp [renderItems] at same
  | _ :: _, [], _, _, same => by simp [renderItems] at same
  | x :: xs, y :: ys, rest, rest', same => by
    simp only [renderItems, List.cons_append, List.append_assoc, List.cons.injEq, true_and] at same
    obtain ⟨heads, tails⟩ := render_append_inj x y _ _ (ends_renderItems xs rest)
      (ends_renderItems ys rest') same
    obtain ⟨items, rests⟩ := renderItems_append_inj xs ys rest rest' tails
    exact ⟨by rw [heads, items], rests⟩
theorem renderEntries_append_inj : ∀ (es es' : List (Text × Json)) (rest rest' : Text),
    renderEntries es ++ rest = renderEntries es' ++ rest' → es = es' ∧ rest = rest'
  | [], [], _, _, same => ⟨rfl, (List.cons.inj same).2⟩
  | [], (_, _) :: _, _, _, same => by simp [renderEntries] at same
  | (_, _) :: _, [], _, _, same => by simp [renderEntries] at same
  | (key, value) :: es, (key', value') :: es', rest, rest', same => by
    simp only [renderEntries, List.cons_append, List.append_assoc, List.cons.injEq,
      true_and] at same
    obtain ⟨keys, tails⟩ := quote_append_inj same
    obtain ⟨values, more⟩ := render_append_inj value value' _ _ (ends_renderEntries es rest)
      (ends_renderEntries es' rest') (List.cons.inj tails).2
    obtain ⟨entries, rests⟩ := renderEntries_append_inj es es' rest rest' more
    exact ⟨by rw [keys, values, entries], rests⟩
end

/-- The written text determines the value. -/
theorem render_injective : Function.Injective render := by
  intro a b same
  have delimited : render a ++ [] = render b ++ [] := by simpa using same
  exact (render_append_inj a b [] [] ends_nil ends_nil delimited).1

theorem dumps_inj {a b : Json} : dumps a = dumps b ↔ sortKeys a = sortKeys b :=
  render_injective.eq_iff

/-! ## Values already in key order -/

mutual
/-- Every object lists its keys in strictly increasing order. -/
def Ordered : Json → Prop
  | .arr items => OrderedItems items
  | .obj entries => entries.Pairwise (fun a b => a.1 < b.1) ∧ OrderedEntries entries
  | .null => True
  | .bool _ => True
  | .int _ => True
  | .float _ => True
  | .str _ => True
def OrderedItems : List Json → Prop
  | [] => True
  | x :: xs => Ordered x ∧ OrderedItems xs
def OrderedEntries : List (Text × Json) → Prop
  | [] => True
  | (_, value) :: entries => Ordered value ∧ OrderedEntries entries
end

mutual
/-- `sort_keys=True` leaves a value alone whose keys are in order. -/
theorem sortKeys_of_ordered : ∀ {j : Json}, Ordered j → sortKeys j = j
  | .null, _ => rfl
  | .bool _, _ => rfl
  | .int _, _ => rfl
  | .float _, _ => rfl
  | .str _, _ => rfl
  | .arr items, ordered => by
    rw [sortKeys, sortKeysItems_of_ordered ordered]
  | .obj entries, ordered => by
    rw [sortKeys, sortKeysEntries_of_ordered ordered.2]
    exact congrArg Json.obj (ordered.1.imp le_of_lt).insertionSort_eq
theorem sortKeysItems_of_ordered : ∀ {xs : List Json}, OrderedItems xs → sortKeysItems xs = xs
  | [], _ => rfl
  | x :: xs, ordered => by
    rw [sortKeysItems, sortKeys_of_ordered ordered.1, sortKeysItems_of_ordered ordered.2]
theorem sortKeysEntries_of_ordered : ∀ {es : List (Text × Json)}, OrderedEntries es →
    sortKeysEntries es = es
  | [], _ => rfl
  | (key, value) :: es, ordered => by
    rw [sortKeysEntries, sortKeys_of_ordered ordered.1, sortKeysEntries_of_ordered ordered.2]
end

theorem not_lt_of_isNumberChar {c : Char} (number : isNumberChar c = true) : ¬ c.toNat < 32 := by
  simp only [isNumberChar, Bool.or_eq_true, beq_iff_eq] at number
  rcases number with (((digit | rfl) | rfl) | rfl) | rfl
  · simp only [Char.isDigit, Bool.and_eq_true, decide_eq_true_eq] at digit
    have low : (48 : Nat) ≤ c.toNat := digit.1
    omega
  · decide
  · decide
  · decide
  · decide

private theorem not_mem_of_printable {c : Char} {t : Text} (control : c.toNat < 32)
    (printable : t.all (fun d => 32 ≤ d.toNat) = true) : c ∉ t := by
  intro member
  have code := List.all_eq_true.mp printable c member
  simp at code
  omega

mutual
/-- A control character is always escaped, so it never stands raw in JSON text. -/
theorem not_mem_render {c : Char} (control : c.toNat < 32) : ∀ j : Json, c ∉ render j
  | .null => not_mem_of_printable control (by decide)
  | .bool true => not_mem_of_printable control (by decide)
  | .bool false => not_mem_of_printable control (by decide)
  | .int i => fun member =>
      not_lt_of_isNumberChar (List.all_eq_true.mp (ofInt_numeric i) c member) control
  | .float f => fun member =>
      not_lt_of_isNumberChar (List.all_eq_true.mp f.numeric c member) control
  | .str s => not_mem_quote_of_lt control s
  | .arr [] => not_mem_of_printable control (by decide)
  | .arr (x :: xs) => by
    simp only [render, List.mem_cons, List.mem_append, not_or]
    refine ⟨?_, not_mem_render control x, not_mem_renderItems control xs⟩
    rintro rfl
    exact absurd control (by decide)
  | .obj [] => not_mem_of_printable control (by decide)
  | .obj ((key, value) :: es) => by
    simp only [render, List.mem_cons, List.mem_append, not_or]
    refine ⟨?_, not_mem_quote_of_lt control key, ?_, not_mem_render control value,
      not_mem_renderEntries control es⟩
    · rintro rfl
      exact absurd control (by decide)
    · rintro rfl
      exact absurd control (by decide)
theorem not_mem_renderItems {c : Char} (control : c.toNat < 32) :
    ∀ xs : List Json, c ∉ renderItems xs
  | [] => not_mem_of_printable control (by decide)
  | x :: xs => by
    simp only [renderItems, List.mem_cons, List.mem_append, not_or]
    refine ⟨?_, not_mem_render control x, not_mem_renderItems control xs⟩
    rintro rfl
    exact absurd control (by decide)
theorem not_mem_renderEntries {c : Char} (control : c.toNat < 32) :
    ∀ es : List (Text × Json), c ∉ renderEntries es
  | [] => not_mem_of_printable control (by decide)
  | (key, value) :: es => by
    simp only [renderEntries, List.mem_cons, List.mem_append, not_or]
    refine ⟨?_, not_mem_quote_of_lt control key, ?_, not_mem_render control value,
      not_mem_renderEntries control es⟩
    · rintro rfl
      exact absurd control (by decide)
    · rintro rfl
      exact absurd control (by decide)
end

theorem not_mem_dumps {c : Char} (control : c.toNat < 32) (j : Json) : c ∉ dumps j :=
  not_mem_render control _

end Json

end CovenantRadar
