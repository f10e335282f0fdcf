import CovenantRadar.Misc.Framing
import CovenantRadar.Python.Text
import Mathlib

/-!
# Paths and patterns

A path as its parts, each closed by a separator: one path is a prefix of another exactly if its parts
are. And an SQL `LIKE` pattern with an escape character, matched case by case: `%` stands for any
text, `_` for any character, and an escaped character for itself.
-/

namespace CovenantRadar

/-! ## Paths closed by a separator -/

section

variable {α : Type}

/-- The parts, each closed by the separator. -/
def closedBy (sep : α) (parts : List (List α)) : List α := parts.flatMap fun part => part ++ [sep]

theorem closedBy_cons (sep : α) (part : List α) (parts : List (List α)) :
    closedBy sep (part :: parts) = part ++ sep :: closedBy sep parts := by
  simp [closedBy]

theorem intercalate_append_separator (sep : α) (part : List α) (parts : List (List α)) :
    [sep].intercalate (part :: parts) ++ [sep] = closedBy sep (part :: parts) := by
  induction parts generalizing part with
  | nil => simp [List.intercalate, closedBy]
  | cons next parts ih =>
    rw [intercalate_cons_cons, closedBy_cons, ← ih, List.append_assoc, List.cons_append]

theorem closedBy_prefix_iff {sep : α} {parts whole : List (List α)}
    (clean : ∀ part ∈ parts, sep ∉ part) (clean' : ∀ part ∈ whole, sep ∉ part) :
    closedBy sep parts <+: closedBy sep whole ↔ parts <+: whole := by
  induction parts generalizing whole with
  | nil => exact ⟨fun _ => List.nil_prefix, fun _ => List.nil_prefix⟩
  | cons part parts ih =>
    cases whole with
    | nil => simp [closedBy]
    | cons first whole =>
      have rest := @ih whole (fun p listed => clean p (List.mem_cons_of_mem _ listed))
        fun p listed => clean' p (List.mem_cons_of_mem _ listed)
      rw [List.cons_prefix_cons, ← rest, closedBy_cons, closedBy_cons]
      constructor
      · rintro ⟨tail, same⟩
        rw [List.append_assoc, List.cons_append] at same
        obtain ⟨heads, tails⟩ := append_separator_inj (clean part List.mem_cons_self)
          (clean' first List.mem_cons_self) same
        exact ⟨heads, tail, tails⟩
      · rintro ⟨rfl, tail, same⟩
        exact ⟨tail, by rw [List.append_assoc, List.cons_append, same]⟩

end

/-! ## SQL `LIKE` -/

namespace Like

/-- A piece of a pattern. -/
inductive Token where
  | literal (c : Char)
  | anyChar
  | anyText

/-- A character that is not escaped. -/
def token (c : Char) : Token :=
  if c = '%' then .anyText else if c = '_' then .anyChar else .literal c

/-- The pieces of a pattern; `none` for one that ends with the escape character. -/
def tokens (escape : Char) : Text → Option (List Token)
  | [] => some []
  | [c] => if c = escape then none else some [token c]
  | c :: d :: rest =>
      if c = escape then (tokens escape rest).map (.literal d :: ·)
      else (tokens escape (d :: rest)).map (token c :: ·)

/-- Whether a text matches the pieces. -/
def accepts : List Token → Text → Bool
  | [], text => text.isEmpty
  | .literal c :: pieces, text =>
      match text with
      | [] => false
      | d :: rest => d == c && accepts pieces rest
  | .anyChar :: pieces, text =>
      match text with
      | [] => false
      | _ :: rest => accepts pieces rest
  | .anyText :: pieces, text => text.tails.any (accepts pieces)

/-- `text LIKE pattern ESCAPE escape`. -/
def matches' (escape : Char) (pattern text : Text) : Option Bool :=
  (tokens escape pattern).map fun pieces => accepts pieces text

theorem tokens_of_unescaped {escape : Char} {pattern : Text} (unescaped : escape ∉ pattern) :
    tokens escape pattern = some (pattern.map token) := by
  induction pattern with
  | nil => rfl
  | cons c rest ih =>
    have other : c ≠ escape := fun same => unescaped (same ▸ List.mem_cons_self)
    have following := ih fun listed => unescaped (List.mem_cons_of_mem _ listed)
    cases rest with
    | nil => simp [tokens, other]
    | cons d rest => simp [tokens, other, following]

/-- A pattern without wildcards but a last `%` is a test of the start of a text. -/
theorem accepts_stem (stem text : Text) :
    accepts (stem.map Token.literal ++ [.anyText]) text = stem.isPrefixOf text := by
  induction stem generalizing text with
  | nil =>
    have whole : [] ∈ text.tails := (List.mem_tails _ _).mpr List.nil_suffix
    have matched : text.tails.any (accepts []) = true := List.any_eq_true.mpr ⟨[], whole, rfl⟩
    exact matched
  | cons c stem ih =>
    cases text with
    | nil => rfl
    | cons d text =>
      have turned : (d == c) = (c == d) := Bool.beq_comm
      simp only [List.map_cons, List.cons_append, accepts, List.isPrefixOf, ih, turned]

theorem matches_stem {escape : Char} {stem : Text} (plain : ∀ c ∈ stem, c ≠ escape ∧ c ≠ '%' ∧ c ≠ '_')
    (sign : escape ≠ '%') (text : Text) :
    matches' escape (stem ++ ['%']) text = some (stem.isPrefixOf text) := by
  have unescaped : escape ∉ stem ++ ['%'] := by
    intro listed
    rcases List.mem_append.mp listed with inside | last
    · exact (plain _ inside).1 rfl
    · exact sign (List.mem_singleton.mp last)
  have literals : stem.map token = stem.map Token.literal := by
    apply List.map_congr_left
    intro c listed
    obtain ⟨_, percent, underscore⟩ := plain c listed
    simp [token, percent, underscore]
  have last : token '%' = .anyText := rfl
  rw [matches', tokens_of_unescaped unescaped, List.map_append, literals, List.map_singleton, last,
    Option.map_some, accepts_stem]

end Like

end CovenantRadar
