import Mathlib.Data.List.Basic
import Mathlib.Tactic.Common

/-!
# Separator framing

Joining parts with a separator loses nothing as long as no part but the last
contains the separator.
-/

namespace CovenantRadar

variable {α : Type}

/-- Splitting at the first separator recovers both sides. -/
theorem append_separator_inj {sep : α} {left left' right right' : List α}
    (clean : sep ∉ left) (clean' : sep ∉ left')
    (same : left ++ sep :: right = left' ++ sep :: right') : left = left' ∧ right = right' := by
  induction left generalizing left' with
  | nil =>
    cases left' with
    | nil => exact ⟨rfl, (List.cons.inj same).2⟩
    | cons head rest =>
      have first : sep = head := (List.cons.inj same).1
      exact absurd (first ▸ List.mem_cons_self) clean'
  | cons head rest ih =>
    cases left' with
    | nil =>
      have first : head = sep := (List.cons.inj same).1
      exact absurd (first ▸ List.mem_cons_self) clean
    | cons head' rest' =>
      obtain ⟨heads, tails⟩ := List.cons.inj same
      obtain ⟨eqLeft, eqRight⟩ := ih (fun member => clean (List.mem_cons_of_mem _ member))
        (fun member => clean' (List.mem_cons_of_mem _ member)) tails
      exact ⟨by rw [heads, eqLeft], eqRight⟩

theorem intercalate_cons_cons (sep : α) (x y : List α) (zs : List (List α)) :
    [sep].intercalate (x :: y :: zs) = x ++ sep :: [sep].intercalate (y :: zs) := by
  simp [List.intercalate, List.intersperse]

/-- The first part is determined as soon as it is clean on both sides. -/
theorem intercalate_head_inj {sep : α} {x x' y y' : List α} {zs zs' : List (List α)}
    (clean : sep ∉ x) (clean' : sep ∉ x')
    (same : [sep].intercalate (x :: y :: zs) = [sep].intercalate (x' :: y' :: zs')) :
    x = x' ∧ [sep].intercalate (y :: zs) = [sep].intercalate (y' :: zs') := by
  rw [intercalate_cons_cons, intercalate_cons_cons] at same
  exact append_separator_inj clean clean' same

/-- Equally many parts, all but the last one clean, are determined by their join. -/
theorem intercalate_inj {sep : α} {xs ys : List (List α)} (count : xs.length = ys.length)
    (clean : ∀ x ∈ xs.dropLast, sep ∉ x) (clean' : ∀ y ∈ ys.dropLast, sep ∉ y)
    (same : [sep].intercalate xs = [sep].intercalate ys) : xs = ys := by
  induction xs generalizing ys with
  | nil => exact (List.length_eq_zero_iff.mp count.symm).symm
  | cons x xs ih =>
    cases ys with
    | nil => cases count
    | cons y ys =>
      have rest : xs.length = ys.length := Nat.succ.inj count
      cases xs with
      | nil =>
        rw [List.length_eq_zero_iff.mp rest.symm] at same ⊢
        simpa [List.intercalate] using same
      | cons x' xs =>
        cases ys with
        | nil => cases rest
        | cons y' ys =>
          rw [List.dropLast_cons_of_ne_nil (List.cons_ne_nil _ _)] at clean clean'
          obtain ⟨heads, tails⟩ := intercalate_head_inj (clean x List.mem_cons_self)
            (clean' y List.mem_cons_self) same
          rw [heads, ih rest (fun z member => clean z (List.mem_cons_of_mem _ member))
            (fun z member => clean' z (List.mem_cons_of_mem _ member)) tails]

end CovenantRadar
