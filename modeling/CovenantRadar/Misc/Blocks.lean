import Mathlib

/-!
# Blocks of a list and numbers in bytes

A list cut into blocks of one size, the last of them shorter, and its parts put together again;
numbers as a fixed count of bytes, the highest first.
-/

namespace CovenantRadar

/-! ## Blocks -/

section

variable {α : Type}

/-- At most `bound` blocks of a list. -/
def blocksFrom (size : Nat) : Nat → List α → List (List α)
  | 0, _ => []
  | bound + 1, xs =>
    if xs.isEmpty then [] else xs.take size :: blocksFrom size bound (xs.drop size)

/-- The blocks of a list. -/
def blocks (size : Nat) (xs : List α) : List (List α) := blocksFrom size xs.length xs

/-- The blocks put together are the list. -/
theorem flatten_blocksFrom {size bound : Nat} (positive : 0 < size) {xs : List α}
    (enough : xs.length ≤ bound) : (blocksFrom size bound xs).flatten = xs := by
  induction bound generalizing xs with
  | zero =>
    rw [List.length_eq_zero_iff.mp (Nat.le_zero.mp enough)]
    rfl
  | succ bound ih =>
    cases xs with
    | nil => rfl
    | cons x xs =>
      have shorter : ((x :: xs).drop size).length ≤ bound := by
        rw [List.length_drop]
        omega
      show ((x :: xs).take size :: blocksFrom size bound ((x :: xs).drop size)).flatten = x :: xs
      rw [List.flatten_cons, ih shorter, List.take_append_drop]

theorem flatten_blocks {size : Nat} (positive : 0 < size) (xs : List α) :
    (blocks size xs).flatten = xs :=
  flatten_blocksFrom positive (le_refl _)

/-- Blocks of the parts of a list are parts of the list. -/
theorem flatten_flatMap_blocks {size : Nat} (positive : 0 < size) (parts : List (List α)) :
    (parts.flatMap (blocks size)).flatten = parts.flatten := by
  induction parts with
  | nil => rfl
  | cons part parts ih =>
    rw [List.flatMap_cons, List.flatten_append, flatten_blocks positive, ih, List.flatten_cons]

/-- A block is not empty, and no longer than the size or the list. -/
theorem mem_blocksFrom {size bound : Nat} (positive : 0 < size) {xs block : List α}
    (member : block ∈ blocksFrom size bound xs) :
    block ≠ [] ∧ block.length ≤ min size xs.length := by
  induction bound generalizing xs with
  | zero => cases member
  | succ bound ih =>
    cases xs with
    | nil => cases member
    | cons x xs =>
      rcases List.mem_cons.mp member with rfl | later
      · refine ⟨?_, List.length_take.le⟩
        rw [← List.length_pos_iff, List.length_take, List.length_cons]
        omega
      · obtain ⟨nonempty, short⟩ := ih later
        refine ⟨nonempty, short.trans ?_⟩
        rw [List.length_drop]
        omega

theorem mem_blocks {size : Nat} (positive : 0 < size) {xs block : List α}
    (member : block ∈ blocks size xs) : block ≠ [] ∧ block.length ≤ min size xs.length :=
  mem_blocksFrom positive member

/-- The first block of a list is its longest. -/
theorem take_mem_blocks {size : Nat} {xs : List α} (nonempty : xs ≠ []) :
    xs.take size ∈ blocks size xs := by
  cases xs with
  | nil => exact absurd rfl nonempty
  | cons x xs => exact List.mem_cons_self

end

/-! ## Numbers in bytes -/

/-- `struct.pack` of a number in `width` bytes, the highest first. -/
def beBytes : Nat → Nat → List UInt8
  | 0, _ => []
  | width + 1, n => UInt8.ofNat (n / 256 ^ width) :: beBytes width (n % 256 ^ width)

/-- `struct.unpack`. -/
def beValue (bytes : List UInt8) : Nat := bytes.foldl (fun n byte => 256 * n + byte.toNat) 0

theorem length_beBytes (width n : Nat) : (beBytes width n).length = width := by
  induction width generalizing n with
  | zero => rfl
  | succ width ih => rw [beBytes, List.length_cons, ih]

theorem foldl_beBytes {width n : Nat} (small : n < 256 ^ width) (before : Nat) :
    (beBytes width n).foldl (fun n byte => 256 * n + byte.toNat) before = before * 256 ^ width + n := by
  induction width generalizing n before with
  | zero =>
    rw [pow_zero, Nat.lt_one_iff] at small
    rw [small]
    simp [beBytes]
  | succ width ih =>
    have positive : 0 < 256 ^ width := Nat.pow_pos (by decide)
    have byte : n / 256 ^ width < 256 := by
      rw [Nat.div_lt_iff_lt_mul positive, ← pow_succ']
      exact small
    rw [beBytes, List.foldl_cons, ih (Nat.mod_lt _ positive), UInt8.toNat_ofNat_of_lt' byte]
    calc (256 * before + n / 256 ^ width) * 256 ^ width + n % 256 ^ width
      _ = before * 256 ^ (width + 1) + (256 ^ width * (n / 256 ^ width) + n % 256 ^ width) := by
        ring
      _ = before * 256 ^ (width + 1) + n := by rw [Nat.div_add_mod]

/-- A number that fits is read back. -/
theorem beValue_beBytes {width n : Nat} (small : n < 256 ^ width) :
    beValue (beBytes width n) = n := by
  unfold beValue
  rw [foldl_beBytes small, Nat.zero_mul, Nat.zero_add]

end CovenantRadar
