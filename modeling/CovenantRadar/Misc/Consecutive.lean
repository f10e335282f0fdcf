import Mathlib

/-!
# Runs of consecutive numbers

The longest block of consecutive numbers in a set, and the single pass over a sorted
list that measures it.
-/

namespace CovenantRadar

/-- The set holds `count` consecutive numbers. -/
def HasRun (s : Set ℕ) (count : ℕ) : Prop :=
  ∃ first, ∀ x, first ≤ x → x < first + count → x ∈ s

/-- The set holds the `count` numbers just before `stop`. -/
def RunBefore (s : Set ℕ) (stop count : ℕ) : Prop :=
  count ≤ stop ∧ ∀ x, stop - count ≤ x → x < stop → x ∈ s

namespace HasRun

variable {s t : Set ℕ} {count fewer : ℕ}

theorem mono (within : s ⊆ t) (run : HasRun s count) : HasRun t count := by
  obtain ⟨first, all⟩ := run
  exact ⟨first, fun x lower upper => within (all x lower upper)⟩

theorem of_le (less : fewer ≤ count) (run : HasRun s count) : HasRun s fewer := by
  obtain ⟨first, all⟩ := run
  exact ⟨first, fun x lower upper => all x lower (by omega)⟩

theorem zero (s : Set ℕ) : HasRun s 0 := ⟨0, fun x _ upper => by omega⟩

end HasRun

/-- One pass over the rest of an increasing list: `current` counts the run that ends at
    `previous`. -/
def extendRun (previous current longest : ℕ) : List ℕ → ℕ
  | [] => longest
  | candidate :: rest =>
    let current' := if candidate = previous + 1 then current + 1 else 1
    extendRun candidate current' (max longest current') rest

/-- A new largest number ends a run one longer than its predecessor's, or of length one. -/
theorem runBefore_insert {s : Set ℕ} {previous current candidate : ℕ}
    (bounded : ∀ x ∈ s, x ≤ previous) (later : previous < candidate)
    (ends : ∀ n, n ≤ current ↔ RunBefore s (previous + 1) n) (n : ℕ) :
    n ≤ (if candidate = previous + 1 then current + 1 else 1) ↔
      RunBefore (insert candidate s) (candidate + 1) n := by
  have inserted : candidate ∈ insert candidate s := Set.mem_insert _ _
  have kept {x : ℕ} (member : x ∈ insert candidate s) (other : x ≠ candidate) : x ∈ s :=
    (Set.mem_insert_iff.mp member).resolve_left other
  cases n with
  | zero => exact ⟨fun _ => ⟨Nat.zero_le _, fun x lower upper => by omega⟩, fun _ => Nat.zero_le _⟩
  | succ m =>
    split_ifs with adjacent
    · rw [Nat.add_le_add_iff_right, ends]
      subst adjacent
      constructor
      · rintro ⟨fits, all⟩
        refine ⟨by omega, fun x lower upper => ?_⟩
        by_cases last : x = previous + 1
        · exact last ▸ inserted
        · exact Set.mem_insert_of_mem _ (all x (by omega) (by omega))
      · rintro ⟨fits, all⟩
        exact ⟨by omega, fun x lower upper => kept (all x (by omega) (by omega)) (by omega)⟩
    · constructor
      · intro one
        refine ⟨by omega, fun x lower upper => ?_⟩
        obtain rfl : x = candidate := by omega
        exact inserted
      · rintro ⟨fits, all⟩
        by_contra longer
        have before := kept (all (candidate - 1) (by omega) (by omega)) (by omega)
        have := bounded _ before
        omega

/-- A run in the larger set lies in the smaller one or ends at the new number. -/
theorem hasRun_insert {s : Set ℕ} {candidate : ℕ} (bounded : ∀ x ∈ s, x < candidate) (n : ℕ) :
    HasRun (insert candidate s) n ↔
      HasRun s n ∨ RunBefore (insert candidate s) (candidate + 1) n := by
  constructor
  · rintro ⟨first, all⟩
    by_cases ending : first ≤ candidate ∧ candidate < first + n
    · have reaches : candidate ≤ first + n - 1 := by omega
      have last : first + n - 1 ≤ candidate := by
        rcases Set.mem_insert_iff.mp (all (first + n - 1) (by omega) (by omega)) with same | old
        · exact le_of_eq same
        · exact le_of_lt (bounded _ old)
      exact Or.inr ⟨by omega, fun x lower upper => all x (by omega) (by omega)⟩
    · refine Or.inl ⟨first, fun x lower upper => ?_⟩
      exact (Set.mem_insert_iff.mp (all x lower upper)).resolve_left (by omega)
  · rintro (old | ⟨fits, all⟩)
    · exact old.mono (Set.subset_insert _ _)
    · exact ⟨candidate + 1 - n, fun x lower upper => all x lower (by omega)⟩

/-- The pass measures the longest run, given what it has measured so far. -/
theorem le_extendRun_iff {s : Set ℕ} {previous current longest : ℕ} {rest : List ℕ}
    (bounded : ∀ x ∈ s, x ≤ previous) (sorted : (previous :: rest).Pairwise (· < ·))
    (ends : ∀ n, n ≤ current ↔ RunBefore s (previous + 1) n)
    (best : ∀ n, n ≤ longest ↔ HasRun s n) (n : ℕ) :
    n ≤ extendRun previous current longest rest ↔ HasRun (s ∪ {x | x ∈ rest}) n := by
  induction rest generalizing s previous current longest with
  | nil => simp [extendRun, best]
  | cons candidate rest ih =>
    have later : previous < candidate := (List.pairwise_cons.mp sorted).1 _ List.mem_cons_self
    have below : ∀ x ∈ s, x < candidate := fun x member => lt_of_le_of_lt (bounded x member) later
    have ends' := runBefore_insert bounded later ends
    have moved : s ∪ {x | x ∈ candidate :: rest} = insert candidate s ∪ {x | x ∈ rest} := by
      ext x
      simp only [Set.mem_union, Set.mem_ofPred_eq, List.mem_cons, Set.mem_insert_iff]
      constructor
      · rintro (old | same | rest)
        exacts [Or.inl (Or.inr old), Or.inl (Or.inl same), Or.inr rest]
      · rintro ((same | old) | rest)
        exacts [Or.inr (Or.inl same), Or.inl old, Or.inr (Or.inr rest)]
    rw [extendRun, moved]
    refine ih ?_ (List.pairwise_cons.mp sorted).2 ends' (fun m => ?_)
    · intro x member
      rcases Set.mem_insert_iff.mp member with same | old
      · exact same.le
      · exact (below x old).le
    · rw [hasRun_insert below, ← ends', ← best, le_max_iff]

/-- The longest run of an increasing list, by one pass from its first element. -/
def longestRun : List ℕ → ℕ
  | [] => 0
  | first :: rest => extendRun first 1 1 rest

theorem le_longestRun_iff {xs : List ℕ} (sorted : xs.Pairwise (· < ·)) (n : ℕ) :
    n ≤ longestRun xs ↔ HasRun {x | x ∈ xs} n := by
  cases xs with
  | nil =>
    constructor
    · intro none
      obtain rfl : n = 0 := Nat.le_zero.mp none
      exact HasRun.zero _
    · rintro ⟨first, all⟩
      by_contra some
      exact List.not_mem_nil (all first le_rfl (by simp only [longestRun] at some; omega))
  | cons first rest =>
    have alone : ∀ n, n ≤ 1 ↔ RunBefore {first} (first + 1) n := by
      intro n
      constructor
      · intro one
        exact ⟨by omega, fun x lower upper => Set.mem_singleton_iff.mpr (by omega)⟩
      · rintro ⟨fits, all⟩
        by_contra longer
        have := Set.mem_singleton_iff.mp (all (first - 1) (by omega) (by omega))
        omega
    have single : ∀ n, n ≤ 1 ↔ HasRun {first} n := by
      intro n
      rw [alone]
      constructor
      · rintro ⟨fits, all⟩
        exact ⟨first + 1 - n, fun x lower upper => all x lower (by omega)⟩
      · rintro ⟨start, all⟩
        by_contra longer
        have two : 2 ≤ n := by
          by_contra small
          exact longer ((alone n).mp (by omega))
        have one := Set.mem_singleton_iff.mp (all start le_rfl (by omega))
        have other := Set.mem_singleton_iff.mp (all (start + 1) (by omega) (by omega))
        omega
    have whole : ({first} : Set ℕ) ∪ {x | x ∈ rest} = {x | x ∈ first :: rest} := by
      ext x
      simp [List.mem_cons]
    rw [longestRun, ← whole]
    exact le_extendRun_iff (fun x member => (Set.mem_singleton_iff.mp member).le) sorted alone
      single n

/-- A run lies in a block, which starts where the number before it is missing. -/
theorem exists_blockStart {s : Set ℕ} {first stop : ℕ} (positive : 0 ∉ s) (within : first < stop)
    (all : ∀ x, first ≤ x → x < stop → x ∈ s) :
    ∃ start ≤ first, start - 1 ∉ s ∧ ∀ x, start ≤ x → x < stop → x ∈ s := by
  induction first with
  | zero => exact absurd (all 0 le_rfl within) positive
  | succ first ih =>
    by_cases before : first ∈ s
    · obtain ⟨start, earlier, alone, whole⟩ := ih (by omega) fun x lower upper => by
        by_cases same : x = first
        · exact same ▸ before
        · exact all x (by omega) upper
      exact ⟨start, earlier.trans (Nat.le_succ first), alone, whole⟩
    · exact ⟨first + 1, le_rfl, before, all⟩

/-- An increasing list is determined by its members. -/
theorem eq_of_mem_iff {α : Type} [LinearOrder α] {xs ys : List α} (sortedXs : xs.Pairwise (· < ·))
    (sortedYs : ys.Pairwise (· < ·)) (same : ∀ x, x ∈ xs ↔ x ∈ ys) : xs = ys :=
  (List.perm_of_nodup_nodup_toFinset_eq (sortedXs.imp ne_of_lt) (sortedYs.imp ne_of_lt)
    (by ext x; simp [same])).eq_of_pairwise (fun _ _ _ _ less more => absurd more (lt_asymm less))
    sortedXs sortedYs

end CovenantRadar
