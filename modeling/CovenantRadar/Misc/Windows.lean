import Mathlib

/-!
# Windows

How many events of a log fall in a sliding window of a fixed length, wherever the window ends; it
includes its last instant and not its first. And the numbers from one to a total, read in rolling
windows of a size: each window starts behind the last one read, and the one after the window that
reaches the total starts from the beginning. From any start, one window more than a round has reads
every number.
-/

namespace CovenantRadar

section SlidingWindow

variable {α : Type} [AddCommGroup α] [LinearOrder α]

/-- The events in the window of this length that ends at an instant. -/
def inWindow (window last : α) (times : List α) : List α :=
  times.filter fun time => decide (last - window < time ∧ time ≤ last)

/-- No window of this length holds more events than the limit. -/
def WithinLimit (limit : Nat) (window : α) (times : List α) : Prop :=
  ∀ last, (inWindow window last times).length ≤ limit

theorem withinLimit_nil (limit : Nat) (window : α) : WithinLimit limit window [] :=
  fun _ => Nat.zero_le _

/-- A further event keeps the limit, if fewer events than the limit are later than the start of the
    window that it ends. -/
theorem WithinLimit.append [IsOrderedAddMonoid α] {limit : Nat} {window time : α} {times : List α}
    (within : WithinLimit limit window times)
    (room : (times.filter fun earlier => decide (time - window < earlier)).length < limit) :
    WithinLimit limit window (times ++ [time]) := by
  intro last
  have split : inWindow window last (times ++ [time]) =
      inWindow window last times ++ inWindow window last [time] := List.filter_append ..
  by_cases inside : last - window < time ∧ time ≤ last
  · have single : inWindow window last [time] = [time] := by
      simp [inWindow, inside]
    have fewer : (inWindow window last times).length ≤
        (times.filter fun earlier => decide (time - window < earlier)).length := by
      apply List.Sublist.length_le
      apply List.monotone_filter_right
      intro earlier counted
      have recent := (of_decide_eq_true counted).1
      exact decide_eq_true ((sub_le_sub_right inside.2 window).trans_lt recent)
    rw [split, single, List.length_append, List.length_singleton]
    omega
  · have none : inWindow window last [time] = [] := by
      simp [inWindow, inside]
    rw [split, none, List.append_nil]
    exact within last

theorem WithinLimit.sublist {limit : Nat} {window : α} {times fewer : List α}
    (within : WithinLimit limit window times) (sub : fewer.Sublist times) :
    WithinLimit limit window fewer :=
  fun last => (sub.filter _).length_le.trans (within last)

end SlidingWindow

/-- Where a test fails for good once it has failed, the items dropped from the front are all that
    pass it. -/
theorem dropWhile_eq_filter_not {α : Type} {test : α → Bool} {items : List α}
    (settled : items.Pairwise fun earlier later => test later = true → test earlier = true) :
    items.dropWhile test = items.filter fun item => !test item := by
  induction items with
  | nil => rfl
  | cons item items ih =>
    obtain ⟨first, rest⟩ := List.pairwise_cons.mp settled
    by_cases passes : test item = true
    · rw [List.dropWhile_cons_of_pos passes, ih rest, List.filter_cons_of_neg (by simp [passes])]
    · rw [List.dropWhile_cons_of_neg passes]
      refine (List.filter_eq_self.mpr ?_).symm
      intro other listed
      rcases List.mem_cons.mp listed with rfl | later
      · simpa using passes
      · have := mt (first other later) passes
        simpa using this

namespace RollingWindow

/-- What the window after a cursor leaves as the next cursor. -/
def advance (total size cursor : ℕ) : ℕ :=
  if total ≤ cursor + size then 0 else cursor + size

/-- The cursor before the window of a number, counted from zero. -/
def cursorAt (total size cursor : ℕ) : ℕ → ℕ
  | 0 => cursor
  | count + 1 => advance total size (cursorAt total size cursor count)

/-- The window after a cursor reads a number. -/
def Reads (size cursor point : ℕ) : Prop := cursor < point ∧ point ≤ cursor + size

variable {total size cursor : ℕ}

theorem advance_lt (positive : 0 < total) : advance total size cursor < total := by
  unfold advance
  split_ifs <;> omega

theorem cursorAt_succ (count : ℕ) :
    cursorAt total size cursor (count + 1) =
      cursorAt total size (advance total size cursor) count := by
  induction count with
  | zero => rfl
  | succ count ih =>
    rw [cursorAt, ih]
    rfl

theorem cursorAt_add (first second : ℕ) :
    cursorAt total size cursor (first + second) =
      cursorAt total size (cursorAt total size cursor first) second := by
  induction second with
  | zero => rfl
  | succ second ih =>
    rw [← Nat.add_assoc, cursorAt, cursorAt, ih]

/-- Up to the total the windows lie next to each other. -/
theorem cursorAt_eq {count : ℕ} (inside : cursor + count * size < total) :
    cursorAt total size cursor count = cursor + count * size := by
  induction count with
  | zero => rw [cursorAt, Nat.zero_mul, Nat.add_zero]
  | succ count ih =>
    rw [Nat.succ_mul, ← Nat.add_assoc] at inside
    have earlier : cursor + count * size < total := by omega
    rw [cursorAt, ih earlier, advance, if_neg (by omega), Nat.succ_mul, Nat.add_assoc]

/-- The window that reaches the total is the last one of its round. -/
theorem cursorAt_wraps {count : ℕ} (inside : cursor + count * size < total)
    (reached : total ≤ cursor + count * size + size) :
    cursorAt total size cursor (count + 1) = 0 := by
  rw [cursorAt, cursorAt_eq inside, advance, if_pos reached]

theorem lt_ceilDiv_iff (positive : 0 < size) {count : ℕ} :
    count < total ⌈/⌉ size ↔ count * size < total := by
  rw [← not_le, ceilDiv_le_iff_le_mul positive, not_le, Nat.mul_comm]

/-- The numbers behind a cursor are read before the total is reached. -/
theorem exists_reads_behind (positive : 0 < size) {point : ℕ} (behind : cursor < point)
    (last : point ≤ total) :
    ∃ count < (total - cursor) ⌈/⌉ size,
      Reads size (cursorAt total size cursor count) point := by
  refine ⟨(point - cursor - 1) / size, ?_, ?_⟩
  · have below := Nat.div_mul_le_self (point - cursor - 1) size
    apply (lt_ceilDiv_iff positive).mpr
    omega
  · have below := Nat.div_mul_le_self (point - cursor - 1) size
    have above := Nat.lt_div_mul_add positive (a := point - cursor - 1)
    rw [Reads, cursorAt_eq (by omega)]
    omega

/-- From the beginning one round of windows reads every number. -/
theorem exists_reads_of_start (positive : 0 < size) {point : ℕ} (first : 1 ≤ point)
    (last : point ≤ total) :
    ∃ count < total ⌈/⌉ size, Reads size (cursorAt total size 0 count) point :=
  exists_reads_behind positive first last

/-- From any cursor one round of windows and one window more read every number: the windows up to
    the total read what lies behind the cursor, and those of the next round what lies before it. -/
theorem exists_reads (positive : 0 < size) (inside : cursor < total) {point : ℕ}
    (first : 1 ≤ point) (last : point ≤ total) :
    ∃ count ≤ total ⌈/⌉ size, Reads size (cursorAt total size cursor count) point := by
  by_cases behind : cursor < point
  · obtain ⟨count, early, reads⟩ := exists_reads_behind positive behind last
    rw [lt_ceilDiv_iff positive] at early
    refine ⟨count, le_of_lt ((lt_ceilDiv_iff positive).mpr (by omega)), reads⟩
  · -- `round` is the number of windows before the one that reaches the total
    obtain ⟨round, windows⟩ : ∃ round, (total - cursor) ⌈/⌉ size = round + 1 := by
      apply Nat.exists_eq_succ_of_ne_zero
      apply Nat.ne_of_gt
      apply (lt_ceilDiv_iff positive).mpr
      omega
    have before : round * size < total - cursor := by
      rw [← lt_ceilDiv_iff positive, windows]
      exact Nat.lt_succ_self round
    have reached : total - cursor ≤ round * size + size := by
      have bound : ¬ round + 1 < (total - cursor) ⌈/⌉ size := by omega
      rw [lt_ceilDiv_iff positive, Nat.succ_mul] at bound
      omega
    have wraps : cursorAt total size cursor (round + 1) = 0 :=
      cursorAt_wraps (by omega) (by omega)
    have below := Nat.div_mul_le_self (point - 1) size
    refine ⟨round + 1 + (point - 1) / size, ?_, ?_⟩
    · have joint : (round + (point - 1) / size) * size < total := by
        rw [Nat.add_mul]
        omega
      have := (lt_ceilDiv_iff positive).mpr joint
      omega
    · have above := Nat.lt_div_mul_add positive (a := point - 1)
      rw [cursorAt_add, wraps, Reads, cursorAt_eq (by omega)]
      omega

end RollingWindow

end CovenantRadar
