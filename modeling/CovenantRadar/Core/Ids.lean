import CovenantRadar.Python.Reading

/-!
# Identifiers

Source `core/ids.py`: UUIDv7 primary keys. One call holds the lock while it moves the timestamp
and the counter on, so a run is the list of the calls in the order they hold it.
-/

namespace CovenantRadar

namespace Ids

/-- Source `_VERSION`. -/
def version : Nat := 0x7

/-- Source `_VARIANT`. -/
def variant : Nat := 0b10

/-- Source `_SEQUENCE_BITS`. -/
def sequenceBits : Nat := 12

/-- Source `_SEQUENCE_MASK`. -/
def sequenceMask : Nat := (1 <<< sequenceBits) - 1

/-- What a call reads: `time.time_ns()`, and what `secrets.randbits` returns, should the counter
    be drawn anew, and for the low bits. -/
structure Reading where
  timeNs : Int
  sequence : Fin (2 ^ 12)
  random : Fin (2 ^ 62)

/-- Source `_last_timestamp_ms` and `_sequence`. -/
structure Generator where
  lastTimestampMs : Nat
  sequence : Nat
  masked : sequence ≤ sequenceMask

theorem masked_zero : 0 ≤ sequenceMask := Nat.zero_le _

/-- The generator of a process that has just started. -/
def Generator.start : Generator := ⟨0, 0, masked_zero⟩

theorem masked_drawn (sequence : Fin (2 ^ 12)) : sequence.val ≤ sequenceMask :=
  Nat.le_of_lt_succ sequence.isLt

/-- The generator a call leaves. -/
def Generator.advance (generator : Generator) (reading : Reading) : Generator :=
  let timestampMs := reading.timeNs / 1000000
  if (generator.lastTimestampMs : Int) < timestampMs then
    ⟨timestampMs.toNat, reading.sequence, masked_drawn reading.sequence⟩
  else if masked : generator.sequence + 1 ≤ sequenceMask then
    ⟨generator.lastTimestampMs, generator.sequence + 1, masked⟩
  else ⟨generator.lastTimestampMs + 1, reading.sequence, masked_drawn reading.sequence⟩

/-- The integer a call makes of the generator and its random bits. -/
def Generator.value (generator : Generator) (random : Nat) : Nat :=
  generator.lastTimestampMs <<< 80 ||| version <<< 76 |||
    (generator.sequence &&& sequenceMask) <<< 64 ||| variant <<< 62 ||| random

/-- `uuid.UUID(int=value)`. -/
def uuidOf (value : Nat) : Except PyError Uuid :=
  if small : value < 16 ^ 32 then .ok ⟨value, small⟩
  else .error (.valueError "int is out of range (need a 128-bit value)")

/-- Source `new_id`. -/
def newId (generator : Generator) (reading : Reading) : Except PyError Uuid × Generator :=
  let next := generator.advance reading
  (uuidOf (next.value reading.random), next)

/-- What the calls of a process return, and the generator they leave. -/
def run (generator : Generator) : List Reading → List (Except PyError Uuid) × Generator
  | [] => ([], generator)
  | reading :: readings =>
    let called := newId generator reading
    let rest := run called.2 readings
    (called.1 :: rest.1, rest.2)

/-- `uuid.UUID.version`, read off the bits. -/
def versionOf (id : Uuid) : Nat := (id.int >>> 76) &&& 0xf

/-- The two bits of `uuid.UUID.variant`. -/
def variantOf (id : Uuid) : Nat := (id.int >>> 62) &&& 0b11

/-! ## The bits of a value -/

theorem masked_eq (generator : Generator) :
    generator.sequence &&& sequenceMask = generator.sequence := by
  have small : generator.sequence < 2 ^ 12 := Nat.lt_succ_of_le generator.masked
  exact (Nat.and_two_pow_sub_one_eq_mod _ 12).trans (Nat.mod_eq_of_lt small)

/-- The fields of a value do not overlap. -/
theorem value_eq (generator : Generator) {random : Nat} (small : random < 2 ^ 62) :
    generator.value random = generator.lastTimestampMs * 2 ^ 80 + 7 * 2 ^ 76 +
      generator.sequence * 2 ^ 64 + 2 * 2 ^ 62 + random := by
  have sequence : generator.sequence < 2 ^ 12 := Nat.lt_succ_of_le generator.masked
  have first : generator.lastTimestampMs <<< 80 ||| version <<< 76 =
      2 ^ 76 * (generator.lastTimestampMs * 2 ^ 4 + 7) := by
    rw [Nat.shiftLeft_eq, Nat.mul_comm, ← Nat.two_pow_add_eq_or_of_lt (by decide)]
    simp only [version, Nat.shiftLeft_eq]
    ring
  have second : 2 ^ 76 * (generator.lastTimestampMs * 2 ^ 4 + 7) |||
      (generator.sequence &&& sequenceMask) <<< 64 =
        2 ^ 64 * ((generator.lastTimestampMs * 2 ^ 4 + 7) * 2 ^ 12 + generator.sequence) := by
    rw [masked_eq, Nat.shiftLeft_eq, ← Nat.two_pow_add_eq_or_of_lt (by omega)]
    ring
  have third : 2 ^ 64 * ((generator.lastTimestampMs * 2 ^ 4 + 7) * 2 ^ 12 + generator.sequence) |||
      variant <<< 62 =
        2 ^ 62 * (((generator.lastTimestampMs * 2 ^ 4 + 7) * 2 ^ 12 + generator.sequence) * 4 + 2) := by
    rw [← Nat.two_pow_add_eq_or_of_lt (by decide)]
    simp only [variant, Nat.shiftLeft_eq]
    ring
  rw [Generator.value, first, second, third, ← Nat.two_pow_add_eq_or_of_lt small]
  ring

/-- How far a generator has come: its timestamp, then its counter. -/
def Generator.position (generator : Generator) : Nat :=
  generator.lastTimestampMs * 2 ^ 12 + generator.sequence

/-- The bits of a value above the variant. -/
def Generator.high (generator : Generator) : Nat :=
  generator.lastTimestampMs * 2 ^ 16 + 7 * 2 ^ 12 + generator.sequence

theorem value_eq_high (generator : Generator) {random : Nat} (small : random < 2 ^ 62) :
    generator.value random = 2 ^ 64 * generator.high + (2 * 2 ^ 62 + random) := by
  rw [value_eq generator small, Generator.high]
  ring

theorem sequence_lt (generator : Generator) : generator.sequence < 4096 :=
  Nat.lt_succ_of_le generator.masked

theorem add_lt_of_lt {width low high high' : Nat} (small : low < width) (less : high < high')
    (low' : Nat) : width * high + low < width * high' + low' :=
  calc width * high + low
    _ < width * high + width := Nat.add_lt_add_left small _
    _ = width * (high + 1) := (Nat.mul_succ _ _).symm
    _ ≤ width * high' := Nat.mul_le_mul_left _ less
    _ ≤ width * high' + low' := Nat.le_add_right _ _

/-- A generator that has come further has a later timestamp, or the same with a later counter. -/
theorem lex_of_position_lt {before after : Generator} (later : before.position < after.position) :
    before.lastTimestampMs < after.lastTimestampMs ∨
      before.lastTimestampMs = after.lastTimestampMs ∧ before.sequence < after.sequence := by
  have small := sequence_lt before
  have small' := sequence_lt after
  unfold Generator.position at later
  omega

theorem high_lt_high {before after : Generator} (later : before.position < after.position) :
    before.high < after.high := by
  rw [Generator.high, Generator.high, Nat.add_assoc, Nat.add_assoc, Nat.mul_comm, Nat.mul_comm _ (2 ^ 16)]
  obtain earlier | ⟨same, less⟩ := lex_of_position_lt later
  · have low : 7 * 2 ^ 12 + before.sequence < 2 ^ 16 := by
      have small := sequence_lt before
      omega
    exact add_lt_of_lt low earlier _
  · rw [same]
    exact Nat.add_lt_add_left (Nat.add_lt_add_left less _) _

/-- A value grows with the position, whatever the random bits. -/
theorem value_lt_value {before after : Generator} {random random' : Nat}
    (small : random < 2 ^ 62) (small' : random' < 2 ^ 62)
    (later : before.position < after.position) : before.value random < after.value random' := by
  have low : 2 * 2 ^ 62 + random < 2 ^ 64 := by omega
  rw [value_eq_high before small, value_eq_high after small']
  exact add_lt_of_lt low (high_lt_high later) _

/-- A call moves the generator on, even where the clock stands still or goes back. -/
theorem position_lt_advance (generator : Generator) (reading : Reading) :
    generator.position < (generator.advance reading).position := by
  have masked : generator.sequence < 2 ^ 12 := Nat.lt_succ_of_le generator.masked
  simp only [Generator.advance]
  split_ifs with forward within
  · simp only [Generator.position]
    omega
  · simp only [Generator.position]
    omega
  · simp only [Generator.position]
    omega

theorem lastTimestampMs_le_advance (generator : Generator) (reading : Reading) :
    generator.lastTimestampMs ≤ (generator.advance reading).lastTimestampMs := by
  simp only [Generator.advance]
  split_ifs with forward within
  · simp only
    omega
  · exact Nat.le_refl _
  · exact Nat.le_succ _

theorem lastTimestampMs_le_run (generator : Generator) (readings : List Reading) :
    generator.lastTimestampMs ≤ (run generator readings).2.lastTimestampMs := by
  induction readings generalizing generator with
  | nil => exact Nat.le_refl _
  | cons reading readings ih =>
    exact (lastTimestampMs_le_advance generator reading).trans (ih _)

/-- A timestamp of 48 bits leaves a value of 128. -/
theorem value_small {generator : Generator} {random : Nat} (small : random < 2 ^ 62)
    (early : generator.lastTimestampMs < 2 ^ 48) : generator.value random < 16 ^ 32 := by
  have masked : generator.sequence < 2 ^ 12 := Nat.lt_succ_of_le generator.masked
  rw [value_eq generator small]
  omega

theorem versionOf_value {generator : Generator} {random : Nat} (small : random < 2 ^ 62) :
    (generator.value random >>> 76) &&& 0xf = version := by
  have masked : generator.sequence < 2 ^ 12 := Nat.lt_succ_of_le generator.masked
  rw [value_eq generator small, Nat.shiftRight_eq_div_pow, show (0xf : Nat) = 2 ^ 4 - 1 from rfl,
    Nat.and_two_pow_sub_one_eq_mod, version]
  omega

theorem variantOf_value {generator : Generator} {random : Nat} (small : random < 2 ^ 62) :
    (generator.value random >>> 62) &&& 0b11 = variant := by
  rw [value_eq generator small, Nat.shiftRight_eq_div_pow, show (0b11 : Nat) = 2 ^ 2 - 1 from rfl,
    Nat.and_two_pow_sub_one_eq_mod, variant]
  omega

/-! ## Runs -/

/-- What holds of the identifiers of calls that start from a generator. -/
structure Ordered (generator : Generator) (ids : List Uuid) : Prop where
  later : ∀ id ∈ ids, ∀ random < 2 ^ 62, generator.value random < id.int
  increasing : ids.Pairwise fun a b => a.int < b.int
  marked : ∀ id ∈ ids, versionOf id = version ∧ variantOf id = variant

/-- The calls of a run return identifiers, in order and marked. -/
theorem run_ordered {generator : Generator} {readings : List Reading}
    (early : (run generator readings).2.lastTimestampMs < 2 ^ 48) :
    ∃ ids : List Uuid, (run generator readings).1 = ids.map .ok ∧ Ordered generator ids := by
  induction readings generalizing generator with
  | nil => exact ⟨[], rfl, by simp, List.Pairwise.nil, by simp⟩
  | cons reading readings ih =>
    obtain ⟨ids, returned, ordered⟩ := ih early
    let next := generator.advance reading
    have small : reading.random.val < 2 ^ 62 := reading.random.isLt
    have first : next.lastTimestampMs < 2 ^ 48 :=
      (lastTimestampMs_le_run next readings).trans_lt early
    let id : Uuid := ⟨next.value reading.random, value_small small first⟩
    have made : uuidOf (next.value reading.random) = .ok id := dif_pos (value_small small first)
    have moved := position_lt_advance generator reading
    refine ⟨id :: ids, ?_, ?_, ?_, ?_⟩
    · exact List.cons_eq_cons.mpr ⟨made, returned⟩
    · intro other listed random drawn
      rcases List.mem_cons.mp listed with rfl | listed
      · exact value_lt_value drawn small moved
      · exact (value_lt_value drawn small moved).trans
          (ordered.later other listed reading.random small)
    · exact List.Pairwise.cons
        (fun other listed => ordered.later other listed reading.random small) ordered.increasing
    · intro other listed
      rcases List.mem_cons.mp listed with rfl | listed
      · exact ⟨versionOf_value small, variantOf_value small⟩
      · exact ordered.marked other listed

/-- The identifiers of one process are strictly increasing, pairwise distinct and marked as
    UUIDv7, whatever the clock and the random bits say, while the timestamp has 48 bits. -/
theorem newId_increasing {readings : List Reading}
    (early : (run .start readings).2.lastTimestampMs < 2 ^ 48) :
    ∃ ids : List Uuid, (run .start readings).1 = ids.map .ok ∧
      (ids.Pairwise fun a b => a.int < b.int) ∧ ids.Nodup ∧
        ∀ id ∈ ids, versionOf id = 7 ∧ variantOf id = 0b10 := by
  obtain ⟨ids, returned, ordered⟩ := run_ordered early
  refine ⟨ids, returned, ordered.increasing, ?_, ordered.marked⟩
  apply ordered.increasing.imp
  intro a b less same
  rw [same] at less
  exact Nat.lt_irrefl _ less

/-- `newId_increasing` for a counter that overflows and a clock that then goes back. -/
theorem newId_increasing_backwards :
    ∃ ids : List Uuid, (run .start [⟨5000000, 4095, 9⟩, ⟨5000000, 3, 7⟩, ⟨-1, 0, 0⟩]).1 =
        ids.map .ok ∧
      (ids.Pairwise fun a b => a.int < b.int) ∧ ids.Nodup ∧
        ∀ id ∈ ids, versionOf id = 7 ∧ variantOf id = 0b10 :=
  newId_increasing (by decide)

end Ids

end CovenantRadar
