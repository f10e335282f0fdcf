import CovenantRadar.Cases.Service

/-!
# The numbers of case references

The references that `_next_reference` gives a borrower one after the other: its base, and the base
cut short with the endings `-2`, `-3` and so on, less the one ending the base may have already.
-/

namespace CovenantRadar

namespace Cases

/-- The reference of a number: the base is the first. -/
def numbered (base : Text) (number : Nat) : Text :=
  if number ≤ 1 then base else suffixed base number

/-- The number of the reference after `count` others. A base of full length that ends in one of
    the endings tried takes that ending away from them. -/
def caseNumber (base : Text) (count : Nat) : Nat :=
  if (List.range' 2 count).any fun suffix => suffixed base suffix = base then count + 2
  else count + 1

/-- The largest number among the first `count` references. -/
def usedNumber (base : Text) : Nat → Nat
  | 0 => 0
  | count + 1 => caseNumber base count

/-- The first `count` references of a base. -/
def firstReferences (base : Text) : Nat → List Text
  | 0 => []
  | count + 1 => firstReferences base count ++ [nextReference base (firstReferences base count)]

theorem dash_not_mem_ofNat (n : Nat) : '-' ∉ Text.ofNat n := Text.not_mem_ofNat (by decide)

/-- What follows the last dash of a reference is its ending. -/
theorem suffixed_inj {base other : Text} {suffix suffix' : Nat}
    (same : suffixed base suffix = suffixed other suffix') : suffix = suffix' := by
  have reversed := congrArg List.reverse same
  simp only [suffixed, List.reverse_append, List.reverse_cons, List.append_assoc,
    List.singleton_append] at reversed
  have endings := (append_separator_inj (fun member => dash_not_mem_ofNat suffix
    (List.mem_reverse.mp member)) (fun member => dash_not_mem_ofNat suffix'
    (List.mem_reverse.mp member)) reversed).1
  exact Text.ofNat_injective (List.reverse_injective endings)

theorem numbered_one (base : Text) : numbered base 1 = base := if_pos (le_refl 1)

theorem numbered_of_two_le {base : Text} {number : Nat} (large : 2 ≤ number) :
    numbered base number = suffixed base number := if_neg (by omega)

/-- At most one ending is the base's own. -/
theorem own_unique {base : Text} {suffix suffix' : Nat} (own : suffixed base suffix = base)
    (own' : suffixed base suffix' = base) : suffix = suffix' := suffixed_inj (own.trans own'.symm)

theorem caseNumber_cases (base : Text) (count : Nat) :
    (∃ own, 2 ≤ own ∧ own ≤ count + 1 ∧ suffixed base own = base ∧
      caseNumber base count = count + 2) ∨
    (∀ suffix, 2 ≤ suffix → suffix ≤ count + 1 → suffixed base suffix ≠ base) ∧
      caseNumber base count = count + 1 := by
  unfold caseNumber
  by_cases own : (List.range' 2 count).any (fun suffix => suffixed base suffix = base) = true
  · rw [if_pos own]
    obtain ⟨suffix, member, same⟩ := List.any_eq_true.mp own
    rw [List.mem_range'_1] at member
    exact .inl ⟨suffix, member.1, by omega, by simpa using same, rfl⟩
  · rw [if_neg own]
    refine .inr ⟨fun suffix lower upper same => own (List.any_eq_true.mpr
      ⟨suffix, List.mem_range'_1.mpr ⟨lower, by omega⟩, by simpa using same⟩), rfl⟩

theorem length_firstReferences (base : Text) (count : Nat) :
    (firstReferences base count).length = count := by
  induction count with
  | zero => rfl
  | succ count ih => rw [firstReferences, List.length_append, ih, List.length_singleton]

section

variable {base : Text} {count : Nat} {existing : List Text}

/-- When the references of a base are the numbers up to the last one used, the next one has the
    next number. -/
theorem nextReference_of_numbers
    (members : ∀ reference, reference ∈ existing ↔
      ∃ number, 1 ≤ number ∧ number ≤ usedNumber base count ∧ reference = numbered base number)
    (length : existing.length = count) :
    nextReference base existing = numbered base (caseNumber base count) ∧
      numbered base (caseNumber base count) ∉ existing := by
  cases count with
  | zero =>
    rw [List.length_eq_zero_iff] at length
    subst length
    have first : caseNumber base 0 = 1 := rfl
    rw [first, numbered_one]
    exact ⟨rfl, List.not_mem_nil⟩
  | succ count =>
    have used : usedNumber base (count + 1) = caseNumber base count := rfl
    have taken (suffix : Nat) (lower : 2 ≤ suffix) : suffixed base suffix ∈ existing ↔
        suffix ≤ caseNumber base count ∨ suffixed base suffix = base := by
      rw [members, used]
      constructor
      · rintro ⟨number, positive, le, same⟩
        by_cases large : 2 ≤ number
        · rw [numbered_of_two_le large] at same
          exact .inl (suffixed_inj same ▸ le)
        · rw [show number = 1 by omega, numbered_one] at same
          exact .inr same
      · rintro (le | own)
        · exact ⟨suffix, by omega, le, (numbered_of_two_le lower).symm⟩
        · refine ⟨1, le_refl 1, ?_, own.trans (numbered_one base).symm⟩
          rcases caseNumber_cases base count with ⟨_, _, _, _, number⟩ | ⟨_, number⟩ <;> omega
    -- the number of the next reference is free, and every smaller one is taken
    have next : 2 ≤ caseNumber base (count + 1) ∧ caseNumber base (count + 1) ≤ count + 3 ∧
        suffixed base (caseNumber base (count + 1)) ∉ existing ∧
        ∀ suffix, 2 ≤ suffix → suffix < caseNumber base (count + 1) →
          suffixed base suffix ∈ existing := by
      rcases caseNumber_cases base count with ⟨own, lower, upper, same, number⟩ | ⟨none', number⟩
      · rcases caseNumber_cases base (count + 1) with ⟨_, _, _, _, number'⟩ | ⟨none'', _⟩
        · refine ⟨by omega, by omega, ?_, fun suffix two less => (taken suffix two).mpr (.inl ?_)⟩
          · rw [taken _ (by omega), number, number']
            rintro (le | own')
            · omega
            · have := own_unique same own'
              omega
          · omega
        · exact absurd same (none'' own lower (by omega))
      · rcases caseNumber_cases base (count + 1) with ⟨own, lower, upper, same, number'⟩ |
          ⟨none'', number'⟩
        · have last : own = count + 2 := by
            by_contra other
            exact none' own lower (by omega) same
          subst last
          refine ⟨by omega, by omega, ?_, fun suffix two less => (taken suffix two).mpr ?_⟩
          · rw [taken _ (by omega), number, number']
            rintro (le | own')
            · omega
            · have := own_unique same own'
              omega
          · by_cases le : suffix ≤ caseNumber base count
            · exact .inl le
            · rw [show suffix = count + 2 by omega]
              exact .inr same
        · refine ⟨by omega, by omega, ?_, fun suffix two less => (taken suffix two).mpr (.inl ?_)⟩
          · rw [taken _ (by omega), number']
            rintro (le | own')
            · omega
            · exact none'' _ (by omega) (by omega) own'
          · omega
    obtain ⟨lower, upper, free, smaller⟩ := next
    have baseTaken : base ∈ existing := by
      refine (members base).mpr ⟨1, le_refl 1, ?_, (numbered_one base).symm⟩
      rw [used]
      rcases caseNumber_cases base count with ⟨_, _, _, _, number⟩ | ⟨_, number⟩ <;> omega
    rw [numbered_of_two_le lower]
    refine ⟨?_, free⟩
    unfold nextReference
    rw [if_pos (by simpa using baseTaken), List.find?_map]
    have found : (List.range' 2 (existing.length + 1)).find?
        ((fun candidate => !existing.contains candidate) ∘ suffixed base) =
        some (caseNumber base (count + 1)) := by
      rw [List.find?_range'_eq_some]
      refine ⟨by simpa using free, List.mem_range'_1.mpr ⟨lower, by omega⟩, ?_⟩
      intro suffix two less
      simpa using smaller suffix two less
    rw [found]
    rfl

/-- The first references of a base are its numbers up to the last one used, and the next one is
    none of them. -/
theorem firstReferences_spec (base : Text) (count : Nat) :
    (∀ reference, reference ∈ firstReferences base count ↔
      ∃ number, 1 ≤ number ∧ number ≤ usedNumber base count ∧ reference = numbered base number) ∧
    nextReference base (firstReferences base count) = numbered base (caseNumber base count) ∧
    numbered base (caseNumber base count) ∉ firstReferences base count := by
  induction count with
  | zero =>
    have members : ∀ reference, reference ∈ firstReferences base 0 ↔
        ∃ number, 1 ≤ number ∧ number ≤ usedNumber base 0 ∧ reference = numbered base number := by
      intro reference
      refine ⟨fun member => (List.not_mem_nil member).elim, ?_⟩
      rintro ⟨number, positive, le, _⟩
      have zero : usedNumber base 0 = 0 := rfl
      omega
    exact ⟨members, nextReference_of_numbers members rfl⟩
  | succ count ih =>
    obtain ⟨earlier, next, fresh⟩ := ih
    have members : ∀ reference, reference ∈ firstReferences base (count + 1) ↔
        ∃ number, 1 ≤ number ∧ number ≤ usedNumber base (count + 1) ∧
          reference = numbered base number := by
      intro reference
      have used : usedNumber base (count + 1) = caseNumber base count := rfl
      rw [firstReferences, List.mem_append, List.mem_singleton, earlier, next, used]
      constructor
      · rintro (⟨number, positive, le, rfl⟩ | rfl)
        · refine ⟨number, positive, ?_, rfl⟩
          cases count with
          | zero =>
            have zero : usedNumber base 0 = 0 := rfl
            omega
          | succ count =>
            have used' : usedNumber base (count + 1) = caseNumber base count := rfl
            rcases caseNumber_cases base count with ⟨own, lower, upper, same, number'⟩ |
              ⟨_, number'⟩ <;>
            rcases caseNumber_cases base (count + 1) with ⟨_, _, _, _, number''⟩ |
              ⟨none', number''⟩
            · omega
            · exact absurd same (none' own lower (by omega))
            · omega
            · omega
        · refine ⟨_, ?_, le_refl _, rfl⟩
          rcases caseNumber_cases base count with ⟨_, _, _, _, number⟩ | ⟨_, number⟩ <;> omega
      · rintro ⟨number, positive, le, rfl⟩
        by_cases last : number = caseNumber base count
        · exact .inr (by rw [last])
        by_cases small : number ≤ usedNumber base count
        · exact .inl ⟨number, positive, small, rfl⟩
        -- the one number between is the ending of the base itself
        cases count with
        | zero =>
          have first : caseNumber base 0 = 1 := rfl
          omega
        | succ count =>
          have used' : usedNumber base (count + 1) = caseNumber base count := rfl
          rcases caseNumber_cases base count with ⟨own, lower, upper, same, number'⟩ |
            ⟨none', number'⟩ <;>
          rcases caseNumber_cases base (count + 1) with ⟨own', lower', upper', same', number''⟩ |
            ⟨none'', number''⟩
          · omega
          · exact absurd same (none'' own lower (by omega))
          · have between : number = own' := by
              have : own' = count + 2 := by
                by_contra other
                exact none' own' lower' (by omega) same'
              omega
            refine .inl ⟨1, le_refl 1, by omega, ?_⟩
            rw [numbered_of_two_le (by omega), between, same', numbered_one]
          · omega
    exact ⟨members, nextReference_of_numbers members (length_firstReferences base (count + 1))⟩

end

/-! ## Lengths -/

theorem length_upTo_le (value : Text) {stop : Int} (positive : 0 ≤ stop) :
    ((upTo value stop).length : Int) ≤ stop := by
  unfold upTo
  rw [if_pos positive, List.length_take]
  omega

theorem length_referenceBase (borrower : Borrower) :
    (referenceBase borrower).length ≤ caseReferenceMaxLength := by
  unfold referenceBase
  split_ifs with long
  · unfold hexBase
    rw [List.length_append, Text.upper, List.length_map, List.length_take, Text.length_hex]
    decide
  · exact not_lt.mp long

/-- A reference has at most twenty characters as long as its ending has. -/
theorem length_numbered_le_iff {base : Text} (short : base.length ≤ caseReferenceMaxLength)
    {number : Nat} : (numbered base number).length ≤ caseReferenceMaxLength ↔ number < 10 ^ 19 := by
  have max : caseReferenceMaxLength = 20 := rfl
  have digits := @Nat.length_toDigits_le_iff 10 number 19 (by norm_num) (by norm_num)
  by_cases one : number ≤ 1
  · have bounded : number < 10 ^ 19 := lt_of_le_of_lt one (by norm_num)
    simp only [numbered, if_pos one, short, bounded]
  rw [numbered_of_two_le (by omega), ← digits]
  unfold suffixed
  have length : (Text.ofNat number).length = (Nat.toDigits 10 number).length := rfl
  simp only [List.length_append, List.length_cons, length]
  constructor
  · intro bounded
    omega
  · intro bounded
    have cut := length_upTo_le base
      (show 0 ≤ ((caseReferenceMaxLength : Int) - ((Nat.toDigits 10 number).length + 1 : Nat)) by
        omega)
    omega

end Cases

end CovenantRadar
