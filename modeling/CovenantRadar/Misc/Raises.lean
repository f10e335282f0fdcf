import CovenantRadar.Misc.Loop

/-!
# What a computation raises

`Raises bad x`: the computation `x` ends with an exception that `bad` names. The rules follow the
shape of the program, so that a question about a whole function is a question about each of its
calls.
-/

namespace CovenantRadar

variable {ε α β σ : Type} {bad : ε → Prop}

/-- The computation ends with an exception `bad` names. -/
def Raises (bad : ε → Prop) (x : Except ε α) : Prop := ∃ e, x = .error e ∧ bad e

theorem not_raises_ok (a : α) : ¬ Raises bad (.ok a : Except ε α) := by
  rintro ⟨e, raised, -⟩
  cases raised

theorem not_raises_pure (a : α) : ¬ Raises bad (pure a : Except ε α) := not_raises_ok a

theorem raises_error_iff {e : ε} : Raises bad (.error e : Except ε α) ↔ bad e := by
  constructor
  · rintro ⟨_, raised, isBad⟩
    cases raised
    exact isBad
  · intro isBad
    exact ⟨e, rfl, isBad⟩

/-- A sequence raises in its first part, or after it returned. -/
theorem raises_bind_iff {x : Except ε α} {f : α → Except ε β} :
    Raises bad (x >>= f) ↔ Raises bad x ∨ ∃ a, x = .ok a ∧ Raises bad (f a) := by
  cases x with
  | error e =>
    constructor
    · intro raised
      exact .inl (raises_error_iff.mpr (raises_error_iff.mp raised))
    · rintro (raised | ⟨a, returned, -⟩)
      · exact raises_error_iff.mpr (raises_error_iff.mp raised)
      · cases returned
  | ok a =>
    constructor
    · intro raised
      exact .inr ⟨a, rfl, raised⟩
    · rintro (raised | ⟨_, returned, raised⟩)
      · exact absurd raised (not_raises_ok a)
      · cases returned
        exact raised

/-- A first part that never raises so leaves the question to what follows. -/
theorem raises_bind_iff_of_not {x : Except ε α} {f : α → Except ε β} (safe : ¬ Raises bad x) :
    Raises bad (x >>= f) ↔ ∃ a, x = .ok a ∧ Raises bad (f a) := by
  rw [raises_bind_iff]
  exact or_iff_right safe

/-- A comprehension raises at one item, all items before it having returned. -/
theorem raises_mapM_iff {f : α → Except ε β} {xs : List α} :
    Raises bad (xs.mapM f) ↔ ∃ before x after, xs = before ++ x :: after ∧
      (∀ y ∈ before, ∃ b, f y = .ok b) ∧ Raises bad (f x) := by
  induction xs with
  | nil =>
    constructor
    · intro raised
      exact absurd raised (not_raises_pure [])
    · rintro ⟨before, x, after, split, -⟩
      exact absurd split (by simp)
  | cons y ys ih =>
    rw [List.mapM_cons, raises_bind_iff]
    constructor
    · rintro (first | ⟨b, returned, rest⟩)
      · exact ⟨[], y, ys, rfl, nofun, first⟩
      · rcases raises_bind_iff.mp rest with rest | ⟨bs, -, rest⟩
        · obtain ⟨before, x, after, rfl, returns, raised⟩ := ih.mp rest
          refine ⟨y :: before, x, after, rfl, ?_, raised⟩
          intro z member
          rcases List.mem_cons.mp member with rfl | member
          · exact ⟨b, returned⟩
          · exact returns z member
        · exact absurd rest (not_raises_pure _)
    · rintro ⟨before, x, after, split, returns, raised⟩
      cases before with
      | nil =>
        obtain ⟨rfl, rfl⟩ := List.cons.inj split
        exact .inl raised
      | cons z before =>
        obtain ⟨rfl, rfl⟩ := List.cons.inj split
        obtain ⟨b, returned⟩ := returns y List.mem_cons_self
        refine .inr ⟨b, returned, raises_bind_iff.mpr (.inl (ih.mpr ?_))⟩
        exact ⟨before, x, after, rfl,
          fun w member => returns w (List.mem_cons_of_mem _ member), raised⟩

end CovenantRadar
