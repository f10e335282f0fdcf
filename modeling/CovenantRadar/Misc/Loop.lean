import Mathlib.Data.List.Forall2
import Mathlib.Tactic.Common

/-!
# Loops that can raise

Reasoning rules for a loop `for x in xs: state = step(state, x)` whose body may
raise, over any state, item and error types: what one iteration preserves the
loop preserves, and a condition on the state before each iteration says when the
loop returns.
-/

namespace CovenantRadar

variable {ε σ α β : Type}

theorem Except.bind_eq_ok_iff {x : Except ε α} {f : α → Except ε β} {b : β} :
    (x >>= f) = .ok b ↔ ∃ a, x = .ok a ∧ f a = .ok b := by
  cases x <;> simp [Bind.bind, Except.bind]

theorem Except.mapError_eq_ok_iff {δ : Type} {x : Except ε α} {f : ε → δ} {a : α} :
    x.mapError f = .ok a ↔ x = .ok a := by
  cases x <;> simp [Except.mapError]

theorem Except.map_eq_ok_iff {x : Except ε α} {f : α → β} {b : β} :
    x.map f = .ok b ↔ ∃ a, x = .ok a ∧ f a = b := by
  cases x <;> simp [Except.map]

/-- A value that returned and passed a test is there. -/
theorem Except.exists_of_any {x : Except ε α} {test : α → Bool}
    (passed : x.toOption.any test = true) : ∃ a, x = .ok a ∧ test a = true := by
  cases x with
  | error error => cases passed
  | ok a => exact ⟨a, rfl, passed⟩

/-- Peels the first iteration off a loop that returned. -/
theorem foldlM_cons_eq_ok_iff {step : σ → α → Except ε σ} {s t : σ} {x : α} {xs : List α} :
    (x :: xs).foldlM step s = .ok t ↔ ∃ m, step s x = .ok m ∧ xs.foldlM step m = .ok t := by
  rw [List.foldlM_cons, Except.bind_eq_ok_iff]

theorem foldlM_append_eq_ok_iff {step : σ → α → Except ε σ} {s t : σ} {xs ys : List α} :
    (xs ++ ys).foldlM step s = .ok t ↔
      ∃ m, xs.foldlM step s = .ok m ∧ ys.foldlM step m = .ok t := by
  rw [List.foldlM_append, Except.bind_eq_ok_iff]

/-- A loop returns when its body returns on every state it can be in. -/
theorem foldlM_returns {step : σ → α → Except ε σ} {xs : List α}
    (returns : ∀ s, ∀ x ∈ xs, ∃ s', step s x = .ok s') (s : σ) :
    ∃ t, xs.foldlM step s = .ok t := by
  induction xs generalizing s with
  | nil => exact ⟨s, rfl⟩
  | cons x xs ih =>
    obtain ⟨m, first⟩ := returns s x List.mem_cons_self
    obtain ⟨t, rest⟩ := ih (fun s y member => returns s y (List.mem_cons_of_mem _ member)) m
    exact ⟨t, foldlM_cons_eq_ok_iff.mpr ⟨m, first, rest⟩⟩

/-! ## Loops whose steps each touch one key -/

section
variable {κ : Type} {step : σ → α → Except ε σ} {view : σ → κ → β} {key : α → κ}

/-- What no step of a loop touches stays as it is. -/
theorem foldlM_frame {s t : σ} {xs : List α}
    (frame : ∀ s x s', step s x = .ok s' → ∀ k, k ≠ key x → view s' k = view s k)
    (returned : xs.foldlM step s = .ok t) {k : κ} (untouched : k ∉ xs.map key) :
    view t k = view s k := by
  induction xs generalizing s with
  | nil =>
    cases returned
    rfl
  | cons x xs ih =>
    obtain ⟨m, first, rest⟩ := foldlM_cons_eq_ok_iff.mp returned
    rw [List.map_cons, List.mem_cons, not_or] at untouched
    rw [ih rest untouched.2, frame s x m first k untouched.1]

/-- What a loop leaves at the key of one step: what that step made of the state before it. -/
theorem foldlM_at {s t : σ} {before after : List α} {x : α}
    (frame : ∀ s x s', step s x = .ok s' → ∀ k, k ≠ key x → view s' k = view s k)
    (returned : (before ++ x :: after).foldlM step s = .ok t)
    (once : ((before ++ x :: after).map key).Nodup) :
    ∃ m m', before.foldlM step s = .ok m ∧ step m x = .ok m' ∧
      view t (key x) = view m' (key x) ∧ view m (key x) = view s (key x) ∧
      ∀ k, k ∉ (x :: after).map key → view t k = view m k := by
  obtain ⟨m, first, rest⟩ := foldlM_append_eq_ok_iff.mp returned
  obtain ⟨m', here, later⟩ := foldlM_cons_eq_ok_iff.mp rest
  rw [List.map_append, List.map_cons, List.nodup_append, List.nodup_cons] at once
  obtain ⟨_, ⟨new, _⟩, apart⟩ := once
  refine ⟨m, m', first, here, foldlM_frame frame later new, ?_, ?_⟩
  · apply foldlM_frame frame first
    intro member
    exact apart _ member _ List.mem_cons_self rfl
  · intro k untouched
    exact foldlM_frame frame rest untouched

end

/-- The invariant rule: an assertion that every iteration preserves holds at the end. -/
theorem foldlM_invariant {step : σ → α → Except ε σ} (inv : σ → Prop) {s t : σ} {xs : List α}
    (preserved : ∀ s x s', x ∈ xs → inv s → step s x = .ok s' → inv s')
    (initial : inv s) (returned : xs.foldlM step s = .ok t) : inv t := by
  induction xs generalizing s with
  | nil =>
    cases returned
    exact initial
  | cons x xs ih =>
    obtain ⟨m, first, rest⟩ := foldlM_cons_eq_ok_iff.mp returned
    exact ih (fun s y s' member => preserved s y s' (List.mem_cons_of_mem _ member))
      (preserved s x m List.mem_cons_self initial first) rest

/-- The invariant rule for an assertion about the state and the items still to come. -/
theorem foldlM_remaining {step : σ → α → Except ε σ} (inv : σ → List α → Prop) {s t : σ}
    {xs : List α} (preserved : ∀ s x rest s', inv s (x :: rest) → step s x = .ok s' → inv s' rest)
    (initial : inv s xs) (returned : xs.foldlM step s = .ok t) : inv t [] := by
  induction xs generalizing s with
  | nil =>
    cases returned
    exact initial
  | cons x xs ih =>
    obtain ⟨m, first, rest⟩ := foldlM_cons_eq_ok_iff.mp returned
    exact ih (preserved s x xs m initial first) rest

/-- A list comprehension that can raise returns item by item. -/
theorem mapM_eq_ok_iff {f : α → Except ε β} {xs : List α} {ys : List β} :
    xs.mapM f = .ok ys ↔ List.Forall₂ (fun x y => f x = .ok y) xs ys := by
  induction xs generalizing ys with
  | nil =>
    rw [List.mapM_nil, List.forall₂_nil_left_iff]
    exact ⟨fun same => (Except.ok.inj same).symm, fun same => congrArg Except.ok same.symm⟩
  | cons x xs ih =>
    rw [List.mapM_cons, Except.bind_eq_ok_iff]
    constructor
    · rintro ⟨y, first, rest⟩
      obtain ⟨more, tail, same⟩ := Except.bind_eq_ok_iff.mp rest
      cases same
      exact List.Forall₂.cons first (ih.mp tail)
    · intro pairs
      cases pairs with
      | cons first tail =>
        exact ⟨_, first, Except.bind_eq_ok_iff.mpr ⟨_, ih.mpr tail, rfl⟩⟩

/-- A comprehension whose body commutes with a change of items does so as a whole. -/
theorem mapM_map_comm {γ δ : Type} {run : α → Except ε β} {run' : γ → Except ε δ} {f : γ → α}
    {g : δ → β} (comm : ∀ x, run (f x) = (run' x).map g) (xs : List γ) :
    (xs.map f).mapM run = (xs.mapM run').map (List.map g) := by
  induction xs with
  | nil => rfl
  | cons x xs ih =>
    rw [List.map_cons, List.mapM_cons, List.mapM_cons, comm, ih]
    cases run' x with
    | error error => rfl
    | ok y =>
      cases xs.mapM run' with
      | error error => rfl
      | ok ys => rfl

/-- A comprehension over the items in another order returns the results in another order. -/
theorem mapM_perm {f : α → Except ε β} {xs ys : List α} {results : List β} (perm : xs.Perm ys)
    (returned : xs.mapM f = .ok results) :
    ∃ others, ys.mapM f = .ok others ∧ results.Perm others := by
  induction perm generalizing results with
  | nil => exact ⟨results, returned, List.Perm.refl _⟩
  | cons x perm ih =>
    rw [List.mapM_cons] at returned
    obtain ⟨y, first, rest⟩ := Except.bind_eq_ok_iff.mp returned
    obtain ⟨tail, more, same⟩ := Except.bind_eq_ok_iff.mp rest
    cases same
    obtain ⟨others, returned', perm'⟩ := ih more
    refine ⟨y :: others, ?_, perm'.cons y⟩
    rw [List.mapM_cons, first, returned']
    rfl
  | swap x y xs =>
    rw [mapM_eq_ok_iff] at returned
    cases returned with
    | cons second rest =>
      cases rest with
      | cons first tail =>
        exact ⟨_, mapM_eq_ok_iff.mpr (.cons first (.cons second tail)), List.Perm.swap _ _ _⟩
  | trans _ _ ih ih' =>
    obtain ⟨others, returned', perm'⟩ := ih returned
    obtain ⟨others', returned'', perm''⟩ := ih' returned'
    exact ⟨others', returned'', perm'.trans perm''⟩

/-- Comprehensions over paired items that read alike return alike. -/
theorem mapM_congr_forall₂ {γ : Type} {R : α → γ → Prop} {f : α → Except ε β}
    {g : γ → Except ε β} {xs : List α} {ys : List γ} (pairs : List.Forall₂ R xs ys)
    (same : ∀ x ∈ xs, ∀ y, R x y → f x = g y) : xs.mapM f = ys.mapM g := by
  induction pairs with
  | nil => rfl
  | cons head _ ih =>
    rw [List.mapM_cons, List.mapM_cons, same _ List.mem_cons_self _ head,
      ih fun x member => same x (List.mem_cons_of_mem _ member)]

/-- A loop that only checks its items returns when every check passes. -/
theorem forM_eq_ok_iff {f : α → Except ε Unit} {xs : List α} :
    xs.forM f = .ok () ↔ ∀ x ∈ xs, f x = .ok () := by
  induction xs with
  | nil => exact ⟨fun _ x member => absurd member List.not_mem_nil, fun _ => rfl⟩
  | cons x xs ih =>
    have peeled : (x :: xs).forM f = (f x >>= fun _ => xs.forM f) := rfl
    rw [peeled, Except.bind_eq_ok_iff, List.forall_mem_cons]
    constructor
    · intro ⟨_, first, rest⟩
      exact ⟨first, ih.mp rest⟩
    · intro ⟨first, rest⟩
      exact ⟨(), first, ih.mpr rest⟩

/-! ## Lists read item by item -/

/-- Every item of either list is paired with one of the other. -/
theorem forall₂_exists {R : α → β → Prop} {xs : List α} {ys : List β}
    (pairs : List.Forall₂ R xs ys) :
    (∀ x ∈ xs, ∃ y ∈ ys, R x y) ∧ ∀ y ∈ ys, ∃ x ∈ xs, R x y := by
  induction pairs with
  | nil => exact ⟨fun x member => absurd member List.not_mem_nil,
      fun y member => absurd member List.not_mem_nil⟩
  | @cons a b xs ys head _ ih =>
    constructor
    · intro x member
      rcases List.mem_cons.mp member with rfl | later
      · exact ⟨b, List.mem_cons_self, head⟩
      · obtain ⟨y, listed, related⟩ := ih.1 x later
        exact ⟨y, List.mem_cons_of_mem _ listed, related⟩
    · intro y member
      rcases List.mem_cons.mp member with rfl | later
      · exact ⟨a, List.mem_cons_self, head⟩
      · obtain ⟨x, listed, related⟩ := ih.2 y later
        exact ⟨x, List.mem_cons_of_mem _ listed, related⟩

/-- Lists paired by items that agree on a field agree on the field throughout. -/
theorem map_eq_of_forall₂ {γ : Type} {R : α → β → Prop} {f : α → γ} {g : β → γ} {xs : List α}
    {ys : List β} (agree : ∀ x y, R x y → f x = g y) (pairs : List.Forall₂ R xs ys) :
    xs.map f = ys.map g := by
  induction pairs with
  | nil => rfl
  | cons head _ ih => rw [List.map_cons, List.map_cons, agree _ _ head, ih]

/-- A comprehension returns when every item does. -/
theorem mapM_returns_iff {f : α → Except ε β} {xs : List α} :
    (∃ ys, xs.mapM f = .ok ys) ↔ ∀ x ∈ xs, ∃ y, f x = .ok y := by
  constructor
  · rintro ⟨ys, returned⟩ x member
    obtain ⟨y, _, read⟩ := (forall₂_exists (mapM_eq_ok_iff.mp returned)).1 x member
    exact ⟨y, read⟩
  · intro returns
    induction xs with
    | nil => exact ⟨[], rfl⟩
    | cons x xs ih =>
      obtain ⟨y, head⟩ := returns x List.mem_cons_self
      obtain ⟨ys, rest⟩ := ih fun x' member => returns x' (List.mem_cons_of_mem _ member)
      exact ⟨y :: ys, mapM_eq_ok_iff.mpr (.cons head (mapM_eq_ok_iff.mp rest))⟩

/-- A relation between the items read carries over to the items they were read from. -/
theorem pairwise_of_forall₂ {R : α → β → Prop} {S : β → β → Prop} {T : α → α → Prop}
    {xs : List α} {ys : List β} (pairs : List.Forall₂ R xs ys) (related : ys.Pairwise S)
    (carries : ∀ x x' y y', R x y → R x' y' → S y y' → T x x') : xs.Pairwise T := by
  induction pairs with
  | nil => exact List.Pairwise.nil
  | @cons a b xs ys head rest ih =>
    obtain ⟨first, others⟩ := List.pairwise_cons.mp related
    refine List.pairwise_cons.mpr ⟨?_, ih others⟩
    intro x member
    obtain ⟨y, listed, read⟩ := (forall₂_exists rest).1 x member
    exact carries a x b y head read (first y listed)

/-! ## Two runs -/

/-- Two runs that raise the same error, or return related results. -/
inductive SameOutcome (R : α → β → Prop) : Except ε α → Except ε β → Prop
  | error (e : ε) : SameOutcome R (.error e) (.error e)
  | ok {a : α} {b : β} (related : R a b) : SameOutcome R (.ok a) (.ok b)

theorem SameOutcome.bind {γ δ : Type} {R : α → β → Prop} {S : γ → δ → Prop} {x : Except ε α}
    {y : Except ε β} {f : α → Except ε γ} {g : β → Except ε δ} (first : SameOutcome R x y)
    (rest : ∀ a b, R a b → SameOutcome S (f a) (g b)) : SameOutcome S (x >>= f) (y >>= g) := by
  cases first with
  | error e => exact .error e
  | ok related => exact rest _ _ related

theorem SameOutcome.refl {R : α → α → Prop} (reflexive : ∀ a, R a a) (x : Except ε α) :
    SameOutcome R x x := by
  cases x with
  | error e => exact .error e
  | ok a => exact .ok (reflexive a)

/-- Comprehensions over related items have related results. -/
theorem SameOutcome.mapM {γ δ : Type} {P : α → β → Prop} {R : γ → δ → Prop}
    {f : α → Except ε γ} {g : β → Except ε δ} {xs : List α} {ys : List β}
    (pairs : List.Forall₂ P xs ys) (body : ∀ x y, P x y → SameOutcome R (f x) (g y)) :
    SameOutcome (List.Forall₂ R) (xs.mapM f) (ys.mapM g) := by
  induction pairs with
  | nil => exact .ok .nil
  | cons head _ ih =>
    rw [List.mapM_cons, List.mapM_cons]
    apply (body _ _ head).bind
    intro a b related
    apply ih.bind
    intro as bs rest
    exact .ok (.cons related rest)

end CovenantRadar
