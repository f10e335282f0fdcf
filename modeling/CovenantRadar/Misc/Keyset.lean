import Mathlib

/-!
# Pages by key

A list in strictly increasing order of a key, read page after page: each page takes the first
items after the key of the last one shown. Nothing is skipped and nothing is shown twice, because
the items after the last one shown are the rest of the list.
-/

namespace CovenantRadar

namespace Keyset

variable {α κ : Type} [LinearOrder κ] {key : α → κ}

/-- The items after a position, or all of them from the start. -/
def itemsAfter (key : α → κ) (position : Option κ) (items : List α) : List α :=
  items.filter fun item => position.all fun last => decide (last < key item)

@[simp] theorem itemsAfter_none (items : List α) : itemsAfter key none items = items := by
  simp [itemsAfter]

/-- After the last of the items in front, the others are left. -/
theorem itemsAfter_append {front back : List α}
    (sorted : (front ++ back).Pairwise fun a b => key a < key b) :
    itemsAfter key (front.getLast?.map key) (front ++ back) = back := by
  rcases List.eq_nil_or_concat front with rfl | ⟨front, last, rfl⟩
  · simp
  · obtain ⟨inFront, inBack, across⟩ := List.pairwise_append.mp sorted
    obtain ⟨_, _, before⟩ := List.pairwise_append.mp (by simpa using inFront)
    have left : ∀ item ∈ front.concat last,
        (Option.all (fun k => decide (k < key item)) (some (key last))) = false := by
      intro item member
      rw [List.concat_eq_append, List.mem_append, List.mem_singleton] at member
      rcases member with member | rfl
      · simpa using (before item member last (List.mem_singleton_self last)).le
      · simp
    have right : ∀ item ∈ back,
        (Option.all (fun k => decide (k < key item)) (some (key last))) = true := by
      intro item member
      simpa using across last (by simp) item member
    have none : (front.concat last).filter
        (fun item => Option.all (fun k => decide (k < key item)) (some (key last))) = [] :=
      List.filter_eq_nil_iff.mpr fun item member => by simp [left item member]
    have all : back.filter
        (fun item => Option.all (fun k => decide (k < key item)) (some (key last))) = back :=
      List.filter_eq_self.mpr right
    have position : (front.concat last).getLast?.map key = some (key last) := by simp
    unfold itemsAfter
    rw [position, List.filter_append, none, all, List.nil_append]

/-- One page: its items, and the position to go on from while there are more. -/
def page (key : α → κ) (size : ℕ) (items : List α) (position : Option κ) : List α × Option κ :=
  let left := itemsAfter key position items
  (left.take size, if size < left.length then (left.take size).getLast?.map key else none)

/-- The pages read from a position on, up to the one that names no next position. -/
inductive Followed (key : α → κ) (size : ℕ) (items : List α) : Option κ → List (List α) → Prop
  | last {position : Option κ} (stops : (page key size items position).2 = none) :
      Followed key size items position [(page key size items position).1]
  | more {position : Option κ} {next : κ} {rest : List (List α)}
      (goesOn : (page key size items position).2 = some next)
      (followed : Followed key size items (some next) rest) :
      Followed key size items position ((page key size items position).1 :: rest)

/-- From behind the items in front the pages show the others, and end. -/
theorem followed_from {size : ℕ} {items : List α} (positive : 0 < size)
    (sorted : items.Pairwise fun a b => key a < key b) (back : List α) :
    ∀ front, items = front ++ back →
      ∃ pages, Followed key size items (front.getLast?.map key) pages ∧ pages.flatten = back := by
  -- on the number of items left: each page but the last one shows `size` of them
  induction count : back.length using Nat.strongRecOn generalizing back with
  | ind count ih =>
    subst count
    intro front split
    have left : itemsAfter key (front.getLast?.map key) items = back := by
      rw [split] at sorted ⊢
      exact itemsAfter_append sorted
    by_cases more : size < back.length
    · have nonempty : back.take size ≠ [] := by
        rw [← List.length_pos_iff, List.length_take]
        omega
      have split' : items = (front ++ back.take size) ++ back.drop size := by
        rw [List.append_assoc, List.take_append_drop]
        exact split
      have shorter : (back.drop size).length < back.length := by
        rw [List.length_drop]
        omega
      obtain ⟨rest, followed, shown⟩ := ih _ shorter (back.drop size) rfl _ split'
      have here : page key size items (front.getLast?.map key) =
          (back.take size, (back.take size).getLast?.map key) := by
        unfold page
        simp only [left, if_pos more]
      obtain ⟨last, ends⟩ : ∃ last, (back.take size).getLast? = some last :=
        ⟨_, List.getLast?_eq_some_getLast nonempty⟩
      rw [List.getLast?_append_of_ne_nil _ nonempty, ends] at followed
      rw [ends] at here
      refine ⟨back.take size :: rest, ?_, ?_⟩
      · have step := Followed.more (congrArg Prod.snd here) followed
        rwa [congrArg Prod.fst here] at step
      · rw [List.flatten_cons, shown, List.take_append_drop]
    · have here : page key size items (front.getLast?.map key) = (back, none) := by
        unfold page
        simp only [left, if_neg more]
        rw [List.take_of_length_le (by omega)]
      refine ⟨[back], ?_, by simp⟩
      have step := Followed.last (congrArg Prod.snd here)
      rwa [congrArg Prod.fst here] at step

/-- The pages from the start show every item once, in order, and end. -/
theorem exists_followed {size : ℕ} {items : List α} (positive : 0 < size)
    (sorted : items.Pairwise fun a b => key a < key b) :
    ∃ pages, Followed key size items none pages ∧ pages.flatten = items :=
  followed_from positive sorted items [] rfl

end Keyset

end CovenantRadar
