import Mathlib.Data.List.Chain
import Mathlib.Data.List.Nodup
import Mathlib.Tactic.Common

/-!
# Hash-linked sequences

An append-only sequence whose items carry a digest of themselves and the digest of
the item before. `Sealed` says that an item's digest covers its content; the only
fact about the digest is that equal digests mean equal ordinals. Nothing here
depends on what an item is.
-/

namespace CovenantRadar.HashChain

variable {ρ η : Type}

/-- How a kind of item is linked. -/
structure Links (ρ η : Type) where
  ordinal : ρ → ℤ
  digest : ρ → η
  previous : ρ → Option η
  Sealed : ρ → Prop

namespace Links

variable (L : Links ρ η)

/-- `b` comes right after `a`. -/
def Follows (a b : ρ) : Prop := L.ordinal a < L.ordinal b ∧ L.previous b = some (L.digest a)

/-- A stretch of the chain: linked and sealed, wherever it starts. -/
structure Stretch (items : List ρ) : Prop where
  linked : items.IsChain L.Follows
  sealed : ∀ item ∈ items, L.Sealed item

/-- A whole chain: a stretch whose first item has no predecessor. -/
structure Intact (items : List ρ) : Prop extends L.Stretch items where
  genesis : ∀ item ∈ items.head?, L.previous item = none

/-- Equal digests of sealed items mean equal ordinals. -/
def Determined : Prop :=
  ∀ a b, L.Sealed a → L.Sealed b → L.digest a = L.digest b → L.ordinal a = L.ordinal b

variable {L}

theorem Stretch.of_isInfix {items part : List ρ} (whole : L.Stretch items) (sub : part <:+: items) :
    L.Stretch part :=
  ⟨by exact List.IsChain.infix whole.linked sub, fun item member => whole.sealed item (sub.subset member)⟩

theorem Intact.of_prefix {items front : List ρ} (whole : L.Intact items) (sub : front <+: items) :
    L.Intact front := by
  refine ⟨whole.toStretch.of_isInfix sub.isInfix, ?_⟩
  obtain ⟨back, rfl⟩ := sub
  intro item first
  refine whole.genesis item ?_
  cases front with
  | nil => cases first
  | cons head tail => exact first

/-- A stretch cut in two: the second part is checked together with the item before it. -/
theorem stretch_append {front back : List ρ} :
    L.Stretch (front ++ back) ↔
      L.Stretch front ∧ L.Stretch (front.getLast?.toList ++ back) := by
  have joint : (front.getLast?.toList ++ back).IsChain L.Follows ↔
      back.IsChain L.Follows ∧ ∀ before ∈ front.getLast?, ∀ next ∈ back.head?,
        L.Follows before next := by
    cases front.getLast? with
    | none => simp
    | some before => simp [List.isChain_cons, and_comm]
  have last : ∀ item ∈ front.getLast?.toList, item ∈ front := fun item member =>
    List.mem_of_getLast? (Option.mem_toList.mp member)
  constructor
  · intro whole
    have parts := List.isChain_append.mp whole.linked
    refine ⟨whole.of_isInfix (List.prefix_append _ _).isInfix, joint.mpr parts.2, ?_⟩
    intro item member
    rcases List.mem_append.mp member with before | after
    · exact whole.sealed item (List.mem_append_left _ (last item before))
    · exact whole.sealed item (List.mem_append_right _ after)
  · intro ⟨first, second⟩
    refine ⟨List.isChain_append.mpr ⟨first.linked, joint.mp second.linked⟩, ?_⟩
    intro item member
    rcases List.mem_append.mp member with before | after
    · exact first.sealed item before
    · exact second.sealed item (List.mem_append_right _ after)

/-- A stretch is decided item by item: each is sealed and follows its neighbour. -/
theorem stretch_iff_forall {items : List ρ} :
    L.Stretch items ↔ ∀ item ∈ items, L.Sealed item ∧
      ∀ front before back, items = front ++ before :: item :: back → L.Follows before item := by
  constructor
  · intro whole item member
    refine ⟨whole.sealed item member, ?_⟩
    intro front before back place
    exact List.isChain_iff_forall_rel_of_append_cons_cons.mp whole.linked place
  · intro each
    refine ⟨List.isChain_iff_forall_rel_of_append_cons_cons.mpr ?_, fun item member =>
      (each item member).1⟩
    intro before item front back place
    have member : item ∈ items := by
      rw [place]
      simp
    exact (each item member).2 front before back place

theorem Stretch.pairwise {items : List ρ} (whole : L.Stretch items) :
    items.Pairwise (fun a b => L.ordinal a < L.ordinal b) := by
  have increasing : items.IsChain (fun a b => L.ordinal a < L.ordinal b) :=
    whole.linked.imp fun _ _ follows => follows.1
  exact List.isChain_iff_pairwise.mp increasing

theorem Intact.tail_previous {items : List ρ} {first : ρ} (whole : L.Intact (first :: items)) :
    ∀ item ∈ items, ∃ before ∈ first :: items, L.Follows before item := by
  intro item member
  obtain ⟨front, back, rfl⟩ := List.append_of_mem member
  have linked := whole.linked
  rw [← List.cons_append, List.isChain_append] at linked
  obtain ⟨before, last⟩ : ∃ before, before ∈ (first :: front).getLast? :=
    ⟨_, List.getLast?_eq_some_getLast (List.cons_ne_nil _ _)⟩
  exact ⟨before, List.mem_append_left _ (List.mem_of_getLast? last),
    linked.2.2 before last item (by simp)⟩

/-- Two items of a chain with one digest are one item. -/
theorem Stretch.eq_of_digest_eq {items : List ρ} (determined : L.Determined)
    (whole : L.Stretch items) {a b : ρ} (memberA : a ∈ items) (memberB : b ∈ items)
    (same : L.digest a = L.digest b) : a = b := by
  have ordinals := determined a b (whole.sealed a memberA) (whole.sealed b memberB) same
  have distinct : (items.map L.ordinal).Nodup := by
    rw [List.Nodup, List.pairwise_map]
    exact whole.pairwise.imp fun less => Int.ne_of_lt less
  exact List.inj_on_of_nodup_map distinct memberA memberB ordinals

/-- A chain made of another chain's items is a beginning of it: leaving an item out
    that is not last, repeating one or reordering them breaks the chain. -/
theorem Intact.isPrefix_of_subset {items others : List ρ} (determined : L.Determined)
    (whole : L.Intact items) (intact : L.Intact others) (drawn : others ⊆ items) :
    others <+: items := by
  induction others using List.reverseRecOn with
  | nil => exact List.nil_prefix
  | append_singleton front last ih =>
    have frontIntact : L.Intact front := intact.of_prefix (List.prefix_append _ _)
    obtain ⟨back, rfl⟩ := ih frontIntact fun item member =>
      drawn (List.mem_append_left _ member)
    have lastMember := drawn (List.mem_append_right front (List.mem_singleton_self last))
    -- what comes right before `last`, in `others` and in `items`
    cases position : front.getLast? with
    | none =>
      rw [List.getLast?_eq_none_iff] at position
      subst position
      have genesis : L.previous last = none := intact.genesis last (by simp)
      rw [List.nil_append] at whole lastMember ⊢
      cases back with
      | nil => cases lastMember
      | cons head tail =>
        rcases List.mem_cons.mp lastMember with rfl | later
        · exact ⟨tail, rfl⟩
        · obtain ⟨before, -, follows⟩ := whole.tail_previous last later
          cases genesis.symm.trans follows.2
    | some before =>
      have beforeMember := List.mem_of_getLast? position
      have linked : L.Follows before last :=
        (List.isChain_append.mp intact.linked).2.2 before position last (by simp)
      -- `last` is no item of `front`, so it is one of `back`
      have apart := (List.pairwise_append.mp intact.toStretch.pairwise).2.2
      have notFront : last ∉ front := fun member =>
        absurd (apart last member last (List.mem_singleton_self last)) (Int.lt_irrefl _)
      have inBack : last ∈ back := (List.mem_append.mp lastMember).resolve_left notFront
      obtain ⟨skipped, rest, rfl⟩ := List.append_of_mem inBack
      cases skipped using List.reverseRecOn with
      | nil => exact ⟨rest, by simp⟩
      | append_singleton skipped between =>
        have member : between ∈ front ++ (skipped ++ [between] ++ last :: rest) := by simp
        have link : L.Follows between last := by
          have chain := whole.linked
          rw [List.append_assoc, List.singleton_append, ← List.append_assoc] at chain
          exact (List.isChain_append.mp chain).2.1.rel
        have same := whole.toStretch.eq_of_digest_eq determined
          (List.mem_append_left _ beforeMember) member
          (Option.some.inj (linked.2.symm.trans link.2))
        have order := (List.pairwise_append.mp whole.toStretch.pairwise).2.2 before beforeMember
          between (by simp)
        rw [same] at order
        exact absurd order (Int.lt_irrefl _)

/-- No item fits between two neighbours, or before the first item. -/
theorem Intact.not_insert {front back : List ρ} {item : ρ} (determined : L.Determined)
    (whole : L.Intact (front ++ back)) (inside : back ≠ []) : ¬ L.Intact (front ++ item :: back) := by
  intro intact
  obtain ⟨next, rest, rfl⟩ := List.exists_cons_of_ne_nil inside
  have chain := (List.isChain_append.mp intact.linked).2.1.rel
  cases position : front.getLast? with
  | none =>
    rw [List.getLast?_eq_none_iff] at position
    subst position
    have genesis : L.previous next = none := whole.genesis next (by simp)
    cases genesis.symm.trans chain.2
  | some before =>
    have original : L.Follows before next :=
      (List.isChain_append.mp whole.linked).2.2 before position next (by simp)
    have inserted : L.Follows before item :=
      (List.isChain_append.mp intact.linked).2.2 before position item (by simp)
    have same : L.digest before = L.digest item :=
      Option.some.inj (original.2.symm.trans chain.2)
    have ordinals := determined before item
      (intact.sealed before (List.mem_append_left _ (List.mem_of_getLast? position)))
      (intact.sealed item (by simp)) same
    exact absurd inserted.1 (by rw [ordinals]; exact Int.lt_irrefl _)

/-- An item that is not last can only be replaced by one with the same digest. -/
theorem Intact.digest_eq_of_replace {front back : List ρ} {item other : ρ}
    (whole : L.Intact (front ++ item :: back)) (intact : L.Intact (front ++ other :: back))
    (inside : back ≠ []) : L.digest item = L.digest other := by
  obtain ⟨next, rest, rfl⟩ := List.exists_cons_of_ne_nil inside
  have original := (List.isChain_append.mp whole.linked).2.1.rel
  have replaced := (List.isChain_append.mp intact.linked).2.1.rel
  exact Option.some.inj (original.2.symm.trans replaced.2)

/-- Appending a sealed item that names the last digest keeps the chain intact. -/
theorem Intact.append {items : List ρ} {item : ρ} (whole : L.Intact items)
    (sealed : L.Sealed item)
    (linked : ∀ last ∈ items.getLast?, L.Follows last item)
    (genesis : items = [] → L.previous item = none) : L.Intact (items ++ [item]) where
  linked := by
    rw [List.isChain_append]
    exact ⟨whole.linked, List.isChain_singleton _, fun last position other first => by
      cases first
      exact linked last position⟩
  sealed := by
    intro other member
    rcases List.mem_append.mp member with old | new
    · exact whole.sealed other old
    · rw [List.mem_singleton.mp new]
      exact sealed
  genesis := by
    intro other first
    cases items with
    | nil =>
      cases first
      exact genesis rfl
    | cons head tail => exact whole.genesis other (by simpa using first)

theorem intact_nil : L.Intact [] :=
  ⟨⟨List.isChain_nil, fun _ member => absurd member List.not_mem_nil⟩, fun _ first => by cases first⟩

end Links

end CovenantRadar.HashChain
