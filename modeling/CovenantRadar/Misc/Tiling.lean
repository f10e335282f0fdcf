import Mathlib

/-!
# Half-open ranges laid end to end

Entries with a start and an optional end, each ending where the next one starts: no point is in
two of them, and from the first start to the last one every point is in one.
-/

namespace CovenantRadar

/-- A point of the half-open range `[start, stop)`, which without `stop` is open-ended. -/
def Covers {δ : Type} [LinearOrder δ] (start : δ) (stop : Option δ) (point : δ) : Prop :=
  start ≤ point ∧ ∀ last ∈ stop, point < last

instance {δ : Type} [LinearOrder δ] (start : δ) (stop : Option δ) (point : δ) :
    Decidable (Covers start stop point) := by
  unfold Covers
  infer_instance

/-- Cutting a range short at a later point loses nothing before it, and gains something exactly
    when the range ended before that point. -/
theorem covers_cut_iff {δ : Type} [LinearOrder δ] {start cut : δ} {stop : Option δ}
    (after : start < cut) :
    (∀ point < cut, Covers start (some cut) point ↔ Covers start stop point) ↔
      ∀ last ∈ stop, cut ≤ last := by
  constructor
  · intro same last ended
    by_contra short
    rw [not_le] at short
    by_cases inside : start ≤ last
    · have gained := (same last short).mp ⟨inside, by simpa using short⟩
      exact lt_irrefl last (gained.2 last ended)
    · have gained := (same start after).mp ⟨le_rfl, by simpa using after⟩
      exact inside (gained.2 last ended).le
  · intro long point before
    constructor
    · intro covered
      exact ⟨covered.1, fun last ended => before.trans_le (long last ended)⟩
    · intro covered
      exact ⟨covered.1, by simpa using before⟩

/-- Two members of a list are the same, or related in the order they are listed in. -/
theorem pairwise_trichotomy {α : Type} {related : α → α → Prop} {entries : List α}
    (ordered : entries.Pairwise related) {a b : α} (listed : a ∈ entries) (listed' : b ∈ entries) :
    a = b ∨ related a b ∨ related b a := by
  induction ordered with
  | nil => cases listed
  | cons before _ ih =>
    rcases List.mem_cons.mp listed with rfl | further
    · rcases List.mem_cons.mp listed' with rfl | further'
      · exact .inl rfl
      · exact .inr (.inl (before b further'))
    · rcases List.mem_cons.mp listed' with rfl | further'
      · exact .inr (.inr (before a further))
      · exact ih further further'

section
variable {α δ : Type} [LinearOrder δ] {start : α → δ} {stop : α → Option δ}

/-- Each entry ends where the next one starts, later than it started itself. -/
inductive Tiled (start : α → δ) (stop : α → Option δ) : List α → Prop where
  | nil : Tiled start stop []
  | single (entry : α) : Tiled start stop [entry]
  | cons {entry next : α} {rest : List α} (meets : stop entry = some (start next))
      (later : start entry < start next) (tail : Tiled start stop (next :: rest)) :
      Tiled start stop (entry :: next :: rest)

namespace Tiled

/-- An earlier entry ends before a later one starts. -/
theorem pairwise {entries : List α} (tiled : Tiled start stop entries) :
    entries.Pairwise fun entry later =>
      start entry < start later ∧ ∃ last ∈ stop entry, last ≤ start later := by
  induction tiled with
  | nil => exact List.Pairwise.nil
  | single entry => exact List.pairwise_singleton _ _
  | @cons entry next rest meets later tail ih =>
    refine List.pairwise_cons.mpr ⟨?_, ih⟩
    intro other listed
    rcases List.mem_cons.mp listed with rfl | further
    · exact ⟨later, start other, by rw [meets]; rfl, le_rfl⟩
    · obtain ⟨after, _⟩ := (List.pairwise_cons.mp ih).1 other further
      exact ⟨later.trans after, start next, by rw [meets]; rfl, after.le⟩

/-- No point is in two entries. -/
theorem not_covers_of_covers {entries : List α} (tiled : Tiled start stop entries) :
    entries.Pairwise fun entry later =>
      ∀ point, Covers (start entry) (stop entry) point →
        ¬ Covers (start later) (stop later) point := by
  refine tiled.pairwise.imp ?_
  rintro entry later ⟨_, last, ended, before⟩ point covered covered'
  exact absurd (covered.2 last ended) (not_lt.mpr (before.trans covered'.1))

/-- Between the first start and the last one, every point is in an entry before the last. -/
theorem exists_covers {entries : List α} {last : α}
    (tiled : Tiled start stop (entries ++ [last])) {first : α}
    (head : (entries ++ [last]).head? = some first) {point : δ} (from' : start first ≤ point)
    (until' : point < start last) :
    ∃ entry ∈ entries, Covers (start entry) (stop entry) point := by
  induction entries generalizing first with
  | nil =>
    cases head
    exact absurd from' (not_le.mpr until')
  | cons entry rest ih =>
    cases head
    cases rest with
    | nil =>
      cases tiled with
      | cons meets _ _ =>
        exact ⟨entry, List.mem_cons_self, from', by rw [meets]; simpa using until'⟩
    | cons next rest =>
      cases tiled with
      | cons meets _ tail =>
        by_cases here : point < start next
        · exact ⟨entry, List.mem_cons_self, from', by rw [meets]; simpa using here⟩
        · obtain ⟨other, listed, covered⟩ := ih tail rfl (not_lt.mp here)
          exact ⟨other, List.mem_cons_of_mem _ listed, covered⟩

/-- Every entry before the last lies between the first start and the last one. -/
theorem bounds_of_covers {entries : List α} {last : α}
    (tiled : Tiled start stop (entries ++ [last])) {first : α}
    (head : (entries ++ [last]).head? = some first) {entry : α} (listed : entry ∈ entries)
    {point : δ} (covered : Covers (start entry) (stop entry) point) :
    start first ≤ point ∧ point < start last := by
  have apart := tiled.pairwise
  rw [List.pairwise_append] at apart
  obtain ⟨_, end', ended, before⟩ := apart.2.2 entry listed last List.mem_cons_self
  refine ⟨?_, (covered.2 end' ended).trans_le before⟩
  cases entries with
  | nil => cases listed
  | cons other rest =>
    cases head
    rcases List.mem_cons.mp listed with rfl | further
    · exact covered.1
    · exact ((List.pairwise_cons.mp apart.1).1 entry further).1.le.trans covered.1

/-- A later entry is added behind the last one, which ends where it starts. -/
theorem snoc {entries : List α} {last closed next : α}
    (tiled : Tiled start stop (entries ++ [last])) (same : start closed = start last)
    (meets : stop closed = some (start next)) (later : start last < start next) :
    Tiled start stop (entries ++ [closed, next]) := by
  have tail : Tiled start stop [closed, next] := .cons meets (by rw [same]; exact later) (.single next)
  induction entries with
  | nil => exact tail
  | cons entry rest ih =>
    cases rest with
    | nil =>
      cases tiled with
      | cons meets' later' tail' =>
        exact .cons (by rw [meets', same]) (by rw [same]; exact later') (ih tail')
    | cons other rest =>
      cases tiled with
      | cons meets' later' tail' => exact .cons meets' later' (ih tail')

/-- The last entry can be replaced by one with the same start. -/
theorem replace_last {entries : List α} {last other : α}
    (tiled : Tiled start stop (entries ++ [last])) (same : start other = start last) :
    Tiled start stop (entries ++ [other]) := by
  induction entries with
  | nil => exact .single other
  | cons entry rest ih =>
    cases rest with
    | nil =>
      cases tiled with
      | cons meets later tail =>
        exact .cons (by rw [meets, same]) (by rw [same]; exact later) (ih tail)
    | cons next rest =>
      cases tiled with
      | cons meets later tail => exact .cons meets later (ih tail)

end Tiled

end

end CovenantRadar
