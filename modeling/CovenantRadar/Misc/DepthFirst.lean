import CovenantRadar.Misc.Loop
import Mathlib

/-!
# Depth-first ordering of a dependency table

The recursive visit that lists every entry after the entries it depends on: it remembers the
entries it is inside of, which make a cycle when they are met again, and the entries it is done
with. It returns on the closed tables without a cycle, and on no others.
-/

namespace CovenantRadar

namespace DepthFirst

variable {α ε : Type} [DecidableEq α]

/-- The entries of a table, each with what it depends on; a leaf depends on nothing and is never
    listed. -/
abbrev Table (α : Type) : Type := List (α × Option (List α))

/-- The entries done, and those of them that are listed, in the order they were finished. -/
structure Progress (α : Type) where
  done : List α
  order : List α

/-- What the table says of an entry. -/
def dependencies (table : Table α) (entry : α) : Option (Option (List α)) := table.lookup entry

theorem dependencies_cons (first : α × Option (List α)) (table : Table α) (entry : α) :
    dependencies (first :: table) entry =
      if entry = first.1 then some first.2 else dependencies table entry := by
  unfold dependencies
  rw [List.lookup_cons]
  by_cases same : entry = first.1
  · simp [same]
  · have other : (entry == first.1) = false := by simpa using same
    rw [other, if_neg same]

/-- How many entries are not being visited. -/
def remaining (table : Table α) (visiting : List α) : Nat :=
  ((table.map (·.1)).filter fun entry => entry ∉ visiting).length

theorem mem_keys_of_dependencies {table : Table α} {entry : α} {deps : Option (List α)}
    (found : dependencies table entry = some deps) : entry ∈ table.map (·.1) := by
  induction table with
  | nil => cases found
  | cons first table ih =>
    rw [dependencies_cons] at found
    split_ifs at found with same
    · rw [same]
      exact List.mem_cons_self
    · exact List.mem_cons_of_mem _ (ih found)

theorem remaining_lt {table : Table α} {visiting : List α} {entry : α}
    (listed : entry ∈ table.map (·.1)) (outside : entry ∉ visiting) :
    remaining table (entry :: visiting) < remaining table visiting := by
  unfold remaining
  generalize table.map (·.1) = entries at listed
  induction entries with
  | nil => cases listed
  | cons first entries ih =>
    have weaker : ∀ other, other ∉ entry :: visiting → other ∉ visiting :=
      fun other => mt (List.mem_cons_of_mem _)
    have less : (entries.filter fun other => other ∉ entry :: visiting).length ≤
        (entries.filter fun other => other ∉ visiting).length := by
      apply List.Sublist.length_le
      apply List.monotone_filter_right
      intro other
      simp only [decide_eq_true_eq]
      exact weaker other
    by_cases same : first = entry
    · subst same
      have dropped : ((first :: entries).filter fun other => other ∉ first :: visiting) =
          entries.filter fun other => other ∉ first :: visiting := by
        simp
      have kept : ((first :: entries).filter fun other => other ∉ visiting) =
          first :: entries.filter fun other => other ∉ visiting := by
        simp [outside]
      rw [dropped, kept, List.length_cons]
      exact Nat.lt_succ_of_le less
    · have later : entry ∈ entries := by simpa [Ne.symm same] using listed
      have step := ih later
      by_cases inside : first ∈ visiting
      · simpa [List.filter_cons, inside] using step
      · simpa [List.filter_cons, inside, same] using step

/-- Visits one entry, inside of the entries `visiting`. -/
def visit (table : Table α) (unknown cycle : α → ε) (visiting : List α) (entry : α)
    (progress : Progress α) : Except ε (Progress α) :=
  if entry ∈ progress.done then .ok progress
  else
    match _found : dependencies table entry with
    | none => .error (unknown entry)
    | some none => .ok { progress with done := entry :: progress.done }
    | some (some deps) =>
      if _outside : entry ∉ visiting then
        (deps.foldlM (fun progress dep =>
          visit table unknown cycle (entry :: visiting) dep progress) progress).map fun after =>
            { done := entry :: after.done, order := after.order ++ [entry] }
      else .error (cycle entry)
termination_by remaining table visiting
decreasing_by exact remaining_lt (mem_keys_of_dependencies _found) _outside

/-- Visits every entry of the table. -/
def visitAll (table : Table α) (unknown cycle : α → ε) : Except ε (Progress α) :=
  (table.map (·.1)).foldlM (fun progress entry => visit table unknown cycle [] entry progress)
    ⟨[], []⟩

/-- An entry depends on another one. -/
def Depends (table : Table α) (entry dep : α) : Prop :=
  ∃ deps, dependencies table entry = some (some deps) ∧ dep ∈ deps

/-- Everything an entry depends on is in the table. -/
def Closed (table : Table α) : Prop :=
  ∀ entry dep, Depends table entry dep → ∃ deps, dependencies table dep = some deps

/-- No entry depends on itself, however indirectly. -/
def Acyclic (table : Table α) : Prop :=
  ∀ entry, ¬ Relation.TransGen (Depends table) entry entry

/-! ## What one visit does -/

section
variable {table : Table α} {unknown cycle : α → ε} {visiting : List α} {entry : α}
  {progress after : Progress α}

theorem visit_of_done (member : entry ∈ progress.done) :
    visit table unknown cycle visiting entry progress = .ok progress := by
  rw [visit, if_pos member]

theorem visit_of_leaf (new : entry ∉ progress.done) (leaf : dependencies table entry = some none) :
    visit table unknown cycle visiting entry progress =
      .ok { progress with done := entry :: progress.done } := by
  rw [visit, if_neg new]
  split <;> simp_all

theorem visit_of_deps {deps : List α} (new : entry ∉ progress.done)
    (found : dependencies table entry = some (some deps)) (outside : entry ∉ visiting) :
    visit table unknown cycle visiting entry progress =
      (deps.foldlM (fun progress dep =>
        visit table unknown cycle (entry :: visiting) dep progress) progress).map fun after =>
          { done := entry :: after.done, order := after.order ++ [entry] } := by
  rw [visit, if_neg new]
  split
  · simp_all
  · simp_all
  · rename_i deps' found'
    rw [found] at found'
    cases found'
    exact dif_pos outside

/-- Every way a visit returns. -/
theorem visit_cases
    (returned : visit table unknown cycle visiting entry progress = .ok after) :
    (entry ∈ progress.done ∧ after = progress) ∨
    (entry ∉ progress.done ∧ dependencies table entry = some none ∧
      after = { progress with done := entry :: progress.done }) ∨
    ∃ deps inner, entry ∉ progress.done ∧ dependencies table entry = some (some deps) ∧
      entry ∉ visiting ∧
      deps.foldlM (fun progress dep =>
        visit table unknown cycle (entry :: visiting) dep progress) progress = .ok inner ∧
      after = { done := entry :: inner.done, order := inner.order ++ [entry] } := by
  by_cases member : entry ∈ progress.done
  · rw [visit_of_done member] at returned
    exact .inl ⟨member, (Except.ok.inj returned).symm⟩
  cases found : dependencies table entry with
  | none =>
    rw [visit, if_neg member] at returned
    split at returned <;> simp_all
  | some deps =>
    cases deps with
    | none =>
      rw [visit_of_leaf member found] at returned
      exact .inr (.inl ⟨member, rfl, (Except.ok.inj returned).symm⟩)
    | some deps =>
      by_cases outside : entry ∉ visiting
      · rw [visit_of_deps member found outside] at returned
        cases inner : deps.foldlM (fun progress dep =>
            visit table unknown cycle (entry :: visiting) dep progress) progress with
        | error error =>
          rw [inner] at returned
          cases returned
        | ok inner' =>
          rw [inner] at returned
          exact .inr (.inr ⟨deps, inner', member, rfl, outside, inner,
            (Except.ok.inj returned).symm⟩)
      · rw [visit, if_neg member] at returned
        split at returned <;> simp_all

end

/-! ## What a visit keeps -/

/-- Each entry comes after everything it depends on, and only once. -/
structure Ordered (table : Table α) (order : List α) : Prop where
  once : order.Nodup
  after : ∀ before entry later, order = before ++ entry :: later →
    ∀ dep, Depends table entry dep → dep ∉ entry :: later

/-- What holds of the progress between two visits. -/
structure Sound (table : Table α) (progress : Progress α) : Prop where
  known : ∀ entry ∈ progress.done, ∃ deps, dependencies table entry = some deps
  closed : ∀ entry ∈ progress.done, ∀ dep, Depends table entry dep → dep ∈ progress.done
  listed : ∀ entry, entry ∈ progress.order ↔
    entry ∈ progress.done ∧ ∃ deps, dependencies table entry = some (some deps)
  ordered : Ordered table progress.order
  accessible : ∀ entry ∈ progress.done, Acc (fun dep entry => Depends table entry dep) entry

/-- What a visit inside of `visiting` adds: it never finishes an entry it is inside of. -/
structure Grows (visiting : List α) (progress after : Progress α) : Prop where
  keeps : ∀ entry ∈ progress.done, entry ∈ after.done
  inside : ∀ entry ∈ visiting, entry ∉ progress.done → entry ∉ after.done

omit [DecidableEq α] in
theorem Grows.refl (visiting : List α) (progress : Progress α) : Grows visiting progress progress :=
  ⟨fun _ member => member, fun _ _ new => new⟩

omit [DecidableEq α] in
theorem Grows.trans {visiting : List α} {a b c : Progress α} (first : Grows visiting a b)
    (second : Grows visiting b c) : Grows visiting a c where
  keeps := fun entry member => second.keeps entry (first.keeps entry member)
  inside := fun entry inner new => second.inside entry inner (first.inside entry inner new)

variable {table : Table α} {unknown cycle : α → ε}

theorem sound_initial : Sound table ⟨[], []⟩ where
  known := fun entry member => absurd member List.not_mem_nil
  closed := fun entry member => absurd member List.not_mem_nil
  listed := fun entry => ⟨fun member => absurd member List.not_mem_nil,
    fun member => absurd member.1 List.not_mem_nil⟩
  ordered := ⟨List.nodup_nil, fun before entry later split => by
    simp at split⟩
  accessible := fun entry member => absurd member List.not_mem_nil

/-- A leaf is done at once. -/
theorem Sound.leaf {progress : Progress α} (sound : Sound table progress) {entry : α}
    (leaf : dependencies table entry = some none) :
    Sound table { progress with done := entry :: progress.done } := by
  have independent : ∀ dep, ¬ Depends table entry dep := by
    rintro dep ⟨deps, found, _⟩
    rw [leaf] at found
    cases found
  refine ⟨?_, ?_, ?_, sound.ordered, ?_⟩
  · intro other member
    rcases List.mem_cons.mp member with rfl | member
    · exact ⟨none, leaf⟩
    · exact sound.known other member
  · intro other member dep depends
    rcases List.mem_cons.mp member with rfl | member
    · exact absurd depends (independent dep)
    · exact List.mem_cons_of_mem _ (sound.closed other member dep depends)
  · intro other
    rw [sound.listed other]
    constructor
    · intro known
      exact ⟨List.mem_cons_of_mem _ known.1, known.2⟩
    · intro known
      obtain ⟨member, deps, found⟩ := known
      rcases List.mem_cons.mp member with rfl | member
      · rw [leaf] at found
        cases found
      · exact ⟨member, deps, found⟩
  · intro other member
    rcases List.mem_cons.mp member with rfl | member
    · exact ⟨_, fun dep depends => absurd depends (independent dep)⟩
    · exact sound.accessible other member

/-- An entry is done once everything it depends on is. -/
theorem Sound.finish {progress : Progress α} (sound : Sound table progress) {entry : α}
    {deps : List α} (found : dependencies table entry = some (some deps)) (new : entry ∉ progress.done)
    (visited : ∀ dep ∈ deps, dep ∈ progress.done) :
    Sound table { done := entry :: progress.done, order := progress.order ++ [entry] } := by
  have done : ∀ dep, Depends table entry dep → dep ∈ progress.done := by
    rintro dep ⟨deps', found', member⟩
    rw [found] at found'
    cases found'
    exact visited dep member
  have unlisted : entry ∉ progress.order := fun member => new ((sound.listed entry).mp member).1
  refine ⟨?_, ?_, ?_, ⟨?_, ?_⟩, ?_⟩
  · intro other member
    rcases List.mem_cons.mp member with rfl | member
    · exact ⟨some deps, found⟩
    · exact sound.known other member
  · intro other member dep depends
    rcases List.mem_cons.mp member with rfl | member
    · exact List.mem_cons_of_mem _ (done dep depends)
    · exact List.mem_cons_of_mem _ (sound.closed other member dep depends)
  · intro other
    rw [List.mem_append, List.mem_singleton, List.mem_cons, sound.listed other]
    constructor
    · rintro (⟨member, derived⟩ | rfl)
      · exact ⟨.inr member, derived⟩
      · exact ⟨.inl rfl, deps, found⟩
    · rintro ⟨rfl | member, derived⟩
      · exact .inr rfl
      · exact .inl ⟨member, derived⟩
  · rw [List.nodup_append]
    refine ⟨sound.ordered.once, List.nodup_singleton _, ?_⟩
    rintro other member last ends rfl
    rw [List.mem_singleton.mp ends] at member
    exact unlisted member
  · intro before other later split dep depends
    rcases List.eq_nil_or_concat later with rfl | ⟨later', last, rfl⟩
    · obtain ⟨_, same⟩ := List.append_inj' split rfl
      cases same
      intro member
      have self : dep = entry := List.mem_singleton.mp member
      rw [self] at depends
      exact new (done entry depends)
    · have split' : progress.order ++ [entry] = (before ++ other :: later') ++ [last] := by
        refine Eq.trans split ?_
        simp
      obtain ⟨front, same⟩ := List.append_inj' split' rfl
      cases same
      have member : other ∈ progress.order := by
        rw [front]
        simp
      have earlier := sound.ordered.after before other later' front dep depends
      have apart : dep ≠ entry := by
        rintro rfl
        exact new (sound.closed other ((sound.listed other).mp member).1 dep depends)
      simpa [apart] using earlier
  · intro other member
    rcases List.mem_cons.mp member with rfl | member
    · exact ⟨_, fun dep depends => sound.accessible dep (done dep depends)⟩
    · exact sound.accessible other member

/-- One visit keeps the progress sound and finishes its entry. The induction is on the entries
    that are not being visited. -/
theorem visit_sound {visiting : List α} {entry : α} {progress after : Progress α}
    (derived : ∀ other ∈ visiting, ∃ deps, dependencies table other = some (some deps))
    (sound : Sound table progress)
    (returned : visit table unknown cycle visiting entry progress = .ok after) :
    Sound table after ∧ Grows visiting progress after ∧ entry ∈ after.done := by
  induction size : remaining table visiting using Nat.strong_induction_on
    generalizing visiting entry progress after with
  | _ bound ih =>
    obtain ⟨member, rfl⟩ | ⟨new, leaf, rfl⟩ | ⟨deps, inner, new, found, outside, loop, rfl⟩ :=
      visit_cases returned
    · exact ⟨sound, Grows.refl _ _, member⟩
    · refine ⟨sound.leaf leaf, ⟨fun other => List.mem_cons_of_mem _, ?_⟩, List.mem_cons_self⟩
      intro other inside fresh
      have apart : other ≠ entry := by
        rintro rfl
        obtain ⟨deps, found⟩ := derived other inside
        rw [leaf] at found
        cases found
      simpa [apart] using fresh
    · have smaller : remaining table (entry :: visiting) < bound := by
        rw [← size]
        exact remaining_lt (mem_keys_of_dependencies found) outside
      have derived' : ∀ other ∈ entry :: visiting,
          ∃ deps, dependencies table other = some (some deps) := by
        intro other member
        rcases List.mem_cons.mp member with rfl | member
        · exact ⟨deps, found⟩
        · exact derived other member
      -- between two dependencies: sound, grown, and the dependencies so far are done
      obtain ⟨sound', grows, visited⟩ := foldlM_remaining
        (fun current rest => Sound table current ∧ Grows (entry :: visiting) progress current ∧
          ∀ dep ∈ deps, dep ∈ current.done ∨ dep ∈ rest)
        (fun current dep rest next kept step => by
          obtain ⟨sound', grows, visited⟩ := kept
          obtain ⟨sound'', grows', finished⟩ := ih _ smaller derived' sound' step rfl
          refine ⟨sound'', grows.trans grows', fun other member => ?_⟩
          rcases visited other member with earlier | later
          · exact .inl (grows'.keeps other earlier)
          · rcases List.mem_cons.mp later with rfl | later
            · exact .inl finished
            · exact .inr later)
        ⟨sound, Grows.refl _ _, fun dep member => .inr member⟩ loop
      have fresh : entry ∉ inner.done := grows.inside entry List.mem_cons_self new
      refine ⟨sound'.finish found fresh fun dep member =>
        (visited dep member).resolve_right List.not_mem_nil, ⟨?_, ?_⟩, List.mem_cons_self⟩
      · intro other member
        exact List.mem_cons_of_mem _ (grows.keeps other member)
      · intro other member unvisited
        have apart : other ≠ entry := by
          rintro rfl
          exact outside member
        simpa [apart] using grows.inside other (List.mem_cons_of_mem _ member) unvisited

/-- A visit returns when nothing is missing and the entry cannot reach itself. -/
theorem visit_returns (closed : Closed table) (acyclic : Acyclic table) {visiting : List α}
    {entry : α} (progress : Progress α) (known : ∃ deps, dependencies table entry = some deps)
    (reached : ∀ other ∈ visiting, Relation.TransGen (Depends table) other entry) :
    ∃ after, visit table unknown cycle visiting entry progress = .ok after := by
  induction size : remaining table visiting using Nat.strong_induction_on
    generalizing visiting entry progress with
  | _ bound ih =>
    by_cases member : entry ∈ progress.done
    · exact ⟨progress, visit_of_done member⟩
    obtain ⟨deps, found⟩ := known
    cases deps with
    | none => exact ⟨_, visit_of_leaf member found⟩
    | some deps =>
      have outside : entry ∉ visiting := fun inside => acyclic entry (reached entry inside)
      have smaller : remaining table (entry :: visiting) < bound := by
        rw [← size]
        exact remaining_lt (mem_keys_of_dependencies found) outside
      obtain ⟨after, loop⟩ := foldlM_returns (fun current dep (listed : dep ∈ deps) => by
        have depends : Depends table entry dep := ⟨deps, found, listed⟩
        refine ih _ smaller current (closed entry dep depends) (fun other member => ?_) rfl
        rcases List.mem_cons.mp member with rfl | member
        · exact .single depends
        · exact (reached other member).tail depends) progress
      exact ⟨_, by rw [visit_of_deps member found outside, loop]; rfl⟩

/-! ## Visiting a whole table -/

theorem not_rel_self_of_acc {β : Type} {r : β → β → Prop} {b : β} (accessible : Acc r b) :
    ¬ r b b := by
  induction accessible with
  | intro b _ ih => exact fun self => ih b self self

theorem exists_dependencies_of_mem_keys {entry : α} (member : entry ∈ table.map (·.1)) :
    ∃ deps, dependencies table entry = some deps := by
  induction table with
  | nil => cases member
  | cons first table ih =>
    rw [dependencies_cons]
    by_cases same : entry = first.1
    · exact ⟨first.2, if_pos same⟩
    · rw [if_neg same]
      exact ih (by simpa [same] using member)

/-- The order of a table lists exactly its entries that are no leaves, each after everything it
    depends on. -/
theorem visitAll_sound {progress : Progress α}
    (returned : visitAll table unknown cycle = .ok progress) :
    Sound table progress ∧ ∀ entry ∈ table.map (·.1), entry ∈ progress.done := by
  obtain ⟨sound, visited⟩ := foldlM_remaining
    (fun current rest => Sound table current ∧
      ∀ entry ∈ table.map (·.1), entry ∈ current.done ∨ entry ∈ rest)
    (fun current entry rest next kept step => by
      obtain ⟨sound, visited⟩ := kept
      obtain ⟨sound', grows, finished⟩ :=
        visit_sound (fun other inside => absurd inside List.not_mem_nil) sound step
      refine ⟨sound', fun other member => ?_⟩
      rcases visited other member with earlier | later
      · exact .inl (grows.keeps other earlier)
      · rcases List.mem_cons.mp later with rfl | later
        · exact .inl finished
        · exact .inr later)
    ⟨sound_initial, fun _ member => .inr member⟩ returned
  exact ⟨sound, fun entry member => (visited entry member).resolve_right List.not_mem_nil⟩

/-- The visit of a table returns exactly when the table is closed and has no cycle. -/
theorem visitAll_returns_iff :
    (∃ progress, visitAll table unknown cycle = .ok progress) ↔
      Closed table ∧ Acyclic table := by
  constructor
  · intro returns
    obtain ⟨progress, returned⟩ := returns
    obtain ⟨sound, visited⟩ := visitAll_sound returned
    have start : ∀ entry dep, Depends table entry dep → entry ∈ progress.done := by
      intro entry dep depends
      obtain ⟨deps, found, _⟩ := depends
      exact visited entry (mem_keys_of_dependencies found)
    refine ⟨fun entry dep depends => ?_, fun entry around => ?_⟩
    · exact sound.known dep (sound.closed entry (start entry dep depends) dep depends)
    · obtain ⟨dep, first, _⟩ := Relation.TransGen.head'_iff.mp around
      have accessible := (sound.accessible entry (start entry dep first)).transGen
      have loop : Relation.TransGen (fun dep entry => Depends table entry dep) entry entry :=
        Relation.transGen_swap.mpr around
      exact not_rel_self_of_acc accessible loop
  · intro accepted
    obtain ⟨closed, acyclic⟩ := accepted
    exact foldlM_returns (fun progress entry listed => visit_returns closed acyclic progress
      (exists_dependencies_of_mem_keys listed)
      (fun other inside => absurd inside List.not_mem_nil)) _

end DepthFirst

end CovenantRadar
