import CovenantRadar.Signals.Taxonomy
import CovenantRadar.Misc.Loop

/-!
# The canonical form of a payload

What `_canonical_value` returns: every mapping comes back in strictly increasing
key order, and a value that is already canonical comes back unchanged. The
content hash canonicalises a stored payload a second time, so both facts are
needed before two hashes can be compared.
-/

namespace CovenantRadar.Taxonomy

open Json

/-! ## Entry lists -/

theorem orderedEntries_iff {es : List (Text × Json)} :
    OrderedEntries es ↔ ∀ entry ∈ es, Ordered entry.2 := by
  induction es with
  | nil => simp [OrderedEntries]
  | cons entry es ih => simp [OrderedEntries, ih]

/-- What the mapping loop keeps of `result`: one entry for each key, canonical values. -/
structure EntriesInvariant (result : List (Text × Json)) : Prop where
  distinct : (result.map Prod.fst).Nodup
  ordered : ∀ entry ∈ result, Ordered entry.2

theorem entriesInvariant_nil : EntriesInvariant [] :=
  ⟨List.nodup_nil, fun _ member => absurd member List.not_mem_nil⟩

theorem keys_setKey_of_mem {result : List (Text × Json)} {key : Text} (value : Json)
    (present : result.any (fun entry => entry.1 = key) = true) :
    (setKey result key value).map Prod.fst = result.map Prod.fst := by
  rw [setKey, if_pos present, List.map_map]
  apply List.map_congr_left
  intro entry _
  by_cases same : entry.1 = key <;> simp [same]

theorem setKey_of_not_mem {result : List (Text × Json)} {key : Text} (value : Json)
    (fresh : key ∉ result.map Prod.fst) : setKey result key value = result ++ [(key, value)] := by
  have absent : result.any (fun entry => entry.1 = key) = false := by
    rw [List.any_eq_false]
    intro entry member
    have different : entry.1 ≠ key := by
      rintro rfl
      exact fresh (List.mem_map_of_mem member)
    simpa using different
  simp [setKey, absent]

theorem EntriesInvariant.setKey {result : List (Text × Json)} {key : Text} {value : Json}
    (kept : EntriesInvariant result) (ordered : Ordered value) :
    EntriesInvariant (setKey result key value) := by
  by_cases present : result.any (fun entry => entry.1 = key) = true
  · refine ⟨by rw [keys_setKey_of_mem value present]; exact kept.distinct, ?_⟩
    intro entry member
    rw [Json.setKey, if_pos present] at member
    obtain ⟨old, oldMember, rfl⟩ := List.mem_map.mp member
    by_cases same : old.1 = key
    · simpa [same] using ordered
    · simpa [same] using kept.ordered old oldMember
  · have fresh : key ∉ result.map Prod.fst := by
      intro member
      obtain ⟨entry, entryMember, same⟩ := List.mem_map.mp member
      exact present (List.any_eq_true.mpr ⟨entry, entryMember, by simpa using same⟩)
    rw [setKey_of_not_mem value fresh]
    constructor
    · rw [List.map_append, List.nodup_append]
      refine ⟨kept.distinct, List.nodup_singleton _, ?_⟩
      rintro other otherMember last lastMember rfl
      rw [List.mem_singleton.mp lastMember] at otherMember
      exact fresh otherMember
    · intro entry member
      rcases List.mem_append.mp member with old | new
      · exact kept.ordered entry old
      · rw [List.mem_singleton.mp new]
        exact ordered

/-- Sorting entries with distinct keys puts them in strictly increasing key order. -/
theorem EntriesInvariant.ordered_sort {result : List (Text × Json)}
    (kept : EntriesInvariant result) :
    Ordered (.obj (result.insertionSort (fun a b => a.1 ≤ b.1))) := by
  have perm := List.perm_insertionSort (fun a b : Text × Json => a.1 ≤ b.1) result
  refine ⟨?_, orderedEntries_iff.mpr fun entry member => kept.ordered entry (perm.mem_iff.mp member)⟩
  have sorted := List.pairwise_insertionSort (fun a b : Text × Json => a.1 ≤ b.1) result
  have distinct : ((result.insertionSort (fun a b => a.1 ≤ b.1)).map Prod.fst).Nodup :=
    (perm.map Prod.fst).nodup_iff.mpr kept.distinct
  rw [List.Nodup, List.pairwise_map] at distinct
  exact (sorted.and distinct).imp fun both => lt_of_le_of_ne both.1 both.2

/-! ## The value comes back in key order -/

/-- Inversion of the mapping branch. -/
theorem canonicalValue_mapping {items : List (PyValue × PyValue)} {depth : Nat} {result : Json}
    (returned : canonicalValue (.mapping items) depth = .ok result) :
    depth ≤ maxPayloadDepth ∧ items.length ≤ maxPayloadKeys ∧
      ∃ entries, canonicalEntries items (depth + 1) [] = .ok entries ∧
        result = .obj (entries.insertionSort (fun a b => a.1 ≤ b.1)) := by
  simp only [canonicalValue] at returned
  split_ifs at returned with deep long
  obtain ⟨entries, loop, last⟩ := Except.bind_eq_ok_iff.mp returned
  cases last
  exact ⟨Nat.not_lt.mp deep, Nat.not_lt.mp long, entries, loop, rfl⟩

/-- Inversion of the array branch. -/
theorem canonicalValue_sequence {items : List PyValue} {depth : Nat} {result : Json}
    (returned : canonicalValue (.sequence items) depth = .ok result) :
    depth ≤ maxPayloadDepth ∧ items.length ≤ maxPayloadKeys ∧
      ∃ values, canonicalItems items (depth + 1) = .ok values ∧ result = .arr values := by
  simp only [canonicalValue] at returned
  split_ifs at returned with deep long
  obtain ⟨values, loop, last⟩ := Except.bind_eq_ok_iff.mp returned
  cases last
  exact ⟨Nat.not_lt.mp deep, Nat.not_lt.mp long, values, loop, rfl⟩

theorem canonicalItems_cons {item : PyValue} {items : List PyValue} {depth : Nat}
    {result : List Json} (returned : canonicalItems (item :: items) depth = .ok result) :
    ∃ head tail, canonicalValue item depth = .ok head ∧ canonicalItems items depth = .ok tail ∧
      result = head :: tail := by
  rw [canonicalItems] at returned
  obtain ⟨head, first, more⟩ := Except.bind_eq_ok_iff.mp returned
  obtain ⟨tail, rest, last⟩ := Except.bind_eq_ok_iff.mp more
  cases last
  exact ⟨head, tail, first, rest, rfl⟩

theorem canonicalEntries_cons {key nested : PyValue} {items : List (PyValue × PyValue)}
    {depth : Nat} {result out : List (Text × Json)}
    (returned : canonicalEntries ((key, nested) :: items) depth result = .ok out) :
    ∃ name value, canonicalKey key = .ok name ∧ canonicalValue nested depth = .ok value ∧
      canonicalEntries items depth (setKey result name value) = .ok out := by
  rw [canonicalEntries] at returned
  obtain ⟨name, checked, more⟩ := Except.bind_eq_ok_iff.mp returned
  obtain ⟨value, canonical, rest⟩ := Except.bind_eq_ok_iff.mp more
  exact ⟨name, value, checked, canonical, rest⟩

mutual
theorem canonicalValue_ordered : ∀ {v : PyValue} {depth : Nat} {j : Json},
    canonicalValue v depth = .ok j → Ordered j
  | .mapping items, depth, j, returned => by
    obtain ⟨-, -, entries, loop, rfl⟩ := canonicalValue_mapping returned
    exact (canonicalEntries_invariant entriesInvariant_nil loop).ordered_sort
  | .sequence items, depth, j, returned => by
    obtain ⟨-, -, values, loop, rfl⟩ := canonicalValue_sequence returned
    exact canonicalItems_ordered loop
  | .none, depth, j, returned | .bool _, depth, j, returned | .int _, depth, j, returned
  | .float _, depth, j, returned | .specialFloat, depth, j, returned
  | .str _, depth, j, returned | .decimal _, depth, j, returned
  | .specialDecimal, depth, j, returned | .uuid _, depth, j, returned
  | .date _, depth, j, returned | .datetime, depth, j, returned
  | .other _, depth, j, returned => by
    simp only [canonicalValue] at returned
    split_ifs at returned <;> cases returned <;> trivial
theorem canonicalItems_ordered : ∀ {items : List PyValue} {depth : Nat} {values : List Json},
    canonicalItems items depth = .ok values → OrderedItems values
  | [], _, _, returned => by cases returned; trivial
  | item :: items, depth, values, returned => by
    obtain ⟨head, tail, first, rest, rfl⟩ := canonicalItems_cons returned
    exact ⟨canonicalValue_ordered first, canonicalItems_ordered rest⟩
theorem canonicalEntries_invariant : ∀ {items : List (PyValue × PyValue)} {depth : Nat}
    {result out : List (Text × Json)}, EntriesInvariant result →
    canonicalEntries items depth result = .ok out → EntriesInvariant out
  | [], _, _, _, kept, returned => by cases returned; exact kept
  | (key, nested) :: items, depth, result, out, kept, returned => by
    obtain ⟨name, value, -, canonical, rest⟩ := canonicalEntries_cons returned
    exact canonicalEntries_invariant (kept.setKey (canonicalValue_ordered canonical)) rest
end

/-! ## A canonical value is a fixed point -/

mutual
/-- Canonicalising a canonical value, at any depth that accepts it, changes nothing. -/
theorem canonicalValue_ofJson : ∀ {j : Json} {depth : Nat} {r : Json}, Ordered j →
    canonicalValue (PyValue.ofJson j) depth = .ok r → r = j
  | .obj entries, depth, r, ordered, returned => by
    obtain ⟨-, -, out, loop, rfl⟩ := canonicalValue_mapping returned
    have same := @canonicalEntries_ofJson _ _ [] _ (by simpa using ordered.1) ordered.2 loop
    rw [List.nil_append] at same
    rw [same]
    exact congrArg Json.obj (ordered.1.imp le_of_lt).insertionSort_eq
  | .arr items, depth, r, ordered, returned => by
    obtain ⟨-, -, values, loop, rfl⟩ := canonicalValue_sequence returned
    rw [canonicalItems_ofJson ordered loop]
  | .null, depth, r, _, returned | .bool _, depth, r, _, returned
  | .int _, depth, r, _, returned | .float _, depth, r, _, returned
  | .str _, depth, r, _, returned => by
    simp only [PyValue.ofJson, canonicalValue] at returned
    split_ifs at returned
    all_goals exact (Except.ok.inj returned).symm
theorem canonicalItems_ofJson : ∀ {xs : List Json} {depth : Nat} {values : List Json},
    OrderedItems xs → canonicalItems (PyValue.ofJsonItems xs) depth = .ok values → values = xs
  | [], _, _, _, returned => by cases returned; rfl
  | x :: xs, depth, values, ordered, returned => by
    obtain ⟨head, tail, first, rest, rfl⟩ := canonicalItems_cons returned
    rw [canonicalValue_ofJson ordered.1 first, canonicalItems_ofJson ordered.2 rest]
theorem canonicalEntries_ofJson : ∀ {es : List (Text × Json)} {depth : Nat}
    {result out : List (Text × Json)},
    (result ++ es).Pairwise (fun a b => a.1 < b.1) → OrderedEntries es →
    canonicalEntries (PyValue.ofJsonEntries es) depth result = .ok out → out = result ++ es
  | [], _, _, _, _, _, returned => by cases returned; simp
  | (key, value) :: es, depth, result, out, increasing, ordered, returned => by
    obtain ⟨name, r, checked, canonical, rest⟩ := canonicalEntries_cons returned
    have sameName : name = key := by
      simp only [canonicalKey] at checked
      split_ifs at checked
      exact (Except.ok.inj checked).symm
    subst sameName
    rw [canonicalValue_ofJson ordered.1 canonical] at rest
    -- the keys already in `result` are all smaller
    have fresh : name ∉ result.map Prod.fst := by
      intro member
      obtain ⟨entry, entryMember, same⟩ := List.mem_map.mp member
      have smaller := (List.pairwise_append.mp increasing).2.2 entry entryMember (name, value)
        List.mem_cons_self
      exact absurd same (ne_of_lt smaller)
    rw [setKey_of_not_mem value fresh] at rest
    have regroup : (result ++ [(name, value)]) ++ es = result ++ (name, value) :: es := by simp
    rw [← regroup] at increasing ⊢
    exact canonicalEntries_ofJson increasing ordered.2 rest
end

/-- The stored payload is in key order. -/
theorem canonicalMapping_ordered {value : PyValue} {entries : List (Text × Json)}
    (returned : canonicalMapping value = .ok entries) : Ordered (.obj entries) := by
  unfold canonicalMapping at returned
  split at returned
  · obtain ⟨result, canonical, last⟩ := Except.bind_eq_ok_iff.mp returned
    obtain ⟨-, -, unsorted, -, rfl⟩ := canonicalValue_mapping canonical
    cases last
    exact canonicalValue_ordered canonical
  · cases returned

/-! ## Depth -/

mutual
/-- A value accepted at some depth is accepted, with the same result, one level higher up. -/
theorem canonicalValue_of_deeper : ∀ {v : PyValue} {depth : Nat} {j : Json},
    canonicalValue v (depth + 1) = .ok j → canonicalValue v depth = .ok j
  | .mapping items, depth, j, returned => by
    obtain ⟨shallow, short, entries, loop, rfl⟩ := canonicalValue_mapping returned
    simp only [canonicalValue]
    rw [if_neg (by omega), if_neg (by omega), canonicalEntries_of_deeper loop]
    rfl
  | .sequence items, depth, j, returned => by
    obtain ⟨shallow, short, values, loop, rfl⟩ := canonicalValue_sequence returned
    simp only [canonicalValue]
    rw [if_neg (by omega), if_neg (by omega), canonicalItems_of_deeper loop]
    rfl
  | .none, depth, j, returned | .bool _, depth, j, returned | .int _, depth, j, returned
  | .float _, depth, j, returned | .specialFloat, depth, j, returned
  | .str _, depth, j, returned | .decimal _, depth, j, returned
  | .specialDecimal, depth, j, returned | .uuid _, depth, j, returned
  | .date _, depth, j, returned | .datetime, depth, j, returned
  | .other _, depth, j, returned => by
    simp only [canonicalValue] at returned ⊢
    split_ifs at returned with deep
    all_goals rw [if_neg (show ¬ maxPayloadDepth < depth by omega)]
    all_goals first
      | exact returned
      | rw [if_neg (by assumption)]; exact returned
theorem canonicalItems_of_deeper : ∀ {items : List PyValue} {depth : Nat} {values : List Json},
    canonicalItems items (depth + 1) = .ok values → canonicalItems items depth = .ok values
  | [], _, _, returned => returned
  | item :: items, depth, values, returned => by
    obtain ⟨head, tail, first, rest, rfl⟩ := canonicalItems_cons returned
    rw [canonicalItems, canonicalValue_of_deeper first, canonicalItems_of_deeper rest]
    rfl
theorem canonicalEntries_of_deeper : ∀ {items : List (PyValue × PyValue)} {depth : Nat}
    {result out : List (Text × Json)}, canonicalEntries items (depth + 1) result = .ok out →
    canonicalEntries items depth result = .ok out
  | [], _, _, _, returned => returned
  | (key, nested) :: items, depth, result, out, returned => by
    obtain ⟨name, value, checked, canonical, rest⟩ := canonicalEntries_cons returned
    rw [canonicalEntries, checked, canonicalValue_of_deeper canonical]
    exact canonicalEntries_of_deeper rest
end

end CovenantRadar.Taxonomy
