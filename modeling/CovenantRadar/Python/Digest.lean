import CovenantRadar.Python.Text
import Mathlib.Data.List.Nodup

/-!
# Digests known on a few inputs

A stand-in for `hashlib.sha256(data).hexdigest()` on chosen inputs: it returns the
listed digest of each listed text and spells every other input out, so it has no
collisions and a run over the listed texts can be computed.
-/

namespace CovenantRadar

namespace Text

theorem size_encode (t : Text) : t.encode.size = (t.map Char.utf8Size).sum := by
  unfold encode
  rw [String.toByteArray_ofList]
  induction t with
  | nil => rfl
  | cons c t ih =>
    rw [List.utf8Encode_cons, ByteArray.size_append, ih, List.map_cons, List.sum_cons]
    congr 1
    rw [List.utf8Encode_singleton]
    simp

/-- UTF-8 takes at most four bytes a character. -/
theorem size_encode_le (t : Text) : t.encode.size ≤ 4 * t.length := by
  rw [size_encode]
  induction t with
  | nil => simp
  | cons c t ih =>
    have := Char.utf8Size_le_four c
    simp only [List.map_cons, List.sum_cons, List.length_cons]
    omega

end Text

/-- `'|'` is no hexadecimal digit, so spelled-out inputs never meet a listed digest. -/
def knownDigest (known : List (Text × Text)) (bytes : ByteArray) : Text :=
  match known.find? (fun entry => entry.1.encode.data = bytes.data) with
  | some entry => entry.2
  | none => '|' :: bytes.data.toList.map (fun byte => Char.ofNat byte.toNat)

private theorem spell_injective :
    Function.Injective (fun byte : UInt8 => Char.ofNat byte.toNat) := by
  intro a b same
  have code : ∀ byte : UInt8, (Char.ofNat byte.toNat).toNat = byte.toNat := by
    intro byte
    have small := byte.toNat_lt
    have valid : byte.toNat.isValidChar := Or.inl (by omega)
    rw [Char.ofNat, dif_pos valid]
    rfl
  have values : a.toNat = b.toNat := by
    rw [← code a, ← code b]
    exact congrArg Char.toNat same
  exact UInt8.toNat_inj.mp values

/-- Listed digests that differ and are hexadecimal make the stand-in collision free. -/
theorem knownDigest_injective {known : List (Text × Text)}
    (distinct : (known.map Prod.snd).Nodup)
    (hexadecimal : ∀ entry ∈ known, entry.2.head? ≠ some '|') :
    Function.Injective (knownDigest known) := by
  have listed : ∀ {bytes : ByteArray} {entry : Text × Text},
      known.find? (fun entry => entry.1.encode.data = bytes.data) = some entry →
        entry ∈ known ∧ entry.1.encode = bytes := fun found =>
    ⟨List.mem_of_find?_eq_some found, ByteArray.ext (by simpa using List.find?_some found)⟩
  intro a b same
  unfold knownDigest at same
  cases foundA : known.find? (fun entry => entry.1.encode.data = a.data) with
  | some entryA =>
    cases foundB : known.find? (fun entry => entry.1.encode.data = b.data) with
    | some entryB =>
      rw [foundA, foundB] at same
      have equal : entryA = entryB :=
        List.inj_on_of_nodup_map distinct (listed foundA).1 (listed foundB).1 same
      rw [← (listed foundA).2, ← (listed foundB).2, equal]
    | none =>
      rw [foundA, foundB] at same
      exact absurd (congrArg List.head? same) (hexadecimal _ (listed foundA).1)
  | none =>
    cases foundB : known.find? (fun entry => entry.1.encode.data = b.data) with
    | some entryB =>
      rw [foundA, foundB] at same
      exact absurd (congrArg List.head? same.symm) (hexadecimal _ (listed foundB).1)
    | none =>
      rw [foundA, foundB] at same
      have bytes := List.map_injective_iff.mpr spell_injective (List.cons.inj same).2
      exact ByteArray.ext (Array.toList_inj.mp bytes)

end CovenantRadar
