import CovenantRadar.Audit.Store
import CovenantRadar.Python.Digest

/-!
# Tampering with a stored chain

What the joined text of a row determines, and which changes to a stored chain
`verify_chain` therefore reports. The join frames its parts with the unit
separator, so it is injective on rows whose texts do not contain it.
-/

namespace CovenantRadar.Audit

open HashChain

/-- Two digests cover the same content: equal parts, the payloads as mappings. -/
structure SameContent (a b : Chained) : Prop where
  sequence : a.sequence = b.sequence
  instant : a.instant = b.instant
  actor : a.actor = b.actor
  eventType : a.eventType = b.eventType
  subjectType : a.subjectType = b.subjectType
  subject : a.subject = b.subject
  payload : Json.sortKeys a.payload = Json.sortKeys b.payload
  prevHash : a.prevHash = b.prevHash

/-- No text part contains the separator, and the link is not the text that stands for
    a missing one. -/
structure Chained.Framed (c : Chained) : Prop where
  actor : hashSeparator ∉ c.actor
  eventType : hashSeparator ∉ c.eventType
  subjectType : hashSeparator ∉ c.subjectType
  subject : hashSeparator ∉ c.subject
  prevHash : c.prevHash ≠ some "<null>".toList

private theorem separator_control : hashSeparator.toNat < 32 := by decide

private theorem separator_not_mem_ofInt (i : Int) : hashSeparator ∉ Text.ofInt i := fun member =>
  Json.not_lt_of_isNumberChar (List.all_eq_true.mp (Json.ofInt_numeric i) _ member)
    separator_control

/-- The sequence is the first part, and no number contains the separator. -/
theorem sequence_eq_of_material_eq {a b : Chained} (same : a.material = b.material) :
    a.sequence = b.sequence :=
  Text.ofInt_injective (intercalate_head_inj (separator_not_mem_ofInt _)
    (separator_not_mem_ofInt _) same).1

/-- On framed rows the joined text determines every part. -/
theorem sameContent_of_material_eq {a b : Chained} (framedA : a.Framed) (framedB : b.Framed)
    (same : a.material = b.material) : SameContent a b := by
  have clean : ∀ c : Chained, c.Framed → ∀ part ∈ c.parts.dropLast, hashSeparator ∉ part := by
    intro c framed part member
    simp only [Chained.parts, List.dropLast_cons_of_ne_nil, ne_eq, List.cons_ne_nil, not_false_eq_true,
      List.dropLast_singleton, List.mem_cons, List.not_mem_nil, or_false] at member
    rcases member with rfl | rfl | rfl | rfl | rfl | rfl | rfl
    · exact separator_not_mem_ofInt _
    · exact UtcInstant.not_mem_isoformat_of_lt separator_control _
    · exact framed.actor
    · exact framed.eventType
    · exact framed.subjectType
    · exact framed.subject
    · exact Json.not_mem_dumps separator_control _
  have lengths : a.parts.length = b.parts.length := rfl
  have parts : a.parts = b.parts :=
    intercalate_inj lengths (clean a framedA) (clean b framedB) same
  simp only [Chained.parts, List.cons.injEq, and_true] at parts
  obtain ⟨sequence, instant, actor, eventType, subjectType, subject, payload, prevHash⟩ := parts
  refine ⟨Text.ofInt_injective sequence, UtcInstant.isoformat_injective instant, actor, eventType,
    subjectType, subject, Json.dumps_inj.mp payload, ?_⟩
  have nullA := framedA.prevHash
  have nullB := framedB.prevHash
  cases linkA : a.prevHash with
  | none =>
    cases linkB : b.prevHash with
    | none => rfl
    | some hash =>
      rw [linkA, linkB] at prevHash
      exact absurd (linkB.trans (congrArg some prevHash.symm)) nullB
  | some hash =>
    cases linkB : b.prevHash with
    | none =>
      rw [linkA, linkB] at prevHash
      exact absurd (linkA.trans (congrArg some prevHash)) nullA
    | some hash' =>
      rw [linkA, linkB] at prevHash
      exact congrArg some prevHash

theorem material_eq_of_sameContent {a b : Chained} (same : SameContent a b) :
    a.material = b.material := by
  have written : Json.dumps a.payload = Json.dumps b.payload := Json.dumps_inj.mpr same.payload
  rw [Chained.material, Chained.material, Chained.parts, Chained.parts, same.sequence,
    same.instant, same.actor, same.eventType, same.subjectType, same.subject, written,
    same.prevHash]

/-! ## Rows -/

section

variable (py : Builtins) (hexdigest : ByteArray → Text)

/-- The texts of a row that the join relies on: as normalised, without the separator. -/
structure AuditChainRow.Framed (row : AuditChainRow) : Prop where
  actor : hashSeparator ∉ actorToken py (chosenActor row.actorId row.actorLabel)
  eventType : hashSeparator ∉ py.nfc row.eventType
  subjectType : hashSeparator ∉ py.nfc row.subjectType
  prevHash : row.prevHash ≠ some "<null>".toList

/-- The two rows are hashed over the same normalised content. -/
def AuditChainRow.SameChained (row other : AuditChainRow) : Prop :=
  ∃ c c', row.chained py = .ok c ∧ other.chained py = .ok c' ∧ SameContent c c'

/-- `verify_chain` can read the row: its sequence is positive and its timestamp is
    within the range of UTC datetimes. -/
def AuditChainRow.Legible (row : AuditChainRow) : Prop :=
  1 ≤ row.sequence ∧ ∀ message, row.chained py ≠ .error (.overflowError message)

/-- `verify_chain` does not pass the rows: it reports a break on rows it can read. -/
def Reported (rows : List AuditChainRow) : Prop :=
  verifyChain py hexdigest rows none none ≠ .ok none ∧
    ((∀ row ∈ rows, row.Legible py) →
      ∃ found, verifyChain py hexdigest rows none none = .ok (some found))

end

section

variable {py : Builtins} {hexdigest : ByteArray → Text}

/-- What is chained of a row is read off the row field by field. -/
theorem AuditChainRow.chained_eq_ok {row : AuditChainRow} {c : Chained}
    (returned : row.chained py = .ok c) :
    c.sequence = row.sequence ∧ utcTimestamp row.occurredAt = .ok c.instant ∧
      c.actor = actorToken py (chosenActor row.actorId row.actorLabel) ∧
      c.eventType = py.nfc row.eventType ∧ c.subjectType = py.nfc row.subjectType ∧
      c.subject = py.nfc row.subjectId.str ∧ canonicalPayload py row.payload = .ok c.payload ∧
      c.prevHash = row.prevHash := by
  unfold AuditChainRow.chained Audit.chained at returned
  by_cases low : row.sequence < 1
  · rw [if_pos low] at returned
    cases returned
  · rw [if_neg low] at returned
    obtain ⟨instant, timestamp, rest⟩ := Except.bind_eq_ok_iff.mp returned
    obtain ⟨canonical, payload, rest⟩ := Except.bind_eq_ok_iff.mp rest
    by_cases long : maxIntDigits < (Text.ofInt row.sequence).length
    · rw [if_pos long] at rest
      cases rest
    · rw [if_neg long] at rest
      cases rest
      exact ⟨rfl, timestamp, rfl, rfl, rfl, rfl, payload, rfl⟩

/-- NFC leaves a written UUID alone, so its token is framed. -/
theorem AuditChainRow.Framed.chained (nfcAscii : ∀ t : Text, (∀ c ∈ t, c.toNat < 128) → py.nfc t = t)
    {row : AuditChainRow} {c : Chained} (framed : row.Framed py)
    (returned : row.chained py = .ok c) : c.Framed := by
  obtain ⟨-, -, actor, eventType, subjectType, subject, -, prevHash⟩ :=
    AuditChainRow.chained_eq_ok returned
  refine ⟨by rw [actor]; exact framed.actor, by rw [eventType]; exact framed.eventType,
    by rw [subjectType]; exact framed.subjectType, ?_, by rw [prevHash]; exact framed.prevHash⟩
  rw [subject, nfcAscii _ fun d member => (Uuid.printable_of_mem_str member).2]
  intro member
  exact absurd (Uuid.printable_of_mem_str member).1 (by decide)

/-- Without collisions the digest of a sealed row determines its sequence. -/
theorem rowLinks_determined (collisionFree : Function.Injective hexdigest) :
    (rowLinks py hexdigest).Determined := by
  rintro a b ⟨c, chainedA, hashA⟩ ⟨c', chainedB, hashB⟩ same
  have digests : a.hash = b.hash := same
  rw [hashA, hashB] at digests
  have sequences := sequence_eq_of_material_eq (Text.encode_injective (collisionFree digests))
  rw [(AuditChainRow.chained_eq_ok chainedA).1, (AuditChainRow.chained_eq_ok chainedB).1]
    at sequences
  exact sequences

/-- Without collisions the digest of a sealed, framed row determines its content. -/
theorem sameChained_of_hash_eq (collisionFree : Function.Injective hexdigest)
    (nfcAscii : ∀ t : Text, (∀ c ∈ t, c.toNat < 128) → py.nfc t = t) {row other : AuditChainRow}
    (framed : row.Framed py) (framed' : other.Framed py)
    (sealed : (rowLinks py hexdigest).Sealed row) (sealed' : (rowLinks py hexdigest).Sealed other)
    (same : row.hash = other.hash) : row.SameChained py other := by
  obtain ⟨c, returned, hash⟩ := sealed
  obtain ⟨c', returned', hash'⟩ := sealed'
  rw [hash, hash'] at same
  exact ⟨c, c', returned, returned', sameContent_of_material_eq (framed.chained nfcAscii returned)
    (framed'.chained nfcAscii returned') (Text.encode_injective (collisionFree same))⟩

/-- Rows hashed over the same content and both sealed carry the same digest. -/
theorem hash_eq_of_sameChained {row other : AuditChainRow}
    (same : row.SameChained py other) (sealed : (rowLinks py hexdigest).Sealed row)
    (sealed' : (rowLinks py hexdigest).Sealed other) : row.hash = other.hash := by
  obtain ⟨c, c', returned, returned', content⟩ := same
  obtain ⟨d, chainedRow, hash⟩ := sealed
  obtain ⟨d', chainedOther, hash'⟩ := sealed'
  cases returned.symm.trans chainedRow
  cases returned'.symm.trans chainedOther
  rw [hash, hash', material_eq_of_sameContent content]

/-! ## Reporting -/

/-- On legible rows the digest check never raises. -/
theorem digestBreak_returns {previous : Option AuditChainRow} {row : AuditChainRow}
    (legible : row.Legible py) : ∃ result, digestBreak py hexdigest previous row = .ok result := by
  unfold digestBreak
  split
  · rename_i error failed
    cases caught : caughtText error with
    | some text => exact ⟨_, rfl⟩
    | none =>
      cases error with
      | overflowError message =>
        -- the digest only raises what the content raises
        have content : row.chained py = .error (.overflowError message) := by
          unfold computeEventHash at failed
          unfold AuditChainRow.chained
          cases returned : Audit.chained py row.sequence row.occurredAt
            (chosenActor row.actorId row.actorLabel) row.eventType row.subjectType
            (.uuid row.subjectId) row.payload row.prevHash with
          | error error => simpa [returned, bind, Except.bind] using failed
          | ok c => simp [returned, bind, Except.bind] at failed
        exact absurd content (legible.2 message)
      | typeError message => cases caught
      | valueError message => cases caught
      | personalDataRefused message => cases caught
  · split_ifs <;> exact ⟨_, rfl⟩

theorem verifyRows_returns {genesis : Bool} {previous : Option AuditChainRow}
    {rows : List AuditChainRow} (legible : ∀ row ∈ rows, row.Legible py) :
    ∃ result, verifyRows py hexdigest genesis previous rows = .ok result := by
  induction rows generalizing previous with
  | nil => exact ⟨none, rfl⟩
  | cons row rows ih =>
    have positive : rowSequence row = .ok row.sequence :=
      if_neg (not_lt.mpr (legible row List.mem_cons_self).1)
    obtain ⟨digest, checked⟩ := @digestBreak_returns _ hexdigest previous _
      (legible row List.mem_cons_self)
    obtain ⟨rest, later⟩ := @ih (some row)
      fun other member => legible other (List.mem_cons_of_mem _ member)
    rw [verifyRows, positive]
    cases linkBreak genesis previous row with
    | some found => exact ⟨some found, rfl⟩
    | none =>
      cases digest with
      | some found => exact ⟨some found, by simp [bind, Except.bind, checked]⟩
      | none => exact ⟨rest, by simp [bind, Except.bind, checked, later]⟩

/-- Rows that are no intact chain are reported. -/
theorem reported_of_not_intact {rows : List AuditChainRow}
    (broken : ¬ (rowLinks py hexdigest).Intact rows) : Reported py hexdigest rows := by
  have refused : verifyChain py hexdigest rows none none ≠ .ok none :=
    fun passed => broken (verifyChain_whole_iff.mp passed)
  refine ⟨refused, fun legible => ?_⟩
  obtain ⟨result, returned⟩ := @verifyRows_returns _ hexdigest true none
    (selectRows rows none none)
    fun row member => legible row (List.mem_of_mem_filter member)
  have whole : verifyChain py hexdigest rows none none = .ok result := returned
  cases result with
  | none => exact absurd whole refused
  | some found => exact ⟨found, whole⟩

/-- Replacing a row is reported when the row's content or digest changed and the rest
    was not recomputed: the digest kept, or the content kept, or a later row kept. -/
theorem reported_of_replace (collisionFree : Function.Injective hexdigest)
    (nfcAscii : ∀ t : Text, (∀ c ∈ t, c.toNat < 128) → py.nfc t = t)
    {front back : List AuditChainRow} {row other : AuditChainRow}
    (intact : (rowLinks py hexdigest).Intact (front ++ row :: back))
    (framed : row.Framed py) (framed' : other.Framed py)
    (changed : ¬ row.SameChained py other ∨ row.hash ≠ other.hash)
    (stale : row.hash = other.hash ∨ row.SameChained py other ∨ back ≠ []) :
    Reported py hexdigest (front ++ other :: back) := by
  apply reported_of_not_intact
  intro passed
  have sealed := intact.sealed row (by simp)
  have sealed' := passed.sealed other (by simp)
  have hashes : row.hash = other.hash := by
    rcases stale with same | same | inside
    · exact same
    · exact hash_eq_of_sameChained same sealed sealed'
    · exact intact.digest_eq_of_replace passed inside
  rcases changed with content | hash
  · exact content (sameChained_of_hash_eq collisionFree nfcAscii framed framed' sealed sealed' hashes)
  · exact hash hashes

/-- Removing a row that is not last is reported. -/
theorem reported_of_remove (collisionFree : Function.Injective hexdigest)
    {front back : List AuditChainRow} {row : AuditChainRow}
    (intact : (rowLinks py hexdigest).Intact (front ++ row :: back)) (inside : back ≠ []) :
    Reported py hexdigest (front ++ back) := by
  apply reported_of_not_intact
  intro passed
  obtain ⟨next, rest, rfl⟩ := List.exists_cons_of_ne_nil inside
  obtain ⟨tail, same⟩ := intact.isPrefix_of_subset (rowLinks_determined collisionFree) passed
    (fun other member => by
      rcases List.mem_append.mp member with early | late
      · exact List.mem_append_left _ early
      · exact List.mem_append_right _ (List.mem_cons_of_mem _ late))
  rw [List.append_assoc, List.append_cancel_left_eq, List.cons_append, List.cons.injEq] at same
  have order := (List.pairwise_append.mp intact.toStretch.pairwise).2.1
  have less := (List.pairwise_cons.mp order).1 next List.mem_cons_self
  rw [same.1] at less
  exact absurd less (Int.lt_irrefl _)

/-- Reordering the rows is reported. -/
theorem reported_of_reorder (collisionFree : Function.Injective hexdigest)
    {rows others : List AuditChainRow} (intact : (rowLinks py hexdigest).Intact rows)
    (reordered : others.Perm rows) (different : others ≠ rows) :
    Reported py hexdigest others := by
  apply reported_of_not_intact
  intro passed
  have front := intact.isPrefix_of_subset (rowLinks_determined collisionFree) passed
    reordered.subset
  exact different (front.eq_of_length reordered.length_eq)

/-- Inserting a row anywhere but at the end is reported. -/
theorem reported_of_insert (collisionFree : Function.Injective hexdigest)
    {front back : List AuditChainRow} (other : AuditChainRow)
    (intact : (rowLinks py hexdigest).Intact (front ++ back)) (inside : back ≠ []) :
    Reported py hexdigest (front ++ other :: back) :=
  reported_of_not_intact (intact.not_insert (rowLinks_determined collisionFree) inside)

/-- The audit chain is tamper evident. Rows without a unit separator in their texts are
    hashed over different bytes unless their normalised content is the same, and a
    chain that verifies no longer does after a row was replaced, removed, inserted or
    moved and the digests were not recomputed. -/
theorem audit_chain_tamper_evident (collisionFree : Function.Injective hexdigest)
    (nfcAscii : ∀ t : Text, (∀ c ∈ t, c.toNat < 128) → py.nfc t = t) :
    (∀ (row other : AuditChainRow) (c c' : Chained), row.Framed py → other.Framed py →
        row.chained py = .ok c → other.chained py = .ok c' → ¬ SameContent c c' →
        c.material.encode ≠ c'.material.encode) ∧
      ∀ rows, verifyChain py hexdigest rows none none = .ok none →
        (∀ front row back other, rows = front ++ row :: back → row.Framed py → other.Framed py →
          ¬ row.SameChained py other ∨ row.hash ≠ other.hash →
          row.hash = other.hash ∨ row.SameChained py other ∨ back ≠ [] →
          Reported py hexdigest (front ++ other :: back)) ∧
        (∀ front row back, rows = front ++ row :: back → back ≠ [] →
          Reported py hexdigest (front ++ back)) ∧
        (∀ front back other, rows = front ++ back → back ≠ [] →
          Reported py hexdigest (front ++ other :: back)) ∧
        ∀ others, others.Perm rows → others ≠ rows → Reported py hexdigest others := by
  constructor
  · intro row other c c' framed framed' returned returned' differ same
    exact differ (sameContent_of_material_eq (framed.chained nfcAscii returned)
      (framed'.chained nfcAscii returned') (Text.encode_injective same))
  · intro rows passed
    have intact := verifyChain_whole_iff.mp passed
    refine ⟨?_, ?_, ?_, fun others => reported_of_reorder collisionFree intact⟩
    · rintro front row back other rfl framed framed' changed stale
      exact reported_of_replace collisionFree nfcAscii intact framed framed' changed stale
    · rintro front row back rfl inside
      exact reported_of_remove collisionFree intact inside
    · rintro front back other rfl inside
      exact reported_of_insert collisionFree other intact inside

end

/-! ## Sample rows -/

/-- The Unicode functions on ASCII text, where they change nothing but case. -/
def asciiBuiltins : Builtins := ⟨id, List.map Char.toLower, fun _ => []⟩

/-- A row about one covenant, at nine o'clock UTC. -/
def sampleRow (sequence : Int) (actorId : Option Uuid) (actorLabel : Option Text)
    (eventType subjectType : Text) (prevHash : Option Text) (hash : Text) : AuditChainRow where
  sequence := sequence
  occurredAt := ⟨⟨2026, 1, 5, by decide⟩, 9 * 3600 * 10 ^ 6, some 0, by decide, by decide⟩
  actorId := actorId
  actorLabel := actorLabel
  eventType := eventType
  subjectType := subjectType
  subjectId := ⟨1, by decide⟩
  payload := .mapping [(.str "status".toList, .str "open".toList)]
  prevHash := prevHash
  hash := hash

private theorem sampleRow_framed {eventType : Text} (clean : hashSeparator ∉ eventType)
    (hash : Text) : AuditChainRow.Framed asciiBuiltins
      (sampleRow 1 none none eventType "covenant".toList none hash) where
  actor := List.not_mem_nil
  eventType := clean
  subjectType := (by decide : hashSeparator ∉ "covenant".toList)
  prevHash := fun absurdity => Option.some_ne_none _ absurdity.symm

/-- What is hashed of it. -/
def sampleContent (sequence : Int) (actor eventType subjectType : Text)
    (prevHash : Option Text) : Chained where
  sequence := sequence
  instant := ⟨⟨2026, 1, 5, by decide⟩, 9 * 3600 * 10 ^ 6, by decide⟩
  actor := actor
  eventType := eventType
  subjectType := subjectType
  subject := Uuid.str ⟨1, by decide⟩
  payload := .obj [("status".toList, .str "open".toList)]
  prevHash := prevHash

theorem sampleRow_chained {sequence : Int} (positive : ¬ sequence < 1)
    (short : ¬ maxIntDigits < (Text.ofInt sequence).length) (actorId : Option Uuid)
    (actorLabel : Option Text) (eventType subjectType : Text) (prevHash : Option Text) (hash : Text) :
    (sampleRow sequence actorId actorLabel eventType subjectType prevHash hash).chained
        asciiBuiltins =
      .ok (sampleContent sequence (actorToken asciiBuiltins (chosenActor actorId actorLabel))
        eventType subjectType prevHash) := by
  have payload : canonicalPayload asciiBuiltins
      (.mapping [(.str "status".toList, .str "open".toList)]) =
        .ok (.obj [("status".toList, .str "open".toList)]) := by rfl
  have timestamp : utcTimestamp
      ⟨⟨2026, 1, 5, by decide⟩, 9 * 3600 * 10 ^ 6, some 0, by decide, by decide⟩ =
        .ok ⟨⟨2026, 1, 5, by decide⟩, 9 * 3600 * 10 ^ 6, by decide⟩ := by rfl
  simp only [AuditChainRow.chained, Audit.chained, sampleRow, if_neg positive, timestamp, payload,
    bind, Except.bind]
  exact if_neg short

/-- The separator inside a text moves a field boundary, and the label beside an actor id
    is not hashed at all: rows that differ there are hashed over the same bytes. -/
theorem audit_material_not_injective :
    (∃ c c', (sampleRow 1 none none "a\x1fb".toList "c".toList none []).chained asciiBuiltins = .ok c ∧
      (sampleRow 1 none none "a".toList "b\x1fc".toList none []).chained asciiBuiltins = .ok c' ∧
      "a\x1fb".toList ≠ "a".toList ∧ c.material.encode = c'.material.encode) ∧
    ∃ c c', (sampleRow 1 (some ⟨7, by decide⟩) (some "desk".toList) "a".toList "b".toList none
        []).chained asciiBuiltins = .ok c ∧
      (sampleRow 1 (some ⟨7, by decide⟩) (some "audit".toList) "a".toList "b".toList none
        []).chained asciiBuiltins = .ok c' ∧
      "desk".toList ≠ "audit".toList ∧ c.material.encode = c'.material.encode := by
  have row := @sampleRow_chained 1 (by decide) (by decide)
  refine ⟨⟨_, _, row none none _ _ none [], row none none _ _ none [], by decide, rfl⟩,
    ⟨_, _, row (some ⟨7, by decide⟩) _ _ _ none [], row (some ⟨7, by decide⟩) _ _ _ none [],
      by decide, rfl⟩⟩

section

variable (hexdigest : ByteArray → Text)

/-- The first row of a chain, sealed. -/
def firstRow : AuditChainRow :=
  sampleRow 1 none none "covenant.tested".toList "covenant".toList none
    (hexdigest (sampleContent 1 [] "covenant.tested".toList "covenant".toList none).material.encode)

/-- The second row, linked to the first and sealed. -/
def secondRow : AuditChainRow :=
  sampleRow 2 none none "covenant.tested".toList "covenant".toList (some (firstRow hexdigest).hash)
    (hexdigest (sampleContent 2 [] "covenant.tested".toList "covenant".toList
      (some (firstRow hexdigest).hash)).material.encode)

theorem sampleRows_verify :
    verifyChain asciiBuiltins hexdigest [firstRow hexdigest, secondRow hexdigest] none none =
      .ok none := by
  have first := @sampleRow_chained 1 (by decide) (by decide) none none
    "covenant.tested".toList "covenant".toList none (firstRow hexdigest).hash
  have second := @sampleRow_chained 2 (by decide) (by decide) none none
    "covenant.tested".toList "covenant".toList (some (firstRow hexdigest).hash)
    (secondRow hexdigest).hash
  rw [verifyChain_whole_iff]
  refine ⟨⟨?_, ?_⟩, ?_⟩
  · refine List.isChain_cons_cons.mpr ⟨⟨?_, rfl⟩, List.isChain_singleton _⟩
    exact (by decide : (1 : Int) < 2)
  · intro row member
    simp only [List.mem_cons, List.not_mem_nil, or_false] at member
    rcases member with rfl | rfl
    · exact ⟨_, first, rfl⟩
    · exact ⟨_, second, rfl⟩
  · rintro row ⟨⟩
    rfl

end

/-- SHA-256, on the two rows of the sample chain. -/
def sampleDigest : ByteArray → Text :=
  knownDigest [
    ((sampleContent 1 [] "covenant.tested".toList "covenant".toList none).material,
      "feb199bb373a6afbbc805d504d46bba3".toList ++ "a85879e407addb7a3725f9982fb89b60".toList),
    ((sampleContent 2 [] "covenant.tested".toList "covenant".toList
        (some ("feb199bb373a6afbbc805d504d46bba3".toList ++
          "a85879e407addb7a3725f9982fb89b60".toList))).material,
      "f38ecf6d765d86d42dd889bee7c34205".toList ++ "9c9ee927b69d823d902e94b345dbe3c4".toList)]

theorem sampleDigest_injective : Function.Injective sampleDigest :=
  knownDigest_injective (by decide) (by decide)

/-- `audit_chain_tamper_evident` on the sample chain: dropping its first row, or giving
    that row another event type, is reported. -/
theorem audit_chain_tamper_evident_sample :
    Reported asciiBuiltins sampleDigest [secondRow sampleDigest] ∧
      Reported asciiBuiltins sampleDigest
        [sampleRow 1 none none "covenant.waived".toList "covenant".toList none
          (firstRow sampleDigest).hash, secondRow sampleDigest] := by
  have general : ∀ hexdigest : ByteArray → Text, Function.Injective hexdigest →
      Reported asciiBuiltins hexdigest [secondRow hexdigest] ∧
        Reported asciiBuiltins hexdigest
          [sampleRow 1 none none "covenant.waived".toList "covenant".toList none
            (firstRow hexdigest).hash, secondRow hexdigest] := by
    intro hexdigest collisionFree
    have evident := (@audit_chain_tamper_evident asciiBuiltins _ collisionFree
      (fun _ _ => rfl)).2 _ (sampleRows_verify hexdigest)
    refine ⟨evident.2.1 [] _ [secondRow hexdigest] rfl (List.cons_ne_nil _ _), ?_⟩
    have changed : ¬ (firstRow hexdigest).SameChained asciiBuiltins
        (sampleRow 1 none none "covenant.waived".toList "covenant".toList none
          (firstRow hexdigest).hash) := by
      rintro ⟨c, c', returned, returned', same⟩
      have events : "covenant.tested".toList = "covenant.waived".toList :=
        (AuditChainRow.chained_eq_ok returned).2.2.2.1.symm.trans
          (same.eventType.trans (AuditChainRow.chained_eq_ok returned').2.2.2.1)
      exact absurd events (by decide)
    have kept : ∀ hash, (sampleRow 1 none none "covenant.waived".toList "covenant".toList none
        hash).hash = hash := fun _ => rfl
    have framed : (firstRow hexdigest).Framed asciiBuiltins :=
      sampleRow_framed (by decide : hashSeparator ∉ "covenant.tested".toList) _
    have framed' := sampleRow_framed (by decide : hashSeparator ∉ "covenant.waived".toList)
      (firstRow hexdigest).hash
    exact evident.1 [] (firstRow hexdigest) [secondRow hexdigest] _ rfl framed framed'
      (Or.inl changed) (Or.inl (kept _).symm)
  exact general sampleDigest sampleDigest_injective

end CovenantRadar.Audit
