import CovenantRadar.Security.Rotation

/-!
# Rotations one after the other

What a run keeps whatever happens to it, what a completed rotation leaves, and what the checkpoint of
a rotation does to the next one: the cursor stays at the last row, and the next rotation finds
nothing behind it.
-/

namespace CovenantRadar

namespace Crypto

variable {aes : Aesgcm} {encryptor : FieldEncryptor}

/-! ## One batch -/

/-- A value that is rewritten decrypts as before, and is under the active key. -/
theorem rotateValue_eq_ok {nonce : Nonce} {value new : Option Text} {changed : Bool}
    (returned : rotateValue aes encryptor nonce value = .ok (new, changed)) :
    new.map (encryptor.decrypt aes) = value.map (encryptor.decrypt aes) ∧
      ∀ text, new = some text → encryptor.isCurrent text = .ok true := by
  cases value with
  | none =>
    cases returned
    exact ⟨rfl, nofun⟩
  | some text =>
    obtain ⟨current, checked, returned⟩ := Except.bind_eq_ok_iff.mp returned
    cases current with
    | true =>
      cases returned
      refine ⟨rfl, fun same equal => ?_⟩
      cases equal
      exact checked
    | false =>
      obtain ⟨rewritten, reencrypted, returned⟩ := Except.bind_eq_ok_iff.mp returned
      cases returned
      obtain ⟨again, rechecked, reencrypted⟩ := Except.bind_eq_ok_iff.mp reencrypted
      rw [checked] at rechecked
      cases rechecked
      obtain ⟨plaintext, decrypted, encrypted⟩ := Except.bind_eq_ok_iff.mp reencrypted
      cases encrypted
      refine ⟨?_, fun same equal => ?_⟩
      · rw [Option.map_some, Option.map_some, decrypted, FieldEncryptor.decrypt_encrypt]
      · cases equal
        exact FieldEncryptor.isCurrent_encrypt encryptor nonce plaintext

/-- Two states of a row: the same identifier and the same plaintexts. -/
structure SameRow (aes : Aesgcm) (encryptor : FieldEncryptor) (old new : EncryptedRow) : Prop where
  id : new.id = old.id
  plaintexts : plaintexts aes encryptor new = plaintexts aes encryptor old

/-- What stays of a row. -/
def view (aes : Aesgcm) (encryptor : FieldEncryptor) (row : EncryptedRow) :
    Text × List (Option (Except DomainError Text)) := (row.id, plaintexts aes encryptor row)

theorem rotateRow_eq_ok {draw : Draw} {row : EncryptedRow} {new : EncryptedRow × Bool}
    (returned : rotateRow aes encryptor draw row = .ok new) :
    SameRow aes encryptor row new.1 ∧ AllCurrent encryptor [new.1] := by
  obtain ⟨values, rotated, returned⟩ := Except.bind_eq_ok_iff.mp returned
  cases returned
  have pairs := mapM_eq_ok_iff.mp rotated
  refine ⟨⟨rfl, ?_⟩, ?_⟩
  · have same : row.values.zipIdx.map (fun entry => entry.1.map (encryptor.decrypt aes)) =
        values.map (fun entry => entry.1.map (encryptor.decrypt aes)) :=
      map_eq_of_forall₂ (fun _ _ rotates => (rotateValue_eq_ok rotates).1.symm) pairs
    have fields : row.values.zipIdx.map (fun entry => entry.1.map (encryptor.decrypt aes)) =
        row.values.map fun value => value.map (encryptor.decrypt aes) := by
      conv_rhs => rw [← @List.zipIdx_map_fst _ 0 row.values, List.map_map]
      rfl
    unfold plaintexts
    rw [List.map_map, ← fields, same]
    rfl
  · intro row listed value present
    rw [List.mem_singleton.mp listed] at present
    obtain ⟨entry, isOne, same⟩ := List.mem_map.mp present
    obtain ⟨_, _, rotates⟩ := (forall₂_exists pairs).2 entry isOne
    exact (rotateValue_eq_ok rotates).2 value same

theorem rotateBatch_eq_ok {draw : Draw} {batch : List EncryptedRow}
    {rotated : List (EncryptedRow × Bool)}
    (returned : rotateBatch aes encryptor draw batch = .ok rotated) :
    List.Forall₂ (SameRow aes encryptor) batch (rotated.map Prod.fst) ∧
      AllCurrent encryptor (rotated.map Prod.fst) := by
  have pairs := mapM_eq_ok_iff.mp returned
  refine ⟨?_, ?_⟩
  · rw [List.forall₂_map_right_iff]
    exact pairs.imp fun _ _ rotates => (rotateRow_eq_ok rotates).1
  · intro row listed
    obtain ⟨entry, isOne, rfl⟩ := List.mem_map.mp listed
    obtain ⟨_, _, rotates⟩ := (forall₂_exists pairs).2 entry isOne
    exact (rotateRow_eq_ok rotates).2 _ (List.mem_singleton_self _)

/-! ## Where the cursor stands -/

/-- The rows in front of the cursor, the one it names last, and the rows behind it. -/
structure At (rows : List EncryptedRow) (cursor : Option Text)
    (front rest : List EncryptedRow) : Prop where
  rows : rows = front ++ rest
  cursor : cursor = front.getLast?.map EncryptedRow.id

/-- A cursor splits rows with distinct identifiers behind the row that it names. -/
theorem split_at {front rest : List EncryptedRow} {last : EncryptedRow}
    (distinct : ((front ++ last :: rest).map EncryptedRow.id).Nodup) :
    (front ++ last :: rest).dropWhile (fun row => decide (row.id ≠ last.id)) = last :: rest ∧
      (front ++ last :: rest).takeWhile (fun row => decide (row.id ≠ last.id)) = front := by
  have other : ∀ row ∈ front, decide (row.id ≠ last.id) = true := by
    intro row listed
    rw [List.map_append, List.nodup_append] at distinct
    exact decide_eq_true (distinct.2.2 _ (List.mem_map_of_mem listed) _ (by simp))
  constructor
  · rw [List.dropWhile_append_of_pos other]
    simp
  · rw [List.takeWhile_append_of_pos other]
    simp

theorem At.rowsAfter {rows front rest : List EncryptedRow} {cursor : Option Text}
    (at' : At rows cursor front rest) (distinct : (rows.map EncryptedRow.id).Nodup) :
    rowsAfter rows cursor = rest ∧ rowsUpTo rows cursor = front := by
  obtain ⟨rfl, rfl⟩ := at'
  rcases List.eq_nil_or_concat front with rfl | ⟨init, last, rfl⟩
  · exact ⟨rfl, rfl⟩
  · rw [List.concat_eq_append] at distinct ⊢
    rw [List.getLast?_append, List.getLast?_singleton]
    have shape : init ++ [last] ++ rest = init ++ last :: rest := by simp
    rw [shape] at distinct ⊢
    obtain ⟨dropped, taken⟩ := split_at distinct
    simp only [Option.some_or, Option.map_some, Crypto.rowsAfter, rowsUpTo, dropped, taken]
    exact ⟨rfl, rfl⟩

/-- Committing a batch replaces its rows in place. -/
theorem commitBatch_eq {front batch rest new : List EncryptedRow}
    (distinct : ((front ++ batch ++ rest).map EncryptedRow.id).Nodup)
    (same : List.Forall₂ (SameRow aes encryptor) batch new) :
    commitBatch (front ++ batch ++ rest) new = front ++ new ++ rest := by
  have ids : new.map EncryptedRow.id = batch.map EncryptedRow.id :=
    (map_eq_of_forall₂ (fun _ _ alike => alike.id.symm) same).symm
  simp only [List.map_append, List.nodup_append, List.mem_append] at distinct
  obtain ⟨⟨_, inBatch, frontApart⟩, _, restApart⟩ := distinct
  have untouched : ∀ rows : List EncryptedRow,
      (∀ row ∈ rows, row.id ∉ batch.map EncryptedRow.id) → commitBatch rows new = rows := by
    intro rows apart
    unfold commitBatch
    conv_rhs => rw [← List.map_id rows]
    apply List.map_congr_left
    intro row listed
    have absent : new.find? (fun other => decide (other.id = row.id)) = none := by
      rw [List.find?_eq_none]
      intro other present equal
      apply apart row listed
      rw [← ids, ← of_decide_eq_true equal]
      exact List.mem_map_of_mem present
    rw [absent]
    rfl
  have replaced : commitBatch batch new = new := by
    have aligned : List.Forall₂ (fun other row => other ∈ new ∧ other.id = row.id) new batch :=
      (List.forall₂_and_left _ _).mpr ⟨fun _ listed => listed,
        (List.Forall₂.imp (fun _ _ alike => alike.id) same).flip⟩
    have each := map_eq_of_forall₂ (f := id) (g := fun row =>
      (new.find? fun other => decide (other.id = row.id)).getD row) ?_ aligned
    · rw [List.map_id] at each
      exact each.symm
    · rintro other row ⟨listed, equal⟩
      have found : new.find? (fun other => decide (other.id = row.id)) = some other :=
        (find?_key_eq_some_iff (ids ▸ inBatch)).mpr ⟨listed, equal⟩
      rw [found]
      rfl
  have parts : commitBatch (front ++ batch ++ rest) new =
      commitBatch front new ++ commitBatch batch new ++ commitBatch rest new := by
    simp only [commitBatch, List.map_append]
  rw [parts, replaced, untouched front, untouched rest]
  · intro row listed inside
    exact restApart _ (.inr inside) _ (List.mem_map_of_mem listed) rfl
  · intro row listed inside
    exact frontApart _ (List.mem_map_of_mem listed) _ inside rfl

/-! ## One run -/

/-- What a run does to the vault, however it ends: the cursor moves past rows that are all under the
    active key, and every row stays, with its plaintexts. -/
structure Progresses (aes : Aesgcm) (encryptor : FieldEncryptor) (old new : Vault) : Prop where
  same : new.rows.map (view aes encryptor) = old.rows.map (view aes encryptor)
  moves : ∀ front rest, At old.rows old.checkpoint front rest →
    ∃ moved rest', At new.rows new.checkpoint (front ++ moved) rest' ∧ AllCurrent encryptor moved

theorem Progresses.refl (vault : Vault) : Progresses aes encryptor vault vault :=
  ⟨rfl, fun front rest at' => ⟨[], rest, by rwa [List.append_nil], nofun⟩⟩

theorem Progresses.trans {a b c : Vault} (first : Progresses aes encryptor a b)
    (second : Progresses aes encryptor b c) : Progresses aes encryptor a c := by
  refine ⟨second.same.trans first.same, fun front rest at' => ?_⟩
  obtain ⟨moved, rest', there, current⟩ := first.moves front rest at'
  obtain ⟨moved', rest'', there', current'⟩ := second.moves _ _ there
  refine ⟨moved ++ moved', rest'', by rwa [← List.append_assoc], ?_⟩
  intro row listed
  exact (List.mem_append.mp listed).elim (current row) (current' row)

theorem ids_of_view {old new : List EncryptedRow}
    (same : new.map (view aes encryptor) = old.map (view aes encryptor)) :
    new.map EncryptedRow.id = old.map EncryptedRow.id := by
  have firsts := congrArg (List.map Prod.fst) same
  rwa [List.map_map, List.map_map] at firsts

/-- A batch that is rotated and committed behind the cursor, with its rows alone replaced. -/
theorem view_commit {front batch rest new : List EncryptedRow}
    (same : List.Forall₂ (SameRow aes encryptor) batch new) :
    (front ++ new ++ rest).map (view aes encryptor) =
      (front ++ batch ++ rest).map (view aes encryptor) := by
  have each : batch.map (view aes encryptor) = new.map (view aes encryptor) :=
    map_eq_of_forall₂ (fun _ _ alike => Prod.ext alike.id.symm alike.plaintexts.symm) same
  rw [List.map_append, List.map_append, List.map_append, List.map_append, each]

/-- What a pass of the loop finds behind the cursor. -/
theorem nextBatch_cases {job : RotationJob} {draw : Draw} {cursor : Option Text}
    {rows front rest : List EncryptedRow} (distinct : (rows.map EncryptedRow.id).Nodup)
    (at' : At rows cursor front rest) :
    (nextBatch aes encryptor job draw cursor rows = .exhausted ∧ rest = []) ∨
    (∃ reason, nextBatch aes encryptor job draw cursor rows = .failed reason ∧
      reason.isComplete = false) ∨
    (∃ batch last, nextBatch aes encryptor job draw cursor rows = .rotated batch last ∧
      List.Forall₂ (SameRow aes encryptor) (rest.take job.batchSize) (batch.map Prod.fst) ∧
      AllCurrent encryptor (batch.map Prod.fst) ∧
      (rest.take job.batchSize).getLast?.map EncryptedRow.id = some last) := by
  have batch : fetchBatch rows cursor job.batchSize = rest.take job.batchSize := by
    rw [fetchBatch, (at'.rowsAfter distinct).1]
  unfold nextBatch
  rw [batch]
  simp only
  split
  · next empty =>
    rcases List.take_eq_nil_iff.mp (List.getLast?_eq_none_iff.mp empty) with zero | nothing
    · exact absurd zero job.positive.ne'
    · exact .inl ⟨rfl, nothing⟩
  · next last found =>
    right
    split
    · exact .inl ⟨_, rfl, rfl⟩
    · split
      · exact .inl ⟨_, rfl, rfl⟩
      · split
        · exact .inl ⟨_, rfl, rfl⟩
        · next rotated returned =>
          obtain ⟨alike, current⟩ := rotateBatch_eq_ok returned
          exact .inr ⟨rotated, last.id, rfl, alike, current, by rw [found, Option.map_some]⟩

/-- The vault after a batch is committed, before and after its checkpoint is saved. -/
theorem progresses_commit {job : RotationJob} {vault : Vault} {front rest new : List EncryptedRow}
    {last : Text} (distinct : (vault.rows.map EncryptedRow.id).Nodup)
    (at' : At vault.rows vault.checkpoint front rest)
    (same : List.Forall₂ (SameRow aes encryptor) (rest.take job.batchSize) new)
    (current : AllCurrent encryptor new)
    (ends : (rest.take job.batchSize).getLast?.map EncryptedRow.id = some last) :
    Progresses aes encryptor vault { vault with rows := commitBatch vault.rows new } ∧
      Progresses aes encryptor vault ⟨commitBatch vault.rows new, some last⟩ ∧
      At (commitBatch vault.rows new) (some last) (front ++ new) (rest.drop job.batchSize) := by
  have whole : vault.rows = front ++ rest.take job.batchSize ++ rest.drop job.batchSize := by
    rw [List.append_assoc, List.take_append_drop]
    exact at'.rows
  have committed : commitBatch vault.rows new = front ++ new ++ rest.drop job.batchSize := by
    rw [whole] at distinct ⊢
    exact commitBatch_eq distinct same
  have kept : (commitBatch vault.rows new).map (view aes encryptor) =
      vault.rows.map (view aes encryptor) := by
    rw [committed, whole]
    exact view_commit same
  have saved : At (commitBatch vault.rows new) (some last) (front ++ new)
      (rest.drop job.batchSize) := by
    refine ⟨committed, ?_⟩
    have ids : new.map EncryptedRow.id = (rest.take job.batchSize).map EncryptedRow.id :=
      (map_eq_of_forall₂ (fun _ _ alike => alike.id.symm) same).symm
    rw [← List.getLast?_map, ← ids, List.getLast?_map] at ends
    rw [List.getLast?_append, Option.map_or, ends]
    rfl
  have unique : ∀ front' rest', At vault.rows vault.checkpoint front' rest' → front' = front := by
    intro front' rest' there
    rw [← (there.rowsAfter distinct).2, (at'.rowsAfter distinct).2]
  refine ⟨⟨kept, fun front' rest' there => ?_⟩, ⟨kept, fun front' rest' there => ?_⟩, saved⟩
  · rw [unique front' rest' there]
    refine ⟨[], new ++ rest.drop job.batchSize, ⟨?_, ?_⟩, nofun⟩
    · rw [List.append_nil, ← List.append_assoc]
      exact committed
    · rw [List.append_nil]
      exact at'.cursor
  · rw [unique front' rest' there]
    exact ⟨new, _, saved, current⟩

/-- The loop of a run, from a cursor that is the checkpoint. -/
theorem progresses_runLoop {job : RotationJob} {call : RunCall} {fuel batches : Nat} {tally : Tally}
    {vault : Vault} (distinct : (vault.rows.map EncryptedRow.id).Nodup)
    {front rest : List EncryptedRow} (at' : At vault.rows vault.checkpoint front rest) :
    let result := runLoop aes encryptor job call fuel batches tally vault.checkpoint vault
    Progresses aes encryptor vault result.2 ∧ (result.1.isComplete = true →
      rowsAfter result.2.rows result.2.checkpoint = []) := by
  induction fuel generalizing batches tally vault front rest with
  | zero => exact ⟨Progresses.refl vault, nofun⟩
  | succ fuel ih =>
    unfold runLoop
    simp only
    by_cases limited : call.maxBatches = some batches
    · rw [if_pos limited]
      exact ⟨Progresses.refl vault, nofun⟩
    · rw [if_neg limited]
      obtain ⟨exhausted, nothing⟩ | ⟨reason, failed, incomplete⟩ |
          ⟨batch, last, rotated, same, current, ends⟩ :=
        @nextBatch_cases aes encryptor job (call.draws batches) _ _ _ _ distinct at'
      · rw [exhausted]
        exact ⟨Progresses.refl vault, fun _ => (at'.rowsAfter distinct).1.trans nothing⟩
      · rw [failed]
        refine ⟨Progresses.refl vault, fun complete => ?_⟩
        rw [incomplete] at complete
        cases complete
      · rw [rotated]
        obtain ⟨crashed, saved, there⟩ := progresses_commit distinct at' same current ends
        simp only
        by_cases crashes : call.crashAfter = some batches
        · rw [if_pos crashes]
          exact ⟨crashed, nofun⟩
        · rw [if_neg crashes]
          have distinct' := distinct
          rw [← ids_of_view saved.same] at distinct'
          obtain ⟨rest, ended⟩ := @ih (batches + 1) (tally.add batch)
            ⟨commitBatch vault.rows (batch.map Prod.fst), some last⟩ distinct' _ _ there
          exact ⟨saved.trans rest, ended⟩

/-- A run keeps what a vault holds, however it ends; where it reports completion, no row is left
    behind its cursor. -/
theorem progresses_runRotation {job : RotationJob} {call : RunCall} {vault : Vault}
    (distinct : (vault.rows.map EncryptedRow.id).Nodup) {front rest : List EncryptedRow}
    (at' : At vault.rows vault.checkpoint front rest) :
    let result := runRotation aes encryptor job call vault
    Progresses aes encryptor vault result.2 ∧ (result.1.isComplete = true →
      rowsAfter result.2.rows result.2.checkpoint = []) := by
  unfold runRotation
  split_ifs
  · exact ⟨Progresses.refl vault, nofun⟩
  · exact progresses_runLoop distinct at'

/-! ## Rotations one after the other -/

/-- The fields decrypt to these texts. -/
def Holds (aes : Aesgcm) (encryptor : FieldEncryptor) (rows : List EncryptedRow)
    (texts : List (List (Option Text))) : Prop :=
  rows.map (plaintexts aes encryptor) = texts.map fun row => row.map (Option.map Except.ok)

/-- What holds of the vault between rotations. -/
structure Sound (aes : Aesgcm) (encryptor : FieldEncryptor) (vault : Vault)
    (texts : List (List (Option Text))) : Prop where
  distinct : (vault.rows.map EncryptedRow.id).Nodup
  placed : ∃ front rest, At vault.rows vault.checkpoint front rest
  holds : Holds aes encryptor vault.rows texts

/-- What a ring decrypts, a ring that keeps its keys decrypts too. -/
theorem decrypt_of_keepsKeys {older newer : FieldEncryptor} (keeps : KeepsKeys older newer)
    {value text : Text} (decrypted : older.decrypt aes value = .ok text) :
    newer.decrypt aes value = .ok text := by
  obtain ⟨parts, parsed, decrypted⟩ := Except.bind_eq_ok_iff.mp decrypted
  refine Except.bind_eq_ok_iff.mpr ⟨parts, parsed, ?_⟩
  have associated : newer.associated parts.1 = older.associated parts.1 := by
    rw [FieldEncryptor.associated, FieldEncryptor.associated, keeps.associatedData]
  cases found : dictGet older.keys parts.1 with
  | none =>
    rw [found] at decrypted
    cases decrypted
  | some key =>
    rw [found] at decrypted
    rw [keeps.keys _ _ found, associated]
    exact decrypted

theorem Holds.of_keepsKeys {older newer : FieldEncryptor} {rows : List EncryptedRow}
    {texts : List (List (Option Text))} (holds : Holds aes older rows texts)
    (keeps : KeepsKeys older newer) : Holds aes newer rows texts := by
  unfold Holds plaintexts at holds ⊢
  have rowwise : ∀ (values : List (Option Text)) (row : List (Option Text)),
      values.map (Option.map (older.decrypt aes)) = row.map (Option.map Except.ok) →
      values.map (Option.map (newer.decrypt aes)) = row.map (Option.map Except.ok) := by
    intro values
    induction values with
    | nil =>
      intro row same
      exact same
    | cons value values ih =>
      intro row same
      cases row with
      | nil => cases same
      | cons text row =>
        obtain ⟨first, others⟩ := List.cons.inj same
        refine List.cons_eq_cons.mpr ⟨?_, ih row others⟩
        cases value with
        | none => exact first
        | some value =>
          cases text with
          | none => cases first
          | some text =>
            exact congrArg some (decrypt_of_keepsKeys keeps (Option.some.inj first))
  induction rows generalizing texts with
  | nil => exact holds
  | cons row rows ih =>
    cases texts with
    | nil => cases holds
    | cons text texts =>
      obtain ⟨first, others⟩ := List.cons.inj holds
      exact List.cons_eq_cons.mpr ⟨rowwise _ _ first, ih others⟩

theorem Sound.of_progresses {vault next : Vault} {texts : List (List (Option Text))}
    (sound : Sound aes encryptor vault texts) (progresses : Progresses aes encryptor vault next) :
    Sound aes encryptor next texts := by
  obtain ⟨front, rest, at'⟩ := sound.placed
  obtain ⟨moved, rest', there, _⟩ := progresses.moves front rest at'
  refine ⟨?_, ⟨_, rest', there⟩, ?_⟩
  · rw [ids_of_view progresses.same]
    exact sound.distinct
  · have seconds := congrArg (List.map Prod.snd) progresses.same
    rw [List.map_map, List.map_map] at seconds
    exact seconds.trans sound.holds

/-- The runs of a rotation before its last. -/
theorem progresses_beforeLast {job : RotationJob} {vault : Vault} {rotation : Rotation}
    {texts : List (List (Option Text))} (sound : Sound aes rotation.encryptor vault texts) :
    Progresses aes rotation.encryptor vault (beforeLast aes job vault rotation) := by
  unfold beforeLast
  induction rotation.runs generalizing vault with
  | nil => exact Progresses.refl vault
  | cons call runs ih =>
    obtain ⟨front, rest, at'⟩ := sound.placed
    have first := (@progresses_runRotation aes rotation.encryptor job call vault sound.distinct
      front rest at').1
    exact first.trans (ih (sound.of_progresses first))

/-- A rotation: it keeps what the vault holds, and once it is complete all rows are under its key
    exactly if those in front of the checkpoint it started from were. -/
theorem rotate_spec {job : RotationJob} {vault : Vault} {rotation : Rotation}
    {texts : List (List (Option Text))} (sound : Sound aes rotation.encryptor vault texts) :
    Sound aes rotation.encryptor (rotate aes job vault rotation) texts ∧
      (IsCompleted aes job vault rotation →
        (AllCurrent rotation.encryptor (rotate aes job vault rotation).rows ↔
          AllCurrent rotation.encryptor (rowsUpTo vault.rows vault.checkpoint))) := by
  have early := @progresses_beforeLast aes job vault rotation texts sound
  have between := sound.of_progresses early
  obtain ⟨front, rest, at'⟩ := between.placed
  obtain ⟨late, ends⟩ := @progresses_runRotation aes rotation.encryptor job rotation.last _
    between.distinct front rest at'
  have whole : Progresses aes rotation.encryptor vault (rotate aes job vault rotation) :=
    early.trans late
  have after := sound.of_progresses whole
  refine ⟨after, fun completed => ?_⟩
  obtain ⟨front, rest, at'⟩ := sound.placed
  obtain ⟨moved, rest', there, current⟩ := whole.moves front rest at'
  have nothing : rest' = [] := by
    rw [← (there.rowsAfter after.distinct).1]
    exact ends completed
  rw [there.rows, nothing, List.append_nil, (at'.rowsAfter sound.distinct).2]
  constructor
  · intro all row listed
    exact all row (List.mem_append_left _ listed)
  · intro all row listed
    exact (List.mem_append.mp listed).elim (all row) (current row)

/-! ## A run that nothing interrupts -/

theorem decryptable_of_holds {rows : List EncryptedRow} {texts : List (List (Option Text))}
    (holds : Holds aes encryptor rows texts) : ∀ row ∈ rows, ∀ value, some value ∈ row.values →
      ∃ text, encryptor.decrypt aes value = .ok text := by
  intro row listed value present
  have mapped : plaintexts aes encryptor row ∈ texts.map fun row => row.map (Option.map Except.ok) :=
    holds ▸ List.mem_map_of_mem listed
  obtain ⟨original, _, same⟩ := List.mem_map.mp mapped
  have inside : some (encryptor.decrypt aes value) ∈ original.map (Option.map Except.ok) :=
    same ▸ List.mem_map.mpr ⟨_, present, rfl⟩
  obtain ⟨text, _, equal⟩ := List.mem_map.mp inside
  cases text with
  | none => cases equal
  | some text => exact ⟨text, (Option.some.inj equal).symm⟩

theorem rotateBatch_returns {draw : Draw} {batch : List EncryptedRow}
    (decryptable : ∀ row ∈ batch, ∀ value, some value ∈ row.values →
      ∃ text, encryptor.decrypt aes value = .ok text) :
    ∃ rotated, rotateBatch aes encryptor draw batch = .ok rotated := by
  apply mapM_returns_iff.mpr
  intro row listed
  have fields : ∃ values, (row.values.zipIdx.mapM fun entry =>
      rotateValue aes encryptor (draw row.id entry.2) entry.1) = .ok values := by
    apply mapM_returns_iff.mpr
    rintro ⟨value, index⟩ isOne
    cases value with
    | none => exact ⟨_, rfl⟩
    | some value =>
      have present : some value ∈ row.values := by
        rw [← @List.zipIdx_map_fst _ 0 row.values]
        exact List.mem_map.mpr ⟨_, isOne, rfl⟩
      obtain ⟨text, decrypted⟩ := decryptable row listed value present
      obtain ⟨parts, parsed, _⟩ := Except.bind_eq_ok_iff.mp decrypted
      have checked : encryptor.isCurrent value =
          .ok (decide (parts.1 = encryptor.activeKeyId)) := by
        rw [FieldEncryptor.isCurrent, parsed]
        rfl
      cases current : decide (parts.1 = encryptor.activeKeyId) with
      | true =>
        refine ⟨(some value, false), Except.bind_eq_ok_iff.mpr ⟨true, ?_, rfl⟩⟩
        rw [checked, current]
      | false =>
        have again : encryptor.isCurrent value = .ok false := by rw [checked, current]
        refine ⟨(some (encryptor.encrypt aes (draw row.id index) text), true),
          Except.bind_eq_ok_iff.mpr ⟨false, again, Except.bind_eq_ok_iff.mpr ⟨_, ?_, rfl⟩⟩⟩
        exact Except.bind_eq_ok_iff.mpr ⟨false, again,
          Except.bind_eq_ok_iff.mpr ⟨text, decrypted, rfl⟩⟩
  obtain ⟨values, returned⟩ := fields
  exact ⟨_, Except.bind_eq_ok_iff.mpr ⟨values, returned, rfl⟩⟩

/-- Behind the cursor, a batch of encrypted rows is rotated. -/
theorem nextBatch_rotates {job : RotationJob} {draw : Draw} {vault : Vault}
    {texts : List (List (Option Text))} (sound : Sound aes encryptor vault texts)
    (named : ∀ row ∈ vault.rows, row.id ≠ []) {front rest : List EncryptedRow}
    (at' : At vault.rows vault.checkpoint front rest) (left : rest ≠ []) :
    ∃ batch last, nextBatch aes encryptor job draw vault.checkpoint vault.rows =
      .rotated batch last := by
  have behind : fetchBatch vault.rows vault.checkpoint job.batchSize = rest.take job.batchSize := by
    rw [fetchBatch, (at'.rowsAfter sound.distinct).1]
  have some' : rest.take job.batchSize ≠ [] := by
    rw [ne_eq, List.take_eq_nil_iff]
    exact fun either => either.elim job.positive.ne' left
  have last := List.getLast?_eq_some_getLast some'
  have among : ∀ row ∈ rest.take job.batchSize, row ∈ rest :=
    fun row listed => List.mem_of_mem_take listed
  have inRows : ∀ row ∈ rest.take job.batchSize, row ∈ vault.rows := fun row listed => by
    rw [at'.rows]
    exact List.mem_append_right _ (among row listed)
  obtain ⟨rotated, returned⟩ := @rotateBatch_returns aes encryptor draw (rest.take job.batchSize)
    fun row listed => decryptable_of_holds sound.holds row (inRows row listed)
  have ended := List.getLast_mem some'
  have advances : vault.checkpoint ≠ some ((rest.take job.batchSize).getLast some').id := by
    intro same
    have distinct := sound.distinct
    rw [at'.rows, List.map_append, List.nodup_append] at distinct
    rw [at'.cursor, Option.map_eq_some_iff] at same
    obtain ⟨row, isLast, equal⟩ := same
    exact distinct.2.2 _ (List.mem_map_of_mem (List.mem_of_getLast? isLast)) _
      (List.mem_map_of_mem (among _ ended)) equal
  refine ⟨rotated, ((rest.take job.batchSize).getLast some').id, ?_⟩
  unfold nextBatch
  rw [behind]
  simp only [last, returned]
  rw [if_neg (not_lt.mpr (List.length_take_le _ _)), if_neg]
  rintro (unnamed | stays)
  · exact named _ (inRows _ ended) unnamed
  · exact advances stays

/-- A run without a limit that does not crash reports completion. -/
theorem complete_of_uninterrupted {job : RotationJob} {call : RunCall} {vault : Vault}
    {texts : List (List (Option Text))} (sound : Sound aes encryptor vault texts)
    (named : ∀ row ∈ vault.rows, row.id ≠ []) (unlimited : call.maxBatches = none)
    (survives : call.crashAfter = none) :
    (runRotation aes encryptor job call vault).1.isComplete = true := by
  have loop : ∀ (fuel batches : Nat) (tally : Tally) (vault : Vault) (front rest : List EncryptedRow),
      Sound aes encryptor vault texts → (∀ row ∈ vault.rows, row.id ≠ []) →
      At vault.rows vault.checkpoint front rest → rest.length < fuel →
      (runLoop aes encryptor job call fuel batches tally vault.checkpoint vault).1.isComplete =
        true := by
    intro fuel
    induction fuel with
    | zero =>
      intro _ _ _ _ rest _ _ _ short
      exact absurd short (Nat.not_lt_zero _)
    | succ fuel ih =>
      intro batches tally vault front rest sound named at' short
      unfold runLoop
      rw [unlimited, survives]
      simp only [reduceCtorEq, if_false]
      obtain ⟨exhausted, _⟩ | ⟨reason, failed, _⟩ | ⟨batch, last, rotated, same, current, ends⟩ :=
        @nextBatch_cases aes encryptor job (call.draws batches) _ _ _ _ sound.distinct at'
      · rw [exhausted]
        rfl
      · by_cases left : rest = []
        · have exhausted : nextBatch aes encryptor job (call.draws batches) vault.checkpoint
              vault.rows = .exhausted := by
            unfold nextBatch fetchBatch
            rw [(at'.rowsAfter sound.distinct).1, left, List.take_nil]
            rfl
          rw [exhausted] at failed
          cases failed
        · obtain ⟨_, _, rotates⟩ :=
            @nextBatch_rotates aes encryptor job (call.draws batches) _ _ sound named _ _ at' left
          rw [failed] at rotates
          cases rotates
      · rw [rotated]
        obtain ⟨_, saved, there⟩ := progresses_commit sound.distinct at' same current ends
        have next := sound.of_progresses saved
        refine ih _ _ ⟨_, some last⟩ _ _ next ?_ there ?_
        · intro row listed
          have ids := ids_of_view saved.same
          obtain ⟨old, present, equal⟩ := List.mem_map.mp (ids ▸ List.mem_map_of_mem listed)
          rw [← equal]
          exact named old present
        · have taken : rest.take job.batchSize ≠ [] := by
            intro none
            rw [none] at ends
            cases ends
          have some' : rest ≠ [] := fun none => taken (by rw [none, List.take_nil])
          have positive := job.positive
          have length := List.length_pos_iff.mpr some'
          rw [List.length_drop]
          omega
  obtain ⟨front, rest, at'⟩ := sound.placed
  unfold runRotation
  rw [unlimited, if_neg (by simp)]
  refine loop _ _ _ vault front rest sound named at' ?_
  have whole := congrArg List.length at'.rows
  rw [List.length_append] at whole
  omega

/-- Old keys stay in the ring from one rotation to the next. -/
def KeysStay (first : FieldEncryptor) (rotations : List Rotation) : Prop :=
  List.IsChain KeepsKeys (first :: rotations.map Rotation.encryptor)

/-- The vault before a rotation, read with the ring of that rotation. -/
theorem sound_rotateAll {job : RotationJob} {first : FieldEncryptor} {vault : Vault}
    {texts : List (List (Option Text))} (sound : Sound aes first vault texts)
    (before : List Rotation) (rotation : Rotation) (stay : KeysStay first (before ++ [rotation])) :
    Sound aes rotation.encryptor (rotateAll aes job vault before) texts := by
  induction before generalizing first vault with
  | nil =>
    have keeps : KeepsKeys first rotation.encryptor := (List.isChain_cons_cons.mp stay).1
    exact ⟨sound.distinct, sound.placed, sound.holds.of_keepsKeys keeps⟩
  | cons next before ih =>
    obtain ⟨keeps, others⟩ := List.isChain_cons_cons.mp stay
    have ready : Sound aes next.encryptor vault texts :=
      ⟨sound.distinct, sound.placed, sound.holds.of_keepsKeys keeps⟩
    exact ih (rotate_spec ready).1 others

/-- In any sequence of completed rotations under one job name, every field is under the new key and
    decrypts to its original text after each rotation, exactly if no rotation starts with a field
    under another key in front of the checkpoint. -/
theorem rotated_iff (aes : Aesgcm) (job : RotationJob) (first : FieldEncryptor)
    (rows : List EncryptedRow) (texts : List (List (Option Text)))
    (distinct : (rows.map EncryptedRow.id).Nodup) (holds : Holds aes first rows texts)
    (rotations : List Rotation) (stay : KeysStay first rotations)
    (completed : ∀ before rotation after, rotations = before ++ rotation :: after →
      IsCompleted aes job (rotateAll aes job ⟨rows, none⟩ before) rotation) :
    (∀ before rotation after, rotations = before ++ rotation :: after →
      AllCurrent rotation.encryptor
        (rotateAll aes job ⟨rows, none⟩ (before ++ [rotation])).rows ∧
      Holds aes rotation.encryptor
        (rotateAll aes job ⟨rows, none⟩ (before ++ [rotation])).rows texts) ↔
    ∀ before rotation after, rotations = before ++ rotation :: after →
      AllCurrent rotation.encryptor
        (rowsUpTo (rotateAll aes job ⟨rows, none⟩ before).rows
          (rotateAll aes job ⟨rows, none⟩ before).checkpoint) := by
  have start : Sound aes first ⟨rows, none⟩ texts := ⟨distinct, ⟨[], rows, rfl, rfl⟩, holds⟩
  have each : ∀ before rotation after, rotations = before ++ rotation :: after →
      Holds aes rotation.encryptor
        (rotateAll aes job ⟨rows, none⟩ (before ++ [rotation])).rows texts ∧
      (AllCurrent rotation.encryptor
        (rotateAll aes job ⟨rows, none⟩ (before ++ [rotation])).rows ↔
        AllCurrent rotation.encryptor
          (rowsUpTo (rotateAll aes job ⟨rows, none⟩ before).rows
            (rotateAll aes job ⟨rows, none⟩ before).checkpoint)) := by
    intro before rotation after shape
    have stayed : KeysStay first (before ++ [rotation]) := by
      refine List.IsChain.prefix stay ?_
      exact ⟨after.map Rotation.encryptor, by simp [shape]⟩
    have sound := @sound_rotateAll aes job first _ texts start before rotation stayed
    obtain ⟨kept, all⟩ := @rotate_spec aes job _ rotation texts sound
    have last : rotateAll aes job ⟨rows, none⟩ (before ++ [rotation]) =
        rotate aes job (rotateAll aes job ⟨rows, none⟩ before) rotation := by
      simp [rotateAll]
    rw [last]
    exact ⟨kept.holds, all (completed before rotation after shape)⟩
  constructor
  · intro promised before rotation after shape
    exact (each before rotation after shape).2.mp (promised before rotation after shape).1
  · intro clear before rotation after shape
    obtain ⟨kept, all⟩ := each before rotation after shape
    exact ⟨all.mpr (clear before rotation after shape), kept⟩

/-! ## A second rotation -/

/-- One encryption of AES-256-GCM. -/
structure KnownEncryption where
  key : List UInt8
  nonce : List UInt8
  plaintext : List UInt8
  associated : List UInt8
  ciphertext : List UInt8
  tagged : 16 ≤ ciphertext.length
  signed : ¬ List.replicate 16 (0 : UInt8) <:+ ciphertext

/-- The ciphertext on the known input; the data with a blank tag on any other. -/
def knownEncrypt (known : KnownEncryption) (key nonce plaintext associated : List UInt8) :
    List UInt8 :=
  if (key, nonce, plaintext, associated) =
      (known.key, known.nonce, known.plaintext, known.associated) then known.ciphertext
  else plaintext ++ List.replicate 16 0

/-- Decryption to `knownEncrypt`. -/
def knownDecrypt (known : KnownEncryption) (key nonce ciphertext associated : List UInt8) :
    Option (List UInt8) :=
  if (key, nonce, ciphertext, associated) =
      (known.key, known.nonce, known.ciphertext, known.associated) then some known.plaintext
  else some (ciphertext.take (ciphertext.length - 16))

theorem known_opens (known : KnownEncryption) (key nonce plaintext associated : List UInt8) :
    knownDecrypt known key nonce (knownEncrypt known key nonce plaintext associated) associated =
      some plaintext := by
  unfold knownEncrypt
  split_ifs with same
  · simp only [Prod.mk.injEq] at same
    obtain ⟨rfl, rfl, rfl, rfl⟩ := same
    exact if_pos rfl
  · unfold knownDecrypt
    rw [if_neg]
    · simp
    · intro equal
      simp only [Prod.mk.injEq] at equal
      exact known.signed (equal.2.2.1 ▸ List.suffix_append _ _)

theorem known_tagged (known : KnownEncryption) (key nonce plaintext associated : List UInt8) :
    16 ≤ (knownEncrypt known key nonce plaintext associated).length := by
  unfold knownEncrypt
  split_ifs
  · exact known.tagged
  · simp

/-- AES-256-GCM as far as one encryption is known. -/
def knownAesgcm (known : KnownEncryption) : Aesgcm where
  encrypt := knownEncrypt known
  decrypt := knownDecrypt known
  opens := known_opens known
  tagged := known_tagged known

/-- The text `PAN` under the key `old`. -/
def sample : KnownEncryption where
  key := List.replicate 32 1
  nonce := List.replicate 12 2
  plaintext := [80, 65, 78]
  associated := asciiBytes "covenant-radar/field-encryption/v1:old".toList
  ciphertext := [87, 151, 135, 213, 73, 168, 247, 118, 44, 250, 111, 29, 105, 22, 134, 244, 3, 63,
    134]
  tagged := by decide
  signed := by decide

/-- Both keys, the one of this name active. -/
def ring (active : Text) (known : active ∈ ["old".toList, "current".toList]) : FieldEncryptor where
  keys := [("old".toList, List.replicate 32 1), ("current".toList, List.replicate 32 3)]
  activeKeyId := active
  associatedData := asciiBytes "covenant-radar/field-encryption/v1".toList
  active := known
  named := forall_mem_of_all (by decide)
  sized := forall_mem_of_all (by decide)
  bound := by decide

/-- The ring before the new key is active. -/
def oldRing : FieldEncryptor := ring "old".toList (by decide)

/-- The ring with the new key active. -/
def newRing : FieldEncryptor := ring "current".toList (by decide)

/-- The nonce of every batch. -/
def sampleNonce : Nonce := ⟨List.replicate 12 2, rfl⟩

/-- A row with one encrypted field. -/
def sampleRow : EncryptedRow :=
  ⟨"1".toList, [some "cr1.b2xk.AgICAgICAgICAgIC.V5eH1Umo93Ys-m8daRaG9AM_hg".toList]⟩

theorem sampleRow_encrypted : oldRing.encrypt (knownAesgcm sample) sampleNonce "PAN".toList =
    "cr1.b2xk.AgICAgICAgICAgIC.V5eH1Umo93Ys-m8daRaG9AM_hg".toList := by decide +kernel

theorem sampleRow_holds :
    Holds (knownAesgcm sample) oldRing [sampleRow] [[some "PAN".toList]] := by
  have decrypted := @FieldEncryptor.decrypt_encrypt (knownAesgcm sample) oldRing sampleNonce
    "PAN".toList
  rw [sampleRow_encrypted] at decrypted
  simp only [Holds, plaintexts, sampleRow, List.map_cons, List.map_nil, Option.map_some, decrypted]

/-- A job of one row a batch. -/
def sampleJob : RotationJob := ⟨"encrypted-fields".toList, 1, Nat.one_pos⟩

/-- A run that nothing interrupts. -/
def wholeRun : RunCall := ⟨none, none, fun _ _ _ => sampleNonce⟩

theorem rotated_iff_once :
    (∀ before rotation after, [(⟨oldRing, [], wholeRun⟩ : Rotation)] = before ++ rotation :: after →
      AllCurrent rotation.encryptor (rotateAll (knownAesgcm sample) sampleJob ⟨[sampleRow], none⟩
        (before ++ [rotation])).rows ∧
      Holds (knownAesgcm sample) rotation.encryptor (rotateAll (knownAesgcm sample) sampleJob
        ⟨[sampleRow], none⟩ (before ++ [rotation])).rows [[some "PAN".toList]]) ↔
    ∀ before rotation after, [(⟨oldRing, [], wholeRun⟩ : Rotation)] = before ++ rotation :: after →
      AllCurrent rotation.encryptor
        (rowsUpTo (rotateAll (knownAesgcm sample) sampleJob ⟨[sampleRow], none⟩ before).rows
          (rotateAll (knownAesgcm sample) sampleJob ⟨[sampleRow], none⟩ before).checkpoint) := by
  refine rotated_iff (knownAesgcm sample) sampleJob oldRing [sampleRow] _ (by decide)
    sampleRow_holds _ ?_ ?_
  · exact List.isChain_cons_cons.mpr ⟨⟨fun _ _ found => found, rfl⟩, List.isChain_singleton _⟩
  · intro before rotation after shape
    have start : Sound (knownAesgcm sample) oldRing ⟨[sampleRow], none⟩ [[some "PAN".toList]] :=
      ⟨by decide, ⟨[], _, rfl, rfl⟩, sampleRow_holds⟩
    cases before with
    | nil =>
      cases shape
      exact complete_of_uninterrupted start (by decide) rfl rfl
    | cons first before =>
      have tail := (List.cons.inj shape).2
      exact absurd tail.symm (by simp)

/-- After the second rotation the field is still under the key of the first. -/
theorem checkpoint_outlives_rotation : ¬ ∀ (aes : Aesgcm) (job : RotationJob)
    (first : FieldEncryptor) (rows : List EncryptedRow) (texts : List (List (Option Text))),
    (rows.map EncryptedRow.id).Nodup → Holds aes first rows texts →
    ∀ rotations : List Rotation, KeysStay first rotations →
    (∀ before rotation after, rotations = before ++ rotation :: after →
      IsCompleted aes job (rotateAll aes job ⟨rows, none⟩ before) rotation) →
    ∀ before rotation after, rotations = before ++ rotation :: after →
      AllCurrent rotation.encryptor
        (rotateAll aes job ⟨rows, none⟩ (before ++ [rotation])).rows := by
  intro claim
  have stay : KeysStay oldRing [⟨oldRing, [], wholeRun⟩, ⟨newRing, [], wholeRun⟩] :=
    List.isChain_cons_cons.mpr ⟨⟨fun _ _ found => found, rfl⟩,
      List.isChain_cons_cons.mpr ⟨⟨fun _ _ found => found, rfl⟩, List.isChain_singleton _⟩⟩
  have current := claim (knownAesgcm sample) sampleJob oldRing [sampleRow] _ (by decide)
    sampleRow_holds _ stay ?_ [⟨oldRing, [], wholeRun⟩] ⟨newRing, [], wholeRun⟩ [] rfl
  · have unchanged : (rotateAll (knownAesgcm sample) sampleJob ⟨[sampleRow], none⟩
        ([⟨oldRing, [], wholeRun⟩] ++ [⟨newRing, [], wholeRun⟩])).rows = [sampleRow] := by
      decide +kernel
    rw [unchanged] at current
    have checked := current sampleRow (List.mem_singleton_self _) _ (List.mem_singleton_self _)
    have old : (newRing.isCurrent
        "cr1.b2xk.AgICAgICAgICAgIC.V5eH1Umo93Ys-m8daRaG9AM_hg".toList).toOption = some false := by
      decide +kernel
    rw [checked] at old
    cases old
  · intro before rotation after shape
    rcases before with _ | ⟨first, _ | ⟨second, before⟩⟩
    · cases shape
      show RunEnd.isComplete _ = true
      decide +kernel
    · cases shape
      show RunEnd.isComplete _ = true
      decide +kernel
    · have tail := (List.cons.inj (List.cons.inj shape).2).2
      exact absurd tail.symm (by simp)

end Crypto

end CovenantRadar
