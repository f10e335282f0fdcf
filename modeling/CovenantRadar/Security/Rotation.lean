import CovenantRadar.Misc.Loop
import CovenantRadar.Security.FieldEncryption

/-!
# Resumable key rotation

Source `security/crypto.py`, `ResumableRotation`: batches of rows are re-encrypted and committed, and
a checkpoint is saved behind each batch. A run stops at the end of the rows, at a limit, or because
the process dies between a commit and its checkpoint.
-/

namespace CovenantRadar

namespace Crypto

/-- A row, with its identifier as the cursor writes it, and the values of the encrypted fields. -/
structure EncryptedRow where
  id : Text
  values : List (Option Text)
  deriving DecidableEq

/-- The rows in the order of their identifiers, and the cursor saved for the job. -/
structure Vault where
  rows : List EncryptedRow
  checkpoint : Option Text

/-- The nonces drawn in a batch, by row and field. -/
abbrev Draw := Text → Nat → Nonce

/-- Source `ResumableRotation`, as far as it is configured. -/
structure RotationJob where
  jobName : Text
  batchSize : Nat
  positive : 0 < batchSize

/-- One call of `run`; `crashAfter` counts the batches saved before the process dies with one more
    batch committed. -/
structure RunCall where
  maxBatches : Option Nat
  crashAfter : Option Nat
  draws : Nat → Draw

/-- Source `RotationProgress`. -/
structure RotationProgress where
  jobName : Text
  processed : Nat
  rotated : Nat
  unchanged : Nat
  lastCursor : Text
  complete : Bool

/-- How a run ends. -/
inductive RunEnd where
  | returned (progress : RotationProgress)
  | raised (error : DomainError)
  | runtimeError (message : String)
  | valueError (message : String)
  | crashed
  | outOfFuel

variable (aes : Aesgcm) (encryptor : FieldEncryptor)

/-! ## One batch -/

/-- One field of `_rotate_batch`: its value, and whether it was rewritten. -/
def rotateValue (nonce : Nonce) (value : Option Text) : Except DomainError (Option Text × Bool) :=
  match value with
  | none => .ok (none, false)
  | some value => do
      if ← encryptor.isCurrent value then return (some value, false)
      let rewritten ← encryptor.reencrypt aes nonce value
      return (some rewritten, true)

/-- The fields of one row. -/
def rotateRow (draw : Draw) (row : EncryptedRow) : Except DomainError (EncryptedRow × Bool) := do
  let values ← row.values.zipIdx.mapM fun entry =>
    rotateValue aes encryptor (draw row.id entry.2) entry.1
  return ({ row with values := values.map Prod.fst }, values.any Prod.snd)

/-- Source `_rotate_batch`: the rows rewritten, with whether each changed. -/
def rotateBatch (draw : Draw) (batch : List EncryptedRow) :
    Except DomainError (List (EncryptedRow × Bool)) :=
  batch.mapM (rotateRow aes encryptor draw)

/-- The rows behind a cursor. -/
def rowsAfter (rows : List EncryptedRow) : Option Text → List EncryptedRow
  | none => rows
  | some cursor => (rows.dropWhile fun row => decide (row.id ≠ cursor)).drop 1

/-- `fetch_batch`: the next rows in the order of their identifiers. -/
def fetchBatch (rows : List EncryptedRow) (cursor : Option Text) (size : Nat) :
    List EncryptedRow := (rowsAfter rows cursor).take size

/-- `commit_batch`: the rows of a batch replaced, all at once. -/
def commitBatch (rows batch : List EncryptedRow) : List EncryptedRow :=
  rows.map fun row => (batch.find? fun new => new.id = row.id).getD row

/-! ## Runs -/

/-- The rows counted so far in a run. -/
structure Tally where
  processed : Nat
  rotated : Nat
  unchanged : Nat

/-- A batch counted. -/
def Tally.add (tally : Tally) (batch : List (EncryptedRow × Bool)) : Tally :=
  let rotated := batch.countP Prod.snd
  ⟨tally.processed + batch.length, tally.rotated + rotated,
    tally.unchanged + (batch.length - rotated)⟩

/-- Source `_progress`. -/
def progress (job : RotationJob) (tally : Tally) (cursor : Option Text) (complete : Bool) :
    RotationProgress :=
  ⟨job.jobName, tally.processed, tally.rotated, tally.unchanged, cursor.getD [], complete⟩

/-- One pass of the loop, up to its commit. -/
inductive BatchStep where
  | exhausted
  | failed (reason : RunEnd)
  | rotated (batch : List (EncryptedRow × Bool)) (nextCursor : Text)

/-- A batch fetched and rotated. -/
def nextBatch (job : RotationJob) (draw : Draw) (cursor : Option Text) (rows : List EncryptedRow) :
    BatchStep :=
  let batch := fetchBatch rows cursor job.batchSize
  match batch.getLast? with
  | none => .exhausted
  | some last =>
      if job.batchSize < batch.length then
        .failed (.runtimeError
          "Rotation fetch_batch returned more rows than its batch size.")
      else if last.id = [] ∨ cursor = some last.id then
        .failed (.runtimeError "Rotation cursor did not advance after a non-empty batch.")
      else
        match rotateBatch aes encryptor draw batch with
        | .error error => .failed (.raised error)
        | .ok rotated => .rotated rotated last.id

/-- The loop of `run`. -/
def runLoop (job : RotationJob) (call : RunCall) :
    Nat → Nat → Tally → Option Text → Vault → RunEnd × Vault
  | 0, _, _, _, vault => (.outOfFuel, vault)
  | fuel + 1, batches, tally, cursor, vault =>
      if call.maxBatches = some batches then (.returned (progress job tally cursor false), vault)
      else
        match nextBatch aes encryptor job (call.draws batches) cursor vault.rows with
        | .exhausted => (.returned (progress job tally cursor true), vault)
        | .failed reason => (reason, vault)
        | .rotated batch nextCursor =>
            let rows := commitBatch vault.rows (batch.map Prod.fst)
            if call.crashAfter = some batches then (.crashed, { vault with rows := rows })
            else
              runLoop job call fuel (batches + 1) (tally.add batch) (some nextCursor)
                ⟨rows, some nextCursor⟩

/-- Source `ResumableRotation.run`. -/
def runRotation (job : RotationJob) (call : RunCall) (vault : Vault) : RunEnd × Vault :=
  if call.maxBatches = some 0 then
    (.valueError "The maximum number of rotation batches must be at least one.", vault)
  else
    runLoop aes encryptor job call (vault.rows.length + 1) 0 ⟨0, 0, 0⟩ vault.checkpoint vault

/-- The run reported that it is complete. -/
def RunEnd.isComplete : RunEnd → Bool
  | .returned progress => progress.complete
  | _ => false

/-! ## Rotations -/

/-- A rotation: the encryptor with its new active key, the runs that do not report completion, and
    the one that does. -/
structure Rotation where
  encryptor : FieldEncryptor
  runs : List RunCall
  last : RunCall

/-- The vault after the runs before the last one. -/
def beforeLast (job : RotationJob) (vault : Vault) (rotation : Rotation) : Vault :=
  rotation.runs.foldl (fun vault call => (runRotation aes rotation.encryptor job call vault).2) vault

/-- The vault after a rotation. -/
def rotate (job : RotationJob) (vault : Vault) (rotation : Rotation) : Vault :=
  (runRotation aes rotation.encryptor job rotation.last
    (beforeLast aes job vault rotation)).2

/-- The last run of a rotation reports that it is complete. -/
def IsCompleted (job : RotationJob) (vault : Vault) (rotation : Rotation) : Prop :=
  (runRotation aes rotation.encryptor job rotation.last
    (beforeLast aes job vault rotation)).1.isComplete = true

/-- The vault after rotations one after the other. -/
def rotateAll (job : RotationJob) (vault : Vault) (rotations : List Rotation) : Vault :=
  rotations.foldl (rotate aes job) vault

/-- Every field that is not null is under the active key. -/
def AllCurrent (rows : List EncryptedRow) : Prop :=
  ∀ row ∈ rows, ∀ value, some value ∈ row.values → encryptor.isCurrent value = .ok true

/-- The plaintexts of a row. -/
def plaintexts (row : EncryptedRow) : List (Option (Except DomainError Text)) :=
  row.values.map fun value => value.map (encryptor.decrypt aes)

/-- A ring that keeps the keys of another. -/
structure KeepsKeys (older newer : FieldEncryptor) : Prop where
  keys : ∀ id key, dictGet older.keys id = some key → dictGet newer.keys id = some key
  associatedData : newer.associatedData = older.associatedData

/-- The rows up to the checkpoint. -/
def rowsUpTo (rows : List EncryptedRow) : Option Text → List EncryptedRow
  | none => []
  | some cursor =>
      (rows.takeWhile fun row => decide (row.id ≠ cursor)) ++
        ((rows.dropWhile fun row => decide (row.id ≠ cursor)).take 1)

end Crypto

end CovenantRadar
