import CovenantRadar.Misc.Blocks
import CovenantRadar.Misc.Loop
import CovenantRadar.Security.FieldEncryption

/-!
# The document store

Source `documents/store.py`: contents under their SHA-256, each file an envelope and encrypted frames.
The digest is a parameter, and so are the nonces an encryption draws. A file system that fails, and
files that are no regular ones, are left out.
-/

namespace CovenantRadar

namespace Documents

open Crypto

/-- `hashlib.sha256(data).digest()`. -/
structure Digest where
  bytes : List UInt8
  sized : bytes.length = 32

/-- What the store raises. -/
inductive StoreError where
  | storageUnavailable (message : Text)
  | notFound (message : Text)
  | valueError (message : Text)
  | structError (message : Text)
  deriving DecidableEq

/-- Source `_MAGIC`. -/
def magic : List UInt8 := asciiBytes "CRDOC001".toList

/-- Source `_HEADER.size`. -/
def headerSize : Nat := 48

/-- Source `_MAX_FRAME_BYTES`. -/
def maxFrameBytes : Nat := 8 * 1024 * 1024

/-- Source `_HASH_HEX_LENGTH`. -/
def hashHexLength : Nat := 64

/-- `bytes.hex()`. -/
def hexText (data : List UInt8) : Text :=
  data.flatMap fun byte => [Nat.digitChar (byte.toNat / 16), Nat.digitChar (byte.toNat % 16)]

/-- Source `_validate_hash`. -/
def validateHash (value : Text) : Except StoreError Text :=
  if value.length ≠ hashHexLength ∨
      value.any (fun character => !"0123456789abcdef".toList.contains character) then
    .error (.valueError
      "Document content hashes must be lowercase SHA-256 hexadecimal values.".toList)
  else .ok value

/-- Source `content_addressed_key`. -/
def contentAddressedKey (contentHash : Text) : Except StoreError Text := do
  let digest ← validateHash contentHash
  .ok ("sha256/".toList ++ digest)

/-- The refusal of a key that no document has. -/
def notFoundError (storageKey : Text) : StoreError :=
  .notFound ("Document storage key ".toList ++ Text.repr storageKey ++ " was not found.".toList)

/-- Source `_hash_from_key`. -/
def hashFromKey (storageKey : Text) : Except StoreError Text :=
  if "sha256/".toList.isPrefixOf storageKey then
    (validateHash (storageKey.drop 7)).mapError fun _ => notFoundError storageKey
  else .error (notFoundError storageKey)

/-- A character of the standard alphabet, for one of the URL-safe alphabet. -/
def standardChar (c : Char) : Char := if c = '-' then '+' else if c = '_' then '/' else c

/-- A character of the URL-safe alphabet, for one of the standard alphabet. -/
def urlSafeChar (c : Char) : Char := if c = '+' then '-' else if c = '/' then '_' else c

/-- `base64.b64encode`. -/
def b64encode (data : List UInt8) : Text :=
  let body := (Base64.encode data).map standardChar
  body ++ List.replicate ((4 - body.length % 4) % 4) '='

/-- `base64.b64decode(value, validate=True)`. -/
def b64decode (value : Text) : Option (List UInt8) :=
  let body := value.takeWhile (· != '=')
  let padding := value.dropWhile (· != '=')
  if padding.any (· != '=') ∨ 2 < padding.length ∨ value.length % 4 ≠ 0 ∨
      body.any (fun c => !(Base64.alphabet.map standardChar).contains c) then none
  else Base64.decode (body.map urlSafeChar)

/-- Source `FileSystemDocumentStore`, with the check of its chunk size. -/
structure FileSystemDocumentStore where
  encryptor : FieldEncryptor
  chunkSize : Nat
  accepted : 1 ≤ chunkSize ∧ chunkSize ≤ maxFrameBytes

/-- The files of a store, by the hash of their key. -/
abbrev Files := Text → Option (List UInt8)

section

variable (aes : Aesgcm) (sha256 : List UInt8 → Digest)

/-- `digest.hexdigest()`. -/
def hexdigest (content : List UInt8) : Text := hexText (sha256 content).bytes

namespace FileSystemDocumentStore

variable (store : FileSystemDocumentStore)

/-- What a frame of `put` carries: a block in base64, encrypted. -/
def encoded (nonce : Nonce) (block : List UInt8) : List UInt8 :=
  asciiBytes (store.encryptor.encrypt aes nonce (b64encode block))

/-- One turn of the loop of `put`: the frame of a block. -/
def frame (nonce : Nonce) (block : List UInt8) : Except StoreError (List UInt8) :=
  if maxFrameBytes < (store.encoded aes nonce block).length then
    .error (.storageUnavailable "Document encryption produced an oversized frame.".toList)
  else .ok (beBytes 4 (store.encoded aes nonce block).length ++ store.encoded aes nonce block)

/-- `_HEADER.pack`. -/
def header (content : List UInt8) : Except StoreError (List UInt8) :=
  if content.length < 256 ^ 8 then
    .ok (magic ++ (sha256 content).bytes ++ beBytes 8 content.length)
  else .error (.structError "argument out of range".toList)

/-- The file `put` writes. -/
def document (nonces : Nat → Nonce) (content : List UInt8) (contentHash : Option Text) :
    Except StoreError (List UInt8) := do
  let frames ← (blocks store.chunkSize content).zipIdx.mapM fun entry =>
    store.frame aes (nonces entry.2) entry.1
  let supplied ← contentHash.elim (.ok (hexdigest sha256 content)) validateHash
  if supplied ≠ hexdigest sha256 content then
    .error (.valueError
      "The supplied document content_hash does not match the content bytes.".toList)
  else do
    let header ← header sha256 content
    .ok (header ++ frames.flatten)

/-- The plaintext of a frame. -/
def decodeFrame (encrypted : List UInt8) : Option (List UInt8) := do
  let text ← decodeAscii encrypted
  let encodedPlaintext ← (store.encryptor.decrypt aes text).toOption
  b64decode encodedPlaintext

/-- The loop of `_iter_file`, at most `bound` frames. -/
def readFrames : Nat → List UInt8 → Except StoreError (List (List UInt8))
  | 0, _ => .ok []
  | bound + 1, rest =>
    let frameLength := beValue (rest.take 4)
    let encrypted := (rest.drop 4).take frameLength
    if rest.isEmpty then .ok []
    else if rest.length < 4 then
      .error (.storageUnavailable "Stored document frame header is truncated.".toList)
    else if ¬ (1 ≤ frameLength ∧ frameLength ≤ maxFrameBytes) then
      .error (.storageUnavailable "Stored document frame length is invalid.".toList)
    else if encrypted.length ≠ frameLength then
      .error (.storageUnavailable "Stored document frame is truncated.".toList)
    else
      match store.decodeFrame aes encrypted with
      | none => .error (.storageUnavailable "Stored document frame failed authentication.".toList)
      | some plaintext =>
        if plaintext.isEmpty then
          .error (.storageUnavailable "Stored document frame was empty.".toList)
        else (plaintext :: ·) <$> readFrames bound ((rest.drop 4).drop frameLength)

/-- Source `_iter_file`, to its end. -/
def iterFile (file : List UInt8) (expectedHash : Text) (chunkSize : Nat) :
    Except StoreError (List (List UInt8)) :=
  let expectedDigest := (file.drop 8).take 32
  if file.length < headerSize then
    .error (.storageUnavailable "Stored document envelope is truncated.".toList)
  else if file.take 8 ≠ magic ∨ hexText expectedDigest ≠ expectedHash then
    .error (.storageUnavailable "Stored document envelope failed validation.".toList)
  else do
    let plaintexts ← store.readFrames aes file.length (file.drop headerSize)
    let total := plaintexts.flatten
    if total.length ≠ beValue ((file.drop 40).take 8) ∨ (sha256 total).bytes ≠ expectedDigest then
      .error (.storageUnavailable "Stored document integrity check failed.".toList)
    else .ok (plaintexts.flatMap (blocks chunkSize))

/-- Source `_is_valid_existing`. -/
def isValidExisting (file : List UInt8) (expectedHash : Text) : Bool :=
  (store.iterFile aes sha256 file expectedHash store.chunkSize).toOption.isSome

/-- Source `put`: what it returns, and the files it leaves. -/
def put (files : Files) (nonces : Nat → Nonce) (content : List UInt8) (contentHash : Option Text) :
    Except StoreError Text × Files :=
  match store.document aes sha256 nonces content contentHash with
  | .error error => (.error error, files)
  | .ok file =>
    let actualHash := hexdigest sha256 content
    if (files actualHash).any fun existing => store.isValidExisting aes sha256 existing actualHash then
      (contentAddressedKey actualHash, files)
    else (contentAddressedKey actualHash, Function.update files actualHash (some file))

/-- Source `stream`, to its end. -/
def stream (files : Files) (storageKey : Text) (chunkSize : Nat) :
    Except StoreError (List (List UInt8)) :=
  if ¬ (1 ≤ chunkSize ∧ chunkSize ≤ maxFrameBytes) then
    .error (.valueError
      "Document stream chunk_size must be between 1 and 8388608 bytes.".toList)
  else do
    let expectedHash ← hashFromKey storageKey
    match files expectedHash with
    | none => .error (notFoundError storageKey)
    | some file => store.iterFile aes sha256 file expectedHash chunkSize

/-- Source `_DEFAULT_CHUNK_SIZE`. -/
def defaultChunkSize : Nat := 256 * 1024

/-- Source `get`. -/
def get (files : Files) (storageKey : Text) : Except StoreError (List UInt8) :=
  List.flatten <$> store.stream aes sha256 files storageKey defaultChunkSize

/-- A call of `put`. -/
structure PutCall where
  nonces : Nat → Nonce
  content : List UInt8
  contentHash : Option Text

/-- The files that calls of `put` leave, one after the other. -/
def afterPuts (files : Files) (calls : List PutCall) : Files :=
  calls.foldl (fun files call =>
    (store.put aes sha256 files call.nonces call.content call.contentHash).2) files

end FileSystemDocumentStore

end

end Documents

end CovenantRadar
