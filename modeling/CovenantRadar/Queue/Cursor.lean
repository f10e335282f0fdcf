import CovenantRadar.Queue.Filters
import CovenantRadar.Python.Base64
import CovenantRadar.Python.Digest

/-!
# Queue cursors

Source `db/repositories/triage.py`, `QueueCursor`: the position after a page, as an authenticated
token. What a token is signed with is `hmac`, which no fact here depends on.
-/

namespace CovenantRadar

namespace Queue

/-- A digest of 256 bits. -/
structure Digest256 where
  number : Nat
  small : number < 16 ^ 64
  deriving DecidableEq

/-- `digest.hex()`. -/
def Digest256.hexdigest (digest : Digest256) : Text := Text.hex 64 digest.number

/-- The bytes of a digest. -/
def Digest256.bytes (digest : Digest256) : List UInt8 :=
  (List.range 32).map fun i => UInt8.ofNat (digest.number / 256 ^ (31 - i) % 256)

/-- What `QueueCursor` checks of a filters digest. -/
def IsHexDigest (text : Text) : Prop :=
  text.length = 64 ∧ text.all (fun c => "0123456789abcdef".toList.contains c) = true

instance (text : Text) : Decidable (IsHexDigest text) := by
  unfold IsHexDigest
  infer_instance

theorem isHexDigest_hexdigest (digest : Digest256) : IsHexDigest digest.hexdigest := by
  refine ⟨Text.length_hex 64 digest.number, ?_⟩
  rw [List.all_eq_true]
  intro c member
  obtain ⟨d, small, rfl⟩ := Text.mem_hex member
  have table : ∀ d < 16, "0123456789abcdef".toList.contains (Nat.digitChar d) = true := by
    decide
  exact table d small

/-- Source `QueueCursor`, as its `__post_init__` leaves it. -/
structure QueueCursor where
  runId : Uuid
  rank : Nat
  borrowerId : Uuid
  filtersDigest : Option { text : Text // IsHexDigest text }
  positive : 1 ≤ rank
  deriving DecidableEq

/-- Source `InvalidQueueCursor`, and the exception of `UUID` on a value of the wrong type, which
    is not caught. -/
inductive CursorError where
  | invalid (message : String)
  | attributeError
  deriving DecidableEq

/-- `hmac.new(key, body, hashlib.sha256).digest()`, for any such function. -/
abbrev Hmac := List UInt8 → List UInt8 → Digest256

/-- Source `_CURSOR_MAX_LENGTH`. -/
def cursorMaxLength : Nat := 512

namespace QueueCursor

/-- Source `QueueCursor.encode`, its payload. -/
def payload (cursor : QueueCursor) : Json :=
  .obj ([("v".toList, .int 1), ("run_id".toList, .str cursor.runId.str),
    ("rank".toList, .int cursor.rank), ("borrower_id".toList, .str cursor.borrowerId.str)] ++
      (cursor.filtersDigest.map fun digest => ("filters_digest".toList, Json.str digest.1)).toList)

/-- Source `QueueCursor.encode`. The payload is written in ASCII alone. -/
def encode (hmac : Hmac) (secret : List UInt8) (cursor : QueueCursor) : Text :=
  let body := Base64.encode (utf8 cursor.payload.dumps)
  body ++ '.' :: Base64.encode (hmac secret (utf8 body)).bytes

/-- Source `_urlsafe_decode`. -/
def urlsafeDecode (value : Text) : Option (List UInt8) :=
  if value = [] then none
  else if value.any fun c => !Base64.alphabet.contains c then none
  else Base64.decode value

/-- `payload[key]` of a decoded object: the last entry of the key. -/
def lookup (entries : List (Text × Json)) (key : String) : Option Json :=
  (entries.filter fun entry => entry.1 == key.toList).getLast?.map Prod.snd

/-- `UUID(payload[key])`. -/
def readId (entries : List (Text × Json)) (key : String) : Except CursorError Uuid :=
  let malformed : CursorError := .invalid "Queue cursor ids are malformed."
  match lookup entries key with
  | some (.str text) =>
      match Uuid.ofText text with
      | some id => .ok id
      | none => .error malformed
  | some .null => .error malformed
  | some _ => .error .attributeError
  | none => .error malformed

/-- The rank of a payload, a positive integer. -/
def readRank (entries : List (Text × Json)) : Option Nat :=
  match lookup entries "rank" with
  | some (.int rank) => if 1 ≤ rank then some rank.toNat else none
  | _ => none

/-- The filters digest of a payload, which may be absent. -/
def readDigest (entries : List (Text × Json)) : Option (Option { text : Text // IsHexDigest text }) :=
  match lookup entries "filters_digest" with
  | some (.str text) => if digest : IsHexDigest text then some (some ⟨text, digest⟩) else none
  | some .null => some none
  | some _ => none
  | none => some none

/-- `value == 1`; a float of that value is left out. -/
def isOne : Json → Bool
  | .int 1 => true
  | .bool true => true
  | _ => false

/-- Source `QueueCursor.decode`, on the payload of an authenticated token. -/
def ofPayload (payload : Option Json) : Except CursorError QueueCursor :=
  match payload with
  | some (.obj entries) =>
      if entries.any fun entry =>
          !(["v", "run_id", "rank", "borrower_id", "filters_digest"].map String.toList).contains
            entry.1 then
        .error (.invalid "Queue cursor payload is malformed.")
      else if (lookup entries "v").any isOne then do
        let runId ← readId entries "run_id"
        let borrowerId ← readId entries "borrower_id"
        match readRank entries, readDigest entries with
        | some rank, some digest =>
            if positive : 1 ≤ rank then return ⟨runId, rank, borrowerId, digest, positive⟩
            else .error (.invalid "Queue cursor fields are malformed.")
        | _, _ => .error (.invalid "Queue cursor fields are malformed.")
      else .error (.invalid "Queue cursor version is unsupported.")
  | _ => .error (.invalid "Queue cursor payload is malformed.")

/-- Source `QueueCursor.decode`. -/
def decode (hmac : Hmac) (secret : List UInt8) (token : Text) : Except CursorError QueueCursor :=
  let malformed : CursorError := .invalid "Queue cursor is malformed."
  if token = [] ∨ cursorMaxLength < token.length then .error malformed
  else
    match token.splitOn '.' with
    | [encodedBody, encodedSignature] =>
        match urlsafeDecode encodedBody, urlsafeDecode encodedSignature with
        | some body, some supplied =>
            if supplied ≠ (hmac secret (utf8 encodedBody)).bytes then
              .error (.invalid "Queue cursor authentication failed.")
            else ofPayload ((decodeUtf8 body).bind Json.loads)
        | _, _ => .error malformed
    | _ => .error malformed

/-! ## The round trip -/

/-- A character written as it is, in one byte. -/
def Plain (c : Char) : Prop := Json.escapeChar c = [c] ∧ c.utf8Size = 1

instance (c : Char) : Decidable (Plain c) := by
  unfold Plain
  infer_instance

theorem plain_str {id : Uuid} {c : Char} (member : c ∈ id.str) : Plain c := by
  have table : ∀ d < 16, Plain (Nat.digitChar d) := by decide
  rcases Uuid.mem_str member with rfl | ⟨d, small, rfl⟩
  · decide
  · exact table d small

theorem plain_digest {digest : Text} (hex : IsHexDigest digest) {c : Char} (member : c ∈ digest) :
    Plain c := by
  have table : ∀ c ∈ "0123456789abcdef".toList, Plain c :=
    forall_mem_of_all (by decide)
  have listed := List.all_eq_true.mp hex.2 c member
  exact table c (List.contains_iff_mem.mp listed)

theorem quote_plain {t : Text} (plain : ∀ c ∈ t, Plain c) : Json.quote t = '"' :: (t ++ ['"']) := by
  have same : t.flatMap Json.escapeChar = t := by
    induction t with
    | nil => rfl
    | cons c t ih =>
      rw [List.flatMap_cons, (plain c List.mem_cons_self).1,
        ih fun d member => plain d (List.mem_cons_of_mem _ member)]
      rfl
  unfold Json.quote
  rw [same]

/-- The payload in the order of its keys. -/
def sortedPayload (cursor : QueueCursor) : Json :=
  .obj ([("borrower_id".toList, .str cursor.borrowerId.str)] ++
    (cursor.filtersDigest.map fun digest => ("filters_digest".toList, Json.str digest.1)).toList ++
      [("rank".toList, .int cursor.rank), ("run_id".toList, .str cursor.runId.str),
        ("v".toList, .int 1)])

theorem sortKeys_payload (cursor : QueueCursor) : cursor.payload.sortKeys = cursor.sortedPayload := by
  obtain ⟨runId, rank, borrowerId, digest, positive⟩ := cursor
  cases digest <;> rfl

theorem loads_payload (cursor : QueueCursor) :
    Json.loads cursor.payload.dumps = some cursor.sortedPayload := by
  have readsBack : Json.ReadsBack cursor.payload.sortKeys := by
    rw [sortKeys_payload]
    obtain ⟨runId, rank, borrowerId, digest, positive⟩ := cursor
    cases digest <;> simp [sortedPayload, Json.ReadsBack, Json.ReadsBackEntries]
  rw [Json.loads_dumps readsBack, sortKeys_payload]

theorem readId_str {entries : List (Text × Json)} {key : String} {id : Uuid}
    (found : lookup entries key = some (.str id.str)) : readId entries key = .ok id := by
  unfold readId
  simp [found, Uuid.ofText_str]

/-- What the fields of a payload are read as, the payload is read as. -/
theorem ofPayload_obj {entries : List (Text × Json)} {cursor : QueueCursor}
    (known : (entries.any fun entry =>
      !(["v", "run_id", "rank", "borrower_id", "filters_digest"].map String.toList).contains
        entry.1) = false)
    (version : lookup entries "v" = some (.int 1))
    (runId : lookup entries "run_id" = some (.str cursor.runId.str))
    (borrowerId : lookup entries "borrower_id" = some (.str cursor.borrowerId.str))
    (rank : lookup entries "rank" = some (.int cursor.rank))
    (digest : readDigest entries = some cursor.filtersDigest) :
    ofPayload (some (.obj entries)) = .ok cursor := by
  have natural : 1 ≤ (cursor.rank : Int) := by
    have := cursor.positive
    omega
  have one : (lookup entries "v").any isOne = true := by
    rw [version]
    rfl
  have rank' : readRank entries = some cursor.rank := by simp [readRank, rank, natural]
  unfold ofPayload
  simp only [known, one, readId_str runId, readId_str borrowerId, rank', digest]
  simp only [Bool.false_eq_true, if_false, if_true, cursor.positive, dif_pos]
  rfl

/-- A payload is read back. -/
theorem ofPayload_sortedPayload (cursor : QueueCursor) :
    ofPayload (some cursor.sortedPayload) = .ok cursor := by
  obtain ⟨runId, rank, borrowerId, digest, positive⟩ := cursor
  cases digest with
  | none => exact ofPayload_obj rfl rfl rfl rfl rfl rfl
  | some digest => exact ofPayload_obj rfl rfl rfl rfl rfl (dif_pos digest.2)

/-- The bytes a text takes. -/
def size (t : Text) : Nat := (t.map Char.utf8Size).sum

theorem length_utf8 (t : Text) : (utf8 t).length = size t := by
  unfold utf8 size
  rw [Array.length_toList, ← Text.size_encode]
  rfl

theorem size_append (s t : Text) : size (s ++ t) = size s + size t := by simp [size]

theorem size_cons (c : Char) (t : Text) : size (c :: t) = c.utf8Size + size t := by simp [size]

theorem size_plain {t : Text} (plain : ∀ c ∈ t, Plain c) : size t = t.length := by
  induction t with
  | nil => rfl
  | cons c t ih =>
    rw [size_cons, (plain c List.mem_cons_self).2,
      ih fun d member => plain d (List.mem_cons_of_mem _ member), List.length_cons]
    omega

theorem size_quote {t : Text} (plain : ∀ c ∈ t, Plain c) : size (Json.quote t) = t.length + 2 := by
  have mark : '"'.utf8Size = 1 := by decide
  rw [quote_plain plain, size_cons, size_append, size_plain plain, mark]
  simp only [size, List.map_cons, List.map_nil, List.sum_cons, List.sum_nil, mark]
  omega

theorem size_rank {rank : Nat} (small : rank < 10 ^ 19) : size (Text.ofInt rank) ≤ 19 := by
  have natural : Text.ofInt rank = Text.ofNat rank := by simp [Text.ofInt]
  have digits : (Text.ofNat rank).length ≤ 19 :=
    (Nat.length_toDigits_le_iff (by decide) (by decide)).mpr small
  have plain : ∀ c ∈ Text.ofNat rank, Plain c := by
    intro c member
    have table : ∀ n < 58, 48 ≤ n → Plain (Char.ofNat n) := by decide
    have digit := Text.isDigit_of_mem_ofNat member
    simp only [Char.isDigit, Bool.and_eq_true, decide_eq_true_eq] at digit
    have low : 48 ≤ c.toNat := UInt32.le_iff_toNat_le.mp digit.1
    have high : c.toNat ≤ 57 := UInt32.le_iff_toNat_le.mp digit.2
    have plain := table c.toNat (by omega) low
    rwa [Char.ofNat_toNat] at plain
  rw [natural, size_plain plain]
  exact digits

/-- The size of a payload: its punctuation and keys, and its values. -/
theorem size_payload_le (cursor : QueueCursor) (small : cursor.rank < 10 ^ 19) :
    (utf8 cursor.payload.dumps).length ≤ 300 := by
  obtain ⟨runId, rank, borrowerId, digest, positive⟩ := cursor
  have rank' : size (Text.ofInt rank) ≤ 19 := size_rank small
  have run : size (Json.quote runId.str) = runId.str.length + 2 := size_quote fun c => plain_str
  have borrower : size (Json.quote borrowerId.str) = borrowerId.str.length + 2 :=
    size_quote fun c => plain_str
  rw [length_str] at run borrower
  have text : (QueueCursor.payload ⟨runId, rank, borrowerId, digest, positive⟩).dumps =
      (sortedPayload ⟨runId, rank, borrowerId, digest, positive⟩).render := by
    rw [Json.dumps, sortKeys_payload]
  have keys : size (Json.quote "borrower_id".toList) = 13 ∧
      size (Json.quote "filters_digest".toList) = 16 ∧ size (Json.quote "rank".toList) = 6 ∧
      size (Json.quote "run_id".toList) = 8 ∧ size (Json.quote "v".toList) = 3 ∧
      size (Text.ofInt 1) = 1 := by decide
  have marks : '{'.utf8Size = 1 ∧ ':'.utf8Size = 1 ∧ ','.utf8Size = 1 ∧ '}'.utf8Size = 1 := by
    decide
  obtain ⟨borrowerKey, digestKey, rankKey, runKey, versionKey, one⟩ := keys
  obtain ⟨opening, colon, comma, closing⟩ := marks
  have empty : size [] = 0 := rfl
  rw [length_utf8, text]
  cases digest with
  | none =>
    simp only [sortedPayload, Option.map_none, Option.toList_none, List.append_nil,
      List.cons_append, List.nil_append, Json.render, Json.renderEntries, size_cons, size_append,
      run, borrower, borrowerKey, rankKey, runKey, versionKey, one, opening, colon, comma, closing,
      empty]
    omega
  | some digest =>
    have hex : size (Json.quote digest.1) = digest.1.length + 2 :=
      size_quote fun c => plain_digest digest.2
    rw [digest.2.1] at hex
    simp only [sortedPayload, Option.map_some, Option.toList_some, List.cons_append,
      List.nil_append, Json.render, Json.renderEntries, size_cons, size_append, run, borrower, hex,
      borrowerKey, digestKey, rankKey, runKey, versionKey, one, opening, colon, comma, closing,
      empty]
    omega

theorem urlsafeDecode_encode {data : List UInt8} (nonempty : data ≠ []) :
    urlsafeDecode (Base64.encode data) = some data := Base64.strictDecode_encode nonempty

/-- Every cursor the queue hands out is read back under the secret it was signed with. -/
theorem decode_encode (hmac : Hmac) (secret : List UInt8) {cursor : QueueCursor}
    (small : cursor.rank < 10 ^ 19) : decode hmac secret (encode hmac secret cursor) = .ok cursor := by
  have bodySize := Base64.length_encode_le (utf8 cursor.payload.dumps)
  have payloadSize := size_payload_le cursor small
  have payload : utf8 cursor.payload.dumps ≠ [] := by
    intro empty
    have read := decodeUtf8_utf8 cursor.payload.dumps
    rw [empty] at read
    have loaded := loads_payload cursor
    rw [← Option.some.inj read] at loaded
    cases loaded
  have read := urlsafeDecode_encode payload
  have noDot : '.' ∉ Base64.encode (utf8 cursor.payload.dumps) := fun member =>
    absurd (Base64.mem_alphabet member) (by decide)
  generalize encoded : Base64.encode (utf8 cursor.payload.dumps) = body at bodySize read noDot
  have signatureBytes : (hmac secret (utf8 body)).bytes ≠ [] := by simp [Digest256.bytes]
  have signatureSize := Base64.length_encode_le (hmac secret (utf8 body)).bytes
  have signature := urlsafeDecode_encode signatureBytes
  have noDot' : '.' ∉ Base64.encode (hmac secret (utf8 body)).bytes := fun member =>
    absurd (Base64.mem_alphabet member) (by decide)
  have width : (hmac secret (utf8 body)).bytes.length = 32 := by simp [Digest256.bytes]
  have token : encode hmac secret cursor =
      body ++ '.' :: Base64.encode (hmac secret (utf8 body)).bytes := by
    unfold encode
    rw [encoded]
  have within : ¬ (encode hmac secret cursor = [] ∨
      cursorMaxLength < (encode hmac secret cursor).length) := by
    rw [token, List.length_append, List.length_cons]
    simp only [List.append_eq_nil_iff, reduceCtorEq, and_false, false_or, not_lt, cursorMaxLength]
    omega
  have parts : (encode hmac secret cursor).splitOn '.' =
      [body, Base64.encode (hmac secret (utf8 body)).bytes] := by
    rw [token, List.splitOn_append_cons_self_of_not_mem noDot, List.splitOn_eq_singleton noDot']
  unfold decode
  simp only
  rw [if_neg within, parts]
  simp only [read, signature, ne_eq, not_true_eq_false, if_false, decodeUtf8_utf8, Option.bind_some,
    loads_payload, ofPayload_sortedPayload]

end QueueCursor

end Queue

end CovenantRadar
