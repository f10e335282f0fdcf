import CovenantRadar.Documents.Store
import CovenantRadar.Python.Digest
import CovenantRadar.Security.RotationRuns

/-!
# Documents read back

A frame is read back as its block, a file as its blocks, and what is put under a digest stays there.
The constructor takes chunk sizes whose frames `put` refuses, since a frame holds its block twice
encoded.
-/

namespace CovenantRadar

namespace Documents

open Crypto

/-! ## Base64 -/

/-- The characters of the alphabet, and of the other. -/
theorem mem_alphabet_standard {c : Char} (member : c ∈ Base64.alphabet) :
    urlSafeChar (standardChar c) = c ∧ standardChar c ≠ '=' ∧ (standardChar c).toNat < 128 ∧
      c.toNat < 128 := by
  have small : ∀ c ∈ Base64.alphabet, c.toNat < 128 := forall_mem_of_all (by decide)
  have plus : c ≠ '+' := by
    rintro rfl
    exact absurd member (by decide)
  have slash : c ≠ '/' := by
    rintro rfl
    exact absurd member (by decide)
  have equals : c ≠ '=' := by
    rintro rfl
    exact absurd member (by decide)
  have bound := small c member
  unfold standardChar
  by_cases hyphen : c = '-'
  · subst hyphen
    decide
  · by_cases low : c = '_'
    · subst low
      decide
    · rw [if_neg hyphen, if_neg low]
      refine ⟨?_, equals, bound, bound⟩
      unfold urlSafeChar
      rw [if_neg plus, if_neg slash]

/-- Bytes are read back from the text in the frame. -/
theorem b64decode_b64encode (data : List UInt8) : b64decode (b64encode data) = some data := by
  have count := Base64.length_encode data
  unfold b64encode
  let body := (Base64.encode data).map standardChar
  have bodyLength : body.length = (Base64.encode data).length := List.length_map _
  let padding := List.replicate ((4 - body.length % 4) % 4) '='
  show b64decode (body ++ padding) = some data
  have unpadded : ∀ c ∈ body, (c != '=') = true := by
    intro c member
    obtain ⟨d, written, rfl⟩ := List.mem_map.mp member
    simpa using (mem_alphabet_standard (Base64.mem_alphabet written)).2.1
  have front : (body ++ padding).takeWhile (· != '=') = body := by
    rw [List.takeWhile_append_of_pos unpadded, List.takeWhile_replicate]
    simp
  have back : (body ++ padding).dropWhile (· != '=') = padding := by
    rw [List.dropWhile_append_of_pos unpadded, List.dropWhile_replicate]
    simp [padding]
  have listed : body.any (fun c => !(Base64.alphabet.map standardChar).contains c) = false := by
    rw [List.any_eq_false]
    intro c member
    obtain ⟨d, written, rfl⟩ := List.mem_map.mp member
    simpa using ⟨d, Base64.mem_alphabet written, rfl⟩
  have marks : padding.any (· != '=') = false := by
    rw [List.any_eq_false]
    intro c member
    simp [List.eq_of_mem_replicate member]
  have few : ¬ 2 < padding.length := by
    rw [List.length_replicate]
    omega
  have whole : (body ++ padding).length % 4 = 0 := by
    rw [List.length_append, List.length_replicate]
    omega
  have read : body.map urlSafeChar = Base64.encode data := by
    rw [List.map_map]
    conv_rhs => rw [← List.map_id (Base64.encode data)]
    apply List.map_congr_left
    intro c written
    exact (mem_alphabet_standard (Base64.mem_alphabet written)).1
  unfold b64decode
  simp only [front, back, marks, whole, listed]
  rw [if_neg, read, Base64.decode_encode]
  simp [few]

theorem ascii_b64encode (data : List UInt8) : ∀ c ∈ b64encode data, c.toNat < 128 := by
  intro c member
  rcases List.mem_append.mp member with body | padding
  · obtain ⟨d, written, rfl⟩ := List.mem_map.mp body
    exact (mem_alphabet_standard (Base64.mem_alphabet written)).2.2.1
  · rw [List.eq_of_mem_replicate padding]
    decide

/-- Three bytes, or the one or two left, become four characters. -/
theorem length_b64encode (data : List UInt8) :
    (b64encode data).length = 4 * ((data.length + 2) / 3) := by
  have count := Base64.length_encode data
  unfold b64encode
  simp only [List.length_append, List.length_map, List.length_replicate]
  omega

/-! ## Texts in ASCII -/

theorem length_utf8 {text : Text} (ascii : ∀ c ∈ text, c.toNat < 128) :
    (utf8 text).length = text.length := by
  have one : ∀ c ∈ text, c.utf8Size = 1 := by
    intro c member
    rw [Char.utf8Size_eq_one_iff, UInt32.le_iff_toNat_le]
    exact Nat.le_of_lt_succ (ascii c member)
  have size : (utf8 text).length = text.encode.size := by simp [utf8]
  rw [size, Text.size_encode, List.map_congr_left one]
  simp

/-- An envelope is in ASCII. -/
theorem ascii_envelope {keyId : Text} {nonce ciphertext : List UInt8} :
    ∀ c ∈ envelope keyId nonce ciphertext, c.toNat < 128 := by
  have written (data : List UInt8) : ∀ c ∈ Base64.encode data, c.toNat < 128 := fun c member =>
    (mem_alphabet_standard (Base64.mem_alphabet member)).2.2.2
  have marks : ∀ c ∈ "cr1".toList, c.toNat < 128 := forall_mem_of_all (by decide)
  intro c member
  simp only [envelope, List.mem_append, List.mem_cons] at member
  rcases member with format | rfl | id | rfl | nonce | rfl | data
  · exact marks c format
  · decide
  · exact written _ c id
  · decide
  · exact written _ c nonce
  · decide
  · exact written _ c data

/-! ## Frames -/

namespace FileSystemDocumentStore

variable {aes : Aesgcm} {sha256 : List UInt8 → Digest} {store : FileSystemDocumentStore}

theorem frame_eq_ok_iff {nonce : Nonce} {block frame : List UInt8} :
    store.frame aes nonce block = .ok frame ↔
      (store.encoded aes nonce block).length ≤ maxFrameBytes ∧
        frame = beBytes 4 (store.encoded aes nonce block).length ++
          store.encoded aes nonce block := by
  unfold FileSystemDocumentStore.frame
  by_cases long : maxFrameBytes < (store.encoded aes nonce block).length
  · rw [if_pos long]
    constructor
    · nofun
    · intro short
      exact absurd short.1 (not_le.mpr long)
  · rw [if_neg long, Except.ok.injEq, eq_comm, and_iff_right (not_lt.mp long)]

/-- The text of a frame is what its bytes spell. -/
theorem decodeAscii_encoded (nonce : Nonce) (block : List UInt8) :
    decodeAscii (store.encoded aes nonce block) =
      some (store.encryptor.encrypt aes nonce (b64encode block)) :=
  decodeAscii_asciiBytes ascii_envelope

theorem decodeFrame_encoded (nonce : Nonce) (block : List UInt8) :
    store.decodeFrame aes (store.encoded aes nonce block) = some block := by
  simp [decodeFrame, decodeAscii_encoded, FieldEncryptor.decrypt_encrypt, b64decode_b64encode,
    Except.toOption]

theorem length_encoded_pos (nonce : Nonce) (block : List UInt8) :
    1 ≤ (store.encoded aes nonce block).length := by
  simp [encoded, FieldEncryptor.encrypt, asciiBytes, envelope]

/-- The frame written for a block is read back as the block. -/
theorem readFrames_frame {nonce : Nonce} {block frame : List UInt8} (nonempty : block ≠ [])
    (written : store.frame aes nonce block = .ok frame) (bound : Nat) (rest : List UInt8) :
    store.readFrames aes (bound + 1) (frame ++ rest) =
      (block :: ·) <$> store.readFrames aes bound rest := by
  obtain ⟨short, rfl⟩ := frame_eq_ok_iff.mp written
  let body := store.encoded aes nonce block
  have fits : body.length < 256 ^ 4 := lt_of_le_of_lt short (by decide)
  have count : (beBytes 4 body.length).length = 4 := length_beBytes 4 _
  have size : beValue ((beBytes 4 body.length ++ (body ++ rest)).take 4) = body.length := by
    rw [List.take_left' count, beValue_beBytes fits]
  have behind : (beBytes 4 body.length ++ (body ++ rest)).drop 4 = body ++ rest :=
    List.drop_left' count
  have filled : (beBytes 4 body.length ++ (body ++ rest)).isEmpty = false := by
    rw [List.isEmpty_eq_false_iff, ← List.length_pos_iff, List.length_append, count]
    omega
  have headed : ¬ (beBytes 4 body.length ++ (body ++ rest)).length < 4 := by
    rw [List.length_append, count]
    omega
  rw [List.append_assoc]
  show store.readFrames aes (bound + 1) (beBytes 4 body.length ++ (body ++ rest)) = _
  conv_lhs => rw [readFrames]
  simp only [size, behind, filled, List.take_left, List.drop_left]
  rw [if_neg (by decide), if_neg headed, if_neg (not_not.mpr ⟨length_encoded_pos _ _, short⟩),
    if_neg (not_not.mpr rfl)]
  simp only [body, decodeFrame_encoded]
  rw [if_neg (by simpa using nonempty)]

/-- The frames of blocks, one after the other, are read back as the blocks. -/
theorem readFrames_flatten {blocks frames : List (List UInt8)}
    (written : List.Forall₂ (fun block frame => ∃ nonce, store.frame aes nonce block = .ok frame)
      blocks frames) (nonempty : ∀ block ∈ blocks, block ≠ []) {bound : Nat}
    (enough : frames.length ≤ bound) : store.readFrames aes bound frames.flatten = .ok blocks := by
  induction written generalizing bound with
  | nil => cases bound <;> rfl
  | @cons block frame blocks frames first later ih =>
    obtain ⟨nonce, framed⟩ := first
    cases bound with
    | zero => cases enough
    | succ bound =>
      rw [List.flatten_cons, readFrames_frame (nonempty block List.mem_cons_self) framed,
        ih (fun block member => nonempty block (List.mem_cons_of_mem _ member))
          (Nat.le_of_succ_le_succ enough)]
      rfl

/-- The bytes of a frame, for a block of this length. -/
def frameLength (store : FileSystemDocumentStore) (length : Nat) : Nat :=
  22 + (4 * store.encryptor.activeKeyId.length + 2) / 3 +
    (4 * (4 * ((length + 2) / 3) + 16) + 2) / 3

theorem frameLength_mono (store : FileSystemDocumentStore) {m n : Nat} (le : m ≤ n) :
    store.frameLength m ≤ store.frameLength n := by
  unfold frameLength
  omega

theorem length_encoded (sized : ∀ key nonce plaintext associated,
    (aes.encrypt key nonce plaintext associated).length = plaintext.length + 16)
    (nonce : Nonce) (block : List UInt8) :
    (store.encoded aes nonce block).length = store.frameLength block.length := by
  have format : "cr1".toList.length = 3 := rfl
  unfold encoded frameLength
  simp only [FieldEncryptor.encrypt, asciiBytes, envelope, List.length_map, List.length_append,
    List.length_cons, Base64.length_encode, format, nonce.sized, sized, length_utf8 (ascii_b64encode _),
    length_b64encode]
  omega

/-! ## Files -/

/-- What a reader finds in a file: an envelope of this hash, and frames of these plaintexts, which
    are what the envelope says. -/
structure Opens (aes : Aesgcm) (sha256 : List UInt8 → Digest) (store : FileSystemDocumentStore)
    (file : List UInt8) (expectedHash : Text) (plaintexts : List (List UInt8)) : Prop where
  whole : headerSize ≤ file.length
  marked : file.take 8 = magic
  named : hexText ((file.drop 8).take 32) = expectedHash
  frames : store.readFrames aes file.length (file.drop headerSize) = .ok plaintexts
  counted : plaintexts.flatten.length = beValue ((file.drop 40).take 8)
  digested : (sha256 plaintexts.flatten).bytes = (file.drop 8).take 32

theorem iterFile_eq_ok_iff {file : List UInt8} {expectedHash : Text} {chunkSize : Nat}
    {parts : List (List UInt8)} :
    store.iterFile aes sha256 file expectedHash chunkSize = .ok parts ↔
      ∃ plaintexts, Opens aes sha256 store file expectedHash plaintexts ∧
        plaintexts.flatMap (blocks chunkSize) = parts := by
  unfold iterFile
  by_cases short : file.length < headerSize
  · simp only [if_pos short]
    constructor
    · nofun
    · rintro ⟨_, opens, _⟩
      exact absurd opens.whole (not_le.mpr short)
  · simp only [if_neg short]
    by_cases foreign : file.take 8 ≠ magic ∨ hexText ((file.drop 8).take 32) ≠ expectedHash
    · rw [if_pos foreign]
      constructor
      · nofun
      · rintro ⟨_, opens, _⟩
        rcases foreign with other | other
        · exact absurd opens.marked other
        · exact absurd opens.named other
    · rw [if_neg foreign, Except.bind_eq_ok_iff]
      push Not at foreign
      apply exists_congr
      intro plaintexts
      constructor
      · rintro ⟨frames, checked⟩
        split_ifs at checked with wrong
        push Not at wrong
        exact ⟨⟨not_lt.mp short, foreign.1, foreign.2, frames, wrong.1, wrong.2⟩,
          Except.ok.inj checked⟩
      · rintro ⟨opens, rfl⟩
        refine ⟨opens.frames, if_neg ?_⟩
        push Not
        exact ⟨opens.counted, opens.digested⟩

/-- What a read of a file returns has the hash the file is read under. -/
theorem hexdigest_of_iterFile {file : List UInt8} {expectedHash : Text} {chunkSize : Nat}
    {parts : List (List UInt8)} (positive : 1 ≤ chunkSize)
    (read : store.iterFile aes sha256 file expectedHash chunkSize = .ok parts) :
    hexdigest sha256 parts.flatten = expectedHash := by
  obtain ⟨plaintexts, opens, rfl⟩ := iterFile_eq_ok_iff.mp read
  rw [flatten_flatMap_blocks positive, hexdigest, opens.digested, opens.named]

theorem document_eq_ok_iff {nonces : Nat → Nonce} {content file : List UInt8}
    {contentHash : Option Text} :
    store.document aes sha256 nonces content contentHash = .ok file ↔
      ∃ frames, (blocks store.chunkSize content).zipIdx.mapM (fun entry =>
          store.frame aes (nonces entry.2) entry.1) = .ok frames ∧
        contentHash.elim (.ok (hexdigest sha256 content)) validateHash =
          .ok (hexdigest sha256 content) ∧
        content.length < 256 ^ 8 ∧
        magic ++ (sha256 content).bytes ++ beBytes 8 content.length ++ frames.flatten = file := by
  unfold document
  rw [Except.bind_eq_ok_iff]
  refine exists_congr fun frames => and_congr_right fun _ => ?_
  rw [Except.bind_eq_ok_iff]
  constructor
  · rintro ⟨supplied, validated, checked⟩
    split_ifs at checked with other
    push Not at other
    obtain ⟨header, packed, written⟩ := Except.bind_eq_ok_iff.mp checked
    unfold FileSystemDocumentStore.header at packed
    split_ifs at packed with fits
    refine ⟨other ▸ validated, fits, ?_⟩
    rw [Except.ok.inj packed]
    exact Except.ok.inj written
  · rintro ⟨validated, fits, written⟩
    refine ⟨_, validated, ?_⟩
    rw [if_neg (not_not.mpr rfl)]
    exact Except.bind_eq_ok_iff.mpr ⟨_, if_pos fits, congrArg Except.ok written⟩

/-- The file that `put` writes holds the blocks of the content. -/
theorem opens_document {nonces : Nat → Nonce} {content file : List UInt8}
    {contentHash : Option Text}
    (written : store.document aes sha256 nonces content contentHash = .ok file) :
    Opens aes sha256 store file (hexdigest sha256 content) (blocks store.chunkSize content) := by
  obtain ⟨frames, framed, _, fits, rfl⟩ := document_eq_ok_iff.mp written
  have positive : 0 < store.chunkSize := store.accepted.1
  have sizes : magic.length = 8 ∧ (sha256 content).bytes.length = 32 ∧
      (beBytes 8 content.length).length = 8 := ⟨rfl, (sha256 content).sized, length_beBytes 8 _⟩
  have front : (magic ++ (sha256 content).bytes).length = 40 := by
    rw [List.length_append, sizes.1, sizes.2.1]
  have header : (magic ++ (sha256 content).bytes ++ beBytes 8 content.length).length =
      headerSize := by
    rw [List.length_append, front, sizes.2.2]
    rfl
  have digest : ((magic ++ (sha256 content).bytes ++ beBytes 8 content.length ++
      frames.flatten).drop 8).take 32 = (sha256 content).bytes := by
    rw [List.append_assoc, List.append_assoc, List.drop_left' sizes.1, List.take_left' sizes.2.1]
  have entries := mapM_eq_ok_iff.mp framed
  have paired : List.Forall₂ (fun block frame => ∃ nonce, store.frame aes nonce block = .ok frame)
      (blocks store.chunkSize content) frames := by
    rw [← List.zipIdx_map_fst 0 (blocks store.chunkSize content), List.forall₂_map_left_iff]
    exact entries.imp fun entry _ framed => ⟨nonces entry.2, framed⟩
  have together : (blocks store.chunkSize content).flatten = content := flatten_blocks positive _
  constructor
  · rw [List.length_append, header]
    exact Nat.le_add_right _ _
  · rw [List.append_assoc, List.append_assoc, List.take_left' sizes.1]
  · rw [digest]
    rfl
  · rw [List.drop_left' header]
    refine readFrames_flatten paired (fun block member => (mem_blocks positive member).1) ?_
    have filled : ∀ size ∈ frames.map List.length, 1 ≤ size := by
      intro size member
      obtain ⟨frame, listed, rfl⟩ := List.mem_map.mp member
      obtain ⟨block, _, nonce, framed⟩ := (forall₂_exists paired).2 frame listed
      rw [(frame_eq_ok_iff.mp framed).2, List.length_append, length_beBytes]
      exact Nat.le_add_right_of_le (by decide)
    calc frames.length
      _ = (frames.map List.length).length := (List.length_map _).symm
      _ ≤ (frames.map List.length).sum := List.length_le_sum_of_one_le _ filled
      _ = frames.flatten.length := List.length_flatten.symm
      _ ≤ _ := by
        rw [List.length_append]
        exact Nat.le_add_left _ _
  · rw [together, List.append_assoc (_ ++ _), List.drop_left' front, List.take_left' sizes.2.2,
      beValue_beBytes fits]
  · rw [digest, together]

/-- Whether a block of the content becomes too long a frame. -/
theorem document_returns_iff (sized : ∀ key nonce plaintext associated,
    (aes.encrypt key nonce plaintext associated).length = plaintext.length + 16)
    {nonces : Nat → Nonce} {content : List UInt8} {contentHash : Option Text}
    (supplied : contentHash.elim (.ok (hexdigest sha256 content)) validateHash =
      .ok (hexdigest sha256 content)) :
    (∃ file, store.document aes sha256 nonces content contentHash = .ok file) ↔
      (content = [] ∨
        store.frameLength (min store.chunkSize content.length) ≤ maxFrameBytes) ∧
      content.length < 256 ^ 8 := by
  have positive : 0 < store.chunkSize := store.accepted.1
  have returns : (∃ frames, (blocks store.chunkSize content).zipIdx.mapM (fun entry =>
      store.frame aes (nonces entry.2) entry.1) = .ok frames) ↔
      content = [] ∨ store.frameLength (min store.chunkSize content.length) ≤ maxFrameBytes := by
    rw [mapM_returns_iff]
    constructor
    · intro framed
      by_cases empty : content = []
      · exact Or.inl empty
      · right
        have first : content.take store.chunkSize ∈ blocks store.chunkSize content :=
          take_mem_blocks empty
        rw [← List.zipIdx_map_fst 0 (blocks store.chunkSize content)] at first
        obtain ⟨entry, listed, same⟩ := List.mem_map.mp first
        obtain ⟨frame, written⟩ := framed entry listed
        have short := (frame_eq_ok_iff.mp written).1
        rwa [length_encoded sized, same, List.length_take] at short
    · rintro fits ⟨block, index⟩ listed
      have member : block ∈ blocks store.chunkSize content := by
        rw [← List.zipIdx_map_fst 0 (blocks store.chunkSize content)]
        exact List.mem_map_of_mem listed
      rcases fits with rfl | fits
      · cases member
      · refine ⟨_, frame_eq_ok_iff.mpr ⟨?_, rfl⟩⟩
        rw [length_encoded sized]
        exact (frameLength_mono store (mem_blocks positive member).2).trans fits
  constructor
  · rintro ⟨file, written⟩
    obtain ⟨frames, framed, _, fits, _⟩ := document_eq_ok_iff.mp written
    exact ⟨returns.mp ⟨frames, framed⟩, fits⟩
  · rintro ⟨framed, fits⟩
    obtain ⟨frames, framed⟩ := returns.mpr framed
    exact ⟨_, document_eq_ok_iff.mpr ⟨frames, framed, supplied, fits, rfl⟩⟩

/-! ## Hashes -/

/-- The hexadecimal digits of a number below 16. -/
theorem digitChar_spec : ∀ n < 16, Nat.digitChar n ∈ "0123456789abcdef".toList ∧
    ∀ m < 16, Nat.digitChar n = Nat.digitChar m → n = m := by
  decide

theorem length_hexText (data : List UInt8) : (hexText data).length = 2 * data.length := by
  induction data with
  | nil => rfl
  | cons byte data ih =>
    rw [hexText, List.flatMap_cons, List.length_append, ← hexText, ih, List.length_cons]
    simp only [List.length_cons, List.length_nil]
    omega

theorem hexText_inj {data other : List UInt8} (same : hexText data = hexText other) :
    data = other := by
  induction data generalizing other with
  | nil =>
    have empty := congrArg List.length same
    rw [length_hexText, length_hexText, List.length_nil] at empty
    exact (List.length_eq_zero_iff.mp (by omega)).symm
  | cons byte data ih =>
    cases other with
    | nil =>
      have empty := congrArg List.length same
      rw [length_hexText, length_hexText, List.length_cons, List.length_nil] at empty
      omega
    | cons byte' other =>
      simp only [hexText, List.flatMap_cons, List.cons_append, List.nil_append,
        List.cons.injEq] at same
      obtain ⟨high, low, rest⟩ := same
      have bound := byte.toNat_lt
      have bound' := byte'.toNat_lt
      have high := (digitChar_spec _ (by omega)).2 _ (by omega) high
      have low := (digitChar_spec _ (by omega)).2 _ (by omega) low
      rw [ih rest, UInt8.toNat_inj.mp (show byte.toNat = byte'.toNat by omega)]

/-- A digest is a hash of the form the store takes. -/
theorem validateHash_hexdigest (sha256 : List UInt8 → Digest) (content : List UInt8) :
    validateHash (hexdigest sha256 content) = .ok (hexdigest sha256 content) := by
  have length : (hexdigest sha256 content).length = hashHexLength := by
    rw [hexdigest, length_hexText, (sha256 content).sized]
    rfl
  refine if_neg (not_or.mpr ⟨not_not.mpr length, ?_⟩)
  rw [List.any_eq_true]
  rintro ⟨c, member, outside⟩
  obtain ⟨byte, _, listed⟩ := List.mem_flatMap.mp member
  have bound := byte.toNat_lt
  have inside : c ∈ "0123456789abcdef".toList := by
    simp only [List.mem_cons, List.not_mem_nil, or_false] at listed
    rcases listed with rfl | rfl
    · exact (digitChar_spec _ (by omega)).1
    · exact (digitChar_spec _ (by omega)).1
  rw [List.contains_iff_mem.mpr inside] at outside
  cases outside

/-- The key of a digest is the one its hash is read from. -/
theorem hashFromKey_hexdigest (sha256 : List UInt8 → Digest) (content : List UInt8) :
    hashFromKey ("sha256/".toList ++ hexdigest sha256 content) =
      .ok (hexdigest sha256 content) := by
  have named : "sha256/".toList.isPrefixOf ("sha256/".toList ++ hexdigest sha256 content) = true :=
    List.isPrefixOf_iff_prefix.mpr (List.prefix_append _ _)
  unfold hashFromKey
  rw [if_pos named, List.drop_left' (show "sha256/".toList.length = 7 from rfl),
    validateHash_hexdigest]
  rfl

/-- A key is the prefix and the hash read from it. -/
theorem eq_of_hashFromKey {storageKey hash : Text} (read : hashFromKey storageKey = .ok hash) :
    storageKey = "sha256/".toList ++ hash := by
  unfold hashFromKey at read
  split_ifs at read with named
  obtain ⟨rest, rfl⟩ := List.isPrefixOf_iff_prefix.mp named
  rw [List.drop_left' (show "sha256/".toList.length = 7 from rfl),
    Except.mapError_eq_ok_iff] at read
  unfold validateHash at read
  split_ifs at read
  rw [Except.ok.inj read]

/-! ## Puts and reads -/

/-- The file at the hash of a content is one that can be read. -/
def Stored (aes : Aesgcm) (sha256 : List UInt8 → Digest) (store : FileSystemDocumentStore)
    (files : Files) (content : List UInt8) : Prop :=
  ∃ file, files (hexdigest sha256 content) = some file ∧
    store.isValidExisting aes sha256 file (hexdigest sha256 content) = true

theorem isValidExisting_iff {file : List UInt8} {expectedHash : Text} :
    store.isValidExisting aes sha256 file expectedHash = true ↔
      ∃ plaintexts, Opens aes sha256 store file expectedHash plaintexts := by
  unfold isValidExisting
  constructor
  · intro valid
    cases read : store.iterFile aes sha256 file expectedHash store.chunkSize with
    | error error =>
      rw [read] at valid
      cases valid
    | ok parts =>
      obtain ⟨plaintexts, opens, _⟩ := iterFile_eq_ok_iff.mp read
      exact ⟨plaintexts, opens⟩
  · rintro ⟨plaintexts, opens⟩
    rw [iterFile_eq_ok_iff.mpr ⟨plaintexts, opens, rfl⟩]
    rfl

theorem contentAddressedKey_hexdigest (content : List UInt8) :
    contentAddressedKey (hexdigest sha256 content) =
      .ok ("sha256/".toList ++ hexdigest sha256 content) :=
  Except.bind_eq_ok_iff.mpr ⟨_, validateHash_hexdigest sha256 content, rfl⟩

/-- `put` succeeds if the file is made, and then the content is stored. -/
theorem put_of_document {files : Files} {nonces : Nat → Nonce} {content file : List UInt8}
    {contentHash : Option Text}
    (written : store.document aes sha256 nonces content contentHash = .ok file) :
    (store.put aes sha256 files nonces content contentHash).1 =
        .ok ("sha256/".toList ++ hexdigest sha256 content) ∧
      Stored aes sha256 store (store.put aes sha256 files nonces content contentHash).2 content := by
  unfold put
  simp only [written, contentAddressedKey_hexdigest]
  by_cases valid : ((files (hexdigest sha256 content)).any fun existing =>
      store.isValidExisting aes sha256 existing (hexdigest sha256 content)) = true
  · rw [if_pos valid]
    obtain ⟨existing, found, opens⟩ := (Option.any_eq_true _ _).mp valid
    exact ⟨rfl, existing, found, opens⟩
  · rw [if_neg valid]
    exact ⟨rfl, file, Function.update_self _ _ _,
      isValidExisting_iff.mpr ⟨_, opens_document written⟩⟩

/-- `put` leaves alone what is stored. -/
theorem put_of_stored {files : Files} {content : List UInt8}
    (stored : Stored aes sha256 store files content) (call : PutCall) :
    Stored aes sha256 store
      (store.put aes sha256 files call.nonces call.content call.contentHash).2 content := by
  obtain ⟨file, found, valid⟩ := stored
  unfold put
  cases store.document aes sha256 call.nonces call.content call.contentHash with
  | error error => exact ⟨file, found, valid⟩
  | ok written =>
    by_cases same : hexdigest sha256 call.content = hexdigest sha256 content
    · simp only [same, found, Option.any_some, valid, if_true]
      exact ⟨file, found, valid⟩
    · dsimp only
      split_ifs
      · exact ⟨file, found, valid⟩
      · refine ⟨file, ?_, valid⟩
        exact (Function.update_of_ne (Ne.symm same) _ _).trans found

/-- What is stored stays so. -/
theorem stored_afterPuts {files : Files} {content : List UInt8}
    (stored : Stored aes sha256 store files content) (calls : List PutCall) :
    Stored aes sha256 store (store.afterPuts aes sha256 files calls) content := by
  unfold afterPuts
  induction calls generalizing files with
  | nil => exact stored
  | cons call calls ih => exact ih (put_of_stored stored call)

/-- A stored content is what a read returns, if no other content has its digest. -/
theorem stream_of_stored {files : Files} {content : List UInt8}
    (unique : ∀ other, sha256 other = sha256 content → other = content)
    (stored : Stored aes sha256 store files content) {chunkSize : Nat}
    (accepted : 1 ≤ chunkSize ∧ chunkSize ≤ maxFrameBytes) :
    ∃ parts, store.stream aes sha256 files ("sha256/".toList ++ hexdigest sha256 content)
      chunkSize = .ok parts ∧ parts.flatten = content := by
  obtain ⟨file, found, valid⟩ := stored
  obtain ⟨plaintexts, opens⟩ := isValidExisting_iff.mp valid
  have read : store.iterFile aes sha256 file (hexdigest sha256 content) chunkSize =
      .ok (plaintexts.flatMap (blocks chunkSize)) :=
    iterFile_eq_ok_iff.mpr ⟨plaintexts, opens, rfl⟩
  refine ⟨plaintexts.flatMap (blocks chunkSize), ?_, ?_⟩
  · unfold stream
    rw [if_neg (not_not.mpr accepted)]
    refine Except.bind_eq_ok_iff.mpr ⟨_, hashFromKey_hexdigest sha256 content, ?_⟩
    simp only [found, read]
  · apply unique
    have bytes := hexText_inj (hexdigest_of_iterFile accepted.1 read)
    cases left : sha256 (plaintexts.flatMap (blocks chunkSize)).flatten
    cases right : sha256 content
    rw [left, right] at bytes
    exact (Digest.mk.injEq _ _ _ _).mpr bytes

/-- What a read returns has the digest that its key names. -/
theorem key_of_stream {files : Files} {storageKey : Text} {chunkSize : Nat}
    {parts : List (List UInt8)}
    (read : store.stream aes sha256 files storageKey chunkSize = .ok parts) :
    storageKey = "sha256/".toList ++ hexdigest sha256 parts.flatten := by
  unfold stream at read
  by_cases accepted : 1 ≤ chunkSize ∧ chunkSize ≤ maxFrameBytes
  · rw [if_neg (not_not.mpr accepted)] at read
    obtain ⟨hash, named, read⟩ := Except.bind_eq_ok_iff.mp read
    cases found : files hash with
    | none =>
      rw [found] at read
      cases read
    | some file =>
      rw [found] at read
      rw [hexdigest_of_iterFile accepted.1 read]
      exact eq_of_hashFromKey named
  · rw [if_pos accepted] at read
    cases read

theorem get_eq_ok_iff {files : Files} {storageKey : Text} {content : List UInt8} :
    store.get aes sha256 files storageKey = .ok content ↔
      ∃ parts, store.stream aes sha256 files storageKey defaultChunkSize = .ok parts ∧
        parts.flatten = content := by
  unfold get
  cases store.stream aes sha256 files storageKey defaultChunkSize with
  | error error => exact ⟨nofun, nofun⟩
  | ok parts => simp [Functor.map, Except.map]

/-- A `put` that succeeds has made the file. -/
theorem document_of_put {files : Files} {nonces : Nat → Nonce} {content : List UInt8}
    {contentHash : Option Text} {storageKey : Text}
    (returned : (store.put aes sha256 files nonces content contentHash).1 = .ok storageKey) :
    ∃ file, store.document aes sha256 nonces content contentHash = .ok file := by
  unfold put at returned
  cases written : store.document aes sha256 nonces content contentHash with
  | error error =>
    rw [written] at returned
    cases returned
  | ok file => exact ⟨file, rfl⟩

/-- No hash supplied, or the right one, passes the check. -/
theorem supplied_right {sha256 : List UInt8 → Digest} {content : List UInt8}
    {contentHash : Option Text}
    (right : contentHash = none ∨ contentHash = some (hexdigest sha256 content)) :
    contentHash.elim (.ok (hexdigest sha256 content)) validateHash =
      .ok (hexdigest sha256 content) := by
  rcases right with rfl | rfl
  · rfl
  · exact validateHash_hexdigest sha256 content

/-- A first block that makes too long a frame is refused. -/
theorem put_oversized (sized : ∀ key nonce plaintext associated,
    (aes.encrypt key nonce plaintext associated).length = plaintext.length + 16)
    {content : List UInt8} (nonempty : content ≠ [])
    (long : maxFrameBytes < store.frameLength (min store.chunkSize content.length))
    (files : Files) (nonces : Nat → Nonce) (contentHash : Option Text) :
    store.put aes sha256 files nonces content contentHash =
      (.error (.storageUnavailable "Document encryption produced an oversized frame.".toList),
        files) := by
  obtain ⟨byte, rest, rfl⟩ := List.exists_cons_of_ne_nil nonempty
  have refused : store.frame aes (nonces 0) ((byte :: rest).take store.chunkSize) =
      .error (.storageUnavailable "Document encryption produced an oversized frame.".toList) := by
    unfold FileSystemDocumentStore.frame
    rw [if_pos]
    rwa [length_encoded sized, List.length_take]
  have made : store.document aes sha256 nonces (byte :: rest) contentHash =
      .error (.storageUnavailable "Document encryption produced an oversized frame.".toList) := by
    unfold document blocks
    rw [List.length_cons, blocksFrom, if_neg (by simp), List.zipIdx_cons, List.mapM_cons, refused]
    rfl
  unfold put
  rw [made]

/-- What is put is read back: at any files, with no hash or the right one supplied, `put` returns a
    key, and after any further puts each read of it returns the content. -/
def RoundTrip (aes : Aesgcm) (sha256 : List UInt8 → Digest) (store : FileSystemDocumentStore)
    (content : List UInt8) : Prop :=
  ∀ (files : Files) (nonces : Nat → Nonce) (contentHash : Option Text),
    contentHash = none ∨ contentHash = some (hexdigest sha256 content) →
    ∃ storageKey, (store.put aes sha256 files nonces content contentHash).1 = .ok storageKey ∧
      ∀ calls : List PutCall,
        let later := store.afterPuts aes sha256
          (store.put aes sha256 files nonces content contentHash).2 calls
        store.get aes sha256 later storageKey = .ok content ∧
        ∀ chunkSize, 1 ≤ chunkSize → chunkSize ≤ maxFrameBytes →
          ∃ parts, store.stream aes sha256 later storageKey chunkSize = .ok parts ∧
            parts.flatten = content

/-- Exactly the contents whose longest block makes a frame that the store takes are read back, for
    the chunk size of the store; and whatever the files hold, a read returns bytes of the digest
    that the key names. -/
theorem roundTrip_iff (aes : Aesgcm) (sha256 : List UInt8 → Digest)
    (store : FileSystemDocumentStore) (content : List UInt8)
    (sized : ∀ key nonce plaintext associated,
      (aes.encrypt key nonce plaintext associated).length = plaintext.length + 16)
    (unique : ∀ other, sha256 other = sha256 content → other = content) :
    (store.RoundTrip aes sha256 content ↔
      (content = [] ∨
        store.frameLength (min store.chunkSize content.length) ≤ maxFrameBytes) ∧
      content.length < 256 ^ 8) ∧
    ∀ (files : Files) (storageKey : Text),
      (∀ data, store.get aes sha256 files storageKey = .ok data →
        storageKey = "sha256/".toList ++ hexdigest sha256 data) ∧
      ∀ chunkSize parts, store.stream aes sha256 files storageKey chunkSize = .ok parts →
        storageKey = "sha256/".toList ++ hexdigest sha256 parts.flatten := by
  have returns {nonces : Nat → Nonce} {contentHash : Option Text}
      (right : contentHash = none ∨ contentHash = some (hexdigest sha256 content)) :=
    @document_returns_iff aes sha256 store sized nonces content contentHash (supplied_right right)
  refine ⟨⟨?_, ?_⟩, ?_⟩
  · intro trip
    obtain ⟨_, returned, _⟩ := trip (fun _ => none) (fun _ => ⟨List.replicate 12 0, rfl⟩) none
      (Or.inl rfl)
    exact (returns (Or.inl rfl)).mp (document_of_put returned)
  · intro fits files nonces contentHash right
    obtain ⟨file, written⟩ := (returns right).mpr fits
    obtain ⟨returned, stored⟩ := @put_of_document aes sha256 store files _ _ _ _ written
    refine ⟨_, returned, fun calls => ?_⟩
    have kept := stored_afterPuts stored calls
    refine ⟨get_eq_ok_iff.mpr (stream_of_stored unique kept (by decide)), ?_⟩
    intro chunkSize positive bounded
    exact stream_of_stored unique kept ⟨positive, bounded⟩
  · intro files storageKey
    refine ⟨fun data read => ?_, fun _ _ read => key_of_stream read⟩
    obtain ⟨parts, streamed, rfl⟩ := get_eq_ok_iff.mp read
    exact key_of_stream streamed

/-! ## Samples -/

/-- The text `YWJj` under the key `old`. -/
def sampleBlock : KnownEncryption where
  key := List.replicate 32 1
  nonce := List.replicate 12 2
  plaintext := asciiBytes "YWJj".toList
  associated := asciiBytes "covenant-radar/field-encryption/v1:old".toList
  ciphertext := [94, 129, 131, 35, 33, 91, 163, 159, 19, 98, 1, 132, 93, 215, 106, 227, 14, 65,
    134, 59]
  tagged := by decide
  signed := by decide

theorem length_sampleBlock (key nonce plaintext associated : List UInt8) :
    ((knownAesgcm sampleBlock).encrypt key nonce plaintext associated).length =
      plaintext.length + 16 := by
  show (knownEncrypt sampleBlock key nonce plaintext associated).length = _
  unfold knownEncrypt
  split_ifs with same
  · rw [(Prod.mk.inj (Prod.mk.inj (Prod.mk.inj same).2).2).1]
    rfl
  · rw [List.length_append, List.length_replicate]

/-- The digest of `abc`. -/
def abcDigest : List UInt8 :=
  [186, 120, 22, 191, 143, 1, 207, 234, 65, 65, 64, 222, 93, 174, 34, 35, 176, 3, 97, 163, 150, 23,
    122, 156, 180, 16, 255, 97, 242, 0, 21, 173]

theorem length_abcDigest : abcDigest.length = 32 := rfl

theorem length_zeros : (List.replicate 32 (0 : UInt8)).length = 32 := rfl

/-- SHA-256 as far as the digest of `abc` is known. -/
def abcSha256 (data : List UInt8) : Digest :=
  if data = [97, 98, 99] then ⟨abcDigest, length_abcDigest⟩
  else ⟨List.replicate 32 0, length_zeros⟩

theorem abcSha256_unique (other : List UInt8) (same : abcSha256 other = abcSha256 [97, 98, 99]) :
    other = [97, 98, 99] := by
  by_contra different
  unfold abcSha256 at same
  rw [if_neg different, if_pos rfl] at same
  exact absurd (congrArg Digest.bytes same) (by decide)

/-- A store of this chunk size, under the key `old`. -/
def sampleStore (chunkSize : Nat) (accepted : 1 ≤ chunkSize ∧ chunkSize ≤ maxFrameBytes) :
    FileSystemDocumentStore := ⟨oldRing, chunkSize, accepted⟩

/-- With the default chunk size, `abc` is read back. -/
theorem roundTrip_abc :
    (sampleStore defaultChunkSize (by decide)).RoundTrip (knownAesgcm sampleBlock) abcSha256
      [97, 98, 99] :=
  (roundTrip_iff (knownAesgcm sampleBlock) abcSha256 (sampleStore defaultChunkSize (by decide))
    [97, 98, 99] length_sampleBlock abcSha256_unique).1.mpr ⟨Or.inr (by decide), by decide⟩

/-- The constructor takes a chunk of eight megabytes, and `put` refuses the frame that it makes. -/
theorem eightMegabytes_refused :
    (¬ ∃ sha256 files nonces contentHash storageKey,
      ((sampleStore maxFrameBytes (by decide)).put (knownAesgcm sampleBlock) sha256 files nonces
        (List.replicate maxFrameBytes 0) contentHash).1 = .ok storageKey) ∧
    ¬ ∃ sha256, (sampleStore maxFrameBytes (by decide)).RoundTrip (knownAesgcm sampleBlock) sha256
      (List.replicate maxFrameBytes 0) := by
  have refused : ¬ ∃ sha256 files nonces contentHash storageKey,
      ((sampleStore maxFrameBytes (by decide)).put (knownAesgcm sampleBlock) sha256 files nonces
        (List.replicate maxFrameBytes 0) contentHash).1 = .ok storageKey := by
    rintro ⟨sha256, files, nonces, contentHash, storageKey, returned⟩
    rw [put_oversized length_sampleBlock] at returned
    · cases returned
    · exact List.ne_nil_of_length_pos (by rw [List.length_replicate]; decide)
    · rw [List.length_replicate]
      decide
  refine ⟨refused, ?_⟩
  rintro ⟨sha256, trip⟩
  obtain ⟨storageKey, returned, _⟩ := trip (fun _ => none) (fun _ => sampleNonce) none (Or.inl rfl)
  exact refused ⟨_, _, _, _, _, returned⟩

end FileSystemDocumentStore

end Documents

end CovenantRadar
