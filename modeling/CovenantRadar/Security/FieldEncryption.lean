import CovenantRadar.Core.DomainErrors
import CovenantRadar.Misc.Select
import CovenantRadar.Python.Base64

/-!
# Field encryption

Source `security/crypto.py`, `FieldEncryptor`: a text is stored as `cr1.<key-id>.<nonce>.<data>`,
its parts in URL-safe base64 without padding.
-/

namespace CovenantRadar

namespace Crypto

/-- `AESGCM`: what is encrypted under a key, a nonce and associated data is decrypted with them, and
    a tag of sixteen bytes follows the data. -/
structure Aesgcm where
  encrypt : List UInt8 → List UInt8 → List UInt8 → List UInt8 → List UInt8
  decrypt : List UInt8 → List UInt8 → List UInt8 → List UInt8 → Option (List UInt8)
  opens : ∀ key nonce plaintext associated,
    decrypt key nonce (encrypt key nonce plaintext associated) associated = some plaintext
  tagged : ∀ key nonce plaintext associated,
    16 ≤ (encrypt key nonce plaintext associated).length

/-- Source `_KEY_ID_PATTERN`. -/
def isKeyId (id : Text) : Bool :=
  match id with
  | [] => false
  | first :: rest =>
      first.isAlphanum && decide (rest.length ≤ 63) &&
        rest.all fun c => c.isAlphanum || (['_', '.', '-'] : List Char).contains c

/-- Source `FieldEncryptor`. -/
structure FieldEncryptor where
  keys : List (Text × List UInt8)
  activeKeyId : Text
  associatedData : List UInt8
  active : activeKeyId ∈ keys.map Prod.fst
  named : ∀ entry ∈ keys, isKeyId entry.1 = true
  sized : ∀ entry ∈ keys, entry.2.length = 32
  bound : associatedData ≠ []

/-- `random_secrets.token_bytes(12)`. -/
structure Nonce where
  bytes : List UInt8
  sized : bytes.length = 12

/-- `id.encode("ascii")`, of a text in ASCII. -/
def asciiBytes (text : Text) : List UInt8 := text.map fun c => UInt8.ofNat c.toNat

/-- `bytes.decode("ascii")`. -/
def decodeAscii (bytes : List UInt8) : Option Text :=
  if bytes.all fun b => decide (b.toNat < 128) then some (bytes.map fun b => Char.ofNat b.toNat)
  else none

/-- `ExternalServiceError(message)`. -/
def serviceError (message : Text) : DomainError := ⟨.externalServiceError, message, none⟩

/-- The text that carries a ciphertext. -/
def envelope (keyId : Text) (nonce ciphertext : List UInt8) : Text :=
  "cr1".toList ++ '.' :: (Base64.encode (asciiBytes keyId) ++ '.' ::
    (Base64.encode nonce ++ '.' :: Base64.encode ciphertext))

/-- The parts of an envelope behind its format. -/
def decodeParts (keyId nonce ciphertext : Text) :
    Option (Text × List UInt8 × List UInt8) := do
  let keyId ← (Base64.strictDecode keyId).bind decodeAscii
  let nonce ← Base64.strictDecode nonce
  let ciphertext ← Base64.strictDecode ciphertext
  return (keyId, nonce, ciphertext)

/-- Source `FieldEncryptor._parse`. -/
def parse (value : Text) : Except DomainError (Text × List UInt8 × List UInt8) :=
  match value.splitOn '.' with
  | [format, keyId, nonce, ciphertext] =>
      if format ≠ "cr1".toList then
        .error (serviceError "Encrypted value has an unsupported format.".toList)
      else
        match decodeParts keyId nonce ciphertext with
        | none => .error (serviceError "Encrypted value is malformed.".toList)
        | some parts =>
            if isKeyId parts.1 = false then
              .error (serviceError
                "Encrypted value contains an invalid key identifier.".toList)
            else if parts.2.1.length ≠ 12 ∨ parts.2.2.length < 16 then
              .error (serviceError "Encrypted value is malformed.".toList)
            else .ok parts
  | _ => .error (serviceError "Encrypted value has an unsupported format.".toList)

variable (aes : Aesgcm)

namespace FieldEncryptor

/-- The associated data of a key. -/
def associated (encryptor : FieldEncryptor) (keyId : Text) : List UInt8 :=
  encryptor.associatedData ++ UInt8.ofNat 58 :: asciiBytes keyId

/-- `self._keys[self._active_key_id]`. -/
def activeKey (encryptor : FieldEncryptor) : List UInt8 :=
  (dictGet encryptor.keys encryptor.activeKeyId).getD []

/-- Source `FieldEncryptor.encrypt`, of a text. -/
def encrypt (encryptor : FieldEncryptor) (nonce : Nonce) (value : Text) : Text :=
  envelope encryptor.activeKeyId nonce.bytes
    (aes.encrypt encryptor.activeKey nonce.bytes (utf8 value)
      (encryptor.associated encryptor.activeKeyId))

/-- Source `FieldEncryptor.decrypt`, of a text. -/
def decrypt (encryptor : FieldEncryptor) (value : Text) : Except DomainError Text := do
  let parts ← parse value
  match dictGet encryptor.keys parts.1 with
  | none =>
      .error (serviceError ("Encrypted value uses unknown key identifier ".toList ++
        Text.repr parts.1 ++ ".".toList))
  | some key =>
      match aes.decrypt key parts.2.1 parts.2.2 (encryptor.associated parts.1) with
      | none => .error (serviceError "Encrypted value failed authentication.".toList)
      | some plaintext =>
          match decodeUtf8 plaintext with
          | none => .error (serviceError "Encrypted value is not valid UTF-8 text.".toList)
          | some text => .ok text

/-- Source `FieldEncryptor.is_current`. -/
def isCurrent (encryptor : FieldEncryptor) (value : Text) : Except DomainError Bool := do
  let parts ← parse value
  return decide (parts.1 = encryptor.activeKeyId)

/-- Source `FieldEncryptor.reencrypt`, of a text. -/
def reencrypt (encryptor : FieldEncryptor) (nonce : Nonce) (value : Text) :
    Except DomainError Text := do
  if ← encryptor.isCurrent value then return value
  let plaintext ← encryptor.decrypt aes value
  return encryptor.encrypt aes nonce plaintext

end FieldEncryptor

/-! ## Reading back -/

theorem decodeAscii_asciiBytes {text : Text} (ascii : ∀ c ∈ text, c.toNat < 128) :
    decodeAscii (asciiBytes text) = some text := by
  have small : ∀ c ∈ text, (UInt8.ofNat c.toNat).toNat = c.toNat := by
    intro c listed
    exact UInt8.toNat_ofNat_of_lt' ((ascii c listed).trans (by decide))
  have all : (asciiBytes text).all (fun b => decide (b.toNat < 128)) = true := by
    rw [List.all_eq_true]
    intro b listed
    obtain ⟨c, present, rfl⟩ := List.mem_map.mp listed
    rw [small c present]
    exact decide_eq_true (ascii c present)
  unfold decodeAscii
  rw [if_pos all, asciiBytes, List.map_map]
  congr 1
  conv_rhs => rw [← List.map_id text]
  apply List.map_congr_left
  intro c listed
  simp [small c listed]

/-- A key identifier is not empty and is written in ASCII. -/
theorem ascii_of_isKeyId {id : Text} (valid : isKeyId id = true) :
    id ≠ [] ∧ ∀ c ∈ id, c.toNat < 128 := by
  have alphanum : ∀ c : Char, c.isAlphanum = true → c.toNat < 128 := by
    intro c ok
    simp only [Char.isAlphanum, Char.isAlpha, Char.isUpper, Char.isLower, Char.isDigit,
      Bool.or_eq_true, Bool.and_eq_true, decide_eq_true_eq] at ok
    rcases ok with (⟨_, high⟩ | ⟨_, high⟩) | ⟨_, high⟩
    all_goals
      have bound := UInt32.le_iff_toNat_le.mp high
      exact lt_of_le_of_lt bound (by decide)
  cases id with
  | nil => cases valid
  | cons first rest =>
    simp only [isKeyId, Bool.and_eq_true, List.all_eq_true] at valid
    refine ⟨List.cons_ne_nil _ _, fun c listed => ?_⟩
    rcases List.mem_cons.mp listed with rfl | later
    · exact alphanum _ valid.1.1
    · rcases Bool.or_eq_true _ _ ▸ valid.2 c later with letter | mark
      · exact alphanum c letter
      · simp only [List.contains_iff_mem, List.mem_cons, List.not_mem_nil, or_false] at mark
        rcases mark with rfl | rfl | rfl
        all_goals decide

/-- No part of an envelope has the mark that separates them. -/
theorem notMem_dot (data : List UInt8) : '.' ∉ Base64.encode data := fun member =>
  absurd (Base64.mem_alphabet member) (by decide)

theorem parse_envelope {keyId : Text} {nonce ciphertext : List UInt8}
    (valid : isKeyId keyId = true) (sized : nonce.length = 12) (tagged : 16 ≤ ciphertext.length) :
    parse (envelope keyId nonce ciphertext) = .ok (keyId, nonce, ciphertext) := by
  obtain ⟨nonempty, ascii⟩ := ascii_of_isKeyId valid
  have parts : (envelope keyId nonce ciphertext).splitOn '.' =
      ["cr1".toList, Base64.encode (asciiBytes keyId), Base64.encode nonce,
        Base64.encode ciphertext] := by
    unfold envelope
    rw [List.splitOn_append_cons_self_of_not_mem (by decide),
      List.splitOn_append_cons_self_of_not_mem (notMem_dot _),
      List.splitOn_append_cons_self_of_not_mem (notMem_dot _),
      List.splitOn_eq_singleton (notMem_dot _)]
  have idBytes : asciiBytes keyId ≠ [] := by simpa [asciiBytes] using nonempty
  have nonceBytes : nonce ≠ [] := by
    rintro rfl
    cases sized
  have dataBytes : ciphertext ≠ [] := by
    rintro rfl
    exact absurd tagged (by decide)
  have decoded : decodeParts (Base64.encode (asciiBytes keyId)) (Base64.encode nonce)
      (Base64.encode ciphertext) = some (keyId, nonce, ciphertext) := by
    simp [decodeParts, Base64.strictDecode_encode idBytes, Base64.strictDecode_encode nonceBytes,
      Base64.strictDecode_encode dataBytes, decodeAscii_asciiBytes ascii]
  unfold parse
  rw [parts]
  simp only [ne_eq, not_true_eq_false, if_false, decoded, valid, Bool.true_eq_false, sized,
    false_or, not_lt.mpr tagged]

namespace FieldEncryptor

variable {aes}

theorem activeKey_eq (encryptor : FieldEncryptor) :
    dictGet encryptor.keys encryptor.activeKeyId = some encryptor.activeKey := by
  obtain ⟨entry, listed, same⟩ := List.mem_map.mp encryptor.active
  cases found : dictGet encryptor.keys encryptor.activeKeyId with
  | some key => rw [activeKey, found, Option.getD_some]
  | none =>
    rw [dictGet, Option.map_eq_none_iff, List.find?_eq_none] at found
    exact absurd (decide_eq_true same) (found entry listed)

theorem isKeyId_active (encryptor : FieldEncryptor) : isKeyId encryptor.activeKeyId = true := by
  obtain ⟨entry, listed, same⟩ := List.mem_map.mp encryptor.active
  rw [← same]
  exact encryptor.named entry listed

theorem parse_encrypt (encryptor : FieldEncryptor) (nonce : Nonce) (value : Text) :
    parse (encryptor.encrypt aes nonce value) = .ok (encryptor.activeKeyId, nonce.bytes,
      aes.encrypt encryptor.activeKey nonce.bytes (utf8 value)
        (encryptor.associated encryptor.activeKeyId)) :=
  parse_envelope encryptor.isKeyId_active nonce.sized (aes.tagged _ _ _ _)

/-- What is encrypted is under the active key. -/
theorem isCurrent_encrypt (encryptor : FieldEncryptor) (nonce : Nonce) (value : Text) :
    encryptor.isCurrent (encryptor.encrypt aes nonce value) = .ok true := by
  simp [isCurrent, parse_encrypt, pure, Except.pure, bind, Except.bind]

/-- What is encrypted is decrypted. -/
theorem decrypt_encrypt (encryptor : FieldEncryptor) (nonce : Nonce) (value : Text) :
    encryptor.decrypt aes (encryptor.encrypt aes nonce value) = .ok value := by
  simp [decrypt, parse_encrypt, activeKey_eq, aes.opens, decodeUtf8_utf8, bind, Except.bind]

end FieldEncryptor

end Crypto

end CovenantRadar
