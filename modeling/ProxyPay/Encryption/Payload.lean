import ProxyPay.Encryption.Fields

/-! What is encrypted, as it is stored, and which keys read it again. -/

namespace ProxyPay.Encryption

open ProxyPay.Library

/-- The runtime computes digests of 32 bytes, and a ciphertext of the length of its plaintext which it opens
with the key of the encryption only. Text in lower case stays as it is in lower case. -/
structure Runtime.Ideal (runtime : Runtime) : Prop where
  digest : ∀ key message, (runtime.hmac key message).length = 32
  length : ∀ key iv plaintext, (runtime.encipher key iv plaintext).2.length = plaintext.length
  accepted : ∀ key iv plaintext, iv.length = 12 → runtime.refusal iv (runtime.encipher key iv plaintext).1 = none
  opened : ∀ key iv plaintext,
    runtime.decipher key iv (runtime.encipher key iv plaintext).1 (runtime.encipher key iv plaintext).2 = some plaintext
  closed : ∀ key other iv plaintext, other ≠ key →
    runtime.decipher other iv (runtime.encipher key iv plaintext).1 (runtime.encipher key iv plaintext).2 = none
  lower : ∀ text, runtime.toLowerCase (runtime.toLowerCase text) = runtime.toLowerCase text

variable (bytes : Bytes)

theorem ofHex_hex : ofHex (hex bytes) = bytes := by
  rw [ofHex, hex, Utf16.toString_ofString, String.toList_ofList, Hex.decode_encode]

theorem colon_not_mem_hex : colon ∉ hex bytes := by
  intro member
  have inside : ':' ∈ (String.ofList (Hex.encode bytes)).toList :=
    Utf16.mem_of_unit_mem (by decide) member
  rw [String.toList_ofList] at inside
  exact absurd (Hex.digit_of_mem_encode inside) (by decide)

theorem double_le_length_hex : 2 * bytes.length ≤ (hex bytes).length := by
  have enough := Utf16.length_le_ofString (String.ofList (Hex.encode bytes))
  rw [String.toList_ofList, Hex.length_encode] at enough
  exact enough

theorem ofUtf8_utf8 {text : Units} : ofUtf8 (utf8 text) = text ↔ Utf16.IsWellFormed text := by
  rw [ofUtf8, utf8, Utf8.decode_encode]
  exact Utf16.ofString_toString

theorem utf8_append (text : String) (rest : Units) :
    utf8 (Utf16.ofString text ++ rest) = Utf8.encode text ++ utf8 rest := by
  rw [utf8, Utf16.toString_append, Utf8.encode_append]
  rfl

section

variable {runtime : Runtime}

/-- What `encryptAES` returns for a key of 32 bytes. -/
def encrypted (runtime : Runtime) (plaintext : Units) (key iv : Bytes) : EncryptedPayload :=
  ⟨hex iv, hex (runtime.encipher key iv (utf8 plaintext)).1, hex (runtime.encipher key iv (utf8 plaintext)).2⟩

/-! The parts of a stored payload. -/

section

variable (plaintext : Units) (key iv : Bytes)

theorem splitOn_encrypted : (serializePayload (encrypted runtime plaintext key iv)).splitOn colon =
    [(encrypted runtime plaintext key iv).iv, (encrypted runtime plaintext key iv).authTag,
      (encrypted runtime plaintext key iv).ciphertext] := by
  unfold serializePayload encrypted
  rw [List.splitOn_append_cons_self_of_not_mem (colon_not_mem_hex _),
    List.splitOn_append_cons_self_of_not_mem (colon_not_mem_hex _), List.splitOn_eq_singleton (colon_not_mem_hex _)]

theorem deserialize_encrypted : deserializePayload (serializePayload (encrypted runtime plaintext key iv)) =
    .ok (encrypted runtime plaintext key iv) := by
  unfold deserializePayload
  rw [splitOn_encrypted]
  rfl

theorem deserialize_prefixed (text : Units) :
    ∃ message, deserializePayload (text ++ colon :: serializePayload (encrypted runtime plaintext key iv)) =
      .error message := by
  obtain ⟨first, rest, parts⟩ := List.exists_cons_of_ne_nil (List.splitOn_ne_nil colon text)
  refine ⟨"Invalid encrypted payload format — expected iv:authTag:ciphertext", ?_⟩
  unfold deserializePayload
  rw [List.splitOn_append_cons_self, splitOn_encrypted, parts]
  rcases rest with _ | ⟨second, _ | ⟨third, _ | ⟨fourth, rest⟩⟩⟩ <;> rfl

theorem serialized_wellFormed : Utf16.IsWellFormed (serializePayload (encrypted runtime plaintext key iv)) := by
  refine ⟨String.ofList (Hex.encode iv) ++ (":" ++ (String.ofList (Hex.encode (runtime.encipher key iv
    (utf8 plaintext)).1) ++ (":" ++ String.ofList (Hex.encode (runtime.encipher key iv (utf8 plaintext)).2)))), ?_⟩
  simp only [Utf16.ofString_append]
  rfl

theorem serialized_present : serializePayload (encrypted runtime plaintext key iv) ≠ [] := by
  simp [serializePayload]

end

/-! Reading with a key. -/

variable (ideal : runtime.Ideal)

include ideal

theorem length_deriveKey (keyMaterial info : Units) : (deriveKey runtime keyMaterial info).length = 32 := by
  unfold deriveKey
  rw [List.length_take, ideal.digest]
  rfl

theorem encryptAES_eq (plaintext keyMaterial info : Units) (iv : Bytes) :
    encryptAES runtime plaintext (deriveKey runtime keyMaterial info) iv =
      .ok (encrypted runtime plaintext (deriveKey runtime keyMaterial info) iv) := by
  unfold encryptAES
  rw [if_neg (not_not_intro (length_deriveKey ideal keyMaterial info))]
  rfl

theorem decryptAES_same (plaintext keyMaterial info : Units) {iv : Bytes} (full : iv.length = 12) :
    decryptAES runtime (encrypted runtime plaintext (deriveKey runtime keyMaterial info) iv)
      (deriveKey runtime keyMaterial info) = .ok (ofUtf8 (utf8 plaintext)) := by
  unfold decryptAES encrypted
  rw [if_neg (not_not_intro (length_deriveKey ideal keyMaterial info))]
  simp only [ofHex_hex, ideal.accepted _ _ _ full, ideal.opened]
  rfl

theorem decryptAES_other (plaintext : Units) {key : Bytes} {keyMaterial info : Units}
    (other : deriveKey runtime keyMaterial info ≠ key) {iv : Bytes} (full : iv.length = 12) :
    ∃ message, decryptAES runtime (encrypted runtime plaintext key iv) (deriveKey runtime keyMaterial info) =
      .error message := by
  unfold decryptAES encrypted
  rw [if_neg (not_not_intro (length_deriveKey ideal keyMaterial info))]
  simp only [ofHex_hex, ideal.accepted _ _ _ full, ideal.closed _ _ _ _ other]
  exact ⟨_, rfl⟩

theorem length_lt_serialized {plaintext : Units} (wellFormed : Utf16.IsWellFormed plaintext) (key iv : Bytes) :
    plaintext.length < (serializePayload (encrypted runtime plaintext key iv)).length := by
  obtain ⟨characters, rfl⟩ := wellFormed
  have short := Utf16.length_ofString_le characters
  have long := double_le_length_hex (runtime.encipher key iv (utf8 (Utf16.ofString characters))).2
  rw [ideal.length] at long
  simp only [serializePayload, encrypted, utf8, Utf16.toString_ofString, List.length_append, List.length_cons] at long ⊢
  omega

theorem serialized_ne (plaintext : Units) (key iv : Bytes) :
    serializePayload (encrypted runtime plaintext key iv) ≠ plaintext := by
  intro same
  have wellFormed := @serialized_wellFormed runtime plaintext key iv
  rw [same] at wellFormed
  have longer := length_lt_serialized ideal wellFormed key iv
  rw [same] at longer
  exact Nat.lt_irrefl _ longer

end

/-! Reading with one key after the other. -/

section

variable {attempt : Bytes → Except String Units} {raw : Units} {keys : List Bytes}

theorem tryKeys_found {key : Bytes} {value : Units} (right : attempt key = .ok value)
    (wrong : ∀ other, other ∈ keys → other ≠ key → ∃ message, attempt other = .error message) (member : key ∈ keys) :
    tryKeys attempt raw keys = .ok value := by
  induction keys with
  | nil => cases member
  | cons first rest ih =>
    by_cases same : first = key
    · subst same
      cases rest with
      | nil => exact right
      | cons second rest =>
        unfold tryKeys
        rw [right]
        rfl
    · have later : key ∈ rest := (List.mem_cons.mp member).resolve_left (Ne.symm same)
      obtain ⟨message, failed⟩ := wrong first List.mem_cons_self same
      cases rest with
      | nil => cases later
      | cons second rest => simp_all [tryKeys]

theorem tryKeys_missed (wrong : ∀ key ∈ keys, ∃ message, attempt key = .error message) :
    tryKeys attempt raw keys = .ok raw ∨ ∃ message, tryKeys attempt raw keys = .error message := by
  induction keys with
  | nil => exact .inl rfl
  | cons first rest ih =>
    obtain ⟨message, failed⟩ := wrong first List.mem_cons_self
    cases rest with
    | nil => exact .inr ⟨message, failed⟩
    | cons second rest => simp_all [tryKeys]

end

/-- A runtime that marks a ciphertext with its key. -/
def Runtime.sample : Runtime where
  hmac key message := (message ++ List.replicate 16 0).take 16 ++ (key ++ List.replicate 16 0).take 16
  encipher key iv plaintext := (key ++ iv, plaintext)
  refusal _ _ := none
  decipher key iv authTag ciphertext := if authTag = key ++ iv then some ciphertext else none
  toLowerCase text := text.map fun unit => if 65 ≤ unit ∧ unit ≤ 90 then unit + 32 else unit
  entries text :=
    if text = Utf16.ofString "\x7b\"eu:1\":\"first key\"\x7d" then
      some [(Utf16.ofString "eu:1", Utf16.ofString "first key")]
    else none

theorem sample_ideal : Runtime.sample.Ideal where
  digest key message := by simp [Runtime.sample]
  length key iv plaintext := rfl
  accepted key iv plaintext _ := rfl
  opened key iv plaintext := if_pos rfl
  closed key other iv plaintext different := if_neg fun same => different (List.append_cancel_right same).symm
  lower text := by
    simp only [Runtime.sample, List.map_map]
    apply List.map_congr_left
    intro unit _
    simp only [Function.comp_apply, UInt16.le_iff_toNat_le]
    by_cases upper : UInt16.toNat 65 ≤ unit.toNat ∧ unit.toNat ≤ UInt16.toNat 90
    · grind [UInt16.toNat_add]
    · rw [if_neg upper, if_neg upper]

end ProxyPay.Encryption
