import ProxyPay.Encryption.Payload

/-! Fields under the global key while keys are rotated. What was encrypted is read again as long as its key is
registered, but for a version whose name has a colon: its payload has too many parts and is returned as it is. -/

namespace ProxyPay.Encryption

open ProxyPay.Library

variable {runtime : Runtime} {earlier later environment : Environment} {value : Units} {iv : Bytes}

/-- The key material that `encryptField` used is still that of its version. -/
def Keeps (runtime : Runtime) (earlier later : Environment) : Prop :=
  match activeVersion runtime earlier with
  | some (version, keyMaterial) => (getEncryptionKeys runtime later).get? version = some keyMaterial
  | none => legacyMaterial runtime later = legacyMaterial runtime earlier

/-- What is encrypted before is read after. -/
structure Survives (runtime : Runtime) (earlier later : Environment) (value : Units) : Prop where
  field : ∀ iv : Bytes, iv.length = 12 → ∃ raw, encryptField runtime earlier iv (some value) = .ok (some raw) ∧
    decryptField runtime later (some raw) = some value ∧ decryptField runtime later (some raw) ≠ some raw
  legacy : ∀ (random : Bytes) (deterministic : Bool), random.length = 12 →
    decrypt runtime later (encrypt runtime earlier random deterministic (some value)) = .ok (some value)

/-- The value is text, the name of the version has no colon, and the key of `encrypt` is registered. -/
structure Readable (runtime : Runtime) (earlier later : Environment) (value : Units) : Prop where
  wellFormed : Utf16.IsWellFormed value
  plain : ∀ version keyMaterial, activeVersion runtime earlier = some (version, keyMaterial) → colon ∉ version
  registered : fieldKey runtime earlier.DB_ENCRYPTION_KEY ∈ registeredKeys runtime later

variable {version keyMaterial : Units}

theorem activeVersion_eq_some (active : activeVersion runtime environment = some (version, keyMaterial)) :
    (getEncryptionKeys runtime environment).get? version = some keyMaterial ∧
      ∃ name, version = runtime.toLowerCase name := by
  unfold activeVersion at active
  dsimp only at active
  split at active
  · obtain ⟨material, found, pair⟩ := Option.map_eq_some_iff.mp active
    obtain ⟨rfl, rfl⟩ := Prod.mk.inj pair
    exact ⟨found, _, rfl⟩
  · cases active

theorem Keeps.refl (runtime : Runtime) (environment : Environment) : Keeps runtime environment environment := by
  unfold Keeps
  split
  · rename_i active
    exact (activeVersion_eq_some active).1
  · rfl

/-! `encryptField` and `decryptField` -/

theorem encryptField_active (ideal : runtime.Ideal) (present : value ≠ [])
    (active : activeVersion runtime environment = some (version, keyMaterial)) :
    encryptField runtime environment iv (some value) =
      .ok (some (version ++ colon :: serializePayload (encrypted runtime value (fieldKey runtime keyMaterial) iv))) := by
  obtain ⟨first, rest, rfl⟩ := List.exists_cons_of_ne_nil present
  simp only [encryptField, active, fieldKey, encryptAES_eq ideal]
  rfl

theorem encryptField_legacy (ideal : runtime.Ideal) (present : value ≠ [])
    (active : activeVersion runtime environment = none) :
    encryptField runtime environment iv (some value) = .ok (some (serializePayload (encrypted runtime value
        (fieldKey runtime (legacyMaterial runtime environment)) iv))) := by
  obtain ⟨first, rest, rfl⟩ := List.exists_cons_of_ne_nil present
  simp only [encryptField, active, fieldKey, encryptAES_eq ideal]
  rfl

theorem decryptField_some {raw : Units} (present : raw ≠ []) : decryptField runtime environment (some raw) =
      match if 4 ≤ (raw.splitOn colon).length then
          (getEncryptionKeys runtime environment).get? (runtime.toLowerCase ((raw.splitOn colon).headD [])) else none with
      | some keyMaterial =>
        some (orRaw raw do
          let payload ← deserializePayload ([colon].intercalate ((raw.splitOn colon).drop 1))
          decryptAES runtime payload (fieldKey runtime keyMaterial))
      | none =>
        some (orRaw raw do
          let payload ← deserializePayload raw
          decryptAES runtime payload (fieldKey runtime (legacyMaterial runtime environment))) := by
  obtain ⟨first, rest, rfl⟩ := List.exists_cons_of_ne_nil present
  rfl

theorem decryptField_legacy (ideal : runtime.Ideal) (full : iv.length = 12) :
    decryptField runtime environment (some (serializePayload (encrypted runtime value
      (fieldKey runtime (legacyMaterial runtime environment)) iv))) = some (ofUtf8 (utf8 value)) := by
  rw [decryptField_some (serialized_present _ _ _), splitOn_encrypted, if_neg (by simp), deserialize_encrypted]
  change some (orRaw _ (decryptAES runtime (encrypted runtime value _ iv) _)) = _
  rw [fieldKey, decryptAES_same ideal value _ _ full]
  rfl

theorem decryptField_plain (ideal : runtime.Ideal) (full : iv.length = 12)
    (lower : runtime.toLowerCase version = version) (plain : colon ∉ version)
    (registered : (getEncryptionKeys runtime environment).get? version = some keyMaterial) :
    decryptField runtime environment (some (version ++ colon :: serializePayload
      (encrypted runtime value (fieldKey runtime keyMaterial) iv))) = some (ofUtf8 (utf8 value)) := by
  rw [decryptField_some (by simp), List.splitOn_append_cons_self_of_not_mem plain, if_pos (by simp [splitOn_encrypted]),
    List.headD_cons, lower, registered, List.drop_succ_cons, List.drop_zero, List.intercalate_splitOn]
  simp only [deserialize_encrypted]
  change some (orRaw _ (decryptAES runtime (encrypted runtime value _ iv) _)) = _
  rw [fieldKey, decryptAES_same ideal value _ _ full]
  rfl

theorem decryptField_parts (lost : colon ∈ version) (key : Bytes) :
    decryptField runtime environment (some (version ++ colon :: serializePayload (encrypted runtime value key iv))) =
      some (version ++ colon :: serializePayload (encrypted runtime value key iv)) := by
  obtain ⟨first, rest, rfl, plain⟩ := List.eq_append_cons_of_mem lost
  have whole : first ++ colon :: rest ++ colon :: serializePayload (encrypted runtime value key iv) =
      first ++ colon :: (rest ++ colon :: serializePayload (encrypted runtime value key iv)) := by simp
  obtain ⟨message, failed⟩ := @deserialize_prefixed runtime value key iv (first ++ colon :: rest)
  obtain ⟨other, short⟩ := @deserialize_prefixed runtime value key iv rest
  rw [decryptField_some (by simp)]
  split
  · rw [whole, List.splitOn_append_cons_self_of_not_mem plain, List.drop_succ_cons, List.drop_zero,
      List.intercalate_splitOn, short]
    rfl
  · rw [failed]
    rfl

/-! `encrypt` and `decrypt` -/

section

variable {key : Bytes}

theorem decryptWith_same (ideal : runtime.Ideal) (full : iv.length = 12) :
    decryptWith runtime (ofHex (encrypted runtime value key iv).iv) (ofHex (encrypted runtime value key iv).authTag)
      (ofHex (encrypted runtime value key iv).ciphertext) key = .ok (ofUtf8 (utf8 value)) := by
  simp only [decryptWith, encrypted, ofHex_hex, ideal.accepted _ _ _ full, ideal.opened]
  rfl

theorem decryptWith_other (ideal : runtime.Ideal) {other : Bytes} (different : other ≠ key) :
    decryptWith runtime (ofHex (encrypted runtime value key iv).iv) (ofHex (encrypted runtime value key iv).authTag)
      (ofHex (encrypted runtime value key iv).ciphertext) other =
        .error "PII decryption failed: authentication tag mismatch." := by
  simp only [decryptWith, encrypted, ofHex_hex, ideal.closed _ _ _ _ different]
  split
  · rename_i opened
    cases opened
  · rfl

theorem decrypt_encrypted : decrypt runtime environment (some (serializePayload (encrypted runtime value key iv))) =
    (tryKeys (decryptWith runtime (ofHex (encrypted runtime value key iv).iv)
      (ofHex (encrypted runtime value key iv).authTag) (ofHex (encrypted runtime value key iv).ciphertext))
      (serializePayload (encrypted runtime value key iv)) (registeredKeys runtime environment)).map some := by
  simp only [decrypt, splitOn_encrypted]
  rfl

theorem decrypt_eq (ideal : runtime.Ideal) (full : iv.length = 12) :
    decrypt runtime environment (some (serializePayload (encrypted runtime value key iv))) = .ok (some value) ↔
      Utf16.IsWellFormed value ∧ key ∈ registeredKeys runtime environment := by
  have wrong (other : Bytes) (different : other ≠ key) := @decryptWith_other runtime value iv key ideal other different
  rw [decrypt_encrypted]
  by_cases member : key ∈ registeredKeys runtime environment
  · have found := @tryKeys_found _ (serializePayload (encrypted runtime value key iv)) _ key _
      (@decryptWith_same runtime value iv key ideal full) (fun other _ different => ⟨_, wrong other different⟩) member
    rw [found]
    constructor
    · intro read
      exact ⟨ofUtf8_utf8.mp (Option.some.inj (Except.ok.inj read)), member⟩
    · rintro ⟨wellFormed, _⟩
      rw [ofUtf8_utf8.mpr wellFormed]
      rfl
  · constructor
    · intro read
      obtain returned | ⟨message, thrown⟩ := @tryKeys_missed _ (serializePayload (encrypted runtime value key iv)) _
        fun other there => ⟨_, wrong other fun same => member (same ▸ there)⟩
      · rw [returned] at read
        exact (serialized_ne ideal value key iv (Option.some.inj (Except.ok.inj read))).elim
      · rw [thrown] at read
        cases read
    · rintro ⟨_, registered⟩
      exact (member registered).elim

end

theorem encrypt_eq (present : value ≠ []) (random : Bytes) (deterministic : Bool) :
    encrypt runtime environment random deterministic (some value) =
      some (serializePayload (encrypted runtime value (fieldKey runtime environment.DB_ENCRYPTION_KEY)
        (if deterministic then DETERMINISTIC_IV else random))) := by
  obtain ⟨first, rest, rfl⟩ := List.exists_cons_of_ne_nil present
  rfl

/-! One rotation, and any number of them. -/

theorem survives_iff (ideal : runtime.Ideal) (present : value ≠ []) (keeps : Keeps runtime earlier later) :
    Survives runtime earlier later value ↔ Readable runtime earlier later value := by
  have initial (deterministic : Bool) (random : Bytes) (full : random.length = 12) :
      (if deterministic then DETERMINISTIC_IV else random).length = 12 := by
    cases deterministic with
    | true => rfl
    | false => exact full
  unfold Keeps at keeps
  constructor
  · intro survives
    have legacy := survives.legacy DETERMINISTIC_IV true rfl
    rw [encrypt_eq present, decrypt_eq ideal (initial true _ rfl)] at legacy
    refine ⟨legacy.1, ?_, legacy.2⟩
    intro version keyMaterial active lost
    obtain ⟨raw, stored, _, different⟩ := survives.field DETERMINISTIC_IV rfl
    rw [encryptField_active ideal present active] at stored
    cases Except.ok.inj stored
    exact different (decryptField_parts lost _)
  · intro readable
    constructor
    · intro iv full
      cases active : activeVersion runtime earlier with
      | none =>
        rw [active] at keeps
        refine ⟨_, encryptField_legacy ideal present active, ?_⟩
        rw [← keeps, decryptField_legacy ideal full, ofUtf8_utf8.mpr readable.wellFormed]
        exact ⟨rfl, fun same => serialized_ne ideal value _ iv (Option.some.inj same).symm⟩
      | some pair =>
        obtain ⟨version, keyMaterial⟩ := pair
        rw [active] at keeps
        obtain ⟨_, name, rfl⟩ := activeVersion_eq_some active
        refine ⟨_, encryptField_active ideal present active, ?_⟩
        rw [decryptField_plain ideal full (ideal.lower name) (readable.plain _ _ active) keeps,
          ofUtf8_utf8.mpr readable.wellFormed]
        refine ⟨rfl, fun same => ?_⟩
        have longer := length_lt_serialized ideal readable.wellFormed (fieldKey runtime keyMaterial) iv
        have length := congrArg List.length (Option.some.inj same)
        rw [List.length_append, List.length_cons] at length
        omega
    · intro random deterministic full
      rw [encrypt_eq present, decrypt_eq ideal (initial deterministic random full)]
      exact ⟨readable.wellFormed, readable.registered⟩

/-- A configuration and itself, or a later one. -/
def Onward (configurations : List Environment) (earlier later : Environment) : Prop :=
  ∃ first second : ℕ, first ≤ second ∧ configurations[first]? = some earlier ∧ configurations[second]? = some later

/-- Whatever is encrypted under a configuration of the sequence is read under all later ones exactly if it is
readable there. -/
theorem rotations_survived (ideal : runtime.Ideal) (present : value ≠ []) {configurations : List Environment}
    (kept : configurations.Pairwise (Keeps runtime)) :
    (∀ earlier later, Onward configurations earlier later → Survives runtime earlier later value) ↔
      ∀ earlier later, Onward configurations earlier later → Readable runtime earlier later value := by
  have keeps (earlier later : Environment) (onward : Onward configurations earlier later) :
      Keeps runtime earlier later := by
    obtain ⟨first, second, order, before, after⟩ := onward
    rcases Nat.eq_or_lt_of_le order with rfl | less
    · cases before.symm.trans after
      exact Keeps.refl runtime earlier
    · obtain ⟨firstBound, rfl⟩ := List.getElem?_eq_some_iff.mp before
      obtain ⟨secondBound, rfl⟩ := List.getElem?_eq_some_iff.mp after
      exact List.pairwise_iff_getElem.mp kept first second firstBound secondBound less
  constructor
  · intro survives earlier later onward
    exact (survives_iff ideal present (keeps earlier later onward)).mp (survives earlier later onward)
  · intro readable earlier later onward
    exact (survives_iff ideal present (keeps earlier later onward)).mpr (readable earlier later onward)

def entry (name value : String) : Units × Units :=
  (Utf16.ofString name, Utf16.ofString value)

/-- A second version takes over from the first one. -/
def beforeRotation : Environment where
  DB_ENCRYPTION_KEY := Utf16.ofString "master"
  processEnv := [entry "ACTIVE_ENCRYPTION_KEY_VERSION" "v1", entry "DB_ENCRYPTION_KEY_V1" "old"]

def afterRotation : Environment where
  DB_ENCRYPTION_KEY := Utf16.ofString "master"
  processEnv := [entry "ACTIVE_ENCRYPTION_KEY_VERSION" "V2", entry "DB_ENCRYPTION_KEY_V1" "old",
    entry "DB_ENCRYPTION_KEY_V2" "new"]

def payload : Units := Utf16.ofString "sensitive payload"

theorem rotation_survived_once : Survives .sample beforeRotation afterRotation payload := by
  have first : activeVersion .sample beforeRotation = some (Utf16.ofString "v1", Utf16.ofString "old") := by
    decide +kernel
  have second : activeVersion .sample afterRotation = some (Utf16.ofString "v2", Utf16.ofString "new") := by
    decide +kernel
  have kept : [beforeRotation, afterRotation].Pairwise (Keeps .sample) := by
    apply List.pairwise_pair.mpr
    unfold Keeps
    rw [first]
    decide +kernel
  have readable : ∀ earlier later, Onward [beforeRotation, afterRotation] earlier later →
      Readable .sample earlier later payload := by
    rintro earlier later ⟨before, after, _, source, target⟩
    have either (environment : Environment) (index : ℕ) (placed : [beforeRotation, afterRotation][index]? = some environment) :
        environment = beforeRotation ∨ environment = afterRotation := by
      simpa using List.mem_of_getElem? placed
    refine ⟨⟨_, rfl⟩, ?_, ?_⟩
    · intro version keyMaterial active
      rcases either earlier before source with rfl | rfl
      · rw [first] at active
        obtain ⟨rfl, rfl⟩ := Prod.mk.inj (Option.some.inj active)
        decide +kernel
      · rw [second] at active
        obtain ⟨rfl, rfl⟩ := Prod.mk.inj (Option.some.inj active)
        decide +kernel
    · rcases either earlier before source with rfl | rfl <;> rcases either later after target with rfl | rfl <;>
        decide +kernel
  exact (rotations_survived sample_ideal (by decide +kernel) kept).mpr readable beforeRotation afterRotation
    ⟨0, 1, by decide, rfl, rfl⟩

/-- A version whose name has a colon. -/
def regional : Environment where
  DB_ENCRYPTION_KEY := Utf16.ofString "master"
  processEnv := [entry "ACTIVE_ENCRYPTION_KEY_VERSION" "eu:1",
    entry "DB_ENCRYPTION_KEYS" "\x7b\"eu:1\":\"first key\"\x7d"]

theorem regional_not_survived : ¬∀ (runtime : Runtime) (configurations : List Environment) (value : Units),
    runtime.Ideal → configurations.Pairwise (Keeps runtime) → value ≠ [] →
    ∀ earlier later, Onward configurations earlier later → Survives runtime earlier later value := by
  intro always
  have survives := always .sample [regional] payload sample_ideal (List.pairwise_singleton _ _) (by decide +kernel)
    regional regional ⟨0, 0, by decide, rfl, rfl⟩
  obtain ⟨raw, stored, _, different⟩ := survives.field DETERMINISTIC_IV rfl
  have returned : (encryptField .sample regional DETERMINISTIC_IV (some payload)).map (decryptField .sample regional) =
      encryptField .sample regional DETERMINISTIC_IV (some payload) := by decide +kernel
  rw [stored] at returned
  exact different (Except.ok.inj returned)

end ProxyPay.Encryption
