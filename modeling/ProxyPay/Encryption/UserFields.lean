import ProxyPay.Encryption.Payload

/-! Fields under the key of a user. They are read with the keys of the registry, and none of these is the key
of a user. -/

namespace ProxyPay.Encryption

open ProxyPay.Library

section

variable {runtime : Runtime} {environment : Environment} {value userId : Units} {iv : Bytes}

theorem encryptFieldForUser_eq (ideal : runtime.Ideal) (present : value ≠ []) :
    encryptFieldForUser runtime environment iv userId (some value) =
      .ok (some (serializePayload (encrypted runtime value (deriveUserKey runtime environment userId) iv))) := by
  obtain ⟨first, rest, rfl⟩ := List.exists_cons_of_ne_nil present
  simp only [encryptFieldForUser, deriveUserKey, encryptAES_eq ideal]
  rfl

theorem decryptFieldForUser_encrypted (reader : Units) (key : Bytes) :
    decryptFieldForUser runtime environment reader (some (serializePayload (encrypted runtime value key iv))) =
      (tryKeys (decryptAES runtime (encrypted runtime value key iv))
        (serializePayload (encrypted runtime value key iv)) (registeredKeys runtime environment)).map some := by
  have payload := @deserialize_encrypted runtime value key iv
  obtain ⟨first, rest, stored⟩ := List.exists_cons_of_ne_nil (@serialized_present runtime value key iv)
  rw [stored] at payload ⊢
  simp only [decryptFieldForUser, payload]
  rfl

theorem user_field_unread (ideal : runtime.Ideal) (full : iv.length = 12)
    (separated : ∀ keyMaterial other, deriveUserKey runtime environment other ≠ fieldKey runtime keyMaterial)
    (reader : Units) :
    decryptFieldForUser runtime environment reader
      (some (serializePayload (encrypted runtime value (deriveUserKey runtime environment userId) iv))) ≠
        .ok (some value) := by
  intro read
  have wrong : ∀ key ∈ registeredKeys runtime environment, ∃ message,
      decryptAES runtime (encrypted runtime value (deriveUserKey runtime environment userId) iv) key = .error message := by
    intro key member
    obtain ⟨entry, _, rfl⟩ := List.mem_map.mp member
    exact decryptAES_other ideal value (Ne.symm (separated entry.2 userId)) full
  rw [decryptFieldForUser_encrypted] at read
  obtain returned | ⟨message, thrown⟩ := tryKeys_missed wrong
  · rw [returned] at read
    exact serialized_ne ideal value _ iv (Option.some.inj (Except.ok.inj read))
  · rw [thrown] at read
    cases read

end

/-- What is encrypted for a user is read for this user and for no other. -/
def UserRoundTrip (runtime : Runtime) (environment : Environment) (value userId : Units) (iv : Bytes) : Prop :=
  ∃ raw, encryptFieldForUser runtime environment iv userId (some value) = .ok raw ∧
    decryptFieldForUser runtime environment userId raw = .ok (some value) ∧
      ∀ other, other ≠ userId → decryptFieldForUser runtime environment other raw ≠ .ok (some value)

/-- Nothing is read for the user for whom it was encrypted, nor for another one. -/
theorem user_round_trip_lost {runtime : Runtime} (ideal : runtime.Ideal) (environment : Environment)
    (separated : ∀ keyMaterial other, deriveUserKey runtime environment other ≠ fieldKey runtime keyMaterial)
    {value : Units} (present : value ≠ []) (userId : Units) {iv : Bytes} (full : iv.length = 12) :
    ¬UserRoundTrip runtime environment value userId iv ∧
      ∃ raw, encryptFieldForUser runtime environment iv userId (some value) = .ok raw ∧
        ∀ reader, decryptFieldForUser runtime environment reader raw ≠ .ok (some value) := by
  have stored := @encryptFieldForUser_eq runtime environment value userId iv ideal present
  have unread := @user_field_unread runtime environment value userId iv ideal full separated
  constructor
  · rintro ⟨raw, written, read, _⟩
    rw [stored] at written
    obtain rfl := Except.ok.inj written
    exact unread userId read
  · exact ⟨_, stored, unread⟩

theorem sample_separated (environment : Environment) (keyMaterial other : Units) :
    deriveUserKey .sample environment other ≠ fieldKey .sample keyMaterial := by
  intro same
  have user : (deriveUserKey .sample environment other)[4]? = some 117 := by
    have label : Utf8.encode "pii-user-" = [112, 105, 105, 45, 117, 115, 101, 114, 45] := by decide +kernel
    simp [deriveUserKey, deriveKey, Runtime.sample, utf8_append, label]
  have field : (fieldKey .sample keyMaterial)[4]? = some 101 := by
    have label : utf8 (Utf16.ofString "pii-encryption") =
        [112, 105, 105, 45, 101, 110, 99, 114, 121, 112, 116, 105, 111, 110] := by decide +kernel
    simp [fieldKey, deriveKey, Runtime.sample, label]
  rw [same, field] at user
  cases user

/-- One user, one key. -/
def address : Units := Utf16.ofString "456 Rue de la Paix"

theorem user_round_trip_lost_for_one : ¬UserRoundTrip .sample ⟨Utf16.ofString "master", []⟩ address
    (Utf16.ofString "user-123") (List.replicate 12 0) :=
  (user_round_trip_lost sample_ideal ⟨Utf16.ofString "master", []⟩ (sample_separated _) (by decide +kernel)
    (Utf16.ofString "user-123") rfl).1

theorem user_field_not_read : ¬∀ (runtime : Runtime) (environment : Environment) (value userId : Units) (iv : Bytes),
    runtime.Ideal →
    (∀ keyMaterial other, deriveUserKey runtime environment other ≠ fieldKey runtime keyMaterial) →
    value ≠ [] → iv.length = 12 → UserRoundTrip runtime environment value userId iv := by
  intro always
  obtain ⟨raw, stored, read, _⟩ := always .sample ⟨Utf16.ofString "master", []⟩ address (Utf16.ofString "user-123")
    (List.replicate 12 0) sample_ideal (sample_separated _) (by decide +kernel) rfl
  have thrown : ((encryptFieldForUser .sample ⟨Utf16.ofString "master", []⟩ (List.replicate 12 0)
      (Utf16.ofString "user-123") (some address)).bind fun raw =>
        decryptFieldForUser .sample ⟨Utf16.ofString "master", []⟩ (Utf16.ofString "user-123") raw).isOk = false := by
    decide +kernel
  rw [stored] at thrown
  simp [Except.bind, read, Except.isOk, Except.toBool] at thrown

end ProxyPay.Encryption
