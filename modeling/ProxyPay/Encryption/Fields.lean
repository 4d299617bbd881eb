import ProxyPay.Library.Hex
import ProxyPay.Library.InsertionMap
import ProxyPay.Library.Utf16

/-! Encryption of fields with personal data: the registry of keys, fields under the global key, fields under
the key of a user, and the older `encrypt` and `decrypt`. Texts are UTF-16 code units. -/

namespace ProxyPay.Encryption

open ProxyPay.Library

abbrev Bytes := List UInt8

abbrev Units := List UInt16

/-- What the functions use of their runtime: HMAC-SHA-256; AES-256-GCM, which enciphers a plaintext to a tag and
a ciphertext, may refuse an initialisation vector or a tag, and deciphers a ciphertext or does not; lower case;
and the entries of the object that a JSON text is, if it is read without an exception. -/
structure Runtime where
  hmac : Bytes → Bytes → Bytes
  encipher : Bytes → Bytes → Bytes → Bytes × Bytes
  refusal : Bytes → Bytes → Option String
  decipher : Bytes → Bytes → Bytes → Bytes → Option Bytes
  toLowerCase : Units → Units
  entries : Units → Option (List (Units × Units))

/-- `env` and `process.env` -/
structure Environment where
  DB_ENCRYPTION_KEY : Units
  processEnv : List (Units × Units)

def Environment.get? (environment : Environment) (name : String) : Option Units :=
  (environment.processEnv.find? fun entry => entry.1 = Utf16.ofString name).map Prod.snd

def utf8 (text : Units) : Bytes :=
  Utf8.encode (Utf16.toString text)

def ofUtf8 (bytes : Bytes) : Units :=
  Utf16.ofString (Utf8.decode bytes)

def hex (bytes : Bytes) : Units :=
  Utf16.ofString (String.ofList (Hex.encode bytes))

def ofHex (text : Units) : Bytes :=
  Hex.decode (Utf16.toString text).toList

def colon : UInt16 := 58

structure EncryptedPayload where
  iv : Units
  authTag : Units
  ciphertext : Units
  deriving DecidableEq

def serializePayload (payload : EncryptedPayload) : Units :=
  payload.iv ++ colon :: (payload.authTag ++ colon :: payload.ciphertext)

def deserializePayload (raw : Units) : Except String EncryptedPayload :=
  match raw.splitOn colon with
  | [iv, authTag, ciphertext] => return ⟨iv, authTag, ciphertext⟩
  | _ => throw "Invalid encrypted payload format — expected iv:authTag:ciphertext"

def legacy : Units := Utf16.ofString "legacy"

def versionPrefix : Units := Utf16.ofString "DB_ENCRYPTION_KEY_"

section

variable (runtime : Runtime)

def deriveKey (keyMaterial : Units) (info : Units) : Bytes :=
  let prk := runtime.hmac (utf8 (Utf16.ofString "proxypay-hkdf-salt")) (utf8 keyMaterial)
  (runtime.hmac prk (utf8 info ++ [1])).take 32

/-- `deriveKey` with its default label -/
def fieldKey (keyMaterial : Units) : Bytes :=
  deriveKey runtime keyMaterial (Utf16.ofString "pii-encryption")

def encryptAES (plaintext : Units) (key iv : Bytes) : Except String EncryptedPayload :=
  if key.length ≠ 32 then throw "Encryption key must be exactly 32 bytes for AES-256-GCM"
  else
    let (authTag, ciphertext) := runtime.encipher key iv (utf8 plaintext)
    return ⟨hex iv, hex authTag, hex ciphertext⟩

def decryptAES (payload : EncryptedPayload) (key : Bytes) : Except String Units :=
  if key.length ≠ 32 then throw "Decryption key must be exactly 32 bytes for AES-256-GCM"
  else
    match runtime.refusal (ofHex payload.iv) (ofHex payload.authTag) with
    | some message => throw message
    | none =>
      match runtime.decipher key (ofHex payload.iv) (ofHex payload.authTag) (ofHex payload.ciphertext) with
      | some plaintext => return ofUtf8 plaintext
      | none =>
        throw ("PII decryption failed: authentication tag mismatch. " ++
          "The data may be corrupt or the wrong key was used.")

variable (environment : Environment)

def deriveUserKey (userId : Units) : Bytes :=
  deriveKey runtime environment.DB_ENCRYPTION_KEY (Utf16.ofString "pii-user-" ++ userId)

def getEncryptionKeys : InsertionMap Units Units :=
  let keys : InsertionMap Units Units :=
    if environment.DB_ENCRYPTION_KEY ≠ [] then InsertionMap.empty.set legacy environment.DB_ENCRYPTION_KEY
    else .empty
  let keys :=
    match (environment.get? "DB_ENCRYPTION_KEYS").filter (· ≠ []) with
    | none => keys
    | some text =>
      match runtime.entries text with
      | none => keys
      | some parsed => parsed.foldl (fun keys entry => keys.set (runtime.toLowerCase entry.1) entry.2) keys
  environment.processEnv.foldl (fun keys entry =>
    if versionPrefix.isPrefixOf entry.1 && entry.2 ≠ [] then
      keys.set (runtime.toLowerCase (entry.1.drop versionPrefix.length)) entry.2
    else keys) keys

/-- The version under which `encryptField` encrypts and its key material, if it is not the default. -/
def activeVersion : Option (Units × Units) :=
  let version := runtime.toLowerCase ((environment.get? "ACTIVE_ENCRYPTION_KEY_VERSION").getD [])
  if version ≠ [] ∧ version ≠ legacy then
    ((getEncryptionKeys runtime environment).get? version).map fun keyMaterial => (version, keyMaterial)
  else none

/-- `keys.get("legacy") || env.DB_ENCRYPTION_KEY` -/
def legacyMaterial : Units :=
  (((getEncryptionKeys runtime environment).get? legacy).filter (· ≠ [])).getD environment.DB_ENCRYPTION_KEY

/-- `iv` are the random bytes of the call. -/
def encryptField (iv : Bytes) : Option Units → Except String (Option Units)
  | none => return none
  | some [] => return some []
  | some value =>
    match activeVersion runtime environment with
    | some (version, keyMaterial) => do
      let encrypted ← encryptAES runtime value (fieldKey runtime keyMaterial) iv
      return some (version ++ colon :: serializePayload encrypted)
    | none => do
      let encrypted ← encryptAES runtime value (fieldKey runtime (legacyMaterial runtime environment)) iv
      return some (serializePayload encrypted)

/-- `try`, whose `catch` returns the raw text -/
def orRaw (raw : Units) : Except String Units → Units
  | .ok value => value
  | .error _ => raw

def decryptField : Option Units → Option Units
  | none => none
  | some [] => some []
  | some raw =>
    let parts := raw.splitOn colon
    let keys := getEncryptionKeys runtime environment
    let version := runtime.toLowerCase (parts.headD [])
    match if 4 ≤ parts.length then keys.get? version else none with
    | some keyMaterial =>
      some (orRaw raw do
        let payload ← deserializePayload ([colon].intercalate (parts.drop 1))
        decryptAES runtime payload (fieldKey runtime keyMaterial))
    | none =>
      some (orRaw raw do
        let payload ← deserializePayload raw
        decryptAES runtime payload (fieldKey runtime (legacyMaterial runtime environment)))

/-- The loops that try one key after the other; only the failure of the last one is thrown. -/
def tryKeys (attempt : Bytes → Except String Units) (raw : Units) : List Bytes → Except String Units
  | [] => return raw
  | [key] => attempt key
  | key :: keys =>
    match attempt key with
    | .ok value => return value
    | .error _ => tryKeys attempt raw keys

/-- The keys of all versions, in the order of the registry. -/
def registeredKeys : List Bytes :=
  (getEncryptionKeys runtime environment).entries.map fun entry => fieldKey runtime entry.2

def encryptFieldForUser (iv : Bytes) (userId : Units) : Option Units → Except String (Option Units)
  | none => return none
  | some [] => return some []
  | some value => do
    let encrypted ← encryptAES runtime value (deriveUserKey runtime environment userId) iv
    return some (serializePayload encrypted)

/-- The user of `userId` is not asked for. -/
def decryptFieldForUser (_userId : Units) : Option Units → Except String (Option Units)
  | none => return none
  | some [] => return some []
  | some raw => do
    let payload ← deserializePayload raw
    let value ← tryKeys (decryptAES runtime payload) raw (registeredKeys runtime environment)
    return some value

def DETERMINISTIC_IV : Bytes := List.replicate 12 0

def encrypt (random : Bytes) (deterministic : Bool) : Option Units → Option Units
  | none => none
  | some [] => some []
  | some text =>
    let iv := if deterministic then DETERMINISTIC_IV else random
    let (authTag, ciphertext) := runtime.encipher (fieldKey runtime environment.DB_ENCRYPTION_KEY) iv (utf8 text)
    some (hex iv ++ colon :: (hex authTag ++ colon :: hex ciphertext))

/-- One turn of the loop of `decrypt` -/
def decryptWith (iv authTag ciphertext key : Bytes) : Except String Units :=
  match runtime.refusal iv authTag, runtime.decipher key iv authTag ciphertext with
  | none, some plaintext => return ofUtf8 plaintext
  | _, _ => throw "PII decryption failed: authentication tag mismatch."

def decrypt : Option Units → Except String (Option Units)
  | none => return none
  | some encryptedData =>
    match encryptedData.splitOn colon with
    | [ivHex, authTagHex, ciphertextHex] => do
      let value ← tryKeys (decryptWith runtime (ofHex ivHex) (ofHex authTagHex) (ofHex ciphertextHex)) encryptedData
        (registeredKeys runtime environment)
      return some value
    | _ => return some encryptedData

end

end ProxyPay.Encryption
