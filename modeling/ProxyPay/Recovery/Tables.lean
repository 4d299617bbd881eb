import ProxyPay.Library.Rounding
import ProxyPay.Library.Fallible

/-! The tables of managed keys and their recovery, and the statements that the service issues.
A row that other tables refer to has its position as its id. -/

namespace ProxyPay.Recovery

open ProxyPay.Library

abbrev KeyId := Nat

abbrev SessionId := Nat

structure EncryptedPayload where
  ciphertext : String
  iv : String
  tag : String
  salt : String
  algorithm : String
  deriving DecidableEq

/-- AES-256-GCM under the master key; the randomness gives the salt and the IV. -/
structure KeyVault where
  encrypt : String → String → EncryptedPayload
  decrypt : EncryptedPayload → Except String String
  decrypt_encrypt : ∀ secret randomness, decrypt (encrypt secret randomness) = .ok secret

/-- What the service uses of the Stellar SDK, of `crypto`, of the database's address type and of the
configuration.
`publicKey` is the account id that belongs to a secret, and `verify` takes the public key, the
token and the signature in base64. -/
structure Platform where
  vault : KeyVault
  sessionTtlMinutes : Nat
  publicKey : String → String
  publicKey_fits : ∀ secret, (publicKey secret).length ≤ 56
  validPublicKey : String → Bool
  verify : String → String → String → Except String Bool
  sha256 : String → String
  isInet : String → Bool

structure ManagedKey where
  userId : String
  publicKey : Varchar 56
  encryptedSecret : EncryptedPayload
  recoveryThreshold : Int
  isActive : Bool
  deriving DecidableEq

structure RecoverySigner where
  managedKeyId : KeyId
  signerPublicKey : Varchar 56
  signerLabel : Varchar 100
  deriving DecidableEq

structure RecoveryToken where
  managedKeyId : KeyId
  tokenHash : Varchar 64
  signerPublicKey : Varchar 56
  expiresAt : Nat
  usedAt : Option Nat
  deriving DecidableEq

inductive RecoverySessionState where
  | pending
  | collectingApprovals
  | awaitingCompletion
  | completed
  | rejected
  deriving DecidableEq

namespace RecoverySessionState

def text : RecoverySessionState → String
  | .pending => "pending"
  | .collectingApprovals => "collecting_approvals"
  | .awaitingCompletion => "awaiting_completion"
  | .completed => "completed"
  | .rejected => "rejected"

def terminal : RecoverySessionState → Bool
  | .completed | .rejected => true
  | .pending | .collectingApprovals | .awaitingCompletion => false

end RecoverySessionState

structure RecoverySession where
  managedKeyId : KeyId
  requiredApprovals : Int
  state : RecoverySessionState
  approvedBy : List String
  requestedNewAddress : Option (Varchar 56)
  initiatedByIp : Option String
  expiresAt : Nat
  rejectedReason : Option String
  newPublicKey : Option (Varchar 56)
  oldPublicKey : Varchar 56
  deriving DecidableEq

/-- Times are in milliseconds. -/
structure Store where
  clock : Nat
  managedKeys : List ManagedKey
  recoverySigners : List RecoverySigner
  recoveryTokens : List RecoveryToken
  sessions : List RecoverySession
  deriving DecidableEq

def Store.empty : Store := ⟨0, [], [], [], []⟩

/-- The values of a new row of `managed_keys`. -/
structure KeyValues where
  userId : String
  publicKey : String
  encryptedSecret : EncryptedPayload
  recoveryThreshold : Int
  deriving DecidableEq

/-- The values of a new row of `key_recovery_sessions`. -/
structure SessionValues where
  managedKeyId : KeyId
  requiredApprovals : Int
  requestedNewAddress : Option String
  initiatedByIp : Option String
  expiresAt : Nat
  oldPublicKey : String
  deriving DecidableEq

/-- A row of `key_recovery_audit_log`. -/
structure AuditEntry where
  sessionId : SessionId
  eventType : String
  signerPublicKey : Option String
  fromState : Option RecoverySessionState
  toState : RecoverySessionState
  ip : Option String
  deriving DecidableEq

/-- What the service awaits: the clock, random values, and the statements in the order of the
tables. `replaceKey` is the transaction of a rotation: the rows that it writes are locked until
its `COMMIT`, and what it wrote is seen from then on. -/
inductive Statement where
  | readClock
  | randomKeypair
  | randomBytes
  | encrypt (secret : String)
  | selectKey (keyId : KeyId) (userId : String)
  | selectActiveKey (keyId : KeyId)
  | insertKey (values : KeyValues)
  | updateThreshold (keyId : KeyId) (newThreshold : Int)
  | replaceKey (keyId : KeyId) (values : KeyValues) (completed : Option SessionId)
  | selectSigners (keyId : KeyId)
  | selectSigner (keyId : KeyId) (signerPublicKey : String)
  | insertSigner (keyId : KeyId) (signerPublicKey signerLabel : String)
  | deleteSigner (keyId : KeyId) (signerPublicKey : String)
  | useTokens (keyId : KeyId) (signerPublicKey : String)
  | insertToken (keyId : KeyId) (tokenHash signerPublicKey : String) (expiresAt : Nat)
  | selectToken (keyId : KeyId) (tokenHash signerPublicKey : String)
  | useToken (keyId : KeyId) (tokenHash : String)
  | selectSession (sessionId : SessionId)
  | selectActiveSessions (keyId : KeyId)
  | insertSession (values : SessionValues)
  | updateSession (sessionId : SessionId) (approvedBy : List String) (state : RecoverySessionState)
  | rejectSession (sessionId : SessionId) (reason : String)
  | insertAuditEntry (entry : AuditEntry)
  deriving DecidableEq

/-- The answer to `randomKeypair` is the secret. -/
@[reducible] def Statement.Reply : Statement → Type
  | .readClock => Nat
  | .randomKeypair => String
  | .randomBytes => String
  | .encrypt _ => EncryptedPayload
  | .selectKey .. => Option ManagedKey
  | .selectActiveKey _ => Option ManagedKey
  | .insertKey _ => KeyId
  | .updateThreshold .. => Unit
  | .replaceKey .. => Unit
  | .selectSigners _ => List RecoverySigner
  | .selectSigner .. => Option RecoverySigner
  | .insertSigner .. => RecoverySigner
  | .deleteSigner .. => Unit
  | .useTokens .. => Unit
  | .insertToken .. => Unit
  | .selectToken .. => Option RecoveryToken
  | .useToken .. => Unit
  | .selectSession _ => Option RecoverySession
  | .selectActiveSessions _ => List SessionId
  | .insertSession _ => SessionId × RecoverySession
  | .updateSession .. => Unit
  | .rejectSession .. => Unit
  | .insertAuditEntry _ => Unit

def tooLong : String := "value too long for type character varying"

def violates (constraint : String) : String :=
  "violates constraint " ++ constraint

/-- A positive `INT`. -/
def isThreshold (threshold : Int) : Prop :=
  1 ≤ threshold ∧ threshold < 2 ^ 31

instance (threshold : Int) : Decidable (isThreshold threshold) :=
  inferInstanceAs (Decidable (_ ∧ _))

def RecoverySigner.isOf (keyId : KeyId) (signerPublicKey : String) (signer : RecoverySigner) : Bool :=
  signer.managedKeyId = keyId ∧ signer.signerPublicKey.text = signerPublicKey

def RecoverySession.reject (reason : String) (session : RecoverySession) : RecoverySession :=
  { session with state := .rejected, rejectedReason := some reason }

namespace Store

variable (store : Store)

variable (keyId : KeyId)

def activeKey : Option ManagedKey :=
  store.managedKeys[keyId]?.filter ManagedKey.isActive

def signersOf : List RecoverySigner :=
  store.recoverySigners.filter fun signer => signer.managedKeyId = keyId

def Registered (signerPublicKey : String) : Prop :=
  ∃ signer ∈ store.recoverySigners, signer.isOf keyId signerPublicKey = true

def activeSessions : List SessionId :=
  (List.range store.sessions.length).filter fun id =>
    store.sessions[id]?.any fun session =>
      session.managedKeyId = keyId ∧ session.state.terminal = false ∧ store.clock < session.expiresAt

def insertKey (values : KeyValues) : Except String Store := do
  let publicKey ← orThrow tooLong (Varchar.store values.publicKey)
  require (isThreshold values.recoveryThreshold) (violates "recovery_threshold_check")
  return { store with
    managedKeys := store.managedKeys ++
      [⟨values.userId, publicKey, values.encryptedSecret, values.recoveryThreshold, true⟩] }

def updateThreshold (newThreshold : Int) : Except String Store := do
  require (isThreshold newThreshold) (violates "recovery_threshold_check")
  return { store with
    managedKeys := store.managedKeys.modify keyId
      fun key => { key with recoveryThreshold := newThreshold } }

def deactivate : Store :=
  { store with
    managedKeys := store.managedKeys.modify keyId fun key => { key with isActive := false } }

def updateSession (id : SessionId) (change : RecoverySession → RecoverySession) : Store :=
  { store with sessions := store.sessions.modify id change }

def completeSession (id : SessionId) (newPublicKey : String) : Except String Store := do
  let newPublicKey ← orThrow tooLong (Varchar.store newPublicKey)
  return store.updateSession id fun session =>
    { session with state := .completed, newPublicKey := some newPublicKey }

def replaceKey (values : KeyValues) : Option SessionId → Except String Store
  | none => (store.deactivate keyId).insertKey values
  | some id => do
    let inserted ← (store.deactivate keyId).insertKey values
    inserted.completeSession id values.publicKey

def insertSigner (signerPublicKey signerLabel : String) :
    Except String (RecoverySigner × Store) := do
  let publicKey ← orThrow tooLong (Varchar.store signerPublicKey)
  let label ← orThrow tooLong (Varchar.store signerLabel)
  require (keyId < store.managedKeys.length) (violates "managed_key_id_fkey")
  require (store.recoverySigners.all fun signer => !signer.isOf keyId publicKey.text)
    (violates "managed_key_id_signer_public_key_key")
  let signer : RecoverySigner := ⟨keyId, publicKey, label⟩
  return (signer, { store with recoverySigners := store.recoverySigners ++ [signer] })

def deleteSigner (signerPublicKey : String) : Store :=
  { store with
    recoverySigners := store.recoverySigners.filter fun signer => !signer.isOf keyId signerPublicKey }

def useTokensWhere (selects : RecoveryToken → Bool) : Store :=
  { store with
    recoveryTokens := store.recoveryTokens.map fun token =>
      if selects token then { token with usedAt := some store.clock } else token }

def insertToken (tokenHash signerPublicKey : String)
    (expiresAt : Nat) : Except String Store := do
  let hash ← orThrow tooLong (Varchar.store tokenHash)
  let publicKey ← orThrow tooLong (Varchar.store signerPublicKey)
  require (keyId < store.managedKeys.length) (violates "managed_key_id_fkey")
  return { store with
    recoveryTokens := store.recoveryTokens ++ [⟨keyId, hash, publicKey, expiresAt, none⟩] }

/-- The token, whether it has expired or not. -/
def unusedToken (tokenHash signerPublicKey : String) : Option RecoveryToken :=
  store.recoveryTokens.find? fun token =>
    token.managedKeyId = keyId ∧ token.tokenHash.text = tokenHash ∧
      token.signerPublicKey.text = signerPublicKey ∧ token.usedAt = none

def liveToken (tokenHash signerPublicKey : String) : Option RecoveryToken :=
  store.recoveryTokens.find? fun token =>
    token.managedKeyId = keyId ∧ token.tokenHash.text = tokenHash ∧
      token.signerPublicKey.text = signerPublicKey ∧ token.usedAt = none ∧ store.clock < token.expiresAt

def insertSession (platform : Platform) (store : Store) (values : SessionValues) :
    Except String ((SessionId × RecoverySession) × Store) := do
  let address ← values.requestedNewAddress.mapM fun address => orThrow tooLong (Varchar.store address)
  let oldPublicKey ← orThrow tooLong (Varchar.store values.oldPublicKey)
  require (values.initiatedByIp.all platform.isInet) "invalid input syntax for type inet"
  require (isThreshold values.requiredApprovals) (violates "required_approvals_check")
  require (values.managedKeyId < store.managedKeys.length) (violates "managed_key_id_fkey")
  let session : RecoverySession :=
    { managedKeyId := values.managedKeyId
      requiredApprovals := values.requiredApprovals
      state := .pending
      approvedBy := []
      requestedNewAddress := address
      initiatedByIp := values.initiatedByIp
      expiresAt := values.expiresAt
      rejectedReason := none
      newPublicKey := none
      oldPublicKey := oldPublicKey }
  return ((store.sessions.length, session), { store with sessions := store.sessions ++ [session] })

def tick (elapsed : Nat) : Store :=
  { store with clock := store.clock + elapsed }

/-- What a statement answers and leaves, or how the database refuses it. -/
def perform (platform : Platform) (store : Store) (drawn : String) :
    (statement : Statement) → Except String (statement.Reply × Store)
  | .readClock => .ok (store.clock, store)
  | .randomKeypair => .ok (drawn, store)
  | .randomBytes => .ok (drawn, store)
  | .encrypt secret => .ok (platform.vault.encrypt secret drawn, store)
  | .selectKey keyId userId =>
    .ok ((store.activeKey keyId).filter fun key => key.userId = userId, store)
  | .selectActiveKey keyId => .ok (store.activeKey keyId, store)
  | .insertKey values => do
    let inserted ← store.insertKey values
    return (store.managedKeys.length, inserted)
  | .updateThreshold keyId newThreshold => do
    let updated ← store.updateThreshold keyId newThreshold
    return ((), updated)
  | .replaceKey keyId values completed => do
    let replaced ← store.replaceKey keyId values completed
    return ((), replaced)
  | .selectSigners keyId => .ok (store.signersOf keyId, store)
  | .selectSigner keyId signerPublicKey =>
    .ok (store.recoverySigners.find? (RecoverySigner.isOf keyId signerPublicKey), store)
  | .insertSigner keyId signerPublicKey signerLabel =>
    store.insertSigner keyId signerPublicKey signerLabel
  | .deleteSigner keyId signerPublicKey => .ok ((), store.deleteSigner keyId signerPublicKey)
  | .useTokens keyId signerPublicKey =>
    .ok ((), store.useTokensWhere fun token =>
      token.managedKeyId = keyId ∧ token.signerPublicKey.text = signerPublicKey ∧ token.usedAt = none)
  | .insertToken keyId tokenHash signerPublicKey expiresAt => do
    let inserted ← store.insertToken keyId tokenHash signerPublicKey expiresAt
    return ((), inserted)
  | .selectToken keyId tokenHash signerPublicKey =>
    .ok (store.liveToken keyId tokenHash signerPublicKey, store)
  | .useToken keyId tokenHash =>
    .ok ((), store.useTokensWhere fun token =>
      token.managedKeyId = keyId ∧ token.tokenHash.text = tokenHash)
  | .selectSession id => .ok (store.sessions[id]?, store)
  | .selectActiveSessions keyId => .ok (store.activeSessions keyId, store)
  | .insertSession values => store.insertSession platform values
  | .updateSession id approvedBy state =>
    .ok ((), store.updateSession id fun session => { session with approvedBy, state })
  | .rejectSession id reason => .ok ((), store.updateSession id (RecoverySession.reject reason))
  | .insertAuditEntry entry => do
    require (entry.ip.all platform.isInet) "invalid input syntax for type inet"
    return ((), store)

end Store

end ProxyPay.Recovery
