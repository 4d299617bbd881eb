import ProxyPay.Recovery.Database

/-! The operations of the service, as scripts over the statements. -/

namespace ProxyPay.Recovery

open ProxyPay.Library

abbrev Work := Script Statement Statement.Reply String

/-- `await` of a statement -/
abbrev ask (statement : Statement) : Work statement.Reply :=
  Script.call statement

def maxRecoverySigners : Nat := 15

structure KeyRotationResult where
  newPublicKey : String
  oldPublicKey : String
  rotatedAt : Nat
  deriving DecidableEq

/-- What an operation returns. -/
inductive Result where
  | keyCreated (publicKey : String) (keyId : KeyId)
  | signerAdded (signer : RecoverySigner)
  | done
  | sessionOpened (sessionId : SessionId) (session : RecoverySession)
  | tokenIssued (token : String) (expiresAt : Nat) (sessionId : SessionId)
  | approval (approved : Bool) (session : RecoverySession)
  | rotated (rotation : KeyRotationResult)
  | recovered (rotation : KeyRotationResult) (sessionId : SessionId)
  deriving DecidableEq

def getManagedKey (keyId : KeyId) (userId : String) : Work ManagedKey := do
  let row : Option ManagedKey ← ask (.selectKey keyId userId)
  Script.check (orThrow "Managed key not found or does not belong to this user" row)

def getActiveManagedKeyById (keyId : KeyId) : Work ManagedKey := do
  let row : Option ManagedKey ← ask (.selectActiveKey keyId)
  Script.check (orThrow "Managed key not found or is inactive" row)

def getRecoverySession (sessionId : SessionId) : Work RecoverySession := do
  let row : Option RecoverySession ← ask (.selectSession sessionId)
  Script.check (orThrow ("Recovery session not found: " ++ toString sessionId) row)

def writeAuditLog (entry : AuditEntry) : Work Unit :=
  ask (.insertAuditEntry entry)

def ofKey (keyId : KeyId) (session : RecoverySession) : Except String Unit :=
  require (session.managedKeyId = keyId) "Session does not belong to this managed key"

def notTerminal (message : String) (session : RecoverySession) : Except String Unit :=
  require (session.state.terminal = false) (message ++ "'" ++ session.state.text ++ "'")

def assertSessionActive (session : RecoverySession) : Work Unit := do
  Script.check (notTerminal "Recovery session is already in terminal state " session)
  let now : Nat ← ask .readClock
  Script.check (require (now ≤ session.expiresAt) "Recovery session has expired")

def requireSigner (row : Option RecoverySigner) : Except String Unit :=
  require (row.isSome = true) "Public key is not a registered recovery signer for this managed key"

def createManagedKey (platform : Platform) (userId : String) (recoveryThreshold : Int) : Work Result := do
  let secret : String ← ask .randomKeypair
  let encryptedSecret : EncryptedPayload ← ask (.encrypt secret)
  let keyId : KeyId ← ask
    (.insertKey ⟨userId, platform.publicKey secret, encryptedSecret, recoveryThreshold⟩)
  return .keyCreated (platform.publicKey secret) keyId

def listRecoverySigners (keyId : KeyId) (userId : String) : Work (List RecoverySigner) := do
  let _ ← getManagedKey keyId userId
  let rows : List RecoverySigner ← ask (.selectSigners keyId)
  return rows

def addRecoverySigner (platform : Platform) (keyId : KeyId) (userId : String)
    (signerPublicKey signerLabel : String) : Work Result := do
  let _ ← getManagedKey keyId userId
  Script.check (require (platform.validPublicKey signerPublicKey = true)
    ("Invalid Stellar public key for recovery signer: " ++ signerPublicKey))
  let existing ← listRecoverySigners keyId userId
  Script.check (require (existing.length < maxRecoverySigners)
    ("Cannot add signer: this key already has the maximum of " ++ toString maxRecoverySigners ++
      " recovery signers"))
  Script.check (require (∀ signer ∈ existing, signer.signerPublicKey.text ≠ signerPublicKey)
    "Public key is already a recovery signer for this managed key")
  let signer : RecoverySigner ← ask (.insertSigner keyId signerPublicKey signerLabel)
  return .signerAdded signer

def removeRecoverySigner (keyId : KeyId) (userId signerPublicKey : String) : Work Result := do
  let managedKey ← getManagedKey keyId userId
  let signers ← listRecoverySigners keyId userId
  let activeSessions : List SessionId ← ask (.selectActiveSessions keyId)
  Script.check (require (activeSessions = [])
    ("Cannot remove signer: recovery session " ++ toString (activeSessions.headD 0) ++
      " is in progress. Complete or cancel it first."))
  Script.check (require (managedKey.recoveryThreshold ≤ (signers.length : Int) - 1)
    ("Cannot remove signer: would leave " ++ toString ((signers.length : Int) - 1) ++
      " signers but threshold is " ++ toString managedKey.recoveryThreshold ++
      ". Lower the threshold first or add another signer."))
  let _ : Unit ← ask (.deleteSigner keyId signerPublicKey)
  return .done

def openRecoverySession (platform : Platform) (keyId : KeyId) (requestedNewAddress initiatedByIp : Option String) :
    Work (SessionId × RecoverySession) := do
  let key ← getActiveManagedKeyById keyId
  -- The empty text is not an address to be checked.
  Script.check (require
    (requestedNewAddress.all (fun address => address = "" || platform.validPublicKey address) = true)
    ("Invalid Stellar public key for requested_new_address: " ++ requestedNewAddress.getD ""))
  let existingActive : List SessionId ← ask (.selectActiveSessions keyId)
  Script.check (require (existingActive = [])
    ("An active recovery session already exists for this key: " ++ toString (existingActive.headD 0) ++
      ". Cancel it first or wait for it to expire."))
  let now : Nat ← ask .readClock
  let session : SessionId × RecoverySession ← ask (.insertSession
    { managedKeyId := keyId
      requiredApprovals := key.recoveryThreshold
      requestedNewAddress
      initiatedByIp
      expiresAt := now + platform.sessionTtlMinutes * 60 * 1000
      oldPublicKey := key.publicKey.text })
  writeAuditLog ⟨session.1, "session_opened", none, none, .pending, initiatedByIp⟩
  return session

/-- The session of the signer's choice, or a new one. -/
def resolveSession (platform : Platform) (keyId : KeyId) : Option SessionId → Work (SessionId × RecoverySession)
  | some sessionId => do
    let session ← getRecoverySession sessionId
    Script.check (ofKey keyId session)
    assertSessionActive session
    return (sessionId, session)
  | none => openRecoverySession platform keyId none none

def initiateRecovery (platform : Platform) (keyId : KeyId) (signerPublicKey : String)
    (sessionId : Option SessionId) : Work Result := do
  let signer : Option RecoverySigner ← ask (.selectSigner keyId signerPublicKey)
  Script.check (requireSigner signer)
  let session ← resolveSession platform keyId sessionId
  let _ : Unit ← ask (.useTokens keyId signerPublicKey)
  let rawToken : String ← ask .randomBytes
  let now : Nat ← ask .readClock
  let expiresAt := now + 15 * 60 * 1000
  let _ : Unit ← ask
    (.insertToken keyId (platform.sha256 rawToken) signerPublicKey expiresAt)
  writeAuditLog ⟨session.1, "token_issued", some signerPublicKey, some session.2.state,
    session.2.state, none⟩
  return .tokenIssued rawToken expiresAt session.1

/-- The state of a session after an approval. -/
def afterApproval (session : RecoverySession) (approvedBy : List String) : RecoverySessionState :=
  if session.requiredApprovals ≤ approvedBy.length then .awaitingCompletion
  else .collectingApprovals

def approvalEvent (session : RecoverySession) (approvedBy : List String) : String :=
  if session.requiredApprovals ≤ approvedBy.length then "threshold_reached" else "signer_approved"

def approveRecovery (platform : Platform) (keyId : KeyId) (sessionId : SessionId)
    (token signature signerPublicKey : String) (ip : Option String) : Work Result := do
  let session ← getRecoverySession sessionId
  Script.check (ofKey keyId session)
  assertSessionActive session
  Script.check (require (signerPublicKey ∉ session.approvedBy)
    ("Signer " ++ signerPublicKey ++ " has already approved this recovery session"))
  let signer : Option RecoverySigner ← ask (.selectSigner keyId signerPublicKey)
  Script.check (requireSigner signer)
  let tokenHash := platform.sha256 token
  let row : Option RecoveryToken ← ask (.selectToken keyId tokenHash signerPublicKey)
  Script.check (require (row.isSome = true) "Recovery token not found, already used, or expired")
  let isValid ← Script.check (platform.verify signerPublicKey token signature)
  Script.check (require (isValid = true) "Invalid Stellar signature — signer verification failed")
  let _ : Unit ← ask (.useToken keyId tokenHash)
  let newApprovedBy := session.approvedBy ++ [signerPublicKey]
  let toState := afterApproval session newApprovedBy
  let _ : Unit ← ask (.updateSession sessionId newApprovedBy toState)
  writeAuditLog ⟨sessionId, approvalEvent session newApprovedBy, some signerPublicKey,
    some session.state, toState, ip⟩
  let updatedSession ← getRecoverySession sessionId
  return .approval true updatedSession

def rejectSession (sessionId : SessionId) (reason : String) (ip : Option String) : Work Unit := do
  let session ← getRecoverySession sessionId
  let _ : Unit ← ask (.rejectSession sessionId reason)
  writeAuditLog ⟨sessionId, "session_rejected", none, some session.state, .rejected, ip⟩

/-- The part that `completeRecovery` and `rotateKey` share: a new keypair, and the transaction. -/
def replaceManagedKey (platform : Platform) (keyId : KeyId) (userId : String)
    (key : ManagedKey) (requestedAddress : Option String) (completed : Option SessionId) :
    Work KeyRotationResult := do
  let newSecret : String ← ask .randomKeypair
  let newPublicKey := requestedAddress.getD (platform.publicKey newSecret)
  let newEncryptedSecret : EncryptedPayload ← ask (.encrypt newSecret)
  let rotatedAt : Nat ← ask .readClock
  let _ : Unit ← ask
    (.replaceKey keyId ⟨userId, newPublicKey, newEncryptedSecret, key.recoveryThreshold⟩ completed)
  return ⟨newPublicKey, key.publicKey.text, rotatedAt⟩

/-- The rotation of a session that has its approvals. -/
def rotateRecovered (platform : Platform) (keyId : KeyId) (sessionId : SessionId)
    (session : RecoverySession) (ip : Option String) : Work Result := do
  let key ← getActiveManagedKeyById keyId
  let rotation ← replaceManagedKey platform keyId key.userId key
    (session.requestedNewAddress.map Varchar.text) (some sessionId)
  writeAuditLog ⟨sessionId, "recovery_completed", none, some .awaitingCompletion, .completed, ip⟩
  return .recovered rotation sessionId

def expireSession (sessionId : SessionId) (ip : Option String) : Work Result := do
  rejectSession sessionId "Session expired before completion" ip
  throw "Recovery session has expired"

def completeRecovery (platform : Platform) (keyId : KeyId) (sessionId : SessionId)
    (ip : Option String) : Work Result := do
  let session ← getRecoverySession sessionId
  Script.check (ofKey keyId session)
  Script.check (require (session.state = .awaitingCompletion)
    ("Cannot complete recovery: session is in state '" ++ session.state.text ++
      "'. Need state 'awaiting_completion' (i.e. M-of-N approvals must be collected first)."))
  let now : Nat ← ask .readClock
  if session.expiresAt < now then expireSession sessionId ip
  else rotateRecovered platform keyId sessionId session ip

def cancelRecoverySession (keyId : KeyId) (sessionId : SessionId) (reason : String)
    (ip : Option String) : Work Result := do
  let session ← getRecoverySession sessionId
  Script.check (ofKey keyId session)
  Script.check (notTerminal "Session is already in terminal state " session)
  rejectSession sessionId reason ip
  return .done

def rotateKey (platform : Platform) (keyId : KeyId) (userId : String)
    (newStellarAddress : Option String) : Work Result := do
  let existing ← getManagedKey keyId userId
  let rotation ← replaceManagedKey platform keyId userId existing newStellarAddress none
  return .rotated rotation

def updateRecoveryThreshold (keyId : KeyId) (userId : String) (newThreshold : Int) : Work Result := do
  let signers ← listRecoverySigners keyId userId
  Script.check (require (1 ≤ newThreshold) "Recovery threshold must be at least 1")
  Script.check (require (newThreshold ≤ signers.length)
    ("Threshold " ++ toString newThreshold ++ " exceeds registered signer count " ++
      toString signers.length))
  let _ : Unit ← ask (.updateThreshold keyId newThreshold)
  return .done

inductive Operation where
  | createManagedKey (userId : String) (recoveryThreshold : Int)
  | addRecoverySigner (keyId : KeyId) (userId signerPublicKey signerLabel : String)
  | removeRecoverySigner (keyId : KeyId) (userId signerPublicKey : String)
  | openRecoverySession (keyId : KeyId) (requestedNewAddress initiatedByIp : Option String)
  | initiateRecovery (keyId : KeyId) (signerPublicKey : String) (sessionId : Option SessionId)
  | approveRecovery (keyId : KeyId) (sessionId : SessionId)
      (token signature signerPublicKey : String) (ip : Option String)
  | completeRecovery (keyId : KeyId) (sessionId : SessionId) (ip : Option String)
  | cancelRecoverySession (keyId : KeyId) (sessionId : SessionId) (reason : String)
      (ip : Option String)
  | rotateKey (keyId : KeyId) (userId : String) (newStellarAddress : Option String)
  | updateRecoveryThreshold (keyId : KeyId) (userId : String) (newThreshold : Int)
  deriving DecidableEq

def Operation.script (platform : Platform) : Operation → Work Result
  | .createManagedKey userId threshold => Recovery.createManagedKey platform userId threshold
  | .addRecoverySigner keyId userId signer label =>
    Recovery.addRecoverySigner platform keyId userId signer label
  | .removeRecoverySigner keyId userId signer => Recovery.removeRecoverySigner keyId userId signer
  | .openRecoverySession keyId address ip => do
    let session ← Recovery.openRecoverySession platform keyId address ip
    return .sessionOpened session.1 session.2
  | .initiateRecovery keyId signer sessionId =>
    Recovery.initiateRecovery platform keyId signer sessionId
  | .approveRecovery keyId sessionId token signature signer ip =>
    Recovery.approveRecovery platform keyId sessionId token signature signer ip
  | .completeRecovery keyId sessionId ip => Recovery.completeRecovery platform keyId sessionId ip
  | .cancelRecoverySession keyId sessionId reason ip =>
    Recovery.cancelRecoverySession keyId sessionId reason ip
  | .rotateKey keyId userId address => Recovery.rotateKey platform keyId userId address
  | .updateRecoveryThreshold keyId userId threshold =>
    Recovery.updateRecoveryThreshold keyId userId threshold

/-- It writes none of the tables of keys, signers and sessions. -/
def Statement.plain (statement : Statement) : Bool :=
  !statement.writesSessions && !statement.writesKeys && !statement.writesSigners

/-- What an operation may write of the tables of keys, signers and sessions. -/
def Operation.mayAsk : Operation → Statement → Prop
  | .createManagedKey .., .insertKey _ => True
  | .addRecoverySigner keyId .., .insertSigner key .. => key = keyId
  | .removeRecoverySigner keyId .., .deleteSigner key _ => key = keyId
  | .openRecoverySession .., .insertSession _ => True
  | .initiateRecovery .., .insertSession _ => True
  | .approveRecovery _ sessionId .., .updateSession id .. => id = sessionId
  | .completeRecovery _ sessionId _, .rejectSession id _ => id = sessionId
  | .completeRecovery keyId sessionId _, .replaceKey key _ completed =>
    key = keyId ∧ completed = some sessionId
  | .cancelRecoverySession _ sessionId .., .rejectSession id _ => id = sessionId
  | .rotateKey keyId .., .replaceKey key _ completed => key = keyId ∧ completed = none
  | .updateRecoveryThreshold keyId .., .updateThreshold key _ => key = keyId
  | _, statement => statement.plain = true

section Asks

open Script

variable {platform : Platform} {allowed : Statement → Prop} {keyId : KeyId} {sessionId : SessionId}
variable (plain : ∀ statement : Statement, statement.plain = true → allowed statement)

include plain

theorem asks_plain {statement : Statement} (fits : statement.plain = true) : (ask statement).Asks allowed :=
  .call (plain statement fits)

variable {userId : String}

theorem getManagedKey_asks : (getManagedKey keyId userId).Asks allowed :=
  (asks_plain plain rfl).bind fun _ => .done _

theorem getActiveManagedKeyById_asks : (getActiveManagedKeyById keyId).Asks allowed :=
  (asks_plain plain rfl).bind fun _ => .done _

theorem getRecoverySession_asks : (getRecoverySession sessionId).Asks allowed :=
  (asks_plain plain rfl).bind fun _ => .done _

theorem writeAuditLog_asks {entry : AuditEntry} : (writeAuditLog entry).Asks allowed :=
  asks_plain plain rfl

variable {session : RecoverySession}

theorem assertSessionActive_asks : (assertSessionActive session).Asks allowed :=
  (Asks.done _).bind fun _ => (asks_plain plain rfl).bind fun _ => .done _

theorem listRecoverySigners_asks : (listRecoverySigners keyId userId).Asks allowed :=
  (getManagedKey_asks plain).bind fun _ => asks_plain plain rfl

theorem openRecoverySession_asks {requestedNewAddress initiatedByIp : Option String}
    (inserts : ∀ values, allowed (.insertSession values)) :
    (openRecoverySession platform keyId requestedNewAddress initiatedByIp).Asks allowed := by
  apply (getActiveManagedKeyById_asks plain).bind
  intro key
  apply (Asks.done _).bind
  intro _
  apply (asks_plain plain rfl).bind
  intro existingActive
  apply (Asks.done _).bind
  intro _
  apply (asks_plain plain rfl).bind
  intro now
  apply (Asks.call (inserts _)).bind
  intro session
  exact (writeAuditLog_asks plain).bind fun _ => .done _

variable {ip : Option String}

theorem rejectSession_asks {reason : String} (rejects : ∀ reason, allowed (.rejectSession sessionId reason)) :
    (rejectSession sessionId reason ip).Asks allowed := by
  apply (getRecoverySession_asks plain).bind
  intro session
  apply (Asks.call (rejects _)).bind
  intro _
  exact writeAuditLog_asks plain

theorem expireSession_asks (rejects : ∀ reason, allowed (.rejectSession sessionId reason)) :
    (expireSession sessionId ip).Asks allowed :=
  (rejectSession_asks plain rejects).bind fun _ => .done _

theorem replaceManagedKey_asks {key : ManagedKey} {address : Option String}
    {completed : Option SessionId} (replaces : ∀ values, allowed (.replaceKey keyId values completed)) :
    (replaceManagedKey platform keyId userId key address completed).Asks allowed := by
  apply (asks_plain plain rfl).bind
  intro newSecret
  apply (asks_plain plain rfl).bind
  intro newEncryptedSecret
  apply (asks_plain plain rfl).bind
  intro rotatedAt
  exact (Asks.call (replaces _)).bind fun _ => .done _

theorem rotateRecovered_asks (replaces : ∀ values, allowed (.replaceKey keyId values (some sessionId))) :
    (rotateRecovered platform keyId sessionId session ip).Asks allowed := by
  apply (getActiveManagedKeyById_asks plain).bind
  intro key
  apply (replaceManagedKey_asks plain replaces).bind
  intro rotation
  exact (writeAuditLog_asks plain).bind fun _ => .done _

end Asks

theorem script_asks (platform : Platform) (operation : Operation) :
    (operation.script platform).Asks operation.mayAsk := by
  have plain (statement : Statement) (fits : statement.plain = true) : operation.mayAsk statement := by
    cases statement with
    | replaceKey keyId values completed => simp [Statement.plain, Statement.writesKeys] at fits
    | _ => cases operation <;> first | exact fits | cases fits
  cases operation with
  | createManagedKey userId threshold =>
    apply (asks_plain plain rfl).bind
    intro secret
    apply (asks_plain plain rfl).bind
    intro encryptedSecret
    exact (Script.Asks.call trivial).bind fun _ => .done _
  | addRecoverySigner keyId userId signer label =>
    apply (getManagedKey_asks plain).bind
    intro _
    apply (Script.Asks.done _).bind
    intro _
    apply (listRecoverySigners_asks plain).bind
    intro existing
    apply (Script.Asks.done _).bind
    intro _
    apply (Script.Asks.done _).bind
    intro _
    exact Script.Asks.bind (Script.Asks.call rfl) fun _ => .done _
  | removeRecoverySigner keyId userId signer =>
    apply (getManagedKey_asks plain).bind
    intro managedKey
    apply (listRecoverySigners_asks plain).bind
    intro signers
    apply (asks_plain plain rfl).bind
    intro activeSessions
    apply (Script.Asks.done _).bind
    intro _
    apply (Script.Asks.done _).bind
    intro _
    exact Script.Asks.bind (Script.Asks.call rfl) fun _ => .done _
  | openRecoverySession keyId address ip =>
    exact (openRecoverySession_asks plain fun _ => trivial).bind fun _ => .done _
  | initiateRecovery keyId signer sessionId =>
    apply (asks_plain plain rfl).bind
    intro row
    apply (Script.Asks.done _).bind
    intro _
    have resolves : (resolveSession platform keyId sessionId).Asks
        (Operation.initiateRecovery keyId signer sessionId).mayAsk := by
      cases sessionId with
      | none => exact openRecoverySession_asks plain fun _ => trivial
      | some id =>
        apply (getRecoverySession_asks plain).bind
        intro session
        apply (Script.Asks.done _).bind
        intro _
        exact (assertSessionActive_asks plain).bind fun _ => .done _
    apply resolves.bind
    intro session
    apply (asks_plain plain rfl).bind
    intro _
    apply (asks_plain plain rfl).bind
    intro rawToken
    apply (asks_plain plain rfl).bind
    intro now
    apply (asks_plain plain rfl).bind
    intro _
    exact (writeAuditLog_asks plain).bind fun _ => .done _
  | approveRecovery keyId sessionId token signature signer ip =>
    apply (getRecoverySession_asks plain).bind
    intro session
    apply (Script.Asks.done _).bind
    intro _
    apply (assertSessionActive_asks plain).bind
    intro _
    apply (Script.Asks.done _).bind
    intro _
    apply (asks_plain plain rfl).bind
    intro row
    apply (Script.Asks.done _).bind
    intro _
    apply (asks_plain plain rfl).bind
    intro row
    apply (Script.Asks.done _).bind
    intro _
    apply (Script.Asks.done _).bind
    intro isValid
    apply (Script.Asks.done _).bind
    intro _
    apply (asks_plain plain rfl).bind
    intro _
    refine Script.Asks.bind (Script.Asks.call rfl) ?_
    intro _
    apply (writeAuditLog_asks plain).bind
    intro _
    exact (getRecoverySession_asks plain).bind fun _ => .done _
  | completeRecovery keyId sessionId ip =>
    apply (getRecoverySession_asks plain).bind
    intro session
    apply (Script.Asks.done _).bind
    intro _
    apply (Script.Asks.done _).bind
    intro _
    apply (asks_plain plain rfl).bind
    intro now
    split
    · exact expireSession_asks plain fun _ => rfl
    · exact rotateRecovered_asks plain fun _ => ⟨rfl, rfl⟩
  | cancelRecoverySession keyId sessionId reason ip =>
    apply (getRecoverySession_asks plain).bind
    intro session
    apply (Script.Asks.done _).bind
    intro _
    apply (Script.Asks.done _).bind
    intro _
    exact (rejectSession_asks plain fun _ => rfl).bind fun _ => .done _
  | rotateKey keyId userId address =>
    apply (getManagedKey_asks plain).bind
    intro existing
    exact (replaceManagedKey_asks plain fun _ => ⟨rfl, rfl⟩).bind fun _ => .done _
  | updateRecoveryThreshold keyId userId threshold =>
    apply (listRecoverySigners_asks plain).bind
    intro signers
    apply (Script.Asks.done _).bind
    intro _
    apply (Script.Asks.done _).bind
    intro _
    exact Script.Asks.bind (Script.Asks.call rfl) fun _ => .done _

/-- A signer with a token that it has signed. -/
structure SignedToken where
  signerPublicKey : String
  token : String
  tokenHash : String
  signature : String

def alice : SignedToken where
  signerPublicKey := "GDGD6QEIQXWTGJCIZ7TYIEFGHJQRS5Y5CBA3JDGSMMJWIHIYBBYQ4VLC"
  token := "8066dcd8cd831c84ab3681197e02ec6990b99bda3fb02ee01b47496442986c24"
  tokenHash := "e5e451364d39b16aa6bbe3b8df863736ffdf4ad70b75d222894e02f6ce1fa223"
  signature :=
    "sNcwXM22uodum7KtaQ1ZxyhLGmLKpY0yXnMOAV/5EIPJVSWSnTrnnLddswkRJncuat7gwuRi1syrSmpbwQOHBg=="

def bob : SignedToken where
  signerPublicKey := "GBZ5QQYXSGD4L4UUXEX7MT3VE3T6SMXDSZZS6YAHDL4DEACJIYKWII2C"
  token := "528a425d4e20eb59dddc7eaded4fa84e178d59dd50a2c5da1d5e503b9925ea65"
  tokenHash := "2f0b03efb1ebe13361ae567624bd5556f7934041de3ddaa123b7955d1ea3e421"
  signature :=
    "9O6tzlIZqHkfdlETB1FlcDydAScnm0oJLW0Cu7zfCqXHcMHB6aGaf1PpYRraEd8i2IeAWbP4RBiZ66x/5gC9Bw=="

/-- Two secrets with their public keys. -/
def firstKeypair : String × String :=
  ("SAZWXC3YJM32VHY6LW22ZHLRINMLYTFCAN2DDIKHWTW2O7RKPNELU7OO",
    "GDM5GTQKDZDCXY2AHBTOC4TD3GMWIQ3ZK6UN4ZQULMVIML5FUMOBHVZ7")

def secondKeypair : String × String :=
  ("SDPLAOKJTPR3PYM6DIF4627FVSKXEV742OYNRECKGTE6QPZ4VAHFZB6U",
    "GCAQTT6OVXBKL2C5ODJZONLUC3SR6UU7UIIE6UPPYPYHWSIDHYDXBXJW")

/-- A vault that only wraps its secrets. -/
def KeyVault.wrapping : KeyVault where
  encrypt secret randomness := ⟨secret, randomness, "", randomness, "aes-256-gcm"⟩
  decrypt payload :=
    if payload.algorithm = "aes-256-gcm" then .ok payload.ciphertext
    else .error ("Unsupported encryption algorithm: " ++ payload.algorithm)
  decrypt_encrypt _ _ := rfl

/-- A platform that knows these keys, tokens and signatures, and no others. -/
def Platform.sample : Platform where
  vault := .wrapping
  sessionTtlMinutes := 30
  publicKey secret := (([firstKeypair, secondKeypair].lookup secret).filter (·.length ≤ 56)).getD ""
  publicKey_fits secret := by
    cases found : ([firstKeypair, secondKeypair].lookup secret).filter (·.length ≤ 56) with
    | none => simp
    | some publicKey => simpa using (Option.filter_eq_some_iff.mp found).2
  validPublicKey := fun text =>
    [alice.signerPublicKey, bob.signerPublicKey, firstKeypair.2, secondKeypair.2].contains text
  verify signerPublicKey token signature := .ok ([alice, bob].any fun signed =>
    signed.signerPublicKey = signerPublicKey && signed.token = token && signed.signature = signature)
  sha256 token := (([alice, bob].find? (·.token = token)).map SignedToken.tokenHash).getD ""
  isInet text := text = "127.0.0.1"

end ProxyPay.Recovery
