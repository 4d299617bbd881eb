import ProxyPay.Library.Text

/-! `Sep10Service.verifyChallenge`: which submitted transactions authenticate an account. -/

namespace ProxyPay.Auth

open ProxyPay.Library

/-- A signature of a transaction hash; it verifies exactly for the key that made it. -/
structure Signature where
  key : String
  hash : String
  deriving DecidableEq

structure Operation where
  type : String
  source : Option String
  deriving DecidableEq

structure Transaction where
  hash : String
  source : String
  sequence : String
  timeBounds : Option (ℕ × ℕ)
  operations : List Operation
  signatures : List Signature
  deriving DecidableEq

/-- An entry of the signers of an account record. -/
structure Signer where
  key : String
  weight : ℕ
  type : String
  deriving DecidableEq

structure Thresholds where
  low_threshold : ℕ
  med_threshold : ℕ
  high_threshold : ℕ
  deriving DecidableEq

/-- An account record of Horizon lists every key once, the master key included. -/
structure Account (id : String) where
  signers : List Signer
  thresholds : Thresholds
  distinct : (signers.map Signer.key).Nodup
  master : ∃ signer ∈ signers, signer.key = id ∧ signer.type = "ed25519_public_key"

structure SignerInfo where
  publicKey : String
  weight : ℕ
  deriving DecidableEq

structure Sep10Config where
  webAuthDomain : String
  homeDomain : String

/-- The payload of a token. -/
structure Token where
  sub : String
  iss : String
  iat : ℕ
  exp : ℕ
  jti : String
  home_domain : String
  deriving DecidableEq

def verify (publicKey hash : String) (signature : Signature) : Bool :=
  signature.key = publicKey && signature.hash = hash

variable (transaction : Transaction)

def Transaction.isSignedBy (publicKey : String) : Bool :=
  transaction.signatures.any (verify publicKey transaction.hash)

/-- The thresholds of a record have no master weight. -/
def Thresholds.master_weight (_ : Thresholds) : Option ℕ := none

/-- The signers that `fetchAccountSigners` assembles. -/
def assembleSigners (accountId : String) (account : Account accountId) : List SignerInfo :=
  let masterWeight := account.thresholds.master_weight.getD 1
  (if 0 < masterWeight then [⟨accountId, masterWeight⟩] else []) ++
    (account.signers.filter fun signer => signer.type = "ed25519_public_key").map fun signer =>
      ⟨signer.key, signer.weight⟩

/-- The first signer that made the signature and has not been counted. -/
def matching (hash serverPublicKey : String) (signers : List SignerInfo) (validated : List String)
    (signature : Signature) : Option SignerInfo :=
  signers.find? fun signer =>
    signer.publicKey ≠ serverPublicKey && !validated.contains signer.publicKey &&
      verify signer.publicKey hash signature

/-- The total and the signers that are counted. -/
def count (hash serverPublicKey : String) (signers : List SignerInfo) (counted : ℕ × List String)
    (signature : Signature) : ℕ × List String :=
  match matching hash serverPublicKey signers counted.2 signature with
  | some signer => (counted.1 + signer.weight, signer.publicKey :: counted.2)
  | none => counted

def calculateSignatureWeights (signers : List SignerInfo) (serverPublicKey : String) : ℕ :=
  (transaction.signatures.foldl (count transaction.hash serverPublicKey signers) (0, [])).1

variable (serverPublicKey : String)

def thresholdMet (transaction : Transaction) (accountId : String)
    (account : Account accountId) : Bool :=
  if account.thresholds.med_threshold = 0 then true
  else account.thresholds.med_threshold ≤
    calculateSignatureWeights transaction (assembleSigners accountId account) serverPublicKey

/-- What Horizon answers for an account. -/
abbrev Horizon := (accountId : String) → Except String (Account accountId)

def verifyThresholdMet (horizon : Horizon) (serverPublicKey : String) (transaction : Transaction) (accountId : String) :
    Except String Bool :=
  match horizon accountId with
  | .error message => .error ("Unable to fetch account information from Horizon: " ++ message)
  | .ok account => .ok (thresholdMet serverPublicKey transaction accountId account)

/-- The error of the threshold check, with its context unless it is one of its own. -/
def thresholdError (message : String) : String :=
  if Text.includes message "Signing threshold" then message else "Failed to verify signing threshold: " ++ message

/-- The checks of the transaction itself; they give the account that it is to authenticate. -/
def checkTransaction (now : ℕ) (transaction : Transaction) (clientAccountID : Option String) :
    Except String String :=
  if transaction.sequence ≠ "0" then .error "Transaction sequence number must be 0"
  else match transaction.timeBounds with
    | none => .error "Transaction must have timebounds"
    | some (minTime, maxTime) =>
      if now < minTime then .error "Transaction is not yet valid"
      else if maxTime < now then .error "Transaction has expired"
      else if !transaction.operations.all fun operation => operation.type = "manageData" then
        .error "Transaction must contain only manageData operations"
      else match transaction.operations with
        | [] => .error "Cannot read properties of undefined (reading 'source')"
        | firstOp :: _ =>
          let clientPublicKey := (Text.truthy firstOp.source).getD transaction.source
          if (Text.truthy clientAccountID).any (· ≠ clientPublicKey) then
            .error "First manageData operation source must match client account"
          else if !transaction.isSignedBy serverPublicKey then .error "Transaction is not signed by the server"
          else .ok clientPublicKey

def issueToken (config : Sep10Config) (iat : ℕ) (jti clientPublicKey : String) : Token :=
  ⟨clientPublicKey, config.webAuthDomain, iat, iat + 3600, jti, config.homeDomain⟩

/-- `envelope` is what the submitted text parses to, if it does. -/
def verifyChallenge (config : Sep10Config) (serverPublicKey : String) (horizon : Horizon) (now iat : ℕ) (jti : String)
    (envelope : Option Transaction) (clientAccountID : Option String) : Except String Token :=
  match envelope with
  | none => .error "Invalid transaction envelope"
  | some transaction =>
    match checkTransaction serverPublicKey now transaction clientAccountID with
    | .error message => .error message
    | .ok clientPublicKey =>
      match verifyThresholdMet horizon serverPublicKey transaction clientPublicKey with
      | .error message => .error (thresholdError message)
      | .ok false => .error (thresholdError
          "Signing threshold not met. The account requires additional signatures to authorize this transaction.")
      | .ok true => .ok (issueToken config iat jti clientPublicKey)

end ProxyPay.Auth
