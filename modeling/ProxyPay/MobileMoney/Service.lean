import ProxyPay.Library.Script

/-! The mobile-money service: one operation at a provider, behind the provider's circuit
breaker, with a failover to a backup provider. Metrics and alerts are left out. -/

namespace ProxyPay.MobileMoney

open ProxyPay.Library

/-- The two operations of a provider. -/
inductive Operation where
  | requestPayment
  | sendPayout
  deriving DecidableEq

/-- What is thrown, or stands in an `error` field. -/
inductive Thrown where
  | error (message : String)
  | mobileMoneyError (code message : String) (originalError : Thrown)
  | text (text : String)
  | other
  deriving DecidableEq

/-- The message of an `Error`. -/
def Thrown.message? : Thrown → Option String
  | .error message => some message
  | .mobileMoneyError _ message _ => some message
  | _ => none

/-- The `data` of an answer: the provider's own, or the automatic approval in the sandbox. -/
inductive Data where
  | provided (referenceId : Option String)
  | sandboxAutoApproved (transactionId status : String)
  deriving DecidableEq

structure ProviderResult where
  success : Bool
  data : Option Data
  error : Thrown
  deriving DecidableEq

inductive CircuitBreakerFailureType where
  | timeout
  | network
  | rate_limit
  | server
  | authentication
  | client
  | business
  | unknown
  deriving DecidableEq

structure CircuitBreakerActionResult where
  success : Bool
  provider : String
  data : Option Data
  error : Thrown
  failureType : Option CircuitBreakerFailureType
  retryable : Option Bool
  deriving DecidableEq

/-- The awaited calls. An open circuit answers `callProvider` with an error, in the
provider's stead; a call that has timed out is given up. -/
inductive Request where
  | getProviderOrThrow (providerKey : String)
  | getOrCreateCircuitBreaker (provider : String) (operation : Operation)
  | callProvider (provider : String) (op : Operation) (phoneNumber amount : String)
  deriving DecidableEq

def Request.Reply : Request → Type
  | .getProviderOrThrow _ => Unit
  | .getOrCreateCircuitBreaker .. => Unit
  | .callProvider .. => ProviderResult

abbrev Service := Script Request Request.Reply Thrown

abbrev Answered := Exchange Request Request.Reply Thrown

def toLowerCase (text : String) : String :=
  String.ofList (text.toList.map Char.toLower)

def toUpperCase (text : String) : String :=
  String.ofList (text.toList.map Char.toUpper)

/-- The environment variables, the cached `fallback_order` settings by cache key, and the
time. -/
structure Setup where
  environment : String → Option String
  fallbackOrder : String → Option String
  now : Nat

variable (setup : Setup)

def Setup.sandbox : Bool :=
  setup.environment "IS_SANDBOX" = some "true"

def failoverEnabled : Bool :=
  match setup.environment "PROVIDER_FAILOVER_ENABLED" with
  | some value => toLowerCase value = "true"
  | none => true

/-- The configured backup; empty settings count as missing. -/
def getBackupProviderKey (primary : String) : Option String :=
  match (setup.fallbackOrder ("provider_setting_" ++ toLowerCase primary)).filter (· ≠ "") with
  | some order => some (toLowerCase order)
  | none => ((setup.environment ("PROVIDER_BACKUP_" ++ toUpperCase primary)).filter (· ≠ "")).map
      toLowerCase

def buildProviderFailureMessage (providerKey : String) (error : Thrown) (phase : String) : String :=
  let reason := (error.message?.filter (· ≠ "")).getD "provider operation failed"
  phase ++ " provider '" ++ providerKey ++ "' failed: " ++ reason

def toExecutionError : Thrown → Thrown
  | .text text => .error text
  | .other => .error "Provider call failed"
  | error => error

variable (result : CircuitBreakerActionResult)

/-- Without a detector of its own, which the service never sets. -/
def shouldCountFailure : Bool :=
  if result.success || result.retryable = some false then false
  else result.failureType ≠ some .business && result.failureType ≠ some .client &&
    result.failureType ≠ some .authentication

/-- A counted failure is thrown; its classification is lost with the result. -/
def normalizeResult : Service CircuitBreakerActionResult :=
  if shouldCountFailure result then throw (toExecutionError result.error) else return result

/-- `breaker.fire`: the action, and the fallback when it rejects, is given up, or the
circuit is open. -/
def fire (execute : Service CircuitBreakerActionResult)
    (fallback : Option (Thrown → Service CircuitBreakerActionResult)) :
    Service CircuitBreakerActionResult :=
  (execute.bind normalizeResult).catching fun error =>
    match fallback with
    | none => throw (toExecutionError error)
    | some fallback => (fallback error).bind normalizeResult

def executeWithCircuitBreaker (provider : String) (operation : Operation) (execute : Service CircuitBreakerActionResult)
    (fallback : Option (Thrown → Service CircuitBreakerActionResult)) :
    Service CircuitBreakerActionResult := do
  let _ ← Script.call (Request.getOrCreateCircuitBreaker provider operation)
  fire execute fallback

variable (op : Operation)

/-- The action: the provider's answer under the provider's name. -/
def execute (providerKey phoneNumber amount : String) : Service CircuitBreakerActionResult := do
  let result : ProviderResult ← Script.call (Request.callProvider providerKey op phoneNumber amount)
  if result.success then return ⟨true, providerKey, result.data, .other, none, none⟩
  else return ⟨false, providerKey, none, result.error, none, none⟩

def sandboxFault (providerKey : String) : Thrown :=
  .error ("SANDBOX_SECURITY_FAULT: External provider '" ++ providerKey ++
    "' is hard-blocked in Sandbox mode.")

def sandboxApproval : CircuitBreakerActionResult where
  success := true
  provider := "mock"
  data := some (.sandboxAutoApproved ("sandbox-auto-" ++ toString setup.now) "SUCCESSFUL")
  error := .other
  failureType := none
  retryable := none

/-- The operation at one provider, with a given phase and fallback. -/
def operate (providerKey phoneNumber amount phase : String)
    (fallback : Option (Thrown → Service CircuitBreakerActionResult)) :
    Service CircuitBreakerActionResult :=
  if setup.sandbox && providerKey ≠ "mock" then throw (sandboxFault providerKey)
  else do
    let _ ← Script.call (Request.getProviderOrThrow providerKey)
    if setup.sandbox && providerKey = "mock" then return sandboxApproval setup
    else
      (executeWithCircuitBreaker providerKey op (execute op providerKey phoneNumber amount)
        fallback).catching fun error =>
          throw (.mobileMoneyError "PROVIDER_ERROR"
            (buildProviderFailureMessage providerKey error phase) error)

/-- The operation as a backup: the call of `executeProviderOperation` by itself, which
never fails over again. -/
def operateBackup (backupKey phoneNumber amount : String) :
    Service CircuitBreakerActionResult :=
  operate setup op backupKey phoneNumber amount "backup" none

def failOver (providerKey backupKey phoneNumber amount : String)
    (error : Thrown) : Service CircuitBreakerActionResult :=
  if backupKey = providerKey then return ⟨false, providerKey, none, error, none, none⟩
  else operateBackup setup op backupKey phoneNumber amount

def executeProviderOperation (providerKey phoneNumber amount : String) (allowFailover : Bool) :
    Service CircuitBreakerActionResult :=
  let backupKey :=
    if allowFailover && failoverEnabled setup then getBackupProviderKey setup providerKey else none
  operate setup op providerKey phoneNumber amount (if allowFailover then "primary" else "backup")
    (backupKey.map fun backupKey => failOver setup op providerKey backupKey phoneNumber amount)

/-- What `initiatePayment` and `sendPayout` give back. -/
structure Receipt where
  success : Bool
  data : Option Data
  providerResponseTimeMs : Option Nat
  deriving DecidableEq

/-- The common part of the two public operations; no result carries a response time. -/
def perform (label provider phoneNumber amount : String) : Service Receipt := do
  let result ← executeProviderOperation setup op (toLowerCase provider) phoneNumber amount true
  if result.success then return ⟨true, result.data, none⟩
  else throw (.mobileMoneyError "PROVIDER_ERROR"
    (label ++ " failed for provider '" ++ toLowerCase provider ++ "'") result.error)

def initiatePayment (provider phoneNumber amount : String) : Service Receipt :=
  perform setup .requestPayment "Payment" provider phoneNumber amount

def sendPayout (setup : Setup) (provider phoneNumber amount : String) : Service Receipt :=
  perform setup .sendPayout "Payout" provider phoneNumber amount

end ProxyPay.MobileMoney
