import Mathlib.Algebra.Order.Ring.Rat
import Mathlib.Data.Nat.Cast.Order.Ring
import ProxyPay.Library.Text
import ProxyPay.Library.Total

/-! `TransactionLimitService`: the check of an amount against what a user has completed in the last day.
Amounts are exact. -/

namespace ProxyPay.Limits

open ProxyPay.Library ProxyPay.Library.Text

inductive KYCLevel where
  | unverified
  | basic
  | full
  deriving DecidableEq

def KYCLevel.text : KYCLevel → String
  | .unverified => "unverified"
  | .basic => "basic"
  | .full => "full"

/-- The configured limits; the smallest amount is checked when the module is loaded. `getProviderLimits` gives
the daily limit of a known provider, `template` writes a number into a text. No text but the empty one is empty
in lower case. -/
structure Config where
  TRANSACTION_LIMITS : KYCLevel → ℕ
  MIN_TRANSACTION_AMOUNT : ℕ
  MAX_TRANSACTION_AMOUNT : ℕ
  positive : 0 < MIN_TRANSACTION_AMOUNT
  getProviderLimits : String → Option ℕ
  casing : Casing
  visible : ∀ text, casing.lower text = casing.lower "" → text = ""
  template : ℚ → String

inductive TransactionStatus where
  | pending
  | completed
  | failed
  deriving DecidableEq

/-- A row of `transactions`; times are milliseconds. -/
structure Transaction where
  userId : String
  amount : ℚ
  provider : Option String
  status : TransactionStatus
  createdAt : ℕ
  deriving DecidableEq

structure LimitCheckResult where
  allowed : Bool
  kycLevel : KYCLevel
  dailyLimit : ℚ
  currentDailyTotal : ℚ
  remainingLimit : ℚ
  message : Option String
  upgradeAvailable : Option Bool
  deriving DecidableEq

def twentyFourHours : ℕ := 24 * 60 * 60 * 1000

def findCompletedByUserSince (transactions : List Transaction) (userId : String) (since : ℕ) : List Transaction :=
  transactions.filter fun tx => tx.userId = userId && tx.status = .completed && since ≤ tx.createdAt

variable (config : Config)

variable (provider : Option String)

def getProviderDailyLimit : Option ℕ :=
  match truthy provider with
  | none => none
  | some provider => config.getProviderLimits (config.casing.lower provider)

/-- Whether the transaction is one of this provider. -/
def isOf (provider : String) (tx : Transaction) : Bool :=
  config.casing.lower (tx.provider.getD "") = config.casing.lower provider

def getProviderDailyTotal (recentTransactions : List Transaction) (provider : Option String) : ℚ :=
  match truthy provider with
  | none => 0
  | some provider => total Transaction.amount (isOf config provider) recentTransactions

def buildErrorMessage (level : KYCLevel) (limit current attempted : ℚ) : String :=
  "Transaction limit exceeded. Your " ++ level.text ++ " KYC level allows " ++ config.template limit ++
    " XAF per day. " ++ "Current daily total: " ++ config.template current ++ " XAF. Attempted transaction: " ++
    config.template attempted ++ " XAF." ++
    match level with
    | .unverified => " Upgrade to Basic KYC for 100,000 XAF daily limit."
    | .basic => " Upgrade to Full KYC for 1,000,000 XAF daily limit."
    | .full => ""

def buildProviderErrorMessage (limit current attempted : ℚ) : String :=
  let providerName := match truthy provider with
    | some provider => config.casing.upper provider
    | none => "Provider"
  providerName ++ " daily limit exceeded. " ++ providerName ++ " allows " ++ config.template limit ++
    " XAF per day. Current provider total: " ++ config.template current ++ " XAF. Attempted transaction: " ++
    config.template attempted ++ " XAF."

/-- The answer for an amount out of range, before anything is read. -/
def outOfRange (message : String) : LimitCheckResult :=
  ⟨false, .unverified, 0, 0, 0, some message, none⟩

/-- `kycLevel` is the level of the user, if there is such a user. -/
def checkTransactionLimit (kycLevel : Option KYCLevel) (transactions : List Transaction) (now : ℕ)
    (userId : String) (transactionAmount : ℚ) (provider : Option String) : Except String LimitCheckResult :=
  if transactionAmount < config.MIN_TRANSACTION_AMOUNT then
    return outOfRange ("Transaction amount too small. Minimum allowed: " ++
      config.template config.MIN_TRANSACTION_AMOUNT ++ " XAF. Attempted: " ++ config.template transactionAmount ++ " XAF.")
  else if config.MAX_TRANSACTION_AMOUNT < transactionAmount then
    return outOfRange ("Transaction amount too large. Maximum allowed: " ++
      config.template config.MAX_TRANSACTION_AMOUNT ++ " XAF. Attempted: " ++ config.template transactionAmount ++ " XAF.")
  else
    match kycLevel with
    | none => throw "User not found"
    | some kycLevel =>
      let globalDailyLimit : ℚ := config.TRANSACTION_LIMITS kycLevel
      let recentTransactions := findCompletedByUserSince transactions userId (now - twentyFourHours)
      let currentDailyTotal := (recentTransactions.map Transaction.amount).sum
      let providerDailyLimit := getProviderDailyLimit config provider
      let providerCurrentDailyTotal := getProviderDailyTotal config recentTransactions provider
      let newProviderTotal := providerCurrentDailyTotal + transactionAmount
      match providerDailyLimit.filter fun limit => (limit : ℚ) < newProviderTotal with
      | some providerDailyLimit =>
        return {
          allowed := false
          kycLevel
          dailyLimit := providerDailyLimit
          currentDailyTotal := providerCurrentDailyTotal
          remainingLimit := max 0 (providerDailyLimit - providerCurrentDailyTotal)
          message := some (buildProviderErrorMessage config provider providerDailyLimit providerCurrentDailyTotal
            transactionAmount)
          upgradeAvailable := some (kycLevel ≠ .full) }
      | none =>
        let newTotal := currentDailyTotal + transactionAmount
        if globalDailyLimit < newTotal then
          return {
            allowed := false
            kycLevel
            dailyLimit := globalDailyLimit
            currentDailyTotal
            remainingLimit := globalDailyLimit - currentDailyTotal
            message := some (buildErrorMessage config kycLevel globalDailyLimit currentDailyTotal transactionAmount)
            upgradeAvailable := some (kycLevel ≠ .full) }
        else
          return {
            allowed := true
            kycLevel
            dailyLimit := min globalDailyLimit ((providerDailyLimit.map fun limit => (limit : ℚ)).getD globalDailyLimit)
            currentDailyTotal
            remainingLimit := globalDailyLimit - newTotal
            message := none
            upgradeAvailable := none }

/-- A request that a check has let through and that is not yet a transaction. -/
structure Request where
  userId : String
  amount : ℚ
  provider : Option String
  deriving DecidableEq

structure Traffic where
  now : ℕ
  transactions : List Transaction
  admitted : List Request
  deriving DecidableEq

def Traffic.initial (now : ℕ) : Traffic := ⟨now, [], []⟩

/-- Time passes, a request is checked, an admitted request becomes a transaction or is given up, and a
transaction completes or fails. -/
inductive Label where
  | tick (elapsed : ℕ)
  | check (request : Request)
  | create (index : ℕ)
  | abandon (index : ℕ)
  | complete (index : ℕ)
  | fail (index : ℕ)
  deriving DecidableEq

variable (getUserKYCLevel : String → Option KYCLevel)

variable (traffic : Traffic)

def allows (request : Request) : Bool :=
  match checkTransactionLimit config (getUserKYCLevel request.userId) traffic.transactions traffic.now request.userId
    request.amount request.provider with
  | .ok result => result.allowed
  | .error _ => false

def Traffic.settle (index : ℕ) (status : TransactionStatus) : Option Traffic := do
  let tx ← traffic.transactions[index]?
  if tx.status = .pending then
    some { traffic with transactions := traffic.transactions.set index { tx with status } }
  else none

def Traffic.perform : Label → Option Traffic
  | .tick elapsed => some { traffic with now := traffic.now + elapsed }
  | .check request =>
    if allows config getUserKYCLevel traffic request then
      some { traffic with admitted := traffic.admitted ++ [request] }
    else some traffic
  | .create index => do
    let request ← traffic.admitted[index]?
    some { traffic with
      admitted := traffic.admitted.eraseIdx index
      transactions := traffic.transactions ++
        [⟨request.userId, request.amount, request.provider, .pending, traffic.now⟩] }
  | .abandon index => some { traffic with admitted := traffic.admitted.eraseIdx index }
  | .complete index => traffic.settle index .completed
  | .fail index => traffic.settle index .failed

def step (before : Traffic) (label : Label) (after : Traffic) : Prop :=
  before.perform config getUserKYCLevel label = some after

end ProxyPay.Limits
