import ProxyPay.Ledger.Service
import ProxyPay.Queue.Worker

/-! The rows of transactions and of their reversals, the awaited calls of the services that change them,
and the update of a status. Errors are what `String(error)` makes of them; logging is left out. -/

namespace ProxyPay.Transactions

open ProxyPay.Library
open ProxyPay.Queue (TransactionStatus UpdateChannel)

def TransactionStatus.text : TransactionStatus → String
  | .pending => "pending"
  | .completed => "completed"
  | .failed => "failed"
  | .cancelled => "cancelled"
  | .review => "review"
  | .dispute => "dispute"
  | .reversed => "reversed"
  | .clawedBack => "clawed_back"

structure TransactionRow where
  id : String
  referenceNumber : Varchar 25
  type : String
  amount : String
  provider : String
  userId : Option String
  status : TransactionStatus
  createdAt : ℕ
  deriving DecidableEq

inductive ReversalStatus where
  | requested
  | posted
  | notified
  | failed
  deriving DecidableEq

structure ReversalRecord where
  id : ℕ
  transactionId : String
  originalReference : String
  reversalReference : Option String
  reason : String
  status : ReversalStatus
  requestedBy : Option String
  ledgerEntries : ℕ
  alreadyReversed : Bool
  error : Option String
  notifiedAt : Option ℕ
  deriving DecidableEq

/-- What a transition of a reversal carries. -/
structure Detail where
  reason : Option String
  reversalReference : Option String
  ledgerEntries : Option ℕ
  alreadyReversed : Option Bool
  error : Option String
  deriving DecidableEq

def Detail.empty : Detail := ⟨none, none, none, none, none⟩

structure ReversalAuditEvent where
  reversalId : ℕ
  fromStatus : Option ReversalStatus
  toStatus : ReversalStatus
  actorId : Option String
  detail : Detail
  deriving DecidableEq

/-- The notification of the user whose payment was reversed. -/
structure Notification where
  userId : String
  transactionId : String
  message : String
  dedupKey : ℕ
  reversalReference : String
  originalReference : String
  reason : String
  deriving DecidableEq

inductive StalenessAlertState where
  | new
  | notifiedOnce
  | notifiedMultiple
  deriving DecidableEq

structure StaleTransactionState where
  transactionId : String
  state : StalenessAlertState
  alertCount : ℕ
  escalatedToReview : Bool
  deriving DecidableEq

/-- The answer of a provider, with the status of its data. -/
structure StatusResponse where
  success : Bool
  data : Option String
  deriving DecidableEq

/-- Calls after an update, which change no status. -/
inductive Effect where
  | invalidateUserCaches (userId : String)
  | invalidateProviderStats (provider : String)
  | invalidateGeneralStats
  | releaseIdempotencyKey (id : String)
  | publish (channel : UpdateChannel) (id referenceNumber : String) (status : TransactionStatus)
  | broadcast (id : String) (status : TransactionStatus) (userId : Option String)
  deriving DecidableEq

/-- The name `TERMINAL_IDEMPOTENCY_STATUSES` is declared nowhere, so that reading it may raise. -/
inductive Statement where
  | findById (id : String)
  | setStatus (id : String) (status : TransactionStatus) (userId : Option String)
  | terminalIdempotencyStatuses
  | perform (effect : Effect)
  | insertReversal (transactionId originalReference reason : String) (requestedBy : Option String)
  | insertEvent (event : ReversalAuditEvent)
  | postReversal (args : Ledger.ReversalArgs)
  | selectReversal (id : ℕ)
  | selectLatestReversal (transactionId : String)
  | updateReversal (id : ℕ) (status : ReversalStatus) (detail : Detail)
  | routeNotification (notification : Notification)
  | selectStale
  | getStaleState (transactionId : String)
  | setStaleState (state : StaleTransactionState)
  | clearStaleState (transactionId : String)
  | getTransactionStatus (provider referenceNumber : String)

def Statement.Reply : Statement → Type
  | .findById _ => Option TransactionRow
  | .setStatus .. => Option TransactionRow
  | .terminalIdempotencyStatuses => List TransactionStatus
  | .insertReversal .. => ReversalRecord
  | .postReversal _ => Ledger.ReversalResult
  | .selectReversal _ => Option ReversalRecord
  | .selectLatestReversal _ => Option ReversalRecord
  | .selectStale => List TransactionRow
  | .getStaleState _ => StaleTransactionState
  | .getTransactionStatus .. => StatusResponse
  | _ => Unit

abbrev Work := Script Statement Statement.Reply String

def ask (statement : Statement) : Work statement.Reply :=
  Script.call statement

/-- `new Error(message)`, as a text -/
def failure (message : String) : String :=
  "Error: " ++ message

def VALID_BASE_TRANSITIONS : TransactionStatus → List TransactionStatus
  | .pending => [.completed, .failed, .cancelled, .review]
  | .review => [.pending, .completed, .failed, .cancelled]
  | .completed => [.dispute, .reversed, .clawedBack]
  | .dispute => [.completed, .reversed, .failed]
  | _ => []

def isValidBaseTransition (current next : TransactionStatus) : Bool :=
  current = next || (VALID_BASE_TRANSITIONS current).contains next

def validateBaseTransition (txId : String) (current next : TransactionStatus) : Except String Unit :=
  if isValidBaseTransition current next then .ok ()
  else .error (failure ("Invalid transaction status transition from " ++ TransactionStatus.text current ++ " to " ++
    TransactionStatus.text next ++ " for transaction " ++ txId))

/-- `if (condition) { … }` -/
def whenever (condition : Prop) [Decidable condition] (work : Work Unit) : Work Unit :=
  if condition then work else return ()

def invalidateUser (userId : Option String) : Work Unit :=
  match Text.truthy userId with
  | some userId => Script.ignoringErrors (ask (.perform (.invalidateUserCaches userId)))
  | none => return ()

def invalidateStats (provider : String) : Work Unit :=
  if provider ≠ "" then Script.ignoringErrors (ask (.perform (.invalidateProviderStats provider)))
  else Script.ignoringErrors (ask (.perform .invalidateGeneralStats))

/-- What follows an UPDATE that has found its row. -/
def announce (id : String) (status : TransactionStatus) (row : TransactionRow) : Work Unit := do
  invalidateUser row.userId
  invalidateStats row.provider
  let terminal : List TransactionStatus ← ask .terminalIdempotencyStatuses
  whenever (status ∈ terminal) (Script.ignoringErrors (ask (.perform (.releaseIdempotencyKey id))))
  let _ ← ask (.perform (.publish (.transaction id) id row.referenceNumber.text status))
  let _ ← ask (.perform (.publish .transactionUpdated id row.referenceNumber.text status))
  let _ ← ask (.perform (.broadcast id status row.userId))
  return ()

/-- The UPDATE looks at nothing but the id and the user. -/
def store (id : String) (status : TransactionStatus) (userId : Option String) : Work Unit := do
  let updated : Option TransactionRow ← ask (.setStatus id status (Text.truthy userId))
  match updated with
  | some row => announce id status row
  | none => return ()

def updateStatus (id : String) (status : TransactionStatus) (userId : Option String)
    (currentStatus : Option TransactionStatus) : Work Unit := do
  let _ ← Script.check (match currentStatus with
    | some current => validateBaseTransition id current status
    | none => .ok ())
  store id status userId

/-! What an update of a status asks for. -/

section Asks

variable {allowed : Statement → Prop}

theorem whenever_asks {condition : Prop} [Decidable condition] {work : Work Unit} (asks : work.Asks allowed) :
    (whenever condition work).Asks allowed := by
  unfold whenever
  by_cases holds : condition
  · rw [if_pos holds]
    exact asks
  · rw [if_neg holds]
    trivial

theorem announce_asks (effects : ∀ effect, allowed (.perform effect)) (terminal : allowed .terminalIdempotencyStatuses)
    (id : String) (status : TransactionStatus) (row : TransactionRow) : (announce id status row).Asks allowed := by
  have effect (effect : Effect) : (ask (.perform effect)).Asks allowed := .call (effects effect)
  have user : (invalidateUser row.userId).Asks allowed := by
    unfold invalidateUser
    cases Text.truthy row.userId with
    | none => trivial
    | some userId => exact (effect _).ignoringErrors
  have stats : (invalidateStats row.provider).Asks allowed := by
    unfold invalidateStats
    split
    · exact (effect _).ignoringErrors
    · exact (effect _).ignoringErrors
  apply user.bind fun _ => stats.bind fun _ => ?_
  apply Script.Asks.bind (.call terminal)
  intro (terminal : List TransactionStatus)
  apply (whenever_asks (effect _).ignoringErrors).bind
  intro _
  apply (effect _).bind
  intro _
  apply (effect _).bind
  intro _
  apply (effect _).bind
  intro _
  trivial

section

variable {id : String} {status : TransactionStatus} (writes : ∀ userId, allowed (.setStatus id status userId))
  (effects : ∀ effect, allowed (.perform effect)) (terminal : allowed .terminalIdempotencyStatuses)

include writes effects terminal

theorem store_asks (userId : Option String) : (store id status userId).Asks allowed := by
  refine ⟨writes _, fun updated => ?_⟩
  match updated with
  | .error error | .ok none => trivial
  | .ok (some row) => exact announce_asks effects terminal id status row

theorem updateStatus_asks (userId currentStatus) : (updateStatus id status userId currentStatus).Asks allowed := by
  apply Script.Asks.bind
  · trivial
  · intro _
    exact store_asks writes effects terminal userId

end

end Asks

end ProxyPay.Transactions
