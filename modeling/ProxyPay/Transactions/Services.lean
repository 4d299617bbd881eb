import ProxyPay.Library.Fault
import ProxyPay.Library.InsertionMap
import ProxyPay.Transactions.Model

/-! The reversal of a payment, and the watchdog that ends pending payments. -/

namespace ProxyPay.Transactions

open ProxyPay.Library
open ProxyPay.Queue (TransactionStatus)

structure TransactionReversalResult where
  transaction : TransactionRow
  reversal : Ledger.ReversalResult
  record : Option ReversalRecord
  notified : Bool

def isTerminal (status : ReversalStatus) : Bool :=
  status = .notified || status = .failed

/-- A failure to write the audit trail is only logged. -/
def appendAuditEvent (event : ReversalAuditEvent) : Work Unit :=
  Script.ignoringErrors (ask (.insertEvent event))

def createReversalRecord (transaction : TransactionRow) (reason : String) (requestedBy : Option String) :
    Work ReversalRecord := do
  let record : ReversalRecord ← ask
    (.insertReversal transaction.id transaction.referenceNumber.text reason requestedBy)
  appendAuditEvent ⟨record.id, none, .requested, requestedBy, { Detail.empty with reason := some reason }⟩
  return record

def transition (reversalId : ℕ) (toStatus : ReversalStatus) (actorId : Option String) (detail : Detail) :
    Work Unit := do
  let current : Option ReversalRecord ← ask (.selectReversal reversalId)
  if current.any (fun record => isTerminal record.status) then return ()
  else do
    let _ ← ask (.updateReversal reversalId toStatus detail)
    appendAuditEvent ⟨reversalId, current.map ReversalRecord.status, toStatus, actorId, detail⟩

variable (upper : String → String)

/-- The notification, where `upper` is `toUpperCase`. -/
def reversalNotification (transaction : TransactionRow) (reason reversalReference : String)
    (reversalId : ℕ) (userId : String) : Notification where
  userId := userId
  transactionId := transaction.id
  message := "Your " ++ transaction.type ++ " of " ++ transaction.amount ++ " " ++ upper transaction.provider ++
    " has been reversed. Reason: " ++ reason ++
    (if reversalReference ≠ "" then " Reference: " ++ reversalReference ++ "." else ".")
  dedupKey := reversalId
  reversalReference := reversalReference
  originalReference := transaction.referenceNumber.text
  reason := reason

def notifyReversal (transaction : TransactionRow) (reason reversalReference : String)
    (reversalId : ℕ) : Work Bool :=
  match Text.truthy transaction.userId with
  | none => return false
  | some userId =>
    Script.catching
      (do
        let _ ← ask (.routeNotification
          (reversalNotification upper transaction reason reversalReference reversalId userId))
        return true)
      fun _ => return false

def allowedStatuses (allowCompleted : Bool) : List TransactionStatus :=
  [.failed, .dispute] ++ if allowCompleted then [.completed] else []

/-- What follows the posting of the compensating entries. -/
def complete (transaction : TransactionRow) (reason : String) (actorId : Option String)
    (reversalId : ℕ) (reversal : Ledger.ReversalResult) : Work TransactionReversalResult := do
  let reversalReference := Ledger.reversalReference transaction.referenceNumber.text
  whenever (transaction.status ≠ .reversed) (updateStatus transaction.id .reversed none none)
  transition reversalId .posted actorId
    { Detail.empty with
      reversalReference := some reversalReference
      ledgerEntries := some reversal.entries.length
      alreadyReversed := some reversal.alreadyReversed }
  let notified ← notifyReversal upper transaction reason reversalReference reversalId
  whenever (notified = true) (transition reversalId .notified actorId .empty)
  let updated : Option TransactionRow ← ask (.findById transaction.id)
  let record : Option ReversalRecord ← ask (.selectReversal reversalId)
  return ⟨updated.getD transaction, reversal, record, notified⟩

/-- The section that is guarded by `try`. -/
def attempt (transaction : TransactionRow) (reason : String) (actorId : Option String)
    (reversalId : ℕ) : Work TransactionReversalResult := do
  let reversal : Ledger.ReversalResult ← ask
    (.postReversal ⟨transaction.id, transaction.referenceNumber.text, reason, actorId⟩)
  complete upper transaction reason actorId reversalId reversal

/-- The attempt, whose failure fails the record. -/
def guarded (transaction : TransactionRow) (reason : String) (actorId : Option String)
    (reversalId : ℕ) : Work TransactionReversalResult :=
  Script.catching (attempt upper transaction reason actorId reversalId) fun error => do
    transition reversalId .failed actorId { Detail.empty with error := some error }
    throw error

def reverseFound (transaction : TransactionRow) (reason : String) (actorId : Option String)
    (allowCompleted : Bool) : Work TransactionReversalResult :=
  if transaction.status = .reversed then do
    let record : Option ReversalRecord ← ask (.selectLatestReversal transaction.id)
    return ⟨transaction, ⟨true, []⟩, record, false⟩
  else if transaction.status ∉ allowedStatuses allowCompleted then
    throw (failure ("Cannot reverse transaction in status: " ++ TransactionStatus.text transaction.status))
  else do
    let record ← createReversalRecord transaction reason actorId
    guarded upper transaction reason actorId record.id

def reverse (transactionId reason : String) (actorId : Option String)
    (allowCompleted : Bool) : Work TransactionReversalResult := do
  let found : Option TransactionRow ← ask (.findById transactionId)
  match found with
  | none => throw (failure ("Transaction " ++ transactionId ++ " not found"))
  | some transaction => reverseFound upper transaction reason actorId allowCompleted

section Asks

variable {allowed : Statement → Prop}

theorem appendAuditEvent_asks (events : ∀ event, allowed (.insertEvent event)) (event : ReversalAuditEvent) :
    (appendAuditEvent event).Asks allowed :=
  Script.Asks.ignoringErrors (.call (events event))

theorem notifyReversal_asks (routes : ∀ notification, allowed (.routeNotification notification))
    (upper : String → String) (transaction : TransactionRow) (reason reference : String) (reversalId : ℕ) :
    (notifyReversal upper transaction reason reference reversalId).Asks allowed := by
  unfold notifyReversal
  cases Text.truthy transaction.userId with
  | none => trivial
  | some userId =>
    apply Script.Asks.catching
    · refine ⟨routes _, fun reply => ?_⟩
      cases reply with
      | error error | ok routed => trivial
    · intro _
      trivial

end Asks

/-! The watchdog. -/

/-- `STALE_TRANSACTION_HOURS`, `STALE_TX_MAX_ALERTS` and `STALE_TX_ESCALATION_THRESHOLD` -/
structure WatchdogConfig where
  staleHours : ℕ
  maxAlerts : ℕ
  escalationThreshold : ℕ

/-- Whether to alert and whether to escalate. -/
structure StaleAlert where
  state : StaleTransactionState
  shouldAlert : Bool
  shouldEscalate : Bool

variable (config : WatchdogConfig)

def staleAlert (current : StaleTransactionState) : StaleAlert :=
  let newAlertCount := current.alertCount + 1
  let shouldEscalate := config.escalationThreshold ≤ newAlertCount && !current.escalatedToReview
  { state :=
      { current with
        state := if 1 < newAlertCount then .notifiedMultiple else .notifiedOnce
        alertCount := newAlertCount
        escalatedToReview := current.escalatedToReview || shouldEscalate }
    shouldAlert := current.alertCount < config.maxAlerts
    shouldEscalate }

def recordStaleAlert (transactionId : String) : Work StaleAlert := do
  let current : StaleTransactionState ← ask (.getStaleState transactionId)
  let alert := staleAlert config { current with transactionId }
  let _ ← ask (.setStaleState alert.state)
  return alert

/-- What becomes of a pending transaction after the provider's answer. -/
def verdict (response : StatusResponse) : TransactionStatus :=
  if response.success then
    match response.data with
    | some providerStatus =>
      if providerStatus = "completed" ∨ providerStatus = "successful" then .completed
      else .failed
    | none => .failed
  else .failed

def resolve (row : TransactionRow) : Work Unit := do
  let response : StatusResponse ← ask (.getTransactionStatus row.provider row.referenceNumber.text)
  updateStatus row.id (verdict response) none none
  let _ ← ask (.clearStaleState row.id)
  return ()

def watch (row : TransactionRow) : Work Unit := do
  let alert ← recordStaleAlert config row.id
  if alert.shouldEscalate then updateStatus row.id .review none none
  else if alert.shouldAlert then Script.ignoringErrors (resolve row)
  else return ()

def watchAll (config : WatchdogConfig) : List TransactionRow → Work Unit
  | [] => return ()
  | row :: rest => do
    watch config row
    watchAll config rest

def runStaleTransactionWatchdog : Work Unit := do
  let rows : List TransactionRow ← ask .selectStale
  watchAll config rows

end ProxyPay.Transactions

/-! The tables under the services, with the states that a replica may still show, and the calls of the
services in any order of their statements. -/

namespace ProxyPay.Transactions

open ProxyPay.Library
open ProxyPay.Queue (TransactionStatus)

structure Database where
  now : ℕ
  transactions : List TransactionRow
  ledger : Ledger.Database
  reversals : List ReversalRecord
  events : List ReversalAuditEvent
  alerts : InsertionMap String StaleTransactionState

/-- The primary, and its earlier states from the latest one on. -/
structure Store where
  db : Database
  past : List Database

/-- What the process is given. -/
structure Platform where
  ledger : Ledger.Server
  upper : String → String
  watchdog : WatchdogConfig
  terminalIdempotencyStatuses : Option (List TransactionStatus)

/-- How a statement meets the world: the time that passes before it, a lost connection, how far back the
replica is that answers a read, the moment of a posting, what Redis knows, and what a provider answers. -/
structure Event where
  elapsed : ℕ
  fault : Option Fault
  lag : ℕ
  moment : Ledger.Moment
  redis : Option StaleTransactionState
  response : StatusResponse

def TransactionRow.matches (row : TransactionRow) (id : String) (userId : Option String) : Bool :=
  row.id = id && userId.all fun user => row.userId = some user

namespace Database

variable (db : Database)

def wait (elapsed : ℕ) : Database :=
  { db with now := db.now + elapsed }

/-- `UPDATE transactions SET status = … WHERE id = … RETURNING …` -/
def setStatus (id : String) (status : TransactionStatus) (userId : Option String) : Database :=
  { db with transactions := db.transactions.map fun row =>
      if row.matches id userId then { row with status } else row }

def stale (config : WatchdogConfig) : List TransactionRow :=
  (db.transactions.filter fun row =>
    row.status = .pending && row.createdAt + config.staleHours * 3600000 < db.now).insertionSort
      fun first second => first.createdAt ≤ second.createdAt

def insertReversal (transactionId originalReference reason : String) (requestedBy : Option String) :
    ReversalRecord × Database :=
  let record : ReversalRecord :=
    ⟨db.reversals.length, transactionId, originalReference, none, reason, .requested, requestedBy, 0, false, none, none⟩
  (record, { db with reversals := db.reversals ++ [record] })

/-- The columns that a transition sets. -/
def moved (record : ReversalRecord) (status : ReversalStatus) (detail : Detail) : ReversalRecord :=
  { record with
    status
    reversalReference := detail.reversalReference.orElse fun _ => record.reversalReference
    ledgerEntries := detail.ledgerEntries.getD record.ledgerEntries
    alreadyReversed := detail.alreadyReversed.getD record.alreadyReversed
    error := detail.error.orElse fun _ => record.error
    notifiedAt := if status = .notified then some db.now else record.notifiedAt }

def updateReversal (id : ℕ) (status : ReversalStatus) (detail : Detail) : Database :=
  { db with reversals := db.reversals.map fun record =>
      if record.id = id then db.moved record status detail else record }

end Database

def undeclared : String :=
  "ReferenceError: TERMINAL_IDEMPOTENCY_STATUSES is not defined"

variable (platform : Platform)

/-- A statement on the primary, where `shown` is what a read sees. -/
def execute (event : Event) (shown db : Database) :
    (statement : Statement) → Except String (statement.Reply × Database)
  | .findById id => .ok (shown.transactions.find? fun row => row.id = id, db)
  | .setStatus id status userId =>
    .ok (db.transactions.find? fun row => row.matches id userId, db.setStatus id status userId)
  | .terminalIdempotencyStatuses =>
    match platform.terminalIdempotencyStatuses with
    | some statuses => .ok (statuses, db)
    | none => .error undeclared
  | .perform _ => .ok ((), db)
  | .insertReversal transactionId originalReference reason requestedBy =>
    .ok (db.insertReversal transactionId originalReference reason requestedBy)
  | .insertEvent entry => .ok ((), { db with events := db.events ++ [entry] })
  | .postReversal args =>
    match Ledger.postReversal platform.ledger event.moment args db.ledger with
    | .ok result ledger => .ok (result, { db with ledger })
    | .error message _ => .error (failure message)
  | .selectReversal id => .ok (shown.reversals.find? fun record => record.id = id, db)
  | .selectLatestReversal transactionId =>
    .ok (shown.reversals.reverse.find? fun record => record.transactionId = transactionId, db)
  | .updateReversal id status detail => .ok ((), db.updateReversal id status detail)
  | .routeNotification _ => .ok ((), db)
  | .selectStale => .ok (db.stale platform.watchdog, db)
  | .getStaleState transactionId =>
    .ok (event.redis.getD ((db.alerts.get? transactionId).getD ⟨transactionId, .new, 0, false⟩), db)
  | .setStaleState state => .ok ((), { db with alerts := db.alerts.set state.transactionId state })
  | .clearStaleState transactionId => .ok ((), { db with alerts := db.alerts.erase transactionId })
  | .getTransactionStatus .. => .ok (event.response, db)

/-- Failures of Redis are caught where the watchdog counts its alerts. -/
def Statement.mayFail : Statement → Bool
  | .terminalIdempotencyStatuses => false
  | .getStaleState _ => false
  | .setStaleState _ => false
  | .clearStaleState _ => false
  | _ => true

def connectionLost : String :=
  failure "Connection terminated unexpectedly"

/-- What a read sees. -/
def Store.shown (store : Store) (lag : ℕ) : Database :=
  ((store.db :: store.past)[lag]?).getD store.db

def server : Server Statement Statement.Reply String Event Store where
  serve store event statement :=
    let db := store.db.wait event.elapsed
    let result := execute platform event ((⟨db, store.past⟩ : Store).shown event.lag) db statement
    let delivered := Fault.deliver connectionLost db (if statement.mayFail then event.fault else none) result
    (delivered.1, delivered.2.1, ⟨delivered.2.2, store.db :: store.past⟩)

inductive Operation where
  | updateStatus (id : String) (status : TransactionStatus) (userId : Option String)
      (currentStatus : Option TransactionStatus)
  | reverse (transactionId reason : String) (actorId : Option String) (allowCompleted : Bool)
  | runStaleTransactionWatchdog
  deriving DecidableEq

def Operation.script : Operation → Work Unit
  | .updateStatus id status userId currentStatus => Transactions.updateStatus id status userId currentStatus
  | .reverse transactionId reason actorId allowCompleted => do
    let _ ← Transactions.reverse platform.upper transactionId reason actorId allowCompleted
    return ()
  | .runStaleTransactionWatchdog => Transactions.runStaleTransactionWatchdog platform.watchdog

end ProxyPay.Transactions
