import Mathlib.Data.List.Sort
import ProxyPay.BatchWorker.Processor
import ProxyPay.Library.Fault
import ProxyPay.Library.InsertionMap
import ProxyPay.MobileMoney.BatchPayout
import ProxyPay.Queue.Worker

/-! The worker that pays pending withdrawals in batches: its cycle, the table of transactions and the
provider. Progress webhooks, whose failures are ignored, are left out. -/

namespace ProxyPay.BatchWorker

open ProxyPay.Library
open MobileMoney (BatchPayoutItem BatchPayoutResult)
open Queue (TransactionStatus)

structure Transaction where
  id : String
  type : String
  provider : String
  phoneNumber : String
  amount : String
  status : TransactionStatus
  createdAt : ℕ
  deriving DecidableEq

structure PendingPayout where
  transactionId : String
  phoneNumber : String
  amount : String
  provider : String
  deriving DecidableEq

/-- The table of transactions, and the ids of the payouts that the provider made, in order. -/
structure Store where
  transactions : List Transaction
  payments : List String
  deriving DecidableEq

inductive BatchItemStatus where
  | completed
  | failed
  deriving DecidableEq

inductive BatchOperationStatus where
  | processing
  | failed
  deriving DecidableEq

/-- What the worker awaits. -/
inductive Request where
  | findByStatusAndProvider (status : TransactionStatus) (provider type : String) (limit : ℕ)
  | createBatchOperation (provider : String) (totalItems : ℕ)
  | updateBatchOperation (operation : String) (status : BatchOperationStatus)
  | sendBatchStartedWebhook (operation : String)
  | sendBatchFailedWebhook (operation error : String)
  | createBatchItem (operation : String) (payout : PendingPayout)
  | sendBatchPayout (provider : String) (items : List BatchPayoutItem)
  | findByReferenceId (operation reference : String)
  | updateStatus (id : String) (status : TransactionStatus)
  | patchMetadata (id name value : String)
  | updateBatchItem (item : String) (status : BatchItemStatus) (error reference : Option String)
  | notifyTransactionWebhook (id event : String)
  | sendTransactionEmail (id : String)
  | sendFailureEmail (id reason : String)
  | sendTransactionPush (id status : String) (error : Option String)
  | sendTxnSms (payout : PendingPayout) (kind : String) (error : Option String)
  | publish (routingKey id status : String) (error : Option String)
  deriving DecidableEq

def Request.Reply : Request → Type
  | .findByStatusAndProvider .. => List Transaction
  | .createBatchOperation .. => String
  | .sendBatchPayout .. => List BatchPayoutResult
  | .findByReferenceId .. => Option String
  | _ => Unit

abbrev Work := Script Request Request.Reply String

def ask (request : Request) : Work request.Reply :=
  Script.call request

def batchSize : ℕ := 100

def payoutOf (row : Transaction) : PendingPayout :=
  ⟨row.id, row.phoneNumber, row.amount, row.provider⟩

def fetchPendingPayouts (provider : String) : Work (List PendingPayout) := do
  let rows : List Transaction ← ask (.findByStatusAndProvider .pending provider "withdraw" batchSize)
  return rows.map payoutOf

def noResult : String := "No result returned from batch processing"

def updateItem (batchItem : Option String) (status : BatchItemStatus) (error reference : Option String) : Work Unit :=
  match batchItem with
  | some item => ask (.updateBatchItem item status error reference)
  | none => return ()

/-- `sendTxnSms` catches whatever is thrown inside. -/
def sendTxnSms (payout : PendingPayout) (kind : String) (error : Option String) : Work Unit :=
  (ask (.sendTxnSms payout kind error)).ignoringErrors

variable (payout : PendingPayout)

def storeReference (reference : Option String) : Work Unit :=
  match reference.filter (· ≠ "") with
  | some reference => ask (.patchMetadata payout.transactionId "providerReference" reference)
  | none => return ()

def settleMissing (batchItem : Option String) : Work Unit := do
  ask (.updateStatus payout.transactionId .failed)
  ask (.patchMetadata payout.transactionId "batchError" noResult)
  updateItem batchItem .failed (some noResult) none

def settlePaid (batchItem reference : Option String) : Work Unit := do
  ask (.updateStatus payout.transactionId .completed)
  storeReference payout reference
  updateItem batchItem .completed none reference
  ask (.notifyTransactionWebhook payout.transactionId "transaction.completed")
  ask (.sendTransactionEmail payout.transactionId)
  ask (.sendTransactionPush payout.transactionId "completed" none)
  sendTxnSms payout "transaction_completed" none
  ask (.publish "transaction.completed" payout.transactionId "completed" none)

def settleUnpaid (batchItem : Option String) (errorMsg : String)
    (reference : Option String) : Work Unit := do
  ask (.updateStatus payout.transactionId .failed)
  ask (.patchMetadata payout.transactionId "batchError" errorMsg)
  updateItem batchItem .failed (some errorMsg) reference
  ask (.notifyTransactionWebhook payout.transactionId "transaction.failed")
  ask (.sendFailureEmail payout.transactionId errorMsg)
  ask (.sendTransactionPush payout.transactionId "failed" (some errorMsg))
  sendTxnSms payout "transaction_failed" (some errorMsg)
  ask (.publish "transaction.failed" payout.transactionId "failed" (some errorMsg))

def processSinglePayoutResult (result : Option BatchPayoutResult)
    (operation : String) : Work Unit := do
  let batchItem : Option String ← ask (.findByReferenceId operation payout.transactionId)
  match result with
  | none => settleMissing payout batchItem
  | some result =>
    if result.success then settlePaid payout batchItem result.providerReference
    else
      settleUnpaid payout batchItem ((result.error.filter (· ≠ "")).getD "Batch payout failed")
        result.providerReference

def createItems (operation : String) : List PendingPayout → Work Unit
  | [] => return ()
  | payout :: rest => do
    ask (.createBatchItem operation payout)
    createItems operation rest

/-- What `processBatchResults` is called with. -/
structure Settlement where
  operation : String
  payouts : List PendingPayout
  results : List BatchPayoutResult

def batchItem : BatchPayoutItem :=
  ⟨payout.transactionId, payout.phoneNumber, payout.amount⟩

/-- The call of the provider; where it throws, the operation is marked as failed first. -/
def sendOrFail (provider operation : String) (items : List BatchPayoutItem) : Work (List BatchPayoutResult) :=
  (ask (.sendBatchPayout provider items)).catching fun error => do
    (ask (.updateBatchOperation operation .failed)).ignoringErrors
    (ask (.sendBatchFailedWebhook operation error)).ignoringErrors
    throw error

/-- `processBatch` until the results are there. -/
def processBatch (provider : String) : Work (Option Settlement) := do
  let payouts ← fetchPendingPayouts provider
  if payouts = [] then return none
  else
    let operation : String ← ask (.createBatchOperation provider payouts.length)
    ask (.updateBatchOperation operation .processing)
    (ask (.sendBatchStartedWebhook operation)).ignoringErrors
    createItems operation payouts
    let results ← sendOrFail provider operation (payouts.map batchItem)
    return some ⟨operation, payouts, results⟩

variable (settlement : Settlement)

def Settlement.resultMap : InsertionMap String BatchPayoutResult :=
  .ofPairs (settlement.results.map fun result => (result.referenceId, result))

/-- The processor of `processBatchResults`. -/
def Settlement.work (payout : PendingPayout) : Work Unit :=
  processSinglePayoutResult payout (settlement.resultMap.get? payout.transactionId) settlement.operation

/-- What decides the answer of a request: whether it or its reply is lost, whether the provider accepts
the batch, and what it and the other tables answer. -/
structure Event where
  fault : Option Fault
  accepted : Bool
  results : List BatchPayoutResult
  found : Option String
  drawn : String
  deriving DecidableEq

def connectionLost : String := "Connection terminated unexpectedly"

variable (store : Store)

/-- The rows that the query finds; it returns no more than fifty. -/
def Store.find (status : TransactionStatus) (provider type : String) (limit : ℕ) : List Transaction :=
  ((store.transactions.filter fun row =>
    row.status = status && row.provider = MobileMoney.toLowerCase provider && row.type = type).insertionSort
      fun first second => first.createdAt ≤ second.createdAt).take (min (max limit 1) 50)

def Store.setStatus (id : String) (status : TransactionStatus) : Store :=
  { store with transactions := store.transactions.map fun row =>
      if row.id = id then { row with status } else row }

/-- The provider pays every item of a request that it accepts. -/
def Store.pay (items : List BatchPayoutItem) : Store :=
  { store with payments := store.payments ++ items.map BatchPayoutItem.referenceId }

def perform (event : Event) : (request : Request) → request.Reply × Store
  | .findByStatusAndProvider status provider type limit => (store.find status provider type limit, store)
  | .createBatchOperation .. => (event.drawn, store)
  | .sendBatchPayout _ items => (event.results, if event.accepted then store.pay items else store)
  | .findByReferenceId .. => (event.found, store)
  | .updateStatus id status => ((), store.setStatus id status)
  | .updateBatchOperation .. => ((), store)
  | .sendBatchStartedWebhook _ => ((), store)
  | .sendBatchFailedWebhook .. => ((), store)
  | .createBatchItem .. => ((), store)
  | .patchMetadata .. => ((), store)
  | .updateBatchItem .. => ((), store)
  | .notifyTransactionWebhook .. => ((), store)
  | .sendTransactionEmail _ => ((), store)
  | .sendFailureEmail .. => ((), store)
  | .sendTransactionPush .. => ((), store)
  | .sendTxnSms .. => ((), store)
  | .publish .. => ((), store)

def server : Server Request Request.Reply String Event Store where
  serve store event request :=
    Fault.deliver connectionLost store event.fault (.ok (perform store event request))

/-- Where the worker stands in its cycle. -/
inductive Phase where
  | idle
  | preparing (rest : Work (Option Settlement))
  | settling (settlement : Settlement) (processing : Processing PendingPayout Request Request.Reply String)

/-- The worker, the table and the provider; `reported` are the transactions that finished cycles were told
to be paid. -/
structure System where
  store : Store
  reported : List String
  phase : Phase

def System.initial : System := ⟨⟨[], []⟩, [], .idle⟩

variable (options : ProcessorOptions) (provider : String)

/-- After an answer the cycle waits for the next one, or it goes on to the results, or it is over. -/
def entered (rest : Work (Option Settlement)) : Phase :=
  match rest with
  | .await _ _ => .preparing rest
  | .done (.ok (some settlement)) => .settling settlement (.start options settlement.payouts)
  | .done _ => .idle

/-- The payouts of the batch that some entry of the report calls successful. -/
def Settlement.reported : List String :=
  (settlement.payouts.map PendingPayout.transactionId).filter fun id =>
    settlement.results.any fun result => result.referenceId = id && result.success

inductive Label where
  | insert (row : Transaction)
  | begin
  | serve (event : Event)
  | lane (index now : ℕ) (event : Event)
  deriving DecidableEq

/-- A new transaction, a new cycle, the next answer before the results are there, or a lane of their
processing that goes on. The cycle after the last lane only sends a webhook, whose failure is ignored. -/
def System.perform (system : System) : Label → Option System
  | .insert row =>
    if row.id ∈ system.store.transactions.map Transaction.id then none
    else some { system with store.transactions := system.store.transactions ++ [row] }
  | .begin =>
    match system.phase with
    | .idle => some { system with phase := entered options (processBatch provider) }
    | _ => none
  | .serve event =>
    match system.phase with
    | .preparing (.await request next) =>
      some { system with
        store := server.next system.store event request
        phase := entered options (next (server.exchange system.store event request).reply) }
    | _ => none
  | .lane index now event =>
    match system.phase with
    | .settling settlement processing => do
      let (processing, store) ← processing.advance options server settlement.work system.store index now event
      if processing.isOver then
        return ⟨store, system.reported ++ settlement.reported, .idle⟩
      else
        return { system with store, phase := .settling settlement processing }
    | _ => none

def step (before : System) (label : Label) (after : System) : Prop :=
  before.perform options provider label = some after

end ProxyPay.BatchWorker
