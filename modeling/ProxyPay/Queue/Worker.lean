import ProxyPay.Queue.Retry

/-! The transaction worker: one job from the section before the `try` block to the end
of its failure handler. Every awaited call is a request, tagged with the part of the
function it stands in; logging and delays are left out. -/

namespace ProxyPay.Queue

open ProxyPay.Library

inductive JobType where
  | deposit
  | withdraw
  deriving DecidableEq

structure TransactionJobData where
  transactionId : String
  type : JobType
  amount : String
  phoneNumber : String
  provider : String
  stellarAddress : String
  requestId : Option String
  deriving DecidableEq

structure TransactionJobResult where
  success : Bool
  transactionId : String
  error : Option String
  deriving DecidableEq

inductive TransactionStatus where
  | pending
  | completed
  | failed
  | cancelled
  | review
  | dispute
  | reversed
  | clawedBack
  deriving DecidableEq

/-- The `stellar` entry of a transaction's metadata; its list of fee bumps starts empty. -/
structure StellarDetails where
  transactionHash : String
  submittedAt : Option String
  deriving DecidableEq

/-- The metadata the worker reads or writes; `others` are the entries it only copies. -/
structure Metadata where
  providerRequeueCount : Option Nat
  subscription_id : Option String
  subscriptionId : Option String
  stellar : Option StellarDetails
  others : List (String × String)
  deriving DecidableEq

def Metadata.empty : Metadata := ⟨none, none, none, none, []⟩

structure TransactionRow where
  userId : Option String
  metadata : Option Metadata
  deriving DecidableEq

/-- What `UPDATE transactions … RETURNING` gives back. -/
structure StatusRow where
  userId : Option String
  provider : Option String
  referenceNumber : String
  deriving DecidableEq

structure StellarReceipt where
  hash : Option String
  submittedAt : Option String
  deriving DecidableEq

/-- The `error` field of a provider's answer. -/
inductive ProviderError where
  | absent
  | text (text : String)
  | error (message : String)
  deriving DecidableEq

structure ProviderResult where
  success : Bool
  error : ProviderError
  providerResponseTimeMs : Option Nat
  providerReference : Option String
  deriving DecidableEq

/-- `MAX_RETRY_ATTEMPTS`, at least one, and `MAX_PROVIDER_REQUEUE_ATTEMPTS`. -/
structure Config where
  maxAttempts : Nat
  positive : 0 < maxAttempts
  maxProviderRequeueAttempts : Nat

/-- The part of `processTransaction` that a call stands in. -/
inductive Site where
  | prepare
  | body
  | handler
  deriving DecidableEq

/-- The two channels of a status update: the transaction's own, and the broadcast one. -/
inductive UpdateChannel where
  | transaction (id : String)
  | transactionUpdated
  deriving DecidableEq

/-- The calls of the worker. `sendPayment` is the Stellar payment, by either of its two
services; `setStatus` is the UPDATE of `updateStatus`. The name
`TERMINAL_IDEMPOTENCY_STATUSES` is declared nowhere, so that reading it may raise. -/
inductive Operation where
  | findById (id : String)
  | kycNames (userId : String)
  | sendPayment (destination amount senderName receiverName : String)
  | updateMetadata (id : String) (metadata : Metadata)
  | patchProgress (id : String) (progress : Nat)
  | incrementRetryCount (id : String)
  | initiatePayment (provider phoneNumber amount : String) (requestId : Option String)
  | sendPayout (provider phoneNumber amount : String) (requestId : Option String)
  | patchResponseTime (id key : String) (milliseconds : Nat)
  | updateProviderReference (id providerReference : String)
  | setStatus (id : String) (status : TransactionStatus)
  | invalidateUserCaches (userId : String)
  | invalidateProviderStats (provider : String)
  | invalidateGeneralStats
  | terminalIdempotencyStatuses
  | releaseIdempotencyKey (id : String)
  | publishUpdate (channel : UpdateChannel) (id : String) (status : TransactionStatus)
  | broadcastTransactionUpdate (id : String) (status : TransactionStatus)
  | notifyTransactionWebhook (id event : String)
  | routeTransactionNotification (row : TransactionRow) (event : String) (message : Option String)
  | publish (routingKey id status : String) (error : Option String)
  | patchRequeueCount (id : String) (count : Nat)
  | scheduleRequeue (data : TransactionJobData)
  | handleSubscriptionFailure (subscriptionId id : String) (error : Thrown)

structure Request where
  site : Site
  operation : Operation

def Request.Reply (request : Request) : Type :=
  match request.operation with
  | .findById _ => Option TransactionRow
  | .kycNames _ => Option (Option String × Option String)
  | .sendPayment .. => StellarReceipt
  | .initiatePayment .. => ProviderResult
  | .sendPayout .. => ProviderResult
  | .setStatus .. => Option StatusRow
  | .terminalIdempotencyStatuses => List TransactionStatus
  | _ => Unit

abbrev Worker := Script Request Request.Reply Thrown

abbrev Answered := Exchange Request Request.Reply Thrown

def ask (site : Site) (operation : Operation) : Worker (Request.Reply ⟨site, operation⟩) :=
  Script.call (Request.mk site operation)

/-- A string field as a condition: absent and empty are both false. -/
def truthy (field : Option String) : Option String :=
  field.filter fun text => text ≠ ""

def trim (text : String) : String :=
  String.ofList (((text.toList.dropWhile isSpace).reverse.dropWhile isSpace).reverse)

def getProviderFailureMessage (result : ProviderResult) : String :=
  match result.error with
  | .absent => "Provider request failed"
  | .text text => if trim text = "" then "Provider request failed" else text
  | .error message => if message = "" then "Provider request failed" else message

/-- `if (value) { … }` -/
def whenSome {α : Type} (value : Option α) (next : α → Worker Unit) : Worker Unit :=
  match value with
  | some value => next value
  | none => return ()

/-- The caches that `updateStatus` invalidates; failures are only logged. -/
def invalidateCaches (site : Site) (row : StatusRow) : Worker Unit := do
  whenSome (truthy row.userId) fun userId =>
    Script.ignoringErrors (ask site (.invalidateUserCaches userId))
  match truthy row.provider with
  | some provider => Script.ignoringErrors (ask site (.invalidateProviderStats provider))
  | none => Script.ignoringErrors (ask site .invalidateGeneralStats)

/-- The idempotency key is released in terminal states; failures are only logged. -/
def releaseKey (site : Site) (id : String) (status : TransactionStatus)
    (terminal : List TransactionStatus) : Worker Unit :=
  if status ∈ terminal then Script.ignoringErrors (ask site (.releaseIdempotencyKey id))
  else return ()

def announceStatus (site : Site) (id : String) (status : TransactionStatus) : Worker Unit := do
  let _ ← ask site (.publishUpdate (.transaction id) id status)
  let _ ← ask site (.publishUpdate .transactionUpdated id status)
  let _ ← ask site (.broadcastTransactionUpdate id status)
  return ()

/-- What `updateStatus` does once the UPDATE has found its row. -/
def followUpdate (site : Site) (id : String) (status : TransactionStatus) (updated : Option StatusRow) : Worker Unit :=
  whenSome updated fun row => do
    invalidateCaches site row
    let terminal : List TransactionStatus ← ask site .terminalIdempotencyStatuses
    releaseKey site id status terminal
    announceStatus site id status

/-- `TransactionModel.updateStatus`, called without `userId` and `currentStatus`. -/
def updateStatus (site : Site) (id : String) (status : TransactionStatus) : Worker Unit := do
  let updated : Option StatusRow ← ask site (.setStatus id status)
  followUpdate site id status updated

def updateProgress (site : Site) (id : String) (progress : Nat) : Worker Unit :=
  Script.ignoringErrors (ask site (.patchProgress id progress))

def fullName (names : Option (Option String × Option String)) : Option String :=
  names.bind fun (firstName, lastName) =>
    truthy (some (trim (firstName.getD "" ++ " " ++ lastName.getD "")))

def resolveKycName (site : Site) (userId : String) : Worker (Option String) :=
  Script.catching
    (do
      let names : Option (Option String × Option String) ← ask site (.kycNames userId)
      return fullName names)
    fun _ => return none

/-- The sender of the payment: the KYC name, else the phone number. -/
def senderNameOf (job : TransactionJobData) (row : Option TransactionRow) : Worker String :=
  match row.bind fun row => truthy row.userId with
  | some userId => do
    let name ← resolveKycName .prepare userId
    return name.getD job.phoneNumber
  | none => return job.phoneNumber

/-- `withRetry` with the worker's `retryConfig`. -/
def retrying {α : Type} (config : Config) (site : Site) (job : TransactionJobData) (attempt : Worker α) : Worker α :=
  withRetry config.maxAttempts job.provider
    (do
      let _ ← ask site (.incrementRetryCount job.transactionId)
      return ())
    attempt

variable (config : Config)

def payStellar (site : Site) (job : TransactionJobData) (senderName : String) :
    Worker StellarReceipt :=
  retrying config site job
    (ask site (.sendPayment job.stellarAddress job.amount senderName job.phoneNumber))

/-- Stores the hash of the payment made before the `try` block. -/
def storeReceipt (site : Site) (job : TransactionJobData) (receipt : StellarReceipt) : Worker Unit :=
  whenSome (truthy receipt.hash) fun hash => do
    let row : Option TransactionRow ← ask site (.findById job.transactionId)
    let current := (row.bind TransactionRow.metadata).getD Metadata.empty
    let _ ← ask site (.updateMetadata job.transactionId
      { current with stellar := some ⟨hash, receipt.submittedAt⟩ })
    return ()

/-- Everything before the `try` block, a Stellar payment included. -/
def prepare (config : Config) (job : TransactionJobData) : Worker (String × StellarReceipt) := do
  let row : Option TransactionRow ← ask .prepare (.findById job.transactionId)
  let senderName ← senderNameOf job row
  let stellarResult ← payStellar config .prepare job senderName
  storeReceipt .prepare job stellarResult
  updateProgress .prepare job.transactionId 90
  return (senderName, stellarResult)

/-- An unsuccessful answer is thrown. -/
def requireSuccess (result : ProviderResult) : Worker Unit :=
  if result.success then return ()
  else throw (.ofMessage (getProviderFailureMessage result))

/-- One provider call inside `withRetry`. -/
def successfully (call : Worker ProviderResult) : Worker ProviderResult := do
  let result ← call
  requireSuccess result
  return result

def collect (job : TransactionJobData) : Worker ProviderResult :=
  retrying config .body job (successfully
    (ask .body (.initiatePayment job.provider job.phoneNumber job.amount job.requestId)))

def payOut (job : TransactionJobData) : Worker ProviderResult :=
  retrying config .body job (successfully
    (ask .body (.sendPayout job.provider job.phoneNumber job.amount job.requestId)))

def recordResponseTime (job : TransactionJobData) (key : String) (result : ProviderResult) : Worker Unit :=
  whenSome result.providerResponseTimeMs fun milliseconds =>
    Script.ignoringErrors (ask .body (.patchResponseTime job.transactionId key milliseconds))

def storeProviderReference (job : TransactionJobData) (result : ProviderResult) : Worker Unit :=
  whenSome (truthy result.providerReference) fun reference =>
    Script.ignoringErrors (ask .body (.updateProviderReference job.transactionId reference))

/-- Routes a notification when the transaction is still there. -/
def routeNotification (site : Site) (job : TransactionJobData) (event : String)
    (message : Option String) : Worker Unit := do
  let transaction : Option TransactionRow ← ask site (.findById job.transactionId)
  whenSome transaction fun row => do
    let _ ← ask site (.routeTransactionNotification row event message)
    return ()

/-- The end of the `try` block, the same for both job types. -/
def completeTransaction (job : TransactionJobData) : Worker TransactionJobResult := do
  updateProgress .body job.transactionId 90
  updateStatus .body job.transactionId .completed
  let _ ← ask .body (.notifyTransactionWebhook job.transactionId "transaction.completed")
  routeNotification .body job "completed" none
  let _ ← ask .body (.publish "transaction.completed" job.transactionId "completed" none)
  updateProgress .body job.transactionId 100
  return ⟨true, job.transactionId, none⟩

def processDeposit (job : TransactionJobData) (senderName : String)
    (stellarResult : StellarReceipt) : Worker TransactionJobResult := do
  updateProgress .body job.transactionId 20
  let mobileMoneyResult ← collect config job
  recordResponseTime job "providerResponseTimeTimeMs" mobileMoneyResult
  updateProgress .body job.transactionId 50
  requireSuccess mobileMoneyResult
  updateProgress .body job.transactionId 70
  let _ ← payStellar config .body job senderName
  storeReceipt .body job stellarResult
  completeTransaction job

def processWithdraw (job : TransactionJobData) : Worker TransactionJobResult := do
  updateProgress .body job.transactionId 20
  let mobileMoneyResult ← payOut config job
  recordResponseTime job "providerResponseTimeMs" mobileMoneyResult
  updateProgress .body job.transactionId 50
  requireSuccess mobileMoneyResult
  storeProviderReference job mobileMoneyResult
  completeTransaction job

/-- The `try` block. -/
def body (config : Config) (job : TransactionJobData) (senderName : String)
    (stellarResult : StellarReceipt) : Worker TransactionJobResult := do
  updateProgress .body job.transactionId 10
  match job.type with
  | .deposit => processDeposit config job senderName stellarResult
  | .withdraw => processWithdraw config job

/-- What the user is told when the job will be retried later. -/
def retryMessage (job : TransactionJobData) : String :=
  job.provider.toUpper ++ " is temporarily unavailable. We'll automatically retry your " ++
    (match job.type with
    | .deposit => "deposit"
    | .withdraw => "withdraw") ++ " shortly."

/-- The worker queues its own job again; publishing it later may fail unnoticed. -/
def requeue (job : TransactionJobData) (existing : Option TransactionRow) (requeueCount : Nat) :
    Worker TransactionJobResult := do
  let _ ← ask .handler (.patchRequeueCount job.transactionId requeueCount)
  whenSome existing fun row => do
    let _ ← ask .handler (.routeTransactionNotification row "retrying" (some (retryMessage job)))
    return ()
  Script.ignoringErrors (ask .handler (.scheduleRequeue job))
  return ⟨false, job.transactionId, some "provider_unavailable_requeued"⟩

def subscriptionOf (row : Option TransactionRow) : Option String :=
  (row.bind TransactionRow.metadata).bind fun metadata =>
    (truthy metadata.subscription_id).or (truthy metadata.subscriptionId)

/-- Lets the subscription that created the transaction know; failures are only logged. -/
def reportToSubscription (job : TransactionJobData) (error : Thrown) : Worker Unit :=
  Script.ignoringErrors do
    let row : Option TransactionRow ← ask .handler (.findById job.transactionId)
    whenSome (subscriptionOf row) fun subscription => do
      let _ ← ask .handler (.handleSubscriptionFailure subscription job.transactionId error)
      return ()

def failTransaction (job : TransactionJobData) (error : Thrown) : Worker TransactionJobResult := do
  updateStatus .handler job.transactionId .failed
  let _ ← ask .handler (.notifyTransactionWebhook job.transactionId "transaction.failed")
  routeNotification .handler job "failed" (some (getErrorMessage error))
  let _ ← ask .handler (.publish "transaction.failed" job.transactionId "failed"
    (some (getErrorMessage error)))
  reportToSubscription job error
  throw error

/-- The `catch` block. -/
def handleFailure (job : TransactionJobData) (error : Thrown) : Worker TransactionJobResult :=
  if isCircuitBreakerOpenError error then do
    let existing : Option TransactionRow ← ask .handler (.findById job.transactionId)
    let requeueCount :=
      ((existing.bind TransactionRow.metadata).bind Metadata.providerRequeueCount).getD 0 + 1
    if requeueCount ≤ config.maxProviderRequeueAttempts then requeue job existing requeueCount
    else failTransaction job error
  else failTransaction job error

def processTransaction (job : TransactionJobData) : Worker TransactionJobResult := do
  let (senderName, stellarResult) ← prepare config job
  (body config job senderName stellarResult).catching (handleFailure config job)

/-- A job of a withdrawal, and a configuration with three attempts. -/
def TransactionJobData.sample (type : JobType) : TransactionJobData where
  transactionId := "T"
  type
  amount := "10"
  phoneNumber := "+237600000000"
  provider := "mtn"
  stellarAddress := "G"
  requestId := none

def Config.sample : Config := ⟨3, by decide, 5⟩

/-- An answer without any problem to every call. -/
def normalReply : (request : Request) → request.Reply
  | ⟨_, .findById _⟩ => some ⟨none, none⟩
  | ⟨_, .kycNames _⟩ => none
  | ⟨_, .sendPayment ..⟩ => (⟨some "hash", none⟩ : StellarReceipt)
  | ⟨_, .initiatePayment ..⟩ => (⟨true, .absent, none, none⟩ : ProviderResult)
  | ⟨_, .sendPayout ..⟩ => (⟨true, .absent, none, none⟩ : ProviderResult)
  | ⟨_, .setStatus ..⟩ => some ⟨none, some "mtn", "REF"⟩
  | ⟨_, .terminalIdempotencyStatuses⟩ => [TransactionStatus.completed, .failed, .cancelled]
  | ⟨_, .updateMetadata ..⟩ => ()
  | ⟨_, .patchProgress ..⟩ => ()
  | ⟨_, .incrementRetryCount _⟩ => ()
  | ⟨_, .patchResponseTime ..⟩ => ()
  | ⟨_, .updateProviderReference ..⟩ => ()
  | ⟨_, .invalidateUserCaches _⟩ => ()
  | ⟨_, .invalidateProviderStats _⟩ => ()
  | ⟨_, .invalidateGeneralStats⟩ => ()
  | ⟨_, .releaseIdempotencyKey _⟩ => ()
  | ⟨_, .publishUpdate ..⟩ => ()
  | ⟨_, .broadcastTransactionUpdate ..⟩ => ()
  | ⟨_, .notifyTransactionWebhook ..⟩ => ()
  | ⟨_, .routeTransactionNotification ..⟩ => ()
  | ⟨_, .publish ..⟩ => ()
  | ⟨_, .patchRequeueCount ..⟩ => ()
  | ⟨_, .scheduleRequeue _⟩ => ()
  | ⟨_, .handleSubscriptionFailure ..⟩ => ()

/-- A world in which every call succeeds and takes effect. -/
def obliging : Script.World Request Request.Reply Thrown :=
  fun _ request => (.ok (normalReply request), true)

/-- The calls that move money. -/
def Operation.pays : Operation → Bool
  | .sendPayment .. => true
  | .initiatePayment .. => true
  | .sendPayout .. => true
  | _ => false

/-- The calls whose exceptions the source catches where it makes them. -/
def Operation.caught : Operation → Bool
  | .kycNames _ => true
  | .patchProgress .. => true
  | .patchResponseTime .. => true
  | .updateProviderReference .. => true
  | .invalidateUserCaches _ => true
  | .invalidateProviderStats _ => true
  | .invalidateGeneralStats => true
  | .releaseIdempotencyKey _ => true
  | .scheduleRequeue _ => true
  | .handleSubscriptionFailure .. => true
  | _ => false

/-- The calls that neither move money nor write the transaction's status. -/
def Operation.quiet : Operation → Bool
  | .setStatus .. => false
  | operation => !operation.pays

/-- A quiet call of one part of the function. -/
def Quiet (site : Site) (request : Request) : Prop :=
  request.site = site ∧ request.operation.quiet = true

/-- A call whose exception leaves the statement that makes it. -/
def Exposed (request : Request) : Prop :=
  request.operation.caught = false

section Footprints

variable {site : Site} {job : TransactionJobData} {answers : Request → Prop}

variable {operation : Operation}

theorem ask_calm (quiet : operation.quiet = true)
    (exposed : operation.caught = false) : (ask site operation).Calm (Quiet site) Exposed :=
  .call ⟨rfl, quiet⟩ exposed

theorem ask_ignored (quiet : operation.quiet = true) :
    (Script.ignoringErrors (ask site operation)).Calm (Quiet site) answers :=
  .ignoringErrors (.call ⟨rfl, quiet⟩)

theorem whenSome_calm {α : Type} {value : Option α} {next : α → Worker Unit}
    (each : ∀ value, (next value).Calm (Quiet site) answers) :
    (whenSome value next).Calm (Quiet site) answers := by
  cases value with
  | none => exact .done ()
  | some value => exact each value

variable {id : String}

theorem updateProgress_calm {progress : Nat} : (updateProgress site id progress).Calm (Quiet site) answers :=
  ask_ignored rfl

theorem invalidateCaches_calm {row : StatusRow} : (invalidateCaches site row).Calm (Quiet site) answers := by
  refine .bind (whenSome_calm fun userId => ask_ignored rfl) fun _ => ?_
  split <;> exact ask_ignored rfl

variable {status : TransactionStatus}

theorem releaseKey_calm {terminal : List TransactionStatus} :
    (releaseKey site id status terminal).Calm (Quiet site) answers := by
  unfold releaseKey
  split
  · exact ask_ignored rfl
  · exact .done ()

theorem announceStatus_calm : (announceStatus site id status).Calm (Quiet site) Exposed :=
  .bind (ask_calm rfl rfl) fun _ => .bind (ask_calm rfl rfl) fun _ =>
    .bind (ask_calm rfl rfl) fun _ => .done ()

theorem followUpdate_calm {updated : Option StatusRow} :
    (followUpdate site id status updated).Calm (Quiet site) Exposed :=
  whenSome_calm fun _ => .bind invalidateCaches_calm fun _ => .bind (ask_calm rfl rfl) fun _ =>
    .bind releaseKey_calm fun _ => announceStatus_calm

theorem senderNameOf_calm {row : Option TransactionRow} : (senderNameOf job row).Calm (Quiet .prepare) Exposed := by
  have resolves : ∀ userId, (resolveKycName .prepare userId).Calm (Quiet .prepare) Exposed := by
    intro userId
    exact ⟨⟨rfl, rfl⟩, fun _ => ⟨_, rfl⟩, fun _ => ⟨trivial, fun _ => ⟨_, rfl⟩⟩⟩
  unfold senderNameOf
  split
  · exact .bind (resolves _) fun _ => .done _
  · exact .done _

theorem storeReceipt_calm {receipt : StellarReceipt} : (storeReceipt site job receipt).Calm (Quiet site) Exposed :=
  whenSome_calm fun _ => .bind (ask_calm rfl rfl) fun _ =>
    .bind (ask_calm rfl rfl) fun _ => .done ()

variable {result : ProviderResult}

theorem recordResponseTime_calm {key : String} : (recordResponseTime job key result).Calm (Quiet .body) answers :=
  whenSome_calm fun _ => ask_ignored rfl

theorem storeProviderReference_calm : (storeProviderReference job result).Calm (Quiet .body) answers :=
  whenSome_calm fun _ => ask_ignored rfl

theorem routeNotification_calm {event : String} {message : Option String} :
    (routeNotification site job event message).Calm (Quiet site) Exposed :=
  .bind (ask_calm rfl rfl) fun _ => whenSome_calm fun _ => .bind (ask_calm rfl rfl) fun _ => .done ()

theorem requeue_calm {existing : Option TransactionRow} {requeueCount : Nat} :
    (requeue job existing requeueCount).Calm (Quiet .handler) Exposed :=
  .bind (ask_calm rfl rfl) fun _ =>
    .bind (whenSome_calm fun _ => .bind (ask_calm rfl rfl) fun _ => .done ()) fun _ =>
      .bind (ask_ignored rfl) fun _ => .done _

theorem reportToSubscription_calm {error : Thrown} :
    (reportToSubscription job error).Calm (Quiet .handler) Exposed := by
  have reports : ∀ row, (whenSome (subscriptionOf row) fun subscription => do
      let _ ← ask .handler (.handleSubscriptionFailure subscription job.transactionId error)
      return ()).Asks (Quiet .handler) := by
    intro row
    cases subscriptionOf row with
    | none => exact .done _
    | some subscription => exact .bind (.call ⟨rfl, rfl⟩) fun _ => .done _
  exact .ignoringErrors (.bind (.call ⟨rfl, rfl⟩) reports)

end Footprints

theorem successfully_rule {S : Type} {observer : Observer Request Request.Reply Thrown S}
    {before : S → Prop} {middle after : Except Thrown ProviderResult → S → Prop}
    {call : Worker ProviderResult} (called : observer.Triple before call middle)
    (accepted : ∀ result state, result.success = true → middle (.ok result) state → after (.ok result) state)
    (refused : ∀ result state, result.success = false → middle (.ok result) state →
      after (.error (.ofMessage (getProviderFailureMessage result))) state)
    (raised : ∀ error state, middle (.error error) state → after (.error error) state) :
    observer.Triple before (successfully call) after := by
  refine called.bind (fun result => ?_) raised
  have ends : (do requireSuccess result; return result : Worker ProviderResult) =
      .done (if result.success then .ok result
        else .error (.ofMessage (getProviderFailureMessage result))) := by
    unfold requireSuccess
    split <;> rfl
  rw [ends]
  cases success : result.success with
  | true => exact .done fun state holds => accepted result state success holds
  | false => exact .done fun state holds => refused result state success holds

end ProxyPay.Queue
