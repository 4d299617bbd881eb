import ProxyPay.Transactions.Model
import ProxyPay.Webhook.StateMachine

/-! One delivery of `WebhookService` from its permission to its report. Dates are their ISO texts; headers,
signature, metrics and log lines are left out. -/

namespace ProxyPay.Webhook

open ProxyPay.Library
open ProxyPay.Queue (TransactionStatus)

inductive WebhookEvent where
  | completed
  | failed
  | cancelled
  | pending
  deriving DecidableEq

def WebhookEvent.text : WebhookEvent → String
  | completed => "transaction.completed"
  | failed => "transaction.failed"
  | cancelled => "transaction.cancelled"
  | pending => "transaction.pending"

structure Transaction where
  id : String
  referenceNumber : String
  type : String
  amount : String
  currency : Option String
  phoneNumber : String
  provider : String
  stellarAddress : Option String
  status : TransactionStatus
  userId : Option String
  notes : Option String
  tags : Option (List String)
  createdAt : String
  updatedAt : Option String
  metadata : List (String × String)
  webhookDeliveryStatus : Option String
  webhookDeliveredAt : Option String

structure WebhookPayload where
  event : String
  timestamp : String
  data : List (String × String)

structure FlatWebhookPayload where
  event_id : String
  event_type : String
  timestamp : String
  transaction_id : String
  reference_number : String
  transaction_type : String
  amount : String
  currency : String
  phone_number : String
  provider : String
  stellar_address : Option String
  status : String
  user_id : Option String
  notes : Option String
  tags : Option String
  created_at : String
  updated_at : Option String
  metadata_key : Option String
  metadata_value : Option String
  webhook_delivery_status : Option String
  webhook_delivered_at : Option String

def toWebhookData (transaction : Transaction) : List (String × String) :=
  [("id", some transaction.id),
    ("referenceNumber", some transaction.referenceNumber),
    ("type", some transaction.type),
    ("amount", some transaction.amount),
    ("status", some (Transactions.TransactionStatus.text transaction.status)),
    ("phoneNumber", some transaction.phoneNumber),
    ("provider", some transaction.provider),
    ("stellarAddress", transaction.stellarAddress),
    ("userId", transaction.userId)].filterMap fun mapping =>
      (Text.truthy mapping.2).map fun value => (mapping.1, value)

def buildPayload (event : WebhookEvent) (transaction : Transaction) (timestamp : String) : WebhookPayload :=
  ⟨event.text, timestamp, toWebhookData transaction⟩

def buildFlatPayload (event : WebhookEvent) (transaction : Transaction) (timestamp eventId : String) :
    FlatWebhookPayload :=
  { event_id := eventId
    event_type := event.text
    timestamp
    transaction_id := transaction.id
    reference_number := transaction.referenceNumber
    transaction_type := transaction.type
    amount := transaction.amount
    currency := (Text.truthy transaction.currency).getD "USD"
    phone_number := transaction.phoneNumber
    provider := transaction.provider
    stellar_address := transaction.stellarAddress
    status := Transactions.TransactionStatus.text transaction.status
    user_id := Text.truthy transaction.userId
    notes := Text.truthy transaction.notes
    tags := transaction.tags.map (",".intercalate ·)
    created_at := transaction.createdAt
    updated_at := transaction.updatedAt
    metadata_key := transaction.metadata.head?.map Prod.fst
    metadata_value := transaction.metadata.head?.map Prod.snd
    webhook_delivery_status := transaction.webhookDeliveryStatus
    webhook_delivered_at := transaction.webhookDeliveredAt }

/-- `webhookPayloadSchema` asks for texts, which is all that the payload holds. -/
def WebhookPayload.isValid (_ : WebhookPayload) : Bool := true

/-- What `flatWebhookPayloadSchema` asks for beside texts. -/
def FlatWebhookPayload.isValid (payload : FlatWebhookPayload) : Bool :=
  ["deposit", "withdraw"].contains payload.transaction_type &&
    ["pending", "completed", "failed", "cancelled"].contains payload.status && payload.stellar_address.isSome

/-- `sendTransactionEvent` or `sendFlatTransactionEvent`. -/
inductive Format where
  | nested
  | flat
  deriving DecidableEq

structure WebhookService where
  webhookUrl : String
  webhookSecret : String
  maxAttempts : ℕ
  compress : Bool

inductive Answer where
  | response (status : ℕ)
  | error (message : Option String)
  deriving DecidableEq

/-- What the delivery meets. The class does not declare `onDeliveryFailure`; here it either returns or throws. -/
structure Surroundings where
  timestamp : String
  eventId : String
  compressed : Bool
  answers : ℕ → Answer
  now : ℕ → ℤ
  onDeliveryFailure : Bool

inductive DeliveryStatus where
  | delivered
  | failed
  | skipped
  deriving DecidableEq

structure WebhookDeliveryResult where
  status : DeliveryStatus
  attempts : ℕ
  statusCode : Option ℕ
  lastAttemptAt : Option ℤ
  deliveredAt : Option ℤ
  lastError : Option String
  deriving DecidableEq

/-- How a call ends, `none` for an exception, and the outcomes that it reported to the breaker. -/
structure Sent where
  result : Option WebhookDeliveryResult
  reports : List Call
  deriving DecidableEq

def Answer.isOk : Answer → Bool
  | .response status => 200 ≤ status && status < 300
  | .error _ => false

def Answer.message : Answer → String
  | .response status => "Webhook responded with HTTP " ++ toString status
  | .error message => message.getD "Unknown webhook error"

/-- The status code of the last response. -/
def Answer.statusCode (last : Option ℕ) : Answer → Option ℕ
  | .response status => some status
  | .error _ => last

def isRetryableError (statusCode : Option ℕ) : Bool :=
  match statusCode with
  | none => true
  | some statusCode =>
    if statusCode = 429 ∨ (500 ≤ statusCode ∧ statusCode < 600) then true
    else if 400 ≤ statusCode ∧ statusCode < 500 then false
    else true

/-- The variables of the loop after an attempt that failed. -/
structure Progress where
  lastError : Option String
  lastStatusCode : Option ℕ
  lastAttemptAt : Option ℤ
  finalAttempt : ℕ
  deriving DecidableEq

def Progress.start : Progress := ⟨none, none, none, 0⟩

inductive Ended where
  | delivered (attempt : ℕ) (statusCode : Option ℕ) (lastAttemptAt : ℤ)
  | exhausted (progress : Progress)
  deriving DecidableEq

/-- The loop over the attempts, with so many of them left. -/
def attemptAll (surroundings : Surroundings) : (left : ℕ) → (attempt : ℕ) → Progress → Ended
  | 0, _, progress => .exhausted progress
  | left + 1, attempt, progress =>
    let answer := surroundings.answers attempt
    let statusCode := answer.statusCode progress.lastStatusCode
    if answer.isOk then .delivered attempt statusCode (surroundings.now attempt)
    else
      let progress := ⟨some answer.message, statusCode, some (surroundings.now attempt), attempt⟩
      if isRetryableError statusCode then attemptAll surroundings left (attempt + 1) progress else .exhausted progress

def skipped (message : String) : Sent := ⟨some ⟨.skipped, 0, none, none, none, some message⟩, []⟩

def isValid (format : Format) (event : WebhookEvent) (transaction : Transaction) (surroundings : Surroundings) : Bool :=
  match format with
  | .nested => (buildPayload event transaction surroundings.timestamp).isValid
  | .flat => (buildFlatPayload event transaction surroundings.timestamp surroundings.eventId).isValid

def send (service : WebhookService) (format : Format) (event : WebhookEvent) (transaction : Transaction)
    (permission : CircuitPermission) (surroundings : Surroundings) : Sent :=
  if service.webhookUrl = "" then skipped "WEBHOOK_URL is not configured"
  else if service.webhookSecret = "" then skipped "WEBHOOK_SECRET is not configured"
  else if permission = .open then skipped "Circuit breaker is open for this webhook destination"
  else if !isValid format event transaction surroundings then
    ⟨some ⟨.failed, 0, none, none, none, some "Payload validation failed"⟩, []⟩
  -- The compression throws outside of the loop.
  else if service.compress && !surroundings.compressed then ⟨none, []⟩
  else
    match attemptAll surroundings service.maxAttempts 1 .start with
    | .delivered attempt statusCode lastAttemptAt =>
      ⟨some ⟨.delivered, attempt, statusCode, some lastAttemptAt, some lastAttemptAt, none⟩, [.recordSuccess]⟩
    | .exhausted progress =>
      if surroundings.onDeliveryFailure then
        ⟨some ⟨.failed, progress.finalAttempt, progress.lastStatusCode, progress.lastAttemptAt, none, progress.lastError⟩,
          -- No permission is called "probe".
          [.recordFailure progress.lastError false]⟩
      else ⟨none, []⟩

/-! A delivery reports once exactly if nothing throws and its payload is valid. -/

/-- A delivery that gets a permission asks the breaker about a destination. -/
def WebhookService.isConfigured (service : WebhookService) : Bool :=
  service.webhookUrl ≠ "" && service.webhookSecret ≠ ""

/-- The answers from this attempt on lead to a delivery: each one before it is a failure that is tried again. -/
inductive Arrives (answers : ℕ → Answer) : (left attempt : ℕ) → Option ℕ → Prop where
  | now {left attempt : ℕ} {last : Option ℕ} (ok : (answers attempt).isOk = true) : Arrives answers (left + 1) attempt last
  | later {left attempt : ℕ} {last : Option ℕ} (failed : (answers attempt).isOk = false)
      (retryable : isRetryableError ((answers attempt).statusCode last) = true)
      (rest : Arrives answers left (attempt + 1) ((answers attempt).statusCode last)) :
      Arrives answers (left + 1) attempt last

variable {service : WebhookService} {format : Format} {event : WebhookEvent} {transaction : Transaction}
variable {permission : CircuitPermission} {surroundings : Surroundings}

theorem attemptAll_iff (left : ℕ) : ∀ (attempt : ℕ) (progress : Progress),
    (∃ final statusCode lastAttemptAt, attemptAll surroundings left attempt progress =
      .delivered final statusCode lastAttemptAt) ↔ Arrives surroundings.answers left attempt progress.lastStatusCode := by
  induction left with
  | zero =>
    intro attempt progress
    constructor
    · nofun
    · nofun
  | succ left ih =>
    intro attempt progress
    unfold attemptAll
    dsimp only
    cases ok : (surroundings.answers attempt).isOk with
    | true =>
      rw [if_pos rfl]
      exact ⟨fun _ => .now ok, fun _ => ⟨_, _, _, rfl⟩⟩
    | false =>
      rw [if_neg Bool.false_ne_true]
      cases retryable : isRetryableError ((surroundings.answers attempt).statusCode progress.lastStatusCode) with
      | true =>
        rw [if_pos rfl, ih]
        constructor
        · exact .later ok retryable
        · intro arrives
          cases arrives with
          | now delivered => simp_all
          | later _ _ rest => exact rest
      | false =>
        rw [if_neg Bool.false_ne_true]
        constructor
        · nofun
        · intro arrives
          cases arrives with
          | now delivered | later _ again _ => simp_all

/-- No delivery to the destination is let through any more, whatever the time. -/
def BreakerRecord.Refuses (config : Config) (entry : BreakerRecord) : Prop :=
  ∀ now, (entry.acquirePermission config now).1 = .open

variable {config : Config} {entry : BreakerRecord}

theorem BreakerRecord.not_refuses (coherent : entry.Coherent config)
    (state : entry.state ≠ .halfOpen) : ¬entry.Refuses config := by
  intro refuses
  cases here : entry.state with
  | halfOpen => exact state here
  | closed =>
    have refused := refuses 0
    rcases acquire_cases coherent 0 with ⟨_, admitted⟩ | ⟨_, unchanged⟩
    · rw [admitted] at refused
      cases refused
    · simp_all
  | «open» =>
    obtain ⟨openedAt, opened⟩ := Option.isSome_iff_exists.mp (coherent.opened here).2
    have late : entry.Expired config (openedAt + config.recoveryAfterMs) := ⟨here, openedAt, opened, by omega⟩
    have refused := refuses (openedAt + config.recoveryAfterMs)
    rcases acquire_cases coherent (openedAt + config.recoveryAfterMs) with ⟨_, admitted⟩ | ⟨early, _⟩
    · rw [admitted] at refused
      cases refused
    · exact early late

/-- The record after the outcomes of a delivery. -/
def BreakerRecord.hear (config : Config) (clock : Readings) (entry : BreakerRecord) (reports : List Call) :
    BreakerRecord :=
  reports.foldl (fun entry call => entry.answer config clock call) entry

theorem BreakerRecord.state_success (entry : BreakerRecord) (clock : Readings) :
    (entry.recordSuccess clock).state ≠ .halfOpen := by
  cases state : entry.state <;> simp [recordSuccess, transition, state]

theorem BreakerRecord.state_failure (error : Option String) (wasProbe : Bool)
    (clock : Readings) : (entry.recordFailure config error wasProbe clock).state ≠ .halfOpen := by
  cases state : entry.state with
  | closed =>
    rw [failure_closed state]
    split
    · simp
    · simp [failed, state]
  | «open» =>
    rw [failure_open state]
    simp [failed, state]
  | halfOpen =>
    rw [failure_halfOpen state]
    simp

/-- One outcome is reported, and after it the destination is not refused for ever, whatever the breaker has
heard of other deliveries in the meantime. -/
def ReportsOnce (sent : Sent) : Prop :=
  sent.reports.length = 1 ∧
    ∀ config (entry : BreakerRecord) clock, entry.Coherent config → ¬(entry.hear config clock sent.reports).Refuses config

section

variable (result : Option WebhookDeliveryResult)

include result

theorem reportsOnce_success : ReportsOnce ⟨result, [.recordSuccess]⟩ := by
  refine ⟨rfl, ?_⟩
  intro config entry clock coherent
  exact BreakerRecord.not_refuses (BreakerRecord.coherent_success coherent) (entry.state_success clock)

theorem reportsOnce_failure (error : Option String) (wasProbe : Bool) :
    ReportsOnce ⟨result, [.recordFailure error wasProbe]⟩ := by
  refine ⟨rfl, ?_⟩
  intro config entry clock coherent
  exact BreakerRecord.not_refuses (BreakerRecord.coherent_failure coherent error wasProbe)
    (BreakerRecord.state_failure error wasProbe clock)

theorem not_reportsOnce : ¬ReportsOnce ⟨result, []⟩ := by
  intro reports
  cases reports.1

end

/-- A transaction in dispute has no status that the flat schema knows. -/
def disputed : Transaction where
  id := "t"
  referenceNumber := "R-1"
  type := "deposit"
  amount := "100"
  currency := some "XAF"
  phoneNumber := "+237600000000"
  provider := "mtn"
  stellarAddress := some "G"
  status := .dispute
  userId := none
  notes := none
  tags := none
  createdAt := "2026-01-01T00:00:00.000Z"
  updatedAt := none
  metadata := []
  webhookDeliveryStatus := none
  webhookDeliveredAt := none

def hooks : WebhookService := ⟨"https://example.com/hook", "secret", 3, true⟩

/-- The destination is busy at first, then it takes the delivery. -/
def busyAtFirst : Surroundings where
  timestamp := "2026-01-01T00:00:00.000Z"
  eventId := "evt"
  compressed := true
  answers := fun attempt => .response (if attempt = 1 then 503 else 200)
  now := fun attempt => attempt
  onDeliveryFailure := false

end ProxyPay.Webhook
