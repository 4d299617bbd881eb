import ProxyPay.Library.Text

/-! Fee-bump attempts and the calls that submit them. A call takes one query, or one answer of the network, at a time,
and lasts until its confirmation callback is done. An attempt is known by its position. -/

namespace ProxyPay.FeeBumpRecovery

open ProxyPay.Library

inductive FeeBumpStatus where
  | pending
  | submitting
  | submitted
  | confirmed
  | failed
  | deadLetter
  deriving DecidableEq

inductive FeeBumpFailureReason where
  | networkError
  | sequenceNumberMismatch
  | insufficientBalance
  | transactionNotFound
  | maxRetriesExceeded
  | unknown
  deriving DecidableEq

structure FeeBumpAttempt where
  feeBumpHash : Option String
  status : FeeBumpStatus
  attemptNumber : ℕ
  maxRetries : ℕ
  failureReason : Option FeeBumpFailureReason
  errorMessage : Option String
  nextRetryAt : Option ℕ
  deriving DecidableEq

/-- A row of `fee_bump_dead_letter`. -/
structure DeadLetter where
  attempt : ℕ
  failureReason : FeeBumpFailureReason
  errorMessage : String
  deriving DecidableEq

structure Config where
  maxRetries : ℕ
  baseBackoffMs : ℕ
  maxBackoffMs : ℕ
  /-- `toLowerCase` -/
  lower : String → String

def validTransitions : FeeBumpStatus → List FeeBumpStatus
  | .pending => [.submitting]
  | .submitting => [.submitted, .failed]
  | .submitted => [.confirmed, .failed]
  | .confirmed => []
  | .failed => [.submitting, .deadLetter]
  | .deadLetter => [.submitting]

def isValidTransition (old new : FeeBumpStatus) : Bool :=
  (validTransitions old).contains new

/-- Who schedules a retry: a submission that failed, its callback, or the callback after an error of its own. -/
inductive Caller where
  | submission
  | callback
  | rescue
  deriving DecidableEq

inductive Outcome where
  | thrown
  | confirmed
  | buried
  | failed (caller : Caller)
  | lost
  deriving DecidableEq

/-- What a call does next. -/
inductive Phase where
  | resetting
  | reading
  | marking
  | submitting
  | recording (hash : String)
  | waiting
  | confirming
  | handling (reason : FeeBumpFailureReason) (message : String)
  | burying (reason : FeeBumpFailureReason) (message : String)
  | logging (reason : FeeBumpFailureReason) (message : String)
  | scheduling (caller : Caller) (reason : FeeBumpFailureReason) (message : Option String)
  | failing (caller : Caller) (reason : FeeBumpFailureReason) (message : Option String) (nextRetryAt : ℕ)
  | ended (outcome : Outcome)
  deriving DecidableEq

structure Call where
  attempt : ℕ
  newAttemptNumber : ℕ
  phase : Phase
  deriving DecidableEq

structure Service where
  attempts : List FeeBumpAttempt
  calls : List Call
  deadLetters : List DeadLetter
  deriving DecidableEq

def Service.initial : Service :=
  ⟨[], [], []⟩

/-- `query` is the call's next query, and `fail` an error that it throws instead. -/
inductive Label where
  | createFeeBumpAttempt (maxRetries : Option ℕ)
  | submitFeeBumpWithRetry (attempt : ℕ)
  | manualRetryFeeBump (attempt : ℕ)
  | query (call : ℕ) (now : ℕ)
  | fail (call : ℕ) (message : String)
  | succeed (call : ℕ) (hash : String)
  | reject (call : ℕ) (message : String)
  | lookup (call : ℕ) (successful : Bool)
  deriving DecidableEq

variable (config : Config)

def classifyError (message : String) : FeeBumpFailureReason :=
  let has := Text.includes (config.lower message)
  if has "sequence" then .sequenceNumberMismatch
  else if has "balance" || has "underfunded" then .insufficientBalance
  else if has "timeout" || has "network" || has "econnrefused" then .networkError
  else if has "not found" then .transactionNotFound
  else .unknown

/-- What `handleFeeBumpFailure` does with the attempt that it reads. -/
def handleFeeBumpFailure (attempt : FeeBumpAttempt) (attemptNumber : ℕ) (reason : FeeBumpFailureReason) (message : String) :
    Phase :=
  if reason = .sequenceNumberMismatch ∨ reason = .insufficientBalance then .burying reason message
  else if attempt.maxRetries ≤ attemptNumber then .burying .maxRetriesExceeded message
  else .scheduling .submission reason (some message)

def Config.backoffMs (attemptNumber : ℕ) : ℕ :=
  min (config.baseBackoffMs * 2 ^ attemptNumber) config.maxBackoffMs

/-- The attempt and the call after a query. -/
def Call.query (call : Call) (attempt : FeeBumpAttempt) (now : ℕ) : Option (FeeBumpAttempt × Call) :=
  match call.phase with
  | .resetting =>
    some ({ attempt with status := .pending, failureReason := none, errorMessage := none, nextRetryAt := none },
      { call with phase := .reading })
  | .reading => some (attempt, { call with newAttemptNumber := attempt.attemptNumber + 1, phase := .marking })
  | .marking => some ({ attempt with status := .submitting }, { call with phase := .submitting })
  | .recording hash =>
    some ({ attempt with
        status := .submitted, attemptNumber := call.newAttemptNumber, feeBumpHash := Text.truthy (some hash) },
      { call with phase := .waiting })
  | .confirming => some ({ attempt with status := .confirmed }, { call with phase := .ended .confirmed })
  | .handling reason message =>
    some (attempt, { call with phase := handleFeeBumpFailure attempt call.newAttemptNumber reason message })
  | .burying reason message =>
    some ({ attempt with
        status := .deadLetter, attemptNumber := call.newAttemptNumber, failureReason := some reason,
        errorMessage := some message },
      { call with phase := .logging reason message })
  | .logging _ _ => some (attempt, { call with phase := .ended .buried })
  | .scheduling caller reason message =>
    some (attempt, { call with phase := .failing caller reason message (now + config.backoffMs attempt.attemptNumber) })
  | .failing caller reason message nextRetryAt =>
    some ({ attempt with
        status := .failed, failureReason := some reason, errorMessage := message, nextRetryAt := some nextRetryAt },
      { call with phase := .ended (.failed caller) })
  | .submitting | .waiting | .ended _ => none

/-- What a query inserts into `fee_bump_dead_letter`. -/
def Call.logDeadLetterEvent (call : Call) : List DeadLetter :=
  match call.phase with
  | .logging reason message => [⟨call.attempt, reason, message⟩]
  | _ => []

/-- Where an error of a query leads. -/
def Phase.catch (message : String) : Phase → Option Phase
  | .recording _ => some (.handling (classifyError config message) message)
  | .logging _ _ => some (.ended .buried)
  | .confirming => some (.scheduling .rescue .networkError none)
  | .scheduling caller _ _ | .failing caller _ _ _ =>
    match caller with
    | .submission => some (.ended .thrown)
    | .callback => some (.scheduling .rescue .networkError none)
    | .rescue => some (.ended .lost)
  | .resetting | .reading | .marking | .handling _ _ | .burying _ _ => some (.ended .thrown)
  | .submitting | .waiting | .ended _ => none

variable (service : Service)

def Service.start (call : Call) : Service :=
  { service with calls := service.calls ++ [call] }

def Service.goOn (index : ℕ) (call : Call) : Service :=
  { service with calls := service.calls.set index call }

def Service.update (index : ℕ) (call : Call) (attempt : FeeBumpAttempt) (logged : List DeadLetter) :
    Service where
  attempts := service.attempts.set call.attempt attempt
  calls := service.calls.set index call
  deadLetters := service.deadLetters ++ logged

def Service.perform (service : Service) : Label → Option Service
  | .createFeeBumpAttempt maxRetries =>
    some { service with
      attempts := service.attempts ++ [⟨none, .pending, 0, maxRetries.getD config.maxRetries, none, none, none⟩] }
  | .submitFeeBumpWithRetry attempt => some (service.start ⟨attempt, 0, .reading⟩)
  | .manualRetryFeeBump attempt =>
    if service.attempts[attempt]?.any fun row => row.status = .deadLetter || row.status = .failed then
      some (service.start ⟨attempt, 0, .resetting⟩)
    else some service
  | .query index now =>
    match service.calls[index]? with
    | none => none
    | some call =>
      match service.attempts[call.attempt]? with
      | none => if call.phase = .reading then some (service.goOn index { call with phase := .ended .thrown }) else none
      | some attempt =>
        (call.query config attempt now).map fun done => service.update index done.2 done.1 call.logDeadLetterEvent
  | .fail index message =>
    match service.calls[index]? with
    | none => none
    | some call => (call.phase.catch config message).map fun phase => service.goOn index { call with phase }
  | .succeed index hash =>
    match service.calls[index]? with
    | some ⟨attempt, number, .submitting⟩ => some (service.goOn index ⟨attempt, number, .recording hash⟩)
    | _ => none
  | .reject index message =>
    match service.calls[index]? with
    | some ⟨attempt, number, .submitting⟩ =>
      some (service.goOn index ⟨attempt, number, .handling (classifyError config message) message⟩)
    | _ => none
  | .lookup index successful =>
    match service.calls[index]? with
    | some ⟨attempt, number, .waiting⟩ =>
      let phase := if successful then .confirming else .scheduling .callback .transactionNotFound none
      some (service.goOn index ⟨attempt, number, phase⟩)
    | _ => none

variable (before : Service)

def step (label : Label) (after : Service) : Prop :=
  before.perform config label = some after

/-- The outcome of the submission is recorded. -/
def Phase.isCompleted : Phase → Bool
  | .waiting | .confirming | .logging _ _ => true
  | .scheduling caller _ _ | .failing caller _ _ _ => caller ≠ .submission
  | .ended outcome => outcome ≠ .thrown
  | _ => false

/-- It ended in status `failed`. -/
def Phase.isFailed : Phase → Bool
  | .ended (.failed _) => true
  | _ => false

/-- It has failed, for good or to be retried. -/
def Phase.hasFailed : Phase → Bool
  | .logging _ _ | .ended .buried | .ended (.failed _) => true
  | _ => false

def Service.completed (attempt : ℕ) : ℕ :=
  service.calls.countP fun call => call.attempt = attempt && call.phase.isCompleted

def Service.failures (attempt : ℕ) : ℕ :=
  service.calls.countP fun call => call.attempt = attempt && call.phase.isFailed

/-- Statuses change along the table of transitions. -/
def Listed (_ : Label) (after : Service) : Prop :=
  ∀ (id : ℕ) old new, before.attempts[id]? = some old → after.attempts[id]? = some new → old.status ≠ new.status →
    isValidTransition old.status new.status = true

def Counted : Prop :=
  ∀ (id : ℕ) attempt, service.attempts[id]? = some attempt → attempt.attemptNumber = service.completed id

/-- A submission that comes to fail without a retry left leaves the attempt in `dead_letter`. -/
def Buried (_ : Label) (after : Service) : Prop :=
  ∀ (index : ℕ) old new attempt, before.calls[index]? = some old → after.calls[index]? = some new →
    after.attempts[new.attempt]? = some attempt → old.phase.hasFailed = false → new.phase.hasFailed = true →
    attempt.maxRetries ≤ new.newAttemptNumber → attempt.status = .deadLetter

def Exhausted : Prop :=
  ∀ (id : ℕ) attempt, service.attempts[id]? = some attempt → service.failures id ≤ attempt.maxRetries

end ProxyPay.FeeBumpRecovery
