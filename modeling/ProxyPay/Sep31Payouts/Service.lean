import Mathlib.Algebra.Order.Ring.Rat
import ProxyPay.Library.Text

/-! Payout attempts, the runs of `executePayout` over copies of their rows, and the passes of the retry job. A run takes one
statement, or one answer of the provider, at a time. An attempt is known by its position. -/

namespace ProxyPay.Sep31Payouts

open ProxyPay.Library

inductive PayoutStatus where
  | pending
  | processing
  | completed
  | failed
  | retrying
  | deadLetter
  deriving DecidableEq

structure PayoutAttempt where
  provider : String
  amount : ℚ
  status : PayoutStatus
  attemptNumber : ℕ
  maxRetries : ℕ
  errorMessage : Option String
  payoutReference : Option String
  nextRetryAt : Option ℕ
  deriving DecidableEq

structure Config where
  maxRetries : ℕ
  baseBackoffMs : ℕ
  maxBackoffMs : ℕ
  /-- A number as text. -/
  number : ℚ → String

/-- The smallest and the largest amount of a provider. -/
def providerConfig : String → Option (ℚ × ℚ)
  | "mtn" => some (1, 5000)
  | "airtel" => some (1, 3000)
  | "orange" => some (1, 2000)
  | "vodacom" => some (1, 4000)
  | "tigo" => some (1, 2000)
  | _ => none

/-- What `sendPayout` reports, or the message of what it throws. -/
inductive Answer where
  | success (reference transactionId : Option String)
  | failure (error : Option String)
  | thrown (message : Option String)

/-- What a run of `executePayout` does next. -/
inductive Phase where
  | marking
  | sending
  | completing (reference transactionId : Option String)
  | failing (errorMessage : String)
  | logging (errorMessage : String)
  | returned (attempt : PayoutAttempt)
  | thrown
  deriving DecidableEq

/-- A run of `executePayout` on a copy of its attempt, with whether it called the provider and whether that paid. -/
structure Call where
  id : ℕ
  attempt : PayoutAttempt
  sent : Bool
  paid : Bool
  phase : Phase
  deriving DecidableEq

/-- A run of `runPayoutRetryJob`, with the rows that are left and the call that it waits for. -/
structure Pass where
  rows : List (ℕ × PayoutAttempt)
  current : Option ℕ
  retried : ℕ
  failed : ℕ
  deriving DecidableEq

structure Payouts where
  attempts : List PayoutAttempt
  calls : List Call
  passes : List Pass
  /-- `payout_dead_letter` -/
  deadLetters : List (ℕ × String)
  deriving DecidableEq

def Payouts.initial : Payouts :=
  ⟨[], [], [], []⟩

/-- `query` is the call's next statement, and `fail` an error that it throws instead. -/
inductive Label where
  | processSep31PayoutWithRetry (provider : String) (amount : ℚ)
  | runPayoutRetryJob (now : ℕ) (rows : List ℕ)
  | next (pass : ℕ)
  | settle (pass : ℕ)
  | query (call : ℕ) (now : ℕ)
  | fail (call : ℕ) (message : Option String)
  | answer (call : ℕ) (paid : Bool) (answer : Answer)

variable (message : Option String)

/-- `error?.message || "Unknown error"` -/
def errorMessage : String :=
  (Text.truthy message).getD "Unknown error"

variable (config : Config)

/-- Where a run goes on once the attempt is marked. -/
def validate (attempt : PayoutAttempt) : Phase :=
  match providerConfig attempt.provider with
  | none => .failing s!"Unknown provider: {attempt.provider}"
  | some (minAmount, maxAmount) =>
    if attempt.amount < minAmount then
      .failing s!"Amount {config.number attempt.amount} below minimum {config.number minAmount} for {attempt.provider}"
    else if maxAmount < attempt.amount then
      .failing s!"Amount {config.number attempt.amount} above maximum {config.number maxAmount} for {attempt.provider}"
    else .sending

def Answer.phase : Answer → Phase
  | .success reference transactionId => .completing reference transactionId
  | .failure error => .failing (errorMessage (some ((Text.truthy error).getD "Payout failed")))
  | .thrown message => .failing (errorMessage message)

def Config.backoffMs (attemptNumber : ℕ) : ℕ :=
  min (config.baseBackoffMs * 2 ^ attemptNumber) config.maxBackoffMs

/-- What a statement makes of a row, and where the call goes on. -/
def Call.query (call : Call) (row : PayoutAttempt) (now : ℕ) : Option (PayoutAttempt × Phase) :=
  let attempt := call.attempt
  let newAttemptNumber := attempt.attemptNumber + 1
  match call.phase with
  | .marking => some ({ row with status := .processing }, validate config attempt)
  | .completing reference transactionId =>
    some ({ row with
        status := .completed, attemptNumber := newAttemptNumber
        payoutReference := Text.truthy (Text.orElse reference transactionId) },
      .returned { attempt with
        status := .completed, attemptNumber := newAttemptNumber, payoutReference := Text.truthy reference })
  | .failing errorMessage =>
    if attempt.maxRetries ≤ newAttemptNumber then
      some ({ row with status := .deadLetter, attemptNumber := newAttemptNumber, errorMessage := some errorMessage },
        .logging errorMessage)
    else
      let nextRetryAt := now + config.backoffMs attempt.attemptNumber
      some ({ row with
          status := .retrying, attemptNumber := newAttemptNumber, errorMessage := some errorMessage
          nextRetryAt := some nextRetryAt },
        .returned { attempt with
          status := .retrying, attemptNumber := newAttemptNumber, errorMessage := some errorMessage
          nextRetryAt := some nextRetryAt })
  | .logging errorMessage =>
    some (row,
      .returned { attempt with
        status := .deadLetter, attemptNumber := newAttemptNumber, errorMessage := some errorMessage })
  | .sending | .returned _ | .thrown => none

/-- What a statement inserts into `payout_dead_letter`. -/
def Call.logged (call : Call) : List (ℕ × String) :=
  match call.phase with
  | .logging errorMessage => [(call.id, errorMessage)]
  | _ => []

/-- Where an error of a statement leads. -/
def Phase.catch : Phase → Option Phase
  | .completing _ _ => some (.failing (errorMessage message))
  | .marking | .failing _ | .logging _ => some .thrown
  | .sending | .returned _ | .thrown => none

def Phase.isOver : Phase → Bool
  | .returned _ | .thrown => true
  | _ => false

/-- A pass goes on after a call. -/
def Pass.settle (pass : Pass) : Phase → Pass
  | .returned _ => { pass with current := none, retried := pass.retried + 1 }
  | _ => { pass with current := none, failed := pass.failed + 1 }

def PayoutAttempt.isDue (now : ℕ) (attempt : PayoutAttempt) : Bool :=
  attempt.status = .retrying && attempt.nextRetryAt.any (· ≤ now)

namespace Payouts

/-- The rows are an answer to the query of the retry job; rows of one time come in any order. -/
def isSelection (payouts : Payouts) (now : ℕ) (rows : List ℕ) : Bool :=
  let isDue row := payouts.attempts[row]?.any (PayoutAttempt.isDue now)
  let time row := (payouts.attempts[row]?.bind PayoutAttempt.nextRetryAt).getD 0
  decide rows.Nodup && rows.all isDue && rows.length = min 50 (payouts.attempts.countP (PayoutAttempt.isDue now)) &&
    decide (rows.Pairwise fun first second => time first ≤ time second) &&
    (List.range payouts.attempts.length).all fun row =>
      rows.contains row || !isDue row || rows.all fun selected => time selected ≤ time row

def start (payouts : Payouts) (id : ℕ) (attempt : PayoutAttempt) : Payouts :=
  { payouts with calls := payouts.calls ++ [⟨id, attempt, false, false, .marking⟩] }

def goOn (payouts : Payouts) (index : ℕ) (call : Call) : Payouts :=
  { payouts with calls := payouts.calls.set index call }

def update (payouts : Payouts) (index : ℕ) (call : Call) (row : PayoutAttempt) (logged : List (ℕ × String)) : Payouts :=
  { payouts.goOn index call with
    attempts := payouts.attempts.set call.id row
    deadLetters := payouts.deadLetters ++ logged }

def perform (config : Config) (payouts : Payouts) : Label → Option Payouts
  | .processSep31PayoutWithRetry provider amount =>
    let attempt := ⟨provider, amount, .pending, 0, config.maxRetries, none, none, none⟩
    some (start { payouts with attempts := payouts.attempts ++ [attempt] } payouts.attempts.length attempt)
  | .runPayoutRetryJob now rows =>
    if payouts.isSelection now rows then
      let copies := rows.filterMap fun row => payouts.attempts[row]?.map fun attempt => (row, attempt)
      some { payouts with passes := payouts.passes ++ [⟨copies, none, 0, 0⟩] }
    else none
  | .next index =>
    match payouts.passes[index]? with
    | some ⟨(id, attempt) :: rows, none, retried, failed⟩ =>
      some ({ payouts with
        passes := payouts.passes.set index ⟨rows, some payouts.calls.length, retried, failed⟩ }.start id attempt)
    | _ => none
  | .settle index =>
    match payouts.passes[index]? with
    | none => none
    | some pass =>
      match pass.current.bind fun call => payouts.calls[call]? with
      | none => none
      | some call =>
        if call.phase.isOver then some { payouts with passes := payouts.passes.set index (pass.settle call.phase) }
        else none
  | .query index now =>
    match payouts.calls[index]? with
    | none => none
    | some call =>
      match payouts.attempts[call.id]? with
      | none => none
      | some row =>
        (call.query config row now).map fun done =>
          payouts.update index { call with phase := done.2 } done.1 call.logged
  | .fail index message =>
    match payouts.calls[index]? with
    | none => none
    | some call => (call.phase.catch message).map fun phase => payouts.goOn index { call with phase }
  | .answer index paid answer =>
    match payouts.calls[index]? with
    | some ⟨id, attempt, _, _, .sending⟩ => some (payouts.goOn index ⟨id, attempt, true, paid, answer.phase⟩)
    | _ => none

end Payouts

def step (before : Payouts) (label : Label) (after : Payouts) : Prop :=
  before.perform config label = some after

variable (payouts : Payouts)

def Payouts.payments (id : ℕ) : ℕ :=
  payouts.calls.countP fun call => call.id = id && call.paid

def Payouts.sends (id : ℕ) : ℕ :=
  payouts.calls.countP fun call => call.id = id && call.sent

def PaidOnce : Prop :=
  ∀ id, payouts.payments id ≤ 1

/-- No attempt that the provider paid is to be retried or given up. -/
def Stands : Prop :=
  ∀ (id : ℕ) attempt, payouts.attempts[id]? = some attempt → 0 < payouts.payments id →
    attempt.status ≠ .retrying ∧ attempt.status ≠ .deadLetter

def Bounded : Prop :=
  ∀ (id : ℕ) attempt, payouts.attempts[id]? = some attempt → payouts.sends id ≤ attempt.maxRetries

/-- The attempt's status is one that `executePayout` leaves it in. -/
def PayoutStatus.isFinal : PayoutStatus → Bool
  | .completed | .retrying | .deadLetter => true
  | _ => false

/-- An attempt that was executed, and is not being executed, is in a final status. -/
def Finished : Prop :=
  ∀ (id : ℕ) attempt, payouts.attempts[id]? = some attempt → (∃ call ∈ payouts.calls, call.id = id) →
    (∀ call ∈ payouts.calls, call.id = id → call.phase.isOver = true) → attempt.status.isFinal = true

end ProxyPay.Sep31Payouts
