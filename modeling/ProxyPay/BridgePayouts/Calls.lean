import ProxyPay.Library.InsertionMap
import ProxyPay.Library.Text
import ProxyPay.Library.Transition

/-! Submissions of payouts to the bridge and callbacks about them. A step is one call of the store or of the provider, with
the code up to the next. -/

namespace ProxyPay.BridgePayouts

open ProxyPay.Library ProxyPay.Library.Text

inductive Status where
  | pending
  | submitted
  | completed
  | failed
  deriving DecidableEq

structure Sep31TransactionRecord where
  reference : String
  status : Status
  providerPaymentId : Option String
  deriving DecidableEq

structure CreatePaymentPayload where
  amount : ℕ
  currency : String
  deriving DecidableEq

/-- The reference that the body of a payment request carries: it has an amount and a currency only. -/
def CreatePaymentPayload.reference? (_ : CreatePaymentPayload) : Option String :=
  none

/-- The status of the response and the code of the error, where there are any. -/
structure AxiosError where
  status : Option ℕ
  code : Option String
  deriving DecidableEq

/-- The request may have been received. -/
def AxiosError.isAmbiguous (error : AxiosError) : Bool :=
  error.status.all (fun status => status = 0 || 500 ≤ status) || error.code = some "ECONNABORTED"

/-- What becomes of a payment request: the provider executes it and answers, it executes it and the answer is lost, or it does
not execute it. -/
inductive Reply where
  | created (id : String)
  | lost (id : String) (error : AxiosError) (ambiguous : error.isAmbiguous = true)
  | failed (error : AxiosError)

/-- A payment that was executed, with the reference of the submission, and with the reference that its request carried. -/
structure Payment where
  id : String
  reference : String
  carried : Option String
  deriving DecidableEq

inductive Task where
  | submitSep31Payout (payload : CreatePaymentPayload)
  | reconcileSep31Callback (providerPaymentId : String)
  deriving DecidableEq

inductive Outcome where
  | returned (record : Sep31TransactionRecord)
  | threw
  deriving DecidableEq

/-- The call that comes next, with what the call has in hand. -/
inductive Phase where
  | finding
  | creating
  | refinding
  | paying (record : Sep31TransactionRecord)
  /-- The update after the first payment. -/
  | recording (record : Sep31TransactionRecord)
  /-- The update after a definite rejection. -/
  | failing (record : Sep31TransactionRecord)
  | looking
  | payingAgain
  /-- The last update. -/
  | recordingAgain (record : Sep31TransactionRecord)
  | completing (record : Sep31TransactionRecord)
  | over (outcome : Outcome)
  deriving DecidableEq

/-- A call, with the record that it has read and whether a payment was executed for it. -/
structure Call where
  reference : String
  task : Task
  phase : Phase
  read : Option Sep31TransactionRecord
  executed : Bool
  deriving DecidableEq

/-- A record that was overwritten. -/
structure Write where
  stored : Sep31TransactionRecord
  written : Sep31TransactionRecord
  deriving DecidableEq

/-- The store, the provider and the calls, with the records that were overwritten. -/
structure Bridge where
  store : InsertionMap String Sep31TransactionRecord
  payments : List Payment
  calls : List Call
  writes : List Write
  /-- How many payments had been executed for a reference when its record was marked as failed. -/
  marks : List ℕ

def Bridge.initial : Bridge :=
  ⟨.empty, [], [], [], []⟩

inductive Label where
  | submitSep31Payout (reference : String) (payload : CreatePaymentPayload)
  | reconcileSep31Callback (reference providerPaymentId : String)
  | next (index : ℕ)
  | pay (index : ℕ) (reply : Reply)
  | fail (index : ℕ)

def Status.isPaid (status : Status) : Bool :=
  status = .submitted || status = .completed

namespace Bridge

variable (bridge : Bridge)

variable (index : ℕ)

def put (call : Call) : Bridge :=
  { bridge with calls := bridge.calls.set index call }

def goOn (call : Call) (phase : Phase) : Bridge :=
  bridge.put index { call with phase := phase }

def find (call : Call) : Option Sep31TransactionRecord :=
  bridge.store.get? call.reference

/-- How many payments were executed for a reference. -/
def paid (reference : String) : ℕ :=
  bridge.payments.countP fun payment => payment.reference = reference

/-- `store.update(record)` -/
def update (record : Sep31TransactionRecord) : Bridge :=
  { bridge with
    store := bridge.store.set record.reference record
    writes := bridge.writes ++ ((bridge.store.get? record.reference).map fun stored => ⟨stored, record⟩).toList }

/-- `submitSep31Payout` from the record that it has read or created. -/
def check (call : Call) (record : Sep31TransactionRecord) : Bridge :=
  if record.status.isPaid then bridge.goOn index call (.over (.returned record))
  else bridge.put index { call with phase := .paying record, read := some record }

def submitted (call : Call) (id : String) : Sep31TransactionRecord :=
  ⟨call.reference, .submitted, some id⟩

/-- `reconcileSep31Callback` from the record that it has read. -/
def reconcile (call : Call) (record : Sep31TransactionRecord) (providerPaymentId : String) :
    Bridge :=
  if record.status = .completed then bridge.goOn index call (.over (.returned record))
  else if (truthy record.providerPaymentId).any (· ≠ providerPaymentId) then
    bridge.goOn index call (.over (.returned record))
  else
    bridge.put index { call with
      phase := .completing { record with
        status := .completed, providerPaymentId := some (record.providerPaymentId.getD providerPaymentId) }
      read := some record }

def create (call : Call) : Bridge :=
  match bridge.find call with
  | some _ => bridge.goOn index call .refinding
  | none =>
    let record : Sep31TransactionRecord := ⟨call.reference, .pending, none⟩
    check { bridge with store := bridge.store.set call.reference record } index call record

/-- `getPaymentByReference` -/
def getPaymentByReference (reference : String) : Option Payment :=
  bridge.payments.find? fun payment => payment.carried = some reference

/-- The next call of the store, or the lookup, succeeds. -/
def operate (call : Call) : Option Bridge :=
  match call.phase, call.task with
  | .finding, .submitSep31Payout _ =>
    match bridge.find call with
    | some record => some (bridge.check index call record)
    | none => some (bridge.goOn index call .creating)
  | .finding, .reconcileSep31Callback providerPaymentId =>
    match bridge.find call with
    | some record => some (bridge.reconcile index call record providerPaymentId)
    | none => some (bridge.goOn index call (.over .threw))
  | .creating, _ => some (bridge.create index call)
  | .refinding, _ =>
    match bridge.find call with
    | some record => some (bridge.check index call record)
    | none => some (bridge.goOn index call (.over .threw))
  | .recording record, _ => some ((bridge.update record).goOn index call (.over (.returned record)))
  | .recordingAgain record, _ => some ((bridge.update record).goOn index call (.over (.returned record)))
  | .failing record, _ =>
    some { (bridge.update record).goOn index call (.over .threw) with
      marks := bridge.marks ++ [bridge.paid call.reference] }
  | .looking, _ =>
    match bridge.getPaymentByReference call.reference with
    | some existing => some (bridge.goOn index call (.recordingAgain (submitted call existing.id)))
    | none => some (bridge.goOn index call .payingAgain)
  | .completing record, _ => some ((bridge.update record).goOn index call (.over (.returned record)))
  | _, _ => none

/-- The provider executes the request of a call. -/
def execute (call : Call) (payload : CreatePaymentPayload) (id : String) : Bridge :=
  { bridge with payments := bridge.payments ++ [⟨id, call.reference, payload.reference?⟩] }

def pay (call : Call) (reply : Reply) : Option Bridge :=
  match call.phase, call.task, reply with
  | .paying _, .submitSep31Payout payload, .created id =>
    some ((bridge.execute call payload id).put index
      { call with phase := .recording (submitted call id), executed := true })
  | .paying _, .submitSep31Payout payload, .lost id _ _ =>
    some ((bridge.execute call payload id).put index { call with phase := .looking, executed := true })
  | .paying record, .submitSep31Payout _, .failed error =>
    if error.isAmbiguous then some (bridge.goOn index call .looking)
    else some (bridge.goOn index call (.failing { record with status := .failed }))
  | .payingAgain, .submitSep31Payout payload, .created id =>
    some ((bridge.execute call payload id).put index
      { call with phase := .recordingAgain (submitted call id), executed := true })
  | .payingAgain, .submitSep31Payout payload, .lost id _ _ =>
    some ((bridge.execute call payload id).put index { call with phase := .over .threw, executed := true })
  | .payingAgain, .submitSep31Payout _, .failed _ => some (bridge.goOn index call (.over .threw))
  | _, _, _ => none

/-- The next call of the store fails without effect, or the lookup does. The update after the first payment stands in the
block whose errors are taken for those of the payment. -/
def throw (call : Call) : Option Bridge :=
  match call.phase with
  | .creating => some (bridge.goOn index call .refinding)
  | .recording _ => some (bridge.goOn index call .looking)
  | .paying _ => none
  | .payingAgain => none
  | .over _ => none
  | _ => some (bridge.goOn index call (.over .threw))

def perform : Label → Option Bridge
  | .submitSep31Payout reference payload =>
    some { bridge with calls := bridge.calls ++ [⟨reference, .submitSep31Payout payload, .finding, none, false⟩] }
  | .reconcileSep31Callback reference providerPaymentId =>
    some { bridge with
      calls := bridge.calls ++ [⟨reference, .reconcileSep31Callback providerPaymentId, .finding, none, false⟩] }
  | .next index => bridge.calls[index]?.bind (bridge.operate index)
  | .pay index reply => bridge.calls[index]?.bind fun call => bridge.pay index call reply
  | .fail index => bridge.calls[index]?.bind (bridge.throw index)

end Bridge

def step (before : Bridge) (label : Label) (after : Bridge) : Prop :=
  before.perform label = some after

end ProxyPay.BridgePayouts
