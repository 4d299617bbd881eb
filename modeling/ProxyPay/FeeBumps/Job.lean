import Mathlib.Data.Int.Notation
import Mathlib.Data.Nat.Notation
import ProxyPay.Queue.Worker

/-! Passes of `runFeeBumpJob` over the rows of `transactions` and the payments that the issuer's account has sent. A
hash is the position of its payment. Passes may overlap. -/

namespace ProxyPay.FeeBumps

open ProxyPay.Queue (TransactionStatus)

structure FeeBump where
  previousHash : ℕ
  newHash : ℕ
  fee : ℕ
  bumpedAt : ℕ
  deriving DecidableEq

structure StellarMeta where
  transactionHash : ℕ
  submittedAt : ℕ
  feeBumps : List FeeBump
  deriving DecidableEq

/-- A row of the provider `stellar`. -/
structure Row where
  status : TransactionStatus
  stellar : StellarMeta
  deriving DecidableEq

/-- A payment of a row on its way to the network, or applied. -/
structure Payment where
  row : ℕ
  sequence : ℤ
  fee : ℕ
  applied : Bool
  deriving DecidableEq

/-- What a pass has read of a row. -/
structure Task where
  row : ℕ
  stellar : StellarMeta
  deriving DecidableEq

/-- Where a pass stands with its first task. -/
inductive Phase where
  | checking
  | completing
  | failing
  | loading
  | building (sequence : ℤ)
  | submitting (hash : ℕ)
  | remembering (hash : ℕ)
  deriving DecidableEq

structure Pass where
  tasks : List Task
  phase : Phase
  deriving DecidableEq

structure Payments where
  /-- The sequence of the issuer's account. -/
  sequence : ℤ
  sent : List Payment
  rows : List Row
  passes : List Pass
  deriving DecidableEq

def Payments.initial (sequence : ℤ) : Payments :=
  ⟨sequence, [], [], []⟩

inductive Lookup where
  | found
  | notFound
  | error
  deriving DecidableEq

/-- `create` is the first payment of a new row, and `advance` any other transaction of the account. -/
inductive Label where
  | create (sequence : ℤ) (now : ℕ)
  | runFeeBumpJob (now : ℕ)
  | check (pass : ℕ) (answer : Lookup)
  | mark (pass : ℕ) (tookEffect : Bool)
  | load (pass : ℕ) (answered : Bool)
  | submit (pass : ℕ)
  | answer (pass : ℕ) (accepted : Bool)
  | remember (pass : ℕ) (tookEffect : Bool) (now : ℕ)
  | receive (hash : ℕ)
  | advance
  deriving DecidableEq

/-- The query of the job. -/
def Row.isStuck (now : ℕ) (row : Row) : Bool :=
  row.status = .pending && row.stellar.submittedAt + 30000 < now

variable (payments : Payments)

def Payments.select (now : ℕ) : List Task :=
  payments.rows.zipIdx.filterMap fun entry => if entry.1.isStuck now then some ⟨entry.2, entry.1.stellar⟩ else none

def baseFee : ℕ := 100

variable (stellar : StellarMeta)

/-- Twice the previous fee, up to a maximum. -/
def newFee : ℕ :=
  min ((stellar.feeBumps.getLast?.map FeeBump.fee).getD baseFee * 2) 100000

/-- The metadata after a bump. -/
def StellarMeta.bump (hash now : ℕ) : StellarMeta :=
  ⟨hash, now, stellar.feeBumps ++ [⟨stellar.transactionHash, hash, newFee stellar, now⟩]⟩

/-- `checkTransactionConfirmed` takes any error for a payment that is pending, and there are three bumps at most. -/
def verdict : Lookup → Phase
  | .found => .completing
  | _ => if 3 ≤ stellar.feeBumps.length then .failing else .loading

def Phase.status : Phase → Option TransactionStatus
  | .completing => some .completed
  | .failing => some .failed
  | _ => none

def Row.setStatus (status : TransactionStatus) (row : Row) : Row :=
  { row with status }

def Row.updateMetadata (row : Row) : Row :=
  { row with stellar }

def Payments.goOn (pass : ℕ) (next : Pass) : Payments :=
  { payments with passes := payments.passes.set pass next }

def Payments.change (payments : Payments) (row : ℕ) (change : Row → Row) : Payments :=
  { payments with rows := payments.rows.modify row change }

def Payments.send (payment : Payment) : Payments :=
  { payments with sent := payments.sent ++ [payment] }

/-- The network applies a payment that has the next sequence of the account. -/
def Payments.apply (hash : ℕ) (payment : Payment) : Payments :=
  { payments with
    sequence := payment.sequence
    sent := payments.sent.set hash { payment with applied := true } }

def Payments.isApplied (hash : ℕ) : Bool :=
  (payments.sent[hash]?.map Payment.applied).getD false

def Payments.perform : Label → Option Payments
  | .create sequence now =>
    if sequence ≤ payments.sequence + 1 then
      some { payments.send ⟨payments.rows.length, sequence, baseFee, false⟩ with
        rows := payments.rows ++ [⟨.pending, ⟨payments.sent.length, now, []⟩⟩] }
    else none
  | .runFeeBumpJob now => some { payments with passes := payments.passes ++ [⟨payments.select now, .checking⟩] }
  | .check pass answer =>
    match payments.passes[pass]? with
    | some ⟨task :: tasks, .checking⟩ =>
      if answer = .found && !payments.isApplied task.stellar.transactionHash then none
      else some (payments.goOn pass ⟨task :: tasks, verdict task.stellar answer⟩)
    | _ => none
  | .mark pass tookEffect =>
    match payments.passes[pass]? with
    | some ⟨task :: tasks, phase⟩ =>
      match phase.status with
      | none => none
      | some status =>
        let next := payments.goOn pass ⟨tasks, .checking⟩
        some (if tookEffect then next.change task.row (Row.setStatus status) else next)
    | _ => none
  | .load pass answered =>
    match payments.passes[pass]? with
    | some ⟨task :: tasks, .loading⟩ =>
      some (payments.goOn pass (if answered then ⟨task :: tasks, .building payments.sequence⟩ else ⟨tasks, .checking⟩))
    | _ => none
  | .submit pass =>
    match payments.passes[pass]? with
    | some ⟨task :: tasks, .building sequence⟩ =>
      some ((payments.goOn pass ⟨task :: tasks, .submitting payments.sent.length⟩).send
        ⟨task.row, sequence + 1, newFee task.stellar, false⟩)
    | _ => none
  | .answer pass accepted =>
    match payments.passes[pass]? with
    | some ⟨task :: tasks, .submitting hash⟩ =>
      if accepted then
        if payments.isApplied hash then some (payments.goOn pass ⟨task :: tasks, .remembering hash⟩) else none
      else some (payments.goOn pass ⟨tasks, .checking⟩)
    | _ => none
  | .remember pass tookEffect now =>
    match payments.passes[pass]? with
    | some ⟨task :: tasks, .remembering hash⟩ =>
      let next := payments.goOn pass ⟨tasks, .checking⟩
      some (if tookEffect then next.change task.row (Row.updateMetadata (task.stellar.bump hash now)) else next)
    | _ => none
  | .receive hash =>
    match payments.sent[hash]? with
    | none => none
    | some payment =>
      if payment.sequence = payments.sequence + 1 then some (payments.apply hash payment) else some payments
  | .advance => some { payments with sequence := payments.sequence + 1 }

def step (before : Payments) (label : Label) (after : Payments) : Prop :=
  before.perform label = some after

/-- How many payments of the row have been applied. -/
def Payments.paid (row : ℕ) : ℕ :=
  payments.sent.countP fun payment => payment.row = row && payment.applied

/-- A payment of each row is applied once at most; exactly once if it is completed, and if it has failed then none is,
and their sequences are all used up. -/
structure PaidOnce (payments : Payments) : Prop where
  once : ∀ row, payments.paid row ≤ 1
  completed : ∀ (index : ℕ) row, payments.rows[index]? = some row → row.status = .completed → payments.paid index = 1
  failed : ∀ (index : ℕ) row, payments.rows[index]? = some row → row.status = .failed → payments.paid index = 0 ∧
    ∀ payment ∈ payments.sent, payment.row = index → payment.sequence ≤ payments.sequence

end ProxyPay.FeeBumps
