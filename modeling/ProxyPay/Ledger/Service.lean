import ProxyPay.Ledger.Posting
import ProxyPay.Library.Transition

/-! The postings that the service offers, and runs of calls. -/

namespace ProxyPay.Ledger

open ProxyPay.Library ProxyPay.Library.Atomic

structure ReversalResult where
  alreadyReversed : Bool
  entries : List PostedEntry

structure ReversalArgs where
  transactionId : String
  referenceNumber : String
  reason : String
  postedBy : Option String

/-- The parameters of the postings that move an amount for a user. -/
structure MovementArgs where
  amount : Float
  fee : Float
  referenceNumber : String
  transactionId : String
  userId : String

structure ClawbackArgs where
  amount : Float
  referenceNumber : String
  transactionId : String
  userId : String
  reason : String

structure ProviderFeeArgs where
  amount : Float
  referenceNumber : String
  transactionId : String

def reversalReference (referenceNumber : String) : String :=
  "REV-" ++ referenceNumber

variable (db : Database)

def Database.existing (transaction : Uuid) (reference : String) : List LedgerEntryRow :=
  db.entries.filter fun row =>
    row.transactionId = some transaction ∧ row.referenceNumber.text = reference

/-- `ORDER BY created_at, id` -/
def earlier (first second : LedgerEntryRow) : Prop :=
  first.createdAt < second.createdAt ∨ first.createdAt = second.createdAt ∧ first.id ≤ second.id

instance : DecidableRel earlier := fun first second =>
  inferInstanceAs (Decidable (first.createdAt < second.createdAt ∨
    first.createdAt = second.createdAt ∧ first.id ≤ second.id))

/-- The entries that a reversal reads, each with the code of its account. -/
def Database.original (transaction : Uuid) (reference : String) : List (String × LedgerEntryRow) :=
  let rows := db.entries.filter fun row =>
    row.transactionId = some transaction ∧ row.referenceNumber.text ≠ reference
  (rows.insertionSort earlier).filterMap fun row =>
    (db.codeOf row.accountId).map fun code => (code, row)

def whenPositive (number : Float) : Option Float :=
  if number > 0 then some number else none

def reversalEntry (args : ReversalArgs) (code : String) (row : LedgerEntryRow) : LedgerEntry where
  accountCode := code
  debitAmount := whenPositive (toNumber row.creditAmount)
  creditAmount := whenPositive (toNumber row.debitAmount)
  description := some ("Reversal: " ++ row.description)
  metadata := some [("reversalOf", args.referenceNumber), ("reason", args.reason)]
  settlementDate := none

variable (server : Server)

variable (moment : Moment)

/-- The advisory lock makes the calls for one reference run one after the other. -/
def postReversal (args : ReversalArgs) : Statement ReversalResult := atomically do
  let reference := reversalReference args.referenceNumber
  let db ← get
  let transaction ← check
    (orThrow "invalid input syntax for type uuid" (server.uuid args.transactionId))
  if db.existing transaction reference ≠ [] then return ⟨true, []⟩
  else
    let original := db.original transaction reference
    check (require (original ≠ [])
      ("No ledger entries found for transaction " ++ args.transactionId))
    let entries ← postTransactionWithClient server moment
      { referenceNumber := reference
        description := "Reversal of " ++ args.referenceNumber ++ ": " ++ args.reason
        entries := original.map fun (code, row) => reversalEntry args code row
        transactionId := some args.transactionId
        postedBy := args.postedBy }
    return ⟨false, entries⟩

variable (accountCode : String)

def debitEntry (amount : Float) (description : String) : LedgerEntry :=
  { accountCode, debitAmount := some amount, creditAmount := none, description := some description
    metadata := none, settlementDate := none }

def creditEntry (amount : Float) (description : String) : LedgerEntry :=
  { accountCode, debitAmount := none, creditAmount := some amount, description := some description
    metadata := none, settlementDate := none }

def feeEntries (fee : Float) (description : String) : List LedgerEntry :=
  if fee > 0 then [creditEntry accountCode fee description] else []

def feeText (amount fee : Float) : String :=
  Number.text amount ++ " (fee: " ++ Number.text fee ++ ")"

def postDeposit (args : MovementArgs) : Statement (List PostedEntry) := do
  let user ← check (moment.findById args.userId)
  let delayDays := (user.bind User.settlementDelayDays).getD 0
  let settlementDate ← check (moment.isoDateAfter delayDays)
  let credited := creditEntry "2000" (args.amount - args.fee) "Customer balance credited"
  postTransaction server moment
    { referenceNumber := args.referenceNumber
      description := "Deposit: " ++ feeText args.amount args.fee
      entries :=
        [debitEntry "1100" args.amount "Customer deposit received",
          { credited with settlementDate := some settlementDate }] ++
        feeEntries "4100" args.fee "Deposit fee earned"
      transactionId := some args.transactionId
      postedBy := some args.userId }

def postWithdrawal (args : MovementArgs) : Statement (List PostedEntry) :=
  postTransaction server moment
    { referenceNumber := args.referenceNumber
      description := "Withdrawal: " ++ feeText args.amount args.fee
      entries :=
        [debitEntry "2000" (args.amount + args.fee) "Customer balance debited",
          creditEntry "1100" args.amount "Withdrawal paid out"] ++
        feeEntries "4200" args.fee "Withdrawal fee earned"
      transactionId := some args.transactionId
      postedBy := some args.userId }

def postClawback (args : ClawbackArgs) : Statement (List PostedEntry) :=
  postTransaction server moment
    { referenceNumber := args.referenceNumber
      description := "Clawback: " ++ Number.text args.amount ++ " - Reason: " ++ args.reason
      entries :=
        [debitEntry "2000" args.amount ("Clawback: " ++ args.reason),
          creditEntry "1100" args.amount ("Clawback reversal: " ++ args.referenceNumber)]
      transactionId := some args.transactionId
      postedBy := some args.userId }

def postProviderFee (args : ProviderFeeArgs) : Statement (List PostedEntry) :=
  postTransaction server moment
    { referenceNumber := args.referenceNumber
      description := "Provider fee: " ++ Number.text args.amount
      entries :=
        [debitEntry "5000" args.amount "Provider fee expense",
          creditEntry "1100" args.amount "Provider fee paid"]
      transactionId := some args.transactionId
      postedBy := none }

inductive Call where
  | postTransaction (args : PostArgs)
  | postReversal (args : ReversalArgs)
  | postDeposit (args : MovementArgs)
  | postWithdrawal (args : MovementArgs)
  | postClawback (args : ClawbackArgs)
  | postProviderFee (args : ProviderFeeArgs)

inductive Outcome where
  | posted (entries : List PostedEntry)
  | reversed (result : ReversalResult)

def Call.perform : Call → Statement Outcome
  | .postTransaction args => return .posted (← Ledger.postTransaction server moment args)
  | .postReversal args => return .reversed (← Ledger.postReversal server moment args)
  | .postDeposit args => return .posted (← Ledger.postDeposit server moment args)
  | .postWithdrawal args => return .posted (← Ledger.postWithdrawal server moment args)
  | .postClawback args => return .posted (← Ledger.postClawback server moment args)
  | .postProviderFee args => return .posted (← Ledger.postProviderFee server moment args)

inductive Event where
  | call (moment : Moment) (call : Call)
  | interrupted (call : Call)
  | administer

/-- The steps of the ledger. An interrupted call is rolled back by the database, and accounts and
users may be added, activated and deactivated at any time. -/
inductive Step (server : Server) : Database → Event → Database → Prop where
  | returned {before after : Database} {moment : Moment} {call : Call} {outcome : Outcome}
      (returned : call.perform server moment before = .ok outcome after) :
      Step server before (.call moment call) after
  | failed {before after : Database} {moment : Moment} {call : Call} {message : String}
      (failed : call.perform server moment before = .error message after) :
      Step server before (.call moment call) after
  | interrupted {before : Database} {call : Call} : Step server before (.interrupted call) before
  | administer {before after : Database} (same : after.entries = before.entries) :
      Step server before .administer after

structure LedgerBalanceCheck where
  totalDebits : ℚ
  totalCredits : ℚ
  difference : ℚ
  isBalanced : Bool
  deriving DecidableEq

variable (entries : List LedgerEntryRow)

def debitTotal : ℚ :=
  (entries.map fun row => row.debitAmount.value).sum

def creditTotal : ℚ :=
  (entries.map fun row => row.creditAmount.value).sum

def check_ledger_balance : LedgerBalanceCheck where
  totalDebits := debitTotal db.entries
  totalCredits := creditTotal db.entries
  difference := debitTotal db.entries - creditTotal db.entries
  isBalanced := debitTotal db.entries = creditTotal db.entries

/-- A server that knows one identifier. -/
def simpleServer : Server where
  uuid := fun text => if text = "" then none else some 7
  uuid_empty := by simp
  date := fun _ => none

/-- A moment in which rows get the identifiers of this list. -/
def momentWith (ids : List Uuid) : Moment where
  now := 1780000000
  today := ⟨20600⟩
  freshId := fun position => ids.getD position 0
  findById := fun _ => .ok none
  isoDateAfter := fun _ => .ok "2026-05-29"

/-- Four accounts of the standard chart, and no entries. -/
def chart : Database where
  accounts := [⟨1, "1100", true⟩, ⟨2, "2000", true⟩, ⟨3, "4100", true⟩, ⟨4, "4200", true⟩]
  users := [7]
  entries := []
  account_ids := by decide
  account_codes := by decide
  entry_accounts := by simp

end ProxyPay.Ledger
