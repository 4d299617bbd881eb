import Mathlib.Data.List.Sort
import ProxyPay.Library.Atomic
import ProxyPay.Library.Numeral

/-! The double-entry ledger: the two tables, `post_transaction`, and the service that checks a
posting in floating point before the database checks it in decimals. -/

namespace ProxyPay.Ledger

open ProxyPay.Library ProxyPay.Library.Atomic

abbrev Uuid := BitVec 128

/-- `DECIMAL(20, 7)` -/
abbrev Amount := Decimal 20 7

/-- A `DATE`, as a number of days. -/
structure Date where
  days : ℤ
  deriving DecidableEq

/-- A row of `accounts`. -/
structure Account where
  id : Uuid
  code : String
  isActive : Bool
  deriving DecidableEq

abbrev Metadata := List (String × String)

/-- A row of `ledger_entries`, with `check_debit_or_credit`. -/
structure LedgerEntryRow where
  id : Uuid
  accountId : Uuid
  debitAmount : Amount
  creditAmount : Amount
  transactionId : Option Uuid
  referenceNumber : Varchar 50
  description : String
  postedBy : Option Uuid
  metadata : Metadata
  settlementDate : Date
  createdAt : ℕ
  oneSided : (0 < debitAmount.units ∧ creditAmount.units = 0) ∨
    (0 < creditAmount.units ∧ debitAmount.units = 0)
  deriving DecidableEq

/-- The tables, with their keys. -/
structure Database where
  accounts : List Account
  users : List Uuid
  entries : List LedgerEntryRow
  account_ids : (accounts.map Account.id).Nodup
  account_codes : (accounts.map Account.code).Nodup
  entry_accounts : ∀ row ∈ entries, row.accountId ∈ accounts.map Account.id

abbrev Statement := EStateM String Database

/-- How the database reads the texts of identifiers and of dates. -/
structure Server where
  uuid : String → Option Uuid
  uuid_empty : uuid "" = none
  date : String → Option Date

structure User where
  settlementDelayDays : Option ℤ

/-- What a call finds outside the ledger: the clock, the generator of row ids and the users. -/
structure Moment where
  now : ℕ
  today : Date
  freshId : ℕ → Uuid
  findById : String → Except String (Option User)
  isoDateAfter : ℤ → Except String String

/-- An entry as callers give it. -/
structure LedgerEntry where
  accountCode : String
  debitAmount : Option Float
  creditAmount : Option Float
  description : Option String
  metadata : Option Metadata
  settlementDate : Option String

structure PostedEntry where
  entryId : Uuid
  accountCode : String
  debit : Float
  credit : Float

namespace Database

variable (db : Database)

/-- The id of an active account. -/
def activeAccount (code : String) : Option Uuid :=
  (db.accounts.find? fun account => account.code = code ∧ account.isActive).map Account.id

def account (db : Database) (code : String) : Option Uuid :=
  (db.accounts.find? fun account => account.code = code).map Account.id

def codeOf (id : Uuid) : Option String :=
  (db.accounts.find? fun account => account.id = id).map Account.code

def insert (row : LedgerEntryRow) : Except String Database := do
  require (row.postedBy.all fun user => user ∈ db.users) "violates foreign key constraint on posted_by"
  if known : row.accountId ∈ db.accounts.map Account.id then
    return { db with
      entries := db.entries ++ [row]
      entry_accounts := by
        intro other stored
        rcases List.mem_append.mp stored with old | new
        · exact db.entry_accounts other old
        · rw [List.mem_singleton.mp new]
          exact known }
  else throw "violates foreign key constraint on account_id"

end Database

def zero : Amount := ⟨0, by decide⟩

/-- `COALESCE((v_entry->>'debit_amount')::DECIMAL(20, 7), 0)` -/
def coalesce (side : Option Float) : Except String Amount :=
  match side.bind Number.json with
  | none => .ok zero
  | some number => orThrow "numeric field overflow" (Decimal.store number)

/-- The addition to a variable of type `DECIMAL(20, 7)`. -/
def accumulate (total amount : Amount) : Except String Amount :=
  orThrow "numeric field overflow" (Decimal.store (total.value + amount.value))

/-- The first loop of `post_transaction`. -/
def totals (db : Database) : List LedgerEntry → Amount → Amount → Except String (Amount × Amount)
  | [], debits, credits => .ok (debits, credits)
  | entry :: rest, debits, credits => do
    let _ ← orThrow ("Account not found or inactive: " ++ entry.accountCode)
      (db.activeAccount entry.accountCode)
    let debits ← accumulate debits (← coalesce entry.debitAmount)
    let credits ← accumulate credits (← coalesce entry.creditAmount)
    totals db rest debits credits

/-- What all entries of a posting share. -/
structure Posting where
  referenceNumber : String
  description : String
  transactionId : Option Uuid
  postedBy : Option Uuid

variable (server : Server)

variable (moment : Moment)

/-- `COALESCE((v_entry->>'settlement_date')::DATE, CURRENT_DATE)` -/
def settlementDate : Option String → Except String Date
  | none => .ok moment.today
  | some text => orThrow "invalid input syntax for type date" (server.date text)

def ledgerRow (posting : Posting) (accountId id : Uuid)
    (entry : LedgerEntry) : Except String LedgerEntryRow := do
  let debitAmount ← coalesce entry.debitAmount
  let creditAmount ← coalesce entry.creditAmount
  let settlementDate ← settlementDate server moment entry.settlementDate
  let referenceNumber : Varchar 50 ←
    orThrow "value too long for type character varying(50)" (Varchar.store posting.referenceNumber)
  if oneSided : (0 < debitAmount.units ∧ creditAmount.units = 0) ∨
      (0 < creditAmount.units ∧ debitAmount.units = 0) then
    return {
      id, accountId, debitAmount, creditAmount, referenceNumber, settlementDate, oneSided
      transactionId := posting.transactionId
      description := entry.description.getD posting.description
      postedBy := posting.postedBy
      metadata := entry.metadata.getD []
      createdAt := moment.now }
  else throw "violates check constraint check_debit_or_credit"

/-- `Number(text)` of a stored amount. -/
def toNumber (amount : Amount) : Float :=
  let magnitude := Number.nearest amount.units.natAbs (-7)
  if amount.units < 0 then -magnitude else magnitude

/-- The second loop of `post_transaction`. -/
def insertEntries (server : Server) (moment : Moment) (posting : Posting) :
    ℕ → List LedgerEntry → Statement (List PostedEntry)
  | _, [] => pure []
  | position, entry :: rest => do
    let db ← get
    let accountId ← check
      (orThrow "violates not-null constraint on account_id" (db.account entry.accountCode))
    let row ← check (ledgerRow server moment posting accountId (moment.freshId position) entry)
    set (← check (db.insert row))
    let posted ← insertEntries server moment posting (position + 1) rest
    return ⟨row.id, entry.accountCode, toNumber row.debitAmount, toNumber row.creditAmount⟩ :: posted

def post_transaction (posting : Posting)
    (entries : List LedgerEntry) : Statement (List PostedEntry) := do
  check (require (entries.length ≠ 0) "At least one ledger entry is required")
  check (require (¬entries.length < 2) "Double-entry requires at least 2 entries (debit and credit)")
  let (debits, credits) ← check (totals (← get) entries zero zero)
  check (require (debits = credits)
    ("Transaction is not balanced: debits=" ++ debits.text ++ " credits=" ++ credits.text))
  check (require (debits ≠ zero) "Transaction amounts cannot be zero")
  insertEntries server moment posting 0 entries

/-- `id || null`, read as a `UUID`. -/
def nullableUuid : Option String → Except String (Option Uuid)
  | none => .ok none
  | some "" => .ok none
  | some text => (orThrow "invalid input syntax for type uuid" (server.uuid text)).map some

def sumOf (side : LedgerEntry → Option Float) (entries : List LedgerEntry) : Float :=
  entries.foldl (fun sum entry => sum + Number.orZero (side entry)) 0

/-- The parameters of `postTransaction`. -/
structure PostArgs where
  referenceNumber : String
  description : String
  entries : List LedgerEntry
  transactionId : Option String
  postedBy : Option String

def unbalanced (totalDebits totalCredits : Float) : String :=
  "Transaction not balanced: debits=" ++ Number.text totalDebits ++
    " credits=" ++ Number.text totalCredits

def postTransactionWithClient (args : PostArgs) : Statement (List PostedEntry) := do
  check (require (¬args.entries.length < 2) "At least 2 entries required for double-entry")
  let totalDebits := sumOf LedgerEntry.debitAmount args.entries
  let totalCredits := sumOf LedgerEntry.creditAmount args.entries
  check (require (¬Float.abs (totalDebits - totalCredits) > 0.0000001)
    (unbalanced totalDebits totalCredits))
  let transactionId ← check (nullableUuid server args.transactionId)
  let postedBy ← check (nullableUuid server args.postedBy)
  post_transaction server moment
    { referenceNumber := args.referenceNumber
      description := args.description
      transactionId, postedBy } args.entries

def postTransaction (args : PostArgs) : Statement (List PostedEntry) :=
  atomically (postTransactionWithClient server moment args)

end ProxyPay.Ledger
