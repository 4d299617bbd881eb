import ProxyPay.Library.InsertionMap
import ProxyPay.Library.Numeral

/-! Reconciliation of the rows of a provider's report with the transactions of the database. -/

namespace ProxyPay.Reconciliation

open ProxyPay.Library ProxyPay.Library.Text

structure ProviderCSVRow where
  referenceNumber : Option String
  referenceId : Option String
  providerReference : Option String
  amount : Option String
  status : Option String
  columns : List (String × String)
  deriving DecidableEq

/-- A transaction, as the query returns it. -/
structure DbRecord where
  id : String
  referenceNumber : String
  providerReference : Option String
  amount : String
  status : String
  phoneNumber : String
  provider : String
  createdAt : String
  deriving DecidableEq

/-- The rows that the query returns; the id is the primary key. -/
structure DbResult where
  rows : List DbRecord
  ids : (rows.map DbRecord.id).Nodup

inductive DiscrepancyType where
  | amountMismatch
  | statusMismatch
  deriving DecidableEq

structure ReconciliationMatch where
  referenceNumber : String
  amount : String
  status : String
  providerStatus : Option String
  matched : Bool
  discrepancyType : Option DiscrepancyType
  dbRecord : DbRecord
  providerRecord : ProviderCSVRow
  deriving DecidableEq

structure ReconciliationSummary where
  matchRate : String
  totalMatched : Nat
  totalDiscrepancies : Nat
  totalOrphanedProvider : Nat
  totalOrphanedDb : Nat
  deriving DecidableEq

structure ReconciliationResult where
  totalProviderRows : Nat
  totalDbRecords : Nat
  matched : List ReconciliationMatch
  discrepancies : List ReconciliationMatch
  orphanedProvider : List ProviderCSVRow
  orphanedDb : List DbRecord
  summary : ReconciliationSummary
  deriving DecidableEq

variable (casing : Casing)

def normalizeReferenceNumber (ref : Option String) : Option String :=
  (truthy ref).map fun ref => casing.upper (trim ref)

def isAmountChar (char : Char) : Bool :=
  char.isDigit || char = '.'

def normalizeAmount (amount : Option String) : Option String :=
  (truthy amount).map fun amount => trim (String.ofList (amount.toList.filter isAmountChar))

/-- The reference of a row, which may be empty. -/
def rowReference (row : ProviderCSVRow) : Option String :=
  normalizeReferenceNumber casing
    (orElse (orElse row.providerReference row.referenceNumber) row.referenceId)

variable (index : InsertionMap String DbRecord)

/-- A record is indexed by each of its references that is not empty. -/
def indexRecord (record : DbRecord) : InsertionMap String DbRecord :=
  let index := match truthy (normalizeReferenceNumber casing (some record.referenceNumber)) with
    | some ref => index.set ref record
    | none => index
  match truthy (normalizeReferenceNumber casing record.providerReference) with
  | some ref => index.set ref record
  | none => index

def dbByReference (dbRecords : List DbRecord) : InsertionMap String DbRecord :=
  dbRecords.foldl (indexRecord casing) .empty

variable (providerRows : List ProviderCSVRow)

def providerByReference : InsertionMap (Option String) ProviderCSVRow :=
  .ofPairs (providerRows.map fun row => (rowReference casing row, row))

/-- What the loop over the provider's references collects. -/
structure Matching where
  matched : List ReconciliationMatch
  discrepancies : List ReconciliationMatch
  matchedDbRefs : List String
  matchedProviderRefs : List String

def Matching.empty : Matching := ⟨[], [], [], []⟩

variable (record : DbRecord)

/-- The references of a matched record; the empty one is among them if a reference is blank. -/
def DbRecord.normalizedReferences : List String :=
  [some record.referenceNumber, record.providerReference].filterMap (normalizeReferenceNumber casing)

def amountMatches (row : ProviderCSVRow) : Bool :=
  normalizeAmount (some record.amount) = normalizeAmount row.amount

def statusMatches (row : ProviderCSVRow) : Bool :=
  casing.lower record.status = casing.lower (row.status.getD "")

def reconciliationMatch (row : ProviderCSVRow) : ReconciliationMatch :=
  let agrees := amountMatches record row && statusMatches casing record row
  { referenceNumber := record.referenceNumber
    amount := record.amount
    status := record.status
    providerStatus := row.status
    matched := agrees
    discrepancyType :=
      if agrees then none
      else if amountMatches record row then some .statusMismatch else some .amountMismatch
    dbRecord := record
    providerRecord := row }

/-- The record that the index has for an entry of the provider's map. -/
def recordOf (ref : Option String) : Option DbRecord :=
  (truthy ref).bind index.get?

def Matching.visit (state : Matching)
    (entry : Option String × ProviderCSVRow) : Matching :=
  match truthy entry.1 with
  | none => state
  | some refNum =>
    match index.get? refNum with
    | none => state
    | some record =>
      let found := reconciliationMatch casing record entry.2
      let seen : Matching :=
        { state with
          matchedDbRefs := state.matchedDbRefs ++ record.normalizedReferences casing
          matchedProviderRefs := state.matchedProviderRefs ++ [refNum] }
      if found.matched then { seen with matched := state.matched ++ [found] }
      else { seen with discrepancies := state.discrepancies ++ [found] }

def matching (dbRecords : List DbRecord) : Matching :=
  (providerByReference casing providerRows).entries.foldl
    (Matching.visit casing (dbByReference casing dbRecords)) .empty

def isOrphanedProvider (state : Matching) (row : ProviderCSVRow) : Bool :=
  (truthy (rowReference casing row)).any fun refNum => refNum ∉ state.matchedProviderRefs

def isMatched (state : Matching) (record : DbRecord) : Bool :=
  ((truthy (normalizeReferenceNumber casing (some record.referenceNumber))).any
    fun refNum => refNum ∈ state.matchedDbRefs) ||
  (truthy (normalizeReferenceNumber casing record.providerReference)).any
    fun provRef => provRef ∈ state.matchedDbRefs

/-- The rows of the report that carry a reference are matched in percent of all rows. -/
def matchRate (totalMatched totalRows : Nat) : String :=
  if 0 < totalRows then
    Number.toFixed 2 (Float.ofNat totalMatched / Float.ofNat totalRows * 100) ++ "%"
  else "0.00%"

def reconcileTransactions (dbResult : DbResult) : ReconciliationResult :=
  let state := matching casing providerRows dbResult.rows
  let orphanedProvider := providerRows.filter (isOrphanedProvider casing state)
  let orphanedDb := dbResult.rows.filter fun record => !isMatched casing state record
  { totalProviderRows := providerRows.length
    totalDbRecords := dbResult.rows.length
    matched := state.matched
    discrepancies := state.discrepancies
    orphanedProvider
    orphanedDb
    summary :=
      { matchRate := matchRate state.matched.length providerRows.length
        totalMatched := state.matched.length
        totalDiscrepancies := state.discrepancies.length
        totalOrphanedProvider := orphanedProvider.length
        totalOrphanedDb := orphanedDb.length } }

end ProxyPay.Reconciliation
