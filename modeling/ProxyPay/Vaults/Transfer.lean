import ProxyPay.Library.Rounding
import ProxyPay.Library.Fallible
import ProxyPay.Library.Transition
import ProxyPay.Queue.Worker

/-! Transfers between a user's main balance and the vaults. The main balance is the sum of
the completed transactions that belong to no vault; a vault keeps its balance in a column. -/

namespace ProxyPay.Vaults

open ProxyPay.Library
open ProxyPay.Queue (JobType TransactionStatus)

/-- `DECIMAL(20, 7)` -/
abbrev Money := Decimal 20 7

/-- A row of `vaults`, with its `CHECK`. -/
structure Vault where
  id : String
  userId : String
  name : String
  balance : Money
  isActive : Bool
  balance_nonneg : 0 ≤ balance.units
  deriving DecidableEq

/-- A row of `vault_transactions`, with its `CHECK`. -/
structure VaultTransaction where
  vaultId : String
  userId : String
  type : JobType
  amount : Money
  description : Option String
  referenceId : Option String
  amount_pos : 0 < amount.units
  deriving DecidableEq

/-- A row of `transactions`. -/
structure Transaction where
  referenceNumber : Varchar 25
  type : JobType
  amount : Money
  phoneNumber : String
  provider : String
  stellarAddress : String
  status : TransactionStatus
  userId : String
  vaultId : Option String
  notes : Option String
  deriving DecidableEq

structure Database where
  vaults : List Vault
  vaultTransactions : List VaultTransaction
  transactions : List Transaction
  vault_ids : (vaults.map Vault.id).Nodup

/-- What a transaction adds to the main balance of a user. -/
def Transaction.mainAmount (userId : String) (transaction : Transaction) : ℚ :=
  if transaction.userId = userId ∧ transaction.status = .completed ∧ transaction.vaultId = none then
    match transaction.type with
    | .deposit => transaction.amount.value
    | .withdraw => -transaction.amount.value
  else 0

variable (db : Database) (userId : String)

def Database.mainBalance : ℚ :=
  (db.transactions.map (Transaction.mainAmount userId)).sum

structure VaultBalance where
  vaultId : String
  vaultName : String
  balance : ℚ
  deriving DecidableEq

structure UserBalanceSummary where
  mainBalance : ℚ
  vaultBalances : List VaultBalance
  totalBalance : ℚ
  deriving DecidableEq

def Database.vaultBalances : List VaultBalance :=
  (db.vaults.filter fun vault => vault.userId = userId ∧ vault.isActive).map fun vault =>
    ⟨vault.id, vault.name, vault.balance.value⟩

def getUserBalanceSummary : UserBalanceSummary where
  mainBalance := db.mainBalance userId
  vaultBalances := db.vaultBalances userId
  totalBalance := db.mainBalance userId + ((db.vaultBalances userId).map VaultBalance.balance).sum

/-- The arguments of `transferFunds`, with the time and the random suffix that go into the
reference number. -/
structure Transfer where
  userId : String
  vaultId : String
  amount : ℚ
  type : JobType
  description : Option String
  now : Nat
  suffix : String
  amount_pos : 0 < amount

def Database.findVault (vaultId userId : String) : Option Vault :=
  db.vaults.find? fun vault => vault.id = vaultId ∧ vault.userId = userId

def Database.updateBalance (vaultId : String) (newBalance : ℚ) : Except String Database := do
  let balance : Money ← orThrow "numeric field overflow" (Decimal.store newBalance)
  if nonneg : 0 ≤ balance.units then
    return { db with
      vaults := db.vaults.map fun vault =>
        if vault.id = vaultId then { vault with balance, balance_nonneg := nonneg } else vault
      vault_ids := by
        have same : ∀ vault : Vault, (if vault.id = vaultId then
            { vault with balance, balance_nonneg := nonneg } else vault).id = vault.id := by
          intro vault
          split <;> rfl
        simpa [List.map_map, Function.comp_def, same] using db.vault_ids }
  else throw "new row violates check constraint vaults_balance_check"

def Database.createVaultTransaction (transfer : Transfer) :
    Except String (VaultTransaction × Database) := do
  let amount : Money ← orThrow "numeric field overflow" (Decimal.store transfer.amount)
  if positive : 0 < amount.units then
    let row : VaultTransaction :=
      { vaultId := transfer.vaultId
        userId := transfer.userId
        type := transfer.type
        amount
        description := transfer.description
        referenceId := none
        amount_pos := positive }
    return (row, { db with vaultTransactions := db.vaultTransactions ++ [row] })
  else throw "new row violates check constraint vault_transactions_amount_check"

variable (transfer : Transfer)

def Transfer.reference : String :=
  "VAULT-" ++ toString transfer.now ++ "-" ++ transfer.suffix

/-- The word for a transfer in the notes. -/
def typeText : JobType → String
  | .deposit => "deposit"
  | .withdraw => "withdraw"

def opposite : JobType → JobType
  | .deposit => .withdraw
  | .withdraw => .deposit

def transferNotes (vault : Vault) : String :=
  "Vault " ++ typeText transfer.type ++ ": " ++ vault.name ++
    match transfer.description with
    | none => ""
    | some description => if description = "" then "" else " - " ++ description

/-- The mirror of the transfer among the main transactions. -/
def Database.insertTransaction (transfer : Transfer) (vault : Vault) : Except String Database := do
  let referenceNumber : Varchar 25 ←
    orThrow "value too long for type character varying(25)" (Varchar.store transfer.reference)
  let amount : Money ← orThrow "numeric field overflow" (Decimal.store transfer.amount)
  return { db with
    transactions := db.transactions ++
      [{ referenceNumber, amount
         type := opposite transfer.type
         phoneNumber := "vault-transfer"
         provider := "internal"
         stellarAddress := "vault-system"
         status := .completed
         userId := transfer.userId
         vaultId := some transfer.vaultId
         notes := some (transferNotes transfer vault) }] }

def Transfer.newBalance (vault : Vault) : ℚ :=
  match transfer.type with
  | .deposit => vault.balance.value + transfer.amount
  | .withdraw => vault.balance.value - transfer.amount

/-- The transaction of `transferFunds`; an error rolls all of it back. -/
def transferFunds (transfer : Transfer) : Except String (VaultTransaction × Database) := do
  let vault ← orThrow "Vault not found" (db.findVault transfer.vaultId transfer.userId)
  require vault.isActive "Cannot transfer to inactive vault"
  require (¬(transfer.type = .withdraw ∧ vault.balance.value < transfer.amount))
    "Insufficient vault balance"
  require (¬(transfer.type = .deposit ∧ db.mainBalance transfer.userId < transfer.amount))
    "Insufficient main balance"
  let db ← db.updateBalance transfer.vaultId (transfer.newBalance vault)
  let (vaultTransaction, db) ← db.createVaultTransaction transfer
  let db ← db.insertTransaction transfer vault
  return (vaultTransaction, db)

/-- A call of `transferFunds`, which a lost connection may interrupt. -/
structure Call where
  transfer : Transfer
  interrupted : Bool

def Call.perform (call : Call) (db : Database) : Option (VaultTransaction × Database) :=
  if call.interrupted then none else (transferFunds db call.transfer).toOption

def Database.after (call : Call) : Database :=
  match call.perform db with
  | some (_, committed) => committed
  | none => db

end ProxyPay.Vaults
