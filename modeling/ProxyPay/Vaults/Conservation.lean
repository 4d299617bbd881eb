import ProxyPay.Vaults.Transfer

/-! The vault's balance moves and the main balance does not: the mirror of a transfer belongs
to the vault, and the main balance leaves such transactions out. -/

namespace ProxyPay.Vaults

open ProxyPay.Library
open ProxyPay.Queue (JobType TransactionStatus)

variable {db before after : Database} {transfer : Transfer} {call : Call} {trace : List Call}

/-- What is moved into the main balance of the caller. -/
def Call.mainChange (call : Call) (db : Database) (userId : String) : ℚ :=
  if (call.perform db).isSome ∧ userId = call.transfer.userId then
    match call.transfer.type with
    | .deposit => -call.transfer.amount
    | .withdraw => call.transfer.amount
  else 0

structure Conserves (before : Database) (call : Call) (after : Database) : Prop where
  total : ∀ userId, (getUserBalanceSummary after userId).totalBalance =
    (getUserBalanceSummary before userId).totalBalance
  main : ∀ userId, after.mainBalance userId = before.mainBalance userId + call.mainChange before userId
  main_nonneg : ∀ userId, 0 ≤ before.mainBalance userId → 0 ≤ after.mainBalance userId
  vault_nonneg : ∀ vault ∈ after.vaults, 0 ≤ vault.balance.value

/-- The reasons for which a transfer is rolled back. -/
inductive Refused (db : Database) (transfer : Transfer) : Prop where
  | notFound (missing : db.findVault transfer.vaultId transfer.userId = none)
  | inactive {vault : Vault} (found : db.findVault transfer.vaultId transfer.userId = some vault)
      (inactive : vault.isActive = false)
  | vaultBalance {vault : Vault} (found : db.findVault transfer.vaultId transfer.userId = some vault)
      (withdraws : transfer.type = .withdraw) (short : vault.balance.value < transfer.amount)
  | mainBalance (deposits : transfer.type = .deposit)
      (short : db.mainBalance transfer.userId < transfer.amount)
  | balanceOverflow {vault : Vault}
      (found : db.findVault transfer.vaultId transfer.userId = some vault)
      (overflows : (Decimal.store (transfer.newBalance vault) : Option Money) = none)
  | amountOverflow (overflows : (Decimal.store transfer.amount : Option Money) = none)
  | amountVanishes {amount : Money} (stored : Decimal.store transfer.amount = some amount)
      (vanishes : amount.units ≤ 0)
  | reference (long : (Varchar.store transfer.reference : Option (Varchar 25)) = none)

/-- The step that a call takes. -/
def performs (before : Database) (call : Call) (after : Database) : Prop :=
  after = before.after call

variable {vaultId : String} {newBalance : ℚ}

theorem updateBalance_ok (updated : db.updateBalance vaultId newBalance = .ok after) :
    (∃ balance : Money, Decimal.store newBalance = some balance ∧ 0 ≤ balance.units) ∧
      after.transactions = db.transactions := by
  unfold Database.updateBalance at updated
  obtain ⟨balance, stored, rest⟩ := bind_ok.mp updated
  rw [orThrow_ok] at stored
  by_cases nonneg : 0 ≤ balance.units
  · grind [pure_ok]
  · rw [dif_neg nonneg] at rest
    cases rest

theorem updateBalance_commits (vaultId : String) {balance : Money}
    (stored : Decimal.store newBalance = some balance) (nonneg : 0 ≤ balance.units) :
    ∃ after, db.updateBalance vaultId newBalance = .ok after := by
  simp [Database.updateBalance, orThrow, stored, nonneg, bind, Except.bind, pure, Except.pure]

variable {row : VaultTransaction}

theorem createVaultTransaction_ok (created : db.createVaultTransaction transfer = .ok (row, after)) :
    (∃ amount : Money, Decimal.store transfer.amount = some amount ∧ 0 < amount.units) ∧
      after.transactions = db.transactions := by
  unfold Database.createVaultTransaction at created
  obtain ⟨amount, stored, rest⟩ := bind_ok.mp created
  rw [orThrow_ok] at stored
  by_cases positive : 0 < amount.units
  · grind [pure_ok]
  · rw [dif_neg positive] at rest
    cases rest

variable {amount : Money}

theorem createVaultTransaction_commits (stored : Decimal.store transfer.amount = some amount) (positive : 0 < amount.units) :
    ∃ row after, db.createVaultTransaction transfer = .ok (row, after) := by
  simp [Database.createVaultTransaction, orThrow, stored, positive, bind, Except.bind, pure, Except.pure]

theorem insertTransaction_ok {vault : Vault} (inserted : db.insertTransaction transfer vault = .ok after) :
    (∃ reference : Varchar 25, Varchar.store transfer.reference = some reference) ∧
      ∃ row : Transaction, row.vaultId = some transfer.vaultId ∧ after.transactions = db.transactions ++ [row] := by
  unfold Database.insertTransaction at inserted
  obtain ⟨reference, kept, rest⟩ := bind_ok.mp inserted
  obtain ⟨amount, stored, rest⟩ := bind_ok.mp rest
  rw [pure_ok] at rest
  subst rest
  constructor
  · exact ⟨reference, orThrow_ok.mp kept⟩
  · exact ⟨_, rfl, rfl⟩

theorem insertTransaction_commits (vault : Vault) {reference : Varchar 25}
    (stored : Decimal.store transfer.amount = some amount)
    (kept : Varchar.store transfer.reference = some reference) :
    ∃ after, db.insertTransaction transfer vault = .ok after := by
  simp [Database.insertTransaction, orThrow, stored, kept, bind, Except.bind, pure, Except.pure]

theorem transferFunds_ok (moved : transferFunds db transfer = .ok (row, after)) :
    ¬Refused db transfer ∧ ∃ mirror : Transaction, mirror.vaultId = some transfer.vaultId ∧
      after.transactions = db.transactions ++ [mirror] := by
  unfold transferFunds at moved
  obtain ⟨vault, found, moved⟩ := bind_ok.mp moved
  obtain ⟨_, active, moved⟩ := bind_ok.mp moved
  obtain ⟨_, vaultCovers, moved⟩ := bind_ok.mp moved
  obtain ⟨_, mainCovers, moved⟩ := bind_ok.mp moved
  obtain ⟨updated, update, moved⟩ := bind_ok.mp moved
  obtain ⟨⟨_, recorded⟩, record, moved⟩ := bind_ok.mp moved
  obtain ⟨inserted, insert, moved⟩ := bind_ok.mp moved
  rw [pure_ok] at moved
  cases moved
  rw [orThrow_ok] at found
  rw [require_ok] at active vaultCovers mainCovers
  obtain ⟨⟨balance, balanceFits, _⟩, sameUpdated⟩ := updateBalance_ok update
  obtain ⟨⟨amount, amountFits, positive⟩, sameRecorded⟩ := createVaultTransaction_ok record
  obtain ⟨⟨reference, referenceFits⟩, mirror, mirrorVault, appended⟩ := insertTransaction_ok insert
  constructor
  · intro refused
    cases refused with
    | notFound missing => simp [found] at missing
    | inactive other inactive => simp_all
    | vaultBalance other withdraws lacking => grind
    | mainBalance deposits lacking => exact mainCovers ⟨deposits, lacking⟩
    | balanceOverflow other overflows => simp_all
    | amountOverflow overflows => simp [amountFits] at overflows
    | amountVanishes stored vanishes =>
      cases amountFits.symm.trans stored
      omega
    | reference long => simp [referenceFits] at long
  · exact ⟨mirror, mirrorVault, by rw [appended, sameRecorded, sameUpdated]⟩

variable {number : ℚ}

theorem roundHalfAway_nonneg (nonneg : 0 ≤ number) : 0 ≤ roundHalfAway number := by
  rw [roundHalfAway, if_pos nonneg]
  apply Int.floor_nonneg.mpr
  positivity

theorem store_nonneg {stored : Money} (kept : Decimal.store number = some stored)
    (nonneg : 0 ≤ number) : 0 ≤ stored.units := by
  rw [Decimal.units_store kept]
  apply roundHalfAway_nonneg
  positivity

theorem transferFunds_commits (accepted : ¬Refused db transfer) :
    ∃ row after, transferFunds db transfer = .ok (row, after) := by
  obtain ⟨vault, found⟩ : ∃ vault, db.findVault transfer.vaultId transfer.userId = some vault := by
    apply Option.ne_none_iff_exists'.mp
    intro missing
    exact accepted (.notFound missing)
  have active : vault.isActive = true := by
    by_contra inactive
    exact accepted (.inactive found (by simpa using inactive))
  have vaultCovers : ¬(transfer.type = .withdraw ∧ vault.balance.value < transfer.amount) := by
    intro short
    exact accepted (.vaultBalance found short.1 short.2)
  have mainCovers : ¬(transfer.type = .deposit ∧ db.mainBalance transfer.userId < transfer.amount) := by
    intro short
    exact accepted (.mainBalance short.1 short.2)
  obtain ⟨balance, balanceFits⟩ :
      ∃ balance : Money, Decimal.store (transfer.newBalance vault) = some balance := by
    apply Option.ne_none_iff_exists'.mp
    intro overflows
    exact accepted (.balanceOverflow found overflows)
  obtain ⟨amount, amountFits⟩ : ∃ amount : Money, Decimal.store transfer.amount = some amount := by
    apply Option.ne_none_iff_exists'.mp
    intro overflows
    exact accepted (.amountOverflow overflows)
  have positive : 0 < amount.units := by
    by_contra vanishes
    exact accepted (.amountVanishes amountFits (by omega))
  obtain ⟨reference, referenceFits⟩ :
      ∃ reference : Varchar 25, Varchar.store transfer.reference = some reference := by
    apply Option.ne_none_iff_exists'.mp
    intro long
    exact accepted (.reference long)
  have balanceNonneg : 0 ≤ balance.units := by
    apply store_nonneg balanceFits
    have held := Decimal.value_nonneg.mpr vault.balance_nonneg
    have paid := transfer.amount_pos
    unfold Transfer.newBalance
    cases moves : transfer.type with
    | deposit => exact add_nonneg held paid.le
    | withdraw => simp_all
  obtain ⟨updated, update⟩ : ∃ updated,
      db.updateBalance transfer.vaultId (transfer.newBalance vault) = .ok updated :=
    updateBalance_commits transfer.vaultId balanceFits balanceNonneg
  obtain ⟨row, recorded, record⟩ : ∃ row recorded,
      updated.createVaultTransaction transfer = .ok (row, recorded) :=
    createVaultTransaction_commits amountFits positive
  obtain ⟨inserted, insert⟩ : ∃ inserted, recorded.insertTransaction transfer vault = .ok inserted :=
    insertTransaction_commits vault amountFits referenceFits
  refine ⟨row, inserted, ?_⟩
  unfold transferFunds
  apply bind_ok.mpr ⟨vault, orThrow_ok.mpr found, ?_⟩
  apply bind_ok.mpr ⟨⟨⟩, require_ok.mpr active, ?_⟩
  apply bind_ok.mpr ⟨⟨⟩, require_ok.mpr vaultCovers, ?_⟩
  apply bind_ok.mpr ⟨⟨⟩, require_ok.mpr mainCovers, ?_⟩
  apply bind_ok.mpr ⟨updated, update, ?_⟩
  apply bind_ok.mpr ⟨(row, recorded), record, ?_⟩
  apply bind_ok.mpr ⟨inserted, insert, ?_⟩
  rfl

theorem mainBalance_append {row : Transaction} (mirrors : row.vaultId = some vaultId)
    (appended : after.transactions = before.transactions ++ [row]) (userId : String) :
    after.mainBalance userId = before.mainBalance userId := by
  have silent : row.mainAmount userId = 0 := by simp [Transaction.mainAmount, mirrors]
  simp [Database.mainBalance, appended, silent]

theorem mainBalance_after (db : Database) (call : Call) (userId : String) :
    (db.after call).mainBalance userId = db.mainBalance userId := by
  unfold Database.after Call.perform
  by_cases interrupted : call.interrupted = true
  · simp [interrupted]
  · simp only [interrupted]
    cases moved : transferFunds db call.transfer with
    | error message => rfl
    | ok result =>
      obtain ⟨-, mirror, mirrors, appended⟩ := transferFunds_ok moved
      exact mainBalance_append mirrors appended userId

theorem perform_eq_none : call.perform db = none ↔ call.interrupted = true ∨ Refused db call.transfer := by
  unfold Call.perform
  by_cases interrupted : call.interrupted = true
  · simp [interrupted]
  · simp only [interrupted, Bool.false_eq_true, if_false, false_or]
    constructor
    · intro failed
      by_contra accepted
      obtain ⟨row, committed, moved⟩ := transferFunds_commits accepted
      simp [moved, Except.toOption] at failed
    · intro refused
      cases moved : transferFunds db call.transfer with
      | error message => rfl
      | ok result => exact absurd refused (transferFunds_ok moved).1

theorem vaults_nonneg (db : Database) : ∀ vault ∈ db.vaults, 0 ≤ vault.balance.value := by
  intro vault _
  exact Decimal.value_nonneg.mpr vault.balance_nonneg

theorem conserves_iff : Conserves db call (db.after call) ↔ call.interrupted = true ∨ Refused db call.transfer := by
  rw [← perform_eq_none]
  constructor
  · intro conserves
    by_contra committed
    have moved := conserves.main call.transfer.userId
    rw [mainBalance_after] at moved
    have unchanged : call.mainChange db call.transfer.userId = 0 := by linarith
    have paid := call.transfer.amount_pos
    rw [Call.mainChange, if_pos ⟨Option.isSome_iff_ne_none.mpr committed, rfl⟩] at unchanged
    cases moves : call.transfer.type <;> simp only [moves] at unchanged <;> linarith
  · intro failed
    have same : db.after call = db := by simp [Database.after, failed]
    rw [same]
    constructor
    · simp
    · intro userId
      simp [Call.mainChange, failed]
    · simp
    · exact vaults_nonneg db

/-- In every run of transfers the money is conserved throughout exactly when every transfer is
rolled back. -/
theorem transfers_conserve_iff (start : Database) (trace : List Call) : Throughout performs start Conserves trace ↔
      Throughout performs start
        (fun before call _ => call.interrupted = true ∨ Refused before call.transfer) trace := by
  apply throughout_congr
  intro _ before call after _ move
  subst move
  exact conserves_iff

theorem savings_fits : Int.natAbs 0 < 10 ^ 20 := by
  decide

def savings : Vault where
  id := "savings"
  userId := "alice"
  name := "Savings"
  balance := ⟨0, savings_fits⟩
  isActive := true
  balance_nonneg := by decide

theorem salary_reference : "TXN-1".length ≤ 25 := by
  decide

def salary : Transaction where
  referenceNumber := ⟨"TXN-1", salary_reference⟩
  type := .deposit
  amount := ⟨1000000000, by decide⟩
  phoneNumber := "+237670000000"
  provider := "mtn"
  stellarAddress := "GA"
  status := .completed
  userId := "alice"
  vaultId := none
  notes := none

def paidIn : Database where
  vaults := [savings]
  vaultTransactions := []
  transactions := [salary]
  vault_ids := by decide

/-- The suffix is the one of `Math.random() = 0.5`. -/
def setAside : Call where
  interrupted := false
  transfer :=
    { userId := "alice"
      vaultId := "savings"
      amount := 40
      type := .deposit
      description := none
      now := 1780000000000
      suffix := "i"
      amount_pos := by decide }

/-- Setting 40 of 100 aside makes 140. -/
theorem deposit_counted_twice : (getUserBalanceSummary paidIn "alice").totalBalance = 100 ∧
      (getUserBalanceSummary (paidIn.after setAside) "alice").totalBalance = 140 ∧
      ¬Throughout performs paidIn Conserves [setAside] := by
  have before : (getUserBalanceSummary paidIn "alice").totalBalance = 100 := by decide +kernel
  have after : (getUserBalanceSummary (paidIn.after setAside) "alice").totalBalance = 140 := by
    decide +kernel
  refine ⟨before, after, ?_⟩
  intro conserved
  have total := (conserved [] setAside [] paidIn _ rfl .start rfl).total "alice"
  rw [before, after] at total
  norm_num at total

end ProxyPay.Vaults
