import ProxyPay.Ledger.DoubleEntry

/-! Exactly which postings are accepted: both balance checks, the accounts, and what the
columns can hold. -/

namespace ProxyPay.Ledger

open ProxyPay.Library
open ProxyPay.Library.Atomic hiding bind_ok pure_ok

variable {server : Server} {moment : Moment} {before after db : Database} {posting : Posting}
variable {entry : LedgerEntry} {entries : List LedgerEntry} {row : LedgerEntryRow}
variable {rows : List LedgerEntryRow} {args : PostArgs}

def stored (side : Option Float) : Amount :=
  (coalesce side).toOption.getD zero

def storedDebits (entries : List LedgerEntry) : ℚ :=
  (entries.map fun entry => (stored entry.debitAmount).value).sum

def storedCredits (entries : List LedgerEntry) : ℚ :=
  (entries.map fun entry => (stored entry.creditAmount).value).sum

abbrev OneSided (debit credit : Amount) : Prop :=
  (0 < debit.units ∧ credit.units = 0) ∨ (0 < credit.units ∧ debit.units = 0)

/-- An entry that a row can hold. -/
structure Storable (server : Server) (moment : Moment) (db : Database) (entry : LedgerEntry) :
    Prop where
  account : (db.activeAccount entry.accountCode).isSome
  debit : coalesce entry.debitAmount = .ok (stored entry.debitAmount)
  credit : coalesce entry.creditAmount = .ok (stored entry.creditAmount)
  sides : OneSided (stored entry.debitAmount) (stored entry.creditAmount)
  dated : ∃ date, settlementDate server moment entry.settlementDate = .ok date

structure Acceptable (server : Server) (moment : Moment) (db : Database) (args : PostArgs) :
    Prop where
  pair : 2 ≤ args.entries.length
  close : ¬Float.abs (sumOf LedgerEntry.debitAmount args.entries -
    sumOf LedgerEntry.creditAmount args.entries) > 0.0000001
  storable : ∀ entry ∈ args.entries, Storable server moment db entry
  equal : storedDebits args.entries = storedCredits args.entries
  fits : storedDebits args.entries < 10 ^ 13
  reference : ∃ reference : Varchar 50, Varchar.store args.referenceNumber = some reference
  transaction : ∃ transaction, nullableUuid server args.transactionId = .ok transaction
  author : ∃ author, nullableUuid server args.postedBy = .ok author ∧
    author.all (fun user => user ∈ db.users) = true

theorem stored_ok {side : Option Float} {amount : Amount} (read : coalesce side = .ok amount) :
    stored side = amount := by
  simp [stored, read, Except.toOption]

theorem Stores.debit_eq {db : Database} (stores : Stores db entry row) : stored entry.debitAmount = row.debitAmount :=
  stored_ok stores.debit

theorem Stores.credit_eq {db : Database} (stores : Stores db entry row) :
    stored entry.creditAmount = row.creditAmount :=
  stored_ok stores.credit

theorem storedDebits_eq (stores : List.Forall₂ (Stores db) entries rows) : storedDebits entries = debitTotal rows := by
  induction stores with
  | nil => rfl
  | cons first _ ih =>
    rw [debitTotal_cons, ← ih, ← first.debit_eq]
    rfl

theorem storedCredits_eq (stores : List.Forall₂ (Stores db) entries rows) :
    storedCredits entries = creditTotal rows := by
  induction stores with
  | nil => rfl
  | cons first _ ih =>
    rw [creditTotal_cons, ← ih, ← first.credit_eq]
    rfl

theorem acceptable_of_accepts (passes : Passes server args posting)
    (accepts : Accepts server moment posting before args.entries rows after) :
    Acceptable server moment before args := by
  have nonempty : rows ≠ [] := by
    intro none
    have lengths := accepts.stores.length_eq
    have pair := passes.pair
    rw [none] at lengths
    simp at lengths
    simp [lengths] at pair
  constructor
  · exact passes.pair
  · exact passes.close
  · intro entry member
    obtain ⟨position, within, rfl⟩ := List.mem_iff_getElem.mp member
    have stores := List.forall₂_iff_get.mp accepts.stores
    have first := stores.2 position within (stores.1 ▸ within)
    simp only [List.get_eq_getElem] at first
    refine ⟨accepts.active _ member, ?_, ?_, ?_, accepts.dated _ member⟩
    · rw [first.debit_eq]
      exact first.debit
    · rw [first.credit_eq]
      exact first.credit
    · rw [first.debit_eq, first.credit_eq]
      exact LedgerEntryRow.oneSided _
  · rw [storedDebits_eq accepts.stores, storedCredits_eq accepts.stores]
    exact accepts.balanced
  · rw [storedDebits_eq accepts.stores]
    exact accepts.fits
  · obtain ⟨first, member⟩ := List.exists_mem_of_ne_nil rows nonempty
    rw [← passes.reference]
    exact ⟨first.referenceNumber, (accepts.belongs first member).reference⟩
  · exact ⟨posting.transactionId, passes.transaction⟩
  · exact ⟨posting.postedBy, passes.author, accepts.author nonempty⟩

variable {debit credit : Amount}

theorem OneSided.nonneg (sides : OneSided debit credit) : 0 ≤ debit.value ∧ 0 ≤ credit.value := by
  rw [Decimal.value_nonneg, Decimal.value_nonneg]
  rcases sides with ⟨positive, none⟩ | ⟨positive, none⟩ <;> omega

theorem OneSided.pos (sides : OneSided debit credit) : 0 < debit.value + credit.value := by
  have nonneg := sides.nonneg
  rcases sides with ⟨positive, none⟩ | ⟨positive, none⟩
  · have debited := Decimal.value_pos.mpr positive
    linarith
  · have credited := Decimal.value_pos.mpr positive
    linarith

theorem accumulate_commits (total amount : Amount) (nonneg : 0 ≤ total.value + amount.value)
    (small : total.value + amount.value < 10 ^ 13) :
    ∃ sum, accumulate total amount = .ok sum ∧ sum.value = total.value + amount.value := by
  have units : total.value + amount.value = ((total.units + amount.units : ℤ) : ℚ) / 10 ^ 7 := by simp [Decimal.value, add_div]
  have lower : 0 ≤ total.units + amount.units := by
    rw [units, le_div_iff₀ (by norm_num), zero_mul] at nonneg
    exact_mod_cast nonneg
  have upper : total.units + amount.units < 10 ^ 20 := by
    rw [units, div_lt_iff₀ (by norm_num)] at small
    have bound : ((total.units + amount.units : ℤ) : ℚ) < ((10 ^ 20 : ℤ) : ℚ) := by grind
    exact_mod_cast bound
  refine ⟨⟨total.units + amount.units, by omega⟩, accumulate_ok.mpr rfl, ?_⟩
  exact Decimal.value_add rfl

theorem zero_nonneg : 0 ≤ zero.value := by
  simp

theorem totals_commits {debits credits : Amount} (storable : ∀ entry ∈ entries, Storable server moment db entry)
    (debitNonneg : 0 ≤ debits.value) (creditNonneg : 0 ≤ credits.value)
    (debitFits : debits.value + storedDebits entries < 10 ^ 13)
    (creditFits : credits.value + storedCredits entries < 10 ^ 13) :
    ∃ debitSum creditSum, totals db entries debits credits = .ok (debitSum, creditSum) ∧
      debitSum.value = debits.value + storedDebits entries ∧
      creditSum.value = credits.value + storedCredits entries := by
  induction entries generalizing debits credits with
  | nil => exact ⟨debits, credits, rfl, by simp [storedDebits], by simp [storedCredits]⟩
  | cons entry rest ih =>
    have first := storable entry (by simp)
    have others : ∀ other ∈ rest, Storable server moment db other := by
      intro other member
      exact storable other (by simp [member])
    have restNonneg : 0 ≤ storedDebits rest ∧ 0 ≤ storedCredits rest := by
      constructor
      · apply List.sum_nonneg
        intro value member
        obtain ⟨other, known, rfl⟩ := List.mem_map.mp member
        exact (others other known).sides.nonneg.1
      · apply List.sum_nonneg
        intro value member
        obtain ⟨other, known, rfl⟩ := List.mem_map.mp member
        exact (others other known).sides.nonneg.2
    obtain ⟨firstDebit, firstCredit⟩ := first.sides.nonneg
    have debitSplit : storedDebits (entry :: rest) =
        (stored entry.debitAmount).value + storedDebits rest := by simp [storedDebits]
    have creditSplit : storedCredits (entry :: rest) =
        (stored entry.creditAmount).value + storedCredits rest := by simp [storedCredits]
    rw [debitSplit] at debitFits ⊢
    rw [creditSplit] at creditFits ⊢
    obtain ⟨debits', debitAdded, debitValue⟩ :=
      accumulate_commits debits (stored entry.debitAmount)
        (by linarith) (by linarith [restNonneg.1])
    obtain ⟨credits', creditAdded, creditValue⟩ :=
      accumulate_commits credits (stored entry.creditAmount)
        (by linarith) (by linarith [restNonneg.2])
    obtain ⟨debitSum, creditSum, added, debitTotal, creditTotal⟩ :=
      @ih debits' credits' others (by linarith) (by linarith)
        (by linarith) (by linarith)
    obtain ⟨accountId, active⟩ := Option.isSome_iff_exists.mp first.account
    refine ⟨debitSum, creditSum, ?_, by linarith, by linarith⟩
    unfold totals
    apply bind_ok.mpr ⟨accountId, orThrow_ok.mpr active, ?_⟩
    apply bind_ok.mpr ⟨_, first.debit, ?_⟩
    apply bind_ok.mpr ⟨debits', debitAdded, ?_⟩
    apply bind_ok.mpr ⟨_, first.credit, ?_⟩
    apply bind_ok.mpr ⟨credits', creditAdded, added⟩

theorem account_of_active {code : String} (active : (db.activeAccount code).isSome) :
    ∃ id, db.account code = some id ∧ id ∈ db.accounts.map Account.id := by
  unfold Database.activeAccount at active
  rw [Option.isSome_map, List.find?_isSome] at active
  obtain ⟨account, member, named⟩ := active
  have found : (db.accounts.find? fun account => account.code = code).isSome := by grind
  obtain ⟨first, first_eq⟩ := Option.isSome_iff_exists.mp found
  refine ⟨first.id, by simp [Database.account, first_eq], ?_⟩
  exact List.mem_map_of_mem (List.mem_of_find?_eq_some first_eq)

variable {reference : Varchar 50}

theorem ledgerRow_commits (accountId id : Uuid) (storable : Storable server moment db entry)
    (kept : Varchar.store posting.referenceNumber = some reference) :
    ∃ row, ledgerRow server moment posting accountId id entry = .ok row := by
  obtain ⟨date, dated⟩ := storable.dated
  unfold ledgerRow
  apply bind_succeeds storable.debit
  apply bind_succeeds storable.credit
  apply bind_succeeds dated
  apply bind_succeeds (orThrow_ok.mpr kept)
  rw [dif_pos storable.sides]
  exact ⟨_, rfl⟩

theorem insert_commits (author : row.postedBy.all (fun user => user ∈ before.users) = true)
    (known : row.accountId ∈ before.accounts.map Account.id) :
    ∃ after, before.insert row = .ok after := by
  unfold Database.insert
  apply bind_succeeds (require_passes _ author)
  rw [dif_pos known]
  exact ⟨_, rfl⟩

theorem Storable.transfer (storable : Storable server moment before entry)
    (same : after.accounts = before.accounts) : Storable server moment after entry := by
  obtain ⟨account, debit, credit, sides, dated⟩ := storable
  refine ⟨?_, debit, credit, sides, dated⟩
  unfold Database.activeAccount at *
  rwa [same]

theorem insertEntries_commits (position : ℕ) (storable : ∀ entry ∈ entries, Storable server moment before entry)
    (kept : Varchar.store posting.referenceNumber = some reference)
    (author : posting.postedBy.all (fun user => user ∈ before.users) = true) :
    ∃ posted after, insertEntries server moment posting position entries before = .ok posted after := by
  induction entries generalizing position before with
  | nil => exact ⟨[], before, rfl⟩
  | cons entry rest ih =>
    have first := storable entry (by simp)
    obtain ⟨accountId, found, known⟩ := account_of_active first.account
    obtain ⟨row, made⟩ := ledgerRow_commits accountId (moment.freshId position) first kept
    obtain ⟨sameAccount, -, -, belongs, -⟩ := ledgerRow_ok made
    obtain ⟨middle, inserted⟩ := insert_commits (belongs.author ▸ author) (sameAccount ▸ known)
    have insert := insert_ok inserted
    have later : ∀ other ∈ rest, Storable server moment middle other := by
      intro other member
      exact (storable other (by simp [member])).transfer insert.accounts
    obtain ⟨posted, after, continued⟩ := @ih middle (position + 1) later (insert.users ▸ author)
    refine ⟨⟨row.id, entry.accountCode, toNumber row.debitAmount, toNumber row.creditAmount⟩ :: posted,
      after, get_bind_ok.mpr ?_⟩
    refine check_bind_ok.mpr ⟨accountId, orThrow_ok.mpr found, ?_⟩
    refine check_bind_ok.mpr ⟨row, made, ?_⟩
    refine check_bind_ok.mpr ⟨middle, inserted, set_bind_ok.mpr ?_⟩
    exact bind_pure_ok.mpr ⟨posted, continued, rfl⟩

theorem amount_eq {first second : Amount} (same : first.value = second.value) : first = second := by
  have units : first.units = second.units := by
    have scaled := congrArg (· * (10 : ℚ) ^ 7) same
    simp only [Decimal.value_mul] at scaled
    exact_mod_cast scaled
  cases first
  cases second
  cases units
  rfl

theorem storedDebits_pos (nonempty : entries ≠ []) (storable : ∀ entry ∈ entries, Storable server moment db entry) :
    0 < storedDebits entries + storedCredits entries := by
  induction entries with
  | nil => exact absurd rfl nonempty
  | cons entry rest ih =>
    have first := (storable entry (by simp)).sides.pos
    have split : storedDebits (entry :: rest) + storedCredits (entry :: rest) =
        (stored entry.debitAmount).value + (stored entry.creditAmount).value +
          (storedDebits rest + storedCredits rest) := by
      simp only [storedDebits, storedCredits, List.map_cons, List.sum_cons]
      ring
    rw [split]
    by_cases empty : rest = []
    · subst empty
      simpa [storedDebits, storedCredits] using first
    · grind

theorem posted_iff : (∃ posted after, postTransactionWithClient server moment args before = .ok posted after) ↔
    Acceptable server moment before args := by
  constructor
  · rintro ⟨posted, after, done⟩
    obtain ⟨posting, rows, passes, accepts⟩ := postTransactionWithClient_ok done
    exact acceptable_of_accepts passes accepts
  · intro acceptable
    obtain ⟨reference, kept⟩ := acceptable.reference
    obtain ⟨transaction, identified⟩ := acceptable.transaction
    obtain ⟨author, written, known⟩ := acceptable.author
    have pair := acceptable.pair
    have creditFits := acceptable.fits
    rw [acceptable.equal] at creditFits
    obtain ⟨debits, credits, added, debitSum, creditSum⟩ :=
      totals_commits acceptable.storable zero_nonneg zero_nonneg
        (by simpa using acceptable.fits) (by simpa using creditFits)
    rw [zero_value, zero_add] at debitSum creditSum
    have equal : debits = credits := by
      apply amount_eq
      rw [debitSum, creditSum, acceptable.equal]
    have nonzero : debits ≠ zero := by
      intro none
      have nonempty : args.entries ≠ [] := by
        intro empty
        simp [empty] at pair
      have positive := storedDebits_pos nonempty acceptable.storable
      rw [← acceptable.equal, ← debitSum, none] at positive
      simp at positive
    let posting : Posting := ⟨args.referenceNumber, args.description, transaction, author⟩
    obtain ⟨posted, after, inserted⟩ : ∃ posted after,
        insertEntries server moment posting 0 args.entries before = .ok posted after :=
      insertEntries_commits 0 acceptable.storable kept known
    refine ⟨posted, after, ?_⟩
    unfold postTransactionWithClient
    refine check_bind_ok.mpr ⟨⟨⟩, require_passes _ (by omega), ?_⟩
    refine check_bind_ok.mpr ⟨⟨⟩, require_passes _ acceptable.close, ?_⟩
    refine check_bind_ok.mpr ⟨transaction, identified, ?_⟩
    refine check_bind_ok.mpr ⟨author, written, ?_⟩
    unfold post_transaction
    refine check_bind_ok.mpr ⟨⟨⟩, require_passes _ (by omega), ?_⟩
    refine check_bind_ok.mpr ⟨⟨⟩, require_passes _ (by omega), get_bind_ok.mpr ?_⟩
    refine check_bind_ok.mpr ⟨(debits, credits), added, ?_⟩
    refine check_bind_ok.mpr ⟨⟨⟩, require_passes _ equal, ?_⟩
    refine check_bind_ok.mpr ⟨⟨⟩, require_passes _ nonzero, inserted⟩

end ProxyPay.Ledger
