import ProxyPay.Library.Exclusive
import ProxyPay.Ledger.Service

/-! Every posting balances in the decimals that are stored, whatever the floating point sums of
the service were. -/

namespace ProxyPay.Ledger

open ProxyPay.Library
open ProxyPay.Library.Atomic hiding bind_ok pure_ok

variable {server : Server} {moment : Moment} {before after db : Database} {posting : Posting}
variable {entry : LedgerEntry} {entries : List LedgerEntry} {row : LedgerEntryRow}
variable {rows : List LedgerEntryRow}

def Balanced (rows : List LedgerEntryRow) : Prop :=
  debitTotal rows = creditTotal rows

structure DoubleEntry (db : Database) : Prop where
  postings : ∃ postings : List (List LedgerEntryRow),
    db.entries = postings.flatten ∧ ∀ posting ∈ postings, Balanced posting
  references : ∀ reference, Balanced (db.entries.filter fun row => row.referenceNumber = reference)
  reported : (check_ledger_balance db).difference = 0 ∧ (check_ledger_balance db).isBalanced = true
  sides : ∀ row ∈ db.entries, (0 < row.debitAmount.value ∧ row.creditAmount.value = 0) ∨
    (0 < row.creditAmount.value ∧ row.debitAmount.value = 0)

/-- A row that holds the two sides of an entry. -/
structure Stores (db : Database) (entry : LedgerEntry) (row : LedgerEntryRow) : Prop where
  account : db.account entry.accountCode = some row.accountId
  debit : coalesce entry.debitAmount = .ok row.debitAmount
  credit : coalesce entry.creditAmount = .ok row.creditAmount

structure Belongs (posting : Posting) (row : LedgerEntryRow) : Prop where
  transaction : row.transactionId = posting.transactionId
  author : row.postedBy = posting.postedBy
  reference : Varchar.store posting.referenceNumber = some row.referenceNumber

@[simp] theorem debitTotal_append (first second : List LedgerEntryRow) :
    debitTotal (first ++ second) = debitTotal first + debitTotal second := by
  simp [debitTotal]

@[simp] theorem creditTotal_append (first second : List LedgerEntryRow) :
    creditTotal (first ++ second) = creditTotal first + creditTotal second := by
  simp [creditTotal]

@[simp] theorem debitTotal_cons : debitTotal (row :: rows) = row.debitAmount.value + debitTotal rows := by
  simp [debitTotal]

@[simp] theorem creditTotal_cons : creditTotal (row :: rows) = row.creditAmount.value + creditTotal rows := by
  simp [creditTotal]

theorem balanced_nil : Balanced [] := by
  simp [Balanced, debitTotal, creditTotal]

theorem Balanced.append {second : List LedgerEntryRow} (first : Balanced rows)
    (rest : Balanced second) : Balanced (rows ++ second) := by
  unfold Balanced at *
  rw [debitTotal_append, creditTotal_append, first, rest]

theorem accumulate_ok {total amount sum : Amount} :
    accumulate total amount = .ok sum ↔ sum.units = total.units + amount.units := by
  rw [accumulate, orThrow_ok, Decimal.store_add]

theorem ledgerRow_ok {accountId id : Uuid} (made : ledgerRow server moment posting accountId id entry = .ok row) :
    row.accountId = accountId ∧ coalesce entry.debitAmount = .ok row.debitAmount ∧
      coalesce entry.creditAmount = .ok row.creditAmount ∧ Belongs posting row ∧
      ∃ date, settlementDate server moment entry.settlementDate = .ok date := by
  unfold ledgerRow at made
  obtain ⟨debit, debited, made⟩ := bind_ok.mp made
  obtain ⟨credit, credited, made⟩ := bind_ok.mp made
  obtain ⟨date, dated, made⟩ := bind_ok.mp made
  obtain ⟨reference, referred, made⟩ := bind_ok.mp made
  by_cases oneSided : (0 < debit.units ∧ credit.units = 0) ∨ (0 < credit.units ∧ debit.units = 0)
  · rw [dif_pos oneSided, pure_ok] at made
    subst made
    exact ⟨rfl, debited, credited, ⟨rfl, rfl, orThrow_ok.mp referred⟩, date, dated⟩
  · rw [dif_neg oneSided] at made
    cases made

/-- What an insert changes, and what it needs. -/
structure InsertsRow (before : Database) (row : LedgerEntryRow) (after : Database) : Prop where
  author : row.postedBy.all (fun user => user ∈ before.users) = true
  appended : after.entries = before.entries ++ [row]
  accounts : after.accounts = before.accounts
  users : after.users = before.users

theorem insert_ok (inserted : before.insert row = .ok after) : InsertsRow before row after := by
  unfold Database.insert at inserted
  obtain ⟨_, author, known⟩ := bind_ok.mp inserted
  by_cases account : row.accountId ∈ before.accounts.map Account.id
  · rw [dif_pos account, pure_ok] at known
    subst known
    exact ⟨require_ok.mp author, rfl, rfl, rfl⟩
  · rw [dif_neg account] at known
    cases known

theorem Stores.transfer (stores : Stores before entry row) (same : after.accounts = before.accounts) :
    Stores after entry row := by
  obtain ⟨account, debit, credit⟩ := stores
  refine ⟨?_, debit, credit⟩
  rw [← account, Database.account, Database.account, same]

/-- What the second loop has inserted when it ends. -/
structure Inserts (server : Server) (moment : Moment) (posting : Posting) (before : Database) (entries : List LedgerEntry)
    (rows : List LedgerEntryRow) (after : Database) : Prop where
  stores : List.Forall₂ (Stores before) entries rows
  belongs : ∀ row ∈ rows, Belongs posting row
  dated : ∀ entry ∈ entries, ∃ date, settlementDate server moment entry.settlementDate = .ok date
  author : rows ≠ [] → posting.postedBy.all (fun user => user ∈ before.users) = true
  appended : after.entries = before.entries ++ rows
  accounts : after.accounts = before.accounts
  users : after.users = before.users

variable {posted : List PostedEntry}

theorem insertEntries_ok {position : ℕ}
    (inserted : insertEntries server moment posting position entries before = .ok posted after) :
    ∃ rows, Inserts server moment posting before entries rows after := by
  induction entries generalizing position before posted with
  | nil =>
    obtain ⟨-, rfl⟩ := Atomic.pure_ok.mp inserted
    exact ⟨[], .nil, by simp, by simp, by simp, by simp, rfl, rfl⟩
  | cons entry rest ih =>
    have started := get_bind_ok.mp inserted
    obtain ⟨accountId, found, held⟩ := check_bind_ok.mp started
    obtain ⟨row, made, shaped⟩ := check_bind_ok.mp held
    obtain ⟨middle, kept, stored⟩ := check_bind_ok.mp shaped
    obtain ⟨later, continued, -⟩ := bind_pure_ok.mp (set_bind_ok.mp stored)
    have insert := insert_ok kept
    obtain ⟨rfl, debit, credit, belongs, dated⟩ := ledgerRow_ok made
    obtain ⟨rows, inserts⟩ := ih continued
    refine ⟨row :: rows, ?_, ?_, ?_, ?_, ?_, inserts.accounts.trans insert.accounts,
      inserts.users.trans insert.users⟩
    · constructor
      · exact ⟨orThrow_ok.mp found, debit, credit⟩
      · exact inserts.stores.imp fun _ _ stored => stored.transfer insert.accounts.symm
    · intro other member
      rcases List.mem_cons.mp member with rfl | member
      · exact belongs
      · exact inserts.belongs other member
    · intro other member
      rcases List.mem_cons.mp member with rfl | member
      · exact dated
      · exact inserts.dated other member
    · intro _
      rw [← belongs.author]
      exact insert.author
    · rw [inserts.appended, insert.appended, List.append_assoc]
      rfl

variable {debits credits : Amount}

theorem totals_active {sums : Amount × Amount} (added : totals db entries debits credits = .ok sums) :
    ∀ entry ∈ entries, (db.activeAccount entry.accountCode).isSome := by
  induction entries generalizing debits credits with
  | nil => simp
  | cons entry rest ih =>
    obtain ⟨_, active, started⟩ := bind_ok.mp added
    obtain ⟨debit, -, read⟩ := bind_ok.mp started
    obtain ⟨debits', -, half⟩ := bind_ok.mp read
    obtain ⟨credit, -, both⟩ := bind_ok.mp half
    obtain ⟨credits', -, others⟩ := bind_ok.mp both
    intro other member
    rcases List.mem_cons.mp member with rfl | member
    · rw [orThrow_ok.mp active]
      rfl
    · exact ih others other member

theorem totals_ok {debitSum creditSum : Amount} (added : totals db entries debits credits = .ok (debitSum, creditSum))
    (stores : List.Forall₂ (Stores before) entries rows) :
    debitSum.value = debits.value + debitTotal rows ∧ creditSum.value = credits.value + creditTotal rows := by
  induction stores generalizing debits credits with
  | nil =>
    cases added
    simp [debitTotal, creditTotal]
  | @cons entry row entries rows stored _ ih =>
    obtain ⟨_, active, started⟩ := bind_ok.mp added
    obtain ⟨debit, debited, read⟩ := bind_ok.mp started
    obtain ⟨debits', debitAdded, half⟩ := bind_ok.mp read
    obtain ⟨credit, credited, both⟩ := bind_ok.mp half
    obtain ⟨credits', creditAdded, rest⟩ := bind_ok.mp both
    have sameDebit := stored.debit
    rw [debited] at sameDebit
    have sameCredit := stored.credit
    rw [credited] at sameCredit
    injection sameDebit with sameDebit
    injection sameCredit with sameCredit
    subst sameDebit sameCredit
    obtain ⟨debitTotals, creditTotals⟩ := ih rest
    rw [debitTotals, creditTotals, Decimal.value_add ((accumulate_ok).mp debitAdded),
      Decimal.value_add ((accumulate_ok).mp creditAdded), debitTotal_cons, creditTotal_cons]
    constructor <;> ring

/-- What holds of a posting that `post_transaction` has accepted. -/
structure Accepts (server : Server) (moment : Moment) (posting : Posting) (before : Database)
    (entries : List LedgerEntry) (rows : List LedgerEntryRow) (after : Database) : Prop
    extends Inserts server moment posting before entries rows after where
  active : ∀ entry ∈ entries, (before.activeAccount entry.accountCode).isSome
  balanced : Balanced rows
  fits : debitTotal rows < 10 ^ 13

theorem value_lt (amount : Amount) : amount.value < 10 ^ 13 := by
  have fits := amount.fits
  have units : amount.units < 10 ^ 20 := by omega
  rw [Decimal.value, div_lt_iff₀ (by norm_num)]
  calc (amount.units : ℚ) < ((10 ^ 20 : ℤ) : ℚ) := Int.cast_lt.mpr units
    _ = 10 ^ 13 * 10 ^ 7 := by norm_num

@[simp] theorem zero_value : zero.value = 0 := by
  simp [zero, Decimal.value]

theorem post_transaction_ok (done : post_transaction server moment posting entries before = .ok posted after) :
    ∃ rows, Accepts server moment posting before entries rows after := by
  unfold post_transaction at done
  obtain ⟨_, -, several⟩ := check_bind_ok.mp done
  obtain ⟨_, -, started⟩ := check_bind_ok.mp several
  obtain ⟨⟨debits, credits⟩, added, compared⟩ := check_bind_ok.mp (get_bind_ok.mp started)
  obtain ⟨_, equal, balanced⟩ := check_bind_ok.mp compared
  obtain ⟨_, -, nonzero⟩ := check_bind_ok.mp balanced
  obtain ⟨rows, inserts⟩ := insertEntries_ok nonzero
  obtain ⟨debitSum, creditSum⟩ := totals_ok added inserts.stores
  rw [zero_value, zero_add] at debitSum creditSum
  refine ⟨rows, inserts, totals_active added, ?_, ?_⟩
  · simp_all [Balanced]
  · rw [← debitSum]
    exact value_lt debits

/-- What holds of the arguments of a posting that the service has accepted. -/
structure Passes (server : Server) (args : PostArgs) (posting : Posting) : Prop where
  pair : 2 ≤ args.entries.length
  close : ¬Float.abs (sumOf LedgerEntry.debitAmount args.entries -
    sumOf LedgerEntry.creditAmount args.entries) > 0.0000001
  reference : posting.referenceNumber = args.referenceNumber
  transaction : nullableUuid server args.transactionId = .ok posting.transactionId
  author : nullableUuid server args.postedBy = .ok posting.postedBy

variable {args : PostArgs}

theorem postTransactionWithClient_ok (done : postTransactionWithClient server moment args before = .ok posted after) :
    ∃ posting rows, Passes server args posting ∧ Accepts server moment posting before args.entries rows after := by
  unfold postTransactionWithClient at done
  obtain ⟨_, pair, several⟩ := check_bind_ok.mp done
  obtain ⟨_, close, summed⟩ := check_bind_ok.mp several
  obtain ⟨transaction, identified, known⟩ := check_bind_ok.mp summed
  obtain ⟨postedBy, written, authored⟩ := check_bind_ok.mp known
  obtain ⟨rows, accepts⟩ := post_transaction_ok authored
  refine ⟨_, rows, ⟨?_, require_ok.mp close, rfl, identified, written⟩, accepts⟩
  exact not_lt.mp (require_ok.mp pair)

/-- What a call that returns does to the table. -/
def Posts (before after : Database) : Prop :=
  ∃ rows reference, after.entries = before.entries ++ rows ∧ Balanced rows ∧
    ∀ row ∈ rows, row.referenceNumber = reference

theorem posts_nothing : Posts db db :=
  ⟨[], ⟨"", by simp⟩, by simp, balanced_nil, by simp⟩

theorem posts_withClient (done : postTransactionWithClient server moment args before = .ok posted after) :
    Posts before after := by
  obtain ⟨posting, rows, -, accepts⟩ := postTransactionWithClient_ok done
  cases rows with
  | nil =>
    have same : after.entries = before.entries := by simpa using accepts.appended
    exact ⟨[], ⟨"", by simp⟩, by simp [same], balanced_nil, by simp⟩
  | cons first rest =>
    refine ⟨first :: rest, first.referenceNumber, accepts.appended, accepts.balanced, ?_⟩
    intro row member
    have stored := (accepts.belongs row member).reference
    have firstStored := (accepts.belongs first (by simp)).reference
    exact Option.some.inj (stored.symm.trans firstStored)

theorem postReversal_posts {args : ReversalArgs} {result : ReversalResult}
    (done : postReversal server moment args before = .ok result after) : Posts before after := by
  unfold postReversal at done
  obtain ⟨transaction, -, started⟩ := check_bind_ok.mp (get_bind_ok.mp (atomically_ok.mp done))
  split at started
  · obtain ⟨-, rfl⟩ := Atomic.pure_ok.mp started
    exact posts_nothing
  · obtain ⟨_, -, several⟩ := check_bind_ok.mp started
    obtain ⟨posted, posting, -⟩ := bind_pure_ok.mp several
    exact posts_withClient posting

theorem postTransaction_posts (done : postTransaction server moment args before = .ok posted after) : Posts before after :=
  posts_withClient (atomically_ok.mp done)

theorem postDeposit_posts {args : MovementArgs}
    (done : postDeposit server moment args before = .ok posted after) : Posts before after := by
  unfold postDeposit at done
  obtain ⟨user, -, found⟩ := check_bind_ok.mp done
  obtain ⟨date, -, dated⟩ := check_bind_ok.mp found
  exact postTransaction_posts dated

theorem perform_posts {call : Call} {outcome : Outcome}
    (done : call.perform server moment before = .ok outcome after) : Posts before after := by
  cases call with
  | postTransaction args =>
    obtain ⟨_, posted, -⟩ := bind_pure_ok.mp done
    exact postTransaction_posts posted
  | postReversal args =>
    obtain ⟨_, reversed, -⟩ := bind_pure_ok.mp done
    exact postReversal_posts reversed
  | postDeposit args =>
    obtain ⟨_, posted, -⟩ := bind_pure_ok.mp done
    exact postDeposit_posts posted
  | postWithdrawal args =>
    obtain ⟨_, posted, -⟩ := bind_pure_ok.mp done
    exact postTransaction_posts posted
  | postClawback args =>
    obtain ⟨_, posted, -⟩ := bind_pure_ok.mp done
    exact postTransaction_posts posted
  | postProviderFee args =>
    obtain ⟨_, posted, -⟩ := bind_pure_ok.mp done
    exact postTransaction_posts posted

theorem postDeposit_reverts {args : MovementArgs} : Reverts (postDeposit server moment args) := by
  apply Reverts.check_bind
  intro user
  apply Reverts.check_bind
  intro date
  exact atomically_reverts

theorem perform_reverts (call : Call) : Reverts (call.perform server moment) := by
  cases call with
  | postDeposit args => exact (postDeposit_reverts).bind_pure
  | _ => exact atomically_reverts.bind_pure

theorem doubleEntry_empty (empty : db.entries = []) : DoubleEntry db := by
  constructor
  · exact ⟨[], by simp [empty], by simp⟩
  · intro reference
    rw [empty]
    exact balanced_nil
  · simp [check_ledger_balance, empty, debitTotal, creditTotal]
  · simp [empty]

theorem doubleEntry_same (same : after.entries = before.entries) (held : DoubleEntry before) : DoubleEntry after := by
  constructor
  · rw [same]
    exact held.postings
  · rw [same]
    exact held.references
  · have reported := held.reported
    unfold check_ledger_balance at *
    rwa [same]
  · rw [same]
    exact held.sides

theorem row_sides (row : LedgerEntryRow) : (0 < row.debitAmount.value ∧ row.creditAmount.value = 0) ∨
      (0 < row.creditAmount.value ∧ row.debitAmount.value = 0) := by
  rcases row.oneSided with ⟨positive, none⟩ | ⟨positive, none⟩
  · simp_all [Decimal.value, none]
  · simp_all [Decimal.value, none]

theorem doubleEntry_posts (posts : Posts before after) (held : DoubleEntry before) : DoubleEntry after := by
  obtain ⟨rows, reference, appended, balanced, shared⟩ := posts
  constructor
  · obtain ⟨postings, flattened, each⟩ := held.postings
    refine ⟨postings ++ [rows], by simp [appended, flattened], ?_⟩
    refine forall_mem_append_singleton each ?_
    simp_all
  · intro wanted
    rw [appended, List.filter_append]
    apply (held.references wanted).append
    by_cases same : reference = wanted
    · grind [List.filter_eq_self]
    · have none : rows.filter (fun row => row.referenceNumber = wanted) = [] := by
        rw [List.filter_eq_nil_iff]
        intro row member
        simp [shared row member, same]
      rw [none]
      exact balanced_nil
  · have total : debitTotal before.entries = creditTotal before.entries := by
      simpa [check_ledger_balance] using held.reported.2
    have sum : debitTotal after.entries = creditTotal after.entries := by
      rw [appended, debitTotal_append, creditTotal_append, total, balanced]
    simp [check_ledger_balance, sum]
  · intro row _
    exact row_sides row

/-- From an empty table every run of calls keeps the ledger balanced: each posting and each
reference, to the last place. A call that fails leaves the table as it was, and one that returns
adds at most one more balanced posting. -/
theorem ledger_double_entry {start last : Database} {trace : List Event} (empty : start.entries = [])
    (run : Run (Step server) start trace last) :
    DoubleEntry last ∧ (∀ moment (call : Call) message after,
        call.perform server moment last = .error message after → after = last) ∧
      ∀ moment (call : Call) outcome after, call.perform server moment last = .ok outcome after → Posts last after := by
  refine ⟨?_, ?_, ?_⟩
  · apply run.invariant fun _ db => DoubleEntry db
    · exact doubleEntry_empty empty
    · intro _ before event after held move
      cases move with
      | returned returned => exact doubleEntry_posts (perform_posts returned) held
      | failed failed =>
        rw [perform_reverts _ before _ _ failed]
        exact held
      | interrupted => exact held
      | administer same => exact doubleEntry_same same held
  · intro moment call message after failed
    exact perform_reverts call last message after failed
  · intro moment call outcome after returned
    exact perform_posts returned

/-- A withdrawal of 100 with a fee of 1.5. -/
def withdrawal : Call :=
  .postWithdrawal
    { amount := 100, fee := 1.5, referenceNumber := "TXN-1", transactionId := "t", userId := "u" }

def withdrawn : Database :=
  match withdrawal.perform simpleServer (momentWith [1, 2, 3]) chart with
  | .ok _ after => after
  | .error _ _ => chart

theorem withdrawal_double_entry : withdrawn.entries.map (fun row => (row.debitAmount.value, row.creditAmount.value)) =
        [(101.5, 0), (0, 100), (0, 1.5)] ∧
      DoubleEntry withdrawn := by
  have rows : withdrawn.entries.map (fun row => (row.debitAmount.value, row.creditAmount.value)) =
      [(101.5, 0), (0, 100), (0, 1.5)] := by decide +kernel
  refine ⟨rows, ?_⟩
  unfold withdrawn at *
  cases result : withdrawal.perform simpleServer (momentWith [1, 2, 3]) chart with
  | ok outcome after => exact (ledger_double_entry rfl (.next .start (.returned result))).1
  | error message after =>
    rw [result] at rows
    cases rows

end ProxyPay.Ledger
