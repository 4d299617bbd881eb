import ProxyPay.Ledger.Acceptance

/-! When a reversal undoes its transaction. The entries are read back through numbers, so the
exact inverse is posted only where the numbers give back what is stored, and where the sums of
the numbers pass the service's own check. -/

namespace ProxyPay.Ledger

open ProxyPay.Library
open ProxyPay.Library.Atomic hiding bind_ok pure_ok

variable {server : Server} {moment : Moment} {start before after last db : Database}
variable {args : ReversalArgs} {transaction accountId : Uuid} {row : LedgerEntryRow}
variable {rows others : List LedgerEntryRow} {trace : List Event}

def Database.ofTransaction (db : Database) (transaction : Uuid) : List LedgerEntryRow :=
  db.entries.filter fun row => row.transactionId = some transaction

/-- Debits less credits of an account. -/
def net (rows : List LedgerEntryRow) (accountId : Uuid) : ℚ :=
  ((rows.filter fun row => row.accountId = accountId).map fun row =>
    row.debitAmount.value - row.creditAmount.value).sum

/-- What a stored amount becomes when it is read as a number and posted again. -/
def returned (amount : Amount) : Amount :=
  stored (whenPositive (toNumber amount))

def returnedNet (rows : List LedgerEntryRow) (accountId : Uuid) : ℚ :=
  ((rows.filter fun row => row.accountId = accountId).map fun row =>
    (returned row.debitAmount).value - (returned row.creditAmount).value).sum

variable (side : LedgerEntryRow → Amount)

def returnedTotal (rows : List LedgerEntryRow) : ℚ :=
  (rows.map fun row => (returned (side row)).value).sum

def numberTotal (rows : List LedgerEntryRow) : Float :=
  rows.foldl (fun sum row => sum + Number.orZero (whenPositive (toNumber (side row)))) 0

def Returns (amount : Amount) : Prop :=
  coalesce (whenPositive (toNumber amount)) = .ok (returned amount)

/-- Rows, in the order in which they are read, whose inverse the checks let through and whose
amounts net the same after the way through numbers. -/
structure Invertible (rows : List LedgerEntryRow) : Prop where
  pair : 2 ≤ rows.length
  close : ¬Float.abs (numberTotal LedgerEntryRow.creditAmount rows -
    numberTotal LedgerEntryRow.debitAmount rows) > 0.0000001
  returns : ∀ row ∈ rows, Returns row.debitAmount ∧ Returns row.creditAmount ∧
    OneSided (returned row.creditAmount) (returned row.debitAmount)
  equal : returnedTotal LedgerEntryRow.creditAmount rows =
    returnedTotal LedgerEntryRow.debitAmount rows
  fits : returnedTotal LedgerEntryRow.creditAmount rows < 10 ^ 13
  nets : ∀ accountId, returnedNet rows accountId = net rows accountId

/-- The rows of a transaction that a reversal under this reference undoes. -/
inductive Reversible (server : Server) (users : List Uuid) (rows : List LedgerEntryRow)
    (args : ReversalArgs) : Prop where
  | reversed
      (marked : ∃ row ∈ rows, row.referenceNumber.text = reversalReference args.referenceNumber)
      (nets : ∀ accountId, net rows accountId = 0)
  | fresh
      (unmarked : ∀ row ∈ rows, row.referenceNumber.text ≠ reversalReference args.referenceNumber)
      (short : (reversalReference args.referenceNumber).length ≤ 50)
      (author : ∃ author, nullableUuid server args.postedBy = .ok author ∧
        author.all (fun user => user ∈ users) = true)
      (invertible : Invertible (rows.insertionSort earlier))

/-- Calls that reverse one transaction under one reference, and changes to accounts and users. -/
def Event.Retries (transactionId referenceNumber : String) : Event → Prop
  | .call _ (.postReversal args) | .interrupted (.postReversal args) =>
    args.transactionId = transactionId ∧ args.referenceNumber = referenceNumber
  | .administer => True
  | _ => False

def Event.Unfinished : Event → Prop
  | .call _ _ => False
  | _ => True

def retrying (server : Server) (transactionId referenceNumber : String) (before : Database)
    (event : Event) (after : Database) : Prop :=
  Step server before event after ∧ event.Retries transactionId referenceNumber

def Database.Active (db : Database) (transaction : Uuid) : Prop :=
  ∀ row ∈ db.ofTransaction transaction,
    ∃ account ∈ db.accounts, account.id = row.accountId ∧ account.isActive = true

/-- The call returns, the transaction nets to zero, other transactions keep their entries, and
every later call finds the reversal and appends nothing. -/
def Reverses (server : Server) (moment : Moment) (args : ReversalArgs) (transaction : Uuid)
    (before : Database) : Prop :=
  ∃ result after, postReversal server moment args before = .ok result after ∧
    (∀ accountId, net (after.ofTransaction transaction) accountId = 0) ∧
    after.entries.filter (fun row => row.transactionId ≠ some transaction) =
      before.entries.filter (fun row => row.transactionId ≠ some transaction) ∧
    ∀ trace last laterMoment (later : ReversalArgs),
      Run (retrying server args.transactionId args.referenceNumber) after trace last →
      later.transactionId = args.transactionId → later.referenceNumber = args.referenceNumber →
      postReversal server laterMoment later last = .ok ⟨true, []⟩ last

@[simp] theorem net_append : net (rows ++ others) accountId = net rows accountId + net others accountId := by
  simp [net]

theorem net_perm (perm : rows.Perm others) : net rows accountId = net others accountId :=
  ((perm.filter _).map _).sum_eq

variable {code : String}

section

variable (named : db.codeOf accountId = some code)

include named

theorem codeOf_account : ∃ account ∈ db.accounts, account.id = accountId ∧ account.code = code := by
  unfold Database.codeOf at named
  obtain ⟨account, found, same⟩ := Option.map_eq_some_iff.mp named
  refine ⟨account, List.mem_of_find?_eq_some found, ?_, same⟩
  simpa using List.find?_some found

theorem account_of_codeOf : db.account code = some accountId := by
  obtain ⟨account, member, sameId, sameCode⟩ := codeOf_account named
  have found : (db.accounts.find? fun account => account.code = code).isSome := by grind
  obtain ⟨first, first_eq⟩ := Option.isSome_iff_exists.mp found
  have firstCode : first.code = code := by simpa using List.find?_some first_eq
  have same : first = account :=
    List.inj_on_of_nodup_map db.account_codes (List.mem_of_find?_eq_some first_eq) member
      (firstCode.trans sameCode.symm)
  simp [Database.account, first_eq, same, sameId]

theorem active_of_codeOf (active : ∃ account ∈ db.accounts, account.id = accountId ∧ account.isActive = true) :
    (db.activeAccount code).isSome := by
  obtain ⟨account, member, sameId, sameCode⟩ := codeOf_account named
  obtain ⟨other, otherMember, otherId, isActive⟩ := active
  have same : other = account :=
    List.inj_on_of_nodup_map db.account_ids otherMember member (otherId.trans sameId.symm)
  subst same
  unfold Database.activeAccount
  rw [Option.isSome_map, List.find?_isSome]
  exact ⟨other, otherMember, by simp [sameCode, isActive]⟩

end

theorem codeOf_isSome (member : row ∈ db.entries) : (db.codeOf row.accountId).isSome := by
  obtain ⟨account, known, same⟩ := List.mem_map.mp (db.entry_accounts row member)
  unfold Database.codeOf
  rw [Option.isSome_map, List.find?_isSome]
  exact ⟨account, known, by simp [same]⟩

theorem paired_rows {codeOf : LedgerEntryRow → Option String} (known : ∀ row ∈ rows, (codeOf row).isSome) :
    (rows.filterMap fun row => (codeOf row).map fun code => (code, row)).map Prod.snd = rows := by
  induction rows with
  | nil => rfl
  | cons row rest ih =>
    obtain ⟨code, named⟩ := Option.isSome_iff_exists.mp (known row (by simp))
    simp only [List.filterMap_cons, named, Option.map_some, List.map_cons]
    rw [ih fun other member => known other (by simp [member])]

variable {reference : String}

theorem original_rows : (db.original transaction reference).map Prod.snd = (db.entries.filter fun row =>
      row.transactionId = some transaction ∧ row.referenceNumber.text ≠ reference).insertionSort earlier := by
  unfold Database.original
  apply paired_rows
  intro row member
  rw [(List.perm_insertionSort earlier _).mem_iff] at member
  exact codeOf_isSome (List.mem_filter.mp member).1

theorem original_named (member : (code, row) ∈ db.original transaction reference) :
    db.codeOf row.accountId = some code := by
  unfold Database.original at member
  obtain ⟨other, -, paired⟩ := List.mem_filterMap.mp member
  obtain ⟨name, named, same⟩ := Option.map_eq_some_iff.mp paired
  cases same
  exact named

def mirrored (args : ReversalArgs) (original : List (String × LedgerEntryRow)) : List LedgerEntry :=
  original.map fun (code, row) => reversalEntry args code row

variable {original : List (String × LedgerEntryRow)}

theorem storedDebits_mirrored : storedDebits (mirrored args original) =
    returnedTotal LedgerEntryRow.creditAmount (original.map Prod.snd) := by
  simp only [storedDebits, mirrored, returnedTotal, List.map_map]
  rfl

theorem storedCredits_mirrored : storedCredits (mirrored args original) =
    returnedTotal LedgerEntryRow.debitAmount (original.map Prod.snd) := by
  simp only [storedCredits, mirrored, returnedTotal, List.map_map]
  rfl

theorem sumOf_debits_mirrored : sumOf LedgerEntry.debitAmount (mirrored args original) =
    numberTotal LedgerEntryRow.creditAmount (original.map Prod.snd) := by
  simp only [sumOf, mirrored, numberTotal, List.foldl_map]
  rfl

theorem sumOf_credits_mirrored : sumOf LedgerEntry.creditAmount (mirrored args original) =
    numberTotal LedgerEntryRow.debitAmount (original.map Prod.snd) := by
  simp only [sumOf, mirrored, numberTotal, List.foldl_map]
  rfl

/-- The posting that a reversal makes. -/
def reversalPost (args : ReversalArgs) (original : List (String × LedgerEntryRow)) : PostArgs where
  referenceNumber := reversalReference args.referenceNumber
  description := "Reversal of " ++ args.referenceNumber ++ ": " ++ args.reason
  entries := mirrored args original
  transactionId := some args.transactionId
  postedBy := args.postedBy

theorem nullableUuid_known (identified : server.uuid args.transactionId = some transaction) :
    nullableUuid server (some args.transactionId) = .ok (some transaction) := by
  unfold nullableUuid
  split
  · rename_i none
    cases none
  · rename_i empty
    injection empty with empty
    rw [empty, server.uuid_empty] at identified
    cases identified
  · rename_i text _ same
    injection same with same
    rw [← same, identified]
    rfl

/-- The mirror of a row holds what comes back of the other side. -/
structure Mirrors (row mirror : LedgerEntryRow) : Prop where
  account : mirror.accountId = row.accountId
  debit : mirror.debitAmount = returned row.creditAmount
  credit : mirror.creditAmount = returned row.debitAmount

theorem mirrors_of_stores (named : ∀ pair ∈ original, db.codeOf pair.2.accountId = some pair.1)
    (stores : List.Forall₂ (Stores db) (mirrored args original) others) :
    List.Forall₂ Mirrors (original.map Prod.snd) others := by
  induction original generalizing others with
  | nil =>
    cases stores
    exact .nil
  | cons pair rest ih =>
    cases stores with
    | cons first later =>
      constructor
      · have account := account_of_codeOf (named pair (by simp))
        constructor
        · exact Option.some.inj (first.account.symm.trans account)
        · exact first.debit_eq.symm
        · exact first.credit_eq.symm
      · exact ih (fun other member => named other (by simp [member])) later

theorem net_mirrors (mirrors : List.Forall₂ Mirrors rows others) :
    net others accountId = -returnedNet rows accountId := by
  induction mirrors with
  | nil => simp [net, returnedNet]
  | @cons row mirror rows others first _ ih =>
    unfold net returnedNet at *
    by_cases same : row.accountId = accountId
    · have mirrorSame : mirror.accountId = accountId := first.account.trans same
      simp only [List.filter_cons, same, mirrorSame, decide_true, if_true, List.map_cons,
        List.sum_cons, first.debit, first.credit]
      rw [ih]
      ring
    · have mirrorOther : mirror.accountId ≠ accountId := by
        rw [first.account]
        exact same
      simp only [List.filter_cons, same, mirrorOther, decide_false]
      exact ih

theorem storable_mirrored (active : db.Active transaction)
    (named : ∀ pair ∈ original, db.codeOf pair.2.accountId = some pair.1)
    (owned : ∀ pair ∈ original, pair.2 ∈ db.ofTransaction transaction) :
    (∀ entry ∈ mirrored args original, Storable server moment db entry) ↔
      ∀ row ∈ original.map Prod.snd, Returns row.debitAmount ∧ Returns row.creditAmount ∧
        OneSided (returned row.creditAmount) (returned row.debitAmount) := by
  constructor
  · intro storable row member
    obtain ⟨⟨code, _⟩, paired, rfl⟩ := List.mem_map.mp member
    have mirror := storable _ (List.mem_map.mpr ⟨_, paired, rfl⟩)
    exact ⟨mirror.credit, mirror.debit, mirror.sides⟩
  · intro returns entry member
    obtain ⟨⟨code, row⟩, paired, rfl⟩ := List.mem_map.mp member
    obtain ⟨debit, credit, sides⟩ := returns row (List.mem_map.mpr ⟨_, paired, rfl⟩)
    constructor
    · exact active_of_codeOf (named _ paired) (active row (owned _ paired))
    · exact credit
    · exact debit
    · exact sides
    · exact ⟨moment.today, rfl⟩

theorem acceptable_mirrored (identified : server.uuid args.transactionId = some transaction)
    (active : db.Active transaction)
    (named : ∀ pair ∈ original, db.codeOf pair.2.accountId = some pair.1)
    (owned : ∀ pair ∈ original, pair.2 ∈ db.ofTransaction transaction)
    (short : (reversalReference args.referenceNumber).length ≤ 50)
    (nets : ∀ accountId, returnedNet (original.map Prod.snd) accountId = net (original.map Prod.snd) accountId) :
    Acceptable server moment db (reversalPost args original) ↔
      Invertible (original.map Prod.snd) ∧ ∃ author, nullableUuid server args.postedBy = .ok author ∧
        author.all (fun user => user ∈ db.users) = true := by
  constructor
  · rintro ⟨pair, close, storable, equal, fits, -, -, author⟩
    refine ⟨⟨?_, ?_, ?_, ?_, ?_, nets⟩, author⟩
    · simpa [reversalPost, mirrored] using pair
    · rw [← sumOf_debits_mirrored, ← sumOf_credits_mirrored]
      exact close
    · exact (storable_mirrored active named owned).mp storable
    · rw [← storedDebits_mirrored, ← storedCredits_mirrored]
      exact equal
    · rw [← storedDebits_mirrored]
      exact fits
  · rintro ⟨⟨pair, close, returns, equal, fits, -⟩, author⟩
    constructor
    · simpa [reversalPost, mirrored] using pair
    · rw [← sumOf_debits_mirrored, ← sumOf_credits_mirrored] at close
      exact close
    · exact (storable_mirrored active named owned).mpr returns
    · rw [← storedDebits_mirrored, ← storedCredits_mirrored] at equal
      exact equal
    · rw [← storedDebits_mirrored] at fits
      exact fits
    · exact ⟨_, Varchar.store_of_length short⟩
    · exact ⟨some transaction, nullableUuid_known identified⟩
    · exact author

theorem existing_iff : db.existing transaction reference ≠ [] ↔
    ∃ row ∈ db.ofTransaction transaction, row.referenceNumber.text = reference := by
  unfold Database.existing Database.ofTransaction
  constructor
  · intro nonempty
    obtain ⟨row, member⟩ := List.exists_mem_of_ne_nil _ nonempty
    obtain ⟨stored, both⟩ := List.mem_filter.mp member
    obtain ⟨owned, marked⟩ := of_decide_eq_true both
    exact ⟨row, List.mem_filter.mpr ⟨stored, decide_eq_true owned⟩, marked⟩
  · rintro ⟨row, member, marked⟩
    obtain ⟨stored, owned⟩ := List.mem_filter.mp member
    apply List.ne_nil_of_mem
    exact List.mem_filter.mpr ⟨stored, decide_eq_true ⟨of_decide_eq_true owned, marked⟩⟩

theorem postReversal_marked (identified : server.uuid args.transactionId = some transaction)
    (marked : ∃ row ∈ db.ofTransaction transaction, row.referenceNumber.text = reversalReference args.referenceNumber) :
    postReversal server moment args db = .ok ⟨true, []⟩ db := by
  apply atomically_ok.mpr
  apply get_bind_ok.mpr
  apply check_bind_ok.mpr ⟨transaction, orThrow_ok.mpr identified, ?_⟩
  rw [if_pos ((existing_iff).mpr marked)]
  rfl

/-- The rows of a transaction in the order in which a reversal reads them. -/
def Database.ordered (db : Database) (transaction : Uuid) : List LedgerEntryRow :=
  (db.ofTransaction transaction).insertionSort earlier

theorem original_unmarked (unmarked : ∀ row ∈ db.ofTransaction transaction, row.referenceNumber.text ≠ reference) :
    (db.original transaction reference).map Prod.snd = db.ordered transaction := by
  rw [original_rows]
  unfold Database.ordered Database.ofTransaction
  congr 1
  apply List.filter_congr
  intro row stored
  by_cases owned : row.transactionId = some transaction
  · have other := unmarked row (List.mem_filter.mpr ⟨stored, decide_eq_true owned⟩)
    simp [owned, other]
  · simp [owned]

theorem ordered_perm : (db.ordered transaction).Perm (db.ofTransaction transaction) :=
  List.perm_insertionSort earlier _

variable {result : ReversalResult}

theorem postReversal_fresh (identified : server.uuid args.transactionId = some transaction)
    (posted : before.ofTransaction transaction ≠ [])
    (unmarked : ∀ row ∈ before.ofTransaction transaction,
      row.referenceNumber.text ≠ reversalReference args.referenceNumber) :
    postReversal server moment args before = .ok result after ↔
      ∃ entries, postTransactionWithClient server moment (reversalPost args
        (before.original transaction (reversalReference args.referenceNumber))) before =
          .ok entries after ∧ ReversalResult.mk false entries = result := by
  have nonempty : before.original transaction (reversalReference args.referenceNumber) ≠ [] := by
    intro none
    have sorted := original_unmarked unmarked
    rw [none] at sorted
    apply posted
    have perm : (before.ordered transaction).Perm (before.ofTransaction transaction) := ordered_perm
    rw [← sorted] at perm
    exact perm.symm.eq_nil
  have absent : ¬before.existing transaction (reversalReference args.referenceNumber) ≠ [] := by simp_all [existing_iff]
  unfold postReversal
  rw [atomically_ok, get_bind_ok, check_bind_ok]
  constructor
  · rintro ⟨known, same, rest⟩
    rw [orThrow_ok, identified] at same
    injection same with same
    subst same
    rw [if_neg absent, check_bind_ok] at rest
    obtain ⟨_, -, posting⟩ := rest
    exact bind_pure_ok.mp posting
  · intro posting
    refine ⟨transaction, orThrow_ok.mpr identified, ?_⟩
    rw [if_neg absent, check_bind_ok]
    exact ⟨⟨⟩, require_passes _ nonempty, bind_pure_ok.mpr posting⟩

theorem reversal_adds {entries : List PostedEntry} (identified : server.uuid args.transactionId = some transaction)
    (unmarked : ∀ row ∈ before.ofTransaction transaction,
      row.referenceNumber.text ≠ reversalReference args.referenceNumber)
    (done : postTransactionWithClient server moment (reversalPost args
      (before.original transaction (reversalReference args.referenceNumber))) before = .ok entries after) :
    ∃ mirrors, List.Forall₂ Mirrors (before.ordered transaction) mirrors ∧ after.entries = before.entries ++ mirrors ∧
      (∀ mirror ∈ mirrors, mirror.transactionId = some transaction ∧
        Varchar.store (reversalReference args.referenceNumber) = some mirror.referenceNumber) := by
  obtain ⟨posting, mirrors, passes, accepts⟩ := postTransactionWithClient_ok done
  refine ⟨mirrors, ?_, accepts.appended, ?_⟩
  · rw [← original_unmarked unmarked]
    apply mirrors_of_stores _ accepts.stores
    intro pair member
    exact original_named member
  · intro mirror member
    have belongs := accepts.belongs mirror member
    have known := passes.transaction
    rw [show (reversalPost args _).transactionId = some args.transactionId from rfl,
      nullableUuid_known identified] at known
    injection known with known
    constructor
    · rw [belongs.transaction, ← known]
    · rw [← belongs.reference, passes.reference]
      rfl

theorem postReversal_marks (short : (reversalReference args.referenceNumber).length ≤ 50)
    (done : postReversal server moment args before = .ok result after) :
    ∃ transaction, server.uuid args.transactionId = some transaction ∧
      after.existing transaction (reversalReference args.referenceNumber) ≠ [] ∧
      ∃ rows, after.entries = before.entries ++ rows ∧ ∀ row ∈ rows, row.transactionId = some transaction ∧
        row.referenceNumber.text = reversalReference args.referenceNumber := by
  unfold postReversal at done
  rw [atomically_ok, get_bind_ok, check_bind_ok] at done
  obtain ⟨transaction, known, rest⟩ := done
  have identified := orThrow_ok.mp known
  refine ⟨transaction, identified, ?_⟩
  by_cases marked : before.existing transaction (reversalReference args.referenceNumber) ≠ []
  · simp_all
  · rw [if_neg marked, check_bind_ok] at rest
    obtain ⟨_, nonempty, posting⟩ := rest
    obtain ⟨entries, posting, -⟩ := bind_pure_ok.mp posting
    have unmarked : ∀ row ∈ before.ofTransaction transaction,
        row.referenceNumber.text ≠ reversalReference args.referenceNumber := by
      intro row member same
      exact marked ((existing_iff).mpr ⟨row, member, same⟩)
    obtain ⟨mirrors, mirroring, appended, marks⟩ := reversal_adds identified unmarked posting
    have stamped : ∀ row ∈ mirrors, row.transactionId = some transaction ∧
        row.referenceNumber.text = reversalReference args.referenceNumber := by
      intro row member
      obtain ⟨owned, kept⟩ := marks row member
      rw [Varchar.store_of_length short] at kept
      exact ⟨owned, congrArg Varchar.text (Option.some.inj kept).symm⟩
    refine ⟨?_, mirrors, appended, stamped⟩
    have original := require_ok.mp nonempty
    have pair : mirrors ≠ [] := by
      rintro rfl
      have sorted := original_unmarked unmarked
      rw [List.forall₂_nil_right_iff.mp mirroring] at sorted
      exact original (List.map_eq_nil_iff.mp sorted)
    obtain ⟨row, member⟩ := List.exists_mem_of_ne_nil mirrors pair
    apply (existing_iff).mpr
    refine ⟨row, ?_, (stamped row member).2⟩
    exact List.mem_filter.mpr ⟨appended ▸ List.mem_append_right _ member, decide_eq_true (stamped row member).1⟩

section

variable (appended : after.entries = before.entries ++ rows)
  (owned : ∀ row ∈ rows, row.transactionId = some transaction)

include appended owned

theorem ofTransaction_append : after.ofTransaction transaction = before.ofTransaction transaction ++ rows := by
  unfold Database.ofTransaction
  rw [appended, List.filter_append]
  congr 1
  rw [List.filter_eq_self]
  intro row member
  exact decide_eq_true (owned row member)

theorem others_append : after.entries.filter (fun row => row.transactionId ≠ some transaction) =
      before.entries.filter (fun row => row.transactionId ≠ some transaction) := by
  rw [appended, List.filter_append]
  have none : rows.filter (fun row => row.transactionId ≠ some transaction) = [] := by simp_all
  rw [none, List.append_nil]

end

theorem ofTransaction_congr (same : after.entries = before.entries) :
    after.ofTransaction transaction = before.ofTransaction transaction := by
  unfold Database.ofTransaction
  rw [same]

theorem retries_keep (identified : server.uuid args.transactionId = some transaction)
    (marked : ∃ row ∈ start.ofTransaction transaction,
      row.referenceNumber.text = reversalReference args.referenceNumber)
    (run : Run (retrying server args.transactionId args.referenceNumber) start trace last) :
    last.entries = start.entries := by
  apply run.invariant fun _ db => db.entries = start.entries
  · rfl
  · rintro _ before event after kept ⟨move, retries⟩
    have markedBefore : ∃ row ∈ before.ofTransaction transaction,
        row.referenceNumber.text = reversalReference args.referenceNumber := by
      rw [ofTransaction_congr kept]
      exact marked
    have found (moment : Moment) (later : ReversalArgs)
        (same : later.transactionId = args.transactionId ∧
          later.referenceNumber = args.referenceNumber) :
        (Call.postReversal later).perform server moment before =
          .ok (.reversed ⟨true, []⟩) before := by
      have reversed : postReversal server moment later before = .ok ⟨true, []⟩ before := by
        apply postReversal_marked
        · rw [same.1]
          exact identified
        · rw [same.2]
          exact markedBefore
      exact bind_pure_ok.mpr ⟨_, reversed, rfl⟩
    cases move with
    | @returned _ moment call outcome returned =>
      cases call with
      | postReversal later =>
        rw [found moment later retries] at returned
        cases returned
        exact kept
      | _ => cases retries
    | @failed _ moment call message failed =>
      cases call with
      | postReversal later =>
        rw [found moment later retries] at failed
        cases failed
      | _ => cases retries
    | interrupted => exact kept
    | administer same => exact same.trans kept

theorem unfinished_keep {transactionId referenceNumber : String}
    (run : Run (retrying server transactionId referenceNumber) start trace last)
    (unfinished : ∀ event ∈ trace, event.Unfinished) : last.entries = start.entries := by
  induction run with
  | start => rfl
  | @next trace middle last event earlier move ih =>
    have kept := ih fun other member => unfinished other (by simp [member])
    have pending := unfinished event (by simp)
    cases move.1 with
    | returned _ | failed _ => exact pending.elim
    | interrupted => exact kept
    | administer same => exact same.trans kept

section

variable (identified : server.uuid args.transactionId = some transaction)

include identified

theorem later_reversed (marked : ∃ row ∈ after.ofTransaction transaction,
      row.referenceNumber.text = reversalReference args.referenceNumber) :
    ∀ trace last laterMoment (later : ReversalArgs),
      Run (retrying server args.transactionId args.referenceNumber) after trace last →
      later.transactionId = args.transactionId → later.referenceNumber = args.referenceNumber →
      postReversal server laterMoment later last = .ok ⟨true, []⟩ last := by
  intro trace last laterMoment later run sameId sameReference
  have kept := retries_keep identified marked run
  apply postReversal_marked
  · rw [sameId]
    exact identified
  · rw [sameReference, ofTransaction_congr kept]
    exact marked

theorem reverses_of_reversed (marked : ∃ row ∈ before.ofTransaction transaction,
      row.referenceNumber.text = reversalReference args.referenceNumber) :
    Reverses server moment args transaction before ↔
      ∀ accountId, net (before.ofTransaction transaction) accountId = 0 := by
  have found : postReversal server moment args before = .ok ⟨true, []⟩ before :=
    postReversal_marked identified marked
  constructor
  · rintro ⟨result, after, done, nets, -, -⟩
    rw [found] at done
    cases done
    exact nets
  · intro nets
    exact ⟨_, before, found, nets, rfl, later_reversed identified marked⟩

theorem reverses_of_fresh (posted : before.ofTransaction transaction ≠ []) (active : before.Active transaction)
    (unmarked : ∀ row ∈ before.ofTransaction transaction,
      row.referenceNumber.text ≠ reversalReference args.referenceNumber) :
    Reverses server moment args transaction before ↔ (reversalReference args.referenceNumber).length ≤ 50 ∧
      (∃ author, nullableUuid server args.postedBy = .ok author ∧ author.all (fun user => user ∈ before.users) = true) ∧
      Invertible (before.ordered transaction) := by
  have named : ∀ pair ∈ before.original transaction (reversalReference args.referenceNumber),
      before.codeOf pair.2.accountId = some pair.1 := by
    intro pair member
    exact original_named member
  have sorted := original_unmarked unmarked
  have owned : ∀ pair ∈ before.original transaction (reversalReference args.referenceNumber),
      pair.2 ∈ before.ofTransaction transaction := by
    intro pair member
    rw [← (ordered_perm).mem_iff, ← sorted]
    exact List.mem_map_of_mem member
  have acceptable (short : (reversalReference args.referenceNumber).length ≤ 50)
      (nets : ∀ accountId, returnedNet (before.ordered transaction) accountId =
        net (before.ordered transaction) accountId) :
      Acceptable server moment before (reversalPost args
          (before.original transaction (reversalReference args.referenceNumber))) ↔
        Invertible ((before.original transaction (reversalReference args.referenceNumber)).map
          Prod.snd) ∧ ∃ author, nullableUuid server args.postedBy = .ok author ∧
            author.all (fun user => user ∈ before.users) = true :=
    acceptable_mirrored identified active named owned short (by rw [sorted]; exact nets)
  have added (mirrors : List LedgerEntryRow)
      (mirroring : List.Forall₂ Mirrors (before.ordered transaction) mirrors) (accountId : Uuid) :
      net (before.ofTransaction transaction ++ mirrors) accountId =
        net (before.ordered transaction) accountId -
          returnedNet (before.ordered transaction) accountId := by
    rw [net_append, net_mirrors mirroring, net_perm ordered_perm]
    ring
  constructor
  · rintro ⟨result, after, done, nets, -, later⟩
    obtain ⟨entries, posting, -⟩ := (postReversal_fresh identified posted unmarked).mp done
    obtain ⟨mirrors, mirroring, appended, marks⟩ := reversal_adds identified unmarked posting
    have total := ofTransaction_append appended fun mirror member => (marks mirror member).1
    have short : (reversalReference args.referenceNumber).length ≤ 50 := by
      have again := later [] after moment args .start rfl rfl
      by_contra long
      have unmarkedAfter : ∀ row ∈ after.ofTransaction transaction,
          row.referenceNumber.text ≠ reversalReference args.referenceNumber := by
        intro row _ marked
        have fits := row.referenceNumber.fits
        rw [marked] at fits
        exact long fits
      have nonempty : after.ofTransaction transaction ≠ [] := by
        rw [total]
        simp [posted]
      obtain ⟨_, -, fresh⟩ := (postReversal_fresh identified nonempty unmarkedAfter).mp again
      simp at fresh
    have returns (accountId : Uuid) : returnedNet (before.ordered transaction) accountId =
        net (before.ordered transaction) accountId := by
      have zero := nets accountId
      rw [total, added mirrors mirroring] at zero
      linarith
    have accepted := (acceptable short returns).mp (posted_iff.mp ⟨entries, after, posting⟩)
    rw [sorted] at accepted
    exact ⟨short, accepted.2, accepted.1⟩
  · rintro ⟨short, author, invertible⟩
    have accepted := (acceptable short invertible.nets).mpr (by rw [sorted]; exact ⟨invertible, author⟩)
    obtain ⟨entries, after, posting⟩ := posted_iff.mpr accepted
    obtain ⟨mirrors, mirroring, appended, marks⟩ := reversal_adds identified unmarked posting
    have allOwned : ∀ mirror ∈ mirrors, mirror.transactionId = some transaction := by simp_all
    have total := ofTransaction_append appended allOwned
    refine ⟨_, after, (postReversal_fresh identified posted unmarked).mpr ⟨entries, posting, rfl⟩,
      ?_, others_append appended allOwned, later_reversed identified ?_⟩
    · intro accountId
      rw [total, added mirrors mirroring, invertible.nets]
      ring
    · have nonempty : mirrors ≠ [] := by
        intro none
        have lengths := mirroring.length_eq
        have pair := invertible.pair
        rw [none] at lengths
        simp at lengths
        simp [lengths] at pair
      obtain ⟨mirror, member⟩ := List.exists_mem_of_ne_nil mirrors nonempty
      refine ⟨mirror, ?_, ?_⟩
      · rw [total]
        simp [member]
      · grind [Varchar.store_of_length]

end

/-- The first reversal that completes, whatever calls were interrupted before it, undoes the
transaction exactly where the stored rows can be reversed. -/
theorem reversal_nets_iff (identified : server.uuid args.transactionId = some transaction)
    (posted : start.ofTransaction transaction ≠ [])
    (run : Run (retrying server args.transactionId args.referenceNumber) start trace before)
    (unfinished : ∀ event ∈ trace, event.Unfinished) (active : before.Active transaction) :
    Reverses server moment args transaction before ↔
      Reversible server before.users (start.ofTransaction transaction) args := by
  rw [← ofTransaction_congr (unfinished_keep run unfinished)] at posted ⊢
  by_cases marked : ∃ row ∈ before.ofTransaction transaction,
      row.referenceNumber.text = reversalReference args.referenceNumber
  · rw [reverses_of_reversed identified marked]
    constructor
    · intro nets
      exact .reversed marked nets
    · intro reversible
      cases reversible with
      | reversed _ nets => exact nets
      | fresh unmarked _ _ _ =>
        obtain ⟨row, member, same⟩ := marked
        exact absurd same (unmarked row member)
  · have unmarked : ∀ row ∈ before.ofTransaction transaction,
        row.referenceNumber.text ≠ reversalReference args.referenceNumber := by
      intro row member same
      exact marked ⟨row, member, same⟩
    rw [reverses_of_fresh identified posted active unmarked]
    constructor
    · rintro ⟨short, author, invertible⟩
      exact .fresh unmarked short author invertible
    · intro reversible
      cases reversible with
      | reversed there _ => exact absurd there marked
      | fresh _ short author invertible => exact ⟨short, author, invertible⟩

theorem returnedNet_of_exact (exact : ∀ row ∈ rows, returned row.debitAmount = row.debitAmount ∧
      returned row.creditAmount = row.creditAmount) : returnedNet rows accountId = net rows accountId := by
  unfold returnedNet net
  congr 1
  apply List.map_congr_left
  intro row member
  obtain ⟨debit, credit⟩ := exact row (List.mem_filter.mp member).1
  rw [debit, credit]

def reversalOf (referenceNumber : String) : ReversalArgs where
  transactionId := "t"
  referenceNumber := referenceNumber
  reason := "duplicate"
  postedBy := none

theorem withdrawal_reversed : Reverses simpleServer (momentWith [4, 5, 6]) (reversalOf "TXN-1") 7 withdrawn := by
  have owned : withdrawn.ofTransaction 7 ≠ [] := by decide +kernel
  have active : withdrawn.Active 7 := by
    unfold Database.Active
    decide +kernel
  apply (reversal_nets_iff rfl owned .start (by simp) active).mpr
  apply Reversible.fresh
  · decide +kernel
  · decide +kernel
  · exact ⟨none, rfl, rfl⟩
  · constructor
    · decide +kernel
    · decide +kernel
    · unfold Returns
      decide +kernel
    · decide +kernel
    · decide +kernel
    · intro accountId
      apply returnedNet_of_exact
      decide +kernel

/-- A deposit of 600000001.8, of which three accounts get a share. -/
def splitDeposit : PostArgs where
  referenceNumber := "TXN-2"
  description := "Split deposit"
  entries :=
    [debitEntry "1100" 600000001.8 "Received", creditEntry "2000" 600000000.1 "Balance",
      creditEntry "4100" 0.9 "Fee", creditEntry "4200" 0.8 "Fee"]
  transactionId := some "t"
  postedBy := none

/-- The generator gives the shares identifiers in another order. -/
def deposited : Database :=
  match postTransaction simpleServer (momentWith [4, 3, 1, 2]) splitDeposit chart with
  | .ok _ after => after
  | .error _ _ => chart

/-- The posting was accepted, and the same numbers in the order of the identifiers are not. -/
theorem split_deposit_irreversible : deposited.ofTransaction 7 ≠ [] ∧ deposited.Active 7 ∧
      (∃ after, postReversal simpleServer (momentWith []) (reversalOf "TXN-2") deposited =
        .error "Transaction not balanced: debits=600000001.8000001 credits=600000001.8" after) ∧
      ¬Reverses simpleServer (momentWith []) (reversalOf "TXN-2") 7 deposited := by
  have message : (match postReversal simpleServer (momentWith []) (reversalOf "TXN-2") deposited with
      | .ok _ _ => none
      | .error message _ => some message) =
        some "Transaction not balanced: debits=600000001.8000001 credits=600000001.8" := by
    decide +kernel
  refine ⟨by decide +kernel, ?_, ?_, ?_⟩
  · unfold Database.Active
    decide +kernel
  · cases result : postReversal simpleServer (momentWith []) (reversalOf "TXN-2") deposited with
    | ok value after => simp [result] at message
    | error text after =>
      simp only [result, Option.some.injEq] at message
      exact ⟨after, by rw [message]⟩
  · rintro ⟨value, after, done, -⟩
    simp [done] at message

end ProxyPay.Ledger
