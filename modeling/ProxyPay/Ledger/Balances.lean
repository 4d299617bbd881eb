import ProxyPay.Ledger.Posting

/-! The balance of an account at a date, and its two parts: what has settled by then and what is pending. -/

namespace ProxyPay.Ledger

open ProxyPay.Library ProxyPay.Library.Atomic

/-- `normal_balance`, with its check. -/
inductive NormalBalance where
  | debit
  | credit
  deriving DecidableEq

/-- A row of `accounts` with the side that it grows on. -/
structure BalanceAccount extends Account where
  normalBalance : NormalBalance
  deriving DecidableEq

/-- A row of `ledger_entries` with the date it counts from. -/
structure DatedEntry extends LedgerEntryRow where
  entryDate : Date
  deriving DecidableEq

/-- The tables, with their keys. -/
structure Books where
  accounts : List BalanceAccount
  entries : List DatedEntry
  account_ids : (accounts.map fun account => account.id).Nodup
  account_codes : (accounts.map fun account => account.code).Nodup
  entry_accounts : ∀ entry ∈ entries, entry.accountId ∈ accounts.map fun account => account.id

namespace Books

/-- The normal side of an active account. -/
def normalBalance (books : Books) (code : String) : Option NormalBalance :=
  (books.accounts.find? fun account => account.code = code ∧ account.isActive).map BalanceAccount.normalBalance

/-- The accounts of this code that an entry is joined with. -/
def joins (books : Books) (code : String) (entry : DatedEntry) : List DatedEntry :=
  (books.accounts.filter fun account => entry.accountId = account.id ∧ account.code = code).map fun _ => entry

/-- `ledger_entries le JOIN accounts a ON le.account_id = a.id WHERE a.code = p_account_code` -/
def joined (books : Books) (code : String) : List DatedEntry :=
  books.entries.flatMap (books.joins code)

end Books

/-- `COALESCE(SUM(column), 0)` -/
def sumOfColumn (column : DatedEntry → Amount) (rows : List DatedEntry) : ℚ :=
  (rows.map fun row => (column row).value).sum

/-- The sums over all rows are numbers without a bound. -/
def NormalBalance.balance (normal : NormalBalance) (rows : List DatedEntry) : ℚ :=
  match normal with
  | .debit => sumOfColumn (fun row => row.debitAmount) rows - sumOfColumn (fun row => row.creditAmount) rows
  | .credit => sumOfColumn (fun row => row.creditAmount) rows - sumOfColumn (fun row => row.debitAmount) rows

/-- The assignment to `v_balance`. -/
def assigned (balance : ℚ) : Except String Amount :=
  orThrow "numeric field overflow" (Decimal.store balance)

/-- What the three functions share; `counted` are their conditions on the dates. -/
def balanceWhere (books : Books) (code : String) (counted : DatedEntry → Bool) : Except String Amount := do
  let normal ← orThrow ("Account not found: " ++ code) (books.normalBalance code)
  assigned (normal.balance ((books.joined code).filter counted))

def DatedEntry.entered (asOf : Date) (entry : DatedEntry) : Bool :=
  entry.entryDate.days ≤ asOf.days

def DatedEntry.settled (asOf : Date) (entry : DatedEntry) : Bool :=
  entry.settlementDate.days ≤ asOf.days

def get_account_balance (books : Books) (code : String) (asOf : Date) : Except String Amount :=
  balanceWhere books code fun entry => entry.entered asOf

def get_available_balance (books : Books) (code : String) (asOf : Date) : Except String Amount :=
  balanceWhere books code fun entry => entry.entered asOf && entry.settled asOf

def get_pending_balance (books : Books) (code : String) (asOf : Date) : Except String Amount :=
  balanceWhere books code fun entry => entry.entered asOf && decide (entry.settlementDate.days > asOf.days)

variable {books : Books} {code : String} {normal : NormalBalance}

theorem balanceWhere_of_active (active : books.normalBalance code = some normal) (counted : DatedEntry → Bool) :
    balanceWhere books code counted = assigned (normal.balance ((books.joined code).filter counted)) := by
  rw [balanceWhere, active]
  rfl

namespace NormalBalance

theorem balance_cons (normal : NormalBalance) (row : DatedEntry) (rows : List DatedEntry) :
    normal.balance (row :: rows) = normal.balance [row] + normal.balance rows := by
  cases normal with
  | debit =>
    simp only [balance, sumOfColumn, List.map_cons, List.sum_cons, List.map_nil, List.sum_nil]
    ring
  | credit =>
    simp only [balance, sumOfColumn, List.map_cons, List.sum_cons, List.map_nil, List.sum_nil]
    ring

theorem balance_nil (normal : NormalBalance) : normal.balance [] = 0 := by
  cases normal with
  | debit | credit => simp [balance, sumOfColumn]

theorem balance_partition (normal : NormalBalance) (counted later : DatedEntry → Bool) (rows : List DatedEntry) :
    normal.balance (rows.filter fun row => counted row && !later row) +
      normal.balance (rows.filter fun row => counted row && later row) = normal.balance (rows.filter counted) := by
  induction rows with
  | nil => simp [balance_nil]
  | cons row rest ih =>
    by_cases here : counted row = true
    · by_cases after : later row = true
      · simp only [List.filter_cons, here, after, Bool.not_true, Bool.and_false, Bool.and_true, if_true,
          Bool.false_eq_true, if_false]
        rw [balance_cons normal row (List.filter _ _), balance_cons normal row (List.filter _ _), ← ih]
        ring
      · rw [Bool.not_eq_true] at after
        simp only [List.filter_cons, here, after, Bool.not_false, Bool.and_false, Bool.and_true, if_true,
          Bool.false_eq_true, if_false]
        rw [balance_cons normal row (List.filter _ _), balance_cons normal row (List.filter _ _), ← ih]
        ring
    · simp_all

theorem balance_perm (normal : NormalBalance) {rows others : List DatedEntry} (same : rows.Perm others) :
    normal.balance rows = normal.balance others := by
  have sums (column : DatedEntry → Amount) : sumOfColumn column rows = sumOfColumn column others :=
    (same.map _).sum_eq
  cases normal with
  | debit | credit => rw [balance, balance, sums, sums]

end NormalBalance

theorem Books.filter_joined (books : Books) (code : String) (counted : DatedEntry → Bool) :
    (books.joined code).filter counted = (books.entries.filter counted).flatMap (books.joins code) := by
  unfold joined
  induction books.entries with
  | nil => rfl
  | cons entry rest ih =>
    rw [List.flatMap_cons, List.filter_append, ih]
    by_cases here : counted entry = true
    · have all : (books.joins code entry).filter counted = books.joins code entry := by
        apply List.filter_eq_self.mpr
        intro row member
        obtain ⟨_, _, rfl⟩ := List.mem_map.mp member
        exact here
      rw [all, List.filter_cons_of_pos here, List.flatMap_cons]
    · have none : (books.joins code entry).filter counted = [] := by
        apply List.filter_eq_nil_iff.mpr
        intro row member
        obtain ⟨_, _, rfl⟩ := List.mem_map.mp member
        exact here
      rw [none, List.nil_append, List.filter_cons_of_neg here]

theorem available_of_settled {other : Books} (asOf : Date) (accounts : other.accounts = books.accounts)
    (settled : (other.entries.filter (DatedEntry.settled asOf)).Perm
      (books.entries.filter (DatedEntry.settled asOf))) (code : String) :
    get_available_balance other code asOf = get_available_balance books code asOf := by
  have joins : other.joins code = books.joins code := by
    funext entry
    rw [Books.joins, accounts, Books.joins]
  have side : other.normalBalance code = books.normalBalance code := by
    rw [Books.normalBalance, accounts, Books.normalBalance]
  have rows (ledger : Books) : ledger.entries.filter (fun entry => entry.entered asOf && entry.settled asOf) =
      (ledger.entries.filter (DatedEntry.settled asOf)).filter (DatedEntry.entered asOf) := by
    rw [List.filter_filter]
  have counted : ((other.joined code).filter fun entry => entry.entered asOf && entry.settled asOf).Perm
      ((books.joined code).filter fun entry => entry.entered asOf && entry.settled asOf) := by
    rw [Books.filter_joined, Books.filter_joined, rows, rows, joins]
    exact (settled.filter _).flatMap_right _
  unfold get_available_balance balanceWhere
  rw [side]
  cases books.normalBalance code with
  | none => rfl
  | some normal =>
    show assigned _ = assigned _
    rw [normal.balance_perm counted]

/-- What a function returns for a sum: the sum itself, unless it has too many digits. -/
def Yields (result : Except String Amount) (sum : ℚ) : Prop :=
  if |sum| < 10 ^ 13 then ∃ amount, result = .ok amount ∧ amount.value = sum
  else result = .error "numeric field overflow"

theorem assigned_units (units : ℤ) : Yields (assigned (units / 10 ^ 7)) (units / 10 ^ 7) := by
  have rounded : roundHalfAway ((units : ℚ) / 10 ^ 7 * 10 ^ 7) = units := by simp
  have size : |(units : ℚ) / 10 ^ 7| < 10 ^ 13 ↔ units.natAbs < 10 ^ 20 := by
    have positive : (0 : ℚ) < 10 ^ 7 := by norm_num
    rw [abs_div, abs_of_pos positive, div_lt_iff₀ positive, ← Int.cast_abs, Int.abs_eq_natAbs]
    norm_num
    norm_cast
    rw [Int.abs_eq_natAbs]
    omega
  unfold Yields
  by_cases fits : units.natAbs < 10 ^ 20
  · rw [if_pos (size.mpr fits)]
    refine ⟨⟨units, fits⟩, ?_, rfl⟩
    rw [assigned, Decimal.store, dif_pos (by rwa [rounded])]
    simp only [rounded]
    rfl
  · rw [if_neg (fun small => fits (size.mp small)), assigned, Decimal.store, dif_neg (by rwa [rounded])]
    rfl

theorem sumOfColumn_units (column : DatedEntry → Amount) (rows : List DatedEntry) :
    ∃ units : ℤ, sumOfColumn column rows = units / 10 ^ 7 := by
  induction rows with
  | nil => exact ⟨0, by simp [sumOfColumn]⟩
  | cons row rest ih =>
    obtain ⟨units, sum⟩ := ih
    refine ⟨(column row).units + units, ?_⟩
    have split : sumOfColumn column (row :: rest) = (column row).value + sumOfColumn column rest := by
      simp [sumOfColumn]
    rw [split, sum, Decimal.value]
    push_cast
    rw [add_div]

theorem NormalBalance.balance_units (normal : NormalBalance) (rows : List DatedEntry) :
    ∃ units : ℤ, normal.balance rows = units / 10 ^ 7 := by
  obtain ⟨debits, debit⟩ := sumOfColumn_units (fun row => row.debitAmount) rows
  obtain ⟨credits, credit⟩ := sumOfColumn_units (fun row => row.creditAmount) rows
  cases normal with
  | debit =>
    refine ⟨debits - credits, ?_⟩
    rw [balance, debit, credit]
    push_cast
    rw [sub_div]
  | credit =>
    refine ⟨credits - debits, ?_⟩
    rw [balance, debit, credit]
    push_cast
    rw [sub_div]

theorem yields_balanceWhere (active : books.normalBalance code = some normal) (counted : DatedEntry → Bool) :
    Yields (balanceWhere books code counted) (normal.balance ((books.joined code).filter counted)) := by
  obtain ⟨units, sum⟩ := normal.balance_units ((books.joined code).filter counted)
  rw [balanceWhere_of_active active, sum]
  exact assigned_units units

theorem Yields.value {result : Except String Amount} {sum : ℚ} {amount : Amount} (returns : Yields result sum)
    (ended : result = .ok amount) : amount.value = sum := by
  unfold Yields at returns
  split at returns
  · simp_all
  · rw [ended] at returns
    cases returns

/-- A debit of nine times ten to the twelfth that counts from day 0. -/
def largeDebit (id : Uuid) (settlementDate : Date) : DatedEntry where
  id := id
  accountId := 0
  debitAmount := ⟨9 * 10 ^ 19, by decide⟩
  creditAmount := zero
  transactionId := none
  referenceNumber := ⟨"TXN-1", by decide⟩
  description := "deposit"
  postedBy := none
  metadata := []
  settlementDate
  createdAt := 0
  oneSided := .inl (by decide)
  entryDate := ⟨0⟩

/-- Two large debits of one account, of which the second settles a day later. -/
def largeDebits : Books where
  accounts := [{ id := 0, code := "1000", isActive := true, normalBalance := .debit }]
  entries := [largeDebit 1 ⟨0⟩, largeDebit 2 ⟨1⟩]
  account_ids := by decide
  account_codes := by decide
  entry_accounts := by decide

end ProxyPay.Ledger
