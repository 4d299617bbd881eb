import ProxyPay.Library.DecimalText
import ProxyPay.Library.InsertionMap

/-! The monthly invoice: the stored summary by currency, and the printed one. -/

namespace ProxyPay.Invoices

open Library

/-- The text of a decimal. -/
structure DecimalString where
  text : String
  number : ℚ
  decimal : DecimalText.readDecimal text = some number

theorem DecimalString.parseFloat (decimal : DecimalString) : DecimalText.parseFloat decimal.text = some decimal.number :=
  DecimalText.parseFloat_of_readDecimal decimal.decimal

inductive TransactionType where
  | deposit | withdraw
  deriving DecidableEq

def TransactionType.text : TransactionType → String
  | deposit => "deposit"
  | withdraw => "withdraw"

structure Transaction where
  type : TransactionType
  amount : DecimalString
  fee : Option DecimalString
  currency : Option String

/-- `tx.currency || 'USD'` -/
def Transaction.currencyOrUsd (tx : Transaction) : String := (tx.currency.filter (· ≠ "")).getD "USD"

/-- `tx.fee ? parseFloat(tx.fee) : 0` -/
def Transaction.feeOrZero (tx : Transaction) : ℚ := (tx.fee.map DecimalString.number).getD 0

@[ext] structure Stats where
  deposits : ℚ
  withdrawals : ℚ
  fees : ℚ
  total : ℚ
  count : ℕ
  deriving DecidableEq

namespace Stats

def zero : Stats := ⟨0, 0, 0, 0, 0⟩

/-- One more transaction, where this decides what a withdrawal is. -/
def add (isWithdrawal : TransactionType → Bool) (stats : Stats) (tx : Transaction) : Stats :=
  let counted := { stats with count := stats.count + 1, fees := stats.fees + tx.feeOrZero }
  if tx.type.text = "deposit" then
    { counted with deposits := stats.deposits + tx.amount.number, total := stats.total + tx.amount.number }
  else if isWithdrawal tx.type then
    { counted with withdrawals := stats.withdrawals + tx.amount.number, total := stats.total - tx.amount.number }
  else counted

/-- The amounts with two decimals. -/
def toFixed (stats : Stats) : Stats :=
  { stats with
    deposits := Library.toFixed 2 stats.deposits
    withdrawals := Library.toFixed 2 stats.withdrawals
    fees := Library.toFixed 2 stats.fees
    total := Library.toFixed 2 stats.total }

end Stats

/-- `transactions.forEach(tx => ...)` over the groups. -/
def group (isWithdrawal : TransactionType → Bool) (groups : InsertionMap String Stats) (tx : Transaction) :
    InsertionMap String Stats :=
  groups.set tx.currencyOrUsd (((groups.get? tx.currencyOrUsd).getD .zero).add isWithdrawal tx)

/-- `calculateCurrencySummary(transactions)` -/
def calculateCurrencySummary (transactions : List Transaction) : InsertionMap String Stats :=
  (transactions.foldl (group fun type => type.text = "withdrawal") .empty).mapValues Stats.toFixed

/-- The rows that `generateMonthlyInvoicePDF` prints: whatever is no deposit is a withdrawal. -/
def summaryTable (transactions : List Transaction) : InsertionMap String Stats :=
  (transactions.foldl (group fun _ => true) .empty).mapValues Stats.toFixed

section Groups

variable {isWithdrawal : TransactionType → Bool} {transactions : List Transaction} {currency : String}

def ofCurrency (transactions : List Transaction) (currency : String) : List Transaction :=
  transactions.filter fun tx => tx.currencyOrUsd = currency

/-- The sum of the amounts of one type. -/
def amounts (type : TransactionType) (transactions : List Transaction) : ℚ :=
  ((transactions.filter fun tx => tx.type = type).map fun tx => tx.amount.number).sum

theorem get?_groups (transactions : List Transaction) (groups : InsertionMap String Stats) (currency : String) :
    (transactions.foldl (group isWithdrawal) groups).get? currency =
      if ofCurrency transactions currency = [] then groups.get? currency
      else some ((ofCurrency transactions currency).foldl (Stats.add isWithdrawal)
        ((groups.get? currency).getD .zero)) := by
  induction transactions generalizing groups with
  | nil => rfl
  | cons tx rest ih =>
    rw [List.foldl_cons, ih, group, InsertionMap.get?_set]
    by_cases same : tx.currencyOrUsd = currency
    · have head : ofCurrency (tx :: rest) currency = tx :: ofCurrency rest currency := by simp [ofCurrency, same]
      rw [head, if_pos same]
      by_cases last : ofCurrency rest currency = []
      · simp [last, same]
      · simp [last, same]
    · have tail : ofCurrency (tx :: rest) currency = ofCurrency rest currency := by simp [ofCurrency, same]
      rw [tail, if_neg same]

theorem foldl_add (transactions : List Transaction) (stats : Stats) :
    transactions.foldl (Stats.add isWithdrawal) stats =
      let withdrawn := if isWithdrawal .withdraw then amounts .withdraw transactions else 0
      ⟨stats.deposits + amounts .deposit transactions, stats.withdrawals + withdrawn,
        stats.fees + (transactions.map Transaction.feeOrZero).sum,
        stats.total + amounts .deposit transactions - withdrawn, stats.count + transactions.length⟩ := by
  induction transactions generalizing stats with
  | nil => simp [amounts]
  | cons tx rest ih =>
    rw [List.foldl_cons, ih]
    cases type : tx.type with
    | deposit => ext <;> simp [Stats.add, type, TransactionType.text, amounts] <;> ring
    | withdraw =>
      cases counted : isWithdrawal .withdraw with
      | true | false => ext <;> simp [Stats.add, type, TransactionType.text, amounts, counted] <;> ring

/-- What is printed of a group. -/
def printed (withdrawn : ℚ) (transactions : List Transaction) : Stats :=
  ⟨toFixed 2 (amounts .deposit transactions), toFixed 2 withdrawn,
    toFixed 2 (transactions.map Transaction.feeOrZero).sum, toFixed 2 (amounts .deposit transactions - withdrawn),
    transactions.length⟩

theorem get?_summary (transactions : List Transaction) (currency : String) :
    (calculateCurrencySummary transactions).get? currency =
        (if ofCurrency transactions currency = [] then none else some (printed 0 (ofCurrency transactions currency))) ∧
      (summaryTable transactions).get? currency = (if ofCurrency transactions currency = [] then none
        else some (printed (amounts .withdraw (ofCurrency transactions currency)) (ofCurrency transactions currency))) := by
  have other : ¬TransactionType.withdraw.text = "withdrawal" := by decide
  constructor
  · rw [calculateCurrencySummary, InsertionMap.get?_mapValues, get?_groups]
    split
    · rfl
    · simp [foldl_add, other, Stats.zero, Stats.toFixed, printed]
  · rw [summaryTable, InsertionMap.get?_mapValues, get?_groups]
    split
    · rfl
    · simp [foldl_add, Stats.zero, Stats.toFixed, printed]

theorem sum_counts {groups : InsertionMap String Stats} (counted : ∀ currency, (groups.get? currency).map Stats.count =
      if ofCurrency transactions currency = [] then none else some (ofCurrency transactions currency).length) :
    (groups.entries.map fun entry => entry.2.count).sum = transactions.length := by
  have keys : (groups.entries.map Prod.fst).Perm (transactions.map Transaction.currencyOrUsd).dedup := by
    apply (List.perm_ext_iff_of_nodup groups.distinct (List.nodup_dedup _)).mpr
    intro currency
    rw [InsertionMap.mem_keys, List.mem_dedup, List.mem_map, ← Option.isSome_map (f := Stats.count), counted]
    by_cases empty : ofCurrency transactions currency = []
    · simp_all [ofCurrency]
    · simp_all [ofCurrency]
  have counts : ∀ entry ∈ groups.entries,
      entry.2.count = (transactions.map Transaction.currencyOrUsd).count entry.1 := by
    intro entry member
    have found := counted entry.1
    rw [InsertionMap.mem_entries.mp member] at found
    split at found
    · cases found
    · rw [List.count_eq_countP, List.countP_map, List.countP_eq_length_filter]
      exact Option.some.inj found
  calc (groups.entries.map fun entry => entry.2.count).sum
      = (groups.entries.map fun entry => (transactions.map Transaction.currencyOrUsd).count entry.1).sum := by
        rw [List.map_congr_left counts]
    _ = ((groups.entries.map Prod.fst).map fun key => (transactions.map Transaction.currencyOrUsd).count key).sum := by
        rw [List.map_map]
        rfl
    _ = ((transactions.map Transaction.currencyOrUsd).dedup.map
          fun key => (transactions.map Transaction.currencyOrUsd).count key).sum := (keys.map _).sum_eq
    _ = transactions.length := by rw [List.sum_map_count_dedup_eq_length, List.length_map]

/-- What is expected of the two summaries. -/
structure Agree (transactions : List Transaction) : Prop where
  same : ∀ currency, (calculateCurrencySummary transactions).get? currency = (summaryTable transactions).get? currency
  net : ∀ currency stats, (calculateCurrencySummary transactions).get? currency = some stats →
    stats.total = stats.deposits - stats.withdrawals
  tableNet : ∀ currency stats, (summaryTable transactions).get? currency = some stats →
    stats.total = stats.deposits - stats.withdrawals
  counts : ((calculateCurrencySummary transactions).entries.map fun entry => entry.2.count).sum = transactions.length
  tableCounts : ((summaryTable transactions).entries.map fun entry => entry.2.count).sum = transactions.length

/-- The summaries agree exactly if in each currency nothing that is visible with two decimals was withdrawn. -/
theorem agree_iff (transactions : List Transaction) : Agree transactions ↔ ∀ tx ∈ transactions,
    toFixed 2 (amounts .withdraw (ofCurrency transactions tx.currencyOrUsd)) = 0 ∧
      toFixed 2 (amounts .deposit (ofCurrency transactions tx.currencyOrUsd) -
        amounts .withdraw (ofCurrency transactions tx.currencyOrUsd)) =
      toFixed 2 (amounts .deposit (ofCurrency transactions tx.currencyOrUsd)) := by
  have nothing : toFixed 2 0 = 0 := toFixed.zero
  constructor
  · intro agree tx member
    have some_tx : ofCurrency transactions tx.currencyOrUsd ≠ [] :=
      List.ne_nil_of_mem (List.mem_filter.mpr ⟨member, decide_eq_true rfl⟩)
    have same := agree.same tx.currencyOrUsd
    rw [(get?_summary _ _).1, (get?_summary _ _).2, if_neg some_tx, if_neg some_tx] at same
    have fields := Stats.ext_iff.mp (Option.some.inj same)
    simp only [printed, nothing, sub_zero] at fields
    exact ⟨fields.2.1.symm, fields.2.2.2.1.symm⟩
  · intro invisible
    have first (currency : String) : ofCurrency transactions currency ≠ [] →
        ∃ tx ∈ transactions, tx.currencyOrUsd = currency := by
      intro some_tx
      obtain ⟨tx, member⟩ := List.exists_mem_of_ne_nil _ some_tx
      obtain ⟨member, same⟩ := List.mem_filter.mp member
      exact ⟨tx, member, of_decide_eq_true same⟩
    have both (currency : String) (some_tx : ofCurrency transactions currency ≠ []) :
        printed (amounts .withdraw (ofCurrency transactions currency)) (ofCurrency transactions currency) =
          printed 0 (ofCurrency transactions currency) := by
      obtain ⟨tx, member, rfl⟩ := first currency some_tx
      simp only [printed, invisible tx member, nothing, sub_zero]
    have net (stats : Stats) (currency : String) (found : (calculateCurrencySummary transactions).get? currency = some stats) :
        stats.total = stats.deposits - stats.withdrawals := by
      rw [(get?_summary _ _).1] at found
      split at found
      · cases found
      · cases found
        simp only [printed, nothing, sub_zero]
    have same (currency : String) :
        (calculateCurrencySummary transactions).get? currency = (summaryTable transactions).get? currency := by
      rw [(get?_summary _ _).1, (get?_summary _ _).2]
      split
      · rfl
      · rename_i some_tx
        rw [both currency some_tx]
    have counted (currency : String) : ((calculateCurrencySummary transactions).get? currency).map Stats.count =
        if ofCurrency transactions currency = [] then none else some (ofCurrency transactions currency).length := by
      rw [(get?_summary _ _).1]
      split <;> rfl
    exact ⟨same, fun currency stats => net stats currency, fun currency stats found => net stats currency (same currency ▸ found),
      sum_counts counted, sum_counts fun currency => same currency ▸ counted currency⟩

end Groups

/-- A withdrawal of five, which the stored summary leaves out. -/
theorem withdrawal_dropped : ¬Agree [⟨.withdraw, ⟨"5.00", 5, by decide +kernel⟩, none, some "USD"⟩] := by
  intro agree
  have same := agree.same "USD"
  revert same
  decide +kernel

end ProxyPay.Invoices
