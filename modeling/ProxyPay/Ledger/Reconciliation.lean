import ProxyPay.Ledger.Posting

/-! The reconciliation of the ledger: the run over all accounts, and the check of one account. -/

namespace ProxyPay.LedgerReconciliation

open ProxyPay.Ledger (Amount)

/-- A row of `ledger_entries`, with the posting that wrote it. -/
structure Entry where
  posting : ℕ
  code : String
  debit_amount : Amount
  credit_amount : Amount

/-- `parseFloat` of a setting. -/
inductive Threshold where
  | number (value : ℚ)
  | infinity
  | negativeInfinity
  | nan

namespace Threshold

/-- `diff <= threshold` -/
def reached (diff : ℚ) : Threshold → Bool
  | number value => diff ≤ value
  | infinity => true
  | negativeInfinity | nan => false

/-- `diff < threshold` -/
def below (diff : ℚ) : Threshold → Bool
  | number value => diff < value
  | infinity => true
  | negativeInfinity | nan => false

end Threshold

structure Thresholds where
  minor : Threshold
  major : Threshold

inductive Severity where
  | minor | moderate | major
  deriving DecidableEq

inductive Status where
  | auto_resolved | needs_review
  deriving DecidableEq

structure DiscrepancyRecord where
  id : String
  account_code : String
  expected_debits : ℚ
  actual_debits : ℚ
  expected_credits : ℚ
  actual_credits : ℚ
  difference : ℚ
  severity : Severity
  status : Status

structure ReconciliationResult where
  total_accounts : ℕ
  balanced_accounts : ℕ
  discrepancy_count : ℕ
  auto_resolved : ℕ
  needs_review : ℕ
  total_difference : ℚ
  discrepancies : List DiscrepancyRecord

def debits (entries : List Entry) : ℚ := (entries.map fun entry => entry.debit_amount.value).sum

def credits (entries : List Entry) : ℚ := (entries.map fun entry => entry.credit_amount.value).sum

/-- `WHERE code = $1` -/
def ofAccount (ledger : List Entry) (code : String) : List Entry := ledger.filter fun entry => entry.code = code

/-- `GROUP BY code ORDER BY code` -/
def accountCodes (ledger : List Entry) : List String := (ledger.map Entry.code).dedup.mergeSort

/-- `Math.abs(debits - credits)` of an account -/
def difference (ledger : List Entry) (code : String) : ℚ :=
  |debits (ofAccount ledger code) - credits (ofAccount ledger code)|

/-- What is recorded of an account whose sides differ. -/
def discrepancy (thresholds : Thresholds) (runId : String) (ledger : List Entry) (account_code : String) :
    DiscrepancyRecord :=
  let debits := debits (ofAccount ledger account_code)
  let credits := credits (ofAccount ledger account_code)
  let diff := difference ledger account_code
  let severity :=
    if thresholds.minor.reached diff then .minor else if thresholds.major.reached diff then .moderate else .major
  ⟨runId ++ "_" ++ account_code, account_code, debits, debits, credits, credits, diff, severity,
    if severity = .minor then .auto_resolved else .needs_review⟩

/-- The body of the loop over the accounts. -/
def checkAccount (thresholds : Thresholds) (runId : String) (ledger : List Entry) (result : ReconciliationResult)
    (account_code : String) : ReconciliationResult :=
  let diff := difference ledger account_code
  if 0 < diff then
    let discrepancy := discrepancy thresholds runId ledger account_code
    { result with
      total_difference := result.total_difference + diff
      auto_resolved := result.auto_resolved + if discrepancy.status = .auto_resolved then 1 else 0
      needs_review := result.needs_review + if discrepancy.status = .needs_review then 1 else 0
      discrepancies := result.discrepancies ++ [discrepancy] }
  else result

def runReconciliation (thresholds : Thresholds) (runId : String) (ledger : List Entry) : ReconciliationResult :=
  let codes := accountCodes ledger
  let checked := codes.foldl (checkAccount thresholds runId ledger) ⟨codes.length, 0, 0, 0, 0, 0, []⟩
  { checked with
    balanced_accounts := codes.length - checked.discrepancies.length
    discrepancy_count := checked.discrepancies.length }

def triggerManualReconciliation (thresholds : Thresholds) (runId : String) (ledger : List Entry)
    (accountCode : Option String) : ReconciliationResult ⊕ List DiscrepancyRecord :=
  match accountCode.filter (· ≠ "") with
  | some accountCode =>
    if ofAccount ledger accountCode = [] then .inr []
    else
      let debits := debits (ofAccount ledger accountCode)
      let credits := credits (ofAccount ledger accountCode)
      let diff := difference ledger accountCode
      if thresholds.minor.below diff then .inr []
      else .inr [⟨"manual_" ++ runId ++ "_" ++ accountCode, accountCode, debits, debits, credits, credits, diff,
        if thresholds.major.reached diff then .moderate else .major, .needs_review⟩]
  | none => .inl (runReconciliation thresholds runId ledger)

section Results

variable {thresholds : Thresholds} {runId : String} {ledger : List Entry}

/-- What one account adds to the discrepancies. -/
def found (thresholds : Thresholds) (runId : String) (ledger : List Entry) (code : String) : List DiscrepancyRecord :=
  if 0 < difference ledger code then [discrepancy thresholds runId ledger code] else []

theorem checkAccount_discrepancies (result : ReconciliationResult) (code : String) :
    (checkAccount thresholds runId ledger result code).discrepancies =
      result.discrepancies ++ found thresholds runId ledger code := by
  simp only [found, checkAccount]
  split <;> simp

theorem run_discrepancies : (runReconciliation thresholds runId ledger).discrepancies =
    (accountCodes ledger).flatMap (found thresholds runId ledger) := by
  have folded (codes : List String) (result : ReconciliationResult) :
      (codes.foldl (checkAccount thresholds runId ledger) result).discrepancies =
        result.discrepancies ++ codes.flatMap (found thresholds runId ledger) := by
    induction codes generalizing result with
    | nil => simp
    | cons code codes ih => rw [List.foldl_cons, ih, checkAccount_discrepancies, List.flatMap_cons, List.append_assoc]
  exact folded _ _

variable {code : String}

theorem ofAccount_nil : ofAccount ledger code = [] ↔ code ∉ ledger.map Entry.code := by
  simp [ofAccount, List.filter_eq_nil_iff]

theorem mem_accountCodes : code ∈ accountCodes ledger ↔ code ∈ ledger.map Entry.code := by
  simp [accountCodes]

theorem found_nil : found thresholds runId ledger code = [] ↔
    debits (ofAccount ledger code) = credits (ofAccount ledger code) := by
  simp [found, difference, sub_eq_zero]

theorem discrepancies_nil : (runReconciliation thresholds runId ledger).discrepancies = [] ↔
    ∀ code, debits (ofAccount ledger code) = credits (ofAccount ledger code) := by
  rw [run_discrepancies, List.flatMap_eq_nil_iff]
  constructor
  · intro none_found code
    by_cases known : code ∈ ledger.map Entry.code
    · exact (found_nil).mp (none_found code ((mem_accountCodes).mpr known))
    · rw [(ofAccount_nil).mpr known]
      rfl
  · exact fun equal code _ => (found_nil).mpr (equal code)

/-- A record of the account asks for a review. -/
def Reported (records : List DiscrepancyRecord) (code : String) (diff : ℚ) (severity : Severity) : Prop :=
  ∃ record ∈ records, record.account_code = code ∧ record.status = .needs_review ∧ record.difference = diff ∧
    record.severity = severity

/-- The severity of what is no minor difference. -/
def graded (thresholds : Thresholds) (diff : ℚ) : Severity :=
  if thresholds.major.reached diff then .moderate else .major

variable {diff : ℚ} {severity : Severity}

theorem reported_run : Reported (runReconciliation thresholds runId ledger).discrepancies code diff severity ↔
      code ∈ ledger.map Entry.code ∧ (0 < difference ledger code ∧ thresholds.minor.reached (difference ledger code) = false) ∧
        difference ledger code = diff ∧ graded thresholds (difference ledger code) = severity := by
  simp only [Reported, run_discrepancies, List.mem_flatMap, found, mem_accountCodes]
  constructor
  · rintro ⟨record, ⟨other, known, member⟩, rfl, review, rfl, rfl⟩
    split at member
    · rename_i positive
      rw [List.mem_singleton.mp member] at review ⊢
      have sure : thresholds.minor.reached (difference ledger other) = false := by
        by_contra minor
        simp [discrepancy, minor] at review
      exact ⟨known, ⟨positive, sure⟩, rfl, by simp [discrepancy, graded, sure]⟩
    · cases member
  · rintro ⟨known, ⟨positive, sure⟩, rfl, rfl⟩
    refine ⟨discrepancy thresholds runId ledger code, ⟨code, known, ?_⟩, rfl, ?_, rfl, ?_⟩
    · rw [if_pos positive]
      exact List.mem_singleton_self _
    · simp only [discrepancy, sure]
      split_ifs <;> simp_all
    · simp [discrepancy, graded, sure]

theorem reported_manual (named : code ≠ "") :
    Reported ((triggerManualReconciliation thresholds runId ledger (some code)).elim (·.discrepancies) id)
        code diff severity ↔
      code ∈ ledger.map Entry.code ∧ thresholds.minor.below (difference ledger code) = false ∧
        difference ledger code = diff ∧ graded thresholds (difference ledger code) = severity := by
  have given : (some code).filter (· ≠ "") = some code := by simp [named]
  simp only [triggerManualReconciliation, given]
  split
  · rename_i empty
    simp [Reported, (ofAccount_nil).mp empty]
  · rename_i some_entry
    have known := not_not.mp (mt (ofAccount_nil).mpr some_entry)
    split
    · rename_i below
      simp [Reported, below]
    · rename_i reached
      simp [Reported, reached, known, graded]

theorem difference_nonneg (ledger : List Entry) (code : String) : 0 ≤ difference ledger code := abs_nonneg _

/-- Both comparisons with the threshold agree. -/
def Agrees (minor : Threshold) (diff : ℚ) : Prop :=
  if diff = 0 then minor.below 0 = true else ∀ value, minor = .number value → diff ≠ value

theorem agrees_iff (minor : Threshold) (nonneg : 0 ≤ diff) :
    (0 < diff ∧ minor.reached diff = false ↔ minor.below diff = false) ↔ Agrees minor diff := by
  unfold Agrees
  split
  · rename_i zero
    simp [zero]
  · rename_i differs
    have positive : 0 < diff := lt_of_le_of_ne nonneg (Ne.symm differs)
    cases minor with
    | number value =>
      simp only [positive, true_and, Threshold.reached, Threshold.below, decide_eq_false_iff_not, Threshold.number.injEq,
        forall_eq', not_le, not_lt]
      exact ⟨fun same equal => absurd (same.mpr equal.ge) (by simp [equal]),
        fun other => ⟨le_of_lt, fun least => lt_of_le_of_ne least (Ne.symm other)⟩⟩
    | infinity | negativeInfinity | nan => simp [positive, Threshold.reached, Threshold.below]

/-- The entries of every posting balance. -/
def Balanced (ledger : List Entry) : Prop :=
  ∀ posting, debits (ledger.filter fun entry => entry.posting = posting) =
    credits (ledger.filter fun entry => entry.posting = posting)

/-- What is expected of the reconciliation of a ledger. -/
structure Sound (thresholds : Thresholds) (runId : String) (ledger : List Entry) : Prop where
  silent : Balanced ledger → (runReconciliation thresholds runId ledger).discrepancies = []
  alarmed : ¬Balanced ledger → (runReconciliation thresholds runId ledger).discrepancies ≠ []
  agreed : ∀ code diff severity,
    Reported ((triggerManualReconciliation thresholds runId ledger (some code)).elim (·.discrepancies) id)
        code diff severity ↔
      Reported (runReconciliation thresholds runId ledger).discrepancies code diff severity

end Results

end ProxyPay.LedgerReconciliation
