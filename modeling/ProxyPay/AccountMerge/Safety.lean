import Mathlib.Algebra.Order.Ring.Rat
import ProxyPay.AccountMerge.Worker

/-! When an account is merged, and when only because its safety is known. -/

namespace ProxyPay.AccountMerge

variable {Number : Type} [LinearOrder Number] [Zero Number] [ToString Number]
variable {runtime : Runtime Number} {env : Environment} {queries : Queries} {answers : String → Queries} {horizon : Horizon}
variable {account : Account} {secret address destination : String} {job : AccountMergeJobData}
variable {jobs : List AccountMergeJobData}

/-- A query succeeds and reports none. -/
def ReportsNone (answer : Except String (List String)) : Prop :=
  ∃ count ≤ 0, reported answer = some count

/-- The account may be closed, and its balance is more than the fee. -/
structure Emptied (runtime : Runtime Number) (account : Account) : Prop where
  subentries : account.subentryCount = 0
  assets : hasNonNativeBalances runtime account = false
  balance : ∃ stroops, xlmToStroops (getNativeBalance account) = some stroops ∧ runtime.baseFee < stroops

def cutoff (runtime : Runtime Number) (env : Environment) (horizon : Horizon) : Option ℤ :=
  inactivityCutoff runtime (days env) horizon.now

/-- Everything that was asked for is known, and nothing speaks against the merge. -/
structure Safe (runtime : Runtime Number) (env : Environment) (queries : Queries) (horizon : Horizon) : Prop where
  disputes : ReportsNone queries.activeDisputes
  pending : ReportsNone queries.pendingTransactions
  balance : ∃ rows, queries.nativeBalance = .ok rows ∧
    ∀ row, rows.head? = some row → isOver runtime (manualReviewThreshold env) row = false
  recent : ReportsNone queries.recentDisputes
  compliance : ReportsNone queries.complianceFlag
  account : ∃ account, horizon.loadAccount = .ok account ∧ Emptied runtime account
  inactive : ∃ records, horizon.transactions = .ok records ∧ ∀ record, records.head? = some record →
    ∃ date limit, record = some date ∧ cutoff runtime env horizon = some limit ∧ date ≤ limit

/-- An answer speaks against the merge. -/
inductive Objection (runtime : Runtime Number) (env : Environment) (queries : Queries) (horizon : Horizon) : Prop where
  | disputes (some : found queries.activeDisputes = true)
  | pending (some : found queries.pendingTransactions = true)
  | review (reasons : checkManualReviewRequired runtime env queries ≠ [])
  | account (empty : ∀ account, horizon.loadAccount = .ok account → ¬Emptied runtime account)
  | active (records : List (Option ℤ)) (called : horizon.transactions = .ok records) (record : Option ℤ)
      (latest : records.head? = some record) (late : isAfter record (cutoff runtime env horizon) = true)

/-- Every query succeeds, and so does the call for the last activity, with a date where there is one. -/
structure Known (runtime : Runtime Number) (env : Environment) (queries : Queries) (horizon : Horizon) : Prop where
  disputes : (reported queries.activeDisputes).isSome = true
  pending : (reported queries.pendingTransactions).isSome = true
  balance : ∃ rows, queries.nativeBalance = .ok rows
  recent : (reported queries.recentDisputes).isSome = true
  compliance : (reported queries.complianceFlag).isSome = true
  activity : ∃ records, horizon.transactions = .ok records ∧ ∀ record, records.head? = some record →
    record.isSome = true ∧ (cutoff runtime env horizon).isSome = true

theorem reportsNone_iff {answer : Except String (List String)} :
    ReportsNone answer ↔ (reported answer).isSome = true ∧ found answer = false := by
  unfold ReportsNone found
  cases reported answer with
  | none | some count => simp

theorem exists_of_reported {answer : Except String (List String)} (known : (reported answer).isSome = true) :
    ∃ count rest, answer = .ok (count :: rest) := by
  unfold reported at known
  split at known
  · simp
  · cases known

omit [Zero Number] in
theorem balanceReasons_eq_nil_iff {threshold : String} {rows : List (Option String)} :
    balanceReasons runtime threshold rows = [] ↔ ∀ row, rows.head? = some row → isOver runtime threshold row = false := by
  cases rows with
  | nil | cons row rest => simp [balanceReasons]

omit [Zero Number] in
theorem checkManualReviewRequired_eq_nil_iff {rows : List (Option String)} (balance : queries.nativeBalance = .ok rows)
    (recent : (reported queries.recentDisputes).isSome = true)
    (compliance : (reported queries.complianceFlag).isSome = true) :
    checkManualReviewRequired runtime env queries = [] ↔
      (∀ row, rows.head? = some row → isOver runtime (manualReviewThreshold env) row = false) ∧
        found queries.recentDisputes = false ∧ found queries.complianceFlag = false := by
  obtain ⟨disputes, _, first⟩ := exists_of_reported recent
  obtain ⟨alerts, _, second⟩ := exists_of_reported compliance
  simp only [checkManualReviewRequired, balance, first, second, List.append_eq_nil_iff, and_assoc,
    balanceReasons_eq_nil_iff]
  simp

theorem not_isAfter_iff {date limit : Option ℤ} (dated : date.isSome = true) (limited : limit.isSome = true) :
    isAfter date limit = false ↔ ∃ day last, date = some day ∧ limit = some last ∧ day ≤ last := by
  obtain ⟨day, rfl⟩ := Option.isSome_iff_exists.mp dated
  obtain ⟨last, rfl⟩ := Option.isSome_iff_exists.mp limited
  simp [isAfter]

omit [ToString Number] in
theorem Safe.known (safe : Safe runtime env queries horizon) : Known runtime env queries horizon := by
  constructor
  · exact ((reportsNone_iff).mp safe.disputes).1
  · exact ((reportsNone_iff).mp safe.pending).1
  · obtain ⟨rows, answered, _⟩ := safe.balance
    exact ⟨rows, answered⟩
  · exact ((reportsNone_iff).mp safe.recent).1
  · exact ((reportsNone_iff).mp safe.compliance).1
  · obtain ⟨records, called, every⟩ := safe.inactive
    refine ⟨records, called, ?_⟩
    intro record latest
    obtain ⟨date, limit, rfl, limited, _⟩ := every record latest
    rw [limited]
    exact ⟨rfl, rfl⟩

omit [Zero Number] in
theorem eligible_iff : (runMergeSafetyChecks runtime env queries).eligible = true ↔
    found queries.activeDisputes = false ∧ found queries.pendingTransactions = false ∧
      checkManualReviewRequired runtime env queries = [] := by
  simp [runMergeSafetyChecks, checkActiveDisputes, checkPendingTransactions, check, and_assoc]

theorem Objection.eligible (clear : ¬Objection runtime env queries horizon) :
    (runMergeSafetyChecks runtime env queries).eligible = true := by
  rw [eligible_iff]
  refine ⟨?_, ?_, ?_⟩
  · exact Bool.eq_false_iff.mpr fun some => clear (.disputes some)
  · exact Bool.eq_false_iff.mpr fun some => clear (.pending some)
  · by_contra reasons
    exact clear (.review reasons)

theorem Objection.emptied (clear : ¬Objection runtime env queries horizon) :
    ∃ account, horizon.loadAccount = .ok account ∧ Emptied runtime account := by
  by_contra none
  apply clear
  apply Objection.account
  intro account loaded emptied
  exact none ⟨account, loaded, emptied⟩

theorem safe_of_known (known : Known runtime env queries horizon) (clear : ¬Objection runtime env queries horizon) :
    Safe runtime env queries horizon := by
  obtain ⟨rows, answered⟩ := known.balance
  obtain ⟨disputes, pending, quiet⟩ := (eligible_iff).mp (Objection.eligible clear)
  rw [checkManualReviewRequired_eq_nil_iff answered known.recent known.compliance] at quiet
  obtain ⟨balance, recent, compliance⟩ := quiet
  constructor
  · exact (reportsNone_iff).mpr ⟨known.disputes, disputes⟩
  · exact (reportsNone_iff).mpr ⟨known.pending, pending⟩
  · exact ⟨rows, answered, balance⟩
  · exact (reportsNone_iff).mpr ⟨known.recent, recent⟩
  · exact (reportsNone_iff).mpr ⟨known.compliance, compliance⟩
  · exact Objection.emptied clear
  · obtain ⟨records, called, every⟩ := known.activity
    refine ⟨records, called, ?_⟩
    intro record latest
    obtain ⟨dated, limited⟩ := every record latest
    rw [← not_isAfter_iff dated limited]
    exact Bool.eq_false_iff.mpr fun late => clear (.active records called record latest late)

/-- Nothing but the answers about the account keeps the run from merging it. -/
structure Attempted (runtime : Runtime Number) (env : Environment) (secret address : String) : Prop where
  configured : secret ∈ parseAuxiliaryAccountSecrets env.auxiliaryAccountSecrets
  valid : ∀ other ∈ parseAuxiliaryAccountSecrets env.auxiliaryAccountSecrets, ∃ publicKey, runtime.fromSecret other = .ok publicKey
  destination : ∃ destination, resolveMergeDestinationPublicKey runtime env.accountMergeDestination env.issuerSecret =
    .ok (some destination) ∧ address ≠ destination
  earnest : env.dryRun ≠ some "true"

/-- The run puts a job on the queue for the secret, and an attempt of the worker at it submits a merge. -/
def Merged (runtime : Runtime Number) (env : Environment) (answers : String → Queries) (secret : String)
    (horizon : Horizon) : Prop :=
  ∃ jobs job, runAccountMergeJob runtime env answers = .ok jobs ∧ job ∈ jobs ∧ job.sourceSecret = secret ∧
    (accountMergeWorker runtime job horizon).merge.isSome = true

def jobOf (env : Environment) (secret destination : String) : AccountMergeJobData :=
  ⟨secret, destination, days env, env.dryRun = some "true"⟩

omit [Zero Number] in
theorem qualifiedJobs_eq_ok_iff {secrets : List String} :
    (∃ jobs, qualifiedJobs runtime env answers destination secrets = .ok jobs) ↔
      ∀ secret ∈ secrets, ∃ publicKey, runtime.fromSecret secret = .ok publicKey := by
  induction secrets with
  | nil => simp [qualifiedJobs]
  | cons secret rest ih =>
    rw [List.forall_mem_cons, ← ih, qualifiedJobs]
    cases runtime.fromSecret secret with
    | error message => simp
    | ok publicKey =>
      constructor
      · intro ⟨jobs, done⟩
        refine ⟨⟨publicKey, rfl⟩, ?_⟩
        cases others : qualifiedJobs runtime env answers destination rest with
        | error message => simp [others, Except.map] at done
        | ok jobs => exact ⟨jobs, rfl⟩
      · intro ⟨_, jobs, others⟩
        exact ⟨_, by rw [others]; rfl⟩

omit [Zero Number] in
theorem mem_qualifiedJobs {secrets : List String} (enabled : env.skipSafetyChecks ≠ some "true")
    (done : qualifiedJobs runtime env answers destination secrets = .ok jobs) :
    job ∈ jobs ↔ ∃ secret ∈ secrets, ∃ publicKey, runtime.fromSecret secret = .ok publicKey ∧
      (runMergeSafetyChecks runtime env (answers publicKey)).eligible = true ∧ job = jobOf env secret destination := by
  induction secrets generalizing jobs with
  | nil =>
    cases done
    simp
  | cons secret rest ih =>
    rw [qualifiedJobs] at done
    cases key : runtime.fromSecret secret with
    | error message => simp [key] at done
    | ok publicKey =>
      cases others : qualifiedJobs runtime env answers destination rest with
      | error message => simp [key, others, Except.map] at done
      | ok later =>
        rw [key, others] at done
        simp only [Except.map, Except.ok.injEq, enabled, decide_false, Bool.false_or] at done
        by_cases eligible : (runMergeSafetyChecks runtime env (answers publicKey)).eligible = true
        · rw [if_pos eligible] at done
          subst done
          rw [List.mem_cons, ih others]
          simp [key, eligible, jobOf]
        · simp_all

omit [LinearOrder Number] [Zero Number] [ToString Number] in
theorem evaluate_eligible_iff {candidate : AccountMergeCandidate} {inactivityDays : Option ℤ} {now : ℤ} :
    (∃ evaluation, evaluateAccountMergeCandidate runtime candidate inactivityDays now = .ok evaluation ∧
      evaluation.eligible = true) ↔
      (∃ stroops, xlmToStroops candidate.nativeBalance = some stroops ∧ runtime.baseFee < stroops) ∧
        candidate.subentryCount = 0 ∧ candidate.hasNonNativeBalances = false ∧
        candidate.lastActivityAt.any (fun date => isAfter date (inactivityCutoff runtime inactivityDays now)) = false := by
  unfold evaluateAccountMergeCandidate
  cases xlmToStroops candidate.nativeBalance with
  | none => simp
  | some stroops =>
    by_cases poor : stroops ≤ runtime.baseFee
    · simp_all
    · have rich : runtime.baseFee < stroops := Nat.not_le.mp poor
      by_cases more : 0 < candidate.subentryCount
      · grind
      · have none : candidate.subentryCount = 0 := Nat.eq_zero_of_not_pos more
        cases assets : candidate.hasNonNativeBalances with
        | true => simp [poor, none]
        | false =>
          cases active : candidate.lastActivityAt.any
              fun date => isAfter date (inactivityCutoff runtime inactivityDays now) with
          | true => simp [poor, none]
          | false => simp [poor, rich, none]

omit [ToString Number] in
theorem candidate_eligible_iff : (∃ evaluation, evaluateAccountMergeCandidate runtime (candidate runtime horizon account)
      (days env) horizon.now = .ok evaluation ∧ evaluation.eligible = true) ↔
    Emptied runtime account ∧
      (fetchLastActivityAt horizon).any (fun date => isAfter date (cutoff runtime env horizon)) = false := by
  rw [evaluate_eligible_iff]
  constructor
  · intro ⟨balance, subentries, assets, inactive⟩
    exact ⟨⟨subentries, assets, balance⟩, inactive⟩
  · intro ⟨emptied, inactive⟩
    exact ⟨emptied.balance, emptied.subentries, emptied.assets, inactive⟩

omit [ToString Number] in
theorem merge_isSome_iff (key : runtime.fromSecret secret = .ok address) :
    (accountMergeWorker runtime (jobOf env secret destination) horizon).merge.isSome = true ↔
      address ≠ destination ∧ env.dryRun ≠ some "true" ∧ ∃ account, horizon.loadAccount = .ok account ∧
        Emptied runtime account ∧
        (fetchLastActivityAt horizon).any (fun date => isAfter date (cutoff runtime env horizon)) = false := by
  simp only [accountMergeWorker, jobOf, key, ← candidate_eligible_iff]
  by_cases same : address = destination
  · simp [same]
  · grind

omit [LinearOrder Number] [Zero Number] [ToString Number] in
theorem resolved_of_run [LinearOrder Number] [ToString Number] (done : runAccountMergeJob runtime env answers = .ok jobs) (member : job ∈ jobs) :
    ∃ destination, resolveMergeDestinationPublicKey runtime env.accountMergeDestination env.issuerSecret =
      .ok (some destination) ∧
      qualifiedJobs runtime env answers destination (parseAuxiliaryAccountSecrets env.auxiliaryAccountSecrets) = .ok jobs := by
  unfold runAccountMergeJob at done
  simp only at done
  split at done
  · cases done
    cases member
  · grind

theorem Objection.inactive (clear : ¬Objection runtime env queries horizon) :
    (fetchLastActivityAt horizon).any (fun date => isAfter date (cutoff runtime env horizon)) = false := by
  unfold fetchLastActivityAt
  cases called : horizon.transactions with
  | error error => rfl
  | ok records =>
    show records.head?.any _ = false
    cases latest : records.head? with
    | none => rfl
    | some record => exact Bool.eq_false_iff.mpr fun late => clear (.active records called record latest late)

theorem merged_iff (enabled : env.skipSafetyChecks ≠ some "true") (key : runtime.fromSecret secret = .ok address) :
    Merged runtime env answers secret horizon ↔
      Attempted runtime env secret address ∧ ¬Objection runtime env (answers address) horizon := by
  constructor
  · intro ⟨jobs, job, done, member, source, merged⟩
    obtain ⟨destination, resolved, qualified⟩ := resolved_of_run done member
    obtain ⟨other, configured, publicKey, known, eligible, rfl⟩ := (mem_qualifiedJobs enabled qualified).mp member
    cases source
    cases key.symm.trans known
    obtain ⟨different, earnest, account, loaded, emptied, inactive⟩ := (merge_isSome_iff key).mp merged
    constructor
    · exact ⟨configured, (qualifiedJobs_eq_ok_iff).mp ⟨jobs, qualified⟩, ⟨destination, resolved, different⟩, earnest⟩
    · obtain ⟨disputes, pending, review⟩ := (eligible_iff).mp eligible
      intro objection
      cases objection with
      | disputes some | pending some => simp_all
      | review reasons => exact reasons review
      | account empty => exact empty account loaded emptied
      | active records called record latest late => simp_all [fetchLastActivityAt, Option.any_some]
  · intro ⟨attempted, clear⟩
    obtain ⟨destination, resolved, different⟩ := attempted.destination
    obtain ⟨account, loaded, emptied⟩ := Objection.emptied clear
    have every : ∃ jobs, qualifiedJobs runtime env answers destination
        (parseAuxiliaryAccountSecrets env.auxiliaryAccountSecrets) = .ok jobs := (qualifiedJobs_eq_ok_iff).mpr attempted.valid
    obtain ⟨jobs, qualified⟩ := every
    refine ⟨jobs, jobOf env secret destination, ?_, ?_, rfl, ?_⟩
    · have some : parseAuxiliaryAccountSecrets env.auxiliaryAccountSecrets ≠ [] := List.ne_nil_of_mem attempted.configured
      simp only [runAccountMergeJob, if_neg some, resolved]
      exact qualified
    · rw [mem_qualifiedJobs enabled qualified]
      exact ⟨secret, attempted.configured, address, key, Objection.eligible clear, rfl⟩
    · rw [merge_isSome_iff key]
      exact ⟨different, attempted.earnest, account, loaded, emptied, Objection.inactive clear⟩

/-- Only accounts that are known to be safe are merged exactly where an account that the run comes to has an answer against
its merge or every answer. -/
theorem merged_only_safe_iff (runtime : Runtime Number) (env : Environment) (answers : String → Queries)
    (secret address : String) (horizon : Horizon) (enabled : env.skipSafetyChecks ≠ some "true")
    (key : runtime.fromSecret secret = .ok address) :
    (Merged runtime env answers secret horizon → Safe runtime env (answers address) horizon) ↔
      (Attempted runtime env secret address →
        Objection runtime env (answers address) horizon ∨ Known runtime env (answers address) horizon) := by
  rw [merged_iff enabled key]
  constructor
  · intro only attempted
    by_cases objection : Objection runtime env (answers address) horizon
    · exact .inl objection
    · exact .inr (only ⟨attempted, objection⟩).known
  · intro every ⟨attempted, clear⟩
    cases every attempted with
    | inl objection => exact absurd objection clear
    | inr known => exact safe_of_known known clear

theorem merged_of_submitted (merge : String × String)
    (submitted : (runAccountMergeJob runtime env answers).toOption.map (fun jobs =>
      jobs.map fun job => (job.sourceSecret, (accountMergeWorker runtime job horizon).merge)) = some [(secret, some merge)]) :
    Merged runtime env answers secret horizon := by
  obtain ⟨jobs, done, pairs⟩ := Option.map_eq_some_iff.mp submitted
  obtain ⟨job, rfl, pair⟩ := List.map_eq_singleton_iff.mp pairs
  obtain ⟨source, merge⟩ := Prod.mk.inj pair
  refine ⟨[job], job, ?_, List.mem_singleton_self job, source, ?_⟩
  · cases result : runAccountMergeJob runtime env answers with
    | error message => simp [result, Except.toOption] at done
    | ok jobs => simpa [result, Except.toOption] using done
  · rw [merge]
    rfl

def runtimeSample : Runtime ℚ where
  parseFloat text := if text = "2.0000000" then some 2 else if text = "100" then some 100 else none
  fromSecret secret := if secret = "SA" then .ok "GA" else .error "invalid encoded string"
  isValidEd25519PublicKey key := key = "GD"
  setDate now days := some (now - days * 86400000)
  baseFee := 100

def environmentSample : Environment where
  auxiliaryAccountSecrets := some "SA"
  accountMergeDestination := some "GD"
  issuerSecret := none
  inactivityDays := some "30"
  dryRun := none
  skipSafetyChecks := none
  manualReviewThreshold := none

def quiet : Queries where
  activeDisputes := .ok ["0"]
  pendingTransactions := .ok ["0"]
  nativeBalance := .ok [some "2.0000000"]
  recentDisputes := .ok ["0"]
  complianceFlag := .ok ["0"]

/-- The last transaction of the account is forty days old. -/
def horizonSample : Horizon where
  loadAccount := .ok ⟨[⟨"native", "2.0000000"⟩], 0⟩
  transactions := .ok [some 0]
  now := 40 * 86400000
  submitTransaction := .ok "hash"

theorem quiet_merged_safe : Merged runtimeSample environmentSample (fun _ => quiet) "SA" horizonSample ∧
    Safe runtimeSample environmentSample quiet horizonSample := by
  have merged : Merged runtimeSample environmentSample (fun _ => quiet) "SA" horizonSample :=
    merged_of_submitted ("GA", "GD") (by decide)
  have known : Known runtimeSample environmentSample quiet horizonSample := by
    constructor
    · decide
    · decide
    · exact ⟨_, rfl⟩
    · decide
    · decide
    · refine ⟨[some 0], rfl, ?_⟩
      intro record latest
      cases latest
      exact ⟨rfl, by decide⟩
  refine ⟨merged, ?_⟩
  apply (merged_only_safe_iff runtimeSample environmentSample (fun _ => quiet) "SA" "GA" horizonSample
    (by decide) rfl).mpr _ merged
  intro _
  exact .inr known

/-- The query for active disputes fails. -/
def unanswered : Queries :=
  { quiet with activeDisputes := .error "Connection terminated unexpectedly" }

theorem unanswered_merged : ¬∀ (runtime : Runtime ℚ) (env : Environment) (answers : String → Queries)
    (secret address : String) (horizon : Horizon), env.skipSafetyChecks ≠ some "true" →
    runtime.fromSecret secret = .ok address → Merged runtime env answers secret horizon →
    Safe runtime env (answers address) horizon := by
  intro always
  have merged : Merged runtimeSample environmentSample (fun _ => unanswered) "SA" horizonSample :=
    merged_of_submitted ("GA", "GD") (by decide)
  have safe := always runtimeSample environmentSample (fun _ => unanswered) "SA" "GA" horizonSample (by decide) rfl merged
  obtain ⟨_, _, impossible⟩ := safe.disputes
  cases impossible

end ProxyPay.AccountMerge
