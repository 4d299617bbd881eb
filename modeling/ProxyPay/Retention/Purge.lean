import Mathlib

/-! Retention policies: what a purge may take. -/

namespace ProxyPay.Retention

inductive RetentionDataType
  | transactions
  | logs
  | pii
  deriving DecidableEq

structure RetentionPolicy where
  dataType : RetentionDataType
  retentionDays : ℕ
  enabled : Bool

/-- A row of `transactions`; times are in milliseconds. -/
structure Transaction where
  id : String
  status : String
  createdAt : Option ℚ

structure AuditLog where
  id : String
  createdAt : Option ℚ

/-- A row of `users`; `personal` are the five columns that are stripped. -/
structure User where
  id : String
  isActive : Bool
  deactivatedAt : Option ℚ
  personal : List (Option String)

structure LegalHold where
  dataType : RetentionDataType
  subjectRef : Option String
  active : Bool

structure RetentionCategory where
  dataType : RetentionDataType
  mandatory : Bool

structure Database where
  transactions : List Transaction
  auditLogs : List AuditLog
  users : List User
  legalHolds : List LegalHold
  categories : List RetentionCategory
  policies : List RetentionPolicy

/-- `column < $1`, where a missing value is not less. -/
def before (column : Option ℚ) (cutoff : ℚ) : Bool := column.any (· < cutoff)

def Transaction.due (cutoff : ℚ) (row : Transaction) : Bool :=
  ["completed", "failed", "cancelled"].contains row.status && before row.createdAt cutoff

def AuditLog.due (cutoff : ℚ) (row : AuditLog) : Bool := before row.createdAt cutoff

def User.due (cutoff : ℚ) (row : User) : Bool :=
  !row.isActive && before row.deactivatedAt cutoff && row.personal.any Option.isSome

def User.strip (row : User) : User := { row with personal := row.personal.map fun _ => none }

/-- A hold of the type covers the row, or the type has a mandatory category. -/
def Database.held (db : Database) (dataType : RetentionDataType) (id : String) : Bool :=
  (db.legalHolds.any fun hold => hold.dataType = dataType && hold.active && (hold.subjectRef.isNone || hold.subjectRef = some id)) ||
    db.categories.any fun category => category.dataType = dataType && category.mandatory

def purgeDataType (db : Database) (dataType : RetentionDataType) (cutoff : ℚ) : Database × ℕ :=
  match dataType with
  | .transactions =>
    let taken := fun row : Transaction => row.due cutoff && !db.held .transactions row.id
    ({ db with transactions := db.transactions.filter (!taken ·) }, db.transactions.countP taken)
  | .logs =>
    let taken := fun row : AuditLog => row.due cutoff && !db.held .logs row.id
    ({ db with auditLogs := db.auditLogs.filter (!taken ·) }, db.auditLogs.countP taken)
  | .pii =>
    let taken := fun row : User => row.due cutoff && !db.held .pii row.id
    ({ db with users := db.users.map fun row => if taken row then row.strip else row }, db.users.countP taken)

/-- The ids of the rows of which a count says whether they are held. -/
def Database.due (db : Database) (dataType : RetentionDataType) (cutoff : ℚ) : List String :=
  match dataType with
  | .transactions => (db.transactions.filter (·.due cutoff)).map Transaction.id
  | .logs => (db.auditLogs.filter (·.due cutoff)).map AuditLog.id
  | .pii => (db.users.filter (·.due cutoff)).map User.id

/-- How many of them are not held, and how many are. -/
def countEligible (db : Database) (dataType : RetentionDataType) (cutoff : ℚ) : ℕ × ℕ :=
  ((db.due dataType cutoff).countP (!db.held dataType ·), (db.due dataType cutoff).countP (db.held dataType))

/-- What a run meets: its clock and environment variables, which of its queries fail (a purge may fail after it took
effect), and what others do to the database before the queries. -/
structure Environment where
  now : RetentionDataType → ℚ
  configured : RetentionDataType → Option ℤ
  policiesFail : Bool
  countFails : RetentionDataType → Bool
  purgeFails : RetentionDataType → Option Bool
  beforeCount : RetentionDataType → Database → Database
  beforePurge : RetentionDataType → Database → Database

variable (environment : Environment)

def defaultRetentionDays : RetentionDataType → ℕ
  | .transactions | .pii => 2555
  | .logs => 365

def defaultPolicy (dataType : RetentionDataType) : RetentionPolicy where
  dataType := dataType
  retentionDays := match environment.configured dataType with
    | some days => if days > 0 then days.toNat else defaultRetentionDays dataType
    | none => defaultRetentionDays dataType
  enabled := true

def getPolicies (db : Database) : List RetentionPolicy :=
  let defaults := [RetentionDataType.transactions, .logs, .pii].map (defaultPolicy environment)
  if environment.policiesFail then defaults
  else defaults.map fun policy => (db.policies.find? (·.dataType = policy.dataType)).getD policy

inductive Outcome
  | success
  | failed
  | skipped
  deriving DecidableEq

structure PurgeResult where
  dataType : RetentionDataType
  recordsAffected : ℕ
  recordsEligible : ℕ
  recordsHeld : ℕ
  outcome : Outcome

/-- A purge that took effect: its policy and the database on both sides of it. -/
structure Purge where
  policy : RetentionPolicy
  cutoff : ℚ
  found : Database
  left : Database

/-- A run midway: the database, the results and the purges so far. -/
structure Run where
  db : Database
  results : List PurgeResult
  purges : List Purge

def cutoffFor (policy : RetentionPolicy) : ℚ :=
  environment.now policy.dataType - policy.retentionDays * 24 * 60 * 60 * 1000

/-- The body of the loop. -/
def enforce (run : Run) (policy : RetentionPolicy) : Run :=
  let dataType := policy.dataType
  let cutoff := cutoffFor environment policy
  if !policy.enabled then { run with results := run.results ++ [⟨dataType, 0, 0, 0, .skipped⟩] }
  else
    let counted := environment.beforeCount dataType run.db
    if environment.countFails dataType then ⟨counted, run.results ++ [⟨dataType, 0, 0, 0, .failed⟩], run.purges⟩
    else
      let (eligible, held) := countEligible counted dataType cutoff
      let found := environment.beforePurge dataType counted
      let (left, affected) := purgeDataType found dataType cutoff
      let purge := ⟨policy, cutoff, found, left⟩
      match environment.purgeFails dataType with
      | none => ⟨left, run.results ++ [⟨dataType, affected, eligible, held, .success⟩], run.purges ++ [purge]⟩
      | some true => ⟨left, run.results ++ [⟨dataType, 0, 0, 0, .failed⟩], run.purges ++ [purge]⟩
      | some false => ⟨found, run.results ++ [⟨dataType, 0, 0, 0, .failed⟩], run.purges⟩

def enforceAll (db : Database) : Run := (getPolicies environment db).foldl (enforce environment) ⟨db, [], []⟩

/-! What a purge takes, and what it leaves. -/

/-- The policy is enabled, and what is deleted or stripped is of its type, older than its retention and not held. -/
structure Purge.Lawful (purge : Purge) : Prop where
  enabled : purge.policy.enabled = true
  cutoff : purge.cutoff = cutoffFor environment purge.policy
  transactions : ∀ row ∈ purge.found.transactions, row ∈ purge.left.transactions ∨ purge.policy.dataType = .transactions ∧
    row.due purge.cutoff = true ∧ purge.found.held .transactions row.id = false
  logs : ∀ row ∈ purge.found.auditLogs, row ∈ purge.left.auditLogs ∨ purge.policy.dataType = .logs ∧
    row.due purge.cutoff = true ∧ purge.found.held .logs row.id = false
  users : ∀ row ∈ purge.found.users, row ∈ purge.left.users ∨ purge.policy.dataType = .pii ∧
    row.due purge.cutoff = true ∧ purge.found.held .pii row.id = false

/-- No query fails, and nobody else changes the database. -/
structure Environment.Quiet : Prop where
  read : environment.policiesFail = false
  counts : ∀ dataType, environment.countFails dataType = false
  purges : ∀ dataType, environment.purgeFails dataType = none
  alone : ∀ dataType db, environment.beforeCount dataType db = db ∧ environment.beforePurge dataType db = db

/-- How many records a policy would take. -/
def pending (db : Database) (policy : RetentionPolicy) : ℕ :=
  (purgeDataType db policy.dataType (cutoffFor environment policy)).2

/-- A run without failures: what it affects was eligible, and was pending before it; afterwards nothing is. -/
structure Enforced (policies : List RetentionPolicy) (run after : Run) : Prop where
  stored : after.db.policies = run.db.policies
  results : ∃ more, after.results = run.results ++ more ∧ ∀ result ∈ more, result.recordsAffected = result.recordsEligible ∧
    (result.recordsAffected = 0 ∨ ∃ policy ∈ policies, policy.enabled = true ∧
      result.recordsAffected ≤ pending environment run.db policy)
  less : ∀ policy, pending environment after.db policy ≤ pending environment run.db policy
  none_left : ∀ policy ∈ policies, policy.enabled = true → pending environment after.db policy = 0

section

variable {environment} {db : Database} {dataType : RetentionDataType} {cutoff : ℚ} {policy : RetentionPolicy}

theorem purgeDataType_lawful (enabled : policy.enabled = true) : Purge.Lawful environment
    ⟨policy, cutoffFor environment policy, db, (purgeDataType db policy.dataType (cutoffFor environment policy)).1⟩ := by
  refine ⟨enabled, rfl, ?_, ?_, ?_⟩
  all_goals
    intro row member
    cases same : policy.dataType
    all_goals simp only [purgeDataType, List.mem_filter, List.mem_map]
    all_goals grind

theorem purgeDataType_count (db : Database) (dataType : RetentionDataType) (cutoff : ℚ) :
    (purgeDataType db dataType cutoff).2 = (countEligible db dataType cutoff).1 := by
  cases dataType <;>
  simp [purgeDataType, countEligible, Database.due, List.countP_map, List.countP_filter, Function.comp_def, Bool.and_comm]

theorem User.due_strip (row : User) : row.strip.due cutoff = false := by
  simp [User.due, User.strip]

theorem purgeDataType_twice : (purgeDataType (purgeDataType db dataType cutoff).1 dataType cutoff).2 = 0 := by
  have spared {Row : Type} (rows : List Row) (taken : Row → Bool) : (rows.filter (!taken ·)).countP taken = 0 := by
    simp [List.countP_filter]
  cases dataType with
  | transactions => exact spared _ _
  | logs => exact spared _ _
  | pii =>
    simp only [purgeDataType, List.countP_eq_zero, List.mem_map]
    rintro _ ⟨row, member, rfl⟩
    split
    · simp [User.due_strip]
    · assumption

theorem purgeDataType_le (other : RetentionDataType) (later : ℚ) :
    (purgeDataType (purgeDataType db dataType cutoff).1 other later).2 ≤ (purgeDataType db other later).2 := by
  cases dataType with
  | transactions =>
    cases other with
    | transactions => exact List.filter_sublist.countP_le
    | logs | pii => exact le_rfl
  | logs =>
    cases other with
    | logs => exact List.filter_sublist.countP_le
    | transactions | pii => exact le_rfl
  | pii =>
    cases other with
    | transactions | logs => exact le_rfl
    | pii =>
      simp only [purgeDataType, List.countP_map]
      apply List.countP_mono_left
      intro row _ left
      simp only [Function.comp_apply] at left
      split at left
      · simp [User.due_strip] at left
      · exact left

variable {run : Run}

theorem enforce_quiet (quiet : environment.Quiet) : Enforced environment [policy] run (enforce environment run policy) := by
  cases enabled : policy.enabled with
  | true =>
    have stepped : enforce environment run policy = ⟨(purgeDataType run.db policy.dataType (cutoffFor environment policy)).1,
        run.results ++ [⟨policy.dataType, pending environment run.db policy, pending environment run.db policy,
          (countEligible run.db policy.dataType (cutoffFor environment policy)).2, .success⟩],
        run.purges ++ [⟨policy, cutoffFor environment policy, run.db,
          (purgeDataType run.db policy.dataType (cutoffFor environment policy)).1⟩]⟩ := by
      simp [enforce, pending, enabled, quiet.counts, quiet.purges, quiet.alone, purgeDataType_count]
    rw [stepped]
    refine ⟨?_, ⟨_, rfl, by simp [enabled]⟩, fun _ => purgeDataType_le _ _, ?_⟩
    · cases policy.dataType <;> rfl
    · simp [pending, purgeDataType_twice]
  | false =>
    have stepped : enforce environment run policy =
        { run with results := run.results ++ [⟨policy.dataType, 0, 0, 0, .skipped⟩] } := by
      simp [enforce, enabled]
    rw [stepped]
    exact ⟨rfl, ⟨_, rfl, by simp⟩, fun _ => le_rfl, by simp [enabled]⟩

theorem foldl_quiet (quiet : environment.Quiet) (policies : List RetentionPolicy) :
    Enforced environment policies run (policies.foldl (enforce environment) run) := by
  induction policies generalizing run with
  | nil => exact ⟨rfl, ⟨[], by simp⟩, fun _ => le_rfl, nofun⟩
  | cons policy rest ih =>
    have first : Enforced environment [policy] run (enforce environment run policy) := enforce_quiet quiet
    have onward : Enforced environment rest (enforce environment run policy) _ := ih
    obtain ⟨now, same, balanced⟩ := first.results
    obtain ⟨later, also, balanced_later⟩ := onward.results
    refine ⟨onward.stored.trans first.stored, ⟨now ++ later, by rw [← List.append_assoc, ← same]; exact also, ?_⟩,
      fun other => (onward.less other).trans (first.less other), ?_⟩
    · refine List.forall_mem_append.mpr ⟨fun result member => ?_, fun result member => ?_⟩
      · obtain ⟨equal, few⟩ := balanced result member
        exact ⟨equal, few.imp_right fun ⟨other, listed, more⟩ => ⟨other, by simp_all, more⟩⟩
      · obtain ⟨equal, few⟩ := balanced_later result member
        exact ⟨equal, few.imp_right fun ⟨other, listed, enabled, most⟩ =>
          ⟨other, List.mem_cons_of_mem _ listed, enabled, most.trans (first.less other)⟩⟩
    · intro other listed enabled
      rcases List.mem_cons.mp listed with rfl | later
      · exact Nat.le_zero.mp ((onward.less other).trans (first.none_left other List.mem_cons_self enabled).le)
      · exact onward.none_left other later enabled

theorem enforce_lawful : ∀ purge ∈ (enforce environment run policy).purges,
    purge ∈ run.purges ∨ purge.policy = policy ∧ Purge.Lawful environment purge := by
  intro purge member
  unfold enforce at member
  split at member
  · exact .inl member
  · rename_i enabled
    have taken (found : Database) (member : purge ∈ run.purges ++ [⟨policy, cutoffFor environment policy, found,
        (purgeDataType found policy.dataType (cutoffFor environment policy)).1⟩]) :
        purge ∈ run.purges ∨ purge.policy = policy ∧ Purge.Lawful environment purge := by
      rcases List.mem_append.mp member with before | now
      · exact .inl before
      · obtain rfl := List.mem_singleton.mp now
        exact .inr ⟨rfl, purgeDataType_lawful (by simpa using enabled)⟩
    dsimp only at member
    split at member
    · exact .inl member
    · split at member
      · exact taken _ member
      · exact taken _ member
      · exact .inl member

theorem foldl_lawful (policies : List RetentionPolicy) : ∀ purge ∈ (policies.foldl (enforce environment) run).purges,
    purge ∈ run.purges ∨ purge.policy ∈ policies ∧ Purge.Lawful environment purge := by
  induction policies generalizing run with
  | nil => exact fun _ => .inl
  | cons policy rest ih =>
    intro purge member
    rcases ih purge member with earlier | ⟨listed, lawful⟩
    · rcases enforce_lawful purge earlier with before | ⟨rfl, lawful⟩
      · exact .inl before
      · exact .inr ⟨List.mem_cons_self, lawful⟩
    · exact .inr ⟨List.mem_cons_of_mem _ listed, lawful⟩

end

/-- The policies cannot be read. -/
def unread : Environment where
  now _ := 300000000000
  configured _ := none
  policiesFail := true
  countFails _ := false
  purgeFails _ := none
  beforeCount _ db := db
  beforePurge _ db := db

end ProxyPay.Retention
