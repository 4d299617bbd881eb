import ProxyPay.Library.Exclusive
import ProxyPay.Library.Transition

/-! The pool of channel accounts: the rows of the table, which statements change one at a
time, and in memory the queue of waiting callers and the leases that were handed out. -/

namespace ProxyPay.Channels

open ProxyPay.Library

abbrev AccountId := String

inductive ChannelAccountStatus where
  | idle
  | busy
  | disabled
  | funding
  deriving DecidableEq

/-- A row of `channel_accounts`; the table is keyed by the id. Times are in milliseconds. -/
structure ChannelAccountRow where
  publicKey : String
  status : ChannelAccountStatus
  sequence : Int
  errorCount : Nat
  lockedAt : Option Nat
  disabledAt : Option Nat
  lastUsedAt : Option Nat
  deriving DecidableEq

structure PoolConfig where
  lockTimeoutMs : Nat
  maxConsecutiveErrors : Nat
  disableRecoveryMs : Nat
  maxQueueSize : Nat
  queueTimeoutMs : Nat

def PoolConfig.default : PoolConfig where
  lockTimeoutMs := 30000
  maxConsecutiveErrors := 5
  disableRecoveryMs := 60000
  maxQueueSize := 100
  queueTimeoutMs := 10000

/-- Who ran the `UPDATE` that made a row busy. -/
inductive Origin where
  | acquire
  | processQueue
  deriving DecidableEq

/-- What became of a row that was made busy. -/
inductive Phase where
  /-- the answer of the `UPDATE` is under way -/
  | acquired
  /-- a caller has the lease and has not released it -/
  | leased
  /-- the lease was released, and the `UPDATE` of the release is under way -/
  | releasing (success : Bool) (newSequence : Option Int)
  | released
  /-- the `UPDATE` of the release has failed -/
  | unreleased
  /-- nobody was waiting, and the `UPDATE` that gives the row back is under way -/
  | returning
  | returned
  /-- the answer was lost, or an exception came before anybody had the lease -/
  | stranded
  deriving DecidableEq

structure Hold where
  account : AccountId
  since : Nat
  origin : Origin
  phase : Phase
  deriving DecidableEq

/-- A lease that was handed out and not released. -/
def Hold.outstanding (hold : Hold) : Bool :=
  hold.phase = .leased

/-- A hold that still counts on its row. -/
def Hold.live (hold : Hold) : Bool :=
  match hold.phase with
  | .acquired | .leased | .releasing _ _ | .returning => true
  | .released | .unreleased | .returned | .stranded => false

/-- A call of `resolve` or `reject`. -/
inductive Settlement where
  | resolved (hold : Nat)
  | rejected (message : String)
  deriving DecidableEq

structure DeferredAcquire where
  caller : Nat
  timestamp : Nat
  deriving DecidableEq

/-- `callers` has, for each call that was queued, how it was settled. -/
structure Pool where
  accounts : AccountId → Option ChannelAccountRow
  clock : Nat
  holds : List Hold
  acquireQueue : List DeferredAcquire
  callers : List (List Settlement)
  processing : Nat

namespace ChannelAccountRow

def acquire (now : Nat) (row : ChannelAccountRow) : ChannelAccountRow :=
  { row with status := .busy, lockedAt := some now, lastUsedAt := some now }

/-- `ChannelAccountModel.release` -/
def release (maxErrors now : Nat) (success : Bool) (newSequence : Option Int)
    (row : ChannelAccountRow) : ChannelAccountRow :=
  if success then
    { row with
      status := .idle
      lockedAt := none
      errorCount := 0
      sequence := newSequence.getD row.sequence }
  else if maxErrors ≤ row.errorCount + 1 then
    { row with
      status := .disabled
      lockedAt := none
      disabledAt := some now
      errorCount := row.errorCount + 1 }
  else { row with status := .idle, lockedAt := none, errorCount := row.errorCount + 1 }

/-- A time stamp that lies more than this many milliseconds back. -/
def past (now timeoutMs : Nat) : Option Nat → Bool
  | none => false
  | some time => time + timeoutMs < now

def recoverStale (timeoutMs now : Nat) (row : ChannelAccountRow) : ChannelAccountRow :=
  if row.status = .busy ∧ past now timeoutMs row.lockedAt then
    { row with status := .idle, lockedAt := none, errorCount := row.errorCount + 1 }
  else row

def recoverDisabled (recoveryMs now : Nat) (row : ChannelAccountRow) : ChannelAccountRow :=
  if row.status = .disabled ∧ past now recoveryMs row.disabledAt then
    { row with status := .idle, disabledAt := none, errorCount := 0 }
  else row

def disable (now : Nat) (row : ChannelAccountRow) : ChannelAccountRow :=
  { row with status := .disabled, disabledAt := some now }

end ChannelAccountRow

namespace Pool

/-- An `UPDATE` of the row with this id. -/
def update (pool : Pool) (id : AccountId) (change : ChannelAccountRow → ChannelAccountRow) : Pool :=
  { pool with accounts := fun other =>
      if other = id then (pool.accounts other).map change else pool.accounts other }

def updateAll (pool : Pool) (change : ChannelAccountRow → ChannelAccountRow) : Pool :=
  { pool with accounts := fun other => (pool.accounts other).map change }

/-- The `UPDATE` of `acquireIdle`. Rows that other statements have locked are skipped, so that any
idle row may be the one it takes. -/
def acquireIdle (pool : Pool) (id : AccountId) (origin : Origin) : Option Pool := do
  let row ← pool.accounts id
  if row.status = .idle then
    some { pool.update id (.acquire pool.clock) with
      holds := pool.holds ++ [⟨id, pool.clock, origin, .acquired⟩] }
  else none

def enter (pool : Pool) (index : Nat) (hold : Hold) (phase : Phase) : Pool :=
  { pool with holds := pool.holds.set index { hold with phase } }

def settle (pool : Pool) (caller : Nat) (settlement : Settlement) : Pool :=
  { pool with callers := pool.callers.modify caller (· ++ [settlement]) }

def rejectAll (message : String) (pool : Pool) (rejected : List DeferredAcquire) : Pool :=
  rejected.foldl (fun pool deferred => pool.settle deferred.caller (.rejected message)) pool

variable (config : PoolConfig)

/-- `acquire` has found no row. -/
def enqueue (pool : Pool) : Pool :=
  if config.maxQueueSize ≤ pool.acquireQueue.length then pool
  else { pool with
    acquireQueue := pool.acquireQueue ++ [⟨pool.callers.length, pool.clock⟩]
    callers := pool.callers ++ [[]] }

/-- What the awaiting caller of `acquireIdle` does with its row. In `processQueue` the row goes to
the first waiting caller, or back. -/
def deliver (pool : Pool) (index : Nat) (hold : Hold) : Pool :=
  match hold.origin, pool.acquireQueue with
  | .acquire, _ => pool.enter index hold .leased
  | .processQueue, deferred :: rest =>
    { (pool.enter index hold .leased).settle deferred.caller (.resolved index) with
      acquireQueue := rest }
  | .processQueue, [] => pool.enter index hold .returning

/-- The same with an exception in `buildAcquireResult`, which comes after the caller has left the
queue. -/
def failToBuild (pool : Pool) (index : Nat) (hold : Hold) : Option Pool :=
  match hold.origin, pool.acquireQueue with
  | .acquire, _ => some (pool.enter index hold .stranded)
  | .processQueue, _ :: rest =>
    some { pool.enter index hold .stranded with acquireQueue := rest }
  | .processQueue, [] => none

def timeoutMessage : String :=
  "Pool exhausted: queue timeout after " ++ toString config.queueTimeoutMs ++ "ms"

def timeout (pool : Pool) (caller : Nat) : Option Pool :=
  match pool.acquireQueue.find? fun deferred => deferred.caller = caller with
  | none => some pool
  | some deferred =>
    if deferred.timestamp + config.queueTimeoutMs ≤ pool.clock then
      some { pool.settle caller (.rejected (timeoutMessage config)) with
        acquireQueue := pool.acquireQueue.filter fun deferred => deferred.caller ≠ caller }
    else none

def expired (pool : Pool) (deferred : DeferredAcquire) : Bool :=
  deferred.timestamp + config.queueTimeoutMs < pool.clock

/-- The loop of `performMaintenance` over the queue. -/
def expire (pool : Pool) : Pool :=
  { pool.rejectAll "Queue timeout" (pool.acquireQueue.takeWhile (pool.expired config)) with
    acquireQueue := pool.acquireQueue.dropWhile (pool.expired config) }

def shutdown (pool : Pool) : Pool :=
  { pool.rejectAll "Pool is shutting down" pool.acquireQueue with acquireQueue := [] }

end Pool

inductive Action where
  | tick (elapsed : Nat)
  /-- the `UPDATE` of `acquireIdle` in `acquire` takes a row -/
  | acquire (id : AccountId)
  | acquireFindsNone
  | processQueue
  | processQueueAcquires (id : AccountId)
  | processQueueFindsNone
  | deliver (hold : Nat)
  | failToBuild (hold : Nat)
  /-- `acquireIdle` raises although its `UPDATE` took effect -/
  | loseAnswer (hold : Nat)
  | release (hold : Nat) (success : Bool) (newSequence : Option Int)
  | releaseUpdate (hold : Nat)
  | releaseFails (hold : Nat)
  | timeout (caller : Nat)
  | expire
  | shutdown
  | resyncSequence (id : AccountId) (newSequence : Int)
  | recoverStale
  | recoverDisabled
  | disable (id : AccountId)
  deriving DecidableEq

namespace Pool

/-- The hold, if it is in this phase. -/
def holdIn (pool : Pool) (index : Nat) (phase : Phase) : Option Hold :=
  pool.holds[index]?.filter fun hold => hold.phase = phase

/-- The `UPDATE` of a release, or of giving a row back. -/
def releaseUpdate (config : PoolConfig) (pool : Pool) (index : Nat) : Option Pool := do
  let hold ← pool.holds[index]?
  match hold.phase with
  | .releasing success newSequence =>
    let release := ChannelAccountRow.release config.maxConsecutiveErrors pool.clock success newSequence
    some ((pool.update hold.account release).enter index hold .released)
  | .returning =>
    let release := ChannelAccountRow.release 5 pool.clock true none
    some ((pool.update hold.account release).enter index hold .returned)
  | _ => none

def releaseFails (pool : Pool) (index : Nat) : Option Pool := do
  let hold ← pool.holds[index]?
  match hold.phase with
  | .releasing _ _ => some (pool.enter index hold .unreleased)
  | .returning => some (pool.enter index hold .stranded)
  | _ => none

def perform (config : PoolConfig) (pool : Pool) : Action → Option Pool
  | .tick elapsed => some { pool with clock := pool.clock + elapsed }
  | .acquire id => pool.acquireIdle id .acquire
  | .acquireFindsNone => some (pool.enqueue config)
  | .processQueue =>
    if pool.acquireQueue = [] then some pool
    else some { pool with processing := pool.processing + 1 }
  | .processQueueAcquires id =>
    if pool.processing = 0 then none
    else { pool with processing := pool.processing - 1 }.acquireIdle id .processQueue
  | .processQueueFindsNone =>
    if pool.processing = 0 then none else some { pool with processing := pool.processing - 1 }
  | .deliver index => (pool.holdIn index .acquired).map (pool.deliver index)
  | .failToBuild index => (pool.holdIn index .acquired).bind (pool.failToBuild index)
  | .loseAnswer index => (pool.holdIn index .acquired).map fun hold => pool.enter index hold .stranded
  | .release index success newSequence =>
    (pool.holdIn index .leased).map fun hold =>
      pool.enter index hold (.releasing success newSequence)
  | .releaseUpdate index => pool.releaseUpdate config index
  | .releaseFails index => pool.releaseFails index
  | .timeout caller => pool.timeout config caller
  | .expire => some (pool.expire config)
  | .shutdown => some pool.shutdown
  | .resyncSequence id newSequence =>
    some (pool.update id fun row => { row with sequence := newSequence })
  | .recoverStale =>
    some (pool.updateAll (ChannelAccountRow.recoverStale config.lockTimeoutMs pool.clock))
  | .recoverDisabled =>
    some (pool.updateAll (ChannelAccountRow.recoverDisabled config.disableRecoveryMs pool.clock))
  | .disable id => some (pool.update id (ChannelAccountRow.disable pool.clock))

theorem holdIn_some {pool : Pool} {index : Nat} {phase : Phase} {hold : Hold}
    (found : pool.holdIn index phase = some hold) :
    pool.holds[index]? = some hold ∧ hold.phase = phase := by
  unfold holdIn at found
  obtain ⟨there, matched⟩ := Option.filter_eq_some_iff.mp found
  exact ⟨there, of_decide_eq_true matched⟩

section Frame

variable (pool : Pool) (caller index : Nat) (settlement : Settlement) (hold : Hold) (phase : Phase)
variable (message : String) (rejected : List DeferredAcquire)

@[simp] theorem settle_accounts : (pool.settle caller settlement).accounts = pool.accounts := rfl

@[simp] theorem settle_holds : (pool.settle caller settlement).holds = pool.holds := rfl

@[simp] theorem enter_accounts : (pool.enter index hold phase).accounts = pool.accounts := rfl

@[simp] theorem enter_holds : (pool.enter index hold phase).holds = pool.holds.set index { hold with phase } := rfl

theorem rejectAll_frame : (pool.rejectAll message rejected).accounts = pool.accounts ∧
    (pool.rejectAll message rejected).holds = pool.holds := by
  induction rejected generalizing pool with
  | nil => exact ⟨rfl, rfl⟩
  | cons deferred rest ih => exact ih (pool.settle deferred.caller (.rejected message))

end Frame

/-- A pool before its first call. -/
structure Fresh (pool : Pool) : Prop where
  holds : pool.holds = []
  acquireQueue : pool.acquireQueue = []
  callers : pool.callers = []
  processing : pool.processing = 0

end Pool

/-- A step of the pool, of any of its callers, or of the maintenance. -/
def step (config : PoolConfig) (before : Pool) (action : Action) (after : Pool) : Prop :=
  before.perform config action = some after

/-- A pool of one idle account. -/
def Pool.one : Pool where
  accounts := fun id => if id = "channel-1" then some ⟨"GA", .idle, 7, 0, none, none, none⟩ else none
  clock := 0
  holds := []
  acquireQueue := []
  callers := []
  processing := 0

theorem Pool.one_fresh : Pool.one.Fresh := ⟨rfl, rfl, rfl, rfl⟩

theorem run_follow {config : PoolConfig} {trace : List Action} {pool last : Pool}
    (followed : trace.foldlM (Pool.perform config) pool = some last) :
    Run (step config) pool trace last :=
  Run.follow followed

end ProxyPay.Channels
