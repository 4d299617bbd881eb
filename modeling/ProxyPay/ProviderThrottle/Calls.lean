import Mathlib

/-! The throttled provider calls, with their retries and their dead letters. A call is known by its position, and has a
job for its caller and one for each replay. -/

namespace ProxyPay.ProviderThrottle

inductive Operation where
  | payment
  | payout
  | batchPayout
  deriving DecidableEq

/-- What a caller of `enqueueProviderCall` is told; an error has no message where the provider's had none. -/
inductive Outcome where
  | resolved
  /-- `ProviderThrottleQueueFullError` -/
  | queueFull (deadLetterId : Option ℕ)
  | rejected (message : Option String)
  deriving DecidableEq

/-- What a call does next. -/
inductive Phase where
  | checking
  | refusing
  | adding
  | waiting (attemptsMade : ℕ)
  | active (attemptsMade : ℕ)
  | capturing (attemptsMade : ℕ) (message : Option String)
  | removing
  | ended (outcome : Outcome)
  deriving DecidableEq

/-- A run of `enqueueProviderCall`, by a caller or to replay a dead letter. -/
structure Job where
  call : ℕ
  replays : Option ℕ
  phase : Phase
  deriving DecidableEq

structure DeadLetterEntry where
  call : ℕ
  reason : String
  attemptsMade : ℕ
  removed : Bool
  deriving DecidableEq

structure Config where
  maxQueueSize : ℕ
  attempts : ℕ

structure Throttle where
  calls : List Operation
  jobs : List Job
  /-- The calls that the provider executed, in order. -/
  executions : List ℕ
  deadLetters : List DeadLetterEntry

def Throttle.initial : Throttle :=
  ⟨[], [], [], []⟩

/-- `run` tells whether the provider executed the call, and what the processor threw. -/
inductive Event where
  | queueDepth (depth : ℕ)
  | moveToDeadLetter (persisted : Bool)
  | add (accepted : Bool)
  | start
  | run (executed : Bool) (thrown : Option (Option String))
  | remove (removed : Bool)

inductive Label where
  | enqueueProviderCall (operation : Operation)
  | replayDeadLetter (entry : ℕ)
  | proceed (job : ℕ) (event : Event)

/-- What a job comes to. -/
structure Progress where
  phase : Phase
  executed : Bool := false
  captured : Option (String × ℕ) := none
  removed : Option ℕ := none

def queueFullReason (maxQueueSize : ℕ) : String :=
  s!"Provider throttle queue is full (capacity {maxQueueSize})"

variable (config : Config)

/-- After an attempt of the processor. -/
def afterRun (job : Job) (attemptsMade : ℕ) : Option (Option String) → Phase
  | none => if job.replays.isSome then .removing else .ended .resolved
  | some message =>
    if attemptsMade < config.attempts then .waiting attemptsMade else .capturing attemptsMade message

/-- `entries` is the number of dead letters so far, the next of which takes it as its id. -/
def Job.advance (entries : ℕ) (job : Job) : Event → Option Progress
  | .queueDepth depth =>
    match job.phase with
    | .checking => some { phase := if config.maxQueueSize ≤ depth then .refusing else .adding }
    | _ => none
  | .moveToDeadLetter persisted =>
    match job.phase with
    | .refusing =>
      some {
        phase := .ended (.queueFull (if persisted then some entries else none))
        captured := if persisted then some (queueFullReason config.maxQueueSize, 0) else none }
    | .capturing attemptsMade message =>
      some {
        phase := .ended (.rejected message)
        captured := if persisted then
          some (message.getD "Provider call failed after all retry attempts", attemptsMade) else none }
    | _ => none
  | .add accepted =>
    match job.phase with
    | .adding => some { phase := if accepted then .waiting 0 else .ended (.rejected none) }
    | _ => none
  | .start =>
    match job.phase with
    | .waiting attemptsMade => some { phase := .active attemptsMade }
    | _ => none
  | .run executed thrown =>
    match job.phase with
    | .active attemptsMade => some { phase := afterRun config job (attemptsMade + 1) thrown, executed }
    | _ => none
  | .remove removed =>
    match job.phase with
    | .removing =>
      some {
        phase := .ended (if removed then .resolved else .rejected none)
        removed := if removed then job.replays else none }
    | _ => none

namespace Throttle

def remove (deadLetters : List DeadLetterEntry) : Option ℕ → List DeadLetterEntry
  | none => deadLetters
  | some entry => deadLetters.modify entry fun entry => { entry with removed := true }

/-- A job comes to something. -/
def goOn (throttle : Throttle) (index : ℕ) (job : Job) (progress : Progress) : Throttle where
  calls := throttle.calls
  jobs := throttle.jobs.set index { job with phase := progress.phase }
  executions := throttle.executions ++ if progress.executed then [job.call] else []
  deadLetters :=
    remove throttle.deadLetters progress.removed ++
      progress.captured.toList.map fun captured => ⟨job.call, captured.1, captured.2, false⟩

def replayDeadLetter (throttle : Throttle) (entry : ℕ) : Throttle :=
  match throttle.deadLetters[entry]? with
  | some ⟨call, _, _, false⟩ => { throttle with jobs := throttle.jobs ++ [⟨call, some entry, .adding⟩] }
  | _ => throttle

def perform (config : Config) (throttle : Throttle) : Label → Option Throttle
  | .enqueueProviderCall operation =>
    some { throttle with
      calls := throttle.calls ++ [operation]
      jobs := throttle.jobs ++ [⟨throttle.calls.length, none, .checking⟩] }
  | .replayDeadLetter entry => some (throttle.replayDeadLetter entry)
  | .proceed index event =>
    match throttle.jobs[index]? with
    | none => none
    | some job => (job.advance config throttle.deadLetters.length event).map (throttle.goOn index job)

end Throttle

def step (before : Throttle) (label : Label) (after : Throttle) : Prop :=
  before.perform config label = some after

/-- The provider may still be called for the job. -/
def Phase.isPending : Phase → Bool
  | .checking | .adding | .waiting _ | .active _ => true
  | _ => false

/-- The job waits or runs, or is about to become a dead letter. -/
def Phase.isOpen : Phase → Bool
  | .refusing | .capturing _ _ => true
  | phase => phase.isPending

variable (call : ℕ)

def Job.isPendingFor (job : Job) : Bool :=
  job.call = call && job.phase.isPending

def Job.isOpenFor (job : Job) : Bool :=
  job.call = call && job.phase.isOpen

def DeadLetterEntry.holds (entry : DeadLetterEntry) : Bool :=
  entry.call = call && !entry.removed

namespace Throttle

variable (throttle : Throttle)

def pending (call : ℕ) : ℕ :=
  throttle.jobs.countP (Job.isPendingFor call)

def inHand (call : ℕ) : ℕ :=
  throttle.jobs.countP (Job.isOpenFor call)

def executed (call : ℕ) : ℕ :=
  throttle.executions.count call

def held (call : ℕ) : ℕ :=
  throttle.deadLetters.countP (DeadLetterEntry.holds call)

end Throttle

/-- The call is in hand, was executed once, or is held by one dead letter. -/
def Conserved (throttle : Throttle) (call : ℕ) : Prop :=
  throttle.inHand call + throttle.executed call + throttle.held call = 1

end ProxyPay.ProviderThrottle
