import Mathlib.Algebra.Order.Ring.Rat
import ProxyPay.Library.Exclusive
import ProxyPay.Library.InsertionMap

/-! `SessionRequestQueue`, one job of the event loop at a time. States and requests are known by their positions, so that
a state lives on when the map has forgotten it. Jobs of different chains come in any order. -/

namespace ProxyPay.SessionQueue

open ProxyPay.Library

variable {Key Value : Type}

inductive Outcome (Value : Type) where
  | resolved (value : Value)
  | rejected (reason : Value)
  /-- `SessionTimeoutError` -/
  | timeout (waitedMs : ℚ)
  /-- `SessionQueueOverflowError` -/
  | overflow
  deriving DecidableEq

/-- A call of `enqueue`, with what its task came to and what its promise was settled with. -/
structure Request (Key Value : Type) where
  sessionKey : Key
  sessionExpiresAt : Option ℚ
  enqueuedAt : ℚ
  result : Option (Outcome Value)
  settlement : Option (Outcome Value)

/-- The callbacks that wait for `tail`, in order, and the entry that it waits for are those of the chain and `current`. -/
structure SessionQueueState (Key : Type) where
  key : Key
  current : Option ℕ
  chain : List ℕ
  pending : List ℕ
  locked : Bool

structure Queue (Key Value : Type) where
  maxQueueDepth : ℕ
  queues : InsertionMap Key ℕ
  states : List (SessionQueueState Key)
  requests : List (Request Key Value)
  /-- The tasks that were run, in order. -/
  started : List (Key × ℕ)

def Queue.initial (maxQueueDepth : ℕ) : Queue Key Value :=
  ⟨maxQueueDepth, .empty, [], [], []⟩

/-- The clock is read twice for an entry, and once for each that is dropped. -/
inductive Label (Key Value : Type) where
  | enqueue (sessionKey : Key) (sessionExpiresAt : Option ℚ) (now : ℚ)
  | runEntry (state : ℕ) (started now : ℚ)
  | finish (state : ℕ) (result : Except Value Value)
  | clear (sessionKey : Key) (clock : ℕ → ℚ)

/-- A promise keeps what it was settled with first. -/
def Request.settle (outcome : Outcome Value) (request : Request Key Value) : Request Key Value :=
  { request with settlement := request.settlement.or (some outcome) }

def Request.timeOut (now : ℚ) (request : Request Key Value) : Request Key Value :=
  request.settle (.timeout (now - request.enqueuedAt))

def Request.isExpired (now : ℚ) (request : Request Key Value) : Bool :=
  request.sessionExpiresAt.any fun sessionExpiresAt => 0 < sessionExpiresAt && sessionExpiresAt ≤ now

def outcome : Except Value Value → Outcome Value
  | .ok value => .resolved value
  | .error reason => .rejected reason

def Request.finish (result : Outcome Value) (request : Request Key Value) : Request Key Value :=
  { request.settle result with result := some result }

namespace SessionQueueState

/-- A state as `getOrCreateState` makes it. -/
def fresh (key : Key) : SessionQueueState Key :=
  ⟨key, none, [], [], false⟩

variable (state : SessionQueueState Key)

def push (id : ℕ) : SessionQueueState Key :=
  { state with chain := state.chain ++ [id], pending := state.pending ++ [id] }

/-- The callback of an entry is run. -/
def take (id : ℕ) (rest : List ℕ) : SessionQueueState Key :=
  { state with chain := rest, pending := state.pending.erase id }

def lock (id : ℕ) : SessionQueueState Key :=
  { state with current := some id, locked := true }

def unlock : SessionQueueState Key :=
  { state with current := none, locked := false }

end SessionQueueState

namespace Queue

variable [DecidableEq Key]

variable (queue : Queue Key Value)

variable (sessionKey : Key)

def getOrCreateState : Queue Key Value × ℕ :=
  match queue.queues.get? sessionKey with
  | some state => (queue, state)
  | none =>
    ({ queue with
        queues := queue.queues.set sessionKey queue.states.length
        states := queue.states ++ [.fresh sessionKey] },
      queue.states.length)

def become (index : ℕ) (state : SessionQueueState Key) : Queue Key Value :=
  { queue with states := queue.states.set index state }

def change (queue : Queue Key Value) (request : ℕ) (change : Request Key Value → Request Key Value) : Queue Key Value :=
  { queue with requests := queue.requests.modify request change }

def release (state : SessionQueueState Key) : Queue Key Value :=
  if !state.locked && state.pending.isEmpty then { queue with queues := queue.queues.erase state.key } else queue

def enqueue (sessionExpiresAt : Option ℚ) (now : ℚ) : Queue Key Value :=
  let (queue, index) := queue.getOrCreateState sessionKey
  match queue.states[index]? with
  | none => queue
  | some state =>
    if queue.maxQueueDepth ≤ state.pending.length then
      { queue with requests := queue.requests ++ [⟨sessionKey, sessionExpiresAt, now, none, some .overflow⟩] }
    else
      { queue.become index (state.push queue.requests.length) with
        requests := queue.requests ++ [⟨sessionKey, sessionExpiresAt, now, none, none⟩] }

def runEntry (index : ℕ) (started now : ℚ) : Option (Queue Key Value) :=
  match queue.states[index]? with
  | none => none
  | some state =>
    match state.current, state.chain with
    | none, id :: rest =>
      match queue.requests[id]? with
      | none => none
      | some request =>
        let state := state.take id rest
        if request.isExpired now then
          some (((queue.become index state).change id (Request.timeOut started)).release state)
        else
          some { queue.become index (state.lock id) with
            started := queue.started ++ [(state.key, id)] }
    | _, _ => none

def finish (queue : Queue Key Value) (index : ℕ) (result : Except Value Value) : Option (Queue Key Value) :=
  match queue.states[index]? with
  | none => none
  | some state =>
    match state.current with
    | none => none
    | some id =>
      let state := state.unlock
      some (((queue.become index state).change id (Request.finish (outcome result))).release state)

/-- The dropped entries are rejected one after the other. -/
def drop (clock : ℕ → ℚ) (requests : List (Request Key Value)) (dropped : List ℕ) : List (Request Key Value) :=
  dropped.zipIdx.foldl (fun requests entry => requests.modify entry.1 (Request.timeOut (clock entry.2))) requests

def clear (clock : ℕ → ℚ) : Queue Key Value :=
  match queue.queues.get? sessionKey with
  | none => queue
  | some index =>
    match queue.states[index]? with
    | none => queue
    | some state =>
      let cleared := { queue.become index { state with pending := [] } with
        requests := drop clock queue.requests state.pending }
      if state.locked then cleared else { cleared with queues := queue.queues.erase sessionKey }

def perform : Label Key Value → Option (Queue Key Value)
  | .enqueue sessionKey sessionExpiresAt now => some (queue.enqueue sessionKey sessionExpiresAt now)
  | .runEntry state started now => queue.runEntry state started now
  | .finish state result => queue.finish state result
  | .clear sessionKey clock => some (queue.clear sessionKey clock)

end Queue

section Properties

variable [DecidableEq Key]

variable (before : Queue Key Value)

def step (label : Label Key Value) (after : Queue Key Value) : Prop :=
  before.perform label = some after

def SessionQueueState.isRunning (state : SessionQueueState Key) : Bool :=
  state.current.isSome

/-- At most one task of a session runs. -/
def Serial (queue : Queue Key Value) : Prop :=
  Exclusive SessionQueueState.key SessionQueueState.isRunning queue.states

def Queue.startsOf (queue : Queue Key Value) (sessionKey : Key) : List ℕ :=
  (queue.started.filter (·.1 = sessionKey)).map Prod.snd

/-- Tasks of a session start in the order in which they were queued, each once at most. -/
def InOrder (queue : Queue Key Value) : Prop :=
  ∀ sessionKey, (queue.startsOf sessionKey).Pairwise (· < ·)

/-- No entry waits, and no task runs. -/
def Queue.Idle (queue : Queue Key Value) : Prop :=
  ∀ state ∈ queue.states, state.current = none ∧ state.chain = []

/-- A promise is settled with what its own task came to or with an error of the queue, and once nothing is left to do
it is settled. -/
structure Settled (queue : Queue Key Value) : Prop where
  own : ∀ request ∈ queue.requests, ∀ outcome, request.settlement = some outcome →
    request.result = some outcome ∨ (∃ waitedMs, outcome = .timeout waitedMs) ∨ outcome = .overflow
  eventually : queue.Idle → ∀ request ∈ queue.requests, request.settlement.isSome = true

/-- A promise that is settled stays so. -/
def Stable (_ : Label Key Value) (after : Queue Key Value) : Prop :=
  ∀ (id : ℕ) request outcome, before.requests[id]? = some request → request.settlement = some outcome →
    ∃ later, after.requests[id]? = some later ∧ later.settlement = some outcome

/-- A task whose promise was rejected for a timeout is not run. -/
def Unexecuted (queue : Queue Key Value) : Prop :=
  ∀ (id : ℕ) request waitedMs, queue.requests[id]? = some request → request.settlement = some (.timeout waitedMs) →
    ∀ sessionKey, (sessionKey, id) ∉ queue.started

end Properties

end ProxyPay.SessionQueue
