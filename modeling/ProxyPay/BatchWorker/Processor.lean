import ProxyPay.Library.Server

/-! `ParallelBatchProcessor`: lanes that take items from one queue, with retries and one circuit breaker.
Waiting for a token, or before a retry, only takes time. -/

namespace ProxyPay.BatchWorker

open ProxyPay.Library

inductive CircuitBreakerState where
  | closed
  | opened
  | halfOpen
  deriving DecidableEq

structure ProcessorOptions where
  concurrency : ℕ
  circuitBreakerThreshold : ℕ
  circuitBreakerResetMs : ℕ
  maxRetries : ℕ

structure Breaker where
  consecutiveFailures : ℕ
  circuitState : CircuitBreakerState
  circuitOpenedAt : ℕ
  deriving DecidableEq

def Breaker.initial : Breaker := ⟨0, .closed, 0⟩

variable (options : ProcessorOptions)

def checkCircuitBreaker (now : ℕ) (breaker : Breaker) : Bool × Breaker :=
  if breaker.circuitState = .opened then
    if breaker.circuitOpenedAt + options.circuitBreakerResetMs ≤ now then
      (true, { breaker with circuitState := .halfOpen })
    else (false, breaker)
  else (true, breaker)

def recordSuccess (breaker : Breaker) : Breaker :=
  { breaker with
    consecutiveFailures := 0
    circuitState := if breaker.circuitState = .halfOpen then .closed else breaker.circuitState }

def tripCircuitBreaker (now : ℕ) (breaker : Breaker) : Breaker :=
  { breaker with circuitState := .opened, circuitOpenedAt := now }

def recordFailure (now : ℕ) (breaker : Breaker) : Breaker :=
  let breaker := { breaker with consecutiveFailures := breaker.consecutiveFailures + 1 }
  if breaker.circuitState = .halfOpen then tripCircuitBreaker now breaker
  else if options.circuitBreakerThreshold ≤ breaker.consecutiveFailures then tripCircuitBreaker now breaker
  else breaker

/-- Where one of the concurrent loops of `processBatch` stands. -/
inductive Lane (Item Request : Type) (Reply : Request → Type) (Error : Type) where
  | ready
  | entering (item : Item) (attempt : ℕ)
  | waiting (item : Item) (attempt : ℕ)
  | attempting (item : Item) (attempt : ℕ) (rest : Script Request Reply Error Unit)
  | finished

variable {Item Request : Type} {Reply : Request → Type} {Error Event S : Type}

/-- The item that a lane is busy with. -/
def Lane.item? : Lane Item Request Reply Error → Option Item
  | .ready => none
  | .entering item _ => some item
  | .waiting item _ => some item
  | .attempting item _ _ => some item
  | .finished => none

def Lane.isFinished : Lane Item Request Reply Error → Bool
  | .finished => true
  | _ => false

structure Processing (Item Request : Type) (Reply : Request → Type) (Error : Type) where
  breaker : Breaker
  queue : List Item
  lanes : List (Lane Item Request Reply Error)
  results : List (Item × Bool)

namespace Processing

/-- `processBatch` when its lanes have been started. -/
def start (items : List Item) : Processing Item Request Reply Error :=
  ⟨.initial, items, List.replicate (min (max 1 (min options.concurrency 50)) items.length) .ready, []⟩

variable (processing : Processing Item Request Reply Error)

def isOver : Bool :=
  processing.lanes.all Lane.isFinished

/-- The items that the lane gives up when it goes on. -/
def givenUp (index now : ℕ) : List Item :=
  match processing.lanes[index]? with
  | some .ready => if (checkCircuitBreaker options now processing.breaker).1 then [] else processing.queue
  | some (.entering item _) =>
    if (checkCircuitBreaker options now processing.breaker).1 then [] else [item]
  | some (.attempting item attempt (.done (.error _))) =>
    if attempt < options.maxRetries then [] else [item]
  | _ => []

variable (server : Server Request Reply Error Event S) (work : Item → Script Request Reply Error Unit)

/-- A lane goes on to where it next waits or looks at the breaker. -/
def advance (state : S) (index now : ℕ) (event : Event) :
    Option (Processing Item Request Reply Error × S) := do
  let lane ← processing.lanes[index]?
  let moved := fun (lane : Lane Item Request Reply Error) => processing.lanes.set index lane
  let check := checkCircuitBreaker options now processing.breaker
  match lane with
  | .ready =>
    match processing.queue with
    | [] => return ({ processing with lanes := moved .finished }, state)
    | item :: rest =>
      if check.1 then
        return ({ processing with breaker := check.2, queue := rest, lanes := moved (.entering item 0) }, state)
      else
        return ({ processing with
          breaker := check.2
          queue := []
          lanes := moved .finished
          results := processing.results ++ (item :: rest).map fun skipped => (skipped, false) }, state)
  | .entering item attempt =>
    if check.1 then
      return ({ processing with breaker := check.2, lanes := moved (.waiting item attempt) }, state)
    else
      return ({ processing with
        breaker := check.2, lanes := moved .ready, results := processing.results ++ [(item, false)] }, state)
  | .waiting item attempt =>
    return ({ processing with lanes := moved (.attempting item attempt (work item)) }, state)
  | .attempting item attempt (.await request next) =>
    let exchange := server.exchange state event request
    return ({ processing with lanes := moved (.attempting item attempt (next exchange.reply)) },
      server.next state event request)
  | .attempting item _ (.done (.ok _)) =>
    return ({ processing with
      breaker := recordSuccess processing.breaker
      lanes := moved .ready
      results := processing.results ++ [(item, true)] }, state)
  | .attempting item attempt (.done (.error _)) =>
    let breaker := recordFailure options now processing.breaker
    if attempt < options.maxRetries then
      return ({ processing with breaker, lanes := moved (.entering item (attempt + 1)) }, state)
    else
      return ({ processing with
        breaker, lanes := moved .ready, results := processing.results ++ [(item, false)] }, state)
  | .finished => none

end Processing

end ProxyPay.BatchWorker

/-! `processBatch` with the durations of its results and the calls of the processor. Items are known by
their positions; whatever the loops await ends at any later time. -/

namespace ProxyPay.BatchWorker.Summary

structure BatchResult where
  item : ℕ
  success : Bool
  durationMs : ℕ
  deriving DecidableEq

/-- Where a loop of `processNext` stands: before the head of its loop, waiting for a token, for the
processor, or for the time of the next attempt, or at its end. -/
inductive Worker where
  | ready
  | waiting (item start attempt : ℕ)
  | calling (item start attempt : ℕ)
  | delaying (item start attempt wake : ℕ)
  | finished
  deriving DecidableEq

def Worker.held : Worker → Option ℕ
  | .waiting item _ _ => some item
  | .calling item _ _ => some item
  | .delaying item _ _ _ => some item
  | _ => none

/-- What happens between a worker and the processor. -/
inductive Logged where
  | called (item worker : ℕ)
  | answered (item worker : ℕ) (success : Bool)
  deriving DecidableEq

def Logged.item : Logged → ℕ
  | .called item _ => item
  | .answered item _ _ => item

/-- The state of a call of `processBatch`; `log` is what the processor has seen. -/
structure Batch where
  now : ℕ
  breaker : Breaker
  queue : List ℕ
  workers : List Worker
  results : List BatchResult
  circuitBreakerTripped : Bool
  log : List Logged
  deriving DecidableEq

variable (options : ProcessorOptions)

/-- The processor may have been used before, so that its breaker is in any state. -/
def Batch.start (breaker : Breaker) (now total : ℕ) : Batch :=
  ⟨now, breaker, List.range total,
    List.replicate (min (max 1 (min options.concurrency 50)) total) .ready, [], false, []⟩

def Batch.isOver (batch : Batch) : Bool :=
  batch.workers.all (· = .finished)

namespace Batch

variable (batch : Batch)

variable (index : ℕ)

def goOn (worker : Worker) : Batch :=
  { batch with workers := batch.workers.set index worker }

def push (results : List BatchResult) : Batch :=
  { batch with results := batch.results ++ results }

def note (logged : Logged) : Batch :=
  { batch with log := batch.log ++ [logged] }

/-- The head of the loop over the attempts. -/
def enter (index item start attempt : ℕ) : Batch :=
  let (passes, breaker) := checkCircuitBreaker options batch.now batch.breaker
  if passes then { batch with breaker }.goOn index (.waiting item start attempt)
  else ({ batch with breaker }.push [⟨item, false, batch.now - start⟩]).goOn index .ready

/-- The head of the loop over the queue. -/
def processNext : Batch :=
  match batch.queue with
  | [] => batch.goOn index .finished
  | item :: rest =>
    let (passes, breaker) := checkCircuitBreaker options batch.now batch.breaker
    if passes then { batch with breaker, queue := rest }.enter options index item batch.now 0
    else
      ({ batch with breaker, queue := [], circuitBreakerTripped := true }.push
        ((item :: rest).map fun skipped => ⟨skipped, false, 0⟩)).goOn index .finished

def delayMs (attempt : ℕ) : ℕ :=
  min (1000 * 2 ^ attempt) 10000

/-- What follows the answer of the processor. -/
def answer (index item start attempt : ℕ) (success : Bool) : Batch :=
  if success then
    ({ batch with breaker := recordSuccess batch.breaker }.push [⟨item, true, batch.now - start⟩]).goOn index .ready
  else
    let batch := { batch with breaker := recordFailure options batch.now batch.breaker }
    if attempt < options.maxRetries then
      batch.goOn index (.delaying item start attempt (batch.now + delayMs attempt))
    else (batch.push [⟨item, false, batch.now - start⟩]).goOn index .ready

/-- A worker goes on; where it waits for the processor, it gets this answer. -/
def advance (success : Bool) : Option Batch := do
  match ← batch.workers[index]? with
  | .ready => return batch.processNext options index
  | .waiting item start attempt => return (batch.note (.called item index)).goOn index (.calling item start attempt)
  | .calling item start attempt =>
    return (batch.note (.answered item index success)).answer options index item start attempt success
  | .delaying item start attempt wake =>
    if wake ≤ batch.now then return batch.enter options index item start (attempt + 1) else none
  | .finished => none

end Batch

/-- Time passes, a worker goes on, or another use of the processor changes its breaker. -/
inductive Label where
  | tick (elapsed : ℕ)
  | worker (index : ℕ) (success : Bool)
  | elsewhere (breaker : Breaker)
  deriving DecidableEq

def Batch.perform (batch : Batch) : Label → Option Batch
  | .tick elapsed => some { batch with now := batch.now + elapsed }
  | .worker index success => batch.advance options index success
  | .elsewhere breaker => some { batch with breaker }

def step (before : Batch) (label : Label) (after : Batch) : Prop :=
  before.perform options label = some after

/-- The summary that is returned. -/
structure BatchProcessingSummary where
  total : ℕ
  succeeded : ℕ
  failed : ℕ
  skipped : ℕ
  results : List BatchResult
  circuitBreakerTripped : Bool

def Batch.summary (batch : Batch) (total : ℕ) : BatchProcessingSummary where
  total := total
  succeeded := batch.results.countP fun result => result.success
  failed := batch.results.countP fun result => !result.success && 0 < result.durationMs
  skipped := batch.results.countP fun result => !result.success && result.durationMs = 0
  results := batch.results
  circuitBreakerTripped := batch.circuitBreakerTripped

end ProxyPay.BatchWorker.Summary
