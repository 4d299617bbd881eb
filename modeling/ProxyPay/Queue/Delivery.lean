import ProxyPay.Queue.Money

/-! The queue around the worker: deliveries of published jobs, any number of them at a
time, and replays of dead-letter entries, interleaved call by call. Any published job may
be delivered again at any time. -/

namespace ProxyPay.Queue

open ProxyPay.Library

/-- A row of `dead_letter_queue`; its position in the table is its id. Of `replayed_at`
only matters whether it is set. -/
structure DLQEntry where
  originalJobId : String
  queueName : String
  jobName : String
  jobData : TransactionJobData
  failureReason : String
  attemptsMade : Nat
  replayed : Bool
  replayedBy : Option String
  deriving DecidableEq

/-- The calls of a consumer: those of the worker, and the INSERT of a failed job. -/
inductive ConsumerRequest where
  | worker (request : Request)
  | captureFailure (entry : DLQEntry)

def ConsumerRequest.Reply : ConsumerRequest → Type
  | .worker request => request.Reply
  | .captureFailure _ => Unit

abbrev Consumer := Script ConsumerRequest ConsumerRequest.Reply Thrown

abbrev ConsumerAnswered := Exchange ConsumerRequest ConsumerRequest.Reply Thrown

def ofWorker {α : Type} : Worker α → Consumer α
  | .done outcome => .done outcome
  | .await request next => .await (.worker request) fun reply => ofWorker (next reply)

def failureEntry (config : Config) (job : TransactionJobData) (error : Thrown) : DLQEntry where
  originalJobId := job.transactionId
  queueName := "transaction-processing-queue"
  jobName := "process-transaction"
  jobData := job
  failureReason := getErrorMessage error
  attemptsMade := config.maxAttempts
  replayed := false
  replayedBy := none

/-- The consumer of RabbitMQ: a failed job is captured, then the message is rejected. -/
def consume (config : Config) (job : TransactionJobData) : Consumer Unit :=
  ((ofWorker (processTransaction config job)).bind fun _ => .done (.ok ())).catching fun error =>
    (Script.ignoringErrors (Script.call
      (ConsumerRequest.captureFailure (failureEntry config job error)))).bind
        fun _ => .done (.error error)

/-- The calls of a replay: the SELECT, the publication, and the UPDATE. -/
inductive ReplayRequest where
  | selectEntry (id : Nat)
  | publishJob (id : Nat) (jobData : TransactionJobData)
  | markReplayed (id : Nat) (replayedBy : String)

def ReplayRequest.Reply : ReplayRequest → Type
  | .selectEntry _ => Option DLQEntry
  | .publishJob .. => Unit
  | .markReplayed .. => Unit

/-- Why a replay failed: with a status of its own, or because a call raised. -/
inductive ReplayFailure where
  | http (status : Nat) (message : String)
  | raised (error : Thrown)
  deriving DecidableEq

abbrev ReplayScript := Script ReplayRequest ReplayRequest.Reply ReplayFailure

abbrev ReplayAnswered := Exchange ReplayRequest ReplayRequest.Reply ReplayFailure

variable (id : Nat)

variable (replayedBy : String)

/-- The end of a replay, from the UPDATE on. -/
def markEntry (entry : DLQEntry) : ReplayScript DLQEntry := do
  let _ ← Script.call (ReplayRequest.markReplayed id replayedBy)
  return { entry with replayed := true, replayedBy := some replayedBy }

/-- From the publication on. -/
def publishEntry (entry : DLQEntry) : ReplayScript DLQEntry := do
  let _ ← Script.call (ReplayRequest.publishJob id entry.jobData)
  markEntry id replayedBy entry

def checkEntry (row : Option DLQEntry) : ReplayScript DLQEntry :=
  match row with
  | none => throw (.http 404 "DLQ entry not found")
  | some entry =>
    if entry.replayed then throw (.http 409 "DLQ entry has already been replayed")
    else publishEntry id replayedBy entry

def replayDLQEntry : ReplayScript DLQEntry := do
  let row : Option DLQEntry ← Script.call (ReplayRequest.selectEntry id)
  checkEntry id replayedBy row

/-- One delivery of a job, with what is left of its consumer. -/
structure Delivery where
  job : TransactionJobData
  rest : Consumer Unit

def Delivery.live (delivery : Delivery) : Bool :=
  !delivery.rest.isDone

/-- One replay of an entry, with what is left of it. -/
structure Replay where
  id : Nat
  replayedBy : String
  rest : ReplayScript DLQEntry

def Replay.live (replay : Replay) : Bool :=
  !replay.rest.isDone

/-- A payment attempt that took effect, with the delivery that made it. -/
structure Moved where
  delivery : Nat
  job : TransactionJobData
  movement : Movement
  deriving DecidableEq

/-- The shared state: the messages ever routed to the queue, the dead-letter table, the
deliveries and replays so far, the money moved, and the entries published again. -/
structure System where
  published : List TransactionJobData
  entries : List DLQEntry
  deliveries : List Delivery
  replays : List Replay
  ledger : List Moved
  publications : List Nat

def System.empty : System := ⟨[], [], [], [], [], []⟩

/-- A call that returned has taken effect; one that raised may have. -/
def effective {Request : Type} {Reply : Request → Type} {Error : Type}
    (exchange : Exchange Request Reply Error) : Bool :=
  match exchange.reply with
  | .ok _ => true
  | .error _ => exchange.tookEffect

def System.work (system : System) (delivery : Nat) (job : TransactionJobData) : ConsumerAnswered → System
  | ⟨.worker request, reply, tookEffect⟩ =>
    match attemptOf ⟨request, reply, tookEffect⟩ with
    | some attempt =>
      if attempt.tookEffect then
        { system with ledger := system.ledger ++ [⟨delivery, job, attempt.movement⟩] }
      else system
    | none =>
      match request.operation with
      | .scheduleRequeue data =>
        if tookEffect then { system with published := system.published ++ [data] } else system
      | _ => system
  | ⟨.captureFailure entry, reply, tookEffect⟩ =>
    if effective (⟨.captureFailure entry, reply, tookEffect⟩ : ConsumerAnswered) then
      { system with entries := system.entries ++ [entry] }
    else system

/-- What the SELECT can read: a replica may not have the entry or its mark yet. -/
def System.readable (system : System) (id : Nat) (row : Option DLQEntry) : Bool :=
  match row, system.entries[id]? with
  | none, _ => true
  | some _, none => false
  | some row, some entry =>
    row = entry || row = { entry with replayed := false, replayedBy := none }

/-- The effect of an answer to a replay, where the answer is possible. -/
def System.answerReplay (system : System) : ReplayAnswered → Option System
  | ⟨.selectEntry id, .ok row, _⟩ => if system.readable id row then some system else none
  | ⟨.selectEntry _, .error _, _⟩ => some system
  | ⟨.publishJob id jobData, reply, tookEffect⟩ =>
    if effective (⟨.publishJob id jobData, reply, tookEffect⟩ : ReplayAnswered) then
      some { system with
        published := system.published ++ [jobData]
        publications := system.publications ++ [id] }
    else some system
  | ⟨.markReplayed id replayedBy, reply, tookEffect⟩ =>
    if effective (⟨.markReplayed id replayedBy, reply, tookEffect⟩ : ReplayAnswered) then
      some { system with
        entries := system.entries.modify id fun entry =>
          { entry with replayed := true, replayedBy := some replayedBy } }
    else some system

/-- What can happen next. The answers are given for whatever is awaited; a process may
stop between any two of its calls. -/
inductive Label where
  | submit (job : TransactionJobData)
  | deliver (job : TransactionJobData)
  | work (delivery : Nat)
      (answer : (request : ConsumerRequest) → Except Thrown request.Reply × Bool)
  | stopWork (delivery : Nat)
  | startReplay (id : Nat) (replayedBy : String)
  | replay (replay : Nat)
      (answer : (request : ReplayRequest) → Except ReplayFailure request.Reply × Bool)
  | stopReplay (replay : Nat)

/-- How a process that stopped ends. -/
def stopped : Thrown := .ofMessage "process exited"

def System.step (config : Config) (system : System) : Label → Option System
  | .submit job => some { system with published := system.published ++ [job] }
  | .deliver job =>
    if job ∈ system.published then
      some { system with deliveries := system.deliveries ++ [⟨job, consume config job⟩] }
    else none
  | .work index answer => do
    let delivery ← system.deliveries[index]?
    let (exchange, rest) ← delivery.rest.advance answer
    return { system.work index delivery.job exchange with
      deliveries := system.deliveries.set index { delivery with rest } }
  | .stopWork index => do
    let delivery ← system.deliveries[index]?
    if delivery.live then
      return { system with
        deliveries := system.deliveries.set index { delivery with rest := .done (.error stopped) } }
    else none
  | .startReplay id replayedBy =>
    some { system with
      replays := system.replays ++ [⟨id, replayedBy, replayDLQEntry id replayedBy⟩] }
  | .replay index answer => do
    let replay ← system.replays[index]?
    let (exchange, rest) ← replay.rest.advance answer
    let answered ← system.answerReplay exchange
    return { answered with replays := system.replays.set index { replay with rest } }
  | .stopReplay index => do
    let replay ← system.replays[index]?
    if replay.live then
      return { system with
        replays := system.replays.set index
          { replay with rest := .done (.error (.raised stopped)) } }
    else none

section Steps

variable {config : Config} {system after : System} {index : Nat}

theorem System.work_effect (system : System) (index : Nat) (job : TransactionJobData) (exchange : ConsumerAnswered) :
    (system.work index job exchange).replays = system.replays ∧
    (system.work index job exchange).publications = system.publications ∧
    (∃ captured, (system.work index job exchange).entries = system.entries ++ captured) ∧
    ((system.work index job exchange).ledger = system.ledger ∨ ∃ movement, (system.work index job exchange).ledger =
        system.ledger ++ [⟨index, job, movement⟩]) := by
  obtain ⟨request, reply, tookEffect⟩ := exchange
  cases request with
  | captureFailure entry =>
    simp only [System.work]
    split
    · exact ⟨rfl, rfl, ⟨[entry], rfl⟩, .inl rfl⟩
    · exact ⟨rfl, rfl, ⟨[], by simp⟩, .inl rfl⟩
  | worker request =>
    simp only [System.work]
    split
    · split
      · exact ⟨rfl, rfl, ⟨[], by simp⟩, .inr ⟨_, rfl⟩⟩
      · exact ⟨rfl, rfl, ⟨[], by simp⟩, .inl rfl⟩
    · split
      · split <;> exact ⟨rfl, rfl, ⟨[], by simp⟩, .inl rfl⟩
      · exact ⟨rfl, rfl, ⟨[], by simp⟩, .inl rfl⟩

theorem deliver_step {job : TransactionJobData} (step : system.step config (.deliver job) = some after) :
    job ∈ system.published ∧
      after = { system with deliveries := system.deliveries ++ [⟨job, consume config job⟩] } := by
  simp only [System.step] at step
  split at step
  · next published => exact ⟨published, (Option.some.inj step).symm⟩
  · cases step

theorem work_step {answer : (request : ConsumerRequest) → Except Thrown request.Reply × Bool}
    (step : system.step config (.work index answer) = some after) :
    ∃ delivery exchange rest, system.deliveries[index]? = some delivery ∧ delivery.live = true ∧
      after = { system.work index delivery.job exchange with
        deliveries := system.deliveries.set index { delivery with rest } } := by
  simp only [System.step, Option.bind_eq_bind, Option.bind_eq_some_iff] at step
  obtain ⟨⟨job, rest⟩, found, ⟨exchange, later⟩, advanced, same⟩ := step
  cases rest with
  | done outcome => cases advanced
  | await request next =>
    exact ⟨_, exchange, later, found, rfl, (Option.some.inj same).symm⟩

theorem stopWork_step (step : system.step config (.stopWork index) = some after) :
    ∃ delivery, system.deliveries[index]? = some delivery ∧ delivery.live = true ∧ after = { system with
        deliveries := system.deliveries.set index
          { delivery with rest := .done (.error stopped) } } := by
  simp only [System.step, Option.bind_eq_bind, Option.bind_eq_some_iff] at step
  obtain ⟨delivery, found, moved⟩ := step
  split at moved
  · next live => exact ⟨delivery, found, live, (Option.some.inj moved).symm⟩
  · cases moved

theorem answerReplay_effect {exchange : ReplayAnswered} {answered : System}
    (effect : system.answerReplay exchange = some answered) :
    answered.deliveries = system.deliveries ∧ answered.ledger = system.ledger := by
  obtain ⟨request, reply, tookEffect⟩ := exchange
  cases request <;> cases reply <;> simp only [System.answerReplay] at effect
  all_goals
    first
    | cases effect; exact ⟨rfl, rfl⟩
    | split at effect <;> cases effect <;> exact ⟨rfl, rfl⟩

theorem replay_step {answer : (request : ReplayRequest) → Except ReplayFailure request.Reply × Bool}
    (step : system.step config (.replay index answer) = some after) :
    ∃ replay exchange rest answered, system.replays[index]? = some replay ∧
      replay.rest.advance answer = some (exchange, rest) ∧
      system.answerReplay exchange = some answered ∧
      after = { answered with replays := system.replays.set index { replay with rest } } := by
  simp only [System.step, Option.bind_eq_bind, Option.bind_eq_some_iff] at step
  obtain ⟨replay, found, ⟨exchange, rest⟩, advanced, answered, effect, same⟩ := step
  exact ⟨replay, exchange, rest, answered, found, advanced, effect, (Option.some.inj same).symm⟩

theorem stopReplay_step (step : system.step config (.stopReplay index) = some after) :
    ∃ replay, system.replays[index]? = some replay ∧ replay.live = true ∧ after = { system with
        replays := system.replays.set index
          { replay with rest := .done (.error (.raised stopped)) } } := by
  simp only [System.step, Option.bind_eq_bind, Option.bind_eq_some_iff] at step
  obtain ⟨replay, found, moved⟩ := step
  split at moved
  · next live => exact ⟨replay, found, live, (Option.some.inj moved).symm⟩
  · cases moved

end Steps

end ProxyPay.Queue
