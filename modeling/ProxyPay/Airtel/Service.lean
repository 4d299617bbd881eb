import ProxyPay.Library.Text
import ProxyPay.SessionQueue.Queue

/-! `AirtelService` in web mode, with the `SessionRequestQueue` that its calls share with one another and with others. A
step goes from one `await` to the next. -/

namespace ProxyPay.Airtel

open ProxyPay.SessionQueue (Queue Outcome)

inductive Operation where
  | payment
  | payout
  deriving DecidableEq

/-- `requestPayment` and `sendPayout` write the references of their calls in the same words. -/
def createReference : Operation → ℕ → String
  | .payout, now => "AIRTEL-PAYOUT-" ++ toString now
  | .payment, now => "AIRTEL-" ++ toString now

structure Config (Amount : Type) where
  mode : String
  webBaseUrl : String
  paymentPath : String
  payoutPath : String
  country : String
  currency : String
  refreshSkewMs : ℚ
  maxAttempts : ℕ
  parseFloat : String → Amount
  /-- Nothing where it throws. -/
  formatPhoneForProvider : String → Option String

structure AirtelSessionState where
  cookies : List (String × String)
  csrfToken : Option String
  expiresAt : ℚ
  deriving DecidableEq

/-- An answer of the provider, with the two fields of its data that are looked at where the data is an object. -/
structure AxiosResponse where
  status : ℕ
  data : String
  error : Option String
  message : Option String
  deriving DecidableEq

/-- What the promise of a task on the queue brings. -/
inductive Value where
  | response (response : AxiosResponse)
  | error (message : String)
  deriving DecidableEq

/-- The data of a request. A payout names neither country nor currency. -/
structure Payload (Amount : Type) where
  reference : String
  msisdn : String
  market : Option (String × String)
  amount : Amount
  id : String

structure HttpRequest (Amount : Type) where
  url : String
  payload : Payload Amount
  cookie : String
  csrfToken : String
  idempotencyKey : String
  /-- What `Date.now` said when the key was made. -/
  sentAt : ℕ

inductive TaskPhase where
  | queued
  | ensuring
  | waiting
  | delaying
  | over (result : Except Value Value)
  deriving DecidableEq

/-- A call of `performRequestWithSessionAndRetry`, from the moment it is put on the queue. -/
structure Task (Amount : Type) where
  entry : ℕ
  phase : TaskPhase
  attempt : ℕ
  lastResponse : Option AxiosResponse
  lastError : Option String
  requests : List (HttpRequest Amount)

inductive Reply where
  | answered (success : Bool) (data : Option String)
  | failed (error : Outcome Value)

/-- A call of `requestPayment` or `sendPayout`, with what `Date.now` said when its reference was made. -/
structure Call (Amount : Type) where
  operation : Operation
  phoneNumber : String
  amount : String
  reference : String
  calledAt : ℕ
  guard : ℕ
  tasks : List (Task Amount)
  reply : Option Reply

structure AirtelService (Amount : Type) where
  session : Option AirtelSessionState
  queue : Queue String Value
  calls : List (Call Amount)

def AirtelService.initial (Amount : Type) (maxQueueDepth : ℕ) : AirtelService Amount :=
  ⟨none, .initial maxQueueDepth, []⟩

/-- Others use the queue and the session too. `ensureSession` brings what a refresh or a login came to, where it has to
ask for one, and `respond` what `captureSession` has made of the session. -/
inductive Label where
  | requestPayment (phoneNumber amount : String) (now : ℕ) (queuedAt : ℚ)
  | sendPayout (phoneNumber amount : String) (now : ℕ) (queuedAt : ℚ)
  | queue (label : SessionQueue.Label String Value)
  | session (session : Option AirtelSessionState)
  | start (call task : ℕ)
  | ensureSession (call task : ℕ) (clock : ℚ) (asked : Except String AirtelSessionState) (now : ℕ)
  | respond (call task : ℕ) (response : AxiosResponse) (session : Option AirtelSessionState)
  | fail (call task : ℕ) (message : String)
  | wake (call task : ℕ)
  | settle (call : ℕ) (queuedAt : ℚ)

variable {Amount : Type}

variable (response : AxiosResponse)

def isSessionExpiredResponse : Bool :=
  response.status = 401 || response.status = 403 || response.error = some "unauthorized" ||
    response.message.any fun message => Library.Text.includes message "session"

def serializeCookies (session : AirtelSessionState) : String :=
  "; ".intercalate (session.cookies.map fun cookie => cookie.1 ++ "=" ++ cookie.2)

def toProviderResult : Reply :=
  if response.status < 200 || 300 ≤ response.status then .answered false none else .answered true (some response.data)

namespace Config

def sessionQueueKey (config : Config Amount) : String :=
  "airtel:" ++ config.mode ++ ":" ++ config.webBaseUrl

def endpoint (config : Config Amount) : Operation → String
  | .payment => config.paymentPath
  | .payout => config.payoutPath

def payload (config : Config Amount) (call : Call Amount) : Payload Amount where
  reference := call.reference
  msisdn := call.phoneNumber
  market := match call.operation with
    | .payment => some (config.country, config.currency)
    | .payout => none
  amount := config.parseFloat call.amount
  id := call.reference

/-- The request of an attempt. The data of a call carries no headers, so that every attempt makes its own key. -/
def request (config : Config Amount) (call : Call Amount) (session : AirtelSessionState) (now : ℕ) : HttpRequest Amount where
  url := config.endpoint call.operation
  payload := config.payload call
  cookie := serializeCookies session
  csrfToken := session.csrfToken.getD ""
  idempotencyKey := createReference call.operation now
  sentAt := now

end Config

namespace Task

def fresh (entry : ℕ) : Task Amount :=
  ⟨entry, .queued, 0, none, none, []⟩

/-- The head of the loop, and what stands behind it. -/
def next (config : Config Amount) (task : Task Amount) : Task Amount :=
  if task.attempt < config.maxAttempts then
    { task with phase := .ensuring, attempt := task.attempt + 1 }
  else
    match task.lastResponse with
    | some response => { task with phase := .over (.ok (.response response)) }
    | none => { task with phase := .over (.error (.error (task.lastError.getD "Airtel web session request failed"))) }

def send (request : HttpRequest Amount) (task : Task Amount) : Task Amount :=
  { task with phase := .waiting, requests := task.requests ++ [request] }

def respond (config : Config Amount) (response : AxiosResponse) (task : Task Amount) : Task Amount :=
  if isSessionExpiredResponse response then
    { task with lastResponse := some response }.next config
  else if 500 ≤ response.status && task.attempt < config.maxAttempts then
    { task with phase := .delaying, lastResponse := some response }
  else
    { task with phase := .over (.ok (.response response)) }

def fail (config : Config Amount) (message : String) (task : Task Amount) : Task Amount :=
  if config.maxAttempts ≤ task.attempt then
    { task with phase := .over (.error (.error message)) }
  else
    { task with phase := .delaying, lastError := some message }

end Task

def Call.requests (call : Call Amount) : List (HttpRequest Amount) :=
  call.tasks.flatMap Task.requests

def Call.change (task : ℕ) (new : Task Amount) (call : Call Amount) : Call Amount :=
  { call with tasks := call.tasks.set task new }

namespace AirtelService

variable (service : AirtelService Amount)

def change (index : ℕ) (call : Call Amount) : AirtelService Amount :=
  { service with calls := service.calls.set index call }

/-- The call's turn in `requestWithSessionAndRetry`: a task is put on the queue, bound to the session of the moment. -/
def enqueue (config : Config Amount) (service : AirtelService Amount) (queuedAt : ℚ) : Queue String Value :=
  service.queue.enqueue config.sessionQueueKey (service.session.map (·.expiresAt)) queuedAt

variable (config : Config Amount)

def call (service : AirtelService Amount) (operation : Operation) (phoneNumber amount : String)
    (now : ℕ) (queuedAt : ℚ) : AirtelService Amount :=
  { service with
    queue := service.enqueue config queuedAt
    calls := service.calls ++ [{
      operation, phoneNumber, amount
      reference := createReference operation now
      calledAt := now
      guard := 0
      tasks := [.fresh service.queue.requests.length]
      reply := none }] }

/-- The task of an entry of the queue is over when the queue has done with it. -/
def allows : SessionQueue.Label String Value → Bool
  | .finish state result =>
    match service.queue.states[state]?.bind (·.current) with
    | some entry =>
      service.calls.all fun call => call.tasks.all fun task => task.entry ≠ entry || task.phase = .over result
    | none => true
  | _ => true

/-- What `ensureSession` brings, and the session that it leaves. -/
def ensureSession (service : AirtelService Amount) (forceLogin : Bool) (clock : ℚ)
    (asked : Except String AirtelSessionState) : Except String AirtelSessionState × Option AirtelSessionState :=
  match if forceLogin then none else service.session.filter fun cached => clock < cached.expiresAt with
  | some cached =>
    if cached.expiresAt - config.refreshSkewMs ≤ clock then (asked, asked.toOption) else (.ok cached, some cached)
  | none => (asked, asked.toOption.or service.session)

def ensured (service : AirtelService Amount) (index : ℕ) (call : Call Amount) (number : ℕ)
    (task : Task Amount) (clock : ℚ) (asked : Except String AirtelSessionState) (now : ℕ) : AirtelService Amount :=
  match service.ensureSession config (1 < task.attempt) clock asked with
  | (.error message, session) =>
    { service.change index (call.change number { task with phase := .over (.error (.error message)) }) with session }
  | (.ok session, current) =>
    { service.change index (call.change number (task.send (config.request call session now))) with session := current }

/-- The catch block of `requestWithSessionAndRetry`, and what the caller is told. -/
def settled (service : AirtelService Amount) (index : ℕ) (call : Call Amount)
    (outcome : Outcome Value) (queuedAt : ℚ) : AirtelService Amount :=
  match outcome with
  | .timeout _ =>
    if call.guard = 0 then
      let service := { service with session := none }
      { service.change index { call with
          guard := call.guard + 1
          tasks := call.tasks ++ [.fresh service.queue.requests.length] } with
        queue := service.enqueue config queuedAt }
    else
      service.change index { call with reply := some (.failed outcome) }
  | .resolved (.response response) => service.change index { call with reply := some (toProviderResult response) }
  | _ => service.change index { call with reply := some (.failed outcome) }

/-- The promise of the call's last task. -/
def settlement (service : AirtelService Amount) (call : Call Amount) : Option (Outcome Value) :=
  call.tasks.getLast?.bind fun task => service.queue.requests[task.entry]?.bind (·.settlement)

def resume (service : AirtelService Amount) (index : ℕ) (queuedAt : ℚ) :
    Option (AirtelService Amount) :=
  match service.calls[index]? with
  | none => none
  | some call =>
    match call.reply, service.settlement call with
    | none, some outcome => some (service.settled config index call outcome queuedAt)
    | _, _ => none

/-- What a task of a call does in a phase. -/
def proceed (index number : ℕ) (phase : TaskPhase)
    (body : Call Amount → Task Amount → AirtelService Amount) : Option (AirtelService Amount) :=
  match service.calls[index]? with
  | none => none
  | some call =>
    match call.tasks[number]? with
    | none => none
    | some task => if task.phase = phase then some (body call task) else none

def perform (config : Config Amount) (service : AirtelService Amount) : Label → Option (AirtelService Amount)
  | .requestPayment phoneNumber amount now queuedAt =>
    some (service.call config .payment phoneNumber amount now queuedAt)
  | .sendPayout phoneNumber amount now queuedAt =>
    match config.formatPhoneForProvider phoneNumber with
    | none => some service
    | some phoneNumber => some (service.call config .payout phoneNumber amount now queuedAt)
  | .queue label =>
    if service.allows label then (service.queue.perform label).map fun queue => { service with queue } else none
  | .session session => some { service with session }
  | .start index number =>
    service.proceed index number .queued fun call task =>
      -- a task runs when the queue has come to its entry
      if (config.sessionQueueKey, task.entry) ∈ service.queue.started then
        service.change index (call.change number (task.next config))
      else service
  | .ensureSession index number clock asked now =>
    service.proceed index number .ensuring fun call task => service.ensured config index call number task clock asked now
  | .respond index number response session =>
    service.proceed index number .waiting fun call task =>
      { service.change index (call.change number (task.respond config response)) with
        session := if isSessionExpiredResponse response then none else session }
  | .fail index number message =>
    service.proceed index number .waiting fun call task =>
      service.change index (call.change number (task.fail config message))
  | .wake index number =>
    service.proceed index number .delaying fun call task => service.change index (call.change number (task.next config))
  | .settle index queuedAt => service.resume config index queuedAt

end AirtelService

def step (config : Config Amount) (before : AirtelService Amount) (label : Label) (after : AirtelService Amount) : Prop :=
  before.perform config label = some after

end ProxyPay.Airtel
