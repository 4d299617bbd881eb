import ProxyPay.Library.Fault
import ProxyPay.Library.Text

/-! The middleware that replays the response of a request to its retries, over the table of keys. Each
statement and the handler that it calls is one awaited request; warnings are left out. -/

namespace ProxyPay.Idempotency

open ProxyPay.Library

/-- A request of an authenticated user; the body is absent where none was parsed. -/
structure HttpRequest (Body : Type) where
  user : String
  method : String
  originalUrl : String
  idempotencyKey : Option String
  body : Option Body
  deriving DecidableEq

/-- A status with a JSON body, where `undefined` and `null` are the absent one. -/
structure Response (Body : Type) where
  statusCode : ℕ
  body : Option Body
  deriving DecidableEq

inductive KeyState where
  | inProgress
  | completed
  deriving DecidableEq

structure IdempotencyRow (Body : Type) where
  key : String
  method : String
  path : String
  requestHash : String
  state : KeyState
  statusCode : Option ℕ
  responseBody : Option Body
  expiresAt : ℕ
  deriving DecidableEq

/-- What the middleware is given: the hash, JSON, what a JSONB column keeps of a value, and the time that
a key lives. -/
structure Platform (Body : Type) where
  sha256 : String → String
  stringify : Body → String
  emptyObject : Body
  jsonb : Body → Body
  ttl : ℕ

/-- How a handler answers: `res.json`, or another way that the middleware does not see. -/
structure Answer (Body : Type) where
  response : Response Body
  byJson : Bool
  deriving DecidableEq

inductive Statement (Body : Type) where
  | deleteExpired (key : String)
  | dateNow
  | insertKey (key method path requestHash : String) (expiresAt : ℕ)
  | selectKey (key : String)
  | next (request : HttpRequest Body)
  | storeResponse (key : String) (response : Response Body)
  | releaseKey (key : String)

def Statement.Reply {Body : Type} : Statement Body → Type
  | .dateNow => ℕ
  | .insertKey .. => ℕ
  | .selectKey _ => Option (IdempotencyRow Body)
  | .next _ => Answer Body
  | _ => Unit

/-- What the client receives. -/
inductive Outcome (Body : Type) where
  | handled (response : Response Body)
  | rejected (statusCode : ℕ) (error : String)
  | replayed (response : Response Body)
  deriving DecidableEq

abbrev Work (Body : Type) := Script (Statement Body) Statement.Reply String

variable {Body : Type}

def ask (statement : Statement Body) : Work Body statement.Reply :=
  Script.call statement

def maxKeyLength : ℕ := 255

def mutatingMethods : List String := ["POST", "PUT", "PATCH"]

def requestText (platform : Platform Body) (request : HttpRequest Body) : String :=
  request.method ++ ":" ++ request.originalUrl ++ ":" ++
    platform.stringify (request.body.getD platform.emptyObject)

def hashRequest (platform : Platform Body) (request : HttpRequest Body) : String :=
  platform.sha256 (requestText platform request)

/-- Nothing when the key was claimed, else the row that is there. -/
def claimKey (platform : Platform Body) (key : String) (request : HttpRequest Body) (requestHash : String) :
    Work Body (Option (IdempotencyRow Body)) := do
  let _ ← ask (.deleteExpired key)
  let now : ℕ ← ask .dateNow
  let inserted : ℕ ← ask (.insertKey key request.method
    (String.ofList (request.originalUrl.toList.take 512)) requestHash (now + platform.ttl))
  if inserted = 1 then return none
  else
    let existing : Option (IdempotencyRow Body) ← ask (.selectKey key)
    return existing

variable (request : HttpRequest Body)

/-- The handler without the middleware. -/
def pass : Work Body (Outcome Body) := do
  let answer : Answer Body ← ask (.next request)
  return .handled answer.response

/-- A successful response is stored and another one releases the key; failures are only logged. -/
def persist (key : String) (response : Response Body) : Work Body Unit :=
  if 200 ≤ response.statusCode ∧ response.statusCode < 300 then
    Script.ignoringErrors (ask (.storeResponse key response))
  else Script.ignoringErrors (ask (.releaseKey key))

/-- The handler with `captureResponse`. The client has its response before it is stored. -/
def handle (key : String) (request : HttpRequest Body) : Work Body (Outcome Body) := do
  let answer : Answer Body ← ask (.next request)
  if answer.byJson then
    persist key answer.response
    return .handled answer.response
  else return .handled answer.response

def keyTooLong : String := "Idempotency-Key must be 255 characters or fewer"

def differentPayload : String := "Idempotency-Key was already used with a different request payload"

def stillProcessed : String := "A request with this Idempotency-Key is still being processed"

/-- What a request gets when the key is in use. -/
def reuse (requestHash : String) (existing : IdempotencyRow Body) : Outcome Body :=
  if existing.requestHash ≠ requestHash then .rejected 409 differentPayload
  else if existing.state = .inProgress then .rejected 409 stillProcessed
  else .replayed ⟨existing.statusCode.getD 200, existing.responseBody⟩

/-- The key in the header, without blanks at its ends. -/
def HttpRequest.key? : Option String :=
  Text.truthy (request.idempotencyKey.map Text.trim)

def protect (platform : Platform Body) (key : String) (request : HttpRequest Body) : Work Body (Outcome Body) := do
  let requestHash := hashRequest platform request
  let claimed : Option (Option (IdempotencyRow Body)) ←
    Script.catching
      (do
        let existing ← claimKey platform key request requestHash
        return some existing)
      fun _ => return none
  match claimed with
  -- The store is unavailable.
  | none => pass request
  | some none => handle key request
  | some (some existing) => return reuse requestHash existing

def idempotency (platform : Platform Body) (request : HttpRequest Body) : Work Body (Outcome Body) :=
  if request.method ∉ mutatingMethods then pass request
  else
    match request.key? with
    | none => pass request
    | some key =>
      if maxKeyLength < key.length then
        return .rejected 400 keyTooLong
      else protect platform key request

/-- The table of keys at a moment. -/
structure Store (Body : Type) where
  now : ℕ
  rows : List (IdempotencyRow Body)
  deriving DecidableEq

/-- How much time passes before a statement, whether it or its reply is lost, and what a handler answers. -/
structure Event (Body : Type) where
  elapsed : ℕ
  fault : Option Fault
  answer : Answer Body
  deriving DecidableEq

namespace Store

variable (platform : Platform Body) (store : Store Body)

def complete (key : String) (response : Response Body) : Store Body :=
  { store with rows := store.rows.map fun row =>
      if row.key = key then
        { row with
          state := .completed
          statusCode := some response.statusCode
          responseBody := response.body.map platform.jsonb }
      else row }

def perform (answer : Answer Body) : (statement : Statement Body) → statement.Reply × Store Body
  | .deleteExpired key =>
    ((), { store with rows := store.rows.filter fun row => !(row.key = key && row.expiresAt ≤ store.now) })
  | .dateNow => (store.now, store)
  | .insertKey key method path requestHash expiresAt =>
    if store.rows.any fun row => row.key = key then ((0 : ℕ), store)
    else ((1 : ℕ), { store with rows := store.rows ++
      [⟨key, method, path, requestHash, .inProgress, none, none, expiresAt⟩] })
  | .selectKey key => (store.rows.find? fun row => row.key = key, store)
  | .next _ => (answer, store)
  | .storeResponse key response => ((), store.complete platform key response)
  | .releaseKey key => ((), { store with rows := store.rows.filter fun row => row.key ≠ key })

def wait (elapsed : ℕ) : Store Body :=
  { store with now := store.now + elapsed }

end Store

def connectionLost : String := "Connection terminated unexpectedly"

/-- Only statements of the database fail. -/
def Statement.isQuery : Statement Body → Bool
  | .dateNow => false
  | .next _ => false
  | _ => true

def server (platform : Platform Body) : Server (Statement Body) Statement.Reply String (Event Body) (Store Body) where
  serve store event statement :=
    let store := store.wait event.elapsed
    Fault.deliver connectionLost store (if statement.isQuery then event.fault else none)
      (.ok (store.perform platform event.answer statement))

abbrev Requester (Body : Type) :=
  Caller (HttpRequest Body) (Statement Body) Statement.Reply String (Outcome Body)

abbrev Traffic (Body : Type) :=
  Service (HttpRequest Body) (Statement Body) Statement.Reply String (Outcome Body) (Store Body)

abbrev Move (Body : Type) := Turn (HttpRequest Body) (Event Body)

def Traffic.initial : Traffic Body := ⟨⟨0, []⟩, []⟩

/-- A request arrives, or the next statement of a request is executed. -/
def step (platform : Platform Body) : Traffic Body → Move Body → Traffic Body → Prop :=
  Service.step (server platform) (idempotency platform)

end ProxyPay.Idempotency
