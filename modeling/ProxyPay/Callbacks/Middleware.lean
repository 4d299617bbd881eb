import ProxyPay.Library.InsertionMap
import ProxyPay.Library.Text
import ProxyPay.Library.Transition

/-! The middleware that drops duplicates of provider callbacks, over its store in memory. It runs without
an interruption until it answers or hands the callback to the handler; a handler ends at any later time. -/

namespace ProxyPay.Callbacks

open ProxyPay.Library

inductive Provider where
  | mtn
  | airtel
  | orange
  deriving DecidableEq

def Provider.name : Provider → String
  | .mtn => "mtn"
  | .airtel => "airtel"
  | .orange => "orange"

/-- What is used of the values of the language; `stringify` is `JSON.stringify(value ?? {})`. -/
structure Values (Value : Type) where
  sha256 : String → String
  stringify : Value → String
  text? : Value → Option String
  truthy : Value → Bool
  isObject : Value → Bool
  member : Value → String → Value

/-- The headers that may carry a key. -/
structure Headers where
  callbackId : Option String
  idempotencyKey : Option String
  referenceId : Option String
  requestId : Option String
  correlationId : Option String
  deriving DecidableEq

structure Callback (Value : Type) where
  provider : Provider
  headers : Headers
  body : Value
  deriving DecidableEq

inductive CallbackStatus where
  | received
  | processed
  | duplicate
  deriving DecidableEq

structure CallbackRecord (Value : Type) where
  idempotencyKey : String
  payloadHash : String
  provider : Provider
  receivedAt : ℕ
  status : CallbackStatus
  responseBody : Option Value
  statusCode : Option ℕ
  deriving DecidableEq

structure Limits where
  ttlMs : ℕ
  maxEntries : ℕ

structure CallbackIdempotencyStore (Value : Type) where
  records : InsertionMap String (CallbackRecord Value)
  hashIndex : InsertionMap String String

variable {Value : Type}

def bodyFields : List String :=
  ["financialTransactionId", "transactionId", "transId", "transaction_id", "tx_ref", "reference", "externalId", "id",
    "order_id"]

namespace Values

variable (values : Values Value)

/-- `first || second || …` over the fields of the body. -/
def firstTruthy (body : Value) : List String → Option Value
  | [] => none
  | field :: rest =>
    if values.truthy (values.member body field) then some (values.member body field) else firstTruthy body rest

/-- The text that stands for a payload. -/
def payloadText (body : Value) : String :=
  (values.text? body).getD (values.stringify body)

def hashPayload (body : Value) : String :=
  values.sha256 (values.payloadText body)

end Values

def Headers.key (headers : Headers) : Option String :=
  Text.orElse headers.callbackId (Text.orElse headers.idempotencyKey (Text.orElse headers.referenceId
    (Text.orElse headers.requestId headers.correlationId)))

/-- A text without blanks at its ends, if something is left. -/
def trimmed (text : Option String) : Option String :=
  Text.truthy ((Text.truthy text).map Text.trim)

def bodyKey (values : Values Value) (body : Value) : Option String :=
  if values.truthy body && values.isObject body then
    trimmed ((values.firstTruthy body bodyFields).bind values.text?)
  else none

def extractCallbackIdempotencyKey (values : Values Value) (callback : Callback Value) : String :=
  match trimmed callback.headers.key with
  | some key => key
  | none =>
    match bodyKey values callback.body with
    | some key => key
    | none => values.sha256 (callback.provider.name ++ ":" ++ values.stringify callback.body)

/-- A key under the name of its provider. -/
def fullKey (provider : Provider) (key : String) : String :=
  provider.name ++ ":" ++ key

namespace CallbackIdempotencyStore

variable (limits : Limits) (store : CallbackIdempotencyStore Value)

def empty : CallbackIdempotencyStore Value := ⟨.empty, .empty⟩

variable (now : ℕ)

def expired (record : CallbackRecord Value) : Bool :=
  limits.ttlMs < now - record.receivedAt

variable (provider : Provider)

/-- The record of the payload, if the index has one that lives. -/
def byHash (payloadHash : String) : Option (CallbackRecord Value) :=
  match Text.truthy (store.hashIndex.get? (fullKey provider payloadHash)) with
  | none => none
  | some existingKey => (store.records.get? existingKey).filter fun record => !expired limits now record

def findDuplicate (idempotencyKey payloadHash : String) :
    Option (CallbackRecord Value) × CallbackIdempotencyStore Value :=
  match store.records.get? (fullKey provider idempotencyKey) with
  | some record =>
    if expired limits now record then
      (none, ⟨store.records.erase (fullKey provider idempotencyKey),
        store.hashIndex.erase (fullKey provider record.payloadHash)⟩)
    else (some record, store)
  | none => (store.byHash limits now provider payloadHash, store)

/-- The oldest record goes when the store is full. Its hash is looked up under the new provider. -/
def evict : CallbackIdempotencyStore Value :=
  if limits.maxEntries ≤ store.records.entries.length then
    match store.records.entries with
    | [] => store
    | (oldestKey, old) :: _ =>
      if oldestKey = "" then store
      else ⟨store.records.erase oldestKey, store.hashIndex.erase (fullKey provider old.payloadHash)⟩
  else store

def recordCallback (idempotencyKey payloadHash : String) :
    CallbackIdempotencyStore Value :=
  let store := store.evict limits provider
  ⟨store.records.set (fullKey provider idempotencyKey)
      ⟨idempotencyKey, payloadHash, provider, now, .received, none, none⟩,
    store.hashIndex.set (fullKey provider payloadHash) (fullKey provider idempotencyKey)⟩

def markProcessed (idempotencyKey : String) (statusCode : ℕ) (responseBody : Option Value) :
    CallbackIdempotencyStore Value :=
  match store.records.get? (fullKey provider idempotencyKey) with
  | some record =>
    let processed := { record with status := .processed, statusCode := some statusCode, responseBody }
    { store with records := store.records.set (fullKey provider idempotencyKey) processed }
  | none => store

end CallbackIdempotencyStore

/-- How a handler ends: it answers, by `res.json` or otherwise, or it throws before it has answered. -/
inductive Ending (Value : Type) where
  | answered (statusCode : ℕ) (json : Option (Option Value))
  | threw
  deriving DecidableEq

def Ending.succeeded : Ending Value → Bool
  | .answered statusCode _ => 200 ≤ statusCode && statusCode < 300
  | .threw => false

/-- A callback that was handed to its handler. -/
structure Handed (Value : Type) where
  callback : Callback Value
  ending : Option (Ending Value)
  deriving DecidableEq

/-- The store, and the callbacks that were handed on so far. -/
structure Service (Value : Type) where
  store : CallbackIdempotencyStore Value
  handed : List (Handed Value)

def Service.initial : Service Value := ⟨.empty, []⟩

inductive Label (Value : Type) where
  | arrive (callback : Callback Value) (now : ℕ)
  | finish (index : ℕ) (ending : Ending Value)
  deriving DecidableEq

namespace Service

variable (values : Values Value) (limits : Limits) (service : Service Value)

variable (callback : Callback Value)

/-- What the store knows of a callback that arrives. -/
def lookup (now : ℕ) : Option (CallbackRecord Value) × CallbackIdempotencyStore Value :=
  service.store.findDuplicate limits now callback.provider (extractCallbackIdempotencyKey values callback)
    (values.hashPayload callback.body)

/-- The middleware, where a duplicate is answered with 200 and not handed on. -/
def callbackIdempotency (now : ℕ) : Service Value :=
  match service.lookup values limits callback now with
  | (some _, store) => { service with store }
  | (none, store) =>
    ⟨store.recordCallback limits now callback.provider (extractCallbackIdempotencyKey values callback)
        (values.hashPayload callback.body),
      service.handed ++ [⟨callback, none⟩]⟩

/-- The handler of a callback ends; only `res.json` is intercepted. -/
def finish (index : ℕ) (ending : Ending Value) : Option (Service Value) := do
  let handed ← service.handed[index]?
  if handed.ending.isSome then none
  else
    let store :=
      match ending with
      | .answered statusCode (some body) =>
        service.store.markProcessed handed.callback.provider (extractCallbackIdempotencyKey values handed.callback)
          statusCode body
      | _ => service.store
    return ⟨store, service.handed.set index { handed with ending := some ending }⟩

def perform : Label Value → Option (Service Value)
  | .arrive callback now => some (service.callbackIdempotency values limits callback now)
  | .finish index ending => service.finish values index ending

end Service

def step (values : Values Value) (limits : Limits) (before : Service Value) (label : Label Value)
    (after : Service Value) : Prop :=
  before.perform values limits label = some after

end ProxyPay.Callbacks
