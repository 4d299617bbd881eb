import ProxyPay.Callbacks.Middleware
import Mathlib.Data.Int.Notation

/-! The store of the callbacks by itself: any provider, key and payload hash, one call after another, while the clock
does not go back. -/

namespace ProxyPay.Callbacks.Store

open ProxyPay.Library

/-- What is known of a callback when it is recorded. -/
structure Received where
  idempotencyKey : String
  payloadHash : String
  provider : String
  receivedAt : ℤ
  deriving DecidableEq

structure CallbackRecord (Value : Type) extends Received where
  status : CallbackStatus
  responseBody : Option Value
  statusCode : Option ℕ
  deriving DecidableEq

structure Limits where
  ttlMs : ℤ
  maxEntries : ℕ

structure CallbackIdempotencyStore (Value : Type) where
  records : InsertionMap String (CallbackRecord Value)
  hashIndex : InsertionMap String String

/-- A key under the name of its provider. -/
def fullKey (provider key : String) : String :=
  provider ++ ":" ++ key

namespace Received

def name (callback : Received) : String :=
  fullKey callback.provider callback.idempotencyKey

def hashName (callback : Received) : String :=
  fullKey callback.provider callback.payloadHash

def Fresh (limits : Limits) (now : ℤ) (callback : Received) : Prop :=
  now - callback.receivedAt ≤ limits.ttlMs

instance (limits : Limits) (now : ℤ) : DecidablePred (Fresh limits now) :=
  fun _ => inferInstanceAs (Decidable (_ ≤ _))

end Received

variable {Value : Type}

namespace CallbackIdempotencyStore

variable (limits : Limits) (store : CallbackIdempotencyStore Value)

def empty : CallbackIdempotencyStore Value := ⟨.empty, .empty⟩

/-- The record of the payload, if the index has one that lives. -/
def byHash (now : ℤ) (provider payloadHash : String) : Option (CallbackRecord Value) :=
  match Text.truthy (store.hashIndex.get? (fullKey provider payloadHash)) with
  | none => none
  | some existingKey =>
    (store.records.get? existingKey).filter fun record => record.toReceived.Fresh limits now

def findDuplicate (now : ℤ) (provider idempotencyKey payloadHash : String) :
    Option (CallbackRecord Value) × CallbackIdempotencyStore Value :=
  match store.records.get? (fullKey provider idempotencyKey) with
  | some record =>
    if record.toReceived.Fresh limits now then (some record, store)
    else
      (none, ⟨store.records.erase (fullKey provider idempotencyKey),
        store.hashIndex.erase (fullKey provider record.payloadHash)⟩)
  | none => (store.byHash limits now provider payloadHash, store)

/-- The record that goes when the store is full. -/
def oldest : Option (String × CallbackRecord Value) :=
  if limits.maxEntries ≤ store.records.entries.length then store.records.entries.head?.filter fun entry => entry.1 ≠ ""
  else none

/-- Its hash is looked up under the new provider. -/
def evict (provider : String) : CallbackIdempotencyStore Value :=
  match store.oldest limits with
  | some (oldestKey, old) =>
    ⟨store.records.erase oldestKey, store.hashIndex.erase (fullKey provider old.payloadHash)⟩
  | none => store

def recordCallback (now : ℤ) (provider idempotencyKey payloadHash : String) : CallbackIdempotencyStore Value :=
  let store := store.evict limits provider
  ⟨store.records.set (fullKey provider idempotencyKey)
      ⟨⟨idempotencyKey, payloadHash, provider, now⟩, .received, none, none⟩,
    store.hashIndex.set (fullKey provider payloadHash) (fullKey provider idempotencyKey)⟩

def markProcessed (provider idempotencyKey : String) (statusCode : ℕ) (responseBody : Option Value) :
    CallbackIdempotencyStore Value :=
  match store.records.get? (fullKey provider idempotencyKey) with
  | some record =>
    let processed := { record with status := .processed, statusCode := some statusCode, responseBody }
    { store with records := store.records.set (fullKey provider idempotencyKey) processed }
  | none => store

def getRecordCount : ℕ := store.records.entries.length

end CallbackIdempotencyStore

/-! Calls one after another. -/

inductive Call (Value : Type) where
  | findDuplicate (provider idempotencyKey payloadHash : String)
  | recordCallback (provider idempotencyKey payloadHash : String)
  | markProcessed (provider idempotencyKey : String) (statusCode : ℕ) (responseBody : Option Value)
  | clear
  deriving DecidableEq

/-- The store, the time of the last call, and the callbacks that were recorded and are neither evicted nor replaced
nor cleared. -/
structure System (Value : Type) where
  store : CallbackIdempotencyStore Value
  clock : ℤ
  surviving : List Received

def System.initial (clock : ℤ) : System Value := ⟨.empty, clock, []⟩

namespace System

variable (limits : Limits) (system : System Value)

/-- The callbacks that survive when another one is recorded. -/
def remaining (key : String) : List Received :=
  system.surviving.filter fun callback =>
    callback.name ≠ key && (system.store.oldest limits).all fun entry => callback.name ≠ entry.1

def perform (now : ℤ) : Call Value → System Value
  | .findDuplicate provider key hash => ⟨(system.store.findDuplicate limits now provider key hash).2, now, system.surviving⟩
  | .recordCallback provider key hash =>
    ⟨system.store.recordCallback limits now provider key hash, now,
      system.remaining limits (fullKey provider key) ++ [⟨key, hash, provider, now⟩]⟩
  | .markProcessed provider key statusCode body =>
    ⟨system.store.markProcessed provider key statusCode body, now, system.surviving⟩
  | .clear => ⟨.empty, now, []⟩

def next (label : ℤ × Call Value) : Option (System Value) :=
  if system.clock ≤ label.1 then some (system.perform limits label.1 label.2) else none

end System

def step (limits : Limits) (before : System Value) (label : ℤ × Call Value) (after : System Value) : Prop :=
  before.next limits label = some after

/-! What the store promises. -/

/-- There are no more records than allowed, and every entry of the index leads to a record of its provider and
payload. -/
structure Consistent (limits : Limits) (store : CallbackIdempotencyStore Value) : Prop where
  bounded : store.getRecordCount ≤ limits.maxEntries
  indexed : ∀ name key, store.hashIndex.get? name = some key →
    ∃ record, store.records.get? key = some record ∧ name = record.toReceived.hashName
  few : store.hashIndex.entries.length ≤ store.getRecordCount

/-- A callback that a duplicate is one of. -/
def Matches (limits : Limits) (system : System Value) (now : ℤ) (provider key hash : String) (callback : Received) : Prop :=
  callback ∈ system.surviving ∧ callback.Fresh limits now ∧ callback.provider = provider ∧
    (callback.idempotencyKey = key ∨ callback.payloadHash = hash)

/-- A duplicate is found exactly if there is one, and what is found is one. -/
def Answers (limits : Limits) (system : System Value) : ℤ × Call Value → Prop
  | (now, .findDuplicate provider key hash) =>
    let answer := (system.store.findDuplicate limits now provider key hash).1
    (answer.isSome = true ↔ ∃ callback, Matches limits system now provider key hash callback) ∧
      ∀ record, answer = some record → Matches limits system now provider key hash record.toReceived
  | _ => True

/-! The condition under which it does. -/

namespace CallbackIdempotencyStore

variable (limits : Limits) (store : CallbackIdempotencyStore Value)

/-- The record found under the key is of the provider; if it has expired, the index leads from its payload and from
the payload in question to nothing that lives. -/
def findsWell (now : ℤ) (provider key hash : String) : Bool :=
  match store.records.get? (fullKey provider key) with
  | some record =>
    record.provider = provider && (record.toReceived.Fresh limits now ||
      (store.byHash limits now provider record.payloadHash).isNone && (store.byHash limits now provider hash).isNone)
  | none => (store.byHash limits now provider hash).all fun record => record.provider = provider

/-- Where a record is evicted: the index does not lead to it, or leads from its payload under the new provider's name,
or the entry is written anew; and no other record that lives has its payload under the new provider's name. -/
def evictsWell (now : ℤ) (provider key hash : String) : Bool :=
  (store.oldest limits).all fun (oldestKey, old) =>
    (store.hashIndex.get? old.toReceived.hashName ≠ some oldestKey ||
        old.toReceived.hashName = fullKey provider old.payloadHash || old.toReceived.hashName = fullKey provider hash) &&
      (fullKey provider old.payloadHash = fullKey provider hash ||
        store.records.entries.all fun entry =>
          entry.1 = oldestKey || entry.1 = fullKey provider key || !entry.2.toReceived.Fresh limits now ||
            entry.2.toReceived.hashName ≠ fullKey provider old.payloadHash)

/-- A record that is replaced has the same payload, or the index does not lead to it. -/
def replacesWell (provider key hash : String) : Bool :=
  ((store.evict limits provider).records.get? (fullKey provider key)).all fun record =>
    record.toReceived.hashName = fullKey provider hash ||
      (store.evict limits provider).hashIndex.get? record.toReceived.hashName ≠ some (fullKey provider key)

end CallbackIdempotencyStore

def isTidy (limits : Limits) (system : System Value) : ℤ × Call Value → Bool
  | (now, .findDuplicate provider key hash) => system.store.findsWell limits now provider key hash
  | (now, .recordCallback provider key hash) =>
    system.store.evictsWell limits now provider key hash && system.store.replacesWell limits provider key hash
  | _ => true

end ProxyPay.Callbacks.Store
