import ProxyPay.Library.Fault
import ProxyPay.Library.Text

/-! The fee strategies with their cache: the table, the entries in Redis, and the operations of the
engine as scripts over single statements. -/

namespace ProxyPay.FeeStrategies

open ProxyPay.Library ProxyPay.Library.Text

inductive FeeStrategyType where
  | flat
  | percentage
  | timeBased
  | volumeBased
  deriving DecidableEq

inductive FeeStrategyScope where
  | user
  | provider
  | global
  deriving DecidableEq

/-- The order in which the scopes are returned. -/
def FeeStrategyScope.rank : FeeStrategyScope → Nat
  | .user => 1
  | .provider => 2
  | .global => 3

/-- The other columns that a request may set. -/
inductive Column where
  | name
  | description
  | flatAmount
  | feePercentage
  | feeMinimum
  | feeMaximum
  | daysOfWeek
  | timeStart
  | timeEnd
  | overridePercentage
  | overrideFlatAmount
  | volumeTiers
  deriving DecidableEq

/-- A UUID, as a text. -/
structure UserId where
  text : String
  nonempty : text ≠ ""
  noColon : ':' ∉ text.toList
  deriving DecidableEq

structure FeeStrategy where
  id : String
  strategyType : FeeStrategyType
  scope : FeeStrategyScope
  userId : Option UserId
  provider : Option String
  priority : Int
  isActive : Bool
  columns : List (Column × String)
  createdBy : String
  updatedBy : String
  deriving DecidableEq

structure CreateFeeStrategyRequest where
  strategyType : FeeStrategyType
  scope : FeeStrategyScope
  userId : Option UserId
  provider : Option String
  priority : Option Int
  columns : List (Column × String)
  deriving DecidableEq

structure UpdateFeeStrategyRequest where
  priority : Option Int
  isActive : Option Bool
  columns : List (Column × String)
  deriving DecidableEq

/-- Whom the strategies are resolved for. -/
structure FeeContext where
  userId : Option UserId
  provider : Option String
  deriving DecidableEq

/-- The rows of `fee_strategies`. -/
abbrev Table := List FeeStrategy

namespace Table

def selects (context : FeeContext) (strategy : FeeStrategy) : Bool :=
  strategy.isActive &&
    match strategy.scope with
    | .global => true
    | .provider => (truthy context.provider).any fun provider => strategy.provider = some provider
    | .user => context.userId.any fun userId => strategy.userId = some userId

def before (first second : FeeStrategy) : Bool :=
  first.scope.rank < second.scope.rank ||
    first.scope.rank = second.scope.rank && first.priority ≤ second.priority

variable (table : Table)

/-- The answer to the query; a tie keeps the order of the table. -/
def resolve (context : FeeContext) : List FeeStrategy :=
  (table.filter (selects context)).mergeSort before

def insert (id : String) (data : CreateFeeStrategyRequest) (createdBy : String) : FeeStrategy × Table :=
  let strategy : FeeStrategy :=
    { id, strategyType := data.strategyType, scope := data.scope, userId := data.userId,
      provider := data.provider, priority := data.priority.getD 100, isActive := true,
      columns := data.columns, createdBy, updatedBy := createdBy }
  (strategy, table ++ [strategy])

def setColumn (columns : List (Column × String)) (change : Column × String) : List (Column × String) :=
  columns.filter (fun column => column.1 ≠ change.1) ++ [change]

def change (data : UpdateFeeStrategyRequest) (updatedBy : String) (strategy : FeeStrategy) : FeeStrategy :=
  { strategy with
    priority := data.priority.getD strategy.priority
    isActive := data.isActive.getD strategy.isActive
    columns := data.columns.foldl setColumn strategy.columns
    updatedBy }

def update (id : String) (data : UpdateFeeStrategyRequest) (updatedBy : String) : Table :=
  table.map fun strategy => if strategy.id = id then change data updatedBy strategy else strategy

end Table

/-- An entry of the cache. -/
structure Entry where
  version : Nat
  data : List FeeStrategy
  deriving DecidableEq

/-- The table with all that it was before, the oldest first, and what is in Redis. -/
structure Store where
  past : List Table
  table : Table
  version : Option Nat
  entries : List (String × Entry)
  deriving DecidableEq

def Store.empty : Store := ⟨[], [], none, []⟩

/-- What was read, and how many writes the reader saw; the engine does not look at the latter. -/
structure Read where
  rows : List FeeStrategy
  sees : Nat
  deriving DecidableEq

/-- The answer to a write, and which write it was if it changed the table. -/
structure Written (α : Type) where
  value : α
  commit : Option Nat
  deriving DecidableEq

structure AuditEntry where
  strategyId : String
  action : String
  oldValues : Option FeeStrategy
  newValues : Option FeeStrategy
  changedBy : String
  deriving DecidableEq

/-- What the engine awaits: statements of the database first, then commands of Redis. -/
inductive Statement where
  | selectStrategies (context : FeeContext)
  | selectStrategy (id : String)
  | insertStrategy (data : CreateFeeStrategyRequest) (createdBy : String)
  | updateStrategy (id : String) (data : UpdateFeeStrategyRequest) (updatedBy : String)
  | deleteStrategy (id : String)
  | insertAudit (entry : AuditEntry)
  | get (key : String)
  | getVersion
  | setEx (key : String) (entry : Entry)
  | incrVersion
  | expireVersion
  | keys
  | del (keys : List String)
  | publish
  deriving DecidableEq

@[reducible] def Statement.Reply : Statement → Type
  | .selectStrategies _ => Read
  | .selectStrategy _ => Option FeeStrategy
  | .insertStrategy .. => Written FeeStrategy
  | .updateStrategy .. => Written (Option FeeStrategy)
  | .deleteStrategy _ => Written Nat
  | .insertAudit _ => Unit
  | .get _ => Option Entry
  | .getVersion => Option Nat
  | .setEx .. => Unit
  | .incrVersion => Nat
  | .expireVersion => Unit
  | .keys => List String
  | .del _ => Unit
  | .publish => Unit

def Statement.isRedis : Statement → Bool
  | .get _ | .getVersion | .setEx .. | .incrVersion | .expireVersion | .keys | .del _ | .publish => true
  | _ => false

namespace Store

variable (store : Store)

/-- The version counter; a key that is not there counts as zero. -/
def current : Nat :=
  store.version.getD 0

/-- The table after so many writes. -/
def tableAt (writes : Nat) : Option Table :=
  (store.past ++ [store.table])[writes]?

def write (table : Table) : Store :=
  { store with past := store.past ++ [store.table], table }

def removeEntries (keys : List String) : Store :=
  { store with entries := store.entries.filter fun entry => entry.1 ∉ keys }

def perform (drawn : String) : (statement : Statement) → statement.Reply × Store
  | .selectStrategies context => (⟨store.table.resolve context, store.past.length⟩, store)
  | .selectStrategy id => (store.table.find? fun strategy => strategy.id = id, store)
  | .insertStrategy data createdBy =>
    let inserted := store.table.insert drawn data createdBy
    (⟨inserted.1, some (store.past.length + 1)⟩, store.write inserted.2)
  | .updateStrategy id data updatedBy =>
    let updated := store.table.update id data updatedBy
    match updated.find? fun strategy => strategy.id = id with
    | none => (⟨none, none⟩, store)
    | some strategy => (⟨some strategy, some (store.past.length + 1)⟩, store.write updated)
  | .deleteStrategy id =>
    let deleted := store.table.countP fun strategy => strategy.id = id
    if deleted = 0 then (⟨0, none⟩, store)
    else (⟨deleted, some (store.past.length + 1)⟩,
      store.write (store.table.filter fun strategy => strategy.id ≠ id))
  | .insertAudit _ => ((), store)
  | .get key => ((store.entries.find? fun entry => entry.1 = key).map Prod.snd, store)
  | .getVersion => (store.version, store)
  | .setEx key entry =>
    ((), { store with entries := (key, entry) :: store.entries.filter fun other => other.1 ≠ key })
  | .incrVersion => (store.current + 1, { store with version := some (store.current + 1) })
  | .expireVersion => ((), store)
  | .keys => (store.entries.map Prod.fst, store)
  | .del keys => ((), store.removeEntries keys)
  | .publish => ((), store)

end Store

/-- What a request meets: the keys of Redis that expire before it, how its connection to the database
fails, whether the database refuses it, and the id that a new row gets. -/
structure Event where
  expired : List String
  versionExpired : Bool
  fault : Option Fault
  refused : Bool
  drawn : String
  deriving DecidableEq

def Event.calm : Event := ⟨[], false, none, false, ""⟩

def connectionLost : String := "Connection terminated unexpectedly"

def refusedByDatabase : String := "the database refuses the statement"

namespace Store

def expire (store : Store) (event : Event) : Store :=
  let kept := store.removeEntries event.expired
  if event.versionExpired then { kept with version := none } else kept

/-- Redis does not fail. -/
def serve (store : Store) (event : Event) (statement : Statement) : Except String statement.Reply × Bool × Store :=
  let now := store.expire event
  if statement.isRedis then Fault.deliver connectionLost now none (.ok (now.perform event.drawn statement))
  else if event.refused then Fault.deliver connectionLost now event.fault (.error refusedByDatabase)
  else Fault.deliver connectionLost now event.fault (.ok (now.perform event.drawn statement))

end Store

def server : Server Statement Statement.Reply String Event Store :=
  ⟨Store.serve⟩

abbrev Work := Script Statement Statement.Reply String

abbrev ask (statement : Statement) : Work statement.Reply :=
  Script.call statement

inductive Result where
  | strategies (rows : List FeeStrategy)
  | created (strategy : FeeStrategy)
  | updated (strategy : Option FeeStrategy)
  | deleted (done : Bool)
  deriving DecidableEq

def cachePrefix : String := "fee_strategies:"

def versionKey : String := cachePrefix ++ "version"

def getCacheVersion : Work Nat := do
  let version : Option Nat ← ask .getVersion
  return version.getD 0

/-- None if the entry is missing or if its version is stale. -/
def cacheGet (key : String) : Work (Option (List FeeStrategy)) := do
  let raw : Option Entry ← ask (.get (cachePrefix ++ key))
  match raw with
  | none => return none
  | some entry => do
    let currentVersion ← getCacheVersion
    if entry.version < currentVersion then return none
    else return some entry.data

/-- The entry is stamped with the current version. -/
def cacheSet (key : String) (strategies : List FeeStrategy) : Work Unit := do
  let version ← getCacheVersion
  ask (.setEx (cachePrefix ++ key) ⟨version, strategies⟩)

def bumpCacheVersion : Work Nat := do
  let version : Nat ← ask .incrVersion
  let _ : Unit ← ask .expireVersion
  return version

def keysToDelete (keys : List String) : List String :=
  keys.filter fun key => key ≠ versionKey && !key.endsWith ":stats"

def deleteKeys : List String → Work Unit
  | [] => return ()
  | key :: keys => ask (.del (key :: keys))

def cacheInvalidateAll : Work Unit := do
  let _ ← bumpCacheVersion
  let keys : List String ← ask .keys
  deleteKeys (keysToDelete keys)
  ask .publish

def cacheKey (context : FeeContext) : String :=
  "resolved:" ++ (context.userId.map UserId.text).getD "" ++ ":" ++ context.provider.getD ""

def resolveStrategies (context : FeeContext) : Work Result := do
  let cached ← cacheGet (cacheKey context)
  match cached with
  | some strategies => return .strategies strategies
  | none => do
    let result : Read ← ask (.selectStrategies context)
    cacheSet (cacheKey context) result.rows
    return .strategies result.rows

def createStrategy (data : CreateFeeStrategyRequest) (createdBy : String) : Work Result := do
  let result : Written FeeStrategy ← ask (.insertStrategy data createdBy)
  let _ : Unit ← ask (.insertAudit ⟨result.value.id, "CREATE", none, some result.value, createdBy⟩)
  cacheInvalidateAll
  return .created result.value

def UpdateFeeStrategyRequest.isEmpty (data : UpdateFeeStrategyRequest) : Bool :=
  data.priority.isNone && data.isActive.isNone && data.columns.isEmpty

def UpdateFeeStrategyRequest.action (data : UpdateFeeStrategyRequest) : String :=
  match data.isActive with
  | some true => "ACTIVATE"
  | some false => "DEACTIVATE"
  | none => "UPDATE"

def updateStrategy (id : String) (data : UpdateFeeStrategyRequest) (updatedBy : String) : Work Result := do
  let old : Option FeeStrategy ← ask (.selectStrategy id)
  match old with
  | none => return .updated none
  | some old =>
    if data.isEmpty then return .updated (some old)
    else do
      let result : Written (Option FeeStrategy) ← ask (.updateStrategy id data updatedBy)
      match result.value with
      | none => return .updated none
      | some updated => do
        let _ : Unit ← ask (.insertAudit ⟨id, data.action, some old, some updated, updatedBy⟩)
        cacheInvalidateAll
        return .updated (some updated)

def deleteStrategy (id : String) (deletedBy : String) : Work Result := do
  let old : Option FeeStrategy ← ask (.selectStrategy id)
  match old with
  | none => return .deleted false
  | some old => do
    let result : Written Nat ← ask (.deleteStrategy id)
    if result.value = 0 then return .deleted false
    else do
      let _ : Unit ← ask (.insertAudit ⟨id, "DELETE", some old, none, deletedBy⟩)
      cacheInvalidateAll
      return .deleted true

inductive Operation where
  | resolveStrategies (context : FeeContext)
  | createStrategy (data : CreateFeeStrategyRequest) (createdBy : String)
  | updateStrategy (id : String) (data : UpdateFeeStrategyRequest) (updatedBy : String)
  | deleteStrategy (id : String) (deletedBy : String)
  deriving DecidableEq

def Operation.script : Operation → Work Result
  | .resolveStrategies context => FeeStrategies.resolveStrategies context
  | .createStrategy data createdBy => FeeStrategies.createStrategy data createdBy
  | .updateStrategy id data updatedBy => FeeStrategies.updateStrategy id data updatedBy
  | .deleteStrategy id deletedBy => FeeStrategies.deleteStrategy id deletedBy

end ProxyPay.FeeStrategies
