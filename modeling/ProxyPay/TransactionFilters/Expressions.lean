import ProxyPay.Library.Fallible
import ProxyPay.Library.Iso8601
import ProxyPay.Library.SqlConditions
import ProxyPay.Library.SqlLike
import ProxyPay.Library.Utf16

/-! Advanced transaction filters: the expressions a client sends, how they are checked, and the SQL text with its
parameters that is made of them. -/

namespace ProxyPay.TransactionFilters

open ProxyPay.Library
open Sql (Joiner)

inductive FilterPrimitive where
  | text (value : String)
  | number (value : Float)
  | boolean (value : Bool)

/-- `String(value)` -/
def FilterPrimitive.spelled : FilterPrimitive → String
  | .text value => value
  | .number value => Number.text value
  | .boolean true => "true"
  | .boolean false => "false"

inductive FilterOperator where
  | eq
  | ne
  | gt
  | gte
  | lt
  | lte
  deriving DecidableEq

inductive TextOperator where
  | contains
  | equals
  | startsWith
  | endsWith
  deriving DecidableEq

inductive FilterLeaf where
  | range (field : String) (min max : Option Float)
  | compare (field : String) (operator : FilterOperator) (value : FilterPrimitive)
  | text (field : String) (operator : TextOperator) (value : String)
  | isIn (field : String) (values : List FilterPrimitive)
  | dateRange (field : String) (start stop : Option String)
  | keyExists (metadataKey : String) (value : Bool)

/-- The conditions of an `and` or an `or` are at least one. -/
inductive FilterNode where
  | junction (joiner : Joiner) (first : FilterNode) (rest : List FilterNode)
  | not (condition : FilterNode)
  | leaf (leaf : FilterLeaf)

@[elab_as_elim] theorem FilterNode.each {motive : FilterNode → Prop}
    (junction : ∀ joiner first rest, motive first → (∀ node ∈ rest, motive node) → motive (.junction joiner first rest))
    (not : ∀ condition, motive condition → motive (.not condition)) (leaf : ∀ leaf, motive (.leaf leaf))
    (node : FilterNode) : motive node := by
  refine FilterNode.rec (motive_1 := motive) (motive_2 := fun nodes => ∀ node ∈ nodes, motive node)
    junction not leaf ?_ ?_ node
  · nofun
  · simp_all

inductive FilterError where
  | validation (message : String)
  /-- a RangeError, which `toISOString` throws -/
  | invalidTime
  deriving DecidableEq

/-! What a client may send. -/

structure Issue where
  path : List String
  message : String

/-- The runtime reads dates, and the schema library knows which texts are dates with an offset and has its own
words for what is wrong with a value. -/
structure Runtime where
  date : String → Option ℤ
  datetime : String → Bool
  issue : Json → Option Issue

def units (text : String) : ℕ :=
  (Utf16.ofString text).length

namespace FilterNodeSchema

def text (least : ℕ) (most : Option ℕ) (json : Json) : Option String := do
  let value ← json.asText?
  if least ≤ units value && most.all (units value ≤ ·) then some value else none

def number : Json → Option Float
  | .number value => if value.isFinite then some value else none
  | _ => none

/-- A member that may be left out. -/
def optional {α : Type} (json : Json) (name : String) (read : Json → Option α) : Option (Option α) :=
  match json.get? name with
  | none => some none
  | some value => (read value).map some

def primitive : Json → Option FilterPrimitive
  | .string value => some (.text value)
  | .bool value => some (.boolean value)
  | json => (number json).map .number

def operator : String → Option FilterOperator
  | "eq" => some .eq
  | "ne" => some .ne
  | "gt" => some .gt
  | "gte" => some .gte
  | "lt" => some .lt
  | "lte" => some .lte
  | _ => none

def textOperator : String → Option TextOperator
  | "contains" => some .contains
  | "equals" => some .equals
  | "startsWith" => some .startsWith
  | "endsWith" => some .endsWith
  | _ => none

def flag : Json → Option Bool
  | .bool value => some value
  | _ => none

/-- An array of at least one and at most so many items. -/
def items (most : ℕ) : Json → Option (List Json)
  | .array values => if 1 ≤ values.length && values.length ≤ most then some values else none
  | _ => none

variable (runtime : Runtime)

def dateText (json : Json) : Option String := do
  let value ← json.asText?
  if runtime.datetime value then some value else none

def leaf (json : Json) : Option FilterLeaf := do
  let type ← (json.get? "type").bind Json.asText?
  match type with
  | "range" =>
    let field ← (json.get? "field").bind (text 1 none)
    return .range field (← optional json "min" number) (← optional json "max" number)
  | "compare" =>
    let field ← (json.get? "field").bind (text 1 none)
    let operator ← ((json.get? "operator").bind Json.asText?).bind operator
    return .compare field operator (← (json.get? "value").bind primitive)
  | "text" =>
    let field ← (json.get? "field").bind (text 1 none)
    let operator ← ((json.get? "operator").bind Json.asText?).bind textOperator
    return .text field operator (← (json.get? "value").bind (text 1 (some 500)))
  | "in" =>
    let field ← (json.get? "field").bind (text 1 none)
    let values ← (json.get? "values").bind (items 100)
    return .isIn field (← values.mapM primitive)
  | "dateRange" =>
    let field ← (json.get? "field").bind (text 1 none)
    return .dateRange field (← optional json "start" (dateText runtime)) (← optional json "end" (dateText runtime))
  | "exists" =>
    let metadataKey ← (json.get? "metadataKey").bind (text 1 (some 100))
    return .keyExists metadataKey ((← optional json "value" flag).getD true)
  | _ => none

def joiner : String → Option Joiner
  | "and" => some .and
  | "or" => some .or
  | _ => none

end FilterNodeSchema

/-- How many values stand one within the other. -/
def depth : Json → ℕ
  | .array values => depths values + 1
  | .object members => memberDepths members + 1
  | _ => 1
where
  depths : List Json → ℕ
    | [] => 0
    | value :: rest => max (depth value) (depths rest)
  memberDepths : List (String × Json) → ℕ
    | [] => 0
    | (_, value) :: rest => max (depth value) (memberDepths rest)

/-- A condition stands within its junction, so the depth of the value is enough. -/
def readNode (runtime : Runtime) : ℕ → Json → Option FilterNode
  | 0, _ => none
  | fuel + 1, json => do
    let type ← (json.get? "type").bind Json.asText?
    match FilterNodeSchema.joiner type with
    | some joiner =>
      let conditions ← (json.get? "conditions").bind (FilterNodeSchema.items 25)
      match ← conditions.mapM (readNode runtime fuel) with
      | [] => none
      | first :: rest => return .junction joiner first rest
    | none =>
      if type = "not" then return .not (← (json.get? "condition").bind (readNode runtime fuel))
      else return .leaf (← FilterNodeSchema.leaf runtime json)

def FilterNodeSchema (runtime : Runtime) (json : Json) : Option FilterNode :=
  readNode runtime (depth json) json

def MAX_DEPTH : ℕ := 6

def MAX_NODES : ℕ := 100

/-- The bounds of a range, which may not stand in the wrong order. -/
def walkLeaf (runtime : Runtime) : FilterLeaf → Except FilterError Unit
  | .range field (some min) (some max) =>
    if min > max then .error (.validation ("Range filter on \"" ++ field ++ "\" has min greater than max")) else .ok ()
  | .dateRange field start stop =>
    match (Text.truthy start).bind runtime.date, (Text.truthy stop).bind runtime.date with
    | some start, some stop =>
      if start > stop then .error (.validation ("Date range filter on \"" ++ field ++ "\" starts after it ends"))
      else .ok ()
    | _, _ => .ok ()
  | _ => .ok ()

def enter (depth nodes : ℕ) : Except FilterError Unit := do
  require (depth ≤ MAX_DEPTH)
    (.validation ("Filter expression exceeds maximum depth of " ++ toString MAX_DEPTH))
  require (nodes ≤ MAX_NODES)
    (.validation ("Filter expression exceeds maximum of " ++ toString MAX_NODES ++ " conditions"))

mutual

/-- The number of nodes that are seen so far goes along. -/
def walk (runtime : Runtime) (depth : ℕ) (nodes : ℕ) : FilterNode → Except FilterError ℕ
  | .junction _ first rest => do
    enter depth (nodes + 1)
    let nodes ← walk runtime (depth + 1) (nodes + 1) first
    walkAll runtime (depth + 1) nodes rest
  | .not condition => do
    enter depth (nodes + 1)
    walk runtime (depth + 1) (nodes + 1) condition
  | .leaf leaf => do
    enter depth (nodes + 1)
    walkLeaf runtime leaf
    return nodes + 1

def walkAll (runtime : Runtime) (depth : ℕ) (nodes : ℕ) : List FilterNode → Except FilterError ℕ
  | [] => .ok nodes
  | node :: rest => do
    let nodes ← walk runtime depth nodes node
    walkAll runtime depth nodes rest

end

def parseFilterExpression (runtime : Runtime) (input : Json) : Except FilterError FilterNode := do
  match FilterNodeSchema runtime input with
  | none =>
    let first := runtime.issue input
    let path := (Text.truthy (first.map fun issue => ".".intercalate issue.path)).getD "root"
    .error (.validation ("Invalid filter expression at " ++ path ++ ": " ++ (first.map Issue.message).getD "invalid"))
  | some node =>
    let _ ← walk runtime 1 0 node
    return node

end ProxyPay.TransactionFilters
