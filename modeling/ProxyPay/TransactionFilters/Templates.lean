import ProxyPay.Library.Fresh
import ProxyPay.TransactionFilters.Expressions

/-! Saved filter templates: the table with its unique index, how a template is created, and how an exported payload is
imported, with a new name for each template whose name is in use. -/

namespace ProxyPay.TransactionFilters

open ProxyPay.Library

/-- What a template is made of; an expression that is left out is `undefined`. -/
structure FilterTemplateInput where
  name : String
  description : Option String
  expression : Option Json
  isShared : Bool

structure FilterTemplate where
  id : ℕ
  name : String
  description : Option String
  expression : FilterNode
  isShared : Bool
  isSystem : Bool
  ownerId : Option String
  usageCount : ℕ
  lastUsedAt : Option ℤ
  createdAt : ℤ
  updatedAt : ℤ

/-- `COALESCE(owner_id, 'system'), name` -/
def FilterTemplate.key (template : FilterTemplate) : String × String :=
  (template.ownerId.getD "system", template.name)

/-- The table. Rows are numbered, and the unique index holds. -/
structure Templates where
  rows : List FilterTemplate
  next : ℕ
  numbered : ∀ row ∈ rows, row.id < next
  unique : (rows.map FilterTemplate.key).Nodup

inductive TemplateError where
  /-- a ZodError -/
  | schema
  | filter (error : FilterError)
  /-- The unique index refuses the row. -/
  | duplicate
  /-- A column of the table refuses a value. -/
  | refused
  /-- "Filter template was not persisted" -/
  | notPersisted
  deriving DecidableEq

/-- The time at the database, and the rows that the types of its columns can hold. -/
structure TemplateServer where
  now : ℤ
  accepts : FilterTemplate → Bool

namespace Templates

def empty : Templates := ⟨[], 0, by simp, by simp⟩

def insert (table : Templates) (template : FilterTemplate) : Option (FilterTemplate × Templates) :=
  let row := { template with id := table.next }
  if free : row.key ∉ table.rows.map FilterTemplate.key then
    some (row, ⟨table.rows ++ [row], table.next + 1, by
      intro other member
      rcases List.mem_append.mp member with old | new
      · exact Nat.lt_succ_of_lt (table.numbered other old)
      · rw [List.mem_singleton.mp new]
        exact Nat.lt_succ_self _, by
      rw [List.map_append]
      refine List.Nodup.append table.unique (List.nodup_singleton _) ?_
      intro key old new
      rw [List.map_singleton, List.mem_singleton] at new
      exact free (new ▸ old)⟩)
  else none

end Templates

/-- `owner_id = $1 OR is_shared = TRUE OR is_system = TRUE`; no row's owner equals NULL. -/
def FilterTemplate.visible (owner : Option String) (template : FilterTemplate) : Bool :=
  owner.any (fun owner => template.ownerId = some owner) || template.isShared || template.isSystem

/-- In any order. -/
def listFilterTemplates (table : Templates) (owner : Option String) : List FilterTemplate :=
  table.rows.filter (FilterTemplate.visible owner)

def getFilterTemplate (table : Templates) (id : ℕ) (owner : Option String) : Option FilterTemplate :=
  table.rows.find? fun row => row.id = id && row.visible owner

/-- The limits of a template's texts. -/
def FilterTemplateSchema (input : FilterTemplateInput) : Except TemplateError FilterTemplateInput :=
  if 1 ≤ units input.name ∧ units input.name ≤ 100 ∧ input.description.all (units · ≤ 500) then .ok input
  else .error .schema

variable (runtime : Runtime) (server : TemplateServer) (owner : Option String)

/-- The values of the row. No filter is `undefined` or null, and the schema has the same words for both. -/
def prepare (input : FilterTemplateInput) : Except TemplateError FilterTemplate := do
  let parsed ← FilterTemplateSchema input
  let expression ← (parseFilterExpression runtime (parsed.expression.getD .null)).mapError .filter
  return ⟨0, parsed.name, parsed.description, expression, parsed.isShared, false, owner, 0, none, server.now,
    server.now⟩

/-- What has been stored stays, also where an error is thrown afterwards. -/
def createFilterTemplate (input : FilterTemplateInput) (table : Templates) :
    Except TemplateError FilterTemplate × Templates :=
  match prepare runtime server owner input with
  | .error error => (.error error, table)
  | .ok row =>
    if !server.accepts row then (.error .refused, table)
    else
      match table.insert row with
      | none => (.error .duplicate, table)
      | some (row, table) =>
        match getFilterTemplate table row.id owner with
        | none => (.error .notPersisted, table)
        | some created => (.ok created, table)

def templateInput (json : Json) : Option FilterTemplateInput := do
  let name ← (json.get? "name").bind (FilterNodeSchema.text 1 (some 100))
  let description ← FilterNodeSchema.optional json "description" (FilterNodeSchema.text 0 (some 500))
  let isShared ← FilterNodeSchema.optional json "isShared" FilterNodeSchema.flag
  return ⟨name, description, json.get? "expression", isShared.getD false⟩

/-- The templates of a payload of version 1. -/
def FilterTemplateExportSchema (payload : Json) : Option (List FilterTemplateInput) := do
  let version ← payload.get? "version"
  let _ ← (payload.get? "exportedAt").bind Json.asText?
  let templates ← (payload.get? "templates").bind (FilterNodeSchema.items 100)
  if version.isOne then templates.mapM templateInput else none

/-- The names that are tried one after another. -/
def importedName (name : String) : ℕ → String
  | 0 => name
  | 1 => name ++ " (imported)"
  | suffix => name ++ " (imported " ++ toString suffix ++ ")"

/-- The name, and if it is not the template's own; none where the search takes more rounds. -/
def uniqueName (rounds : ℕ) (existing : List String) (name : String) : Option (String × Bool) :=
  if name ∈ existing then (Fresh.search existing (importedName name) rounds 1).map fun found => (found, true)
  else some (name, false)

structure ImportedTemplates where
  imported : ℕ
  renamed : ℕ
  templates : List FilterTemplate

def importTemplates (rounds : ℕ) : List String → List FilterTemplateInput → ℕ → List FilterTemplate → Templates →
    Option (Except TemplateError ImportedTemplates × Templates)
  | _, [], renamed, created, table => some (.ok ⟨created.length, renamed, created⟩, table)
  | existing, template :: rest, renamed, created, table => do
    let (name, changed) ← uniqueName rounds existing template.name
    match createFilterTemplate runtime server owner { template with name := name } table with
    | (.error error, table) => some (.error error, table)
    | (.ok row, table) =>
      importTemplates rounds (name :: existing) rest (renamed + changed.toNat) (created ++ [row]) table

def importFilterTemplates (rounds : ℕ) (payload : Json) (table : Templates) :
    Option (Except TemplateError ImportedTemplates × Templates) :=
  match FilterTemplateExportSchema payload with
  | none => some (.error .schema, table)
  | some templates =>
    importTemplates runtime server owner rounds ((listFilterTemplates table owner).map FilterTemplate.name) templates
      0 [] table

end ProxyPay.TransactionFilters
