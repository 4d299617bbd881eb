import ProxyPay.TransactionFilters.Expressions

/-! Filter expressions as SQL: the columns that a field may stand for, and the compiler. -/

namespace ProxyPay.TransactionFilters

open ProxyPay.Library
open Sql (Joiner)

inductive FieldKind where
  | numeric
  | temporal
  | text
  | enum
  deriving DecidableEq

structure FilterableField where
  name : String
  column : String
  kind : FieldKind
  deriving DecidableEq

def FILTERABLE_FIELDS : List FilterableField := [
  ⟨"amount", "amount", .numeric⟩,
  ⟨"originalAmount", "original_amount", .numeric⟩,
  ⟨"convertedAmount", "converted_amount", .numeric⟩,
  ⟨"feeAmount", "fee_amount", .numeric⟩,
  ⟨"providerFee", "provider_fee", .numeric⟩,
  ⟨"currency", "currency", .text⟩,
  ⟨"provider", "provider", .text⟩,
  ⟨"type", "type", .enum⟩,
  ⟨"status", "status", .enum⟩,
  ⟨"referenceNumber", "reference_number", .text⟩,
  ⟨"providerReference", "provider_reference", .text⟩,
  ⟨"phoneNumber", "phone_number", .text⟩,
  ⟨"stellarAddress", "stellar_address", .text⟩,
  ⟨"userId", "user_id", .text⟩,
  ⟨"notes", "notes", .text⟩,
  ⟨"createdAt", "created_at", .temporal⟩,
  ⟨"updatedAt", "updated_at", .temporal⟩,
  ⟨"tag", "tags", .text⟩]

/-- The field of the table itself. -/
def ownField (field : String) : Option FilterableField :=
  FILTERABLE_FIELDS.find? fun entry => entry.name = field

/-- The names that every object has from `Object.prototype`. -/
def inheritedNames : List String :=
  ["constructor", "__defineGetter__", "__defineSetter__", "hasOwnProperty", "__lookupGetter__", "__lookupSetter__",
    "isPrototypeOf", "propertyIsEnumerable", "toString", "valueOf", "__proto__", "toLocaleString"]

/-- What is found under a name, as a text template writes it: nothing that is inherited has a column or a kind. -/
structure ResolvedField where
  column : String
  kind : Option FieldKind
  deriving DecidableEq

def FilterableField.resolved (entry : FilterableField) : ResolvedField :=
  ⟨entry.column, some entry.kind⟩

def unknownField (field : String) : FilterError :=
  .validation ("Unknown filter field \"" ++ field ++ "\". Filterable fields: " ++
    ", ".intercalate (FILTERABLE_FIELDS.map FilterableField.name))

/-- `FILTERABLE_FIELDS[field]` -/
def resolveField (field : String) : Except FilterError ResolvedField :=
  match ownField field with
  | some entry => .ok entry.resolved
  | none => if field ∈ inheritedNames then .ok ⟨"undefined", none⟩ else .error (unknownField field)

/-- `SQL_OPERATORS` -/
def FilterOperator.sql : FilterOperator → String
  | .eq => "="
  | .ne => "<>"
  | .gt => ">"
  | .gte => ">="
  | .lt => "<"
  | .lte => "<="

/-- `TEXT_OPERATORS` -/
def TextOperator.sql : TextOperator → String
  | .equals => "="
  | _ => "ILIKE"

def TextOperator.pattern (operator : TextOperator) (value : String) : String :=
  let escaped := String.ofList (Sql.escaped value.toList)
  match operator with
  | .contains => "%" ++ escaped ++ "%"
  | .startsWith => escaped ++ "%"
  | _ => "%" ++ escaped

/-- A parameter of the query. -/
inductive Operand where
  | primitive (value : FilterPrimitive)
  | list (values : List FilterPrimitive)

structure Binder where
  params : List Operand
  nextIndex : ℕ

abbrev Compiler := StateT Binder (Except FilterError)

def bind (value : Operand) : Compiler String := do
  let binder ← get
  set (⟨binder.params ++ [value], binder.nextIndex + 1⟩ : Binder)
  return "$" ++ toString binder.nextIndex

def fail {α : Type} (error : FilterError) : Compiler α :=
  throw error

variable (runtime : Runtime)

/-- `new Date(text).toISOString()` -/
def isoText (text : String) : Compiler String :=
  match runtime.date text with
  | some instant => return Iso8601.toISOString instant
  | none => fail .invalidTime

/-- One bound of a range, if it is there. -/
def bound (column operator : String) : Option (Compiler Operand) → Compiler (List String)
  | none => return []
  | some operand => do
    let placeholder ← bind (← operand)
    return [column ++ " " ++ operator ++ " " ++ placeholder]

def compileRange (column : String) (lower upper : Option (Compiler Operand)) : Compiler String := do
  let lower ← bound column ">=" lower
  let upper ← bound column "<=" upper
  return "(" ++ " AND ".intercalate (lower ++ upper) ++ ")"

def compileLeaf : FilterLeaf → Compiler String
  | .range field min max => do
    let resolved ← resolveField field
    if min.isNone && max.isNone then
      fail (.validation ("Range filter on \"" ++ field ++ "\" needs at least one bound"))
    else
      compileRange resolved.column (min.map fun value => return .primitive (.number value))
        (max.map fun value => return .primitive (.number value))
  | .compare field operator value => do
    let resolved ← resolveField field
    if resolved.kind = some .numeric && !isNumber value then
      fail (.validation ("Field \"" ++ field ++ "\" requires a numeric value"))
    else if resolved.kind = some .temporal then
      let placeholder ← bind (.primitive (.text (← isoText runtime value.spelled)))
      return "(" ++ resolved.column ++ "::timestamptz " ++ operator.sql ++ " " ++ placeholder ++ ")"
    else
      let placeholder ← bind (.primitive value)
      return "(" ++ resolved.column ++ " " ++ operator.sql ++ " " ++ placeholder ++ ")"
  | .text field operator value => do
    let resolved ← resolveField field
    if operator = .equals then
      let placeholder ← bind (.primitive (.text value))
      return "(" ++ resolved.column ++ " = " ++ placeholder ++ ")"
    else
      let placeholder ← bind (.primitive (.text (operator.pattern value)))
      return "(" ++ resolved.column ++ " " ++ operator.sql ++ " " ++ placeholder ++ " ESCAPE '\\')"
  | .isIn field values => do
    let resolved ← resolveField field
    let placeholder ← bind (.list values)
    return "(" ++ resolved.column ++ " = ANY(" ++ placeholder ++ "))"
  | .dateRange field start stop => do
    let resolved ← resolveField field
    let start := Text.truthy start
    let stop := Text.truthy stop
    if start.isNone && stop.isNone then
      fail (.validation ("Date range filter on \"" ++ field ++ "\" needs a start or an end"))
    else
      compileRange resolved.column
        (start.map fun text => return .primitive (.text (← isoText runtime text)))
        (stop.map fun text => return .primitive (.text (← isoText runtime text)))
  | .keyExists metadataKey value => do
    let placeholder ← bind (.primitive (.text metadataKey))
    if value then return "(metadata ? " ++ placeholder ++ ")"
    else return "(NOT (metadata ? " ++ placeholder ++ "))"
where
  isNumber : FilterPrimitive → Bool
    | .number _ => true
    | _ => false

/-- What stands between the conditions of a junction. -/
def separator : Joiner → String
  | .and => " AND "
  | .or => " OR "

mutual

def compile : FilterNode → Compiler String
  | .junction joiner first rest => do
    let first ← compile first
    let rest ← compileAll rest
    return "(" ++ (separator joiner).intercalate (first :: rest) ++ ")"
  | .not condition => do
    return "NOT " ++ (← compile condition)
  | .leaf leaf => compileLeaf runtime leaf

def compileAll : List FilterNode → Compiler (List String)
  | [] => return []
  | node :: rest => do
    let first ← compile node
    let rest ← compileAll rest
    return first :: rest

end

structure CompiledFilter where
  sql : String
  params : List Operand

def compileFilterExpression (node : FilterNode) (startIndex : ℕ) : Except FilterError CompiledFilter := do
  let (sql, binder) ← (compile runtime node).run ⟨[], startIndex⟩
  return ⟨sql, binder.params⟩

end ProxyPay.TransactionFilters

/-! The value of a filter on a transaction: that of its SQL on the server, and that of its expression, which is read
directly. -/

namespace ProxyPay.TransactionFilters

open ProxyPay.Library
open Sql (Token Truth)

inductive SqlType where
  | numeric
  | text
  | uuid
  | timestamp
  | timestamptz
  | textArray
  deriving DecidableEq

/-- The columns of `transactions` that a filter may name. -/
def columnTypes : List (String × SqlType) := [
  ("amount", .numeric), ("original_amount", .numeric), ("converted_amount", .numeric), ("fee_amount", .numeric),
  ("provider_fee", .numeric), ("currency", .text), ("provider", .text), ("type", .text), ("status", .text),
  ("reference_number", .text), ("provider_reference", .text), ("phone_number", .text), ("stellar_address", .text),
  ("user_id", .uuid), ("notes", .text), ("created_at", .timestamp), ("updated_at", .timestamp), ("tags", .textArray)]

def columnType (column : String) : Option SqlType :=
  columnTypes.lookup column

/-- The database server: the values of its types in their order, how it reads the text of a parameter, the letters
of a text in lower case, and its time zone. -/
structure Server where
  Value : SqlType → Type
  order : (type : SqlType) → LinearOrder (Value type)
  read : (type : SqlType) → String → Option (Value type)
  letters : Value .text → List Char
  lower : Char → Char
  zoned : Value .timestamp → Value .timestamptz
  letters_injective : ∀ first second, letters first = letters second → first = second
  read_text : ∀ text : String, (read .text text).map letters = if '\x00' ∈ text.toList then none else some text.toList
  lower_special : ∀ char, Sql.isSpecial char = true → lower char = char
  special_of_lower : ∀ char, Sql.isSpecial (lower char) = true → Sql.isSpecial char = true

instance (server : Server) (type : SqlType) : LinearOrder (server.Value type) :=
  server.order type

/-- A transaction, where a cell that is NULL has no value, and the keys of its metadata. -/
structure Row (server : Server) where
  cell : (type : SqlType) → String → Option (server.Value type)
  metadata : Option (List String)

def FilterOperator.holds {α : Type} [LinearOrder α] (left right : α) : FilterOperator → Bool
  | .eq => left = right
  | .ne => left ≠ right
  | .gt => left > right
  | .gte => left ≥ right
  | .lt => left < right
  | .lte => left ≤ right

/-! The SQL. -/

inductive Predicate where
  | compare (column : String) (cast : Bool) (operator : FilterOperator) (index : ℕ)
  | ilike (column : String) (index : ℕ) (escape : Char)
  | any (column : String) (index : ℕ)
  | hasKey (column : String) (index : ℕ)
  deriving DecidableEq

/-- A predicate of a column that a filter may name. -/
def Predicate.Allowed : Predicate → Prop
  | .compare column _ _ _ => column ∈ FILTERABLE_FIELDS.map FilterableField.column
  | .ilike column _ _ => column ∈ FILTERABLE_FIELDS.map FilterableField.column
  | .any column _ => column ∈ FILTERABLE_FIELDS.map FilterableField.column
  | .hasKey column _ => column = "metadata"

def comparison : String → Option FilterOperator
  | "=" => some .eq
  | "<>" => some .ne
  | ">" => some .gt
  | ">=" => some .gte
  | "<" => some .lt
  | "<=" => some .lte
  | _ => none

def interpret : List Token → Option Predicate
  | [.word column, .symbol "?", .parameter index] => some (.hasKey column index)
  | [.word column, .symbol operator, .parameter index] =>
    (comparison operator).map fun known => .compare column false known index
  | [.word column, .symbol "::", .word "timestamptz", .symbol operator, .parameter index] =>
    (comparison operator).map fun known => .compare column true known index
  | [.word column, .word "ILIKE", .parameter index, .word "ESCAPE", .literal "\\"] => some (.ilike column index '\\')
  | [.word column, .symbol "=", .word "ANY", .opening, .parameter index, .closing] => some (.any column index)
  | _ => none

inductive SqlError where
  | malformed
  | undefinedColumn (column : String)
  | undefinedOperator
  | invalidInput
  | missingParameter
  deriving DecidableEq

variable (server : Server) (row : Row server) (params : ℕ → Option Operand)

/-- The client sends a value as its text. -/
def parameter (type : SqlType) (index : ℕ) : Except SqlError (server.Value type) := do
  match ← orThrow .missingParameter (params index) with
  | .primitive value => orThrow .invalidInput (server.read type value.spelled)
  | .list _ => .error .invalidInput

def parameters (type : SqlType) (index : ℕ) : Except SqlError (List (server.Value type)) := do
  match ← orThrow .missingParameter (params index) with
  | .primitive _ => .error .invalidInput
  | .list values => orThrow .invalidInput (values.mapM fun value => server.read type value.spelled)

def evalPredicate : Predicate → Except SqlError Truth
  | .compare column false operator index => do
    let type ← orThrow (.undefinedColumn column) (columnType column)
    let value ← parameter server params type index
    return (row.cell type column).map fun cell => operator.holds cell value
  | .compare column true operator index => do
    match ← orThrow (.undefinedColumn column) (columnType column) with
    | .timestamp =>
      let value ← parameter server params .timestamptz index
      return (row.cell .timestamp column).map fun cell => operator.holds (server.zoned cell) value
    | _ => .error .undefinedOperator
  | .ilike column index escape => do
    match ← orThrow (.undefinedColumn column) (columnType column) with
    | .text =>
      let pattern ← parameter server params .text index
      return (row.cell .text column).map fun cell =>
        Sql.like escape ((server.letters pattern).map server.lower) ((server.letters cell).map server.lower)
    | _ => .error .undefinedOperator
  | .any column index => do
    let type ← orThrow (.undefinedColumn column) (columnType column)
    -- no array has arrays as its elements
    if type = .textArray then .error .undefinedOperator
    else
      let values ← parameters server params type index
      return (row.cell type column).map fun cell => values.contains cell
  | .hasKey column index => do
    if column = "metadata" then
      let key ← parameter server params .text index
      return row.metadata.map fun keys => keys.any fun known => known.toList = server.letters key
    else .error (.undefinedColumn column)

/-- The value of a filter whose parameters are bound. -/
def evaluate (compiled : CompiledFilter) (startIndex : ℕ) : Except SqlError Truth := do
  let tokens ← orThrow .malformed (Sql.lex compiled.sql)
  let condition ← orThrow .malformed (Sql.parse interpret tokens)
  condition.eval (evalPredicate server row fun index =>
    if startIndex ≤ index then compiled.params[index - startIndex]? else none)

def placeholders (tokens : List Token) : List ℕ :=
  tokens.filterMap fun
    | .parameter index => some index
    | _ => none

/-- The placeholders are one for each parameter, in order. -/
def CompiledFilter.Numbered (compiled : CompiledFilter) (startIndex : ℕ) : Prop :=
  ∃ tokens, Sql.lex compiled.sql = some tokens ∧
    placeholders tokens = List.range' startIndex compiled.params.length

/-! The expression. -/

/-- The column of a field. -/
def fieldColumn (field : String) : Option (String × SqlType) := do
  let entry ← ownField field
  let type ← columnType entry.column
  return (entry.column, type)

def compared (column : String) (type : SqlType) (operator : FilterOperator) (value : String) : Truth := do
  let cell ← row.cell type column
  let value ← server.read type value
  return operator.holds cell value

/-- Both bounds are in the range. -/
def within (column : String) (type : SqlType) (lower upper : Option String) : Truth :=
  Truth.and (lower.elim (some true) (compared server row column type .gte))
    (upper.elim (some true) (compared server row column type .lte))

def TextOperator.matches (part text : List Char) : TextOperator → Bool
  | .contains => part <:+: text
  | .equals => part = text
  | .startsWith => part <+: text
  | .endsWith => part <:+ text

variable (runtime : Runtime)

def dateText (text : String) : Option String :=
  (runtime.date text).map Iso8601.toISOString

def FilterLeaf.truth : FilterLeaf → Truth
  | .range field min max => do
    let (column, type) ← fieldColumn field
    within server row column type (min.map Number.text) (max.map Number.text)
  | .compare field operator value => do
    let entry ← ownField field
    if entry.kind = .temporal then
      let cell ← row.cell .timestamp entry.column
      let value ← (dateText runtime value.spelled).bind (server.read .timestamptz)
      return operator.holds (server.zoned cell) value
    else
      let type ← columnType entry.column
      compared server row entry.column type operator value.spelled
  | .text field .equals value => do
    let (column, type) ← fieldColumn field
    compared server row column type .eq value
  | .text field operator value => do
    let (column, _) ← fieldColumn field
    let cell ← row.cell .text column
    return operator.matches (value.toList.map server.lower) ((server.letters cell).map server.lower)
  | .isIn field values => do
    let (column, type) ← fieldColumn field
    let cell ← row.cell type column
    return values.any fun value => server.read type value.spelled = some cell
  | .dateRange field start stop => do
    let (column, type) ← fieldColumn field
    within server row column type ((Text.truthy start).bind (dateText runtime))
      ((Text.truthy stop).bind (dateText runtime))
  | .keyExists metadataKey value =>
    row.metadata.map fun keys => keys.contains metadataKey == value

mutual

def FilterNode.truth : FilterNode → Truth
  | .junction joiner first rest => (FilterNode.truths rest).foldl joiner.truth first.truth
  | .not condition => Truth.not condition.truth
  | .leaf known => known.truth server row runtime

def FilterNode.truths : List FilterNode → List Truth
  | [] => []
  | node :: rest => node.truth :: FilterNode.truths rest

end

def FilterLeaf.field : FilterLeaf → Option String
  | .range field _ _ => some field
  | .compare field _ _ => some field
  | .text field _ _ => some field
  | .isIn field _ => some field
  | .dateRange field _ _ => some field
  | .keyExists _ _ => none

/-- The field is one of the table of fields itself. -/
def FilterLeaf.Own (leaf : FilterLeaf) : Prop :=
  ∀ field ∈ leaf.field, (ownField field).isSome = true

/-! Where the two agree. -/

def Server.Reads (type : SqlType) (value : String) : Prop :=
  (server.read type value).isSome = true

/-- The column of the field has the operator, and its type the values that it is compared with. -/
def FilterLeaf.Fits : FilterLeaf → Prop
  | .range field min max => ∃ column type, fieldColumn field = some (column, type) ∧
      ∀ value ∈ min.toList ++ max.toList, server.Reads type (Number.text value)
  | .compare field _ value => ∃ entry type, ownField field = some entry ∧ columnType entry.column = some type ∧
      if entry.kind = .temporal then ∀ text ∈ dateText runtime value.spelled, server.Reads .timestamptz text
      else server.Reads type value.spelled
  | .text field .equals value => ∃ column type, fieldColumn field = some (column, type) ∧ server.Reads type value
  | .text field _ value => ∃ column, fieldColumn field = some (column, .text) ∧ server.Reads .text value
  | .isIn field values => ∃ column type, fieldColumn field = some (column, type) ∧ type ≠ .textArray ∧
      ∀ value ∈ values, server.Reads type value.spelled
  | .dateRange field start stop => ∃ column type, fieldColumn field = some (column, type) ∧
      ∀ value ∈ (Text.truthy start).toList ++ (Text.truthy stop).toList,
        ∀ text ∈ dateText runtime value, server.Reads type text
  | .keyExists metadataKey _ => server.Reads .text metadataKey

mutual

def FilterNode.leaves : FilterNode → List FilterLeaf
  | .junction _ first rest => first.leaves ++ FilterNode.allLeaves rest
  | .not condition => condition.leaves
  | .leaf known => [known]

def FilterNode.allLeaves : List FilterNode → List FilterLeaf
  | [] => []
  | node :: rest => node.leaves ++ FilterNode.allLeaves rest

end

def FilterNode.Fits (node : FilterNode) : Prop :=
  ∀ leaf ∈ node.leaves, leaf.Fits server runtime

end ProxyPay.TransactionFilters
