import Mathlib.Data.Prod.Lex
import Mathlib.Data.String.Basic
import ProxyPay.Library.Utf8
import ProxyPay.Library.Fallible
import ProxyPay.Library.Iso8601
import ProxyPay.Library.Json
import ProxyPay.Library.Keyset

/-! Cursor-based pagination: the cursors, the predicate of a page boundary, the response and the
generator that follows the cursors. -/

namespace ProxyPay.Pagination

open ProxyPay.Library

/-- The payload of a cursor of version 1. -/
structure CursorPayload where
  t : String
  id : String
  deriving DecidableEq

/-- Which texts the runtime reads as dates, and how the database client writes an identifier that is no
text. -/
structure Runtime where
  isDate : String → Bool
  parameter : Json → String

def isUnsafe (char : Char) : Bool :=
  char = '+' || char = '/' || char = '='

def validateUrlSafeCursor (encoded : String) : Except String Unit :=
  let found := (encoded.toList.filter isUnsafe).eraseDups
  let named := ", ".intercalate (found.map fun char => String.ofList (Json.writeText (String.singleton char)))
  require (found = []) ("Cursor encoding produced unsafe character(s): " ++ named ++
    ". Expected base64url output with no +, /, or = characters.")

variable (payload : CursorPayload)

/-- `JSON.stringify(payload)` -/
def payloadText : String :=
  String.ofList (Json.writeObject
    [("v", ['1']), ("t", Json.writeText payload.t), ("id", Json.writeText payload.id)])

def encoded : String :=
  String.ofList (((Base64.encode (Utf8.encode (payloadText payload))).map Base64.urlSafe).rdropWhile (· = '='))

/-- A text in characters that stand in URLs. -/
def urlText (text : String) : String :=
  String.ofList (((Base64.encode (Utf8.encode text)).map Base64.urlSafe).rdropWhile (· = '='))

def encodeCursor : Except String String := do
  validateUrlSafeCursor (encoded payload)
  return encoded payload

/-- The character of the alphabet of MIME. -/
def mime (char : Char) : Char :=
  if char = '-' then '+' else if char = '_' then '/' else char

def normalized (cursor : String) : List Char :=
  let characters := cursor.toList.map mime
  let padding := characters.length % 4
  if padding = 0 then characters else characters ++ List.replicate (4 - padding) '='

/-- What stands before and behind the last bar. -/
def splitAtLastBar (text : List Char) : Option (List Char × List Char) :=
  match text.reverse.dropWhile (· ≠ '|') with
  | [] => none
  | _ :: before => some (before.reverse, (text.reverse.takeWhile (· ≠ '|')).reverse)

variable (runtime : Runtime)

def readPayload (decoded : String) : Option CursorPayload := do
  let payload ← Json.parse decoded
  let version ← payload.get? "v"
  let t ← (payload.get? "t").bind Json.asText?
  let id ← payload.get? "id"
  if version.isOne && id.isTruthy then
    return ⟨t, id.asText?.getD (runtime.parameter id)⟩
  else none

def readLegacy (decoded : String) : Option CursorPayload := do
  let (timestamp, id) ← splitAtLastBar decoded.toList
  if runtime.isDate (String.ofList timestamp) && id ≠ [] then
    return ⟨String.ofList timestamp, String.ofList id⟩
  else none

def decodeCursor (cursor : String) : Except String CursorPayload :=
  if cursor = "" then .error "Invalid cursor"
  else
    let decoded := Utf8.decode (Base64.decode (normalized cursor))
    orThrow "Invalid cursor" ((readPayload runtime decoded).or (readLegacy runtime decoded))

inductive SortValue where
  | text (value : String)
  | number (value : Float)
  | date (instant : ℤ)

def SortValue.toText : SortValue → String
  | .text value => value
  | .number value => Number.text value
  | .date instant => Iso8601.toISOString instant

def createCursor (sortValue : SortValue) (id : String) : Except String String :=
  encodeCursor ⟨sortValue.toText, id⟩

inductive Order where
  | asc
  | desc
  deriving DecidableEq

inductive Direction where
  | forward
  | backward
  deriving DecidableEq

/-- Whether the order puts one pair of values before another. -/
def Order.before (order : Order) (first second : String × String) : Prop :=
  match order with
  | .asc => toLex first < toLex second
  | .desc => toLex second < toLex first

instance (order : Order) : DecidableRel order.before :=
  fun first second => match order with
  | .asc => inferInstanceAs (Decidable (toLex first < toLex second))
  | .desc => inferInstanceAs (Decidable (toLex second < toLex first))

structure CursorWhereOptions where
  column : String
  idColumn : Option String
  order : Option Order
  direction : Option Direction
  paramOffset : Option ℕ

inductive Operator where
  | less
  | greater
  deriving DecidableEq

def Operator.text : Operator → String
  | .less => "<"
  | .greater => ">"

/-- A comparison of two columns with two parameters. -/
structure Clause where
  column : String
  idColumn : String
  operator : Operator
  cursorParam : ℕ
  idParam : ℕ

def Clause.text (clause : Clause) : String :=
  "(" ++ clause.column ++ ", " ++ clause.idColumn ++ ") " ++ clause.operator.text ++
    " ($" ++ toString clause.cursorParam ++ ", $" ++ toString clause.idParam ++ ")"

structure CursorWhere where
  clause : Clause
  params : String × String

def buildCursorWhere (cursor : CursorPayload) (options : CursorWhereOptions) : CursorWhere :=
  let order := options.order.getD .desc
  let direction := options.direction.getD .forward
  let paramOffset := options.paramOffset.getD 1
  let operator := if (order = .desc) = (direction = .forward) then .less else .greater
  ⟨⟨options.column, options.idColumn.getD "id", operator, paramOffset, paramOffset + 1⟩, (cursor.t, cursor.id)⟩

/-- Whether the clause selects a row with these values, by the row-value comparison. -/
def CursorWhere.selects (condition : CursorWhere) (t id : String) : Bool :=
  match condition.clause.operator with
  | .less => toLex (t, id) < toLex condition.params
  | .greater => toLex condition.params < toLex (t, id)

structure PageInfo where
  limit : ℕ
  nextCursor : Option String
  prevCursor : Option String
  hasMore : Bool

structure PaginatedResult (T : Type) where
  data : List T
  pagination : PageInfo

variable {T : Type}

def createPaginatedResponse (rows : List T) (limit : ℕ) (getSortValue : T → SortValue)
    (getId : T → String) : Except String (PaginatedResult T) := do
  let hasMore : Bool := limit < rows.length
  let data := rows.take limit
  let cursorOf := fun row => createCursor (getSortValue row) (getId row)
  let prevCursor ← data.head?.mapM cursorOf
  let nextCursor ← if hasMore then data.getLast?.mapM cursorOf else pure none
  return ⟨data, ⟨limit, nextCursor, prevCursor, hasMore⟩⟩

structure FetchPageResult (T : Type) where
  rows : List T
  nextCursor : Option String

def exceeded (maxPages : ℕ) : String :=
  "paginateAll exceeded maxPages (" ++ toString maxPages ++ ") — cursor did not terminate"

/-- The loop of `paginateAll` with this many pages left: the items that it yields, and how it ends. -/
def pagesFrom (fetchPage : Option String → Except String (FetchPageResult T)) (maxPages : ℕ) :
    ℕ → Option String → ℕ → List T × Except String Unit
  | 0, _, _ => ([], .error (exceeded maxPages))
  | left + 1, cursor, fetched =>
    match fetchPage cursor with
    | .error error => ([], .error error)
    | .ok page =>
      let total := fetched + page.rows.length
      match page.nextCursor with
      | none => (page.rows, .ok ())
      | some next =>
        if next ≠ "" && 0 < total then
          let later := pagesFrom fetchPage maxPages left (some next) total
          (page.rows ++ later.1, later.2)
        else (page.rows, .ok ())

def paginateAll (fetchPage : Option String → Except String (FetchPageResult T))
    (maxPages : Option ℕ) : List T × Except String Unit :=
  pagesFrom fetchPage (maxPages.getD 10000) (maxPages.getD 10000) none 0

end ProxyPay.Pagination
