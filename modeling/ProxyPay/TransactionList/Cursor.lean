import ProxyPay.Library.Hex
import ProxyPay.Pagination.Pages

/-! The strict decoder of transaction cursors: base64 in either alphabet, a payload of version 1 without other
members or the legacy form, a date within a window, and an identifier in the form of a UUID. -/

namespace ProxyPay.TransactionList

open ProxyPay.Library ProxyPay.Pagination

/-- How the schema library checks texts of dates, and how `Date.parse` reads them; both know the texts of
`toISOString`. -/
structure DateReader where
  datetime : String → Bool
  parse : String → Option ℤ
  datetime_iso : ∀ instant, Iso8601.Common instant → datetime (Iso8601.toISOString instant) = true
  parse_iso : ∀ instant, Iso8601.Common instant → parse (Iso8601.toISOString instant) = some instant

theorem isSome_read_toISOString (instant : ℤ) (common : Iso8601.Common instant) :
    (Iso8601.read (Iso8601.toISOString instant)).isSome = true := by
  rw [Iso8601.read_toISOString common]
  rfl

/-- A reader of nothing but such texts. -/
def DateReader.iso : DateReader where
  datetime text := (Iso8601.read text).isSome
  parse := Iso8601.read
  datetime_iso := isSome_read_toISOString
  parse_iso instant common := Iso8601.read_toISOString common

/-- `CURSOR_ID_PATTERN` -/
def isCursorId (text : String) : Bool := (Uuid.read text).isSome

/-- A character of either alphabet. -/
def isDigit (char : Char) : Bool := (Base64.value? char).isSome

/-- `CURSOR_ENCODING_PATTERN` -/
def isEncoding (cursor : List Char) : Bool :=
  cursor.takeWhile isDigit ≠ [] && (cursor.dropWhile isDigit).length ≤ 2 && (cursor.dropWhile isDigit).all (· = '=')

/-- The first of January 2000. -/
def CURSOR_MIN_TIMESTAMP : ℤ := 946684800000

/-- The first of January 2100. -/
def CURSOR_MAX_TIMESTAMP : ℤ := 4102444800000

def InWindow (instant : ℤ) : Prop :=
  CURSOR_MIN_TIMESTAMP ≤ instant ∧ instant ≤ CURSOR_MAX_TIMESTAMP

instance : DecidablePred InWindow := fun _ => inferInstanceAs (Decidable (_ ∧ _))

variable (dates : DateReader)

/-- The instant of a text that passes `cursorTimestampSchema`. -/
def cursorTimestamp (text : String) : Option ℤ :=
  if dates.datetime text then (dates.parse text).filter fun instant => InWindow instant else none

/-- An instant and an identifier. -/
structure DecodedTransactionCursor where
  createdAt : ℤ
  id : String
  deriving DecidableEq

def fromTexts (t id : String) : Option DecodedTransactionCursor := do
  let createdAt ← cursorTimestamp dates t
  if isCursorId id then some ⟨createdAt, id⟩ else none

/-- An object without other members. -/
def isStrict : Json → Bool
  | .object members => members.all fun member => ["v", "t", "id"].contains member.1
  | _ => false

def versionedCursor (json : Json) : Option DecodedTransactionCursor := do
  let version ← json.get? "v"
  let t ← (json.get? "t").bind Json.asText?
  let id ← (json.get? "id").bind Json.asText?
  if isStrict json && version.isOne then fromTexts dates t id else none

/-- What stands before and behind the only bar. -/
def splitAtOnlyBar (text : List Char) : Option (List Char × List Char) :=
  match text.dropWhile (· ≠ '|') with
  | [] => none
  | _ :: behind => if '|' ∈ behind then none else some (text.takeWhile (· ≠ '|'), behind)

def legacyCursor (decoded : String) : Option DecodedTransactionCursor := do
  let (t, id) ← splitAtOnlyBar decoded.toList
  fromTexts dates (String.ofList t) (String.ofList id)

/-- Text that is JSON is not read as the legacy form. -/
def parseCursorPayload (decoded : String) : Option DecodedTransactionCursor :=
  match Json.parse decoded with
  | some json => versionedCursor dates json
  | none => legacyCursor dates decoded

def decodedText (cursor : String) : String :=
  Utf8.decode (Base64.decode (cursor.toList.map mime))

def decodeTransactionCursor (cursor : String) : Except String DecodedTransactionCursor :=
  if isEncoding cursor.toList then orThrow "Invalid transaction cursor" (parseCursorPayload dates (decodedText cursor))
  else .error "Invalid transaction cursor"

/-! What the other module writes is read. -/

variable {instant : ℤ}

theorem common_of_inWindow (inside : InWindow instant) : Iso8601.Common instant := by
  have begins : Iso8601.dayNumber ⟨1, 1, 1⟩ = -719162 := rfl
  have finishes : Iso8601.dayNumber ⟨10000, 1, 1⟩ = 2932897 := rfl
  obtain ⟨least, most⟩ := inside
  unfold CURSOR_MIN_TIMESTAMP at least
  unfold CURSOR_MAX_TIMESTAMP at most
  unfold Iso8601.Common Iso8601.dayMs
  rw [begins, finishes]
  omega

theorem cursorTimestamp_iso (common : Iso8601.Common instant) :
    cursorTimestamp dates (Iso8601.toISOString instant) = if InWindow instant then some instant else none := by
  unfold cursorTimestamp
  rw [dates.datetime_iso instant common, dates.parse_iso instant common, if_pos rfl, Option.filter_some]
  by_cases inside : InWindow instant <;> simp [inside]

variable {id : String}

theorem isCursorId_ne_empty (uuid : isCursorId id = true) : id ≠ "" := by
  rintro rfl
  cases uuid

section

variable (payload : CursorPayload)

include payload

theorem encoded_toList : (encoded payload).toList = Base64.encodeUrl (Utf8.encode (payloadText payload)) := by
  rw [encoded_eq, String.toList_ofList]

theorem isEncoding_encoded : isEncoding (encoded payload).toList = true := by
  have small := Base64.digits_lt (Utf8.encode (payloadText payload))
  have digits : ∀ char ∈ (encoded payload).toList, isDigit char = true := by
    rw [encoded_toList, Base64.encodeUrl]
    intro char member
    obtain ⟨value, of_bytes, rfl⟩ := List.mem_map.mp member
    rw [isDigit, Base64.value_urlSafe value (small value of_bytes)]
    rfl
  have some_digit : (encoded payload).toList ≠ [] := by
    intro empty
    exact encoded_ne_empty payload (String.toList_inj.mp empty)
  unfold isEncoding
  rw [List.takeWhile_eq_self_iff.mpr digits, List.dropWhile_eq_nil_iff.mpr digits]
  simp [some_digit]

theorem decodedText_encoded : decodedText (encoded payload) = payloadText payload := by
  have small := Base64.digits_lt (Utf8.encode (payloadText payload))
  have characters : (encoded payload).toList.map mime =
      (Base64.digits (Utf8.encode (payloadText payload))).map Base64.digit := by
    rw [encoded_toList, Base64.encodeUrl, List.map_map]
    exact List.map_congr_left fun value member => mime_urlSafe value (small value member)
  have plain : Base64.decode ((Base64.digits (Utf8.encode (payloadText payload))).map Base64.digit ++
      List.replicate 0 '=') = Utf8.encode (payloadText payload) :=
    Base64.decode_spelled Base64.value_digit Base64.digit_ne_fill
  rw [List.replicate_zero, List.append_nil] at plain
  rw [decodedText, characters, plain, Utf8.decode_encode]

theorem decodeTransactionCursor_encoded : decodeTransactionCursor dates (encoded payload) =
      orThrow "Invalid transaction cursor" (fromTexts dates payload.t payload.id) := by
  have one : Json.isOne (.number (Number.nearest 1 0)) = true := by decide +kernel
  rw [decodeTransactionCursor, isEncoding_encoded, if_pos rfl, decodedText_encoded, parseCursorPayload,
    parse_payloadText]
  simp [versionedCursor, Json.get?, Json.asText?, isStrict, one]

end

theorem fromTexts_iso (common : Iso8601.Common instant) (uuid : isCursorId id = true) :
    fromTexts dates (Iso8601.toISOString instant) id = if InWindow instant then some ⟨instant, id⟩ else none := by
  unfold fromTexts
  rw [cursorTimestamp_iso dates common]
  by_cases inside : InWindow instant <;> simp [inside, uuid]

end ProxyPay.TransactionList
