import ProxyPay.Library.Rewriting
import ProxyPay.Pagination.Pages

/-! What `decodeCursor` returns for any cursor, also one with an identifier that is no text, and how it is
encoded again. -/

namespace ProxyPay.Pagination

open ProxyPay.Library

/-- A payload as the decoder returns it: of the identifier it checks no more than that it is truthy. -/
structure ReturnedPayload where
  t : String
  id : Json

def CursorPayload.returned (payload : CursorPayload) : ReturnedPayload := ⟨payload.t, .string payload.id⟩

/-- `JSON.stringify(payload)` -/
def returnedText (payload : ReturnedPayload) : String :=
  String.ofList (Json.writeObject
    [("v", ['1']), ("t", Json.writeText payload.t), ("id", Json.write payload.id)])

/-- `encodeCursor(payload)` -/
def encodeReturned (payload : ReturnedPayload) : Except String String := do
  validateUrlSafeCursor (urlText (returnedText payload))
  return urlText (returnedText payload)

def readReturned (decoded : String) : Option ReturnedPayload := do
  let payload ← Json.parse decoded
  let version ← payload.get? "v"
  let t ← (payload.get? "t").bind Json.asText?
  let id ← payload.get? "id"
  if version.isOne && id.isTruthy then some ⟨t, id⟩ else none

variable (runtime : Runtime)

/-- `decodeCursor(cursor)` -/
def decodeReturned (cursor : String) : Except String ReturnedPayload :=
  if cursor = "" then .error "Invalid cursor"
  else
    let decoded := Utf8.decode (Base64.decode (normalized cursor))
    orThrow "Invalid cursor" ((readReturned decoded).or ((readLegacy runtime decoded).map (·.returned)))

/-- The payload as the query binds it. -/
def ReturnedPayload.bound (payload : ReturnedPayload) : CursorPayload :=
  ⟨payload.t, payload.id.asText?.getD (runtime.parameter payload.id)⟩

theorem readPayload_eq (decoded : String) :
    readPayload runtime decoded = (readReturned decoded).map (·.bound runtime) := by
  unfold readPayload readReturned
  cases Json.parse decoded with
  | none => rfl
  | some payload =>
    simp only [Option.bind_eq_bind, Option.bind_some]
    cases payload.get? "v" with
    | none => rfl
    | some version =>
      simp only [Option.bind_some]
      cases (payload.get? "t").bind Json.asText? with
      | none => rfl
      | some t =>
        simp only [Option.bind_some]
        cases payload.get? "id" with
        | none => rfl
        | some id =>
          simp only [Option.bind_some]
          split <;> rfl

/-- The parameters of the query are those of what is returned. -/
theorem decodeCursor_eq (cursor : String) :
    decodeCursor runtime cursor = (decodeReturned runtime cursor).map (·.bound runtime) := by
  unfold decodeCursor decodeReturned
  by_cases empty : cursor = ""
  · rw [if_pos empty, if_pos empty]
    rfl
  · rw [if_neg empty, if_neg empty]
    simp only [readPayload_eq]
    generalize Utf8.decode (Base64.decode (normalized cursor)) = decoded
    cases readReturned decoded with
    | some payload => rfl
    | none => cases readLegacy runtime decoded <;> rfl

theorem encodeReturned_eq (payload : ReturnedPayload) :
    encodeReturned payload = .ok (urlText (returnedText payload)) := by
  rw [encodeReturned, validate_urlText]
  rfl

theorem returnedText_returned (payload : CursorPayload) : returnedText payload.returned = payloadText payload := rfl

theorem returnedText_eq (payload : ReturnedPayload) : returnedText payload = String.ofList (Json.write
    (.object [("v", .number (Number.nearest 1 0)), ("t", .string payload.t), ("id", payload.id)])) := by
  have one : Json.write (.number (Number.nearest 1 0)) = ['1'] := by
    have finite : (Number.nearest 1 0).isFinite = true := by decide +kernel
    have spelled : Number.text (Number.nearest 1 0) = "1" := by decide +kernel
    rw [Json.write, if_pos finite, spelled]
    rfl
  rw [Json.write, Json.write.writeEach, Json.write.writeEach, Json.write.writeEach, Json.write.writeEach, one]
  rfl

theorem parse_returnedText (payload : ReturnedPayload) :
    Json.parse (returnedText payload) = (Json.rewritten payload.id).map fun id =>
      .object [("v", .number (Number.nearest 1 0)), ("t", .string payload.t), ("id", id)] := by
  have one : Json.rewritten (.number (Number.nearest 1 0)) = some (.number (Number.nearest 1 0)) := by
    have finite : (Number.nearest 1 0).isFinite = true := by decide +kernel
    have spelled : Number.text (Number.nearest 1 0) = "1" := by decide +kernel
    rw [Json.rewritten, if_pos finite, spelled]
    rfl
  rw [returnedText_eq, Json.parse_write, Json.rewritten, Json.rewritten.each, Json.rewritten.each,
    Json.rewritten.each, Json.rewritten.each, one]
  cases Json.rewritten payload.id <;> rfl

theorem readReturned_returnedText (payload : ReturnedPayload) : readReturned (returnedText payload) =
      ((Json.rewritten payload.id).filter Json.isTruthy).map fun id => ⟨payload.t, id⟩ := by
  have one : Json.isOne (.number (Number.nearest 1 0)) = true := by decide +kernel
  unfold readReturned
  rw [parse_returnedText]
  cases Json.rewritten payload.id with
  | none => rfl
  | some id =>
    cases truthy : id.isTruthy with
    | false | true => simp [Json.get?, Json.asText?, Option.filter_some, one, truthy]

theorem decodeReturned_urlText {text : String} (some_text : text ≠ "") : decodeReturned runtime (urlText text) =
      orThrow "Invalid cursor" ((readReturned text).or ((readLegacy runtime text).map (·.returned))) := by
  simp only [decodeReturned, if_neg (urlText_ne_empty some_text), decode_urlText, Utf8.decode_encode]

theorem returnedText_ne_empty (payload : ReturnedPayload) : returnedText payload ≠ "" := by
  intro text
  have begins : (returnedText payload).toList.head? = some '{' := by
    rw [returnedText, String.toList_ofList]
    rfl
  rw [text] at begins
  cases begins

variable {runtime}

theorem readLegacy_eq_some {decoded : String} {payload : CursorPayload} :
    readLegacy runtime decoded = some payload ↔ ∃ timestamp id, splitAtLastBar decoded.toList = some (timestamp, id) ∧
      runtime.isDate (String.ofList timestamp) = true ∧ id ≠ [] ∧
        payload = ⟨String.ofList timestamp, String.ofList id⟩ := by
  unfold readLegacy
  cases splitAtLastBar decoded.toList with
  | none => simp
  | some parts => grind

section

variable {cursor : String} {payload : ReturnedPayload} (decoded : decodeReturned runtime cursor = .ok payload)

include decoded

theorem truthy_of_decoded : payload.id.isTruthy = true := by
  by_cases empty : cursor = ""
  · rw [decodeReturned, if_pos empty] at decoded
    cases decoded
  · simp only [decodeReturned, if_neg empty, orThrow_ok, Option.or_eq_some_iff] at decoded
    generalize Utf8.decode (Base64.decode (normalized cursor)) = text at decoded
    rcases decoded with read | ⟨-, read⟩
    · simp only [readReturned, Option.bind_eq_bind, Option.bind_eq_some_iff] at read
      obtain ⟨json, -, version, -, t, -, id, -, checked⟩ := read
      split at checked
      · grind
      · cases checked
    · obtain ⟨legacy, found, rfl⟩ := Option.map_eq_some_iff.mp read
      obtain ⟨timestamp, id, -, -, some_id, rfl⟩ := (readLegacy_eq_some).mp found
      simpa [CursorPayload.returned, Json.isTruthy] using some_id

theorem reencoded_iff : (∃ again, encodeReturned payload = .ok again ∧ decodeReturned runtime again = .ok payload) ↔
      Json.KeepsNumbers payload.id := by
  have truthy := truthy_of_decoded decoded
  have read := readReturned_returnedText payload
  have again := decodeReturned_urlText runtime (returnedText_ne_empty payload)
  rw [read] at again
  rw [← Json.rewritten_eq_iff]
  constructor
  · rintro ⟨cursor, encoded, same⟩
    rw [encodeReturned_eq] at encoded
    rw [← Except.ok.inj encoded, again, orThrow_ok, Option.or_eq_some_iff] at same
    rcases same with kept | ⟨-, legacy⟩
    · obtain ⟨id, found, made⟩ := Option.map_eq_some_iff.mp kept
      have same : id = payload.id := congrArg ReturnedPayload.id made
      rw [same] at found
      exact (Option.filter_eq_some_iff.mp found).1
    · obtain ⟨legacy, -, rfl⟩ := Option.map_eq_some_iff.mp legacy
      rfl
  · intro kept
    refine ⟨_, encodeReturned_eq payload, ?_⟩
    rw [again, kept, Option.filter_some, if_pos truthy]
    rfl

end

end ProxyPay.Pagination
