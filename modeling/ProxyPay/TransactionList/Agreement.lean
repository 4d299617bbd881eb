import ProxyPay.Pagination.Returned
import ProxyPay.TransactionList.Cursor

/-! The two decoders of cursors agree on every cursor that the strict one accepts, and a cursor made of what
they return is read as that again, as long as JSON keeps the identifier. -/

namespace ProxyPay.TransactionList

open ProxyPay.Library ProxyPay.Pagination

variable (dates : DateReader) (parameter : Json → String)

/-- The lenient decoder takes every text as a date that `Date.parse` reads. -/
def lenient : Runtime := ⟨fun text => (dates.parse text).isSome, parameter⟩

/-- Both decoders read the cursor as this pair; the lenient one returns the text of the instant. -/
structure BothRead (cursor : String) (instant : ℤ) (id : String) : Prop where
  strict : decodeTransactionCursor dates cursor = .ok ⟨instant, id⟩
  lenient : ∃ t, decodeReturned (lenient dates parameter) cursor = .ok ⟨t, .string id⟩ ∧ dates.parse t = some instant

/-! One wire format. -/

theorem decode_normalized_eq (cursor : String) :
    Utf8.decode (Base64.decode (normalized cursor)) = decodedText cursor := by
  unfold normalized decodedText
  simp only
  split
  · rfl
  · rw [Base64.decode_fill]

theorem splitAtLastBar_of_only {text before behind : List Char}
    (only : splitAtOnlyBar text = some (before, behind)) : splitAtLastBar text = some (before, behind) := by
  unfold splitAtOnlyBar at only
  split at only
  · cases only
  · rename_i bar rest found
    split at only
    · cases only
    · rename_i free
      obtain ⟨rfl, rfl⟩ := Prod.mk.inj (Option.some.inj only)
      have is_bar : bar = '|' := by
        have stopped := List.head?_dropWhile_not (fun char => decide (char ≠ '|')) text
        rw [found] at stopped
        simpa using stopped
      have whole : text.reverse = rest.reverse ++ '|' :: (text.takeWhile fun char => char ≠ '|').reverse := by
        have parts := @List.takeWhile_append_dropWhile _ (fun char => decide (char ≠ '|')) text
        rw [found, is_bar] at parts
        conv_lhs => rw [← parts]
        simp
      have kept : ∀ char ∈ rest.reverse, decide (char ≠ '|') = true := by
        intro char member
        rw [decide_eq_true_eq]
        rintro rfl
        exact free (List.mem_reverse.mp member)
      unfold splitAtLastBar
      rw [whole, List.dropWhile_append_of_pos kept, List.takeWhile_append_of_pos kept]
      simp

theorem fromTexts_eq_some {t id : String} {decoded : DecodedTransactionCursor} : fromTexts dates t id = some decoded ↔
      cursorTimestamp dates t = some decoded.createdAt ∧ isCursorId id = true ∧ decoded.id = id := by
  unfold fromTexts
  cases cursorTimestamp dates t with
  | none => simp
  | some instant =>
    obtain ⟨createdAt, other⟩ := decoded
    by_cases uuid : isCursorId id = true
    · simp [uuid, eq_comm]
    · simp [uuid]

theorem parse_of_cursorTimestamp {t : String} {instant : ℤ} (read : cursorTimestamp dates t = some instant) :
    dates.parse t = some instant ∧ InWindow instant := by
  unfold cursorTimestamp at read
  split at read
  · simp_all
  · cases read

variable {dates} {parameter}

theorem lenient_of_strict {cursor : String} {instant : ℤ} {id : String}
    (accepted : decodeTransactionCursor dates cursor = .ok ⟨instant, id⟩) :
    ∃ t, decodeReturned (lenient dates parameter) cursor = .ok ⟨t, .string id⟩ ∧ dates.parse t = some instant ∧
      fromTexts dates t id = some ⟨instant, id⟩ := by
  unfold decodeTransactionCursor at accepted
  split at accepted
  · rename_i encoding
    have some_text : cursor ≠ "" := by
      rintro rfl
      cases encoding
    simp only [decodeReturned, if_neg some_text, decode_normalized_eq, orThrow_ok] at accepted ⊢
    unfold parseCursorPayload at accepted
    cases parsed : Json.parse (decodedText cursor) with
    | some json =>
      rw [parsed] at accepted
      simp only [versionedCursor, Option.bind_eq_bind, Option.bind_eq_some_iff] at accepted
      obtain ⟨version, v, t, t_text, other, ⟨value, found, is_text⟩, checked⟩ := accepted
      split at checked
      · rename_i exact_shape
        obtain ⟨read, uuid, same⟩ := (fromTexts_eq_some dates).mp checked
        obtain rfl : id = other := same
        refine ⟨t, ?_, (parse_of_cursorTimestamp dates read).1, checked⟩
        have value_eq : value = .string id := by
          cases value <;> cases is_text
          rfl
        rw [value_eq] at found
        have truthy : (Json.string id).isTruthy = true := by
          simpa [Json.isTruthy] using isCursorId_ne_empty uuid
        have one := (Bool.and_eq_true_iff.mp exact_shape).2
        have t_eq : (json.get? "t").bind Json.asText? = some t := Option.bind_eq_some_iff.mpr t_text
        rw [Option.or_eq_some_iff]
        left
        simp [readReturned, parsed, v, t_eq, found, one, truthy]
      · cases checked
    | none =>
      rw [parsed] at accepted
      simp only [legacyCursor, Option.bind_eq_bind, Option.bind_eq_some_iff] at accepted
      obtain ⟨⟨before, behind⟩, only, checked⟩ := accepted
      obtain ⟨read, uuid, rfl⟩ := (fromTexts_eq_some dates).mp checked
      have is_date := (parse_of_cursorTimestamp dates read).1
      refine ⟨String.ofList before, ?_, is_date, checked⟩
      have unread : readReturned (decodedText cursor) = none := by
        rw [readReturned, parsed]
        rfl
      have legacy : readLegacy (lenient dates parameter) (decodedText cursor) =
          some ⟨String.ofList before, String.ofList behind⟩ := by
        apply readLegacy_eq_some.mpr
        refine ⟨before, behind, splitAtLastBar_of_only only, ?_, ?_, rfl⟩
        · show (dates.parse (String.ofList before)).isSome = true
          rw [is_date]
          rfl
        · rintro rfl
          cases uuid
      rw [unread, legacy]
      rfl
  · cases accepted

theorem decodeReturned_encoded (runtime : Runtime) {payload : CursorPayload} (named : payload.id ≠ "") :
    decodeReturned runtime (encoded payload) = .ok payload.returned := by
  have truthy : (Json.string payload.id).isTruthy = true := by simpa [Json.isTruthy] using named
  have read : readReturned (returnedText payload.returned) = some payload.returned := by
    rw [readReturned_returnedText]
    show ((some (Json.string payload.id)).filter Json.isTruthy).map _ = _
    rw [Option.filter_some, if_pos truthy]
    rfl
  have whole := decodeReturned_urlText runtime (returnedText_ne_empty payload.returned)
  rw [read] at whole
  exact whole

theorem bothRead_encoded {t id : String} {instant : ℤ} (taken : fromTexts dates t id = some ⟨instant, id⟩) :
    BothRead dates parameter (encoded ⟨t, id⟩) instant id := by
  obtain ⟨read, uuid, -⟩ := (fromTexts_eq_some dates).mp taken
  constructor
  · rw [decodeTransactionCursor_encoded, taken]
    rfl
  · exact ⟨t, decodeReturned_encoded _ (isCursorId_ne_empty uuid), (parse_of_cursorTimestamp dates read).1⟩

variable (dates parameter)

theorem codecs_agree : (∀ instant, InWindow instant → ∀ id, isCursorId id = true →
      ∃ cursor, createCursor (.date instant) id = .ok cursor ∧ BothRead dates parameter cursor instant id) ∧
    (∀ cursor instant id, decodeTransactionCursor dates cursor = .ok ⟨instant, id⟩ →
      BothRead dates parameter cursor instant id ∧
      (∃ again, createCursor (.date instant) id = .ok again ∧ BothRead dates parameter again instant id) ∧
      ∀ payload, decodeReturned (lenient dates parameter) cursor = .ok payload →
        ∃ again, encodeReturned payload = .ok again ∧ BothRead dates parameter again instant id) ∧
    ∀ cursor payload, decodeReturned (lenient dates parameter) cursor = .ok payload →
      ((∃ again, encodeReturned payload = .ok again ∧
        decodeReturned (lenient dates parameter) again = .ok payload) ↔ Json.KeepsNumbers payload.id) := by
  have made (instant : ℤ) (inside : InWindow instant) (id : String) (uuid : isCursorId id = true) :
      ∃ cursor, createCursor (.date instant) id = .ok cursor ∧ BothRead dates parameter cursor instant id := by
    refine ⟨_, encodeCursor_eq _, bothRead_encoded ?_⟩
    rw [SortValue.toText, fromTexts_iso dates (common_of_inWindow inside) uuid, if_pos inside]
  refine ⟨made, ?_, fun cursor payload decoded => reencoded_iff decoded⟩
  intro cursor instant id accepted
  obtain ⟨t, returned, is_date, taken⟩ := @lenient_of_strict dates parameter cursor instant id accepted
  obtain ⟨read, uuid, -⟩ := (fromTexts_eq_some dates).mp taken
  refine ⟨⟨accepted, t, returned, is_date⟩, made instant (parse_of_cursorTimestamp dates read).2 id uuid, ?_⟩
  intro payload same
  rw [returned] at same
  cases same
  exact ⟨_, encodeReturned_eq _, bothRead_encoded taken⟩

/-- Whether the identifier is a number that JSON texts do not have. -/
def infiniteId (payload : Except String ReturnedPayload) : Bool :=
  match payload with
  | .ok ⟨_, .number value⟩ => !value.isFinite
  | _ => false

/-- An infinite number is written as null. -/
theorem infinite_id_lost : ¬∀ cursor payload, decodeReturned (lenient .iso fun _ => "") cursor = .ok payload →
      ∃ again, encodeReturned payload = .ok again ∧ decodeReturned (lenient .iso fun _ => "") again = .ok payload := by
  intro survives
  have found : infiniteId (decodeReturned (lenient .iso fun _ => "")
      "eyJ2IjoxLCJ0IjoiMjAyNC0xMC0wNFQwMDowMDowMC4wMDBaIiwiaWQiOjFlOTk5fQ") = true := by decide +kernel
  unfold infiniteId at found
  split at found
  · rename_i t value decoded
    have kept := (reencoded_iff decoded).mp (survives _ _ decoded)
    rw [Json.KeepsNumbers, Json.KeepsNumber] at kept
    rw [kept.1] at found
    cases found
  · cases found

end ProxyPay.TransactionList
