import ProxyPay.Pagination.Cursor

/-! Following the cursors of a sorted table: every row is visited once, in order, as long as no page that
has a next one ends with a row whose id is empty. -/

namespace ProxyPay.Pagination

open ProxyPay.Library

theorem mime_urlSafe : ∀ value < 64, mime (Base64.urlSafe (Base64.digit value)) = Base64.digit value := by
  decide +kernel

theorem safe_urlSafe : ∀ value < 64, isUnsafe (Base64.urlSafe (Base64.digit value)) = false := by
  decide +kernel

variable (text : String)

theorem urlText_eq : urlText text = String.ofList (Base64.encodeUrl (Utf8.encode text)) := by
  have small := Base64.digits_lt (Utf8.encode text)
  have stays : ∀ char ∈ Base64.encodeUrl (Utf8.encode text), decide (char = '=') = false := by
    intro char member
    rw [Base64.encodeUrl, List.mem_map] at member
    obtain ⟨value, of_bytes, rfl⟩ := member
    exact decide_eq_false (Base64.urlSafe_ne_fill value (small value of_bytes))
  have mapped (count : ℕ) : (List.replicate count '=').map Base64.urlSafe = List.replicate count '=' := by
    rw [List.map_replicate]
    rfl
  rw [urlText, Base64.encode, List.map_append, List.map_map, mapped]
  exact congrArg String.ofList (Base64.rdropWhile_fill stays (by decide) _)

theorem validate_urlText : validateUrlSafeCursor (urlText text) = .ok () := by
  have small := Base64.digits_lt (Utf8.encode text)
  have safe : (urlText text).toList.filter isUnsafe = [] := by
    rw [urlText_eq, String.toList_ofList, Base64.encodeUrl, List.filter_eq_nil_iff]
    intro char member
    rw [List.mem_map] at member
    obtain ⟨value, of_bytes, rfl⟩ := member
    rw [safe_urlSafe value (small value of_bytes)]
    exact Bool.false_ne_true
  simp only [validateUrlSafeCursor, safe]
  exact require_passes _ rfl

theorem decode_urlText : Base64.decode (normalized (urlText text)) = Utf8.encode text := by
  have small := Base64.digits_lt (Utf8.encode text)
  have characters : (urlText text).toList.map mime = (Base64.digits (Utf8.encode text)).map Base64.digit := by
    rw [urlText_eq, String.toList_ofList, Base64.encodeUrl, List.map_map]
    exact List.map_congr_left fun value member => mime_urlSafe value (small value member)
  simp only [normalized, characters]
  split
  · have plain : Base64.decode ((Base64.digits (Utf8.encode text)).map Base64.digit ++ List.replicate 0 '=') =
        Utf8.encode text :=
      Base64.decode_spelled Base64.value_digit Base64.digit_ne_fill
    rwa [List.replicate_zero, List.append_nil] at plain
  · exact Base64.decode_spelled Base64.value_digit Base64.digit_ne_fill

theorem urlText_ne_empty {text : String} (some_text : text ≠ "") : urlText text ≠ "" := by
  intro empty
  have decoded := decode_urlText text
  rw [empty] at decoded
  apply some_text
  rw [← Utf8.decode_encode text, ← decoded]
  rfl

section

variable (payload : CursorPayload)

include payload

theorem encoded_eq : encoded payload = String.ofList (Base64.encodeUrl (Utf8.encode (payloadText payload))) :=
  urlText_eq (payloadText payload)

theorem encodeCursor_eq : encodeCursor payload = .ok (encoded payload) := by
  have valid : validateUrlSafeCursor (encoded payload) = .ok () := validate_urlText (payloadText payload)
  rw [encodeCursor, valid]
  rfl

theorem decode_normalized : Base64.decode (normalized (encoded payload)) = Utf8.encode (payloadText payload) :=
  decode_urlText (payloadText payload)

theorem parse_payloadText : Json.parse (payloadText payload) = some (.object [("v", .number (Number.nearest 1 0)),
      ("t", .string payload.t), ("id", .string payload.id)]) := by
  have reads := Json.reads_object [⟨"v", ['1'], _, Json.reads_one⟩, ⟨"t", _, _, Json.reads_text payload.t⟩,
    ⟨"id", _, _, Json.reads_text payload.id⟩] (by simp)
  exact Json.parse_written reads

theorem encoded_ne_empty : encoded payload ≠ "" := by
  apply urlText_ne_empty
  intro text
  have begins : (payloadText payload).toList.head? = some '{' := by
    rw [payloadText, String.toList_ofList]
    rfl
  rw [text] at begins
  cases begins

end

variable (runtime : Runtime)

theorem decodeCursor_encoded (payload : CursorPayload) (named : payload.id ≠ "") :
    decodeCursor runtime (encoded payload) = .ok payload := by
  have one : Json.isOne (.number (Number.nearest 1 0)) = true := by decide +kernel
  have read : readPayload runtime (payloadText payload) = some payload := by
    simp [readPayload, parse_payloadText, Json.get?, Json.asText?, Json.isTruthy, one, named]
  simp only [decodeCursor, if_neg (encoded_ne_empty payload), decode_normalized, Utf8.decode_encode, read]
  rfl

variable {T : Type} (sortValue getId : T → String) (order : Order) (limit : ℕ) (table : List T)

/-- The values that the query orders by. -/
def values (row : T) : String × String := (sortValue row, getId row)

def nextPage : CursorWhereOptions := ⟨"sort_value", none, some order, some .forward, none⟩

/-- The query of a page, with one row more than the limit. -/
def rowsAfter (cursor : Option CursorPayload) : List T :=
  let selects := fun row => cursor.all fun cursor =>
    (buildCursorWhere cursor (nextPage order)).selects (sortValue row) (getId row)
  (Keyset.sortBy order.before (values sortValue getId) (table.filter selects)).take (limit + 1)

def fetchPage (cursor : Option String) : Except String (FetchPageResult T) := do
  let cursor ← cursor.mapM (decodeCursor runtime)
  let response ← createPaginatedResponse (rowsAfter sortValue getId order limit table cursor) limit
    (fun row => .text (sortValue row)) getId
  return ⟨response.data, response.pagination.nextCursor⟩

instance : IsStrictTotalOrder (String × String) order.before where
  trichotomous first second low high := by
    cases order with
    | asc => exact toLex_inj.mp (le_antisymm (not_lt.mp high) (not_lt.mp low))
    | desc => exact toLex_inj.mp (le_antisymm (not_lt.mp low) (not_lt.mp high))
  irrefl first := by
    cases order with
    | asc => exact lt_irrefl (toLex first)
    | desc => exact lt_irrefl (toLex first)
  trans first second third low high := by
    cases order with
    | asc => exact lt_trans low high
    | desc => exact lt_trans high low

/-- The values that a cursor stands for. -/
def boundary (cursor : String) : Option (String × String) :=
  match decodeCursor runtime cursor with
  | .ok payload => some (payload.t, payload.id)
  | .error _ => none

/-- The cursor of a row. -/
def cursorOf (row : T) : String := encoded ⟨sortValue row, getId row⟩

theorem selects_nextPage (cursor : CursorPayload) (t id : String) :
    (buildCursorWhere cursor (nextPage order)).selects t id = decide (order.before (cursor.t, cursor.id) (t, id)) := by
  cases order <;> rfl

theorem createPaginatedResponse_eq (rows : List T) :
    createPaginatedResponse rows limit (fun row => .text (sortValue row)) getId = .ok ⟨rows.take limit, ⟨limit,
        if limit < rows.length then (rows.take limit).getLast?.map (cursorOf sortValue getId) else none,
        (rows.take limit).head?.map (cursorOf sortValue getId), limit < rows.length⟩⟩ := by
  have made (row : T) : createCursor (.text (sortValue row)) (getId row) =
      .ok (cursorOf sortValue getId row) := encodeCursor_eq _
  have mapped (found : Option T) : found.mapM (fun row => createCursor (.text (sortValue row)) (getId row)) =
      .ok (found.map (cursorOf sortValue getId)) := by
    cases found with
    | none => rfl
    | some row => simp [Option.mapM, made]
  simp only [createPaginatedResponse, mapped]
  by_cases more : limit < rows.length
  · simp [more]
    rfl
  · simp [more]

variable {sortValue getId order limit table}

theorem values_nodup (distinct : (table.map getId).Nodup) : (table.map (values sortValue getId)).Nodup := by
  have ids : (table.map (values sortValue getId)).map Prod.snd = table.map getId := by
    rw [List.map_map]
    rfl
  exact List.Nodup.of_map Prod.snd (ids ▸ distinct)

theorem fetchPage_eq (distinct : (table.map getId).Nodup) {cursor : Option String}
    (readable : ∀ text ∈ cursor, ∃ payload, decodeCursor runtime text = .ok payload) :
    fetchPage runtime sortValue getId order limit table cursor =
      let page := Keyset.page (Keyset.behind order.before (values sortValue getId) (boundary runtime))
        (cursorOf sortValue getId) limit (Keyset.sortBy order.before (values sortValue getId) table) cursor
      .ok ⟨page.rows, page.nextCursor⟩ := by
  obtain ⟨payload, read, selected⟩ : ∃ payload, cursor.mapM (decodeCursor runtime) = .ok payload ∧
      rowsAfter sortValue getId order limit table payload =
        (Keyset.selected (Keyset.behind order.before (values sortValue getId) (boundary runtime))
          (Keyset.sortBy order.before (values sortValue getId) table) cursor).take (limit + 1) := by
    cases cursor with
    | none => simp [rowsAfter, Keyset.filter_sortBy, Keyset.selected]
    | some text =>
      obtain ⟨payload, read⟩ := readable text rfl
      refine ⟨some payload, by simp [Option.mapM, read], ?_⟩
      have stands : boundary runtime text = some (payload.t, payload.id) := by
        rw [boundary, read]
      rw [rowsAfter, Keyset.filter_sortBy (values_nodup distinct), Keyset.selected]
      congr 1
      apply List.filter_congr
      intro row _
      rw [Option.all_some, selects_nextPage, Keyset.behind, stands, Option.any_some]
      rfl
  simp only [fetchPage, read, bind, Except.bind, selected, createPaginatedResponse_eq]
  rfl

/-- No page that has a next one ends with a row whose id is empty. -/
def NamedBoundaries (sortValue getId : T → String) (order : Order) (limit : ℕ) (table : List T) : Prop :=
  ∀ done last next rest, Keyset.sortBy order.before (values sortValue getId) table = done ++ last :: next :: rest →
    limit ∣ done.length + 1 → getId last ≠ ""

theorem decodeCursor_cursorOf {row : T} (named : getId row ≠ "") :
    ∀ text ∈ some (cursorOf sortValue getId row), ∃ payload, decodeCursor runtime text = .ok payload := by
  intro text member
  rw [Option.mem_some_iff] at member
  rw [← member]
  exact ⟨⟨sortValue row, getId row⟩, decodeCursor_encoded runtime ⟨sortValue row, getId row⟩ named⟩

theorem boundary_cursorOf {row : T} (named : getId row ≠ "") :
    boundary runtime (cursorOf sortValue getId row) = some (values sortValue getId row) := by
  rw [boundary, cursorOf, decodeCursor_encoded runtime _ named]
  rfl

theorem pagesFrom_rest (distinct : (table.map getId).Nodup) (positive : 0 < limit)
    (named : NamedBoundaries sortValue getId order limit table) {maxPages left fetched : ℕ}
    {done rest : List T} {cursor : Option String}
    (readable : ∀ text ∈ cursor, ∃ payload, decodeCursor runtime text = .ok payload)
    (split : Keyset.sortBy order.before (values sortValue getId) table = done ++ rest)
    (whole : limit ∣ done.length)
    (here : Keyset.selected (Keyset.behind order.before (values sortValue getId) (boundary runtime))
      (Keyset.sortBy order.before (values sortValue getId) table) cursor = rest) :
    pagesFrom (fetchPage runtime sortValue getId order limit table) maxPages left cursor fetched =
      if rest.length ≤ left * limit ∧ 0 < left then (rest, .ok ())
      else (rest.take (left * limit), .error (exceeded maxPages)) := by
  have parts : Keyset.Parts (Keyset.behind order.before (values sortValue getId) (boundary runtime))
      (cursorOf sortValue getId) limit (Keyset.sortBy order.before (values sortValue getId) table) :=
    Keyset.parts_of_exact (values_nodup distinct) fun done last next rest split whole =>
      boundary_cursorOf runtime (named done last next rest split whole)
  induction left generalizing done rest cursor fetched with
  | zero => simp [pagesFrom]
  | succ left ih =>
    have fetched_page := @fetchPage_eq runtime T sortValue getId order limit table distinct cursor readable
    rcases Keyset.page_step positive Keyset.sortBy_sorted parts split whole here with
      ⟨fits, turn⟩ | ⟨front, last, next, others, rfl, full, turn, read, boundary_read, later⟩
    · rw [turn] at fetched_page
      have enough : rest.length ≤ (left + 1) * limit ∧ 0 < left + 1 := by
        refine ⟨?_, Nat.succ_pos left⟩
        rw [Nat.succ_mul]
        omega
      simp only [pagesFrom, fetched_page, if_pos enough]
    · rw [turn] at fetched_page
      have named_last : getId last ≠ "" := by
        refine named (done ++ front) last next others ?_ ?_
        · rw [split, List.append_assoc]
        · rwa [List.length_append, List.length_singleton] at boundary_read
      have rest_read := @ih (fetched + (front ++ [last]).length) _ _ _
        (decodeCursor_cursorOf runtime named_last) read boundary_read later
      have goes_on : (decide (cursorOf sortValue getId last ≠ "") &&
          decide (0 < fetched + (front ++ [last]).length)) = true := by
        rw [Bool.and_eq_true, decide_eq_true_eq, decide_eq_true_eq]
        refine ⟨encoded_ne_empty _, ?_⟩
        rw [List.length_append, List.length_singleton]
        omega
      simp only [pagesFrom, fetched_page, goes_on, if_true, rest_read]
      have length : (front ++ last :: next :: others).length = (next :: others).length + limit := by
        simp only [List.length_append, List.length_cons]
        omega
      have taken : (front ++ last :: next :: others).take ((left + 1) * limit) =
          front ++ [last] ++ (next :: others).take (left * limit) := by
        have size : (front ++ [last]).length = limit := by
          rw [List.length_append, List.length_singleton, full]
        rw [Nat.succ_mul, Nat.add_comm, ← size, ← List.take_length_add_append, size, List.append_assoc]
        rfl
      rw [length, taken, Nat.succ_mul]
      by_cases fits : (next :: others).length ≤ left * limit ∧ 0 < left
      · have enough : (next :: others).length + limit ≤ left * limit + limit ∧ 0 < left + 1 := by
          omega
        rw [if_pos fits, if_pos enough, List.append_assoc]
        rfl
      · have short : ¬((next :: others).length + limit ≤ left * limit + limit ∧ 0 < left + 1) := by
          intro enough
          have room : (next :: others).length ≤ left * limit := by omega
          refine fits ⟨room, Nat.pos_of_ne_zero ?_⟩
          intro none
          rw [none, Nat.zero_mul] at room
          exact absurd room (by simp)
        rw [if_neg fits, if_neg short]

/-- Following the cursors from the first page on visits every row exactly once, in order, as far as the
pages go that the generator may fetch; and the cursors of payloads with an id are read back unchanged. -/
theorem every_row_once (distinct : (table.map getId).Nodup) (positive : 0 < limit)
    (named : NamedBoundaries sortValue getId order limit table) :
    (∃ sorted : List T, sorted.Perm table ∧ (sorted.Pairwise fun first second =>
        order.before (sortValue first, getId first) (sortValue second, getId second)) ∧
      ∀ maxPages : Option ℕ, paginateAll (fetchPage runtime sortValue getId order limit table) maxPages =
          if sorted.length ≤ maxPages.getD 10000 * limit ∧ 0 < maxPages.getD 10000 then (sorted, .ok ())
          else (sorted.take (maxPages.getD 10000 * limit), .error (exceeded (maxPages.getD 10000)))) ∧
      ∀ payload : CursorPayload, payload.id ≠ "" → (encodeCursor payload >>= decodeCursor runtime) = .ok payload := by
  constructor
  · refine ⟨Keyset.sortBy order.before (values sortValue getId) table, Keyset.sortBy_perm table,
      Keyset.sortBy_strict (values_nodup distinct), ?_⟩
    intro maxPages
    have unread : ∀ text ∈ (none : Option String), ∃ payload, decodeCursor runtime text = .ok payload := by
      intro text member
      cases member
    have split : Keyset.sortBy order.before (values sortValue getId) table =
        [] ++ Keyset.sortBy order.before (values sortValue getId) table := rfl
    have start : Keyset.selected (Keyset.behind order.before (values sortValue getId) (boundary runtime))
        (Keyset.sortBy order.before (values sortValue getId) table) none =
        Keyset.sortBy order.before (values sortValue getId) table := rfl
    exact pagesFrom_rest runtime distinct positive named unread split (Nat.dvd_zero limit) start
  · intro payload payload_named
    simp only [encodeCursor_eq, bind, Except.bind]
    exact decodeCursor_encoded runtime payload payload_named

/-- Rows with the same sort value, one of them on each page. -/
theorem equal_values_visited : ∃ sorted : List (String × String), sorted.Perm [("a", "y"), ("a", "x")] ∧
      sorted.Pairwise (fun first second => Order.asc.before first second) ∧
      paginateAll (fetchPage ⟨fun _ => false, fun _ => ""⟩ Prod.fst Prod.snd .asc 1 [("a", "y"), ("a", "x")])
        none = (sorted, .ok ()) := by
  have named : NamedBoundaries Prod.fst Prod.snd .asc 1 [("a", "y"), ("a", "x")] := by
    intro done last next rest split _
    have member : last ∈ [("a", "y"), ("a", "x")] := by
      have permuted : (Keyset.sortBy Order.asc.before (values Prod.fst Prod.snd) [("a", "y"), ("a", "x")]).Perm
          [("a", "y"), ("a", "x")] := Keyset.sortBy_perm _
      rw [← permuted.mem_iff, split]
      simp
    simp only [List.mem_cons, List.not_mem_nil, or_false] at member
    rcases member with rfl | rfl
    · decide
    · decide
  obtain ⟨⟨sorted, permuted, ordered, visited⟩, -⟩ :=
    every_row_once ⟨fun _ => false, fun _ => ""⟩ (by decide) (by decide) named
  refine ⟨sorted, permuted, ordered, ?_⟩
  rw [visited none, if_pos]
  rw [permuted.length_eq]
  decide

/-- A page that ends with a row without an id cannot be followed, and a generator that may fetch one page
does not reach the second one. -/
theorem empty_id_not_followed :
    paginateAll (fetchPage ⟨fun _ => false, fun _ => ""⟩ Prod.fst Prod.snd .asc 1 [("a", ""), ("b", "x")]) none =
        ([("a", "")], .error "Invalid cursor") ∧
      (encodeCursor ⟨"a", ""⟩ >>= decodeCursor ⟨fun _ => false, fun _ => ""⟩) = .error "Invalid cursor" ∧
      paginateAll (fetchPage ⟨fun _ => false, fun _ => ""⟩ Prod.fst Prod.snd .asc 1 [("a", "y"), ("b", "x")])
        (some 1) = ([("a", "y")], .error (exceeded 1)) := by
  decide +kernel

end ProxyPay.Pagination
