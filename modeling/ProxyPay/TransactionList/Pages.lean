import ProxyPay.TransactionList.Cursor

/-! The list of transactions, by an offset or by a cursor. The server runs in universal time, so that a
timestamp is read as the instant that it says there. -/

namespace ProxyPay.TransactionList

open ProxyPay.Library ProxyPay.Pagination

variable {Columns : Type}

/-- A row of `transactions`; its timestamp is a number of microseconds since 1970, in a year of four digits. -/
structure TransactionRow (Columns : Type) where
  id : BitVec 128
  createdAt : ℤ
  columns : Columns
  stamped : Iso8601.Common (createdAt / 1000)

structure TransactionTable (Columns : Type) where
  rows : List (TransactionRow Columns)
  ids : (rows.map TransactionRow.id).Nodup

/-- A transaction as the client gets it: the `Date` is an instant in milliseconds. -/
structure Transaction (Columns : Type) where
  id : String
  createdAt : ℤ
  columns : Columns
  deriving DecidableEq

variable (row : TransactionRow Columns)

def mapTransactionRow : Transaction Columns :=
  ⟨Uuid.text row.id, row.createdAt / 1000, row.columns⟩

/-- The columns that the queries order by. -/
abbrev ListKey := ℤ ×ₗ ℕ

def TransactionRow.key : ListKey := toLex (row.createdAt, row.id.toNat)

/-- `ORDER BY created_at DESC, id DESC` -/
def newest (first second : ListKey) : Prop := second < first

/-- `ORDER BY created_at ASC, id ASC` -/
def oldest (first second : ListKey) : Prop := first < second

instance : DecidableRel newest := fun first second => inferInstanceAs (Decidable (second < first))

instance : DecidableRel oldest := fun first second => inferInstanceAs (Decidable (first < second))

instance : IsStrictTotalOrder ListKey newest where
  trichotomous _ _ low high := le_antisymm (not_lt.mp low) (not_lt.mp high)
  irrefl key := lt_irrefl key
  trans _ _ _ low high := lt_trans high low

structure TransactionCursorOptions where
  before : Option String
  after : Option String

variable (dates : DateReader)

/-- The cursor as the database reads its two parameters. -/
def boundaryOf (text : String) : Except String ListKey := do
  let cursor ← decodeTransactionCursor dates text
  let id ← orThrow "invalid input syntax for type uuid" (Uuid.read cursor.id)
  return toLex (cursor.createdAt * 1000, id.toNat)

section Query

variable (table : TransactionTable Columns) (whereSql : TransactionRow Columns → Bool)

/-- The rows behind the cursor, in the order of the query. -/
def cursorRows (order : ListKey → ListKey → Prop) [DecidableRel order] (boundary : ListKey) (limit : ℕ) :
    List (TransactionRow Columns) :=
  (Keyset.sortBy order TransactionRow.key
    (table.rows.filter fun row => whereSql row && order boundary row.key)).take limit

/-- `LIMIT 1 OFFSET offset` -/
def anchor (offset : ℕ) : Option (TransactionRow Columns) :=
  ((Keyset.sortBy newest TransactionRow.key (table.rows.filter whereSql)).drop offset).head?

/-- The rows behind the anchor; none where there is no anchor. -/
def anchoredRows (offset limit : ℕ) : List (TransactionRow Columns) :=
  (Keyset.sortBy newest TransactionRow.key (table.rows.filter fun row =>
    whereSql row && (anchor table whereSql offset).any fun anchor => newest anchor.key row.key)).take limit

def cappedLimit (limit : ℤ) : ℕ := (min (max limit 1) 1000).toNat

/-- The rows of `list`. -/
def listRows (limit offset : ℤ) (cursorOptions : TransactionCursorOptions) :
    Except String (List (TransactionRow Columns)) :=
  let safeOffset := (max offset 0).toNat
  match Text.truthy cursorOptions.before, Text.truthy cursorOptions.after with
  | some _, some _ => .error "Use either before or after cursor, not both"
  | none, some after => do
    let boundary ← boundaryOf dates after
    return cursorRows table whereSql newest boundary (cappedLimit limit)
  | some before, none => do
    let boundary ← boundaryOf dates before
    return cursorRows table whereSql oldest boundary (cappedLimit limit)
  | none, none =>
    if 0 < safeOffset then .ok (anchoredRows table whereSql (safeOffset - 1) (cappedLimit limit))
    else .ok ((Keyset.sortBy newest TransactionRow.key (table.rows.filter whereSql)).take (cappedLimit limit))

def list (limit offset : ℤ) (cursorOptions : TransactionCursorOptions) :
    Except String (List (Transaction Columns)) := do
  let rows ← listRows dates table whereSql limit offset cursorOptions
  return rows.map mapTransactionRow

/-- The matching rows, the newest first. -/
def inOrder : List (TransactionRow Columns) :=
  Keyset.sortBy newest TransactionRow.key (table.rows.filter whereSql)

end Query

/-- The cursor of a transaction, as `createPaginatedResponse` makes it. -/
def encodeTransactionCursor (transaction : Transaction Columns) : String :=
  encoded ⟨Iso8601.toISOString transaction.createdAt, transaction.id⟩

/-! The order. -/

section Order

variable {table : TransactionTable Columns} {whereSql : TransactionRow Columns → Bool}

theorem key_nodup (table : TransactionTable Columns) (whereSql : TransactionRow Columns → Bool) :
    ((table.rows.filter whereSql).map TransactionRow.key).Nodup := by
  have ids : (table.rows.map TransactionRow.key).map (fun key => (ofLex key).2) =
      (table.rows.map TransactionRow.id).map BitVec.toNat := by
    rw [List.map_map, List.map_map]
    rfl
  have keys : (table.rows.map TransactionRow.key).Nodup := by
    refine List.Nodup.of_map (fun key => (ofLex key).2) ?_
    rw [ids]
    exact table.ids.map fun _ _ same => BitVec.eq_of_toNat_eq same
  exact keys.sublist (List.filter_sublist.map TransactionRow.key)

theorem inOrder_strict : (inOrder table whereSql).Pairwise fun first second => newest first.key second.key :=
  Keyset.sortBy_strict (key_nodup table whereSql)

theorem sortBy_filter_and (selects : TransactionRow Columns → Bool) :
    Keyset.sortBy newest TransactionRow.key (table.rows.filter fun row => whereSql row && selects row) =
      (inOrder table whereSql).filter selects := by
  rw [inOrder, ← Keyset.filter_sortBy (key_nodup table whereSql), List.filter_filter]
  congr 1
  exact List.filter_congr fun row _ => Bool.and_comm _ _

theorem anchoredRows_eq (offset limit : ℕ) :
    anchoredRows table whereSql offset limit = ((inOrder table whereSql).drop (offset + 1)).take limit := by
  have strict := @inOrder_strict Columns table whereSql
  rw [anchoredRows, sortBy_filter_and, anchor]
  show (((inOrder table whereSql).filter fun row =>
    (((inOrder table whereSql).drop offset).head?).any fun anchor => newest anchor.key row.key).take limit) = _
  congr 1
  cases behind : (inOrder table whereSql).drop offset with
  | nil =>
    have past : (inOrder table whereSql).drop (offset + 1) = [] := by
      rw [← List.tail_drop, behind]
      rfl
    rw [past]
    simp
  | cons row rest =>
    have whole := List.take_append_drop offset (inOrder table whereSql)
    rw [behind] at whole
    have later : (inOrder table whereSql).drop (offset + 1) = rest := by
      rw [← List.tail_drop, behind]
      rfl
    rw [later]
    rw [← whole] at strict ⊢
    exact Keyset.filter_behind_row strict

theorem listRows_offset {limit : ℕ} (positive : 1 ≤ limit) (most : limit ≤ 1000) (offset : ℕ) :
    listRows dates table whereSql limit offset ⟨none, none⟩ =
      .ok (((inOrder table whereSql).drop offset).take limit) := by
  have capped : cappedLimit limit = limit := by
    unfold cappedLimit
    omega
  have safe : (max (offset : ℤ) 0).toNat = offset := by omega
  show (if 0 < (max (offset : ℤ) 0).toNat then _ else _) = _
  rw [safe, capped]
  cases offset with
  | zero => rfl
  | succ offset => rw [if_pos (Nat.succ_pos offset), Nat.succ_sub_one, anchoredRows_eq]

end Order

/-! Following the cursors. -/

section Cursors

/-- A cursor holds the timestamp of its row without the microseconds. -/
def TransactionRow.cursorKey (row : TransactionRow Columns) : ListKey :=
  toLex (row.createdAt / 1000 * 1000, row.id.toNat)

/-- The next row lies behind the last one of a page even when that one's timestamp loses its microseconds. -/
def BehindMillisecond (last next : TransactionRow Columns) : Prop :=
  next.createdAt < last.createdAt / 1000 * 1000 ∨
    next.createdAt = last.createdAt / 1000 * 1000 ∧ next.id < last.id

instance (last next : TransactionRow Columns) : Decidable (BehindMillisecond last next) :=
  inferInstanceAs (Decidable (_ ∨ _))

theorem newest_cursorKey {last next : TransactionRow Columns} :
    newest last.cursorKey next.key ↔ BehindMillisecond last next := by
  simp only [newest, TransactionRow.cursorKey, TransactionRow.key, Prod.Lex.toLex_lt_toLex, BehindMillisecond,
    BitVec.lt_def]

theorem not_newest_cursorKey (row : TransactionRow Columns) : ¬newest row.cursorKey row.key := by
  rw [newest_cursorKey]
  rintro (earlier | ⟨-, smaller⟩)
  · omega
  · exact lt_irrefl row.id.toNat smaller

/-- The cursor of a row. -/
def cursorOf (row : TransactionRow Columns) : String := encodeTransactionCursor (mapTransactionRow row)

theorem boundaryOf_cursorOf (row : TransactionRow Columns) : boundaryOf dates (cursorOf row) =
      if InWindow (row.createdAt / 1000) then .ok row.cursorKey else .error "Invalid transaction cursor" := by
  have uuid : isCursorId (Uuid.text row.id) = true := by
    rw [isCursorId, Uuid.read_text]
    rfl
  rw [boundaryOf, cursorOf, encodeTransactionCursor, decodeTransactionCursor_encoded, mapTransactionRow,
    fromTexts_iso dates row.stamped uuid]
  by_cases inside : InWindow (row.createdAt / 1000)
  · rw [if_pos inside, if_pos inside]
    simp only [orThrow, bind, Except.bind, Uuid.read_text]
    rfl
  · rw [if_neg inside, if_neg inside]
    rfl

theorem cursorOf_ne_empty (row : TransactionRow Columns) : cursorOf row ≠ "" := encoded_ne_empty _

/-- The key that a cursor stands for in the query. -/
def keyOf (cursor : String) : Option ListKey := (boundaryOf dates cursor).toOption

theorem keyOf_cursorOf (row : TransactionRow Columns) :
    keyOf dates (cursorOf row) = if InWindow (row.createdAt / 1000) then some row.cursorKey else none := by
  rw [keyOf, boundaryOf_cursorOf]
  split <;> rfl

variable (table : TransactionTable Columns) (whereSql : TransactionRow Columns → Bool) (limit : ℤ)

/-- The page behind a cursor; none where the call fails. -/
def fetchRows (after : Option String) : Option (List (TransactionRow Columns)) :=
  (listRows dates table whereSql limit 0 ⟨none, after⟩).toOption

def fetchPage (after : Option String) : Option (List (Transaction Columns)) :=
  (list dates table whereSql limit 0 ⟨none, after⟩).toOption

theorem fetchPage_eq (after : Option String) : fetchPage dates table whereSql limit after =
      (fetchRows dates table whereSql limit after).map (List.map mapTransactionRow) := by
  unfold fetchPage fetchRows list
  cases listRows dates table whereSql limit 0 ⟨none, after⟩ <;> rfl

theorem cappedLimit_pos : 0 < cappedLimit limit := by
  unfold cappedLimit
  omega

theorem fetchRows_cursorOf (row : TransactionRow Columns) : fetchRows dates table whereSql limit (some (cursorOf row)) =
      (keyOf dates (cursorOf row)).map fun boundary => cursorRows table whereSql newest boundary (cappedLimit limit) := by
  have present : Text.truthy (some (cursorOf row)) = some (cursorOf row) :=
    Text.truthy_eq_some.mpr ⟨rfl, cursorOf_ne_empty row⟩
  have read : listRows dates table whereSql limit 0 ⟨none, some (cursorOf row)⟩ = (do
      let boundary ← boundaryOf dates (cursorOf row)
      return cursorRows table whereSql newest boundary (cappedLimit limit)) := by
    unfold listRows
    rw [present]
    rfl
  rw [fetchRows, read, keyOf]
  cases boundaryOf dates (cursorOf row) <;> rfl

theorem pages : Keyset.Pages (Keyset.behind newest TransactionRow.key (keyOf dates)) cursorOf (cappedLimit limit)
    (inOrder table whereSql) (fun cursor => (keyOf dates cursor).isSome = true)
    (fetchRows dates table whereSql limit) where
  positive := cappedLimit_pos limit
  sorted := Keyset.sortBy_sorted
  leaves row _ := by
    rw [Keyset.behind, keyOf_cursorOf]
    split
    · rw [Option.any_some, decide_eq_false_iff_not]
      exact not_newest_cursorKey row
    · rfl
  first := rfl
  later row accepted := by
    obtain ⟨boundary, stands⟩ := Option.isSome_iff_exists.mp accepted
    have selects : (Keyset.behind newest TransactionRow.key (keyOf dates) (cursorOf row)) =
        fun row : TransactionRow Columns => decide (newest boundary row.key) := by
      funext other
      rw [Keyset.behind, stands, Option.any_some]
    rw [fetchRows_cursorOf, stands, selects, Option.map_some, cursorRows, sortBy_filter_and]
  refused row unread := by
    rw [Option.not_isSome_iff_eq_none] at unread
    rw [fetchRows_cursorOf, unread]
    rfl
  nothing row unread other _ := by
    rw [Option.not_isSome_iff_eq_none] at unread
    rw [Keyset.behind, unread]
    rfl

/-- The timestamps of the rows that end a page are in the window of the cursors, and the next row is behind the
millisecond of the last one of its page. -/
def CursorsPart : Prop :=
  (∀ done last next rest, inOrder table whereSql = done ++ last :: next :: rest → cappedLimit limit ∣ done.length + 1 →
    InWindow (last.createdAt / 1000) ∧ BehindMillisecond last next) ∧
  ∀ last ∈ (inOrder table whereSql).getLast?, InWindow (last.createdAt / 1000)

theorem cursorsPart_iff : CursorsPart table whereSql limit ↔
    Keyset.Parts (Keyset.behind newest TransactionRow.key (keyOf dates)) cursorOf (cappedLimit limit)
      (inOrder table whereSql) ∧
    ∀ last ∈ (inOrder table whereSql).getLast?, (keyOf dates (cursorOf last)).isSome = true := by
  have selects (last next : TransactionRow Columns) :
      Keyset.behind newest TransactionRow.key (keyOf dates) (cursorOf last) next = true ↔
        InWindow (last.createdAt / 1000) ∧ BehindMillisecond last next := by
    rw [Keyset.behind, keyOf_cursorOf]
    by_cases inside : InWindow (last.createdAt / 1000)
    · rw [if_pos inside, Option.any_some, decide_eq_true_eq, newest_cursorKey, and_iff_right inside]
    · simp [inside]
  refine and_congr (forall₄_congr fun done last next rest => forall₂_congr fun split _ => ?_)
    (forall₂_congr fun last _ => ?_)
  · rw [← selects last next]
    have member : last ∈ inOrder table whereSql := by rw [split]; simp
    exact (and_iff_right ((pages dates table whereSql limit).leaves last member)).symm
  · simp [keyOf_cursorOf]

theorem visits_iff : (∃ count visited,
      Keyset.follow (fetchPage dates table whereSql limit) encodeTransactionCursor count none = some visited ∧
        visited.Perm ((table.rows.filter whereSql).map mapTransactionRow)) ↔
      CursorsPart table whereSql limit := by
  have rows_nodup : (inOrder table whereSql).Nodup := by
    have keys : ((inOrder table whereSql).map TransactionRow.key).Nodup :=
      ((Keyset.sortBy_perm _).map TransactionRow.key).nodup_iff.mpr (key_nodup table whereSql)
    exact keys.of_map
  have followed (count : ℕ) :
      Keyset.follow (fetchPage dates table whereSql limit) encodeTransactionCursor count none =
        (Keyset.follow (fetchRows dates table whereSql limit) cursorOf count none).map (List.map mapTransactionRow) := by
    have same : fetchPage dates table whereSql limit = fun cursor =>
        (fetchRows dates table whereSql limit cursor).map (List.map mapTransactionRow) :=
      funext (fetchPage_eq dates table whereSql limit)
    rw [same, Keyset.follow_map]
    rfl
  rw [cursorsPart_iff dates, ← (pages dates table whereSql limit).follow_iff rows_nodup]
  constructor
  · intro visits
    obtain ⟨count, visited, done, permuted⟩ := visits
    rw [followed, Option.map_eq_some_iff] at done
    obtain ⟨read, done, rfl⟩ := done
    have among := (pages dates table whereSql limit).follow_sublist Keyset.Pages.reads_none done
    have length : read.length = (inOrder table whereSql).length := by
      have same := permuted.length_eq
      rw [List.length_map, List.length_map] at same
      rw [same]
      exact (Keyset.sortBy_perm _).length_eq.symm
    refine ⟨count, ?_⟩
    rw [done, among.eq_of_length length]
    rfl
  · intro visits
    obtain ⟨count, done⟩ := visits
    refine ⟨count, (inOrder table whereSql).map mapTransactionRow, ?_, (Keyset.sortBy_perm _).map _⟩
    rw [followed, done]
    rfl

end Cursors

theorem older_twin_common : Iso8601.Common (1728000000123400 / 1000) := by
  decide

theorem newer_twin_common : Iso8601.Common (1728000000123456 / 1000) := by
  decide

/-- Two rows within a millisecond. -/
def twins : TransactionTable Unit :=
  ⟨[⟨1, 1728000000123400, (), older_twin_common⟩, ⟨2, 1728000000123456, (), newer_twin_common⟩], by decide⟩

end ProxyPay.TransactionList
