import Mathlib.Data.Prod.Lex
import ProxyPay.Ledger.Posting
import ProxyPay.Library.Utf8
import ProxyPay.Library.Iso8601
import ProxyPay.Library.Json
import ProxyPay.Library.Keyset
import ProxyPay.Library.Hex

/-! The entries of an account, page by page: the cursors and the query. The server runs in universal
time, so that a date is read as its midnight there. -/

namespace ProxyPay.Ledger

open ProxyPay.Library

/-- A row of `ledger_entries` with the columns of its account. The entry's date is a number of days and
its timestamp one of microseconds since 1970, both in years that are written with four digits. -/
structure EntryRow where
  id : Uuid
  entryDate : ℤ
  accountCode : String
  accountName : String
  debitAmount : Amount
  creditAmount : Amount
  description : String
  referenceNumber : String
  transactionId : Option Uuid
  createdAt : ℤ
  dated : Iso8601.Common (entryDate * Iso8601.dayMs)
  stamped : Iso8601.Common (createdAt / 1000)

/-- The rows that the query joins; the id is the primary key. -/
structure EntryTable where
  rows : List EntryRow
  ids : (rows.map EntryRow.id).Nodup

variable (row : EntryRow)

/-- A `Date` of the client: an instant in milliseconds. -/
def EntryRow.entry_date : ℤ := row.entryDate * Iso8601.dayMs

def EntryRow.created_at : ℤ := row.createdAt / 1000

structure LedgerEntryCursor where
  entryDate : String
  createdAt : String
  id : String
  deriving DecidableEq

structure LedgerEntryPage where
  entries : List EntryRow
  nextCursor : Option String
  hasMore : Bool
  limit : ℕ

/-- How `Date.parse` and the database read the texts of dates; the texts of `toISOString` are read as
what they say. -/
structure DateTexts where
  parses : String → Bool
  date : String → Option ℤ
  timestamp : String → Option ℤ
  parses_iso : ∀ instant, Iso8601.Common instant → parses (Iso8601.toISOString instant) = true
  date_iso : ∀ instant, Iso8601.Common instant →
    date (Iso8601.toISOString instant) = some (instant / Iso8601.dayMs)
  timestamp_iso : ∀ instant, Iso8601.Common instant →
    timestamp (Iso8601.toISOString instant) = some (instant * 1000)

/-- Readers of nothing but such texts. -/
def DateTexts.iso : DateTexts where
  parses text := (Iso8601.read text).isSome
  date text := (Iso8601.read text).map (· / Iso8601.dayMs)
  timestamp text := (Iso8601.read text).map (· * 1000)
  parses_iso instant common := by rw [Iso8601.read_toISOString common]; rfl
  date_iso instant common := by rw [Iso8601.read_toISOString common]; rfl
  timestamp_iso instant common := by rw [Iso8601.read_toISOString common]; rfl

/-- A column that the client gives as a `Date` or as a text. -/
inductive DateColumn where
  | date (instant : ℤ)
  | text (value : String)

def toCursorDate : DateColumn → String
  | .date instant => Iso8601.toISOString instant
  | .text value => value

def cursorText (entryDate createdAt : DateColumn) (id : String) : String :=
  String.ofList (Json.writeObject [("entryDate", Json.writeText (toCursorDate entryDate)),
    ("createdAt", Json.writeText (toCursorDate createdAt)), ("id", Json.writeText id)])

def encodeLedgerEntryCursor (entry : EntryRow) : String :=
  String.ofList (Base64.encodeUrl (Utf8.encode
    (cursorText (.date entry.entry_date) (.date entry.created_at) (Uuid.text entry.id))))

variable (dates : DateTexts)

/-- `UUID_PATTERN` -/
def isUuid (text : String) : Bool := (Uuid.read text).isSome

def decodeLedgerEntryCursor (cursor : String) : Except String LedgerEntryCursor :=
  orThrow "Invalid ledger entry cursor" do
    let parsed ← Json.parse (Utf8.decode (Base64.decode cursor.toList))
    let entryDate ← (parsed.get? "entryDate").bind Json.asText?
    let createdAt ← (parsed.get? "createdAt").bind Json.asText?
    let id ← (parsed.get? "id").bind Json.asText?
    if dates.parses entryDate && dates.parses createdAt && isUuid id then
      some ⟨entryDate, createdAt, id⟩
    else none

def defaultLedgerEntryLimit : ℕ := 100

def maxLedgerEntryLimit : ℤ := 500

/-- `Math.trunc` -/
def trunc (number : ℚ) : ℤ :=
  if 0 ≤ number then ⌊number⌋ else -⌊-number⌋

def normalizeLimit (limit : Float) : ℕ :=
  if !limit.isFinite then defaultLedgerEntryLimit
  else (min (max (trunc (Number.exact limit)) 1) maxLedgerEntryLimit).toNat

/-- The columns that the query orders by. -/
abbrev EntryKey := ℤ ×ₗ ℤ ×ₗ ℕ

def EntryRow.key : EntryKey :=
  toLex (row.entryDate, toLex (row.createdAt, row.id.toNat))

/-- `ORDER BY entry_date DESC, created_at DESC, id DESC` -/
def newest (first second : EntryKey) : Prop := second < first

instance : DecidableRel newest := fun first second => inferInstanceAs (Decidable (second < first))

structure PageOptions where
  startDate : Option ℤ
  endDate : Option ℤ
  limit : Option Float
  cursor : Option String

/-- The rows of the account between the two dates. -/
def matching (accountCode : String) (options : PageOptions) (row : EntryRow) : Bool :=
  row.accountCode = accountCode &&
    (options.startDate.all fun instant => instant / Iso8601.dayMs ≤ row.entryDate) &&
    options.endDate.all fun instant => row.entryDate ≤ instant / Iso8601.dayMs

/-- The cursor as the database reads the parameters of the query. -/
def readKey (cursor : LedgerEntryCursor) : Except String EntryKey := do
  let entryDate ← orThrow "invalid input syntax for type date" (dates.date cursor.entryDate)
  let createdAt ← orThrow "invalid input syntax for type timestamp" (dates.timestamp cursor.createdAt)
  let id ← orThrow "invalid input syntax for type uuid" (Uuid.read cursor.id)
  return toLex (entryDate, toLex (createdAt, id.toNat))

variable (table : EntryTable)

def getEntriesByAccountPage (accountCode : String) (options : PageOptions) :
    Except String LedgerEntryPage := do
  let pageLimit := normalizeLimit (options.limit.getD (Float.ofNat defaultLedgerEntryLimit))
  let cursor ← (Text.truthy options.cursor).mapM (decodeLedgerEntryCursor dates)
  let queryLimit := pageLimit + 1
  let boundary ← cursor.mapM (readKey dates)
  let selects := fun row : EntryRow =>
    matching accountCode options row && boundary.all fun key => newest key row.key
  let rows := (Keyset.sortBy newest EntryRow.key (table.rows.filter selects)).take queryLimit
  let hasMore : Bool := pageLimit < rows.length
  let entries := if hasMore then rows.take pageLimit else rows
  let nextCursor := if hasMore then entries.getLast?.map encodeLedgerEntryCursor else none
  return ⟨entries, nextCursor, hasMore, pageLimit⟩

theorem normalizeLimit_pos (limit : Float) : 0 < normalizeLimit limit := by
  unfold normalizeLimit defaultLedgerEntryLimit maxLedgerEntryLimit
  split
  · decide
  · omega

/-- The limit of the pages. -/
def PageOptions.pageLimit (options : PageOptions) : ℕ :=
  normalizeLimit (options.limit.getD (Float.ofNat defaultLedgerEntryLimit))

/-- A cursor holds the timestamp of its entry without the microseconds. -/
def EntryRow.cursorKey : EntryKey :=
  toLex (row.entryDate, toLex (row.createdAt / 1000 * 1000, row.id.toNat))

/-- The key that a cursor stands for in the query. -/
def keyOf (cursor : String) : Option EntryKey :=
  (decodeLedgerEntryCursor dates cursor >>= readKey dates).toOption

theorem parse_cursorText (entryDate createdAt : DateColumn) (id : String) :
    Json.parse (cursorText entryDate createdAt id) = some (.object [("entryDate", .string (toCursorDate entryDate)),
      ("createdAt", .string (toCursorDate createdAt)), ("id", .string id)]) := by
  have reads := Json.reads_object [⟨"entryDate", _, _, Json.reads_text (toCursorDate entryDate)⟩,
    ⟨"createdAt", _, _, Json.reads_text (toCursorDate createdAt)⟩, ⟨"id", _, _, Json.reads_text id⟩] (by simp)
  exact Json.parse_written reads

theorem decodeLedgerEntryCursor_encode (row : EntryRow) : decodeLedgerEntryCursor dates (encodeLedgerEntryCursor row) =
      .ok ⟨Iso8601.toISOString row.entry_date, Iso8601.toISOString row.created_at, Uuid.text row.id⟩ := by
  have dated := dates.parses_iso row.entry_date row.dated
  have stamped := dates.parses_iso row.created_at row.stamped
  have identified : isUuid (Uuid.text row.id) = true := by rw [isUuid, Uuid.read_text]; rfl
  rw [decodeLedgerEntryCursor, encodeLedgerEntryCursor, String.toList_ofList, Base64.decode_encodeUrl,
    Utf8.decode_encode, parse_cursorText]
  simp [Json.get?, Json.asText?, toCursorDate, dated, stamped, identified]

theorem readKey_iso (row : EntryRow) :
    readKey dates ⟨Iso8601.toISOString row.entry_date, Iso8601.toISOString row.created_at,
      Uuid.text row.id⟩ = .ok row.cursorKey := by
  have day : row.entry_date / Iso8601.dayMs = row.entryDate := by
    unfold EntryRow.entry_date Iso8601.dayMs
    omega
  have date := dates.date_iso row.entry_date row.dated
  have timestamp := dates.timestamp_iso row.created_at row.stamped
  simp only [readKey, date, timestamp, Uuid.read_text, day]
  rfl

theorem keyOf_encode (row : EntryRow) : keyOf dates (encodeLedgerEntryCursor row) = some row.cursorKey := by
  rw [keyOf, decodeLedgerEntryCursor_encode]
  simp only [bind, Except.bind, readKey_iso]
  rfl

theorem encodeLedgerEntryCursor_ne_empty (row : EntryRow) : encodeLedgerEntryCursor row ≠ "" := by
  intro empty
  have decoded := decodeLedgerEntryCursor_encode .iso row
  rw [empty] at decoded
  have refused : decodeLedgerEntryCursor .iso "" = .error "Invalid ledger entry cursor" := rfl
  rw [refused] at decoded
  cases decoded

instance : IsStrictTotalOrder EntryKey newest where
  trichotomous _ _ low high := le_antisymm (not_lt.mp low) (not_lt.mp high)
  irrefl key := lt_irrefl key
  trans _ _ _ low high := lt_trans high low

theorem key_nodup (table : EntryTable) (accountCode : String) (options : PageOptions) :
    ((table.rows.filter (matching accountCode options)).map EntryRow.key).Nodup := by
  have ids : (table.rows.map EntryRow.key).map (fun key => (ofLex (ofLex key).2).2) =
      (table.rows.map EntryRow.id).map BitVec.toNat := by
    rw [List.map_map, List.map_map]
    rfl
  have keys : (table.rows.map EntryRow.key).Nodup := by
    refine List.Nodup.of_map (fun key => (ofLex (ofLex key).2).2) ?_
    rw [ids]
    exact table.ids.map fun _ _ same => BitVec.eq_of_toNat_eq same
  exact keys.sublist (List.filter_sublist.map EntryRow.key)

/-- The entries of the account between the dates, the newest first. -/
def inOrder (accountCode : String) (options : PageOptions) : List EntryRow :=
  Keyset.sortBy newest EntryRow.key (table.rows.filter (matching accountCode options))

/-- The page behind a cursor; none where the call fails. -/
def fetchPage (accountCode : String) (options : PageOptions)
    (cursor : Option String) : Option (Keyset.Page EntryRow String) :=
  (getEntriesByAccountPage dates table accountCode { options with cursor }).toOption.map fun page =>
    ⟨page.entries, page.nextCursor⟩

theorem fetchPage_eq (table : EntryTable) (accountCode : String) (options : PageOptions)
    {cursor : Option String} (known : cursor = none ∨ ∃ row, cursor = some (encodeLedgerEntryCursor row)) :
    fetchPage dates table accountCode options cursor =
      some (Keyset.page (Keyset.behind newest EntryRow.key (keyOf dates)) encodeLedgerEntryCursor
        options.pageLimit (inOrder table accountCode options) cursor) := by
  obtain ⟨boundary, read, selected⟩ : ∃ boundary : Option EntryKey,
      ((Text.truthy cursor).mapM (decodeLedgerEntryCursor dates) >>= fun cursor => cursor.mapM (readKey dates)) =
        .ok boundary ∧
      (inOrder table accountCode options).filter (fun row => boundary.all fun key => newest key row.key) =
        Keyset.selected (Keyset.behind newest EntryRow.key (keyOf dates)) (inOrder table accountCode options)
          cursor := by
    rcases known with rfl | ⟨row, rfl⟩
    · exact ⟨none, rfl, by simp [Keyset.selected]⟩
    · refine ⟨some row.cursorKey, ?_, ?_⟩
      · have present : Text.truthy (some (encodeLedgerEntryCursor row)) = some (encodeLedgerEntryCursor row) :=
          Text.truthy_eq_some.mpr ⟨rfl, encodeLedgerEntryCursor_ne_empty row⟩
        simp [present, Option.mapM, decodeLedgerEntryCursor_encode, readKey_iso, bind, Except.bind]
      · rw [Keyset.selected]
        apply List.filter_congr
        intro other _
        rw [Keyset.behind, keyOf_encode]
        rfl
  obtain ⟨decoded, cursor_read, boundary_read⟩ := bind_ok.mp read
  have sorted : Keyset.sortBy newest EntryRow.key (table.rows.filter fun row =>
      matching accountCode options row && boundary.all fun key => newest key row.key) =
      Keyset.selected (Keyset.behind newest EntryRow.key (keyOf dates)) (inOrder table accountCode options)
        cursor := by
    rw [← selected, inOrder, ← Keyset.filter_sortBy (key_nodup table accountCode options), List.filter_filter]
    congr 1
    exact List.filter_congr fun row _ => Bool.and_comm _ _
  have same_limit : normalizeLimit (options.limit.getD (Float.ofNat defaultLedgerEntryLimit)) =
      options.pageLimit := rfl
  have same_rows : matching accountCode { options with cursor := cursor } = matching accountCode options := rfl
  simp only [fetchPage, getEntriesByAccountPage, cursor_read, boundary_read, bind, Except.bind, same_limit,
    same_rows, sorted, Keyset.page]
  generalize Keyset.selected (Keyset.behind newest EntryRow.key (keyOf dates)) (inOrder table accountCode options)
    cursor = rows
  by_cases more : options.pageLimit < (rows.take (options.pageLimit + 1)).length
  · simp only [more, decide_true, if_true]
    rfl
  · have whole : (rows.take (options.pageLimit + 1)).take options.pageLimit =
        rows.take (options.pageLimit + 1) := List.take_of_length_le (Nat.not_lt.mp more)
    simp only [more, decide_false, Bool.false_eq_true, if_false, whole]
    rfl

theorem collect_fetchPage (table : EntryTable) (accountCode : String) (options : PageOptions) (pages : ℕ) :
    Keyset.collect (fetchPage dates table accountCode options) pages none =
      Keyset.collect (fun cursor => some (Keyset.page (Keyset.behind newest EntryRow.key (keyOf dates))
        encodeLedgerEntryCursor options.pageLimit (inOrder table accountCode options) cursor)) pages none :=
  Keyset.collect_congr (fetchPage_eq dates table accountCode options (Or.inl rfl))
    (fun row => fetchPage_eq dates table accountCode options (Or.inr ⟨row, rfl⟩)) pages

/-- The first entry of a page lies behind the last one of the page before even when that one's timestamp
loses its microseconds. -/
def BehindMillisecond (last next : EntryRow) : Prop :=
  next.entryDate < last.entryDate ∨ next.entryDate = last.entryDate ∧
    (next.createdAt < last.createdAt / 1000 * 1000 ∨
      next.createdAt = last.createdAt / 1000 * 1000 ∧ next.id < last.id)

instance (last next : EntryRow) : Decidable (BehindMillisecond last next) :=
  inferInstanceAs (Decidable (_ ∨ _))

theorem newest_cursorKey {last next : EntryRow} : newest last.cursorKey next.key ↔ BehindMillisecond last next := by
  simp only [newest, EntryRow.cursorKey, EntryRow.key, Prod.Lex.toLex_lt_toLex, BehindMillisecond,
    BitVec.lt_def]

theorem not_newest_cursorKey (row : EntryRow) : ¬newest row.cursorKey row.key := by
  rw [newest_cursorKey]
  intro behind
  rcases behind with earlier | ⟨-, earlier | ⟨-, smaller⟩⟩
  · exact lt_irrefl _ earlier
  · omega
  · exact lt_irrefl row.id.toNat smaller

/-- The pages are the matching entries, each once and the newest first, exactly when no page ends within a
millisecond of which entries remain. -/
theorem pages_partition_iff (table : EntryTable) (accountCode : String) (options : PageOptions) :
    (∃ sorted : List EntryRow, sorted.Perm (table.rows.filter (matching accountCode options)) ∧
      (sorted.Pairwise fun first second => newest first.key second.key) ∧
      ∃ pages, Keyset.collect (fetchPage dates table accountCode options) pages none = some sorted) ↔
    ∀ done last next rest, inOrder table accountCode options = done ++ last :: next :: rest →
      options.pageLimit ∣ done.length + 1 → BehindMillisecond last next := by
  have distinct := key_nodup table accountCode options
  have rows_nodup : (inOrder table accountCode options).Nodup := by
    have keys : ((inOrder table accountCode options).map EntryRow.key).Nodup :=
      ((Keyset.sortBy_perm _).map EntryRow.key).nodup_iff.mpr distinct
    exact keys.of_map
  have limit_pos : 0 < options.pageLimit := normalizeLimit_pos _
  have parts_iff : Keyset.Parts (Keyset.behind newest EntryRow.key (keyOf dates)) encodeLedgerEntryCursor
      options.pageLimit (inOrder table accountCode options) ↔
      ∀ done last next rest, inOrder table accountCode options = done ++ last :: next :: rest →
        options.pageLimit ∣ done.length + 1 → BehindMillisecond last next := by
    refine forall₄_congr fun done last next rest => ?_
    refine forall₂_congr fun _ _ => ?_
    rw [Keyset.behind, Keyset.behind, keyOf_encode, Option.any_some, Option.any_some, decide_eq_false_iff_not,
      decide_eq_true_eq, ← newest_cursorKey]
    exact and_iff_right (not_newest_cursorKey last)
  have sorted : Keyset.Sorted (Keyset.behind newest EntryRow.key (keyOf dates))
      (inOrder table accountCode options) := Keyset.sortBy_sorted
  rw [← parts_iff, ← Keyset.collect_iff limit_pos sorted rows_nodup]
  constructor
  · intro partition
    obtain ⟨sorted, permuted, strict, pages, collected⟩ := partition
    rw [collect_fetchPage, Keyset.eq_sortBy permuted strict] at collected
    exact ⟨pages, collected⟩
  · intro collected
    obtain ⟨pages, collected⟩ := collected
    refine ⟨inOrder table accountCode options, Keyset.sortBy_perm _, Keyset.sortBy_strict distinct, pages, ?_⟩
    rw [collect_fetchPage]
    exact collected

theorem nothing_fits : Int.natAbs 0 < 10 ^ 20 := by
  decide

/-- An entry of the float account that is posted at this moment. -/
def floatEntry (id : Uuid) (createdAt : ℤ) (stamped : Iso8601.Common (createdAt / 1000)) : EntryRow :=
  ⟨id, 20000, "1100", "Mobile Money Float", ⟨10000000, by decide⟩, ⟨0, nothing_fits⟩, "Deposit", "REF", none,
    createdAt, by decide, stamped⟩

/-- Two entries within a millisecond. -/
def twinEntries : EntryTable :=
  ⟨[floatEntry 1 1728000000123400 (by decide), floatEntry 2 1728000000123456 (by decide)], by decide⟩

/-- The second page is empty and the last one, though one entry was not returned. -/
theorem twin_entry_skipped : Keyset.collect (fetchPage .iso twinEntries "1100" ⟨none, none, some 1, none⟩) 2 none =
        some [floatEntry 2 1728000000123456 (by decide)] ∧
      (twinEntries.rows.filter (matching "1100" ⟨none, none, some 1, none⟩)).length = 2 := by
  have order : inOrder twinEntries "1100" ⟨none, none, some 1, none⟩ =
      [floatEntry 2 1728000000123456 (by decide), floatEntry 1 1728000000123400 (by decide)] := rfl
  have limit : PageOptions.pageLimit ⟨none, none, some 1, none⟩ = 1 := by decide +kernel
  have skipped : [floatEntry 2 1728000000123456 (by decide), floatEntry 1 1728000000123400 (by decide)].filter
      (Keyset.behind newest EntryRow.key (keyOf .iso)
        (encodeLedgerEntryCursor (floatEntry 2 1728000000123456 (by decide)))) = [] := by
    rw [List.filter_eq_nil_iff]
    intro entry member
    rw [Keyset.behind, keyOf_encode, Option.any_some, decide_eq_true_eq, newest_cursorKey]
    simp only [List.mem_cons, List.not_mem_nil, or_false] at member
    rcases member with rfl | rfl
    · decide
    · decide
  have first_page : Keyset.page (Keyset.behind newest EntryRow.key (keyOf .iso)) encodeLedgerEntryCursor 1
      [floatEntry 2 1728000000123456 (by decide), floatEntry 1 1728000000123400 (by decide)] none =
      ⟨[floatEntry 2 1728000000123456 (by decide)],
        some (encodeLedgerEntryCursor (floatEntry 2 1728000000123456 (by decide)))⟩ := rfl
  have second_page : Keyset.page (Keyset.behind newest EntryRow.key (keyOf .iso)) encodeLedgerEntryCursor 1
      [floatEntry 2 1728000000123456 (by decide), floatEntry 1 1728000000123400 (by decide)]
      (some (encodeLedgerEntryCursor (floatEntry 2 1728000000123456 (by decide)))) = ⟨[], none⟩ := by
    simp only [Keyset.page, Keyset.selected, skipped]
    rfl
  rw [collect_fetchPage, order, limit]
  refine ⟨(Keyset.collect_two (congrArg some first_page) (congrArg some second_page)).trans ?_, rfl⟩
  rw [List.append_nil]

end ProxyPay.Ledger
