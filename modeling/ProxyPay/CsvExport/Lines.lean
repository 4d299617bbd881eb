import Mathlib

/-! The CSV export, and the reading of its lines by RFC 4180. -/

namespace ProxyPay.CsvExport

/-- A value of a row; the items of an array are joined. -/
inductive Value where
  | missing
  | text (spelled : String)
  | array (items : List String)

def Value.spelled : Value → String
  | .missing => ""
  | .text spelled => spelled
  | .array items => "|".intercalate items

def isSpecial (char : Char) : Bool :=
  char = ',' || char = '"' || char = '\n' || char = '\r'

/-- `s.replace(/"/g, '""')` -/
def doubled (chars : List Char) : List Char :=
  chars.flatMap fun char => if char = '"' then ['"', '"'] else [char]

def escapeCsvField (value : Value) : String :=
  let s := value.spelled
  if s.toList.any isSpecial then "\"" ++ String.ofList (doubled s.toList) ++ "\"" else s

def rowToCsvLine (row : String → Value) (columns : List String) : String :=
  ",".intercalate (columns.map fun col => escapeCsvField (row col)) ++ "\n"

/-! The reader: a field begins, it goes on, it is quoted, or a quote in it may have closed it. -/

inductive Mode where
  | start
  | plain
  | quoted
  | closing
  deriving DecidableEq

structure Reader where
  rows : List (List String)
  fields : List String
  field : List Char
  mode : Mode

def Reader.endField (reader : Reader) : List String :=
  reader.fields ++ [String.ofList reader.field]

def Reader.read (reader : Reader) (char : Char) : Option Reader :=
  match reader.mode with
  | .quoted =>
    if char = '"' then some { reader with mode := .closing } else some { reader with field := reader.field ++ [char] }
  | mode =>
    if char = ',' then some ⟨reader.rows, reader.endField, [], .start⟩
    else if char = '\n' then some ⟨reader.rows ++ [reader.endField], [], [], .start⟩
    else if char = '"' then
      match mode with
      | .start => some { reader with mode := .quoted }
      | .closing => some { reader with field := reader.field ++ [char], mode := .quoted }
      | _ => none
    else if char = '\r' ∨ mode = .closing then none
    else some { reader with field := reader.field ++ [char], mode := .plain }

/-- The rows of a text whose last line is ended. -/
def readCsv (text : String) : Option (List (List String)) := do
  let reader ← text.toList.foldlM Reader.read ⟨[], [], [], .start⟩
  if reader.fields = [] ∧ reader.field = [] ∧ reader.mode = .start then some reader.rows else none

variable {rows : List (List String)} {fields : List String} {field : List Char}

theorem read_doubled (chars : List Char) : (doubled chars).foldlM Reader.read ⟨rows, fields, field, .quoted⟩ =
    some ⟨rows, fields, field ++ chars, .quoted⟩ := by
  induction chars generalizing field with
  | nil => simp [doubled]
  | cons char chars ih =>
    rw [doubled, List.flatMap_cons, List.foldlM_append]
    by_cases quote : char = '"'
    · subst quote
      have twice : ['"', '"'].foldlM Reader.read ⟨rows, fields, field, .quoted⟩ = some ⟨rows, fields, field ++ ['"'], .quoted⟩ := rfl
      rw [if_pos rfl, twice]
      exact ih.trans (by simp)
    · have once : [char].foldlM Reader.read ⟨rows, fields, field, .quoted⟩ = some ⟨rows, fields, field ++ [char], .quoted⟩ := by
        simp [Reader.read, quote]
      rw [if_neg quote, once]
      exact ih.trans (by simp)

theorem read_plain {chars : List Char} (plain : chars.any isSpecial = false) {mode : Mode} (opened : mode = .start ∨ mode = .plain) :
    ∃ last, (last = .start ∨ last = .plain) ∧
      chars.foldlM Reader.read ⟨rows, fields, field, mode⟩ = some ⟨rows, fields, field ++ chars, last⟩ := by
  induction chars generalizing field mode with
  | nil => exact ⟨mode, opened, by simp⟩
  | cons char chars ih =>
    obtain ⟨here, rest⟩ : isSpecial char = false ∧ chars.any isSpecial = false := by simpa using plain
    have once : Reader.read ⟨rows, fields, field, mode⟩ char = some ⟨rows, fields, field ++ [char], .plain⟩ := by
      simp only [isSpecial, Bool.or_eq_false_iff, decide_eq_false_iff_not] at here
      rcases opened with rfl | rfl <;> simp [Reader.read, here]
    obtain ⟨last, unquoted, done⟩ := @ih (field ++ [char]) rest .plain (.inr rfl)
    exact ⟨last, unquoted, by simp [List.foldlM_cons, once, done]⟩

theorem read_field (value : Value) : ∃ mode, mode ≠ .quoted ∧
    (escapeCsvField value).toList.foldlM Reader.read ⟨rows, fields, [], .start⟩ =
      some ⟨rows, fields, value.spelled.toList, mode⟩ := by
  unfold escapeCsvField
  dsimp only
  split
  · refine ⟨.closing, nofun, ?_⟩
    have opened : ['"'].foldlM Reader.read ⟨rows, fields, [], .start⟩ = some ⟨rows, fields, [], .quoted⟩ := rfl
    rw [String.toList_append, String.toList_append, String.toList_ofList, List.foldlM_append, List.foldlM_append, opened]
    simp only [Option.bind_eq_bind, Option.bind_some, String.toList_ofList, read_doubled, List.nil_append]
    rfl
  · rename_i plain
    obtain ⟨last, unquoted, done⟩ := @read_plain rows fields [] _ (Bool.eq_false_iff.mpr plain) .start (.inl rfl)
    exact ⟨last, by rcases unquoted with rfl | rfl <;> nofun, done⟩

theorem read_line (values : List Value) (value : Value) :
    ((",".intercalate ((value :: values).map escapeCsvField)) ++ "\n").toList.foldlM Reader.read ⟨rows, fields, [], .start⟩ =
      some ⟨rows ++ [fields ++ (value :: values).map Value.spelled], [], [], .start⟩ := by
  induction values generalizing value fields with
  | nil =>
    obtain ⟨mode, unquoted, done⟩ := @read_field rows fields value
    rw [List.map_singleton, String.intercalate_singleton, String.toList_append, List.foldlM_append, done]
    cases mode with
    | quoted => exact absurd rfl unquoted
    | start | plain | closing => simp [Reader.read, Reader.endField]
  | cons next values ih =>
    obtain ⟨mode, unquoted, done⟩ := @read_field rows fields value
    rw [List.map_cons, List.map_cons, String.intercalate_cons_cons, String.append_assoc, String.append_assoc,
      String.toList_append, String.toList_append, List.foldlM_append, done]
    have ended : Reader.read ⟨rows, fields, value.spelled.toList, mode⟩ ',' = some ⟨rows, fields ++ [value.spelled], [], .start⟩ := by
      cases mode with
      | quoted => exact absurd rfl unquoted
      | start | plain | closing => simp [Reader.read, Reader.endField]
    have comma (rest : List Char) : ",".toList ++ rest = ',' :: rest := rfl
    simp only [Option.bind_eq_bind, Option.bind_some, comma, List.foldlM_cons, ended]
    exact (ih next).trans (by simp)

theorem read_lines (column : String) (columns : List String) (table : List (String → Value)) :
    (String.join (table.map fun row => rowToCsvLine row (column :: columns))).toList.foldlM Reader.read ⟨rows, [], [], .start⟩ =
      some ⟨rows ++ table.map fun row => (column :: columns).map fun col => (row col).spelled, [], [], .start⟩ := by
  induction table generalizing rows with
  | nil => simp
  | cons row table ih =>
    have same : rowToCsvLine row (column :: columns) = ",".intercalate ((row column :: columns.map row).map escapeCsvField) ++ "\n" := by
      simp [rowToCsvLine, Function.comp_def]
    rw [List.map_cons, String.join_cons, String.toList_append, List.foldlM_append, same, read_line]
    exact ih.trans (by simp [Function.comp_def])

/-- What is exported of a table with columns is read back. -/
theorem export_read_back (column : String) (columns : List String) (table : List (String → Value)) :
    readCsv (String.join (table.map fun row => rowToCsvLine row (column :: columns))) =
      some (table.map fun row => (column :: columns).map fun col => (row col).spelled) := by
  rw [readCsv, read_lines]
  rfl

end ProxyPay.CsvExport
