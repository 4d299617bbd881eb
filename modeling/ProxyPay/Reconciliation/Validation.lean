import ProxyPay.Reconciliation.Csv

/-! The check of a provider's report before its import. -/

namespace ProxyPay.Reconciliation

open ProxyPay.Library ProxyPay.Library.Text

inductive Severity where
  | error
  | warning
  deriving DecidableEq

inductive ErrorValue where
  | text (value : Option String)
  | keys (names : List String)
  deriving DecidableEq

structure CSVValidationError where
  row : ℕ
  field : String
  value : ErrorValue
  message : String
  severity : Severity
  deriving DecidableEq

structure ValidationSummary where
  totalRows : ℕ
  validRows : ℕ
  errorRows : ℕ
  warningRows : ℕ
  deriving DecidableEq

structure CSVValidationResult where
  isValid : Bool
  errors : List CSVValidationError
  warnings : List CSVValidationError
  summary : ValidationSummary
  deriving DecidableEq

def REQUIRED_FIELDS : List String :=
  ["reference_number", "amount", "status", "phone_number", "provider"]

def VALID_STATUSES : List String :=
  ["completed", "pending", "failed", "cancelled"]

/-- `/^\+?[1-9]\d{1,14}$/` -/
def isPhone (text : List Char) : Bool :=
  match if text.head? = some '+' then text.tail else text with
  | [] => false
  | first :: rest => first.isDigit && first ≠ '0' && rest.all Char.isDigit && 1 ≤ rest.length && rest.length ≤ 14

/-- `AMOUNT_REGEX.test(text)` -/
def isAmount (text : String) : Bool :=
  (Numeral.readUnsigned false text.toList).isSome

namespace ProviderCSVRow

variable (row : ProviderCSVRow)

/-- A column that the reconciliation does not use. -/
def column (name : String) : Option String :=
  row.columns.lookup name

/-- `Object.keys(row)` -/
def keys : List String :=
  named "reference_number" row.referenceNumber ++ named "reference_id" row.referenceId ++
    named "provider_reference" row.providerReference ++ named "amount" row.amount ++ named "status" row.status ++
    row.columns.map Prod.fst
where
  named (name : String) (value : Option String) : List String :=
    if value.isSome then [name] else []

end ProviderCSVRow

/-- Nothing but blanks, or nothing at all. -/
def isMissing (text : Option String) : Bool :=
  (truthy text).all fun text => trim text = ""

/-- What is wrong with a row: its errors and its warnings. -/
structure Finding where
  errors : List CSVValidationError
  warnings : List CSVValidationError

def Finding.none : Finding := ⟨[], []⟩

def Finding.append (first second : Finding) : Finding :=
  ⟨first.errors ++ second.errors, first.warnings ++ second.warnings⟩

def errorAt (row : ℕ) (field : String) (value : Option String) (message : String) : Finding :=
  ⟨[⟨row, field, .text value, message, .error⟩], []⟩

def warningAt (row : ℕ) (field : String) (value : Option String) (message : String) : Finding :=
  ⟨[], [⟨row, field, .text value, message, .warning⟩]⟩

/-- A field that has to be there, and what else is asked of its value. -/
def checkField (row : ℕ) (field : String) (value : Option String) (missing : String)
    (check : String → Finding) : Finding :=
  if isMissing value then errorAt row field value missing else check (value.getD "")

variable (casing : Casing)

variable (rowNumber : ℕ)

def validateReference (row : ProviderCSVRow) : Finding :=
  checkField rowNumber "reference_number" (orElse row.referenceNumber row.referenceId) "Reference number is required"
    fun _ => .none

def validateAmount (row : ProviderCSVRow) : Finding :=
  checkField rowNumber "amount" row.amount "Amount is required" fun amount =>
    if isAmount (trim amount) then .none else errorAt rowNumber "amount" row.amount "Amount must be a valid number"

def validateStatus (row : ProviderCSVRow) : Finding :=
  checkField rowNumber "status" row.status "Status is required" fun status =>
    if trim (casing.lower status) ∈ VALID_STATUSES then .none
    else warningAt rowNumber "status" row.status
      ("Non-standard status: " ++ status ++ ". Expected one of: " ++ ", ".intercalate VALID_STATUSES)

def validatePhone (row : ProviderCSVRow) : Finding :=
  checkField rowNumber "phone_number" (row.column "phone_number") "Phone number is required" fun phone =>
    if isPhone (trim phone).toList then .none
    else warningAt rowNumber "phone_number" (row.column "phone_number") "Phone number format may be invalid"

def validateProvider (row : ProviderCSVRow) : Finding :=
  checkField rowNumber "provider" (row.column "provider") "Provider is required" fun _ => .none

def validateRow (row : ProviderCSVRow) : Finding :=
  ((((validateReference rowNumber row).append (validateAmount rowNumber row)).append
    (validateStatus casing rowNumber row)).append (validatePhone rowNumber row)).append
    (validateProvider rowNumber row)

/-- The columns that the first row lacks; a reference id stands for all of them. -/
def missingFields (sampleKeys : List String) : List CSVValidationError :=
  (REQUIRED_FIELDS.filter fun field => field ∉ sampleKeys ∧ "reference_id" ∉ sampleKeys).map fun field =>
    ⟨0, "schema", .keys sampleKeys, "Missing required field: " ++ field, .error⟩

/-- The rows of a report are numbered from its second line on. -/
def validateCSVSchema (rows : List ProviderCSVRow) : CSVValidationResult :=
  match rows with
  | [] => ⟨true, [], [], ⟨0, 0, 0, 0⟩⟩
  | first :: _ =>
    let findings := rows.zipIdx.map fun (row, index) => validateRow casing (index + 2) row
    let errors := missingFields first.keys ++ findings.flatMap Finding.errors
    let errorRows := (findings.filter fun finding => !finding.errors.isEmpty).length
    { isValid := errors.isEmpty
      errors
      warnings := findings.flatMap Finding.warnings
      summary :=
        { totalRows := rows.length
          validRows := rows.length - errorRows
          errorRows
          warningRows := (findings.filter fun finding => !finding.warnings.isEmpty).length } }

variable {casing} {rows : List ProviderCSVRow} {row : ProviderCSVRow}

theorem errors_append {first second : Finding} :
    (first.append second).errors = [] ↔ first.errors = [] ∧ second.errors = [] := by
  rw [Finding.append, List.append_eq_nil_iff]

theorem errors_checkField {number : ℕ} {field missing : String} {value : Option String} {check : String → Finding}
    (passes : (checkField number field value missing check).errors = []) :
    ∃ text, value = some text ∧ text ≠ "" ∧ trim text ≠ "" ∧ (check text).errors = [] := by
  unfold checkField at passes
  split at passes
  · cases passes
  · rename_i there
    cases value with
    | none => exact absurd rfl there
    | some text =>
      by_cases empty : text = ""
      · rw [empty] at there
        exact absurd rfl there
      · have kept : truthy (some text) = some text := by simp [truthy, empty]
        rw [isMissing, kept, Option.all_some, decide_eq_true_eq] at there
        exact ⟨text, rfl, empty, there, passes⟩

theorem amount_of_valid (valid : (validateCSVSchema casing rows).isValid = true) (member : row ∈ rows) :
    ∃ amount numeral, row.amount = some amount ∧ amount ≠ "" ∧
      Numeral.readUnsigned false (trim amount).toList = some numeral := by
  cases rows with
  | nil => cases member
  | cons first rest =>
    have none := List.isEmpty_iff.mp valid
    obtain ⟨_, each⟩ := List.append_eq_nil_iff.mp none
    rw [List.flatMap_eq_nil_iff] at each
    obtain ⟨index, inside, known⟩ := List.getElem_of_mem member
    have found : (row, index) ∈ (first :: rest).zipIdx := by grind
    have passes := each _ (List.mem_map_of_mem found)
    have amount : (validateAmount (index + 2) row).errors = [] := by
      have parts := ((errors_append).mp ((errors_append).mp ((errors_append).mp ((errors_append).mp passes).1).1).1).2
      exact parts
    obtain ⟨text, same, some_text, _, checked⟩ := errors_checkField amount
    split at checked
    · rename_i accepted
      obtain ⟨numeral, read⟩ := Option.isSome_iff_exists.mp accepted
      exact ⟨text, numeral, same, some_text, read⟩
    · cases checked

end ProxyPay.Reconciliation
