import ProxyPay.Reconciliation.Accounting
import ProxyPay.Reconciliation.Validation

/-! The amounts of a report and of the database are compared as texts; the database writes all places of a column. -/

namespace ProxyPay.Reconciliation

open ProxyPay.Library ProxyPay.Library.Text

/-- The numeral that a text is, blanks at its ends apart. -/
def amountNumeral (text : String) : Option Numeral :=
  Numeral.read (trim text).toList

/-- The amounts count as the same. -/
def ReconciliationMatch.AmountsMatch (entry : ReconciliationMatch) : Prop :=
  entry.discrepancyType ≠ some .amountMismatch

/-- Numbers that differ by more than a sign; or the same form of what is not negative, or different forms of what
is. -/
def Comparable (first second : Numeral) : Prop :=
  first.magnitude = second.magnitude → (0 ≤ first.value ↔ first.form = second.form)

section Texts

variable {first second : Numeral}

variable {char : Char}

theorem isAmountChar_digit (digit : char.isDigit = true) : isAmountChar char = true := by
  rw [isAmountChar, digit, Bool.true_or]

theorem isAmountChar_unsigned (numeral : Numeral) : ∀ char ∈ numeral.unsigned, isAmountChar char = true := by
  intro char member
  unfold Numeral.unsigned at member
  rcases List.mem_append.mp member with whole | rest
  · exact isAmountChar_digit (numeral.digits char (List.mem_append_left _ whole))
  · split at rest
    · cases rest
    · rcases List.mem_cons.mp rest with rfl | fraction
      · rfl
      · exact isAmountChar_digit (numeral.digits char (List.mem_append_right _ fraction))

theorem isBlank_amountChar (kept : isAmountChar char = true) : isBlank char = false := by
  rcases Bool.or_eq_true_iff.mp kept with digit | point
  · exact isBlank_digit digit
  · rw [of_decide_eq_true point]
    rfl

theorem filter_dropWhile_blank (text : List Char) :
    (text.dropWhile isBlank).filter isAmountChar = text.filter isAmountChar := by
  induction text with
  | nil => rfl
  | cons char rest ih =>
    by_cases blank : isBlank char = true
    · grind [isBlank_amountChar, List.dropWhile_cons_of_pos, List.filter_cons_of_neg]
    · rw [List.dropWhile_cons_of_neg blank]

theorem filter_trim (text : String) : (trim text).toList.filter isAmountChar = text.toList.filter isAmountChar := by
  unfold trim
  rw [String.toList_ofList, List.filter_reverse, filter_dropWhile_blank, List.filter_reverse, List.reverse_reverse,
    filter_dropWhile_blank]

theorem trim_visible {text : List Char} (visible : ∀ char ∈ text, isBlank char = false) :
    trim (String.ofList text) = String.ofList text := by
  have stays {chars : List Char} (all : ∀ char ∈ chars, isBlank char = false) : chars.dropWhile isBlank = chars := by simp_all
  unfold trim
  rw [String.toList_ofList, stays visible, stays (fun char member => visible char (List.mem_reverse.mp member)),
    List.reverse_reverse]

theorem isBlank_unsigned (numeral : Numeral) : ∀ char ∈ numeral.unsigned, isBlank char = false :=
  fun char member => isBlank_amountChar (isAmountChar_unsigned numeral char member)

variable {text : String} {numeral : Numeral}

theorem normalizeAmount_of_numeral (some_text : text ≠ "")
    (written : (trim text).toList.filter isAmountChar = numeral.unsigned) :
    normalizeAmount (some text) = some (String.ofList numeral.unsigned) := by
  have truth : truthy (some text) = some text := by simp [truthy, some_text]
  rw [normalizeAmount, truth, Option.map_some, ← filter_trim, written, trim_visible (isBlank_unsigned numeral)]

theorem filter_text (numeral : Numeral) : numeral.text.filter isAmountChar = numeral.unsigned := by
  have unsigned : numeral.unsigned.filter isAmountChar = numeral.unsigned :=
    List.filter_eq_self.mpr (isAmountChar_unsigned numeral)
  unfold Numeral.text
  rw [List.filter_append, unsigned]
  cases numeral.negative <;> rfl

theorem numeral_of_decimal {precision scale : ℕ} (decimal : Decimal precision scale) :
    decimal.text ≠ "" ∧ amountNumeral decimal.text = some decimal.numeral ∧
      (trim decimal.text).toList.filter isAmountChar = decimal.numeral.unsigned := by
  have written : decimal.text = String.ofList decimal.numeral.text := by
    rw [← decimal.toList_text, String.ofList_toList]
  have visible : ∀ char ∈ decimal.numeral.text, isBlank char = false := by
    intro char member
    unfold Numeral.text at member
    rcases List.mem_append.mp member with sign | unsigned
    · split at sign
      · rw [List.mem_singleton.mp sign]
        rfl
      · cases sign
    · exact isBlank_unsigned _ char unsigned
  have trimmed : (trim decimal.text).toList = decimal.numeral.text := by
    rw [written, trim_visible visible, String.toList_ofList]
  refine ⟨?_, ?_, ?_⟩
  · intro empty
    have digits := congrArg String.toList empty
    obtain ⟨first, rest, same, _⟩ := decimal.numeral.head_unsigned
    rw [decimal.toList_text, Numeral.text, same] at digits
    simp at digits
  · rw [amountNumeral, trimmed, Numeral.read_text]
  · rw [trimmed, filter_text]

theorem numeral_of_unsigned (read : Numeral.readUnsigned false (trim text).toList = some numeral) :
    numeral.negative = false ∧ amountNumeral text = some numeral ∧
      (trim text).toList.filter isAmountChar = numeral.unsigned := by
  obtain ⟨positive, written⟩ := Numeral.of_readUnsigned read
  have same : (trim text).toList = numeral.text := by
    rw [written, Numeral.text, positive]
    rfl
  refine ⟨positive, ?_, ?_⟩
  · rw [amountNumeral, same, Numeral.read_text]
  · rw [same, filter_text]

end Texts

theorem comparable_iff {first second : Numeral} (positive : second.negative = false) :
    ((first.unsigned = second.unsigned) ↔ first.value = second.value) ↔ Comparable first second := by
  have value := Numeral.value_of_positive positive
  unfold Comparable
  rw [Numeral.unsigned_eq_iff, value]
  by_cases same : first.magnitude = second.magnitude
  · have equal : first.value = second.magnitude ↔ 0 ≤ first.value := by
      rw [← same, ← Numeral.abs_value]
      exact eq_comm.trans abs_eq_self
    simp only [same, and_true, equal, true_imp_iff]
    exact Iff.comm
  · have apart : first.value ≠ second.magnitude := by
      intro equal
      apply same
      rw [← Numeral.abs_value, equal, abs_of_nonneg second.magnitude_nonneg]
    simp only [same, and_false, apart, false_imp_iff]

variable {casing : Casing}

theorem found_of_mem {providerRows : List ProviderCSVRow} {db : DbResult} {entry : ReconciliationMatch}
    (member : entry ∈ (reconcileTransactions casing providerRows db).matched ++
      (reconcileTransactions casing providerRows db).discrepancies) :
    ∃ record ∈ db.rows, ∃ row ∈ providerRows, entry = reconciliationMatch casing record row := by
  have found := (collected casing providerRows db.rows).found.mem_iff.mp member
  obtain ⟨pair, visited, same⟩ := List.mem_filterMap.mp found
  obtain ⟨record, carried, rfl⟩ := Option.map_eq_some_iff.mp same
  obtain ⟨ref, _, last⟩ := Option.bind_eq_some_iff.mp carried
  exact ⟨record, lastRecord_mem last, pair.2, (entry_of_mem visited).1, rfl⟩

theorem amountsMatch_iff {record : DbRecord} {row : ProviderCSVRow} :
    (reconciliationMatch casing record row).AmountsMatch ↔
      normalizeAmount (some record.amount) = normalizeAmount row.amount := by
  unfold ReconciliationMatch.AmountsMatch reconciliationMatch amountMatches
  by_cases same : normalizeAmount (some record.amount) = normalizeAmount row.amount
  · cases statusMatches casing record row <;> simp [same]
  · simp [same]

/-- In a report that is valid, two amounts count as the same just where they are the same number, if and only if
they are comparable. -/
theorem amounts_compare (casing : Casing) (providerRows : List ProviderCSVRow) (db : DbResult) (precision scale : ℕ)
    (valid : (validateCSVSchema casing providerRows).isValid = true)
    (decimals : ∀ record ∈ db.rows, ∃ amount : Decimal precision scale, record.amount = amount.text) :
    ∀ entry ∈ (reconcileTransactions casing providerRows db).matched ++
        (reconcileTransactions casing providerRows db).discrepancies,
      ∃ first second, amountNumeral entry.dbRecord.amount = some first ∧
        entry.providerRecord.amount.bind amountNumeral = some second ∧
        ((entry.AmountsMatch ↔ first.value = second.value) ↔ Comparable first second) := by
  intro entry member
  obtain ⟨record, stored, row, reported, rfl⟩ := found_of_mem member
  obtain ⟨decimal, text⟩ := decimals record stored
  obtain ⟨amount, numeral, given, some_amount, read⟩ := amount_of_valid valid reported
  obtain ⟨some_text, first_read, first_kept⟩ := numeral_of_decimal decimal
  obtain ⟨positive, second_read, second_kept⟩ := numeral_of_unsigned read
  have database : normalizeAmount (some record.amount) = some (String.ofList decimal.numeral.unsigned) := by
    rw [text]
    exact normalizeAmount_of_numeral some_text first_kept
  have provider : normalizeAmount row.amount = some (String.ofList numeral.unsigned) := by
    rw [given]
    exact normalizeAmount_of_numeral some_amount second_kept
  refine ⟨decimal.numeral, numeral, ?_, ?_, ?_⟩
  · show amountNumeral record.amount = _
    rw [text, first_read]
  · show row.amount.bind amountNumeral = _
    rw [given]
    exact second_read
  · rw [amountsMatch_iff, database, provider, Option.some_inj, String.ofList_inj]
    exact comparable_iff positive

/-! A report of a payment of 100.50, where the column of the database has seven places. -/

/-- The texts of the sample are in the case that they are compared in. -/
def sameCase : Casing := ⟨id, id⟩

def reportedRow : ProviderCSVRow :=
  ⟨some "TXN-001", none, none, some "100.50", some "completed", [("phone_number", "+1234567890"), ("provider", "mtn")]⟩

def storedAmount : Decimal 20 7 := ⟨1005000000, by decide⟩

def storedRecord : DbRecord :=
  ⟨"1", "TXN-001", none, storedAmount.text, "completed", "+1234567890", "mtn", "2026-01-01 00:00:00"⟩

def storedRecords : DbResult := ⟨[storedRecord], by decide⟩

theorem stored_decimals : ∀ record ∈ storedRecords.rows, ∃ amount : Decimal 20 7, record.amount = amount.text := by
  intro record member
  cases List.mem_singleton.mp member
  exact ⟨storedAmount, rfl⟩

theorem amounts_compare_sample : (validateCSVSchema sameCase [reportedRow]).isValid = true ∧
    ∀ entry ∈ (reconcileTransactions sameCase [reportedRow] storedRecords).matched ++
      (reconcileTransactions sameCase [reportedRow] storedRecords).discrepancies, ∃ first second, amountNumeral entry.dbRecord.amount = some first ∧
      entry.providerRecord.amount.bind amountNumeral = some second ∧
      ((entry.AmountsMatch ↔ first.value = second.value) ↔ Comparable first second) :=
  have valid : (validateCSVSchema sameCase [reportedRow]).isValid = true := by decide +kernel
  ⟨valid, amounts_compare sameCase [reportedRow] storedRecords 20 7 valid stored_decimals⟩

/-- The same amount is reported as a mismatch. -/
theorem amounts_mismatch : ¬∀ (casing : Casing) (providerRows : List ProviderCSVRow) (db : DbResult)
    (precision scale : ℕ), (validateCSVSchema casing providerRows).isValid = true →
    (∀ record ∈ db.rows, ∃ amount : Decimal precision scale, record.amount = amount.text) →
    ∀ entry ∈ (reconcileTransactions casing providerRows db).matched ++
        (reconcileTransactions casing providerRows db).discrepancies,
      ∃ first second, amountNumeral entry.dbRecord.amount = some first ∧
        entry.providerRecord.amount.bind amountNumeral = some second ∧
        (entry.AmountsMatch ↔ first.value = second.value) := by
  intro compares
  have member : reconciliationMatch sameCase storedRecord reportedRow ∈
      (reconcileTransactions sameCase [reportedRow] storedRecords).matched ++
        (reconcileTransactions sameCase [reportedRow] storedRecords).discrepancies := by
    decide +kernel
  obtain ⟨first, second, database, provider, same⟩ :=
    compares sameCase [reportedRow] storedRecords 20 7 (by decide +kernel) stored_decimals _ member
  have stored : amountNumeral storedRecord.amount = some storedAmount.numeral :=
    (numeral_of_decimal storedAmount).2.1
  obtain rfl : storedAmount.numeral = first := Option.some.inj (stored.symm.trans database)
  have read : amountNumeral "100.50" = some ⟨false, ['1', '0', '0'], ['5', '0'], by decide, List.all_eq_true.mp rfl⟩ := rfl
  have reported : (⟨false, ['1', '0', '0'], ['5', '0'], by decide, List.all_eq_true.mp rfl⟩ : Numeral) = second :=
    Option.some.inj (read.symm.trans provider)
  have equal : storedAmount.numeral.value = second.value := by
    rw [← reported]
    decide +kernel
  have apart : ¬(reconciliationMatch sameCase storedRecord reportedRow).AmountsMatch := by
    rw [amountsMatch_iff]
    decide +kernel
  exact apart (same.mpr equal)

end ProxyPay.Reconciliation
