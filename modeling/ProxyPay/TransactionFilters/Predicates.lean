import ProxyPay.TransactionFilters.Soundness

/-! The predicates of a filter: the text of each is read as one predicate, and its value is that of the comparison. -/

namespace ProxyPay.TransactionFilters

open ProxyPay.Library
open Sql (Token Truth Reads Ends Primary)

variable {server : Server}

/-- A name that is read as a column. -/
structure IsColumn (column : String) : Prop where
  word : Sql.isWord column = true
  plain : Sql.keyword column.toList = .word column

/-- What a placeholder is written as. -/
def placeholder (index : ℕ) : String :=
  "$" ++ toString index

variable {column : String} (known : IsColumn column)

include known

variable {tokens : List Token}

theorem reads_column {rest : String}
    (scanned : Sql.scan (.word column.toList) rest.toList = some (Sql.keyword column.toList :: tokens, .blank)) :
    Reads (column ++ rest) (.word column :: tokens) := by
  rw [known.plain] at scanned
  exact Reads.word known.word (Sql.moves_of_scan scanned)

theorem ends_compare (operator : FilterOperator) (index : ℕ) :
    Ends (column ++ " " ++ operator.sql ++ " " ++ placeholder index)
      [.word column, .symbol operator.sql, .parameter index] := by
  have reads : Reads (column ++ " " ++ operator.sql ++ " ") [.word column, .symbol operator.sql] := by
    rw [String.append_assoc, String.append_assoc]
    apply reads_column known
    cases operator <;> rfl
  exact reads.parameter index

theorem ends_cast (operator : FilterOperator) (index : ℕ) :
    Ends (column ++ "::timestamptz " ++ operator.sql ++ " " ++ placeholder index)
      [.word column, .symbol "::", .word "timestamptz", .symbol operator.sql, .parameter index] := by
  have reads : Reads (column ++ "::timestamptz " ++ operator.sql ++ " ")
      [.word column, .symbol "::", .word "timestamptz", .symbol operator.sql] := by
    rw [String.append_assoc, String.append_assoc]
    apply reads_column known
    cases operator <;> rfl
  exact reads.parameter index

theorem ends_ilike (index : ℕ) : Ends (column ++ " " ++ "ILIKE" ++ " " ++ placeholder index ++ " ESCAPE '\\'")
      [.word column, .word "ILIKE", .parameter index, .word "ESCAPE", .literal "\\"] := by
  have reads : Reads (column ++ " " ++ "ILIKE" ++ " ") [.word column, .word "ILIKE"] := by
    rw [String.append_assoc, String.append_assoc]
    exact reads_column known rfl
  have escape : Reads "ESCAPE '\\'" [.word "ESCAPE", .literal "\\"] := Sql.reads_of_scan rfl
  exact ((reads.parameter index).followed escape).ends

theorem ends_any (index : ℕ) : Ends (column ++ " = ANY(" ++ placeholder index ++ ")")
      [.word column, .symbol "=", .word "ANY", .opening, .parameter index, .closing] := by
  have reads : Reads (column ++ " = ANY(") [.word column, .symbol "=", .word "ANY", .opening] :=
    reads_column known rfl
  exact (reads.parameter index).closed.ends

omit known

theorem ends_hasKey (index : ℕ) :
    Ends ("metadata ? " ++ placeholder index) [.word "metadata", .symbol "?", .parameter index] := by
  have reads : Reads "metadata ? " [.word "metadata", .symbol "?"] := Sql.reads_of_scan rfl
  exact reads.parameter index

/-! Their values. -/

theorem sound_of_predicate {index : ℕ} {sql : String} {predicate : Predicate} {operand : Operand}
    {fits : Prop} {truth : Row server → Truth} (ends : Ends sql tokens) (known : interpret tokens = some predicate)
    (read : ∀ before : Sql.Parser Predicate, before.mode = .operand →
      tokens.foldlM (Sql.Parser.step interpret) before = some { before with mode := .predicate tokens 0 })
    (numbered : placeholders tokens = [index])
    (value : ∀ params : ℕ → Option Operand, params index = some operand → ∀ row,
      (fits → evalPredicate server row params predicate = .ok (truth row)) ∧
        (¬fits → ∃ error, evalPredicate server row params predicate = .error error)) :
    Sound index sql [operand] predicate.Allowed fits truth := by
  refine ⟨tokens, .atom predicate, ends, Sql.primary_of_predicate read known, numbered, List.forall_mem_singleton, ?_⟩
  intro params binds row
  exact value params binds.one row

variable {row : Row server} {params : ℕ → Option Operand} {index : ℕ}

variable {type : SqlType}

theorem parameter_map {α : Type} {value : FilterPrimitive} {use : server.Value type → α} {result : α}
    (bound : params index = some (.primitive value))
    (same : ∀ found, server.read type value.spelled = some found → use found = result) :
    (server.Reads type value.spelled → (parameter server params type index).map use = .ok result) ∧
      (¬server.Reads type value.spelled → ∃ error, (parameter server params type index).map use = .error error) := by
  rw [parameter, bound]
  show (_ → (orThrow SqlError.invalidInput (server.read type value.spelled)).map use = _) ∧
    (_ → ∃ error, (orThrow SqlError.invalidInput (server.read type value.spelled)).map use = _)
  unfold Server.Reads
  cases read : server.read type value.spelled with
  | none => exact ⟨fun readable => (by cases readable), fun _ => ⟨_, rfl⟩⟩
  | some found =>
    constructor
    · intro _
      rw [← same found read]
      rfl
    · nofun

theorem eval_compare {operator : FilterOperator} (typed : columnType column = some type) :
    evalPredicate server row params (.compare column false operator index) =
      (parameter server params type index).map fun value =>
        (row.cell type column).map fun cell => operator.holds cell value := by
  rw [evalPredicate, typed]
  show (parameter server params type index).bind _ = _
  cases parameter server params type index <;> rfl

theorem sound_compare (known : IsColumn column) (operator : FilterOperator) (index : ℕ) (value : FilterPrimitive) :
    @Sound server index (column ++ " " ++ operator.sql ++ " " ++ placeholder index) [.primitive value]
      (column ∈ FILTERABLE_FIELDS.map FilterableField.column) (∃ type, columnType column = some type ∧ server.Reads type value.spelled)
      (fun row => do
        let type ← columnType column
        compared server row column type operator value.spelled) := by
  have predicate : interpret [.word column, .symbol operator.sql, .parameter index] =
      some (.compare column false operator index) := by
    cases operator <;> rfl
  refine sound_of_predicate (ends_compare known operator index) predicate ?_ rfl ?_
  · intro before mode
    obtain ⟨outer, here, _⟩ := before
    cases mode
    rfl
  · intro params bound row
    cases typed : columnType column with
    | none =>
      constructor
      · nofun
      · intro _
        rw [evalPredicate, typed]
        exact ⟨_, rfl⟩
    | some type =>
      have fits : (∃ other, some type = some other ∧ server.Reads other value.spelled) ↔
          server.Reads type value.spelled := by
        constructor
        · simp
        · simp
      rw [eval_compare typed, fits]
      apply parameter_map bound
      intro found read
      show _ = compared server row column type operator value.spelled
      rw [compared, read]
      cases row.cell type column <;> rfl

theorem eval_cast {operator : FilterOperator} (typed : columnType column = some .timestamp) :
    evalPredicate server row params (.compare column true operator index) =
      (parameter server params .timestamptz index).map fun value =>
        (row.cell .timestamp column).map fun cell => operator.holds (server.zoned cell) value := by
  rw [evalPredicate, typed]
  show (parameter server params .timestamptz index).bind _ = _
  cases parameter server params .timestamptz index <;> rfl

theorem sound_cast (known : IsColumn column) (typed : columnType column = some .timestamp)
    (operator : FilterOperator) (index : ℕ) (text : String) :
    @Sound server index (column ++ "::timestamptz " ++ operator.sql ++ " " ++ placeholder index)
      [.primitive (.text text)] (column ∈ FILTERABLE_FIELDS.map FilterableField.column)
      (server.Reads .timestamptz text)
      (fun row => do
        let cell ← row.cell .timestamp column
        let value ← server.read .timestamptz text
        return operator.holds (server.zoned cell) value) := by
  have predicate : interpret [.word column, .symbol "::", .word "timestamptz", .symbol operator.sql, .parameter index] =
      some (.compare column true operator index) := by
    cases operator <;> rfl
  refine sound_of_predicate (ends_cast known operator index) predicate ?_ rfl ?_
  · intro before mode
    obtain ⟨outer, here, _⟩ := before
    cases mode
    rfl
  · intro params bound row
    rw [eval_cast typed]
    apply parameter_map bound
    intro found read
    have spelled : server.read .timestamptz text = some found := read
    rw [spelled]
    cases row.cell .timestamp column <;> rfl

/-! A text that is searched for. -/

theorem reads_text (text : String) : server.Reads .text text ↔ '\x00' ∉ text.toList := by
  have law := server.read_text text
  unfold Server.Reads
  cases read : server.read .text text with
  | none | some found => simp_all

theorem letters_of_read {text : String} {found : server.Value .text} (read : server.read .text text = some found) :
    server.letters found = text.toList := by
  have law := server.read_text text
  rw [read, Option.map_some] at law
  split at law
  · cases law
  · exact Option.some.inj law

section

variable {operator : TextOperator} (search : operator ≠ .equals) (value : String)

include search value

theorem pattern_toList : (operator.pattern value).toList = (if operator = .startsWith then [] else ['%']) ++
        (Sql.escaped value.toList ++ if operator = .endsWith then [] else ['%']) := by
  cases operator with
  | equals => exact absurd rfl search
  | contains | startsWith | endsWith => simp [TextOperator.pattern]

theorem reads_pattern : server.Reads .text (operator.pattern value) ↔ server.Reads .text value := by
  have escaped : '\x00' ∈ Sql.escaped value.toList ↔ '\x00' ∈ value.toList := by grind [List.mem_flatMap, Sql.escaped]
  rw [reads_text, reads_text, pattern_toList search]
  cases operator <;> simp [escaped]

theorem like_pattern (text : List Char) : Sql.like '\\' ((operator.pattern value).toList.map server.lower) text =
      operator.matches (value.toList.map server.lower) text := by
  have any : server.lower '%' = '%' := server.lower_special '%' rfl
  have escaped := Sql.map_escaped server.lower_special server.special_of_lower value.toList
  rw [pattern_toList search, List.map_append, List.map_append, escaped]
  cases operator with
  | equals => exact absurd rfl search
  | contains =>
    rw [Bool.eq_iff_iff, TextOperator.matches, decide_eq_true_eq, ← Sql.like_contains]
    simp [any]
  | startsWith =>
    rw [Bool.eq_iff_iff, TextOperator.matches, decide_eq_true_eq, ← Sql.like_starts]
    simp [any]
  | endsWith =>
    rw [Bool.eq_iff_iff, TextOperator.matches, decide_eq_true_eq, ← Sql.like_ends]
    simp [any]

end

theorem eval_ilike {escape : Char} (typed : columnType column = some .text) :
    evalPredicate server row params (.ilike column index escape) =
      (parameter server params .text index).map fun pattern => (row.cell .text column).map fun cell =>
        Sql.like escape ((server.letters pattern).map server.lower) ((server.letters cell).map server.lower) := by
  rw [evalPredicate, typed]
  show (parameter server params .text index).bind _ = _
  cases parameter server params .text index <;> rfl

theorem sound_ilike (known : IsColumn column) {operator : TextOperator} (search : operator ≠ .equals) (index : ℕ)
    (value : String) :
    @Sound server index (column ++ " " ++ operator.sql ++ " " ++ placeholder index ++ " ESCAPE '\\'")
      [.primitive (.text (operator.pattern value))] (column ∈ FILTERABLE_FIELDS.map FilterableField.column)
      (columnType column = some .text ∧ server.Reads .text value)
      (fun row => do
        let cell ← row.cell .text column
        return operator.matches (value.toList.map server.lower) ((server.letters cell).map server.lower)) := by
  have word : operator.sql = "ILIKE" := by
    cases operator with
    | equals => exact absurd rfl search
    | contains | startsWith | endsWith => rfl
  rw [word]
  refine sound_of_predicate (ends_ilike known index) rfl ?_ rfl ?_
  · intro before mode
    obtain ⟨outer, here, _⟩ := before
    cases mode
    rfl
  · intro params bound row
    by_cases typed : columnType column = some .text
    · have fits : (columnType column = some .text ∧ server.Reads .text value) ↔
          server.Reads .text (operator.pattern value) := by
        rw [reads_pattern search]
        exact and_iff_right typed
      rw [eval_ilike typed, fits]
      apply parameter_map bound
      intro found read
      rw [letters_of_read read]
      show ((row.cell .text column).map fun cell => _) = _
      cases row.cell .text column with
      | none => rfl
      | some cell => exact congrArg some (like_pattern search value _)
    · constructor
      · intro fits
        exact absurd fits.1 typed
      · intro _
        rw [evalPredicate]
        cases other : columnType column with
        | none => exact ⟨_, rfl⟩
        | some type =>
          cases type with
          | text => exact absurd other typed
          | numeric | uuid | timestamp | timestamptz | textArray => exact ⟨_, rfl⟩

/-! A list of values, and a key. -/

variable {values : List FilterPrimitive}

theorem parameters_eq (bound : params index = some (.list values)) (type : SqlType) :
    parameters server params type index =
      orThrow .invalidInput (values.mapM fun value => server.read type value.spelled) := by
  rw [parameters, bound]
  rfl

theorem eval_any (typed : columnType column = some type) (flat : type ≠ .textArray) :
    evalPredicate server row params (.any column index) = (parameters server params type index).map fun values =>
        (row.cell type column).map fun cell => values.contains cell := by
  rw [evalPredicate, typed]
  show (if type = .textArray then Except.error SqlError.undefinedOperator
    else (parameters server params type index).bind _) = _
  rw [if_neg flat]
  cases parameters server params type index <;> rfl

theorem mapM_read {found : List (server.Value type)}
    (read : values.mapM (fun value => server.read type value.spelled) = some found) (cell : server.Value type) :
    found.contains cell = values.any fun value => server.read type value.spelled = some cell := by
  induction values generalizing found with
  | nil =>
    cases read
    rfl
  | cons value rest ih =>
    rw [List.mapM_cons] at read
    obtain ⟨first, here, last⟩ := Option.bind_eq_some_iff.mp read
    obtain ⟨others, later, same⟩ := Option.bind_eq_some_iff.mp last
    cases same
    rw [List.contains_cons, List.any_cons, ih later, here]
    congr 1
    rw [Bool.eq_iff_iff, beq_iff_eq, decide_eq_true_eq, Option.some_inj]
    exact eq_comm

theorem mapM_isSome : (values.mapM fun value => server.read type value.spelled).isSome = true ↔
      ∀ value ∈ values, server.Reads type value.spelled := by
  unfold Server.Reads
  induction values with
  | nil => simp
  | cons value rest ih =>
    rw [List.forall_mem_cons, ← ih, List.mapM_cons]
    cases server.read type value.spelled with
    | none => simp
    | some found => cases rest.mapM fun value => server.read type value.spelled <;> simp

theorem sound_any (known : IsColumn column) (index : ℕ) (values : List FilterPrimitive) :
    @Sound server index (column ++ " = ANY(" ++ placeholder index ++ ")") [.list values]
      (column ∈ FILTERABLE_FIELDS.map FilterableField.column)
      (∃ type, columnType column = some type ∧ type ≠ .textArray ∧ ∀ value ∈ values, server.Reads type value.spelled)
      (fun row => do
        let type ← columnType column
        let cell ← row.cell type column
        return values.any fun value => server.read type value.spelled = some cell) := by
  refine sound_of_predicate (ends_any known index) rfl ?_ rfl ?_
  · intro before mode
    obtain ⟨outer, here, _⟩ := before
    cases mode
    rfl
  · intro params bound row
    cases typed : columnType column with
    | none =>
      constructor
      · intro fits
        obtain ⟨type, other, _⟩ := fits
        cases other
      · intro _
        rw [evalPredicate, typed]
        exact ⟨_, rfl⟩
    | some type =>
      by_cases flat : type = .textArray
      · constructor
        · intro fits
          obtain ⟨other, same, apart, _⟩ := fits
          cases same
          exact absurd flat apart
        · intro _
          rw [evalPredicate, typed, flat]
          exact ⟨_, rfl⟩
      · rw [eval_any typed flat, parameters_eq bound]
        cases read : values.mapM fun value => server.read type value.spelled with
        | none =>
          constructor
          · intro fits
            obtain ⟨other, same, _, readable⟩ := fits
            cases same
            rw [← mapM_isSome, read] at readable
            cases readable
          · intro _
            exact ⟨_, rfl⟩
        | some found =>
          constructor
          · intro _
            show Except.ok ((row.cell type column).map fun cell => found.contains cell) = _
            show _ = Except.ok ((row.cell type column).bind fun cell => some _)
            cases row.cell type column with
            | none => rfl
            | some cell => exact congrArg (Except.ok ∘ some) (mapM_read read cell)
          · intro unfit
            refine absurd ⟨type, rfl, flat, ?_⟩ unfit
            rw [← mapM_isSome, read]
            rfl

theorem eval_hasKey : evalPredicate server row params (.hasKey "metadata" index) =
    (parameter server params .text index).map fun key =>
      row.metadata.map fun keys => keys.any fun known => known.toList = server.letters key := by
  rw [evalPredicate, if_pos rfl]
  cases parameter server params .text index <;> rfl

theorem sound_hasKey (index : ℕ) (key : String) :
    @Sound server index ("metadata ? " ++ placeholder index) [.primitive (.text key)]
      (Predicate.hasKey "metadata" index).Allowed (server.Reads .text key)
      (fun row => row.metadata.map fun keys => keys.contains key) := by
  refine sound_of_predicate (ends_hasKey index) rfl ?_ rfl ?_
  · intro before mode
    obtain ⟨outer, here, _⟩ := before
    cases mode
    rfl
  · intro params bound row
    rw [eval_hasKey]
    apply parameter_map bound
    intro found read
    have letters : server.letters found = key.toList := letters_of_read read
    rw [letters]
    congr 1
    funext keys
    rw [Bool.eq_iff_iff, List.any_eq_true, List.contains_iff_mem]
    constructor
    · intro some
      obtain ⟨known, member, same⟩ := some
      exact String.toList_inj.mp (of_decide_eq_true same) ▸ member
    · intro member
      exact ⟨key, member, decide_eq_true rfl⟩

end ProxyPay.TransactionFilters
