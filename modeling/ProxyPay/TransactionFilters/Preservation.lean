import Mathlib.Data.String.Basic
import ProxyPay.TransactionFilters.Predicates

/-! The compiler keeps the meaning of a filter. -/

namespace ProxyPay.TransactionFilters

open ProxyPay.Library
open Sql (Truth Joiner)

/-! What a step of the compiler returns. -/

section Steps

variable {α β : Type} {binder after : Binder}

theorem run_bind {first : Compiler α} {next : α → Compiler β} {value : β} :
    (first >>= next) binder = .ok (value, after) ↔
      ∃ middle between, first binder = .ok (middle, between) ∧ next middle between = .ok (value, after) := by
  show ((first binder) >>= fun pair => next pair.1 pair.2) = _ ↔ _
  rw [bind_ok, Prod.exists]

theorem run_pure {value result : α} :
    (pure value : Compiler α) binder = .ok (result, after) ↔ value = result ∧ binder = after := by
  show Except.ok (value, binder) = _ ↔ _
  rw [Except.ok.injEq, Prod.mk.injEq]

theorem run_fail {error : FilterError} {value : α} : ¬fail error binder = .ok (value, after) := by
  intro returned
  cases returned

theorem run_lift {found : Except FilterError α} {value : α} :
    (liftM found : Compiler α) binder = .ok (value, after) ↔ found = .ok value ∧ binder = after := by
  show (found >>= fun known => Except.ok (known, binder)) = _ ↔ _
  rw [bind_ok]
  constructor
  · simp
  · simp

theorem run_bindValue {operand : Operand} {text : String} : bind operand binder = .ok (text, after) ↔
      placeholder binder.nextIndex = text ∧ (⟨binder.params ++ [operand], binder.nextIndex + 1⟩ : Binder) = after := by
  show Except.ok (placeholder binder.nextIndex, _) = _ ↔ _
  rw [Except.ok.injEq, Prod.mk.injEq]

theorem run_isoText {runtime : Runtime} {text iso : String} :
    isoText runtime text binder = .ok (iso, after) ↔ dateText runtime text = some iso ∧ binder = after := by
  unfold isoText dateText
  cases runtime.date text with
  | none =>
    constructor
    · nofun
    · nofun
  | some instant =>
    rw [Option.map_some, Option.some_inj]
    exact run_pure

end Steps

/-! The columns of fields. -/

theorem fields_are_columns : ∀ entry ∈ FILTERABLE_FIELDS,
    Sql.isWord entry.column = true ∧ Sql.keyword entry.column.toList = .word entry.column ∧
      (columnType entry.column).isSome = true ∧ (entry.kind = .temporal → columnType entry.column = some .timestamp) := by
  decide +kernel

theorem ownField_mem {field : String} {entry : FilterableField} (own : ownField field = some entry) :
    entry ∈ FILTERABLE_FIELDS :=
  List.mem_of_find?_eq_some own

section

variable {field : String} {resolved : ResolvedField} (resolves : resolveField field = .ok resolved)

include resolves

theorem resolve_cases : (∃ entry, ownField field = some entry ∧ resolved = entry.resolved) ∨
      (ownField field = none ∧ field ∈ inheritedNames ∧ resolved = ⟨"undefined", none⟩) := by
  unfold resolveField at resolves
  cases own : ownField field with
  | some entry => simp_all
  | none => grind

theorem isColumn_of_resolve : IsColumn resolved.column := by
  rcases resolve_cases resolves with ⟨entry, own, rfl⟩ | ⟨_, _, rfl⟩
  · obtain ⟨word, plain, _⟩ := fields_are_columns entry (ownField_mem own)
    exact ⟨word, plain⟩
  · exact ⟨by decide +kernel, by decide +kernel⟩

theorem fieldColumn_of_resolve :
    fieldColumn field = (columnType resolved.column).map fun type => (resolved.column, type) := by
  rcases resolve_cases resolves with ⟨entry, own, rfl⟩ | ⟨own, _, rfl⟩
  · unfold fieldColumn
    rw [own]
    show (columnType entry.column).bind _ = (columnType entry.column).map _
    cases columnType entry.column <;> rfl
  · unfold fieldColumn
    rw [own]
    rfl

theorem own_of_resolve :
    resolved.column ∈ FILTERABLE_FIELDS.map FilterableField.column ↔ (ownField field).isSome = true := by
  rcases resolve_cases resolves with ⟨entry, own, rfl⟩ | ⟨own, _, rfl⟩
  · rw [own]
    exact iff_of_true (List.mem_map_of_mem (ownField_mem own)) rfl
  · rw [own]
    exact iff_of_false (by decide +kernel) (by simp)

end

theorem exists_fieldColumn {field : String} {resolved : ResolvedField} {said : String → SqlType → Prop}
    (resolves : resolveField field = .ok resolved) :
    (∃ type, columnType resolved.column = some type ∧ said resolved.column type) ↔
      ∃ column type, fieldColumn field = some (column, type) ∧ said column type := by
  rw [fieldColumn_of_resolve resolves]
  constructor
  · simp
  · simp

/-! Ranges. -/

section Ranges

variable {server : Server}

/-- The bound is a value with this text. -/
def Gives (operand : Option (Compiler Operand)) (text : Option String) : Prop :=
  (operand = none → text = none) ∧
    ∀ compute, operand = some compute → ∀ binder value after, compute binder = .ok (value, after) →
      after = binder ∧ ∃ known, value = .primitive known ∧ text = some known.spelled

theorem bound_spec {column : String} {operator : FilterOperator} {operand : Option (Compiler Operand)}
    {text : Option String} {binder after : Binder} {parts : List String} (gives : Gives operand text)
    (returned : bound column operator.sql operand binder = .ok (parts, after)) :
    (operand = none ∧ text = none ∧ parts = [] ∧ after = binder) ∨
      ∃ value : FilterPrimitive, text = some value.spelled ∧
        parts = [column ++ " " ++ operator.sql ++ " " ++ placeholder binder.nextIndex] ∧
        after = ⟨binder.params ++ [.primitive value], binder.nextIndex + 1⟩ := by
  cases operand with
  | none =>
    obtain ⟨same, kept⟩ := (run_pure).mp returned
    exact .inl ⟨rfl, gives.1 rfl, same.symm, kept.symm⟩
  | some compute =>
    obtain ⟨value, middle, computed, rest⟩ := (run_bind).mp returned
    obtain ⟨kept, known, rfl, spelled⟩ := gives.2 compute rfl binder value middle computed
    obtain ⟨written, between, bound, last⟩ := (run_bind).mp rest
    obtain ⟨rfl, rfl⟩ := (run_bindValue).mp bound
    obtain ⟨rfl, rfl⟩ := (run_pure).mp last
    rw [kept]
    exact .inr ⟨known, spelled, rfl, rfl⟩

theorem and_true (value : Truth) : Truth.and value (some true) = value := by
  cases value with
  | none => rfl
  | some known => cases known <;> rfl

theorem true_and (value : Truth) : Truth.and (some true) value = value := by
  cases value with
  | none => rfl
  | some known => cases known <;> rfl

theorem range_spec {column sql : String} {lower upper : Option (Compiler Operand)} {least most : Option String}
    {binder after : Binder} (known : IsColumn column) (below : Gives lower least) (above : Gives upper most)
    (some_bound : (lower.isNone && upper.isNone) = false)
    (returned : compileRange column lower upper binder = .ok (sql, after)) :
    ∃ params, after = ⟨binder.params ++ params, binder.nextIndex + params.length⟩ ∧
      @Sound server binder.nextIndex sql params (column ∈ FILTERABLE_FIELDS.map FilterableField.column)
        (∃ type, columnType column = some type ∧ ∀ text ∈ least.toList ++ most.toList, server.Reads type text)
        (fun row => do
          let type ← columnType column
          within server row column type least most) := by
  obtain ⟨lowers, between, first, rest⟩ := (run_bind).mp returned
  obtain ⟨uppers, last, second, written⟩ := (run_bind).mp rest
  obtain ⟨rfl, rfl⟩ := (run_pure).mp written
  have lower_spec := @bound_spec column .gte _ _ _ _ _ below first
  have upper_spec := @bound_spec column .lte _ _ _ _ _ above second
  rcases lower_spec with ⟨rfl, rfl, rfl, rfl⟩ | ⟨low, rfl, rfl, rfl⟩
  · rcases upper_spec with ⟨rfl, rfl, rfl, rfl⟩ | ⟨high, rfl, rfl, rfl⟩
    · cases some_bound
    · refine ⟨[.primitive high], rfl, ?_⟩
      have sound := Sound.junction .and (@sound_compare server column known .lte between.nextIndex high)
        (SoundAll.nil _)
      apply sound.congr
      · exact and_iff_left trivial
      · simp
      · simp [within, true_and]
  · rcases upper_spec with ⟨rfl, rfl, rfl, rfl⟩ | ⟨high, rfl, rfl, rfl⟩
    · refine ⟨[.primitive low], rfl, ?_⟩
      have sound := Sound.junction .and (@sound_compare server column known .gte binder.nextIndex low)
        (SoundAll.nil _)
      apply sound.congr
      · exact and_iff_left trivial
      · simp
      · simp [within, and_true]
    · refine ⟨[.primitive low, .primitive high], by simp, ?_⟩
      have sound := Sound.junction .and (@sound_compare server column known .gte binder.nextIndex low)
        (SoundAll.cons (sound_compare known .lte _ high) (SoundAll.nil _))
      apply sound.congr
      · simp
      · grind
      · simp_all [within, Joiner.truth]

end Ranges

/-! Every node. -/

section Nodes

variable {server : Server} {runtime : Runtime}

/-- The part of the query that is made, whose parameters come after those before. -/
def Makes (binder after : Binder) (sql : String) (named fits : Prop) (truth : Row server → Truth) : Prop :=
  ∃ params, after = ⟨binder.params ++ params, binder.nextIndex + params.length⟩ ∧
    Sound binder.nextIndex sql params named fits truth

theorem Makes.one {binder after : Binder} {sql text : String} {operand : Operand}
    {named allowed fits others : Prop} {truth same : Row server → Truth}
    (sound : Sound binder.nextIndex sql [operand] named fits truth)
    (extended : (⟨binder.params ++ [operand], binder.nextIndex + 1⟩ : Binder) = after)
    (written : "(" ++ sql ++ ")" = text) (names : named ↔ allowed) (condition : fits ↔ others)
    (value : ∀ row, fits → truth row = same row) : Makes binder after text allowed others same :=
  ⟨[operand], extended.symm, written ▸ (sound.congr names condition value).group⟩

section

variable {field : String}

theorem own_iff : (ownField field).isSome = true ↔ ∀ name ∈ some field, (ownField name).isSome = true := by
  simp

theorem compare_spec {operator : FilterOperator} {value : FilterPrimitive} {binder after : Binder}
    {sql : String} (returned : compileLeaf runtime (.compare field operator value) binder = .ok (sql, after)) :
    Makes binder after sql (FilterLeaf.compare field operator value).Own ((FilterLeaf.compare field operator value).Fits server runtime)
      (fun row => (FilterLeaf.compare field operator value).truth server row runtime) := by
  obtain ⟨resolved, between, found, rest⟩ := (run_bind).mp returned
  obtain ⟨resolves, rfl⟩ := (run_lift).mp found
  have column := isColumn_of_resolve resolves
  split at rest
  · exact absurd rest run_fail
  · split at rest
    · rename_i temporal
      obtain ⟨entry, own, rfl⟩ : ∃ entry, ownField field = some entry ∧ resolved = entry.resolved := by
        rcases resolve_cases resolves with known | ⟨_, _, rfl⟩
        · exact known
        · cases temporal
      have kind : entry.kind = .temporal := Option.some.inj temporal
      obtain ⟨_, _, _, typed⟩ := fields_are_columns entry (ownField_mem own)
      obtain ⟨iso, middle, converted, last⟩ := (run_bind).mp rest
      obtain ⟨text, rfl⟩ := (run_isoText).mp converted
      obtain ⟨written, final, bound, done⟩ := (run_bind).mp last
      obtain ⟨rfl, extended⟩ := (run_bindValue).mp bound
      obtain ⟨rfl, rfl⟩ := (run_pure).mp done
      apply Makes.one (@sound_cast server entry.column column (typed kind) operator binder.nextIndex iso) extended
      · simp only [String.append_assoc, FilterableField.resolved]
      · exact (own_of_resolve resolves).trans own_iff
      · constructor
        · intro readable
          refine ⟨entry, .timestamp, own, typed kind, ?_⟩
          rw [if_pos kind, text]
          intro other same
          cases same
          exact readable
        · intro fits
          obtain ⟨other, type, same, _, readable⟩ := fits
          rw [own] at same
          cases same
          rw [if_pos kind, text] at readable
          exact readable iso rfl
      · simp_all [FilterLeaf.truth]
    · rename_i temporal
      obtain ⟨written, final, bound, done⟩ := (run_bind).mp rest
      obtain ⟨rfl, extended⟩ := (run_bindValue).mp bound
      obtain ⟨rfl, rfl⟩ := (run_pure).mp done
      apply Makes.one (@sound_compare server resolved.column column operator binder.nextIndex value) extended
      · simp only [String.append_assoc]
      · exact (own_of_resolve resolves).trans own_iff
      · rcases resolve_cases resolves with ⟨entry, own, rfl⟩ | ⟨own, _, rfl⟩
        · have kind : entry.kind ≠ .temporal := fun same => temporal (congrArg some same)
          constructor
          · intro found
            obtain ⟨type, typed, readable⟩ := found
            refine ⟨entry, type, own, typed, ?_⟩
            rw [if_neg kind]
            exact readable
          · intro fits
            obtain ⟨other, type, same, typed, readable⟩ := fits
            rw [own] at same
            cases same
            rw [if_neg kind] at readable
            exact ⟨type, typed, readable⟩
        · constructor
          · nofun
          · intro fits
            obtain ⟨other, _, same, _⟩ := fits
            rw [own] at same
            cases same
      · intro row fits
        rcases resolve_cases resolves with ⟨entry, own, rfl⟩ | ⟨own, _, rfl⟩
        · have kind : entry.kind ≠ .temporal := fun same => temporal (congrArg some same)
          rw [FilterLeaf.truth, own]
          show _ = if entry.kind = .temporal then _ else _
          rw [if_neg kind]
          rfl
        · obtain ⟨type, typed, _⟩ := fits
          cases typed

theorem text_spec {operator : TextOperator} {value : String} {binder after : Binder} {sql : String}
    (returned : compileLeaf runtime (.text field operator value) binder = .ok (sql, after)) :
    Makes binder after sql (FilterLeaf.text field operator value).Own ((FilterLeaf.text field operator value).Fits server runtime)
      (fun row => (FilterLeaf.text field operator value).truth server row runtime) := by
  obtain ⟨resolved, between, found, rest⟩ := (run_bind).mp returned
  obtain ⟨resolves, rfl⟩ := (run_lift).mp found
  have column := isColumn_of_resolve resolves
  have typed := fieldColumn_of_resolve resolves
  by_cases search : operator = .equals
  · subst search
    obtain ⟨written, final, bound, done⟩ := (run_bind).mp rest
    obtain ⟨rfl, extended⟩ := (run_bindValue).mp bound
    obtain ⟨rfl, rfl⟩ := (run_pure).mp done
    apply Makes.one (@sound_compare server resolved.column column .eq binder.nextIndex (.text value)) extended
    · simp [String.append_assoc, FilterOperator.sql]
    · exact (own_of_resolve resolves).trans own_iff
    · exact @exists_fieldColumn field resolved (fun _ type => server.Reads type value) resolves
    · intro row _
      rw [FilterLeaf.truth, typed]
      cases columnType resolved.column <;> rfl
  · simp only [search, if_false] at rest
    obtain ⟨written, final, bound, done⟩ := (run_bind).mp rest
    obtain ⟨rfl, extended⟩ := (run_bindValue).mp bound
    obtain ⟨rfl, rfl⟩ := (run_pure).mp done
    apply Makes.one (@sound_ilike server resolved.column column operator search binder.nextIndex value) extended
    · simp [String.append_assoc]
    · exact (own_of_resolve resolves).trans own_iff
    · have fits : (FilterLeaf.text field operator value).Fits server runtime ↔
          ∃ column, fieldColumn field = some (column, .text) ∧ server.Reads .text value := by
        cases operator with
        | equals => exact absurd rfl search
        | contains | startsWith | endsWith => rfl
      rw [fits, typed]
      constructor
      · simp
      · simp
    · intro row fits
      have truth : (FilterLeaf.text field operator value).truth server row runtime = (do
          let found ← fieldColumn field
          let cell ← row.cell .text found.1
          return operator.matches (value.toList.map server.lower) ((server.letters cell).map server.lower)) := by
        cases operator with
        | equals => exact absurd rfl search
        | contains | startsWith | endsWith => rfl
      rw [truth, typed, fits.1]
      rfl

theorem isIn_spec {values : List FilterPrimitive} {binder after : Binder} {sql : String}
    (returned : compileLeaf runtime (.isIn field values) binder = .ok (sql, after)) :
    Makes binder after sql (FilterLeaf.isIn field values).Own ((FilterLeaf.isIn field values).Fits server runtime)
      (fun row => (FilterLeaf.isIn field values).truth server row runtime) := by
  obtain ⟨resolved, between, found, rest⟩ := (run_bind).mp returned
  obtain ⟨resolves, rfl⟩ := (run_lift).mp found
  obtain ⟨written, final, bound, done⟩ := (run_bind).mp rest
  obtain ⟨rfl, extended⟩ := (run_bindValue).mp bound
  obtain ⟨rfl, rfl⟩ := (run_pure).mp done
  apply Makes.one (@sound_any server resolved.column (isColumn_of_resolve resolves) binder.nextIndex values) extended
  · simp [String.append_assoc]
  · exact (own_of_resolve resolves).trans own_iff
  · exact @exists_fieldColumn field resolved
      (fun _ type => type ≠ .textArray ∧ ∀ value ∈ values, server.Reads type value.spelled) resolves
  · simp_all [FilterLeaf.truth, fieldColumn_of_resolve]

theorem range_leaf_spec {min max : Option Float} {binder after : Binder} {sql : String}
    (returned : compileLeaf runtime (.range field min max) binder = .ok (sql, after)) :
    Makes binder after sql (FilterLeaf.range field min max).Own ((FilterLeaf.range field min max).Fits server runtime)
      (fun row => (FilterLeaf.range field min max).truth server row runtime) := by
  obtain ⟨resolved, between, found, rest⟩ := (run_bind).mp returned
  obtain ⟨resolves, rfl⟩ := (run_lift).mp found
  have gives (number : Option Float) :
      Gives (number.map fun value => return .primitive (.number value)) (number.map Number.text) := by
    constructor
    · simp
    · intro compute some_number binder value after computed
      obtain ⟨known, rfl, rfl⟩ := Option.map_eq_some_iff.mp some_number
      obtain ⟨rfl, rfl⟩ := (run_pure).mp computed
      exact ⟨rfl, .number known, rfl, rfl⟩
  split at rest
  · exact absurd rest run_fail
  · rename_i some_bound
    have bounded := Bool.eq_false_iff.mpr some_bound
    obtain ⟨params, extended, sound⟩ := @range_spec server _ _ _ _ _ _ _ _ (isColumn_of_resolve resolves) (gives min)
      (gives max) (by rw [Option.isNone_map, Option.isNone_map, bounded]) rest
    refine ⟨params, extended, sound.congr ((own_of_resolve resolves).trans own_iff) ?_ ?_⟩
    · rw [@exists_fieldColumn field resolved (fun _ type => ∀ text ∈ (min.map Number.text).toList ++
        (max.map Number.text).toList, server.Reads type text) resolves]
      cases min <;> cases max <;> simp [FilterLeaf.Fits]
    · intro row _
      rw [FilterLeaf.truth, fieldColumn_of_resolve resolves]
      cases columnType resolved.column <;> rfl

end

theorem forall_mem_bind {one other : Option String} {convert : String → Option String} {said : String → Prop} :
    (∀ text ∈ (one.bind convert).toList ++ (other.bind convert).toList, said text) ↔
      ∀ value ∈ one.toList ++ other.toList, ∀ text ∈ convert value, said text := by
  have single (some_text : Option String) : (∀ text ∈ (some_text.bind convert).toList, said text) ↔
      ∀ value ∈ some_text.toList, ∀ text ∈ convert value, said text := by
    cases some_text <;> simp
  rw [List.forall_mem_append, List.forall_mem_append, single, single]

theorem dateRange_spec {field : String} {start stop : Option String} {binder after : Binder} {sql : String}
    (returned : compileLeaf runtime (.dateRange field start stop) binder = .ok (sql, after)) :
    Makes binder after sql (FilterLeaf.dateRange field start stop).Own ((FilterLeaf.dateRange field start stop).Fits server runtime)
      (fun row => (FilterLeaf.dateRange field start stop).truth server row runtime) := by
  obtain ⟨resolved, between, found, rest⟩ := (run_bind).mp returned
  obtain ⟨resolves, rfl⟩ := (run_lift).mp found
  have gives (text : Option String) :
      Gives (text.map fun text => return .primitive (.text (← isoText runtime text))) (text.bind (dateText runtime)) := by
    constructor
    · simp_all
    · intro compute some_text binder value after computed
      obtain ⟨known, rfl, rfl⟩ := Option.map_eq_some_iff.mp some_text
      obtain ⟨iso, middle, converted, last⟩ := (run_bind).mp computed
      obtain ⟨read, rfl⟩ := (run_isoText).mp converted
      obtain ⟨rfl, rfl⟩ := (run_pure).mp last
      exact ⟨rfl, .text iso, rfl, read⟩
  split at rest
  · exact absurd rest run_fail
  · rename_i some_bound
    have bounded := Bool.eq_false_iff.mpr some_bound
    obtain ⟨params, extended, sound⟩ := @range_spec server _ _ _ _ _ _ _ _ (isColumn_of_resolve resolves)
      (gives (Text.truthy start)) (gives (Text.truthy stop)) (by rw [Option.isNone_map, Option.isNone_map, bounded]) rest
    refine ⟨params, extended, sound.congr ((own_of_resolve resolves).trans own_iff) ?_ ?_⟩
    · rw [@exists_fieldColumn field resolved (fun _ type => ∀ text ∈ ((Text.truthy start).bind (dateText runtime)).toList
        ++ ((Text.truthy stop).bind (dateText runtime)).toList, server.Reads type text) resolves]
      show _ ↔ ∃ column type, fieldColumn field = some (column, type) ∧
        ∀ value ∈ (Text.truthy start).toList ++ (Text.truthy stop).toList,
          ∀ text ∈ dateText runtime value, server.Reads type text
      simp only [forall_mem_bind]
    · simp_all [FilterLeaf.truth, fieldColumn_of_resolve]

theorem keyExists_spec {metadataKey : String} {value : Bool} {binder after : Binder} {sql : String}
    (returned : compileLeaf runtime (.keyExists metadataKey value) binder = .ok (sql, after)) :
    Makes binder after sql (FilterLeaf.keyExists metadataKey value).Own ((FilterLeaf.keyExists metadataKey value).Fits server runtime)
      (fun row => (FilterLeaf.keyExists metadataKey value).truth server row runtime) := by
  obtain ⟨written, final, bound, done⟩ := (run_bind).mp returned
  obtain ⟨rfl, extended⟩ := (run_bindValue).mp bound
  have sound := @sound_hasKey server binder.nextIndex metadataKey
  cases value with
  | true =>
    obtain ⟨rfl, rfl⟩ := (run_pure).mp done
    apply Makes.one sound extended
    · rw [← String.append_assoc]
      rfl
    · exact iff_of_true rfl (fun _ none => (by cases none))
    · exact Iff.rfl
    · intro row _
      show _ = row.metadata.map _
      congr 1
      funext keys
      cases keys.contains metadataKey <;> rfl
  | false =>
    obtain ⟨rfl, rfl⟩ := (run_pure).mp done
    apply Makes.one sound.group.not extended
    · have opened : "(NOT (metadata ? " = "(" ++ ("NOT " ++ ("(" ++ "metadata ? ")) := rfl
      have closed : "))" = ")" ++ ")" := rfl
      simp only [opened, closed, String.append_assoc]
    · exact iff_of_true rfl (fun _ none => (by cases none))
    · exact Iff.rfl
    · intro row _
      show Truth.not (row.metadata.map _) = row.metadata.map _
      rw [Truth.not, Option.map_map]
      congr 1
      funext keys
      show (!keys.contains metadataKey) = _
      cases keys.contains metadataKey <;> rfl

theorem leaf_spec {leaf : FilterLeaf} {binder after : Binder} {sql : String}
    (returned : compileLeaf runtime leaf binder = .ok (sql, after)) :
    Makes binder after sql leaf.Own (leaf.Fits server runtime) (fun row => leaf.truth server row runtime) := by
  cases leaf with
  | range field min max => exact range_leaf_spec returned
  | compare field operator value => exact compare_spec returned
  | text field operator value => exact text_spec returned
  | isIn field values => exact isIn_spec returned
  | dateRange field start stop => exact dateRange_spec returned
  | keyExists metadataKey value => exact keyExists_spec returned

theorem leaves_junction {joiner : Joiner} {first : FilterNode} {rest : List FilterNode} {said : FilterLeaf → Prop} :
    (∀ leaf ∈ (FilterNode.junction joiner first rest).leaves, said leaf) ↔
      (∀ leaf ∈ first.leaves, said leaf) ∧ ∀ leaf ∈ FilterNode.allLeaves rest, said leaf := by
  rw [FilterNode.leaves]
  exact List.forall_mem_append

theorem leaves_cons {node : FilterNode} {rest : List FilterNode} {said : FilterLeaf → Prop} :
    (∀ leaf ∈ FilterNode.allLeaves (node :: rest), said leaf) ↔
      (∀ leaf ∈ node.leaves, said leaf) ∧ ∀ leaf ∈ FilterNode.allLeaves rest, said leaf := by
  rw [FilterNode.allLeaves]
  exact List.forall_mem_append

theorem compileAll_spec {nodes : List FilterNode}
    (each : ∀ node ∈ nodes, ∀ binder after sql, compile runtime node binder = .ok (sql, after) →
      Makes binder after sql (∀ leaf ∈ node.leaves, leaf.Own) (node.Fits server runtime)
        (fun row => node.truth server row runtime))
    {binder after : Binder} {sqls : List String} (returned : compileAll runtime nodes binder = .ok (sqls, after)) :
    ∃ params, after = ⟨binder.params ++ params, binder.nextIndex + params.length⟩ ∧
      SoundAll binder.nextIndex sqls params (∀ leaf ∈ FilterNode.allLeaves nodes, leaf.Own)
        (∀ leaf ∈ FilterNode.allLeaves nodes, leaf.Fits server runtime)
        (fun row => FilterNode.truths server row runtime nodes) := by
  induction nodes generalizing binder sqls with
  | nil =>
    obtain ⟨rfl, rfl⟩ := (run_pure).mp returned
    refine ⟨[], by simp, ?_⟩
    have none {said : FilterLeaf → Prop} : (∀ leaf ∈ FilterNode.allLeaves [], said leaf) ↔ True := by
      simp [FilterNode.allLeaves]
    rw [none, none]
    exact SoundAll.nil _
  | cons node rest ih =>
    obtain ⟨sql, middle, first, last⟩ := (run_bind).mp returned
    obtain ⟨others, final, later, done⟩ := (run_bind).mp last
    obtain ⟨rfl, rfl⟩ := (run_pure).mp done
    obtain ⟨params, rfl, sound⟩ := each node List.mem_cons_self binder middle sql first
    obtain ⟨more, rfl, all⟩ := ih (fun other member => each other (List.mem_cons_of_mem _ member)) later
    refine ⟨params ++ more, by rw [List.append_assoc, List.length_append, Nat.add_assoc], ?_⟩
    rw [leaves_cons, leaves_cons]
    exact SoundAll.cons sound all

theorem compile_spec (node : FilterNode) : ∀ binder after sql, compile runtime node binder = .ok (sql, after) →
    Makes binder after sql (∀ leaf ∈ node.leaves, leaf.Own) (node.Fits server runtime)
      (fun row => node.truth server row runtime) := by
  induction node using FilterNode.each with
  | junction joiner first rest here there =>
    intro binder after sql returned
    obtain ⟨one, middle, start, last⟩ := (run_bind).mp returned
    obtain ⟨others, final, later, done⟩ := (run_bind).mp last
    obtain ⟨rfl, rfl⟩ := (run_pure).mp done
    obtain ⟨params, rfl, sound⟩ := here binder middle one start
    obtain ⟨more, rfl, all⟩ := compileAll_spec there later
    refine ⟨params ++ more, by rw [List.append_assoc, List.length_append, Nat.add_assoc], ?_⟩
    unfold FilterNode.Fits
    rw [leaves_junction, leaves_junction]
    exact Sound.junction joiner sound all
  | not condition ih =>
    intro binder after sql returned
    obtain ⟨text, middle, inner, done⟩ := (run_bind).mp returned
    obtain ⟨rfl, rfl⟩ := (run_pure).mp done
    obtain ⟨params, extended, sound⟩ := ih binder middle text inner
    exact ⟨params, extended, sound.not⟩
  | leaf leaf =>
    intro binder after sql returned
    obtain ⟨params, extended, sound⟩ := @leaf_spec server runtime leaf binder after sql returned
    refine ⟨params, extended, sound.congr ?_ ?_ ?_⟩
    · simp [FilterNode.leaves]
    · simp [FilterNode.leaves, FilterNode.Fits]
    · intro row _
      rfl

end Nodes

/-- The SQL that is made has one placeholder for each parameter, and the value of the expression on every
transaction where its operators and values fit the columns, and only there. -/
theorem compile_preserves (server : Server) (runtime : Runtime) (node : FilterNode) (startIndex : ℕ)
    (compiled : CompiledFilter) (compiles : compileFilterExpression runtime node startIndex = .ok compiled) :
    compiled.Numbered startIndex ∧
      ((∀ row, evaluate server row compiled startIndex = .ok (node.truth server row runtime)) ↔
        node.Fits server runtime) := by
  obtain ⟨⟨sql, after⟩, returned, same⟩ := bind_ok.mp compiles
  cases same
  obtain ⟨params, rfl, sound⟩ := @compile_spec server runtime node ⟨[], startIndex⟩ after sql returned
  obtain ⟨tokens, condition, ends, primary, numbered, _, agrees⟩ := sound.out
  have lexed := Sql.lex_of_ends ends
  have binds : Binds (fun index => if startIndex ≤ index then params[index - startIndex]? else none) startIndex
      params := by
    intro place _
    show (if startIndex ≤ startIndex + place then params[startIndex + place - startIndex]? else none) = _
    rw [if_pos (Nat.le_add_right _ _), Nat.add_sub_cancel_left]
  have evaluated (row : Row server) : evaluate server row ⟨sql, params⟩ startIndex =
      condition.eval (evalPredicate server row fun index =>
        if startIndex ≤ index then params[index - startIndex]? else none) := by
    unfold evaluate
    rw [lexed]
    show (do let condition ← orThrow SqlError.malformed (Sql.parse interpret tokens); _) = _
    rw [Sql.parse_of_primary primary]
    rfl
  refine ⟨⟨tokens, lexed, numbered⟩, ?_⟩
  constructor
  · intro kept
    by_contra unfit
    -- a transaction of which nothing is known is enough
    have row : Row server := ⟨fun _ _ => none, none⟩
    obtain ⟨error, failed⟩ := (agrees _ binds row).2 unfit
    have value := kept row
    rw [List.nil_append, evaluated, failed] at value
    cases value
  · intro fits row
    rw [List.nil_append, evaluated]
    exact (agrees _ binds row).1 fits

def sampleLower (char : Char) : Char :=
  if char ∈ "ABCDEFGHIJKLMNOPQRSTUVWXYZ".toList then char.toLower else char

/-- A server that keeps each value as its text. -/
def sampleServer : Server where
  Value _ := String
  order _ := inferInstance
  read type text :=
    if '\x00' ∈ text.toList then none
    else if type = .text then some text
    else if type = .textArray && !(text.toList.head? = some '\x7b' && text.toList.getLast? = some '\x7d') then none
    else if type = .numeric && !text.toList.all Char.isDigit then none
    else if type = .uuid && text.length ≠ 36 then none
    else some text
  letters := String.toList
  lower := sampleLower
  zoned := id
  letters_injective := fun _ _ same => String.toList_inj.mp same
  read_text := by
    intro text
    by_cases null : '\x00' ∈ text.toList
    · rw [if_pos null, if_pos null]
      rfl
    · rw [if_neg null, if_neg null]
      rfl
  lower_special := by
    intro char special
    have same : char = '\\' ∨ char = '%' ∨ char = '_' := by
      simpa [Sql.isSpecial, or_assoc] using special
    rcases same with rfl | rfl | rfl <;> rfl
  special_of_lower := by
    intro char special
    by_cases capital : char ∈ "ABCDEFGHIJKLMNOPQRSTUVWXYZ".toList
    · have letters : ∀ char ∈ "ABCDEFGHIJKLMNOPQRSTUVWXYZ".toList, (!Sql.isSpecial char.toLower) = true :=
        List.all_eq_true.mp rfl
      rw [sampleLower, if_pos capital] at special
      simpa [special] using letters char capital
    · rwa [sampleLower, if_neg capital] at special

def sampleRuntime : Runtime where
  date := Iso8601.read
  datetime text := (Iso8601.read text).isSome
  issue _ := none

def search : FilterNode :=
  .leaf (.text "provider" .contains "5%")

theorem compile_preserves_search : search.Fits sampleServer sampleRuntime ∧ ∀ row : Row sampleServer,
    evaluate sampleServer row ⟨"(provider ILIKE $3 ESCAPE '\\')", [.primitive (.text "%5\\%%")]⟩ 3 =
      .ok (search.truth sampleServer row sampleRuntime) := by
  have fits : search.Fits sampleServer sampleRuntime := by
    intro leaf member
    cases List.mem_singleton.mp member
    exact ⟨"provider", rfl, rfl⟩
  exact ⟨fits, (compile_preserves sampleServer sampleRuntime search 3 _ rfl).2.mpr fits⟩

/-- `NOT (tagged = internal)` -/
def untagged : FilterNode :=
  .not (.leaf (.compare "tag" .eq (.text "internal")))

/-- The tags of a transaction are an array, and a text is none. -/
theorem compile_forgets_tags : ¬∀ (server : Server) (runtime : Runtime) (node : FilterNode) (startIndex : ℕ)
    (compiled : CompiledFilter), 1 ≤ startIndex → compileFilterExpression runtime node startIndex = .ok compiled →
    compiled.Numbered startIndex ∧
      ∀ row, evaluate server row compiled startIndex = .ok (node.truth server row runtime) := by
  intro preserves
  have row : Row sampleServer := ⟨fun _ _ => none, none⟩
  have kept := (preserves sampleServer sampleRuntime untagged 1 ⟨"NOT (tags = $1)", [.primitive (.text "internal")]⟩
    (Nat.le_refl 1) rfl).2 row
  have failed : evaluate sampleServer row ⟨"NOT (tags = $1)", [.primitive (.text "internal")]⟩ 1 =
      .error .invalidInput := rfl
  rw [failed] at kept
  cases kept

end ProxyPay.TransactionFilters
