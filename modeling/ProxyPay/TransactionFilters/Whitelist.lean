import ProxyPay.TransactionFilters.Preservation

/-! The columns that a filter can name: a field is looked up in a table that has names of its own and those that
every object has. -/

namespace ProxyPay.TransactionFilters

open ProxyPay.Library
open Sql (Token Condition)

/-- The query compares columns that a filter may name with its parameters, and nothing else. -/
def CompiledFilter.Confined (compiled : CompiledFilter) : Prop :=
  ∃ tokens condition, Sql.lex compiled.sql = some tokens ∧ Sql.parse interpret tokens = some condition ∧
    ∀ predicate ∈ condition.atoms, predicate.Allowed

/-- A filter is refused with a word to the client, or it is confined. -/
def Guarded : Except FilterError CompiledFilter → Prop
  | .error error => ∃ message, error = .validation message
  | .ok compiled => compiled.Confined

/-! Where the compiler stops. -/

/-- The name of no field, and of nothing that is inherited. -/
def isUnknown (field : String) : Bool :=
  (ownField field).isNone && !inheritedNames.contains field

def isTemporal (field : String) : Bool :=
  (ownField field).any fun entry => entry.kind = .temporal

/-- The condition is refused with a message: for its field, for the want of a bound, or for a value that is no
number. -/
def FilterLeaf.refused : FilterLeaf → Bool
  | .range field min max => isUnknown field || (min.isNone && max.isNone)
  | .compare field _ value =>
    isUnknown field || ((ownField field).any (fun entry => entry.kind = .numeric) && !compileLeaf.isNumber value)
  | .text field _ _ => isUnknown field
  | .isIn field _ => isUnknown field
  | .dateRange field start stop => isUnknown field || ((Text.truthy start).isNone && (Text.truthy stop).isNone)
  | .keyExists _ _ => false

variable (runtime : Runtime)

/-- A date of the condition cannot be read. -/
def FilterLeaf.untimely : FilterLeaf → Bool
  | .compare field _ value => isTemporal field && (runtime.date value.spelled).isNone
  | .dateRange _ start stop =>
    (Text.truthy start).any (fun text => (runtime.date text).isNone) ||
      (Text.truthy stop).any fun text => (runtime.date text).isNone
  | _ => false

/-- The first condition that cannot be compiled is one that is refused; or there is none, and no field is
inherited. -/
def FilterNode.Safe (node : FilterNode) : Prop :=
  match node.leaves.find? fun leaf => leaf.refused || leaf.untimely runtime with
  | some first => first.refused = true
  | none => ∀ leaf ∈ node.leaves, ∀ field ∈ leaf.field, field ∉ inheritedNames

variable {runtime} {α β : Type}

/-- What comes of conditions that are compiled one after the other. -/
def Outcome (leaves : List FilterLeaf) (result : Except FilterError (α × Binder)) : Prop :=
  match leaves.find? fun leaf => leaf.refused || leaf.untimely runtime with
  | none => ∃ value, result = .ok value
  | some leaf => if leaf.refused then ∃ message, result = .error (.validation message) else result = .error .invalidTime

variable {binder : Binder}

theorem Outcome.bind {first : Compiler α} {next : α → Compiler β} {leaves others : List FilterLeaf}
    (before : @Outcome runtime _ leaves (first binder))
    (after : ∀ value between, first binder = .ok (value, between) → @Outcome runtime _ others (next value between)) :
    @Outcome runtime _ (leaves ++ others) ((first >>= next) binder) := by
  have unfolded : (first >>= next) binder = (first binder).bind fun pair => next pair.1 pair.2 := rfl
  unfold Outcome at before ⊢
  rw [unfolded, List.find?_append]
  cases found : leaves.find? fun leaf => leaf.refused || leaf.untimely runtime with
  | none =>
    rw [found] at before
    obtain ⟨⟨value, between⟩, done⟩ := before
    rw [done]
    exact after value between done
  | some leaf =>
    rw [found] at before
    show if leaf.refused then _ else _
    by_cases refused : leaf.refused = true
    · simp only [refused, if_true] at before ⊢
      obtain ⟨message, failed⟩ := before
      exact ⟨message, by rw [failed]; rfl⟩
    · simp only [refused] at before ⊢
      have failed : first binder = .error .invalidTime := before
      rw [failed]
      rfl

theorem Outcome.pure (value : α) (binder : Binder) : @Outcome runtime _ [] ((Pure.pure value : Compiler α) binder) :=
  ⟨_, rfl⟩

variable {leaf : FilterLeaf} {result : Except FilterError (α × Binder)}

theorem outcome_one (refused : leaf.refused = true → ∃ message, result = .error (.validation message))
    (untimely : leaf.refused = false → leaf.untimely runtime = true → result = .error .invalidTime)
    (passes : leaf.refused = false → leaf.untimely runtime = false → ∃ value, result = .ok value) :
    @Outcome runtime _ [leaf] result := by
  unfold Outcome
  rw [List.find?_cons]
  cases first : leaf.refused with
  | true => simp_all
  | false => grind

variable {field : String}

theorem resolve_unknown (unknown : isUnknown field = true) : resolveField field = .error (unknownField field) := by
  obtain ⟨own, inherited⟩ := Bool.and_eq_true_iff.mp unknown
  have absent : field ∉ inheritedNames := by simpa using inherited
  unfold resolveField
  rw [Option.isNone_iff_eq_none.mp own]
  exact if_neg absent

theorem resolve_known (known : isUnknown field = false) :
    ∃ resolved, resolveField field = .ok resolved ∧ resolved.kind = (ownField field).map FilterableField.kind := by
  unfold resolveField
  cases own : ownField field with
  | some entry => exact ⟨_, rfl, rfl⟩
  | none => simp_all [isUnknown]

theorem outcome_field {next : ResolvedField → Compiler String} (unknown : isUnknown field = true → leaf.refused = true)
    (rest : isUnknown field = false → ∀ resolved, resolveField field = .ok resolved →
      resolved.kind = (ownField field).map FilterableField.kind → @Outcome runtime _ [leaf] (next resolved binder)) :
    @Outcome runtime _ [leaf] ((liftM (resolveField field) >>= next : Compiler String) binder) := by
  cases known : isUnknown field with
  | true =>
    have failed : (liftM (resolveField field) >>= next : Compiler String) binder = .error (unknownField field) := by
      rw [resolve_unknown known]
      rfl
    rw [failed]
    apply outcome_one
    · intro _
      exact ⟨_, rfl⟩
    · simp_all
    · simp_all
  | false =>
    obtain ⟨resolved, found, kind⟩ := resolve_known known
    have step : (liftM (resolveField field) >>= next : Compiler String) binder = next resolved binder := by
      rw [found]
      rfl
    rw [step]
    exact rest known resolved found kind

theorem outcome_plain (accepted : leaf.refused = false)
    (timely : leaf.untimely runtime = false) (done : ∃ value, result = .ok value) :
    @Outcome runtime _ [leaf] result := by
  apply outcome_one
  · simp_all
  · simp_all
  · intro _ _
    exact done

theorem compare_outcome (field : String) (operator : FilterOperator) (value : FilterPrimitive) (binder : Binder) :
    @Outcome runtime _ [.compare field operator value]
      (compileLeaf runtime (.compare field operator value) binder) := by
  apply outcome_field
  · intro unknown
    rw [FilterLeaf.refused, unknown, Bool.true_or]
  · intro known resolved _ kind
    have numeric : decide (resolved.kind = some .numeric) =
        (ownField field).any fun entry => entry.kind = .numeric := by
      rw [kind]
      cases ownField field <;> simp
    have temporal : resolved.kind = some .temporal ↔ isTemporal field = true := by
      rw [kind, isTemporal]
      cases ownField field <;> simp
    have refused : (FilterLeaf.compare field operator value).refused =
        (decide (resolved.kind = some .numeric) && !compileLeaf.isNumber value) := by
      rw [FilterLeaf.refused, known, Bool.false_or, numeric]
    show @Outcome runtime _ _ ((if decide (resolved.kind = some .numeric) && !compileLeaf.isNumber value then _
      else if resolved.kind = some .temporal then _ else _ : Compiler String) binder)
    by_cases wrong : (decide (resolved.kind = some .numeric) && !compileLeaf.isNumber value) = true
    · rw [if_pos wrong]
      apply outcome_one
      · intro _
        exact ⟨_, rfl⟩
      · simp_all
      · simp_all
    · rw [if_neg wrong]
      have accepted := refused.trans (Bool.eq_false_iff.mpr wrong)
      by_cases dated : resolved.kind = some .temporal
      · rw [if_pos dated]
        have untimely : (FilterLeaf.compare field operator value).untimely runtime =
            (runtime.date value.spelled).isNone := by
          rw [FilterLeaf.untimely, temporal.mp dated, Bool.true_and]
        cases read : runtime.date value.spelled with
        | none =>
          apply outcome_one
          · simp_all
          · intro _ _
            show (isoText runtime value.spelled >>= _ : Compiler String) binder = _
            unfold isoText
            rw [read]
            rfl
          · simp_all
        | some instant =>
          apply outcome_plain accepted
          · rw [untimely, read]
            rfl
          · show ∃ result, (isoText runtime value.spelled >>= _ : Compiler String) binder = _
            unfold isoText
            rw [read]
            exact ⟨_, rfl⟩
      · rw [if_neg dated]
        apply outcome_plain accepted
        · rw [FilterLeaf.untimely, Bool.eq_false_iff.mpr (fun also => dated (temporal.mpr also)), Bool.false_and]
        · exact ⟨_, rfl⟩

theorem range_outcome (field : String) (min max : Option Float) (binder : Binder) :
    @Outcome runtime _ [.range field min max] (compileLeaf runtime (.range field min max) binder) := by
  apply outcome_field
  · intro unknown
    rw [FilterLeaf.refused, unknown, Bool.true_or]
  · intro known resolved _ _
    have refused : (FilterLeaf.range field min max).refused = (min.isNone && max.isNone) := by
      rw [FilterLeaf.refused, known, Bool.false_or]
    show @Outcome runtime _ _ ((if min.isNone && max.isNone then _ else _ : Compiler String) binder)
    by_cases unbounded : (min.isNone && max.isNone) = true
    · rw [if_pos unbounded]
      apply outcome_one
      · intro _
        exact ⟨_, rfl⟩
      · nofun
      · simp_all
    · rw [if_neg unbounded]
      apply outcome_plain (refused.trans (Bool.eq_false_iff.mpr unbounded)) rfl
      cases min <;> cases max <;> exact ⟨_, rfl⟩

theorem isoText_outcome (text : String) (binder : Binder) :
    isoText runtime text binder = .error .invalidTime ∧ (runtime.date text).isNone = true ∨
      ∃ iso, isoText runtime text binder = .ok (iso, binder) ∧ (runtime.date text).isNone = false := by
  unfold isoText
  cases runtime.date text with
  | none => exact .inl ⟨rfl, rfl⟩
  | some instant => exact .inr ⟨_, rfl, rfl⟩

theorem bound_outcome (column operator : String) (text : Option String) (binder : Binder) :
    bound column operator (text.map fun text => return .primitive (.text (← isoText runtime text))) binder =
        .error .invalidTime ∧ text.any (fun text => (runtime.date text).isNone) = true ∨
      ∃ value, bound column operator (text.map fun text => return .primitive (.text (← isoText runtime text))) binder =
        .ok value ∧ text.any (fun text => (runtime.date text).isNone) = false := by
  cases text with
  | none => exact .inr ⟨_, rfl, rfl⟩
  | some text =>
    have unfolded : bound column operator (some (do return .primitive (.text (← isoText runtime text)))) binder =
        (isoText runtime text binder).bind fun pair =>
          .ok ([column ++ " " ++ operator ++ " " ++ placeholder pair.2.nextIndex],
            ⟨pair.2.params ++ [.primitive (.text pair.1)], pair.2.nextIndex + 1⟩) := by
      show ((isoText runtime text binder).bind _).bind _ = _
      cases isoText runtime text binder <;> rfl
    rw [Option.map_some, unfolded]
    rcases isoText_outcome text binder with ⟨failed, unread⟩ | ⟨iso, read, readable⟩
    · left
      rw [failed]
      exact ⟨rfl, unread⟩
    · right
      rw [read]
      exact ⟨_, rfl, readable⟩

theorem dateRange_outcome (field : String) (start stop : Option String) (binder : Binder) :
    @Outcome runtime _ [.dateRange field start stop] (compileLeaf runtime (.dateRange field start stop) binder) := by
  apply outcome_field
  · intro unknown
    rw [FilterLeaf.refused, unknown, Bool.true_or]
  · intro known resolved _ _
    have refused : (FilterLeaf.dateRange field start stop).refused =
        ((Text.truthy start).isNone && (Text.truthy stop).isNone) := by
      rw [FilterLeaf.refused, known, Bool.false_or]
    show @Outcome runtime _ _
      ((if (Text.truthy start).isNone && (Text.truthy stop).isNone then _ else _ : Compiler String) binder)
    by_cases unbounded : ((Text.truthy start).isNone && (Text.truthy stop).isNone) = true
    · rw [if_pos unbounded]
      apply outcome_one
      · intro _
        exact ⟨_, rfl⟩
      · simp_all
      · simp_all
    · rw [if_neg unbounded]
      have accepted := refused.trans (Bool.eq_false_iff.mpr unbounded)
      have untimely : (FilterLeaf.dateRange field start stop).untimely runtime =
        ((Text.truthy start).any (fun text => (runtime.date text).isNone) ||
          (Text.truthy stop).any fun text => (runtime.date text).isNone) := rfl
      have fails {result : Except FilterError (String × Binder)} (failed : result = .error .invalidTime)
          (late : (FilterLeaf.dateRange field start stop).untimely runtime = true) :
          @Outcome runtime _ [.dateRange field start stop] result := by
        apply outcome_one
        · simp_all
        · intro _ _
          exact failed
        · simp_all
      rcases bound_outcome resolved.column ">=" (Text.truthy start) binder with ⟨failed, unread⟩ | ⟨lower, read, early⟩
      · apply fails
        · show (bound _ _ _ binder).bind _ = _
          rw [failed]
          rfl
        · rw [untimely, unread, Bool.true_or]
      · rcases bound_outcome resolved.column "<=" (Text.truthy stop) lower.2 with ⟨failed, unread⟩ | ⟨upper, last, late⟩
        · apply fails
          · show (bound _ _ _ binder).bind (fun pair => (bound _ _ _ pair.2).bind _) = _
            rw [read]
            show (bound _ _ _ lower.2).bind _ = _
            rw [failed]
            rfl
          · rw [untimely, unread, Bool.or_true]
        · apply outcome_plain accepted
          · rw [untimely, early, late]
            rfl
          · show ∃ value, (bound _ _ _ binder).bind (fun pair => (bound _ _ _ pair.2).bind _) = _
            rw [read]
            show ∃ value, (bound _ _ _ lower.2).bind _ = _
            rw [last]
            exact ⟨_, rfl⟩

theorem leaf_outcome (leaf : FilterLeaf) (binder : Binder) :
    @Outcome runtime _ [leaf] (compileLeaf runtime leaf binder) := by
  cases leaf with
  | range field min max => exact range_outcome field min max binder
  | compare field operator value => exact compare_outcome field operator value binder
  | text field operator value =>
    apply outcome_field
    · exact id
    · intro known resolved _ _
      have accepted : (FilterLeaf.text field operator value).refused = false := known
      apply outcome_plain accepted rfl
      cases operator <;> exact ⟨_, rfl⟩
  | isIn field values =>
    apply outcome_field
    · exact id
    · intro known resolved _ _
      have accepted : (FilterLeaf.isIn field values).refused = false := known
      exact outcome_plain accepted rfl ⟨_, rfl⟩
  | dateRange field start stop => exact dateRange_outcome field start stop binder
  | keyExists metadataKey value =>
    apply outcome_plain rfl rfl
    cases value <;> exact ⟨_, rfl⟩

theorem compileAll_outcome {nodes : List FilterNode}
    (each : ∀ node ∈ nodes, ∀ binder, @Outcome runtime _ node.leaves (compile runtime node binder)) (binder : Binder) :
    @Outcome runtime _ (FilterNode.allLeaves nodes) (compileAll runtime nodes binder) := by
  induction nodes generalizing binder with
  | nil => exact Outcome.pure [] binder
  | cons node rest ih =>
    rw [FilterNode.allLeaves]
    apply Outcome.bind (each node List.mem_cons_self binder)
    intro first between _
    rw [← List.append_nil (FilterNode.allLeaves rest)]
    apply Outcome.bind (ih (fun other member => each other (List.mem_cons_of_mem _ member)) between)
    intro others after _
    exact Outcome.pure (first :: others) after

theorem compile_outcome (node : FilterNode) :
    ∀ binder, @Outcome runtime _ node.leaves (compile runtime node binder) := by
  induction node using FilterNode.each with
  | junction joiner first rest here there =>
    intro binder
    rw [FilterNode.leaves]
    apply Outcome.bind (here binder)
    intro one between _
    rw [← List.append_nil (FilterNode.allLeaves rest)]
    apply Outcome.bind (compileAll_outcome there between)
    intro others after _
    exact Outcome.pure _ after
  | not condition ih =>
    intro binder
    rw [FilterNode.leaves, ← List.append_nil condition.leaves]
    apply Outcome.bind (ih binder)
    intro text after _
    exact Outcome.pure _ after
  | leaf leaf =>
    intro binder
    exact leaf_outcome leaf binder

theorem own_apart : ∀ name ∈ inheritedNames, ownField name = none := by
  decide

theorem confined_iff {node : FilterNode} {startIndex : ℕ} {compiled : CompiledFilter}
    (compiles : compileFilterExpression runtime node startIndex = .ok compiled) :
    compiled.Confined ↔ ∀ leaf ∈ node.leaves, leaf.Own := by
  obtain ⟨⟨sql, after⟩, returned, same⟩ := bind_ok.mp compiles
  cases same
  obtain ⟨params, _, sound⟩ := @compile_spec sampleServer runtime node ⟨[], startIndex⟩ after sql returned
  obtain ⟨tokens, condition, ends, primary, _, columns, _⟩ := sound.out
  have lexed := Sql.lex_of_ends ends
  have parsed := Sql.parse_of_primary primary
  rw [← columns]
  constructor
  · intro confined
    obtain ⟨other, read, first, second, allowed⟩ := confined
    rw [lexed] at first
    cases first
    rw [parsed] at second
    cases second
    exact allowed
  · intro allowed
    exact ⟨tokens, condition, lexed, parsed, allowed⟩

theorem own_iff_not_inherited (accepted : leaf.refused = false) :
    leaf.Own ↔ ∀ field ∈ leaf.field, field ∉ inheritedNames := by
  have known : ∀ field ∈ leaf.field, isUnknown field = false := by
    intro field named
    cases leaf with
    | keyExists metadataKey value => cases named
    | text other operator value =>
      cases named
      exact accepted
    | isIn other values =>
      cases named
      exact accepted
    | range other min max =>
      cases named
      exact (Bool.or_eq_false_iff.mp accepted).1
    | compare other operator value =>
      cases named
      exact (Bool.or_eq_false_iff.mp accepted).1
    | dateRange other start stop =>
      cases named
      exact (Bool.or_eq_false_iff.mp accepted).1
  constructor
  · intro own field named inherited
    have some_entry := own field named
    rw [own_apart field inherited] at some_entry
    cases some_entry
  · intro apart field named
    cases found : ownField field with
    | some entry => rfl
    | none => simp_all [isUnknown]

/-- A filter is refused or confined just where the first condition that cannot be compiled is a refused one, or
where all can be compiled and none has an inherited name. -/
theorem compile_guarded (runtime : Runtime) (node : FilterNode) (startIndex : ℕ) :
    Guarded (compileFilterExpression runtime node startIndex) ↔ node.Safe runtime := by
  have outcome := @compile_outcome runtime node ⟨[], startIndex⟩
  have unfolded : compileFilterExpression runtime node startIndex =
      (compile runtime node ⟨[], startIndex⟩).bind fun pair => .ok ⟨pair.1, pair.2.params⟩ := rfl
  unfold Outcome at outcome
  unfold FilterNode.Safe
  cases found : node.leaves.find? fun leaf => leaf.refused || leaf.untimely runtime with
  | some leaf =>
    rw [found] at outcome
    show _ ↔ leaf.refused = true
    by_cases refused : leaf.refused = true
    · simp only [refused, if_true] at outcome
      obtain ⟨message, failed⟩ := outcome
      rw [unfolded, failed]
      exact iff_of_true ⟨message, rfl⟩ refused
    · simp only [refused] at outcome
      have failed : compile runtime node ⟨[], startIndex⟩ = .error .invalidTime := outcome
      rw [unfolded, failed]
      refine iff_of_false ?_ refused
      intro guarded
      obtain ⟨message, same⟩ := guarded
      cases same
  | none =>
    rw [found] at outcome
    obtain ⟨⟨sql, after⟩, returned⟩ := outcome
    have compiles : compileFilterExpression runtime node startIndex = .ok ⟨sql, after.params⟩ := by
      rw [unfolded, returned]
      rfl
    rw [compiles]
    show CompiledFilter.Confined _ ↔ ∀ leaf ∈ node.leaves, ∀ field ∈ leaf.field, field ∉ inheritedNames
    rw [confined_iff compiles]
    have accepted : ∀ leaf ∈ node.leaves, leaf.refused = false := by
      intro leaf member
      have passes := List.find?_eq_none.mp found leaf member
      exact (Bool.or_eq_false_iff.mp (Bool.eq_false_iff.mpr passes)).1
    constructor
    · intro own leaf member
      exact (own_iff_not_inherited (accepted leaf member)).mp (own leaf member)
    · intro apart leaf member
      exact (own_iff_not_inherited (accepted leaf member)).mpr (apart leaf member)

/-- What a client sends to compare the field that every object inherits. -/
def inheritedFilter : Json :=
  .object [("type", .string "compare"), ("field", .string "constructor"), ("operator", .string "eq"),
    ("value", .string "x")]

theorem compile_unguarded : ¬∀ (runtime : Runtime) (input : Json) (node : FilterNode) (startIndex : ℕ),
    parseFilterExpression runtime input = .ok node → Guarded (compileFilterExpression runtime node startIndex) := by
  intro guarded
  have confined : CompiledFilter.Confined ⟨"(undefined = $1)", [.primitive (.text "x")]⟩ :=
    guarded sampleRuntime inheritedFilter (.leaf (.compare "constructor" .eq (.text "x"))) 1 rfl
  obtain ⟨tokens, condition, lexed, parsed, allowed⟩ := confined
  have known : Sql.lex "(undefined = $1)" =
      some [.opening, .word "undefined", .symbol "=", .parameter 1, .closing] := rfl
  rw [known] at lexed
  cases lexed
  have read : Sql.parse interpret [.opening, .word "undefined", .symbol "=", .parameter 1, .closing] =
      some (.atom (.compare "undefined" false .eq 1)) := rfl
  rw [read] at parsed
  cases parsed
  have column : "undefined" ∈ FILTERABLE_FIELDS.map FilterableField.column := allowed _ List.mem_cons_self
  exact absurd column (by decide)

end ProxyPay.TransactionFilters
