import ProxyPay.TransactionFilters.Templates

/-! An import stores the templates one after another, each under the first name that is free. It stores all of them
or none exactly where each can be created, or the first one is refused before it is stored. -/

namespace ProxyPay.TransactionFilters

open ProxyPay.Library

/-! The names. -/

variable (name : String)

theorem toList_importedName (suffix : ℕ) : (importedName name (suffix + 2)).toList =
    name.toList ++ (" (imported ".toList ++ (Nat.toDigits 10 (suffix + 2) ++ ")".toList)) := by
  have digits : (toString (suffix + 2)).toList = Nat.toDigits 10 (suffix + 2) := Nat.toList_repr
  show (name ++ " (imported " ++ toString (suffix + 2) ++ ")").toList = _
  rw [String.toList_append, String.toList_append, String.toList_append, digits, List.append_assoc, List.append_assoc]

theorem importedName_ne (suffix : ℕ) : importedName name 1 ≠ importedName name (suffix + 2) := by
  intro same
  have lists := congrArg String.toList same
  rw [toList_importedName, importedName, String.toList_append, List.append_cancel_left_eq] at lists
  have eleventh : some ')' = some ' ' := congrArg (·[10]?) lists
  cases eleventh

theorem importedName_injective : Function.Injective (importedName name) := by
  have own (index : ℕ) : name ≠ importedName name (index + 1) := by
    intro same
    have lists := congrArg String.toList same
    match index with
    | 0 =>
      rw [importedName, String.toList_append, List.self_eq_append_right] at lists
      cases lists
    | suffix + 1 =>
      rw [toList_importedName, List.self_eq_append_right] at lists
      cases lists
  intro one other same
  match one, other with
  | 0, 0 => rfl
  | 0, index + 1 => exact absurd same (own index)
  | index + 1, 0 => exact absurd same.symm (own index)
  | 1, 1 => rfl
  | 1, suffix + 2 => exact absurd same (importedName_ne name suffix)
  | suffix + 2, 1 => exact absurd same.symm (importedName_ne name suffix)
  | one + 2, other + 2 =>
    have lists := congrArg String.toList same
    rw [toList_importedName, toList_importedName] at lists
    have digits := List.append_cancel_right (List.append_cancel_left (List.append_cancel_left lists))
    have numbers := congrArg (Text.natural 10) digits
    rwa [Text.natural_toDigits, Text.natural_toDigits] at numbers

/-- The name under which a template is imported: the first that is free. -/
def NamedBy (existing : List String) (name found : String) : Prop :=
  Fresh.IsFirst existing (importedName name) found

theorem uniqueName_returns {existing : List String} {name found : String} (named : NamedBy existing name found) :
    ∃ least, ∀ rounds ≥ least, ∃ changed, uniqueName rounds existing name = some (found, changed) := by
  by_cases taken : name ∈ existing
  · have before : ∀ earlier < 1, importedName name earlier ∈ existing := by
      intro earlier less
      rw [Nat.lt_one_iff.mp less]
      exact taken
    obtain ⟨least, finds⟩ := Fresh.search_finds named before
    refine ⟨least, ?_⟩
    intro rounds enough
    refine ⟨true, ?_⟩
    rw [uniqueName, if_pos taken, finds rounds enough]
    rfl
  · have own : NamedBy existing name name := ⟨0, rfl, taken, by
      intro before none
      cases none⟩
    rw [named.unique own]
    refine ⟨0, ?_⟩
    intro rounds _
    exact ⟨false, if_neg taken⟩

/-- The templates of a payload under the names they get: each is free of those before and of the earlier ones. -/
inductive Named : List String → List FilterTemplateInput → List FilterTemplateInput → Prop
  | nil (existing : List String) : Named existing [] []
  | cons {existing : List String} {template : FilterTemplateInput} {name : String}
      {rest named : List FilterTemplateInput} (found : NamedBy existing template.name name)
      (later : Named (name :: existing) rest named) :
      Named existing (template :: rest) ({ template with name := name } :: named)

namespace Named

variable {existing : List String} {templates named : List FilterTemplateInput}

theorem total (existing : List String) (templates : List FilterTemplateInput) : ∃ named, Named existing templates named := by
  induction templates generalizing existing with
  | nil => exact ⟨[], .nil existing⟩
  | cons template rest ih =>
    obtain ⟨name, found⟩ : ∃ name, NamedBy existing template.name name :=
      Fresh.exists_first (importedName_injective template.name)
    obtain ⟨named, later⟩ := ih (name :: existing)
    exact ⟨_, .cons found later⟩

section

variable (all : Named existing templates named)

include all

theorem fresh : ∀ input ∈ named, input.name ∉ existing := by
  induction all with
  | nil existing => nofun
  | cons found later ih =>
    intro input member
    rcases List.mem_cons.mp member with rfl | behind
    · obtain ⟨index, rfl, free, before⟩ := found
      exact free
    · exact fun taken => ih input behind (List.mem_cons_of_mem _ taken)

theorem length_eq : named.length = templates.length := by
  induction all with
  | nil existing => rfl
  | cons found later ih => exact congrArg (· + 1) ih

theorem distinct : (named.map FilterTemplateInput.name).Nodup := by
  induction all with
  | nil existing => exact List.nodup_nil
  | cons found later ih =>
    rw [List.map_cons, List.nodup_cons]
    refine ⟨?_, ih⟩
    intro again
    obtain ⟨input, member, same⟩ := List.mem_map.mp again
    apply later.fresh input member
    rw [same]
    exact List.mem_cons_self

end

end Named

/-! One template. -/

section

variable (runtime : Runtime) (server : TemplateServer) (owner : Option String)

/-- A template can be stored. -/
def Storable (table : Templates) (input : FilterTemplateInput) : Prop :=
  ∃ row, prepare runtime server owner input = .ok row ∧ server.accepts row = true ∧
    row.key ∉ table.rows.map FilterTemplate.key

/-- A template can be stored and its owner can see it. -/
def Creatable (table : Templates) (input : FilterTemplateInput) : Prop :=
  Storable runtime server owner table input ∧ (owner.isSome ∨ input.isShared = true)

/-- The row is what a template says, with a number. -/
def MadeOf (input : FilterTemplateInput) (row : FilterTemplate) : Prop :=
  ∃ prepared, prepare runtime server owner input = .ok prepared ∧ row = { prepared with id := row.id }

end

variable {runtime : Runtime} {server : TemplateServer} {owner : Option String} {table : Templates}
  {input : FilterTemplateInput} {row : FilterTemplate}

theorem prepare_ok (made : prepare runtime server owner input = .ok row) :
    row.name = input.name ∧ row.ownerId = owner ∧ row.isShared = input.isShared ∧ row.isSystem = false := by
  obtain ⟨parsed, schema, made⟩ := bind_ok.mp made
  obtain ⟨expression, _, made⟩ := bind_ok.mp made
  have same : input = parsed := by grind [FilterTemplateSchema]
  subst same
  cases made
  exact ⟨rfl, rfl, rfl, rfl⟩

theorem visible_made (made : prepare runtime server owner input = .ok row) :
    row.visible owner = (owner.isSome || input.isShared) := by
  obtain ⟨_, owned, shared, system⟩ := prepare_ok made
  unfold FilterTemplate.visible
  rw [owned, shared, system, Bool.or_false]
  cases owner with
  | none => rfl
  | some owner => simp

namespace Templates

theorem insert_free {template : FilterTemplate} (free : template.key ∉ table.rows.map FilterTemplate.key) :
    ∃ grown, table.insert template = some ({ template with id := table.next }, grown) ∧
      grown.rows = table.rows ++ [{ template with id := table.next }] :=
  ⟨_, dif_pos free, rfl⟩

theorem insert_taken {template : FilterTemplate} (taken : ¬template.key ∉ table.rows.map FilterTemplate.key) :
    table.insert template = none :=
  dif_neg taken

end Templates

theorem getFilterTemplate_new (owner : Option String) {grown : Templates} (rows : grown.rows = table.rows ++ [row])
    (number : row.id = table.next) :
    getFilterTemplate grown row.id owner = if row.visible owner then some row else none := by
  have before : ∀ old ∈ table.rows, ¬(old.id = row.id && old.visible owner) = true := by
    intro old member
    have less := table.numbered old member
    have other : old.id ≠ row.id := by omega
    simp [other]
  have absent := List.find?_eq_none.mpr before
  unfold getFilterTemplate
  rw [rows, List.find?_append, absent, Option.none_or, List.find?_singleton]
  simp

theorem createFilterTemplate_cases : ∃ result grown,
    createFilterTemplate runtime server owner input table = (result, grown) ∧
      (¬Storable runtime server owner table input ∧ (∃ error, result = .error error) ∧ grown.rows = table.rows ∨
        Storable runtime server owner table input ∧ ¬Creatable runtime server owner table input ∧
          (∃ error, result = .error error) ∧ (∃ row, grown.rows = table.rows ++ [row]) ∨
        Creatable runtime server owner table input ∧ ∃ row, result = .ok row ∧ grown.rows = table.rows ++ [row] ∧
          MadeOf runtime server owner input row) := by
  unfold createFilterTemplate
  cases made : prepare runtime server owner input with
  | error error =>
    refine ⟨_, _, rfl, .inl ⟨?_, ⟨error, rfl⟩, rfl⟩⟩
    intro storable
    obtain ⟨row, known, _⟩ := storable
    cases made.symm.trans known
  | ok row =>
    by_cases accepted : server.accepts row = true
    · by_cases free : row.key ∉ table.rows.map FilterTemplate.key
      · obtain ⟨grown, inserted, rows⟩ := Templates.insert_free free
        have storable : Storable runtime server owner table input := ⟨row, made, accepted, free⟩
        have found := getFilterTemplate_new owner rows rfl
        have shown := visible_made made
        have seen : FilterTemplate.visible owner { row with id := table.next } = (owner.isSome || input.isShared) := shown
        simp only [accepted, Bool.not_true, Bool.false_eq_true, if_false, inserted]
        rw [found, seen]
        by_cases visible : owner.isSome ∨ input.isShared = true
        · rw [if_pos (Bool.or_eq_true_iff.mpr visible)]
          exact ⟨_, _, rfl, .inr (.inr ⟨⟨storable, visible⟩, _, rfl, rows, row, made, rfl⟩)⟩
        · rw [if_neg (fun either => visible (Bool.or_eq_true_iff.mp either))]
          exact ⟨_, _, rfl, .inr (.inl ⟨storable, fun creatable => visible creatable.2, ⟨_, rfl⟩, _, rows⟩)⟩
      · simp only [accepted, Bool.not_true, Bool.false_eq_true, if_false, Templates.insert_taken free]
        refine ⟨_, _, rfl, .inl ⟨?_, ⟨_, rfl⟩, rfl⟩⟩
        intro storable
        obtain ⟨other, known, _, open_too⟩ := storable
        cases made.symm.trans known
        exact free open_too
    · simp only [Bool.eq_false_iff.mpr accepted, Bool.not_false, if_true]
      refine ⟨_, _, rfl, .inl ⟨?_, ⟨_, rfl⟩, rfl⟩⟩
      intro storable
      obtain ⟨other, known, taken, _⟩ := storable
      cases made.symm.trans known
      exact accepted taken

/-! The import. -/

/-- The key of a row of this owner is taken at first or by a name that is known. -/
def Grown (owner : Option String) (table grown : Templates) (existing : List String) : Prop :=
  ∀ name ∉ existing, (owner.getD "system", name) ∈ grown.rows.map FilterTemplate.key ↔
    (owner.getD "system", name) ∈ table.rows.map FilterTemplate.key

theorem key_made (made : prepare runtime server owner input = .ok row) :
    row.key = (owner.getD "system", input.name) := by
  obtain ⟨name, owned, _⟩ := prepare_ok made
  rw [FilterTemplate.key, name, owned]

theorem Grown.storable {grown : Templates} {existing : List String} (same : Grown owner table grown existing)
    (free : input.name ∉ existing) :
    Storable runtime server owner grown input ↔ Storable runtime server owner table input := by
  constructor
  · intro storable
    obtain ⟨row, made, accepted, open_too⟩ := storable
    refine ⟨row, made, accepted, ?_⟩
    rw [key_made made] at open_too ⊢
    exact fun taken => open_too ((same _ free).mpr taken)
  · intro storable
    obtain ⟨row, made, accepted, open_too⟩ := storable
    refine ⟨row, made, accepted, ?_⟩
    rw [key_made made] at open_too ⊢
    exact fun taken => open_too ((same _ free).mp taken)

theorem Grown.add {grown more : Templates} {existing : List String} (same : Grown owner table grown existing)
    (made : MadeOf runtime server owner input row) (rows : more.rows = grown.rows ++ [row]) :
    Grown owner table more (input.name :: existing) := by
  obtain ⟨prepared, made, whole⟩ := made
  have keyed := key_made made
  have key : row.key = (owner.getD "system", input.name) := by
    rw [whole]
    exact keyed
  intro name free
  obtain ⟨other, unknown⟩ := not_or.mp (fun either => free (List.mem_cons.mpr either))
  rw [← same name unknown, rows, List.map_append, List.mem_append, List.map_singleton, List.mem_singleton, key]
  constructor
  · intro either
    rcases either with old | new
    · exact old
    · exact absurd (Prod.mk.inj new).2 other
  · exact Or.inl

/-- All templates are stored where each can be created; else some error is thrown, and nothing is stored only where
the first template cannot be. -/
def Follows (runtime : Runtime) (server : TemplateServer) (owner : Option String) (table : Templates)
    (inputs : List FilterTemplateInput) (created : List FilterTemplate) (grown : Templates)
    (outcome : Except TemplateError ImportedTemplates × Templates) : Prop :=
  ∃ rows, outcome.2.rows = grown.rows ++ rows ∧
    ((∀ input ∈ inputs, Creatable runtime server owner table input) ∧
        List.Forall₂ (MadeOf runtime server owner) inputs rows ∧
        (∃ renamed, outcome.1 = .ok ⟨(created ++ rows).length, renamed, created ++ rows⟩) ∨
      (¬∀ input ∈ inputs, Creatable runtime server owner table input) ∧ (∃ error, outcome.1 = .error error) ∧
        (rows = [] ↔ ∃ first ∈ inputs.head?, ¬Storable runtime server owner table first))

/-- How an import goes on with what the creation of a template returned. -/
def importRest (runtime : Runtime) (server : TemplateServer) (owner : Option String) (rounds : ℕ)
    (existing : List String) (rest : List FilterTemplateInput) (renamed : ℕ) (created : List FilterTemplate) :
    Except TemplateError FilterTemplate × Templates → Option (Except TemplateError ImportedTemplates × Templates)
  | (.error error, table) => some (.error error, table)
  | (.ok row, table) => importTemplates runtime server owner rounds existing rest renamed (created ++ [row]) table

theorem importTemplates_follows {existing : List String} {templates inputs : List FilterTemplateInput}
    (named : Named existing templates inputs) {grown : Templates} (same : Grown owner table grown existing) :
    ∃ least, ∀ rounds ≥ least, ∀ renamed created, ∃ outcome,
      importTemplates runtime server owner rounds existing templates renamed created grown = some outcome ∧
        Follows runtime server owner table inputs created grown outcome := by
  induction named generalizing grown with
  | nil existing =>
    refine ⟨0, ?_⟩
    intro rounds _ renamed created
    refine ⟨_, rfl, [], (List.append_nil _).symm, .inl ⟨fun input member => (nomatch member), .nil, renamed, ?_⟩⟩
    rw [List.append_nil]
  | @cons existing template name rest inputs found later ih =>
    have free : name ∉ existing := (Named.cons found later).fresh _ List.mem_cons_self
    obtain ⟨least, returns⟩ := uniqueName_returns found
    obtain ⟨result, more, creates, cases⟩ := @createFilterTemplate_cases runtime server owner grown
      { template with name := name }
    have storable : Storable runtime server owner grown { template with name := name } ↔
        Storable runtime server owner table { template with name := name } := same.storable free
    have creatable : Creatable runtime server owner grown { template with name := name } ↔
        Creatable runtime server owner table { template with name := name } := and_congr_left' storable
    have starts (rounds renamed : ℕ) (created : List FilterTemplate) (enough : rounds ≥ least) : ∃ sofar,
        importTemplates runtime server owner rounds existing (template :: rest) renamed created grown =
          importRest runtime server owner rounds (name :: existing) rest sofar created (result, more) := by
      obtain ⟨changed, returned⟩ := returns rounds enough
      refine ⟨renamed + changed.toNat, ?_⟩
      rw [importTemplates, returned, ← creates]
      rfl
    rcases cases with ⟨refused, ⟨error, rfl⟩, rows⟩ | ⟨stored, hidden, ⟨error, rfl⟩, row, rows⟩ |
        ⟨visible, row, rfl, rows, made⟩
    · refine ⟨least, ?_⟩
      intro rounds enough renamed created
      obtain ⟨sofar, started⟩ := starts rounds renamed created enough
      refine ⟨_, started, [], by rw [rows, List.append_nil], .inr ⟨?_, ⟨error, rfl⟩, ?_⟩⟩
      · intro all
        exact refused (storable.mpr (all _ List.mem_cons_self).1)
      · exact iff_of_true rfl ⟨_, rfl, fun storing => refused (storable.mpr storing)⟩
    · refine ⟨least, ?_⟩
      intro rounds enough renamed created
      obtain ⟨sofar, started⟩ := starts rounds renamed created enough
      refine ⟨_, started, [row], rows, .inr ⟨?_, ⟨error, rfl⟩, ?_⟩⟩
      · intro all
        exact hidden (creatable.mpr (all _ List.mem_cons_self))
      · refine iff_of_false (List.cons_ne_nil _ _) ?_
        intro first
        obtain ⟨input, head, refused⟩ := first
        cases head
        exact refused (storable.mp stored)
    · obtain ⟨least_later, goes⟩ := ih (same.add made rows)
      refine ⟨max least least_later, ?_⟩
      intro rounds enough renamed created
      obtain ⟨sofar, started⟩ := starts rounds renamed created (le_of_max_le_left enough)
      obtain ⟨outcome, ended, others, stored, follows⟩ :=
        goes rounds (le_of_max_le_right enough) sofar (created ++ [row])
      refine ⟨outcome, started.trans ended, row :: others, ?_, ?_⟩
      · rw [stored, rows, List.append_assoc]
        rfl
      · rw [List.append_assoc] at follows
        rcases follows with ⟨all, each, finished⟩ | ⟨some_hidden, thrown, _⟩
        · exact .inl ⟨List.forall_mem_cons.mpr ⟨creatable.mp visible, all⟩, .cons made each, finished⟩
        · refine .inr ⟨fun all => some_hidden (List.forall_mem_cons.mp all).2, thrown, ?_⟩
          refine iff_of_false (List.cons_ne_nil _ _) ?_
          intro first
          obtain ⟨input, head, refused⟩ := first
          cases head
          exact refused (creatable.mp visible).1

/-! What an import promises. -/

section

variable (runtime : Runtime) (server : TemplateServer) (owner : Option String)

/-- Either an error is thrown and the table is what it was, or there is one new row for each template of the payload,
with its own name, which none of the visible ones has. -/
def AllOrNothing (table : Templates) (templates : List FilterTemplateInput)
    (outcome : Except TemplateError ImportedTemplates × Templates) : Prop :=
  (∃ error, outcome.1 = .error error) ∧ outcome.2.rows = table.rows ∨
    ∃ result, outcome.1 = .ok result ∧ outcome.2.rows = table.rows ++ result.templates ∧
      result.imported = templates.length ∧
      List.Forall₂ (fun template row => MadeOf runtime server owner { template with name := row.name } row) templates
        result.templates ∧
      (result.templates.map FilterTemplate.name).Nodup ∧
      ∀ row ∈ result.templates, row.name ∉ (listFilterTemplates table owner).map FilterTemplate.name

/-- Every template can be created under its new name, or the first one cannot even be stored. -/
def Importable (table : Templates) (inputs : List FilterTemplateInput) : Prop :=
  (∀ input ∈ inputs, Creatable runtime server owner table input) ∨
    ∃ first ∈ inputs.head?, ¬Storable runtime server owner table first

end

theorem MadeOf.name_eq (made : MadeOf runtime server owner input row) : row.name = input.name := by
  obtain ⟨prepared, known, whole⟩ := made
  rw [whole]
  exact (prepare_ok known).1

theorem madeOf_names {existing : List String} {templates inputs : List FilterTemplateInput} {rows : List FilterTemplate}
    (named : Named existing templates inputs) (made : List.Forall₂ (MadeOf runtime server owner) inputs rows) :
    List.Forall₂ (fun template row => MadeOf runtime server owner { template with name := row.name } row) templates rows ∧
      rows.map FilterTemplate.name = inputs.map FilterTemplateInput.name := by
  induction named generalizing rows with
  | nil existing =>
    cases made
    exact ⟨.nil, rfl⟩
  | cons found later ih =>
    cases made with
    | cons first others =>
      obtain ⟨each, names⟩ := ih others
      have own := first.name_eq
      constructor
      · simp_all
      · rw [List.map_cons, List.map_cons, names, own]

/-- Given enough rounds, an import of a payload that is accepted returns, and it is all or nothing exactly where the
payload is importable. -/
theorem import_all_or_nothing (runtime : Runtime) (server : TemplateServer) (owner : Option String) (payload : Json)
    (table : Templates) {templates : List FilterTemplateInput} (accepted : FilterTemplateExportSchema payload = some templates) :
    ∃ inputs, Named ((listFilterTemplates table owner).map FilterTemplate.name) templates inputs ∧
      ∃ least, ∀ rounds ≥ least, ∃ outcome,
        importFilterTemplates runtime server owner rounds payload table = some outcome ∧
          (AllOrNothing runtime server owner table templates outcome ↔ Importable runtime server owner table inputs) := by
  obtain ⟨inputs, named⟩ := Named.total ((listFilterTemplates table owner).map FilterTemplate.name) templates
  refine ⟨inputs, named, ?_⟩
  have begun : Grown owner table table ((listFilterTemplates table owner).map FilterTemplate.name) :=
    fun name _ => Iff.rfl
  obtain ⟨least, follows⟩ := @importTemplates_follows runtime server owner table _ _ _ named table begun
  refine ⟨least, ?_⟩
  intro rounds enough
  obtain ⟨outcome, returned, rows, stored, cases⟩ := follows rounds enough 0 []
  refine ⟨outcome, ?_, ?_⟩
  · rw [importFilterTemplates, accepted]
    exact returned
  rcases cases with ⟨all, made, renamed, finished⟩ | ⟨some_refused, ⟨error, thrown⟩, none_stored⟩
  · refine iff_of_true (.inr ⟨_, finished, stored, ?_, ?_⟩) (.inl all)
    · exact made.length_eq.symm.trans named.length_eq
    · obtain ⟨each, names⟩ := madeOf_names named made
      refine ⟨each, ?_, ?_⟩
      · rw [List.nil_append, names]
        exact named.distinct
      · intro row member
        have listed : row.name ∈ rows.map FilterTemplate.name := List.mem_map_of_mem member
        rw [names] at listed
        obtain ⟨input, found, same⟩ := List.mem_map.mp listed
        rw [← same]
        exact named.fresh input found
  · constructor
    · intro kept
      rcases kept with ⟨_, unchanged⟩ | ⟨result, finished, _⟩
      · exact .inr (none_stored.mp (List.append_right_eq_self.mp (stored.symm.trans unchanged)))
      · cases thrown.symm.trans finished
    · intro importable
      rcases importable with all | first
      · exact absurd all some_refused
      · refine .inl ⟨⟨error, thrown⟩, ?_⟩
        rw [stored, none_stored.mpr first, List.append_nil]

def quietRuntime : Runtime := ⟨fun _ => none, fun _ => false, fun _ => none⟩

def plainServer : TemplateServer := ⟨0, fun _ => true⟩

def payloadOf (entries : List (String × Json)) : Json :=
  .object [("version", .number (Number.nearest 1 0)), ("exportedAt", .string "2026-09-06T00:00:00.000Z"),
    ("templates", .array (entries.map fun (name, expression) =>
      .object [("name", .string name), ("expression", expression)]))]

/-- Transactions with a note. -/
def noted : Json := .object [("type", .string "exists"), ("metadataKey", .string "note")]

def bogus : Json := .object [("type", .string "bogus")]

theorem import_all_or_nothing_noted : ∃ least, ∀ rounds ≥ least, ∃ outcome,
    importFilterTemplates quietRuntime plainServer (some "u1") rounds (payloadOf [("noted", noted)]) .empty = some outcome ∧
      AllOrNothing quietRuntime plainServer (some "u1") .empty [⟨"noted", none, some noted, false⟩] outcome := by
  obtain ⟨inputs, named, least, returns⟩ := import_all_or_nothing quietRuntime plainServer (some "u1")
    (payloadOf [("noted", noted)]) .empty (show _ = some [⟨"noted", none, some noted, false⟩] from rfl)
  have importable : Importable quietRuntime plainServer (some "u1") .empty inputs := by
    cases named with
    | cons found later =>
      cases later
      have own : NamedBy [] "noted" "noted" := ⟨0, rfl, List.not_mem_nil, by
        intro before none
        cases none⟩
      cases found.unique own
      refine .inl (List.forall_mem_singleton.mpr ⟨⟨_, rfl, rfl, List.not_mem_nil⟩, .inl rfl⟩)
  refine ⟨least, ?_⟩
  intro rounds enough
  obtain ⟨outcome, returned, whole⟩ := returns rounds enough
  exact ⟨outcome, returned, whole.mpr importable⟩

/-- A later template that is refused leaves the first one behind. -/
theorem import_leaves_first : ¬∀ (runtime : Runtime) (server : TemplateServer) (owner : Option String) (payload : Json)
    (table : Templates) (templates : List FilterTemplateInput), FilterTemplateExportSchema payload = some templates →
    ∃ least, ∀ rounds ≥ least, ∃ outcome,
      importFilterTemplates runtime server owner rounds payload table = some outcome ∧
        AllOrNothing runtime server owner table templates outcome := by
  intro whole
  obtain ⟨least, returns⟩ := whole quietRuntime plainServer (some "u1") (payloadOf [("noted", noted), ("bogus", bogus)])
    .empty [⟨"noted", none, some noted, false⟩, ⟨"bogus", none, some bogus, false⟩] rfl
  obtain ⟨outcome, returned, kept⟩ := returns least le_rfl
  have stored : ∃ error row grown, importFilterTemplates quietRuntime plainServer (some "u1") least
      (payloadOf [("noted", noted), ("bogus", bogus)]) .empty = some (.error error, grown) ∧ grown.rows = [row] :=
    ⟨_, _, _, rfl, rfl⟩
  obtain ⟨error, row, grown, left, rows⟩ := stored
  cases returned.symm.trans left
  rcases kept with ⟨_, unchanged⟩ | ⟨result, finished, _⟩
  · cases rows.symm.trans unchanged
  · cases finished

end ProxyPay.TransactionFilters
