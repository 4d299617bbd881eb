import ProxyPay.TransactionFilters.Meaning

/-! Parts of the SQL text that are read as one condition, and whose value on a transaction is known. -/

namespace ProxyPay.TransactionFilters

open ProxyPay.Library
open Sql (Token Condition Truth Joiner Reads Ends Primary Inside)

variable {server : Server}

/-- The parameters of a part of the query stand at their places in the whole. -/
def Binds (known : ℕ → Option Operand) (index : ℕ) (params : List Operand) : Prop :=
  ∀ place, place < params.length → known (index + place) = params[place]?

variable {known : ℕ → Option Operand}

theorem Binds.split {index : ℕ} {params others : List Operand} (binds : Binds known index (params ++ others)) :
    Binds known index params ∧ Binds known (index + params.length) others := by
  constructor
  · intro place inside
    have all := binds place (by rw [List.length_append]; omega)
    rw [all, List.getElem?_append_left inside]
  · intro place inside
    have all := binds (params.length + place) (by rw [List.length_append]; omega)
    rw [Nat.add_assoc, all, List.getElem?_append_right (Nat.le_add_right _ _), Nat.add_sub_cancel_left]

theorem Binds.one {index : ℕ} {operand : Operand} (binds : Binds known index [operand]) : known index = some operand :=
  binds 0 Nat.zero_lt_one

/-- Where it fits, the condition has this value; elsewhere it is an error. -/
def Agrees (index : ℕ) (params : List Operand) (condition : Condition Predicate) (fits : Prop)
    (truth : Row server → Truth) : Prop :=
  ∀ known, Binds known index params → ∀ row,
    (fits → condition.eval (evalPredicate server row known) = .ok (truth row)) ∧
      (¬fits → ∃ error, condition.eval (evalPredicate server row known) = .error error)

/-- A part of the query that is read as one condition, on columns that a filter may name where they are named
so. -/
structure Sound (index : ℕ) (sql : String) (params : List Operand) (named fits : Prop)
    (truth : Row server → Truth) : Prop where
  intro ::
  out : ∃ tokens condition, Ends sql tokens ∧ Primary interpret tokens condition ∧
    placeholders tokens = List.range' index params.length ∧
    ((∀ predicate ∈ condition.atoms, predicate.Allowed) ↔ named) ∧ Agrees index params condition fits truth

/-- Conditions one after the other, with the words between them left out. -/
structure SoundAll (index : ℕ) (sqls : List String) (params : List Operand) (named fits : Prop)
    (truths : Row server → List Truth) : Prop where
  intro ::
  out : ∃ operands : List (List Token × Condition Predicate),
    List.Forall₂ (fun sql operand => Ends sql operand.1) sqls operands ∧
    (∀ operand ∈ operands, Primary interpret operand.1 operand.2) ∧
    placeholders (operands.flatMap Prod.fst) = List.range' index params.length ∧
    ((∀ predicate ∈ operands.flatMap fun operand => operand.2.atoms, predicate.Allowed) ↔ named) ∧
    ∀ known, Binds known index params → ∀ row,
      (fits → List.Forall₂ (fun operand truth => operand.2.eval (evalPredicate server row known) = .ok truth)
        operands (truths row)) ∧
      (¬fits → ∃ operand ∈ operands, ∃ error, operand.2.eval (evalPredicate server row known) = .error error)

theorem placeholders_append (tokens others : List Token) :
    placeholders (tokens ++ others) = placeholders tokens ++ placeholders others :=
  List.filterMap_append

variable (joiner : Joiner)

theorem placeholders_chain (operands : List (List Token × Condition Predicate)) :
    placeholders (joiner.chain operands) = placeholders (operands.flatMap Prod.fst) := by
  induction operands with
  | nil => rfl
  | cons operand rest ih =>
    have joined : placeholders (joiner.token :: operand.1) = placeholders operand.1 := by
      cases joiner with
      | and | or => rfl
    rw [Joiner.chain, List.flatMap_cons, placeholders_append, joined, List.flatMap_cons, placeholders_append, ← ih]
    rfl

namespace Sound

variable {index : ℕ} {sql : String} {params : List Operand} {named fits : Prop} {truth : Row server → Truth}

section

variable (sound : Sound index sql params named fits truth)

include sound

theorem congr {allowed others : Prop} {same : Row server → Truth} (names : named ↔ allowed) (condition : fits ↔ others) (value : ∀ row, fits → truth row = same row) :
    Sound index sql params allowed others same := by
  obtain ⟨tokens, known, ends, primary, numbered, columns, agrees⟩ := sound.out
  refine ⟨tokens, known, ends, primary, numbered, columns.trans names, ?_⟩
  intro bound binds row
  obtain ⟨here, fails⟩ := agrees bound binds row
  constructor
  · simp_all
  · simp_all

theorem group : Sound index ("(" ++ sql ++ ")") params named fits truth := by
  obtain ⟨tokens, condition, ends, primary, numbered, columns, agrees⟩ := sound.out
  refine ⟨_, condition, ends.group.ends, primary.inside.group, ?_, columns, agrees⟩
  have inner : placeholders (.opening :: (tokens ++ [.closing])) = placeholders tokens := by
    show placeholders (tokens ++ [.closing]) = _
    rw [placeholders_append]
    exact List.append_nil _
  rw [inner, numbered]

theorem not : Sound index ("NOT " ++ sql) params named fits (fun row => Truth.not (truth row)) := by
  obtain ⟨tokens, condition, ends, primary, numbered, columns, agrees⟩ := sound.out
  have word : Reads "NOT " [.not] := Sql.reads_of_scan rfl
  refine ⟨_, .not condition, ends.prepend word, primary.not, numbered, columns, ?_⟩
  intro known binds row
  obtain ⟨here, fails⟩ := agrees known binds row
  constructor
  · intro fit
    rw [Condition.eval, here fit]
    rfl
  · intro unfit
    obtain ⟨error, failed⟩ := fails unfit
    refine ⟨error, ?_⟩
    rw [Condition.eval, failed]
    rfl

end

end Sound

namespace SoundAll

variable {index : ℕ} {sql : String} {sqls : List String} {params others : List Operand}
  {named allowed fits further : Prop} {truth : Row server → Truth} {truths : Row server → List Truth}

theorem nil (index : ℕ) : @SoundAll server index [] [] True True fun _ => [] := by
  refine ⟨[], .nil, ?_, rfl, ?_, ?_⟩
  · nofun
  · simp
  · simp

theorem cons (sound : Sound index sql params named fits truth)
    (rest : SoundAll (index + params.length) sqls others allowed further truths) :
    SoundAll index (sql :: sqls) (params ++ others) (named ∧ allowed) (fits ∧ further)
      fun row => truth row :: truths row := by
  obtain ⟨tokens, condition, ends, primary, numbered, columns, agrees⟩ := sound.out
  obtain ⟨operands, all_end, each, places, names, values⟩ := rest.out
  refine ⟨(tokens, condition) :: operands, .cons ends all_end, ?_, ?_, ?_, ?_⟩
  · intro operand member
    rcases List.mem_cons.mp member with rfl | later
    · exact primary
    · exact each operand later
  · rw [List.flatMap_cons, placeholders_append, numbered, places, List.length_append, List.range'_append_1]
  · rw [List.flatMap_cons, List.forall_mem_append, columns, names]
  · intro known binds row
    obtain ⟨first, last⟩ := binds.split
    obtain ⟨here, fails⟩ := agrees known first row
    obtain ⟨there, fail⟩ := values known last row
    constructor
    · intro fit
      exact .cons (here fit.1) (there fit.2)
    · intro unfit
      by_cases fit : fits
      · obtain ⟨operand, member, failed⟩ := fail fun also => unfit ⟨fit, also⟩
        exact ⟨operand, List.mem_cons_of_mem _ member, failed⟩
      · exact ⟨_, List.mem_cons_self, fails fit⟩

end SoundAll

variable {first : String}

theorem ends_intercalate {tokens : List Token} {sqls : List String}
    {operands : List (List Token × Condition Predicate)} (ends : Ends first tokens)
    (each : List.Forall₂ (fun sql operand => Ends sql operand.1) sqls operands) :
    Ends ((separator joiner).intercalate (first :: sqls)) (tokens ++ joiner.chain operands) := by
  induction each generalizing first tokens with
  | nil =>
    rw [Joiner.chain, List.flatMap_nil, List.append_nil, String.intercalate_singleton]
    exact ends
  | @cons next operand rest others here later ih =>
    have between : ∃ word, separator joiner = " " ++ word ∧ Reads word [joiner.token] := by
      cases joiner with
      | and => exact ⟨"AND ", rfl, Sql.reads_of_scan rfl⟩
      | or => exact ⟨"OR ", rfl, Sql.reads_of_scan rfl⟩
    obtain ⟨word, same, reads⟩ := between
    have joined := ends.join reads (ih here)
    rw [← same, ← String.intercalate_cons_cons] at joined
    rw [Joiner.chain, List.flatMap_cons]
    exact joined

theorem Sound.junction {index : ℕ} {rest : List String}
    {params others : List Operand} {named allowed fits further : Prop} {truth : Row server → Truth}
    {truths : Row server → List Truth} (sound : Sound index first params named fits truth)
    (all : SoundAll (index + params.length) rest others allowed further truths) :
    Sound index ("(" ++ (separator joiner).intercalate (first :: rest) ++ ")") (params ++ others) (named ∧ allowed)
      (fits ∧ further) (fun row => (truths row).foldl joiner.truth (truth row)) := by
  obtain ⟨tokens, condition, ends, primary, numbered, columns, agrees⟩ := sound.out
  obtain ⟨operands, all_end, each, places, names, values⟩ := all.out
  refine ⟨_, joiner.joined condition operands, (ends_intercalate joiner ends all_end).group.ends,
    (Sql.inside_joined joiner each primary).group, ?_, ?_, ?_⟩
  · show placeholders ((tokens ++ joiner.chain operands) ++ [.closing]) = _
    rw [placeholders_append, placeholders_append, placeholders_chain, numbered, places, List.length_append,
      List.range'_append_1]
    exact List.append_nil _
  · rw [joiner.atoms_joined, List.forall_mem_append, columns, names]
  · intro known binds row
    obtain ⟨first, last⟩ := binds.split
    obtain ⟨here, fails⟩ := agrees known first row
    obtain ⟨there, fail⟩ := values known last row
    constructor
    · intro fit
      exact joiner.eval_joined (here fit.1) (there fit.2)
    · intro unfit
      apply joiner.eval_joined_error
      by_cases fit : fits
      · exact .inr (fail fun also => unfit ⟨fit, also⟩)
      · exact .inl (fails fit)

end ProxyPay.TransactionFilters
