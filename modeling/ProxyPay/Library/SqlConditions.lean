import ProxyPay.Library.SqlTokens

/-! Conditions in SQL: how their tokens are read, with `NOT` before `AND` before `OR`, and their value among true,
false and unknown. What stands between two of these words is read by a function of its own. -/

namespace ProxyPay.Library.Sql

inductive Condition (P : Type) where
  | atom (predicate : P)
  | not (condition : Condition P)
  | and (left right : Condition P)
  | or (left right : Condition P)
  deriving DecidableEq

/-- A truth value, which is unknown where something is NULL. -/
abbrev Truth := Option Bool

namespace Truth

def not (value : Truth) : Truth :=
  value.map (!·)

def and : Truth → Truth → Truth
  | some false, _ => some false
  | _, some false => some false
  | some true, other => other
  | none, _ => none

def or : Truth → Truth → Truth
  | some true, _ => some true
  | _, some true => some true
  | some false, other => other
  | none, _ => none

end Truth

namespace Condition

variable {P E : Type}

/-- An error in a predicate is one of the statement, whatever the value of the others. -/
def eval (predicate : P → Except E Truth) : Condition P → Except E Truth
  | .atom known => predicate known
  | .not condition => do return Truth.not (← condition.eval predicate)
  | .and left right => do
    let first ← left.eval predicate
    let second ← right.eval predicate
    return Truth.and first second
  | .or left right => do
    let first ← left.eval predicate
    let second ← right.eval predicate
    return Truth.or first second

def atoms : Condition P → List P
  | .atom known => [known]
  | .not condition => condition.atoms
  | .and left right => left.atoms ++ right.atoms
  | .or left right => left.atoms ++ right.atoms

end Condition

/-- A word between two operands. -/
inductive Joiner where
  | and
  | or
  deriving DecidableEq

namespace Joiner

variable {P E : Type}

def token : Joiner → Token
  | .and => .and
  | .or => .or

def condition : Joiner → Condition P → Condition P → Condition P
  | .and => .and
  | .or => .or

def truth : Joiner → Truth → Truth → Truth
  | .and => Truth.and
  | .or => Truth.or

/-- Operands that each follow the word. -/
def chain (joiner : Joiner) (operands : List (List Token × Condition P)) : List Token :=
  operands.flatMap fun operand => joiner.token :: operand.1

def joined (joiner : Joiner) (first : Condition P) (operands : List (List Token × Condition P)) : Condition P :=
  operands.foldl (fun left operand => joiner.condition left operand.2) first

variable {predicate : P → Except E Truth} {first : Condition P} {operands : List (List Token × Condition P)}

variable (joiner : Joiner)

theorem eval_condition (left right : Condition P) : (joiner.condition left right).eval predicate = (do
      let one ← left.eval predicate
      let other ← right.eval predicate
      return joiner.truth one other) := by
  cases joiner with
  | and | or => rfl

theorem atoms_joined (first : Condition P) (operands : List (List Token × Condition P)) :
    (joiner.joined first operands).atoms = first.atoms ++ operands.flatMap fun operand => operand.2.atoms := by
  induction operands generalizing first with
  | nil => exact (List.append_nil _).symm
  | cons operand rest ih =>
    have both : (joiner.condition first operand.2).atoms = first.atoms ++ operand.2.atoms := by
      cases joiner with
      | and | or => rfl
    rw [List.flatMap_cons, ← List.append_assoc, ← both]
    exact ih _

theorem eval_joined {value : Truth} {values : List Truth} (known : first.eval predicate = .ok value)
    (each : List.Forall₂ (fun operand value => operand.2.eval predicate = .ok value) operands values) :
    (joiner.joined first operands).eval predicate = .ok (values.foldl joiner.truth value) := by
  induction each generalizing first value with
  | nil => exact known
  | @cons operand found rest others here later ih =>
    apply ih
    rw [eval_condition, known]
    show (do let other ← operand.2.eval predicate; return joiner.truth value other) = _
    rw [here]
    rfl

/-- One error is enough. -/
theorem eval_joined_error (failed : (∃ error, first.eval predicate = .error error) ∨
      ∃ operand ∈ operands, ∃ error, operand.2.eval predicate = .error error) :
    ∃ error, (joiner.joined first operands).eval predicate = .error error := by
  induction operands generalizing first with
  | nil =>
    rcases failed with here | ⟨operand, member, _⟩
    · exact here
    · cases member
  | cons operand rest ih =>
    apply ih
    rcases failed with ⟨error, here⟩ | ⟨other, member, error, there⟩
    · left
      refine ⟨error, ?_⟩
      rw [eval_condition, here]
      rfl
    · rcases List.mem_cons.mp member with rfl | later
      · left
        rw [eval_condition]
        cases one : first.eval predicate with
        | error earlier => exact ⟨earlier, rfl⟩
        | ok value =>
          refine ⟨error, ?_⟩
          show (do let found ← other.2.eval predicate; return joiner.truth value found) = _
          rw [there]
          rfl
      · exact .inr ⟨other, later, error, there⟩

end Joiner

/-! The parser. -/

variable {P : Type}

/-- What stands before the operand that comes next in its parentheses. -/
structure Group (P : Type) where
  ors : Option (Condition P)
  ands : Option (Condition P)
  nots : Nat

def Group.empty : Group P := ⟨none, none, 0⟩

inductive Mode (P : Type) where
  | operand
  /-- a predicate, with the parentheses of its own that are open -/
  | predicate (tokens : List Token) (depth : Nat)
  | value (condition : Condition P)

structure Parser (P : Type) where
  outer : List (Group P)
  here : Group P
  mode : Mode P

def negated : Nat → Condition P → Condition P
  | 0, condition => condition
  | nots + 1, condition => .not (negated nots condition)

def Group.conjunction (group : Group P) (condition : Condition P) : Condition P :=
  match group.ands with
  | none => condition
  | some left => .and left condition

def Group.disjunction (group : Group P) (condition : Condition P) : Condition P :=
  match group.ors with
  | none => group.conjunction condition
  | some left => .or left (group.conjunction condition)

namespace Parser

variable (interpret : List Token → Option P)

/-- The operand that ends here. -/
def value (parser : Parser P) : Option (Condition P) :=
  match parser.mode with
  | .predicate tokens 0 => (interpret tokens).map fun known => negated parser.here.nots (.atom known)
  | .value condition => some (negated parser.here.nots condition)
  | _ => none

/-- A token after an operand. -/
def boundary (parser : Parser P) (token : Token) : Option (Parser P) :=
  match parser.value interpret with
  | none => none
  | some condition =>
    match token with
    | .and =>
      some ⟨parser.outer, ⟨parser.here.ors, some (parser.here.conjunction condition), 0⟩, .operand⟩
    | .or => some ⟨parser.outer, ⟨some (parser.here.disjunction condition), none, 0⟩, .operand⟩
    | .closing =>
      match parser.outer with
      | [] => none
      | group :: outer => some ⟨outer, group, .value (parser.here.disjunction condition)⟩
    | _ => none

def step (parser : Parser P) (token : Token) : Option (Parser P) :=
  match parser.mode with
  | .operand =>
    match token with
    | .opening => some ⟨parser.here :: parser.outer, .empty, .operand⟩
    | .not => some { parser with here := { parser.here with nots := parser.here.nots + 1 } }
    | .closing | .and | .or => none
    | token => some { parser with mode := .predicate [token] 0 }
  | .predicate tokens depth =>
    match token, depth with
    | .opening, depth => some { parser with mode := .predicate (tokens ++ [.opening]) (depth + 1) }
    | .closing, depth + 1 => some { parser with mode := .predicate (tokens ++ [.closing]) depth }
    | .closing, 0 => parser.boundary interpret .closing
    | .and, _ => parser.boundary interpret .and
    | .or, _ => parser.boundary interpret .or
    | token, depth => some { parser with mode := .predicate (tokens ++ [token]) depth }
  | .value _ => parser.boundary interpret token

def start : Parser P := ⟨[], .empty, .operand⟩

end Parser

def parse (interpret : List Token → Option P) (tokens : List Token) : Option (Condition P) := do
  let parser ← tokens.foldlM (Parser.step interpret) Parser.start
  if parser.outer.isEmpty then (parser.value interpret).map parser.here.disjunction else none

section Primary

variable {interpret : List Token → Option P} {tokens others : List Token} {condition other : Condition P}

/-- The parser has read an operand. -/
structure Parser.Holds (interpret : List Token → Option P) (before after : Parser P) (condition : Condition P) : Prop where
  outer : after.outer = before.outer
  ors : after.here.ors = before.here.ors
  ands : after.here.ands = before.here.ands
  value : after.value interpret = some (negated before.here.nots condition)

/-- Tokens that are an operand of any of the three words. -/
def Primary (interpret : List Token → Option P) (tokens : List Token) (condition : Condition P) : Prop :=
  ∀ before : Parser P, before.mode = .operand → ∃ after,
    tokens.foldlM (Parser.step interpret) before = some after ∧ before.Holds interpret after condition

theorem negated_not (nots : Nat) (condition : Condition P) :
    negated (nots + 1) condition = negated nots (.not condition) := by
  induction nots with
  | zero => rfl
  | succ nots ih => exact congrArg Condition.not ih

theorem Primary.not (primary : Primary interpret tokens condition) :
    Primary interpret (.not :: tokens) (.not condition) := by
  intro before operand
  obtain ⟨outer, here, mode⟩ := before
  cases operand
  obtain ⟨after, read, holds⟩ := primary ⟨outer, { here with nots := here.nots + 1 }, .operand⟩ rfl
  refine ⟨after, read, holds.outer, holds.ors, holds.ands, ?_⟩
  rw [holds.value, negated_not]

section

variable {before after : Parser P} (holds : before.Holds interpret after condition)

include holds

theorem boundary_of_holds (token : Token) : after.boundary interpret token =
      match token with
      | .and => some ⟨before.outer, ⟨before.here.ors,
          some (before.here.conjunction (negated before.here.nots condition)), 0⟩, .operand⟩
      | .or => some ⟨before.outer, ⟨some (before.here.disjunction (negated before.here.nots condition)), none, 0⟩,
          .operand⟩
      | .closing =>
        match before.outer with
        | [] => none
        | group :: outer => some ⟨outer, group, .value (before.here.disjunction (negated before.here.nots condition))⟩
      | _ => none := by
  have conjunction (known : Condition P) : after.here.conjunction known = before.here.conjunction known := by
    rw [Group.conjunction, holds.ands, Group.conjunction]
  have disjunction (known : Condition P) : after.here.disjunction known = before.here.disjunction known := by
    rw [Group.disjunction, holds.ors, conjunction, Group.disjunction]
  unfold Parser.boundary
  rw [holds.value, holds.outer, holds.ors]
  simp only [conjunction, disjunction]

theorem step_of_holds {token : Token} (ends : token = .and ∨ token = .or ∨ token = .closing) :
    after.step interpret token = after.boundary interpret token := by
  have value := holds.value
  unfold Parser.value at value
  unfold Parser.step
  cases mode : after.mode with
  | operand =>
    rw [mode] at value
    cases value
  | value known => rfl
  | predicate tokens depth => grind

end

/-- A predicate that has no parentheses but its own. -/
theorem primary_of_predicate {known : P} (read : ∀ before : Parser P, before.mode = .operand →
      tokens.foldlM (Parser.step interpret) before = some { before with mode := .predicate tokens 0 })
    (known_tokens : interpret tokens = some known) : Primary interpret tokens (.atom known) := by
  intro before operand
  refine ⟨_, read before operand, rfl, rfl, rfl, ?_⟩
  show (interpret tokens).map _ = _
  rw [known_tokens]
  rfl

/-- What stands between two parentheses. -/
def Inside (interpret : List Token → Option P) (tokens : List Token) (condition : Condition P) : Prop :=
  ∀ before : Parser P, before.mode = .operand → before.here = .empty → ∃ after,
    tokens.foldlM (Parser.step interpret) before = some after ∧ ∃ inner : Parser P, inner.outer = before.outer ∧
      ∃ last, inner.Holds interpret after last ∧ inner.here.disjunction (negated inner.here.nots last) = condition

theorem Inside.group (inside : Inside interpret tokens condition) :
    Primary interpret (.opening :: (tokens ++ [.closing])) condition := by
  intro before operand
  obtain ⟨outer, here, mode⟩ := before
  cases operand
  obtain ⟨after, read, inner, same, last, holds, result⟩ := inside ⟨here :: outer, .empty, .operand⟩ rfl rfl
  refine ⟨⟨outer, here, .value condition⟩, ?_, rfl, rfl, rfl, rfl⟩
  rw [List.foldlM_cons]
  show List.foldlM (Parser.step interpret) ⟨here :: outer, .empty, .operand⟩ (tokens ++ [.closing]) = _
  rw [List.foldlM_append, read]
  show (after.step interpret .closing).bind some = _
  rw [step_of_holds holds (.inr (.inr rfl)), boundary_of_holds holds, same, result]
  rfl

section

variable {operands : List (List Token × Condition P)}
  (each : ∀ operand ∈ operands, Primary interpret operand.1 operand.2)
  (primary : Primary interpret tokens condition) (before : Parser P) (operand : before.mode = .operand)

include each primary before operand

theorem read_ands : ∃ after, (tokens ++ Joiner.and.chain operands).foldlM (Parser.step interpret) before = some after ∧
      ∃ inner : Parser P, inner.outer = before.outer ∧ inner.here.ors = before.here.ors ∧
        ∃ last, inner.Holds interpret after last ∧ inner.here.conjunction (negated inner.here.nots last) =
          Joiner.and.joined (before.here.conjunction (negated before.here.nots condition)) operands := by
  induction operands generalizing before tokens condition with
  | nil =>
    obtain ⟨after, read, holds⟩ := primary before operand
    refine ⟨after, ?_, before, rfl, rfl, condition, holds, rfl⟩
    rw [Joiner.chain, List.flatMap_nil, List.append_nil, read]
  | cons next rest ih =>
    obtain ⟨after, read, holds⟩ := primary before operand
    let between : Parser P := ⟨before.outer, ⟨before.here.ors,
      some (before.here.conjunction (negated before.here.nots condition)), 0⟩, .operand⟩
    obtain ⟨final, later, inner, outer, or, last, end_holds, result⟩ :=
      ih (fun other member => each other (List.mem_cons_of_mem _ member)) (each next List.mem_cons_self) between rfl
    refine ⟨final, ?_, inner, outer, or, last, end_holds, result⟩
    have moved : after.step interpret .and = some between := by
      rw [step_of_holds holds (.inl rfl), boundary_of_holds holds]
    rw [List.foldlM_append, read]
    show ((Token.and :: next.1) ++ Joiner.and.chain rest).foldlM (Parser.step interpret) after = _
    rw [List.cons_append, List.foldlM_cons, moved]
    exact later

theorem read_ors (none : before.here.ands = none) : ∃ after,
    (tokens ++ Joiner.or.chain operands).foldlM (Parser.step interpret) before = some after ∧
      ∃ inner : Parser P, inner.outer = before.outer ∧
        ∃ last, inner.Holds interpret after last ∧ inner.here.disjunction (negated inner.here.nots last) =
          Joiner.or.joined (before.here.disjunction (negated before.here.nots condition)) operands := by
  induction operands generalizing before tokens condition with
  | nil =>
    obtain ⟨after, read, holds⟩ := primary before operand
    refine ⟨after, ?_, before, rfl, condition, holds, rfl⟩
    rw [Joiner.chain, List.flatMap_nil, List.append_nil, read]
  | cons next rest ih =>
    obtain ⟨after, read, holds⟩ := primary before operand
    let between : Parser P := ⟨before.outer,
      ⟨some (before.here.disjunction (negated before.here.nots condition)), .none, 0⟩, .operand⟩
    obtain ⟨final, later, inner, outer, last, end_holds, result⟩ :=
      ih (fun other member => each other (List.mem_cons_of_mem _ member)) (each next List.mem_cons_self) between rfl rfl
    refine ⟨final, ?_, inner, outer, last, end_holds, result⟩
    have moved : after.step interpret .or = some between := by
      rw [step_of_holds holds (.inr (.inl rfl)), boundary_of_holds holds]
    rw [List.foldlM_append, read]
    show ((Token.or :: next.1) ++ Joiner.or.chain rest).foldlM (Parser.step interpret) after = _
    rw [List.cons_append, List.foldlM_cons, moved]
    exact later

end

theorem inside_joined (joiner : Joiner) {operands : List (List Token × Condition P)}
    (each : ∀ operand ∈ operands, Primary interpret operand.1 operand.2)
    (primary : Primary interpret tokens condition) :
    Inside interpret (tokens ++ joiner.chain operands) (joiner.joined condition operands) := by
  intro before operand empty
  cases joiner with
  | and =>
    obtain ⟨after, read, inner, outer, or, last, holds, result⟩ := read_ands each primary before operand
    refine ⟨after, read, inner, outer, last, holds, ?_⟩
    rw [empty] at or result
    rw [Group.disjunction, or]
    exact result
  | or =>
    obtain ⟨after, read, inner, outer, last, holds, result⟩ :=
      read_ors each primary before operand (by rw [empty]; rfl)
    refine ⟨after, read, inner, outer, last, holds, ?_⟩
    rw [empty] at result
    exact result

/-- One operand between two parentheses. -/
theorem Primary.inside (primary : Primary interpret tokens condition) : Inside interpret tokens condition := by
  have inside := inside_joined .and (fun _ (member : _ ∈ []) => by cases member) primary
  rwa [Joiner.chain, List.flatMap_nil, List.append_nil] at inside

theorem parse_of_primary (primary : Primary interpret tokens condition) : parse interpret tokens = some condition := by
  obtain ⟨after, read, holds⟩ := primary Parser.start rfl
  have disjunction (known : Condition P) : after.here.disjunction known = known := by
    rw [Group.disjunction, holds.ors, Group.conjunction, holds.ands]
    rfl
  unfold parse
  rw [read]
  show (if after.outer.isEmpty then (after.value interpret).map after.here.disjunction else none) = _
  rw [holds.outer, holds.value]
  show some (after.here.disjunction condition) = _
  rw [disjunction]

end Primary

end ProxyPay.Library.Sql
