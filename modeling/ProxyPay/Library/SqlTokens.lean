import ProxyPay.Library.Text

/-! The tokens of an SQL text. Key words are read as they are written in capitals, and a literal has no escapes;
a text that is read one part after the other is read as a whole. -/

namespace ProxyPay.Library.Sql

open Text (natural)

inductive Token where
  | opening
  | closing
  | and
  | or
  | not
  | word (text : String)
  | symbol (text : String)
  | literal (text : String)
  /-- `$1` -/
  | parameter (index : Nat)
  deriving DecidableEq

/-- What stands between the tokens that are read and the next character. -/
inductive Pending where
  | blank
  | word (text : List Char)
  | symbol (text : List Char)
  | literal (text : List Char)
  | parameter (digits : List Char)
  deriving DecidableEq

variable (char : Char)

def isWordStart : Bool :=
  char.isAlpha || char = '_'

def isWordPart : Bool :=
  char.isAlphanum || char = '_'

def isOperator : Bool :=
  ['+', '-', '*', '/', '<', '>', '=', '~', '!', '@', '#', '%', '^', '&', '|', '?', ':'].contains char

def keyword (text : List Char) : Token :=
  if text = ['A', 'N', 'D'] then .and
  else if text = ['O', 'R'] then .or
  else if text = ['N', 'O', 'T'] then .not
  else .word (String.ofList text)

/-- The token that ends here. -/
def Pending.finish : Pending → Option (List Token)
  | .blank => some []
  | .word text => some [keyword text]
  | .symbol text => some [.symbol (String.ofList text)]
  | .literal _ => none
  | .parameter digits => if digits.isEmpty then none else some [.parameter (natural 10 digits)]

/-- A character that begins something. -/
def Pending.start : Option (List Token × Pending) :=
  if char = ' ' then some ([], .blank)
  else if char = '(' then some ([.opening], .blank)
  else if char = ')' then some ([.closing], .blank)
  else if char = '\'' then some ([], .literal [])
  else if char = '$' then some ([], .parameter [])
  else if isOperator char then some ([], .symbol [char])
  else if isWordStart char then some ([], .word [char])
  else none

/-- A character that goes on with what is pending. -/
def Pending.extend : Pending → Option (List Token × Pending)
  | .literal text =>
    if char = '\'' then some ([.literal (String.ofList text)], .blank) else some ([], .literal (text ++ [char]))
  | .word text => if isWordPart char then some ([], .word (text ++ [char])) else none
  | .symbol text => if isOperator char then some ([], .symbol (text ++ [char])) else none
  | .parameter digits => if char.isDigit then some ([], .parameter (digits ++ [char])) else none
  | .blank => none

def Pending.step (pending : Pending) (char : Char) : Option (List Token × Pending) :=
  match pending.extend char with
  | some moved => some moved
  | none => do
    let ended ← pending.finish
    let (begun, next) ← Pending.start char
    return (ended ++ begun, next)

structure Lexer where
  tokens : List Token
  pending : Pending

def Lexer.step (lexer : Lexer) (char : Char) : Option Lexer :=
  (lexer.pending.step char).map fun moved => ⟨lexer.tokens ++ moved.1, moved.2⟩

def lex (text : String) : Option (List Token) := do
  let lexer ← text.toList.foldlM Lexer.step ⟨[], .blank⟩
  let ended ← lexer.pending.finish
  return lexer.tokens ++ ended

/-- Reading a part of a text. -/
def Moves (before : Pending) (text : List Char) (tokens : List Token) (after : Pending) : Prop :=
  ∀ earlier, text.foldlM Lexer.step ⟨earlier, before⟩ = some ⟨earlier ++ tokens, after⟩

/-- A text that is read on its own, as parentheses and what ends with a blank are. -/
def Reads (text : String) (tokens : List Token) : Prop :=
  Moves .blank text.toList tokens .blank

namespace Moves

variable {before middle after : Pending} {text more : List Char} {tokens others : List Token}

theorem nil : Moves before [] [] before := by
  intro earlier
  simp

theorem append (first : Moves before text tokens middle) (second : Moves middle more others after) :
    Moves before (text ++ more) (tokens ++ others) after := by
  intro earlier
  rw [List.foldlM_append, first earlier]
  show more.foldlM Lexer.step ⟨earlier ++ tokens, middle⟩ = _
  rw [second, List.append_assoc]

theorem cons {char : Char} (first : before.step char = some (tokens, middle))
    (rest : Moves middle text others after) : Moves before (char :: text) (tokens ++ others) after := by
  intro earlier
  rw [List.foldlM_cons]
  show (Lexer.step ⟨earlier, before⟩ char).bind (fun lexer => text.foldlM Lexer.step lexer) = _
  rw [Lexer.step, first]
  show text.foldlM Lexer.step ⟨earlier ++ tokens, middle⟩ = _
  rw [rest, List.append_assoc]

/-- What is pending takes in all characters that go on with it. -/
theorem word {text : List Char} (parts : ∀ char ∈ text, isWordPart char = true) (known : List Char) :
    Moves (.word known) text [] (.word (known ++ text)) := by
  induction text generalizing known with
  | nil =>
    rw [List.append_nil]
    exact nil
  | cons char rest ih =>
    have first : (Pending.word known).step char = some ([], .word (known ++ [char])) := by simp_all [Pending.step, Pending.extend]
    have later := ih (fun other member => parts other (List.mem_cons_of_mem _ member)) (known ++ [char])
    rw [List.append_assoc] at later
    exact cons first later

theorem digits {text : List Char} (decimal : ∀ char ∈ text, char.isDigit = true) (known : List Char) :
    Moves (.parameter known) text [] (.parameter (known ++ text)) := by
  induction text generalizing known with
  | nil =>
    rw [List.append_nil]
    exact nil
  | cons char rest ih =>
    have first : (Pending.parameter known).step char = some ([], .parameter (known ++ [char])) := by simp_all [Pending.step, Pending.extend]
    have later := ih (fun other member => decimal other (List.mem_cons_of_mem _ member)) (known ++ [char])
    rw [List.append_assoc] at later
    exact cons first later

end Moves

/-- Reads a part of a text from its first character on. -/
def scan (before : Pending) : List Char → Option (List Token × Pending)
  | [] => some ([], before)
  | char :: rest => do
    let (begun, next) ← before.step char
    let (others, after) ← scan next rest
    return (begun ++ others, after)

theorem moves_of_scan {before after : Pending} {text : List Char} {tokens : List Token}
    (read : scan before text = some (tokens, after)) : Moves before text tokens after := by
  induction text generalizing before tokens with
  | nil =>
    cases read
    exact Moves.nil
  | cons char rest ih =>
    simp only [scan, Option.bind_eq_bind, Option.bind_eq_some_iff] at read
    obtain ⟨⟨begun, next⟩, first, ⟨others, last⟩, later, same⟩ := read
    cases same
    exact Moves.cons first (ih later)

/-- A name that stands in an SQL text as it is. -/
def isWord (text : String) : Bool :=
  match text.toList with
  | [] => false
  | first :: rest => isWordStart first && rest.all isWordPart

theorem start_of_isWordStart {char : Char} (begins : isWordStart char = true) :
    Pending.start char = some ([], .word [char]) := by
  have apart (other : Char) (no : isWordStart other = false) : char ≠ other := by
    intro same
    rw [same, no] at begins
    cases begins
  have operator : isOperator char = false := by
    apply Bool.eq_false_iff.mpr
    intro some
    have member := List.contains_iff_mem.mp some
    have none : ∀ other ∈ ['+', '-', '*', '/', '<', '>', '=', '~', '!', '@', '#', '%', '^', '&', '|', '?', ':'],
      (!isWordStart other) = true := List.all_eq_true.mp rfl
    exact apart char (by simpa using none char member) rfl
  rw [Pending.start, if_neg (apart ' ' (by decide)), if_neg (apart '(' (by decide)), if_neg (apart ')' (by decide)),
    if_neg (apart '\'' (by decide)), if_neg (apart '$' (by decide)), operator, if_neg Bool.false_ne_true, if_pos begins]

theorem moves_word {text : String} (known : isWord text = true) : Moves .blank text.toList [] (.word text.toList) := by
  unfold isWord at known
  cases letters : text.toList with
  | nil =>
    rw [letters] at known
    cases known
  | cons first rest =>
    simp only [letters, Bool.and_eq_true, List.all_eq_true] at known
    obtain ⟨begins, parts⟩ := known
    have first_step : Pending.blank.step first = some ([], .word [first]) := by
      rw [Pending.step, Pending.extend, start_of_isWordStart begins]
      rfl
    exact Moves.cons first_step (Moves.word parts [first])

theorem isDigit_toDigits (index : Nat) : ∀ char ∈ Nat.toDigits 10 index, char.isDigit = true := by
  intro char member
  exact Nat.isDigit_of_mem_toDigits (by decide) (by decide) member

theorem moves_parameter (index : Nat) :
    Moves .blank ("$" ++ toString index).toList [] (.parameter (Nat.toDigits 10 index)) := by
  have digits : (toString index).toList = Nat.toDigits 10 index := by simp
  rw [String.toList_append, digits]
  have start : Moves .blank "$".toList ([] ++ []) (.parameter []) := Moves.cons rfl Moves.nil
  exact start.append (Moves.digits (isDigit_toDigits index) [])

theorem finish_parameter (index : Nat) :
    (Pending.parameter (Nat.toDigits 10 index)).finish = some [.parameter index] := by
  have some : (Nat.toDigits 10 index).isEmpty = false := by simp
  rw [Pending.finish, some, if_neg Bool.false_ne_true, Text.natural_toDigits]

theorem reads_of_scan {text : String} {tokens : List Token} (read : scan .blank text.toList = some (tokens, .blank)) :
    Reads text tokens :=
  moves_of_scan read

/-- A word, and what ends it. -/
theorem Reads.word {text rest : String} {tokens : List Token} (known : isWord text = true)
    (after : Moves (.word text.toList) rest.toList tokens .blank) : Reads (text ++ rest) tokens := by
  unfold Reads
  rw [String.toList_append]
  exact (moves_word known).append after

/-- A text that is read once a blank or a closing parenthesis follows. -/
structure Ends (text : String) (tokens : List Token) : Prop where
  blank : Moves .blank (text.toList ++ [' ']) tokens .blank
  closing : Moves .blank (text.toList ++ [')']) (tokens ++ [.closing]) .blank

section

variable {text : String} {tokens : List Token}

theorem Reads.ends (reads : Reads text tokens) : Ends text tokens := by
  constructor
  · have step : Moves .blank [' '] [] .blank := moves_of_scan rfl
    have both := Moves.append reads step
    rwa [List.append_nil] at both
  · exact Moves.append reads (moves_of_scan rfl)

theorem Reads.parameter (reads : Reads text tokens) (index : Nat) :
    Ends (text ++ ("$" ++ toString index)) (tokens ++ [.parameter index]) := by
  have moves := Moves.append reads (moves_parameter index)
  rw [List.append_nil, ← String.toList_append] at moves
  have ended (char : Char) (begun : List Token) (other : char.isDigit = false)
      (start : Pending.start char = some (begun, .blank)) :
      Moves (.parameter (Nat.toDigits 10 index)) [char] ([.parameter index] ++ begun ++ []) .blank := by
    apply Moves.cons _ Moves.nil
    rw [Pending.step, Pending.extend, other, if_neg Bool.false_ne_true, finish_parameter, start]
    rfl
  constructor
  · exact moves.append (ended ' ' [] rfl rfl)
  · have closed := moves.append (ended ')' [.closing] rfl rfl)
    rwa [List.append_nil, ← List.append_assoc] at closed

/-- What stands between two parentheses. -/
theorem Ends.group (ends : Ends text tokens) : Reads ("(" ++ text ++ ")") (.opening :: (tokens ++ [.closing])) := by
  have begun : Moves .blank "(".toList [.opening] .blank := moves_of_scan rfl
  have both := begun.append ends.closing
  rw [← List.append_assoc] at both
  unfold Reads
  rw [String.toList_append, String.toList_append]
  exact both

end

variable {first second : String}

theorem Ends.prepend {tokens others : List Token} (reads : Reads first tokens)
    (ends : Ends second others) : Ends (first ++ second) (tokens ++ others) := by
  constructor
  · rw [String.toList_append, List.append_assoc]
    exact Moves.append reads ends.blank
  · rw [String.toList_append, List.append_assoc, List.append_assoc]
    exact Moves.append reads ends.closing

theorem Ends.followed {tokens others : List Token} (ends : Ends first tokens)
    (last : Reads second others) : Reads (first ++ (" " ++ second)) (tokens ++ others) := by
  unfold Reads
  rw [String.toList_append, String.toList_append, ← List.append_assoc]
  exact Moves.append ends.blank last

theorem Ends.closed {text : String} {tokens : List Token} (ends : Ends text tokens) :
    Reads (text ++ ")") (tokens ++ [.closing]) := by
  unfold Reads
  rw [String.toList_append]
  exact ends.closing

/-- A word with a blank on both sides. -/
theorem Ends.join {word : String} {tokens others : List Token} {token : Token} (ends : Ends first tokens)
    (between : Reads word [token]) (last : Ends second others) :
    Ends (first ++ (" " ++ word) ++ second) (tokens ++ token :: others) := by
  have both := last.prepend (ends.followed between)
  rwa [List.append_assoc] at both

/-- What ends at a blank ends with the text. -/
theorem Pending.finish_of_blank {pending : Pending} {tokens : List Token}
    (ended : pending.step ' ' = some (tokens, .blank)) : pending.finish = some tokens := by
  have plain (none : pending.extend ' ' = none) : pending.finish = some tokens := by
    rw [Pending.step, none] at ended
    cases finished : pending.finish with
    | none =>
      rw [finished] at ended
      cases ended
    | some found =>
      rw [finished] at ended
      have same : found ++ [] = tokens := congrArg Prod.fst (Option.some.inj ended)
      rw [← same, List.append_nil]
  cases pending with
  | literal text => cases ended
  | blank | word text | symbol text | parameter digits => exact plain rfl

theorem lex_of_ends {text : String} {tokens : List Token} (ends : Ends text tokens) : lex text = some tokens := by
  have read := ends.blank []
  rw [List.foldlM_append] at read
  obtain ⟨lexer, before, last⟩ := Option.bind_eq_some_iff.mp read
  have step : (lexer.step ' ').bind some = some ⟨tokens, .blank⟩ := last
  rw [Option.bind_fun_some, Lexer.step] at step
  obtain ⟨⟨begun, next⟩, moved, same⟩ := Option.map_eq_some_iff.mp step
  cases same
  unfold lex
  rw [before]
  show (do let ended ← lexer.pending.finish; return lexer.tokens ++ ended) = _
  rw [Pending.finish_of_blank moved]
  rfl

end ProxyPay.Library.Sql
