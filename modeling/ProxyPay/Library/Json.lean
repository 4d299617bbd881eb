import ProxyPay.Library.Numeral

/-! JSON texts: a reader of any JSON text, and the writer of texts and objects. What the writer
writes, the reader reads back. -/

namespace ProxyPay.Library

open Text (natural digit digitValue? digitValue_digit)

inductive Json where
  | null
  | bool (value : Bool)
  | number (value : Float)
  | string (value : String)
  | array (items : List Json)
  | object (members : List (String × Json))

namespace Json

/-- The member of this name; of several the last one counts. -/
def get? (value : Json) (name : String) : Option Json :=
  match value with
  | .object members => (members.reverse.find? (·.1 = name)).map Prod.snd
  | _ => none

def asText? : Json → Option String
  | .string value => some value
  | _ => none

/-- `value === 1` -/
def isOne : Json → Bool
  | .number value => value == 1
  | _ => false

/-- `Boolean(value)` -/
def isTruthy : Json → Bool
  | .null => false
  | .bool value => value
  | .number value => !(value.isNaN || value == 0)
  | .string value => value ≠ ""
  | .array _ => true
  | .object _ => true

/-! The reader. -/

variable (char : Char)

def isSpace : Bool :=
  char = ' ' || char = '\t' || char = '\n' || char = '\r'

variable (text : List Char)

def skip : List Char :=
  text.dropWhile isSpace

/-- A character of a text as it is written, or the UTF-16 code unit of an escape. -/
inductive Piece where
  | char (char : Char)
  | unit (value : ℕ)

variable (unit : ℕ)

def isHigh : Bool := 0xD800 ≤ unit && unit < 0xDC00

def isLow : Bool := 0xDC00 ≤ unit && unit < 0xE000

/-- A unit that is not the first of a pair; one of a pair alone is no character. -/
def alone : Char :=
  if isHigh unit || isLow unit then '\uFFFD' else Char.ofNat unit

/-- Two units of a pair are one character. -/
def join : List Piece → List Char
  | [] => []
  | .char char :: rest => char :: join rest
  | [.unit unit] => [alone unit]
  | .unit unit :: .char char :: rest => alone unit :: char :: join rest
  | .unit unit :: .unit second :: rest =>
    if isHigh unit && isLow second then
      Char.ofNat (0x10000 + (unit - 0xD800) * 0x400 + (second - 0xDC00)) :: join rest
    else alone unit :: join (.unit second :: rest)

def hex? (a b c d : Char) : Option ℕ := do
  let a ← digitValue? a
  let b ← digitValue? b
  let c ← digitValue? c
  let d ← digitValue? d
  return ((a * 16 + b) * 16 + c) * 16 + d

def unescape : Option Char :=
  if char = '"' || char = '\\' || char = '/' then some char
  else if char = 'b' then some '\x08'
  else if char = 'f' then some '\x0c'
  else if char = 'n' then some '\n'
  else if char = 'r' then some '\r'
  else if char = 't' then some '\t'
  else none

/-- The rest of a text after its opening quote. -/
def readText : List Char → Option (List Piece × List Char)
  | [] => none
  | char :: rest =>
    if char = '"' then some ([], rest)
    else if char = '\\' then
      match rest with
      | [] => none
      | kind :: rest =>
        if kind = 'u' then
          match rest with
          | a :: b :: c :: d :: rest => do
            let unit ← hex? a b c d
            let (pieces, rest) ← readText rest
            return (.unit unit :: pieces, rest)
          | _ => none
        else do
          let char ← unescape kind
          let (pieces, rest) ← readText rest
          return (.char char :: pieces, rest)
    else if char.toNat < 0x20 then none
    else do
      let (pieces, rest) ← readText rest
      return (.char char :: pieces, rest)

def readDigits : List Char × List Char :=
  (text.takeWhile Char.isDigit, text.dropWhile Char.isDigit)

/-- The digits after this mark, if it stands there. -/
def readFraction : List Char → Option (List Char × List Char)
  | '.' :: rest =>
    let (digits, rest) := readDigits rest
    if digits = [] then none else some (digits, rest)
  | rest => some ([], rest)

def readSign : List Char → Bool × List Char
  | '-' :: rest => (true, rest)
  | '+' :: rest => (false, rest)
  | rest => (false, rest)

def readExponent : List Char → Option (ℤ × List Char)
  | char :: rest =>
    if char = 'e' || char = 'E' then
      let (negative, rest) := readSign rest
      let (digits, rest) := readDigits rest
      if digits = [] then none
      else some (if negative then -natural 10 digits else natural 10 digits, rest)
    else some (0, char :: rest)
  | [] => some (0, [])

def readMinus : List Char → Bool × List Char
  | '-' :: rest => (true, rest)
  | rest => (false, rest)

def readNumber : Option (Float × List Char) := do
  let (negative, text) := readMinus text
  let (whole, rest) := readDigits text
  -- no digit at all, or a zero before others
  if whole = [] || (whole.head? = some '0' && whole.length ≠ 1) then none
  else
    let (fraction, rest) ← readFraction rest
    let (exponent, rest) ← readExponent rest
    let magnitude := Number.nearest (natural 10 (whole ++ fraction)) (exponent - fraction.length)
    return (if negative then -magnitude else magnitude, rest)

mutual

/-- Each call stands behind a character that it has read, so that the length of a text is fuel enough
to read it. -/
def readValue : ℕ → List Char → Option (Json × List Char)
  | 0, _ => none
  | fuel + 1, text =>
    match skip text with
    | '"' :: rest => (readText rest).map fun (pieces, rest) => (.string (String.ofList (join pieces)), rest)
    | '{' :: rest =>
      match skip rest with
      | '}' :: rest => some (.object [], rest)
      | rest => (readMembers fuel rest).map fun (members, rest) => (.object members, rest)
    | '[' :: rest =>
      match skip rest with
      | ']' :: rest => some (.array [], rest)
      | rest => (readItems fuel rest).map fun (items, rest) => (.array items, rest)
    | 'n' :: 'u' :: 'l' :: 'l' :: rest => some (.null, rest)
    | 't' :: 'r' :: 'u' :: 'e' :: rest => some (.bool true, rest)
    | 'f' :: 'a' :: 'l' :: 's' :: 'e' :: rest => some (.bool false, rest)
    | rest => (readNumber rest).map fun (value, rest) => (.number value, rest)

def readMembers : ℕ → List Char → Option (List (String × Json) × List Char)
  | 0, _ => none
  | fuel + 1, text =>
    match skip text with
    | '"' :: rest => do
      let (pieces, rest) ← readText rest
      match skip rest with
      | ':' :: rest =>
        let (value, rest) ← readValue fuel rest
        let member := (String.ofList (join pieces), value)
        match skip rest with
        | ',' :: rest => (readMembers fuel rest).map fun (members, rest) => (member :: members, rest)
        | '}' :: rest => some ([member], rest)
        | _ => none
      | _ => none
    | _ => none

def readItems : ℕ → List Char → Option (List Json × List Char)
  | 0, _ => none
  | fuel + 1, text => do
    let (value, rest) ← readValue fuel text
    match skip rest with
    | ',' :: rest => (readItems fuel rest).map fun (items, rest) => (value :: items, rest)
    | ']' :: rest => some ([value], rest)
    | _ => none

end

/-- `JSON.parse(text)` -/
def parse (text : String) : Option Json :=
  match readValue (text.toList.length + 1) text.toList with
  | some (value, rest) => if skip rest = [] then some value else none
  | none => none

/-! The writer. -/

def escape : List Char :=
  if char = '"' then ['\\', '"']
  else if char = '\\' then ['\\', '\\']
  else if char = '\x08' then ['\\', 'b']
  else if char = '\x0c' then ['\\', 'f']
  else if char = '\n' then ['\\', 'n']
  else if char = '\r' then ['\\', 'r']
  else if char = '\t' then ['\\', 't']
  else if char.toNat < 0x20 then
    ['\\', 'u', '0', '0', digit (char.toNat / 16), digit (char.toNat % 16)]
  else [char]

/-- `JSON.stringify(text)` -/
def writeText (text : String) : List Char :=
  '"' :: text.toList.flatMap escape ++ ['"']

/-- The members of an object whose values are written already. -/
def writeMembers : List (String × List Char) → List Char
  | [] => []
  | [(name, value)] => writeText name ++ ':' :: value
  | (name, value) :: rest => writeText name ++ ':' :: value ++ ',' :: writeMembers rest

def writeObject (members : List (String × List Char)) : List Char :=
  '{' :: writeMembers members ++ ['}']

/-- The items of an array, which are written already. -/
def writeItems : List (List Char) → List Char
  | [] => []
  | [item] => item
  | item :: rest => item ++ ',' :: writeItems rest

/-- `JSON.stringify(value)` -/
def write : Json → List Char
  | .null => "null".toList
  | .bool value => if value then "true".toList else "false".toList
  | .number value => if value.isFinite then (Number.text value).toList else "null".toList
  | .string value => writeText value
  | .array items => '[' :: writeItems (writeAll items) ++ [']']
  | .object members => writeObject (writeEach members)
where
  writeAll : List Json → List (List Char)
    | [] => []
    | item :: rest => write item :: writeAll rest
  writeEach : List (String × Json) → List (String × List Char)
    | [] => []
    | (name, value) :: rest => (name, write value) :: writeEach rest

/-! What is written is read back. -/

theorem join_unit {unit : ℕ} (single : isHigh unit = false) (rest : List Piece) :
    join (.unit unit :: rest) = alone unit :: join rest := by
  rcases rest with _ | ⟨_ | second, rest⟩
  · rfl
  · rfl
  · rw [join, single, Bool.false_and, if_neg Bool.false_ne_true]

theorem join_control (char : Char) (control : char.toNat < 0x20) (rest : List Piece) :
    join (.unit char.toNat :: rest) = char :: join rest := by
  have high : isHigh char.toNat = false := by
    simp only [isHigh, Bool.and_eq_false_iff, decide_eq_false_iff_not]
    omega
  have low : isLow char.toNat = false := by
    simp only [isLow, Bool.and_eq_false_iff, decide_eq_false_iff_not]
    omega
  rw [join_unit high, alone, high, low, Bool.or_self, if_neg Bool.false_ne_true, Char.ofNat_toNat]

theorem readText_unit (char : Char) (control : char.toNat < 0x20) (rest : List Char) :
    readText (['\\', 'u', '0', '0', digit (char.toNat / 16), digit (char.toNat % 16)] ++ rest) =
      (readText rest).map fun (pieces, rest) => (.unit char.toNat :: pieces, rest) := by
  have zero : digitValue? '0' = some 0 := digitValue_digit 0 (by omega)
  have unit : hex? '0' '0' (digit (char.toNat / 16)) (digit (char.toNat % 16)) =
      some char.toNat := by
    simp only [hex?, zero, digitValue_digit (char.toNat / 16) (by omega),
      digitValue_digit (char.toNat % 16) (by omega), Option.bind_eq_bind, Option.bind_some,
      Option.pure_def, Option.some.injEq]
    omega
  simp only [List.cons_append, List.nil_append]
  rw [readText, if_neg (by decide), if_pos rfl]
  simp only [if_true, unit]
  cases readText rest <;> rfl

theorem readText_short {kind char : Char} (known : unescape kind = some char) (plain : kind ≠ 'u') (rest : List Char) :
    readText (['\\', kind] ++ rest) = (readText rest).map fun (pieces, rest) => (.char char :: pieces, rest) := by
  simp only [List.cons_append, List.nil_append]
  rw [readText.eq_def]
  simp only [if_neg plain, known]
  cases readText rest <;> rfl

theorem readText_plain {char : Char} (quote : char ≠ '"') (backslash : char ≠ '\\')
    (control : ¬char.toNat < 0x20) (rest : List Char) :
    readText ([char] ++ rest) = (readText rest).map fun (pieces, rest) => (.char char :: pieces, rest) := by
  simp only [List.cons_append, List.nil_append]
  rw [readText.eq_def]
  simp only [if_neg quote, if_neg backslash, if_neg control]
  cases readText rest <;> rfl

/-- An escaped character is one piece, which stands for the character. -/
theorem readText_escape (char : Char) : ∃ piece, (∀ rest, join (piece :: rest) = char :: join rest) ∧
      ∀ rest, readText (escape char ++ rest) = (readText rest).map fun (pieces, rest) => (piece :: pieces, rest) := by
  unfold escape
  by_cases quote : char = '"'
  · rw [if_pos quote, quote]
    exact ⟨.char '"', fun _ => rfl, readText_short rfl (by decide)⟩
  rw [if_neg quote]
  by_cases backslash : char = '\\'
  · rw [if_pos backslash, backslash]
    exact ⟨.char '\\', fun _ => rfl, readText_short rfl (by decide)⟩
  rw [if_neg backslash]
  by_cases backspace : char = '\x08'
  · rw [if_pos backspace, backspace]
    exact ⟨.char '\x08', fun _ => rfl, readText_short rfl (by decide)⟩
  rw [if_neg backspace]
  by_cases feed : char = '\x0c'
  · rw [if_pos feed, feed]
    exact ⟨.char '\x0c', fun _ => rfl, readText_short rfl (by decide)⟩
  rw [if_neg feed]
  by_cases line : char = '\n'
  · rw [if_pos line, line]
    exact ⟨.char '\n', fun _ => rfl, readText_short rfl (by decide)⟩
  rw [if_neg line]
  by_cases carriage : char = '\r'
  · rw [if_pos carriage, carriage]
    exact ⟨.char '\r', fun _ => rfl, readText_short rfl (by decide)⟩
  rw [if_neg carriage]
  by_cases tab : char = '\t'
  · rw [if_pos tab, tab]
    exact ⟨.char '\t', fun _ => rfl, readText_short rfl (by decide)⟩
  rw [if_neg tab]
  by_cases control : char.toNat < 0x20
  · rw [if_pos control]
    exact ⟨.unit char.toNat, join_control char control, readText_unit char control⟩
  · rw [if_neg control]
    exact ⟨.char char, fun _ => rfl, readText_plain quote backslash control⟩

theorem readText_written (text : List Char) (rest : List Char) :
    ∃ pieces, join pieces = text ∧ readText (text.flatMap escape ++ '"' :: rest) = some (pieces, rest) := by
  induction text with
  | nil =>
    refine ⟨[], rfl, ?_⟩
    simp only [List.flatMap_nil, List.nil_append]
    rw [readText.eq_def]
    rfl
  | cons char text ih =>
    obtain ⟨pieces, joined, read⟩ := ih
    obtain ⟨piece, stands, first⟩ := readText_escape char
    refine ⟨piece :: pieces, by rw [stands, joined], ?_⟩
    rw [List.flatMap_cons, List.append_assoc, first, read]
    rfl

/-- A text that is read as this value in front of anything that ends a number. -/
def Reads (value : Json) : Prop :=
  ∀ fuel rest, text.length ≤ fuel → (∀ char ∈ rest.head?, char = ',' ∨ char = '}') →
    readValue (fuel + 1) (text ++ rest) = some (value, rest)

theorem skip_of_head {char : Char} {rest : List Char} (visible : isSpace char = false) :
    skip (char :: rest) = char :: rest := by
  simp [skip, visible]

variable (rest : List Char)

theorem skip_quote : skip ('"' :: rest) = '"' :: rest := skip_of_head rfl

theorem skip_colon : skip (':' :: rest) = ':' :: rest := skip_of_head rfl

theorem skip_comma : skip (',' :: rest) = ',' :: rest := skip_of_head rfl

theorem skip_brace : skip ('}' :: rest) = '}' :: rest := skip_of_head rfl

/-- A text is read in front of anything. -/
theorem readValue_text (text : String) (fuel : ℕ) (rest : List Char) :
    readValue (fuel + 1) (writeText text ++ rest) = some (.string text, rest) := by
  obtain ⟨pieces, joined, read⟩ := readText_written text.toList rest
  have start : skip (writeText text ++ rest) = '"' :: (text.toList.flatMap escape ++ '"' :: rest) := by
    simp only [writeText, List.cons_append, List.append_assoc, List.nil_append]
    exact skip_of_head rfl
  rw [readValue, start]
  simp only [read, Option.map_some, joined, String.ofList_toList]

theorem reads_text (text : String) : Reads (writeText text) (.string text) :=
  fun fuel rest _ _ => readValue_text text fuel rest

/-- A member of an object: its name, its value as it is written, and its value. -/
structure Member where
  name : String
  written : List Char
  value : Json
  reads : Reads written value

def Member.source (member : Member) : String × List Char := (member.name, member.written)

def Member.target (member : Member) : String × Json := (member.name, member.value)

theorem readMembers_written (members : List Member) (some_member : members ≠ []) (fuel : ℕ)
    (rest : List Char) (enough : (writeMembers (members.map Member.source)).length ≤ fuel) :
    readMembers (fuel + 1) (writeMembers (members.map Member.source) ++ '}' :: rest) =
      some (members.map Member.target, rest) := by
  induction members generalizing fuel with
  | nil => exact absurd rfl some_member
  | cons member others ih =>
    obtain ⟨name, written, value, reads⟩ := member
    -- what follows the value of the first member
    have first (after : List Char) (long : (writeText name).length + written.length + 1 ≤ fuel)
        (ends : ∀ char ∈ after.head?, char = ',' ∨ char = '}') :
        ∃ fuel' pieces, fuel = fuel' + 1 ∧ join pieces = name.toList ∧
          readText (name.toList.flatMap escape ++ '"' :: ':' :: (written ++ after)) =
            some (pieces, ':' :: (written ++ after)) ∧
          readValue fuel (written ++ after) = some (value, after) := by
      obtain ⟨fuel', rfl⟩ : ∃ fuel', fuel = fuel' + 1 := ⟨fuel - 1, by omega⟩
      obtain ⟨pieces, joined, read⟩ := readText_written name.toList (':' :: (written ++ after))
      refine ⟨fuel', pieces, rfl, joined, read, reads fuel' after ?_ ends⟩
      simp only [writeText, List.length_append, List.length_cons] at long
      omega
    cases others with
    | nil =>
      simp only [List.map_cons, List.map_nil, Member.source, writeMembers, List.length_append,
        List.length_cons] at enough
      obtain ⟨fuel', pieces, -, joined, name_read, value_read⟩ :=
        first ('}' :: rest) (by omega) (by simp)
      have text : writeMembers (List.map Member.source [⟨name, written, value, reads⟩]) ++ '}' :: rest =
          '"' :: (name.toList.flatMap escape ++ '"' :: ':' :: (written ++ '}' :: rest)) := by
        simp [Member.source, writeMembers, writeText]
      rw [text, readMembers, skip_of_head rfl]
      simp only [name_read, Option.bind_eq_bind, Option.bind_some, skip_colon,
        value_read, skip_brace, joined, String.ofList_toList]
      rfl
    | cons second others =>
      simp only [List.map_cons, Member.source, writeMembers, List.length_append,
        List.length_cons] at enough
      obtain ⟨fuel', pieces, more, joined, name_read, value_read⟩ :=
        first (',' :: (writeMembers ((second :: others).map Member.source) ++ '}' :: rest))
          (by omega) (by simp)
      have text : writeMembers (List.map Member.source (⟨name, written, value, reads⟩ :: second :: others)) ++
          '}' :: rest = '"' :: (name.toList.flatMap escape ++ '"' :: ':' :: (written ++
            ',' :: (writeMembers ((second :: others).map Member.source) ++ '}' :: rest))) := by
        simp [Member.source, writeMembers, writeText]
      have others_read := ih (by simp) fuel' (by
        simp only [List.map_cons, Member.source]
        omega)
      rw [← more] at others_read
      rw [text, readMembers, skip_of_head rfl]
      simp only [name_read, Option.bind_eq_bind, Option.bind_some, skip_colon,
        value_read, skip_comma, others_read, joined, String.ofList_toList]
      rfl

theorem reads_object (members : List Member) (some_member : members ≠ []) :
    Reads (writeObject (members.map Member.source)) (.object (members.map Member.target)) := by
  intro fuel rest enough _
  obtain ⟨member, others, rfl⟩ := List.exists_cons_of_ne_nil some_member
  have start : ∃ after, writeMembers ((member :: others).map Member.source) = '"' :: after := by
    cases others with
    | nil | cons second others => exact ⟨_, rfl⟩
  obtain ⟨after, quoted⟩ := start
  simp only [writeObject, List.length_append, List.length_cons] at enough
  obtain ⟨fuel', rfl⟩ : ∃ fuel', fuel = fuel' + 1 := ⟨fuel - 1, by omega⟩
  have members_read := readMembers_written (member :: others) (by simp) fuel' rest (by omega)
  have text : writeObject ((member :: others).map Member.source) ++ rest =
      '{' :: (writeMembers ((member :: others).map Member.source) ++ '}' :: rest) := by
    simp [writeObject]
  rw [text, readValue, skip_of_head rfl]
  rw [quoted] at members_read ⊢
  simp only [List.cons_append, skip_quote] at members_read ⊢
  change (readMembers (fuel' + 1) ('"' :: (after ++ '}' :: rest))).map _ = _
  rw [members_read]
  rfl

theorem reads_one : Reads ['1'] (.number (Number.nearest 1 0)) := by
  intro fuel rest _ ends
  have digits : readDigits ('1' :: rest) = (['1'], rest) := by
    cases rest with
    | nil => rfl
    | cons char rest =>
      have plain : char.isDigit = false := by
        rcases ends char rfl with rfl | rfl
        · rfl
        · rfl
      simp [readDigits, plain]
  have fraction : readFraction rest = some ([], rest) := by
    cases rest with
    | nil => rfl
    | cons char rest =>
      rcases ends char rfl with rfl | rfl
      · rfl
      · rfl
  have exponent : readExponent rest = some (0, rest) := by
    cases rest with
    | nil => rfl
    | cons char rest =>
      rcases ends char rfl with rfl | rfl
      · rfl
      · rfl
  have minus : readMinus ('1' :: rest) = (false, '1' :: rest) := rfl
  have number : readNumber ('1' :: rest) = some (Number.nearest 1 0, rest) := by
    have plain : (decide (['1'] = []) || decide (['1'].head? = some '0') && decide (['1'].length ≠ 1)) =
        false := by decide
    simp only [readNumber, minus, digits, plain, Bool.false_eq_true, if_false, fraction,
      Option.bind_eq_bind, Option.bind_some, exponent]
    rfl
  rw [List.singleton_append, readValue, skip_of_head rfl]
  change (readNumber ('1' :: rest)).map _ = _
  rw [number]
  rfl

theorem parse_written {text : List Char} {value : Json} (reads : Reads text value) :
    parse (String.ofList text) = some value := by
  have whole := reads text.length [] le_rfl (by simp)
  rw [List.append_nil] at whole
  simp only [parse, String.toList_ofList, whole]
  rfl

end Json

end ProxyPay.Library
