import Mathlib

/-! Texts as scripts read them: a text that is absent or empty counts for nothing, and blanks at both
ends are dropped. -/

namespace ProxyPay.Library.Text

/-- The text, if it counts as true. -/
def truthy (text : Option String) : Option String :=
  text.filter (· ≠ "")

/-- `first || second` -/
def orElse (first second : Option String) : Option String :=
  match truthy first with
  | some text => some text
  | none => second

def includes (text part : String) : Bool :=
  text.toList.tails.any part.toList.isPrefixOf

/-- White space and line terminators -/
def isBlank (char : Char) : Bool :=
  [0x9, 0xA, 0xB, 0xC, 0xD, 0x20, 0xA0, 0x1680, 0x2028, 0x2029, 0x202F, 0x205F, 0x3000, 0xFEFF].contains
    char.toNat || (0x2000 ≤ char.toNat && char.toNat ≤ 0x200A)

def trim (text : String) : String :=
  String.ofList ((text.toList.dropWhile isBlank).reverse.dropWhile isBlank).reverse

/-- A digit of a base up to sixteen. -/
def digit (value : Nat) : Char :=
  if value < 10 then Char.ofNat ('0'.toNat + value) else Char.ofNat ('a'.toNat + (value - 10))

def digitValue? (char : Char) : Option Nat :=
  if char.isDigit then some (char.toNat - '0'.toNat)
  else if 'a' ≤ char.toLower ∧ char.toLower ≤ 'f' then some (char.toLower.toNat - 'a'.toNat + 10)
  else none

/-- The number that digits of this base stand for. -/
def natural (base : Nat) (text : List Char) : Nat :=
  text.foldl (fun value char => value * base + (digitValue? char).getD 0) 0

/-- `parseInt(text, 10)` -/
def parseInt (text : String) : Option Int :=
  match text.toList.dropWhile isBlank with
  | '-' :: rest => (digits rest).map fun value => -value
  | '+' :: rest => digits rest
  | rest => digits rest
where
  digits (text : List Char) : Option Int :=
    match text.takeWhile Char.isDigit with
    | [] => none
    | read => some (natural 10 read)

/-- The last digits of a number. -/
def pad (base : Nat) : Nat → Nat → List Char
  | 0, _ => []
  | places + 1, value => pad base places (value / base) ++ [digit (value % base)]

/-- Upper and lower case of texts. -/
structure Casing where
  upper : String → String
  lower : String → String

def Casing.ascii : Casing := ⟨String.toUpper, String.toLower⟩

variable {text : Option String}

theorem truthy_eq_some {value : String} : truthy text = some value ↔ text = some value ∧ value ≠ "" := by
  simp [truthy, Option.filter_eq_some_iff]

/-- An absent text counts like the empty one. -/
theorem truthy_getD : truthy (some (text.getD "")) = truthy text := by
  cases text with
  | none => simp [truthy]
  | some text => rfl

theorem digitValue_digit : ∀ value < 16, digitValue? (digit value) = some value := by decide +kernel

theorem natural_toDigits (value : Nat) : natural 10 (Nat.toDigits 10 value) = value := by
  have each : ∀ text : List Char, (∀ char ∈ text, char.isDigit = true) → ∀ sofar,
      text.foldl (fun sofar char => sofar * 10 + (digitValue? char).getD 0) sofar = Nat.ofDigitChars 10 text sofar := by
    intro text
    induction text with
    | nil => simp
    | cons first rest ih =>
      intro digits sofar
      have isDigit := digits first List.mem_cons_self
      rw [List.foldl_cons, Nat.ofDigitChars_cons, ih fun char member => digits char (List.mem_cons_of_mem _ member)]
      simp [digitValue?, isDigit, Nat.mul_comm]
  have digits : ∀ char ∈ Nat.toDigits 10 value, char.isDigit = true :=
    fun char member => Nat.isDigit_of_mem_toDigits (by decide) (by decide) member
  exact (each _ digits 0).trans Nat.ofDigitChars_ten_toDigits

variable {char : Char}

theorem isBlank_digit (isDigit : char.isDigit = true) : isBlank char = false := by
  have inside : 48 ≤ char.toNat ∧ char.toNat ≤ 57 := by
    simp only [Char.isDigit, Bool.and_eq_true, decide_eq_true_eq] at isDigit
    exact ⟨isDigit.1, isDigit.2⟩
  simp [isBlank]
  omega

/-- A number is read from its decimal text. -/
theorem parseInt_toString (value : Nat) : parseInt (toString value) = some (value : Int) := by
  have spelled : (toString value).toList = Nat.toDigits 10 value := Nat.toList_repr
  have digits : ∀ char ∈ Nat.toDigits 10 value, char.isDigit = true :=
    fun char member => Nat.isDigit_of_mem_toDigits (by decide) (by decide) member
  have all : (Nat.toDigits 10 value).takeWhile Char.isDigit = Nat.toDigits 10 value := by
    have taken := @List.takeWhile_append_of_pos _ Char.isDigit (Nat.toDigits 10 value) [] digits
    simpa using taken
  have read : parseInt.digits (Nat.toDigits 10 value) = some (value : Int) := by
    rw [parseInt.digits, all]
    split
    · rename_i nothing
      exact absurd nothing Nat.toDigits_ne_nil
    · rw [natural_toDigits]
  unfold parseInt
  rw [spelled]
  cases text : Nat.toDigits 10 value with
  | nil => exact absurd text Nat.toDigits_ne_nil
  | cons first rest =>
    have isDigit : first.isDigit = true := digits first (by rw [text]; exact List.mem_cons_self)
    rw [text] at read
    rw [List.dropWhile_cons_of_neg (by simp [isBlank_digit isDigit])]
    split
    · simp_all
    · simp_all
    · exact read

variable {base : Nat}

theorem natural_pad (positive : 0 < base) (known : base ≤ 16) (places value : Nat) :
    natural base (pad base places value) = value % base ^ places := by
  induction places generalizing value with
  | zero => simp [pad, natural, Nat.mod_one]
  | succ places ih =>
    have small : value % base < 16 := Nat.lt_of_lt_of_le (Nat.mod_lt _ positive) known
    have step : natural base (pad base places (value / base) ++ [digit (value % base)]) =
        natural base (pad base places (value / base)) * base + value % base := by
      simp only [natural, List.foldl_append, List.foldl_cons, List.foldl_nil,
        digitValue_digit _ small, Option.getD_some]
    rw [pad, step, ih, Nat.pow_succ', Nat.mod_mul, Nat.mul_comm base, Nat.add_comm]

@[simp] theorem length_pad (base places value : Nat) : (pad base places value).length = places := by
  induction places generalizing value with
  | zero => rfl
  | succ places ih => rw [pad, List.length_append, ih, List.length_singleton]

theorem digitValue_of_mem_pad (positive : 0 < base) (known : base ≤ 16) :
    ∀ {places value : Nat}, char ∈ pad base places value → (digitValue? char).isSome := by
  intro places
  induction places with
  | zero => simp [pad]
  | succ places ih =>
    intro value member
    rw [pad, List.mem_append, List.mem_singleton] at member
    rcases member with earlier | rfl
    · exact ih earlier
    · have small : value % base < 16 := Nat.lt_of_lt_of_le (Nat.mod_lt _ positive) known
      rw [digitValue_digit _ small]
      rfl

end ProxyPay.Library.Text
