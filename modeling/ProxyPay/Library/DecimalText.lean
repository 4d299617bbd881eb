import ProxyPay.Library.Rewriting

/-! Texts as decimal numbers: what `parseFloat` reads of a text, which may be only its beginning, and texts that are
decimals throughout. -/

namespace ProxyPay.Library

open Text (natural isBlank pad)

namespace DecimalText

/-- The digits behind a point. -/
def fractionPart : List Char → List Char × List Char
  | '.' :: rest => (rest.takeWhile Char.isDigit, rest.dropWhile Char.isDigit)
  | rest => ([], rest)

/-- An exponent without digits is none. -/
def exponentPart : List Char → ℤ × List Char
  | char :: rest =>
    if char = 'e' || char = 'E' then
      let (negative, after) := Json.readSign rest
      let digits := after.takeWhile Char.isDigit
      if digits = [] then (0, char :: rest)
      else (if negative then -natural 10 digits else natural 10 digits, after.dropWhile Char.isDigit)
    else (0, char :: rest)
  | [] => (0, [])

def readUnsigned (text : List Char) : Option (ℚ × List Char) :=
  let whole := text.takeWhile Char.isDigit
  let (fraction, rest) := fractionPart (text.dropWhile Char.isDigit)
  if whole = [] ∧ fraction = [] then none
  else
    let (exponent, rest) := exponentPart rest
    some (natural 10 (whole ++ fraction) * 10 ^ (exponent - fraction.length), rest)

/-- The longest beginning that is a decimal, and the rest of the text. -/
def readPrefix (text : List Char) : Option (ℚ × List Char) :=
  let (negative, text) := Json.readSign text
  (readUnsigned text).map fun (value, rest) => (if negative then -value else value, rest)

/-- `parseFloat(text)`; none where it is no number. -/
def parseFloat (text : String) : Option ℚ :=
  (readPrefix (text.toList.dropWhile isBlank)).map Prod.fst

/-- A text that is a decimal throughout. -/
def readDecimal (text : String) : Option ℚ :=
  match readPrefix text.toList with
  | some (value, []) => some value
  | _ => none

theorem readPrefix_of_blank {char : Char} (rest : List Char) (blank : isBlank char = true) :
    readPrefix (char :: rest) = none := by
  have no_digit : char.isDigit = false := by grind [Text.isBlank_digit]
  have other {sign : Char} (visible : isBlank sign = false) : char ≠ sign := by
    rintro rfl
    rw [visible] at blank
    cases blank
  have sign : Json.readSign (char :: rest) = (false, char :: rest) := by
    unfold Json.readSign
    split
    · rename_i same
      cases same
      exact absurd rfl (other rfl)
    · rename_i same
      cases same
      exact absurd rfl (other rfl)
    · rfl
  have fraction : fractionPart (char :: rest) = ([], char :: rest) := by
    unfold fractionPart
    split
    · rename_i same
      cases same
      exact absurd rfl (other rfl)
    · rfl
  simp [readPrefix, sign, readUnsigned, no_digit, fraction]

/-- A decimal is read as a whole. -/
theorem parseFloat_of_readDecimal {text : String} {value : ℚ} (read : readDecimal text = some value) :
    parseFloat text = some value := by
  unfold readDecimal at read
  split at read
  · rename_i found whole
    cases read
    have trimmed : text.toList.dropWhile isBlank = text.toList := by
      cases characters : text.toList with
      | nil => rfl
      | cons char rest =>
        rw [characters] at whole
        cases blank : isBlank char with
        | false => simp [blank]
        | true => simp_all [readPrefix_of_blank]
    rw [parseFloat, trimmed, whole]
    rfl
  · cases read

theorem readUnsigned_unsigned (numeral : Numeral) : readUnsigned numeral.unsigned = some (numeral.magnitude, []) := by
  have whole_digits : ∀ char ∈ numeral.whole, char.isDigit = true :=
    fun char member => numeral.digits char (List.mem_append_left _ member)
  have fraction_digits : ∀ char ∈ numeral.fraction, char.isDigit = true :=
    fun char member => numeral.digits char (List.mem_append_right _ member)
  have taken := numeral.split_unsigned.1
  have dropped : fractionPart (numeral.unsigned.dropWhile Char.isDigit) = (numeral.fraction, []) := by
    unfold Numeral.unsigned
    rw [List.dropWhile_append_of_pos whole_digits]
    by_cases none_given : numeral.fraction = []
    · rw [if_pos none_given, none_given]
      rfl
    · rw [if_neg none_given]
      show (numeral.fraction.takeWhile Char.isDigit, numeral.fraction.dropWhile Char.isDigit) = _
      rw [List.takeWhile_eq_self_iff.mpr fraction_digits, List.dropWhile_eq_nil_iff.mpr fraction_digits]
  have places : (10 : ℚ) ^ (0 - (numeral.fraction.length : ℤ)) = (10 ^ numeral.fraction.length)⁻¹ := by simp
  simp only [readUnsigned, taken, dropped, numeral.some_digit, false_and, if_false, exponentPart]
  rw [places, Numeral.magnitude, div_eq_mul_inv]

theorem readDecimal_text (numeral : Numeral) : readDecimal (String.ofList numeral.text) = some numeral.value := by
  have sign : Json.readSign numeral.text = (numeral.negative, numeral.unsigned) := by
    unfold Numeral.text
    cases numeral.negative with
    | true => rfl
    | false =>
      obtain ⟨first, rest, same, digit⟩ := numeral.head_unsigned
      show Json.readSign numeral.unsigned = _
      rw [same]
      unfold Json.readSign
      split
      · simp_all
      · simp_all
      · rfl
  unfold readDecimal readPrefix
  rw [String.toList_ofList, sign]
  simp only [readUnsigned_unsigned, Option.map_some]
  rw [Numeral.value]

/-- The figures are read in front of what begins with no digit, if that is not taken for their power. -/
theorem readPrefix_figures (figures : Json.Figures) {rest : List Char} (ends : ∀ char ∈ rest.head?, char.isDigit = false)
    (powered : figures.power = none → rest = []) :
    readPrefix (figures.text ++ rest) = some ((natural 10 (figures.whole ++ figures.fraction) : ℚ) *
        10 ^ (figures.exponent - figures.fraction.length), rest) := by
  obtain ⟨first, others, whole⟩ := List.exists_cons_of_ne_nil figures.some_digit
  have whole_digits : ∀ char ∈ figures.whole, char.isDigit = true := fun char member =>
    figures.decimal char (List.mem_append_left _ member)
  have fraction_digits : ∀ char ∈ figures.fraction, char.isDigit = true := fun char member =>
    figures.decimal char (List.mem_append_right _ member)
  have parts {digits after : List Char} (decimal : ∀ char ∈ digits, char.isDigit = true)
      (stops : ∀ char ∈ after.head?, char.isDigit = false) :
      (digits ++ after).takeWhile Char.isDigit = digits ∧ (digits ++ after).dropWhile Char.isDigit = after := by
    rw [List.takeWhile_append_of_pos decimal, List.dropWhile_append_of_pos decimal]
    cases after with
    | nil => simp
    | cons char after => simp [stops char rfl]
  have power : exponentPart (figures.powerText ++ rest) = (figures.exponent, rest) := by
    rw [Json.Figures.powerText, Json.Figures.exponent]
    cases given : figures.power with
    | none => simp [powered given, exponentPart]
    | some found =>
      obtain ⟨sign, digits⟩ := found
      obtain ⟨signs, some_digit, decimal⟩ := figures.signed sign digits given
      have read : Json.readSign (sign :: (digits ++ rest)) = (decide (sign = '-'), digits ++ rest) := by
        rcases signs with rfl | rfl <;> rfl
      simp [exponentPart, read, parts decimal ends, some_digit]
  have behind : ∀ char ∈ (figures.powerText ++ rest).head?, char.isDigit = false ∧ char ≠ '.' := by
    cases given : figures.power with
    | none => simp [Json.Figures.powerText, given, powered given]
    | some found => simp [Json.Figures.powerText, given]
  have fraction : fractionPart (figures.fractionText ++ (figures.powerText ++ rest)) =
      (figures.fraction, figures.powerText ++ rest) := by
    rw [Json.Figures.fractionText]
    split
    · rename_i none_given
      unfold fractionPart
      split
      · rename_i same
        exact absurd rfl (behind '.' (by rw [List.nil_append] at same; simp [same])).2
      · simp [none_given]
    · simp [fractionPart, parts fraction_digits fun char head => (behind char head).1]
  have stops : ∀ char ∈ (figures.fractionText ++ (figures.powerText ++ rest)).head?, char.isDigit = false := by
    rw [Json.Figures.fractionText]
    split
    · exact fun char head => (behind char head).1
    · simp
  have unsigned : Json.readSign (figures.text ++ rest) = (false, figures.text ++ rest) := by
    rw [Json.Figures.text, whole]
    unfold Json.readSign
    split <;> simp_all
  have split := parts whole_digits stops
  have all : figures.text ++ rest = figures.whole ++ (figures.fractionText ++ (figures.powerText ++ rest)) := by
    simp [Json.Figures.text]
  have read : readUnsigned (figures.text ++ rest) = some ((natural 10 (figures.whole ++ figures.fraction) : ℚ) *
      10 ^ (figures.exponent - figures.fraction.length), rest) := by
    simp only [readUnsigned, all, split, fraction, power, figures.some_digit, false_and, if_false]
  simp [readPrefix, unsigned, read]

end DecimalText

/-! `toFixed` as a text. -/

namespace Numeral

/-- `value.toFixed(places)` -/
def fixed (places : ℕ) (value : ℚ) : Numeral where
  negative := value < 0
  whole := Nat.toDigits 10 ((roundHalfAway (value * 10 ^ places)).natAbs / 10 ^ places)
  fraction := pad 10 places ((roundHalfAway (value * 10 ^ places)).natAbs % 10 ^ places)
  some_digit := Nat.toDigits_ne_nil
  digits := by
    intro char member
    rcases List.mem_append.mp member with whole | fraction
    · exact Nat.isDigit_of_mem_toDigits (by decide) (by decide) whole
    · exact Decimal.isDigit_pad _ _ char fraction

/-- The text stands for the rounded number. -/
theorem value_fixed (places : ℕ) (value : ℚ) : (fixed places value).value = toFixed places value := by
  have digits : natural 10 ((fixed places value).whole ++ (fixed places value).fraction) =
      (roundHalfAway (value * 10 ^ places)).natAbs := by
    show natural 10 (Nat.toDigits 10 _ ++ pad 10 places _) = _
    rw [Decimal.natural_append, Text.natural_toDigits, Text.natural_pad (by decide) (by decide), Text.length_pad,
      Nat.mod_mod, Nat.div_add_mod']
  have length : (fixed places value).fraction.length = places := Text.length_pad ..
  have magnitude : (fixed places value).magnitude = ((roundHalfAway (value * 10 ^ places)).natAbs : ℚ) / 10 ^ places := by
    rw [Numeral.magnitude, digits, length]
  have power : (0 : ℚ) < 10 ^ places := by positivity
  have absolute : ((roundHalfAway (value * 10 ^ places)).natAbs : ℚ) = |(roundHalfAway (value * 10 ^ places) : ℚ)| := by simp
  have sign : (fixed places value).negative = decide (value < 0) := rfl
  rw [Numeral.value, magnitude, sign, absolute, toFixed]
  by_cases below : value < 0
  · have units : roundHalfAway (value * 10 ^ places) ≤ 0 := by
      have opposite := roundHalfAway_nonneg (mul_nonneg (by linarith : 0 ≤ -value) power.le)
      rw [neg_mul, roundHalfAway_neg] at opposite
      omega
    rw [if_pos (decide_eq_true below), abs_of_nonpos (by exact_mod_cast units)]
    ring
  · have units := roundHalfAway_nonneg (mul_nonneg (not_lt.mp below) power.le)
    rw [if_neg (by simpa using below), abs_of_nonneg (by exact_mod_cast units)]

end Numeral

end ProxyPay.Library
