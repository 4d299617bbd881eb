import Mathlib.Data.Int.Log
import Mathlib.Data.List.TakeWhile
import ProxyPay.Library.Rounding
import ProxyPay.Library.Text

/-! Binary64 numbers as texts: the shortest decimal that reads back as the same number, and
how ECMAScript and JSON write it. -/

namespace ProxyPay.Library.Number

variable (number : Float)

/-- The rational that a finite number stands for. -/
def exact : ℚ :=
  let bits := number.toBits.toNat
  let fraction : ℚ := (bits % 2 ^ 52 : ℕ)
  let exponent : ℤ := (bits / 2 ^ 52 % 2 ^ 11 : ℕ)
  let magnitude :=
    if exponent = 0 then fraction * 2 ^ (-1074 : ℤ)
    else (2 ^ 52 + fraction) * 2 ^ (exponent - 1075)
  if bits / 2 ^ 63 = 0 then magnitude else -magnitude

/-- The number nearest to `digits * 10 ^ exponent`. -/
def nearest (digits : ℕ) (exponent : ℤ) : Float :=
  Float.ofScientific digits (exponent < 0) exponent.natAbs

/-- The two integers around a rational, the nearer one first. -/
def around (value : ℚ) : List ℕ :=
  if value - ⌊value⌋₊ ≤ 1 / 2 then [⌊value⌋₊, ⌈value⌉₊] else [⌈value⌉₊, ⌊value⌋₊]

/-- The digits of the shortest decimal that reads back as a positive number, and the exponent of
their last place. Seventeen digits always suffice. -/
def shortest : Option (ℕ × ℤ) :=
  let value := exact number
  (List.range 18).findSome? fun place =>
    let exponent := Int.log 10 value + 1 - place
    ((around (value / 10 ^ exponent)).find? fun digits => nearest digits exponent == number).map
      fun digits => (digits, exponent)

def zeros (count : ℕ) : String :=
  "".pushn '0' count

/-- The decimal text of a positive number. -/
def positiveText (digits : ℕ) (exponent : ℤ) : String :=
  let text := toString digits
  let places : ℤ := text.length
  let point := exponent + places
  if places ≤ point ∧ point ≤ 21 then text ++ zeros exponent.toNat
  else if 0 < point ∧ point ≤ 21 then
    String.ofList (text.toList.take point.toNat) ++ "." ++ String.ofList (text.toList.drop point.toNat)
  else if -6 < point ∧ point ≤ 0 then "0." ++ zeros (-point).toNat ++ text
  else
    let power := (if 0 < point then "e+" else "e-") ++ toString (point - 1).natAbs
    if places = 1 then text ++ power
    else String.ofList (text.toList.take 1) ++ "." ++ String.ofList (text.toList.drop 1) ++ power

/-- `String(number)` -/
def text : String :=
  if number.isNaN then "NaN"
  else if number == 0 then "0"
  else
    let magnitude := if number.isInf then "Infinity" else
      match shortest number.abs with
      | some (digits, exponent) => positiveText digits exponent
      | none => ""
    if number < 0 then "-" ++ magnitude else magnitude

/-- The rational that `JSON.stringify(number)` writes; a number that is not finite is written
as null. -/
def json : Option ℚ :=
  if !number.isFinite then none
  else if number == 0 then some 0
  else
    (shortest number.abs).map fun (digits, exponent) =>
      if number < 0 then -(digits * 10 ^ exponent) else digits * 10 ^ exponent

/-- `number.toFixed(places)` for a number below `10 ^ 21`. -/
def toFixed (places : ℕ) (number : Float) : String :=
  let units := ⌊|exact number| * 10 ^ places + 1 / 2⌋₊
  let fraction := toString (units % 10 ^ places)
  (if number < 0 then "-" else "") ++ toString (units / 10 ^ places) ++
    (if places = 0 then "" else "." ++ zeros (places - fraction.length) ++ fraction)

/-- `value || 0` -/
def orZero (value : Option Float) : Float :=
  match value with
  | none => 0
  | some number => if number.isNaN || number == 0 then 0 else number

end ProxyPay.Library.Number

/-! Numbers as they are written: a sign, and digits before and behind a point. Two numerals of one number may differ
in their zeros only. -/

namespace ProxyPay.Library

open Text (natural digitValue?)

structure Numeral where
  negative : Bool
  whole : List Char
  fraction : List Char
  some_digit : whole ≠ []
  digits : ∀ char ∈ whole ++ fraction, char.isDigit = true

namespace Numeral

variable {first second : Numeral}

def unsigned (numeral : Numeral) : List Char :=
  numeral.whole ++ if numeral.fraction = [] then [] else '.' :: numeral.fraction

def text (numeral : Numeral) : List Char :=
  (if numeral.negative then ['-'] else []) ++ numeral.unsigned

def magnitude (numeral : Numeral) : ℚ :=
  natural 10 (numeral.whole ++ numeral.fraction) / 10 ^ numeral.fraction.length

def value (numeral : Numeral) : ℚ :=
  if numeral.negative then -numeral.magnitude else numeral.magnitude

/-- How many digits stand before and behind the point. -/
def form (numeral : Numeral) : ℕ × ℕ :=
  (numeral.whole.length, numeral.fraction.length)

/-- `/^\d+(\.\d+)?$/` -/
def readUnsigned (negative : Bool) (text : List Char) : Option Numeral :=
  let whole := text.takeWhile Char.isDigit
  let fraction := (text.dropWhile Char.isDigit).drop 1
  if read : whole ≠ [] ∧ fraction.all Char.isDigit = true ∧
      (text = whole ∨ fraction ≠ [] ∧ text = whole ++ '.' :: fraction) then
    some ⟨negative, whole, fraction, read.1, by
      intro char member
      rcases List.mem_append.mp member with before | behind
      · exact List.mem_takeWhile_imp before
      · exact List.all_eq_true.mp read.2.1 char behind⟩
  else none

def read (text : List Char) : Option Numeral :=
  match text with
  | '-' :: rest => readUnsigned true rest
  | rest => readUnsigned false rest

section

variable (numeral : Numeral)

include numeral

theorem magnitude_nonneg : 0 ≤ numeral.magnitude := by
  unfold magnitude
  positivity

theorem abs_value : |numeral.value| = numeral.magnitude := by
  unfold value
  split
  · rw [abs_neg, abs_of_nonneg numeral.magnitude_nonneg]
  · rw [abs_of_nonneg numeral.magnitude_nonneg]

theorem unsigned_append : ∃ rest, numeral.unsigned = numeral.whole ++ rest ∧
    rest.takeWhile Char.isDigit = [] ∧ rest.dropWhile Char.isDigit = rest ∧ rest.drop 1 = numeral.fraction := by
  unfold unsigned
  cases known : numeral.fraction with
  | nil => exact ⟨[], rfl, rfl, rfl, rfl⟩
  | cons digit rest => exact ⟨'.' :: digit :: rest, rfl, rfl, rfl, rfl⟩

theorem split_unsigned : numeral.unsigned.takeWhile Char.isDigit = numeral.whole ∧
    (numeral.unsigned.dropWhile Char.isDigit).drop 1 = numeral.fraction := by
  have digits : ∀ char ∈ numeral.whole, char.isDigit = true :=
    fun char member => numeral.digits char (List.mem_append_left _ member)
  obtain ⟨rest, same, taken, dropped, fraction⟩ := numeral.unsigned_append
  rw [same, List.takeWhile_append_of_pos digits, List.dropWhile_append_of_pos digits, taken, dropped]
  exact ⟨List.append_nil _, fraction⟩

/-- A numeral is read back. -/
theorem readUnsigned_unsigned : readUnsigned numeral.negative numeral.unsigned = some numeral := by
  obtain ⟨whole, fraction⟩ := numeral.split_unsigned
  have digits : numeral.fraction.all Char.isDigit = true :=
    List.all_eq_true.mpr fun char member => numeral.digits char (List.mem_append_right _ member)
  have spelled : numeral.unsigned = numeral.whole ∨
      numeral.fraction ≠ [] ∧ numeral.unsigned = numeral.whole ++ '.' :: numeral.fraction := by
    unfold unsigned
    by_cases none : numeral.fraction = []
    · left
      rw [if_pos none, List.append_nil]
    · simp_all
  unfold readUnsigned
  simp only [whole, fraction]
  rw [dif_pos ⟨numeral.some_digit, digits, spelled⟩]

end

theorem of_readUnsigned {negative : Bool} {text : List Char} {numeral : Numeral}
    (found : readUnsigned negative text = some numeral) :
    numeral.negative = negative ∧ text = numeral.unsigned := by
  unfold readUnsigned at found
  simp only at found
  split at found
  · rename_i known
    cases found
    refine ⟨rfl, ?_⟩
    unfold unsigned
    rcases known.2.2 with plain | ⟨some_digit, whole⟩
    · have none : (text.dropWhile Char.isDigit).drop 1 = [] := by
        have parts := @List.takeWhile_append_dropWhile _ Char.isDigit text
        rw [← plain] at parts
        rw [List.append_right_eq_self.mp parts]
        rfl
      rw [if_pos none, List.append_nil]
      exact plain
    · rw [if_neg some_digit]
      exact whole
  · cases found

theorem head_unsigned (numeral : Numeral) : ∃ first rest, numeral.unsigned = first :: rest ∧ first.isDigit = true := by
  unfold unsigned
  cases known : numeral.whole with
  | nil => exact absurd known numeral.some_digit
  | cons first rest =>
    refine ⟨first, _, rfl, numeral.digits first ?_⟩
    rw [known]
    exact List.mem_append_left _ List.mem_cons_self

theorem read_text (numeral : Numeral) : read numeral.text = some numeral := by
  have back := numeral.readUnsigned_unsigned
  unfold text
  cases sign : numeral.negative with
  | true =>
    rw [sign] at back
    exact back
  | false =>
    rw [sign] at back
    obtain ⟨first, rest, same, digit⟩ := numeral.head_unsigned
    have plain : first ≠ '-' := by
      intro minus
      rw [minus] at digit
      cases digit
    show read numeral.unsigned = _
    rw [same] at back ⊢
    unfold read
    split
    · simp_all
    · exact back

/-! Numerals of the same number. -/

theorem natural_append_single (text : List Char) (char : Char) :
    natural 10 (text ++ [char]) = natural 10 text * 10 + (digitValue? char).getD 0 := by
  rw [natural, List.foldl_append]
  rfl

theorem digitValue_isDigit {char : Char} (digit : char.isDigit = true) :
    (digitValue? char).getD 0 = char.toNat - 48 ∧ 48 ≤ char.toNat ∧ char.toNat ≤ 57 := by
  refine ⟨by simp [digitValue?, digit], ?_⟩
  simp only [Char.isDigit, Bool.and_eq_true, decide_eq_true_eq] at digit
  exact ⟨digit.1, digit.2⟩

/-- Of so many digits, a number has one row. -/
theorem natural_injective {one other : List Char} (decimal : ∀ char ∈ one ++ other, char.isDigit = true)
    (length : one.length = other.length) (same : natural 10 one = natural 10 other) : one = other := by
  induction one using List.reverseRecOn generalizing other with
  | nil => exact (List.length_eq_zero_iff.mp length.symm).symm
  | append_singleton front last ih =>
    obtain ⟨before, final, rfl⟩ : ∃ before final, other = before ++ [final] := by
      rcases List.eq_nil_or_concat other with rfl | ⟨before, final, known⟩
      · simp at length
      · exact ⟨before, final, known.trans List.concat_eq_append⟩
    rw [natural_append_single, natural_append_single] at same
    obtain ⟨one_value, one_least, one_most⟩ := digitValue_isDigit (decimal last (by simp))
    obtain ⟨other_value, other_least, other_most⟩ := digitValue_isDigit (decimal final (by simp))
    rw [one_value, other_value] at same
    have fronts : natural 10 front = natural 10 before := by omega
    have lasts : last.toNat = final.toNat := by omega
    have lengths : front.length = before.length := by simpa using length
    have digits : ∀ char ∈ front ++ before, char.isDigit = true := by grind
    rw [ih digits lengths fronts, Char.toNat_inj.mp lasts]

theorem unsigned_inj : first.unsigned = second.unsigned ↔
    first.whole = second.whole ∧ first.fraction = second.fraction := by
  constructor
  · intro same
    obtain ⟨whole, fraction⟩ := first.split_unsigned
    rw [same] at whole fraction
    exact ⟨whole.symm.trans second.split_unsigned.1, fraction.symm.trans second.split_unsigned.2⟩
  · intro same
    rw [unsigned, unsigned, same.1, same.2]

/-- Two numerals without their signs are the same text if they have the same form and stand for the same number. -/
theorem unsigned_eq_iff : first.unsigned = second.unsigned ↔
    first.form = second.form ∧ first.magnitude = second.magnitude := by
  rw [unsigned_inj]
  constructor
  · intro same
    obtain ⟨whole, fraction⟩ := same
    rw [form, form, magnitude, magnitude, whole, fraction]
    exact ⟨rfl, rfl⟩
  · intro same
    obtain ⟨form, magnitude⟩ := same
    have whole : first.whole.length = second.whole.length := congrArg Prod.fst form
    have fraction : first.fraction.length = second.fraction.length := congrArg Prod.snd form
    have power : (10 : ℚ) ^ second.fraction.length ≠ 0 := by positivity
    have naturals : natural 10 (first.whole ++ first.fraction) = natural 10 (second.whole ++ second.fraction) := by simp_all [fraction, div_left_inj', Numeral.magnitude]
    have digits : ∀ char ∈ (first.whole ++ first.fraction) ++ (second.whole ++ second.fraction),
        char.isDigit = true := by
      intro char member
      rcases List.mem_append.mp member with here | there
      · exact first.digits char here
      · exact second.digits char there
    have lengths : (first.whole ++ first.fraction).length = (second.whole ++ second.fraction).length := by simp_all
    exact List.append_inj (natural_injective digits lengths naturals) whole

theorem value_of_positive (positive : first.negative = false) : first.value = first.magnitude := by
  rw [value, positive, if_neg Bool.false_ne_true]

end Numeral

/-! Decimals of a database as texts. -/

namespace Decimal

open Text (pad digit)

theorem isDigit_pad (places value : ℕ) : ∀ char ∈ pad 10 places value, char.isDigit = true := by
  have small : ∀ value < 10, (digit value).isDigit = true := by decide +kernel
  induction places generalizing value with
  | zero => nofun
  | succ places ih => grind [pad, List.mem_append, List.mem_singleton]

variable {precision scale : ℕ}

/-- `column::text`: all places behind the point are written. -/
def numeral (decimal : Decimal precision scale) : Numeral where
  negative := decimal.units < 0
  whole := Nat.toDigits 10 (decimal.units.natAbs / 10 ^ scale)
  fraction := pad 10 scale (decimal.units.natAbs % 10 ^ scale)
  some_digit := Nat.toDigits_ne_nil
  digits := by
    intro char member
    rcases List.mem_append.mp member with whole | fraction
    · exact Nat.isDigit_of_mem_toDigits (by decide) (by decide) whole
    · exact isDigit_pad _ _ char fraction

theorem natural_append (text more : List Char) :
    natural 10 (text ++ more) = natural 10 text * 10 ^ more.length + natural 10 more := by
  induction more using List.reverseRecOn with
  | nil => simp [natural]
  | append_singleton more char ih =>
    rw [← List.append_assoc, Numeral.natural_append_single, ih, Numeral.natural_append_single, List.length_append,
      List.length_singleton, Nat.pow_succ]
    ring

/-- The last digits of a number that has no more. -/
theorem pad_eq {places value : ℕ} (some_place : 0 < places) (small : value < 10 ^ places) :
    pad 10 places value = List.replicate (places - (Nat.toDigits 10 value).length) '0' ++ Nat.toDigits 10 value := by
  have fits : (Nat.toDigits 10 value).length ≤ places := (Nat.length_toDigits_le_iff (by decide) some_place).mpr small
  have zeros (count : ℕ) : natural 10 (List.replicate count '0') = 0 := by
    induction count with
    | zero => rfl
    | succ count ih => rw [List.replicate_succ', Numeral.natural_append_single, ih]; rfl
  apply Numeral.natural_injective
  · intro char member
    rcases List.mem_append.mp member with padded | other
    · exact isDigit_pad _ _ char padded
    · rcases List.mem_append.mp other with zero | digit
      · rw [List.eq_of_mem_replicate zero]
        rfl
      · exact Nat.isDigit_of_mem_toDigits (by decide) (by decide) digit
  · rw [Text.length_pad, List.length_append, List.length_replicate]
    omega
  · rw [Text.natural_pad (by decide) (by decide), natural_append, zeros, Text.natural_toDigits, Nat.mod_eq_of_lt small,
      Nat.zero_mul, Nat.zero_add]

theorem toList_pushn (char : Char) (count : ℕ) : ("".pushn char count).toList = List.replicate count char := by
  rw [String.pushn_eq_repeat_push]
  induction count with
  | zero => rfl
  | succ count ih =>
    show ((Nat.repeat (fun text => text.push char) count "").push char).toList = _
    rw [String.toList_push, ih, ← List.replicate_succ']

theorem toList_text (decimal : Decimal precision scale) : decimal.text.toList = decimal.numeral.text := by
  have digits (number : ℕ) : (toString number).toList = Nat.toDigits 10 number := Nat.toList_repr
  have sign : (if decimal.units < 0 then "-" else "").toList = if decide (decimal.units < 0) then ['-'] else [] := by
    by_cases below : decimal.units < 0 <;> simp [below]
  unfold text Numeral.text Numeral.unsigned
  rw [String.toList_append, String.toList_append, sign, digits, List.append_assoc]
  congr 2
  show (if scale = 0 then "" else _).toList = if pad 10 scale (decimal.units.natAbs % 10 ^ scale) = [] then _ else _
  cases scale with
  | zero => rfl
  | succ places =>
    have some_place : pad 10 (places + 1) (decimal.units.natAbs % 10 ^ (places + 1)) ≠ [] := by
      rw [← List.length_pos_iff, Text.length_pad]
      exact Nat.succ_pos places
    have small : decimal.units.natAbs % 10 ^ (places + 1) < 10 ^ (places + 1) := Nat.mod_lt _ (by positivity)
    rw [if_neg some_place, if_neg (Nat.succ_ne_zero places)]
    show _ = '.' :: pad 10 (places + 1) (decimal.units.natAbs % 10 ^ (places + 1))
    rw [pad_eq (Nat.succ_pos places) small]
    have length : (toString (decimal.units.natAbs % 10 ^ (places + 1))).length =
        (Nat.toDigits 10 (decimal.units.natAbs % 10 ^ (places + 1))).length := by
      rw [← String.length_toList, digits]
    rw [String.toList_append, String.toList_append, toList_pushn, length, digits]
    rfl

end Decimal

end ProxyPay.Library
