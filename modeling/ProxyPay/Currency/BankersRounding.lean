import Mathlib.Algebra.Order.Field.Power
import Mathlib.Data.Nat.Digits.Lemmas
import ProxyPay.Library.DecimalText

/-! Rounding half to even by pasting exponents behind printed numbers. -/

namespace ProxyPay.Currency

open Library
open Text (natural)

/-- A finite number by its shortest decimal notation. -/
structure Written where
  negative : Bool
  digits : ℕ
  exponent : ℤ
  shortest : digits = 0 ∧ exponent = 0 ∨ digits % 10 ≠ 0

theorem ofDigits_dropWhile (number : ℕ) : Nat.ofDigits 10 ((Nat.digits 10 number).dropWhile (· = 0)) *
      10 ^ ((Nat.digits 10 number).takeWhile (· = 0)).length = number := by
  have zeros : ∀ digits : List ℕ, (∀ digit ∈ digits, digit = 0) → Nat.ofDigits 10 digits = 0 := by
    intro digits
    induction digits with
    | nil => simp
    | cons digit rest ih => simp_all [Nat.ofDigits_cons]
  have taken := zeros ((Nat.digits 10 number).takeWhile (· = 0)) fun digit member => by
    have held := List.mem_takeWhile_imp member
    simpa using held
  have split : Nat.ofDigits 10 ((Nat.digits 10 number).takeWhile (· = 0) ++ (Nat.digits 10 number).dropWhile (· = 0)) =
      number := by
    rw [List.takeWhile_append_dropWhile, Nat.ofDigits_digits]
  rwa [Nat.ofDigits_append, taken, zero_add, mul_comm] at split

namespace Written

variable (written : Written)

def magnitude : ℚ := written.digits * 10 ^ written.exponent

def value : ℚ := if written.negative then -written.magnitude else written.magnitude

/-- How a natural number is written. -/
def ofNat (number : ℕ) : Written where
  negative := false
  digits := Nat.ofDigits 10 ((Nat.digits 10 number).dropWhile (· = 0))
  exponent := ((Nat.digits 10 number).takeWhile (· = 0)).length
  shortest := by
    cases digits : (Nat.digits 10 number).dropWhile (· = 0) with
    | nil =>
      have none_left := ofDigits_dropWhile number
      rw [digits, Nat.ofDigits_nil, zero_mul] at none_left
      simp [← none_left]
    | cons digit rest =>
      have significant : digit ≠ 0 := by
        have head := List.head?_dropWhile_not (· = 0) (Nat.digits 10 number)
        simp_all
      have small : digit < 10 := Nat.digits_lt_base (b := 10) (m := number) (by decide)
        ((List.dropWhile_suffix _).subset (by rw [digits]; exact List.mem_cons_self))
      simp only [Nat.ofDigits_cons]
      omega

theorem magnitude_nonneg : 0 ≤ written.magnitude := by
  unfold magnitude
  positivity

theorem magnitude_ofNat (number : ℕ) : (ofNat number).magnitude = number := by
  have whole := ofDigits_dropWhile number
  simp only [magnitude, ofNat, zpow_natCast]
  exact_mod_cast whole

/-- ``Number(`${Math.abs(number)}e${sign}${places}`)`` -/
def shift (sign : Char) (places : ℕ) : Option ℚ :=
  DecimalText.readDecimal (Number.positiveText written.digits written.exponent ++
    String.ofList ('e' :: sign :: Nat.toDigits 10 places))

/-- A number is printed without an exponent. -/
def Plain (magnitude : ℚ) : Prop := magnitude = 0 ∨ 1 / 10 ^ 6 ≤ magnitude ∧ magnitude < 10 ^ 21

instance (magnitude : ℚ) : Decidable (Plain magnitude) := inferInstanceAs (Decidable (_ ∨ _))

theorem plain_natCast (number : ℕ) : Plain number ↔ number < 10 ^ 21 := by
  constructor
  · rintro (zero | ⟨_, small⟩)
    · simp_all
    · exact_mod_cast small
  · intro small
    cases number with
    | zero => exact .inl (by simp)
    | succ number =>
      refine .inr ⟨?_, by exact_mod_cast small⟩
      push_cast
      linarith [(Nat.cast_nonneg number : (0 : ℚ) ≤ number)]

theorem abs_value : |written.value| = written.magnitude := by
  unfold value
  split
  · rw [abs_neg, abs_of_nonneg written.magnitude_nonneg]
  · rw [abs_of_nonneg written.magnitude_nonneg]

theorem plain_iff : Plain written.magnitude ↔ -6 < written.exponent + (Nat.toDigits 10 written.digits).length ∧
    written.exponent + (Nat.toDigits 10 written.digits).length ≤ 21 := by
  obtain ⟨negative, digits, exponent, shortest⟩ := written
  unfold Plain magnitude
  simp only
  by_cases zero : digits = 0
  · obtain ⟨-, rfl⟩ : digits = 0 ∧ exponent = 0 := by omega
    subst zero
    simp
  have positive : (0 : ℚ) < digits * 10 ^ exponent := by positivity
  obtain ⟨length, same⟩ : ∃ length, (Nat.toDigits 10 digits).length = length + 1 :=
    Nat.exists_eq_add_one.mpr (List.length_pos_iff.mpr Nat.toDigits_ne_nil)
  have below : (digits : ℚ) < 10 ^ ((length : ℤ) + 1) := by
    have fits := (Nat.length_toDigits_le_iff (b := 10) (n := digits) (by decide) (Nat.succ_pos length)).mp same.le
    exact_mod_cast fits
  have above : (10 : ℚ) ^ (length : ℤ) ≤ digits := by
    cases length with
    | zero => simpa using Nat.one_le_iff_ne_zero.mpr zero
    | succ length =>
      have large := mt (Nat.length_toDigits_le_iff (b := 10) (n := digits) (by decide) (Nat.succ_pos length)).mpr (by omega)
      exact_mod_cast not_lt.mp large
  have lower (power : ℤ) : power ≤ length + exponent → (10 : ℚ) ^ power ≤ digits * 10 ^ exponent := by
    intro least
    calc (10 : ℚ) ^ power ≤ 10 ^ (length + exponent) := zpow_le_zpow_right₀ (by norm_num) least
      _ = 10 ^ (length : ℤ) * 10 ^ exponent := zpow_add₀ (by norm_num) ..
      _ ≤ digits * 10 ^ exponent := by gcongr
  have upper (power : ℤ) : length + 1 + exponent ≤ power → digits * 10 ^ exponent < (10 : ℚ) ^ power := by
    intro most
    calc digits * 10 ^ exponent < (10 : ℚ) ^ ((length : ℤ) + 1) * 10 ^ exponent := by gcongr
      _ = 10 ^ (length + 1 + exponent) := (zpow_add₀ (by norm_num) ..).symm
      _ ≤ 10 ^ power := zpow_le_zpow_right₀ (by norm_num) most
  have small : (1 / 10 ^ 6 : ℚ) = 10 ^ (-6 : ℤ) := by norm_num
  have great : (10 ^ 21 : ℚ) = 10 ^ (21 : ℤ) := by norm_num
  rw [same, small, great]
  constructor
  · rintro (none_left | ⟨least, most⟩)
    · exact absurd none_left positive.ne'
    · have first := mt (upper (-6)) (not_lt.mpr least)
      have second := mt (lower 21) (not_le.mpr most)
      push_cast
      omega
  · intro inside
    push_cast at inside
    exact .inr ⟨lower _ (by omega), upper _ (by omega)⟩

theorem shift_eq {sign : Char} (signs : sign = '+' ∨ sign = '-') (places : ℕ) :
    written.shift sign places = if Plain written.magnitude then
      some (written.magnitude * 10 ^ (if sign = '-' then -(places : ℤ) else places)) else none := by
  obtain ⟨figures, text, plain, stands⟩ := Json.exists_figures written.digits written.exponent
  rw [← written.plain_iff] at plain
  have decimal : ∀ char ∈ Nat.toDigits 10 places, char.isDigit = true :=
    fun char member => Nat.isDigit_of_mem_toDigits (by decide) (by decide) member
  have characters : (Number.positiveText written.digits written.exponent ++
      String.ofList ('e' :: sign :: Nat.toDigits 10 places)).toList =
        figures.text ++ 'e' :: sign :: Nat.toDigits 10 places := by
    rw [String.toList_append, text, String.toList_ofList]
  rw [shift, DecimalText.readDecimal, characters]
  by_cases printed : Plain written.magnitude
  · have no_power := plain.mpr printed
    obtain ⟨whole, fraction, _, some_digit, digits, _⟩ := figures
    cases no_power
    let shifted : Json.Figures := ⟨whole, fraction, some (sign, Nat.toDigits 10 places), some_digit, digits, by
      rintro _ _ ⟨⟩
      exact ⟨signs, Nat.toDigits_ne_nil, decimal⟩⟩
    have read := @DecimalText.readPrefix_figures shifted [] (by simp) nofun
    have same : shifted.text ++ [] =
        Json.Figures.text ⟨whole, fraction, none, some_digit, digits, ‹_›⟩ ++ 'e' :: sign :: Nat.toDigits 10 places := by
      simp [shifted, Json.Figures.text, Json.Figures.fractionText, Json.Figures.powerText]
    have power : shifted.exponent = if sign = '-' then -(places : ℤ) else places := by
      simp [shifted, Json.Figures.exponent, Text.natural_toDigits]
    rw [← same, read, if_pos printed, power, sub_eq_add_neg, zpow_add₀ (by norm_num), magnitude, ← stands rfl]
    simp only [shifted]
    ring_nf
  · have power : figures.power ≠ none := mt plain.mp printed
    rw [DecimalText.readPrefix_figures figures (by simp) (fun given => absurd given power), if_neg printed]

end Written

/-- The shifted number rounded to a natural number. -/
def roundShifted (shifted : ℚ) : ℕ :=
  let floor := ⌊shifted⌋₊
  let diff := shifted - floor
  if |diff - 1 / 2| < 1 / 10 ^ 9 then if floor % 2 = 0 then floor else floor + 1
  else if diff < 1 / 2 then floor
  else floor + 1

/-- `roundHalfEven(value, decimals)` of a finite value; none is `NaN`. -/
def roundHalfEven (value : Written) (decimals : ℕ) : Option ℚ := do
  let shifted ← value.shift '+' decimals
  let result ← (Written.ofNat (roundShifted shifted)).shift '-' decimals
  return (if value.value < 0 then -1 else 1) * result

/-- So close to the middle that it is taken for it, and sent to the neighbour that is further away. -/
def Misjudged (shifted : ℚ) : Prop :=
  (⌊shifted⌋₊ % 2 = 0 ∧ 1 / 2 < shifted - ⌊shifted⌋₊ ∧ shifted - ⌊shifted⌋₊ < 1 / 2 + 1 / 10 ^ 9) ∨
    (⌊shifted⌋₊ % 2 = 1 ∧ 1 / 2 - 1 / 10 ^ 9 < shifted - ⌊shifted⌋₊ ∧ shifted - ⌊shifted⌋₊ < 1 / 2)

section Shifted

variable {shifted other : ℚ}

theorem floor_bounds (nonneg : 0 ≤ shifted) : 0 ≤ shifted - ⌊shifted⌋₊ ∧ shifted - ⌊shifted⌋₊ < 1 :=
  ⟨sub_nonneg.mpr (Nat.floor_le nonneg), by linarith [Nat.lt_floor_add_one shifted]⟩

theorem roundShifted_cases (shifted : ℚ) : roundShifted shifted = ⌊shifted⌋₊ ∨ roundShifted shifted = ⌊shifted⌋₊ + 1 := by
  simp only [roundShifted]
  split_ifs <;> simp

theorem roundShifted_up : roundShifted shifted = ⌊shifted⌋₊ + 1 ↔
    (if |shifted - ⌊shifted⌋₊ - 1 / 2| < 1 / 10 ^ 9 then ⌊shifted⌋₊ % 2 = 1 else 1 / 2 ≤ shifted - ⌊shifted⌋₊) := by
  simp only [roundShifted]
  split_ifs <;> simp_all

theorem roundShifted_natCast (number : ℕ) : roundShifted number = number := by
  norm_num [roundShifted, abs_of_pos]

theorem roundShifted_mono (below : shifted ≤ other) : roundShifted shifted ≤ roundShifted other := by
  have floors : ⌊shifted⌋₊ ≤ ⌊other⌋₊ := Nat.floor_mono below
  rcases floors.lt_or_eq with less | same
  · have first := roundShifted_cases shifted
    have second := roundShifted_cases other
    omega
  · rcases roundShifted_cases shifted with first | first
    · have second := roundShifted_cases other
      omega
    · have up : roundShifted other = ⌊other⌋₊ + 1 := by
        rw [roundShifted_up] at first ⊢
        rw [← same]
        split_ifs at first ⊢ with near near'
        · exact first
        · rw [abs_lt] at near
          rw [abs_lt, not_and_or] at near'
          rcases near' with low | high
          · linarith
          · linarith
        · rename_i near'
          rw [abs_lt, not_and_or] at near
          rw [abs_lt] at near'
          rcases near with low | high
          · linarith
          · linarith
        · linarith
      rw [first, up, same]

theorem roundShifted_nearest (nonneg : 0 ≤ shifted) : (|(roundShifted shifted : ℚ) - shifted| ≤ 1 / 2 ∧
      (|(roundShifted shifted : ℚ) - shifted| = 1 / 2 → roundShifted shifted % 2 = 0)) ↔ ¬Misjudged shifted := by
  obtain ⟨low, high⟩ := floor_bounds nonneg
  have down : roundShifted shifted = ⌊shifted⌋₊ → |(roundShifted shifted : ℚ) - shifted| = shifted - ⌊shifted⌋₊ := by
    intro same
    rw [same, abs_sub_comm, abs_of_nonneg low]
  have up : roundShifted shifted = ⌊shifted⌋₊ + 1 → |(roundShifted shifted : ℚ) - shifted| = 1 - (shifted - ⌊shifted⌋₊) := by
    intro same
    rw [same, Nat.cast_succ, abs_of_nonneg (by linarith)]
    ring
  have which := @roundShifted_up shifted
  unfold Misjudged
  generalize shifted - ⌊shifted⌋₊ = diff at *
  rcases roundShifted_cases shifted with same | same
  · rw [down same]
    rw [same] at which ⊢
    simp only [abs_lt] at which
    grind
  · rw [up same]
    rw [same] at which ⊢
    simp only [abs_lt] at which
    grind

theorem roundShifted_lt (nonneg : 0 ≤ shifted) (judged : ¬Misjudged shifted) :
    roundShifted shifted < 10 ^ 21 ↔ shifted < 10 ^ 21 - 1 / 2 := by
  obtain ⟨near, even⟩ := (roundShifted_nearest nonneg).mpr judged
  obtain ⟨low, high⟩ := abs_le.mp near
  constructor
  · intro small
    by_contra large
    have last : roundShifted shifted = 10 ^ 21 - 1 := by
      have least : (10 ^ 21 - 1 : ℚ) ≤ roundShifted shifted := by linarith
      have least : 10 ^ 21 ≤ roundShifted shifted + 1 := by exact_mod_cast sub_le_iff_le_add.mp least
      omega
    have half : |(roundShifted shifted : ℚ) - shifted| = 1 / 2 := by
      apply le_antisymm near
      rw [last, abs_sub_comm]
      apply le_trans _ (le_abs_self _)
      push_cast
      linarith
    have absurd := even half
    rw [last] at absurd
    norm_num at absurd
  · intro small
    have less : (roundShifted shifted : ℚ) < 10 ^ 21 := by linarith
    exact_mod_cast less

end Shifted

/-- The result without its sign. -/
def absResult (value : ℚ) (decimals : ℕ) : ℚ := roundShifted (|value| * 10 ^ decimals) * 10 ^ (-(decimals : ℤ))

theorem absResult_nonneg (value : ℚ) (decimals : ℕ) : 0 ≤ absResult value decimals := by
  unfold absResult
  positivity

theorem roundHalfEven_eq (value : Written) (decimals : ℕ) : roundHalfEven value decimals =
    if Written.Plain |value.value| ∧ roundShifted (|value.value| * 10 ^ decimals) < 10 ^ 21 then
      some ((if value.value < 0 then -1 else 1) * absResult value.value decimals)
    else none := by
  have plus : ('+' = '-') = False := by decide
  rw [roundHalfEven, value.shift_eq (.inl rfl), value.abs_value]
  simp only [plus, if_false, zpow_natCast, absResult, value.abs_value]
  by_cases plain : Written.Plain value.magnitude
  · rw [if_pos plain]
    simp only [Option.bind_eq_bind, Option.bind_some, Written.shift_eq _ (.inr rfl), Written.magnitude_ofNat,
      Written.plain_natCast, plain, true_and, if_true]
    split <;> rfl
  · simp [plain]

/-- What rounding half to even is: a multiple of the unit that is nearest, and of two such the even one. -/
structure RoundsHalfEven (value : ℚ) (decimals : ℕ) (result : ℚ) : Prop where
  near : |result - value| ≤ 1 / 2 * 10 ^ (-(decimals : ℤ))
  multiple : ∃ units : ℤ, result = units * 10 ^ (-(decimals : ℤ)) ∧
    (|result - value| = 1 / 2 * 10 ^ (-(decimals : ℤ)) → Even units)

/-- What is promised of a value: there is a result, it is rounded half to even and stays as it is when it is rounded
again, and rounding is odd and monotone. -/
structure Promised (value : Written) (decimals : ℕ) : Prop where
  rounded : ∃ result, roundHalfEven value decimals = some result ∧ RoundsHalfEven value.value decimals result ∧
    ∀ again : Written, again.value = result → roundHalfEven again decimals = some result
  odd : ∀ opposite : Written, opposite.value = -value.value →
    roundHalfEven opposite decimals = (roundHalfEven value decimals).map (- ·)
  monotone : ∀ (other : Written) (result larger : ℚ), value.value ≤ other.value →
    roundHalfEven value decimals = some result → roundHalfEven other decimals = some larger → result ≤ larger

section Promises

variable {value other : Written} {decimals : ℕ} {result larger : ℚ}

theorem roundHalfEven_some (found : roundHalfEven value decimals = some result) :
    result = (if value.value < 0 then -1 else 1) * absResult value.value decimals := by
  rw [roundHalfEven_eq] at found
  split at found
  · exact (Option.some.inj found).symm
  · cases found

theorem absResult_mono {first second : ℚ} (least : |first| ≤ |second|) :
    absResult first decimals ≤ absResult second decimals := by
  have units := roundShifted_mono (mul_le_mul_of_nonneg_right least (by positivity : (0 : ℚ) ≤ 10 ^ decimals))
  unfold absResult
  gcongr

theorem roundHalfEven_mono (below : value.value ≤ other.value) (found : roundHalfEven value decimals = some result)
    (also_found : roundHalfEven other decimals = some larger) : result ≤ larger := by
  rw [roundHalfEven_some found, roundHalfEven_some also_found]
  by_cases negative : value.value < 0
  · by_cases both : other.value < 0
    · have units : absResult other.value decimals ≤ absResult value.value decimals := by
        apply absResult_mono
        rw [abs_of_neg negative, abs_of_neg both]
        linarith
      simp only [negative, both, if_true]
      linarith
    · simp only [negative, both, if_true, if_false]
      linarith [absResult_nonneg value.value decimals, absResult_nonneg other.value decimals]
  · have positive : ¬other.value < 0 := by linarith
    have units : absResult value.value decimals ≤ absResult other.value decimals := by
      apply absResult_mono
      rwa [abs_of_nonneg (not_lt.mp negative), abs_of_nonneg (not_lt.mp positive)]
    simp only [negative, positive, if_false]
    linarith

theorem absResult_zero : absResult 0 decimals = 0 := by
  have none_left := roundShifted_natCast 0
  rw [Nat.cast_zero] at none_left
  simp [absResult, none_left]

theorem roundHalfEven_odd (opposite : other.value = -value.value) :
    roundHalfEven other decimals = (roundHalfEven value decimals).map (- ·) := by
  have same : absResult (-value.value) decimals = absResult value.value decimals := by simp [absResult]
  rw [roundHalfEven_eq, roundHalfEven_eq, opposite, abs_neg, same]
  split
  · rw [Option.map_some]
    rcases lt_trichotomy value.value 0 with negative | zero | positive
    · simp [negative, negative.le]
    · simp [zero, absResult_zero]
    · simp [positive, positive.le]
  · rfl

theorem absResult_mul (value : ℚ) (decimals : ℕ) :
    absResult value decimals * 10 ^ decimals = roundShifted (|value| * 10 ^ decimals) := by
  rw [absResult, zpow_neg, zpow_natCast, inv_mul_cancel_right₀ (by positivity)]

theorem plain_absResult {number : ℚ} (plain : Written.Plain |number|)
    (small : roundShifted (|number| * 10 ^ decimals) < 10 ^ 21) : Written.Plain (absResult number decimals) := by
  have whole := absResult_mul number decimals
  have power : (1 : ℚ) ≤ 10 ^ decimals := one_le_pow₀ (by norm_num)
  have small : (roundShifted (|number| * 10 ^ decimals) : ℚ) < 10 ^ 21 := by exact_mod_cast small
  rcases plain with zero | ⟨least, -⟩
  · rw [abs_eq_zero.mp zero, absResult_zero]
    exact .inl rfl
  rcases (absResult_nonneg number decimals).eq_or_lt with none_left | positive
  · exact .inl none_left.symm
  refine .inr ⟨?_, lt_of_le_of_lt (le_mul_of_one_le_right positive.le power) (by rwa [whole])⟩
  apply le_of_mul_le_mul_right _ (show (0 : ℚ) < 10 ^ decimals by linarith)
  rw [whole]
  by_cases few : decimals ≤ 6
  · have some_unit : 1 ≤ roundShifted (|number| * 10 ^ decimals) := by
      have units : (0 : ℚ) < roundShifted (|number| * 10 ^ decimals) := by
        rw [← whole]
        positivity
      exact_mod_cast units
    calc (1 / 10 ^ 6 * 10 ^ decimals : ℚ) ≤ 1 / 10 ^ 6 * 10 ^ 6 := by
          gcongr
          norm_num
      _ = 1 := by norm_num
      _ ≤ roundShifted (|number| * 10 ^ decimals) := by exact_mod_cast some_unit
  · obtain ⟨more, rfl⟩ := Nat.exists_eq_add_of_le (not_le.mp few).le
    have grid : (1 / 10 ^ 6 * 10 ^ (6 + more) : ℚ) = (10 ^ more : ℕ) := by
      rw [pow_add]
      push_cast
      ring
    have units := roundShifted_mono (mul_le_mul_of_nonneg_right least (by positivity : (0 : ℚ) ≤ 10 ^ (6 + more)))
    rw [grid, roundShifted_natCast] at units
    rw [grid]
    exact_mod_cast units

theorem roundHalfEven_again (found : roundHalfEven value decimals = some result) (again : other.value = result) :
    roundHalfEven other decimals = some result := by
  have which := roundHalfEven_some found
  rw [roundHalfEven_eq] at found
  split at found
  · rename_i held
    obtain ⟨plain, small⟩ := held
    have size : |result| = absResult value.value decimals := by
      rw [which]
      split <;> simp [abs_of_nonneg, absResult_nonneg]
    have units := absResult_mul value.value decimals
    have kept : absResult result decimals = absResult value.value decimals := by
      rw [absResult, size, units, roundShifted_natCast]
      rfl
    have printed := plain_absResult plain small
    rw [roundHalfEven_eq, again, kept, size, units, roundShifted_natCast, if_pos ⟨printed, small⟩, Option.some.injEq, which]
    rcases (absResult_nonneg value.value decimals).eq_or_lt with zero | positive
    · rw [← zero, mul_zero, mul_zero]
    · by_cases negative : value.value < 0
      · simp [negative, positive]
      · simp [negative, positive.le]
  · cases found

theorem roundsHalfEven_iff (number : ℚ) (decimals : ℕ) :
    RoundsHalfEven number decimals ((if number < 0 then -1 else 1) * absResult number decimals) ↔
      ¬Misjudged (|number| * 10 ^ decimals) := by
  have unit : (0 : ℚ) < 10 ^ (-(decimals : ℤ)) := by positivity
  have inverse : (10 : ℚ) ^ decimals * 10 ^ (-(decimals : ℤ)) = 1 := by
    rw [zpow_neg, zpow_natCast, mul_inv_cancel₀ (by positivity)]
  have distance : |(if number < 0 then -1 else 1) * absResult number decimals - number| =
      |(roundShifted (|number| * 10 ^ decimals) : ℚ) - |number| * 10 ^ decimals| * 10 ^ (-(decimals : ℤ)) := by
    have shifted : |(roundShifted (|number| * 10 ^ decimals) : ℚ) - |number| * 10 ^ decimals| * 10 ^ (-(decimals : ℤ)) =
        |absResult number decimals - (|number|)| := by
      rw [← abs_of_pos unit, ← abs_mul, sub_mul, mul_assoc |number|, inverse, mul_one, absResult]
    rw [shifted]
    by_cases negative : number < 0
    · rw [if_pos negative, abs_of_neg negative, ← abs_neg]
      ring_nf
    · rw [if_neg negative, one_mul, abs_of_nonneg (not_lt.mp negative)]
  rw [← roundShifted_nearest (by positivity)]
  constructor
  · intro rounds
    obtain ⟨units, same, even⟩ := rounds.multiple
    have near := rounds.near
    rw [distance] at near even
    refine ⟨le_of_mul_le_mul_right near unit, fun half => ?_⟩
    have magnitude : units.natAbs = roundShifted (|number| * 10 ^ decimals) := by
      rw [absResult, ← mul_assoc] at same
      have same := mul_right_cancel₀ unit.ne' same
      split at same
      · have same : units = -(roundShifted (|number| * 10 ^ decimals) : ℤ) := by
          have same : (units : ℚ) = -(roundShifted (|number| * 10 ^ decimals) : ℚ) := by linarith
          exact_mod_cast same
        omega
      · have same : units = (roundShifted (|number| * 10 ^ decimals) : ℤ) := by
          have same : (units : ℚ) = (roundShifted (|number| * 10 ^ decimals) : ℚ) := by linarith
          exact_mod_cast same
        omega
    rw [← magnitude, ← Nat.even_iff, Int.natAbs_even]
    exact even (by rw [half])
  · rintro ⟨near, even⟩
    refine ⟨?_, (if number < 0 then -1 else 1) * roundShifted (|number| * 10 ^ decimals), ?_, ?_⟩
    · rw [distance]
      gcongr
    · rw [absResult, ← mul_assoc]
      split <;> push_cast <;> rfl
    · intro half
      rw [distance] at half
      have even := Nat.even_iff.mpr (even (mul_right_cancel₀ unit.ne' half))
      exact Int.even_mul.mpr (.inr (by exact_mod_cast even))

/-- All that is promised holds exactly of the numbers that are printed without an exponent, as their shifted and rounded
numbers are, and that are not misjudged. -/
theorem promised_iff (value : Written) (decimals : ℕ) : Promised value decimals ↔
    (value.value = 0 ∨ 1 / 10 ^ 6 ≤ |value.value|) ∧ |value.value| * 10 ^ decimals < 10 ^ 21 - 1 / 2 ∧
      ¬Misjudged (|value.value| * 10 ^ decimals) := by
  have nonneg : 0 ≤ |value.value| * 10 ^ decimals := by positivity
  constructor
  · intro promised
    obtain ⟨result, found, rounds, -⟩ := promised.rounded
    have which := roundHalfEven_some found
    rw [roundHalfEven_eq] at found
    split at found
    · rename_i held
      obtain ⟨plain, small⟩ := held
      rw [which, roundsHalfEven_iff] at rounds
      refine ⟨?_, (roundShifted_lt nonneg rounds).mp small, rounds⟩
      rcases plain with zero | ⟨least, -⟩
      · exact .inl (abs_eq_zero.mp zero)
      · exact .inr least
    · cases found
  · rintro ⟨least, small, judged⟩
    have below : |value.value| < 10 ^ 21 := by
      have power : (1 : ℚ) ≤ 10 ^ decimals := one_le_pow₀ (by norm_num)
      linarith [le_mul_of_one_le_right (abs_nonneg value.value) power]
    have plain : Written.Plain |value.value| := by
      rcases least with zero | least
      · exact .inl (abs_eq_zero.mpr zero)
      · exact .inr ⟨least, below⟩
    have found := roundHalfEven_eq value decimals
    rw [if_pos ⟨plain, (roundShifted_lt nonneg judged).mpr small⟩] at found
    exact ⟨⟨_, found, (roundsHalfEven_iff _ _).mpr judged, fun again same => roundHalfEven_again found same⟩,
      fun opposite same => roundHalfEven_odd same, fun other result larger below => roundHalfEven_mono below⟩

/-- The number `1e-7` is printed so, and `"1e-7e+2"` is no number. -/
theorem small_number_lost : ¬Promised ⟨false, 1, -7, .inr (by decide)⟩ 2 := by
  intro promised
  obtain ⟨result, found, -⟩ := promised.rounded
  have lost : roundHalfEven ⟨false, 1, -7, .inr (by decide)⟩ 2 = none := by decide +kernel
  rw [lost] at found
  cases found

end Promises

end ProxyPay.Currency
