import Mathlib

/-! Columns of a database that hold a bounded part of a type: texts up to a length, and
fixed-point decimals up to a number of digits. What does not fit is refused, blanks at the end
apart, and a decimal with too many places is rounded. -/

namespace ProxyPay.Library

/-- `VARCHAR(limit)` -/
structure Varchar (limit : ℕ) where
  text : String
  fits : text.length ≤ limit
  deriving DecidableEq

/-- What an assignment stores; trailing blanks that do not fit are dropped. -/
def Varchar.store {limit : ℕ} (text : String) : Option (Varchar limit) :=
  if fits : text.length ≤ limit then some ⟨text, fits⟩
  else if (text.toList.drop limit).all (· = ' ') then
    some ⟨String.ofList (text.toList.take limit), by simp⟩
  else none

theorem Varchar.store_of_length {limit : ℕ} {text : String} (fits : text.length ≤ limit) :
    store text = some (⟨text, fits⟩ : Varchar limit) := by
  rw [store, dif_pos fits]

/-- The nearest integer; a half goes away from zero. -/
def roundHalfAway (value : ℚ) : ℤ :=
  if 0 ≤ value then ⌊value + 1 / 2⌋ else -⌊-value + 1 / 2⌋

@[simp] theorem roundHalfAway_intCast (units : ℤ) : roundHalfAway units = units := by
  have half (number : ℤ) : ⌊(number : ℚ) + 1 / 2⌋ = number := by
    rw [Int.floor_eq_iff]
    constructor <;> norm_num
  unfold roundHalfAway
  split
  · exact half units
  · have opposite := half (-units)
    push_cast at opposite
    rw [opposite, neg_neg]

/-- `DECIMAL(precision, scale)`: a number of units of the last place. -/
structure Decimal (precision scale : ℕ) where
  units : ℤ
  fits : units.natAbs < 10 ^ precision
  deriving DecidableEq

namespace Decimal

variable {precision scale : ℕ} {number : ℚ} {decimal : Decimal precision scale}

def value (decimal : Decimal precision scale) : ℚ :=
  decimal.units / 10 ^ scale

def store (number : ℚ) : Option (Decimal precision scale) :=
  if fits : (roundHalfAway (number * 10 ^ scale)).natAbs < 10 ^ precision then
    some ⟨roundHalfAway (number * 10 ^ scale), fits⟩
  else none

theorem units_store (kept : store number = some decimal) : decimal.units = roundHalfAway (number * 10 ^ scale) := by
  unfold store at kept
  split at kept
  · cases kept
    rfl
  · cases kept

theorem value_mul (decimal : Decimal precision scale) : decimal.value * 10 ^ scale = (decimal.units : ℚ) := by
  have nonzero : (10 : ℚ) ^ scale ≠ 0 := by positivity
  rw [value, div_mul_cancel₀ _ nonzero]

theorem value_nonneg : 0 ≤ decimal.value ↔ 0 ≤ decimal.units := by
  have positive : (0 : ℚ) < 10 ^ scale := by positivity
  rw [value, le_div_iff₀ positive, zero_mul]
  exact Int.cast_nonneg_iff

theorem value_pos : 0 < decimal.value ↔ 0 < decimal.units := by
  have positive : (0 : ℚ) < 10 ^ scale := by positivity
  rw [value, lt_div_iff₀ positive, zero_mul]
  exact Int.cast_pos

/-- A sum of two columns needs no rounding, so only its size decides. -/
theorem store_add {first second : Decimal precision scale} :
    store (first.value + second.value) = some decimal ↔ decimal.units = first.units + second.units := by
  have exact : roundHalfAway ((first.value + second.value) * 10 ^ scale) =
      first.units + second.units := by
    rw [add_mul, value_mul, value_mul, ← Int.cast_add, roundHalfAway_intCast]
  constructor
  · intro kept
    rw [units_store kept, exact]
  · intro sum
    have fits := decimal.fits
    rw [sum] at fits
    unfold store
    rw [dif_pos (by rwa [exact])]
    congr
    rw [exact, sum]

theorem value_add {first second : Decimal precision scale}
    (sum : decimal.units = first.units + second.units) : decimal.value = first.value + second.value := by
  rw [value, value, value, sum]
  push_cast
  rw [add_div]

/-- The text of a decimal, with all its places. -/
def text (decimal : Decimal precision scale) : String :=
  let places := toString (decimal.units.natAbs % 10 ^ scale)
  (if decimal.units < 0 then "-" else "") ++ toString (decimal.units.natAbs / 10 ^ scale) ++
    (if scale = 0 then "" else "." ++ "".pushn '0' (scale - places.length) ++ places)

end Decimal

end ProxyPay.Library

/-! Rounding to a number of places behind the point, as `toFixed` does it with exact numbers: to the nearest, and a
half away from zero, or as `Math.round` does it, and a half up. -/

namespace ProxyPay.Library

theorem roundHalfAway_near (value : ℚ) : |(roundHalfAway value : ℚ) - value| ≤ 1 / 2 := by
  unfold roundHalfAway
  rw [abs_le]
  split
  · have below := Int.floor_le (value + 1 / 2)
    have above := Int.lt_floor_add_one (value + 1 / 2)
    constructor <;> linarith
  · have below := Int.floor_le (-value + 1 / 2)
    have above := Int.lt_floor_add_one (-value + 1 / 2)
    push_cast
    constructor <;> linarith

theorem roundHalfAway_neg (value : ℚ) : roundHalfAway (-value) = -roundHalfAway value := by
  unfold roundHalfAway
  rcases lt_trichotomy value 0 with below | rfl | above
  · rw [if_pos (by linarith), if_neg (by linarith), neg_neg]
  · norm_num
  · rw [if_neg (by linarith), if_pos above.le, neg_neg]

theorem roundHalfAway_mono {first second : ℚ} (le : first ≤ second) : roundHalfAway first ≤ roundHalfAway second := by
  unfold roundHalfAway
  split
  · rename_i begun
    rw [if_pos (begun.trans le)]
    exact Int.floor_le_floor (by linarith)
  · rename_i negative
    split
    · have low : 0 ≤ ⌊-first + 1 / 2⌋ := Int.floor_nonneg.mpr (by linarith)
      have high : 0 ≤ ⌊second + 1 / 2⌋ := Int.floor_nonneg.mpr (by linarith)
      omega
    · have floors : ⌊-second + 1 / 2⌋ ≤ ⌊-first + 1 / 2⌋ := Int.floor_le_floor (by linarith)
      omega

theorem roundHalfAway_nonneg {value : ℚ} (begun : 0 ≤ value) : 0 ≤ roundHalfAway value := by
  have mono := roundHalfAway_mono begun
  have zero : roundHalfAway 0 = 0 := by
    have cast := roundHalfAway_intCast 0
    rwa [Int.cast_zero] at cast
  rwa [zero] at mono

/-- `parseFloat(value.toFixed(places))` -/
def toFixed (places : ℕ) (value : ℚ) : ℚ :=
  roundHalfAway (value * 10 ^ places) / 10 ^ places

namespace toFixed

variable {places : ℕ} {value first second : ℚ}

theorem near (places : ℕ) (value : ℚ) : |toFixed places value - value| ≤ 1 / 2 / 10 ^ places := by
  have power : (0 : ℚ) < 10 ^ places := by positivity
  have units := roundHalfAway_near (value * 10 ^ places)
  have same : toFixed places value - value = (roundHalfAway (value * 10 ^ places) - value * 10 ^ places) / 10 ^ places := by
    unfold toFixed
    field_simp
  rw [same, abs_div, abs_of_pos power]
  exact div_le_div_of_nonneg_right units power.le

theorem mono (le : first ≤ second) : toFixed places first ≤ toFixed places second := by
  have power : (0 : ℚ) < 10 ^ places := by positivity
  have units := roundHalfAway_mono (mul_le_mul_of_nonneg_right le power.le)
  unfold toFixed
  exact div_le_div_of_nonneg_right (by exact_mod_cast units) power.le

theorem nonneg (begun : 0 ≤ value) : 0 ≤ toFixed places value := by
  have units := roundHalfAway_nonneg (mul_nonneg begun (by positivity : (0 : ℚ) ≤ 10 ^ places))
  unfold toFixed
  exact div_nonneg (by exact_mod_cast units) (by positivity)

/-- From half a unit on the rounded number is positive. -/
theorem pos_iff (begun : 0 ≤ value) : 0 < toFixed places value ↔ 1 / 2 / 10 ^ places ≤ value := by
  have power : (0 : ℚ) < 10 ^ places := by positivity
  have scaled : 0 ≤ value * 10 ^ places := mul_nonneg begun power.le
  unfold toFixed
  rw [div_pos_iff_of_pos_right power, roundHalfAway, if_pos scaled, Int.cast_pos, Int.floor_pos, div_le_iff₀ power]
  constructor <;> intro <;> linarith

theorem zero : toFixed places 0 = 0 := by
  have cast := roundHalfAway_intCast 0
  rw [Int.cast_zero] at cast
  rw [toFixed, zero_mul, cast, Int.cast_zero, zero_div]

theorem neg : toFixed places (-value) = -toFixed places value := by
  rw [toFixed, neg_mul, roundHalfAway_neg, Int.cast_neg, neg_div]
  rfl

end toFixed

/-! `Math.round(value * 10^places) / 10^places`: a half goes up. -/

section

variable {K : Type*} [Field K] [LinearOrder K] [IsStrictOrderedRing K] [FloorRing K]
variable {places : ℕ} {value first second : K}

def roundPlaces (places : ℕ) (value : K) : K := ⌊value * 10 ^ places + 1 / 2⌋ / 10 ^ places

namespace roundPlaces

theorem near (places : ℕ) (value : K) : |roundPlaces places value - value| ≤ 1 / 2 / 10 ^ places := by
  have power : (0 : K) < 10 ^ places := by positivity
  have below := Int.floor_le (value * 10 ^ places + 1 / 2)
  have above := Int.lt_floor_add_one (value * 10 ^ places + 1 / 2)
  have units : |(⌊value * 10 ^ places + 1 / 2⌋ : K) - value * 10 ^ places| ≤ 1 / 2 := by
    rw [abs_le]
    constructor <;> linarith
  have same : roundPlaces places value - value = (⌊value * 10 ^ places + 1 / 2⌋ - value * 10 ^ places) / 10 ^ places := by
    unfold roundPlaces
    field_simp
  rw [same, abs_div, abs_of_pos power]
  exact div_le_div_of_nonneg_right units power.le

theorem mono (le : first ≤ second) : roundPlaces places first ≤ roundPlaces places second := by
  have power : (0 : K) < 10 ^ places := by positivity
  have scaled := mul_le_mul_of_nonneg_right le power.le
  have units : ⌊first * 10 ^ places + 1 / 2⌋ ≤ ⌊second * 10 ^ places + 1 / 2⌋ := Int.floor_le_floor (by linarith)
  unfold roundPlaces
  exact div_le_div_of_nonneg_right (by exact_mod_cast units) power.le

theorem nonneg (begun : 0 ≤ value) : 0 ≤ roundPlaces places value := by
  have scaled : 0 ≤ value * 10 ^ places := mul_nonneg begun (by positivity)
  have units : 0 ≤ ⌊value * 10 ^ places + 1 / 2⌋ := Int.floor_nonneg.mpr (by linarith)
  unfold roundPlaces
  exact div_nonneg (by exact_mod_cast units) (by positivity)

theorem pos_iff : 0 < roundPlaces places value ↔ 1 / 2 / 10 ^ places ≤ value := by
  have power : (0 : K) < 10 ^ places := by positivity
  unfold roundPlaces
  rw [div_pos_iff_of_pos_right power, Int.cast_pos, Int.floor_pos, div_le_iff₀ power]
  constructor <;> intro <;> linarith

end roundPlaces

end

end ProxyPay.Library
