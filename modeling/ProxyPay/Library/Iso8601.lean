import Mathlib.Data.Int.Notation
import ProxyPay.Library.Text

/-! Instants as ISO 8601 texts: days of the Gregorian calendar, the text of an instant in universal
time, to the millisecond, and a reader of such texts. -/

namespace ProxyPay.Library.Iso8601

open Text (natural pad natural_pad)

def dayMs : ℤ := 86400000

/-- A day of the calendar. -/
structure Civil where
  year : ℤ
  month : ℤ
  day : ℤ

/-! Years begin in March, so that a leap day is the last day of its year, and 400 years are an era. -/

def eraDays : ℤ := 146097

/-- The days from the first of March of the year 0 to the first of January 1970. -/
def epochDay : ℤ := 719468

variable (dayOfEra : ℤ)

def century : ℤ := min (dayOfEra / 36524) 3

def dayOfCentury : ℤ := dayOfEra - 36524 * century dayOfEra

def yearOfFour : ℤ := min (dayOfCentury dayOfEra % 1461 / 365) 3

def yearOfEra : ℤ :=
  100 * century dayOfEra + 4 * (dayOfCentury dayOfEra / 1461) + yearOfFour dayOfEra

def dayOfYear : ℤ :=
  dayOfCentury dayOfEra % 1461 - 365 * yearOfFour dayOfEra

/-- The month of a day of the year, from March as 0. -/
def monthOf (dayOfYear : ℤ) : ℤ := (5 * dayOfYear + 2) / 153

/-- The day of the calendar, from the number of days since the first of January 1970. -/
def civil (day : ℤ) : Civil :=
  let dayOfEra := (day + epochDay) % eraDays
  let year := yearOfEra dayOfEra + (day + epochDay) / eraDays * 400
  let month := monthOf (dayOfYear dayOfEra)
  ⟨if month < 10 then year else year + 1, if month < 10 then month + 3 else month - 9,
    dayOfYear dayOfEra - (153 * month + 2) / 5 + 1⟩

/-- The number of days from the first of January 1970. -/
def dayNumber (date : Civil) : ℤ :=
  let year := if date.month ≤ 2 then date.year - 1 else date.year
  let month := if date.month ≤ 2 then date.month + 9 else date.month - 3
  let yearOfEra := year % 400
  year / 400 * eraDays + (yearOfEra * 365 + yearOfEra / 4 - yearOfEra / 100) +
    ((153 * month + 2) / 5 + date.day - 1) - epochDay

theorem dayOfEra_split {dayOfEra : ℤ} (begun : 0 ≤ dayOfEra) (ends : dayOfEra < eraDays) : ∃ century four year,
      (0 ≤ century ∧ century < 4) ∧ (0 ≤ four ∧ four < 25) ∧ (0 ≤ year ∧ year < 4) ∧
      (0 ≤ dayOfYear dayOfEra ∧ dayOfYear dayOfEra < 366) ∧
      yearOfEra dayOfEra = 100 * century + 4 * four + year ∧
      dayOfEra = 36524 * century + 1461 * four + 365 * year + dayOfYear dayOfEra := by
  have hundreds : 0 ≤ century dayOfEra ∧ century dayOfEra < 4 := by
    unfold century
    omega
  have rest : 0 ≤ dayOfCentury dayOfEra ∧ dayOfCentury dayOfEra < 36525 := by
    unfold dayOfCentury century
    unfold eraDays at ends
    omega
  have years : 0 ≤ yearOfFour dayOfEra ∧ yearOfFour dayOfEra < 4 := by
    unfold yearOfFour
    omega
  refine ⟨century dayOfEra, dayOfCentury dayOfEra / 1461, yearOfFour dayOfEra, hundreds, by omega, years,
    ?_, rfl, ?_⟩
  · unfold dayOfYear yearOfFour
    omega
  · unfold dayOfYear dayOfCentury
    omega

theorem monthOf_bounds {dayOfYear : ℤ} (begun : 0 ≤ dayOfYear) (ends : dayOfYear < 366) :
    0 ≤ monthOf dayOfYear ∧ monthOf dayOfYear < 12 ∧ 0 ≤ dayOfYear - (153 * monthOf dayOfYear + 2) / 5 ∧
      dayOfYear - (153 * monthOf dayOfYear + 2) / 5 < 31 := by
  unfold monthOf
  omega

theorem civil_bounds (day : ℤ) :
    (1 ≤ (civil day).month ∧ (civil day).month ≤ 12) ∧ (1 ≤ (civil day).day ∧ (civil day).day ≤ 31) := by
  have begun : 0 ≤ (day + epochDay) % eraDays := Int.emod_nonneg _ (by decide)
  have ends : (day + epochDay) % eraDays < eraDays := Int.emod_lt_of_pos _ (by decide)
  obtain ⟨_, _, _, _, _, _, ⟨first, last⟩, _⟩ := dayOfEra_split begun ends
  obtain ⟨march, february, one, month_end⟩ := monthOf_bounds first last
  simp only [civil]
  constructor
  · split
    · omega
    · omega
  · omega

theorem dayNumber_civil (day : ℤ) : dayNumber (civil day) = day := by
  have begun : 0 ≤ (day + epochDay) % eraDays := Int.emod_nonneg _ (by decide)
  have ends : (day + epochDay) % eraDays < eraDays := Int.emod_lt_of_pos _ (by decide)
  have whole : (day + epochDay) / eraDays * eraDays + (day + epochDay) % eraDays = day + epochDay :=
    Int.ediv_mul_add_emod _ _
  obtain ⟨century, four, year, hundreds, fours, years, ⟨first, last⟩, of_era, split_day⟩ :=
    dayOfEra_split begun ends
  obtain ⟨march, february, _, _⟩ := monthOf_bounds first last
  simp only [dayNumber, civil, of_era]
  have era : (100 * century + 4 * four + year + (day + epochDay) / eraDays * 400) / 400 =
      (day + epochDay) / eraDays := by omega
  have in_era : (100 * century + 4 * four + year + (day + epochDay) / eraDays * 400) % 400 =
      100 * century + 4 * four + year := by omega
  have leaps : (100 * century + 4 * four + year) / 4 = 25 * century + four := by omega
  have skipped : (100 * century + 4 * four + year) / 100 = century := by omega
  by_cases spring : monthOf (dayOfYear ((day + epochDay) % eraDays)) < 10
  · have later : ¬monthOf (dayOfYear ((day + epochDay) % eraDays)) + 3 ≤ 2 := by omega
    simp only [if_pos spring, if_neg later, Int.add_sub_cancel, era, in_era, leaps, skipped]
    omega
  · have early : monthOf (dayOfYear ((day + epochDay) % eraDays)) - 9 ≤ 2 := by omega
    simp only [if_neg spring, if_pos early, Int.add_sub_cancel, Int.sub_add_cancel, era, in_era, leaps,
      skipped]
    omega

/-! The texts. -/

/-- The year with four digits, and one outside of their range with its sign and six. -/
def yearText (year : ℤ) : List Char :=
  if 0 ≤ year ∧ year < 10000 then pad 10 4 year.toNat
  else (if year < 0 then '-' else '+') :: pad 10 6 year.natAbs

/-- `toISOString` of the instant that is this number of milliseconds after the first of January 1970. -/
def toISOString (instant : ℤ) : String :=
  let date := civil (instant / dayMs)
  let clock := (instant % dayMs).toNat
  String.ofList (yearText date.year ++ '-' :: pad 10 2 date.month.toNat ++ '-' :: pad 10 2 date.day.toNat ++
    'T' :: pad 10 2 (clock / 3600000) ++ ':' :: pad 10 2 (clock / 60000 % 60) ++
    ':' :: pad 10 2 (clock / 1000 % 60) ++ '.' :: pad 10 3 (clock % 1000) ++ ['Z'])

/-- The instants whose year has four digits and is not the year 0. -/
def Common (instant : ℤ) : Prop :=
  dayNumber ⟨1, 1, 1⟩ * dayMs ≤ instant ∧ instant < dayNumber ⟨10000, 1, 1⟩ * dayMs

instance (instant : ℤ) : Decidable (Common instant) :=
  inferInstanceAs (Decidable (_ ∧ _))

/-- The instant that a text of this form names. -/
def read (text : String) : Option ℤ :=
  match text.toList with
  | [a, b, c, d, '-', e, f, '-', g, h, 'T', i, j, ':', k, l, ':', m, n, '.', o, p, q, 'Z'] =>
    some (dayNumber ⟨natural 10 [a, b, c, d], natural 10 [e, f], natural 10 [g, h]⟩ * dayMs +
      (natural 10 [i, j] * 3600000 + natural 10 [k, l] * 60000 + natural 10 [m, n] * 1000 + natural 10 [o, p, q] : Nat))
  | _ => none

theorem year_of_common {instant : ℤ} (common : Common instant) :
    0 ≤ (civil (instant / dayMs)).year ∧ (civil (instant / dayMs)).year < 10000 := by
  have begins : dayNumber ⟨1, 1, 1⟩ = -719162 := rfl
  have finishes : dayNumber ⟨10000, 1, 1⟩ = 2932897 := rfl
  obtain ⟨first, last⟩ := common
  rw [begins] at first
  rw [finishes] at last
  have days : -719162 ≤ instant / dayMs ∧ instant / dayMs < 2932897 := by
    unfold dayMs at *
    omega
  generalize instant / dayMs = day at *
  have begun : 0 ≤ (day + epochDay) % eraDays := Int.emod_nonneg _ (by decide)
  have ends : (day + epochDay) % eraDays < eraDays := Int.emod_lt_of_pos _ (by decide)
  have whole : (day + epochDay) / eraDays * eraDays + (day + epochDay) % eraDays = day + epochDay :=
    Int.ediv_mul_add_emod _ _
  obtain ⟨century, four, year, hundreds, fours, years, ⟨first_day, last_day⟩, of_era, split_day⟩ :=
    dayOfEra_split begun ends
  have month : (153 * monthOf (dayOfYear ((day + epochDay) % eraDays))) ≤
      5 * dayOfYear ((day + epochDay) % eraDays) + 2 := by
    unfold monthOf
    omega
  have era : 0 ≤ (day + epochDay) / eraDays ∧ (day + epochDay) / eraDays ≤ 24 := by
    unfold epochDay eraDays at *
    omega
  simp only [civil, of_era]
  unfold epochDay eraDays at *
  constructor
  · split
    · omega
    · omega
  · split
    · omega
    · omega

theorem read_toISOString {instant : ℤ} (common : Common instant) : read (toISOString instant) = some instant := by
  obtain ⟨not_negative, four_digits⟩ := year_of_common common
  obtain ⟨⟨first_month, last_month⟩, ⟨first_day, last_day⟩⟩ := civil_bounds (instant / dayMs)
  have numbered := dayNumber_civil (instant / dayMs)
  have four : yearText (civil (instant / dayMs)).year = pad 10 4 (civil (instant / dayMs)).year.toNat :=
    if_pos ⟨not_negative, four_digits⟩
  simp only [toISOString, four]
  generalize civil (instant / dayMs) = date at *
  have clock : 0 ≤ instant % dayMs ∧ instant % dayMs < 86400000 := by
    unfold dayMs
    omega
  have whole : instant / dayMs * dayMs + instant % dayMs = instant := Int.ediv_mul_add_emod _ _
  generalize instant % dayMs = rest at *
  have spelled_four (value : Nat) : ∃ a b c d, pad 10 4 value = [a, b, c, d] := ⟨_, _, _, _, rfl⟩
  have spelled_three (value : Nat) : ∃ a b c, pad 10 3 value = [a, b, c] := ⟨_, _, _, rfl⟩
  have spelled_two (value : Nat) : ∃ a b, pad 10 2 value = [a, b] := ⟨_, _, rfl⟩
  have ten : 0 < 10 := by decide
  have sixteen : 10 ≤ 16 := by decide
  have year := natural_pad ten sixteen 4 date.year.toNat
  have month := natural_pad ten sixteen 2 date.month.toNat
  have day := natural_pad ten sixteen 2 date.day.toNat
  have hour := natural_pad ten sixteen 2 (rest.toNat / 3600000)
  have minute := natural_pad ten sixteen 2 (rest.toNat / 60000 % 60)
  have second := natural_pad ten sixteen 2 (rest.toNat / 1000 % 60)
  have millisecond := natural_pad ten sixteen 3 (rest.toNat % 1000)
  obtain ⟨_, _, _, _, year_text⟩ := spelled_four date.year.toNat
  obtain ⟨_, _, month_text⟩ := spelled_two date.month.toNat
  obtain ⟨_, _, day_text⟩ := spelled_two date.day.toNat
  obtain ⟨_, _, hour_text⟩ := spelled_two (rest.toNat / 3600000)
  obtain ⟨_, _, minute_text⟩ := spelled_two (rest.toNat / 60000 % 60)
  obtain ⟨_, _, second_text⟩ := spelled_two (rest.toNat / 1000 % 60)
  obtain ⟨_, _, _, millisecond_text⟩ := spelled_three (rest.toNat % 1000)
  rw [year_text] at year ⊢
  rw [month_text] at month ⊢
  rw [day_text] at day ⊢
  rw [hour_text] at hour ⊢
  rw [minute_text] at minute ⊢
  rw [second_text] at second ⊢
  rw [millisecond_text] at millisecond ⊢
  simp only [read, String.toList_ofList, List.cons_append, List.nil_append, year, month, day, hour, minute,
    second, millisecond, Option.some.injEq]
  have same : (⟨(date.year.toNat % 10 ^ 4 : Nat), (date.month.toNat % 10 ^ 2 : Nat),
      (date.day.toNat % 10 ^ 2 : Nat)⟩ : Civil) = date := by
    obtain ⟨y, m, d⟩ := date
    simp only [Civil.mk.injEq] at *
    omega
  rw [same, numbered]
  omega

end ProxyPay.Library.Iso8601
