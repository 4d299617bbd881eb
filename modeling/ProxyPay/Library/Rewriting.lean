import ProxyPay.Library.Json

/-! A JSON value that is written as a text and read again comes back as it is, where its numbers do. -/

namespace ProxyPay.Library.Json

open Text (natural)

/-- What may stand behind a value. -/
def Ends (rest : List Char) : Prop := ∀ char ∈ rest.head?, char = ',' ∨ char = '}' ∨ char = ']'

theorem Ends.head {char : Char} {rest : List Char} (ends : Ends (char :: rest)) :
    char = ',' ∨ char = '}' ∨ char = ']' := ends char rfl

theorem ends_nil : Ends [] := by simp [Ends]

theorem Ends.not_digit {rest : List Char} (ends : Ends rest) : ∀ char ∈ rest.head?, char.isDigit = false := by
  intro char first
  rcases ends char first with rfl | rfl | rfl
  · rfl
  · rfl
  · rfl

theorem readDigits_append {digits rest : List Char} (decimal : ∀ char ∈ digits, char.isDigit = true)
    (stops : ∀ char ∈ rest.head?, char.isDigit = false) : readDigits (digits ++ rest) = (digits, rest) := by
  induction digits with
  | nil =>
    cases rest with
    | nil => rfl
    | cons char rest => simp [readDigits, stops char rfl]
  | cons digit digits ih => simp_all [readDigits, Prod.mk.injEq]

/-- How a number is written without its sign. -/
structure Figures where
  whole : List Char
  fraction : List Char
  power : Option (Char × List Char)
  some_digit : whole ≠ []
  decimal : ∀ char ∈ whole ++ fraction, char.isDigit = true
  signed : ∀ sign digits, power = some (sign, digits) →
    (sign = '+' ∨ sign = '-') ∧ digits ≠ [] ∧ ∀ char ∈ digits, char.isDigit = true

namespace Figures

variable (figures : Figures)

def fractionText : List Char :=
  if figures.fraction = [] then [] else '.' :: figures.fraction

def powerText : List Char :=
  match figures.power with
  | none => []
  | some (sign, digits) => 'e' :: sign :: digits

def text : List Char := figures.whole ++ (figures.fractionText ++ figures.powerText)

def exponent : ℤ :=
  match figures.power with
  | none => 0
  | some (sign, digits) => if sign = '-' then -natural 10 digits else natural 10 digits

/-- JSON has no zero before other digits. -/
def magnitude? : Option Float :=
  if figures.whole.head? = some '0' && figures.whole.length ≠ 1 then none
  else some (Number.nearest (natural 10 (figures.whole ++ figures.fraction))
    (figures.exponent - figures.fraction.length))

section

variable {rest : List Char} (ends : Ends rest)

include ends

theorem readExponent_powerText : readExponent (figures.powerText ++ rest) = some (figures.exponent, rest) := by
  cases power : figures.power with
  | none =>
    rw [powerText, exponent, power]
    cases rest with
    | nil => rfl
    | cons char rest => rcases ends.head with rfl | rfl | rfl <;> rfl
  | some given =>
    obtain ⟨sign, digits⟩ := given
    obtain ⟨signs, some_digit, decimal⟩ := figures.signed sign digits power
    have read : readSign (sign :: (digits ++ rest)) = (decide (sign = '-'), digits ++ rest) := by
      rcases signs with rfl | rfl <;> rfl
    rw [powerText, exponent, power]
    simp [readExponent, read, readDigits_append decimal ends.not_digit, some_digit]

theorem powerText_head : ∀ char ∈ (figures.powerText ++ rest).head?, char.isDigit = false ∧ char ≠ '.' := by
  intro char first
  cases power : figures.power with
  | none =>
    rw [powerText, power] at first
    rcases ends char first with rfl | rfl | rfl <;> exact ⟨rfl, by decide⟩
  | some given =>
    rw [powerText, power] at first
    cases first
    exact ⟨rfl, by decide⟩

theorem readFraction_fractionText : readFraction (figures.fractionText ++ (figures.powerText ++ rest)) =
      some (figures.fraction, figures.powerText ++ rest) := by
  have head := figures.powerText_head ends
  by_cases none_given : figures.fraction = []
  · rw [fractionText, if_pos none_given, none_given, List.nil_append]
    cases behind : figures.powerText ++ rest with
    | nil => rfl
    | cons char rest => simp_all [readFraction]
  · have decimal : ∀ char ∈ figures.fraction, char.isDigit = true := fun char member =>
      figures.decimal char (List.mem_append_right _ member)
    rw [fractionText, if_neg none_given, List.cons_append, readFraction,
      readDigits_append decimal fun char first => (head char first).1]
    simp [none_given]

/-- The figures are read in front of whatever ends a number. -/
theorem readNumber_text (negative : Bool) : readNumber ((if negative then ['-'] else []) ++ (figures.text ++ rest)) =
      figures.magnitude?.map fun magnitude => (if negative then -magnitude else magnitude, rest) := by
  obtain ⟨first, others, whole⟩ := List.exists_cons_of_ne_nil figures.some_digit
  have decimal : ∀ char ∈ figures.whole, char.isDigit = true := fun char member =>
    figures.decimal char (List.mem_append_left _ member)
  have no_minus : first ≠ '-' := by
    rintro rfl
    cases decimal '-' (by rw [whole]; exact List.mem_cons_self)
  have minus : readMinus ((if negative then ['-'] else []) ++ (figures.text ++ rest)) =
      (negative, figures.text ++ rest) := by
    cases negative with
    | true => rfl
    | false => simp_all [text, readMinus]
  have stops : ∀ char ∈ (figures.fractionText ++ (figures.powerText ++ rest)).head?, char.isDigit = false := by
    intro char head
    by_cases none_given : figures.fraction = []
    · rw [fractionText, if_pos none_given] at head
      exact (figures.powerText_head ends char head).1
    · rw [fractionText, if_neg none_given] at head
      cases head
      rfl
  have digits : readDigits (figures.text ++ rest) =
      (figures.whole, figures.fractionText ++ (figures.powerText ++ rest)) := by
    rw [text, List.append_assoc, List.append_assoc]
    exact readDigits_append decimal stops
  simp only [readNumber, minus, digits, figures.readFraction_fractionText ends, figures.readExponent_powerText ends,
    magnitude?, figures.some_digit, decide_false, Bool.false_or, Option.bind_eq_bind, Option.bind_some]
  split <;> rfl

end

end Figures

/-! How numbers are written. -/

theorem toList_zeros (count : ℕ) : (Number.zeros count).toList = List.replicate count '0' := by
  rw [Number.zeros, Decimal.toList_pushn]

theorem natural_zeros (count : ℕ) : natural 10 (List.replicate count '0') = 0 := by
  induction count with
  | zero => rfl
  | succ count ih =>
    rw [List.replicate_succ', Decimal.natural_append, ih]
    simp [natural, Text.digitValue?]

/-- The figures of a decimal; they have no power exactly if the point is near them, and then stand for the decimal. -/
theorem exists_figures (digits : ℕ) (exponent : ℤ) :
    ∃ figures : Figures, (Number.positiveText digits exponent).toList = figures.text ∧
      (figures.power = none ↔ -6 < exponent + (Nat.toDigits 10 digits).length ∧
        exponent + (Nat.toDigits 10 digits).length ≤ 21) ∧
      (figures.power = none → (natural 10 (figures.whole ++ figures.fraction) : ℚ) * 10 ^ (-(figures.fraction.length : ℤ)) =
        digits * 10 ^ exponent) := by
  have spelled : (toString digits).toList = Nat.toDigits 10 digits := Nat.toList_repr
  have decimal : ∀ char ∈ Nat.toDigits 10 digits, char.isDigit = true :=
    fun char member => Nat.isDigit_of_mem_toDigits (by decide) (by decide) member
  have zeros (count : ℕ) : ∀ char ∈ List.replicate count '0', char.isDigit = true := by simp
  have places : (toString digits).length = (Nat.toDigits 10 digits).length := by
    rw [← String.length_toList, spelled]
  have some_digit : Nat.toDigits 10 digits ≠ [] := Nat.toDigits_ne_nil
  have some_place : 0 < (Nat.toDigits 10 digits).length := List.length_pos_iff.mpr some_digit
  unfold Number.positiveText
  simp only [places]
  generalize stands : exponent + ((Nat.toDigits 10 digits).length : ℤ) = point
  split
  · rename_i large
    refine ⟨⟨Nat.toDigits 10 digits ++ List.replicate exponent.toNat '0', [], none, by simp [some_digit], ?_, by simp⟩,
      by simp [Figures.text, Figures.fractionText, Figures.powerText, toList_zeros], ?_, ?_⟩
    · intro char member
      rw [List.append_nil, List.mem_append] at member
      exact member.elim (decimal char) (zeros _ char)
    · simp only [true_iff]
      omega
    · intro _
      have power : (10 : ℚ) ^ exponent = 10 ^ exponent.toNat := by
        rw [← zpow_natCast, Int.toNat_of_nonneg (by omega)]
      simp only [List.append_nil, Decimal.natural_append, Text.natural_toDigits, natural_zeros, List.length_replicate,
        power]
      simp
  split
  · rename_i short inside
    have before : point.toNat < (Nat.toDigits 10 digits).length := by omega
    refine ⟨⟨(Nat.toDigits 10 digits).take point.toNat, (Nat.toDigits 10 digits).drop point.toNat, none, ?_, ?_, by simp⟩,
      ?_, ?_, ?_⟩
    · simp_all
    · rwa [List.take_append_drop]
    · simp [Figures.text, Figures.fractionText, Figures.powerText, before]
    · simp only [true_iff]
      omega
    · intro _
      have length : -(((Nat.toDigits 10 digits).drop point.toNat).length : ℤ) = exponent := by
        rw [List.length_drop]
        omega
      simp only [List.take_append_drop, Text.natural_toDigits, length]
  split
  · rename_i short outside small
    refine ⟨⟨['0'], List.replicate (-point).toNat '0' ++ Nat.toDigits 10 digits, none, by simp, ?_, by simp⟩, ?_, ?_, ?_⟩
    · intro char member
      simp only [List.mem_append, List.mem_singleton] at member
      rcases member with rfl | zero | digit
      · rfl
      · exact zeros _ char zero
      · exact decimal char digit
    · simp [Figures.text, Figures.fractionText, Figures.powerText, spelled, toList_zeros, some_digit]
    · simp only [true_iff]
      omega
    · intro _
      have length : -((List.replicate (-point).toNat '0' ++ Nat.toDigits 10 digits).length : ℤ) = exponent := by
        rw [List.length_append, List.length_replicate]
        omega
      have front : natural 10 ['0'] = 0 := rfl
      simp only [length, Decimal.natural_append, Text.natural_toDigits, natural_zeros, front]
      simp
  · rename_i short outside far
    have distant : ¬(-6 < point ∧ point ≤ 21) := by omega
    have power : ∃ sign power, ((if 0 < point then "e+" else "e-") ++ toString (point - 1).natAbs).toList =
        'e' :: sign :: power ∧ (sign = '+' ∨ sign = '-') ∧ power ≠ [] ∧ ∀ char ∈ power, char.isDigit = true := by
      have spelled : (toString (point - 1).natAbs).toList = Nat.toDigits 10 (point - 1).natAbs := Nat.toList_repr
      refine ⟨if 0 < point then '+' else '-', Nat.toDigits 10 (point - 1).natAbs, ?_, ?_, Nat.toDigits_ne_nil,
        fun char member => Nat.isDigit_of_mem_toDigits (by decide) (by decide) member⟩
      · rw [String.toList_append, spelled]
        split <;> rfl
      · split <;> simp
    obtain ⟨sign, power, text, signed⟩ := power
    have signed : ∀ other digits, some (sign, power) = some (other, digits) →
        (other = '+' ∨ other = '-') ∧ digits ≠ [] ∧ ∀ char ∈ digits, char.isDigit = true := by
      rintro _ _ ⟨⟩
      exact signed
    split
    · refine ⟨⟨Nat.toDigits 10 digits, [], some (sign, power), some_digit, by simpa using decimal, signed⟩, ?_,
        by simp [distant], nofun⟩
      rw [String.toList_append, text]
      simp [Figures.text, Figures.fractionText, Figures.powerText, spelled]
    · rename_i several
      refine ⟨⟨(Nat.toDigits 10 digits).take 1, (Nat.toDigits 10 digits).drop 1, some (sign, power), ?_, ?_, signed⟩, ?_,
        by simp [distant], nofun⟩
      · simp
      · rwa [List.take_append_drop]
      · have long : (Nat.toDigits 10 digits).drop 1 ≠ [] := by
          rw [Ne, List.drop_eq_nil_iff]
          omega
        rw [String.toList_append, text]
        simp only [Figures.text, Figures.fractionText, Figures.powerText, if_neg long]
        simp [spelled]

/-- A text that begins like no number. -/
theorem readNumber_none {text : List Char} (plain : ∀ char ∈ text.head?, char.isDigit = false ∧ char ≠ '-')
    (negative : Bool) : readNumber ((if negative then ['-'] else []) ++ text) = none := by
  have minus : readMinus ((if negative then ['-'] else []) ++ text) = (negative, text) := by
    cases negative with
    | true => rfl
    | false =>
      show readMinus text = _
      unfold readMinus
      split
      · exact absurd rfl (plain '-' rfl).2
      · rfl
  have digits : readDigits text = ([], text) :=
    @readDigits_append [] text (by simp) fun char first => (plain char first).1
  simp [readNumber, minus, digits]

variable (value : Float)

/-- The sign and the figures of a number; what is no number in JSON begins with neither. -/
theorem text_cases : ∃ (negative : Bool) (body : List Char),
    (Number.text value).toList = (if negative then ['-'] else []) ++ body ∧
      ((∃ figures : Figures, body = figures.text) ∨ body = "NaN".toList ∨ body = "Infinity".toList ∨ body = []) := by
  unfold Number.text
  split
  · exact ⟨false, _, rfl, .inr (.inl rfl)⟩
  split
  · exact ⟨false, ['0'], rfl, .inl ⟨⟨['0'], [], none, by simp, by simp, by simp⟩, rfl⟩⟩
  have signed (magnitude : String) : ∃ negative : Bool, (if value < 0 then "-" ++ magnitude else magnitude).toList =
      (if negative then ['-'] else []) ++ magnitude.toList := by
    by_cases below : value < 0
    · exact ⟨true, by simp [below]⟩
    · exact ⟨false, by simp [below]⟩
  refine (signed _).imp fun negative text => ⟨_, text, ?_⟩
  split
  · exact .inr (.inr (.inl rfl))
  split
  · exact .inl ((exists_figures _ _).imp fun _ figures => figures.1)
  · exact .inr (.inr (.inr rfl))

/-- A number is read in front of whatever ends it. -/
theorem readNumber_text (value : Float) {rest : List Char} (ends : Ends rest) :
    readNumber ((Number.text value).toList ++ rest) =
      (readNumber (Number.text value).toList).map fun read => (read.1, rest) := by
  obtain ⟨negative, body, text, shape⟩ := text_cases value
  have refused (plain : ∀ rest, Ends rest → ∀ char ∈ (body ++ rest).head?, char.isDigit = false ∧ char ≠ '-') :
      readNumber ((Number.text value).toList ++ rest) =
        (readNumber (Number.text value).toList).map fun read => (read.1, rest) := by
    have alone := readNumber_none (plain [] ends_nil) negative
    rw [List.append_nil] at alone
    rw [text, List.append_assoc, readNumber_none (plain rest ends), alone]
    rfl
  rcases shape with ⟨figures, rfl⟩ | rfl | rfl | rfl
  · have alone := figures.readNumber_text ends_nil negative
    rw [List.append_nil] at alone
    rw [text, List.append_assoc, figures.readNumber_text ends, alone, Option.map_map]
    rfl
  · simp_all
  · simp_all
  · apply refused
    intro rest ends char first
    rcases ends char first with rfl | rfl | rfl <;> exact ⟨rfl, by decide⟩

/-- What begins no other value is read as a number. -/
theorem readValue_number {fuel : ℕ} {text : List Char}
    (plain : ∀ char ∈ text.head?, isSpace char = false ∧ char ∉ ['"', '{', '[', 'n', 't', 'f']) :
    readValue (fuel + 1) text = (readNumber text).map fun (value, rest) => (.number value, rest) := by
  have start : skip text = text := by
    cases text with
    | nil => rfl
    | cons char rest => exact skip_of_head (plain char rfl).1
  rw [readValue, start]
  split <;> first | rfl | exact absurd (by decide) (plain _ rfl).2

theorem text_head (value : Float) : ∀ char ∈ (Number.text value).toList.head?,
    isSpace char = false ∧ char ∉ ['"', '{', '[', 'n', 't', 'f'] ∧ char ≠ ']' := by
  have digit {char : Char} (decimal : char.isDigit = true) :
      isSpace char = false ∧ char ∉ ['"', '{', '[', 'n', 't', 'f'] ∧ char ≠ ']' := by
    simp only [isSpace, Bool.or_eq_false_iff, decide_eq_false_iff_not, List.mem_cons, List.not_mem_nil, or_false,
      not_or]
    refine ⟨⟨⟨⟨?_, ?_⟩, ?_⟩, ?_⟩, ⟨?_, ?_, ?_, ?_, ?_, ?_⟩, ?_⟩ <;> (rintro rfl; cases decimal)
  obtain ⟨negative, body, text, shape⟩ := text_cases value
  intro char first
  rw [text] at first
  cases negative with
  | true =>
    cases first
    exact ⟨rfl, by decide, by decide⟩
  | false =>
    rcases shape with ⟨figures, rfl⟩ | rfl | rfl | rfl
    · obtain ⟨head, others, whole⟩ := List.exists_cons_of_ne_nil figures.some_digit
      have decimal := figures.decimal head (by rw [whole]; simp)
      rw [Figures.text, whole] at first
      cases first
      exact digit decimal
    · cases first
      exact ⟨rfl, by decide, by decide⟩
    · cases first
      exact ⟨rfl, by decide, by decide⟩
    · cases first

/-! Any value. -/

/-- What is read where this value is written. -/
def rewritten : Json → Option Json
  | .null => some .null
  | .bool value => some (.bool value)
  | .number value =>
    if value.isFinite then (readNumber (Number.text value).toList).map fun read => .number read.1 else some .null
  | .string value => some (.string value)
  | .array items => if writeItems (write.writeAll items) = [] then some (.array []) else (all items).map .array
  | .object members => (each members).map .object
where
  all : List Json → Option (List Json)
    | [] => some []
    | item :: rest => do
      let item ← rewritten item
      let rest ← all rest
      return item :: rest
  each : List (String × Json) → Option (List (String × Json))
    | [] => some []
    | (name, value) :: rest => do
      let value ← rewritten value
      let rest ← each rest
      return (name, value) :: rest

/-- A text that is read as this value, or not at all, in front of anything that ends a value. -/
def ReadsAs (text : List Char) (value : Option Json) : Prop :=
  ∀ fuel rest, text.length ≤ fuel → Ends rest →
    readValue (fuel + 1) (text ++ rest) = value.map fun value => (value, rest)

theorem readsAs_number : ReadsAs (write (.number value)) (rewritten (.number value)) := by
  intro fuel rest _ ends
  rw [write, rewritten]
  split
  · have plain : ∀ char ∈ ((Number.text value).toList ++ rest).head?,
        isSpace char = false ∧ char ∉ ['"', '{', '[', 'n', 't', 'f'] := by
      intro char first
      cases text : (Number.text value).toList with
      | nil =>
        rw [text] at first
        rcases ends char first with rfl | rfl | rfl <;> exact ⟨rfl, by decide⟩
      | cons head others =>
        rw [text] at first
        have known := text_head value char (by rw [text]; exact first)
        exact ⟨known.1, known.2.1⟩
    rw [readValue_number plain, readNumber_text value ends, Option.map_map, Option.map_map]
    rfl
  · rfl

theorem write_head (value : Json) : ∀ char ∈ (write value).head?, isSpace char = false ∧ char ≠ ']' := by
  intro char first
  cases value with
  | number value =>
    rw [write] at first
    split at first
    · have known := text_head value char first
      exact ⟨known.1, known.2.2⟩
    · cases first
      exact ⟨rfl, by decide⟩
  | bool value => cases value <;> (cases first; exact ⟨rfl, by decide⟩)
  | null | string _ | array _ | object _ => cases first; exact ⟨rfl, by decide⟩

theorem writeItems_head (items : List Json) :
    ∀ char ∈ (writeItems (write.writeAll items)).head?, isSpace char = false ∧ char ≠ ']' := by
  intro char first
  rcases items with _ | ⟨item, _ | ⟨second, others⟩⟩
  · cases first
  · exact write_head item char first
  · rw [write.writeAll, write.writeAll, writeItems] at first
    cases text : write item with
    | nil =>
      rw [text] at first
      cases first
      exact ⟨rfl, by decide⟩
    | cons head rest =>
      rw [text] at first
      exact write_head item char (by rw [text]; exact first)
    · simp

/-- The items behind an opening bracket, each of which is read in front of what separates them. -/
theorem readItems_written (item : Json) (items : List Json)
    (reads : ∀ value ∈ item :: items, ReadsAs (write value) (rewritten value)) (fuel : ℕ) (rest : List Char)
    (enough : (writeItems (write.writeAll (item :: items))).length + 1 ≤ fuel) :
    readItems (fuel + 1) (writeItems (write.writeAll (item :: items)) ++ ']' :: rest) =
      (rewritten.all (item :: items)).map fun items => (items, rest) := by
  induction items generalizing item fuel with
  | nil =>
    obtain ⟨more, rfl⟩ : ∃ more, fuel = more + 1 := ⟨fuel - 1, by omega⟩
    have read := reads item List.mem_cons_self more (']' :: rest) (by simpa [write.writeAll, writeItems] using enough)
      (by simp [Ends])
    have behind : skip (']' :: rest) = ']' :: rest := skip_of_head rfl
    rw [write.writeAll, write.writeAll, writeItems, readItems, read]
    cases value : rewritten item with
    | none => simp [rewritten.all, value]
    | some value => simp [rewritten.all, value, behind]
  | cons second others ih =>
    obtain ⟨more, rfl⟩ : ∃ more, fuel = more + 1 := ⟨fuel - 1, by omega⟩
    have text : writeItems (write.writeAll (item :: second :: others)) ++ ']' :: rest =
        write item ++ ',' :: (writeItems (write.writeAll (second :: others)) ++ ']' :: rest) := by
      simp [write.writeAll, writeItems]
    have long : (write item).length + 1 + (writeItems (write.writeAll (second :: others))).length ≤ more := by
      simp only [write.writeAll, writeItems, List.length_append, List.length_cons] at enough ⊢
      omega
    have read := reads item List.mem_cons_self more
      (',' :: (writeItems (write.writeAll (second :: others)) ++ ']' :: rest)) (by omega) (by simp [Ends])
    have later := ih second (fun value member => reads value (List.mem_cons_of_mem _ member)) more (by omega)
    rw [text, readItems, read]
    cases value : rewritten item with
    | none => simp [rewritten.all, value]
    | some found =>
      have whole : rewritten.all (item :: second :: others) =
          (rewritten.all (second :: others)).map fun items => found :: items := by
        rw [rewritten.all, value]
        generalize rewritten.all (second :: others) = later
        cases later <;> rfl
      simp only [Option.map_some, Option.bind_eq_bind, Option.bind_some, skip_comma, later, whole, Option.map_map]
      rfl

/-- The members behind an opening brace, likewise. -/
theorem readMembers_each (member : String × Json) (members : List (String × Json))
    (reads : ∀ found ∈ member :: members, ReadsAs (write found.2) (rewritten found.2)) (fuel : ℕ) (rest : List Char)
    (enough : (writeMembers (write.writeEach (member :: members))).length ≤ fuel) :
    readMembers (fuel + 1) (writeMembers (write.writeEach (member :: members)) ++ '}' :: rest) =
      (rewritten.each (member :: members)).map fun members => (members, rest) := by
  induction members generalizing member fuel with
  | nil =>
    obtain ⟨name, value⟩ := member
    have text : writeMembers (write.writeEach [(name, value)]) ++ '}' :: rest =
        '"' :: (name.toList.flatMap escape ++ '"' :: ':' :: (write value ++ '}' :: rest)) := by
      simp [write.writeEach, writeMembers, writeText]
    simp only [write.writeEach, writeMembers, writeText, List.length_append, List.length_cons] at enough
    obtain ⟨more, rfl⟩ : ∃ more, fuel = more + 1 := ⟨fuel - 1, by omega⟩
    obtain ⟨pieces, joined, named⟩ := readText_written name.toList (':' :: (write value ++ '}' :: rest))
    have read := reads (name, value) List.mem_cons_self more ('}' :: rest) (by show (write value).length ≤ more; omega)
      (by simp [Ends])
    rw [text, readMembers, skip_quote]
    simp only [named, Option.bind_eq_bind, Option.bind_some, skip_colon, read, joined, String.ofList_toList]
    cases found : rewritten value with
    | none => simp [rewritten.each, found]
    | some found' => simp [rewritten.each, found, skip_brace]
  | cons second others ih =>
    obtain ⟨name, value⟩ := member
    have text : writeMembers (write.writeEach ((name, value) :: second :: others)) ++ '}' :: rest =
        '"' :: (name.toList.flatMap escape ++ '"' :: ':' :: (write value ++
          ',' :: (writeMembers (write.writeEach (second :: others)) ++ '}' :: rest))) := by
      simp [write.writeEach, writeMembers, writeText]
    have long : (write value).length + 1 + (writeMembers (write.writeEach (second :: others))).length + 1 ≤ fuel := by
      simp only [write.writeEach, writeMembers, writeText, List.length_append, List.length_cons] at enough ⊢
      omega
    obtain ⟨more, rfl⟩ : ∃ more, fuel = more + 1 := ⟨fuel - 1, by omega⟩
    obtain ⟨pieces, joined, named⟩ := readText_written name.toList (':' :: (write value ++
      ',' :: (writeMembers (write.writeEach (second :: others)) ++ '}' :: rest)))
    have read := reads (name, value) List.mem_cons_self more
      (',' :: (writeMembers (write.writeEach (second :: others)) ++ '}' :: rest))
      (by show (write value).length ≤ more; omega) (by simp [Ends])
    have later := ih second (fun found member => reads found (List.mem_cons_of_mem _ member)) more (by omega)
    rw [text, readMembers, skip_quote]
    simp only [named, Option.bind_eq_bind, Option.bind_some, skip_colon, read, joined, String.ofList_toList]
    cases found : rewritten value with
    | none => simp [rewritten.each, found]
    | some found' =>
      have whole : rewritten.each ((name, value) :: second :: others) =
          (rewritten.each (second :: others)).map fun members => (name, found') :: members := by
        rw [rewritten.each, found]
        generalize rewritten.each (second :: others) = later
        cases later <;> rfl
      simp only [Option.map_some, Option.bind_some, skip_comma, later, whole, Option.map_map]
      rfl

/-- What is read behind the bracket of an array, once blanks are skipped. -/
def behindBracket (fuel : ℕ) (text : List Char) : Option (Json × List Char) :=
  match text with
  | ']' :: rest => some (.array [], rest)
  | rest => (readItems fuel rest).map fun (items, rest) => (.array items, rest)

/-- What is read behind the brace of an object, once blanks are skipped. -/
def behindBrace (fuel : ℕ) (text : List Char) : Option (Json × List Char) :=
  match text with
  | '}' :: rest => some (.object [], rest)
  | rest => (readMembers fuel rest).map fun (members, rest) => (.object members, rest)

theorem readsAs_array (items : List Json) (reads : ∀ item ∈ items, ReadsAs (write item) (rewritten item)) :
    ReadsAs (write (.array items)) (rewritten (.array items)) := by
  intro fuel rest enough _
  have text : write (.array items) ++ rest = '[' :: (writeItems (write.writeAll items) ++ ']' :: rest) := by
    simp [write]
  rw [text, readValue, skip_of_head rfl, rewritten]
  by_cases blank : writeItems (write.writeAll items) = []
  · rw [if_pos blank, blank]
    show behindBracket fuel (skip (']' :: rest)) = _
    rw [skip_of_head rfl]
    rfl
  · rw [if_neg blank]
    obtain ⟨char, others, written⟩ := List.exists_cons_of_ne_nil blank
    obtain ⟨visible, inside⟩ := writeItems_head items char (by rw [written]; rfl)
    obtain ⟨item, more, rfl⟩ : ∃ item more, items = item :: more := by
      cases items with
      | nil => exact absurd rfl blank
      | cons item more => exact ⟨item, more, rfl⟩
    simp only [write, List.length_append, List.length_cons, List.length_nil] at enough
    obtain ⟨fuel, rfl⟩ : ∃ less, fuel = less + 1 := ⟨fuel - 1, by omega⟩
    have read := readItems_written item more reads fuel rest (by omega)
    rw [written] at read ⊢
    show behindBracket (fuel + 1) (skip (char :: (others ++ ']' :: rest))) = _
    rw [skip_of_head visible]
    unfold behindBracket
    split
    · simp_all
    · rw [← List.cons_append, read, Option.map_map, Option.map_map]
      rfl

theorem readsAs_object (members : List (String × Json))
    (reads : ∀ member ∈ members, ReadsAs (write member.2) (rewritten member.2)) :
    ReadsAs (write (.object members)) (rewritten (.object members)) := by
  intro fuel rest enough _
  have text : write (.object members) ++ rest = '{' :: (writeMembers (write.writeEach members) ++ '}' :: rest) := by
    simp [write, writeObject]
  rw [text, readValue, skip_of_head rfl, rewritten]
  cases members with
  | nil =>
    show behindBrace fuel (skip ('}' :: rest)) = _
    rw [skip_brace]
    rfl
  | cons member others =>
    obtain ⟨after, quoted⟩ : ∃ after, writeMembers (write.writeEach (member :: others)) = '"' :: after := by
      obtain ⟨name, value⟩ := member
      cases others with
      | nil | cons second others => exact ⟨_, rfl⟩
    simp only [write, writeObject, List.length_append, List.length_cons, List.length_nil] at enough
    obtain ⟨fuel, rfl⟩ : ∃ less, fuel = less + 1 := ⟨fuel - 1, by omega⟩
    have read := readMembers_each member others reads fuel rest (by omega)
    rw [quoted] at read ⊢
    show behindBrace (fuel + 1) (skip ('"' :: (after ++ '}' :: rest))) = _
    rw [skip_quote]
    show (readMembers (fuel + 1) ('"' :: after ++ '}' :: rest)).map _ = _
    rw [read, Option.map_map, Option.map_map]
    rfl

/-- What is written is read again, inside of any value. -/
theorem readsAs_write : ∀ value : Json, ReadsAs (write value) (rewritten value)
  | .null => fun _ _ _ _ => rfl
  | .bool value => by cases value <;> exact fun _ _ _ _ => rfl
  | .number value => readsAs_number value
  | .string value => fun fuel rest _ _ => readValue_text value fuel rest
  | .array items => readsAs_array items fun item _ => readsAs_write item
  | .object members => readsAs_object members fun ⟨name, value⟩ _ => readsAs_write value
decreasing_by
  all_goals
    have := List.sizeOf_lt_of_mem ‹_›
    simp only [Json.array.sizeOf_spec, Json.object.sizeOf_spec, Prod.mk.sizeOf_spec] at this ⊢
    omega

/-- `JSON.parse(JSON.stringify(value))` -/
theorem parse_write (value : Json) : parse (String.ofList (write value)) = rewritten value := by
  have whole := readsAs_write value (write value).length [] le_rfl ends_nil
  rw [List.append_nil] at whole
  rw [parse, String.toList_ofList, whole]
  cases rewritten value <;> rfl

/-! Which values come back. -/

/-- A number that is written, and whose text is read as the number. -/
def KeepsNumber (value : Float) : Prop :=
  value.isFinite = true ∧ ∃ rest, readNumber (Number.text value).toList = some (value, rest)

/-- Every number in the value is kept. -/
def KeepsNumbers : Json → Prop
  | .null | .bool _ | .string _ => True
  | .number value => KeepsNumber value
  | .array items => all items
  | .object members => each members
where
  all : List Json → Prop
    | [] => True
    | item :: rest => KeepsNumbers item ∧ all rest
  each : List (String × Json) → Prop
    | [] => True
    | (_, value) :: rest => KeepsNumbers value ∧ each rest

theorem rewritten_number : rewritten (.number value) = some (.number value) ↔ KeepsNumber value := by
  rw [rewritten, KeepsNumber]
  by_cases finite : value.isFinite = true
  · simp_all
  · simp [finite]

/-- Nothing is read where nothing is written. -/
theorem rewritten_of_blank {value : Json} (blank : write value = []) : rewritten value = none := by
  cases value with
  | number value =>
    rw [write] at blank
    split at blank
    · rename_i finite
      rw [rewritten, if_pos finite, blank]
      rfl
    · cases blank
  | bool value => cases value <;> cases blank
  | null | string _ | array _ | object _ => cases blank

theorem all_of_blank {items : List Json} (blank : writeItems (write.writeAll items) = [])
    (read : rewritten.all items = some items) : items = [] := by
  rcases items with _ | ⟨item, _ | ⟨second, others⟩⟩
  · rfl
  · rw [rewritten.all, rewritten_of_blank blank] at read
    cases read
  · simp_all [write.writeAll, writeItems]

mutual

/-- A value comes back as it is exactly if its numbers do. -/
theorem rewritten_eq_iff (value : Json) : rewritten value = some value ↔ KeepsNumbers value := by
  cases value with
  | null | bool _ | string _ => simp [rewritten, KeepsNumbers]
  | number value => exact rewritten_number value
  | array items =>
    rw [KeepsNumbers, ← rewritten_all_iff items, rewritten]
    split
    · rename_i blank
      constructor
      · intro same
        cases same
        rfl
      · intro read
        rw [all_of_blank blank read]
    · simp
  | object members =>
    rw [KeepsNumbers, ← rewritten_each_iff members, rewritten]
    simp

theorem rewritten_all_iff (items : List Json) : rewritten.all items = some items ↔ KeepsNumbers.all items := by
  cases items with
  | nil => simp [rewritten.all, KeepsNumbers.all]
  | cons item rest =>
    rw [KeepsNumbers.all, ← rewritten_eq_iff item, ← rewritten_all_iff rest, rewritten.all]
    cases rewritten item with
    | none => simp
    | some item => cases rewritten.all rest <;> simp

theorem rewritten_each_iff (members : List (String × Json)) :
    rewritten.each members = some members ↔ KeepsNumbers.each members := by
  cases members with
  | nil => simp [rewritten.each, KeepsNumbers.each]
  | cons member rest =>
    obtain ⟨name, value⟩ := member
    rw [KeepsNumbers.each, ← rewritten_eq_iff value, ← rewritten_each_iff rest, rewritten.each]
    cases rewritten value with
    | none => simp
    | some value => cases rewritten.each rest <;> simp

end

end ProxyPay.Library.Json
