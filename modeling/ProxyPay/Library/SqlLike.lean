import Mathlib

/-! The patterns of `LIKE`, and a text as a part of one. -/

namespace ProxyPay.Library.Sql

/-- `text LIKE pattern ESCAPE escape` -/
def like (escape : Char) : List Char → List Char → Bool
  | [], text => text.isEmpty
  | char :: pattern, text =>
    if char = escape then
      match pattern with
      | [] => false
      | literal :: pattern =>
        match text with
        | [] => false
        | first :: text => literal = first && like escape pattern text
    else if char = '%' then text.tails.any fun rest => like escape pattern rest
    else
      match text with
      | [] => false
      | first :: text => (char = '_' || char = first) && like escape pattern text

/-- A character that means something else in a pattern. -/
def isSpecial (char : Char) : Bool :=
  char = '\\' || char = '%' || char = '_'

/-- `value.replace(/[\\%_]/g, (c) => "\\" + c)` -/
def escaped (value : List Char) : List Char :=
  value.flatMap fun char => if isSpecial char then ['\\', char] else [char]

variable {value pattern text : List Char}

theorem escaped_cons (char : Char) (value : List Char) :
    escaped (char :: value) = (if isSpecial char then ['\\', char] else [char]) ++ escaped value := by
  simp [escaped]

/-- An escaped character stands for itself. -/
theorem like_literal (char : Char) (pattern text : List Char) :
    like '\\' ((if isSpecial char then ['\\', char] else [char]) ++ pattern) text =
      match text with
      | [] => false
      | first :: text => decide (char = first) && like '\\' pattern text := by
  by_cases special : isSpecial char = true
  · rw [if_pos special, List.cons_append, List.singleton_append, like.eq_def]
    cases text with
    | nil | cons first text => simp
  · have plain : char ≠ '\\' ∧ char ≠ '%' ∧ char ≠ '_' := by
      simpa [isSpecial, not_or, and_assoc] using special
    rw [if_neg special, List.singleton_append, like.eq_def]
    cases text with
    | nil => simp [plain.1, plain.2.1]
    | cons first text => simp [plain.1, plain.2.1, plain.2.2]

/-- An escaped text stands for itself. -/
theorem like_escaped : like '\\' (escaped value ++ pattern) text = true ↔
    ∃ rest, text = value ++ rest ∧ like '\\' pattern rest = true := by
  induction value generalizing text with
  | nil => simp [escaped]
  | cons char value ih =>
    rw [escaped_cons, List.append_assoc, like_literal]
    cases text with
    | nil => simp
    | cons first text => grind

theorem like_any : like '\\' ('%' :: pattern) text = true ↔
    ∃ before rest, text = before ++ rest ∧ like '\\' pattern rest = true := by
  have unfolded : like '\\' ('%' :: pattern) text = text.tails.any fun rest => like '\\' pattern rest := by
    rw [like.eq_def]
    rfl
  rw [unfolded, List.any_eq_true]
  constructor
  · intro found
    obtain ⟨rest, member, matched⟩ := found
    obtain ⟨before, same⟩ := (List.mem_tails rest text).mp member
    exact ⟨before, rest, same.symm, matched⟩
  · intro found
    obtain ⟨before, rest, same, matched⟩ := found
    exact ⟨rest, (List.mem_tails rest text).mpr ⟨before, same.symm⟩, matched⟩

theorem like_rest : like '\\' ['%'] text = true := by
  rw [like_any]
  exact ⟨text, [], (List.append_nil text).symm, rfl⟩

theorem like_contains : like '\\' ('%' :: (escaped value ++ ['%'])) text = true ↔ value <:+: text := by
  rw [like_any]
  constructor
  · intro found
    obtain ⟨before, rest, rfl, matched⟩ := found
    obtain ⟨after, rfl, _⟩ := (like_escaped).mp matched
    exact ⟨before, after, by rw [List.append_assoc]⟩
  · intro inside
    obtain ⟨before, after, rfl⟩ := inside
    exact ⟨before, value ++ after, by rw [List.append_assoc], (like_escaped).mpr ⟨after, rfl, like_rest⟩⟩

theorem like_starts : like '\\' (escaped value ++ ['%']) text = true ↔ value <+: text := by
  rw [like_escaped]
  constructor
  · simp_all
  · intro starts
    obtain ⟨rest, rfl⟩ := starts
    exact ⟨rest, rfl, like_rest⟩

theorem like_ends : like '\\' ('%' :: escaped value) text = true ↔ value <:+ text := by
  rw [like_any]
  constructor
  · intro found
    obtain ⟨before, rest, rfl, matched⟩ := found
    rw [← List.append_nil (escaped value)] at matched
    obtain ⟨after, rfl, empty⟩ := (like_escaped).mp matched
    obtain rfl := List.isEmpty_iff.mp empty
    exact ⟨before, by rw [List.append_nil]⟩
  · intro ends
    obtain ⟨before, rfl⟩ := ends
    refine ⟨before, value, rfl, ?_⟩
    rw [← List.append_nil (escaped value)]
    exact (like_escaped).mpr ⟨[], (List.append_nil value).symm, rfl⟩

/-- A change of case that leaves the special characters alone commutes with escaping. -/
theorem map_escaped {lower : Char → Char} (fixes : ∀ char, isSpecial char = true → lower char = char)
    (adds : ∀ char, isSpecial (lower char) = true → isSpecial char = true) (value : List Char) :
    (escaped value).map lower = escaped (value.map lower) := by
  induction value with
  | nil => rfl
  | cons char value ih =>
    rw [List.map_cons, escaped_cons, escaped_cons, List.map_append, ih]
    by_cases special : isSpecial char = true
    · rw [if_pos special, fixes char special, if_pos special]
      have slash : lower '\\' = '\\' := fixes '\\' (by decide)
      simp [slash, fixes char special]
    · grind

end ProxyPay.Library.Sql
