import Mathlib

/-! The search for a value that is not taken yet: one candidate after another, until one is free. Candidates that
differ from each other are more than those that are taken, so the search ends. -/

namespace ProxyPay.Library.Fresh

universe u

variable {α : Type u} (taken : List α) (candidate : ℕ → α)

/-- `while (taken.has(candidate(index))) index++`, stopped after so many rounds -/
def search [DecidableEq α] : ℕ → ℕ → Option α
  | 0, _ => none
  | rounds + 1, index => if candidate index ∈ taken then search rounds (index + 1) else some (candidate index)

/-- The first free candidate. -/
def IsFirst (value : α) : Prop :=
  ∃ index, value = candidate index ∧ candidate index ∉ taken ∧ ∀ before < index, candidate before ∈ taken

variable {taken candidate}

theorem exists_free (distinct : Function.Injective candidate) : ∃ index, candidate index ∉ taken := by
  by_contra none_free
  have all : Set.range candidate ⊆ {value | value ∈ taken} := by grind
  exact Set.infinite_range_of_injective distinct ((List.finite_toSet taken).subset all)

theorem exists_first (distinct : Function.Injective candidate) : ∃ value, IsFirst taken candidate value := by
  classical
  have some_free : ∃ index, candidate index ∉ taken := exists_free distinct
  refine ⟨_, Nat.find some_free, rfl, Nat.find_spec some_free, ?_⟩
  intro before earlier
  exact not_not.mp (Nat.find_min some_free earlier)

theorem IsFirst.unique {first second : α} (one : IsFirst taken candidate first)
    (other : IsFirst taken candidate second) : first = second := by
  obtain ⟨index, rfl, free, before⟩ := one
  obtain ⟨position, rfl, open_too, earlier⟩ := other
  rcases lt_trichotomy index position with less | rfl | more
  · exact absurd (earlier index less) free
  · rfl
  · exact absurd (before position more) open_too

/-- From where every earlier candidate is taken, the search comes to the first free one. -/
theorem search_finds [DecidableEq α] {value : α} {index : ℕ} (first : IsFirst taken candidate value)
    (before : ∀ earlier < index, candidate earlier ∈ taken) :
    ∃ least, ∀ rounds ≥ least, search taken candidate rounds index = some value := by
  obtain ⟨position, rfl, free, earlier⟩ := first
  have later : index ≤ position := by grind
  refine ⟨position - index + 1, ?_⟩
  induction known : position - index generalizing index with
  | zero =>
    intro rounds enough
    obtain ⟨rounds, rfl⟩ : ∃ fewer, rounds = fewer + 1 := ⟨rounds - 1, by omega⟩
    have same : index = position := by omega
    rw [search, same, if_neg free]
  | succ distance ih =>
    intro rounds enough
    obtain ⟨rounds, rfl⟩ : ∃ fewer, rounds = fewer + 1 := ⟨rounds - 1, by omega⟩
    have here : candidate index ∈ taken := earlier index (by omega)
    rw [search, if_pos here]
    apply ih
    · intro position passed
      exact earlier position (by omega)
    · omega
    · omega
    · omega

end ProxyPay.Library.Fresh
