import Mathlib

/-! Computations that stop at their first error. -/

namespace ProxyPay.Library

universe u v w

variable {ε : Type u} {α : Type v} {β : Type v}

/-- The value, or this error where there is none. -/
def orThrow (error : ε) : Option α → Except ε α
  | some value => .ok value
  | none => .error error

/-- Goes on where the condition holds, and stops with this error elsewhere. -/
def require (condition : Prop) [Decidable condition] (error : ε) : Except ε PUnit :=
  if condition then .ok ⟨⟩ else .error error

variable {error : ε} {value : α}

@[simp] theorem orThrow_ok {found : Option α} : orThrow error found = .ok value ↔ found = some value := by
  cases found <;> simp [orThrow]

variable {condition : Prop}

@[simp] theorem require_ok [Decidable condition] {done : PUnit} : require condition error = .ok done ↔ condition := by
  unfold require
  split <;> simp_all

theorem require_passes [Decidable condition] (error : ε) (holds : condition) : require condition error = .ok ⟨⟩ :=
  (require_ok).mpr holds

variable {first : Except ε α} {next : α → Except ε β}

theorem bind_ok {value : β} :
    (first >>= next) = .ok value ↔ ∃ middle, first = .ok middle ∧ next middle = .ok value := by
  cases first with
  | error error | ok middle => simp [bind, Except.bind]

theorem bind_succeeds {middle : α} (done : first = .ok middle) (rest : ∃ value, next middle = .ok value) :
    ∃ value, (first >>= next) = .ok value := by
  obtain ⟨value, returned⟩ := rest
  exact ⟨value, (bind_ok).mpr ⟨middle, done, returned⟩⟩

@[simp] theorem pure_ok {result : α} : (pure value : Except ε α) = .ok result ↔ value = result := by
  simp [pure, Except.pure]

end ProxyPay.Library
