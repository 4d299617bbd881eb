import ProxyPay.Library.Fallible

/-! Stateful work that may stop with an error and then leaves the state as far as it came, and
transactions, which put the state back. -/

namespace ProxyPay.Library.Atomic

universe u

variable {ε σ α β : Type u} {before middle after : σ} {value : α} {error : ε}

def check (result : Except ε α) : EStateM ε σ α := fun state =>
  match result with
  | .ok value => .ok value state
  | .error error => .error error state

/-- `BEGIN`, the work, and `COMMIT` or `ROLLBACK`. -/
def atomically (work : EStateM ε σ α) : EStateM ε σ α := fun before =>
  match work before with
  | .ok value after => .ok value after
  | .error error _ => .error error before

variable {next : α → EStateM ε σ β}

theorem bind_ok {first : EStateM ε σ α} {result : β} : (first >>= next) before = .ok result after ↔
      ∃ value middle, first before = .ok value middle ∧ next value middle = .ok result after := by
  change EStateM.bind first next before = _ ↔ _
  unfold EStateM.bind
  cases first before with
  | ok value middle => grind
  | error error middle => simp

@[simp] theorem pure_ok {result : α} :
    (pure value : EStateM ε σ α) before = .ok result after ↔ value = result ∧ before = after := by
  change EStateM.Result.ok value before = _ ↔ _
  simp

variable {result : Except ε α}

@[simp] theorem check_ok :
    (check result : EStateM ε σ α) before = .ok value after ↔ result = .ok value ∧ before = after := by
  cases result <;> simp [check]

variable {last : β}

theorem check_bind_ok : (check result >>= next) before = .ok last after ↔
      ∃ value, result = .ok value ∧ next value before = .ok last after := by
  rw [bind_ok]
  constructor
  · simp_all
  · rintro ⟨value, known, moved⟩
    exact ⟨value, before, (check_ok).mpr ⟨known, rfl⟩, moved⟩

theorem get_bind_ok {next : σ → EStateM ε σ β} :
    (get >>= next) before = .ok last after ↔ next before before = .ok last after :=
  Iff.rfl

theorem set_bind_ok {state : σ} {next : PUnit → EStateM ε σ β} :
    (set state >>= next) before = .ok last after ↔ next ⟨⟩ state = .ok last after :=
  Iff.rfl

variable {work : EStateM ε σ α}

theorem bind_pure_ok {result : α → β} : (work >>= fun value => pure (result value)) before = .ok last after ↔
      ∃ value, work before = .ok value after ∧ result value = last := by
  rw [bind_ok]
  constructor
  · simp
  · simp

@[simp] theorem atomically_ok : atomically work before = .ok value after ↔ work before = .ok value after := by
  unfold atomically
  cases work before <;> simp

/-- Work that leaves no trace when it fails. -/
def Reverts (work : EStateM ε σ α) : Prop :=
  ∀ before error after, work before = .error error after → after = before

theorem atomically_reverts : Reverts (atomically work) := by
  intro before error after failed
  unfold atomically at failed
  cases result : work before with
  | ok value middle => simp [result] at failed
  | error other middle => simp_all

theorem Reverts.check_bind (reverts : ∀ value, Reverts (next value)) : Reverts (check result >>= next) := by
  intro before error after failed
  change EStateM.bind (check result) next before = _ at failed
  unfold EStateM.bind at failed
  cases result with
  | ok value => exact reverts value before error after failed
  | error other =>
    injection failed with _ same
    exact same.symm

theorem Reverts.bind_pure {result : α → β} (reverts : Reverts work) :
    Reverts (work >>= fun value => pure (result value)) := by
  intro before error after failed
  change EStateM.bind work _ before = _ at failed
  unfold EStateM.bind at failed
  cases outcome : work before with
  | ok value middle =>
    rw [outcome] at failed
    injection failed
  | error other middle =>
    rw [outcome] at failed
    injection failed with _ same
    rw [← same]
    exact reverts before other middle outcome

end ProxyPay.Library.Atomic
