import ProxyPay.Library.Transition

/-! The one-shot vault: something of value is locked once and paid out once, whole.
It says what an escrow is for without saying who may do what and when. -/

namespace ProxyPay.Library

universe u

inductive Vault (Amount : Type u) where
  | empty
  | locked (amount : Amount)
  | settled (amount : Amount)

namespace Vault

/-- The two moves that change a vault. -/
inductive Move (Amount : Type u) where
  | lock (amount : Amount)
  | settle

variable {Amount : Type u}

inductive Step : Vault Amount → Move Amount → Vault Amount → Prop where
  | lock (amount : Amount) : Step .empty (.lock amount) (.locked amount)
  | settle (amount : Amount) : Step (.locked amount) .settle (.settled amount)

def isSettled : Vault Amount → Bool
  | .settled _ => true
  | _ => false

def Move.isLock : Move Amount → Bool
  | .lock _ => true
  | .settle => false

def Move.isSettle : Move Amount → Bool
  | .lock _ => false
  | .settle => true

section

variable {trace : List (Move Amount)} {vault : Vault Amount} (run : Run Step .empty trace vault)

include run

/-- The complete histories of a vault that starts empty. -/
theorem history : (trace = [] ∧ vault = .empty) ∨ (∃ amount, trace = [.lock amount] ∧ vault = .locked amount) ∨
    (∃ amount, trace = [.lock amount, .settle] ∧ vault = .settled amount) := by
  induction run with
  | start => exact .inl ⟨rfl, rfl⟩
  | next earlier move ih =>
    rcases ih with ⟨rfl, rfl⟩ | ⟨amount, rfl, rfl⟩ | ⟨amount, rfl, rfl⟩
    · cases move with
      | lock amount => exact .inr (.inl ⟨amount, rfl, rfl⟩)
    · cases move with
      | settle => exact .inr (.inr ⟨amount, rfl, rfl⟩)
    · cases move

theorem lock_at_most_once : trace.countP Move.isLock ≤ 1 := by
  rcases history run with ⟨rfl, _⟩ | ⟨amount, rfl, _⟩ | ⟨amount, rfl, _⟩ <;>
    simp [List.countP_cons, Move.isLock]

theorem settle_at_most_once : trace.countP Move.isSettle ≤ 1 := by
  rcases history run with ⟨rfl, _⟩ | ⟨amount, rfl, _⟩ | ⟨amount, rfl, _⟩ <;>
    simp [List.countP_cons, Move.isSettle]

end

/-- A settled vault stays settled. -/
theorem settled_forever {first last : Vault Amount} {trace : List (Move Amount)}
    (run : Run Step first trace last) (done : first.isSettled = true) :
    last.isSettled = true := by
  have kept := run.related (fun before after => before.isSettled = true → after.isSettled = true)
    (fun _ same => same) (fun _ _ _ left right started => right (left started)) (by
      intro before label after move started
      cases move with
      | lock amount => cases started
      | settle amount => rfl)
  exact kept done

end Vault

end ProxyPay.Library
