import ProxyPay.Library.Server

/-! Requests whose connection may fail: before the request is executed, or before its reply arrives. -/

namespace ProxyPay.Library

inductive Fault where
  | requestLost
  | replyLost
  deriving DecidableEq

namespace Fault

variable {Error Reply S : Type}

/-- What the caller gets of a result, whether it took effect, and what it leaves. -/
def deliver (lost : Error) (now : S) (fault : Option Fault) (result : Except Error (Reply × S)) :
    Except Error Reply × Bool × S :=
  match fault, result with
  | none, .ok (reply, after) => (.ok reply, true, after)
  | some .replyLost, .ok (_, after) => (.error lost, true, after)
  | some .requestLost, _ => (.error lost, false, now)
  | _, .error error => (.error error, false, now)

/-- A request takes effect and is answered, or it takes effect and its reply is lost, or it fails. -/
theorem deliver_cases (lost : Error) (now : S) (fault : Option Fault) (result : Except Error (Reply × S)) :
    (∃ reply after, result = .ok (reply, after) ∧ (deliver lost now fault result = (.ok reply, true, after) ∨
        deliver lost now fault result = (.error lost, true, after))) ∨
    ∃ error, deliver lost now fault result = (.error error, false, now) := by
  cases fault with
  | none =>
    cases result with
    | error error => exact .inr ⟨error, rfl⟩
    | ok pair => exact .inl ⟨pair.1, pair.2, rfl, .inl rfl⟩
  | some fault =>
    cases fault with
    | requestLost => exact .inr ⟨lost, rfl⟩
    | replyLost =>
      cases result with
      | error error => exact .inr ⟨error, rfl⟩
      | ok pair => exact .inl ⟨pair.1, pair.2, rfl, .inr rfl⟩

end Fault

end ProxyPay.Library
