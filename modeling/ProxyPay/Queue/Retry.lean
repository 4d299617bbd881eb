import ProxyPay.Library.Script

/-! Retries of transient failures: how a thrown value is classified, and the loop. The
delays between two attempts have no effect and are left out. -/

namespace ProxyPay.Queue

open ProxyPay.Library

/-- The `originalError` of an error: its message or string form, and `response?.status`. -/
structure OriginalError where
  text : String
  status : Option Nat
  deriving DecidableEq

structure JsError where
  message : String
  code : Option String
  status : Option Nat
  originalError : Option OriginalError
  deriving DecidableEq

/-- What can be thrown: an `Error`, or another value that only has a string form. -/
inductive Thrown where
  | error (error : JsError)
  | value (text : String)
  deriving DecidableEq

/-- `new Error(message)` -/
def Thrown.ofMessage (message : String) : Thrown :=
  .error ⟨message, none, none, none⟩

def getErrorMessage : Thrown → String
  | .error error => error.message
  | .value _ => "Unknown error"

def isCircuitBreakerOpenError : Thrown → Bool
  | .error error => error.code == some "EOPENBREAKER"
  | .value _ => false

/-- The character class `\s`. -/
def isSpace (char : Char) : Bool :=
  [9, 10, 11, 12, 13, 32, 160, 5760, 8232, 8233, 8239, 8287, 12288, 65279].contains char.toNat ||
    (8192 ≤ char.toNat && char.toNat ≤ 8202)

def afterPrefix : List Char → List Char → Option (List Char)
  | [], text => some text
  | _ :: _, [] => none
  | expected :: rest, char :: text => if expected = char then afterPrefix rest text else none

/-- The words occur at the start of the text, separated by `\s+`. -/
def matchesAt : List String → List Char → Bool
  | [], _ => true
  | [word], text => (afterPrefix word.toList text).isSome
  | word :: rest, text =>
    match afterPrefix word.toList text with
    | some (space :: later) => isSpace space && matchesAt rest (later.dropWhile isSpace)
    | _ => false

/-- The words occur somewhere in the text. -/
def occurs (words : List String) : List Char → Bool
  | [] => matchesAt words []
  | char :: rest => matchesAt words (char :: rest) || occurs words rest

/-- Some alternative of the pattern occurs in the text, whatever the case of its letters. -/
def test (hints : List (List String)) (text : String) : Bool :=
  hints.any fun words => occurs words (text.toList.map Char.toLower)

def transientHints : List (List String) :=
  [["econnreset"], ["etimedout"], ["econnrefused"], ["enotfound"], ["network"], ["socket"],
    ["timeout"], ["temporar"], ["unavailable"], ["429"], ["502"], ["503"], ["504"],
    ["fetch failed"], ["aborted"]]

def permanentHints : List (List String) :=
  [["invalid"], ["insufficient"], ["bad request"], ["malformed"], ["unauthorized"], ["forbidden"],
    ["not found"], ["wrong", "number"], ["duplicate"], ["rejected"], ["bad", "request"], ["400"],
    ["401"], ["403"], ["404"], ["422"]]

/-- The verdict of the provider's HTTP status, where it has one. -/
def statusVerdict (provider : String) (status : Nat) : Option Bool :=
  if status = 0 then none
  else if provider = "mtn" ∧ status ∈ [400, 401, 404, 409] then some false
  else if provider ∈ ["airtel", "orange"] ∧ status ∈ [400, 401] then some false
  else if 500 ≤ status ∨ status = 429 then some true
  else none

def hintVerdict (message : String) : Bool :=
  if test permanentHints message then false else test transientHints message

def isTransientError (thrown : Thrown) (provider : String) : Bool :=
  match thrown with
  | .value text => hintVerdict text
  | .error error =>
    let inner := error.originalError.getD ⟨error.message, error.status⟩
    let message := error.message ++ " " ++ error.code.getD "" ++ " " ++ inner.text
    match inner.status with
    | some status =>
      if provider = "" then hintVerdict message
      else (statusVerdict provider.toLower status).getD (hintVerdict message)
    | none => hintVerdict message

variable {Request : Type} {Reply : Request → Type} {α : Type}

/-- The loop of `withRetry`, with `extra` attempts left after the one that starts. -/
def retryLoop (provider : String) (onRetry : Script Request Reply Thrown Unit)
    (attempt : Script Request Reply Thrown α) : Nat → Script Request Reply Thrown α
  | 0 => attempt
  | extra + 1 => attempt.catching fun error =>
    if isTransientError error provider then
      onRetry.bind fun _ => retryLoop provider onRetry attempt extra
    else .done (.error error)

def withRetry (maxAttempts : Nat) (provider : String) (onRetry : Script Request Reply Thrown Unit)
    (attempt : Script Request Reply Thrown α) : Script Request Reply Thrown α :=
  match maxAttempts with
  | 0 => .done (.error (.ofMessage "maxAttempts must be at least 1"))
  | extra + 1 => retryLoop provider onRetry attempt extra

section Rules

variable {S : Type} {observer : Observer Request Reply Thrown S} {provider : String}
variable {onRetry : Script Request Reply Thrown Unit} {attempt : Script Request Reply Thrown α}

theorem retryLoop_triple {before again : Nat → S → Prop} {returned : α → S → Prop} {raised : Thrown → S → Prop}
    (attempted : ∀ extra, observer.Triple (before extra) attempt (Observer.ends returned fun error state =>
        if 0 < extra ∧ isTransientError error provider = true then again extra state
        else raised error state))
    (noted : ∀ extra, observer.Triple (again (extra + 1)) onRetry
      (Observer.ends (fun _ => before extra) raised)) (extra : Nat) :
    observer.Triple (before extra) (retryLoop provider onRetry attempt extra) (Observer.ends returned raised) := by
  induction extra with
  | zero =>
    refine (attempted 0).weaken (fun _ holds => holds) ?_
    intro outcome state holds
    cases outcome with
    | ok value => exact holds
    | error error => simpa [Observer.ends] using holds
  | succ extra ih =>
    refine (attempted (extra + 1)).catching (fun _ _ holds => holds) ?_
    intro error
    by_cases transient : isTransientError error provider = true
    · simp only [Observer.ends, transient, Nat.zero_lt_succ, and_self, ↓reduceIte]
      exact (noted extra).bind (fun _ => ih) fun _ _ holds => holds
    · simp only [Observer.ends, transient]
      exact .done fun _ holds => holds

/-- The rule for a loop whose failed attempts lead back to where it started. -/
theorem withRetry_triple {before : S → Prop} {returned : α → S → Prop}
    {raised : Thrown → S → Prop} {maxAttempts : Nat} (positive : 0 < maxAttempts)
    (attempted : observer.Triple before attempt (Observer.ends returned raised))
    (noted : observer.Triple before onRetry (Observer.ends (fun _ => before) raised))
    (again : ∀ error state, raised error state → before state) :
    observer.Triple before (withRetry maxAttempts provider onRetry attempt) (Observer.ends returned raised) := by
  cases maxAttempts with
  | zero => cases positive
  | succ extra =>
    have attempts : ∀ left : Nat, observer.Triple before attempt
        (Observer.ends returned fun error state =>
          if 0 < left ∧ isTransientError error provider = true then before state
          else raised error state) := by
      intro left
      refine attempted.weaken (fun _ holds => holds) ?_
      intro outcome state holds
      cases outcome with
      | ok value => exact holds
      | error error =>
        simp only [Observer.ends]
        split
        · exact again error state holds
        · exact holds
    exact retryLoop_triple attempts (fun _ => noted) extra

end Rules

end ProxyPay.Queue
