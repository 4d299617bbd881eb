import ProxyPay.Channels.Queue
import ProxyPay.Library.Script

/-! Submissions, which lease an account for each attempt. A lease is released on every path on
which the sequence can be read again and the error can be looked at. -/

namespace ProxyPay.Channels

open ProxyPay.Library

structure Lease where
  hold : Nat
  publicKey : String
  sequence : Int
  deriving DecidableEq

/-- The `message` of a thrown object. -/
inductive Message where
  | absent
  | text (message : String)
  /-- neither a text nor missing -/
  | other
  deriving DecidableEq

/-- A thrown value. `rendered` is what `toString` gives. -/
inductive Thrown where
  | nullish
  | primitive
  | object (message : Message) (rendered transactionCode : Option String)
  deriving DecidableEq

def Thrown.ofText (message : String) : Thrown :=
  .object (.text message) none none

def includes (text part : String) : Bool :=
  text.toList.tails.any part.toList.isPrefixOf

def isSequenceMismatchError : Thrown → Bool
  | .nullish | .primitive => false
  | .object message rendered transactionCode =>
    if transactionCode = some "tx_bad_seq" then true
    else match message with
      | .absent => includes (rendered.getD "") "tx_bad_seq"
      | .text message => includes message "tx_bad_seq"
      | .other => false

/-- What can be retried, or the exception in finding out. -/
def isRetryableError : Thrown → Except Thrown Bool
  | .nullish => .error (.ofText "Cannot read properties of undefined (reading 'message')")
  | .primitive => .ok false
  | .object .other _ _ => .error (.ofText "error.message?.toLowerCase is not a function")
  | .object .absent _ _ => .ok false
  | .object (.text text) _ _ =>
    let message := text.toLower
    .ok (includes message "timeout" || includes message "network" ||
      includes message "econnreset" || includes message "tx_insufficient_fee" ||
      includes message "tx_too_late")

/-- What `submitTransaction` does to the world. A release is not awaited and raises nothing. -/
inductive Request where
  | acquire
  | buildAndSubmit (publicKey : String) (sequence : Int)
  | resyncSequence (publicKey : String)
  | release (lease : Lease) (success : Bool) (newSequence : Option Int)
  deriving DecidableEq

variable {α : Type}

abbrev Reply (α : Type) : Request → Type
  | .acquire => Lease
  | .buildAndSubmit _ _ => α
  | .resyncSequence _ => Int
  | .release _ _ _ => Unit

abbrev Submission (α : Type) := Script Request (Reply α) Thrown α

def release (lease : Lease) (success : Bool) (newSequence : Option Int) (rest : Submission α) : Submission α :=
  .await (.release lease success newSequence) fun _ => rest

def raise (error : Thrown) : Submission α :=
  .done (.error error)

/-- The attempts that are left. The source tests for a sequence error twice in a row; the second
test is never reached. -/
def attempts : Nat → Option Thrown → Submission α
  | 0, lastError => raise (lastError.getD (.ofText "Transaction failed after all retries"))
  | remaining + 1, _ =>
    .await .acquire fun
      | .error error => raise error
      | .ok lease =>
        let txSequence := lease.sequence + 1
        .await (.buildAndSubmit lease.publicKey txSequence) fun
          | .ok result => release lease true (some txSequence) (.done (.ok result))
          | .error error =>
            if isSequenceMismatchError error then
              .await (.resyncSequence lease.publicKey) fun
                | .error failure => raise failure
                | .ok _ => release lease false none (attempts remaining (some error))
            else match isRetryableError error with
              | .error failure => raise failure
              | .ok retryable =>
                if retryable && 0 < remaining then
                  release lease false none (attempts remaining (some error))
                else release lease false none (raise error)

def submitTransaction (maxRetries : Option Nat) : Submission α :=
  attempts (maxRetries.getD 3) none

variable {exchanges : List (Exchange Request (Reply α) Thrown)} {outcome : Except Thrown α}

variable (exchange : Exchange Request (Reply α) Thrown)

def acquiredBy : Option Lease :=
  match exchange with
  | ⟨.acquire, .ok lease, _⟩ => some lease
  | _ => none

def releasedBy : Option Lease :=
  match exchange.request with
  | .release lease _ _ => some lease
  | _ => none

/-- The sequence is read again without an exception, and what the transaction throws can be looked
at. -/
def Calm : Prop :=
  match exchange with
  | ⟨.resyncSequence _, .error _, _⟩ => False
  | ⟨.buildAndSubmit _ _, .error error, _⟩ =>
    isSequenceMismatchError error = true ∨ (isRetryableError error).isOk = true
  | _ => True

/-- Every lease was released once, in the order of the attempts. -/
def AllReleased (exchanges : List (Exchange Request (Reply α) Thrown)) : Prop :=
  exchanges.filterMap releasedBy = exchanges.filterMap acquiredBy

def AllCalm (exchanges : List (Exchange Request (Reply α) Thrown)) : Prop :=
  ∀ exchange ∈ exchanges, Calm exchange

/-! The exchanges of an attempt. -/

def leased (lease : Lease) (tookEffect : Bool) : Exchange Request (Reply α) Thrown :=
  ⟨.acquire, .ok lease, tookEffect⟩

def unavailable (error : Thrown) (tookEffect : Bool) : Exchange Request (Reply α) Thrown :=
  ⟨.acquire, .error error, tookEffect⟩

def submitted (lease : Lease) (reply : Except Thrown α) (tookEffect : Bool) : Exchange Request (Reply α) Thrown :=
  ⟨.buildAndSubmit lease.publicKey (lease.sequence + 1), reply, tookEffect⟩

def resynced (lease : Lease) (reply : Except Thrown Int) (tookEffect : Bool) : Exchange Request (Reply α) Thrown :=
  ⟨.resyncSequence lease.publicKey, reply, tookEffect⟩

def released (lease : Lease) (success : Bool) (newSequence : Option Int)
    (reply : Except Thrown Unit) (tookEffect : Bool) : Exchange Request (Reply α) Thrown :=
  ⟨.release lease success newSequence, reply, tookEffect⟩

section Exchanges

variable {lease : Lease} {error : Thrown} {reply : Except Thrown α} {read : Except Thrown Int}
variable {answer : Except Thrown Unit} {success tookEffect : Bool} {newSequence : Option Int}

@[simp] theorem releasedBy_leased : releasedBy (leased lease tookEffect : Exchange _ (Reply α) _) = none := rfl

@[simp] theorem releasedBy_unavailable :
    releasedBy (unavailable error tookEffect : Exchange _ (Reply α) _) = none := rfl

@[simp] theorem releasedBy_submitted : releasedBy (submitted lease reply tookEffect) = none := rfl

@[simp] theorem releasedBy_resynced : releasedBy (resynced lease read tookEffect : Exchange _ (Reply α) _) = none := rfl

@[simp] theorem releasedBy_released :
    releasedBy (released lease success newSequence answer tookEffect : Exchange _ (Reply α) _) = some lease := rfl

@[simp] theorem acquiredBy_leased : acquiredBy (leased lease tookEffect : Exchange _ (Reply α) _) = some lease := rfl

@[simp] theorem acquiredBy_unavailable :
    acquiredBy (unavailable error tookEffect : Exchange _ (Reply α) _) = none := rfl

@[simp] theorem acquiredBy_submitted : acquiredBy (submitted lease reply tookEffect) = none := rfl

@[simp] theorem acquiredBy_resynced : acquiredBy (resynced lease read tookEffect : Exchange _ (Reply α) _) = none := rfl

@[simp] theorem acquiredBy_released :
    acquiredBy (released lease success newSequence answer tookEffect : Exchange _ (Reply α) _) = none := rfl

@[simp] theorem calm_leased : Calm (leased lease tookEffect : Exchange _ (Reply α) _) := trivial

@[simp] theorem calm_unavailable : Calm (unavailable error tookEffect : Exchange _ (Reply α) _) :=
  trivial

@[simp] theorem calm_accepted {result : α} : Calm (submitted lease (.ok result) tookEffect) := trivial

@[simp] theorem calm_thrown : Calm (submitted lease (.error error) tookEffect : Exchange _ (Reply α) _) ↔
      isSequenceMismatchError error = true ∨ (isRetryableError error).isOk = true := Iff.rfl

@[simp] theorem calm_read {sequence : Int} :
    Calm (resynced lease (.ok sequence) tookEffect : Exchange _ (Reply α) _) := trivial

@[simp] theorem not_calm_unread :
    ¬Calm (resynced lease (.error error) tookEffect : Exchange _ (Reply α) _) := fun calm => calm

@[simp] theorem calm_released :
    Calm (released lease success newSequence answer tookEffect : Exchange _ (Reply α) _) := trivial

end Exchanges

/-- The runs of the attempts that are left. -/
inductive AttemptRun : List (Exchange Request (Reply α) Thrown) → Prop where
  | exhausted : AttemptRun []
  | refused (error : Thrown) (a : Bool) : AttemptRun [unavailable error a]
  | accepted (lease : Lease) (result : α) (answer : Except Thrown Unit) (a b c : Bool) :
      AttemptRun [leased lease a, submitted lease (.ok result) b,
        released lease true (some (lease.sequence + 1)) answer c]
  | unread (lease : Lease) (error failure : Thrown) (a b c : Bool) :
      AttemptRun [leased lease a, submitted lease (.error error) b, resynced lease (.error failure) c]
  | reread (lease : Lease) (error : Thrown) (sequence : Int) (answer : Except Thrown Unit)
      (a b c d : Bool) {rest : List (Exchange Request (Reply α) Thrown)}
      (mismatch : isSequenceMismatchError error = true) (again : AttemptRun rest) :
      AttemptRun (leased lease a :: submitted lease (.error error) b ::
        resynced lease (.ok sequence) c :: released lease false none answer d :: rest)
  | unlooked (lease : Lease) (error : Thrown) (a b : Bool)
      (mismatch : isSequenceMismatchError error = false)
      (failed : (isRetryableError error).isOk = false) :
      AttemptRun [leased lease a, submitted lease (.error error) b]
  | givenUp (lease : Lease) (error : Thrown) (answer : Except Thrown Unit) (a b c : Bool)
      {rest : List (Exchange Request (Reply α) Thrown)}
      (looked : (isRetryableError error).isOk = true) (again : AttemptRun rest) :
      AttemptRun (leased lease a :: submitted lease (.error error) b ::
        released lease false none answer c :: rest)

theorem attemptRun {remaining : Nat} {lastError : Option Thrown}
    (runs : Script.Runs (attempts remaining lastError) exchanges outcome) : AttemptRun exchanges := by
  induction remaining generalizing lastError exchanges with
  | zero =>
    cases runs
    exact .exhausted
  | succ remaining ih =>
    cases runs with
    | await acquired a submitting =>
      cases acquired with
      | error error =>
        cases submitting
        exact .refused error a
      | ok lease =>
        cases submitting with
        | await reply b settling =>
          cases reply with
          | ok result =>
            cases settling with
            | await answer c ended =>
              cases ended
              exact .accepted lease result answer a b c
          | error error =>
            by_cases mismatch : isSequenceMismatchError error = true
            · simp only [mismatch, if_true] at settling
              cases settling with
              | await read c retrying =>
                cases read with
                | error failure =>
                  cases retrying
                  exact .unread lease error failure a b c
                | ok sequence =>
                  cases retrying with
                  | await answer d again => exact .reread lease error sequence answer a b c d mismatch (ih again)
            · simp only [mismatch, Bool.false_eq_true, if_false] at settling
              have other : isSequenceMismatchError error = false := by simpa using mismatch
              cases looked : isRetryableError error with
              | error failure =>
                rw [looked] at settling
                cases settling
                exact .unlooked lease error a b other (by rw [looked]; rfl)
              | ok retryable =>
                have isOk : (isRetryableError error).isOk = true := by rw [looked]; rfl
                simp only [looked] at settling
                split at settling
                · cases settling with
                  | await answer c again => exact .givenUp lease error answer a b c isOk (ih again)
                · cases settling with
                  | await answer c ended =>
                    cases ended
                    exact .givenUp lease error answer a b c isOk .exhausted

theorem attempts_release_iff (run : AttemptRun exchanges) : AllReleased exchanges ↔ AllCalm exchanges := by
  unfold AllReleased AllCalm
  induction run with
  | exhausted => simp
  | refused error a | accepted lease result answer a b c => simp [List.filterMap_cons]
  | unread lease error failure a b c => simp [List.filterMap_cons]
  | reread lease error sequence answer a b c d mismatch again ih =>
    simpa [List.filterMap_cons, mismatch] using ih
  | unlooked lease error a b mismatch failed => simp [List.filterMap_cons, mismatch, failed]
  | givenUp lease error answer a b c looked again ih => simpa [List.filterMap_cons, looked] using ih

/-- The queue settles its calls and places its rows, and the submissions release their leases,
exactly as long as nothing is raised between a row's `UPDATE` and its hand-over, nor in the error
handling of a submission. -/
theorem pool_accounted_iff {config : PoolConfig} {start : Pool} {trace : List Action} (fresh : start.Fresh) :
    (Throughout (step config) start (fun _ _ after => Accounted after) trace ↔
      Throughout (step config) start Undisturbed trace) ∧
    ∀ maxRetries exchanges (outcome : Except Thrown α), Script.Runs (submitTransaction maxRetries) exchanges outcome →
      (AllReleased exchanges ↔ AllCalm exchanges) := by
  constructor
  · exact queue_accounted_iff fresh
  · intro maxRetries exchanges outcome runs
    exact attempts_release_iff (attemptRun runs)

theorem pool_accounted_one :
    (Throughout (step .default) .one (fun _ _ after => Accounted after) [.acquire "channel-1"] ↔
      Throughout (step .default) .one Undisturbed [.acquire "channel-1"]) ∧
    ∀ maxRetries exchanges (outcome : Except Thrown Nat), Script.Runs (submitTransaction maxRetries) exchanges outcome →
      (AllReleased exchanges ↔ AllCalm exchanges) :=
  pool_accounted_iff Pool.one_fresh

def badSequence : Thrown :=
  .object (.text "Request failed with status code 400") none (some "tx_bad_seq")

/-- A submission whose sequence is stale and cannot be read again. -/
def failedResync : List (Exchange Request (Reply Nat) Thrown) :=
  [⟨.acquire, .ok ⟨0, "GA", 7⟩, true⟩, ⟨.buildAndSubmit "GA" 8, .error badSequence, false⟩,
    ⟨.resyncSequence "GA", .error (.ofText "Not Found"), false⟩]

/-- The first caller waits in the queue when its row can be taken but not be built. -/
def unbuildable : List Action :=
  [.acquireFindsNone, .processQueue, .processQueueAcquires "channel-1", .failToBuild 0]

/-- A lease that is not released, and a call that is neither in the queue nor settled while the row
it was to have stays busy. -/
theorem lease_and_caller_lost : (Script.Runs (submitTransaction none) failedResync (.error (.ofText "Not Found")) ∧
      failedResync.filterMap releasedBy = [] ∧
      failedResync.filterMap acquiredBy = [⟨0, "GA", 7⟩]) ∧
    ∃ last, Run (step .default) .one unbuildable last ∧ last.acquireQueue = [] ∧
      last.callers = [[]] ∧ ¬Accounted last := by
  constructor
  · refine ⟨?_, rfl, rfl⟩
    exact .await _ _ (.await _ _ (.await _ _ (.done _)))
  · obtain ⟨last, followed, seen⟩ := Option.map_eq_some_iff.mp
      (show (unbuildable.foldlM (Pool.perform .default) .one).map
          (fun pool => (pool.acquireQueue, pool.callers)) = some ([], [[]]) from rfl)
    obtain ⟨queue, callers⟩ := Prod.mk.inj seen
    refine ⟨last, run_follow followed, queue, callers, ?_⟩
    intro accounted
    obtain ⟨deferred, member, -⟩ := accounted.waiting 0 (by rw [callers]; rfl)
    rw [queue] at member
    cases member

end ProxyPay.Channels
