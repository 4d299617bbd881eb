import ProxyPay.Channels.Submission
import ProxyPay.Library.Numbered

/-! Payments through the pool, in a batch, and without a pool: how often a payment is applied. -/

namespace ProxyPay.Channels

open ProxyPay.Library
open ProxyPay.Library.Numbered (AppliesOnce AppliedOnce Client IsHeard Label Submits)

variable {α : Type}

/-- The response to a transaction that was applied. -/
structure Receipt where
  hash : String
  ledger : Nat
  successful : Bool

structure TransactionResult where
  success : Bool
  hash : Option String
  ledger : Option Nat
  fee : Option Nat
  error : Message

/-- A result of `submitBatchPayments`. -/
structure BatchResult where
  success : Bool
  hash : Option String
  error : Message

def paid (receipt : Receipt) : TransactionResult :=
  ⟨true, some receipt.hash, some receipt.ledger, some (if receipt.successful then 100 else 0), .absent⟩

def failed (error : Message) : TransactionResult :=
  ⟨false, none, none, none, error⟩

/-- The handler reads the message of what was thrown, and may throw in doing so. -/
def failure : Thrown → Except Thrown TransactionResult
  | .nullish => .error (.ofText "Cannot read properties of undefined (reading 'message')")
  | .primitive => .ok (failed (.text "Transaction failed"))
  | .object .absent _ _ => .ok (failed (.text "Transaction failed"))
  | .object .other _ _ => .ok (failed .other)
  | .object (.text message) _ _ => .ok (failed (.text (if message.isEmpty then "Transaction failed" else message)))

def messageOf : Thrown → Message
  | .nullish | .primitive => .absent
  | .object message _ _ => message

def concluding {Request : Type} {Reply : Request → Type} {β : Type} (value : α → β)
    (failure : Thrown → Except Thrown β) (script : Script Request Reply Thrown α) : Script Request Reply Thrown β :=
  (script.bind fun result => .done (.ok (value result))).catching fun error => .done (failure error)

/-- `submitPayment` with a pool. It builds and signs the transaction in `buildAndSubmit`, which may throw. -/
def submitPayment : Script Request (Reply Receipt) Thrown TransactionResult :=
  concluding paid failure (submitTransaction none)

/-- A payment of `submitBatchPayments` with a pool. -/
def submitBatchPayment : Script Request (Reply Receipt) Thrown BatchResult :=
  concluding (fun receipt => ⟨true, some receipt.hash, .absent⟩) (fun error => .ok ⟨false, none, messageOf error⟩)
    (submitTransaction none)

inductive DirectRequest where
  | loadAccount (publicKey : String)
  | submitTransaction (publicKey : String) (sequence : Int)

abbrev DirectReply : DirectRequest → Type
  | .loadAccount _ => Int
  | .submitTransaction _ _ => Receipt

variable (sourceAccount : String)

variable (keypair : Except Thrown Unit)

/-- `keypair` is whether the secret of the source can be read. -/
def submitDirectly : Script DirectRequest DirectReply Thrown Receipt :=
  (Script.check keypair).bind fun _ =>
    (Script.call (.loadAccount sourceAccount)).bind fun (sequence : Int) =>
      Script.call (DirectRequest.submitTransaction sourceAccount (sequence + 1))

/-- Without a pool the payment is submitted once, from the account that pays. -/
def submitPaymentDirect :
    Script DirectRequest DirectReply Thrown TransactionResult :=
  concluding paid failure (submitDirectly sourceAccount keypair)

/-- The transaction that a request sends. -/
def Request.transaction : Request → Option (String × Int)
  | .buildAndSubmit publicKey sequence => some (publicKey, sequence)
  | _ => none

def DirectRequest.transaction : DirectRequest → Option (String × Int)
  | .submitTransaction publicKey sequence => some (publicKey, sequence)
  | .loadAccount _ => none

def returned : Except Thrown α → Bool
  | .ok _ => true
  | .error _ => false

def TransactionResult.reported : Except Thrown TransactionResult → Bool
  | .ok result => result.success
  | .error _ => false

def BatchResult.reported : Except Thrown BatchResult → Bool
  | .ok result => result.success
  | .error _ => false

theorem submits_attempts (remaining : Nat) (lastError : Option Thrown) :
    Submits Request.transaction returned false (attempts remaining lastError : Submission α) := by
  induction remaining generalizing lastError with
  | zero => rfl
  | succ remaining ih =>
    rintro (error | lease)
    · rfl
    · refine ⟨rfl, fun result reply => rfl, fun error => ?_⟩
      dsimp only
      split
      · rintro (failure | sequence)
        · rfl
        · exact fun _ => ih _
      · split
        · rfl
        · split
          · exact fun _ => ih _
          · exact fun _ => rfl

theorem submits_direct (sourceAccount : String) (keypair : Except Thrown Unit) :
    Submits DirectRequest.transaction returned false (submitDirectly sourceAccount keypair) := by
  cases keypair with
  | error error => rfl
  | ok checked =>
    rintro (error | sequence)
    · rfl
    · exact ⟨rfl, fun receipt => rfl, fun error => rfl⟩

theorem reported_failure (error : Thrown) : TransactionResult.reported (failure error) = false := by
  cases error with
  | nullish | primitive => rfl
  | object message rendered transactionCode => cases message <;> rfl

/-- A submission through the pool, a payment with and without a pool and one in a batch are applied once at most, and
not at all if they fail, exactly if no answer of an applied transaction is lost and no transaction is applied after
its submission has thrown. -/
theorem payments_once_iff : (∀ maxRetries, AppliesOnce Request.transaction isSequenceMismatchError returned
      (submitTransaction maxRetries : Submission α)) ∧
    AppliesOnce Request.transaction isSequenceMismatchError TransactionResult.reported submitPayment ∧
    AppliesOnce Request.transaction isSequenceMismatchError BatchResult.reported submitBatchPayment ∧
    ∀ sourceAccount keypair, AppliesOnce DirectRequest.transaction isSequenceMismatchError TransactionResult.reported
      (submitPaymentDirect sourceAccount keypair) := by
  have pooled : Submits Request.transaction returned false (submitTransaction none : Submission Receipt) :=
    submits_attempts 3 none
  refine ⟨?_, ?_, ?_, ?_⟩
  · intro maxRetries
    exact (submits_attempts _ none).appliesOnce
  · apply Submits.appliesOnce
    exact pooled.conclude (fun _ => rfl) reported_failure
  · apply Submits.appliesOnce
    exact pooled.conclude (fun _ => rfl) fun _ => rfl
  · intro sourceAccount keypair
    apply Submits.appliesOnce
    exact (submits_direct sourceAccount keypair).conclude (fun _ => rfl) reported_failure

def leaseA : Lease := ⟨0, "GA", 7⟩

def leaseB : Lease := ⟨1, "GB", 3⟩

def networkNumbers (account : String) : Int :=
  if account = "GA" then 7 else 3

/-- The first attempt is applied and heard of. -/
def applied : List (Label Request (Reply Nat) Thrown String) :=
  [.answer ⟨.acquire, .ok leaseA, true⟩, .send (.buildAndSubmit "GA" 8), .receive 0,
    .observe 0 .accepted ⟨.buildAndSubmit "GA" 8, .ok 5, true⟩, .answer ⟨.release leaseA true (some 8), .ok (), true⟩]

theorem applied_once : ∃ last : Client String Request (Reply Nat) Thrown Nat,
    Run (Numbered.step Request.transaction isSequenceMismatchError) (.start (submitTransaction none) networkNumbers) applied
      last ∧
    last.rest = .done (.ok 5) ∧ AppliedOnce returned last := by
  have reached : ∃ last : Client String Request (Reply Nat) Thrown Nat,
      Run (Numbered.step Request.transaction isSequenceMismatchError) (.start (submitTransaction none) networkNumbers)
        applied last ∧ last.rest = .done (.ok 5) ∧ last.sent.map Numbered.Sent.standing = [.accepted] := by
    refine ⟨_, .of_steps ⟨_, ⟨rfl, _, rfl, .inl rfl, rfl⟩, _, ⟨rfl, _, _, _, rfl, rfl, rfl⟩, _, ⟨_, rfl, rfl, rfl⟩, _,
      ⟨_, _, rfl, rfl, rfl, ⟨rfl, _, rfl⟩, rfl⟩, _, ⟨rfl, _, rfl, .inl rfl, rfl⟩, rfl⟩, rfl, rfl⟩
  obtain ⟨last, run, ended, standings⟩ := reached
  have clean : ¬Numbered.Tainted last := by
    rintro ⟨sent, member, _, thrown⟩
    have listed := @List.mem_map_of_mem _ _ _ _ Numbered.Sent.standing member
    rw [standings, thrown] at listed
    cases List.mem_singleton.mp listed
  exact ⟨last, run, ended,
    ((payments_once_iff).1 none networkNumbers applied last _ run ended).mpr ((Numbered.heard_iff run).mpr clean)⟩

/-- The first attempt is applied and its answer times out, and so there is a second one. -/
def timedOut : Thrown :=
  .ofText "timeout of 60000ms exceeded"

def appliedTwice : List (Label Request (Reply Nat) Thrown String) :=
  [.answer ⟨.acquire, .ok leaseA, true⟩, .send (.buildAndSubmit "GA" 8), .receive 0,
    .observe 0 .lost ⟨.buildAndSubmit "GA" 8, .error timedOut, true⟩, .answer ⟨.release leaseA false none, .ok (), true⟩,
    .answer ⟨.acquire, .ok leaseB, true⟩, .send (.buildAndSubmit "GB" 4), .receive 1,
    .observe 1 .accepted ⟨.buildAndSubmit "GB" 4, .ok 6, true⟩, .answer ⟨.release leaseB true (some 4), .ok (), true⟩]

theorem appliedTwice_not_once : ¬∀ (numbers : String → Int) trace last (outcome : Except Thrown Nat),
    Run (Numbered.step Request.transaction isSequenceMismatchError) (.start (submitTransaction none) numbers) trace last →
    last.rest = .done outcome → AppliedOnce returned last := by
  intro always
  have other : isSequenceMismatchError timedOut = false := by decide
  have retried : isRetryableError timedOut = .ok true := by
    have found : includes "timeout of 60000ms exceeded".toLower "timeout" = true := by decide +kernel
    simp only [isRetryableError, timedOut, Thrown.ofText, found, Bool.true_or]
  have retries : (if isSequenceMismatchError timedOut = true then
        .await (.resyncSequence leaseA.publicKey) fun
          | .error failure => raise failure
          | .ok _ => release leaseA false none (attempts 2 (some timedOut))
      else Except.casesOn (motive := fun _ => Submission Nat) (isRetryableError timedOut)
        (fun failure => raise failure) fun retryable =>
          if retryable && decide (0 < 2) then release leaseA false none (attempts 2 (some timedOut))
          else release leaseA false none (raise timedOut) : Submission Nat) =
      .await (.release leaseA false none) fun _ => attempts 2 (some timedOut) := by
    rw [other, retried]
    rfl
  have reached : ∃ last : Client String Request (Reply Nat) Thrown Nat,
      Run (Numbered.step Request.transaction isSequenceMismatchError) (.start (submitTransaction none) networkNumbers)
        appliedTwice last ∧ last.rest = .done (.ok 6) ∧ last.sent.countP Numbered.Sent.isApplied = 2 := by
    refine ⟨_, .of_steps ⟨_, ⟨rfl, _, rfl, .inl rfl, rfl⟩, _, ⟨rfl, _, _, _, rfl, rfl, rfl⟩, _, ⟨_, rfl, rfl, rfl⟩, _,
      ⟨_, _, rfl, rfl, rfl, ⟨_, rfl, other⟩, rfl⟩, _, ⟨rfl, _, retries, .inl rfl, rfl⟩, _,
      ⟨rfl, _, rfl, .inl rfl, rfl⟩, _, ⟨rfl, _, _, _, rfl, rfl, rfl⟩, _, ⟨_, rfl, rfl, rfl⟩, _,
      ⟨_, _, rfl, rfl, rfl, ⟨rfl, _, rfl⟩, rfl⟩, _, ⟨rfl, _, rfl, .inl rfl, rfl⟩, rfl⟩, rfl, rfl⟩
  obtain ⟨last, run, ended, twice⟩ := reached
  have once := (always _ _ _ _ run ended).1
  rw [twice] at once
  exact absurd once (by decide)

end ProxyPay.Channels
