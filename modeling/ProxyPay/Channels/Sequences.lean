import ProxyPay.Channels.Submission

/-! The sequence of a channel account over a call: what its callback is given, what the network says, and what
the release of the lease stores. -/

namespace ProxyPay.Channels

open ProxyPay.Library

/-- What is read of a transaction. -/
structure Transaction where
  sequence : Int
  deriving DecidableEq

/-- What `withAccount` and `submitWithChannel` do to the world. -/
inductive LeaseRequest where
  | acquire
  /-- the callback of `withAccount`, which builds and submits -/
  | fn (publicKey : String) (currentSequence : Int)
  | buildTx (publicKey : String) (currentSequence : Int)
  | submitTransaction (tx : Transaction)
  | resyncSequence (publicKey : String)
  | release (lease : Lease) (success : Bool) (newSequence : Option Int)
  deriving DecidableEq

variable {α : Type}

abbrev LeaseReply (α : Type) : LeaseRequest → Type
  | .acquire => Lease
  | .fn _ _ => α
  | .buildTx _ _ => Transaction
  | .submitTransaction _ => String
  | .resyncSequence _ => Int
  | .release _ _ _ => Unit

abbrev LeaseScript (α β : Type) := Script LeaseRequest (LeaseReply α) Thrown β

abbrev LeaseExchange (α : Type) := Exchange LeaseRequest (LeaseReply α) Thrown

def giveBack {β : Type} (lease : Lease) (success : Bool) (newSequence : Option Int) (rest : LeaseScript α β) :
    LeaseScript α β :=
  .await (.release lease success newSequence) fun _ => rest

def throwing {β : Type} (error : Thrown) : LeaseScript α β :=
  .done (.error error)

def withAccount : LeaseScript α α :=
  .await .acquire fun
    | .error error => throwing error
    | .ok lease =>
      .await (.fn lease.publicKey lease.sequence) fun
        | .ok result => giveBack lease true (some (lease.sequence + 1)) (.done (.ok result))
        | .error error => giveBack lease false none (throwing error)

/-- The body of the loop, which ends with the hash or goes on with what was thrown. -/
def tryChannel (lease : Lease) (failed : Thrown → LeaseScript α String) : LeaseScript α String :=
  .await (.buildTx lease.publicKey lease.sequence) fun
    | .error error => failed error
    | .ok tx =>
      .await (.submitTransaction tx) fun
        | .error error => failed error
        | .ok hash => giveBack lease true (some (lease.sequence + 1)) (.done (.ok hash))

/-- The attempts with this many retries. What is read again is stored, but the lease stays as it is. -/
def channelAttempts (lease : Lease) : Nat → LeaseScript α String
  | 0 => tryChannel lease fun error => giveBack lease false none (throwing error)
  | retries + 1 => tryChannel lease fun error =>
      if isSequenceMismatchError error then
        .await (.resyncSequence lease.publicKey) fun
          | .error failure => throwing failure
          | .ok _ => channelAttempts lease retries
      else giveBack lease false none (throwing error)

/-- `maxSequenceMismatchRetries` is 1 where nothing else is set. -/
def submitWithChannel (maxSequenceMismatchRetries : Option Nat) : LeaseScript α String :=
  .await .acquire fun
    | .error error => throwing error
    | .ok lease => channelAttempts lease (maxSequenceMismatchRetries.getD 1)

/-! What is seen of a call. -/

def leasedSequence : LeaseExchange α → Option Int
  | ⟨.acquire, .ok lease, _⟩ => some lease.sequence
  | _ => none

/-- The sequence that a transaction is built from. -/
def builtFrom : LeaseExchange α → Option Int
  | ⟨.buildTx _ currentSequence, _, _⟩ => some currentSequence
  | _ => none

/-- The sequence that `loadAccount` returns. -/
def readAgain : LeaseExchange α → Option Int
  | ⟨.resyncSequence _, .ok newSequence, _⟩ => some newSequence
  | _ => none

/-- The sequence that a release stores. -/
def storedBy : LeaseExchange α → Option Int
  | ⟨.release _ true newSequence, _, _⟩ => newSequence
  | _ => none

/-- The sequence that an accepted transaction consumes; `used` is the one of the callback's. -/
def consumedBy (used : α → Int) : LeaseExchange α → Option Int
  | ⟨.submitTransaction tx, .ok _, _⟩ => some tx.sequence
  | ⟨.fn _ _, .ok result, _⟩ => some (used result)
  | _ => none

/-- The same for `submitTransaction`, which is given the sequence to use. -/
def storedBySubmission : Exchange Request (Reply α) Thrown → Option Int
  | ⟨.release _ true newSequence, _, _⟩ => newSequence
  | _ => none

def givenTo : Exchange Request (Reply α) Thrown → Option Int
  | ⟨.buildAndSubmit _ sequence, .ok _, _⟩ => some sequence
  | _ => none

def consumedBySubmission (used : α → Int) : Exchange Request (Reply α) Thrown → Option Int
  | ⟨.buildAndSubmit _ _, .ok result, _⟩ => some (used result)
  | _ => none

/-- Each retry is built from what was read again before it, and the release stores the sequence after the one
read last, which the accepted transaction consumed. -/
structure Agrees (exchanges : List (LeaseExchange α)) (used : α → Int) : Prop where
  rebuilt : (exchanges.filterMap builtFrom).tail = exchanges.filterMap readAgain
  resynced : ∀ newSequence ∈ (exchanges.filterMap readAgain).getLast?,
    exchanges.filterMap storedBy = [newSequence + 1]
  consumed : exchanges.filterMap storedBy = exchanges.filterMap (consumedBy used)

/-! A successful call. -/

/-- Every attempt is built from the leased sequence, and it decides what is stored. -/
structure Channelled (lease : Lease) (exchanges : List (LeaseExchange α)) (used : α → Int) (tx : Transaction) : Prop where
  alone : exchanges.filterMap leasedSequence = []
  built : exchanges.filterMap builtFrom =
    List.replicate ((exchanges.filterMap readAgain).length + 1) lease.sequence
  stored : exchanges.filterMap storedBy = [lease.sequence + 1]
  consumed : exchanges.filterMap (consumedBy used) = [tx.sequence]

variable {lease : Lease}

theorem tryChannel_runs {failed : Thrown → LeaseScript α String} {exchanges : List (LeaseExchange α)}
    {hash : String} (used : α → Int) (runs : (tryChannel lease failed).Runs exchanges (.ok hash)) :
    (∃ tx, Channelled lease exchanges used tx) ∨
    ∃ error earlier rest, exchanges = earlier ++ rest ∧ (failed error).Runs rest (.ok hash) ∧
      earlier.filterMap leasedSequence = [] ∧ earlier.filterMap builtFrom = [lease.sequence] ∧ earlier.filterMap readAgain = [] ∧
      earlier.filterMap storedBy = [] ∧ earlier.filterMap (consumedBy used) = [] := by
  cases runs with
  | await built a submitting =>
    cases built with
    | error error => exact .inr ⟨error, [_], _, rfl, submitting, rfl, rfl, rfl, rfl, rfl⟩
    | ok tx =>
      cases submitting with
      | await answer b releasing =>
        cases answer with
        | error error => exact .inr ⟨error, [_, _], _, rfl, releasing, rfl, rfl, rfl, rfl, rfl⟩
        | ok accepted =>
          cases releasing with
          | await _ c ended =>
            cases ended
            exact .inl ⟨tx, rfl, rfl, rfl, rfl⟩

theorem not_runs_throwing {error : Thrown} {exchanges : List (LeaseExchange α)} {hash : String} :
    ¬(giveBack lease false none (throwing error) : LeaseScript α String).Runs exchanges (.ok hash) := by
  intro runs
  cases runs with
  | await _ _ ended => cases ended

theorem channelAttempts_runs (used : α → Int) (retries : Nat) : ∀ {exchanges : List (LeaseExchange α)} {hash : String},
      (channelAttempts lease retries).Runs exchanges (.ok hash) → ∃ tx, Channelled lease exchanges used tx := by
  induction retries with
  | zero =>
    intro exchanges hash runs
    rcases tryChannel_runs used runs with done | ⟨error, earlier, rest, _, raised, _⟩
    · exact done
    · exact absurd raised not_runs_throwing
  | succ retries ih =>
    intro exchanges hash runs
    rcases tryChannel_runs used runs with done | ⟨error, earlier, rest, rfl, failed, alone, built, read, stored, consumed⟩
    · exact done
    · by_cases mismatch : isSequenceMismatchError error = true
      · simp only [mismatch, if_true] at failed
        cases failed with
        | await reply c again =>
          cases reply with
          | error failure => cases again
          | ok newSequence =>
            obtain ⟨tx, later⟩ := ih again
            refine ⟨tx, ?_, ?_, ?_, ?_⟩
            · rw [List.filterMap_append, alone]
              exact later.alone
            · rw [List.filterMap_append, List.filterMap_append, built, read]
              exact congrArg (lease.sequence :: ·) later.built
            · rw [List.filterMap_append, stored]
              exact later.stored
            · rw [List.filterMap_append, consumed]
              exact later.consumed
      · simp only [mismatch, Bool.false_eq_true, if_false] at failed
        exact absurd failed not_runs_throwing

section

variable {retries : Option Nat} {exchanges : List (LeaseExchange α)} {hash : String} (used : α → Int)
  (runs : (submitWithChannel retries).Runs exchanges (.ok hash))

include used runs

theorem submitWithChannel_runs :
    ∃ (lease : Lease) (tx : Transaction), exchanges.filterMap leasedSequence = [lease.sequence] ∧
      exchanges.filterMap builtFrom = List.replicate ((exchanges.filterMap readAgain).length + 1) lease.sequence ∧
      exchanges.filterMap storedBy = [lease.sequence + 1] ∧
      exchanges.filterMap (consumedBy used) = [tx.sequence] := by
  cases runs with
  | await acquired a attempting =>
    cases acquired with
    | error error => cases attempting
    | ok lease =>
      obtain ⟨tx, channelled⟩ := channelAttempts_runs used _ attempting
      refine ⟨lease, tx, ?_, channelled.built, channelled.stored, channelled.consumed⟩
      exact congrArg (lease.sequence :: ·) channelled.alone

theorem channel_agrees_iff : Agrees exchanges used ↔ ∀ leased ∈ exchanges.filterMap leasedSequence,
      (∀ newSequence ∈ exchanges.filterMap readAgain, newSequence = leased) ∧
      ∀ sequence ∈ exchanges.filterMap (consumedBy used), sequence = leased + 1 := by
  obtain ⟨lease, tx, leased, built, stored, consumed⟩ := submitWithChannel_runs used runs
  simp only [leased, consumed, List.forall_mem_singleton]
  constructor
  · intro agrees
    have rebuilt := agrees.rebuilt
    have same := agrees.consumed
    rw [built, List.replicate_succ, List.tail_cons] at rebuilt
    rw [stored, consumed] at same
    constructor
    · grind
    · exact (List.singleton_inj.mp same).symm
  · intro network
    obtain ⟨unchanged, next⟩ := network
    have reads := List.eq_replicate_of_mem unchanged
    constructor
    · rw [built, List.replicate_succ, List.tail_cons]
      exact reads.symm
    · intro newSequence last
      rw [unchanged newSequence (List.mem_of_getLast? last), stored]
    · rw [stored, consumed, next]

end

theorem withAccount_runs {exchanges : List (LeaseExchange α)} {result : α} (used : α → Int)
    (runs : (withAccount : LeaseScript α α).Runs exchanges (.ok result)) :
    ∃ lease : Lease, exchanges.filterMap leasedSequence = [lease.sequence] ∧
      exchanges.filterMap storedBy = [lease.sequence + 1] ∧
      exchanges.filterMap (consumedBy used) = [used result] := by
  cases runs with
  | await acquired a running =>
    cases acquired with
    | error error => cases running
    | ok lease =>
      cases running with
      | await reply b releasing =>
        cases reply with
        | error error =>
          cases releasing with
          | await _ _ ended => cases ended
        | ok value =>
          cases releasing with
          | await _ _ ended =>
            cases ended
            exact ⟨lease, rfl, rfl, rfl⟩

theorem attempts_runs (used : α → Int) (remaining : Nat) :
    ∀ {lastError : Option Thrown} {exchanges : List (Exchange Request (Reply α) Thrown)} {result : α},
      (attempts remaining lastError).Runs exchanges (.ok result) →
      ∃ given, exchanges.filterMap givenTo = [given] ∧ exchanges.filterMap storedBySubmission = [given] ∧
        exchanges.filterMap (consumedBySubmission used) = [used result] := by
  induction remaining with
  | zero => nofun
  | succ remaining ih =>
    intro lastError exchanges result runs
    cases runs with
    | await acquired a submitting =>
      cases acquired with
      | error error => cases submitting
      | ok lease =>
        cases submitting with
        | await reply b settling =>
          cases reply with
          | ok value =>
            cases settling with
            | await _ c ended =>
              cases ended
              exact ⟨lease.sequence + 1, rfl, rfl, rfl⟩
          | error error =>
            by_cases mismatch : isSequenceMismatchError error = true
            · simp only [mismatch, if_true] at settling
              cases settling with
              | await read c retrying =>
                cases read with
                | error failure => cases retrying
                | ok newSequence =>
                  cases retrying with
                  | await _ d again =>
                    obtain ⟨given, last⟩ := ih again
                    exact ⟨given, last⟩
            · simp only [mismatch, Bool.false_eq_true, if_false] at settling
              cases looked : isRetryableError error with
              | error failure =>
                rw [looked] at settling
                cases settling
              | ok retryable =>
                simp only [looked] at settling
                split at settling
                · cases settling with
                  | await _ c again =>
                    obtain ⟨given, last⟩ := ih again
                    exact ⟨given, last⟩
                · cases settling with
                  | await _ c ended => cases ended

/-- In a successful call, `submitTransaction` and `withAccount` store what the callback was to use, and
`submitWithChannel` agrees with the network exactly when no sequence was read again that differs from the leased
one, and the accepted transaction was built from it. -/
theorem sequences_agree_iff (used : α → Int) :
    (∀ retries exchanges hash, (submitWithChannel retries).Runs exchanges (.ok hash) →
      (Agrees exchanges used ↔ ∀ leased ∈ exchanges.filterMap leasedSequence,
        (∀ newSequence ∈ exchanges.filterMap readAgain, newSequence = leased) ∧
        ∀ sequence ∈ exchanges.filterMap (consumedBy used), sequence = leased + 1)) ∧
    (∀ exchanges result, (withAccount : LeaseScript α α).Runs exchanges (.ok result) →
      (exchanges.filterMap storedBy = exchanges.filterMap (consumedBy used) ↔
        ∀ leased ∈ exchanges.filterMap leasedSequence, used result = leased + 1)) ∧
    ∀ maxRetries exchanges result, (submitTransaction maxRetries).Runs exchanges (.ok result) →
      (exchanges.filterMap storedBySubmission = exchanges.filterMap (consumedBySubmission used) ↔
        exchanges.filterMap givenTo = [used result]) := by
  refine ⟨?_, ?_, ?_⟩
  · intro retries exchanges hash runs
    exact channel_agrees_iff used runs
  · intro exchanges result runs
    obtain ⟨lease, leased, stored, consumed⟩ := withAccount_runs used runs
    rw [leased, stored, consumed, List.forall_mem_singleton, List.singleton_inj]
    exact eq_comm
  · intro maxRetries exchanges result runs
    obtain ⟨given, offered, stored, consumed⟩ := attempts_runs used _ runs
    rw [offered, stored, consumed]

/-! The network. -/

/-- The sequence of the account over the exchanges of a call, where other transactions of the account may be
accepted in between. -/
def Lawful : Int → List (LeaseExchange α) → Prop
  | _, [] => True
  | network, exchange :: rest => ∃ now, network ≤ now ∧
      match exchange with
      | ⟨.submitTransaction tx, .ok _, _⟩ => tx.sequence = now + 1 ∧ Lawful (now + 1) rest
      | ⟨.submitTransaction tx, .error error, _⟩ =>
        (isSequenceMismatchError error = true ↔ tx.sequence ≠ now + 1) ∧ Lawful now rest
      | ⟨.resyncSequence _, .ok newSequence, _⟩ => newSequence = now ∧ Lawful now rest
      | _ => Lawful now rest

/-- The callback builds on the sequence that it is given. -/
def BuildsNext (exchange : LeaseExchange α) : Prop :=
  match exchange with
  | ⟨.buildTx _ currentSequence, .ok tx, _⟩ => tx.sequence = currentSequence + 1
  | _ => True

/-- The account is at 90 when its row says 100, and gets to 100 before the retry. -/
def overtaken : List (LeaseExchange Nat) :=
  [⟨.acquire, .ok ⟨0, "GA", 100⟩, true⟩, ⟨.buildTx "GA" 100, .ok ⟨101⟩, false⟩,
    ⟨.submitTransaction ⟨101⟩, .error badSequence, false⟩, ⟨.resyncSequence "GA", .ok 90, true⟩,
    ⟨.buildTx "GA" 100, .ok ⟨101⟩, false⟩, ⟨.submitTransaction ⟨101⟩, .ok "hash", true⟩,
    ⟨.release ⟨0, "GA", 100⟩ true (some 101), .ok (), true⟩]

theorem overtaken_runs : (submitWithChannel none : LeaseScript Nat String).Runs overtaken (.ok "hash") := by
  apply Script.Runs.await
  apply Script.Runs.await
  apply Script.Runs.await
  apply Script.Runs.await
  apply Script.Runs.await
  apply Script.Runs.await
  apply Script.Runs.await
  exact .done _

theorem overtaken_lawful : Lawful 90 overtaken := by
  refine ⟨90, Int.le_refl _, 90, Int.le_refl _, 90, Int.le_refl _, ?_, 90, Int.le_refl _, rfl, 100, by decide, 100, Int.le_refl _, rfl, 101,
    Int.le_refl _, trivial⟩
  constructor
  · intro _
    decide
  · intro _
    decide

theorem overtaken_decided : Agrees overtaken (fun _ => 0) ↔ ∀ leased ∈ overtaken.filterMap leasedSequence,
    (∀ newSequence ∈ overtaken.filterMap readAgain, newSequence = leased) ∧
    ∀ sequence ∈ overtaken.filterMap (consumedBy fun _ => 0), sequence = leased + 1 :=
  (sequences_agree_iff fun _ => 0).1 none overtaken "hash" overtaken_runs

/-- The retry is built from the sequence that the row had, not from the one that was read again. -/
theorem overtaken_disagrees : ¬∀ (used : Nat → Int) (retries : Option Nat) (network : Int)
    (exchanges : List (LeaseExchange Nat)) (hash : String), (submitWithChannel retries).Runs exchanges (.ok hash) →
    Lawful network exchanges → (∀ exchange ∈ exchanges, BuildsNext exchange) → Agrees exchanges used := by
  intro every
  have next : ∀ exchange ∈ overtaken, BuildsNext exchange := by
    simp [overtaken, BuildsNext]
  have agrees := every (fun _ => 0) none 90 overtaken "hash" overtaken_runs overtaken_lawful next
  have rebuilt : [100] = [(90 : Int)] := agrees.rebuilt
  cases rebuilt

end ProxyPay.Channels
