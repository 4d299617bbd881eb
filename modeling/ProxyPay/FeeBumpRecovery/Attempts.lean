import ProxyPay.FeeBumpRecovery.Service
import ProxyPay.Library.Exclusive
import ProxyPay.Library.Transition

/-! When the attempts of the recovery service follow the table of transitions, count their submissions and exhaust. -/

namespace ProxyPay.FeeBumpRecovery

open ProxyPay.Library

/-- The call has read its attempt and may still write to it. -/
def Phase.isLive : Phase → Bool
  | .resetting | .reading | .ended _ => false
  | _ => true

def Call.isLive (call : Call) : Bool :=
  call.phase.isLive

def FeeBumpStatus.isStartable : FeeBumpStatus → Bool
  | .pending | .failed | .deadLetter => true
  | _ => false

namespace Service

def isFree (service : Service) (attempt : ℕ) : Bool :=
  service.calls.all fun call => call.attempt ≠ attempt || !call.phase.isLive

/-- The call that the step queries for. -/
def querying (service : Service) : Label → Option Call
  | .query index _ => service.calls[index]?
  | _ => none

end Service

/-- A submission reads an attempt that is pending, failed or in `dead_letter`, and that no other call is busy with. -/
def isAlone (before : Service) (label : Label) : Bool :=
  (before.querying label).all fun call => call.phase ≠ .reading ||
    (before.isFree call.attempt && before.attempts[call.attempt]?.all fun row => row.status.isStartable)

/-- No manual retry resets an attempt, and none is moved to `dead_letter`. -/
def isMild (before : Service) (label : Label) : Bool :=
  (before.querying label).all fun call =>
    match call.phase with
    | .resetting | .burying _ _ => false
    | _ => true

/-- No failure of a submission is recorded as one to be retried. -/
def isFinal (before : Service) (label : Label) : Bool :=
  (before.querying label).all fun call =>
    match call.phase with
    | .failing .submission _ _ _ => false
    | _ => true

/-- A callback fails only a submission that has retries left. -/
def isBelow (before : Service) (label : Label) : Bool :=
  (before.querying label).all fun call =>
    match call.phase with
    | .failing caller _ _ _ => caller = .submission ||
        before.attempts[call.attempt]?.all fun row => call.newAttemptNumber < row.maxRetries
    | _ => true

/-- The statuses that an attempt may have when a call does this next. -/
def Phase.allows (status : FeeBumpStatus) : Phase → Bool
  | .marking => status.isStartable
  | .submitting | .recording _ | .handling _ _ | .burying _ _ => status = .submitting
  | .scheduling caller _ _ | .failing caller _ _ _ => if caller = .submission then status = .submitting else status = .submitted
  | .waiting | .confirming => status = .submitted
  | .resetting | .reading | .logging _ _ | .ended _ => true

/-- The call has found a retry left. -/
def Phase.retries : Phase → Bool
  | .scheduling .submission _ _ | .failing .submission _ _ _ => true
  | _ => false

/-- What a call does without a query changes nothing that is recorded. -/
structure Silent (old new : Phase) : Prop where
  live : new.isLive = true → old.isLive = true
  completed : new.isCompleted = old.isCompleted
  failed : new.isFailed = old.isFailed
  hasFailed : new.hasFailed = true → old.hasFailed = true
  allows : ∀ status, old.allows status = true → new.allows status = true
  retries : new.retries = false

variable {config : Config} {before after : Service} {label : Label} {old new : Phase} {call next : Call}
variable {attempt row : FeeBumpAttempt} {index now id : ℕ}

section

attribute [local simp] Phase.isLive Phase.isCompleted Phase.isFailed Phase.hasFailed Phase.allows Phase.retries

theorem silent_catch {message : String} (caught : old.catch config message = some new) : Silent old new := by
  cases old with
  | scheduling caller reason text =>
    cases caller <;> obtain rfl := Option.some.inj caught <;> constructor <;> simp
  | failing caller reason text nextRetryAt =>
    cases caller <;> obtain rfl := Option.some.inj caught <;> constructor <;> simp
  | submitting | waiting | ended outcome => cases caught
  | _ =>
    cases caught
    constructor <;> simp

/-- What a step can do. -/
inductive Change (config : Config) (before : Service) : Label → Service → Prop where
  | create (retries : Option ℕ) (row : FeeBumpAttempt) (fresh : row.attemptNumber = 0) :
      Change config before (.createFeeBumpAttempt retries) { before with attempts := before.attempts ++ [row] }
  | start (label : Label) (call : Call) (idle : call.phase = .reading ∨ call.phase = .resetting) :
      Change config before label (before.start call)
  | refuse (label : Label) : Change config before label before
  | goOn (label : Label) (index : ℕ) (call : Call) (phase : Phase) (found : before.calls[index]? = some call)
      (silent : Silent call.phase phase) : Change config before label (before.goOn index { call with phase })
  | query (index now : ℕ) (call next : Call) (attempt row : FeeBumpAttempt) (found : before.calls[index]? = some call)
      (stored : before.attempts[call.attempt]? = some attempt) (done : call.query config attempt now = some (row, next)) :
      Change config before (.query index now) (before.update index next row call.logDeadLetterEvent)

theorem change_of_step (move : step config before label after) : Change config before label after := by
  cases label with
  | createFeeBumpAttempt retries =>
    cases move
    exact .create retries _ rfl
  | submitFeeBumpWithRetry attempt =>
    cases move
    exact .start _ _ (.inl rfl)
  | manualRetryFeeBump attempt =>
    simp only [step, Service.perform] at move
    split at move <;> cases move
    · exact .start _ _ (.inr rfl)
    · exact .refuse _
  | query index now =>
    simp only [step, Service.perform] at move
    split at move
    · cases move
    · rename_i call found
      split at move
      · split at move
        · rename_i reading
          cases move
          apply Change.goOn _ index call _ found
          rw [reading]
          constructor <;> simp
        · cases move
      · rename_i attempt stored
        obtain ⟨⟨row, next⟩, done, rfl⟩ := Option.map_eq_some_iff.mp move
        exact .query index now call next attempt row found stored done
  | fail index message =>
    simp only [step, Service.perform] at move
    split at move
    · cases move
    · rename_i call found
      obtain ⟨phase, caught, rfl⟩ := Option.map_eq_some_iff.mp move
      exact .goOn _ index call phase found (silent_catch caught)
  | succeed index hash =>
    simp only [step, Service.perform] at move
    split at move
    · rename_i attempt number found
      cases move
      apply Change.goOn _ index _ _ found
      constructor <;> simp
    · cases move
  | reject index message =>
    simp only [step, Service.perform] at move
    split at move
    · rename_i attempt number found
      cases move
      apply Change.goOn _ index _ _ found
      constructor <;> simp
    · cases move
  | lookup index successful =>
    simp only [step, Service.perform] at move
    split at move
    · rename_i attempt number found
      cases move
      apply Change.goOn _ index _ _ found
      cases successful <;> constructor <;> simp
    · cases move

end

section

variable (done : call.query config attempt now = some (row, next))

include done

theorem query_frame : next.attempt = call.attempt ∧ row.maxRetries = attempt.maxRetries := by
  unfold Call.query at done
  split at done <;> cases done <;> exact ⟨rfl, rfl⟩

theorem live_of_query (alive : next.phase.isLive = true) : call.phase = .reading ∨ call.phase.isLive = true := by
  unfold Call.query at done
  split at done <;> cases done
  · cases alive
  · exact .inl ‹_›
  all_goals
    right
    simp [*, Phase.isLive]

theorem completed_of_query (completed : next.phase.isCompleted = true) : call.phase.isLive = true := by
  unfold Call.query at done
  split at done <;> cases done
  · cases completed
  · cases completed
  all_goals simp [*, Phase.isLive]

end

def Alone (service : Service) : Prop :=
  Exclusive Call.attempt Call.isLive service.calls

/-- The call has read its attempt. -/
def Call.isPlaced (call : Call) : Bool :=
  call.phase.isLive || call.phase.isCompleted

/-- A call that has read its attempt is of one that exists. -/
def Within (service : Service) : Prop :=
  Placed Call.attempt Call.isPlaced service.attempts service.calls

/-- A relation between a call and its attempt. -/
def Fitting (relates : Call → FeeBumpAttempt → Prop) (service : Service) : Prop :=
  Related Call.attempt relates service.attempts service.calls

theorem Alone.change (alone : Alone before) (change : Change config before label after)
    (single : isAlone before label = true) : Alone after := by
  cases change with
  | create => exact alone
  | start label call idle =>
    apply Exclusive.append_idle alone
    rcases idle with reading | resetting
    · rw [Call.isLive, reading]
      rfl
    · rw [Call.isLive, resetting]
      rfl
  | refuse => exact alone
  | goOn label index call phase found silent => exact Exclusive.set alone found rfl silent.live
  | query index now call next attempt row found stored done =>
    by_cases reading : call.phase = .reading
    · apply Exclusive.enter alone
      intro other member same
      have free : before.isFree call.attempt = true := by
        simp only [isAlone, Service.querying, found, Option.all_some, reading] at single
        exact (Bool.and_eq_true_iff.mp (by simpa using single)).1
      have apart := List.all_eq_true.mp free other member
      rw [(query_frame done).1] at same
      simpa [same, Call.isLive] using apart
    · apply Exclusive.set alone found (query_frame done).1
      intro alive
      rcases live_of_query done alive with now | also
      · exact absurd now reading
      · exact also

theorem Within.change (within : Within before) (change : Change config before label after) : Within after := by
  cases change with
  | create retries row fresh =>
    apply Placed.grow within
    rw [List.length_append]
    exact Nat.le_add_right _ _
  | start label call idle =>
    apply Placed.start within
    intro busy
    rcases idle with reading | resetting
    · rw [Call.isPlaced, reading] at busy
      cases busy
    · rw [Call.isPlaced, resetting] at busy
      cases busy
  | refuse => exact within
  | goOn label index call phase found silent =>
    apply Placed.goOn within
    intro busy
    apply within call (List.mem_of_getElem? found)
    rw [Call.isPlaced, Bool.or_eq_true] at busy ⊢
    rcases busy with alive | completed
    · exact .inl (silent.live alive)
    · exact .inr (silent.completed ▸ completed)
  | query index now call next attempt row found stored done =>
    apply Placed.goOn
    · exact within.grow (Nat.le_of_eq List.length_set.symm)
    · intro _
      rw [Service.update, List.length_set, (query_frame done).1]
      exact (List.getElem?_eq_some_iff.mp stored).1

theorem Fitting.change {relates : Call → FeeBumpAttempt → Prop} (fitting : Fitting relates before) (within : Within before)
    (change : Change config before label after)
    (idle : ∀ call attempt, Call.isLive call = false → relates call attempt)
    (silent : ∀ call attempt phase, Silent call.phase phase → relates call attempt → relates { call with phase } attempt)
    (query : ∀ index now call next attempt row, label = .query index now → before.calls[index]? = some call →
      before.attempts[call.attempt]? = some attempt → call.query config attempt now = some (row, next) →
      relates call attempt → relates next row ∧
        (Alone before ∧ Call.isLive call = true ∨ ∀ other, relates other attempt → relates other row)) :
    Fitting relates after := by
  cases change with
  | create retries row fresh =>
    apply Related.append_row fitting within
    intro call attempt unplaced
    exact idle call attempt (Bool.or_eq_false_iff.mp unplaced).1
  | start label call resting =>
    apply Related.start fitting
    intro attempt _
    apply idle
    rcases resting with reading | resetting
    · rw [Call.isLive, reading]
      rfl
    · rw [Call.isLive, resetting]
      rfl
  | refuse => exact fitting
  | goOn label index call phase found quiet =>
    apply Related.goOn fitting
    intro attempt stored
    exact silent call attempt phase quiet (fitting call (List.mem_of_getElem? found) attempt stored)
  | query index now call next attempt row found stored done =>
    have place := (query_frame done).1
    have here := fitting call (List.mem_of_getElem? found) attempt stored
    obtain ⟨kept, others⟩ := query index now call next attempt row rfl found stored done here
    rcases others with ⟨alone, alive⟩ | neutral
    · exact Related.write fitting alone found alive place idle kept
    · apply Related.write_of fitting _ kept
      intro i other _ there same
      exact neutral other (fitting other (List.mem_of_getElem? there) attempt (by rwa [same, place]))

/-- The attempt has a status that the call's next write may start from. -/
def Call.Fits (call : Call) (attempt : FeeBumpAttempt) : Prop :=
  call.phase.allows attempt.status = true

def Call.Numbers (call : Call) (attempt : FeeBumpAttempt) : Prop :=
  call.phase.isLive = true → call.newAttemptNumber = attempt.attemptNumber + (!call.phase.isCompleted).toNat

def Call.HasRetries (call : Call) (attempt : FeeBumpAttempt) : Prop :=
  call.phase.retries = true → call.newAttemptNumber < attempt.maxRetries

theorem handle_cases (attempt : FeeBumpAttempt) (number : ℕ) (reason : FeeBumpFailureReason) (message : String) :
    (∃ cause, handleFeeBumpFailure attempt number reason message = .burying cause message) ∨
      number < attempt.maxRetries ∧
        handleFeeBumpFailure attempt number reason message = .scheduling .submission reason (some message) := by
  unfold handleFeeBumpFailure
  split
  · exact .inl ⟨reason, rfl⟩
  · grind

theorem fits_of_query (alone : Alone before) (found : before.calls[index]? = some call)
    (stored : before.attempts[call.attempt]? = some attempt) (done : call.query config attempt now = some (row, next))
    (single : isAlone before (.query index now) = true) (mild : isMild before (.query index now) = true)
    (fits : call.Fits attempt) : next.Fits row ∧
      (Alone before ∧ Call.isLive call = true ∨ ∀ other : Call, other.Fits attempt → other.Fits row) := by
  simp only [isAlone, isMild, Service.querying, found, stored, Option.all_some] at single mild
  unfold Call.query at done
  split at done <;> cases done
  · rename_i resetting
    simp [resetting] at mild
  · rename_i reading
    simp only [reading] at single
    have both : before.isFree call.attempt = true ∧ attempt.status.isStartable = true := by simpa using single
    exact ⟨both.2, .inr fun other fits => fits⟩
  · rename_i marking
    exact ⟨rfl, .inl ⟨alone, by rw [Call.isLive, marking]; rfl⟩⟩
  · rename_i recording
    exact ⟨rfl, .inl ⟨alone, by rw [Call.isLive, recording]; rfl⟩⟩
  · rename_i confirming
    exact ⟨rfl, .inl ⟨alone, by rw [Call.isLive, confirming]; rfl⟩⟩
  · rename_i reason message handling
    refine ⟨?_, .inr fun other fits => fits⟩
    rw [Call.Fits, handling] at fits
    rcases handle_cases attempt call.newAttemptNumber reason message with ⟨cause, burying⟩ | ⟨_, scheduling⟩
    · rw [Call.Fits, burying]
      exact fits
    · rw [Call.Fits, scheduling]
      simpa [Phase.allows] using fits
  · rename_i burying
    simp [burying] at mild
  · exact ⟨rfl, .inr fun other fits => fits⟩
  · rename_i scheduling
    rw [Call.Fits, scheduling] at fits
    exact ⟨fits, .inr fun other fits => fits⟩
  · rename_i failing
    exact ⟨rfl, .inl ⟨alone, by rw [Call.isLive, failing]; rfl⟩⟩

theorem listed_of_query (found : before.calls[index]? = some call) (mild : isMild before (.query index now) = true)
    (fits : call.Fits attempt) (done : call.query config attempt now = some (row, next))
    (changed : attempt.status ≠ row.status) : isValidTransition attempt.status row.status = true := by
  simp only [isMild, Service.querying, found, Option.all_some] at mild
  unfold Call.query at done
  split at done <;> cases done
  · rename_i resetting
    simp [resetting] at mild
  · exact absurd rfl changed
  · rename_i marking
    rw [Call.Fits, marking] at fits
    cases status : attempt.status <;> rw [status] at fits <;> first | rfl | cases fits
  · rename_i recording
    rw [Call.Fits, recording] at fits
    rw [of_decide_eq_true fits]
    rfl
  · rename_i confirming
    rw [Call.Fits, confirming] at fits
    rw [of_decide_eq_true fits]
    rfl
  · exact absurd rfl changed
  · rename_i burying
    simp [burying] at mild
  · exact absurd rfl changed
  · exact absurd rfl changed
  · rename_i caller _ _ _ failing
    rw [Call.Fits, failing] at fits
    cases caller with
    | submission =>
      rw [show attempt.status = .submitting from of_decide_eq_true fits]
      rfl
    | callback =>
      rw [show attempt.status = .submitted from of_decide_eq_true fits]
      rfl
    | rescue =>
      rw [show attempt.status = .submitted from of_decide_eq_true fits]
      rfl

theorem number_of_query (found : before.calls[index]? = some call)
    (done : call.query config attempt now = some (row, next)) (final : isFinal before (.query index now) = true) :
    (row.attemptNumber = attempt.attemptNumber ∧ next.phase.isCompleted = call.phase.isCompleted ∧
      (call.phase.isLive = true → next.newAttemptNumber = call.newAttemptNumber)) ∨
    (row.attemptNumber = call.newAttemptNumber ∧ call.phase.isLive = true ∧ call.phase.isCompleted = false ∧
      next.phase.isCompleted = true ∧ next.newAttemptNumber = call.newAttemptNumber) := by
  simp only [isFinal, Service.querying, found, Option.all_some] at final
  unfold Call.query at done
  split at done <;> cases done
  · rename_i resetting
    exact .inl ⟨rfl, by rw [resetting]; rfl, fun _ => rfl⟩
  · rename_i reading
    refine .inl ⟨rfl, by rw [reading]; rfl, fun alive => ?_⟩
    rw [reading] at alive
    cases alive
  · rename_i marking
    exact .inl ⟨rfl, by rw [marking]; rfl, fun _ => rfl⟩
  · rename_i recording
    exact .inr ⟨rfl, by rw [recording]; rfl, by rw [recording]; rfl, rfl, rfl⟩
  · rename_i confirming
    exact .inl ⟨rfl, by rw [confirming]; rfl, fun _ => rfl⟩
  · rename_i reason message handling
    refine .inl ⟨rfl, ?_, fun _ => rfl⟩
    rcases handle_cases attempt call.newAttemptNumber reason message with ⟨cause, burying⟩ | ⟨_, scheduling⟩
    · rw [handling, burying]
      rfl
    · rw [handling, scheduling]
      rfl
  · rename_i burying
    exact .inr ⟨rfl, by rw [burying]; rfl, by rw [burying]; rfl, rfl, rfl⟩
  · rename_i logging
    exact .inl ⟨rfl, by rw [logging]; rfl, fun _ => rfl⟩
  · rename_i scheduling
    exact .inl ⟨rfl, by rw [scheduling]; rfl, fun _ => rfl⟩
  · rename_i caller _ _ _ failing
    refine .inl ⟨rfl, ?_, fun _ => rfl⟩
    cases caller with
    | submission => simp [failing] at final
    | callback =>
      rw [failing]
      rfl
    | rescue =>
      rw [failing]
      rfl

theorem numbers_of_query (alone : Alone before) (found : before.calls[index]? = some call)
    (done : call.query config attempt now = some (row, next)) (final : isFinal before (.query index now) = true)
    (numbers : call.Numbers attempt) : next.Numbers row ∧
      (Alone before ∧ Call.isLive call = true ∨ ∀ other : Call, other.Numbers attempt → other.Numbers row) := by
  rcases number_of_query found done final with ⟨same, completed, kept⟩ | ⟨recorded, alive, _, completed, kept⟩
  · constructor
    · intro busy
      rcases live_of_query done busy with reading | alive
      · simp only [Call.query, reading, Option.some.injEq, Prod.mk.injEq] at done
        obtain ⟨rfl, rfl⟩ := done
        rfl
      · rw [same, completed, kept alive]
        exact numbers alive
    · simp_all [Call.Numbers]
  · constructor
    · intro _
      rw [recorded, completed, kept]
      rfl
    · exact .inl ⟨alone, alive⟩

section

variable (done : call.query config attempt now = some (row, next))

include done

theorem hasRetries_of_query (has : call.HasRetries attempt) :
    next.HasRetries row ∧ ∀ other : Call, other.HasRetries attempt → other.HasRetries row := by
  constructor
  · unfold Call.query at done
    split at done <;> cases done
    · nofun
    · nofun
    · nofun
    · nofun
    · nofun
    · rename_i reason message handling
      intro retries
      rcases handle_cases attempt call.newAttemptNumber reason message with ⟨cause, burying⟩ | ⟨below, _⟩
      · rw [burying] at retries
        cases retries
      · exact below
    · nofun
    · nofun
    · rename_i caller _ _ scheduling
      intro retries
      apply has
      cases caller with
      | submission =>
        rw [scheduling]
        rfl
      | callback | rescue => cases retries
    · nofun
  · intro other fits retries
    rw [(query_frame done).2]
    exact fits retries

theorem failed_of_query (failed : next.phase.hasFailed = true) :
    call.phase.hasFailed = true ∨ row.status = .deadLetter ∨
      ∃ caller reason message nextRetryAt, call.phase = .failing caller reason message nextRetryAt ∧
        next.newAttemptNumber = call.newAttemptNumber := by
  unfold Call.query at done
  split at done <;> cases done
  · cases failed
  · cases failed
  · cases failed
  · cases failed
  · cases failed
  · rename_i reason message _
    rcases handle_cases attempt call.newAttemptNumber reason message with ⟨cause, burying⟩ | ⟨_, scheduling⟩
    · rw [burying] at failed
      cases failed
    · rw [scheduling] at failed
      cases failed
  · exact .inr (.inl rfl)
  · rename_i logging
    left
    rw [logging]
    rfl
  · cases failed
  · simp_all

theorem unfinished_of_query : call.phase.isFailed = false := by
  unfold Call.query at done
  split at done <;> cases done <;> simp [*, Phase.isFailed]

theorem failing_of_query (failed : next.phase.isFailed = true) :
    ∃ caller reason message nextRetryAt, call.phase = .failing caller reason message nextRetryAt := by
  unfold Call.query at done
  split at done <;> cases done
  · cases failed
  · cases failed
  · cases failed
  · cases failed
  · cases failed
  · rename_i reason message _
    rcases handle_cases attempt call.newAttemptNumber reason message with ⟨cause, burying⟩ | ⟨_, scheduling⟩
    · rw [burying] at failed
      cases failed
    · rw [scheduling] at failed
      cases failed
  · cases failed
  · cases failed
  · cases failed
  · simp_all

end

theorem number_le_of_query (found : before.calls[index]? = some call)
    (done : call.query config attempt now = some (row, next)) (final : isFinal before (.query index now) = true)
    (alive : call.phase.isLive = true) (numbers : call.Numbers attempt) : row.attemptNumber ≤ call.newAttemptNumber := by
  rcases number_of_query found done final with ⟨same, _⟩ | ⟨recorded, _⟩
  · rw [same, numbers alive]
    exact Nat.le_add_right _ _
  · exact Nat.le_of_eq recorded

/-- Outcomes are recorded with their number. -/
structure Counts (service : Service) : Prop where
  alone : Alone service
  within : Within service
  numbers : Fitting Call.Numbers service
  counted : Counted service

theorem counts_initial : Counts .initial := by
  constructor
  · exact Exclusive.nil
  · intro call member
    cases member
  · intro call member
    cases member
  · intro id attempt found
    cases found

theorem Within.completed_eq_zero (within : Within before) (beyond : before.attempts.length ≤ id) : before.completed id = 0 := by
  apply List.countP_eq_zero.mpr
  intro call member counted
  obtain ⟨same, completed⟩ := Bool.and_eq_true_iff.mp counted
  have inside := within call member (Bool.or_eq_true_iff.mpr (.inr completed))
  rw [of_decide_eq_true same] at inside
  omega

theorem Counted.change (counted : Counted before) (within : Within before) (numbers : Fitting Call.Numbers before)
    (change : Change config before label after) (final : isFinal before label = true) : Counted after := by
  cases change with
  | create retries row fresh =>
    intro id attempt found
    rcases getElem?_append_singleton found with earlier | ⟨rfl, rfl⟩
    · exact counted id attempt earlier
    · rw [fresh]
      exact (within.completed_eq_zero (Nat.le_refl _)).symm
  | start label call idle =>
    intro id attempt found
    have uncounted : call.phase.isCompleted = false := by
      rcases idle with reading | resetting
      · rw [reading]
        rfl
      · rw [resetting]
        rfl
    have same : (before.start call).completed id = before.completed id := by
      simp [Service.completed, Service.start, List.countP_append, uncounted]
    rw [same]
    exact counted id attempt found
  | refuse => exact counted
  | goOn label index call phase found silent =>
    intro id attempt stored
    have moved := countP_set (fun other : Call => other.attempt = id && other.phase.isCompleted) found { call with phase }
    simp only [silent.completed] at moved
    exact (counted id attempt stored).trans (Nat.add_right_cancel moved).symm
  | query index now call next attempt row found stored done =>
    intro id other there
    have moved := countP_set (fun other : Call => other.attempt = id && other.phase.isCompleted) found next
    have place := (query_frame done).1
    simp only [place] at moved
    rcases number_of_query found done final with ⟨same, completed, _⟩ | ⟨recorded, alive, fresh, completed, _⟩
    · rw [completed] at moved
      have unmoved : (before.update index next row call.logDeadLetterEvent).completed id = before.completed id :=
        Nat.add_right_cancel moved
      rw [unmoved]
      rcases getElem?_set_of_some there with ⟨here, rfl⟩ | ⟨_, earlier⟩
      · rw [here, place, same]
        exact counted _ attempt stored
      · exact counted id other earlier
    · rcases getElem?_set_of_some there with ⟨here, rfl⟩ | ⟨apart, earlier⟩
      · have number := numbers call (List.mem_of_getElem? found) attempt stored alive
        have earlier := counted _ attempt stored
        simp only [here, place, fresh, completed, decide_true, Bool.and_true, Bool.and_false, Bool.toNat_true,
          Bool.toNat_false, Bool.not_false] at moved number
        rw [recorded, number, earlier, here, place]
        exact moved.symm
      · rw [place] at apart
        simp only [Ne.symm apart, decide_false, Bool.false_and, Bool.toNat_false, Nat.add_zero] at moved
        exact (counted id other earlier).trans moved.symm

theorem Counts.change (counts : Counts before) (change : Change config before label after)
    (single : isAlone before label = true) (final : isFinal before label = true) : Counts after := by
  constructor
  · exact counts.alone.change change single
  · exact counts.within.change change
  · apply counts.numbers.change counts.within change
    · intro call attempt resting alive
      cases resting.symm.trans alive
    · intro call attempt phase silent numbers alive
      rw [silent.completed]
      exact numbers (silent.live alive)
    · rintro index now call next attempt row rfl found _ done numbers
      exact numbers_of_query counts.alone found done final numbers
  · exact counts.counted.change counts.within counts.numbers change final

theorem Listed.of_change (fits : Fitting Call.Fits before)
    (change : Change config before label after) (mild : isMild before label = true) : Listed before label after := by
  intro id old new stored after changed
  cases change with
  | create retries row fresh => grind
  | query index now call next attempt row found there done =>
    rcases getElem?_set_of_some after with ⟨same, rfl⟩ | ⟨_, earlier⟩
    · rw [same, (query_frame done).1] at stored
      obtain rfl := Option.some.inj (there.symm.trans stored)
      exact listed_of_query found mild (fits call (List.mem_of_getElem? found) attempt there) done changed
    · simp_all
  | _ =>
    cases stored.symm.trans after
    exact absurd rfl changed

theorem fits_change (alone : Alone before) (within : Within before) (fits : Fitting Call.Fits before)
    (change : Change config before label after) (single : isAlone before label = true)
    (mild : isMild before label = true) : Fitting Call.Fits after := by
  apply fits.change within change
  · intro call attempt resting
    unfold Call.Fits
    unfold Call.isLive at resting
    cases phase : call.phase <;> rw [phase] at resting <;> first | rfl | cases resting
  · intro call attempt phase silent fits
    exact silent.allows attempt.status fits
  · rintro index now call next attempt row rfl found stored done fits
    exact fits_of_query alone found stored done single mild fits

theorem hasRetries_change (within : Within before) (has : Fitting Call.HasRetries before)
    (change : Change config before label after) : Fitting Call.HasRetries after := by
  apply has.change within change
  · intro call attempt resting retries
    unfold Call.isLive at resting
    cases phase : call.phase <;> rw [phase] at resting retries <;> first | cases retries | cases resting
  · intro call attempt phase silent _ retries
    cases silent.retries.symm.trans retries
  · rintro index now call next attempt row rfl _ _ done has
    obtain ⟨kept, others⟩ := hasRetries_of_query done has
    exact ⟨kept, .inr others⟩

theorem Buried.of_change (has : Fitting Call.HasRetries before) (change : Change config before label after)
    (below : isBelow before label = true) : Buried before label after := by
  intro place old new row stored there final fresh failed spent
  have unchanged (same : old = new) : row.status = .deadLetter := by
    rw [same, failed] at fresh
    cases fresh
  cases change with
  | create retries row fresh => exact unchanged (Option.some.inj (stored.symm.trans there))
  | start label call idle => grind [Service.start, List.getElem?_append_left]
  | refuse => exact unchanged (Option.some.inj (stored.symm.trans there))
  | goOn label index call phase found silent =>
    rcases getElem?_set_of_some there with ⟨rfl, rfl⟩ | ⟨_, earlier⟩
    · cases found.symm.trans stored
      rw [silent.hasFailed failed] at fresh
      cases fresh
    · exact unchanged (Option.some.inj (stored.symm.trans earlier))
  | query index now call next attempt written found present done =>
    rcases getElem?_set_of_some there with ⟨rfl, rfl⟩ | ⟨_, earlier⟩
    · obtain rfl := Option.some.inj (found.symm.trans stored)
      obtain ⟨_, rfl⟩ | ⟨apart, _⟩ := getElem?_set_of_some final
      · rcases failed_of_query done failed with already | buried | ⟨caller, reason, message, retryAt, failing, same⟩
        · rw [fresh] at already
          cases already
        · exact buried
        · rw [(query_frame done).2, same] at spent
          have retries : call.newAttemptNumber < attempt.maxRetries := by
            cases caller with
            | submission => exact has call (List.mem_of_getElem? found) attempt present (by rw [failing]; rfl)
            | callback | rescue => simpa [isBelow, Service.querying, found, present, failing] using below
          omega
      · exact absurd rfl apart
    · exact unchanged (Option.some.inj (stored.symm.trans earlier))

theorem completed_of_isFailed (failed : new.isFailed = true) : new.isCompleted = true := by
  cases new with
  | ended outcome => cases outcome <;> first | rfl | cases failed
  | _ => cases failed

theorem retries_of_failed (found : before.calls[index]? = some call) (stored : before.attempts[call.attempt]? = some attempt)
    (done : call.query config attempt now = some (row, next)) (failed : next.phase.isFailed = true)
    (final : isFinal before (.query index now) = true) (below : isBelow before (.query index now) = true) :
    call.newAttemptNumber < attempt.maxRetries := by
  simp only [isFinal, isBelow, Service.querying, found, stored, Option.all_some] at final below
  obtain ⟨caller, reason, message, nextRetryAt, failing⟩ := failing_of_query done failed
  rw [failing] at final below
  cases caller with
  | submission => cases final
  | callback | rescue => simpa using below

theorem Exhausted.change (exhausted : Exhausted before) (counts : Counts before) (now : Counts after)
    (change : Change config before label after) (final : isFinal before label = true)
    (below : isBelow before label = true) : Exhausted after := by
  have bounded : ∀ id, after.failures id ≤ after.completed id := by
    intro id
    apply List.countP_mono_left
    intro call _ failed
    obtain ⟨same, ended⟩ := Bool.and_eq_true_iff.mp failed
    exact Bool.and_eq_true_iff.mpr ⟨same, completed_of_isFailed ended⟩
  intro id attempt found
  cases change with
  | create retries row fresh =>
    rcases getElem?_append_singleton found with earlier | ⟨rfl, rfl⟩
    · exact exhausted id attempt earlier
    · have none := now.counted _ attempt found
      have few := bounded before.attempts.length
      rw [← none, fresh] at few
      exact Nat.le_trans few (Nat.zero_le _)
  | start label call idle =>
    have unfailed : call.phase.isFailed = false := by
      rcases idle with reading | resetting
      · rw [reading]
        rfl
      · rw [resetting]
        rfl
    have same : (before.start call).failures id = before.failures id := by
      simp [Service.failures, Service.start, List.countP_append, unfailed]
    rw [same]
    exact exhausted id attempt found
  | refuse => exact exhausted id attempt found
  | goOn label index call phase there silent =>
    have moved := countP_set (fun other : Call => other.attempt = id && other.phase.isFailed) there { call with phase }
    simp only [silent.failed] at moved
    exact Nat.le_trans (Nat.le_of_eq (Nat.add_right_cancel moved)) (exhausted id attempt found)
  | query index now call next old row there stored done =>
    have moved := countP_set (fun other : Call => other.attempt = id && other.phase.isFailed) there next
    have place := (query_frame done).1
    simp only [place, unfinished_of_query done, Bool.and_false, Bool.toNat_false, Nat.add_zero] at moved
    cases failed : next.phase.isFailed with
    | false =>
      rw [failed, Bool.and_false, Bool.toNat_false, Nat.add_zero] at moved
      rcases getElem?_set_of_some found with ⟨here, rfl⟩ | ⟨_, earlier⟩
      · rw [here, place] at moved ⊢
        rw [(query_frame done).2]
        exact Nat.le_trans (Nat.le_of_eq moved) (exhausted _ old stored)
      · exact Nat.le_trans (Nat.le_of_eq moved) (exhausted id attempt earlier)
    | true =>
      rcases getElem?_set_of_some found with ⟨here, rfl⟩ | ⟨apart, earlier⟩
      · have alive := completed_of_query done (completed_of_isFailed failed)
        have number := number_le_of_query there done final alive (counts.numbers call (List.mem_of_getElem? there) old stored)
        have below := retries_of_failed there stored done failed final below
        rw [(query_frame done).2]
        calc (before.update index next attempt call.logDeadLetterEvent).failures id
          _ ≤ (before.update index next attempt call.logDeadLetterEvent).completed id := bounded id
          _ = attempt.attemptNumber := (now.counted id attempt found).symm
          _ ≤ call.newAttemptNumber := number
          _ ≤ old.maxRetries := Nat.le_of_lt below
      · rw [place] at apart
        rw [decide_eq_false (Ne.symm apart), Bool.false_and, Bool.toNat_false, Nat.add_zero] at moved
        exact Nat.le_trans (Nat.le_of_eq moved) (exhausted id attempt earlier)

theorem fitting_initial (relates : Call → FeeBumpAttempt → Prop) : Fitting relates .initial := by
  intro call member
  cases member

/-- Statuses change as listed in every run in which submissions start alone, no manual retry resets an attempt and none
is buried; numbers count in every run in which submissions start alone and none fails to be retried; and attempts exhaust
if their callbacks fail them only while they have retries left. -/
theorem attempts_follow {trace : List Label} {last : Service} (run : Run (step config) .initial trace last) :
    (Throughout (step config) .initial (fun before label _ => (isAlone before label && isMild before label) = true) trace →
      Throughout (step config) .initial Listed trace) ∧
    (Throughout (step config) .initial (fun before label _ => (isAlone before label && isFinal before label) = true) trace →
      Counted last) ∧
    (Throughout (step config) .initial (fun before label _ => isBelow before label = true) trace →
      Throughout (step config) .initial Buried trace) ∧
    (Throughout (step config) .initial (fun before label _ =>
      (isAlone before label && isFinal before label && isBelow before label) = true) trace → Exhausted last) := by
  refine ⟨?_, ?_, ?_, ?_⟩
  · rintro every earlier label rest before after rfl reached move
    have kept : Alone before ∧ Within before ∧ Fitting Call.Fits before := by
      apply reached.kept every.before
      · exact ⟨(counts_initial).alone, (counts_initial).within, fitting_initial _⟩
      · intro before label after ⟨alone, within, fits⟩ move kind
        obtain ⟨single, mild⟩ := Bool.and_eq_true_iff.mp kind
        have change := change_of_step move
        exact ⟨alone.change change single, within.change change, fits_change alone within fits change single mild⟩
    have kind := every earlier label rest before after rfl reached move
    exact Listed.of_change kept.2.2 (change_of_step move) (Bool.and_eq_true_iff.mp kind).2
  · intro every
    have counts : Counts last := by
      apply run.kept every
      · exact counts_initial
      · intro before label after counts move kind
        obtain ⟨single, final⟩ := Bool.and_eq_true_iff.mp kind
        exact counts.change (change_of_step move) single final
    exact counts.counted
  · rintro every earlier label rest before after rfl reached move
    have kept : Within before ∧ Fitting Call.HasRetries before := by
      apply reached.kept every.before
      · exact ⟨(counts_initial).within, fitting_initial _⟩
      · intro before label after ⟨within, has⟩ move _
        have change := change_of_step move
        exact ⟨within.change change, hasRetries_change within has change⟩
    have below := every earlier label rest before after rfl reached move
    exact Buried.of_change kept.2 (change_of_step move) below
  · intro every
    have kept : Counts last ∧ Exhausted last := by
      apply run.kept every
      · refine ⟨counts_initial, ?_⟩
        intro id attempt found
        cases found
      · intro before label after ⟨counts, exhausted⟩ move kind
        obtain ⟨others, below⟩ := Bool.and_eq_true_iff.mp kind
        obtain ⟨single, final⟩ := Bool.and_eq_true_iff.mp others
        have change := change_of_step move
        have now := counts.change change single final
        exact ⟨now, exhausted.change counts now change final below⟩
    exact kept.2

/-- The defaults. -/
def configSample : Config :=
  ⟨5, 5000, 300000, String.toLower⟩

/-- The queries of a submission that the network takes, up to its callback. -/
def submission (call : ℕ) : List Label :=
  [.query call 0, .query call 0, .succeed call "hash", .query call 0]

/-- A first submission is not found, and the second is confirmed. -/
def confirmedSecond : List Label :=
  [.createFeeBumpAttempt (some 2), .submitFeeBumpWithRetry 0] ++ submission 0 ++
    [.lookup 0 false, .query 0 15000, .query 0 15000, .submitFeeBumpWithRetry 0] ++ submission 1 ++
    [.lookup 1 true, .query 1 40000]

theorem confirmedSecond_follows : ∃ last : Service,
    last.attempts.map FeeBumpAttempt.status = [.confirmed] ∧ last.attempts.map FeeBumpAttempt.attemptNumber = [2] ∧
    Throughout (step configSample) .initial Listed confirmedSecond ∧ Counted last ∧
    Throughout (step configSample) .initial Buried confirmedSecond ∧ Exhausted last := by
  have followed : (confirmedSecond.foldlM (Service.perform configSample) .initial).map (fun service =>
      (service.attempts.map FeeBumpAttempt.status, service.attempts.map FeeBumpAttempt.attemptNumber)) =
      some ([.confirmed], [2]) := by decide
  obtain ⟨last, reached, same⟩ := Option.map_eq_some_iff.mp followed
  obtain ⟨status, number⟩ := Prod.mk.inj same
  obtain ⟨listed, counted, buried, exhausted⟩ := attempts_follow (Run.follow reached)
  refine ⟨last, status, number, ?_, ?_, ?_, ?_⟩
  · exact listed (throughout_follow (by decide))
  · exact counted (throughout_follow (by decide))
  · exact buried (throughout_follow (by decide))
  · exact exhausted (throughout_follow (by decide))

/-- A submission times out; the attempt is failed with the number that it had. -/
def timedOut : List Label :=
  [.createFeeBumpAttempt none, .submitFeeBumpWithRetry 0, .query 0 0, .query 0 0, .reject 0 "Submission timeout",
    .query 0 30000, .query 0 30000, .query 0 30000]

theorem timedOut_not_counted : ¬∀ (config : Config) (trace : List Label) (last : Service),
    Run (step config) .initial trace last → Throughout (step config) .initial Listed trace ∧ Counted last ∧
      Throughout (step config) .initial Buried trace ∧ Exhausted last := by
  intro always
  have followed : (timedOut.foldlM (Service.perform configSample) .initial).map (fun service =>
      (service.attempts.map FeeBumpAttempt.attemptNumber, service.completed 0)) = some ([0], 1) := by decide +kernel
  obtain ⟨last, reached, same⟩ := Option.map_eq_some_iff.mp followed
  obtain ⟨number, completed⟩ := Prod.mk.inj same
  obtain ⟨attempt, others, stored, unchanged, _⟩ := List.map_eq_cons_iff.mp number
  have counted := (always configSample timedOut last (Run.follow reached)).2.1 0 attempt (by rw [stored]; rfl)
  rw [completed, unchanged] at counted
  cases counted

end ProxyPay.FeeBumpRecovery
