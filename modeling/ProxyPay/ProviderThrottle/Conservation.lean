import ProxyPay.Library.Exclusive
import ProxyPay.Library.Transition
import ProxyPay.ProviderThrottle.Calls

/-! When a throttled call is executed once at most, when one dead letter at most holds it, and when it is in one place
at any time. -/

namespace ProxyPay.ProviderThrottle

open ProxyPay.Library

namespace Throttle

/-- The job that the step lets proceed, and its event. -/
def proceeding (throttle : Throttle) : Label → Option (Job × Event)
  | .proceed index event => throttle.jobs[index]?.map fun job => (job, event)
  | _ => none

/-- The call that a replay enqueues again. -/
def replaying (throttle : Throttle) : Label → Option ℕ
  | .replayDeadLetter entry =>
    throttle.deadLetters[entry]?.bind fun entry => if entry.removed then none else some entry.call
  | _ => none

end Throttle

/-- The provider did not execute a call whose attempt throws. -/
def Event.isClean : Event → Bool
  | .run executed thrown => !(executed && thrown.isSome)
  | _ => true

/-- An attempt throws if the provider did not execute the call and only then, and the queues accept what is added. -/
def Event.isSound : Event → Bool
  | .run executed thrown => executed == thrown.isNone
  | .moveToDeadLetter persisted => persisted
  | .add accepted => accepted
  | _ => true

def Event.captures : Event → Bool
  | .moveToDeadLetter persisted => persisted
  | _ => false

/-- No attempt of the call throws after its execution, and it is replayed only when no job is pending for it and it was
not executed. -/
def isOnce (call : ℕ) (before : Throttle) (label : Label) : Bool :=
  ((before.proceeding label).all fun step => step.1.call ≠ call || step.2.isClean) &&
    (before.replaying label).all fun other => other ≠ call || before.pending call + before.executed call = 0

/-- A failed replay of the call becomes a dead letter only when none holds it. -/
def isSingle (call : ℕ) (before : Throttle) (label : Label) : Bool :=
  (before.proceeding label).all fun step =>
    step.1.call ≠ call || step.1.replays.isNone || !step.2.captures || before.held call = 0

/-- The call is not replayed, and its events are sound. -/
def isConserving (call : ℕ) (before : Throttle) (label : Label) : Bool :=
  ((before.proceeding label).all fun step => step.1.call ≠ call || step.2.isSound) &&
    (before.replaying label).all fun other => other ≠ call

variable {config : Config} {before after throttle : Throttle} {label : Label} {job : Job} {event : Event}
variable {progress : Progress} {call entries index : ℕ} {trace : List Label} {last : Throttle}

/-- What a step can do. -/
inductive Change (config : Config) (before : Throttle) : Label → Throttle → Prop where
  | enqueue (operation : Operation) :
      Change config before (.enqueueProviderCall operation) { before with
        calls := before.calls ++ [operation]
        jobs := before.jobs ++ [⟨before.calls.length, none, .checking⟩] }
  | replay (id : ℕ) (entry : DeadLetterEntry) (found : before.deadLetters[id]? = some entry)
      (held : entry.removed = false) :
      Change config before (.replayDeadLetter id)
        { before with jobs := before.jobs ++ [⟨entry.call, some id, .adding⟩] }
  | refuse (label : Label) : Change config before label before
  | goOn (index : ℕ) (event : Event) (job : Job) (progress : Progress) (found : before.jobs[index]? = some job)
      (done : job.advance config before.deadLetters.length event = some progress) :
      Change config before (.proceed index event) (before.goOn index job progress)

theorem change_of_step (move : step config before label after) : Change config before label after := by
  cases label with
  | enqueueProviderCall operation =>
    cases move
    exact .enqueue operation
  | replayDeadLetter id =>
    cases move
    unfold Throttle.replayDeadLetter
    split
    · rename_i found
      exact .replay id _ found rfl
    · exact .refuse _
  | proceed index event =>
    simp only [step, Throttle.perform] at move
    split at move
    · cases move
    · rename_i job found
      obtain ⟨progress, done, rfl⟩ := Option.map_eq_some_iff.mp move
      exact .goOn index event job progress found done

section

variable (done : job.advance config entries event = some progress)

include done

theorem pending_of_advance (clean : event.isClean = true) :
    progress.phase.isPending.toNat + progress.executed.toNat ≤ job.phase.isPending.toNat := by
  unfold Job.advance at done
  cases event with
  | run executed thrown =>
    simp only at done
    split at done <;> cases done
    rename_i attemptsMade running
    rw [running]
    cases thrown with
    | none =>
      have idle : (afterRun config job (attemptsMade + 1) none).isPending = false := by
        simp only [afterRun]
        split <;> rfl
      rw [idle, Bool.toNat_false, Nat.zero_add]
      exact Bool.toNat_le _
    | some message =>
      obtain rfl : executed = false := by simpa [Event.isClean] using clean
      exact Bool.toNat_le _
  | queueDepth depth =>
    simp only at done
    split at done <;> cases done
    rename_i checking
    rw [checking]
    exact Bool.toNat_le _
  | add accepted =>
    simp only at done
    split at done <;> cases done
    rename_i adding
    rw [adding]
    exact Bool.toNat_le _
  | _ => grind [Phase.isPending]

theorem open_of_advance : progress.phase.isOpen.toNat + progress.captured.isSome.toNat ≤ job.phase.isOpen.toNat := by
  unfold Job.advance at done
  cases event with
  | run executed thrown =>
    simp only at done
    split at done <;> cases done
    rename_i attemptsMade running
    rw [running]
    exact Bool.toNat_le _
  | queueDepth depth =>
    simp only at done
    split at done <;> cases done
    rename_i checking
    rw [checking]
    exact Bool.toNat_le _
  | add accepted =>
    simp only at done
    split at done <;> cases done
    rename_i adding
    rw [adding]
    exact Bool.toNat_le _
  | moveToDeadLetter persisted | _ => grind [Phase.isOpen, Phase.isPending]

theorem place_of_advance (sound : event.isSound = true) (submitted : job.replays = none) : progress.removed = none ∧
      progress.phase.isOpen.toNat + progress.executed.toNat + progress.captured.isSome.toNat =
        job.phase.isOpen.toNat := by
  unfold Job.advance at done
  cases event with
  | run executed thrown =>
    simp only at done
    split at done <;> cases done
    rename_i attemptsMade running
    rw [running]
    refine ⟨rfl, ?_⟩
    cases thrown with
    | none =>
      obtain rfl : executed = true := by simpa [Event.isSound] using sound
      simp [afterRun, submitted, Phase.isOpen, Phase.isPending]
    | some message =>
      obtain rfl : executed = false := by simpa [Event.isSound] using sound
      by_cases left : attemptsMade + 1 < config.attempts <;> simp [afterRun, left, Phase.isOpen, Phase.isPending]
  | queueDepth depth => grind [Phase.isOpen, Phase.isPending]
  | add accepted =>
    obtain rfl : accepted = true := sound
    simp only at done
    split at done <;> cases done
    rename_i adding
    rw [adding]
    exact ⟨rfl, rfl⟩
  | moveToDeadLetter persisted =>
    obtain rfl : persisted = true := sound
    simp only at done
    split at done <;> cases done
    all_goals simp_all [Phase.isOpen, Phase.isPending]
  | _ => grind [Phase.isOpen, Phase.isPending]

theorem captures_of_advance (captured : progress.captured.isSome = true) : event.captures = true := by
  unfold Job.advance at done
  cases event with
  | moveToDeadLetter persisted =>
    simp only at done
    split at done <;> cases done
    all_goals
      cases persisted
      · cases captured
      · rfl
  | _ => grind

theorem removed_of_advance {id : ℕ} (removed : progress.removed = some id) : job.replays = some id := by
  unfold Job.advance at done
  cases event with
  | remove gone | _ => grind

end

/-- What is recorded is of calls that were submitted, and a replay is of the call of its dead letter. -/
structure Formed (throttle : Throttle) : Prop where
  jobs : ∀ job ∈ throttle.jobs, job.call < throttle.calls.length
  executions : ∀ call ∈ throttle.executions, call < throttle.calls.length
  deadLetters : ∀ entry ∈ throttle.deadLetters, entry.call < throttle.calls.length
  replays : ∀ job ∈ throttle.jobs, ∀ id, job.replays = some id →
    ∃ entry, throttle.deadLetters[id]? = some entry ∧ entry.call = job.call

theorem formed_initial : Formed .initial := by
  constructor
  · nofun
  · nofun
  · nofun
  · nofun

variable (deadLetters : List DeadLetterEntry)

theorem remove_call (removed : Option ℕ) (id : ℕ) :
    (Throttle.remove deadLetters removed)[id]?.map DeadLetterEntry.call = deadLetters[id]?.map DeadLetterEntry.call := by
  cases removed with
  | none => rfl
  | some other => grind [Throttle.remove, List.getElem?_modify]

variable {entry : DeadLetterEntry} {removed : Option ℕ}

section

variable (formed : Formed before)

include formed

theorem Formed.deadLetter_of_remove (member : entry ∈ Throttle.remove before.deadLetters removed) : entry.call < before.calls.length := by
  obtain ⟨id, found⟩ := List.mem_iff_getElem?.mp member
  have same := remove_call before.deadLetters removed id
  rw [found] at same
  obtain ⟨old, earlier, call⟩ := Option.map_eq_some_iff.mp same.symm
  rw [← call]
  exact formed.deadLetters old (List.mem_of_getElem? earlier)

theorem Formed.submitted (found : before.jobs[index]? = some job) : job.call < before.calls.length :=
  formed.jobs job (List.mem_of_getElem? found)

theorem Formed.goOn (found : before.jobs[index]? = some job) : Formed (before.goOn index job progress) := by
  have here := formed.submitted found
  constructor
  · exact forall_mem_set formed.jobs here
  · intro call member
    rcases List.mem_append.mp member with earlier | now
    · exact formed.executions call earlier
    · split at now
      · obtain rfl := List.mem_singleton.mp now
        exact here
      · cases now
  · intro entry member
    rcases List.mem_append.mp member with earlier | now
    · exact formed.deadLetter_of_remove earlier
    · obtain ⟨captured, _, rfl⟩ := List.mem_map.mp now
      exact here
  · intro other member id replayed
    have linked : ∃ entry, before.deadLetters[id]? = some entry ∧ entry.call = other.call := by
      rcases List.mem_or_eq_of_mem_set member with earlier | rfl
      · exact formed.replays other earlier id replayed
      · exact formed.replays job (List.mem_of_getElem? found) id replayed
    obtain ⟨old, there, call⟩ := linked
    have same := remove_call before.deadLetters progress.removed id
    rw [there] at same
    obtain ⟨entry, stays, kept⟩ := Option.map_eq_some_iff.mp same
    refine ⟨entry, ?_, kept.trans call⟩
    rw [Throttle.goOn, List.getElem?_append_left (List.getElem?_eq_some_iff.mp stays).1, stays]

theorem Formed.change (change : Change config before label after) : Formed after := by
  cases change with
  | enqueue operation =>
    have longer : before.calls.length < (before.calls ++ [operation]).length := by simp
    constructor
    · refine forall_mem_append_singleton (fun job earlier => Nat.lt_trans (formed.jobs job earlier) longer) ?_
      simp_all
    · intro call member
      exact Nat.lt_trans (formed.executions call member) longer
    · intro entry member
      exact Nat.lt_trans (formed.deadLetters entry member) longer
    · intro job member id replayed
      rcases List.mem_append.mp member with earlier | last
      · exact formed.replays job earlier id replayed
      · simp_all
  | replay id entry found held =>
    constructor
    · exact forall_mem_append_singleton formed.jobs (formed.deadLetters entry (List.mem_of_getElem? found))
    · exact formed.executions
    · exact formed.deadLetters
    · intro job member other replayed
      rcases List.mem_append.mp member with earlier | last
      · exact formed.replays job earlier other replayed
      · simp_all
  | refuse => exact formed
  | goOn index event job progress found done => exact formed.goOn found

theorem Formed.fresh : before.pending before.calls.length = 0 ∧
    before.inHand before.calls.length = 0 ∧ before.executed before.calls.length = 0 ∧
      before.held before.calls.length = 0 := by
  have apart : ∀ job ∈ before.jobs, job.call ≠ before.calls.length :=
    fun job member => Nat.ne_of_lt (formed.jobs job member)
  refine ⟨?_, ?_, ?_, ?_⟩
  · apply List.countP_eq_zero.mpr
    intro job member
    simp [Job.isPendingFor, apart job member]
  · apply List.countP_eq_zero.mpr
    intro job member
    simp [Job.isOpenFor, apart job member]
  · apply List.count_eq_zero.mpr
    intro member
    exact Nat.lt_irrefl _ (formed.executions _ member)
  · apply List.countP_eq_zero.mpr
    intro entry member
    simp [DeadLetterEntry.holds, Nat.ne_of_lt (formed.deadLetters entry member)]

end

theorem held_remove (removed : Option ℕ) (call : ℕ) :
    (Throttle.remove deadLetters removed).countP (DeadLetterEntry.holds call) ≤
      deadLetters.countP (DeadLetterEntry.holds call) := by
  cases removed with
  | none => exact Nat.le_refl _
  | some id =>
    rw [Throttle.remove]
    cases found : deadLetters[id]? with
    | none => simp_all [List.modify_eq_self]
    | some entry =>
      have counted := countP_set (DeadLetterEntry.holds call) found { entry with removed := true }
      rw [modify_eq_set_of_some found]
      simp only [DeadLetterEntry.holds, Bool.not_true, Bool.and_false, Bool.toNat_false] at counted ⊢
      omega

theorem held_remove_of_ne {deadLetters : List DeadLetterEntry}
    (apart : ∀ id entry, removed = some id → deadLetters[id]? = some entry → entry.call ≠ call) :
    (Throttle.remove deadLetters removed).countP (DeadLetterEntry.holds call) =
      deadLetters.countP (DeadLetterEntry.holds call) := by
  cases removed with
  | none => rfl
  | some id =>
    rw [Throttle.remove]
    cases found : deadLetters[id]? with
    | none => rw [List.modify_eq_self (by simpa using found)]
    | some entry => grind [modify_eq_set_of_some, DeadLetterEntry.holds]

theorem pending_start (before : Throttle) (calls : List Operation) (job : Job) (call : ℕ) :
    Throttle.pending { before with calls, jobs := before.jobs ++ [job] } call =
      before.pending call + (job.isPendingFor call).toNat := by
  rw [Throttle.pending, List.countP_append, Throttle.pending, List.countP_singleton]
  cases job.isPendingFor call <;> rfl

theorem inHand_start (before : Throttle) (calls : List Operation) (job : Job) (call : ℕ) :
    Throttle.inHand { before with calls, jobs := before.jobs ++ [job] } call =
      before.inHand call + (job.isOpenFor call).toNat := by
  rw [Throttle.inHand, List.countP_append, Throttle.inHand, List.countP_singleton]
  cases job.isOpenFor call <;> rfl

theorem pending_goOn (found : before.jobs[index]? = some job) (progress : Progress) (call : ℕ) :
    (before.goOn index job progress).pending call + (job.isPendingFor call).toNat =
      before.pending call + (Job.isPendingFor call { job with phase := progress.phase }).toNat :=
  countP_set _ found _

theorem inHand_goOn (found : before.jobs[index]? = some job) (progress : Progress) (call : ℕ) :
    (before.goOn index job progress).inHand call + (job.isOpenFor call).toNat =
      before.inHand call + (Job.isOpenFor call { job with phase := progress.phase }).toNat :=
  countP_set _ found _

theorem executed_goOn (before : Throttle) (index : ℕ) (job : Job) (progress : Progress) (call : ℕ) :
    (before.goOn index job progress).executed call =
      before.executed call + (decide (job.call = call) && progress.executed).toNat := by
  rw [Throttle.executed, Throttle.goOn, List.count_append, Throttle.executed]
  by_cases here : job.call = call <;> cases progress.executed <;> simp [here]

theorem held_goOn (before : Throttle) (index : ℕ) (job : Job) (progress : Progress) (call : ℕ) :
    (before.goOn index job progress).held call =
      (Throttle.remove before.deadLetters progress.removed).countP (DeadLetterEntry.holds call) +
        (decide (job.call = call) && progress.captured.isSome).toNat := by
  rw [Throttle.held, Throttle.goOn, List.countP_append]
  cases progress.captured with
  | none => simp
  | some captured => by_cases here : job.call = call <;> simp [DeadLetterEntry.holds, here]

/-- A call that is pending was not executed, and has one job pending. -/
def Once (throttle : Throttle) (call : ℕ) : Prop :=
  throttle.pending call + throttle.executed call ≤ 1

theorem Once.change (once : Once before call) (formed : Formed before) (change : Change config before label after)
    (kind : isOnce call before label = true) : Once after call := by
  obtain ⟨proceeds, replays⟩ := Bool.and_eq_true_iff.mp kind
  cases change with
  | enqueue operation =>
    rw [Once, pending_start]
    change before.pending call + _ + before.executed call ≤ 1
    by_cases here : call = before.calls.length
    · obtain ⟨pending, _, executed, _⟩ := formed.fresh
      rw [here, pending, executed, Nat.zero_add, Nat.add_zero]
      exact Bool.toNat_le _
    · rw [Job.isPendingFor, decide_eq_false (Ne.symm here)]
      exact once
  | replay id entry found held =>
    rw [Once, pending_start before before.calls]
    change before.pending call + _ + before.executed call ≤ 1
    by_cases here : entry.call = call
    · have idle : before.pending call + before.executed call = 0 := by
        simpa [Throttle.replaying, found, held, here] using replays
      have one := Bool.toNat_le (Job.isPendingFor call ⟨entry.call, some id, .adding⟩)
      omega
    · rw [Job.isPendingFor, decide_eq_false here]
      exact once
  | refuse => exact once
  | goOn index event job progress found done =>
    have pending := pending_goOn found progress call
    rw [Once, executed_goOn]
    rw [Once] at once
    by_cases here : job.call = call
    · have clean : event.isClean = true := by
        simpa [Throttle.proceeding, found, here] using proceeds
      have advance := pending_of_advance done clean
      simp only [Job.isPendingFor, here, decide_true, Bool.true_and] at pending ⊢
      omega
    · simp only [Job.isPendingFor, here, decide_false, Bool.false_and, Bool.toNat_false, Nat.add_zero] at pending ⊢
      rw [pending]
      exact once

/-- The job of the caller, and no replay, is open for the call. -/
def Job.isFirstFor (call : ℕ) (job : Job) : Bool :=
  job.isOpenFor call && job.replays.isNone

def Throttle.first (throttle : Throttle) (call : ℕ) : ℕ :=
  throttle.jobs.countP (Job.isFirstFor call)

theorem first_start (before : Throttle) (calls : List Operation) (job : Job) (call : ℕ) :
    Throttle.first { before with calls, jobs := before.jobs ++ [job] } call =
      before.first call + (job.isFirstFor call).toNat := by
  rw [Throttle.first, List.countP_append, Throttle.first, List.countP_singleton]
  cases job.isFirstFor call <;> rfl

theorem first_goOn (found : before.jobs[index]? = some job) (progress : Progress) (call : ℕ) :
    (before.goOn index job progress).first call + (job.isFirstFor call).toNat =
      before.first call + (Job.isFirstFor call { job with phase := progress.phase }).toNat :=
  countP_set _ found _

theorem first_of_open {phase : Phase} (closes : phase.isOpen.toNat ≤ job.phase.isOpen.toNat) :
    (Job.isFirstFor call { job with phase }).toNat ≤ (job.isFirstFor call).toNat := by
  simp only [Job.isFirstFor, Job.isOpenFor]
  by_cases here : job.call = call
  · cases replays : job.replays with
    | none => simpa [here, replays] using closes
    | some id => simp
  · simp [here]

/-- A dead letter at most holds the call, once its caller's job is no longer open. -/
structure Single (throttle : Throttle) (call : ℕ) : Prop where
  one : throttle.first call + throttle.held call ≤ 1
  replayed : ∀ job ∈ throttle.jobs, job.call = call → job.replays.isSome = true → throttle.first call = 0

theorem Single.enqueue (single : Single before call) (formed : Formed before) (operation : Operation) :
    Single { before with
      calls := before.calls ++ [operation]
      jobs := before.jobs ++ [⟨before.calls.length, none, .checking⟩] } call := by
  by_cases here : call = before.calls.length
  · have fresh : before.first call = 0 := by
      apply List.countP_eq_zero.mpr
      intro job member
      simp [Job.isFirstFor, Job.isOpenFor, here, Nat.ne_of_lt (formed.jobs job member)]
    obtain ⟨_, _, _, held⟩ := formed.fresh
    constructor
    · rw [first_start, fresh, Nat.zero_add]
      change _ + before.held call ≤ 1
      rw [here, held]
      exact Bool.toNat_le _
    · intro job member same replayed
      rcases List.mem_append.mp member with earlier | last
      · exact absurd (same.trans here) (Nat.ne_of_lt (formed.jobs job earlier))
      · simp_all
  · have idle : Job.isFirstFor call ⟨before.calls.length, none, .checking⟩ = false := by
      simp [Job.isFirstFor, Job.isOpenFor, Ne.symm here]
    constructor
    · rw [first_start, idle]
      exact single.one
    · intro job member same replayed
      rw [first_start, idle]
      rcases List.mem_append.mp member with earlier | last
      · exact single.replayed job earlier same replayed
      · simp_all

variable {id : ℕ}

theorem Single.replay (single : Single before call)
    (found : before.deadLetters[id]? = some entry) (held : entry.removed = false) :
    Single { before with jobs := before.jobs ++ [⟨entry.call, some id, .adding⟩] } call := by
  have idle : Job.isFirstFor call ⟨entry.call, some id, .adding⟩ = false := by simp [Job.isFirstFor]
  constructor
  · rw [first_start before before.calls, idle]
    exact single.one
  · intro job member same replayed
    rw [first_start before before.calls, idle]
    rcases List.mem_append.mp member with earlier | last
    · exact single.replayed job earlier same replayed
    · obtain rfl := List.mem_singleton.mp last
      have holds : 0 < before.held call :=
        List.countP_pos_iff.mpr ⟨entry, List.mem_of_getElem? found, by simpa [DeadLetterEntry.holds, held] using same⟩
      have one := single.one
      change before.first call = 0
      omega

theorem Single.goOn (single : Single before call) (found : before.jobs[index]? = some job)
    (done : job.advance config before.deadLetters.length event = some progress)
    (kind : isSingle call before (.proceed index event) = true) : Single (before.goOn index job progress) call := by
  have first := first_goOn found progress call
  have kept := held_remove before.deadLetters progress.removed call
  have advance := open_of_advance done
  have one := single.one
  have less : (before.goOn index job progress).first call ≤ before.first call := by
    have closes : (Job.isFirstFor call { job with phase := progress.phase }).toNat ≤ (job.isFirstFor call).toNat :=
      first_of_open (Nat.le_trans (Nat.le_add_right _ _) advance)
    omega
  constructor
  · rw [held_goOn]
    change List.countP _ _ ≤ before.held call at kept
    by_cases here : job.call = call
    · cases replays : job.replays.isNone with
      | true =>
        simp only [Job.isFirstFor, Job.isOpenFor, here, replays, decide_true, Bool.true_and, Bool.and_true] at first ⊢
        omega
      | false =>
        have none := single.replayed job (List.mem_of_getElem? found) here (by simpa using replays)
        cases captured : progress.captured.isSome with
        | true => grind [isSingle, Throttle.proceeding, captures_of_advance]
        | false =>
          rw [Bool.and_false, Bool.toNat_false]
          omega
    · grind
  · intro other member same replayed
    have earlier : before.first call = 0 := by
      rcases List.mem_or_eq_of_mem_set member with there | rfl
      · exact single.replayed other there same replayed
      · exact single.replayed job (List.mem_of_getElem? found) same replayed
    omega

theorem Single.change (single : Single before call) (formed : Formed before) (change : Change config before label after)
    (kind : isSingle call before label = true) : Single after call := by
  cases change with
  | enqueue operation => exact single.enqueue formed operation
  | replay id entry found held => exact single.replay found held
  | refuse => exact single
  | goOn index event job progress found done => exact single.goOn found done kind

/-- A call that is never replayed is in one place from the time it is submitted. -/
structure Conserving (throttle : Throttle) (call : ℕ) : Prop where
  conserved : call < throttle.calls.length → Conserved throttle call
  submitted : ∀ job ∈ throttle.jobs, job.call = call → job.replays = none

section

variable (conserving : Conserving before call)

include conserving

theorem Conserving.enqueue (formed : Formed before) (operation : Operation) : Conserving { before with
      calls := before.calls ++ [operation]
      jobs := before.jobs ++ [⟨before.calls.length, none, .checking⟩] } call := by
  constructor
  · intro submitted
    rw [Conserved, inHand_start]
    change before.inHand call + _ + before.executed call + before.held call = 1
    by_cases here : call = before.calls.length
    · obtain ⟨_, inHand, executed, held⟩ := formed.fresh
      rw [here, inHand, executed, held]
      simp [Job.isOpenFor, Phase.isOpen, Phase.isPending]
    · rw [Job.isOpenFor, decide_eq_false (Ne.symm here)]
      apply conserving.conserved
      rw [List.length_append, List.length_singleton] at submitted
      omega
  · intro job member same
    rcases List.mem_append.mp member with earlier | last
    · exact conserving.submitted job earlier same
    · simp_all

theorem Conserving.replay (apart : entry.call ≠ call) :
    Conserving { before with jobs := before.jobs ++ [⟨entry.call, some id, .adding⟩] } call := by
  constructor
  · intro submitted
    rw [Conserved, inHand_start before before.calls, Job.isOpenFor, decide_eq_false apart]
    exact conserving.conserved submitted
  · intro job member same
    rcases List.mem_append.mp member with earlier | last
    · exact conserving.submitted job earlier same
    · simp_all

theorem Conserving.goOn (formed : Formed before) (found : before.jobs[index]? = some job)
    (done : job.advance config before.deadLetters.length event = some progress)
    (kind : isConserving call before (.proceed index event) = true) :
    Conserving (before.goOn index job progress) call := by
  have inHand := inHand_goOn found progress call
  constructor
  · intro submitted
    have conserved := conserving.conserved submitted
    rw [Conserved, executed_goOn, held_goOn]
    rw [Conserved] at conserved
    by_cases here : job.call = call
    · have sound : event.isSound = true := by
        simpa [isConserving, Throttle.proceeding, Throttle.replaying, found, here] using kind
      obtain ⟨stays, place⟩ :=
        place_of_advance done sound (conserving.submitted job (List.mem_of_getElem? found) here)
      rw [stays]
      change _ + (before.held call + _) = 1
      simp only [Job.isOpenFor, here, decide_true, Bool.true_and] at inHand ⊢
      omega
    · have kept : (Throttle.remove before.deadLetters progress.removed).countP (DeadLetterEntry.holds call) =
          before.held call := by
        apply held_remove_of_ne
        intro id entry removed there
        obtain ⟨linked, same, call⟩ := formed.replays job (List.mem_of_getElem? found) id (removed_of_advance done removed)
        rw [there] at same
        cases same
        rw [call]
        exact here
      rw [kept]
      simp only [Job.isOpenFor, here, decide_false, Bool.false_and, Bool.toNat_false, Nat.add_zero] at inHand ⊢
      rw [inHand]
      exact conserved
  · intro other member same
    rcases List.mem_or_eq_of_mem_set member with earlier | rfl
    · exact conserving.submitted other earlier same
    · exact conserving.submitted job (List.mem_of_getElem? found) same

theorem Conserving.change (formed : Formed before)
    (change : Change config before label after) (kind : isConserving call before label = true) :
    Conserving after call := by
  cases change with
  | enqueue operation => exact conserving.enqueue formed operation
  | replay id entry found held =>
    apply conserving.replay
    simpa [isConserving, Throttle.proceeding, Throttle.replaying, found, held] using kind
  | refuse => exact conserving
  | goOn index event job progress found done => exact conserving.goOn formed found done kind

end

theorem call_follows (run : Run (step config) .initial trace last) (call : ℕ) :
    (Throughout (step config) .initial (fun before label _ => isOnce call before label = true) trace →
      last.executed call ≤ 1) ∧
    (Throughout (step config) .initial (fun before label _ => isSingle call before label = true) trace →
      last.held call ≤ 1) ∧
    (Throughout (step config) .initial (fun before label _ => isConserving call before label = true) trace →
      call < last.calls.length → Conserved last call) := by
  refine ⟨?_, ?_, ?_⟩
  · intro every
    have kept : Formed last ∧ Once last call := by
      apply run.kept every
      · exact ⟨formed_initial, Nat.zero_le _⟩
      · intro before label after ⟨formed, once⟩ move kind
        have change := change_of_step move
        exact ⟨formed.change change, once.change formed change kind⟩
    exact Nat.le_trans (Nat.le_add_left _ _) kept.2
  · intro every
    have kept : Formed last ∧ Single last call := by
      apply run.kept every
      · refine ⟨formed_initial, Nat.zero_le _, ?_⟩
        intro job member
        cases member
      · intro before label after ⟨formed, single⟩ move kind
        have change := change_of_step move
        exact ⟨formed.change change, single.change formed change kind⟩
    exact Nat.le_trans (Nat.le_add_left _ _) kept.2.one
  · intro every
    have kept : Formed last ∧ Conserving last call := by
      apply run.kept every
      · refine ⟨formed_initial, ?_, ?_⟩
        · intro submitted
          cases submitted
        · intro job member
          cases member
      · intro before label after ⟨formed, conserving⟩ move kind
        have change := change_of_step move
        exact ⟨formed.change change, conserving.change formed change kind⟩
    exact kept.2.conserved

/-- A bound of two jobs, and one retry. -/
def configSample : Config :=
  ⟨2, 2⟩

/-- A payout that fails both times, without being executed. -/
def failedPayout : List Label :=
  [.enqueueProviderCall .payout, .proceed 0 (.queueDepth 0), .proceed 0 (.add true), .proceed 0 .start,
    .proceed 0 (.run false (some none)), .proceed 0 .start, .proceed 0 (.run false (some (some "timeout"))),
    .proceed 0 (.moveToDeadLetter true)]

/-- Its dead letter is replayed. -/
def replayedPayout : List Label :=
  failedPayout ++ [.replayDeadLetter 0, .proceed 1 (.add true), .proceed 1 .start, .proceed 1 (.run true none),
    .proceed 1 (.remove true)]

theorem replayedPayout_follows : (∃ last : Throttle, last.executions = [0] ∧ last.executed 0 ≤ 1 ∧ last.held 0 ≤ 1) ∧
    ∃ last : Throttle, last.deadLetters = [⟨0, "timeout", 2, false⟩] ∧ Conserved last 0 := by
  constructor
  · have followed : (replayedPayout.foldlM (Throttle.perform configSample) .initial).map Throttle.executions =
        some [0] := by decide
    obtain ⟨last, reached, executions⟩ := Option.map_eq_some_iff.mp followed
    obtain ⟨once, single, _⟩ := call_follows (Run.follow reached) 0
    refine ⟨last, executions, ?_, ?_⟩
    · exact once (throughout_follow (by decide))
    · exact single (throughout_follow (by decide))
  · have followed : (failedPayout.foldlM (Throttle.perform configSample) .initial).map (fun throttle =>
        (throttle.deadLetters, throttle.calls)) = some ([⟨0, "timeout", 2, false⟩], [.payout]) := by decide
    obtain ⟨last, reached, same⟩ := Option.map_eq_some_iff.mp followed
    obtain ⟨deadLetters, calls⟩ := Prod.mk.inj same
    obtain ⟨_, _, conserved⟩ := call_follows (Run.follow reached) 0
    refine ⟨last, deadLetters, ?_⟩
    apply conserved (throughout_follow (by decide))
    rw [calls]
    exact Nat.zero_lt_one

/-- The provider executes a payout and its answer is lost; the retry executes it again. -/
def lostAnswer : List Label :=
  [.enqueueProviderCall .payout, .proceed 0 (.queueDepth 0), .proceed 0 (.add true), .proceed 0 .start,
    .proceed 0 (.run true (some (some "socket hang up"))), .proceed 0 .start, .proceed 0 (.run true none)]

theorem lostAnswer_not_conserved : ¬∀ (config : Config) (trace : List Label) (last : Throttle),
    Run (step config) .initial trace last → ∀ (call : ℕ) operation, last.calls[call]? = some operation →
      operation ≠ .payment → last.executed call ≤ 1 ∧ Conserved last call := by
  intro always
  have followed : (lostAnswer.foldlM (Throttle.perform configSample) .initial).map (fun throttle =>
      (throttle.executed 0, throttle.calls)) = some (2, [.payout]) := by decide
  obtain ⟨last, reached, same⟩ := Option.map_eq_some_iff.mp followed
  obtain ⟨executed, calls⟩ := Prod.mk.inj same
  have once := (always configSample lostAnswer last (Run.follow reached) 0 .payout (by rw [calls]; rfl) (by decide)).1
  rw [executed] at once
  exact absurd once (by decide)

end ProxyPay.ProviderThrottle
