import ProxyPay.Library.Transition

/-! The circuit breaker of outbound webhooks: one record per destination, moved by the
outcomes of deliveries and by the clock. -/

namespace ProxyPay.Webhook

open ProxyPay.Library

inductive CircuitState where
  | closed
  | «open»
  | halfOpen
  deriving DecidableEq

/-- What `acquirePermission` answers: the state under which the caller may deliver, where
`open` means that it may not. -/
abbrev CircuitPermission := CircuitState

/-- The options of a breaker, after their defaults have been filled in. -/
structure Config where
  failureThreshold : Nat
  recoveryAfterMs : Nat
  threshold_pos : 0 < failureThreshold
  recovery_pos : 0 < recoveryAfterMs

/-- The readings of the clock that one call makes, in order. -/
structure Readings where
  first : Int
  second : Int
  ordered : first ≤ second

/-- The readings of a call that takes no time. -/
def Readings.once (now : Int) : Readings := ⟨now, now, Int.le_refl now⟩

/-- One failure opens the breaker, for ten milliseconds. -/
def Config.sample : Config := ⟨1, 10, by decide, by decide⟩

structure BreakerRecord where
  state : CircuitState
  consecutiveFailures : Nat
  totalFailures : Nat
  totalSuccesses : Nat
  openedAt : Option Int
  lastFailureAt : Option Int
  lastSuccessAt : Option Int
  lastError : Option String
  probeInFlight : Bool
  deriving DecidableEq

namespace BreakerRecord

def fresh : BreakerRecord where
  state := .closed
  consecutiveFailures := 0
  totalFailures := 0
  totalSuccesses := 0
  openedAt := none
  lastFailureAt := none
  lastSuccessAt := none
  lastError := none
  probeInFlight := false

def transition (entry : BreakerRecord) (next : CircuitState) (now : Int) : BreakerRecord :=
  if entry.state = next then entry
  else match next with
    | .open => { entry with state := .open, openedAt := some now }
    | .closed =>
      { entry with state := .closed, consecutiveFailures := 0, openedAt := none, probeInFlight := false }
    | .halfOpen => { entry with state := .halfOpen }

/-- Moves an expired `open` breaker to `halfOpen`. -/
def maybeHalfOpen (config : Config) (entry : BreakerRecord) (now : Int) : BreakerRecord :=
  match entry.state, entry.openedAt with
  | .open, some openedAt =>
    if now - openedAt < config.recoveryAfterMs then entry else entry.transition .halfOpen now
  | _, _ => entry

def acquirePermission (config : Config) (entry : BreakerRecord) (now : Int) : CircuitPermission × BreakerRecord :=
  let entry := entry.maybeHalfOpen config now
  match entry.state with
  | .open => (.open, entry)
  | .halfOpen =>
    if entry.probeInFlight then (.open, entry)
    else (.halfOpen, { entry with probeInFlight := true })
  | .closed => (.closed, entry)

def recordSuccess (entry : BreakerRecord) (clock : Readings) : BreakerRecord :=
  let entry :=
    { entry with
      totalSuccesses := entry.totalSuccesses + 1, lastSuccessAt := some clock.first, lastError := none }
  if entry.state = .halfOpen then entry.transition .closed clock.second
  else { entry with consecutiveFailures := 0 }

def recordFailure (config : Config) (entry : BreakerRecord) (error : Option String)
    (wasProbe : Bool) (clock : Readings) : BreakerRecord :=
  let entry :=
    { entry with
      totalFailures := entry.totalFailures + 1
      consecutiveFailures := entry.consecutiveFailures + 1
      lastFailureAt := some clock.first
      lastError := error }
  if entry.state = .halfOpen then
    { entry with probeInFlight := false }.transition .open clock.second
  else if entry.state = .closed ∧ config.failureThreshold ≤ entry.consecutiveFailures then
    entry.transition .open clock.second
  else if wasProbe ∧ entry.state = .open ∧ config.failureThreshold ≤ entry.consecutiveFailures then
    -- The breaker is open already: `transition` does nothing here.
    entry.transition .open clock.second
  else entry

def reset (entry : BreakerRecord) (now : Int) : BreakerRecord :=
  { entry with
    consecutiveFailures := 0, openedAt := none, probeInFlight := false, lastError := none }.transition
      .closed now

end BreakerRecord

/-- The records of all destinations, as the process keeps them in a `Map`. -/
abbrev Breakers := String → Option BreakerRecord

def Breakers.empty : Breakers := fun _ => none

/-- The record of a destination; a missing one is created. -/
def Breakers.record (breakers : Breakers) (url : String) : BreakerRecord :=
  (breakers url).getD .fresh

def Breakers.put (breakers : Breakers) (url : String) (entry : BreakerRecord) : Breakers :=
  fun other => if other = url then some entry else breakers other

@[simp] theorem Breakers.record_put_self (breakers : Breakers) (url : String) (entry : BreakerRecord) :
    (breakers.put url entry).record url = entry := by
  simp [Breakers.record, Breakers.put]

@[simp] theorem Breakers.record_empty (url : String) : Breakers.empty.record url = .fresh := rfl

def acquirePermission (config : Config) (breakers : Breakers) (url : String) (now : Int) :
    CircuitPermission × Breakers :=
  let acquired := (breakers.record url).acquirePermission config now
  (acquired.1, breakers.put url acquired.2)

def recordSuccess (breakers : Breakers) (url : String) (clock : Readings) : Breakers :=
  breakers.put url ((breakers.record url).recordSuccess clock)

def recordFailure (config : Config) (breakers : Breakers) (url : String) (error : Option String)
    (wasProbe : Bool) (clock : Readings) : Breakers :=
  breakers.put url ((breakers.record url).recordFailure config error wasProbe clock)

def reset (breakers : Breakers) (url : String) (now : Int) : Breakers :=
  breakers.put url ((breakers.record url).reset now)

/-- A destination as the admin endpoint shows it. Times stay in milliseconds. -/
structure CircuitBreakerSnapshot where
  url : String
  state : CircuitState
  consecutiveFailures : Nat
  totalFailures : Nat
  totalSuccesses : Nat
  failureThreshold : Nat
  recoveryAfterMs : Nat
  openedAt : Option Int
  nextProbeAt : Option Int
  lastFailureAt : Option Int
  lastSuccessAt : Option Int
  lastError : Option String
  probeInFlight : Bool
  deriving DecidableEq

def snapshot (config : Config) (breakers : Breakers) (url : String) : CircuitBreakerSnapshot :=
  let entry := breakers.record url
  { url
    state := entry.state
    consecutiveFailures := entry.consecutiveFailures
    totalFailures := entry.totalFailures
    totalSuccesses := entry.totalSuccesses
    failureThreshold := config.failureThreshold
    recoveryAfterMs := config.recoveryAfterMs
    openedAt := entry.openedAt
    nextProbeAt := if entry.state = .open then entry.openedAt.map (· + config.recoveryAfterMs) else none
    lastFailureAt := entry.lastFailureAt
    lastSuccessAt := entry.lastSuccessAt
    lastError := entry.lastError
    probeInFlight := entry.probeInFlight }

end ProxyPay.Webhook

/-! What the fields of a record say about the calls made so far. -/

namespace ProxyPay.Webhook

open ProxyPay.Library

inductive Call where
  | acquirePermission
  | recordSuccess
  | recordFailure (error : Option String) (wasProbe : Bool)
  | reset
  deriving DecidableEq

/-- A call for one destination, with the readings of the clock that it made. -/
structure Event where
  url : String
  call : Call
  clock : Readings

def BreakerRecord.answer (config : Config) (entry : BreakerRecord) (clock : Readings) : Call → BreakerRecord
  | .acquirePermission => (entry.acquirePermission config clock.first).2
  | .recordSuccess => entry.recordSuccess clock
  | .recordFailure error wasProbe => entry.recordFailure config error wasProbe clock
  | .reset => entry.reset clock.first

def perform (config : Config) (breakers : Breakers) (event : Event) : Breakers :=
  match event.call with
  | .acquirePermission => (acquirePermission config breakers event.url event.clock.first).2
  | .recordSuccess => recordSuccess breakers event.url event.clock
  | .recordFailure error wasProbe =>
    recordFailure config breakers event.url error wasProbe event.clock
  | .reset => reset breakers event.url event.clock.first

/-- The records after a list of calls. -/
def replay (config : Config) (events : List Event) : Breakers :=
  events.foldl (perform config) .empty

/-- The records, and the last reading of the clock. -/
structure System where
  breakers : Breakers
  clock : Int

/-- A call is made on a clock that never goes back. -/
def System.Step (config : Config) (before : System) (event : Event) (after : System) : Prop :=
  before.clock ≤ event.clock.first ∧
    after = ⟨perform config before.breakers event, event.clock.second⟩

namespace BreakerRecord

variable {config : Config} {entry : BreakerRecord} {clock : Readings} {call : Call}

/-- The relations between the fields of a record. -/
structure Coherent (config : Config) (entry : BreakerRecord) : Prop where
  closed : entry.state = .closed → entry.probeInFlight = false ∧ entry.openedAt = none ∧
    entry.consecutiveFailures < config.failureThreshold
  opened : entry.state = .open → entry.probeInFlight = false ∧ entry.openedAt.isSome
  halfOpen : entry.state = .halfOpen → entry.probeInFlight = true

theorem coherent_fresh : fresh.Coherent config :=
  ⟨fun _ => ⟨rfl, rfl, config.threshold_pos⟩, nofun, nofun⟩

/-- The breaker is open and its recovery period is over. -/
def Expired (config : Config) (entry : BreakerRecord) (now : Int) : Prop :=
  entry.state = .open ∧
    ∃ openedAt, entry.openedAt = some openedAt ∧ (config.recoveryAfterMs : Int) ≤ now - openedAt

theorem maybeHalfOpen_expired {now : Int} (expired : entry.Expired config now) :
    entry.maybeHalfOpen config now = { entry with state := .halfOpen } := by
  obtain ⟨state, openedAt, opened, late⟩ := expired
  simp [maybeHalfOpen, state, opened, transition, Int.not_lt.mpr late]

theorem maybeHalfOpen_current {now : Int} (current : ¬ entry.Expired config now) :
    entry.maybeHalfOpen config now = entry := by
  unfold maybeHalfOpen
  split
  · next openedAt state opened =>
    by_cases early : now - openedAt < config.recoveryAfterMs
    · simp [early]
    · exact absurd ⟨state, openedAt, opened, Int.not_lt.mp early⟩ current
  · rfl

theorem acquire_cases (coherent : entry.Coherent config) (now : Int) :
    (entry.Expired config now ∧ entry.acquirePermission config now =
      (.halfOpen, { entry with state := .halfOpen, probeInFlight := true })) ∨
    (¬ entry.Expired config now ∧ entry.acquirePermission config now =
      (if entry.state = .closed then .closed else .open, entry)) := by
  by_cases expired : entry.Expired config now
  · left
    refine ⟨expired, ?_⟩
    simp [acquirePermission, maybeHalfOpen_expired expired, (coherent.opened expired.1).1]
  · right
    refine ⟨expired, ?_⟩
    unfold acquirePermission
    rw [maybeHalfOpen_current expired]
    cases state : entry.state with
    | closed | «open» => simp [state]
    | halfOpen => simp [state, coherent.halfOpen state]

theorem coherent_acquire (coherent : entry.Coherent config) (now : Int) :
    (entry.acquirePermission config now).2.Coherent config := by
  rcases acquire_cases coherent now with ⟨_, admitted⟩ | ⟨_, unchanged⟩
  · rw [admitted]
    exact ⟨nofun, nofun, fun _ => rfl⟩
  · rw [unchanged]
    exact coherent

theorem coherent_success (coherent : entry.Coherent config) : (entry.recordSuccess clock).Coherent config := by
  cases state : entry.state <;> simp only [recordSuccess, transition, state]
  · exact ⟨fun _ => ⟨(coherent.closed state).1, (coherent.closed state).2.1, config.threshold_pos⟩,
      nofun, nofun⟩
  · exact ⟨nofun, fun _ => coherent.opened state, nofun⟩
  · exact ⟨fun _ => ⟨rfl, rfl, config.threshold_pos⟩, nofun, nofun⟩

/-- The record with a failure counted, before any change of state. -/
def failed (entry : BreakerRecord) (error : Option String) (clock : Readings) : BreakerRecord :=
  { entry with
    totalFailures := entry.totalFailures + 1
    consecutiveFailures := entry.consecutiveFailures + 1
    lastFailureAt := some clock.first
    lastError := error }

theorem failure_closed (state : entry.state = .closed) (error : Option String) (wasProbe : Bool) :
    entry.recordFailure config error wasProbe clock =
      if config.failureThreshold ≤ entry.consecutiveFailures + 1 then
        { entry.failed error clock with state := .open, openedAt := some clock.second }
      else entry.failed error clock := by
  by_cases reached : config.failureThreshold ≤ entry.consecutiveFailures + 1 <;>
    simp [recordFailure, transition, failed, state, reached]

theorem failure_open (state : entry.state = .open) (error : Option String) (wasProbe : Bool) :
    entry.recordFailure config error wasProbe clock = entry.failed error clock := by
  simp [recordFailure, transition, failed, state]

theorem failure_halfOpen (state : entry.state = .halfOpen) (error : Option String) (wasProbe : Bool) :
    entry.recordFailure config error wasProbe clock = { entry.failed error clock with
        state := .open, openedAt := some clock.second, probeInFlight := false } := by
  simp [recordFailure, transition, failed, state]

theorem coherent_failure (coherent : entry.Coherent config) (error : Option String)
    (wasProbe : Bool) : (entry.recordFailure config error wasProbe clock).Coherent config := by
  cases state : entry.state with
  | closed =>
    rw [failure_closed state]
    by_cases reached : config.failureThreshold ≤ entry.consecutiveFailures + 1
    · rw [if_pos reached]
      exact ⟨nofun, fun _ => ⟨(coherent.closed state).1, rfl⟩, nofun⟩
    · rw [if_neg reached]
      refine ⟨fun _ => ?_, ?_, ?_⟩
      · exact ⟨(coherent.closed state).1, (coherent.closed state).2.1, Nat.not_le.mp reached⟩
      · exact fun opened => coherent.opened opened
      · exact fun half => coherent.halfOpen half
  | «open» =>
    rw [failure_open state]
    refine ⟨?_, fun _ => coherent.opened state, ?_⟩ <;> simp [failed, state]
  | halfOpen =>
    rw [failure_halfOpen state]
    exact ⟨nofun, fun _ => ⟨rfl, rfl⟩, nofun⟩

theorem coherent_reset (now : Int) : (entry.reset now).Coherent config := by
  cases state : entry.state <;> simp only [reset, transition, state] <;>
    exact ⟨fun _ => ⟨rfl, rfl, config.threshold_pos⟩, nofun, nofun⟩

section

variable (coherent : entry.Coherent config)

include coherent

theorem coherent_answer (clock : Readings) (call : Call) : (entry.answer config clock call).Coherent config := by
  cases call with
  | acquirePermission => exact coherent_acquire coherent _
  | recordSuccess => exact coherent_success coherent
  | recordFailure error wasProbe => exact coherent_failure coherent error wasProbe
  | reset => exact coherent_reset _

theorem answer_opens (shut : entry.state ≠ .open) (opened : (entry.answer config clock call).state = .open) :
    (entry.answer config clock call).openedAt = some clock.second := by
  cases call with
  | acquirePermission =>
    simp only [answer] at opened ⊢
    rcases acquire_cases coherent clock.first with ⟨expired, _⟩ | ⟨_, unchanged⟩
    · exact absurd expired.1 shut
    · simp_all
  | recordSuccess => cases state : entry.state <;> simp_all [answer, recordSuccess, transition]
  | recordFailure error wasProbe =>
    cases state : entry.state with
    | closed =>
      simp only [answer, failure_closed state] at opened ⊢
      split at opened
      · next reached => rw [if_pos reached]
      · exact absurd (opened.symm.trans state) nofun
    | «open» => exact absurd state shut
    | halfOpen => simp [answer, failure_halfOpen state]
  | reset => cases state : entry.state <;> simp_all [answer, reset, transition]

theorem answer_stays_open (already : entry.state = .open) (opened : (entry.answer config clock call).state = .open) :
    (entry.answer config clock call).openedAt = entry.openedAt := by
  cases call with
  | acquirePermission =>
    simp only [answer] at opened ⊢
    rcases acquire_cases coherent clock.first with ⟨_, admitted⟩ | ⟨_, unchanged⟩
    · rw [admitted] at opened
      cases opened
    · rw [unchanged]
  | recordSuccess => simp [answer, recordSuccess, already]
  | recordFailure error wasProbe => simp [answer, failure_open already, failed, already]
  | reset => simp [answer, reset, transition, already] at opened

theorem answer_recovering {openedAt : Int} (already : entry.state = .open) (since : entry.openedAt = some openedAt)
    (early : clock.first - openedAt < config.recoveryAfterMs) (kept : call ≠ .reset) :
    (entry.answer config clock call).state = .open := by
  cases call with
  | acquirePermission =>
    simp only [answer]
    rcases acquire_cases coherent clock.first with ⟨⟨_, time, same, late⟩, _⟩ | ⟨_, unchanged⟩
    · rw [since] at same
      cases same
      omega
    · rw [unchanged]
      exact already
  | recordSuccess => simp [answer, recordSuccess, already]
  | recordFailure error wasProbe => simp [answer, failure_open already, failed, already]
  | reset => exact absurd rfl kept

end

def isFailure : Call → Bool
  | .recordFailure .. => true
  | _ => false

def isSuccess : Call → Bool
  | .recordSuccess => true
  | _ => false

theorem transition_totals (entry : BreakerRecord) (next : CircuitState) (now : Int) :
    (entry.transition next now).totalFailures = entry.totalFailures ∧
      (entry.transition next now).totalSuccesses = entry.totalSuccesses := by
  unfold transition
  split
  · exact ⟨rfl, rfl⟩
  · split <;> exact ⟨rfl, rfl⟩

theorem answer_totals (coherent : entry.Coherent config) (clock : Readings) (call : Call) :
    (entry.answer config clock call).totalFailures = entry.totalFailures + (if isFailure call then 1 else 0) ∧
    (entry.answer config clock call).totalSuccesses = entry.totalSuccesses + (if isSuccess call then 1 else 0) := by
  cases call with
  | acquirePermission =>
    simp only [answer]
    rcases acquire_cases coherent clock.first with ⟨_, admitted⟩ | ⟨_, unchanged⟩
    · simp [admitted, isFailure, isSuccess]
    · simp [unchanged, isFailure, isSuccess]
  | recordSuccess =>
    simp only [answer, recordSuccess]
    split
    · exact transition_totals _ _ _
    · exact ⟨rfl, rfl⟩
  | recordFailure error wasProbe =>
    cases state : entry.state with
    | closed =>
      rw [answer, failure_closed state]
      split <;> exact ⟨rfl, rfl⟩
    | «open» =>
      rw [answer, failure_open state]
      exact ⟨rfl, rfl⟩
    | halfOpen =>
      rw [answer, failure_halfOpen state]
      exact ⟨rfl, rfl⟩
  | reset => exact transition_totals _ .closed clock.first

end BreakerRecord

section Runs

variable {config : Config} {system after : System} {event : Event} {events : List Event}
variable {url : String} {began : Int}

theorem record_perform (breakers : Breakers) (url : String) : (perform config breakers event).record url =
      if event.url = url then (breakers.record url).answer config event.clock event.call
      else breakers.record url := by
  obtain ⟨target, call, clock⟩ := event
  by_cases same : target = url
  · subst same
    cases call <;> simp [perform, acquirePermission, recordSuccess, recordFailure, reset,
      BreakerRecord.answer]
  · cases call <;> simp [perform, acquirePermission, recordSuccess, recordFailure, reset,
      Breakers.put, Breakers.record, same, Ne.symm same]

theorem perform_other (breakers : Breakers) (other : event.url ≠ url) :
    perform config breakers event url = breakers url := by
  obtain ⟨target, call, clock⟩ := event
  cases call <;> simp [perform, acquirePermission, recordSuccess, recordFailure, reset,
    Breakers.put, Ne.symm other]

theorem replay_snoc : replay config (events ++ [event]) = perform config (replay config events) event := by
  simp [replay]

def System.start (began : Int) : System := ⟨.empty, began⟩

theorem run_replay (run : Run (System.Step config) (.start began) events system) :
    system.breakers = replay config events := by
  refine run.invariant (fun events system => system.breakers = replay config events) rfl ?_
  rintro events before event after same ⟨_, rfl⟩
  rw [replay_snoc, ← same]

theorem coherent_replay (config : Config) (events : List Event) (url : String) :
    ((replay config events).record url).Coherent config := by
  induction events using List.reverseRecOn with
  | nil => exact BreakerRecord.coherent_fresh
  | append_singleton events event ih =>
    rw [replay_snoc, record_perform]
    split
    · exact BreakerRecord.coherent_answer ih _ _
    · exact ih

/-- The breaker of `url` opens at this call. -/
def Opens (config : Config) (url : String) (before : List Event) (event : Event) : Prop :=
  ((replay config before).record url).state ≠ .open ∧
    ((replay config (before ++ [event])).record url).state = .open

theorem Opens.openedAt {before : List Event} (opens : Opens config url before event) :
    ((replay config (before ++ [event])).record url).openedAt = some event.clock.second := by
  obtain ⟨shut, opened⟩ := opens
  rw [replay_snoc, record_perform] at opened ⊢
  split at opened
  · next target =>
    simp only [target, if_true]
    exact BreakerRecord.answer_opens (coherent_replay config before url) shut opened
  · exact absurd opened shut

theorem opened_replay {events : List Event} {url : String}
    (opened : ((replay config events).record url).state = .open) :
    ∃ before event later, events = before ++ event :: later ∧ Opens config url before event ∧
      (∀ middle next rest, later = middle ++ next :: rest → ¬ Opens config url (before ++ event :: middle) next) ∧
      ((replay config events).record url).openedAt = some event.clock.second := by
  induction events using List.reverseRecOn with
  | nil => simp [replay, BreakerRecord.fresh] at opened
  | append_singleton events event ih =>
    by_cases already : ((replay config events).record url).state = .open
    · obtain ⟨before, opening, later, rfl, opens, none, since⟩ := ih already
      refine ⟨before, opening, later ++ [event], by simp, opens, ?_, ?_⟩
      · intro middle next rest split again
        rcases List.eq_nil_or_concat rest with rfl | ⟨rest, last, rfl⟩
        · obtain ⟨rfl, same⟩ := List.append_inj' split rfl
          obtain rfl := (List.cons.inj same).1
          exact again.1 already
        · rw [List.concat_eq_append, ← List.cons_append, ← List.append_assoc] at split
          exact none middle next rest (List.append_inj' split rfl).1 again
      · rw [← since]
        rw [replay_snoc, record_perform] at opened ⊢
        split at opened
        · next target =>
          rw [if_pos target]
          exact BreakerRecord.answer_stays_open (coherent_replay config _ url) already opened
        · next target => rw [if_neg target]
    · have opens : Opens config url events event := ⟨already, opened⟩
      exact ⟨events, event, [], rfl, opens, fun middle next rest split => by simp at split,
        opens.openedAt⟩

theorem recovering {before later : List Event} (run : Run (System.Step config) (.start began) events system)
    (split : events = before ++ event :: later) (opens : Opens config url before event)
    (unreset : ∀ next ∈ later, ¬ (next.url = url ∧ next.call = .reset))
    (early : system.clock - event.clock.second < config.recoveryAfterMs) :
    (system.breakers.record url).state = .open ∧ (system.breakers.record url).openedAt = some event.clock.second := by
  induction run generalizing later with
  | start => simp at split
  | @next trace middle last label earlier move ih =>
    obtain ⟨forward, rfl⟩ := move
    simp only at early ⊢
    rw [run_replay earlier, ← replay_snoc, split]
    rcases List.eq_nil_or_concat later with rfl | ⟨later, final, rfl⟩
    · exact ⟨opens.2, opens.openedAt⟩
    · rw [List.concat_eq_append] at split unreset ⊢
      rw [← List.cons_append, ← List.append_assoc] at split ⊢
      obtain ⟨rfl, same⟩ := List.append_inj' split rfl
      obtain rfl := (List.cons.inj same).1
      have ordered := label.clock.ordered
      obtain ⟨already, since⟩ := ih rfl (fun next member => unreset next (by simp [member]))
        (by omega)
      rw [run_replay earlier] at already since
      rw [replay_snoc, record_perform]
      by_cases target : label.url = url
      · rw [if_pos target]
        have coherent := coherent_replay config (before ++ event :: later) url
        have kept : label.call ≠ .reset := fun resets => unreset label (by simp) ⟨target, resets⟩
        have inside : label.clock.first - event.clock.second < config.recoveryAfterMs := by omega
        have stays := BreakerRecord.answer_recovering coherent already since inside kept
        exact ⟨stays, (BreakerRecord.answer_stays_open coherent already stays).trans since⟩
      · simp_all

/-- What a record says about the calls made so far. -/
structure Sound (config : Config) (events : List Event) (system : System) : Prop where
  closed : ∀ url, (system.breakers.record url).state = .closed →
    (system.breakers.record url).probeInFlight = false ∧
    (system.breakers.record url).openedAt = none ∧
    (system.breakers.record url).consecutiveFailures < config.failureThreshold
  openedAt : ∀ url, (system.breakers.record url).state = .open →
    ∃ before event later, events = before ++ event :: later ∧ Opens config url before event ∧
      (∀ middle next rest, later = middle ++ next :: rest →
        ¬ Opens config url (before ++ event :: middle) next) ∧
      (system.breakers.record url).openedAt = some event.clock.second
  refuses : ∀ url before event later, events = before ++ event :: later →
    Opens config url before event → (∀ next ∈ later, ¬ (next.url = url ∧ next.call = .reset)) →
    ∀ now, system.clock ≤ now → now - event.clock.second < config.recoveryAfterMs →
      (acquirePermission config system.breakers url now).1 = .open
  separate : ∀ event url, event.url ≠ url →
    perform config system.breakers event url = system.breakers url
  totals : ∀ url,
    (system.breakers.record url).totalFailures =
      events.countP (fun event => event.url = url ∧ BreakerRecord.isFailure event.call) ∧
    (system.breakers.record url).totalSuccesses =
      events.countP (fun event => event.url = url ∧ BreakerRecord.isSuccess event.call)

theorem totals_replay (events : List Event) (url : String) : ((replay config events).record url).totalFailures =
      events.countP (fun event => event.url = url ∧ BreakerRecord.isFailure event.call) ∧
    ((replay config events).record url).totalSuccesses =
      events.countP (fun event => event.url = url ∧ BreakerRecord.isSuccess event.call) := by
  induction events using List.reverseRecOn with
  | nil => exact ⟨rfl, rfl⟩
  | append_singleton events event ih =>
    rw [replay_snoc, record_perform, List.countP_append, List.countP_append]
    by_cases target : event.url = url
    · rw [if_pos target]
      obtain ⟨failures, successes⟩ := BreakerRecord.answer_totals
        (coherent_replay config events url) event.clock event.call
      rw [failures, successes, ih.1, ih.2]
      simp [List.countP_cons, target]
    · rw [if_neg target, ih.1, ih.2]
      simp [target]

/-- In every run of calls for any destinations, on a clock that never goes back, the
records say the truth about the calls. -/
theorem breaker_sound (run : Run (System.Step config) (.start began) events system) : Sound config events system := by
  have replayed := run_replay run
  refine ⟨?_, ?_, ?_, ?_, ?_⟩
  · intro url state
    rw [replayed] at state ⊢
    exact (coherent_replay config events url).closed state
  · intro url opened
    rw [replayed] at opened ⊢
    exact opened_replay opened
  · intro url before event later split opens unreset now forward early
    obtain ⟨already, since⟩ := recovering run split opens unreset (by omega)
    have current : ¬ (system.breakers.record url).Expired config now := by
      rintro ⟨_, time, same, late⟩
      rw [since] at same
      cases same
      omega
    have coherent : (system.breakers.record url).Coherent config := by
      rw [replayed]
      exact coherent_replay config events url
    rcases BreakerRecord.acquire_cases coherent now with ⟨expired, _⟩ | ⟨_, unchanged⟩
    · exact absurd expired current
    · simp [acquirePermission, unchanged, already]
  · intro event url other
    exact perform_other system.breakers other
  · intro url
    rw [replayed]
    exact totals_replay events url

end Runs

theorem breaker_sound_opened : ∃ system, Run (System.Step .sample) (.start 0)
        [⟨"url", .recordFailure (some "HTTP 500") false, .once 5⟩] system ∧
      (system.breakers.record "url").state = .open ∧
      Sound .sample [⟨"url", .recordFailure (some "HTTP 500") false, .once 5⟩] system := by
  have opened : Run (System.Step .sample) (.start 0)
      [⟨"url", .recordFailure (some "HTTP 500") false, .once 5⟩] _ :=
    Run.next .start ⟨by decide, rfl⟩
  exact ⟨_, opened, rfl, breaker_sound opened⟩

end ProxyPay.Webhook
