import ProxyPay.Library.Exclusive
import ProxyPay.SecondFactor.Calls

/-! How many wrong codes are evaluated, and how long the lock holds. -/

namespace ProxyPay.SecondFactor

open ProxyPay.Library ProxyPay.Library.Text

def WINDOW : ℕ :=
  LOCKOUT_DURATION_SECONDS * 1000

def Event.isSuccess : Event → Bool
  | .succeeded _ => true
  | _ => false

/-- A wrong code is evaluated in the window that begins at a time. -/
def Event.isWrongIn (start : ℕ) : Event → Bool
  | .wrong time => start ≤ time && time < start + WINDOW
  | _ => false

def Event.recordedAt? : Event → Option ℕ
  | .recorded time _ => some time
  | _ => none

/-- Without a success in between, no window has more than three wrong codes. -/
def Bounded (server : Server) : Prop :=
  ∀ before middle after start, server.events = before ++ middle ++ after → (∀ event ∈ middle, event.isSuccess = false) →
    middle.countP (Event.isWrongIn start) ≤ MAX_ATTEMPTS

/-- No call succeeds in the window that begins when the third failure is recorded. -/
def LockedOut (server : Server) : Prop :=
  ∀ before after time later, server.events = before ++ .recorded time MAX_ATTEMPTS :: after → .succeeded later ∈ after →
    time + WINDOW ≤ later

def lastRecorded (events : List Event) : Option ℕ :=
  (events.filterMap Event.recordedAt?).getLast?

/-- The times of the wrong codes since the last success. -/
def streak (events : List Event) : List ℕ :=
  events.foldl (fun times event =>
    match event with
    | .wrong time => times ++ [time]
    | .recorded _ _ => times
    | .succeeded _ => []) []

namespace Server

/-- How many calls have still to record a wrong code. -/
def pending (server : Server) : ℕ :=
  server.calls.countP (·.unrecorded)

/-- Redis has forgotten the counter, less than a window after the last failure. -/
def hasLapsed (server : Server) : Bool :=
  server.failures.any (fun failures => failures.expiresAt.any (· ≤ server.now)) &&
    (lastRecorded server.events).any (server.now < · + WINDOW)

/-- The next operation of the call evaluates a wrong code. -/
def rejects (runtime : Runtime) (server : Server) (call : Call) : Bool :=
  match call.phase with
  | .checkingLock user => !server.isLocked && (truthy call.task.request.token).any fun token =>
      !runtime.verifyTOTPToken (user.two_factor_secret.getD "") token server.now
  | .readingCodes code => (server.match? runtime code).isNone
  | _ => false

end Server

/-- Redis stays open, and none of its operations fails. -/
def isAvailable (before : Server) : Label → Bool
  | .redis isOpen => isOpen
  | .fail index => before.calls[index]?.all fun call =>
    match call.phase with
    | .finding | .readingCodes _ | .marking _ | .checkingCodes _ => true
    | _ => false
  | _ => true

/-- A wrong code is evaluated only while fewer than three are counted or have still to be recorded, and nothing is counted
after the counter has lapsed. -/
def isCounted (runtime : Runtime) (before : Server) : Label → Bool
  | .next index => before.calls[index]?.all fun call =>
    (!before.rejects runtime call || !call.unrecorded && !before.hasLapsed &&
        (before.attempts.elim 0 (·.count)) + before.pending < MAX_ATTEMPTS) &&
      (call.phase ≠ .incrementing || !before.hasLapsed)
  | _ => true

def Phase.isResetting : Phase → Bool
  | .resetting _ => true
  | _ => false

/-- A call succeeds only while the lock is open, and nothing is counted and no call succeeds after the counter has lapsed. -/
def isHeld (before : Server) : Label → Bool
  | .next index => before.calls[index]?.all fun call =>
    (!call.phase.isResetting || !before.isLocked && !before.hasLapsed) && (call.phase ≠ .incrementing || !before.hasLapsed)
  | _ => true

variable {runtime : Runtime} {before after server : Server} {label : Label} {index : ℕ} {call : Call}
variable {events : List Event} {time count : ℕ}

@[simp] theorem streak_wrong : streak (events ++ [.wrong time]) = streak events ++ [time] := by
  simp [streak, List.foldl_append]

@[simp] theorem streak_recorded : streak (events ++ [.recorded time count]) = streak events := by
  simp [streak, List.foldl_append]

@[simp] theorem streak_succeeded : streak (events ++ [.succeeded time]) = [] := by
  simp [streak, List.foldl_append]

@[simp] theorem lastRecorded_wrong : lastRecorded (events ++ [.wrong time]) = lastRecorded events := by
  simp [lastRecorded, Event.recordedAt?]

@[simp] theorem lastRecorded_recorded : lastRecorded (events ++ [.recorded time count]) = some time := by
  simp [lastRecorded, Event.recordedAt?]

/-- What a step of the server does to the events and the counter, while Redis is available. -/
inductive Effect (runtime : Runtime) (before : Server) (label : Label) (after : Server) : Prop where
  | quiet (isOpen : after.isOpen = true) (passed : before.now ≤ after.now) (same : after.events = before.events)
      (counts : after.failures.map (·.count) = before.failures.map (·.count)) (pending : after.pending = before.pending)
  | rejected (isOpen : after.isOpen = true) (index : ℕ) (call : Call) (next : label = .next index) (found : before.calls[index]? = some call)
      (rejects : before.rejects runtime call = true) (now : after.now = before.now)
      (failures : after.failures = before.failures) (added : after.events = before.events ++ [.wrong before.now])
      (pending : after.pending + call.unrecorded.toNat = before.pending + 1)
  | succeeded (isOpen : after.isOpen = true) (index : ℕ) (call : Call) (next : label = .next index) (found : before.calls[index]? = some call)
      (resetting : call.phase.isResetting = true) (now : after.now = before.now) (failures : after.failures = none)
      (added : after.events = before.events ++ [.succeeded before.now])
  | recorded (isOpen : after.isOpen = true) (index : ℕ) (call : Call) (next : label = .next index) (found : before.calls[index]? = some call)
      (incrementing : call.phase = .incrementing) (now : after.now = before.now) (count : ℕ)
      (counts : count = before.attempts.elim 1 (·.count + 1)) (failures : after.failures.map (·.count) = some count)
      (added : after.events = before.events ++ [.recorded before.now count])
      (pending : after.pending + call.unrecorded.toNat = before.pending)

theorem pending_put (found : before.calls[index]? = some call) (new : Call) :
    (before.put index new).pending + call.unrecorded.toNat = before.pending + new.unrecorded.toNat :=
  countP_set Call.unrecorded found new

theorem pending_goOn (found : before.calls[index]? = some call) (phase : Phase) :
    (before.goOn index call phase).pending = before.pending := by
  have counted := pending_put found { call with phase := phase }
  exact Nat.add_right_cancel counted

section

variable (isOpen : before.isOpen = true) (found : before.calls[index]? = some call)

include isOpen found

theorem effect_goOn (phase : Phase) : Effect runtime before label (before.goOn index call phase) := by
  apply Effect.quiet
  · exact isOpen
  · exact Nat.le_refl _
  · rfl
  · rfl
  · exact pending_goOn found phase

theorem effect_reject (rejects : before.rejects runtime call = true)
    (phase : Phase) : Effect runtime before (.next index) (before.reject index call phase) := by
  refine Effect.rejected ?_ index call rfl found rejects ?_ ?_ ?_ ?_
  · exact isOpen
  · rfl
  · rfl
  · rfl
  · exact pending_put found { call with phase := phase, unrecorded := true }

theorem effect_find : Effect runtime before label (before.find index call) := by
  unfold Server.find
  split
  · exact effect_goOn isOpen found _
  · split
    · exact effect_goOn isOpen found _
    · split
      · exact effect_goOn isOpen found _
      · exact effect_goOn isOpen found _

theorem effect_checkLock {user : User} (phase : call.phase = .checkingLock user) :
    Effect runtime before (.next index) (before.checkLock runtime index call user) := by
  unfold Server.checkLock
  split
  · exact effect_goOn isOpen found _
  · rename_i unlocked
    split
    · exact effect_goOn isOpen found _
    · rename_i token given
      split
      · exact effect_goOn isOpen found _
      · rename_i wrong
        apply effect_reject isOpen found
        simp [Server.rejects, phase, given, wrong, unlocked]

theorem effect_readCodes {code : String} (phase : call.phase = .readingCodes code) :
    Effect runtime before (.next index) (before.readCodes runtime index call code) := by
  unfold Server.readCodes
  split
  · exact effect_goOn isOpen found _
  · rename_i unmatched
    apply effect_reject isOpen found
    simp [Server.rejects, phase, unmatched]

theorem effect_checkCodes {user : User} : Effect runtime before label (before.checkCodes runtime index call user) := by
  unfold Server.checkCodes
  split
  · exact effect_goOn isOpen found _
  · split
    · exact effect_goOn isOpen found _
    · split
      · split
        · exact effect_goOn isOpen found _
        · exact effect_goOn isOpen found _
      · split
        · exact effect_goOn isOpen found _
        · exact effect_goOn isOpen found _
      · exact effect_goOn isOpen found _

theorem effect_mark (row : BackupCode) : Effect runtime before label (before.mark index call row) := by
  apply Effect.quiet
  · exact isOpen
  · exact Nat.le_refl _
  · rfl
  · rfl
  · exact pending_goOn found _

theorem effect_resetFailures {method : Method} (phase : call.phase = .resetting method) :
    Effect runtime before (.next index) (before.resetFailures index call method) := by
  refine Effect.succeeded ?_ index call rfl found ?_ ?_ ?_ ?_
  · exact isOpen
  · rw [phase]
    rfl
  · rfl
  · exact if_pos isOpen
  · rfl

theorem effect_incrementFailures (phase : call.phase = .incrementing) : Effect runtime before (.next index) (before.incrementFailures index call) := by
  unfold Server.incrementFailures
  rw [if_pos isOpen]
  refine Effect.recorded ?_ index call rfl found phase ?_ (before.attempts.elim 1 (·.count + 1)) rfl ?_ ?_ ?_
  · exact isOpen
  · rfl
  · grind
  · grind
  · exact pending_put found _

end

theorem map_count_of_attempts {failures : Failures} (read : before.attempts = some failures) :
    before.failures.map (·.count) = some failures.count := by
  unfold Server.attempts at read
  rw [Option.filter_eq_some_iff] at read
  rw [read.1]
  rfl

section

variable (isOpen : before.isOpen = true)

include isOpen

theorem effect_expire (found : before.calls[index]? = some call) (count : ℕ) :
    Effect runtime before label (before.expire index call count) := by
  unfold Server.expire
  rw [if_pos isOpen]
  apply Effect.quiet
  · exact isOpen
  · exact Nat.le_refl _
  · rfl
  · cases read : before.attempts with
    | none => rfl
    | some failures => exact (map_count_of_attempts read).symm
  · exact pending_goOn found _

theorem effect_operate (found : before.calls[index]? = some call)
    (done : before.operate runtime index call = some after) : Effect runtime before (.next index) after := by
  unfold Server.operate at done
  split at done
  · split at done
    · cases done
      exact effect_find isOpen found
    · cases done
      exact effect_goOn isOpen found _
  · cases done
    exact effect_checkLock isOpen found ‹_›
  · cases done
    exact effect_goOn isOpen found _
  · cases done
    exact effect_readCodes isOpen found ‹_›
  · cases done
    exact effect_mark isOpen found _
  · cases done
    exact effect_resetFailures isOpen found ‹_›
  · cases done
    exact effect_incrementFailures isOpen found ‹_›
  · cases done
    exact effect_expire isOpen found _
  · cases done
    exact effect_checkCodes isOpen found
  · cases done

theorem effect_call (task : Task) :
    Effect runtime before label { before with calls := before.calls ++ [⟨task, .finding, false⟩] } := by
  apply Effect.quiet
  · exact isOpen
  · exact Nat.le_refl _
  · rfl
  · rfl
  · simp [Server.pending]

theorem effect_step (available : isAvailable before label = true) (move : step runtime before label after) :
    Effect runtime before label after := by
  unfold SecondFactor.step at move
  cases label with
  | tick time =>
    cases move
    exact .quiet isOpen (Nat.le_add_right _ _) rfl rfl rfl
  | redis isOpen =>
    cases move
    exact .quiet available (Nat.le_refl _) rfl rfl rfl
  | verifyWithdrawal2FA request =>
    cases move
    exact effect_call isOpen _
  | login request =>
    cases move
    exact effect_call isOpen _
  | next index =>
    obtain ⟨call, found, done⟩ := Option.bind_eq_some_iff.mp move
    exact effect_operate isOpen found done
  | fail index =>
    obtain ⟨call, found, done⟩ := Option.bind_eq_some_iff.mp move
    unfold Server.throw at done
    split at done
    · cases done
      exact effect_goOn isOpen found _
    · cases done
      exact effect_goOn isOpen found _
    · cases done
    · cases done
      exact effect_goOn isOpen found _

end

theorem counts_eq (same : after.failures.map (·.count) = before.failures.map (·.count)) :
    after.failures.elim 0 (·.count) = before.failures.elim 0 (·.count) := by
  have counted := congrArg (·.elim 0 id) same
  simp only [Option.elim_map] at counted
  exact counted

theorem elim_attempts (live : before.attempts ≠ none ∨ before.failures = none) :
    before.attempts.elim 0 (·.count) = before.failures.elim 0 (·.count) := by
  cases read : before.attempts with
  | none => simp_all
  | some failures =>
    rw [Server.attempts, Option.filter_eq_some_iff] at read
    rw [read.1]

theorem forgotten_of_not_lapsed (valid : before.hasLapsed = false) :
    (before.attempts = none ∧ ∀ time, lastRecorded before.events = some time → time + WINDOW ≤ before.now) ∨
      before.attempts.elim 0 (·.count) = before.failures.elim 0 (·.count) := by
  cases there : before.failures with
  | none => exact .inr (there ▸ elim_attempts (.inr there))
  | some failures => grind [Server.attempts, Server.hasLapsed]

/-- The window that begins at a time. -/
def isWithin (start time : ℕ) : Bool :=
  start ≤ time && time < start + WINDOW

theorem countP_streak {first middle : List Event} {start : ℕ} (none : ∀ event ∈ middle, event.isSuccess = false) :
    middle.countP (Event.isWrongIn start) ≤ (streak (first ++ middle)).countP (isWithin start) := by
  induction middle using List.reverseRecOn with
  | nil => exact Nat.zero_le _
  | append_singleton middle event ih =>
    have earlier := ih fun event member => none event (List.mem_append_left _ member)
    rw [← List.append_assoc, List.countP_append]
    cases event with
    | wrong time =>
      rw [streak_wrong, List.countP_append]
      exact Nat.add_le_add earlier (Nat.le_of_eq rfl)
    | recorded time count =>
      rw [streak_recorded]
      exact earlier
    | succeeded time => cases none (.succeeded time) (by simp)

theorem Bounded.snoc {event : Event} (bounded : Bounded before) (added : after.events = before.events ++ [event])
    (few : ∀ start, (streak after.events).countP (isWithin start) ≤ MAX_ATTEMPTS) : Bounded after := by
  intro first middle rest start split none
  cases List.eq_nil_or_concat rest with
  | inl last =>
    subst last
    rw [List.append_nil] at split
    have counted := @countP_streak first middle start none
    rw [← split] at counted
    exact Nat.le_trans counted (few start)
  | inr more =>
    obtain ⟨rest, last, same⟩ := more
    rw [List.concat_eq_append] at same
    rw [added, same, ← List.append_assoc] at split
    exact bounded first middle rest start (List.append_inj' split rfl).1 none

/-- While Redis is available, the counter and the codes that are to be recorded account for the recent codes. -/
structure Counting (server : Server) : Prop where
  isOpen : server.isOpen = true
  past : ∀ time ∈ streak server.events, time ≤ server.now
  recent : (streak server.events).countP (fun time => server.now < time + WINDOW) ≤
    server.failures.elim 0 (·.count) + server.pending
  late : (streak server.events).countP (fun time => (lastRecorded server.events).all (· < time)) ≤ server.pending
  few : ∀ start, (streak server.events).countP (isWithin start) ≤ MAX_ATTEMPTS
  bounded : Bounded server

section

variable (counting : Counting before)

include counting

theorem Counting.recent_of_forgotten (forgotten : ∀ time, lastRecorded before.events = some time → time + WINDOW ≤ before.now) :
    (streak before.events).countP (fun time => before.now < time + WINDOW) ≤ before.pending := by
  apply Nat.le_trans _ counting.late
  apply List.countP_mono_left
  intro time _ recent
  cases last : lastRecorded before.events with
  | none => rfl
  | some recorded => grind

section

variable (isOpen : after.isOpen = true)

include isOpen

theorem Counting.quiet (passed : before.now ≤ after.now)
    (same : after.events = before.events) (counts : after.failures.map (·.count) = before.failures.map (·.count))
    (pending : after.pending = before.pending) : Counting after where
  isOpen := isOpen
  past time member := by
    rw [same] at member
    exact Nat.le_trans (counting.past time member) passed
  recent := by
    rw [same, counts_eq counts, pending]
    apply Nat.le_trans _ counting.recent
    apply List.countP_mono_left
    intro time _ recent
    have recent : after.now < time + WINDOW := of_decide_eq_true recent
    exact decide_eq_true (Nat.lt_of_le_of_lt passed recent)
  late := by
    rw [same, pending]
    exact counting.late
  few := by
    rw [same]
    exact counting.few
  bounded := by
    intro first middle rest start split
    rw [same] at split
    exact counting.bounded first middle rest start split

theorem Counting.reject (now : after.now = before.now)
    (failures : after.failures = before.failures) (added : after.events = before.events ++ [.wrong before.now])
    (pending : after.pending = before.pending + 1) (valid : before.hasLapsed = false)
    (free : before.attempts.elim 0 (·.count) + before.pending < MAX_ATTEMPTS) : Counting after := by
  have recent : (streak before.events).countP (fun time => before.now < time + WINDOW) ≤
      before.attempts.elim 0 (·.count) + before.pending := by
    cases forgotten_of_not_lapsed valid with
    | inl forgotten => exact Nat.le_trans (counting.recent_of_forgotten forgotten.2) (Nat.le_add_left _ _)
    | inr same =>
      rw [same]
      exact counting.recent
  have few : ∀ start, (streak after.events).countP (isWithin start) ≤ MAX_ATTEMPTS := by
    intro start
    rw [added, streak_wrong, List.countP_append]
    by_cases within : isWithin start before.now = true
    · have earlier : (streak before.events).countP (isWithin start) ≤
          (streak before.events).countP (fun time => before.now < time + WINDOW) := by
        apply List.countP_mono_left
        intro time _ inside
        simp only [isWithin, Bool.and_eq_true, decide_eq_true_eq] at inside within ⊢
        omega
      simp only [List.countP_singleton, within, if_true]
      omega
    · simp only [List.countP_singleton, within]
      exact counting.few start
  constructor
  · exact isOpen
  · intro time member
    rw [added, streak_wrong] at member
    rw [now]
    cases List.mem_append.mp member with
    | inl earlier => exact counting.past time earlier
    | inr here => exact Nat.le_of_eq (List.mem_singleton.mp here)
  · have before_recent := counting.recent
    rw [added, streak_wrong, List.countP_append, failures, now, pending]
    simp only [List.countP_singleton]
    split <;> omega
  · have before_late := counting.late
    rw [added, streak_wrong, lastRecorded_wrong, List.countP_append, pending]
    simp only [List.countP_singleton]
    split <;> omega
  · exact few
  · exact counting.bounded.snoc added few

theorem Counting.succeed (added : after.events = before.events ++ [.succeeded before.now]) : Counting after := by
  have empty : streak after.events = [] := by rw [added, streak_succeeded]
  have few : ∀ start, (streak after.events).countP (isWithin start) ≤ MAX_ATTEMPTS := by simp_all
  constructor
  · exact isOpen
  · simp_all
  · rw [empty]
    exact Nat.zero_le _
  · rw [empty]
    exact Nat.zero_le _
  · exact few
  · exact counting.bounded.snoc added few

theorem Counting.record (now : after.now = before.now)
    {count : ℕ} (counts : count = before.attempts.elim 1 (·.count + 1)) (failures : after.failures.map (·.count) = some count)
    (added : after.events = before.events ++ [.recorded before.now count])
    (pending : after.pending + call.unrecorded.toNat = before.pending) (valid : before.hasLapsed = false) :
    Counting after := by
  have same : streak after.events = streak before.events := by rw [added, streak_recorded]
  have stored : after.failures.elim 0 (·.count) = count := by
    have counted := congrArg (·.elim 0 id) failures
    simp only [Option.elim_map] at counted
    exact counted
  have one := Bool.toNat_le call.unrecorded
  have recent : (streak before.events).countP (fun time => before.now < time + WINDOW) + 1 ≤ count + before.pending := by
    cases read : before.attempts with
    | none =>
      rw [read] at counts
      have forgotten : (streak before.events).countP (fun time => before.now < time + WINDOW) ≤ before.pending := by
        cases forgotten_of_not_lapsed valid with
        | inl forgotten => exact counting.recent_of_forgotten forgotten.2
        | inr absent =>
          have bound := counting.recent
          rw [read] at absent
          simp only [Option.elim_none] at absent
          omega
      simp only [Option.elim_none] at counts
      omega
    | some failures =>
      have bound := counting.recent
      have stands := @elim_attempts before (.inl (by rw [read]; exact Option.some_ne_none failures))
      rw [read] at counts stands
      simp only [Option.elim_some] at counts stands
      omega
  constructor
  · exact isOpen
  · intro time member
    rw [same] at member
    rw [now]
    exact counting.past time member
  · rw [same, stored, now]
    omega
  · have none : (streak before.events).countP (fun time => before.now < time) = 0 := by
      rw [List.countP_eq_zero]
      intro time member
      have past := counting.past time member
      simpa using past
    rw [same, added, lastRecorded_recorded]
    simp only [Option.all_some, none]
    exact Nat.zero_le _
  · rw [same]
    exact counting.few
  · apply counting.bounded.snoc added
    rw [same]
    exact counting.few

end

theorem Counting.step (available : isAvailable before label = true)
    (counted : isCounted runtime before label = true) (move : step runtime before label after) : Counting after := by
  cases effect_step counting.isOpen available move with
  | quiet isOpen passed same counts pending => exact counting.quiet isOpen passed same counts pending
  | rejected isOpen index call next found rejects now failures added pending =>
    subst next
    simp only [isCounted, found, Option.all_some, rejects, Bool.and_eq_true, Bool.or_eq_true, Bool.not_eq_true',
      Bool.true_eq_false, false_or, decide_eq_true_eq] at counted
    obtain ⟨⟨⟨recorded, valid⟩, free⟩, _⟩ := counted
    rw [recorded] at pending
    exact counting.reject isOpen now failures added pending valid free
  | succeeded isOpen index call next found resetting now failures added => exact counting.succeed isOpen added
  | recorded isOpen index call next found incrementing now count counts failures added pending =>
    subst next
    have valid : before.hasLapsed = false := by
      simpa [isCounted, found, incrementing, Server.rejects] using counted
    exact counting.record isOpen now counts failures added pending valid

end

theorem counting_initial {user : Option User} {codes : List BackupCode} {now : ℕ} :
    Counting (.initial user codes now true) := by
  constructor
  · rfl
  · nofun
  · exact Nat.le_refl _
  · exact Nat.le_refl _
  · intro start
    exact Nat.zero_le _
  · intro first middle rest start split _
    obtain ⟨split, _⟩ := List.append_eq_nil_iff.mp split.symm
    rw [(List.append_eq_nil_iff.mp split).2]
    exact Nat.zero_le _

/-- While Redis is available, a third failure was recorded long ago, or it still counts. -/
structure Holding (server : Server) : Prop where
  isOpen : server.isOpen = true
  past : ∀ time count, .recorded time count ∈ server.events → time ≤ server.now
  held : ∀ time, .recorded time MAX_ATTEMPTS ∈ server.events → time + WINDOW ≤ server.now ∨
    ∃ failures last, server.failures = some failures ∧ MAX_ATTEMPTS ≤ failures.count ∧
      lastRecorded server.events = some last ∧ time ≤ last
  locked : LockedOut server

theorem LockedOut.snoc {event : Event} (locked : LockedOut before) (added : after.events = before.events ++ [event])
    (late : ∀ later, event = .succeeded later → ∀ time, .recorded time MAX_ATTEMPTS ∈ before.events → time + WINDOW ≤ later) :
    LockedOut after := by
  intro first rest time later split success
  cases List.eq_nil_or_concat rest with
  | inl last =>
    subst last
    cases success
  | inr more =>
    obtain ⟨rest, last, same⟩ := more
    rw [List.concat_eq_append] at same
    subst same
    rw [added, ← List.cons_append, ← List.append_assoc] at split
    obtain ⟨earlier, same⟩ := List.append_inj' split rfl
    cases List.mem_append.mp success with
    | inl before_last => exact locked first rest time later earlier before_last
    | inr here => simp_all

section

variable (holding : Holding before)

include holding

theorem Holding.quiet (isOpen : after.isOpen = true) (passed : before.now ≤ after.now)
    (same : after.events = before.events) (counts : after.failures.map (·.count) = before.failures.map (·.count)) :
    Holding after where
  isOpen := isOpen
  past time count member := by
    rw [same] at member
    exact Nat.le_trans (holding.past time count member) passed
  held time member := by
    rw [same] at member ⊢
    cases holding.held time member with
    | inl old => exact .inl (Nat.le_trans old passed)
    | inr held =>
      obtain ⟨failures, last, there, many, final, late⟩ := held
      rw [there, Option.map_some, Option.map_eq_some_iff] at counts
      obtain ⟨new, stands, same_count⟩ := counts
      exact .inr ⟨new, last, stands, same_count ▸ many, final, late⟩
  locked := by
    intro first rest time later split
    rw [same] at split
    exact holding.locked first rest time later split

theorem Holding.old (unlocked : before.isLocked = false) (valid : before.hasLapsed = false)
    (member : .recorded time MAX_ATTEMPTS ∈ before.events) : time + WINDOW ≤ before.now := by
  cases holding.held time member with
  | inl old => exact old
  | inr held =>
    obtain ⟨failures, last, there, many, final, late⟩ := held
    by_cases expired : failures.expiresAt.any (· ≤ before.now) = true
    · grind [Server.hasLapsed]
    · simp [Server.isLocked, holding.isOpen, Server.attempts, there, expired] at unlocked
      omega

section

variable (isOpen : after.isOpen = true) (now : after.now = before.now)

include isOpen now

theorem Holding.reject (failures : after.failures = before.failures) (added : after.events = before.events ++ [.wrong before.now]) :
    Holding after where
  isOpen := isOpen
  past time count member := by
    rw [now]
    apply holding.past time count
    simpa [added] using member
  held time member := by
    rw [now, failures, added, lastRecorded_wrong]
    apply holding.held time
    simpa [added] using member
  locked := by
    apply holding.locked.snoc added
    intro later same
    cases same

theorem Holding.succeed (added : after.events = before.events ++ [.succeeded before.now]) (unlocked : before.isLocked = false)
    (valid : before.hasLapsed = false) : Holding after where
  isOpen := isOpen
  past time count member := by
    rw [now]
    apply holding.past time count
    simpa [added] using member
  held time member := by
    rw [now]
    left
    apply holding.old unlocked valid
    simpa [added] using member
  locked := by
    apply holding.locked.snoc added
    intro later same time member
    cases same
    exact holding.old unlocked valid member

theorem Holding.record (counts : count = before.attempts.elim 1 (·.count + 1)) (failures : after.failures.map (·.count) = some count)
    (added : after.events = before.events ++ [.recorded before.now count]) (valid : before.hasLapsed = false) :
    Holding after where
  isOpen := isOpen
  past time other member := by
    rw [now]
    rw [added] at member
    cases List.mem_append.mp member with
    | inl earlier => exact holding.past time other earlier
    | inr here => simp_all
  held time member := by
    obtain ⟨new, stands, same⟩ := Option.map_eq_some_iff.mp failures
    rw [now, added, lastRecorded_recorded]
    rw [added] at member
    cases List.mem_append.mp member with
    | inr here => simp_all
    | inl earlier =>
      cases holding.held time earlier with
      | inl old => exact .inl old
      | inr held =>
        obtain ⟨failures, last, there, many, final, late⟩ := held
        cases forgotten_of_not_lapsed valid with
        | inl forgotten => grind
        | inr live =>
          right
          refine ⟨new, before.now, stands, ?_, rfl, holding.past time MAX_ATTEMPTS earlier⟩
          rw [there] at live
          cases read : before.attempts with
          | none | some failures => grind
  locked := by
    apply holding.locked.snoc added
    intro later same
    cases same

end

theorem Holding.step (available : isAvailable before label = true)
    (held : isHeld before label = true) (move : step runtime before label after) : Holding after := by
  cases effect_step holding.isOpen available move with
  | quiet isOpen passed same counts pending => exact holding.quiet isOpen passed same counts
  | rejected isOpen index call next found rejects now failures added pending =>
    exact holding.reject isOpen now failures added
  | succeeded isOpen index call next found resetting now failures added =>
    subst next
    simp only [isHeld, found, Option.all_some, resetting, Bool.and_eq_true, Bool.or_eq_true, Bool.not_eq_true',
      Bool.true_eq_false, false_or] at held
    exact holding.succeed isOpen now added held.1.1 held.1.2
  | recorded isOpen index call next found incrementing now count counts failures added pending =>
    subst next
    have valid : before.hasLapsed = false := by
      simpa [isHeld, found, incrementing, Phase.isResetting] using held
    exact holding.record isOpen now counts failures added valid

end

theorem holding_initial {user : Option User} {codes : List BackupCode} {now : ℕ} :
    Holding (.initial user codes now true) := by
  constructor
  · rfl
  · nofun
  · nofun
  · intro first rest time later split
    cases (List.append_eq_nil_iff.mp split.symm).2

variable {user : Option User} {codes : List BackupCode} {now : ℕ} {trace : List Label} {last : Server}

/-- Guesses are bounded, and the lock holds, where what is counted is what was evaluated. -/
theorem guesses_follow (run : Run (step runtime) (.initial user codes now true) trace last)
    (available : Throughout (step runtime) (.initial user codes now true)
      (fun before label _ => isAvailable before label = true) trace) :
    (Throughout (step runtime) (.initial user codes now true)
        (fun before label _ => isCounted runtime before label = true) trace → Bounded last) ∧
      (Throughout (step runtime) (.initial user codes now true)
        (fun before label _ => isHeld before label = true) trace → LockedOut last) := by
  constructor
  · intro counted
    have both : Throughout (step runtime) (.initial user codes now true)
        (fun before label _ => isAvailable before label = true ∧ isCounted runtime before label = true) trace := by
      intro earlier label rest before after split reached move
      exact ⟨available earlier label rest before after split reached move,
        counted earlier label rest before after split reached move⟩
    have counting : Counting last := by
      apply run.kept both Counting counting_initial
      intro before label after counting move every
      exact counting.step every.1 every.2 move
    exact counting.bounded
  · intro held
    have both : Throughout (step runtime) (.initial user codes now true)
        (fun before label _ => isAvailable before label = true ∧ isHeld before label = true) trace := by
      intro earlier label rest before after split reached move
      exact ⟨available earlier label rest before after split reached move,
        held earlier label rest before after split reached move⟩
    have holding : Holding last := by
      apply run.kept both Holding holding_initial
      intro before label after holding move every
      exact holding.step every.1 every.2 move
    exact holding.locked

def bcryptSample : Bcrypt where
  hash code _ := code
  compare code code_hash := code = code_hash
  exact _ _ _ := rfl

def runtimeSample : Runtime where
  bcrypt := bcryptSample
  verifyTOTPToken _ token _ := token = "123456"

def userSample : User :=
  ⟨some "JBSWY3DPEHPK3PXP", true, true, true, none⟩

def withToken (token : String) : Label :=
  .verifyWithdrawal2FA ⟨some token, none⟩

/-- Two wrong tokens, and a right one. -/
def guessedThird : List Label :=
  [withToken "000000", .next 0, .next 0, .next 0, .next 0, .tick 60000, withToken "111111", .next 1, .next 1, .next 1,
    withToken "123456", .next 2, .next 2, .next 2]

theorem guessedThird_follows : ∃ last : Server, last.events =
    [.wrong 0, .recorded 0 1, .wrong 60000, .recorded 60000 2, .succeeded 60000] ∧ Bounded last ∧ LockedOut last := by
  have followed : (guessedThird.foldlM (Server.perform runtimeSample) (.initial (some userSample) [] 0 true)).map
      (·.events) = some [.wrong 0, .recorded 0 1, .wrong 60000, .recorded 60000 2, .succeeded 60000] := by decide
  obtain ⟨last, reached, events⟩ := Option.map_eq_some_iff.mp followed
  obtain ⟨bounded, locked⟩ := guesses_follow (Run.follow reached) (throughout_follow (by decide))
  exact ⟨last, events, bounded (throughout_follow (by decide)), locked (throughout_follow (by decide))⟩

/-- The counter that the first failure started is forgotten ten seconds after the third. -/
def guessedAgain : List Label :=
  [withToken "000000", .next 0, .next 0, .next 0, .next 0, .tick 890000, withToken "000001", .next 1, .next 1, .next 1,
    withToken "000002", .next 2, .next 2, .next 2, .tick 10000, withToken "000003", .next 3, .next 3, .next 3, .next 3,
    withToken "000004", .next 4, .next 4, .next 4, withToken "123456", .next 5, .next 5, .next 5]

def guessedAgainEvents : List Event :=
  [.wrong 0, .recorded 0 1, .wrong 890000, .recorded 890000 2, .wrong 890000, .recorded 890000 3, .wrong 900000,
    .recorded 900000 1, .wrong 900000, .recorded 900000 2, .succeeded 900000]

theorem guessedAgain_unbounded : ∃ last : Server,
    Run (step runtimeSample) (.initial (some userSample) [] 0 true) guessedAgain last ∧
      Throughout (step runtimeSample) (.initial (some userSample) [] 0 true)
        (fun before label _ => isAvailable before label = true) guessedAgain ∧ ¬Bounded last ∧ ¬LockedOut last := by
  have followed : (guessedAgain.foldlM (Server.perform runtimeSample) (.initial (some userSample) [] 0 true)).map
      (·.events) = some guessedAgainEvents := by decide
  obtain ⟨last, reached, events⟩ := Option.map_eq_some_iff.mp followed
  refine ⟨last, Run.follow reached, throughout_follow (by decide), ?_, ?_⟩
  · intro bounded
    have few := bounded [] (guessedAgainEvents.take 10) [.succeeded 900000] 890000 events (by decide)
    exact absurd few (by decide)
  · intro locked
    have late := locked (guessedAgainEvents.take 5) (guessedAgainEvents.drop 6) 890000 900000 events (by decide)
    exact absurd late (by decide)

end ProxyPay.SecondFactor
