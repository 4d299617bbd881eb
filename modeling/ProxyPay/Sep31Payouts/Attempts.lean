import ProxyPay.Library.Exclusive
import ProxyPay.Library.Transition
import ProxyPay.Sep31Payouts.Service

/-! When an attempt is paid once, when its record stands, when its retries are bounded, and when it is settled. -/

namespace ProxyPay.Sep31Payouts

open ProxyPay.Library

def Call.isLive (call : Call) : Bool :=
  !call.phase.isOver

/-- The call will still write to its attempt, which is the first write if the attempt is pending. -/
def Call.isPromised (status : PayoutStatus) (call : Call) : Bool :=
  match call.phase with
  | .marking => status = .pending
  | .sending | .completing _ _ | .failing _ => true
  | .logging _ | .returned _ | .thrown => false

namespace Payouts

def isFree (payouts : Payouts) (id : ℕ) : Bool :=
  payouts.calls.all fun call => call.id ≠ id || !call.isLive

/-- The row of the retry job that the step executes. -/
def retrying (payouts : Payouts) : Label → Option (ℕ × PayoutAttempt)
  | .next index => payouts.passes[index]?.bind fun pass => pass.rows.head?
  | _ => none

/-- The call whose statement fails. -/
def failing (payouts : Payouts) : Label → Option Call
  | .fail index _ => payouts.calls[index]?
  | _ => none

end Payouts

/-- A retry finds its attempt as it was selected, to be retried, and no other call at work on it. -/
def isAlone (before : Payouts) (label : Label) : Bool :=
  (before.retrying label).all fun row =>
    before.isFree row.1 && before.attempts[row.1]? = some row.2 && row.2.status = .retrying

def Answer.isSuccess : Answer → Bool
  | .success _ _ => true
  | _ => false

/-- The provider pays if it reports success and only then, and what it reports is recorded. -/
def isRecorded (before : Payouts) (label : Label) : Bool :=
  (match label with
    | .answer _ paid answer => paid == answer.isSuccess
    | _ => true) &&
  (before.failing label).all fun call =>
    match call.phase with
    | .completing _ _ => false
    | _ => true

/-- An attempt has a retry at least. -/
def isPositive (config : Config) : Label → Bool
  | .processSep31PayoutWithRetry _ _ => 0 < config.maxRetries
  | _ => true

/-- The statement that records a failure does not fail, nor the first one on a pending attempt. -/
def isSettling (before : Payouts) (label : Label) : Bool :=
  (before.failing label).all fun call =>
    match call.phase with
    | .failing _ => false
    | .marking => before.attempts[call.id]?.all fun row => row.status ≠ .pending
    | _ => true

variable {config : Config} {before after : Payouts} {label : Label} {call other : Call} {phase : Phase}
variable {attempt row new : PayoutAttempt} {index now id : ℕ} {trace : List Label} {last : Payouts}

/-- What a step can do. -/
inductive Change (config : Config) (before : Payouts) : Label → Payouts → Prop where
  | create (provider : String) (amount : ℚ) :
      Change config before (.processSep31PayoutWithRetry provider amount)
        (Payouts.start { before with
            attempts := before.attempts ++ [⟨provider, amount, .pending, 0, config.maxRetries, none, none, none⟩] }
          before.attempts.length ⟨provider, amount, .pending, 0, config.maxRetries, none, none, none⟩)
  | pass (label : Label) (passes : List Pass) : Change config before label { before with passes }
  | retry (pass : ℕ) (passes : List Pass) (id : ℕ) (attempt : PayoutAttempt)
      (selected : before.retrying (.next pass) = some (id, attempt)) :
      Change config before (.next pass) (Payouts.start { before with passes } id attempt)
  | query (index now : ℕ) (call : Call) (phase : Phase) (row new : PayoutAttempt)
      (found : before.calls[index]? = some call) (stored : before.attempts[call.id]? = some row)
      (done : call.query config row now = some (new, phase)) :
      Change config before (.query index now) (before.update index { call with phase } new call.logged)
  | fail (index : ℕ) (message : Option String) (call : Call) (phase : Phase) (found : before.calls[index]? = some call)
      (caught : call.phase.catch message = some phase) :
      Change config before (.fail index message) (before.goOn index { call with phase })
  | answer (index : ℕ) (paid : Bool) (answer : Answer) (call : Call) (found : before.calls[index]? = some call)
      (sending : call.phase = .sending) :
      Change config before (.answer index paid answer)
        (before.goOn index ⟨call.id, call.attempt, true, paid, answer.phase⟩)

theorem change_of_step (move : step config before label after) : Change config before label after := by
  cases label with
  | processSep31PayoutWithRetry provider amount =>
    cases move
    exact .create provider amount
  | runPayoutRetryJob now rows =>
    simp only [step, Payouts.perform] at move
    split at move
    · cases move
      exact .pass _ _
    · cases move
  | next pass =>
    simp only [step, Payouts.perform] at move
    split at move
    · rename_i id attempt rows retried failed found
      cases move
      apply Change.retry pass
      simp [Payouts.retrying, found]
    · cases move
  | settle pass =>
    simp only [step, Payouts.perform] at move
    split at move
    · cases move
    · split at move
      · cases move
      · split at move
        · cases move
          exact .pass _ _
        · cases move
  | query index now =>
    simp only [step, Payouts.perform] at move
    split at move
    · cases move
    · rename_i call found
      split at move
      · cases move
      · rename_i row stored
        obtain ⟨⟨new, phase⟩, done, rfl⟩ := Option.map_eq_some_iff.mp move
        exact .query index now call phase row new found stored done
  | fail index message =>
    simp only [step, Payouts.perform] at move
    split at move
    · cases move
    · rename_i call found
      obtain ⟨phase, caught, rfl⟩ := Option.map_eq_some_iff.mp move
      exact .fail index message call phase found caught
  | answer index paid answer =>
    simp only [step, Payouts.perform] at move
    split at move
    · rename_i id attempt sent earlier found
      cases move
      exact .answer index paid answer _ found rfl
    · cases move

/-- What a statement does to an attempt, with the status that it starts from. -/
inductive Written (config : Config) (call : Call) (row : PayoutAttempt) : PayoutAttempt → Phase → Prop where
  | mark (new : PayoutAttempt) (phase : Phase) (marking : call.phase = .marking) (status : new.status = .processing)
      (number : new.attemptNumber = row.attemptNumber) (retries : new.maxRetries = row.maxRetries)
      (next : phase = .sending ∨ ∃ message, phase = .failing message) : Written config call row new phase
  | complete (new : PayoutAttempt) (phase : Phase) (reference transactionId : Option String)
      (completing : call.phase = .completing reference transactionId) (status : new.status = .completed)
      (number : new.attemptNumber = call.attempt.attemptNumber + 1) (retries : new.maxRetries = row.maxRetries)
      (ended : phase.isOver = true) : Written config call row new phase
  | bury (new : PayoutAttempt) (message : String) (failing : call.phase = .failing message)
      (status : new.status = .deadLetter) (number : new.attemptNumber = call.attempt.attemptNumber + 1)
      (retries : new.maxRetries = row.maxRetries) : Written config call row new (.logging message)
  | schedule (new : PayoutAttempt) (phase : Phase) (message : String) (failing : call.phase = .failing message)
      (left : call.attempt.attemptNumber + 1 < call.attempt.maxRetries) (status : new.status = .retrying)
      (number : new.attemptNumber = call.attempt.attemptNumber + 1) (retries : new.maxRetries = row.maxRetries)
      (ended : phase.isOver = true) : Written config call row new phase
  | log (phase : Phase) (message : String) (logging : call.phase = .logging message) (ended : phase.isOver = true) :
      Written config call row row phase

theorem validate_cases (config : Config) (attempt : PayoutAttempt) :
    validate config attempt = .sending ∨ ∃ message, validate config attempt = .failing message := by
  unfold validate
  split
  · exact .inr ⟨_, rfl⟩
  · grind

theorem written_of_query (done : call.query config row now = some (new, phase)) : Written config call row new phase := by
  unfold Call.query at done
  simp only at done
  split at done
  · rename_i marking
    cases done
    exact .mark _ _ marking rfl rfl rfl (validate_cases config call.attempt)
  · rename_i reference transactionId completing
    cases done
    exact .complete _ _ reference transactionId completing rfl rfl rfl rfl
  · rename_i message failing
    split at done
    · cases done
      exact .bury _ message failing rfl rfl rfl
    · cases done
      exact .schedule _ _ message failing (by omega) rfl rfl rfl rfl
  · rename_i message logging
    cases done
    exact .log _ message logging rfl
  · cases done
  · cases done
  · cases done

theorem catch_cases {message : Option String} (caught : call.phase.catch message = some phase) :
    (∃ reference transactionId, call.phase = .completing reference transactionId ∧ ∃ text, phase = .failing text) ∨
      (call.phase = .marking ∨ ∃ text, call.phase = .failing text ∨ call.phase = .logging text) ∧ phase = .thrown := by
  cases here : call.phase with
  | completing reference transactionId =>
    rw [here] at caught
    cases caught
    exact .inl ⟨reference, transactionId, rfl, _, rfl⟩
  | marking =>
    rw [here] at caught
    cases caught
    exact .inr ⟨.inl rfl, rfl⟩
  | failing text =>
    rw [here] at caught
    cases caught
    exact .inr ⟨.inr ⟨text, .inl rfl⟩, rfl⟩
  | logging text =>
    rw [here] at caught
    cases caught
    exact .inr ⟨.inr ⟨text, .inr rfl⟩, rfl⟩
  | _ =>
    rw [here] at caught
    cases caught

theorem answer_cases (answer : Answer) :
    (answer.isSuccess = true ∧ ∃ reference transactionId, answer.phase = .completing reference transactionId) ∨
      answer.isSuccess = false ∧ ∃ message, answer.phase = .failing message := by
  cases answer with
  | success reference transactionId => exact .inl ⟨rfl, reference, transactionId, rfl⟩
  | failure error | thrown message => exact .inr ⟨rfl, _, rfl⟩

variable (payouts : Payouts)

def Alone : Prop :=
  Exclusive Call.id Call.isLive payouts.calls

/-- Every call is of an attempt that exists. -/
def Within : Prop :=
  Placed Call.id (fun _ => true) payouts.attempts payouts.calls

/-- The statuses that an attempt may have when a call does this next. -/
def Phase.allows (status : PayoutStatus) : Phase → Bool
  | .marking => status = .pending || status = .retrying
  | .sending | .completing _ _ | .failing _ => status = .processing
  | .logging _ => status = .deadLetter
  | .returned _ | .thrown => true

def Phase.isLogging : Phase → Bool
  | .logging _ => true
  | _ => false

/-- A call at work has the number of its attempt, which has a status that the call leads on from. -/
structure Call.Agrees (call : Call) (row : PayoutAttempt) : Prop where
  status : call.phase.allows row.status = true
  number : call.isLive = true → call.phase.isLogging = false → call.attempt.attemptNumber = row.attemptNumber ∧
    call.attempt.maxRetries = row.maxRetries

theorem agrees_of_over (finished : call.isLive = false) : call.Agrees row := by
  have ended : call.phase.isOver = true := by simpa [Call.isLive] using finished
  constructor
  · cases here : call.phase <;> rw [here] at ended <;> first | rfl | cases ended
  · simp_all

/-- Calls at work agree with their attempts, and exclude each other. -/
structure Kept (payouts : Payouts) : Prop where
  alone : Alone payouts
  within : Within payouts
  agrees : Related Call.id Call.Agrees payouts.attempts payouts.calls

theorem live_of_query (done : call.query config row now = some (new, phase)) : call.isLive = true := by
  cases written_of_query done with
  | mark _ _ marking => simp [Call.isLive, marking, Phase.isOver]
  | complete _ _ reference transactionId completing => simp [Call.isLive, completing, Phase.isOver]
  | bury _ message failing | schedule _ _ message failing => simp [Call.isLive, failing, Phase.isOver]
  | log _ message logging => simp [Call.isLive, logging, Phase.isOver]

theorem live_of_catch {message : Option String} (caught : call.phase.catch message = some phase) :
    call.isLive = true := by
  rcases catch_cases caught with ⟨_, _, completing, _⟩ | ⟨marking | ⟨_, failing | logging⟩, _⟩
  · simp [Call.isLive, completing, Phase.isOver]
  · simp [Call.isLive, marking, Phase.isOver]
  · simp [Call.isLive, failing, Phase.isOver]
  · simp [Call.isLive, logging, Phase.isOver]

theorem Within.goOn (within : Within before) (found : before.calls[index]? = some call) (same : other.id = call.id) :
    Within (before.goOn index other) := by
  apply Placed.goOn within
  intro _
  rw [same]
  exact within call (List.mem_of_getElem? found) rfl

theorem Within.change (within : Within before) (change : Change config before label after)
    (selected : ∀ id attempt, before.retrying label = some (id, attempt) → id < before.attempts.length) :
    Within after := by
  cases change with
  | create provider amount =>
    have longer (row : PayoutAttempt) : before.attempts.length < (before.attempts ++ [row]).length := by simp
    apply Placed.start
    · exact Placed.grow within (Nat.le_of_lt (longer _))
    · intro _
      exact longer _
  | pass => exact within
  | retry pass passes id attempt found =>
    apply Placed.start within
    intro _
    exact selected id attempt found
  | query index now call phase row new found stored done =>
    have same : Call.id { call with phase } = call.id := rfl
    exact Placed.grow (Within.goOn within found same) (Nat.le_of_eq List.length_set.symm)
  | fail index message call phase found caught =>
    have same : Call.id { call with phase } = call.id := rfl
    exact Within.goOn within found same
  | answer index paid answer call found sending =>
    have same : (Call.mk call.id call.attempt true paid answer.phase).id = call.id := rfl
    exact Within.goOn within found same

theorem alone_retry (single : isAlone before label = true) (selected : before.retrying label = some (id, attempt)) :
    (∀ call ∈ before.calls, call.id = id → call.isLive = false) ∧ before.attempts[id]? = some attempt ∧
      attempt.status = .retrying := by
  have checked : before.isFree id = true ∧ before.attempts[id]? = some attempt ∧ attempt.status = .retrying := by
    simpa [isAlone, selected, and_assoc] using single
  obtain ⟨free, stored, status⟩ := checked
  refine ⟨?_, stored, status⟩
  intro call member same
  have apart := List.all_eq_true.mp free call member
  simpa [same] using apart

theorem ne_of_within (within : Within before) (member : call ∈ before.calls) : call.id ≠ before.attempts.length :=
  Nat.ne_of_lt (within call member rfl)

theorem Alone.change (alone : Alone before) (within : Within before) (change : Change config before label after)
    (single : isAlone before label = true) : Alone after := by
  cases change with
  | create =>
    apply Exclusive.start alone
    intro call member same
    exact absurd same (ne_of_within within member)
  | pass => exact alone
  | retry pass passes id attempt selected =>
    apply Exclusive.start alone
    intro call member same
    exact (alone_retry single selected).1 call member same
  | query index now call phase row new found stored done =>
    have same : Call.id { call with phase } = call.id := rfl
    exact Exclusive.set alone found same fun _ => live_of_query done
  | fail index message call phase found caught =>
    have same : Call.id { call with phase } = call.id := rfl
    exact Exclusive.set alone found same fun _ => live_of_catch caught
  | answer index paid answer call found sending =>
    have same : (Call.mk call.id call.attempt true paid answer.phase).id = call.id := rfl
    apply Exclusive.set alone found same
    intro _
    simp [Call.isLive, sending, Phase.isOver]

theorem Kept.agrees_query (kept : Kept before) (found : before.calls[index]? = some call)
    (stored : before.attempts[call.id]? = some row) (done : call.query config row now = some (new, phase)) :
    Related Call.id Call.Agrees (before.attempts.set call.id new) (before.calls.set index { call with phase }) := by
  have same : Call.id { call with phase } = call.id := rfl
  have here := kept.agrees call (List.mem_of_getElem? found) row stored
  rw [← same]
  apply Related.write kept.agrees kept.alone found (live_of_query done) same
  · intro other row ended
    exact agrees_of_over ended
  · cases written_of_query done with
    | mark _ _ marking status number retries next =>
      obtain ⟨numbered, bounded⟩ := here.number (live_of_query done) (by rw [marking]; rfl)
      constructor
      · rcases next with rfl | ⟨message, rfl⟩ <;> simp [Phase.allows, status]
      · intro _ _
        exact ⟨numbered.trans number.symm, bounded.trans retries.symm⟩
    | complete _ _ reference transactionId completing status number retries ended =>
      apply agrees_of_over
      simp [Call.isLive, ended]
    | bury _ message failing status =>
      constructor
      · simp [Phase.allows, status]
      · intro _ logging
        cases logging
    | schedule _ _ message failing left status number retries ended =>
      apply agrees_of_over
      simp [Call.isLive, ended]
    | log _ message logging ended =>
      apply agrees_of_over
      simp [Call.isLive, ended]

theorem Kept.change (kept : Kept before) (change : Change config before label after)
    (single : isAlone before label = true) : Kept after := by
  have within : Within after := by
    apply kept.within.change change
    intro id attempt selected
    exact (List.getElem?_eq_some_iff.mp (alone_retry single selected).2.1).1
  refine ⟨kept.alone.change kept.within change single, within, ?_⟩
  cases change with
  | create provider amount =>
    apply Related.start
    · apply Related.append_row kept.agrees kept.within
      intro call row absent
      cases absent
    · intro row stored
      cases (List.getElem?_concat_length).symm.trans stored
      exact ⟨rfl, fun _ _ => ⟨rfl, rfl⟩⟩
  | pass => exact kept.agrees
  | retry pass passes id attempt selected =>
    obtain ⟨_, there, status⟩ := alone_retry single selected
    apply Related.start kept.agrees
    intro row stored
    cases there.symm.trans stored
    refine ⟨?_, fun _ _ => ⟨rfl, rfl⟩⟩
    simp [Phase.allows, status]
  | query index now call phase row new found stored done =>
    have agrees := kept.agrees_query found stored done
    exact agrees
  | fail index message call phase found caught =>
    apply Related.goOn kept.agrees
    intro row stored
    have here := kept.agrees call (List.mem_of_getElem? found) row stored
    rcases catch_cases caught with ⟨reference, transactionId, completing, text, rfl⟩ | ⟨_, rfl⟩
    · constructor
      · simpa [completing, Phase.allows] using here.status
      · intro _ _
        exact here.number (live_of_catch caught) (by rw [completing]; rfl)
    · exact agrees_of_over rfl
  | answer index paid answer call found sending =>
    apply Related.goOn kept.agrees
    intro row stored
    have here := kept.agrees call (List.mem_of_getElem? found) row stored
    have status : row.status = .processing := by simpa [sending, Phase.allows] using here.status
    have numbered := here.number (by simp [Call.isLive, sending, Phase.isOver]) (by rw [sending]; rfl)
    constructor
    · rcases answer_cases answer with ⟨_, _, _, next⟩ | ⟨_, _, next⟩ <;> simp [next, Phase.allows, status]
    · intro _ _
      exact numbered

theorem kept_initial : Kept .initial :=
  ⟨Exclusive.nil, Placed.nil, Related.nil⟩

def Phase.isCompleting : Phase → Bool
  | .completing _ _ => true
  | _ => false

/-- What was paid is completed, or is about to be. -/
def Call.Pays (call : Call) (row : PayoutAttempt) : Prop :=
  call.paid = true → row.status = .completed ∨ call.phase.isCompleting = true

theorem Call.Agrees.unfinished (agrees : call.Agrees row) (live : call.isLive = true) : row.status ≠ .completed := by
  intro completed
  have allowed := agrees.status
  rw [completed] at allowed
  cases here : call.phase <;> simp [here, Phase.allows, Call.isLive, Phase.isOver] at allowed live

theorem Kept.unpaid (kept : Kept before) (pays : Related Call.id Call.Pays before.attempts before.calls)
    (found : before.calls[index]? = some call) (stored : before.attempts[call.id]? = some row)
    (live : call.isLive = true) (unfinished : row.status ≠ .completed) {i : ℕ} (apart : i ≠ index)
    (there : before.calls[i]? = some other) (same : other.id = call.id) : other.paid = false := by
  apply Bool.eq_false_iff.mpr
  intro paid
  have ended := kept.alone.idle_of_ne found live apart there same
  have place : before.attempts[other.id]? = some row := by rw [same, stored]
  rcases pays other (List.mem_of_getElem? there) row place paid with completed | completing
  · exact unfinished completed
  · cases here : other.phase <;> simp [here, Phase.isCompleting, Call.isLive, Phase.isOver] at completing ended

/-- Each payment is recorded, and no attempt is paid by two calls. -/
structure Recorded (payouts : Payouts) : Prop where
  pays : Related Call.id Call.Pays payouts.attempts payouts.calls
  once : Exclusive Call.id Call.paid payouts.calls

theorem recorded_initial : Recorded .initial :=
  ⟨Related.nil, Exclusive.nil⟩

section

variable (recorded : Recorded before)

include recorded

theorem Recorded.start (passes : List Pass) : Recorded (Payouts.start { before with passes } id attempt) := by
  constructor
  · apply Related.start recorded.pays
    intro row _ paid
    cases paid
  · exact Exclusive.append_idle recorded.once rfl

theorem Recorded.create (within : Within before) :
    Recorded (Payouts.start { before with attempts := before.attempts ++ [row] } id attempt) := by
  constructor
  · apply Related.start
    · apply Related.append_row recorded.pays within
      intro call row absent
      cases absent
    · intro row _ paid
      cases paid
  · exact Exclusive.append_idle recorded.once rfl

section

variable (kept : Kept before) (found : before.calls[index]? = some call)

include kept found

theorem Recorded.query (stored : before.attempts[call.id]? = some row) (done : call.query config row now = some (new, phase)) :
    Recorded (before.update index { call with phase } new call.logged) := by
  have member := List.mem_of_getElem? found
  have live := live_of_query done
  have unfinished := (kept.agrees call member row stored).unfinished live
  have same : Call.id { call with phase } = call.id := rfl
  constructor
  · have written : Related Call.id Call.Pays (before.attempts.set (Call.id { call with phase }) new)
        (before.calls.set index { call with phase }) := by
      apply Related.write_of recorded.pays
      · intro i other apart there here paid
        rw [kept.unpaid recorded.pays found stored live unfinished apart there here] at paid
        cases paid
      · intro paid
        rcases recorded.pays call member row stored paid with completed | completing
        · exact absurd completed unfinished
        · cases written_of_query done with
          | mark _ _ marking => simp [marking, Phase.isCompleting] at completing
          | complete _ _ _ _ _ status => exact .inl status
          | bury _ message failing => simp [failing, Phase.isCompleting] at completing
          | schedule _ _ message failing => simp [failing, Phase.isCompleting] at completing
          | log _ message logging => simp [logging, Phase.isCompleting] at completing
    exact written
  · exact Exclusive.set recorded.once found same id

theorem Recorded.fail (live : call.isLive = true) (other : call.phase.isCompleting = false) :
    Recorded (before.goOn index { call with phase }) := by
  have member := List.mem_of_getElem? found
  have same : Call.id { call with phase } = call.id := rfl
  constructor
  · apply Related.goOn recorded.pays
    intro row stored paid
    rcases recorded.pays call member row stored paid with completed | completing
    · exact absurd completed ((kept.agrees call member row stored).unfinished live)
    · rw [other] at completing
      cases completing
  · exact Exclusive.set recorded.once found same id

theorem Recorded.answer (sending : call.phase = .sending) {paid : Bool} {answer : Answer} (reported : paid = answer.isSuccess) :
    Recorded (before.goOn index ⟨call.id, call.attempt, true, paid, answer.phase⟩) := by
  have member := List.mem_of_getElem? found
  have same : (Call.mk call.id call.attempt true paid answer.phase).id = call.id := rfl
  have live : call.isLive = true := by simp [Call.isLive, sending, Phase.isOver]
  constructor
  · apply Related.goOn recorded.pays
    intro row stored now
    have success : answer.isSuccess = true := reported.symm.trans now
    rcases answer_cases answer with ⟨_, reference, transactionId, next⟩ | ⟨refused, _⟩
    · right
      simp [next, Phase.isCompleting]
    · rw [refused] at success
      cases success
  · cases paid with
    | false => exact Exclusive.set recorded.once found same (fun absent => nomatch absent)
    | true =>
      apply Exclusive.enter recorded.once
      intro other there here
      obtain ⟨row, stored⟩ : ∃ row, before.attempts[call.id]? = some row :=
        ⟨_, List.getElem?_eq_getElem (kept.within call member rfl)⟩
      have unfinished := (kept.agrees call member row stored).unfinished live
      obtain ⟨i, place⟩ := List.mem_iff_getElem?.mp there
      by_cases itself : i = index
      · subst itself
        cases found.symm.trans place
        apply Bool.eq_false_iff.mpr
        intro earlier
        rcases recorded.pays _ member row stored earlier with completed | completing
        · exact unfinished completed
        · simp [sending, Phase.isCompleting] at completing
      · exact kept.unpaid recorded.pays found stored live unfinished itself place here

end

theorem Recorded.change (kept : Kept before) (change : Change config before label after)
    (reports : isRecorded before label = true) : Recorded after := by
  cases change with
  | create => exact recorded.create kept.within
  | pass => exact ⟨recorded.pays, recorded.once⟩
  | retry pass passes id attempt selected => exact recorded.start passes
  | query index now call phase row new found stored done =>
    have written := recorded.query kept found stored done
    exact written
  | fail index message call phase found caught =>
    have other : call.phase.isCompleting = false := by
      cases here : call.phase <;> first | rfl | simp [isRecorded, Payouts.failing, found, here] at reports
    have failed : Recorded (before.goOn index { call with phase }) :=
      recorded.fail kept found (live_of_catch caught) other
    exact failed
  | answer index paid answer call found sending =>
    apply recorded.answer kept found sending
    simpa [isRecorded, Payouts.failing] using reports

end

theorem Recorded.paidOnce (recorded : Recorded last) : PaidOnce last :=
  fun id => Exclusive.countP_le_one recorded.once id

theorem Recorded.stands (recorded : Recorded last) (kept : Kept last) : Stands last := by
  intro id row stored positive
  obtain ⟨call, member, here⟩ := List.countP_pos_iff.mp positive
  obtain ⟨same, paid⟩ := Bool.and_eq_true_iff.mp here
  obtain rfl : call.id = id := of_decide_eq_true same
  rcases recorded.pays call member row stored paid with completed | completing
  · simp [completed]
  · have allowed := (kept.agrees call member row stored).status
    cases next : call.phase <;> simp [next, Phase.isCompleting] at completing
    have status : row.status = .processing := by simpa [next, Phase.allows] using allowed
    simp [status]

/-- The attempt may still be sent. -/
def PayoutStatus.isRetriable : PayoutStatus → Bool
  | .pending | .processing | .retrying => true
  | _ => false

/-- The call has not called the provider yet, and will. -/
def Phase.isEarly : Phase → Bool
  | .marking | .sending => true
  | _ => false

/-- The calls of an attempt to the provider are numbered, apart from one that is under way. -/
structure Counts (payouts : Payouts) (id : ℕ) (row : PayoutAttempt) : Prop where
  sends : payouts.sends id ≤ row.attemptNumber + (decide (row.status = .processing)).toNat
  early : ∀ call ∈ payouts.calls, call.id = id → call.phase.isEarly = true → payouts.sends id ≤ row.attemptNumber
  room : row.attemptNumber + row.status.isRetriable.toNat ≤ row.maxRetries

def Counted : Prop :=
  ∀ (id : ℕ) row, payouts.attempts[id]? = some row → Counts payouts id row

theorem Counts.bounded (counts : Counts last id row) : last.sends id ≤ row.maxRetries := by
  have sends := counts.sends
  have room := counts.room
  by_cases processing : row.status = .processing
  · grind [decide_true, PayoutStatus.isRetriable]
  · grind

theorem sends_append (payouts : Payouts) (attempts : List PayoutAttempt) (passes : List Pass) (attempt : PayoutAttempt)
    (other id : ℕ) :
    (Payouts.start { payouts with attempts, passes } other attempt).sends id = payouts.sends id := by
  rw [Payouts.sends, Payouts.start, List.countP_append, Payouts.sends]
  simp

theorem sends_goOn (found : before.calls[index]? = some call) (phase : Phase) (id : ℕ) :
    (before.goOn index { call with phase }).sends id = before.sends id := by
  have counted := countP_set (fun call : Call => decide (call.id = id) && call.sent) found { call with phase }
  exact Nat.add_right_cancel counted

theorem Counts.goOn (counts : Counts before id row) (found : before.calls[index]? = some call)
    (later : phase.isEarly = false) : Counts (before.goOn index { call with phase }) id row := by
  constructor
  · rw [sends_goOn found]
    exact counts.sends
  · intro other member same early
    rw [sends_goOn found]
    rcases List.mem_or_eq_of_mem_set member with earlier | rfl
    · exact counts.early other earlier same early
    · rw [later] at early
      cases early
  · exact counts.room

theorem Counts.start (counts : Counts before id row) (attempts : List PayoutAttempt) (passes : List Pass) {other : ℕ}
    (settled : other = id → before.sends id ≤ row.attemptNumber) :
    Counts (Payouts.start { before with attempts, passes } other attempt) id row := by
  constructor
  · rw [sends_append]
    exact counts.sends
  · intro call member same early
    rw [sends_append]
    rcases List.mem_append.mp member with earlier | last
    · exact counts.early call earlier same early
    · obtain rfl := List.mem_singleton.mp last
      exact settled same
  · exact counts.room

theorem Kept.late (kept : Kept before) (found : before.calls[index]? = some call) (live : call.isLive = true)
    (later : phase.isEarly = false) :
    ∀ other ∈ before.calls.set index { call with phase }, other.id = call.id → other.phase.isEarly = false := by
  intro other member same
  obtain ⟨i, there⟩ := List.mem_iff_getElem?.mp member
  rcases getElem?_set_of_some there with ⟨_, rfl⟩ | ⟨apart, present⟩
  · exact later
  · have ended := kept.alone.idle_of_ne found live apart present same
    cases here : other.phase <;> first | rfl | simp [here, Call.isLive, Phase.isOver] at ended

theorem Counts.query (counts : Counts before call.id row) (kept : Kept before)
    (found : before.calls[index]? = some call) (stored : before.attempts[call.id]? = some row)
    (done : call.query config row now = some (new, phase)) :
    Counts (before.update index { call with phase } new call.logged) call.id new := by
  have member := List.mem_of_getElem? found
  have live := live_of_query done
  have agrees := kept.agrees call member row stored
  have unchanged : (before.update index { call with phase } new call.logged).sends call.id = before.sends call.id :=
    sends_goOn found phase call.id
  have sends := counts.sends
  have room := counts.room
  cases written_of_query done with
  | mark _ _ marking status number retries next =>
    have unsent := counts.early call member rfl (by rw [marking]; rfl)
    have allowed := agrees.status
    constructor
    · omega
    · intro other _ _ _
      rw [unchanged, number]
      exact unsent
    · rw [number, retries, status]
      cases old : row.status <;> simp [marking, old, Phase.allows] at allowed
      all_goals
        rw [old] at room
        exact room
  | complete _ _ reference transactionId completing status number retries ended =>
    have numbered := (agrees.number live (by rw [completing]; rfl)).1
    have processing : row.status = .processing := by simpa [completing, Phase.allows] using agrees.status
    rw [processing] at sends room
    have late : phase.isEarly = false := by cases phase <;> first | rfl | cases ended
    constructor
    · rw [unchanged, number, numbered]
      exact Nat.le_trans sends (Nat.le_add_right _ _)
    · intro other there same early
      rw [kept.late found live late other there same] at early
      cases early
    · rw [number, numbered, retries, status]
      exact room
  | bury _ message failing status number retries =>
    have numbered := (agrees.number live (by rw [failing]; rfl)).1
    have processing : row.status = .processing := by simpa [failing, Phase.allows] using agrees.status
    rw [processing] at sends room
    constructor
    · rw [unchanged, number, numbered]
      exact Nat.le_trans sends (Nat.le_add_right _ _)
    · intro other there same early
      rw [kept.late found live rfl other there same] at early
      cases early
    · rw [number, numbered, retries, status]
      exact room
  | schedule _ _ message failing left status number retries ended =>
    obtain ⟨numbered, bounded⟩ := agrees.number live (by rw [failing]; rfl)
    have processing : row.status = .processing := by simpa [failing, Phase.allows] using agrees.status
    rw [processing] at sends
    have late : phase.isEarly = false := by cases phase <;> first | rfl | cases ended
    constructor
    · rw [unchanged, number, numbered]
      exact Nat.le_trans sends (Nat.le_add_right _ _)
    · intro other there same early
      rw [kept.late found live late other there same] at early
      cases early
    · rw [number, retries, status, ← bounded]
      exact left
  | log _ message logging ended =>
    have late : phase.isEarly = false := by cases phase <;> first | rfl | cases ended
    have counted := counts.goOn found late
    exact ⟨counted.sends, counted.early, counted.room⟩

theorem Counts.apart (counts : Counts before id row) (found : before.calls[index]? = some call) (elsewhere : call.id ≠ id) :
    Counts (before.goOn index { call with phase }) id row := by
  constructor
  · rw [sends_goOn found]
    exact counts.sends
  · intro other member same early
    rw [sends_goOn found]
    rcases List.mem_or_eq_of_mem_set member with earlier | rfl
    · exact counts.early other earlier same early
    · exact absurd same elsewhere
  · exact counts.room

theorem Counts.answer (counts : Counts before id row) (kept : Kept before) (found : before.calls[index]? = some call)
    (stored : before.attempts[id]? = some row) (sending : call.phase = .sending) (paid : Bool) (answer : Answer) :
    Counts (before.goOn index ⟨call.id, call.attempt, true, paid, answer.phase⟩) id row := by
  have member := List.mem_of_getElem? found
  have counted := countP_set (fun call : Call => decide (call.id = id) && call.sent) found
    ⟨call.id, call.attempt, true, paid, answer.phase⟩
  change (before.goOn index ⟨call.id, call.attempt, true, paid, answer.phase⟩).sends id + _ = before.sends id + _ at counted
  by_cases here : call.id = id
  · subst here
    have unsent := counts.early call member rfl (by rw [sending]; rfl)
    have processing : row.status = .processing := by
      simpa [sending, Phase.allows] using (kept.agrees call member row stored).status
    have live : call.isLive = true := by simp [Call.isLive, sending, Phase.isOver]
    have later : answer.phase.isEarly = false := by
      rcases answer_cases answer with ⟨_, _, _, next⟩ | ⟨_, _, next⟩ <;> rw [next] <;> rfl
    constructor
    · grind
    · intro other there same early
      obtain ⟨i, place⟩ := List.mem_iff_getElem?.mp there
      rcases getElem?_set_of_some place with ⟨_, rfl⟩ | ⟨apart, present⟩
      · rw [later] at early
        cases early
      · have ended := kept.alone.idle_of_ne found live apart present same
        cases phase : other.phase <;> simp [phase, Call.isLive, Phase.isOver, Phase.isEarly] at ended early
    · exact counts.room
  · have unchanged : Payouts.sends (before.goOn index ⟨call.id, call.attempt, true, paid, answer.phase⟩) id =
        before.sends id := by simpa [here] using counted
    constructor
    · rw [unchanged]
      exact counts.sends
    · intro other there same early
      rw [unchanged]
      rcases List.mem_or_eq_of_mem_set there with earlier | rfl
      · exact counts.early other earlier same early
      · exact absurd same here
    · exact counts.room

theorem Counted.change (counted : Counted before) (kept : Kept before) (change : Change config before label after)
    (single : isAlone before label = true) (positive : isPositive config label = true) : Counted after := by
  intro id new stored
  cases change with
  | create provider amount =>
    rcases getElem?_append_singleton stored with earlier | ⟨rfl, rfl⟩
    · apply (counted id new earlier).start _ before.passes
      intro same
      rw [← same] at earlier
      exact absurd (List.getElem?_eq_some_iff.mp earlier).1 (Nat.lt_irrefl _)
    · have unsent : before.sends before.attempts.length = 0 := by
        apply List.countP_eq_zero.mpr
        intro call member
        simp [ne_of_within kept.within member]
      have fresh : Counts before before.attempts.length ⟨provider, amount, .pending, 0, config.maxRetries, none, none, none⟩ := by
        constructor
        · omega
        · intro call member same
          exact absurd same (ne_of_within kept.within member)
        · exact of_decide_eq_true positive
      apply fresh.start _ before.passes
      intro _
      exact Nat.le_of_eq unsent
  | pass label passes =>
    obtain ⟨sends, early, room⟩ := counted id new stored
    exact ⟨sends, early, room⟩
  | retry pass passes other attempt selected =>
    obtain ⟨_, there, status⟩ := alone_retry single selected
    apply (counted id new stored).start before.attempts
    rintro rfl
    obtain rfl := Option.some.inj (there.symm.trans stored)
    have sends := (counted other attempt there).sends
    rw [status] at sends
    exact sends
  | query index now call phase row written found place done =>
    rcases getElem?_set_of_some stored with ⟨rfl, rfl⟩ | ⟨apart, earlier⟩
    · have now := (counted call.id row place).query kept found place done
      exact now
    · have other : Counts (before.goOn index { call with phase }) id new :=
        (counted id new earlier).apart found (Ne.symm apart)
      exact ⟨other.sends, other.early, other.room⟩
  | fail index message call phase found caught =>
    have late : phase.isEarly = false := by
      rcases catch_cases caught with ⟨_, _, _, _, rfl⟩ | ⟨_, rfl⟩ <;> rfl
    have later : Counts (before.goOn index { call with phase }) id new := (counted id new stored).goOn found late
    exact later
  | answer index paid answer call found sending =>
    exact (counted id new stored).answer kept found stored sending paid answer

/-- An attempt that is not in a final status has a call that will still write to it. -/
def Promised : Prop :=
  ∀ (id : ℕ) row, payouts.attempts[id]? = some row → row.status.isFinal = true ∨
    ∃ call ∈ payouts.calls, call.id = id ∧ call.isPromised row.status = true

theorem Promised.goOn (promised : Promised before) (found : before.calls[index]? = some call)
    (keeps : ∀ row, before.attempts[call.id]? = some row → call.isPromised row.status = true →
      other.id = call.id ∧ other.isPromised row.status = true) : Promised (before.goOn index other) := by
  intro id row stored
  rcases promised id row stored with final | ⟨witness, member, same, promise⟩
  · exact .inl final
  · right
    by_cases itself : witness = call
    · subst itself same
      obtain ⟨here, stays⟩ := keeps row stored promise
      exact ⟨other, List.mem_set (List.getElem?_eq_some_iff.mp found).1 other, here, stays⟩
    · exact ⟨witness, mem_set_of_ne member found itself, same, promise⟩

theorem Promised.query (promised : Promised before) (found : before.calls[index]? = some call)
    (stored : before.attempts[call.id]? = some row) (done : call.query config row now = some (new, phase)) :
    Promised (before.update index { call with phase } new call.logged) := by
  have member : { call with phase } ∈ before.calls.set index { call with phase } :=
    List.mem_set (List.getElem?_eq_some_iff.mp found).1 _
  intro id written place
  rcases getElem?_set_of_some place with ⟨rfl, rfl⟩ | ⟨apart, earlier⟩
  · cases written_of_query done with
    | mark _ _ marking status number retries next =>
      right
      refine ⟨_, member, rfl, ?_⟩
      rcases next with rfl | ⟨message, rfl⟩ <;> rfl
    | complete _ _ _ _ _ status | bury _ _ _ status | schedule _ _ _ _ _ status => exact .inl (by rw [status]; rfl)
    | log _ message logging =>
      rcases promised call.id _ stored with final | ⟨witness, there, same, promise⟩
      · exact .inl final
      · right
        refine ⟨witness, mem_set_of_ne there found ?_, same, promise⟩
        rintro rfl
        simp [Call.isPromised, logging] at promise
  · rcases promised id written earlier with final | ⟨witness, there, same, promise⟩
    · exact .inl final
    · right
      refine ⟨witness, mem_set_of_ne there found ?_, same, promise⟩
      rintro rfl
      exact apart same.symm

theorem Promised.change (promised : Promised before) (change : Change config before label after)
    (settles : isSettling before label = true) : Promised after := by
  cases change with
  | create provider amount =>
    intro id row stored
    rcases getElem?_append_singleton stored with earlier | ⟨rfl, rfl⟩
    · rcases promised id row earlier with final | ⟨witness, there, same, promise⟩
      · exact .inl final
      · exact .inr ⟨witness, List.mem_append_left _ there, same, promise⟩
    · exact .inr ⟨_, List.mem_append_right _ (List.mem_singleton.mpr rfl), rfl, rfl⟩
  | pass => exact promised
  | retry pass passes id attempt selected =>
    intro id row stored
    rcases promised id row stored with final | ⟨witness, there, same, promise⟩
    · exact .inl final
    · exact .inr ⟨witness, List.mem_append_left _ there, same, promise⟩
  | query index now call phase row new found stored done =>
    have written := promised.query found stored done
    exact written
  | fail index message call phase found caught =>
    apply promised.goOn found
    intro row stored promise
    refine ⟨rfl, ?_⟩
    rcases catch_cases caught with ⟨_, _, _, text, rfl⟩ | ⟨marking | ⟨text, failing | logging⟩, rfl⟩
    · rfl
    · simp_all [Call.isPromised, isSettling, Payouts.failing]
    · simp [isSettling, Payouts.failing, found, failing] at settles
    · simp [Call.isPromised, logging] at promise
  | answer index paid answer call found sending =>
    apply promised.goOn found
    intro row _ _
    refine ⟨rfl, ?_⟩
    rcases answer_cases answer with ⟨_, _, _, next⟩ | ⟨_, _, next⟩ <;> simp [Call.isPromised, next]

theorem Promised.finished (promised : Promised last) : Finished last := by
  intro id row stored _ ended
  rcases promised id row stored with final | ⟨call, member, same, promise⟩
  · exact final
  · grind [Call.isPromised, Phase.isOver]

/-- Retries that are alone, and payments that are reported and recorded. -/
def isSafe (before : Payouts) (label : Label) : Bool :=
  isAlone before label && isRecorded before label

/-- Retries that are alone, of attempts that have one. -/
def isCounted (config : Config) (before : Payouts) (label : Label) : Bool :=
  isAlone before label && isPositive config label

theorem payouts_follow (run : Run (step config) .initial trace last) :
    (Throughout (step config) .initial (fun before label _ => isSafe before label = true) trace →
      PaidOnce last ∧ Stands last) ∧
    (Throughout (step config) .initial (fun before label _ => isCounted config before label = true) trace →
      Bounded last) ∧
    (Throughout (step config) .initial (fun before label _ => isSettling before label = true) trace →
      Finished last) := by
  refine ⟨?_, ?_, ?_⟩
  · intro every
    have kept : Kept last ∧ Recorded last := by
      apply run.kept every
      · exact ⟨kept_initial, recorded_initial⟩
      · intro before label after ⟨kept, recorded⟩ move kind
        obtain ⟨single, reports⟩ := Bool.and_eq_true_iff.mp kind
        have change := change_of_step move
        exact ⟨kept.change change single, recorded.change kept change reports⟩
    exact ⟨kept.2.paidOnce, kept.2.stands kept.1⟩
  · intro every
    have kept : Kept last ∧ Counted last := by
      apply run.kept every
      · refine ⟨kept_initial, ?_⟩
        intro id row stored
        cases stored
      · intro before label after ⟨kept, counted⟩ move kind
        obtain ⟨single, positive⟩ := Bool.and_eq_true_iff.mp kind
        have change := change_of_step move
        exact ⟨kept.change change single, counted.change kept change single positive⟩
    intro id row stored
    exact (kept.2 id row stored).bounded
  · intro every
    have promised : Promised last := by
      apply run.kept every
      · intro id row stored
        cases stored
      · intro before label after promised move settles
        exact promised.change (change_of_step move) settles
    exact promised.finished

/-- The defaults, with the numbers of the sample as text. -/
def configSample : Config :=
  ⟨3, 10000, 600000, fun value => toString value.num⟩

/-- A first failure, and a retry that is paid. -/
def retriedOnce : List Label :=
  [.processSep31PayoutWithRetry "mtn" 100, .query 0 0, .answer 0 false (.failure none), .query 0 0,
    .runPayoutRetryJob 10000 [0], .next 0, .query 1 10000, .answer 1 true (.success (some "ref") none), .query 1 10000,
    .settle 0]

theorem retriedOnce_follows : ∃ last : Payouts, last.attempts.map PayoutAttempt.status = [.completed] ∧
    last.payments 0 = 1 ∧ PaidOnce last ∧ Stands last ∧ Bounded last ∧ Finished last := by
  have followed : (retriedOnce.foldlM (Payouts.perform configSample) .initial).map (fun payouts =>
      (payouts.attempts.map PayoutAttempt.status, payouts.payments 0)) = some ([.completed], 1) := by decide
  obtain ⟨last, reached, same⟩ := Option.map_eq_some_iff.mp followed
  obtain ⟨status, payments⟩ := Prod.mk.inj same
  obtain ⟨safe, counted, settled⟩ := payouts_follow (Run.follow reached)
  obtain ⟨once, stands⟩ := safe (throughout_follow (by decide))
  refine ⟨last, status, payments, once, stands, ?_, ?_⟩
  · exact counted (throughout_follow (by decide))
  · exact settled (throughout_follow (by decide))

/-- The provider pays, the update to `completed` fails, and the retry pays again. -/
def paidTwice : List Label :=
  [.processSep31PayoutWithRetry "mtn" 100, .query 0 0, .answer 0 true (.success (some "ref") none),
    .fail 0 (some "Connection terminated"), .query 0 0, .runPayoutRetryJob 10000 [0], .next 0, .query 1 10000,
    .answer 1 true (.success (some "ref") none), .query 1 10000]

theorem attemptPaidTwice_not_once : ¬∀ (config : Config) (trace : List Label) (last : Payouts),
    Run (step config) .initial trace last → PaidOnce last ∧ Bounded last ∧ Stands last ∧ Finished last := by
  intro always
  have followed : (paidTwice.foldlM (Payouts.perform configSample) .initial).map (fun payouts => payouts.payments 0) =
      some 2 := by decide
  obtain ⟨last, reached, payments⟩ := Option.map_eq_some_iff.mp followed
  have once := (always configSample paidTwice last (Run.follow reached)).1 0
  rw [payments] at once
  exact absurd once (by decide)

end ProxyPay.Sep31Payouts
