import Mathlib

/-! Asynchronous code as a tree of awaited requests, and a logic for it. A request is
answered by a value or by an exception, and in both cases it may have taken effect. -/

namespace ProxyPay.Library

/-- Code that ends with an outcome or awaits the answer to a request. -/
inductive Script (Request : Type) (Reply : Request → Type) (Error α : Type) where
  | done (outcome : Except Error α)
  | await (request : Request)
      (next : Except Error (Reply request) → Script Request Reply Error α)

/-- A request with the answer it got. -/
structure Exchange (Request : Type) (Reply : Request → Type) (Error : Type) where
  request : Request
  reply : Except Error (Reply request)
  tookEffect : Bool

namespace Script

variable {Request : Type} {Reply : Request → Type} {Error α β : Type}

def bind (script : Script Request Reply Error α) (next : α → Script Request Reply Error β) :
    Script Request Reply Error β :=
  match script with
  | .done (.ok value) => next value
  | .done (.error error) => .done (.error error)
  | .await request rest => .await request fun reply => (rest reply).bind next

/-- `try { script } catch (error) { handler }` -/
def catching (script : Script Request Reply Error α)
    (handler : Error → Script Request Reply Error α) : Script Request Reply Error α :=
  match script with
  | .done (.ok value) => .done (.ok value)
  | .done (.error error) => handler error
  | .await request rest => .await request fun reply => (rest reply).catching handler

instance : Monad (Script Request Reply Error) where
  pure value := .done (.ok value)
  bind := Script.bind

instance : MonadExceptOf Error (Script Request Reply Error) where
  throw error := .done (.error error)
  tryCatch := Script.catching

/-- `await request` -/
def call (request : Request) : Script Request Reply Error (Reply request) :=
  .await request .done

/-- A check that awaits nothing. -/
def check (result : Except Error α) : Script Request Reply Error α :=
  .done result

/-- `await script.catch(() => undefined)` -/
def ignoringErrors (script : Script Request Reply Error α) : Script Request Reply Error Unit :=
  (script.bind fun _ => .done (.ok ())).catching fun _ => .done (.ok ())

/-- The complete runs of a script, under all answers. -/
inductive Runs : Script Request Reply Error α → List (Exchange Request Reply Error) →
    Except Error α → Prop where
  | done (outcome : Except Error α) : Runs (.done outcome) [] outcome
  | await {request : Request}
      {next : Except Error (Reply request) → Script Request Reply Error α}
      {exchanges : List (Exchange Request Reply Error)} {outcome : Except Error α}
      (reply : Except Error (Reply request)) (tookEffect : Bool)
      (rest : Runs (next reply) exchanges outcome) :
      Runs (.await request next) (⟨request, reply, tookEffect⟩ :: exchanges) outcome

/-- One step of a script that awaits an answer. -/
def advance (answer : (request : Request) → Except Error (Reply request) × Bool) : Script Request Reply Error α →
      Option (Exchange Request Reply Error × Script Request Reply Error α)
  | .done _ => none
  | .await request next =>
    some (⟨request, (answer request).1, (answer request).2⟩, next (answer request).1)

/-- The script is over. -/
def isDone : Script Request Reply Error α → Bool
  | .done _ => true
  | .await .. => false

/-- What surrounds a script: to each request, given everything exchanged before, an
answer and whether the request took effect. -/
abbrev World (Request : Type) (Reply : Request → Type) (Error : Type) :=
  List (Exchange Request Reply Error) → (request : Request) →
    Except Error (Reply request) × Bool

/-- The run that a world produces, after the exchanges of `history`. -/
def run (world : World Request Reply Error) (history : List (Exchange Request Reply Error)) :
    Script Request Reply Error α → List (Exchange Request Reply Error) × Except Error α
  | .done outcome => ([], outcome)
  | .await request next =>
    let answer := world history request
    let exchange : Exchange Request Reply Error := ⟨request, answer.1, answer.2⟩
    let rest := (next answer.1).run world (history ++ [exchange])
    (exchange :: rest.1, rest.2)

theorem runs_run (script : Script Request Reply Error α) (world : World Request Reply Error)
    (history : List (Exchange Request Reply Error)) :
    Runs script (script.run world history).1 (script.run world history).2 := by
  induction script generalizing history with
  | done outcome => exact .done outcome
  | await request next ih => exact .await _ _ (ih _ _)

variable {exchanges : List (Exchange Request Reply Error)}

theorem runs_bind {script : Script Request Reply Error α} {next : α → Script Request Reply Error β}
    {outcome : Except Error β} (runs : Runs (script.bind next) exchanges outcome) :
    (∃ error, Runs script exchanges (.error error) ∧ outcome = .error error) ∨
    (∃ value first second, Runs script first (.ok value) ∧ Runs (next value) second outcome ∧
      exchanges = first ++ second) := by
  induction script generalizing exchanges with
  | done result =>
    cases result with
    | error error =>
      cases runs
      exact .inl ⟨error, .done _, rfl⟩
    | ok value => exact .inr ⟨value, [], exchanges, .done _, runs, rfl⟩
  | await request rest ih =>
    cases runs with
    | await reply tookEffect later =>
      rcases ih reply later with ⟨error, raised, same⟩ | ⟨value, first, second, returned, continued, rfl⟩
      · exact .inl ⟨error, .await reply tookEffect raised, same⟩
      · exact .inr ⟨value, _, second, .await reply tookEffect returned, continued, rfl⟩

theorem runs_catching {script : Script Request Reply Error α}
    {handler : Error → Script Request Reply Error α} {outcome : Except Error α}
    (runs : Runs (script.catching handler) exchanges outcome) :
    (∃ value, Runs script exchanges (.ok value) ∧ outcome = .ok value) ∨
    (∃ error first second, Runs script first (.error error) ∧
      Runs (handler error) second outcome ∧ exchanges = first ++ second) := by
  induction script generalizing exchanges with
  | done result =>
    cases result with
    | error error => exact .inr ⟨error, [], exchanges, .done _, runs, rfl⟩
    | ok value =>
      cases runs
      exact .inl ⟨value, .done _, rfl⟩
  | await request rest ih =>
    cases runs with
    | await reply tookEffect later =>
      rcases ih reply later with ⟨value, returned, same⟩ | ⟨error, first, second, raised, handled, rfl⟩
      · exact .inl ⟨value, .await reply tookEffect returned, same⟩
      · exact .inr ⟨error, _, second, .await reply tookEffect raised, handled, rfl⟩

theorem runs_call {request : Request}
    {outcome : Except Error (Reply request)} (runs : Runs (call request) exchanges outcome) :
    ∃ tookEffect, exchanges = [⟨request, outcome, tookEffect⟩] := by
  cases runs with
  | await reply tookEffect rest =>
    cases rest
    exact ⟨tookEffect, rfl⟩

/-- The script makes only the allowed requests. -/
def Asks (allowed : Request → Prop) : Script Request Reply Error α → Prop
  | .done _ => True
  | .await request next => allowed request ∧ ∀ reply, (next reply).Asks allowed

namespace Asks

variable {allowed : Request → Prop} {script : Script Request Reply Error α}

theorem weaken {wider : Request → Prop} (asks : script.Asks allowed)
    (wide : ∀ request, allowed request → wider request) : script.Asks wider := by
  induction script with
  | done outcome => trivial
  | await request next ih => exact ⟨wide request asks.1, fun reply => ih reply (asks.2 reply)⟩

theorem done (outcome : Except Error α) : (Script.done outcome : Script Request Reply Error α).Asks allowed :=
  trivial

theorem call {request : Request} (fits : allowed request) :
    (call request : Script Request Reply Error (Reply request)).Asks allowed :=
  ⟨fits, fun _ => trivial⟩

theorem bind {next : α → Script Request Reply Error β} (first : script.Asks allowed)
    (rest : ∀ value, (next value).Asks allowed) : (script.bind next).Asks allowed := by
  induction script with
  | done outcome =>
    cases outcome with
    | error error => trivial
    | ok value => exact rest value
  | await request next ih => exact ⟨first.1, fun reply => ih reply (first.2 reply)⟩

theorem catching {handler : Error → Script Request Reply Error α} (first : script.Asks allowed)
    (handles : ∀ error, (handler error).Asks allowed) :
    (script.catching handler).Asks allowed := by
  induction script with
  | done outcome =>
    cases outcome with
    | error error => exact handles error
    | ok value => trivial
  | await request next ih => exact ⟨first.1, fun reply => ih reply (first.2 reply)⟩

theorem ignoringErrors (asks : script.Asks allowed) : script.ignoringErrors.Asks allowed :=
  (asks.bind fun _ => .done _).catching fun _ => .done _

end Asks

/-- The script makes only the allowed requests, and it returns as soon as every request
that `answers` is answered by a value. -/
def Calm (allowed answers : Request → Prop) : Script Request Reply Error α → Prop
  | .done outcome => ∃ value, outcome = .ok value
  | .await request next => allowed request ∧ (∀ value, (next (.ok value)).Calm allowed answers) ∧
      ∀ error, (next (.error error)).Asks allowed ∧
        (¬ answers request → (next (.error error)).Calm allowed answers)

namespace Calm

variable {allowed answers : Request → Prop} {script : Script Request Reply Error α}

theorem asks (calm : script.Calm allowed answers) : script.Asks allowed := by
  induction script with
  | done outcome => trivial
  | await request next ih =>
    refine ⟨calm.1, ?_⟩
    intro reply
    cases reply with
    | ok value => exact ih _ (calm.2.1 value)
    | error error => exact (calm.2.2 error).1

theorem done (value : α) : (Script.done (.ok value) : Script Request Reply Error α).Calm allowed answers :=
  ⟨value, rfl⟩

theorem call {request : Request} (fits : allowed request) (answered : answers request) :
    (call request : Script Request Reply Error (Reply request)).Calm allowed answers :=
  ⟨fits, fun value => ⟨value, rfl⟩, fun _ => ⟨trivial, fun unanswered => absurd answered unanswered⟩⟩

theorem bind {next : α → Script Request Reply Error β} (first : script.Calm allowed answers)
    (rest : ∀ value, (next value).Calm allowed answers) :
    (script.bind next).Calm allowed answers := by
  induction script with
  | done outcome =>
    obtain ⟨value, rfl⟩ := first
    exact rest value
  | await request next ih =>
    refine ⟨first.1, fun value => ih _ (first.2.1 value), fun error => ⟨?_, ?_⟩⟩
    · exact (first.2.2 error).1.bind fun value => (rest value).asks
    · exact fun unanswered => ih _ ((first.2.2 error).2 unanswered)

/-- A script whose exceptions are ignored need not be answered. -/
theorem ignoringErrors (asks : script.Asks allowed) : script.ignoringErrors.Calm allowed answers := by
  unfold Script.ignoringErrors
  induction script with
  | done outcome => cases outcome <;> exact ⟨(), rfl⟩
  | await request next ih =>
    refine ⟨asks.1, fun value => ih _ (asks.2 _), fun error => ⟨?_, fun _ => ih _ (asks.2 _)⟩⟩
    exact (asks.2 (.error error)).ignoringErrors

end Calm

end Script

/-- A view of runs: what is kept of the exchanges so far, and what is assumed of the next. -/
structure Observer (Request : Type) (Reply : Request → Type) (Error S : Type) where
  observe : S → Exchange Request Reply Error → S
  meets : S → Exchange Request Reply Error → Prop

namespace Observer

variable {Request : Type} {Reply : Request → Type} {Error S α β : Type}
variable (observer : Observer Request Reply Error S)

/-- What has been observed after a list of exchanges. -/
def after (state : S) (exchanges : List (Exchange Request Reply Error)) : S :=
  exchanges.foldl observer.observe state

/-- Every exchange meets the assumption in the state observed before it. -/
def AllMeet (state : S) : List (Exchange Request Reply Error) → Prop
  | [] => True
  | exchange :: rest =>
    observer.meets state exchange ∧ AllMeet (observer.observe state exchange) rest

theorem allMeet_append {state : S} {first second : List (Exchange Request Reply Error)} :
    observer.AllMeet state (first ++ second) ↔
      observer.AllMeet state first ∧ observer.AllMeet (observer.after state first) second := by
  induction first generalizing state with
  | nil => simp [AllMeet, after]
  | cons exchange rest ih => simp [AllMeet, after, ih, and_assoc]

theorem after_append (state : S) (first second : List (Exchange Request Reply Error)) :
    observer.after state (first ++ second) = observer.after (observer.after state first) second :=
  List.foldl_append

/-- From a state of `pre`, every run that meets the assumption ends in `post`. -/
def Triple (pre : S → Prop) (script : Script Request Reply Error α) (post : Except Error α → S → Prop) : Prop :=
  ∀ state exchanges outcome, pre state → script.Runs exchanges outcome →
    observer.AllMeet state exchanges → post outcome (observer.after state exchanges)

/-- A postcondition given separately for returning and for raising. -/
def ends (returned : α → S → Prop) (raised : Error → S → Prop) : Except Error α → S → Prop
  | .ok value => returned value
  | .error error => raised error

namespace Triple

variable {observer} {pre : S → Prop} {script : Script Request Reply Error α}
variable {post : Except Error α → S → Prop}

theorem weaken {stronger : S → Prop} {weaker : Except Error α → S → Prop}
    (triple : observer.Triple pre script post) (before : ∀ state, stronger state → pre state)
    (after : ∀ outcome state, post outcome state → weaker outcome state) :
    observer.Triple stronger script weaker := by
  intro state exchanges outcome holds runs meets
  exact after _ _ (triple state exchanges outcome (before _ holds) runs meets)

theorem either {after : S → Prop} (triple : observer.Triple pre script fun _ => after) :
    observer.Triple pre script (ends (fun _ => after) fun _ => after) := by
  refine triple.weaken (fun _ holds => holds) ?_
  intro outcome state holds
  cases outcome <;> exact holds

theorem done {outcome : Except Error α} (holds : ∀ state, pre state → post outcome state) :
    observer.Triple pre (.done outcome) post := by
  intro state exchanges result initially runs _
  cases runs
  exact holds state initially

theorem call {request : Request} {post : Except Error (Reply request) → S → Prop}
    (answer : ∀ state reply tookEffect, pre state → observer.meets state ⟨request, reply, tookEffect⟩ →
      post reply (observer.observe state ⟨request, reply, tookEffect⟩)) :
    observer.Triple pre (Script.call request) post := by
  intro state exchanges outcome holds runs meets
  cases runs with
  | await reply tookEffect rest =>
    cases rest
    exact answer state _ tookEffect holds meets.1

variable {middle : Except Error α → S → Prop} {next : α → Script Request Reply Error β}

theorem bind {post : Except Error β → S → Prop} (first : observer.Triple pre script middle)
    (rest : ∀ value, observer.Triple (middle (.ok value)) (next value) post)
    (raised : ∀ error state, middle (.error error) state → post (.error error) state) :
    observer.Triple pre (script.bind next) post := by
  intro state exchanges outcome holds runs meets
  rcases Script.runs_bind runs with ⟨error, failed, rfl⟩ | ⟨value, early, late, returned, later, rfl⟩
  · exact raised error _ (first state exchanges _ holds failed meets)
  · obtain ⟨earlyMeets, lateMeets⟩ := observer.allMeet_append.mp meets
    rw [observer.after_append]
    exact rest value _ late outcome (first state early _ holds returned earlyMeets) later lateMeets

variable {holds : S → Prop}

/-- After a script that keeps its condition and returns, the condition still holds. -/
theorem calm_bind {post : Except Error β → S → Prop} (first : observer.Triple holds script fun outcome state =>
      holds state ∧ ∃ value, outcome = .ok value)
    (rest : ∀ value, observer.Triple holds (next value) post) :
    observer.Triple holds (script.bind next) post := by
  refine first.bind (fun value => (rest value).weaken (fun _ kept => kept.1) fun _ _ ended => ended) ?_
  rintro error state ⟨_, value, same⟩
  cases same

theorem catching {handler : Error → Script Request Reply Error α} (first : observer.Triple pre script middle)
    (returned : ∀ value state, middle (.ok value) state → post (.ok value) state)
    (handles : ∀ error, observer.Triple (middle (.error error)) (handler error) post) :
    observer.Triple pre (script.catching handler) post := by
  intro state exchanges outcome holds runs meets
  rcases Script.runs_catching runs with ⟨value, ended, rfl⟩ | ⟨error, early, late, raised, later, rfl⟩
  · exact returned value _ (first state exchanges _ holds ended meets)
  · obtain ⟨earlyMeets, lateMeets⟩ := observer.allMeet_append.mp meets
    rw [observer.after_append]
    exact handles error _ late outcome (first state early _ holds raised earlyMeets) later lateMeets

/-- What every allowed exchange keeps is kept by a script that makes only allowed requests. -/
theorem keeps {allowed : Request → Prop} (asks : script.Asks allowed)
    (kept : ∀ state (exchange : Exchange Request Reply Error), allowed exchange.request →
      observer.meets state exchange → holds state → holds (observer.observe state exchange)) :
    observer.Triple holds script fun _ => holds := by
  intro state exchanges outcome initially runs meets
  induction runs generalizing state with
  | done outcome => exact initially
  | await reply tookEffect rest ih =>
    exact ih (asks.2 reply) _ (kept state _ asks.1 meets.1 initially) meets.2

/-- A calm script returns when the assumption provides the answers it relies on. -/
theorem calm {allowed answers : Request → Prop} (calm : script.Calm allowed answers)
    (kept : ∀ state (exchange : Exchange Request Reply Error), allowed exchange.request →
      observer.meets state exchange → holds state → holds (observer.observe state exchange))
    (answered : ∀ state (exchange : Exchange Request Reply Error), allowed exchange.request →
      answers exchange.request → observer.meets state exchange → holds state →
      ∃ value, exchange.reply = .ok value) :
    observer.Triple holds script fun outcome state =>
      holds state ∧ ∃ value, outcome = .ok value := by
  intro state exchanges outcome initially runs meets
  induction runs generalizing state with
  | done outcome => exact ⟨initially, calm⟩
  | @await request next exchanges outcome reply tookEffect rest ih =>
    have continued := kept state ⟨request, reply, tookEffect⟩ calm.1 meets.1 initially
    cases reply with
    | ok value => exact ih (calm.2.1 value) _ continued meets.2
    | error error =>
      have unanswered : ¬ answers request := by
        intro relied
        obtain ⟨value, same⟩ := answered state ⟨request, .error error, tookEffect⟩ calm.1 relied
          meets.1 initially
        cases same
      exact ih ((calm.2.2 error).2 unanswered) _ continued meets.2

end Triple

end Observer

end ProxyPay.Library
