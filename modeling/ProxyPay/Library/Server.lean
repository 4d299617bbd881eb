import ProxyPay.Library.Script
import ProxyPay.Library.Transition

/-! Scripts whose requests are served by one shared state: a script that is served alone, and
any number of them whose requests are served in any order. -/

namespace ProxyPay.Library

/-- An event decides how the state answers a request and whether the request takes effect. -/
structure Server (Request : Type) (Reply : Request → Type) (Error Event S : Type) where
  serve : S → Event → (request : Request) → Except Error (Reply request) × Bool × S

/-- A script that was served to its end. -/
structure Execution (Request : Type) (Reply : Request → Type) (Error α S : Type) where
  exchanges : List (Exchange Request Reply Error)
  outcome : Except Error α
  state : S

namespace Server

variable {Request : Type} {Reply : Request → Type} {Error Event S α β : Type}
variable (server : Server Request Reply Error Event S)

def exchange (state : S) (event : Event) (request : Request) : Exchange Request Reply Error :=
  ⟨request, (server.serve state event request).1, (server.serve state event request).2.1⟩

/-- The state after the request was served. -/
def next (state : S) (event : Event) (request : Request) : S :=
  (server.serve state event request).2.2

/-- The script is served alone, with one event for each of its requests. -/
def execute : Script Request Reply Error α → List Event → S → Option (Execution Request Reply Error α S)
  | .done outcome, [], state => some ⟨[], outcome, state⟩
  | .done _, _ :: _, _ => none
  | .await _ _, [], _ => none
  | .await request rest, event :: events, state =>
    (execute (rest (server.exchange state event request).reply) events
      (server.next state event request)).map fun execution =>
        { execution with exchanges := server.exchange state event request :: execution.exchanges }

variable {server} {state : S} {events : List Event} {request : Request}
variable {execution : Execution Request Reply Error α S}

theorem execute_done {outcome : Except Error α}
    (executed : server.execute (.done outcome) events state = some execution) :
    execution = ⟨[], outcome, state⟩ := by
  cases events with
  | nil => exact (Option.some.inj executed).symm
  | cons event events => cases executed

theorem execute_await {rest : Except Error (Reply request) → Script Request Reply Error α}
    (executed : server.execute (.await request rest) events state = some execution) :
    ∃ event later continued, events = event :: later ∧
      server.execute (rest (server.exchange state event request).reply) later
        (server.next state event request) = some continued ∧
      execution = ⟨server.exchange state event request :: continued.exchanges, continued.outcome, continued.state⟩ := by
  cases events with
  | nil => cases executed
  | cons event later =>
    obtain ⟨continued, done, rfl⟩ := Option.map_eq_some_iff.mp executed
    exact ⟨event, later, continued, rfl, done, rfl⟩

/-- What every allowed request keeps is kept by a script that makes only allowed requests. -/
theorem execute_keeps {allowed : Request → Prop} {holds : S → Prop}
    {script : Script Request Reply Error α} (asks : script.Asks allowed)
    (kept : ∀ state event request, allowed request → holds state → holds (server.next state event request))
    (executed : server.execute script events state = some execution) (initially : holds state) :
    holds execution.state := by
  induction script generalizing events state execution with
  | done outcome =>
    rw [execute_done executed]
    exact initially
  | await request rest ih =>
    obtain ⟨event, later, continued, _, done, rfl⟩ := execute_await executed
    have served := kept state event request asks.1 initially
    have ended : holds continued.state := ih _ (asks.2 _) done served
    exact ended

/-- Whatever happens, the script that is served alone from this state ends as `post` says. -/
def Ensures (server : Server Request Reply Error Event S) (state : S)
    (script : Script Request Reply Error α) (post : Execution Request Reply Error α S → Prop) : Prop :=
  ∀ events execution, server.execute script events state = some execution → post execution

namespace Ensures

variable {script : Script Request Reply Error α} {result : Except Error β}
variable {post weaker : Execution Request Reply Error α S → Prop}

theorem weaken (ensures : server.Ensures state script post)
    (after : ∀ execution, post execution → weaker execution) : server.Ensures state script weaker := by
  intro events execution executed
  exact after execution (ensures events execution executed)

theorem done {outcome : Except Error α} (ends : post ⟨[], outcome, state⟩) :
    server.Ensures state (.done outcome) post := by
  intro events execution executed
  rw [execute_done executed]
  exact ends

/-- An awaited request that raises ends the script. -/
theorem call_bind {next : Reply request → Script Request Reply Error α}
    (raised : ∀ event error, (server.exchange state event request).reply = .error error →
      post ⟨[server.exchange state event request], .error error, server.next state event request⟩)
    (answered : ∀ event value, (server.exchange state event request).reply = .ok value →
      server.Ensures (server.next state event request) (next value) fun execution =>
        post ⟨server.exchange state event request :: execution.exchanges, execution.outcome, execution.state⟩) :
    server.Ensures state ((Script.call request).bind next) post := by
  intro events execution executed
  obtain ⟨event, later, continued, _, done, rfl⟩ := execute_await executed
  cases reply : (server.exchange state event request).reply with
  | error error =>
    rw [reply] at done
    rw [execute_done done]
    exact raised event error reply
  | ok value =>
    rw [reply] at done
    exact answered event value reply later continued done

theorem check_bind {next : β → Script Request Reply Error α}
    (failed : ∀ error, result = .error error → post ⟨[], .error error, state⟩)
    (passed : ∀ value, result = .ok value → server.Ensures state (next value) post) :
    server.Ensures state ((Script.check result).bind next) post := by
  cases result with
  | error error => exact done (failed error rfl)
  | ok value => exact passed value rfl

/-- What is left after an answer. -/
theorem rested {rest : Except Error (Reply request) → Script Request Reply Error α}
    (ensures : server.Ensures state (.await request rest) post) (event : Event) :
    server.Ensures (server.next state event request) (rest (server.exchange state event request).reply) fun execution =>
      post ⟨server.exchange state event request :: execution.exchanges, execution.outcome, execution.state⟩ := by
  intro events execution executed
  apply ensures (event :: events)
  simp [execute, executed]

variable {middle : Execution Request Reply Error β S → Prop}

theorem bind {next : β → Script Request Reply Error α} {script : Script Request Reply Error β} (first : server.Ensures state script middle)
    (raised : ∀ execution error, middle execution → execution.outcome = .error error →
      post ⟨execution.exchanges, .error error, execution.state⟩)
    (returned : ∀ execution value, middle execution → execution.outcome = .ok value →
      server.Ensures execution.state (next value) fun later =>
        post ⟨execution.exchanges ++ later.exchanges, later.outcome, later.state⟩) :
    server.Ensures state (script.bind next) post := by
  induction script generalizing state middle post with
  | done outcome =>
    have ended := first [] ⟨[], outcome, state⟩ rfl
    cases outcome with
    | error error => exact done (raised _ error ended rfl)
    | ok value => exact returned _ value ended rfl
  | await request rest ih =>
    intro events execution executed
    obtain ⟨event, later, continued, rfl, done, rfl⟩ := execute_await executed
    have combined : server.Ensures (server.next state event request)
        ((rest (server.exchange state event request).reply).bind next) fun execution =>
          post ⟨server.exchange state event request :: execution.exchanges, execution.outcome,
            execution.state⟩ := by
      exact ih _ (first.rested event) (fun _ error ended failed => raised _ error ended failed)
        fun _ value ended answered => returned _ value ended answered
    exact combined later continued done

/-- The handler goes on where the script has raised. -/
theorem catching {script : Script Request Reply Error α} {handler : Error → Script Request Reply Error α}
    {middle : Execution Request Reply Error α S → Prop} (first : server.Ensures state script middle)
    (returned : ∀ execution value, middle execution → execution.outcome = .ok value → post execution)
    (handled : ∀ execution error, middle execution → execution.outcome = .error error →
      server.Ensures execution.state (handler error) fun later =>
        post ⟨execution.exchanges ++ later.exchanges, later.outcome, later.state⟩) :
    server.Ensures state (script.catching handler) post := by
  induction script generalizing state middle post with
  | done outcome =>
    have ended := first [] ⟨[], outcome, state⟩ rfl
    cases outcome with
    | error error => exact handled _ error ended rfl
    | ok value => exact done (returned _ value ended rfl)
  | await request rest ih =>
    intro events execution executed
    obtain ⟨event, later, continued, rfl, done, rfl⟩ := execute_await executed
    have combined : server.Ensures (server.next state event request)
        ((rest (server.exchange state event request).reply).catching handler) fun execution =>
          post ⟨server.exchange state event request :: execution.exchanges, execution.outcome,
            execution.state⟩ := by
      exact ih _ (first.rested event) (fun _ value ended answered => returned _ value ended answered)
        fun _ error ended failed => handled _ error ended failed
    exact combined later continued done

variable {allowed : Request → Prop}

/-- A calm script returns when every request is answered that it relies on. -/
theorem calm {answers : Request → Prop} {script : Script Request Reply Error α} (calm : script.Calm allowed answers) :
    server.Ensures state script fun execution =>
      (∀ exchange ∈ execution.exchanges, answers exchange.request → ∃ value, exchange.reply = .ok value) →
        ∃ value, execution.outcome = .ok value := by
  induction script generalizing state with
  | done outcome =>
    apply done
    intro _
    exact calm
  | await request rest ih =>
    intro events execution executed
    obtain ⟨event, later, continued, rfl, done, rfl⟩ := execute_await executed
    intro answered
    have onward : (rest (server.exchange state event request).reply).Calm allowed answers := by
      cases reply : (server.exchange state event request).reply with
      | ok value => exact calm.2.1 value
      | error error =>
        apply (calm.2.2 error).2
        intro relied
        obtain ⟨value, same⟩ := answered _ List.mem_cons_self relied
        cases reply.symm.trans same
    exact ih _ onward later continued done fun exchange member => answered exchange (List.mem_cons_of_mem _ member)

theorem both {script : Script Request Reply Error α} (first : server.Ensures state script post)
    (second : server.Ensures state script weaker) :
    server.Ensures state script fun execution => post execution ∧ weaker execution := by
  intro events execution executed
  exact ⟨first events execution executed, second events execution executed⟩

/-- What follows awaits nothing. -/
theorem bind_done {script : Script Request Reply Error β} {last : β → Except Error α} (first : server.Ensures state script middle)
    (after : ∀ execution outcome, middle execution → post ⟨execution.exchanges, outcome, execution.state⟩) :
    server.Ensures state (script.bind fun value => .done (last value)) post := by
  refine bind first (fun execution error ended _ => after execution _ ended) ?_
  intro execution value ended _
  apply done
  simpa using after execution (last value) ended

/-- What every allowed request keeps is kept by a script that makes only allowed requests. -/
theorem keeps (holds : S → Prop) (asks : script.Asks allowed)
    (kept : ∀ state event request, allowed request → holds state →
      holds (server.next state event request)) (initially : holds state) :
    server.Ensures state script fun execution => holds execution.state :=
  fun _ _ executed => execute_keeps asks kept executed initially

end Ensures

end Server

namespace Script

variable {Request : Type} {Reply : Request → Type} {Error α β : Type}

theorem bind_assoc {γ : Type} (script : Script Request Reply Error α)
    (next : α → Script Request Reply Error β) (last : β → Script Request Reply Error γ) :
    (script.bind next).bind last = script.bind fun value => (next value).bind last := by
  induction script with
  | done outcome => cases outcome <;> rfl
  | await request rest ih => simp [Script.bind, ih]

/-- Whatever the answers are, the script asks only what `asks` permits after the exchanges that
it has had, and it returns only what `returns` permits. -/
def Follows (asks : List (Exchange Request Reply Error) → Request → Prop)
    (returns : List (Exchange Request Reply Error) → α → Prop) :
    List (Exchange Request Reply Error) → Script Request Reply Error α → Prop
  | history, .done outcome => ∀ value, outcome = .ok value → returns history value
  | history, .await request next => asks history request ∧
      ∀ reply tookEffect, Follows asks returns (history ++ [⟨request, reply, tookEffect⟩]) (next reply)

namespace Follows

variable {asks : List (Exchange Request Reply Error) → Request → Prop}
variable {returns : List (Exchange Request Reply Error) → α → Prop}
variable {history : List (Exchange Request Reply Error)}

theorem done {value : α} (permitted : returns history value) : Follows asks returns history (.done (.ok value)) := by
  intro result same
  cases same
  exact permitted

/-- An awaited request that raises ends the script. -/
theorem call_bind {request : Request} {next : Reply request → Script Request Reply Error α}
    (permitted : asks history request)
    (answered : ∀ value tookEffect, Follows asks returns (history ++ [⟨request, .ok value, tookEffect⟩]) (next value)) :
    Follows asks returns history ((call request).bind next) := by
  constructor
  · exact permitted
  · intro reply tookEffect
    cases reply with
    | error error => exact nofun
    | ok value => exact answered value tookEffect

/-- The same inside a function that is called. -/
theorem call_bind_bind {request : Request} {next : Reply request → Script Request Reply Error β}
    {last : β → Script Request Reply Error α} (permitted : asks history request)
    (answered : ∀ value tookEffect,
      Follows asks returns (history ++ [⟨request, .ok value, tookEffect⟩]) ((next value).bind last)) :
    Follows asks returns history (((call request).bind next).bind last) := by
  rw [bind_assoc]
  exact call_bind permitted answered

theorem check_bind {result : Except Error β} {next : β → Script Request Reply Error α}
    (passed : ∀ value, result = .ok value → Follows asks returns history (next value)) :
    Follows asks returns history ((check result).bind next) := by
  cases result with
  | error error => exact nofun
  | ok value => exact passed value rfl

variable {allowed : Request → Prop}

section

variable {script : Script Request Reply Error α}

/-- A script whose requests are permitted from here on and that may return anything. -/
theorem of_asks_after (restricted : script.Asks allowed)
    (permitted : ∀ later request, allowed request → asks (history ++ later) request)
    (returned : ∀ later value, returns (history ++ later) value) : Follows asks returns history script := by
  have onward : ∀ later, Follows asks returns (history ++ later) script := by
    induction script with
    | done outcome => exact fun later value _ => returned later value
    | await request next ih =>
      intro later
      refine ⟨permitted _ _ restricted.1, fun reply tookEffect => ?_⟩
      rw [List.append_assoc]
      exact ih reply (restricted.2 reply) _
  simpa using onward []

/-- A script whose requests are always permitted and that may return anything. -/
theorem of_asks (restricted : script.Asks allowed)
    (permitted : ∀ history request, allowed request → asks history request)
    (returned : ∀ history value, returns history value) : Follows asks returns history script :=
  of_asks_after restricted (fun _ => permitted _) fun _ => returned _

/-- Any script, where everything is permitted. -/
theorem any (permitted : ∀ history request, asks history request)
    (returned : ∀ history value, returns history value) : Follows asks returns history script := by
  induction script generalizing history with
  | done outcome => exact fun value _ => returned history value
  | await request next ih => exact ⟨permitted _ _, fun reply _ => ih reply⟩

end

end Follows

end Script

/-- A caller of an operation, with what it has exchanged and what is left of its script. -/
structure Caller (Operation Request : Type) (Reply : Request → Type) (Error α : Type) where
  operation : Operation
  exchanges : List (Exchange Request Reply Error)
  rest : Script Request Reply Error α

/-- A shared state with all its callers so far. -/
structure Service (Operation Request : Type) (Reply : Request → Type) (Error α S : Type) where
  state : S
  callers : List (Caller Operation Request Reply Error α)

/-- An operation is called, or the awaited request of a caller is served. -/
inductive Turn (Operation Event : Type) where
  | call (operation : Operation)
  | serve (caller : Nat) (event : Event)
  deriving DecidableEq

namespace Service

variable {Operation Request : Type} {Reply : Request → Type} {Error Event α S : Type}
variable (server : Server Request Reply Error Event S)
variable (script : Operation → Script Request Reply Error α)

variable (service : Service Operation Request Reply Error α S)

def perform :
    Turn Operation Event → Option (Service Operation Request Reply Error α S)
  | .call operation =>
    some { service with callers := service.callers ++ [⟨operation, [], script operation⟩] }
  | .serve index event => do
    let caller ← service.callers[index]?
    match caller.rest with
    | .done _ => none
    | .await request rest =>
      let exchange := server.exchange service.state event request
      some {
        state := server.next service.state event request
        callers := service.callers.set index
          ⟨caller.operation, caller.exchanges ++ [exchange], rest exchange.reply⟩ }

/-- One turn. -/
def step (before : Service Operation Request Reply Error α S) (turn : Turn Operation Event)
    (after : Service Operation Request Reply Error α S) : Prop :=
  before.perform server script turn = some after

/-- All that was ever exchanged. -/
def exchanged : List (Exchange Request Reply Error) :=
  service.callers.flatMap Caller.exchanges

variable {server script}
variable {before after : Service Operation Request Reply Error α S}
variable {operation : Operation} {index : Nat} {event : Event}

theorem step_call (moved : step server script before (.call operation) after) :
    after.state = before.state ∧ after.callers = before.callers ++ [⟨operation, [], script operation⟩] := by
  cases moved
  exact ⟨rfl, rfl⟩

theorem step_serve (moved : step server script before (.serve index event) after) :
    ∃ caller request rest, before.callers[index]? = some caller ∧ caller.rest = .await request rest ∧
      after.state = server.next before.state event request ∧
      after.callers = before.callers.set index
        ⟨caller.operation, caller.exchanges ++ [server.exchange before.state event request],
          rest (server.exchange before.state event request).reply⟩ := by
  unfold step at moved
  simp only [perform] at moved
  obtain ⟨caller, found, moved⟩ := Option.bind_eq_some_iff.mp moved
  cases left : caller.rest with
  | done outcome =>
    rw [left] at moved
    cases moved
  | await request rest => grind

/-- Every caller follows the rules of its operation, whatever else is served. -/
theorem step_follows {asks : Operation → List (Exchange Request Reply Error) → Request → Prop}
    {returns : Operation → List (Exchange Request Reply Error) → α → Prop}
    {turn : Turn Operation Event}
    (follows : ∀ operation, (script operation).Follows (asks operation) (returns operation) [])
    (moved : step server script before turn after)
    (every : ∀ caller ∈ before.callers,
      caller.rest.Follows (asks caller.operation) (returns caller.operation) caller.exchanges) :
    ∀ caller ∈ after.callers,
      caller.rest.Follows (asks caller.operation) (returns caller.operation) caller.exchanges := by
  intro caller member
  cases turn with
  | call operation =>
    rw [(step_call moved).2] at member
    rcases List.mem_append.mp member with earlier | new
    · exact every caller earlier
    · simp_all
  | serve index event =>
    obtain ⟨served, request, rest, found, left, _, callers⟩ := step_serve moved
    rw [callers] at member
    rcases List.mem_or_eq_of_mem_set member with earlier | rfl
    · exact every caller earlier
    · have followed := every served (List.mem_of_getElem? found)
      rw [left] at followed
      exact followed.2 _ _

theorem exchanged_call (moved : step server script before (.call operation) after) :
    after.exchanged = before.exchanged := by
  unfold exchanged
  rw [(step_call moved).2]
  simp

/-- Serving a request adds one exchange. -/
theorem exchanged_serve {caller : Caller Operation Request Reply Error α}
    {exchange : Exchange Request Reply Error} {rest : Script Request Reply Error α}
    {callers : List (Caller Operation Request Reply Error α)} (found : callers[index]? = some caller) :
    ((callers.set index ⟨caller.operation, caller.exchanges ++ [exchange], rest⟩).flatMap
      Caller.exchanges).Perm (exchange :: callers.flatMap Caller.exchanges) := by
  induction callers generalizing index with
  | nil => simp at found
  | cons first others ih =>
    cases index with
    | zero => simp_all
    | succ index =>
      simp only [List.set_cons_succ, List.flatMap_cons]
      have served := (@ih index (by simpa using found)).append_left first.exchanges
      exact served.trans List.perm_middle

end Service

end ProxyPay.Library
