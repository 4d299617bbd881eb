import ProxyPay.Library.Script
import ProxyPay.Library.Transition

/-! Scripts under way whose requests may be given up. A request that was given up stays in
flight: it completes later, and may then take effect, but nobody waits for its answer. -/

namespace ProxyPay.Library

variable {Request : Type} {Reply : Request → Type} {Error α : Type}

namespace Script

variable {script rest : Script Request Reply Error α}
variable {exchanges : List (Exchange Request Reply Error)}

/-- An exchange of which it is learned later whether it took effect. -/
def settle (tookEffect : Bool) (exchange : Exchange Request Reply Error) : Exchange Request Reply Error :=
  { exchange with tookEffect }

variable {index : Nat} {tookEffect : Bool}

theorem settle_append {later : List (Exchange Request Reply Error)} (inside : index < exchanges.length) :
    (exchanges ++ later).modify index (settle tookEffect) = exchanges.modify index (settle tookEffect) ++ later := by
  induction exchanges generalizing index with
  | nil => simp at inside
  | cons exchange rest ih => grind

theorem settle_requests :
    (exchanges.modify index (settle tookEffect)).map Exchange.request = exchanges.map Exchange.request := by
  induction exchanges generalizing index with
  | nil => simp
  | cons exchange rest ih =>
    cases index with
    | zero => rfl
    | succ index => simp [ih]

/-- Whether a request takes effect makes no difference to the script. -/
theorem runs_settle {outcome : Except Error α} (runs : Runs script exchanges outcome)
    (index : Nat) (tookEffect : Bool) :
    Runs script (exchanges.modify index (settle tookEffect)) outcome := by
  induction runs generalizing index with
  | done outcome => simpa using Runs.done outcome
  | await reply effect rest ih =>
    cases index with
    | zero => simpa [settle] using Runs.await reply tookEffect rest
    | succ index => simpa using Runs.await reply effect (ih index)

/-- After the exchanges, `rest` is left of the script. -/
def Reaches (script : Script Request Reply Error α)
    (exchanges : List (Exchange Request Reply Error)) (rest : Script Request Reply Error α) : Prop :=
  ∀ later outcome, Runs rest later outcome → Runs script (exchanges ++ later) outcome

namespace Reaches

theorem start : Reaches script [] script :=
  fun _ _ runs => runs

theorem next {request : Request} {next : Except Error (Reply request) → Script Request Reply Error α}
    (reaches : Reaches script exchanges (.await request next))
    (reply : Except Error (Reply request)) (tookEffect : Bool) :
    Reaches script (exchanges ++ [⟨request, reply, tookEffect⟩]) (next reply) := by
  intro later outcome runs
  simpa using reaches _ _ (.await reply tookEffect runs)

theorem settle (reaches : Reaches script exchanges rest) (index : Nat) (tookEffect : Bool) :
    Reaches script (exchanges.modify index (Script.settle tookEffect)) rest := by
  intro later outcome runs
  by_cases inside : index < exchanges.length
  · have settled := runs_settle (reaches later outcome runs) index tookEffect
    rwa [settle_append inside] at settled
  · rw [List.modify_eq_self (by omega)]
    exact reaches later outcome runs

theorem runs {outcome : Except Error α} (reaches : Reaches script exchanges (.done outcome)) :
    Runs script exchanges outcome := by
  simpa using reaches [] outcome (.done outcome)

end Reaches

end Script

/-- A script under way: what is left of it, what has been exchanged, and the positions of
the requests that were given up and have not completed. -/
structure Flight (Request : Type) (Reply : Request → Type) (Error α : Type) where
  rest : Script Request Reply Error α
  exchanges : List (Exchange Request Reply Error)
  inFlight : List Nat

/-- The awaited request is answered, or given up with an error; one that was given up
completes. -/
inductive FlightEvent (Request : Type) (Reply : Request → Type) (Error : Type) where
  | answer (answer : (request : Request) → Except Error (Reply request) × Bool)
  | giveUp (error : Error)
  | complete (index : Nat) (tookEffect : Bool)

namespace Flight

def start (script : Script Request Reply Error α) : Flight Request Reply Error α :=
  ⟨script, [], []⟩

/-- One step, where only timed requests are given up. -/
def step (timed : Request → Bool) (flight : Flight Request Reply Error α) :
    FlightEvent Request Reply Error → Option (Flight Request Reply Error α)
  | .answer answer =>
    match flight.rest with
    | .done _ => none
    | .await request next =>
      some { flight with
        rest := next (answer request).1
        exchanges := flight.exchanges ++ [⟨request, (answer request).1, (answer request).2⟩] }
  | .giveUp error =>
    match flight.rest with
    | .done _ => none
    | .await request next =>
      if timed request then
        some {
          rest := next (.error error)
          exchanges := flight.exchanges ++ [⟨request, .error error, false⟩]
          inFlight := flight.inFlight ++ [flight.exchanges.length] }
      else none
  | .complete index tookEffect =>
    if index ∈ flight.inFlight then
      some { flight with
        exchanges := flight.exchanges.modify index (Script.settle tookEffect)
        inFlight := flight.inFlight.erase index }
    else none

/-- The exchanges of a flight lead from its script to what is left of it, and every step
is accounted for by an exchange or by the completion of a timed one. -/
structure Tracks (timed : Request → Bool) (script : Script Request Reply Error α) (steps : Nat)
    (flight : Flight Request Reply Error α) : Prop where
  reaches : script.Reaches flight.exchanges flight.rest
  steps : steps + flight.inFlight.length ≤
    flight.exchanges.length + (flight.exchanges.map Exchange.request).countP timed

section

variable {timed : Request → Bool} {script : Script Request Reply Error α}

theorem tracks_start : Tracks timed script 0 (start script) :=
  ⟨.start, Nat.le_refl 0⟩

variable {flight : Flight Request Reply Error α}

theorem tracks_step {steps : Nat} {after : Flight Request Reply Error α} {event : FlightEvent Request Reply Error}
    (tracks : Tracks timed script steps flight) (moved : flight.step timed event = some after) :
    Tracks timed script (steps + 1) after := by
  obtain ⟨rest, exchanges, inFlight⟩ := flight
  obtain ⟨reaches, bound⟩ := tracks
  cases event with
  | answer answer =>
    cases rest with
    | done outcome => cases moved
    | await request next =>
      cases moved
      refine ⟨reaches.next _ _, ?_⟩
      simp only [List.length_append, List.map_append, List.countP_append, List.length_singleton]
      simp only at bound
      omega
  | giveUp error =>
    cases rest with
    | done outcome => cases moved
    | await request next =>
      simp only [step] at moved
      split at moved
      · next isTimed =>
        cases moved
        refine ⟨reaches.next _ _, ?_⟩
        simp only [List.length_append, List.map_append, List.countP_append, List.length_singleton,
          List.map_cons, List.map_nil, List.countP_singleton, isTimed, ↓reduceIte]
        simp only at bound
        omega
      · cases moved
  | complete index tookEffect =>
    simp only [step] at moved
    split at moved
    · next present =>
      cases moved
      have positive := List.length_pos_of_mem present
      refine ⟨reaches.settle index tookEffect, ?_⟩
      simp only [Script.settle_requests, List.length_modify, List.length_erase_of_mem present]
      simp only at bound
      omega
    · cases moved

theorem tracks_run {trace : List (FlightEvent Request Reply Error)}
    (run : Run (fun before event after => before.step timed event = some after) (start script)
      trace flight) : Tracks timed script trace.length flight :=
  run.invariant (fun trace flight => Tracks timed script trace.length flight) tracks_start
    fun trace _ _ _ tracks moved => by simpa using tracks_step tracks moved

end

/-- A flight that is not over can go on. -/
theorem progress (timed : Request → Bool) {flight : Flight Request Reply Error α} (error : Error)
    (under : flight.rest.isDone = false) : ∃ event after, flight.step timed event = some after := by
  obtain ⟨rest, exchanges, inFlight⟩ := flight
  cases rest with
  | done outcome => cases under
  | await request next => exact ⟨.answer fun _ => (.error error, false), _, rfl⟩

end Flight

end ProxyPay.Library
