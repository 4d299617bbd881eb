import ProxyPay.Library.Exclusive
import ProxyPay.Webhook.StateMachine

/-! Deliveries to one destination: each asks for permission and, if it is not refused,
reports its outcome once. Outcomes are reported by destination, so that the breaker cannot
tell whose outcome it hears. -/

namespace ProxyPay.Webhook

open ProxyPay.Library

inductive Outcome where
  | success
  | failure (error : Option String)
  deriving DecidableEq

/-- A delivery that was not refused. -/
structure Delivery where
  permission : CircuitPermission
  admittedAt : Int
  reported : Bool
  deriving DecidableEq

/-- The delivery is a probe whose outcome is not known yet. -/
def Delivery.probing (delivery : Delivery) : Bool :=
  delivery.permission = .halfOpen && !delivery.reported

/-- The breaker with the deliveries so far; `probe` is the last one admitted as a probe. -/
structure Gate where
  breakers : Breakers
  clock : Int
  deliveries : List Delivery
  probe : Option Nat

inductive Label where
  | deliver (clock : Readings)
  | report (index : Nat) (outcome : Outcome) (clock : Readings)
  | reset (clock : Readings)

def Label.clock : Label → Readings
  | .deliver clock => clock
  | .report _ _ clock => clock
  | .reset clock => clock

def Gate.start (began : Int) : Gate := ⟨.empty, began, [], none⟩

def reportOutcome (config : Config) (breakers : Breakers) (url : String) (wasProbe : Bool)
    (clock : Readings) : Outcome → Breakers
  | .success => recordSuccess breakers url clock
  | .failure error => recordFailure config breakers url error wasProbe clock

def Gate.move (config : Config) (url : String) (gate : Gate) : Label → Option Gate
  | .deliver clock =>
    let (permission, breakers) := acquirePermission config gate.breakers url clock.first
    match permission with
    | .open => some { gate with breakers, clock := clock.second }
    | .closed =>
      some { gate with
        breakers, clock := clock.second
        deliveries := gate.deliveries ++ [⟨.closed, clock.first, false⟩] }
    | .halfOpen =>
      some { gate with
        breakers, clock := clock.second
        deliveries := gate.deliveries ++ [⟨.halfOpen, clock.first, false⟩]
        probe := some gate.deliveries.length }
  | .report index outcome clock => do
    let delivery ← gate.deliveries[index]?
    if delivery.reported then none
    else
      return { gate with
        breakers := reportOutcome config gate.breakers url (delivery.permission = .halfOpen) clock outcome
        clock := clock.second
        deliveries := gate.deliveries.set index { delivery with reported := true } }
  | .reset clock =>
    some { gate with breakers := reset gate.breakers url clock.first, clock := clock.second }

/-- A move on a clock that never goes back. -/
def Gate.Step (config : Config) (url : String) (before : Gate) (label : Label) (after : Gate) : Prop :=
  before.clock ≤ label.clock.first ∧ before.move config url label = some after

/-- No two deliveries that were admitted as probes are both unreported. -/
def Gate.OneProbe (gate : Gate) : Prop :=
  Exclusive (fun _ => ()) Delivery.probing gate.deliveries

/-- A breaker leaves `halfOpen` only with the outcome of the probe, or by a reset. -/
def LeavesByProbe (url : String) (before : Gate) (label : Label) (after : Gate) : Prop :=
  (before.breakers.record url).state = .halfOpen → (after.breakers.record url).state ≠ .halfOpen →
    match label with
    | .deliver _ => False
    | .report index _ _ => before.probe = some index
    | .reset _ => True

/-- What the half-open gate promises of a step. -/
def Gated (url : String) (before : Gate) (label : Label) (after : Gate) : Prop :=
  after.OneProbe ∧ LeavesByProbe url before label after

/-- Only the probe reports while the breaker is half open, and the breaker does not move to
half open again while an earlier probe, which a reset cut off, is still unreported. -/
def Attributed (config : Config) (url : String) (gate : Gate) (label : Label) (_ : Gate) : Prop :=
  match label with
  | .deliver clock => (gate.breakers.record url).Expired config clock.first →
      ∀ delivery ∈ gate.deliveries, delivery.probing = false
  | .report index _ _ => (gate.breakers.record url).state = .halfOpen → gate.probe = some index
  | .reset _ => True

section Steps

variable {config : Config} {url : String} {gate after : Gate} {clock : Readings}

theorem deliver_move (coherent : (gate.breakers.record url).Coherent config)
    (move : gate.move config url (.deliver clock) = some after) :
    ((gate.breakers.record url).Expired config clock.first ∧ (after.breakers.record url).state = .halfOpen ∧
      after.deliveries = gate.deliveries ++ [⟨.halfOpen, clock.first, false⟩] ∧
      after.probe = some gate.deliveries.length) ∨
    (¬ (gate.breakers.record url).Expired config clock.first ∧ after.breakers.record url = gate.breakers.record url ∧
      (after.deliveries = gate.deliveries ∨ (gate.breakers.record url).state = .closed ∧
          after.deliveries = gate.deliveries ++ [⟨.closed, clock.first, false⟩]) ∧
      after.probe = gate.probe) := by
  simp only [Gate.move, acquirePermission] at move
  rcases BreakerRecord.acquire_cases coherent clock.first with ⟨expired, admitted⟩ | ⟨current, unchanged⟩
  · left
    rw [admitted] at move
    cases move
    exact ⟨expired, by simp, rfl, rfl⟩
  · right
    rw [unchanged] at move
    refine ⟨current, ?_⟩
    by_cases closed : (gate.breakers.record url).state = .closed
    · rw [if_pos closed] at move
      cases move
      exact ⟨by simp, .inr ⟨closed, rfl⟩, rfl⟩
    · rw [if_neg closed] at move
      cases move
      exact ⟨by simp, .inl rfl, rfl⟩

theorem report_move {index : Nat} {outcome : Outcome}
    (move : gate.move config url (.report index outcome clock) = some after) :
    ∃ delivery, gate.deliveries[index]? = some delivery ∧ delivery.reported = false ∧
      after.deliveries = gate.deliveries.set index { delivery with reported := true } ∧
      after.probe = gate.probe ∧
      (after.breakers.record url).state ≠ .halfOpen ∧
      ∃ call, after.breakers.record url =
        (gate.breakers.record url).answer config clock call := by
  simp only [Gate.move, Option.bind_eq_bind, Option.bind_eq_some_iff] at move
  obtain ⟨delivery, found, moved⟩ := move
  split at moved
  · cases moved
  · next unreported =>
    cases moved
    refine ⟨delivery, found, by simpa using unreported, rfl, rfl, ?_⟩
    cases outcome with
    | success =>
      simp only [reportOutcome, recordSuccess, Breakers.record_put_self]
      refine ⟨?_, .recordSuccess, rfl⟩
      cases state : (gate.breakers.record url).state <;>
        simp [BreakerRecord.recordSuccess, BreakerRecord.transition, state]
    | failure error =>
      simp only [reportOutcome, recordFailure, Breakers.record_put_self]
      refine ⟨?_, .recordFailure error (delivery.permission = .halfOpen), rfl⟩
      cases state : (gate.breakers.record url).state with
      | closed =>
        rw [BreakerRecord.failure_closed state]
        split <;> simp [BreakerRecord.failed, state]
      | «open» => simp [BreakerRecord.failure_open state, BreakerRecord.failed, state]
      | halfOpen => simp [BreakerRecord.failure_halfOpen state]

theorem reset_move (move : gate.move config url (.reset clock) = some after) :
    after.deliveries = gate.deliveries ∧ after.probe = gate.probe ∧
      after.breakers.record url = (gate.breakers.record url).answer config clock .reset := by
  cases move
  exact ⟨rfl, rfl, by simp [reset, BreakerRecord.answer]⟩

section

variable {label : Label} (coherent : (gate.breakers.record url).Coherent config)

include coherent

theorem coherent_move (move : gate.move config url label = some after) :
    (after.breakers.record url).Coherent config := by
  cases label with
  | deliver clock =>
    rcases deliver_move coherent move with ⟨_, half, _⟩ | ⟨_, same, _⟩
    · have acquired := BreakerRecord.coherent_acquire coherent clock.first
      simp only [Gate.move, acquirePermission] at move
      split at move <;> cases move <;> simpa using acquired
    · rw [same]
      exact coherent
  | report index outcome clock =>
    obtain ⟨_, _, _, _, _, _, call, same⟩ := report_move move
    rw [same]
    exact BreakerRecord.coherent_answer coherent clock call
  | reset clock =>
    rw [(reset_move move).2.2]
    exact BreakerRecord.coherent_answer coherent clock .reset

theorem gated_iff (one : gate.OneProbe) (step : gate.Step config url label after) :
    Gated url gate label after ↔ Attributed config url gate label after := by
  obtain ⟨_, move⟩ := step
  cases label with
  | deliver clock =>
    rcases deliver_move coherent move with
      ⟨expired, _, admitted, _⟩ | ⟨current, same, deliveries, _⟩
    · constructor
      · rintro ⟨exclusive, _⟩ _ delivery member
        by_contra probing
        obtain ⟨index, found⟩ := List.mem_iff_getElem?.mp member
        have bound : index < gate.deliveries.length := (List.getElem?_eq_some_iff.mp found).1
        rw [Gate.OneProbe, admitted] at exclusive
        have equal := exclusive index gate.deliveries.length delivery ⟨.halfOpen, clock.first, false⟩
          (by rw [List.getElem?_append_left bound, found]) (by simp)
          (by simpa using probing) rfl rfl
        omega
      · intro attributed
        constructor
        · rw [Gate.OneProbe, admitted]
          exact one.start fun delivery member _ => attributed expired delivery member
        · intro half
          exact absurd (expired.1.symm.trans half) nofun
    · constructor
      · intro _ expired
        exact absurd expired current
      · intro _
        constructor
        · rcases deliveries with unchanged | ⟨_, added⟩
          · rw [Gate.OneProbe, unchanged]
            exact one
          · rw [Gate.OneProbe, added]
            exact one.append_idle rfl
        · intro half left
          rw [same] at left
          exact absurd half left
  | report index outcome clock =>
    obtain ⟨delivery, found, _, deliveries, _, left, _⟩ := report_move move
    constructor
    · rintro ⟨_, leaves⟩ half
      exact leaves half left
    · intro attributed
      constructor
      · rw [Gate.OneProbe, deliveries]
        exact one.set found rfl (by simp [Delivery.probing])
      · intro half _
        exact attributed half
  | reset clock =>
    obtain ⟨deliveries, _⟩ := reset_move move
    constructor
    · intro _
      trivial
    · intro _
      constructor
      · rw [Gate.OneProbe, deliveries]
        exact one
      · intro _ _
        trivial

end

end Steps

section Runs

variable {config : Config} {url : String} {began : Int}

/-- In every run, one probe is out at a time and decides alone, exactly if the outcomes
that a half-open breaker hears are those of its probe. -/
theorem probe_alone_iff (trace : List Label) : Throughout (Gate.Step config url) (.start began) (Gated url) trace ↔
      Throughout (Gate.Step config url) (.start began) (Attributed config url) trace := by
  apply throughout_congr
  intro trace before label after run step
  have kept := run.invariant
    (fun _ gate => (gate.breakers.record url).Coherent config ∧ gate.OneProbe)
    ⟨BreakerRecord.coherent_fresh, .nil⟩
    fun _ _ _ _ holds step => ⟨coherent_move holds.1 step.1.2, step.2.1⟩
  exact gated_iff kept.1 kept.2 step

end Runs

/-- Two deliveries are admitted, and the first one opens the breaker. The probe that goes
out after the recovery period is cut off by the late failure of the second delivery, and
one period later there is another probe. -/
def lateFailure : List Label :=
  [.deliver (.once 0), .deliver (.once 0), .report 0 (.failure none) (.once 1),
    .deliver (.once 11), .report 1 (.failure none) (.once 12), .deliver (.once 22)]

/-- The outcome of a delivery that is not the probe moves a half-open breaker, and then two
probes are out at once. -/
theorem late_failure_misleads : (∃ before after, Run (Gate.Step .sample "url") (.start 0) (lateFailure.take 4) before ∧
      before.Step .sample "url" (.report 1 (.failure none) (.once 12)) after ∧
      ¬ LeavesByProbe "url" before (.report 1 (.failure none) (.once 12)) after) ∧
    (∃ gate, Run (Gate.Step .sample "url") (.start 0) lateFailure gate ∧ ¬ gate.OneProbe) := by
  have first : Run (Gate.Step .sample "url") (.start 0) (lateFailure.take 1) _ :=
    Run.next .start ⟨by decide, rfl⟩
  have second : Run (Gate.Step .sample "url") (.start 0) (lateFailure.take 2) _ :=
    first.next ⟨by decide, rfl⟩
  have opened : Run (Gate.Step .sample "url") (.start 0) (lateFailure.take 3) _ :=
    second.next ⟨by decide, rfl⟩
  have probed : Run (Gate.Step .sample "url") (.start 0) (lateFailure.take 4) _ :=
    opened.next ⟨by decide, rfl⟩
  have failed : Run (Gate.Step .sample "url") (.start 0) (lateFailure.take 5) _ :=
    probed.next ⟨by decide, rfl⟩
  have again : Run (Gate.Step .sample "url") (.start 0) lateFailure _ :=
    failed.next ⟨by decide, rfl⟩
  constructor
  · refine ⟨_, _, probed, ⟨by decide, rfl⟩, ?_⟩
    intro leaves
    have holder := leaves rfl (by decide)
    cases holder
  · refine ⟨_, again, ?_⟩
    intro one
    have equal := one 2 3 _ _ rfl rfl rfl rfl rfl
    cases equal

end ProxyPay.Webhook
