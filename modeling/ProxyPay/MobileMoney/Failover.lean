import ProxyPay.Library.Flight
import ProxyPay.MobileMoney.Service

/-! How often a failover executes an operation: what the providers were asked, under every
order of answers, time-outs and late completions, against the result. -/

namespace ProxyPay.MobileMoney

open ProxyPay.Library

/-- A call of a provider. It is accepted when it answers success in time; it has moved
money when it has collected from or paid to the customer, in time or late. -/
structure ProviderCall where
  provider : String
  accepted : Bool
  moved : Bool
  deriving DecidableEq

def accepts : Except Thrown ProviderResult → Bool
  | .ok result => result.success
  | .error _ => false

/-- The call that an exchange is, if it is one. Success is believed. -/
def callOf : Answered → Option ProviderCall
  | ⟨.callProvider provider _ _ _, reply, tookEffect⟩ =>
    some ⟨provider, accepts reply, accepts reply || tookEffect⟩
  | _ => none

def callsOf (exchanges : List Answered) : List ProviderCall :=
  exchanges.filterMap callOf

/-- The breaker times the calls of the providers. -/
def timed : Request → Bool
  | .callProvider .. => true
  | _ => false

/-- The operation has been executed at most once, exactly when the result reports success,
and by the provider that the result names. -/
structure ExecutedOnce (outcome : Except Thrown CircuitBreakerActionResult)
    (calls : List ProviderCall) : Prop where
  once : calls.countP ProviderCall.moved ≤ 1
  reported : (∃ result, outcome = .ok result ∧ result.success = true) ↔
    calls.countP ProviderCall.moved = 1
  named : ∀ result, outcome = .ok result → ∀ call ∈ calls, call.moved = true →
    call.provider = result.provider

/-- The number of requests made, and the calls of providers among them. -/
structure Account where
  asked : Nat
  calls : List ProviderCall

/-- The account of a run; nothing is assumed of the answers. -/
def accountant : Observer Request Request.Reply Thrown Account where
  observe account exchange := ⟨account.asked + 1, account.calls ++ (callOf exchange).toList⟩
  meets _ _ := True

/-- No call has been accepted yet. -/
structure Refused (asked fires : Nat) (account : Account) : Prop where
  asked : account.asked ≤ asked
  calls : account.calls.length ≤ fires
  unaccepted : ∀ call ∈ account.calls, call.accepted = false

/-- The last call, of this provider, has been accepted, and none before it. -/
structure Accepted (asked fires : Nat) (provider : String) (account : Account) : Prop where
  asked : account.asked ≤ asked
  split : ∃ earlier call, account.calls = earlier ++ [call] ∧ earlier.length < fires ∧
    (∀ other ∈ earlier, other.accepted = false) ∧ call.accepted = true ∧ call.provider = provider

/-- A result that reports success has a call behind it, or is the sandbox's approval. -/
def Backed (setup : Setup) (fires : Nat) (result : CircuitBreakerActionResult) (account : Account) : Prop :=
  setup.sandbox = true ∧ Refused (3 * fires) fires account ∨
    Accepted (3 * fires) fires result.provider account

/-- The results that reach a breaker: successes with a call behind them, and counted
failures. -/
def Reported (setup : Setup) (fires : Nat) : Except Thrown CircuitBreakerActionResult → Account → Prop :=
  Observer.ends
    (fun result account =>
      result.success = true ∧ Backed setup fires result account ∨
        shouldCountFailure result = true ∧ Refused (3 * fires) fires account)
    fun _ => Refused (3 * fires) fires

/-- The results that leave an operation, all of them successes. -/
def Returned (setup : Setup) (fires : Nat) : Except Thrown CircuitBreakerActionResult → Account → Prop :=
  Observer.ends
    (fun result account => result.success = true ∧ Backed setup fires result account)
    fun _ => Refused (3 * fires) fires

section Triples

variable {setup : Setup} {op : Operation} {providerKey phoneNumber amount phase : String}
variable {asked fires last : Nat} {account : Account}

theorem accountant_after (exchanges : List Answered) (account : Account) : accountant.after account exchanges =
      ⟨account.asked + exchanges.length, account.calls ++ callsOf exchanges⟩ := by
  induction exchanges generalizing account with
  | nil => simp [Observer.after, callsOf]
  | cons exchange rest ih =>
    have continued := ih (accountant.observe account exchange)
    simp only [Observer.after, List.foldl_cons] at continued ⊢
    rw [continued]
    simp only [callsOf, List.filterMap_cons]
    cases found : callOf exchange <;> simp [accountant, found] <;> omega

theorem accountant_allMeet (exchanges : List Answered) (account : Account) : accountant.AllMeet account exchanges := by
  induction exchanges generalizing account with
  | nil => trivial
  | cons exchange rest ih => exact ⟨trivial, ih _⟩

variable {later : Nat}

theorem Refused.weaken {more : Nat} (refused : Refused asked fires account)
    (askedMore : asked ≤ more) (firesLater : fires ≤ later) : Refused more later account :=
  ⟨Nat.le_trans refused.asked askedMore, Nat.le_trans refused.calls firesLater,
    refused.unaccepted⟩

theorem ask_triple {request : Request} (uncalled : timed request = false) : accountant.Triple (Refused asked fires)
      (Script.call request : Service request.Reply)
      fun _ => Refused (asked + 1) fires := by
  refine .call ?_
  intro account reply tookEffect refused _
  have none : callOf ⟨request, reply, tookEffect⟩ = none := by
    cases request <;> first | rfl | cases uncalled
  refine ⟨Nat.succ_le_succ refused.asked, ?_, ?_⟩
  · simpa [accountant, none] using refused.calls
  · simpa [accountant, none] using refused.unaccepted

theorem execute_triple : accountant.Triple (Refused (3 * fires + 2) fires) (execute op providerKey phoneNumber amount)
      (Reported setup (fires + 1)) := by
  have called : accountant.Triple (Refused (3 * fires + 2) fires)
      (Script.call (Request.callProvider providerKey op phoneNumber amount) :
        Service ProviderResult)
      fun reply account => if accepts reply
        then Accepted (3 * (fires + 1)) (fires + 1) providerKey account
        else Refused (3 * (fires + 1)) (fires + 1) account := by
    refine .call ?_
    intro account reply tookEffect refused _
    have asked : account.asked + 1 ≤ 3 * (fires + 1) := by
      have before := refused.asked
      omega
    split
    · next accepted =>
      refine ⟨asked, account.calls, ⟨providerKey, true, true⟩, ?_, ?_, refused.unaccepted, rfl, rfl⟩
      · simp [accountant, callOf, accepted]
      · exact Nat.lt_succ_of_le refused.calls
    · next unaccepted =>
      have same : accepts reply = false := by simpa using unaccepted
      refine ⟨asked, ?_, ?_⟩
      · simpa [accountant, callOf] using refused.calls
      · intro call member
        rcases List.mem_append.mp member with earlier | new
        · exact refused.unaccepted call earlier
        · simp_all [callOf]
  refine called.bind (fun result => ?_) fun error account refused => refused
  cases success : result.success with
  | true =>
    refine .done fun account accepted => .inl ⟨rfl, .inr ?_⟩
    simpa [accepts, success] using accepted
  | false =>
    refine .done fun account refused => .inr ⟨rfl, ?_⟩
    simpa [accepts, success] using refused

variable {script : Service CircuitBreakerActionResult} {pre : Account → Prop}

theorem normalizeResult_triple (reports : accountant.Triple pre script (Reported setup fires)) :
    accountant.Triple pre (script.bind normalizeResult) (Returned setup fires) := by
  refine reports.bind (fun result => ?_) fun error account refused => refused
  unfold normalizeResult
  cases counted : shouldCountFailure result with
  | true =>
    refine .done fun account known => ?_
    rcases known with ⟨success, _⟩ | ⟨_, refused⟩
    · simp [shouldCountFailure, success] at counted
    · exact refused
  | false =>
    refine .done fun account known => ?_
    rcases known with success | ⟨failure, _⟩
    · exact success
    · rw [counted] at failure
      cases failure

section

variable {outcome : Except Thrown CircuitBreakerActionResult} (returned : Returned setup fires outcome account)

include returned

theorem Returned.weaken (more : fires ≤ later) : Returned setup later outcome account := by
  cases outcome with
  | error error => exact Refused.weaken returned (by omega) more
  | ok result =>
    refine ⟨returned.1, ?_⟩
    rcases returned.2 with ⟨sandbox, refused⟩ | ⟨asked, earlier, call, split, fewer, known⟩
    · exact .inl ⟨sandbox, refused.weaken (by omega) more⟩
    · exact .inr ⟨by omega, earlier, call, split, by omega, known⟩

theorem Returned.bounds : account.asked ≤ 3 * fires ∧ account.calls.length ≤ fires := by
  cases outcome with
  | error error => exact ⟨Refused.asked returned, Refused.calls returned⟩
  | ok result =>
    rcases returned.2 with ⟨_, refused⟩ | ⟨asked, earlier, call, split, fewer, _⟩
    · exact ⟨refused.asked, refused.calls⟩
    · grind

end

variable {fallback : Option (Thrown → Service CircuitBreakerActionResult)}

theorem fire_triple (more : fires ≤ last) (reports : accountant.Triple pre script (Reported setup fires))
    (falls : ∀ handler, fallback = some handler → ∀ error,
      accountant.Triple (Refused (3 * fires) fires) (handler error) (Reported setup last)) :
    accountant.Triple pre (fire script fallback) (Returned setup last) := by
  refine (normalizeResult_triple reports).catching
    (fun result account returned => Returned.weaken returned more) fun error => ?_
  cases fallback with
  | none => exact .done fun account refused => Refused.weaken refused (by omega) more
  | some handler => exact normalizeResult_triple (falls handler rfl error)

theorem operate_triple (more : fires + 1 ≤ last) (falls : ∀ handler, fallback = some handler → ∀ error,
      accountant.Triple (Refused (3 * (fires + 1)) (fires + 1)) (handler error) (Reported setup last)) :
    accountant.Triple (Refused (3 * fires) fires)
      (operate setup op providerKey phoneNumber amount phase fallback) (Returned setup last) := by
  have raised : ∀ (account : Account), Refused (3 * fires + 1) fires account →
      Refused (3 * last) last account := fun _ refused => refused.weaken (by omega) (by omega)
  unfold operate
  split
  · exact .done fun account refused => refused.weaken (by omega) (by omega)
  · refine (ask_triple rfl).bind (fun _ => ?_) fun error account refused => raised account refused
    split
    · next approved =>
      refine .done fun account refused => ⟨rfl, .inl ⟨?_, raised account refused⟩⟩
      simp only [Bool.and_eq_true] at approved
      exact approved.1
    · have executes : accountant.Triple (Refused (3 * fires + 1) fires)
          (executeWithCircuitBreaker providerKey op (execute op providerKey phoneNumber amount)
            fallback) (Returned setup last) := by
        refine (ask_triple rfl).bind (fun _ => fire_triple more execute_triple falls) ?_
        exact fun error account refused => refused.weaken (by omega) (by omega)
      exact executes.catching (fun result account returned => returned)
        fun error => .done fun account refused => refused

theorem operateBackup_triple : accountant.Triple (Refused (3 * fires) fires)
      (operateBackup setup op providerKey phoneNumber amount) (Returned setup (fires + 1)) :=
  operate_triple (Nat.le_refl _) nofun

theorem failOver_triple {backupKey : String} {error : Thrown} : accountant.Triple (Refused (3 * fires) fires)
      (failOver setup op providerKey backupKey phoneNumber amount error)
      (Reported setup (fires + 1)) := by
  unfold failOver
  split
  · exact .done fun account refused => .inr ⟨rfl, refused.weaken (by omega) (by omega)⟩
  · refine (operateBackup_triple).weaken (fun _ refused => refused) ?_
    rintro (raised | result) account returned
    · exact returned
    · exact .inl returned

theorem executeProviderOperation_triple {allowFailover : Bool} : accountant.Triple (Refused 0 0)
      (executeProviderOperation setup op providerKey phoneNumber amount allowFailover)
      (Returned setup 2) := by
  have fallbacks : ∀ (backup : Option String) handler,
      backup.map (fun backupKey => failOver setup op providerKey backupKey phoneNumber amount) =
        some handler → ∀ error, accountant.Triple (Refused (3 * (0 + 1)) (0 + 1)) (handler error)
          (Reported setup 2) := by
    intro backup handler found error
    obtain ⟨backupKey, _, rfl⟩ := Option.map_eq_some_iff.mp found
    exact failOver_triple
  exact operate_triple (by omega) (fallbacks _)

end Triples

section Law

variable {setup : Setup} {outcome : Except Thrown CircuitBreakerActionResult}
variable {exchanges : List Answered}

theorem moved_of_accepted {call : ProviderCall} (member : call ∈ callsOf exchanges)
    (accepted : call.accepted = true) : call.moved = true := by
  obtain ⟨⟨request, reply, tookEffect⟩, _, found⟩ := List.mem_filterMap.mp member
  cases request <;> cases found
  simp only at accepted
  simp [accepted]

theorem Returned.named {asked : Nat} (returned : Returned setup 2 outcome ⟨asked, callsOf exchanges⟩)
    (live : setup.sandbox = false) {result : CircuitBreakerActionResult}
    (ended : outcome = .ok result) : result.success = true ∧ ∃ call ∈ callsOf exchanges,
      call.accepted = true ∧ call.provider = result.provider := by
  subst ended
  obtain ⟨success, ⟨sandbox, _⟩ | ⟨_, earlier, call, split, _, _, accepted, same⟩⟩ := returned
  · rw [live] at sandbox
    cases sandbox
  · simp_all

theorem Returned.executedOnce_iff {asked : Nat}
    (returned : Returned setup 2 outcome ⟨asked, callsOf exchanges⟩) (live : setup.sandbox = false) :
    ExecutedOnce outcome (callsOf exchanges) ↔
      ∀ call ∈ callsOf exchanges, call.moved = true → call.accepted = true := by
  cases outcome with
  | error error =>
    have unaccepted : ∀ call ∈ callsOf exchanges, call.accepted = false := returned.unaccepted
    constructor
    · intro law call member moved
      have some := List.countP_pos_iff.mpr ⟨call, member, moved⟩
      obtain ⟨result, same, _⟩ := law.reported.mpr (Nat.le_antisymm law.once some)
      cases same
    · intro honest
      have none : (callsOf exchanges).countP ProviderCall.moved = 0 := by simp_all
      refine ⟨by omega, ?_, nofun⟩
      rw [none]
      exact ⟨fun ⟨_, same, _⟩ => (by cases same), nofun⟩
  | ok result =>
    obtain ⟨success, ⟨sandbox, _⟩ | ⟨_, earlier, last, split, _, unaccepted, accepted, same⟩⟩ :=
      returned
    · rw [live] at sandbox
      cases sandbox
    · have whole : callsOf exchanges = earlier ++ [last] := split
      have member : last ∈ callsOf exchanges := by simp [whole]
      have moved : last.moved = true := moved_of_accepted member accepted
      have count : (callsOf exchanges).countP ProviderCall.moved =
          earlier.countP ProviderCall.moved + 1 := by
        simp [whole, moved]
      constructor
      · intro law call member moves
        have once := law.once
        have others : earlier.countP ProviderCall.moved = 0 := by omega
        rw [whole] at member
        rcases List.mem_append.mp member with before | final
        · exact absurd moves (List.countP_eq_zero.mp others call before)
        · simp_all
      · intro honest
        have unmoved : ∀ call ∈ earlier, ¬ call.moved = true := by grind
        have others := List.countP_eq_zero.mpr unmoved
        refine ⟨by omega, ?_, ?_⟩
        · exact ⟨fun _ => by omega, fun _ => ⟨result, rfl, success⟩⟩
        · grind

theorem timed_count : (exchanges.map Exchange.request).countP timed = (callsOf exchanges).length := by
  induction exchanges with
  | nil => rfl
  | cons exchange rest ih =>
    obtain ⟨request, reply, tookEffect⟩ := exchange
    simp only [List.map_cons, List.countP_cons, ih, callsOf, List.filterMap_cons]
    cases request <;> simp [timed, callOf]

end Law

/-- A run of the operation from its start, under every order of answers, time-outs and
late completions. -/
abbrev Operated (setup : Setup) (op : Operation) (providerKey phoneNumber amount : String)
    (allowFailover : Bool) :
    List (FlightEvent Request Request.Reply Thrown) →
      Flight Request Request.Reply Thrown CircuitBreakerActionResult → Prop :=
  Run (fun before event after => before.step timed event = some after)
    (.start (executeProviderOperation setup op providerKey phoneNumber amount allowFailover))

/-- Outside the sandbox, with `orange` as the backup of every provider. -/
def Setup.sample : Setup := ⟨fun _ => none, fun _ => some "orange", 0⟩

/-- Every call succeeds and takes effect. -/
def willing : (request : Request) → Except Thrown request.Reply × Bool
  | .getProviderOrThrow _ => (.ok (), true)
  | .getOrCreateCircuitBreaker .. => (.ok (), true)
  | .callProvider .. => (.ok (⟨true, none, .other⟩ : ProviderResult), true)

/-- The primary pays in time. -/
def paidInTime : List (FlightEvent Request Request.Reply Thrown) :=
  [.answer willing, .answer willing, .answer willing]

/-- The primary is given up, the backup pays, and then the primary pays as well. -/
def paidLate : List (FlightEvent Request Request.Reply Thrown) :=
  [.answer willing, .answer willing, .giveUp (.error "Timed out after 5000ms"),
    .answer willing, .answer willing, .answer willing, .complete 2 true]

end ProxyPay.MobileMoney
