import Mathlib.Algebra.Order.BigOperators.Group.List
import Mathlib.Algebra.Order.Ring.Nat
import ProxyPay.Airtel.Service
import ProxyPay.Library.Transition

/-! Every key is made from the clock. The requests of one call carry one key when they are sent within one millisecond, and
the keys and references of two calls differ when the two read the clock in different milliseconds. -/

namespace ProxyPay.Airtel

open ProxyPay.Library

variable {Amount : Type} {config : Config Amount} {before after : AirtelService Amount} {label : Label}
variable {call : Call Amount} {task : Task Amount} {index number : ℕ}

variable {first second : ℕ}

theorem toString_inj (same : toString first = toString second) : first = second := by
  have digits : Nat.toDigits 10 first = Nat.toDigits 10 second := by
    rw [← Nat.toList_repr, ← Nat.toList_repr]
    exact congrArg String.toList same
  rw [← Nat.ofDigitChars_ten_toDigits (n := first), digits, Nat.ofDigitChars_ten_toDigits]

theorem payment_ne_payout : createReference .payment first ≠ createReference .payout second := by
  intro same
  have split : "AIRTEL-PAYOUT-" ++ toString second = "AIRTEL-" ++ ("PAYOUT-" ++ toString second) := by
    rw [← String.append_assoc]
    rfl
  have rest : toString first = "PAYOUT-" ++ toString second := (String.append_right_inj _).mp (same.trans split)
  have digits : Nat.toDigits 10 first = "PAYOUT-".toList ++ Nat.toDigits 10 second := by grind [Nat.toList_repr, String.toList_append]
  have letter : 'P' ∈ Nat.toDigits 10 first := by simp_all
  exact absurd (Nat.isDigit_of_mem_toDigits (by decide) (by decide) letter) (by decide)

theorem createReference_eq_iff {first second : Operation} {now later : ℕ} :
    createReference first now = createReference second later ↔ first = second ∧ now = later := by
  constructor
  · intro same
    cases first with
    | payment =>
      cases second with
      | payment => exact ⟨rfl, toString_inj ((String.append_right_inj _).mp same)⟩
      | payout => exact absurd same payment_ne_payout
    | payout =>
      cases second with
      | payment => exact absurd same.symm payment_ne_payout
      | payout => exact ⟨rfl, toString_inj ((String.append_right_inj _).mp same)⟩
  · rintro ⟨rfl, rfl⟩
    rfl

/-- An attempt sends one request at most, and the loop counts its attempts. -/
structure Task.Counted (config : Config Amount) (task : Task Amount) : Prop where
  sent : task.requests.length ≤ task.attempt
  ahead : task.phase = .ensuring → task.requests.length < task.attempt
  bounded : task.attempt ≤ config.maxAttempts

/-- The requests of a call carry its reference, and keys that are made from the clock. -/
structure Call.Made (config : Config Amount) (call : Call Amount) : Prop where
  reference : call.reference = createReference call.operation call.calledAt
  payload : ∀ request ∈ call.requests, request.payload.reference = call.reference ∧ request.payload.id = call.reference
  key : ∀ request ∈ call.requests, request.idempotencyKey = createReference call.operation request.sentAt
  twice : call.tasks.length ≤ call.guard + 1 ∧ call.guard ≤ 1
  counted : ∀ task ∈ call.tasks, task.Counted config

theorem Task.counted_fresh (entry : ℕ) : (Task.fresh entry).Counted config := by
  constructor
  · exact Nat.le_refl 0
  · nofun
  · exact Nat.zero_le _

variable {new : Task Amount}

theorem Task.Counted.goOn (counted : task.Counted config)
    (same : new.attempt = task.attempt ∧ new.requests = task.requests ∧ new.phase ≠ .ensuring) : new.Counted config := by
  obtain ⟨attempt, requests, phase⟩ := same
  constructor
  · rw [attempt, requests]
    exact counted.sent
  · intro ensuring
    exact absurd ensuring phase
  · rw [attempt]
    exact counted.bounded

theorem Task.Counted.next (counted : task.Counted config) : (task.next config).Counted config := by
  unfold Task.next
  split
  · rename_i more
    constructor
    · exact Nat.le_succ_of_le counted.sent
    · intro _
      exact Nat.lt_succ_of_le counted.sent
    · exact more
  · split
    · exact counted.goOn ⟨rfl, rfl, nofun⟩
    · exact counted.goOn ⟨rfl, rfl, nofun⟩

theorem Task.requests_next : (task.next config).requests = task.requests := by
  unfold Task.next
  split
  · rfl
  · split
    · rfl
    · rfl

theorem Task.Counted.respond (counted : task.Counted config) (response : AxiosResponse) :
    (task.respond config response).Counted config := by
  unfold Task.respond
  split
  · have same : ({ task with lastResponse := some response } : Task Amount).Counted config :=
      ⟨counted.sent, counted.ahead, counted.bounded⟩
    exact same.next
  · split
    · exact counted.goOn ⟨rfl, rfl, nofun⟩
    · exact counted.goOn ⟨rfl, rfl, nofun⟩

theorem Task.requests_respond (response : AxiosResponse) : (task.respond config response).requests = task.requests := by
  unfold Task.respond
  split
  · exact Task.requests_next
  · split
    · rfl
    · rfl

theorem Task.Counted.fail (counted : task.Counted config) (message : String) : (task.fail config message).Counted config := by
  unfold Task.fail
  split
  · exact counted.goOn ⟨rfl, rfl, nofun⟩
  · exact counted.goOn ⟨rfl, rfl, nofun⟩

theorem Task.requests_fail (message : String) : (task.fail config message).requests = task.requests := by
  unfold Task.fail
  split
  · rfl
  · rfl

theorem Task.Counted.send (counted : task.Counted config) (ensuring : task.phase = .ensuring) (request : HttpRequest Amount) :
    (task.send request).Counted config := by
  constructor
  · show (task.requests ++ [request]).length ≤ task.attempt
    rw [List.length_append]
    exact counted.ahead ensuring
  · nofun
  · exact counted.bounded

theorem Call.mem_requests {request : HttpRequest Amount} :
    request ∈ call.requests ↔ ∃ task ∈ call.tasks, request ∈ task.requests :=
  List.mem_flatMap

theorem Call.Made.change (made : call.Made config) (found : call.tasks[number]? = some task)
    (counted : new.Counted config) (own : ∀ request ∈ new.requests, request ∈ task.requests ∨
      ∃ session now, request = config.request call session now) : (call.change number new).Made config := by
  have known : ∀ request ∈ (call.change number new).requests, request ∈ call.requests ∨
      ∃ session now, request = config.request call session now := by
    intro request sent
    obtain ⟨other, member, listed⟩ := (Call.mem_requests).mp sent
    cases List.mem_or_eq_of_mem_set member with
    | inl old => exact .inl ((Call.mem_requests).mpr ⟨other, old, listed⟩)
    | inr same =>
      subst same
      cases own request listed with
      | inl old => exact .inl ((Call.mem_requests).mpr ⟨task, List.mem_of_getElem? found, old⟩)
      | inr made => exact .inr made
  constructor
  · exact made.reference
  · intro request sent
    cases known request sent with
    | inl old => exact made.payload request old
    | inr here =>
      obtain ⟨session, now, rfl⟩ := here
      exact ⟨rfl, rfl⟩
  · intro request sent
    cases known request sent with
    | inl old => exact made.key request old
    | inr here =>
      obtain ⟨session, now, rfl⟩ := here
      rfl
  · show (call.tasks.set number new).length ≤ _ ∧ _
    rw [List.length_set]
    exact made.twice
  · intro other member
    cases List.mem_or_eq_of_mem_set member with
    | inl old => exact made.counted other old
    | inr same =>
      subst same
      exact counted

theorem Call.Made.reply (made : call.Made config) (reply : Option Reply) : { call with reply }.Made config :=
  ⟨made.reference, made.payload, made.key, made.twice, made.counted⟩

theorem Call.Made.retry (made : call.Made config) (first : call.guard = 0) (entry : ℕ) :
    { call with guard := call.guard + 1, tasks := call.tasks ++ [Task.fresh entry] }.Made config := by
  have known : ∀ request ∈ ({ call with guard := call.guard + 1, tasks := call.tasks ++ [Task.fresh entry] } : Call Amount).requests,
      request ∈ call.requests := by
    intro request sent
    obtain ⟨task, member, listed⟩ := (Call.mem_requests).mp sent
    cases List.mem_append.mp member with
    | inl old => exact (Call.mem_requests).mpr ⟨task, old, listed⟩
    | inr new =>
      cases List.mem_singleton.mp new
      cases listed
  constructor
  · exact made.reference
  · intro request sent
    exact made.payload request (known request sent)
  · intro request sent
    exact made.key request (known request sent)
  · show (call.tasks ++ [Task.fresh entry]).length ≤ call.guard + 1 + 1 ∧ call.guard + 1 ≤ 1
    rw [List.length_append, List.length_singleton, first]
    have few := made.twice.1
    omega
  · intro task member
    cases List.mem_append.mp member with
    | inl old => exact made.counted task old
    | inr new =>
      cases List.mem_singleton.mp new
      exact Task.counted_fresh entry

theorem Call.made_call (operation : Operation) (phoneNumber amount : String) (now entry : ℕ) :
    ({ operation, phoneNumber, amount, reference := createReference operation now, calledAt := now, guard := 0,
       tasks := [Task.fresh entry], reply := none } : Call Amount).Made config := by
  constructor
  · rfl
  · nofun
  · nofun
  · exact ⟨Nat.le_refl 1, Nat.zero_le 1⟩
  · intro task member
    cases List.mem_singleton.mp member
    exact Task.counted_fresh entry

def Kept (config : Config Amount) (service : AirtelService Amount) : Prop :=
  ∀ call ∈ service.calls, call.Made config

theorem Kept.set (kept : Kept config before) {new : Call Amount} (made : new.Made config)
    (changed : after.calls = before.calls.set index new) : Kept config after := by
  intro call member
  rw [changed] at member
  cases List.mem_or_eq_of_mem_set member with
  | inl old => exact kept call old
  | inr same =>
    subst same
    exact made

theorem proceed_eq_some {phase : TaskPhase} {body : Call Amount → Task Amount → AirtelService Amount}
    (done : before.proceed index number phase body = some after) :
    ∃ call task, before.calls[index]? = some call ∧ call.tasks[number]? = some task ∧ task.phase = phase ∧
      after = body call task := by
  unfold AirtelService.proceed at done
  split at done
  · cases done
  · grind

section

variable (kept : Kept config before)

include kept

section

variable (found : before.calls[index]? = some call) (held : call.tasks[number]? = some task)

include found held

theorem Kept.proceed {new : Task Amount} (counted : task.Counted config → new.Counted config)
    (silent : new.requests = task.requests) (changed : after.calls = before.calls.set index (call.change number new)) :
    Kept config after := by
  have made := kept call (List.mem_of_getElem? found)
  apply kept.set _ changed
  apply made.change held (counted (made.counted task (List.mem_of_getElem? held)))
  intro request sent
  rw [silent] at sent
  exact .inl sent

theorem Kept.ensured (ensuring : task.phase = .ensuring) (clock : ℚ)
    (asked : Except String AirtelSessionState) (now : ℕ) :
    Kept config (before.ensured config index call number task clock asked now) := by
  unfold AirtelService.ensured
  split
  · apply kept.proceed found held _ _ rfl
    · intro counted
      exact counted.goOn ⟨rfl, rfl, nofun⟩
    · rfl
  · rename_i session current answer
    have made := kept call (List.mem_of_getElem? found)
    have counted := made.counted task (List.mem_of_getElem? held)
    apply kept.set _ rfl
    apply made.change held (counted.send ensuring _)
    intro request sent
    cases List.mem_append.mp sent with
    | inl old => exact .inl old
    | inr new => exact .inr ⟨session, now, List.mem_singleton.mp new⟩

end

theorem Kept.resume {queuedAt : ℚ} (done : before.resume config index queuedAt = some after) : Kept config after := by
  unfold AirtelService.resume at done
  split at done
  · cases done
  · rename_i call found
    have made := kept call (List.mem_of_getElem? found)
    split at done
    · cases done
      unfold AirtelService.settled
      split
      · split
        · rename_i first
          exact kept.set (made.retry first _) rfl
        · exact kept.set (made.reply _) rfl
      · exact kept.set (made.reply _) rfl
      · exact kept.set (made.reply _) rfl
    · cases done

theorem Kept.begin (operation : Operation) (phoneNumber amount : String) (now : ℕ) (queuedAt : ℚ) :
    Kept config (before.call config operation phoneNumber amount now queuedAt) := by
  intro call member
  cases List.mem_append.mp member with
  | inl old => exact kept call old
  | inr new =>
    cases List.mem_singleton.mp new
    exact Call.made_call operation phoneNumber amount now _

theorem Kept.step (move : step config before label after) : Kept config after := by
  unfold Airtel.step at move
  cases label with
  | requestPayment phoneNumber amount now queuedAt =>
    cases move
    exact kept.begin .payment phoneNumber amount now queuedAt
  | sendPayout phoneNumber amount now queuedAt =>
    simp only [AirtelService.perform] at move
    split at move
    · cases move
      exact kept
    · cases move
      exact kept.begin .payout _ amount now queuedAt
  | queue label =>
    simp only [AirtelService.perform] at move
    split at move
    · obtain ⟨queue, _, rfl⟩ := Option.map_eq_some_iff.mp move
      exact kept
    · cases move
  | session session =>
    cases move
    exact kept
  | start index number =>
    obtain ⟨call, task, found, held, _, rfl⟩ := proceed_eq_some move
    split
    · exact kept.proceed found held Task.Counted.next Task.requests_next rfl
    · exact kept
  | ensureSession index number clock asked now =>
    obtain ⟨call, task, found, held, ensuring, rfl⟩ := proceed_eq_some move
    exact kept.ensured found held ensuring clock asked now
  | respond index number response session =>
    obtain ⟨call, task, found, held, _, rfl⟩ := proceed_eq_some move
    exact kept.proceed found held (fun counted => counted.respond response) (Task.requests_respond response) rfl
  | fail index number message =>
    obtain ⟨call, task, found, held, _, rfl⟩ := proceed_eq_some move
    exact kept.proceed found held (fun counted => counted.fail message) (Task.requests_fail message) rfl
  | wake index number =>
    obtain ⟨call, task, found, held, _, rfl⟩ := proceed_eq_some move
    exact kept.proceed found held Task.Counted.next Task.requests_next rfl
  | settle index queuedAt => exact kept.resume move

end

theorem kept_of_run {maxQueueDepth : ℕ} {trace : List Label} {service : AirtelService Amount}
    (run : Run (step config) (.initial Amount maxQueueDepth) trace service) : Kept config service := by
  apply run.invariant fun _ service => Kept config service
  · nofun
  · intro _ before label after kept move
    exact kept.step move

/-- All requests of a call carry one reference and one key. -/
structure Call.Keyed (call : Call Amount) : Prop where
  reference : ∀ request ∈ call.requests, request.payload.reference = call.reference ∧ request.payload.id = call.reference
  key : ∀ first ∈ call.requests, ∀ second ∈ call.requests, first.idempotencyKey = second.idempotencyKey

/-- Two calls share neither their reference nor a key. -/
structure Apart (call other : Call Amount) : Prop where
  reference : call.reference ≠ other.reference
  key : ∀ first ∈ call.requests, ∀ second ∈ other.requests, first.idempotencyKey ≠ second.idempotencyKey

/-- The requests of a call may be told apart by the provider from those of the others, and not from one another. -/
structure Idempotent (config : Config Amount) (service : AirtelService Amount) : Prop where
  keyed : ∀ call ∈ service.calls, call.Keyed
  apart : ∀ (index other : ℕ) call second, index ≠ other → service.calls[index]? = some call →
    service.calls[other]? = some second → Apart call second
  bounded : ∀ call ∈ service.calls, call.requests.length ≤ 2 * config.maxAttempts

/-- A call sends all its requests in one millisecond. -/
def Call.AtOnce (call : Call Amount) : Prop :=
  ∀ first ∈ call.requests, ∀ second ∈ call.requests, first.sentAt = second.sentAt

/-- Two calls of one operation are made in different milliseconds, and no request of the one is sent in a millisecond of
the other's. -/
def Staggered (call other : Call Amount) : Prop :=
  call.operation = other.operation → call.calledAt ≠ other.calledAt ∧
    ∀ first ∈ call.requests, ∀ second ∈ other.requests, first.sentAt ≠ second.sentAt

structure Timed (service : AirtelService Amount) : Prop where
  atOnce : ∀ call ∈ service.calls, call.AtOnce
  staggered : ∀ (index other : ℕ) call second, index ≠ other → service.calls[index]? = some call →
    service.calls[other]? = some second → Staggered call second

theorem Call.Made.keyed_iff (made : call.Made config) : call.Keyed ↔ call.AtOnce := by
  constructor
  · intro keyed first sent second later
    have same := keyed.key first sent second later
    rw [made.key first sent, made.key second later] at same
    exact ((createReference_eq_iff).mp same).2
  · intro atOnce
    constructor
    · exact made.payload
    · intro first sent second later
      rw [made.key first sent, made.key second later, atOnce first sent second later]

theorem Call.Made.apart_iff {other : Call Amount} (made : call.Made config) (second : other.Made config) :
    Apart call other ↔ Staggered call other := by
  constructor
  · intro apart same
    constructor
    · intro now
      apply apart.reference
      rw [made.reference, second.reference, same, now]
    · intro request sent later listed now
      apply apart.key request sent later listed
      rw [made.key request sent, second.key later listed, same, now]
  · intro staggered
    constructor
    · rw [made.reference, second.reference]
      intro equal
      obtain ⟨same, now⟩ := (createReference_eq_iff).mp equal
      exact (staggered same).1 now
    · intro request sent later listed
      rw [made.key request sent, second.key later listed]
      intro equal
      obtain ⟨same, now⟩ := (createReference_eq_iff).mp equal
      exact (staggered same).2 request sent later listed now

theorem Call.Made.length_requests_le (made : call.Made config) : call.requests.length ≤ 2 * config.maxAttempts := by
  have each : ∀ task ∈ call.tasks, task.requests.length ≤ config.maxAttempts := by
    intro task member
    exact Nat.le_trans (made.counted task member).sent (made.counted task member).bounded
  have few : call.tasks.length ≤ 2 := by
    have twice := made.twice
    omega
  calc call.requests.length
      = (call.tasks.map fun task => task.requests.length).sum := List.length_flatMap
    _ ≤ (call.tasks.map fun task => task.requests.length).length * config.maxAttempts := by
      apply List.sum_le_card_nsmul
      intro count member
      obtain ⟨task, listed, rfl⟩ := List.mem_map.mp member
      exact each task listed
    _ ≤ 2 * config.maxAttempts := by
      rw [List.length_map]
      exact Nat.mul_le_mul_right _ few

/-- Retries are idempotent at the provider exactly when the clock does not move on between the requests of a call and has
moved on between any two calls. -/
theorem idempotent_iff_timed (config : Config Amount) (maxQueueDepth : ℕ) (trace : List Label)
    (service : AirtelService Amount) (run : Run (step config) (.initial Amount maxQueueDepth) trace service) :
    Idempotent config service ↔ Timed service := by
  have kept := kept_of_run run
  constructor
  · intro idempotent
    constructor
    · intro call member
      exact (kept call member).keyed_iff.mp (idempotent.keyed call member)
    · intro index other call second different found held
      have made := kept call (List.mem_of_getElem? found)
      exact (made.apart_iff (kept second (List.mem_of_getElem? held))).mp (idempotent.apart index other call second different found held)
  · intro timed
    constructor
    · intro call member
      exact (kept call member).keyed_iff.mpr (timed.atOnce call member)
    · intro index other call second different found held
      have made := kept call (List.mem_of_getElem? found)
      exact (made.apart_iff (kept second (List.mem_of_getElem? held))).mpr (timed.staggered index other call second different found held)
    · intro call member
      exact (kept call member).length_requests_le

def sample : Config String where
  mode := "web"
  webBaseUrl := "https://airtel.example"
  paymentPath := "/merchant/v1/payments/"
  payoutPath := "/standard/v1/disbursements/"
  country := "NG"
  currency := "NGN"
  refreshSkewMs := 60000
  maxAttempts := 3
  parseFloat := id
  formatPhoneForProvider := some

def sampleSession : AirtelSessionState :=
  ⟨[("sid", "7")], some "token", 1200000⟩

/-- A payment is answered at once, and then a payout. -/
def answeredAtOnce : List Label :=
  [.requestPayment "+2348000000001" "100" 1000 1000, .queue (.runEntry 0 1000 1000), .start 0 0,
    .ensureSession 0 0 1000 (.ok sampleSession) 1001, .respond 0 0 ⟨200, "done", none, none⟩ (some sampleSession),
    .queue (.finish 0 (.ok (.response ⟨200, "done", none, none⟩))), .settle 0 1500,
    .sendPayout "+2348000000001" "40" 2000 2000, .queue (.runEntry 1 2000 2000), .start 1 0,
    .ensureSession 1 0 2000 (.ok sampleSession) 2000, .respond 1 0 ⟨200, "done", none, none⟩ (some sampleSession)]

theorem answeredAtOnce_idempotent : ∃ last : AirtelService String,
    last.calls.map (fun call => call.requests.map (·.idempotencyKey)) = [["AIRTEL-1001"], ["AIRTEL-PAYOUT-2000"]] ∧
    (Idempotent sample last ↔ Timed last) := by
  have followed : (answeredAtOnce.foldlM (AirtelService.perform sample) (.initial String 100)).map (fun service =>
      service.calls.map fun call => call.requests.map (·.idempotencyKey)) =
        some [["AIRTEL-1001"], ["AIRTEL-PAYOUT-2000"]] := by
    decide +kernel
  obtain ⟨last, reached, keys⟩ := Option.map_eq_some_iff.mp followed
  exact ⟨last, keys, idempotent_iff_timed sample 100 answeredAtOnce last (Run.follow reached)⟩

/-- The provider is unavailable to the first request of a payment, which is sent again after a second. -/
def sentTwice : List Label :=
  [.requestPayment "+2348000000001" "100" 1000 1000, .queue (.runEntry 0 1000 1000), .start 0 0,
    .ensureSession 0 0 1000 (.ok sampleSession) 1001, .respond 0 0 ⟨503, "", none, none⟩ (some sampleSession),
    .wake 0 0, .ensureSession 0 0 2001 (.ok sampleSession) 2001]

theorem sentTwice_not_idempotent : ¬∀ (Amount : Type) (config : Config Amount) (maxQueueDepth : ℕ) (trace : List Label)
    (service : AirtelService Amount), Run (step config) (.initial Amount maxQueueDepth) trace service →
    Idempotent config service := by
  intro always
  have followed : (sentTwice.foldlM (AirtelService.perform sample) (.initial String 100)).map (fun service =>
      service.calls.map fun call => call.requests.map (·.idempotencyKey)) =
        some [["AIRTEL-1001", "AIRTEL-2001"]] := by
    decide
  obtain ⟨last, reached, keys⟩ := Option.map_eq_some_iff.mp followed
  obtain ⟨call, same, sent⟩ := List.map_eq_singleton_iff.mp keys
  have keyed := (always String sample 100 sentTwice last (Run.follow reached)).keyed call (by simp [same])
  obtain ⟨first, rest, listed, early, later⟩ := List.map_eq_cons_iff.mp sent
  obtain ⟨second, _, following, late, _⟩ := List.map_eq_cons_iff.mp later
  have equal := keyed.key first (by simp [listed]) second (by simp [listed, following])
  rw [early, late] at equal
  exact absurd equal (by decide)

end ProxyPay.Airtel
