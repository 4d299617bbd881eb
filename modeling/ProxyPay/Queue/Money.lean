import ProxyPay.Library.Exclusive
import ProxyPay.Queue.Worker

/-! The money that one run of the worker moves, as the journal of its payment attempts,
and when that journal obeys the money law. -/

namespace ProxyPay.Queue

open ProxyPay.Library

inductive Movement where
  | collection
  | payout
  | stellar
  deriving DecidableEq

/-- One attempt to move money. `early` attempts stand before the `try` block; an attempt
that did not succeed may have taken effect all the same. -/
structure Attempt where
  movement : Movement
  early : Bool
  party : String
  amount : String
  succeeded : Bool
  tookEffect : Bool
  deriving DecidableEq

def succeeded {α : Type} (accepted : α → Bool) : Except Thrown α → Bool
  | .ok value => accepted value
  | .error _ => false

/-- The attempt that an exchange is, if it is one. An answer that reports success is
believed by the worker; a Stellar payment that returns need not have taken effect. -/
def attemptOf : Answered → Option Attempt
  | ⟨⟨site, .sendPayment destination amount _ _⟩, reply, tookEffect⟩ =>
    some ⟨.stellar, site = .prepare, destination, amount, succeeded (fun _ => true) reply, tookEffect⟩
  | ⟨⟨site, .initiatePayment _ phoneNumber amount _⟩, reply, tookEffect⟩ =>
    let accepted := succeeded ProviderResult.success reply
    some ⟨.collection, site = .prepare, phoneNumber, amount, accepted, accepted || tookEffect⟩
  | ⟨⟨site, .sendPayout _ phoneNumber amount _⟩, reply, tookEffect⟩ =>
    let accepted := succeeded ProviderResult.success reply
    some ⟨.payout, site = .prepare, phoneNumber, amount, accepted, accepted || tookEffect⟩
  | _ => none

/-- The payment attempts of a run, in order. -/
def journal (exchanges : List Answered) : List Attempt :=
  exchanges.filterMap attemptOf

/-- A Stellar payment of the job's amount to the job's address that took effect. -/
def Attempt.paysStellar (job : TransactionJobData) (attempt : Attempt) : Bool :=
  attempt.movement = .stellar && attempt.party = job.stellarAddress &&
    attempt.amount = job.amount && attempt.tookEffect

/-- A collection or a payout that took effect. -/
def Attempt.movesMobileMoney (attempt : Attempt) : Bool :=
  attempt.movement ≠ .stellar && attempt.tookEffect

/-- A collection of the job's amount that reported success. -/
def Attempt.collects (job : TransactionJobData) (attempt : Attempt) : Bool :=
  attempt.movement = .collection && attempt.amount = job.amount && attempt.succeeded

/-- What one run of a job may do with money. -/
structure MoneyLaw (job : TransactionJobData) (attempts : List Attempt) : Prop where
  stellarOnce : attempts.countP (Attempt.paysStellar job) ≤ 1
  funded : job.type = .deposit → ∀ before payment after, attempts = before ++ payment :: after →
    payment.paysStellar job = true → ∃ collection ∈ before, collection.collects job = true
  withdrawn : job.type = .withdraw → ∀ attempt ∈ attempts, attempt.paysStellar job = false
  mobileMoneyOnce : attempts.countP Attempt.movesMobileMoney ≤ 1

/-- The mobile-money movement of a job. -/
def JobType.movement : JobType → Movement
  | .deposit => .collection
  | .withdraw => .payout

def ProviderOf (job : TransactionJobData) (attempt : Attempt) : Prop :=
  attempt.movement = job.type.movement ∧ attempt.early = false ∧ attempt.amount = job.amount

def StellarOf (job : TransactionJobData) (site : Site) (attempt : Attempt) : Prop :=
  attempt.movement = .stellar ∧ attempt.early = decide (site = .prepare) ∧
    attempt.party = job.stellarAddress ∧ attempt.amount = job.amount

/-- The attempts of one retry loop: only the last one can have succeeded. -/
def Retried (attempts : List Attempt) : Prop :=
  attempts.Pairwise fun first _ => first.succeeded = false

/-- The shape of the journal of every run: the early payments, then the retried
mobile-money calls, then, for a deposit whose collection succeeded, the Stellar payments. -/
structure Shape (job : TransactionJobData) (attempts : List Attempt) : Prop where
  split : ∃ early provider stellar, attempts = early ++ (provider ++ stellar) ∧
    (∀ attempt ∈ early, StellarOf job .prepare attempt) ∧
    (∀ attempt ∈ provider, ProviderOf job attempt) ∧ Retried provider ∧
    (∀ attempt ∈ stellar, StellarOf job .body attempt) ∧ Retried stellar ∧
    (stellar ≠ [] → job.type = .deposit ∧ ∃ attempt ∈ provider, attempt.succeeded = true)

/-- The journal as an observation; nothing is assumed of the answers. -/
def bookkeeper : Observer Request Request.Reply Thrown (List Attempt) where
  observe attempts exchange := attempts ++ (attemptOf exchange).toList
  meets _ _ := True

attribute [local simp] Attempt.paysStellar

theorem after_eq_journal (exchanges : List Answered) (attempts : List Attempt) :
    bookkeeper.after attempts exchanges = attempts ++ journal exchanges := by
  induction exchanges generalizing attempts with
  | nil => simp [Observer.after, journal]
  | cons exchange rest ih =>
    have continued := ih (attempts ++ (attemptOf exchange).toList)
    simp only [Observer.after, List.foldl_cons] at continued ⊢
    rw [journal, List.filterMap_cons]
    cases found : attemptOf exchange <;> simpa [bookkeeper, found, journal] using continued

theorem bookkeeper_allMeet (exchanges : List Answered) (attempts : List Attempt) :
    bookkeeper.AllMeet attempts exchanges := by
  induction exchanges generalizing attempts with
  | nil => trivial
  | cons exchange rest ih => exact ⟨trivial, ih _⟩

theorem attemptOf_unpaid {exchange : Answered} (unpaid : exchange.request.operation.pays = false) :
    attemptOf exchange = none := by
  obtain ⟨⟨site, operation⟩, reply, tookEffect⟩ := exchange
  cases operation <;> first | rfl | cases unpaid

variable {α : Type} {script : Worker α} {holds : List Attempt → Prop}

theorem unpaid_triple (asks : script.Asks fun request => request.operation.pays = false) :
    bookkeeper.Triple holds script fun _ => holds :=
  .keeps asks fun attempts exchange unpaid _ initially => by
    have same : bookkeeper.observe attempts exchange = attempts := by
      simp [bookkeeper, attemptOf_unpaid unpaid]
    rw [same]
    exact initially

variable {site : Site}

theorem quiet_unpaid {request : Request} (quiet : Quiet site request) : request.operation.pays = false := by
  obtain ⟨_, silent⟩ := quiet
  cases operation : request.operation <;> simp_all [Operation.quiet, Operation.pays]

theorem calm_unpaid (calm : script.Calm (Quiet site) Exposed) :
    script.Asks fun request => request.operation.pays = false :=
  calm.asks.weaken fun _ => quiet_unpaid

theorem calm_triple (calm : script.Calm (Quiet site) Exposed) : bookkeeper.Triple holds script fun _ => holds :=
  unpaid_triple (calm_unpaid calm)

/-- The attempts of a loop that has not succeeded yet. -/
def Failing (of : Attempt → Prop) (attempts : List Attempt) : Prop :=
  ∀ attempt ∈ attempts, of attempt ∧ attempt.succeeded = false

section

variable {of : Attempt → Prop} {attempts : List Attempt}

section

variable (failing : Failing of attempts)

include failing

theorem Failing.retried : Retried attempts :=
  List.pairwise_of_forall_mem_list fun first member _ _ => (failing first member).2

variable {last : Attempt}

theorem Failing.snoc (fits : of last) (failed : last.succeeded = false) : Failing of (attempts ++ [last]) := by
  refine forall_mem_append_singleton failing ?_
  simp_all

theorem Failing.all_snoc (fits : of last) : ∀ attempt ∈ attempts ++ [last], of attempt := by
  refine forall_mem_append_singleton (fun attempt earlier => (failing attempt earlier).1) ?_
  simp_all

theorem Failing.retried_snoc : Retried (attempts ++ [last]) :=
  List.pairwise_append.mpr ⟨failing.retried, List.pairwise_singleton _ _,
    fun first member _ _ => (failing first member).2⟩

end

end

section Runs

variable {config : Config} {job : TransactionJobData}

variable {site : Site}

theorem retrying_triple {α : Type} {attempt : Worker α} {of : Attempt → Prop} {before : List Attempt → Prop}
    (attempted : ∀ attempts, bookkeeper.Triple (· = attempts) attempt (Observer.ends
        (fun _ after => ∃ last, after = attempts ++ [last] ∧ of last ∧ last.succeeded = true)
        (fun _ after => ∃ last, after = attempts ++ [last] ∧ of last ∧ last.succeeded = false))) :
    bookkeeper.Triple before (retrying config site job attempt) (Observer.ends
        (fun _ after => ∃ earlier failed last, before earlier ∧
          after = earlier ++ (failed ++ [last]) ∧ Failing of failed ∧ of last ∧
          last.succeeded = true)
        (fun _ after => ∃ earlier failed, before earlier ∧ after = earlier ++ failed ∧ Failing of failed)) := by
  have asks : (ask site (.incrementRetryCount job.transactionId)).Asks
      fun request => request.operation.pays = false := .call rfl
  have noted : bookkeeper.Triple (fun attempts => ∃ earlier failed, before earlier ∧
      attempts = earlier ++ failed ∧ Failing of failed) _ _ :=
    (unpaid_triple (asks.bind fun _ => .done (.ok ()))).either
  refine (withRetry_triple config.positive ?_ noted fun _ _ holds => holds).weaken ?_
    fun _ _ holds => holds
  · rintro attempts exchanges outcome ⟨earlier, failed, holds, rfl, failing⟩ runs meets
    have ended := attempted _ _ exchanges outcome rfl runs meets
    cases outcome with
    | ok value =>
      obtain ⟨last, after, fits, success⟩ := ended
      exact ⟨earlier, failed, last, holds, by rw [after, List.append_assoc], failing, fits, success⟩
    | error error =>
      obtain ⟨last, after, fits, failure⟩ := ended
      exact ⟨earlier, failed ++ [last], holds, by rw [after, List.append_assoc],
        failing.snoc fits failure⟩
  · intro attempts holds
    exact ⟨attempts, [], holds, by simp, fun _ member => by simp at member⟩

variable {senderName : String}

theorem sendPayment_triple (attempts : List Attempt) : bookkeeper.Triple (· = attempts)
      (ask site (.sendPayment job.stellarAddress job.amount senderName job.phoneNumber))
      (Observer.ends (fun _ after => ∃ last, after = attempts ++ [last] ∧ StellarOf job site last ∧
          last.succeeded = true)
        (fun _ after => ∃ last, after = attempts ++ [last] ∧ StellarOf job site last ∧ last.succeeded = false)) := by
  refine .call ?_
  rintro state reply tookEffect rfl _
  cases reply <;> exact ⟨_, rfl, ⟨rfl, rfl, rfl, rfl⟩, rfl⟩

variable {call : Worker ProviderResult}

theorem successfully_triple {of : Attempt → Prop} {attempts : List Attempt}
    (called : bookkeeper.Triple (· = attempts) call fun reply after =>
      ∃ last, after = attempts ++ [last] ∧ of last ∧ last.succeeded = succeeded ProviderResult.success reply) :
    bookkeeper.Triple (· = attempts) (successfully call) (Observer.ends
        (fun _ after => ∃ last, after = attempts ++ [last] ∧ of last ∧ last.succeeded = true)
        (fun _ after => ∃ last, after = attempts ++ [last] ∧ of last ∧ last.succeeded = false)) := by
  refine successfully_rule called ?_ ?_ fun _ _ holds => holds
  · rintro result state success ⟨last, after, fits, same⟩
    exact ⟨last, after, fits, same.trans success⟩
  · rintro result state failure ⟨last, after, fits, same⟩
    exact ⟨last, after, fits, same.trans failure⟩

theorem initiatePayment_triple (deposit : job.type = .deposit) (attempts : List Attempt) :
    bookkeeper.Triple (· = attempts)
      (ask .body (.initiatePayment job.provider job.phoneNumber job.amount job.requestId))
      fun reply after => ∃ last, after = attempts ++ [last] ∧ ProviderOf job last ∧
        last.succeeded = succeeded ProviderResult.success reply := by
  refine .call ?_
  rintro state reply tookEffect rfl _
  exact ⟨_, rfl, ⟨by rw [deposit]; rfl, rfl, rfl⟩, rfl⟩

theorem sendPayout_triple (withdraw : job.type = .withdraw) (attempts : List Attempt) : bookkeeper.Triple (· = attempts)
      (ask .body (.sendPayout job.provider job.phoneNumber job.amount job.requestId))
      fun reply after => ∃ last, after = attempts ++ [last] ∧ ProviderOf job last ∧
        last.succeeded = succeeded ProviderResult.success reply := by
  refine .call ?_
  rintro state reply tookEffect rfl _
  exact ⟨_, rfl, ⟨by rw [withdraw]; rfl, rfl, rfl⟩, rfl⟩

/-- Before the `try` block: only early payments. -/
def Preparing (job : TransactionJobData) (attempts : List Attempt) : Prop :=
  ∀ attempt ∈ attempts, StellarOf job .prepare attempt

/-- The mobile-money call has succeeded. -/
def Collected (job : TransactionJobData) (attempts : List Attempt) : Prop :=
  ∃ early failed last, attempts = early ++ (failed ++ [last]) ∧ Preparing job early ∧
    Failing (ProviderOf job) failed ∧ ProviderOf job last ∧ last.succeeded = true

theorem Preparing.shape {attempts : List Attempt} (preparing : Preparing job attempts) : Shape job attempts := by
  refine ⟨attempts, [], [], by simp, preparing, ?_, .nil, ?_, .nil, ?_⟩ <;> simp

theorem Collected.shape {attempts : List Attempt} (collected : Collected job attempts) : Shape job attempts := by
  obtain ⟨early, failed, last, rfl, preparing, failing, fits, success⟩ := collected
  refine ⟨early, failed ++ [last], [], by simp, preparing, failing.all_snoc fits,
    failing.retried_snoc, ?_, .nil, ?_⟩ <;> simp

theorem prepare_triple : bookkeeper.Triple (· = []) (prepare config job) fun _ => Preparing job := by
  have paid : ∀ senderName, bookkeeper.Triple (Preparing job)
      (payStellar config .prepare job senderName) fun _ => Preparing job := by
    intro senderName
    refine (retrying_triple sendPayment_triple).weaken (fun _ holds => holds) ?_
    intro outcome attempts ended
    cases outcome with
    | ok receipt =>
      obtain ⟨earlier, failed, last, preparing, rfl, failing, fits, _⟩ := ended
      intro attempt member
      rcases List.mem_append.mp member with first | later
      · exact preparing attempt first
      · exact failing.all_snoc fits attempt later
    | error error =>
      obtain ⟨earlier, failed, preparing, rfl, failing⟩ := ended
      intro attempt member
      rcases List.mem_append.mp member with first | repeated
      · exact preparing attempt first
      · exact (failing attempt repeated).1
  have started : bookkeeper.Triple (· = []) (ask .prepare (.findById job.transactionId))
      fun _ => Preparing job :=
    (calm_triple (ask_calm rfl rfl)).weaken (fun _ holds => holds) (by
      rintro outcome attempts rfl
      exact fun attempt member => by simp at member)
  refine started.bind (fun row => ?_) fun _ _ holds => holds
  refine (calm_triple senderNameOf_calm).bind (fun senderName => ?_) fun _ _ holds => holds
  refine (paid senderName).bind (fun receipt => ?_) fun _ _ holds => holds
  refine (calm_triple storeReceipt_calm).bind (fun _ => ?_) fun _ _ holds => holds
  exact (calm_triple updateProgress_calm).bind (fun _ => .done fun _ holds => holds)
    fun _ _ holds => holds

theorem mobileMoney_triple (called : ∀ attempts, bookkeeper.Triple (· = attempts) call fun reply after =>
      ∃ last, after = attempts ++ [last] ∧ ProviderOf job last ∧
        last.succeeded = succeeded ProviderResult.success reply) :
    bookkeeper.Triple (Preparing job) (retrying config .body job (successfully call))
      (Observer.ends (fun _ => Collected job) fun _ => Shape job) := by
  refine (retrying_triple fun attempts => successfully_triple (called attempts)).weaken
    (fun _ holds => holds) ?_
  intro outcome attempts ended
  cases outcome with
  | ok result =>
    obtain ⟨early, failed, last, preparing, rfl, failing, fits, success⟩ := ended
    exact ⟨early, failed, last, rfl, preparing, failing, fits, success⟩
  | error error =>
    obtain ⟨early, failed, preparing, rfl, failing⟩ := ended
    refine ⟨early, failed, [], by simp, preparing, fun attempt member => (failing attempt member).1,
      failing.retried, ?_, .nil, ?_⟩ <;> simp

theorem payStellar_triple (deposit : job.type = .deposit) :
    bookkeeper.Triple (Collected job) (payStellar config .body job senderName) fun _ => Shape job := by
  have shaped : ∀ attempts stellar, Collected job attempts →
      (∀ attempt ∈ stellar, StellarOf job .body attempt) → Retried stellar →
      Shape job (attempts ++ stellar) := by
    rintro attempts stellar ⟨early, failed, last, rfl, preparing, failing, fits, success⟩ every retried
    exact ⟨early, failed ++ [last], stellar, by rw [List.append_assoc], preparing,
      failing.all_snoc fits, failing.retried_snoc, every, retried,
      fun _ => ⟨deposit, last, by simp, success⟩⟩
  refine (retrying_triple sendPayment_triple).weaken (fun _ holds => holds) ?_
  intro outcome attempts ended
  cases outcome with
  | ok receipt =>
    obtain ⟨earlier, failed, last, collected, rfl, failing, fits, _⟩ := ended
    exact shaped _ _ collected (failing.all_snoc fits) failing.retried_snoc
  | error error =>
    obtain ⟨earlier, failed, collected, rfl, failing⟩ := ended
    exact shaped _ _ collected (fun attempt member => (failing attempt member).1) failing.retried

theorem updateStatus_unpaid {id : String} {status : TransactionStatus} :
    (updateStatus site id status).Asks fun request => request.operation.pays = false :=
  .bind (.call rfl) fun _ => calm_unpaid followUpdate_calm

theorem completeTransaction_unpaid : (completeTransaction job).Asks fun request => request.operation.pays = false := by
  refine .bind (calm_unpaid updateProgress_calm) fun _ => ?_
  refine .bind updateStatus_unpaid fun _ => ?_
  refine .bind (.call rfl) fun _ => ?_
  refine .bind (calm_unpaid routeNotification_calm) fun _ => ?_
  refine .bind (.call rfl) fun _ => ?_
  exact .bind (calm_unpaid updateProgress_calm) fun _ => .done _

theorem handleFailure_unpaid {error : Thrown} :
    (handleFailure config job error).Asks fun request => request.operation.pays = false := by
  have fails : (failTransaction job error).Asks fun request => request.operation.pays = false := by
    refine .bind updateStatus_unpaid fun _ => ?_
    refine .bind (.call rfl) fun _ => ?_
    refine .bind (calm_unpaid routeNotification_calm) fun _ => ?_
    refine .bind (.call rfl) fun _ => ?_
    exact .bind (calm_unpaid reportToSubscription_calm) fun _ => .done _
  unfold handleFailure
  split
  · refine .bind (.call rfl) fun existing => ?_
    dsimp only
    split
    · exact calm_unpaid requeue_calm
    · exact fails
  · exact fails

theorem processDeposit_triple (deposit : job.type = .deposit) {stellarResult : StellarReceipt} :
    bookkeeper.Triple (Preparing job) (processDeposit config job senderName stellarResult) fun _ => Shape job := by
  have keepsShape : ∀ (_ : Thrown) attempts, Collected job attempts → Shape job attempts :=
    fun _ _ collected => collected.shape
  refine (calm_triple updateProgress_calm).bind (fun _ => ?_) fun _ _ holds => holds.shape
  refine (mobileMoney_triple (initiatePayment_triple deposit)).bind (fun result => ?_)
    fun _ _ holds => holds
  refine (calm_triple recordResponseTime_calm).bind (fun _ => ?_) keepsShape
  refine (calm_triple updateProgress_calm).bind (fun _ => ?_) keepsShape
  refine (unpaid_triple ?_).bind (fun _ => ?_) keepsShape
  · unfold requireSuccess
    split <;> exact .done _
  refine (calm_triple updateProgress_calm).bind (fun _ => ?_) keepsShape
  refine (payStellar_triple deposit).bind (fun _ => ?_) fun _ _ holds => holds
  refine (calm_triple storeReceipt_calm).bind (fun _ => ?_) fun _ _ holds => holds
  exact unpaid_triple completeTransaction_unpaid

theorem processWithdraw_triple (withdraw : job.type = .withdraw) :
    bookkeeper.Triple (Preparing job) (processWithdraw config job) fun _ => Shape job := by
  refine (calm_triple updateProgress_calm).bind (fun _ => ?_) fun _ _ holds => holds.shape
  refine (mobileMoney_triple (sendPayout_triple withdraw)).bind (fun result => ?_)
    fun _ _ holds => holds
  have shaped : bookkeeper.Triple (Shape job) (do
      recordResponseTime job "providerResponseTimeMs" result
      updateProgress .body job.transactionId 50
      requireSuccess result
      storeProviderReference job result
      completeTransaction job) fun _ => Shape job := by
    refine (calm_triple recordResponseTime_calm).bind (fun _ => ?_) fun _ _ holds => holds
    refine (calm_triple updateProgress_calm).bind (fun _ => ?_) fun _ _ holds => holds
    refine (unpaid_triple ?_).bind (fun _ => ?_) fun _ _ holds => holds
    · unfold requireSuccess
      split <;> exact .done _
    refine (calm_triple storeProviderReference_calm).bind (fun _ => ?_) fun _ _ holds => holds
    exact unpaid_triple completeTransaction_unpaid
  exact shaped.weaken (fun _ collected => collected.shape) fun _ _ holds => holds

theorem processTransaction_triple : bookkeeper.Triple (· = []) (processTransaction config job) fun _ => Shape job := by
  refine (prepare_triple).bind (fun prepared => ?_) fun _ _ holds => holds.shape
  obtain ⟨senderName, stellarResult⟩ := prepared
  have settled : bookkeeper.Triple (Preparing job) (body config job senderName stellarResult)
      fun _ => Shape job := by
    refine (calm_triple updateProgress_calm).bind (fun _ => ?_) fun _ _ holds => holds.shape
    cases type : job.type with
    | deposit => exact processDeposit_triple type
    | withdraw => exact processWithdraw_triple type
  exact settled.catching (fun _ _ holds => holds) fun error => unpaid_triple handleFailure_unpaid

end Runs

/-- No payment of the section before the `try` block took effect. -/
def NoEarlyPayment (attempts : List Attempt) : Prop :=
  ∀ attempt ∈ attempts, attempt.early = true → attempt.tookEffect = false

/-- After an attempt that took effect and reported a failure, no other attempt of the
same movement took effect. -/
def NoRepeatedEffect (attempts : List Attempt) : Prop :=
  attempts.Pairwise fun first later => first.movement = later.movement →
    first.succeeded = false → first.tookEffect = true → later.tookEffect = false

theorem countP_le_one_iff {selects : α → Bool} {items : List α} : items.countP selects ≤ 1 ↔
      items.Pairwise fun first later => selects first = true → selects later = false := by
  induction items with
  | nil => simp
  | cons item rest ih =>
    rw [List.countP_cons, List.pairwise_cons, ← ih]
    cases selected : selects item with
    | false => simp
    | true =>
      have none : rest.countP selects = 0 ↔ ∀ other ∈ rest, selects other = false := by simp
      simp only [if_true, true_implies, ← none]
      omega

section Law

variable {job : TransactionJobData} {attempts : List Attempt}

theorem Shape.attempt (shape : Shape job attempts) {attempt : Attempt} (member : attempt ∈ attempts) :
    (attempt.movement = .stellar ∧ attempt.party = job.stellarAddress ∨
      attempt.movement = job.type.movement ∧ attempt.early = false) ∧
    attempt.amount = job.amount := by
  obtain ⟨early, provider, stellar, rfl, preparing, paying, _, funding, _⟩ := shape.split
  rcases List.mem_append.mp member with first | later
  · exact ⟨.inl ⟨(preparing _ first).1, (preparing _ first).2.2.1⟩, (preparing _ first).2.2.2⟩
  · rcases List.mem_append.mp later with middle | last
    · exact ⟨.inr ⟨(paying _ middle).1, (paying _ middle).2.1⟩, (paying _ middle).2.2⟩
    · exact ⟨.inl ⟨(funding _ last).1, (funding _ last).2.2.1⟩, (funding _ last).2.2.2⟩

theorem movement_ne_stellar (type : JobType) : type.movement ≠ .stellar := by
  cases type <;> decide

section

variable (shape : Shape job attempts)

include shape

theorem Shape.ordered : attempts.Pairwise fun first later => first.movement = later.movement →
      first.early = true ∨ first.succeeded = false := by
  obtain ⟨early, provider, stellar, rfl, preparing, paying, retried, funding, repaid, _⟩ := shape.split
  refine List.pairwise_append.mpr ⟨?_, List.pairwise_append.mpr ⟨?_, ?_, ?_⟩, ?_⟩
  · refine List.pairwise_of_forall_mem_list fun first member _ _ _ => .inl ?_
    simpa using (preparing first member).2.1
  · exact retried.imp fun failed _ => .inr failed
  · exact repaid.imp fun failed _ => .inr failed
  · intro first before later after same
    have different : job.type.movement ≠ Movement.stellar := movement_ne_stellar job.type
    rw [(paying first before).1, (funding later after).1] at same
    exact absurd same different
  · intro first before later _ _
    exact .inl (by simpa using (preparing first before).2.1)

theorem MoneyLaw.noEarlyPayment (law : MoneyLaw job attempts) : NoEarlyPayment attempts := by
  intro attempt member isEarly
  have known := shape.attempt member
  obtain ⟨early, provider, stellar, rfl, preparing, paying, _, funding, _⟩ := shape.split
  rcases List.mem_append.mp member with first | later
  · cases effect : attempt.tookEffect with
    | false => rfl
    | true =>
      obtain ⟨isStellar, _, addressed, amount⟩ := preparing attempt first
      have pays : attempt.paysStellar job = true := by simp_all
      cases type : job.type with
      | withdraw =>
        have never := law.withdrawn type attempt member
        rw [pays] at never
        cases never
      | deposit =>
        obtain ⟨before, after, rfl⟩ := List.append_of_mem first
        obtain ⟨collection, earlier, collects⟩ := law.funded type before attempt _
          (by rw [List.append_assoc, List.cons_append]) pays
        have stellarToo := (preparing collection (List.mem_append_left _ earlier)).1
        simp [Attempt.collects, stellarToo] at collects
  · exfalso
    rcases List.mem_append.mp later with middle | last
    · simp [(paying attempt middle).2.1] at isEarly
    · simp [(funding attempt last).2.1] at isEarly

theorem MoneyLaw.noRepeatedEffect (law : MoneyLaw job attempts) : NoRepeatedEffect attempts := by
  have stellarOnce := (countP_le_one_iff).mp law.stellarOnce
  have mobileOnce := (countP_le_one_iff).mp law.mobileMoneyOnce
  refine (stellarOnce.and mobileOnce).imp_of_mem ?_
  rintro first later before after ⟨stellar, mobile⟩ same _ effect
  cases repeated : later.tookEffect with
  | false => rfl
  | true =>
    obtain ⟨firstKind, firstAmount⟩ := shape.attempt before
    obtain ⟨laterKind, laterAmount⟩ := shape.attempt after
    by_cases isStellar : first.movement = .stellar
    · have addressed : ∀ attempt : Attempt, attempt.movement = .stellar →
          (attempt.movement = .stellar ∧ attempt.party = job.stellarAddress ∨
            attempt.movement = job.type.movement ∧ attempt.early = false) →
          attempt.party = job.stellarAddress := by
        intro attempt kind cases
        rcases cases with ⟨_, party⟩ | ⟨other, _⟩
        · exact party
        · exact absurd (other.symm.trans kind) (movement_ne_stellar job.type)
      have clash := stellar (by
        simp [isStellar, addressed first isStellar firstKind, firstAmount, effect])
      simp [← same, isStellar, addressed later (same.symm.trans isStellar) laterKind, laterAmount, repeated] at clash
    · simp_all [Attempt.movesMobileMoney]

theorem Shape.funded (noEarly : NoEarlyPayment attempts) {before after : List Attempt} {payment : Attempt}
    (split : attempts = before ++ payment :: after) (pays : payment.paysStellar job = true) :
    ∃ collection ∈ before, collection.collects job = true := by
  obtain ⟨early, provider, stellar, parts, preparing, paying, _, funding, _, funded⟩ := shape.split
  simp only [Attempt.paysStellar, Bool.and_eq_true, decide_eq_true_eq] at pays
  have outside : payment ∉ early ++ provider := by
    intro member
    rcases List.mem_append.mp member with first | middle
    · have effect := noEarly payment (by rw [parts]; simp [first]) (by
        simpa using (preparing payment first).2.1)
      simp [effect] at pays
    · have kind := (paying payment middle).1
      rw [pays.1.1.1] at kind
      exact movement_ne_stellar job.type kind.symm
  have whole : before ++ payment :: after = (early ++ provider) ++ stellar := by
    rw [← split, parts, List.append_assoc]
  -- the payment lies beyond the prefix `early ++ provider`
  have inside : ∃ rest, before = (early ++ provider) ++ rest ∧ stellar = rest ++ payment :: after := by
    rcases List.append_eq_append_iff.mp whole with ⟨rest, prior, tail⟩ | ⟨rest, prior, tail⟩
    · cases rest with
      | nil => exact ⟨[], by simpa using prior.symm, by simpa using tail.symm⟩
      | cons head rest =>
        cases tail
        exact absurd (by rw [prior]; simp) outside
    · exact ⟨rest, prior, tail⟩
  obtain ⟨rest, prior, tail⟩ := inside
  obtain ⟨deposit, collection, member, success⟩ := funded (by rw [tail]; simp)
  obtain ⟨kind, _, amount⟩ := paying collection member
  refine ⟨collection, by rw [prior]; simp [member], ?_⟩
  simp [Attempt.collects, kind, deposit, JobType.movement, amount, success]

theorem Shape.withdrawn (noEarly : NoEarlyPayment attempts)
    (withdraw : job.type = .withdraw) {attempt : Attempt} (member : attempt ∈ attempts) :
    attempt.paysStellar job = false := by
  obtain ⟨early, provider, stellar, parts, preparing, paying, _, _, _, funded⟩ := shape.split
  have unpaid : stellar = [] := by simp_all
  have place : attempt ∈ early ∨ attempt ∈ provider := by simpa [parts, unpaid] using member
  rcases place with first | middle
  · have effect := noEarly attempt member (by simpa using (preparing attempt first).2.1)
    simp [effect]
  · have kind := (paying attempt middle).1
    simp [kind, movement_ne_stellar]

theorem Shape.moneyLaw_iff : MoneyLaw job attempts ↔ NoEarlyPayment attempts ∧ NoRepeatedEffect attempts := by
  constructor
  · exact fun law => ⟨law.noEarlyPayment shape, law.noRepeatedEffect shape⟩
  · rintro ⟨noEarly, noRepeat⟩
    -- an attempt that took effect is neither early nor followed by another one
    have apart : attempts.Pairwise fun first later => first.movement = later.movement →
        first.tookEffect = true → later.tookEffect = false := by
      refine (shape.ordered.and noRepeat).imp_of_mem ?_
      rintro first later before _ ⟨ordered, repeated⟩ same effect
      rcases ordered same with early | failed
      · rw [noEarly first before early] at effect
        cases effect
      · exact repeated same failed effect
    refine ⟨?_, ?_, ?_, ?_⟩
    · refine (countP_le_one_iff).mpr (apart.imp ?_)
      intro first later separate pays
      simp only [Attempt.paysStellar, Bool.and_eq_true, decide_eq_true_eq] at pays
      by_cases isStellar : later.movement = .stellar
      · simp [separate (pays.1.1.1.trans isStellar.symm) pays.2]
      · simp [isStellar]
    · exact fun deposit before payment after split pays =>
        shape.funded noEarly split (by simpa using pays)
    · exact fun withdraw attempt member => shape.withdrawn noEarly withdraw member
    · refine (countP_le_one_iff).mpr (apart.imp_of_mem ?_)
      intro first later before after separate moves
      simp only [Attempt.movesMobileMoney, Bool.and_eq_true, decide_eq_true_eq] at moves
      by_cases isStellar : later.movement = .stellar
      · simp [Attempt.movesMobileMoney, isStellar]
      · have firstKind := ((shape.attempt before).1.resolve_left fun kind => moves.1 kind.1).1
        have laterKind := ((shape.attempt after).1.resolve_left fun kind => isStellar kind.1).1
        simp [Attempt.movesMobileMoney, separate (firstKind.trans laterKind.symm) moves.2]

end

end Law

/-- The payment attempts of the run that a world produces. -/
def attemptsOf (config : Config) (job : TransactionJobData)
    (world : Script.World Request Request.Reply Thrown) : List Attempt :=
  journal ((processTransaction config job).run world []).1

/-- A run obeys the money law exactly when none of its early payments takes effect and
no attempt repeats what a failed one had already done. -/
theorem money_law_iff (config : Config) (job : TransactionJobData) (world : Script.World Request Request.Reply Thrown) :
    MoneyLaw job (attemptsOf config job world) ↔ NoEarlyPayment (attemptsOf config job world) ∧
        NoRepeatedEffect (attemptsOf config job world) := by
  have shape := processTransaction_triple [] _ _ rfl
    ((processTransaction config job).runs_run world []) (bookkeeper_allMeet _ _)
  rw [after_eq_journal, List.nil_append] at shape
  exact shape.moneyLaw_iff

/-- When every call succeeds, a withdrawal also pays its amount to the Stellar address. -/
theorem withdrawal_pays_stellar : ¬ MoneyLaw (.sample .withdraw) (attemptsOf .sample (.sample .withdraw) obliging) := by
  intro law
  have paid : attemptsOf .sample (.sample .withdraw) obliging =
      [⟨.stellar, true, "G", "10", true, true⟩, ⟨.payout, false, "+237600000000", "10", true, true⟩] := by
    rfl
  rw [paid] at law
  exact absurd (law.withdrawn rfl _ List.mem_cons_self) (by decide)

end ProxyPay.Queue
