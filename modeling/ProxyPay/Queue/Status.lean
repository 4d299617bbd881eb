import ProxyPay.Queue.Money

/-! The stored status of a transaction against the money that one run of its job moved,
under the assumptions on the calls that the worker relies on. -/

namespace ProxyPay.Queue

open ProxyPay.Library

/-- What is known of a run so far: the stored status, the money that took effect, and
the number of payment attempts. -/
structure Progress where
  status : TransactionStatus
  collected : Bool
  settled : Bool
  moved : Bool
  tries : Nat
  deriving DecidableEq

/-- A transaction whose job has not started. -/
def Progress.initial : Progress := ⟨.pending, false, false, false, 0⟩

/-- The attempt completes the movements that the job requires: the payout of a
withdrawal, or the Stellar payment of a deposit that has been collected. -/
def Attempt.settles (job : TransactionJobData) (collected : Bool) (attempt : Attempt) : Bool :=
  attempt.tookEffect &&
    match job.type with
    | .deposit => attempt.movement = .stellar && collected
    | .withdraw => attempt.movement = .payout

def Progress.attempted (job : TransactionJobData) (progress : Progress) (attempt : Attempt) : Progress where
  status := progress.status
  collected := progress.collected || (attempt.movement = .collection && attempt.tookEffect)
  settled := progress.settled || attempt.settles job progress.collected
  moved := progress.moved || attempt.tookEffect
  tries := progress.tries + 1

/-- The status that an exchange stores, if it stores one: the UPDATE found the row, or it
took effect although it raised. -/
def statusWritten : Answered → Option TransactionStatus
  | ⟨⟨_, .setStatus _ status⟩, .ok (some _), _⟩ => some status
  | ⟨⟨_, .setStatus _ status⟩, .error _, true⟩ => some status
  | _ => none

def Progress.observe (job : TransactionJobData) (progress : Progress) (exchange : Answered) : Progress :=
  match attemptOf exchange with
  | some attempt => progress.attempted job attempt
  | none =>
    match statusWritten exchange with
    | some status => { progress with status }
    | none => progress

def Returns (exchange : Answered) : Prop :=
  ∃ value, exchange.reply = .ok value

/-- The call is a status write, and it has stored its status. -/
def Stores (exchange : Answered) : Prop :=
  ∀ id status, exchange.request.operation = .setStatus id status →
    statusWritten exchange = some status

/-- What the worker relies on at each call, given the run so far.

Before the `try` block: nothing is raised, except by a payment that will be retried.
In it: payments report what they did, no breaker is found open once money has moved, and
nothing goes wrong after the required movements. In the handler: nothing is raised until
the status `failed` is stored. -/
def Meets (config : Config) (job : TransactionJobData) (progress : Progress) (exchange : Answered) : Prop :=
  match exchange.request.site with
  | .prepare =>
    match attemptOf exchange with
    | some _ => ∀ error, exchange.reply = .error error →
        isTransientError error job.provider = true ∧ progress.tries + 1 < config.maxAttempts
    | none => Exposed exchange.request → Returns exchange
  | .body =>
    (∀ error, exchange.reply = .error error → (progress.observe job exchange).moved = true →
      isCircuitBreakerOpenError error = false) ∧
    match attemptOf exchange with
    | some attempt => attempt.movement ≠ .collection → attempt.tookEffect = attempt.succeeded
    | none => progress.settled = true → Exposed exchange.request →
        Returns exchange ∧ Stores exchange
  | .handler =>
    progress.status ≠ .failed → Exposed exchange.request →
      Stores exchange ∧
        ((∀ id status, exchange.request.operation ≠ .setStatus id status) → Returns exchange)

/-- The run as an observation, with the assumptions above. -/
def auditor (config : Config) (job : TransactionJobData) : Observer Request Request.Reply Thrown Progress where
  observe := Progress.observe job
  meets := Meets config job

/-- The job queued itself again. -/
def Requeued (outcome : Except Thrown TransactionJobResult) : Prop :=
  ∃ result, outcome = .ok result ∧ result.error = some "provider_unavailable_requeued"

def TransactionStatus.Terminal (status : TransactionStatus) : Prop :=
  status ∈ [.completed, .failed, .cancelled, .reversed, .clawedBack]

/-- The outcome of a run, its stored status and the money it moved agree. -/
structure Agrees (outcome : Except Thrown TransactionJobResult) (progress : Progress) : Prop where
  status : ¬ Requeued outcome → (progress.status = .completed ↔ progress.settled = true)
  terminal : (∃ error, outcome = .error error) → progress.status.Terminal
  requeued : Requeued outcome → progress.moved = false

section Triples

variable {config : Config} {job : TransactionJobData} {α : Type} {site : Site}
variable {script : Worker α}

variable {exchange : Answered}

theorem statusWritten_quiet (quiet : exchange.request.operation.quiet = true) : statusWritten exchange = none := by
  obtain ⟨⟨site, operation⟩, reply, tookEffect⟩ := exchange
  cases operation <;> first | rfl | cases quiet

variable {progress : Progress}

theorem observe_quiet (quiet : Quiet site exchange.request) : progress.observe job exchange = progress := by
  simp [Progress.observe, attemptOf_unpaid (quiet_unpaid quiet), statusWritten_quiet quiet.2]

variable {holds : Progress → Prop} {answers : Request → Prop}

theorem audit_calm (calm : script.Calm (Quiet site) answers)
    (answered : ∀ progress (exchange : Answered), Quiet site exchange.request →
      answers exchange.request → Meets config job progress exchange → holds progress →
      Returns exchange) :
    (auditor config job).Triple holds script fun outcome progress =>
      holds progress ∧ ∃ value, outcome = .ok value :=
  .calm calm (fun progress exchange quiet _ initially => by
    have same : (auditor config job).observe progress exchange = progress := observe_quiet quiet
    rw [same]
    exact initially) answered

theorem audit_ignored (calm : script.Calm (Quiet site) fun _ => False) :
    (auditor config job).Triple holds script fun outcome progress =>
      holds progress ∧ ∃ value, outcome = .ok value :=
  audit_calm calm fun _ _ _ never => never.elim

theorem audit_prepare (calm : script.Calm (Quiet .prepare) Exposed) :
    (auditor config job).Triple holds script fun outcome progress =>
      holds progress ∧ ∃ value, outcome = .ok value := by
  refine audit_calm calm fun progress exchange quiet exposed meets _ => ?_
  simp only [Meets, quiet.1, attemptOf_unpaid (quiet_unpaid quiet)] at meets
  exact meets exposed

theorem audit_settled (calm : script.Calm (Quiet .body) Exposed)
    (settled : ∀ progress, holds progress → progress.settled = true) :
    (auditor config job).Triple holds script fun outcome progress =>
      holds progress ∧ ∃ value, outcome = .ok value := by
  refine audit_calm calm fun progress exchange quiet exposed meets initially => ?_
  simp only [Meets, quiet.1, attemptOf_unpaid (quiet_unpaid quiet)] at meets
  exact (meets.2 (settled progress initially) exposed).1

theorem audit_handler (calm : script.Calm (Quiet .handler) Exposed)
    (unfailed : ∀ progress, holds progress → progress.status ≠ .failed) :
    (auditor config job).Triple holds script fun outcome progress =>
      holds progress ∧ ∃ value, outcome = .ok value := by
  refine audit_calm calm fun progress exchange quiet exposed meets initially => ?_
  simp only [Meets, quiet.1] at meets
  refine (meets (unfailed progress initially) exposed).2 fun id status write => ?_
  have silent := quiet.2
  simp [write, Operation.quiet] at silent

theorem audit_quiet (asks : script.Asks (Quiet site)) : (auditor config job).Triple holds script fun _ => holds :=
  .keeps asks fun progress exchange quiet _ initially => by
    have same : (auditor config job).observe progress exchange = progress := observe_quiet quiet
    rw [same]
    exact initially

/-- Nothing required has happened before the `try` block. -/
structure Fresh (progress : Progress) : Prop where
  status : progress.status = .pending
  collected : progress.collected = false
  settled : progress.settled = false

/-- The required movements have not all taken effect. -/
structure Unsettled (progress : Progress) : Prop where
  status : progress.status = .pending
  settled : progress.settled = false

/-- They have, and the status is not written yet. -/
structure Settled (progress : Progress) : Prop where
  status : progress.status = .pending
  settled : progress.settled = true

structure Completed (progress : Progress) : Prop where
  status : progress.status = .completed
  settled : progress.settled = true

structure Failed (progress : Progress) : Prop where
  status : progress.status = .failed
  settled : progress.settled = false

/-- What leaves the `try` block: nothing was settled, and an open breaker means that
nothing was moved either. -/
structure Raised (error : Thrown) (progress : Progress) : Prop where
  unsettled : Unsettled progress
  closed : progress.moved = true → isCircuitBreakerOpenError error = false

variable {attempt : Attempt}

theorem Fresh.attempted (fresh : Fresh progress)
    (stellar : attempt.movement = .stellar) : Fresh (progress.attempted job attempt) := by
  obtain ⟨status, collected, settled⟩ := fresh
  refine ⟨status, ?_, ?_⟩
  · simp [Progress.attempted, stellar, collected]
  · cases type : job.type <;>
      simp [Progress.attempted, Attempt.settles, type, stellar, collected, settled]

variable {senderName : String}

theorem audit_early_payment : (auditor config job).Triple (fun progress => Fresh progress ∧ progress.tries = 0)
      (payStellar config .prepare job senderName) fun outcome progress =>
        Fresh progress ∧ ∃ value, outcome = .ok value := by
  have paid : ∀ extra, (auditor config job).Triple
      (fun progress => Fresh progress ∧ progress.tries + extra + 1 = config.maxAttempts)
      (ask .prepare (.sendPayment job.stellarAddress job.amount senderName job.phoneNumber))
      (Observer.ends (fun _ => Fresh) fun error progress =>
        if 0 < extra ∧ isTransientError error job.provider = true then
          Fresh progress ∧ progress.tries + extra = config.maxAttempts
        else False) := by
    intro extra
    refine .call ?_
    rintro progress reply tookEffect ⟨fresh, counted⟩ meets
    cases reply with
    | ok receipt => exact fresh.attempted rfl
    | error error =>
      obtain ⟨transient, left⟩ := meets error rfl
      have more : 0 < extra ∧ isTransientError error job.provider = true :=
        ⟨by omega, transient⟩
      simp only [Observer.ends, if_pos more]
      refine ⟨fresh.attempted rfl, ?_⟩
      change progress.tries + 1 + extra = config.maxAttempts
      omega
  have noted : ∀ extra, (auditor config job).Triple
      (fun progress => Fresh progress ∧ progress.tries + (extra + 1) = config.maxAttempts)
      (do
        let _ ← ask .prepare (.incrementRetryCount job.transactionId)
        return () : Worker Unit)
      (Observer.ends
        (fun _ progress => Fresh progress ∧ progress.tries + extra + 1 = config.maxAttempts)
        fun _ _ => False) := by
    intro extra
    exact .calm_bind (audit_prepare (ask_calm rfl rfl)) fun _ => .done fun _ holds => holds
  unfold payStellar retrying withRetry
  cases attempts : config.maxAttempts with
  | zero =>
    have positive := config.positive
    omega
  | succ extra =>
    refine (retryLoop_triple paid noted extra).weaken ?_ ?_
    · simp_all
    · intro outcome progress ended
      cases outcome with
      | ok receipt => exact ⟨ended, receipt, rfl⟩
      | error error => exact ended.elim

theorem audit_prepare_section : (auditor config job).Triple (· = Progress.initial) (prepare config job)
      fun outcome progress => Fresh progress ∧ ∃ value, outcome = .ok value := by
  have stored : ∀ (senderName : String) receipt, (auditor config job).Triple Fresh (do
      storeReceipt .prepare job receipt
      updateProgress .prepare job.transactionId 90
      return (senderName, receipt))
      fun outcome progress => Fresh progress ∧ ∃ value, outcome = .ok value := by
    intro senderName receipt
    refine .calm_bind (audit_prepare storeReceipt_calm) fun _ => ?_
    exact .calm_bind (audit_prepare updateProgress_calm) fun _ =>
      .done fun _ holds => ⟨holds, _, rfl⟩
  have started : (auditor config job).Triple
      (fun progress => Fresh progress ∧ progress.tries = 0) (prepare config job)
      fun outcome progress => Fresh progress ∧ ∃ value, outcome = .ok value := by
    refine .calm_bind (audit_prepare (ask_calm rfl rfl)) fun row => ?_
    refine .calm_bind (audit_prepare senderNameOf_calm) fun senderName => ?_
    refine (audit_early_payment).bind (fun receipt => ?_) ?_
    · exact (stored senderName receipt).weaken (fun _ holds => holds.1) fun _ _ holds => holds
    · rintro error progress ⟨_, value, same⟩
      cases same
  refine started.weaken ?_ fun _ _ holds => holds
  rintro progress rfl
  exact ⟨⟨rfl, rfl, rfl⟩, rfl⟩

variable {before good : Progress → Prop} {call : Worker ProviderResult}

theorem audit_successfully (called : (auditor config job).Triple before call (Observer.ends (fun result progress =>
          (result.success = true → good progress) ∧ (result.success = false → Unsettled progress))
        Raised)) :
    (auditor config job).Triple before (successfully call)
      (Observer.ends (fun result progress => good progress ∧ result.success = true) Raised) := by
  refine successfully_rule called ?_ ?_ fun _ _ holds => holds
  · exact fun result progress success holds => ⟨holds.1 success, success⟩
  · exact fun result progress failure holds => ⟨holds.2 failure, fun _ => rfl⟩

theorem audit_retrying {attempt : Worker α} {returned : α → Progress → Prop}
    (attempted : (auditor config job).Triple before attempt
      (Observer.ends returned fun error progress => before progress ∧ Raised error progress))
    (unsettled : ∀ progress, before progress → Unsettled progress) :
    (auditor config job).Triple before (retrying config .body job attempt) (Observer.ends returned Raised) := by
  have noted : (auditor config job).Triple before
      (do
        let _ ← ask .body (.incrementRetryCount job.transactionId)
        return () : Worker Unit)
      (Observer.ends (fun _ => before) fun error progress => before progress ∧ Raised error progress) := by
    have counted : (auditor config job).Triple before
        (ask .body (.incrementRetryCount job.transactionId))
        (Observer.ends (fun _ => before) fun error progress =>
          before progress ∧ Raised error progress) := by
      refine .call ?_
      intro progress reply tookEffect holds meets
      cases reply with
      | ok value => exact holds
      | error error => exact ⟨holds, unsettled progress holds, meets.1 error rfl⟩
    exact counted.bind (fun _ => .done fun _ holds => holds) fun _ _ holds => holds
  refine (withRetry_triple config.positive attempted noted fun _ _ holds => holds.1).weaken
    (fun _ holds => holds) ?_
  intro outcome progress ended
  cases outcome with
  | ok value => exact ended
  | error error => exact ended.2

theorem audit_operation (called : (auditor config job).Triple Unsettled call (Observer.ends (fun result progress =>
          (result.success = true → good progress) ∧ (result.success = false → Unsettled progress))
        Raised)) :
    (auditor config job).Triple Unsettled (retrying config .body job (successfully call))
      (Observer.ends (fun result progress => good progress ∧ result.success = true) Raised) := by
  refine audit_retrying ((audit_successfully called).weaken (fun _ holds => holds) ?_)
    fun _ holds => holds
  intro outcome progress ended
  cases outcome with
  | ok result => exact ended
  | error error => exact ⟨ended.unsettled, ended⟩

theorem Unsettled.attempted (unsettled : Unsettled progress) (still : attempt.settles job progress.collected = false) :
    Unsettled (progress.attempted job attempt) :=
  ⟨unsettled.status, by simp [Progress.attempted, unsettled.settled, still]⟩

theorem Unsettled.settledBy (unsettled : Unsettled progress) (settles : attempt.settles job progress.collected = true) :
    Settled (progress.attempted job attempt) :=
  ⟨unsettled.status, by simp [Progress.attempted, settles]⟩

/-- A deposit that has been collected but not paid on. -/
structure Due (progress : Progress) : Prop where
  unsettled : Unsettled progress
  collected : progress.collected = true

theorem audit_collect (deposit : job.type = .deposit) : (auditor config job).Triple Unsettled (collect config job)
      (Observer.ends (fun result progress => Due progress ∧ result.success = true) Raised) := by
  have called : (auditor config job).Triple Unsettled
      (ask .body (.initiatePayment job.provider job.phoneNumber job.amount job.requestId))
      (Observer.ends
        (fun result progress =>
          (result.success = true → Due progress) ∧ (result.success = false → Unsettled progress))
        Raised) := by
    refine .call ?_
    intro progress reply tookEffect unsettled meets
    have still : ∀ accepted effect, Attempt.settles job progress.collected
        ⟨.collection, false, job.phoneNumber, job.amount, accepted, effect⟩ = false := by
      simp [Attempt.settles, deposit]
    cases reply with
    | ok result =>
      refine ⟨fun success => ⟨unsettled.attempted (still _ _), ?_⟩,
        fun _ => unsettled.attempted (still _ _)⟩
      have accepted : succeeded ProviderResult.success (.ok result) = true := success
      change (progress.collected || (true &&
        (succeeded ProviderResult.success (.ok result) || tookEffect))) = true
      simp [accepted]
    | error error => exact ⟨unsettled.attempted (still _ _), meets.1 error rfl⟩
  exact audit_operation called

theorem audit_payOut (withdraw : job.type = .withdraw) : (auditor config job).Triple Unsettled (payOut config job)
      (Observer.ends (fun result progress => Settled progress ∧ result.success = true) Raised) := by
  have called : (auditor config job).Triple Unsettled
      (ask .body (.sendPayout job.provider job.phoneNumber job.amount job.requestId))
      (Observer.ends
        (fun result progress =>
          (result.success = true → Settled progress) ∧
            (result.success = false → Unsettled progress))
        Raised) := by
    refine .call ?_
    intro progress reply tookEffect unsettled meets
    have honest : (succeeded ProviderResult.success reply || tookEffect) =
        succeeded ProviderResult.success reply := meets.2 nofun
    have settles : Attempt.settles job progress.collected ⟨.payout, false, job.phoneNumber,
        job.amount, succeeded ProviderResult.success reply,
        succeeded ProviderResult.success reply || tookEffect⟩ =
          succeeded ProviderResult.success reply := by
      simp [Attempt.settles, withdraw, honest]
    cases reply with
    | ok result =>
      exact ⟨fun success => unsettled.settledBy (settles.trans success),
        fun refused => unsettled.attempted (settles.trans refused)⟩
    | error error => exact ⟨unsettled.attempted settles, meets.1 error rfl⟩
  exact audit_operation called

theorem audit_payment (deposit : job.type = .deposit) :
    (auditor config job).Triple Due (payStellar config .body job senderName)
      (Observer.ends (fun _ => Settled) Raised) := by
  refine audit_retrying ?_ fun _ due => due.unsettled
  refine .call ?_
  intro progress reply tookEffect due meets
  have honest : tookEffect = succeeded (fun _ => true) reply := meets.2 nofun
  have settles : Attempt.settles job progress.collected ⟨.stellar, false, job.stellarAddress,
      job.amount, succeeded (fun _ => true) reply, tookEffect⟩ =
        succeeded (fun _ => true) reply := by
    simp [Attempt.settles, deposit, due.collected, honest]
  cases reply with
  | ok receipt => exact due.unsettled.settledBy settles
  | error error =>
    have unsettled := due.unsettled.attempted settles
    refine ⟨⟨unsettled, ?_⟩, unsettled, meets.1 error rfl⟩
    change (progress.collected || (false && tookEffect)) = true
    simp [due.collected]

theorem requireSuccess_calm {result : ProviderResult}
    (success : result.success = true) : (requireSuccess result).Calm (Quiet .body) answers := by
  unfold requireSuccess
  rw [if_pos success]
  exact .done ()

/-- A run that returns has completed the transaction. -/
abbrev Delivered (result : TransactionJobResult) (progress : Progress) : Prop :=
  Completed progress ∧ result.error = none

theorem audit_complete : (auditor config job).Triple Settled (completeTransaction job)
      (Observer.ends Delivered fun _ _ => False) := by
  have settled : ∀ progress, Completed progress → progress.settled = true := fun _ done => done.settled
  have written : (auditor config job).Triple Settled
      (ask .body (.setStatus job.transactionId .completed))
      fun outcome progress => Completed progress ∧ ∃ value, outcome = .ok value := by
    refine .call ?_
    intro progress reply tookEffect settled meets
    obtain ⟨⟨value, returned⟩, stores⟩ := meets.2 settled.settled rfl
    have stored := stores job.transactionId .completed rfl
    have next : (auditor config job).observe progress
        ⟨⟨.body, .setStatus job.transactionId .completed⟩, reply, tookEffect⟩ =
          { progress with status := .completed } := by
      simp [auditor, Progress.observe, attemptOf, stored]
    rw [next]
    exact ⟨⟨rfl, settled.settled⟩, value, returned⟩
  have updates : (auditor config job).Triple Settled (updateStatus .body job.transactionId .completed)
      fun outcome progress => Completed progress ∧ ∃ value, outcome = .ok value := by
    refine written.bind (fun updated => ?_) ?_
    · exact (audit_settled followUpdate_calm settled).weaken (fun _ holds => holds.1)
        fun _ _ holds => holds
    · rintro error progress ⟨_, value, same⟩
      cases same
  have finishes : (auditor config job).Triple Completed (do
      let _ ← ask .body (.notifyTransactionWebhook job.transactionId "transaction.completed")
      routeNotification .body job "completed" none
      let _ ← ask .body (.publish "transaction.completed" job.transactionId "completed" none)
      updateProgress .body job.transactionId 100
      return ⟨true, job.transactionId, none⟩ : Worker TransactionJobResult)
      (Observer.ends Delivered
        fun _ _ => False) := by
    refine .calm_bind (audit_settled (ask_calm rfl rfl) settled) fun _ => ?_
    refine .calm_bind (audit_settled routeNotification_calm settled) fun _ => ?_
    refine .calm_bind (audit_settled (ask_calm rfl rfl) settled) fun _ => ?_
    refine .calm_bind (audit_ignored updateProgress_calm) fun _ => ?_
    exact .done fun _ completed => ⟨completed, rfl⟩
  refine .calm_bind (audit_ignored updateProgress_calm) fun _ => ?_
  refine updates.bind (fun _ => ?_) ?_
  · exact finishes.weaken (fun _ holds => holds.1) fun _ _ holds => holds
  · rintro error progress ⟨_, value, same⟩
    cases same

variable {stellarResult : StellarReceipt}

theorem audit_deposit (deposit : job.type = .deposit) :
    (auditor config job).Triple Unsettled (processDeposit config job senderName stellarResult)
      (Observer.ends Delivered Raised) := by
  have completes : (auditor config job).Triple Settled (do
      storeReceipt .body job stellarResult
      completeTransaction job)
      (Observer.ends Delivered Raised) := by
    refine .calm_bind (audit_settled storeReceipt_calm fun _ settled => settled.settled) fun _ => ?_
    refine (audit_complete).weaken (fun _ holds => holds) ?_
    intro outcome progress ended
    cases outcome with
    | ok result => exact ended
    | error error => exact ended.elim
  have pays : ∀ result : ProviderResult, result.success = true → (auditor config job).Triple Due (do
      recordResponseTime job "providerResponseTimeTimeMs" result
      updateProgress .body job.transactionId 50
      requireSuccess result
      updateProgress .body job.transactionId 70
      let _ ← payStellar config .body job senderName
      storeReceipt .body job stellarResult
      completeTransaction job)
      (Observer.ends Delivered Raised) := by
    intro result success
    refine .calm_bind (audit_ignored recordResponseTime_calm) fun _ => ?_
    refine .calm_bind (audit_ignored updateProgress_calm) fun _ => ?_
    refine .calm_bind (audit_ignored (requireSuccess_calm success)) fun _ => ?_
    refine .calm_bind (audit_ignored updateProgress_calm) fun _ => ?_
    exact (audit_payment deposit).bind (fun _ => completes) fun _ _ holds => holds
  refine .calm_bind (audit_ignored updateProgress_calm) fun _ => ?_
  refine (audit_collect deposit).bind (fun result => ?_) fun _ _ holds => holds
  intro progress exchanges outcome holds
  exact pays result holds.2 progress exchanges outcome holds.1

theorem audit_withdraw (withdraw : job.type = .withdraw) :
    (auditor config job).Triple Unsettled (processWithdraw config job) (Observer.ends Delivered Raised) := by
  have completes : ∀ result : ProviderResult, result.success = true →
      (auditor config job).Triple Settled (do
        recordResponseTime job "providerResponseTimeMs" result
        updateProgress .body job.transactionId 50
        requireSuccess result
        storeProviderReference job result
        completeTransaction job)
      (Observer.ends Delivered Raised) := by
    intro result success
    refine .calm_bind (audit_ignored recordResponseTime_calm) fun _ => ?_
    refine .calm_bind (audit_ignored updateProgress_calm) fun _ => ?_
    refine .calm_bind (audit_ignored (requireSuccess_calm success)) fun _ => ?_
    refine .calm_bind (audit_ignored storeProviderReference_calm) fun _ => ?_
    refine (audit_complete).weaken (fun _ holds => holds) ?_
    intro outcome progress ended
    cases outcome with
    | ok result => exact ended
    | error error => exact ended.elim
  refine .calm_bind (audit_ignored updateProgress_calm) fun _ => ?_
  refine (audit_payOut withdraw).bind (fun result => ?_) fun _ _ holds => holds
  intro progress exchanges outcome holds
  exact completes result holds.2 progress exchanges outcome holds.1

theorem audit_body : (auditor config job).Triple Unsettled (body config job senderName stellarResult)
      (Observer.ends Delivered Raised) := by
  refine .calm_bind (audit_ignored updateProgress_calm) fun _ => ?_
  cases type : job.type with
  | deposit => exact audit_deposit type
  | withdraw => exact audit_withdraw type

variable {error : Thrown}

theorem audit_fail : (auditor config job).Triple Unsettled (failTransaction job error)
      fun outcome progress => Failed progress ∧ ∃ raised, outcome = .error raised := by
  have written : (auditor config job).Triple Unsettled
      (ask .handler (.setStatus job.transactionId .failed)) fun _ => Failed := by
    refine .call ?_
    intro progress reply tookEffect unsettled meets
    have unfailed : progress.status ≠ .failed := by simp [unsettled.status]
    have stored := (meets unfailed rfl).1 job.transactionId .failed rfl
    have next : (auditor config job).observe progress
        ⟨⟨.handler, .setStatus job.transactionId .failed⟩, reply, tookEffect⟩ =
          { progress with status := .failed } := by
      simp [auditor, Progress.observe, attemptOf, stored]
    rw [next]
    exact ⟨rfl, unsettled.settled⟩
  have updates : (auditor config job).Triple Unsettled
      (updateStatus .handler job.transactionId .failed) fun _ => Failed :=
    written.bind (fun _ => audit_quiet followUpdate_calm.asks) fun _ _ failed => failed
  have ends : ∀ (raised : Thrown) progress, Failed progress →
      Failed progress ∧ ∃ other, (Except.error raised : Except Thrown TransactionJobResult) =
        .error other := fun raised _ failed => ⟨failed, raised, rfl⟩
  have asks : ∀ operation : Operation, operation.quiet = true →
      (ask .handler operation).Asks (Quiet .handler) := fun _ quiet => .call ⟨rfl, quiet⟩
  refine updates.bind (fun _ => ?_) ends
  refine (audit_quiet (asks _ rfl)).bind (fun _ => ?_) ends
  refine (audit_quiet routeNotification_calm.asks).bind (fun _ => ?_) ends
  refine (audit_quiet (asks _ rfl)).bind (fun _ => ?_) ends
  exact (audit_quiet reportToSubscription_calm.asks).bind (fun _ => .done fun _ failed =>
    ⟨failed, error, rfl⟩) ends

theorem audit_requeue {existing : Option TransactionRow} {requeueCount : Nat} : (auditor config job).Triple
      (fun progress => Unsettled progress ∧ progress.moved = false)
      (requeue job existing requeueCount)
      fun outcome progress => progress.moved = false ∧ Requeued outcome := by
  have unfailed : ∀ progress, (Unsettled progress ∧ progress.moved = false) →
      progress.status ≠ .failed := fun progress holds => by simp [holds.1.status]
  refine .calm_bind (audit_handler (ask_calm rfl rfl) unfailed) fun _ => ?_
  refine .calm_bind (audit_handler (whenSome_calm fun _ => .bind (ask_calm rfl rfl) fun _ =>
    .done ()) unfailed) fun _ => ?_
  refine .calm_bind (audit_handler (ask_ignored rfl) unfailed) fun _ => ?_
  exact .done fun _ holds => ⟨holds.2, _, rfl, rfl⟩

theorem Agrees.of_failed {raised : Thrown} (failed : Failed progress) : Agrees (.error raised) progress := by
  refine ⟨fun _ => ?_, fun _ => ?_, ?_⟩
  · simp [failed.status, failed.settled]
  · simp [TransactionStatus.Terminal, failed.status]
  · nofun

theorem audit_handleFailure : (auditor config job).Triple (Raised error) (handleFailure config job error) Agrees := by
  have fails : (auditor config job).Triple Unsettled (failTransaction job error) Agrees := by
    refine (audit_fail).weaken (fun _ holds => holds) ?_
    rintro outcome progress ⟨failed, raised, rfl⟩
    exact .of_failed failed
  have requeues : ∀ existing requeueCount, (auditor config job).Triple
      (fun progress => Unsettled progress ∧ progress.moved = false)
      (requeue job existing requeueCount) Agrees := by
    intro existing requeueCount
    refine (audit_requeue).weaken (fun _ holds => holds) ?_
    rintro outcome progress ⟨unmoved, requeued⟩
    refine ⟨fun others => absurd requeued others, ?_, fun _ => unmoved⟩
    rintro ⟨raised, rfl⟩
    obtain ⟨result, same, _⟩ := requeued
    cases same
  unfold handleFailure
  cases breaker : isCircuitBreakerOpenError error with
  | false => exact fails.weaken (fun _ raised => raised.unsettled) fun _ _ holds => holds
  | true =>
    have unmoved : ∀ progress, Raised error progress → Unsettled progress ∧ progress.moved = false := by
      intro progress raised
      refine ⟨raised.unsettled, ?_⟩
      cases moved : progress.moved with
      | false => rfl
      | true =>
        have closed := raised.closed moved
        rw [breaker] at closed
        cases closed
    have unfailed : ∀ progress, (Unsettled progress ∧ progress.moved = false) →
        progress.status ≠ .failed := fun progress holds => by simp [holds.1.status]
    simp only [↓reduceIte]
    refine Observer.Triple.weaken ?_ unmoved fun _ _ holds => holds
    refine .calm_bind (audit_handler (ask_calm rfl rfl) unfailed) fun existing => ?_
    split
    · exact requeues _ _
    · exact fails.weaken (fun _ holds => holds.1) fun _ _ holds => holds

theorem audit_process : (auditor config job).Triple (· = Progress.initial) (processTransaction config job) Agrees := by
  have settles : ∀ prepared : String × StellarReceipt, (auditor config job).Triple Unsettled
      ((body config job prepared.1 prepared.2).catching (handleFailure config job)) Agrees := by
    intro prepared
    refine (audit_body).catching ?_ fun error => audit_handleFailure
    rintro result progress ⟨completed, none⟩
    refine ⟨fun _ => ?_, ?_, ?_⟩
    · simp [completed.status, completed.settled]
    · nofun
    · rintro ⟨other, same, requeued⟩
      cases same
      simp [none] at requeued
  refine (audit_prepare_section).bind (fun prepared => ?_) ?_
  · exact (settles prepared).weaken (fun _ holds => ⟨holds.1.status, holds.1.settled⟩)
      fun _ _ holds => holds
  · rintro error progress ⟨_, value, same⟩
    cases same

end Triples

/-- A run whose calls behave as the worker relies on ends with a status that agrees with
the money it moved. -/
theorem status_agrees {config : Config} {job : TransactionJobData} {exchanges : List Answered}
    {outcome : Except Thrown TransactionJobResult}
    (runs : (processTransaction config job).Runs exchanges outcome)
    (meets : (auditor config job).AllMeet Progress.initial exchanges) :
    Agrees outcome ((auditor config job).after Progress.initial exchanges) :=
  audit_process _ exchanges outcome rfl runs meets

/-- The exchange of a call that succeeds and takes effect. -/
def obliged (request : Request) : Answered :=
  ⟨request, .ok (normalReply request), true⟩

theorem obliged_stores (request : Request) : Stores (obliged request) := by
  intro id status write
  obtain ⟨site, operation⟩ := request
  cases write
  rfl

theorem obliged_honest {request : Request} {attempt : Attempt} (found : attemptOf (obliged request) = some attempt) :
    attempt.tookEffect = attempt.succeeded := by
  obtain ⟨site, operation⟩ := request
  cases operation <;> cases found <;> rfl

theorem obliged_meets (config : Config) (job : TransactionJobData) (progress : Progress)
    (request : Request) : Meets config job progress (obliged request) := by
  have returns : Returns (obliged request) := ⟨_, rfl⟩
  have calm : ∀ error, (obliged request).reply ≠ .error error := nofun
  unfold Meets
  split
  · grind
  · refine ⟨fun error raised => absurd raised (calm error), ?_⟩
    split
    · next attempt found => exact fun _ => obliged_honest found
    · exact fun _ _ => ⟨returns, obliged_stores request⟩
  · exact fun _ _ => ⟨obliged_stores request, fun _ => returns⟩

theorem obliging_allMeet {α : Type} {config : Config} {job : TransactionJobData}
    (script : Worker α) (progress : Progress) (history : List Answered) :
    (auditor config job).AllMeet progress (script.run obliging history).1 := by
  induction script generalizing progress history with
  | done outcome => trivial
  | await request next ih => exact ⟨obliged_meets config job progress request, ih _ _ _⟩

theorem status_agrees_obliging : Agrees ((processTransaction .sample (.sample .withdraw)).run obliging []).2
      ((auditor .sample (.sample .withdraw)).after Progress.initial
        ((processTransaction .sample (.sample .withdraw)).run obliging []).1) :=
  status_agrees (Script.runs_run _ _ _) (obliging_allMeet _ _ _)

/-- The world of the repository as it stands: every call succeeds, but the name
`TERMINAL_IDEMPOTENCY_STATUSES` is not declared. -/
def undeclared : Script.World Request Request.Reply Thrown
  | _, ⟨_, .terminalIdempotencyStatuses⟩ =>
    (.error (.ofMessage "TERMINAL_IDEMPOTENCY_STATUSES is not defined"), false)
  | history, request => obliging history request

/-- A withdrawal that has been paid out ends as failed. -/
theorem paid_withdrawal_fails : ¬ Agrees ((processTransaction .sample (.sample .withdraw)).run undeclared []).2
      ((auditor .sample (.sample .withdraw)).after Progress.initial
        ((processTransaction .sample (.sample .withdraw)).run undeclared []).1) := by
  have failed : (auditor .sample (.sample .withdraw)).after Progress.initial
      ((processTransaction .sample (.sample .withdraw)).run undeclared []).1 =
        ⟨.failed, false, true, true, 2⟩ := by rfl
  have raised : ((processTransaction .sample (.sample .withdraw)).run undeclared []).2 =
      .error (.ofMessage "TERMINAL_IDEMPOTENCY_STATUSES is not defined") := by rfl
  rw [failed, raised]
  intro agrees
  have completed : TransactionStatus.failed = .completed := (agrees.status (by
    rintro ⟨result, same, _⟩
    cases same)).mpr rfl
  cases completed

end ProxyPay.Queue
