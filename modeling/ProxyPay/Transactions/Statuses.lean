import ProxyPay.Transactions.Services

/-! The stored statuses follow the table of transitions in every run whose updates find the rows as their
callers have seen them. The UPDATE itself looks at no status. -/

namespace ProxyPay.Transactions

open ProxyPay.Library
open ProxyPay.Queue (TransactionStatus)

abbrev Process := Caller Operation Statement Statement.Reply String Unit

abbrev Traffic := Service Operation Statement Statement.Reply String Unit Store

abbrev Move := Turn Operation Event

/-- The traffic, and for each caller the rows as they were when it was called. -/
structure Observed where
  traffic : Traffic
  called : List (List TransactionRow)

def Observed.rows (observed : Observed) : List TransactionRow :=
  observed.traffic.state.db.transactions

def Observed.perform (platform : Platform) (before : Observed) (move : Move) : Option Observed := do
  let traffic ← before.traffic.perform (server platform) (Operation.script platform) move
  return ⟨traffic,
    match move with
    | .call _ => before.called ++ [before.rows]
    | .serve .. => before.called⟩

/-- A call, or the next statement of a call. -/
def step (platform : Platform) (before : Observed) (move : Move) (after : Observed) : Prop :=
  before.perform platform move = some after

def Observed.initial (store : Store) : Observed := ⟨⟨store, []⟩, []⟩

/-- The UPDATE that a caller waits for. -/
def updating (caller : Process) : Option (String × TransactionStatus × Option String) :=
  match caller.rest with
  | .await (.setStatus id status userId) _ => some (id, status, userId)
  | _ => none

abbrev Exchanged := Exchange Statement Statement.Reply String

/-- The transaction in the first answer. -/
def readIn (exchanges : List Exchanged) : Option TransactionRow :=
  match exchanges.head? with
  | some ⟨.findById _, .ok found, _⟩ => found
  | _ => none

def Validated : Operation → Prop
  | .updateStatus _ _ _ currentStatus => currentStatus.isSome = true
  | _ => False

/-- The row as it was when the caller was called. -/
def Observed.rowThen (observed : Observed) (index position : ℕ) : Option TransactionRow :=
  (observed.called[index]?).bind fun rows => rows[position]?

/-- The UPDATE of the caller reaches this row. -/
structure Writes (before : Observed) (index : ℕ) (event : Event) (caller : Process) (position : ℕ)
    (row : TransactionRow) (status : TransactionStatus) : Prop where
  arrives : event.fault ≠ some .requestLost
  located : before.traffic.callers[index]? = some caller
  stored : before.rows[position]? = some row
  update : ∃ id userId, updating caller = some (id, status, userId) ∧ row.matches id userId = true

/-- A change is one of the table, and a validated update finds the status with which it was validated. -/
structure Workflow (before : Observed) (move : Move) (after : Observed) : Prop where
  allowed : ∀ (position : ℕ) old new, before.rows[position]? = some old → after.rows[position]? = some new →
    new.status ≠ old.status → new.status ∈ VALID_BASE_TRANSITIONS old.status
  current : ∀ index event, move = .serve index event → ∀ caller position row status,
    Writes before index event caller position row status → Validated caller.operation →
      (before.rowThen index position).map TransactionRow.status = some row.status

/-- The row is as the caller takes it to be: as it was told, as it has read it, or pending, and a caller
that was told nothing asks for a transition of the table. Failed transactions are not reversed. -/
def Expected (caller : Process) (then? : Option TransactionRow) (row : TransactionRow) (status : TransactionStatus) :
    Prop :=
  match caller.operation with
  | .updateStatus _ _ _ (some current) => row.status = current ∧ then?.map TransactionRow.status = some current
  | .updateStatus _ _ _ none => isValidBaseTransition row.status status = true
  | .reverse .. => (readIn caller.exchanges).map TransactionRow.status = some row.status ∧ row.status ≠ .failed
  | .runStaleTransactionWatchdog => row.status = .pending

def Undisturbed (before : Observed) : Move → Prop
  | .call _ => True
  | .serve index event => ∀ caller position row status, Writes before index event caller position row status →
      Expected caller (before.rowThen index position) row status

/-! What the callers ask for. -/

def IsUpdate : Statement → Prop
  | .setStatus .. => True
  | _ => False

/-- The statuses that an operation may store. -/
def Stores (permitted : TransactionStatus → Prop) : Statement → Prop
  | .setStatus _ status _ => permitted status
  | _ => True

section Asks

variable {permitted : TransactionStatus → Prop}

theorem update_asks {status : TransactionStatus} (fits : permitted status) (id : String) (userId currentStatus) :
    (updateStatus id status userId currentStatus).Asks (Stores permitted) :=
  updateStatus_asks (fun _ => fits) (fun _ => trivial) trivial userId currentStatus

theorem transition_asks (reversalId : ℕ) (status : ReversalStatus) (actorId : Option String) (detail : Detail) :
    (transition reversalId status actorId detail).Asks (Stores permitted) := by
  refine ⟨trivial, fun current => ?_⟩
  cases current with
  | error error => trivial
  | ok current =>
    change Script.Asks (Stores permitted) (if _ then _ else _)
    split
    · trivial
    · refine ⟨trivial, fun updated => ?_⟩
      cases updated with
      | error error => trivial
      | ok updated => exact appendAuditEvent_asks (fun _ => trivial) _

theorem attempt_asks (reversed : permitted .reversed) (upper : String → String) (transaction : TransactionRow)
    (reason : String) (actorId : Option String) (reversalId : ℕ) :
    (attempt upper transaction reason actorId reversalId).Asks (Stores permitted) := by
  apply Script.Asks.bind (.call trivial)
  intro (reversal : Ledger.ReversalResult)
  apply (whenever_asks (update_asks reversed _ _ _)).bind
  intro _
  apply (transition_asks _ _ _ _).bind
  intro _
  apply (notifyReversal_asks (fun _ => trivial) _ _ _ _ _).bind
  intro notified
  apply (whenever_asks (transition_asks _ _ _ _)).bind
  intro _
  apply Script.Asks.bind (.call trivial)
  intro _
  apply Script.Asks.bind (.call trivial)
  intro _
  trivial

theorem reverseFound_asks {transaction : TransactionRow} {allowCompleted : Bool}
    (reversed : transaction.status ∈ allowedStatuses allowCompleted → permitted .reversed) (upper : String → String)
    (reason : String) (actorId : Option String) :
    (reverseFound upper transaction reason actorId allowCompleted).Asks (Stores permitted) := by
  unfold reverseFound
  by_cases already : transaction.status = .reversed
  · rw [if_pos already]
    apply Script.Asks.bind (.call trivial)
    intro _
    trivial
  · rw [if_neg already]
    by_cases allowed : transaction.status ∈ allowedStatuses allowCompleted
    · rw [if_neg (not_not.mpr allowed)]
      apply Script.Asks.bind
      · apply Script.Asks.bind (.call trivial)
        intro (record : ReversalRecord)
        apply (appendAuditEvent_asks (fun _ => trivial) _).bind
        intro _
        trivial
      · intro record
        apply Script.Asks.catching
        · exact attempt_asks (reversed allowed) _ _ _ _ _
        · intro error
          apply (transition_asks _ _ _ _).bind
          intro _
          trivial
    · rw [if_pos allowed]
      trivial

section

variable (review : permitted .review) (completed : permitted .completed) (failed : permitted .failed)
  (config : WatchdogConfig)

include review completed failed config

theorem watch_asks (row : TransactionRow) : (watch config row).Asks (Stores permitted) := by
  have decided (response : StatusResponse) : permitted (verdict response) := by grind [verdict]
  apply Script.Asks.bind
  · apply Script.Asks.bind (.call trivial)
    intro (current : StaleTransactionState)
    apply Script.Asks.bind (.call trivial)
    intro _
    trivial
  · intro alert
    split
    · exact update_asks review _ _ _
    · split
      · apply Script.Asks.ignoringErrors
        apply Script.Asks.bind (.call trivial)
        intro (response : StatusResponse)
        apply (update_asks (decided response) _ _ _).bind
        intro _
        apply Script.Asks.bind (.call trivial)
        intro _
        trivial
      · trivial

theorem watchAll_asks (rows : List TransactionRow) : (watchAll config rows).Asks (Stores permitted) := by
  induction rows with
  | nil => trivial
  | cons row rows ih =>
    apply (watch_asks review completed failed config row).bind
    intro _
    exact ih

end

end Asks

/-- What an operation may store after what it has exchanged. -/
def Permits (operation : Operation) (history : List Exchanged) (stored : TransactionStatus) : Prop :=
  match operation with
  | .updateStatus _ status _ currentStatus =>
    stored = status ∧ ∀ current, currentStatus = some current → isValidBaseTransition current status = true
  | .reverse .. => stored = .reversed ∧ ∀ transaction, readIn history = some transaction →
      transaction.status ∈ [TransactionStatus.failed, .dispute, .completed]
  | .runStaleTransactionWatchdog => stored ∈ [TransactionStatus.review, .completed, .failed]

theorem stores_weaken {permitted wider : TransactionStatus → Prop} (wide : ∀ status, permitted status → wider status) :
    ∀ statement, Stores permitted statement → Stores wider statement := by
  intro statement stores
  cases statement with
  | setStatus id status userId => exact wide status stores
  | _ => trivial

theorem reverse_follows (platform : Platform) (transactionId reason : String) (actorId : Option String)
    (allowCompleted : Bool) : (Operation.script platform (.reverse transactionId reason actorId allowCompleted)).Follows
      (fun history => Stores (Permits (.reverse transactionId reason actorId allowCompleted) history))
      (fun _ _ => True) [] := by
  apply Script.Follows.call_bind_bind
  · trivial
  · intro (found : Option TransactionRow) tookEffect
    cases found with
    | none => nofun
    | some transaction =>
      have asks : (reverseFound platform.upper transaction reason actorId allowCompleted).Asks
          (Stores fun stored => stored = .reversed ∧ transaction.status ∈ allowedStatuses allowCompleted) :=
        reverseFound_asks (fun allowed => ⟨rfl, allowed⟩) _ _ _
      apply Script.Follows.of_asks_after (asks.bind fun _ => .done _)
      · intro later request stores
        apply stores_weaken _ request stores
        rintro status ⟨rfl, allowed⟩
        refine ⟨rfl, ?_⟩
        intro read same
        cases same
        cases allowCompleted <;> simp [allowedStatuses] at allowed ⊢ <;> grind
      · exact fun _ _ => trivial

theorem script_follows (platform : Platform) (operation : Operation) :
    (operation.script platform).Follows (fun history => Stores (Permits operation history)) (fun _ _ => True) [] := by
  cases operation with
  | updateStatus id status userId currentStatus =>
    apply Script.Follows.check_bind
    intro checked passed
    apply Script.Follows.of_asks
    · have asks : (store id status userId).Asks (Stores fun stored => stored = status) := by
        exact store_asks (fun _ => rfl) (fun _ => trivial) trivial userId
      exact asks
    · intro history request stores
      apply stores_weaken _ request stores
      rintro stored rfl
      refine ⟨rfl, ?_⟩
      rintro current rfl
      by_contra invalid
      cases passed.symm.trans (if_neg invalid)
    · exact fun _ _ => trivial
  | reverse transactionId reason actorId allowCompleted =>
    exact reverse_follows platform transactionId reason actorId allowCompleted
  | runStaleTransactionWatchdog =>
    have asks : (runStaleTransactionWatchdog platform.watchdog).Asks
        (Stores fun stored => stored ∈ [TransactionStatus.review, .completed, .failed]) := by
      apply Script.Asks.bind (.call trivial)
      intro (rows : List TransactionRow)
      apply watchAll_asks
      · simp
      · simp
      · simp
    exact Script.Follows.of_asks asks (fun _ _ stores => stores) fun _ _ => trivial

/-! What a served statement does to the rows. -/

theorem execute_rows {platform : Platform} {event : Event} {shown db after : Database} {statement : Statement}
    {reply : statement.Reply} (executed : execute platform event shown db statement = .ok (reply, after)) :
    after.transactions = db.transactions ∨ ∃ id status userId, statement = .setStatus id status userId ∧
      after = db.setStatus id status userId := by
  cases statement with
  | setStatus id status userId =>
    cases executed
    exact .inr ⟨id, status, userId, rfl, rfl⟩
  | terminalIdempotencyStatuses | postReversal args => grind [execute]
  | _ =>
    cases executed
    exact .inl rfl

theorem next_rows (platform : Platform) (store : Store) (event : Event) (statement : Statement) :
    ((server platform).next store event statement).db.transactions = store.db.transactions ∨
      ∃ id status userId, statement = .setStatus id status userId ∧ event.fault ≠ some .requestLost ∧
        ((server platform).next store event statement).db.transactions =
          (store.db.setStatus id status userId).transactions := by
  by_cases update : ∃ id status userId, statement = .setStatus id status userId
  · obtain ⟨id, status, userId, rfl⟩ := update
    cases lost : event.fault with
    | none =>
      refine .inr ⟨id, status, userId, rfl, by simp, ?_⟩
      simp [Server.next, server, execute, Statement.mayFail, lost, Fault.deliver, Database.setStatus, Database.wait]
    | some fault =>
      cases fault with
      | requestLost =>
        left
        simp [Server.next, server, execute, Statement.mayFail, lost, Fault.deliver, Database.wait]
      | replyLost =>
        refine .inr ⟨id, status, userId, rfl, by simp, ?_⟩
        simp [Server.next, server, execute, Statement.mayFail, lost, Fault.deliver, Database.setStatus, Database.wait]
  · left
    obtain ⟨reply, after, executed, delivered⟩ | ⟨error, delivered⟩ := Fault.deliver_cases connectionLost
      (store.db.wait event.elapsed) (if statement.mayFail then event.fault else none)
      (execute platform event ((⟨store.db.wait event.elapsed, store.past⟩ : Store).shown event.lag)
        (store.db.wait event.elapsed) statement)
    · have same : after.transactions = store.db.transactions := by
        rcases execute_rows executed with same | ⟨id, status, userId, is, _⟩
        · exact same
        · exact (update ⟨id, status, userId, is⟩).elim
      rcases delivered with delivered | delivered
      · simp only [Server.next, server, delivered]
        exact same
      · simp only [Server.next, server, delivered]
        exact same
    · simp only [Server.next, server, delivered]
      rfl

section Run

variable {platform : Platform} {store : Store} {before after last : Observed} {move : Move} {trace : List Move}

/-- What a caller asks for is what its operation may store. -/
def Follows (observed : Observed) : Prop :=
  ∀ caller ∈ observed.traffic.callers,
    caller.rest.Follows (fun history => Stores (Permits caller.operation history)) (fun _ _ => True) caller.exchanges

theorem step_traffic (moved : step platform before move after) :
    Service.step (server platform) (Operation.script platform) before.traffic move after.traffic := by
  obtain ⟨traffic, performed, same⟩ := Option.bind_eq_some_iff.mp moved
  cases same
  exact performed

theorem Follows.step (follows : Follows before) (moved : step platform before move after) : Follows after :=
  Service.step_follows (script_follows platform) (step_traffic moved) follows

theorem allowed_of_valid {current next : TransactionStatus} (valid : isValidBaseTransition current next = true)
    (changed : next ≠ current) : next ∈ VALID_BASE_TRANSITIONS current := by
  rw [isValidBaseTransition, Bool.or_eq_true] at valid
  rcases valid with same | listed
  · exact (changed (of_decide_eq_true same).symm).elim
  · exact List.contains_iff_mem.mp listed

theorem allowed_of_expected {caller : Process} {then? : Option TransactionRow} {row : TransactionRow}
    {status : TransactionStatus} (expected : Expected caller then? row status)
    (permits : Permits caller.operation caller.exchanges status) (changed : status ≠ row.status) :
    status ∈ VALID_BASE_TRANSITIONS row.status := by
  unfold Expected at expected
  unfold Permits at permits
  cases operation : caller.operation with
  | updateStatus id requested userId currentStatus =>
    rw [operation] at expected permits
    obtain ⟨rfl, validated⟩ := permits
    cases currentStatus with
    | none => exact allowed_of_valid expected changed
    | some current =>
      rw [expected.1] at changed ⊢
      exact allowed_of_valid (validated current rfl) changed
  | reverse transactionId reason actorId allowCompleted =>
    rw [operation] at expected permits
    obtain ⟨rfl, sources⟩ := permits
    obtain ⟨read, unfailed⟩ := expected
    obtain ⟨transaction, found, same⟩ := Option.map_eq_some_iff.mp read
    have source := sources transaction found
    rw [same] at source
    cases status : row.status <;> simp_all [VALID_BASE_TRANSITIONS]
  | runStaleTransactionWatchdog =>
    rw [operation] at expected permits
    rw [expected]
    simp only [List.mem_cons, List.not_mem_nil, or_false] at permits
    rcases permits with rfl | rfl | rfl <;> simp [VALID_BASE_TRANSITIONS]

theorem workflow_of_undisturbed (follows : Follows before) (undisturbed : Undisturbed before move)
    (moved : step platform before move after) : Workflow before move after := by
  constructor
  · intro position old new foundOld foundNew changed
    cases move with
    | call operation =>
      have same : after.rows = before.rows := by
        unfold Observed.rows
        rw [(Service.step_call (step_traffic moved)).1]
      rw [same, foundOld] at foundNew
      cases foundNew
      exact (changed rfl).elim
    | serve index event =>
      obtain ⟨caller, statement, rest, located, awaits, state, _⟩ := Service.step_serve (step_traffic moved)
      have rows := next_rows platform before.traffic.state event statement
      rw [← state] at rows
      rcases rows with same | ⟨id, status, userId, rfl, arrives, updated⟩
      · simp_all [Observed.rows]
      · rw [Observed.rows, updated, Database.setStatus, List.getElem?_map] at foundNew
        obtain ⟨row, found, rfl⟩ := Option.map_eq_some_iff.mp foundNew
        cases foundOld.symm.trans found
        by_cases reached : old.matches id userId = true
        · rw [if_pos reached] at changed ⊢
          have waits : updating caller = some (id, status, userId) := by rw [updating, awaits]
          have expected := undisturbed caller position old status
            ⟨arrives, located, foundOld, id, userId, waits, reached⟩
          have permits := follows caller (List.mem_of_getElem? located)
          rw [awaits] at permits
          exact allowed_of_expected expected permits.1 changed
        · simp_all
  · rintro index event rfl caller position row status writes validated
    have expected := undisturbed caller position row status writes
    unfold Expected at expected
    unfold Validated at validated
    cases operation : caller.operation with
    | updateStatus id requested userId currentStatus =>
      rw [operation] at expected validated
      obtain ⟨current, rfl⟩ := Option.isSome_iff_exists.mp validated
      rw [expected.1]
      exact expected.2
    | reverse transactionId reason actorId allowCompleted =>
      rw [operation] at validated
      cases validated
    | runStaleTransactionWatchdog =>
      rw [operation] at validated
      cases validated

theorem follows_run (run : Run (step platform) (.initial store) trace last) : Follows last := by
  apply run.invariant (fun _ => Follows)
  · intro caller member
    cases member
  · intro _ before move after follows moved
    exact follows.step moved

/-- Along a run whose updates find the rows as expected, every change follows the table. -/
theorem workflow_throughout
    (undisturbed : Throughout (step platform) (.initial store) (fun before move _ => Undisturbed before move) trace) :
    Throughout (step platform) (.initial store) Workflow trace := by
  intro earlier move rest before after split run moved
  exact workflow_of_undisturbed (follows_run run) (undisturbed earlier move rest before after split run moved) moved

end Run

def Platform.sample : Platform := ⟨Ledger.simpleServer, String.toUpper, ⟨12, 3, 3⟩, none⟩

/-- Nothing fails and no time passes. -/
def Event.quiet : Event := ⟨0, none, 0, Ledger.momentWith [], none, ⟨false, none⟩⟩

theorem payment_reference : "TXN-1".length ≤ 25 := by
  decide

variable (status : TransactionStatus)

def payment : TransactionRow :=
  ⟨"t", ⟨"TXN-1", payment_reference⟩, "deposit", "100", "mtn", some "u", status, 0⟩

/-- One transaction. -/
def Store.single : Store :=
  ⟨⟨0, [payment status], Ledger.chart, [], [], .empty⟩, []⟩

/-- A caller that takes the transaction to be pending. -/
def told : Operation :=
  .updateStatus "t" status none (some .pending)

def completing : List Move := [.call (told .completed), .serve 0 .quiet]

theorem completing_follows_workflow : (∃ last, Run (step .sample) (.initial (.single .pending)) completing last) ∧
    Throughout (step .sample) (.initial (.single .pending)) Workflow completing := by
  constructor
  · exact ⟨_, Run.follow rfl⟩
  · apply workflow_throughout
    intro earlier move rest before after split run moved
    match earlier, split with
    | [], split =>
      obtain rfl := (List.cons.inj split).1
      trivial
    | [first], split =>
      cases split
      intro caller position row status writes
      cases run.followed
      cases writes.located
      match position with
      | 0 =>
        cases writes.stored
        exact ⟨rfl, rfl⟩
      | _ + 1 => cases writes.stored
    | first :: second :: others, split => simp [completing] at split

/-- The second caller is validated against the status that the first one has left. -/
theorem validated_update_overtaken : ¬∀ store trace, Throughout (step .sample) (.initial store) Workflow trace := by
  intro always
  have overtaken := always (.single .pending)
    [.call (told .completed), .call (told .failed), .serve 0 .quiet, .serve 1 .quiet]
    [.call (told .completed), .call (told .failed), .serve 0 .quiet] (.serve 1 .quiet) [] _ _ rfl (Run.follow rfl) rfl
  have allowed := overtaken.allowed 0 (payment .completed) (payment .failed) rfl rfl (by decide)
  exact absurd allowed (by decide)

end ProxyPay.Transactions
