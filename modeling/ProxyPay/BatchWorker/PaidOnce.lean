import ProxyPay.BatchWorker.Worker

/-! A withdrawal is paid once and never stands as unpaid when it was reported paid, as long as no answer of
a paid batch is lost, no report takes a success back and no item is given up whose transaction is still
pending though it is paid. -/

namespace ProxyPay.BatchWorker

open ProxyPay.Library
open MobileMoney (BatchPayoutItem BatchPayoutResult)
open Queue (TransactionStatus)

def Store.ids (store : Store) : List String :=
  store.transactions.map Transaction.id

/-- Where the transaction is still pending, it is neither paid nor reported to be. -/
def Store.Released (store : Store) (reported : List String) (id : String) : Prop :=
  ∀ row ∈ store.transactions, row.id = id → row.status = .pending →
    id ∉ store.payments ∧ id ∉ reported

instance (store : Store) (reported : List String) : DecidablePred (store.Released reported) :=
  fun _ => inferInstanceAs (Decidable (∀ row ∈ _, _ → _ → _))

/-- The last entry for an item is a success if some entry is. -/
def Consistent (items : List BatchPayoutItem) (results : List BatchPayoutResult) : Prop :=
  ∀ item ∈ items, (∃ result ∈ results, result.referenceId = item.referenceId ∧ result.success = true) →
    (results.reverse.find? fun result => result.referenceId = item.referenceId).any
      BatchPayoutResult.success = true

instance (items : List BatchPayoutItem) : DecidablePred (Consistent items) :=
  fun _ => inferInstanceAs (Decidable (∀ item ∈ _, _ → _))

/-- What a step must not do: lose the answer of a batch that the provider pays, bring a report that takes
a success back, or give up an item whose transaction is pending though it is paid or reported to be. -/
def sound (options : ProcessorOptions) (before : System) : Label → Bool
  | .serve event =>
    match before.phase with
    | .preparing (.await (.sendBatchPayout _ items) _) =>
      !(event.accepted && decide (event.fault = some .replyLost)) &&
        (event.fault.isSome || decide (Consistent items event.results))
    | _ => true
  | .lane index now _ =>
    match before.phase with
    | .settling settlement processing =>
      (processing.givenUp options index now).all fun payout =>
        decide (before.store.Released settlement.reported payout.transactionId)
    | _ => true
  | _ => true

/-! What the requests do to the store. -/

/-- After a change each transaction is as before, or as it was written, or new. -/
structure Store.Kept (written : Transaction → Prop) (before after : Store) : Prop where
  payments : after.payments = before.payments
  ids : ∀ id ∈ before.ids, id ∈ after.ids
  distinct : before.ids.Nodup → after.ids.Nodup
  rows : ∀ row ∈ after.transactions, row ∈ before.transactions ∨ written row ∨ row.id ∉ before.ids

namespace Store.Kept

variable {written : Transaction → Prop}

theorem refl (store : Store) : store.Kept written store :=
  ⟨rfl, fun _ => id, id, fun _ => .inl⟩

theorem setStatus (store : Store) (id : String) (status : TransactionStatus) :
    store.Kept (fun row => row.id = id ∧ row.status = status) (store.setStatus id status) := by
  have same : (store.setStatus id status).ids = store.ids := by
    simp only [Store.ids, Store.setStatus, List.map_map]
    apply List.map_congr_left
    intro row _
    by_cases target : row.id = id <;> simp [target]
  refine ⟨rfl, ?_, ?_, ?_⟩
  · intro other member
    rwa [same]
  · intro distinct
    rwa [same]
  · intro row member
    obtain ⟨earlier, there, rfl⟩ := List.mem_map.mp member
    by_cases target : earlier.id = id
    · exact .inr (.inl (by simp [target]))
    · exact .inl (by simpa [target] using there)

theorem insert {store : Store} {row : Transaction} (fresh : row.id ∉ store.ids) :
    store.Kept written { store with transactions := store.transactions ++ [row] } := by
  refine ⟨rfl, ?_, ?_, ?_⟩
  · simp_all [Store.ids]
  · grind [Store.ids, List.map_append]
  · grind

end Store.Kept

/-- The request changes neither the transactions nor the payments. -/
def Request.Harmless (request : Request) : Prop :=
  ∀ store event, (perform store event request).2 = store

theorem served (store : Store) (event : Event) (request : Request) :
    (event.fault = none ∧ (server.exchange store event request).reply = .ok (perform store event request).1 ∧
      server.next store event request = (perform store event request).2) ∨
    (event.fault = some .replyLost ∧ (server.exchange store event request).reply = .error connectionLost ∧
      server.next store event request = (perform store event request).2) ∨
    (event.fault = some .requestLost ∧ (server.exchange store event request).reply = .error connectionLost ∧
      server.next store event request = store) := by
  obtain ⟨fault, accepted, results, found, drawn⟩ := event
  cases fault with
  | none => exact .inl ⟨rfl, rfl, rfl⟩
  | some kind =>
    cases kind with
    | requestLost => exact .inr (.inr ⟨rfl, rfl, rfl⟩)
    | replyLost => exact .inr (.inl ⟨rfl, rfl, rfl⟩)

theorem Request.Harmless.next {request : Request} (harmless : request.Harmless) (store : Store)
    (event : Event) : server.next store event request = store := by
  rcases served store event request with ⟨-, -, after⟩ | ⟨-, -, after⟩ | ⟨-, -, after⟩
  · rw [after, harmless]
  · rw [after, harmless]
  · exact after

/-! An attempt to settle an item. -/

/-- What is left of an attempt that has not written the status yet. -/
inductive Attempt (id : String) (target : TransactionStatus) : Work Unit → Prop where
  | raised (error : String) : Attempt id target (.done (.error error))
  | passes {request : Request} {rest : Except String request.Reply → Work Unit}
    (harmless : request.Harmless) (after : ∀ reply, Attempt id target (rest reply)) :
    Attempt id target (.await request rest)
  | writes {rest : Except String Unit → Work Unit} (raised : ∀ error, Attempt id target (rest (.error error)))
    (written : (rest (.ok ())).Asks Request.Harmless) :
    Attempt id target (.await (.updateStatus id target) rest)

namespace Attempt

variable {id : String} {target : TransactionStatus}

theorem call_bind {request : Request} {next : request.Reply → Work Unit} (harmless : request.Harmless)
    (answered : ∀ value, Attempt id target (next value)) :
    Attempt id target ((ask request).bind next) := by
  apply Attempt.passes harmless
  intro reply
  cases reply with
  | error error => exact .raised error
  | ok value => exact answered value

theorem write_bind {next : Unit → Work Unit} (written : (next ()).Asks Request.Harmless) :
    Attempt id target ((ask (.updateStatus id target)).bind next) := by
  apply Attempt.writes
  · intro error
    exact .raised error
  · exact written

end Attempt

/-- The status that the result of a payout asks for. -/
def settledStatus (result : Option BatchPayoutResult) : TransactionStatus :=
  if result.any BatchPayoutResult.success then .completed else .failed

def Settlement.target (settlement : Settlement) (id : String) : TransactionStatus :=
  settledStatus (settlement.resultMap.get? id)

theorem Settlement.target_ne_pending (settlement : Settlement) (id : String) : settlement.target id ≠ .pending := by
  unfold Settlement.target settledStatus
  split <;> simp

section Asks

variable {request : Request}

theorem asks_call (harmless : request.Harmless) : (ask request).Asks Request.Harmless :=
  Script.Asks.call harmless

theorem asks_ignored (harmless : request.Harmless) : (ask request).ignoringErrors.Asks Request.Harmless :=
  (asks_call harmless).ignoringErrors

theorem updateItem_asks (batchItem : Option String) (status : BatchItemStatus)
    (error reference : Option String) : (updateItem batchItem status error reference).Asks Request.Harmless := by
  cases batchItem with
  | none => exact .done _
  | some item => exact asks_call fun _ _ => rfl

theorem storeReference_asks (payout : PendingPayout) (reference : Option String) :
    (storeReference payout reference).Asks Request.Harmless := by
  unfold storeReference
  split
  · exact asks_call fun _ _ => rfl
  · exact .done _

end Asks

theorem work_attempt (settlement : Settlement) (payout : PendingPayout) :
    Attempt payout.transactionId (settlement.target payout.transactionId) (settlement.work payout) := by
  unfold Settlement.work Settlement.target processSinglePayoutResult
  apply Attempt.call_bind (fun _ _ => rfl)
  intro batchItem
  cases settlement.resultMap.get? payout.transactionId with
  | none =>
    apply Attempt.write_bind
    refine Script.Asks.bind (asks_call fun _ _ => rfl) fun _ => ?_
    exact updateItem_asks ..
  | some result =>
    cases success : result.success with
    | true =>
      have target : settledStatus (some result) = .completed := by simp [settledStatus, success]
      rw [target]
      simp only [success, if_true]
      apply Attempt.write_bind
      refine Script.Asks.bind (storeReference_asks ..) fun _ => ?_
      refine Script.Asks.bind (updateItem_asks ..) fun _ => ?_
      refine Script.Asks.bind (asks_call fun _ _ => rfl) fun _ => ?_
      refine Script.Asks.bind (asks_call fun _ _ => rfl) fun _ => ?_
      refine Script.Asks.bind (asks_call fun _ _ => rfl) fun _ => ?_
      refine Script.Asks.bind (asks_ignored fun _ _ => rfl) fun _ => ?_
      exact asks_call fun _ _ => rfl
    | false =>
      have target : settledStatus (some result) = .failed := by simp [settledStatus, success]
      rw [target]
      simp only [success, Bool.false_eq_true, if_false]
      apply Attempt.write_bind
      refine Script.Asks.bind (asks_call fun _ _ => rfl) fun _ => ?_
      refine Script.Asks.bind (updateItem_asks ..) fun _ => ?_
      refine Script.Asks.bind (asks_call fun _ _ => rfl) fun _ => ?_
      refine Script.Asks.bind (asks_call fun _ _ => rfl) fun _ => ?_
      refine Script.Asks.bind (asks_call fun _ _ => rfl) fun _ => ?_
      refine Script.Asks.bind (asks_ignored fun _ _ => rfl) fun _ => ?_
      exact asks_call fun _ _ => rfl

/-! A cycle until its results are there. -/

/-- What is left of a cycle that has fetched the payouts. -/
inductive Cycle (payouts : List PendingPayout) : Work (Option Settlement) → Prop where
  | over {outcome : Except String (Option Settlement)} (nothing : ∀ settlement, outcome ≠ .ok (some settlement)) :
    Cycle payouts (.done outcome)
  | passes {request : Request} {rest : Except String request.Reply → Work (Option Settlement)}
    (harmless : request.Harmless) (after : ∀ reply, Cycle payouts (rest reply)) :
    Cycle payouts (.await request rest)
  | pays {provider operation : String}
    {rest : Except String (List BatchPayoutResult) → Work (Option Settlement)}
    (answered : ∀ results, rest (.ok results) = .done (.ok (some ⟨operation, payouts, results⟩)))
    (raised : ∀ error, Cycle payouts (rest (.error error))) :
    Cycle payouts (.await (.sendBatchPayout provider (payouts.map batchItem)) rest)

namespace Cycle

variable {payouts : List PendingPayout} {α : Type}

theorem failed (error : String) : Cycle payouts (.done (.error error)) :=
  .over fun _ => nofun

theorem bind {script : Work α} {next : α → Work (Option Settlement)} (asks : script.Asks Request.Harmless)
    (continued : ∀ value, Cycle payouts (next value)) : Cycle payouts (script.bind next) := by
  induction script with
  | done outcome =>
    cases outcome with
    | error error => exact failed error
    | ok value => exact continued value
  | await request rest ih => exact .passes asks.1 fun reply => ih reply (asks.2 reply)

end Cycle

theorem createItems_asks (operation : String) (payouts : List PendingPayout) :
    (createItems operation payouts).Asks Request.Harmless := by
  induction payouts with
  | nil => exact .done _
  | cons payout rest ih => exact Script.Asks.bind (asks_call fun _ _ => rfl) fun _ => ih

theorem sendOrFail_cycle (provider operation : String) (payouts : List PendingPayout) :
    Cycle payouts ((sendOrFail provider operation (payouts.map batchItem)).bind fun results =>
      .done (.ok (some ⟨operation, payouts, results⟩))) := by
  apply Cycle.pays
  · intro results
    rfl
  · intro error
    change Cycle payouts (Script.bind (Script.bind _ fun _ => Script.bind _ fun _ => .done (.error error)) _)
    rw [Script.bind_assoc]
    refine Cycle.bind (asks_ignored fun _ _ => rfl) fun _ => ?_
    rw [Script.bind_assoc]
    refine Cycle.bind (asks_ignored fun _ _ => rfl) fun _ => ?_
    exact .failed error

theorem processBatch_cycle (provider : String) :
    ∃ rest, processBatch provider = .await (.findByStatusAndProvider .pending provider "withdraw" batchSize) rest ∧
      (∀ error, Cycle [] (rest (.error error))) ∧
      ∀ rows : List Transaction, Cycle (rows.map payoutOf) (rest (.ok rows)) := by
  refine ⟨_, rfl, fun error => .failed error, ?_⟩
  intro rows
  change Cycle (rows.map payoutOf) (if rows.map payoutOf = [] then _ else _)
  split
  · exact .over fun _ => nofun
  · refine Cycle.bind (asks_call fun _ _ => rfl) fun operation => ?_
    refine Cycle.bind (asks_call fun _ _ => rfl) fun _ => ?_
    refine Cycle.bind (asks_ignored fun _ _ => rfl) fun _ => ?_
    refine Cycle.bind (createItems_asks ..) fun _ => ?_
    exact sendOrFail_cycle ..

/-! The invariant. -/

/-- The payouts are of different pending transactions. -/
structure Fetched (store : Store) (payouts : List PendingPayout) : Prop where
  distinct : (payouts.map PendingPayout.transactionId).Nodup
  pending : ∀ payout ∈ payouts, ∃ row ∈ store.transactions,
    row.id = payout.transactionId ∧ row.status = .pending

/-- Which items are not given up or settled yet. -/
def Open (processing : Processing PendingPayout Request Request.Reply String) (payout : PendingPayout) : Prop :=
  payout ∈ processing.queue ∨ ∃ lane ∈ processing.lanes, lane.item? = some payout

/-- No transaction with this id is pending. -/
def Store.Left (store : Store) (id : String) : Prop :=
  ∀ row ∈ store.transactions, row.id = id → row.status ≠ .pending

/-- An attempt either has the status to write, or has written it and changes nothing more. -/
def Busy (store : Store) (settlement : Settlement) : Lane PendingPayout Request Request.Reply String → Prop
  | .attempting item _ rest =>
    Attempt item.transactionId (settlement.target item.transactionId) rest ∨
      store.Left item.transactionId ∧ rest.Asks Request.Harmless
  | _ => True

/-- While results are settled, the transactions of the batch are pending or as the report asks, and those
that are owed a change are still open. -/
structure Settling (store : Store) (reported : List String) (settlement : Settlement)
    (processing : Processing PendingPayout Request Request.Reply String) : Prop where
  known : ∀ payout ∈ settlement.payouts, payout.transactionId ∈ store.ids
  fresh : ∀ payout ∈ settlement.payouts, payout.transactionId ∉ reported
  status : ∀ row ∈ store.transactions, row.id ∈ settlement.payouts.map PendingPayout.transactionId →
    row.status = .pending ∨ row.status = settlement.target row.id
  honest : ∀ id ∈ settlement.reported, settlement.target id = .completed
  owed : ∀ row ∈ store.transactions, row.status = .pending →
    row.id ∈ store.payments ∨ row.id ∈ settlement.reported →
      ∃ payout, Open processing payout ∧ payout.transactionId = row.id
  items : ∀ payout, Open processing payout → payout ∈ settlement.payouts
  busy : ∀ lane ∈ processing.lanes, Busy store settlement lane
  drained : processing.isOver = true → processing.queue = []

/-- No pending transaction is paid. -/
def Store.Unpaid (store : Store) : Prop :=
  ∀ row ∈ store.transactions, row.status = .pending → row.id ∉ store.payments

def Stage (provider : String) (system : System) : Prop :=
  match system.phase with
  | .idle => system.store.Unpaid
  | .preparing rest => system.store.Unpaid ∧
      (rest = processBatch provider ∨ ∃ payouts, Cycle payouts rest ∧ Fetched system.store payouts)
  | .settling settlement processing => Settling system.store system.reported settlement processing

structure Standing (provider : String) (system : System) : Prop where
  distinct : system.store.ids.Nodup
  once : system.store.payments.Nodup
  known : ∀ id ∈ system.store.payments, id ∈ system.store.ids
  reported : ∀ id ∈ system.reported, id ∈ system.store.ids
  completed : ∀ row ∈ system.store.transactions, row.id ∈ system.reported → row.status = .completed
  stage : Stage provider system

section Kept

variable {written : Transaction → Prop} {before after : Store}

theorem Store.Unpaid.kept (unpaid : before.Unpaid) (known : ∀ id ∈ before.payments, id ∈ before.ids)
    (kept : before.Kept written after) (settled : ∀ row, written row → row.status ≠ .pending) :
    after.Unpaid := by
  intro row member pending paid
  rw [kept.payments] at paid
  rcases kept.rows row member with earlier | wrote | new
  · exact unpaid row earlier pending paid
  · exact settled row wrote pending
  · exact new (known row.id paid)

theorem Store.Left.kept {id : String} (left : before.Left id) (known : id ∈ before.ids)
    (kept : before.Kept written after) (settled : ∀ row, written row → row.status ≠ .pending) :
    after.Left id := by
  intro row member same
  rcases kept.rows row member with earlier | wrote | new
  · exact left row earlier same
  · exact settled row wrote
  · exact (new (same ▸ known)).elim

theorem Settlement.mem_payouts {settlement : Settlement} {id : String} (reported : id ∈ settlement.reported) :
    ∃ payout ∈ settlement.payouts, payout.transactionId = id :=
  List.mem_map.mp (List.mem_of_mem_filter reported)

variable {reported : List String} {settlement : Settlement}
variable {processing next : Processing PendingPayout Request Request.Reply String}

theorem Busy.kept {lane : Lane PendingPayout Request Request.Reply String} (busy : Busy before settlement lane)
    (known : ∀ payout, lane.item? = some payout → payout.transactionId ∈ before.ids)
    (kept : before.Kept written after) (settled : ∀ row, written row → row.status ≠ .pending) :
    Busy after settlement lane := by
  cases lane with
  | attempting item attempt rest =>
    rcases busy with waits | ⟨left, asks⟩
    · exact .inl waits
    · exact .inr ⟨left.kept (known item rfl) kept settled, asks⟩
  | _ => trivial

theorem Settling.kept (settling : Settling before reported settlement processing)
    (known : ∀ id ∈ before.payments, id ∈ before.ids) (kept : before.Kept written after)
    (wrote : ∀ row, written row → row.status = settlement.target row.id) :
    Settling after reported settlement processing := by
  have settled : ∀ row, written row → row.status ≠ .pending := by
    intro row writes
    rw [wrote row writes]
    exact settlement.target_ne_pending row.id
  constructor
  · intro payout member
    exact kept.ids _ (settling.known payout member)
  · exact settling.fresh
  · intro row member listed
    rcases kept.rows row member with earlier | writes | new
    · exact settling.status row earlier listed
    · exact .inr (wrote row writes)
    · obtain ⟨payout, there, same⟩ := List.mem_map.mp listed
      exact (new (same ▸ settling.known payout there)).elim
  · exact settling.honest
  · intro row member pending owed
    rw [kept.payments] at owed
    rcases kept.rows row member with earlier | writes | new
    · exact settling.owed row earlier pending owed
    · exact (settled row writes pending).elim
    · rcases owed with paid | told
      · exact (new (known row.id paid)).elim
      · obtain ⟨payout, there, same⟩ := Settlement.mem_payouts told
        exact (new (same ▸ settling.known payout there)).elim
  · exact settling.items
  · intro lane member
    refine (settling.busy lane member).kept ?_ kept settled
    intro payout busy
    exact settling.known payout (settling.items payout (.inr ⟨lane, member, busy⟩))
  · exact settling.drained

end Kept

section Lanes

variable {store : Store} {reported : List String} {settlement : Settlement} {index : ℕ}
variable {processing next : Processing PendingPayout Request Request.Reply String}
variable {lane moved : Lane PendingPayout Request Request.Reply String}

theorem Settling.goOn (settling : Settling store reported settlement processing)
    (found : processing.lanes[index]? = some lane) (lanes : next.lanes = processing.lanes.set index moved)
    (busy : Busy store settlement moved)
    (opens : ∀ payout, payout ∈ next.queue ∨ moved.item? = some payout →
      payout ∈ processing.queue ∨ lane.item? = some payout)
    (leaves : ∀ payout, payout ∈ processing.queue ∨ lane.item? = some payout →
      (payout ∈ next.queue ∨ moved.item? = some payout) ∨ store.Released settlement.reported payout.transactionId)
    (drains : moved = .finished → next.queue = []) :
    Settling store reported settlement next := by
  have there : lane ∈ processing.lanes := List.mem_of_getElem? found
  have here : moved ∈ next.lanes := by
    rw [lanes]
    exact List.mem_set (List.getElem?_eq_some_iff.mp found).1 _
  have earlier : ∀ other ∈ next.lanes, other ∈ processing.lanes ∨ other = moved := by grind
  have later : ∀ other ∈ processing.lanes, other ∈ next.lanes ∨ other = lane := by
    intro other member
    obtain ⟨position, lookup⟩ := List.mem_iff_getElem?.mp member
    by_cases same : index = position
    · simp_all
    · left
      rw [lanes]
      exact List.mem_of_getElem? ((List.getElem?_set_ne same).trans lookup)
  have opened : ∀ payout, payout ∈ processing.queue ∨ lane.item? = some payout → Open processing payout := by
    intro payout holds
    rcases holds with queued | held
    · exact .inl queued
    · exact .inr ⟨lane, there, held⟩
  constructor
  · exact settling.known
  · exact settling.fresh
  · exact settling.status
  · exact settling.honest
  · intro row member pending owed
    obtain ⟨payout, stillOpen, same⟩ := settling.owed row member pending owed
    have goes : payout ∈ processing.queue ∨ lane.item? = some payout → ∃ payout, Open next payout ∧
        payout.transactionId = row.id := by
      intro holds
      rcases leaves payout holds with (queued | held) | released
      · exact ⟨payout, .inl queued, same⟩
      · exact ⟨payout, .inr ⟨moved, here, held⟩, same⟩
      · obtain ⟨unpaid, untold⟩ := released row member same.symm pending
        rw [same] at unpaid untold
        exact (owed.elim unpaid untold).elim
    rcases stillOpen with queued | ⟨other, among, held⟩
    · exact goes (.inl queued)
    · rcases later other among with kept | rfl
      · exact ⟨payout, .inr ⟨other, kept, held⟩, same⟩
      · exact goes (.inr held)
  · intro payout stillOpen
    apply settling.items
    rcases stillOpen with queued | ⟨other, among, held⟩
    · exact opened payout (opens payout (.inl queued))
    · rcases earlier other among with kept | rfl
      · exact .inr ⟨other, kept, held⟩
      · exact opened payout (opens payout (.inr held))
  · intro other among
    rcases earlier other among with kept | rfl
    · exact settling.busy other kept
    · exact busy
  · intro finished
    have ended := List.all_eq_true.mp finished moved here
    apply drains
    cases moved with
    | finished => rfl
    | _ => cases ended

variable {after : Store} {event : Event}

variable {item : PendingPayout}

theorem busy_serve (event : Event) {attempt : ℕ} {request : Request} {rest : Except String request.Reply → Work Unit}
    (busy : Busy store settlement (.attempting item attempt (.await request rest))) :
    ∃ written, store.Kept written (server.next store event request) ∧
      (∀ row, written row → row.id = item.transactionId ∧ row.status = settlement.target row.id) ∧
      Busy (server.next store event request) settlement
        (.attempting item attempt (rest (server.exchange store event request).reply)) := by
  have untouched (same : server.next store event request = store) :
      ∃ written, store.Kept written (server.next store event request) ∧
        ∀ row, written row → row.id = item.transactionId ∧ row.status = settlement.target row.id := by
    rw [same]
    exact ⟨fun _ => False, .refl store, fun _ => False.elim⟩
  rcases busy with waits | ⟨left, asks⟩
  · cases waits with
    | passes harmless continued =>
      obtain ⟨written, kept, wrote⟩ := untouched (harmless.next store event)
      exact ⟨written, kept, wrote, .inl (continued _)⟩
    | writes raised answered =>
      have wrote : ∀ row : Transaction,
          row.id = item.transactionId ∧ row.status = settlement.target item.transactionId →
            row.id = item.transactionId ∧ row.status = settlement.target row.id := by
        rintro row ⟨same, status⟩
        exact ⟨same, same ▸ status⟩
      have kept := Store.Kept.setStatus store item.transactionId (settlement.target item.transactionId)
      rcases served store event (.updateStatus item.transactionId (settlement.target item.transactionId)) with
        ⟨-, reply, next⟩ | ⟨-, reply, next⟩ | ⟨-, reply, next⟩
      · rw [reply, next]
        refine ⟨_, kept, wrote, .inr ⟨?_, answered⟩⟩
        intro row member same
        obtain ⟨earlier, _, rfl⟩ := List.mem_map.mp member
        by_cases target : earlier.id = item.transactionId
        · simpa [target] using settlement.target_ne_pending item.transactionId
        · simp [target] at same
      · rw [reply, next]
        exact ⟨_, kept, wrote, .inl (raised _)⟩
      · obtain ⟨written, kept, wrote⟩ := untouched next
        refine ⟨written, kept, wrote, ?_⟩
        rw [reply]
        exact .inl (raised _)
  · have same := asks.1.next store event
    obtain ⟨written, kept, wrote⟩ := untouched same
    refine ⟨written, kept, wrote, .inr ⟨?_, asks.2 _⟩⟩
    rwa [same]

theorem leaveItem {queue : List PendingPayout} {held : Option PendingPayout}
    (released : store.Released settlement.reported item.transactionId) (payout : PendingPayout)
    (holds : payout ∈ queue ∨ some item = some payout) :
    (payout ∈ queue ∨ held = some payout) ∨ store.Released settlement.reported payout.transactionId := by
  rcases holds with queued | same
  · exact .inl (.inl queued)
  · exact .inr (Option.some.inj same ▸ released)

theorem attempt_done {id : String} {target : TransactionStatus} : ¬Attempt id target (.done (.ok ())) := nofun

variable {options : ProcessorOptions} {now : ℕ}

theorem Settling.advance (settling : Settling store reported settlement processing)
    (known : ∀ id ∈ store.payments, id ∈ store.ids)
    (released : ∀ payout ∈ processing.givenUp options index now,
      store.Released settlement.reported payout.transactionId)
    (advanced : processing.advance options server settlement.work store index now event = some (next, after)) :
    ∃ written, store.Kept written after ∧
      (∀ row, written row → row.id ∈ settlement.payouts.map PendingPayout.transactionId ∧
        row.status = settlement.target row.id) ∧
      Settling after reported settlement next := by
  have still (same : store = after) (settled : Settling after reported settlement next) :
      ∃ written, store.Kept written after ∧
        (∀ row, written row → row.id ∈ settlement.payouts.map PendingPayout.transactionId ∧
          row.status = settlement.target row.id) ∧
        Settling after reported settlement next := by
    subst same
    exact ⟨fun _ => False, .refl store, fun _ => False.elim, settled⟩
  unfold Processing.advance at advanced
  obtain ⟨lane, found, advanced⟩ := Option.bind_eq_some_iff.mp advanced
  unfold Processing.givenUp at released
  rw [found] at released
  have busy := settling.busy lane (List.mem_of_getElem? found)
  cases lane with
  | ready =>
    cases queue : processing.queue with
    | nil =>
      simp only [queue, Option.pure_def, Option.some.injEq, Prod.mk.injEq] at advanced
      obtain ⟨rfl, same⟩ := advanced
      refine still same (same ▸ settling.goOn found rfl trivial ?_ ?_ ?_)
      · simp [queue, Lane.item?]
      · simp [queue, Lane.item?]
      · simp
    | cons item rest =>
      simp only [queue, Option.pure_def] at advanced
      split at advanced
      · simp only [Option.some.injEq, Prod.mk.injEq] at advanced
        obtain ⟨rfl, same⟩ := advanced
        refine still same (same ▸ settling.goOn found rfl trivial ?_ ?_ ?_)
        · simp [queue, Lane.item?, eq_comm, or_comm]
        · simp_all [Lane.item?, or_comm]
        · simp
      · rename_i opened
        simp only [Option.some.injEq, Prod.mk.injEq] at advanced
        obtain ⟨rfl, same⟩ := advanced
        refine still same (same ▸ settling.goOn found rfl trivial ?_ ?_ ?_)
        · simp [Lane.item?]
        · simp_all [Lane.item?]
        · simp
  | entering item attempt =>
    simp only [Option.pure_def] at advanced
    split at advanced
    · simp only [Option.some.injEq, Prod.mk.injEq] at advanced
      obtain ⟨rfl, same⟩ := advanced
      refine still same (same ▸ settling.goOn found rfl trivial (fun _ => id) (fun _ => .inl) ?_)
      simp
    · rename_i opened
      simp only [Option.some.injEq, Prod.mk.injEq] at advanced
      obtain ⟨rfl, same⟩ := advanced
      simp only [opened] at released
      refine still same (same ▸ settling.goOn found rfl trivial ?_ (leaveItem ?_) ?_)
      · intro payout holds
        exact .inl (holds.resolve_right nofun)
      · exact released item (by simp)
      · simp
  | waiting item attempt =>
    simp only [Option.pure_def, Option.some.injEq, Prod.mk.injEq] at advanced
    obtain ⟨rfl, same⟩ := advanced
    refine still same (same ▸ settling.goOn found rfl (.inl (work_attempt settlement item)) (fun _ => id) (fun _ => .inl) ?_)
    simp
  | attempting item attempt rest =>
    have listed : item ∈ settlement.payouts :=
      settling.items item (.inr ⟨_, List.mem_of_getElem? found, rfl⟩)
    cases rest with
    | await request rest =>
      simp only [Option.pure_def, Option.some.injEq, Prod.mk.injEq] at advanced
      obtain ⟨rfl, rfl⟩ := advanced
      obtain ⟨written, kept, wrote, busy⟩ := busy_serve event busy
      refine ⟨written, kept, ?_, ?_⟩
      · intro row writes
        obtain ⟨same, status⟩ := wrote row writes
        exact ⟨List.mem_map.mpr ⟨item, listed, same.symm⟩, status⟩
      · have settled := settling.kept known kept fun row writes => (wrote row writes).2
        refine settled.goOn found rfl busy (fun _ => id) (fun _ => .inl) ?_
        simp
    | done outcome =>
      cases outcome with
      | ok value =>
        simp only [Option.pure_def, Option.some.injEq, Prod.mk.injEq] at advanced
        obtain ⟨rfl, same⟩ := advanced
        have left : store.Left item.transactionId := by
          rcases busy with waits | ⟨left, _⟩
          · exact (attempt_done waits).elim
          · exact left
        refine still same (same ▸ settling.goOn found rfl trivial ?_ (leaveItem ?_) ?_)
        · intro payout holds
          exact .inl (holds.resolve_right nofun)
        · intro row member same pending
          exact (left row member same pending).elim
        · simp
      | error error =>
        simp only [Option.pure_def] at advanced
        split at advanced
        · simp only [Option.some.injEq, Prod.mk.injEq] at advanced
          obtain ⟨rfl, same⟩ := advanced
          refine still same (same ▸ settling.goOn found rfl trivial (fun _ => id) (fun _ => .inl) ?_)
          simp
        · rename_i exhausted
          simp only [Option.some.injEq, Prod.mk.injEq] at advanced
          obtain ⟨rfl, same⟩ := advanced
          simp only [exhausted] at released
          refine still same (same ▸ settling.goOn found rfl trivial ?_ (leaveItem ?_) ?_)
          · intro payout holds
            exact .inl (holds.resolve_right nofun)
          · exact released item (by simp)
          · simp
  | finished => cases advanced

end Lanes

section Steps

variable {options : ProcessorOptions} {provider : String} {system after : System} {label : Label}
variable {written : Transaction → Prop} {payouts : List PendingPayout}

theorem Standing.keep {store : Store} {phase : Phase} (standing : Standing provider system)
    (kept : system.store.Kept written store) (wrote : ∀ row, written row → row.id ∉ system.reported)
    (stage : Stage provider ⟨store, system.reported, phase⟩) :
    Standing provider ⟨store, system.reported, phase⟩ := by
  constructor
  · exact kept.distinct standing.distinct
  · exact kept.payments ▸ standing.once
  · intro id paid
    exact kept.ids id (standing.known id (kept.payments ▸ paid))
  · intro id told
    exact kept.ids id (standing.reported id told)
  · intro row member told
    rcases kept.rows row member with earlier | writes | new
    · exact standing.completed row earlier told
    · exact (wrote row writes told).elim
    · exact (new (standing.reported row.id told)).elim
  · exact stage

theorem Standing.insert {row : Transaction} (standing : Standing provider system) (fresh : row.id ∉ system.store.ids) :
    Standing provider { system with store.transactions := system.store.transactions ++ [row] } := by
  have kept : system.store.Kept (fun _ => False)
      { system.store with transactions := system.store.transactions ++ [row] } := .insert fresh
  refine standing.keep kept (fun _ => False.elim) ?_
  have stage := standing.stage
  unfold Stage at stage ⊢
  obtain ⟨store, reported, phase⟩ := system
  cases phase with
  | idle => exact stage.kept standing.known kept fun _ => False.elim
  | preparing rest =>
    obtain ⟨unpaid, at_start | ⟨payouts, cycle, fetched⟩⟩ := stage
    · exact ⟨unpaid.kept standing.known kept fun _ => False.elim, .inl at_start⟩
    · refine ⟨unpaid.kept standing.known kept fun _ => False.elim, .inr ⟨payouts, cycle, fetched.distinct, ?_⟩⟩
      intro payout member
      obtain ⟨pending, there, found⟩ := fetched.pending payout member
      exact ⟨pending, List.mem_append_left _ there, found⟩
  | settling settlement processing => exact stage.kept standing.known kept fun _ => False.elim

theorem fetched_find {store : Store} (distinct : store.ids.Nodup) (type : String) (limit : ℕ) :
    Fetched store ((store.find .pending provider type limit).map payoutOf) := by
  have listed : ∀ row ∈ store.find .pending provider type limit,
      row ∈ store.transactions ∧ row.status = .pending := by
    intro row member
    have filtered := (List.mem_insertionSort _).mp (List.mem_of_mem_take member)
    simp only [List.mem_filter, Bool.and_eq_true, decide_eq_true_eq] at filtered
    exact ⟨filtered.1, filtered.2.1.1⟩
  constructor
  · rw [List.map_map]
    change ((store.find .pending provider type limit).map Transaction.id).Nodup
    have filtered (holds : Transaction → Bool) : ((store.transactions.filter holds).map Transaction.id).Nodup :=
      (List.filter_sublist.map _).nodup distinct
    refine ((List.take_sublist _ _).map _).nodup ?_
    exact ((List.perm_insertionSort _ _).map _).nodup_iff.mpr (filtered _)
  · intro payout member
    obtain ⟨row, there, rfl⟩ := List.mem_map.mp member
    exact ⟨row, (listed row there).1, rfl, (listed row there).2⟩

theorem Cycle.stage {rest : Work (Option Settlement)} (cycle : Cycle payouts rest)
    (unpaid : system.store.Unpaid) (fetched : Fetched system.store payouts) :
    Stage provider { system with phase := entered options rest } := by
  cases cycle with
  | «over» nothing =>
    rename_i outcome
    match outcome, nothing with
    | .error error, _ | .ok none, _ => exact unpaid
    | .ok (some settlement), nothing => exact (nothing settlement rfl).elim
  | passes harmless continued => exact ⟨unpaid, .inr ⟨payouts, .passes harmless continued, fetched⟩⟩
  | pays answered raised => exact ⟨unpaid, .inr ⟨payouts, .pays answered raised, fetched⟩⟩

theorem resultMap_get? (settlement : Settlement) (id : String) :
    settlement.resultMap.get? id = settlement.results.reverse.find? fun result => result.referenceId = id := by
  rw [Settlement.resultMap, InsertionMap.get?_ofPairs, ← List.map_reverse, List.find?_map, Option.map_map]
  change Option.map (fun result => result) _ = _
  simp [Function.comp_def]

theorem Consistent.target {settlement : Settlement}
    (consistent : Consistent (settlement.payouts.map batchItem) settlement.results) {id : String}
    (told : id ∈ settlement.reported) : settlement.target id = .completed := by
  obtain ⟨payout, member, rfl⟩ := Settlement.mem_payouts told
  have success := (List.mem_filter.mp told).2
  obtain ⟨result, among, holds⟩ := List.any_eq_true.mp success
  have last := consistent (batchItem payout) (List.mem_map_of_mem member) ⟨result, among, by simpa [batchItem] using holds⟩
  unfold Settlement.target settledStatus
  rw [resultMap_get?]
  exact if_pos last

theorem settling_start {settlement : Settlement} {store : Store} {reported : List String}
    (distinct : store.ids.Nodup) (completed : ∀ row ∈ store.transactions, row.id ∈ reported → row.status = .completed)
    (fetched : Fetched store settlement.payouts)
    (owed : ∀ row ∈ store.transactions, row.status = .pending → row.id ∈ store.payments →
      row.id ∈ settlement.payouts.map PendingPayout.transactionId)
    (consistent : Consistent (settlement.payouts.map batchItem) settlement.results) :
    Settling store reported settlement (.start options settlement.payouts) := by
  have ready : ∀ lane ∈ (Processing.start options settlement.payouts :
      Processing PendingPayout Request Request.Reply String).lanes, lane = .ready := by
    intro lane member
    exact List.eq_of_mem_replicate member
  constructor
  · intro payout member
    obtain ⟨row, there, same, _⟩ := fetched.pending payout member
    exact List.mem_map.mpr ⟨row, there, same⟩
  · intro payout member told
    obtain ⟨row, there, same, pending⟩ := fetched.pending payout member
    have paid := completed row there (same ▸ told)
    rw [pending] at paid
    cases paid
  · intro row member listed
    obtain ⟨payout, there, same⟩ := List.mem_map.mp listed
    obtain ⟨other, among, equal, pending⟩ := fetched.pending payout there
    obtain rfl := List.inj_on_of_nodup_map distinct among member (equal.trans same)
    exact .inl pending
  · intro id told
    exact consistent.target told
  · intro row member pending due
    have listed : row.id ∈ settlement.payouts.map PendingPayout.transactionId := by
      rcases due with paid | told
      · exact owed row member pending paid
      · exact List.mem_of_mem_filter told
    obtain ⟨payout, there, same⟩ := List.mem_map.mp listed
    exact ⟨payout, .inl there, same⟩
  · rintro payout (queued | ⟨lane, member, held⟩)
    · exact queued
    · rw [ready lane member] at held
      cases held
  · intro lane member
    rw [ready lane member]
    trivial
  · intro ended
    have none_ready : min (max 1 (min options.concurrency 50)) settlement.payouts.length = 0 := by
      by_contra some_ready
      have finished := List.all_eq_true.mp ended .ready (List.mem_replicate.mpr ⟨some_ready, rfl⟩)
      cases finished
    have nothing : settlement.payouts.length = 0 := by omega
    exact List.eq_nil_of_length_eq_zero nothing

section

variable (standing : Standing provider system)

include standing

theorem Standing.pay {event : Event} {rest : Except String (List BatchPayoutResult) → Work (Option Settlement)}
    {operation : String} (unpaid : system.store.Unpaid)
    (fetched : Fetched system.store payouts)
    (answered : ∀ results, rest (.ok results) = .done (.ok (some ⟨operation, payouts, results⟩)))
    (raised : ∀ error, Cycle payouts (rest (.error error)))
    (told : (event.accepted = true → event.fault ≠ some .replyLost) ∧
      (event.fault = none → Consistent (payouts.map batchItem) event.results)) :
    Standing provider { system with
      store := server.next system.store event (.sendBatchPayout provider (payouts.map batchItem))
      phase := entered options
        (rest (server.exchange system.store event (.sendBatchPayout provider (payouts.map batchItem))).reply) } := by
  have unchanged (error : String) : Standing provider { system with phase := entered options (rest (.error error)) } :=
    standing.keep (.refl system.store) (fun _ (writes : False) => writes.elim)
      ((raised error).stage unpaid fetched)
  have settles (store : Store) (rows : store.transactions = system.store.transactions)
      (owed : ∀ id ∈ store.payments, id ∈ system.store.payments ∨ id ∈ payouts.map PendingPayout.transactionId)
      (consistent : Consistent (payouts.map batchItem) event.results) :
      Stage provider { system with
        store, phase := entered options (rest (.ok event.results)) } := by
    have same : store.ids = system.store.ids := by rw [Store.ids, Store.ids, rows]
    rw [answered]
    change Settling store system.reported ⟨operation, payouts, event.results⟩ (.start options payouts)
    refine settling_start ?_ ?_ ?_ ?_ consistent
    · exact same ▸ standing.distinct
    · exact rows ▸ standing.completed
    · exact ⟨fetched.distinct, rows ▸ fetched.pending⟩
    · intro row member pending paid
      exact (owed row.id paid).resolve_left (unpaid row (rows ▸ member) pending)
  have listed : ∀ id ∈ payouts.map PendingPayout.transactionId,
      id ∈ system.store.ids ∧ id ∉ system.store.payments := by
    intro id member
    obtain ⟨payout, there, rfl⟩ := List.mem_map.mp member
    obtain ⟨row, among, same, pending⟩ := fetched.pending payout there
    exact ⟨List.mem_map.mpr ⟨row, among, same⟩, same ▸ unpaid row among pending⟩
  rcases served system.store event (.sendBatchPayout provider (payouts.map batchItem)) with
    ⟨fault, reply, next⟩ | ⟨fault, reply, next⟩ | ⟨fault, reply, next⟩
  · rw [reply, next]
    have consistent := told.2 fault
    cases accepted : event.accepted with
    | false =>
      simp only [perform, accepted, Bool.false_eq_true, if_false]
      exact standing.keep (.refl system.store) (fun _ (writes : False) => writes.elim)
        (settles system.store rfl (fun _ => .inl) consistent)
    | true =>
      simp only [perform, accepted, if_true]
      have paid : (system.store.pay (payouts.map batchItem)).payments =
          system.store.payments ++ payouts.map PendingPayout.transactionId := by
        simp [Store.pay, batchItem, Function.comp_def]
      constructor
      · exact standing.distinct
      · rw [paid]
        refine List.nodup_append'.mpr ⟨standing.once, fetched.distinct, ?_⟩
        intro id earlier now
        exact (listed id now).2 earlier
      · intro id member
        rw [paid] at member
        exact (List.mem_append.mp member).elim (standing.known id) fun now => (listed id now).1
      · exact standing.reported
      · exact standing.completed
      · refine settles _ rfl ?_ consistent
        intro id member
        rw [paid] at member
        exact List.mem_append.mp member
  · have refused : event.accepted = false := by
      by_contra accepted
      exact told.1 (by simpa using accepted) fault
    rw [reply, next]
    simp only [perform, refused, Bool.false_eq_true, if_false]
    exact unchanged connectionLost
  · rw [reply, next]
    exact unchanged connectionLost

theorem Standing.serve {event : Event} {request : Request}
    {rest : Except String request.Reply → Work (Option Settlement)} (phase : system.phase = .preparing (.await request rest))
    (passed : sound options system (.serve event) = true) :
    Standing provider { system with
      store := server.next system.store event request
      phase := entered options (rest (server.exchange system.store event request).reply) } := by
  have stage := standing.stage
  unfold Stage at stage
  rw [phase] at stage
  unfold sound at passed
  rw [phase] at passed
  have untouched (harmless : request.Harmless) (stage : Stage provider { system with
      phase := entered options (rest (server.exchange system.store event request).reply) }) :
      Standing provider { system with
        store := server.next system.store event request
        phase := entered options (rest (server.exchange system.store event request).reply) } := by
    rw [harmless.next]
    exact standing.keep (.refl system.store) (fun _ (writes : False) => writes.elim) stage
  obtain ⟨unpaid, at_start | ⟨payouts, cycle, fetched⟩⟩ := stage
  · obtain ⟨first, begins, failed, answered⟩ := processBatch_cycle provider
    rw [begins] at at_start
    cases at_start
    refine untouched (fun _ _ => rfl) ?_
    rcases served system.store event (.findByStatusAndProvider .pending provider "withdraw" batchSize) with
      ⟨-, reply, -⟩ | ⟨-, reply, -⟩ | ⟨-, reply, -⟩
    · rw [reply]
      exact (answered _).stage unpaid (fetched_find standing.distinct ..)
    · rw [reply]
      exact (failed _).stage unpaid ⟨List.nodup_nil, nofun⟩
    · rw [reply]
      exact (failed _).stage unpaid ⟨List.nodup_nil, nofun⟩
  · cases cycle with
    | passes harmless continued => exact untouched harmless ((continued _).stage unpaid fetched)
    | pays answered raised =>
      simp only [Bool.and_eq_true, Bool.not_eq_true', Bool.and_eq_false_iff, Bool.or_eq_true,
        decide_eq_true_eq, decide_eq_false_iff_not] at passed
      apply standing.pay unpaid fetched answered raised
      constructor
      · grind
      · grind

theorem Standing.lane {settlement : Settlement} {index now : ℕ} {event : Event} {store : Store}
    {processing next : Processing PendingPayout Request Request.Reply String} (phase : system.phase = .settling settlement processing)
    (passed : sound options system (.lane index now event) = true)
    (advanced : processing.advance options server settlement.work system.store index now event = some (next, store)) :
    Standing provider (if next.isOver then ⟨store, system.reported ++ settlement.reported, .idle⟩
      else { system with store, phase := .settling settlement next }) := by
  have settling := standing.stage
  unfold Stage at settling
  rw [phase] at settling
  unfold sound at passed
  rw [phase] at passed
  have released : ∀ payout ∈ processing.givenUp options index now,
      system.store.Released settlement.reported payout.transactionId := by
    intro payout member
    exact of_decide_eq_true (List.all_eq_true.mp passed payout member)
  obtain ⟨written, kept, wrote, settled⟩ := Settling.advance settling standing.known released advanced
  have fresh : ∀ row, written row → row.id ∉ system.reported := by
    intro row writes
    obtain ⟨payout, member, same⟩ := List.mem_map.mp (wrote row writes).1
    exact same ▸ settling.fresh payout member
  have goes : Standing provider ⟨store, system.reported, .settling settlement next⟩ :=
    standing.keep kept fresh settled
  split
  · rename_i ended
    have closed (payout : PendingPayout) : ¬Open next payout := by
      rintro (queued | ⟨lane, member, held⟩)
      · rw [settled.drained ended] at queued
        cases queued
      · have finished := List.all_eq_true.mp ended lane member
        cases lane with
        | finished => cases held
        | _ => cases finished
    have left : ∀ row ∈ store.transactions, row.status = .pending →
        row.id ∉ store.payments ∧ row.id ∉ settlement.reported := by
      intro row member pending
      constructor
      · intro paid
        obtain ⟨payout, stillOpen, _⟩ := settled.owed row member pending (.inl paid)
        exact closed payout stillOpen
      · intro told
        obtain ⟨payout, stillOpen, _⟩ := settled.owed row member pending (.inr told)
        exact closed payout stillOpen
    constructor
    · exact goes.distinct
    · exact goes.once
    · exact goes.known
    · intro id told
      rcases List.mem_append.mp told with earlier | now
      · exact goes.reported id earlier
      · obtain ⟨payout, member, same⟩ := Settlement.mem_payouts now
        exact same ▸ settled.known payout member
    · intro row member told
      rcases List.mem_append.mp told with earlier | now
      · exact goes.completed row member earlier
      · rcases settled.status row member (List.mem_of_mem_filter now) with pending | target
        · exact ((left row member pending).2 now).elim
        · rw [target]
          exact settled.honest row.id now
    · intro row member pending
      exact (left row member pending).1
  · exact goes

theorem Standing.step (moved : step options provider system label after)
    (passed : sound options system label = true) : Standing provider after := by
  unfold BatchWorker.step System.perform at moved
  cases label with
  | insert row =>
    simp only [Option.ite_none_left_eq_some, Option.some.injEq] at moved
    obtain ⟨fresh, rfl⟩ := moved
    exact standing.insert fresh
  | begin =>
    have stage := standing.stage
    cases phase : system.phase with
    | idle =>
      simp only [phase, Option.some.injEq] at moved
      subst moved
      unfold Stage at stage
      rw [phase] at stage
      exact standing.keep (.refl system.store) (fun _ (writes : False) => writes.elim) ⟨stage, .inl rfl⟩
    | preparing rest | settling settlement processing => simp [phase] at moved
  | serve event =>
    cases phase : system.phase with
    | idle => simp [phase] at moved
    | preparing rest =>
      cases rest with
      | done outcome => simp [phase] at moved
      | await request rest =>
        simp only [phase, Option.some.injEq] at moved
        subst moved
        exact standing.serve phase passed
    | settling settlement processing => simp [phase] at moved
  | lane index now event =>
    cases phase : system.phase with
    | idle | preparing rest => simp [phase] at moved
    | settling settlement processing =>
      simp only [phase] at moved
      obtain ⟨⟨next, store⟩, advanced, continued⟩ := Option.bind_eq_some_iff.mp moved
      have stands := standing.lane phase passed advanced
      simp only [Option.pure_def] at continued
      split at continued
      · simp_all
      · simp_all

end

end Steps

/-- A withdrawal is paid at most once, and one that was reported paid in a finished cycle is neither
pending nor failed. -/
theorem paid_at_most_once {options : ProcessorOptions} {provider : String} {trace : List Label}
    {system : System} (run : Run (step options provider) .initial trace system)
    (passed : Throughout (step options provider) .initial
      (fun before label _ => sound options before label = true) trace) :
    (∀ id, system.store.payments.count id ≤ 1) ∧ ∀ row ∈ system.store.transactions, row.id ∈ system.reported →
        row.status ≠ .pending ∧ row.status ≠ .failed := by
  have standing : Standing provider system := by
    refine (run.restrict passed).invariant (fun _ => Standing provider) ?_ ?_
    · constructor
      · exact List.nodup_nil
      · exact List.nodup_nil
      · exact nofun
      · exact nofun
      · exact nofun
      · exact nofun
    · intro trace before label after stands moved
      exact stands.step moved.1 moved.2
  constructor
  · intro id
    exact List.nodup_iff_count_le_one.mp standing.once id
  · intro row member told
    have completed := standing.completed row member told
    simp [completed]

/-- The settings of `processBatchResults`. -/
def ProcessorOptions.default : ProcessorOptions := ⟨5, 10, 60000, 2⟩

def payout : Transaction := ⟨"tx-1", "withdraw", "mtn", "237670000001", "100", .pending, 0⟩

/-- The provider pays the batch and reports it. -/
def Event.calm : Event := ⟨none, true, [⟨"tx-1", true, none, some "mtn-1"⟩], none, "batch-1"⟩

def serves (count : ℕ) : List Label :=
  List.replicate count (.serve .calm)

/-- The first lane goes on, with every request answered. -/
def goes (count : ℕ) : List Label :=
  List.replicate count (.lane 0 0 .calm)

def oneCycle : List Label :=
  [.insert payout, .begin] ++ serves 6 ++ goes 13

theorem one_cycle_pays_once : ∃ system, Run (step .default "mtn") .initial oneCycle system ∧
    (∀ id, system.store.payments.count id ≤ 1) ∧ ∀ row ∈ system.store.transactions, row.id ∈ system.reported →
        row.status ≠ .pending ∧ row.status ≠ .failed := by
  obtain ⟨system, followed, _⟩ := Option.map_eq_some_iff.mp
    (show (oneCycle.foldlM (System.perform .default "mtn") .initial).map System.reported = some ["tx-1"] by
      decide)
  have run : Run (step .default "mtn") .initial oneCycle system := Run.follow followed
  exact ⟨system, run, paid_at_most_once run (throughout_follow (by decide))⟩

/-- The reply of the first batch is lost, and the next cycle sends the payout again. -/
def paidTwice : List Label :=
  [.insert payout, .begin] ++ serves 5 ++ [.serve { Event.calm with fault := some .replyLost }] ++ serves 2 ++
    [.begin] ++ serves 6 ++ goes 13

/-- An attempt whose first request fails. -/
def failedAttempt : List Label :=
  goes 2 ++ [.lane 0 0 { Event.calm with fault := some .requestLost }, .lane 0 0 .calm]

/-- The payout is reported paid, but the three attempts to store that fail. -/
def leftPending : List Label :=
  [.insert payout, .begin] ++ serves 6 ++ goes 1 ++ failedAttempt ++ failedAttempt ++ failedAttempt ++ goes 1

theorem paid_twice_and_left_pending : (¬∀ trace system, Run (step .default "mtn") .initial trace system →
      ∀ id, system.store.payments.count id ≤ 1) ∧
    ¬∀ trace system, Run (step .default "mtn") .initial trace system →
      ∀ row ∈ system.store.transactions, row.id ∈ system.reported → row.status ≠ .pending ∧ row.status ≠ .failed := by
  constructor
  · intro always
    obtain ⟨system, followed, paid⟩ := Option.map_eq_some_iff.mp
      (show (paidTwice.foldlM (System.perform .default "mtn") .initial).map (fun system => system.store.payments) =
        some ["tx-1", "tx-1"] by decide)
    have once := always paidTwice system (Run.follow followed) "tx-1"
    rw [paid] at once
    revert once
    decide
  · intro always
    obtain ⟨system, followed, ended⟩ := Option.map_eq_some_iff.mp
      (show (leftPending.foldlM (System.perform .default "mtn") .initial).map
        (fun system => (system.store.transactions, system.reported)) = some ([payout], ["tx-1"]) by decide)
    obtain ⟨rows, reported⟩ := Prod.mk.inj ended
    have settled := always leftPending system (Run.follow followed) payout (by simp [rows]) (by simp [reported, payout])
    exact settled.1 rfl

end ProxyPay.BatchWorker
