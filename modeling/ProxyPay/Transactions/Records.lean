import ProxyPay.Ledger.Reversal
import ProxyPay.Library.Exclusive
import ProxyPay.Transactions.Services

/-! The records of reversals agree with the ledger after every run of calls that are not cut once they
have posted. What follows the posting has commits of its own, and every failure of it fails the record. -/

namespace ProxyPay.Transactions

open ProxyPay.Library
open ProxyPay.Ledger (Uuid reversalReference)

def ReversalStatus.Succeeded (status : ReversalStatus) : Prop :=
  status = .posted ∨ status = .notified

/-- A record of the transaction has succeeded exactly if the ledger holds the compensating entries. -/
def Agrees (platform : Platform) (db : Database) (transaction : Uuid) (reference : String) : Prop :=
  (∃ record ∈ db.reversals, platform.ledger.uuid record.transactionId = some transaction ∧
    record.originalReference = reference ∧ record.status.Succeeded) ↔
      db.ledger.existing transaction (reversalReference reference) ≠ []

/-- A call of `reverse`, with how each of its statements meets the world. -/
structure ReverseCall where
  transactionId : String
  reason : String
  actorId : Option String
  allowCompleted : Bool
  events : List Event

def ReverseCall.executed (platform : Platform) (call : ReverseCall) (before : Store) :
    Option (Execution Statement Statement.Reply String TransactionReversalResult Store) :=
  (server platform).execute (reverse platform.upper call.transactionId call.reason call.actorId call.allowCompleted)
    call.events before

/-- Other services change what they like, but neither records of reversals nor compensating entries. -/
structure Elsewhere (before after : Store) : Prop where
  history : after.past = before.db :: before.past
  records : after.db.reversals = before.db.reversals
  postings : ∀ transaction reference, after.db.ledger.existing transaction (reversalReference reference) ≠ [] ↔
    before.db.ledger.existing transaction (reversalReference reference) ≠ []

inductive Label where
  | reverse (call : ReverseCall)
  | elsewhere

/-- The calls one after the other, with other services between them. -/
def reversing (platform : Platform) (before : Store) (label : Label) (after : Store) : Prop :=
  match label with
  | .reverse call => ∃ execution, call.executed platform before = some execution ∧ after = execution.state
  | .elsewhere => Elsewhere before after

/-- No record that has been terminal at any moment is different now. -/
def Final (store : Store) : Prop :=
  ∀ db ∈ store.past, ∀ (position : ℕ) record, db.reversals[position]? = some record →
    isTerminal record.status = true → store.db.reversals[position]? = some record

/-- What holds when a call has finished. -/
structure Finished (platform : Platform) (before after : Store) : Prop where
  agrees : ∀ transaction reference, Agrees platform after.db transaction reference
  failed : ∀ (position : ℕ) record, before.db.reversals.length ≤ position →
    after.db.reversals[position]? = some record → record.status = .failed →
      after.db.ledger.entries = before.db.ledger.entries
  final : Final after

def Right (platform : Platform) (before : Store) (label : Label) (after : Store) : Prop :=
  match label with
  | .reverse _ => Finished platform before after
  | .elsewhere => True

/-- Statements whose failures are caught where they are made. -/
def Statement.caught : Statement → Bool
  | .insertEvent _ => true
  | .routeNotification _ => true
  | .perform (.publish ..) => false
  | .perform (.broadcast ..) => false
  | .perform _ => true
  | _ => false

variable (exchanges : List (Exchange Statement Statement.Reply String))

abbrev Answers : Prop :=
  ∀ exchange ∈ exchanges, exchange.request.caught = false → ∃ value, exchange.reply = .ok value

/-- Once the ledger has taken the posting, its answer arrives, and so do all later ones. -/
def Uncut : Prop :=
  ∀ first post rest args, exchanges = first ++ post :: rest → post.request = .postReversal args →
    post.tookEffect = true → (∃ value, post.reply = .ok value) ∧ Answers rest

/-- The call is not cut after its posting. -/
def Sound (platform : Platform) (before : Store) (label : Label) : Prop :=
  match label with
  | .reverse call => ∀ execution, call.executed platform before = some execution → Uncut execution.exchanges
  | .elsewhere => True

/-- The records are numbered as they were made, and agree with the ledger. -/
structure Consistent (platform : Platform) (store : Store) : Prop where
  numbered : ∀ (position : ℕ) record, store.db.reversals[position]? = some record → record.id = position
  earlier : ∀ db ∈ store.past, ∀ record ∈ db.reversals, record.id < store.db.reversals.length
  final : Final store
  agrees : ∀ transaction reference, Agrees platform store.db transaction reference

/-! What a statement does to the records and to the ledger. -/

/-- The statement changes neither records nor the ledger. -/
def Statement.quiet : Statement → Bool
  | .insertReversal .. => false
  | .updateReversal .. => false
  | .postReversal _ => false
  | _ => true

def Quiet (statement : Statement) : Prop :=
  statement.quiet = true

/-- What a read of the statement sees. -/
def Store.seen (store : Store) (event : Event) : Database :=
  (⟨store.db.wait event.elapsed, store.past⟩ : Store).shown event.lag

section Statement

variable {platform : Platform} {store : Store} {event : Event} {statement : Statement}

theorem seen_mem : store.seen event = store.db.wait event.elapsed ∨ store.seen event ∈ store.past := by
  unfold Store.seen Store.shown
  cases found : (store.db.wait event.elapsed :: store.past)[event.lag]? with
  | none => exact .inl rfl
  | some db => exact List.mem_cons.mp (List.mem_of_getElem? found)

theorem next_past : ((server platform).next store event statement).past = store.db :: store.past := rfl

theorem next_cases : (∃ reply after, execute platform event (store.seen event) (store.db.wait event.elapsed) statement =
        .ok (reply, after) ∧ ((server platform).next store event statement).db = after ∧
      ((server platform).exchange store event statement).tookEffect = true ∧
      ∀ value, ((server platform).exchange store event statement).reply = .ok value → value = reply) ∨
    ((server platform).next store event statement).db = store.db.wait event.elapsed ∧
      ((server platform).exchange store event statement).tookEffect = false ∧
      ∀ value, ((server platform).exchange store event statement).reply ≠ .ok value := by
  obtain ⟨reply, after, executed, delivered | delivered⟩ | ⟨error, delivered⟩ := Fault.deliver_cases connectionLost
    (store.db.wait event.elapsed) (if statement.mayFail then event.fault else none)
    (execute platform event (store.seen event) (store.db.wait event.elapsed) statement)
  · left
    refine ⟨reply, after, executed, congrArg (fun result => result.2.2) delivered,
      congrArg (fun result => result.2.1) delivered, ?_⟩
    intro value answered
    have replied : ((server platform).exchange store event statement).reply = .ok reply :=
      congrArg (fun result => result.1) delivered
    exact Except.ok.inj (answered.symm.trans replied)
  · left
    refine ⟨reply, after, executed, congrArg (fun result => result.2.2) delivered,
      congrArg (fun result => result.2.1) delivered, ?_⟩
    intro value answered
    have replied : ((server platform).exchange store event statement).reply = .error connectionLost :=
      congrArg (fun result => result.1) delivered
    cases answered.symm.trans replied
  · right
    refine ⟨congrArg (fun result => result.2.2) delivered, congrArg (fun result => result.2.1) delivered, ?_⟩
    intro value answered
    have replied : ((server platform).exchange store event statement).reply = .error error :=
      congrArg (fun result => result.1) delivered
    cases answered.symm.trans replied

theorem execute_quiet {shown db after : Database} {reply : statement.Reply} (quiet : statement.quiet = true)
    (executed : execute platform event shown db statement = .ok (reply, after)) :
    after.reversals = db.reversals ∧ after.ledger = db.ledger := by
  cases statement with
  | insertReversal | updateReversal | postReversal => cases quiet
  | terminalIdempotencyStatuses => grind [execute]
  | _ =>
    cases executed
    exact ⟨rfl, rfl⟩

theorem next_quiet (quiet : statement.quiet = true) :
    ((server platform).next store event statement).db.reversals = store.db.reversals ∧
      ((server platform).next store event statement).db.ledger = store.db.ledger := by
  obtain ⟨reply, after, executed, next, _⟩ | ⟨next, _⟩ :=
    @next_cases platform store event statement
  · have kept := execute_quiet quiet executed
    rw [next]
    exact kept
  · rw [next]
    exact ⟨rfl, rfl⟩

end Statement

/-! The stages of a call: nothing recorded yet, and a record behind those of the earlier calls. -/

structure Untouched (before store : Store) : Prop where
  reversals : store.db.reversals = before.db.reversals
  ledger : store.db.ledger = before.db.ledger
  past : ∀ db ∈ store.past, ∃ earlier ∈ before.db :: before.past, db.reversals = earlier.reversals

structure Stage (before : Store) (transaction : TransactionRow) (ledger : Ledger.Database) (record : ReversalRecord)
    (store : Store) : Prop where
  reversals : store.db.reversals = before.db.reversals ++ [record]
  number : record.id = before.db.reversals.length
  belongs : record.transactionId = transaction.id
  named : record.originalReference = transaction.referenceNumber.text
  ledger : store.db.ledger = ledger
  past : ∀ db ∈ store.past, (∃ earlier ∈ before.db :: before.past, db.reversals = earlier.reversals) ∨
    ∃ older, db.reversals = before.db.reversals ++ [older] ∧ older.id = record.id ∧
      (isTerminal older.status = true → older = record)

section Stage

variable {platform : Platform} {before store : Store} {event : Event} {statement : Statement}
variable {transaction : TransactionRow} {ledger : Ledger.Database} {record : ReversalRecord}

theorem Untouched.refl (before : Store) : Untouched before before :=
  ⟨rfl, rfl, fun db member => ⟨db, List.mem_cons_of_mem _ member, rfl⟩⟩

theorem Untouched.next (untouched : Untouched before store) (quiet : statement.quiet = true) :
    Untouched before ((server platform).next store event statement) := by
  obtain ⟨reversals, ledger⟩ := @next_quiet platform store event statement quiet
  constructor
  · rw [reversals, untouched.reversals]
  · rw [ledger, untouched.ledger]
  · intro db member
    rw [next_past] at member
    rcases List.mem_cons.mp member with rfl | earlier
    · exact ⟨before.db, List.mem_cons_self, untouched.reversals⟩
    · exact untouched.past db earlier

section

variable (stage : Stage before transaction ledger record store)

include stage

theorem Stage.kept (reversals : ((server platform).next store event statement).db.reversals = store.db.reversals)
    (same : ((server platform).next store event statement).db.ledger = store.db.ledger) :
    Stage before transaction ledger record ((server platform).next store event statement) := by
  constructor
  · rw [reversals, stage.reversals]
  · exact stage.number
  · exact stage.belongs
  · exact stage.named
  · rw [same, stage.ledger]
  · intro db member
    rw [next_past] at member
    rcases List.mem_cons.mp member with rfl | earlier
    · exact .inr ⟨record, stage.reversals, rfl, fun _ => rfl⟩
    · exact stage.past db earlier

theorem Stage.next (quiet : statement.quiet = true) :
    Stage before transaction ledger record ((server platform).next store event statement) := by
  obtain ⟨reversals, same⟩ := @next_quiet platform store event statement quiet
  exact stage.kept reversals same

theorem Stage.untaken (untaken : ((server platform).exchange store event statement).tookEffect = false) :
    Stage before transaction ledger record ((server platform).next store event statement) := by
  obtain ⟨_, _, _, _, taken, _⟩ | ⟨next, _⟩ := @next_cases platform store event statement
  · rw [untaken] at taken
    cases taken
  · apply stage.kept
    · rw [next]
      rfl
    · rw [next]
      rfl

end

theorem taken_of_answered {value : statement.Reply}
    (answered : ((server platform).exchange store event statement).reply = .ok value) :
    ((server platform).exchange store event statement).tookEffect = true := by
  obtain ⟨_, _, _, _, taken, _⟩ | ⟨_, _, unanswered⟩ := @next_cases platform store event statement
  · exact taken
  · exact (unanswered value answered).elim

theorem Stage.keeps {α : Type} {script : Work α} (stage : Stage before transaction ledger record store)
    (asks : script.Asks Quiet) :
    (server platform).Ensures store script fun execution => Stage before transaction ledger record execution.state :=
  Server.Ensures.keeps _ asks (fun _ _ _ quiet stage => stage.next quiet) stage

section

variable (consistent : Consistent platform before) (stage : Stage before transaction ledger record store)
  (unfinished : isTerminal record.status = false)

include consistent stage unfinished

theorem Stage.seen_open {found : ReversalRecord} (member : found ∈ (store.seen event).reversals) (own : found.id = record.id) :
    isTerminal found.status = false := by
  have older : ∀ earlier ∈ before.db :: before.past, found ∉ earlier.reversals := by
    intro earlier there inside
    have bound : found.id < before.db.reversals.length := by
      rcases List.mem_cons.mp there with rfl | past
      · obtain ⟨position, place⟩ := List.mem_iff_getElem?.mp inside
        rw [consistent.numbered position found place]
        exact (List.getElem?_eq_some_iff.mp place).1
      · exact consistent.earlier earlier past found inside
    rw [own, stage.number] at bound
    exact Nat.lt_irrefl _ bound
  have appended : ∀ last : ReversalRecord, found ∈ before.db.reversals ++ [last] → found = last := by simp_all
  rcases @seen_mem store event with now | past
  · rw [now] at member
    change found ∈ store.db.reversals at member
    rw [stage.reversals] at member
    rw [appended record member]
    exact unfinished
  · rcases stage.past _ past with ⟨earlier, there, same⟩ | ⟨last, same, _, kept⟩
    · simp_all
    · grind

theorem Stage.update {status : ReversalStatus} {detail : Detail} {moved : ReversalRecord}
    (is : moved = (store.db.wait event.elapsed).moved record status detail)
    (taken : ((server platform).exchange store event (.updateReversal record.id status detail)).tookEffect = true) :
    Stage before transaction ledger moved
      ((server platform).next store event (.updateReversal record.id status detail)) := by
  obtain ⟨reply, after, executed, next, _⟩ | ⟨_, untaken, _⟩ :=
    @next_cases platform store event (.updateReversal record.id status detail)
  · cases executed
    have reversals : ((server platform).next store event (.updateReversal record.id status detail)).db.reversals =
        before.db.reversals ++ [moved] := by
      rw [next]
      change store.db.reversals.map _ = _
      rw [stage.reversals, List.map_append, List.map_singleton, if_pos rfl, ← is]
      congr 1
      refine (List.map_congr_left fun other member => if_neg ?_).trans (List.map_id' _)
      intro own
      obtain ⟨position, place⟩ := List.mem_iff_getElem?.mp member
      have bound := (List.getElem?_eq_some_iff.mp place).1
      rw [consistent.numbered position other place, stage.number] at own
      exact Nat.ne_of_lt bound own
    constructor
    · exact reversals
    · rw [is]
      exact stage.number
    · rw [is]
      exact stage.belongs
    · rw [is]
      exact stage.named
    · rw [next]
      exact stage.ledger
    · intro db member
      rw [next_past] at member
      rcases List.mem_cons.mp member with rfl | earlier
      · right
        refine ⟨record, stage.reversals, by rw [is]; rfl, ?_⟩
        intro terminal
        rw [unfinished] at terminal
        cases terminal
      · rcases stage.past db earlier with early | ⟨older, same, number, kept⟩
        · exact .inl early
        · right
          refine ⟨older, same, by rw [number, is]; rfl, ?_⟩
          intro terminal
          have same := kept terminal
          rw [same, unfinished] at terminal
          cases terminal
  · rw [untaken] at taken
    cases taken

theorem transition_stage (status : ReversalStatus) (actorId : Option String) (detail : Detail) :
    (server platform).Ensures store (transition record.id status actorId detail) fun execution =>
      ∃ moved, Stage before transaction ledger moved execution.state ∧
        (moved.status = status ∨ moved = record ∧ ∃ error, execution.outcome = .error error) := by
  apply Server.Ensures.call_bind
  · intro event error raised
    exact ⟨record, stage.next rfl, .inr ⟨rfl, error, rfl⟩⟩
  · intro event (current : Option ReversalRecord) answered
    have opened : (current.any fun found => isTerminal found.status) = false := by
      obtain ⟨reply, after, executed, _, _, replied⟩ | ⟨_, _, unanswered⟩ :=
        @next_cases platform store event (.selectReversal record.id)
      · obtain rfl : current = reply := replied current answered
        cases executed
        cases found : (store.seen event).reversals.find? fun found => found.id = record.id with
        | none => rfl
        | some found =>
          apply stage.seen_open consistent unfinished (List.mem_of_find?_eq_some found)
          have own := List.find?_some found
          exact of_decide_eq_true own
      · exact (unanswered current answered).elim
    rw [if_neg (Bool.eq_false_iff.mp opened)]
    have reading := @Stage.next platform _ _ event (.selectReversal record.id) _ _ _ stage rfl
    apply Server.Ensures.call_bind
    · intro second error raised
      cases taken : ((server platform).exchange ((server platform).next store event (.selectReversal record.id))
          second (.updateReversal record.id status detail)).tookEffect with
      | true => exact ⟨_, reading.update consistent unfinished rfl taken, .inl rfl⟩
      | false => exact ⟨record, reading.untaken taken, .inr ⟨rfl, error, rfl⟩⟩
    · intro second value answered
      have moved := reading.update consistent unfinished rfl (taken_of_answered answered)
      refine (moved.keeps (appendAuditEvent_asks (fun _ => rfl) _)).weaken ?_
      intro execution stage
      exact ⟨_, stage, .inl rfl⟩

end

theorem isTerminal_posted {status : ReversalStatus} (posted : status = .posted) : isTerminal status = false := by
  rw [posted]
  rfl

theorem complete_stage (consistent : Consistent platform before)
    (stage : Stage before transaction ledger record store) (unfinished : isTerminal record.status = false)
    (upper : String → String) (reason : String) (actorId : Option String) (reversal : Ledger.ReversalResult) :
    (server platform).Ensures store (complete upper transaction reason actorId record.id reversal) fun execution =>
      ∀ value, execution.outcome = .ok value →
        ∃ moved, Stage before transaction ledger moved execution.state ∧ moved.status.Succeeded := by
  have updating : (whenever (transaction.status ≠ .reversed) (updateStatus transaction.id .reversed none none)).Asks
      Quiet := by
    apply whenever_asks
    apply updateStatus_asks
    · intro userId
      rfl
    · intro effect
      rfl
    · rfl
  refine Server.Ensures.bind (stage.keeps updating) ?_ ?_
  · intro execution error _ _ value same
    cases same
  intro updated _ reached _
  refine Server.Ensures.bind (transition_stage consistent reached unfinished _ _ _) ?_ ?_
  · intro execution error _ _ value same
    cases same
  rintro posting _ ⟨posted, reached, moved⟩ returned
  have isPosted : posted.status = .posted := by
    rcases moved with moved | ⟨_, error, raised⟩
    · exact moved
    · cases raised.symm.trans returned
  have same : posted.id = record.id := reached.number.trans stage.number.symm
  refine Server.Ensures.bind (reached.keeps (notifyReversal_asks (fun _ => rfl) _ _ _ _ _)) ?_ ?_
  · intro execution error _ _ value same
    cases same
  intro notifying notified reached _
  have noticing : (server platform).Ensures notifying.state
      (whenever (notified = true) (transition record.id .notified actorId .empty)) fun execution =>
        ∃ moved, Stage before transaction ledger moved execution.state ∧ moved.status.Succeeded := by
    unfold whenever
    split
    · rw [← same]
      refine (transition_stage consistent reached (isTerminal_posted isPosted) _ _ _).weaken ?_
      rintro execution ⟨moved, stage, status | ⟨rfl, _⟩⟩
      · exact ⟨moved, stage, .inr status⟩
      · exact ⟨_, stage, .inl isPosted⟩
    · apply Server.Ensures.done
      exact ⟨posted, reached, .inl isPosted⟩
  refine Server.Ensures.bind noticing ?_ ?_
  · intro execution error _ _ value same
    cases same
  rintro noticed _ ⟨moved, reached, succeeded⟩ _
  apply Server.Ensures.call_bind
  · intro event error _ value same
    cases same
  intro event found _
  apply Server.Ensures.call_bind
  · intro second error _ value same
    cases same
  intro second shown _
  apply Server.Ensures.done
  intro value _
  exact ⟨moved, (reached.next rfl).next rfl, succeeded⟩

/-! After the posting, a call returns if it is answered. -/

def Relied (statement : Statement) : Prop :=
  statement.caught = false

abbrev Calm {α : Type} (script : Work α) : Prop :=
  script.Calm (fun _ => True) Relied

theorem calm_ask_bind {statement : Statement} {α : Type} {next : statement.Reply → Work α} (relied : Relied statement)
    (rest : ∀ value, Calm (next value)) : Calm ((ask statement).bind next) :=
  Script.Calm.bind (.call trivial relied) rest

theorem calm_whenever {condition : Prop} [Decidable condition] {work : Work Unit} (calm : Calm work) :
    Calm (whenever condition work) := by
  unfold whenever
  by_cases holds : condition
  · rw [if_pos holds]
    exact calm
  · rw [if_neg holds]
    exact .done ()

theorem calm_ignoring {statement : Statement} : Calm (Script.ignoringErrors (ask statement)) :=
  .ignoringErrors (.call trivial)

theorem announce_calm (id : String) (status : Queue.TransactionStatus) (row : TransactionRow) :
    Calm (announce id status row) := by
  have user : Calm (invalidateUser row.userId) := by
    unfold invalidateUser
    cases Text.truthy row.userId with
    | none => exact .done ()
    | some userId => exact calm_ignoring
  have stats : Calm (invalidateStats row.provider) := by
    unfold invalidateStats
    split
    · exact calm_ignoring
    · exact calm_ignoring
  apply user.bind fun _ => stats.bind fun _ => ?_
  apply calm_ask_bind
  · rfl
  intro (terminal : List Queue.TransactionStatus)
  apply (calm_whenever calm_ignoring).bind
  intro _
  apply calm_ask_bind
  · rfl
  intro _
  apply calm_ask_bind
  · rfl
  intro _
  apply calm_ask_bind
  · rfl
  intro _
  exact .done ()

theorem reversed_calm (id : String) : Calm (updateStatus id .reversed none none) := by
  apply calm_ask_bind
  · rfl
  intro (updated : Option TransactionRow)
  cases updated with
  | none => exact .done ()
  | some row => exact announce_calm _ _ row

theorem transition_calm (reversalId : ℕ) (status : ReversalStatus) (actorId : Option String) (detail : Detail) :
    Calm (transition reversalId status actorId detail) := by
  apply calm_ask_bind
  · rfl
  intro (current : Option ReversalRecord)
  split
  · exact .done ()
  · apply calm_ask_bind
    · rfl
    intro _
    exact calm_ignoring

theorem notifyReversal_calm (upper : String → String) (transaction : TransactionRow) (reason reference : String)
    (reversalId : ℕ) : Calm (notifyReversal upper transaction reason reference reversalId) := by
  unfold notifyReversal
  cases Text.truthy transaction.userId with
  | none => exact .done false
  | some userId =>
    refine ⟨trivial, fun _ => .done true, fun _ => ⟨trivial, fun _ => .done false⟩⟩

theorem complete_calm (upper : String → String) (transaction : TransactionRow) (reason : String)
    (actorId : Option String) (reversalId : ℕ) (reversal : Ledger.ReversalResult) :
    Calm (complete upper transaction reason actorId reversalId reversal) := by
  apply (calm_whenever (reversed_calm _)).bind
  intro _
  apply (transition_calm _ _ _ _).bind
  intro _
  apply (notifyReversal_calm _ _ _ _ _).bind
  intro notified
  apply (calm_whenever (transition_calm _ _ _ _)).bind
  intro _
  apply calm_ask_bind
  · rfl
  intro _
  apply calm_ask_bind
  · rfl
  intro _
  exact .done _

/-! The whole call. -/

/-- The ledger holds the compensating entries of the transaction, and no other entries were added. -/
def Posts (platform : Platform) (transaction : TransactionRow) (earlier later : Ledger.Database) : Prop :=
  ∃ uuid, platform.ledger.uuid transaction.id = some uuid ∧
    later.existing uuid (reversalReference transaction.referenceNumber.text) ≠ [] ∧
    ∃ rows, later.entries = earlier.entries ++ rows ∧ ∀ row ∈ rows, row.transactionId = some uuid ∧
      row.referenceNumber.text = reversalReference transaction.referenceNumber.text

theorem reversalReference_length (transaction : TransactionRow) :
    (reversalReference transaction.referenceNumber.text).length ≤ 50 := by
  have fits := transaction.referenceNumber.fits
  simp only [reversalReference, String.length_append]
  have four : "REV-".length = 4 := by decide
  omega

theorem execute_post {args : Ledger.ReversalArgs} {shown db after : Database} {reply : Ledger.ReversalResult}
    (executed : execute platform event shown db (.postReversal args) = .ok (reply, after)) :
    Ledger.postReversal platform.ledger event.moment args db.ledger = .ok reply after.ledger ∧
      after.reversals = db.reversals := by
  cases posted : Ledger.postReversal platform.ledger event.moment args db.ledger with
  | ok value later => grind [execute]
  | error message later => simp_all [execute]

theorem Stage.posted (stage : Stage before transaction ledger record store) {args : Ledger.ReversalArgs}
    (own : args.transactionId = transaction.id) (named : args.referenceNumber = transaction.referenceNumber.text)
    (taken : ((server platform).exchange store event (.postReversal args)).tookEffect = true) :
    ∃ later, Posts platform transaction ledger later ∧
      Stage before transaction later record ((server platform).next store event (.postReversal args)) := by
  obtain ⟨reply, after, executed, next, _⟩ | ⟨_, untaken, _⟩ := @next_cases platform store event (.postReversal args)
  · obtain ⟨posted, reversals⟩ := execute_post executed
    have ledgerThen : (store.db.wait event.elapsed).ledger = ledger := stage.ledger
    rw [ledgerThen] at posted
    have short : (reversalReference args.referenceNumber).length ≤ 50 := by
      rw [named]
      exact reversalReference_length transaction
    have marks := Ledger.postReversal_marks short posted
    rw [own, named] at marks
    refine ⟨after.ledger, marks, ?_⟩
    constructor
    · rw [next, reversals]
      exact stage.reversals
    · exact stage.number
    · exact stage.belongs
    · exact stage.named
    · rw [next]
    · intro db member
      rw [next_past] at member
      rcases List.mem_cons.mp member with rfl | earlier
      · exact .inr ⟨record, stage.reversals, rfl, fun _ => rfl⟩
      · exact stage.past db earlier
  · rw [untaken] at taken
    cases taken

theorem attempt_ends (consistent : Consistent platform before)
    (stage : Stage before transaction ledger record store) (unfinished : isTerminal record.status = false)
    (upper : String → String) (reason : String) (actorId : Option String) :
    (server platform).Ensures store (attempt upper transaction reason actorId record.id) fun execution =>
      Stage before transaction ledger record execution.state ∧ (∃ error, execution.outcome = .error error) ∨
      ∃ post rest args later, execution.exchanges = post :: rest ∧ post.request = .postReversal args ∧
        post.tookEffect = true ∧ Posts platform transaction ledger later ∧
        ((∃ value, post.reply = .ok value) → Answers rest → ∃ value, execution.outcome = .ok value) ∧
        ∀ value, execution.outcome = .ok value →
          ∃ moved, Stage before transaction later moved execution.state ∧ moved.status.Succeeded := by
  apply Server.Ensures.call_bind
  · intro event error raised
    cases taken : ((server platform).exchange store event (.postReversal
        ⟨transaction.id, transaction.referenceNumber.text, reason, actorId⟩)).tookEffect with
    | false => exact .inl ⟨stage.untaken taken, error, rfl⟩
    | true =>
      obtain ⟨later, posts, _⟩ := stage.posted rfl rfl taken
      refine .inr ⟨_, [], _, later, rfl, rfl, taken, posts, ?_, ?_⟩
      · simp_all
      · intro value same
        cases same
  · intro event (reversal : Ledger.ReversalResult) answered
    have taken := taken_of_answered answered
    obtain ⟨later, posts, reached⟩ := stage.posted rfl rfl taken
    refine ((complete_stage consistent reached unfinished upper reason actorId reversal).both
      (Server.Ensures.calm (complete_calm upper transaction reason actorId record.id reversal))).weaken ?_
    rintro execution ⟨succeeds, returns⟩
    exact .inr ⟨_, execution.exchanges, _, later, rfl, rfl, taken, posts, fun _ answers => returns answers, succeeds⟩

/-- What an uncut call leaves: a record that has not succeeded and the ledger as it was, or one that has
and the posting. -/
def Leaves (platform : Platform) (before : Store) (transaction : TransactionRow) (ledger : Ledger.Database)
    (store : Store) : Prop :=
  ∃ moved, Stage before transaction ledger moved store ∧
    (ledger = before.db.ledger ∧ ¬moved.status.Succeeded ∨
      Posts platform transaction before.db.ledger ledger ∧ moved.status.Succeeded)

theorem guarded_ends (consistent : Consistent platform before)
    (stage : Stage before transaction before.db.ledger record store) (requested : record.status = .requested)
    (upper : String → String) (reason : String) (actorId : Option String) :
    (server platform).Ensures store (guarded upper transaction reason actorId record.id) fun execution =>
      Uncut execution.exchanges → ∃ ledger, Leaves platform before transaction ledger execution.state := by
  have unfinished : isTerminal record.status = false := by
    rw [requested]
    rfl
  refine Server.Ensures.catching (attempt_ends consistent stage unfinished upper reason actorId) ?_ ?_
  · rintro execution value (⟨_, error, raised⟩ | ⟨post, rest, args, later, _, _, _, posts, _, succeeds⟩) returned uncut
    · cases returned.symm.trans raised
    · obtain ⟨moved, reached, succeeded⟩ := succeeds value returned
      exact ⟨later, moved, reached, .inr ⟨posts, succeeded⟩⟩
  · rintro execution error (⟨reached, _⟩ | ⟨post, rest, args, later, exchanges, asked, taken, _, returns, _⟩) raised
    · have failing := transition_stage consistent reached unfinished .failed actorId
        { Detail.empty with error := some error }
      refine Server.Ensures.bind_done failing ?_
      rintro execution outcome ⟨moved, stage, status⟩ uncut
      refine ⟨_, moved, stage, .inl ⟨rfl, ?_⟩⟩
      rcases status with failed | ⟨rfl, _⟩
      · rw [failed]
        rintro (same | same) <;> cases same
      · rw [requested]
        rintro (same | same) <;> cases same
    · -- An answered attempt returns, so that there is nothing to catch.
      intro events second executed uncut
      obtain ⟨answered, answers⟩ := uncut [] post (rest ++ second.exchanges) args (by simp [exchanges]) asked taken
      obtain ⟨value, returned⟩ := returns answered fun exchange member =>
        answers exchange (List.mem_append_left _ member)
      cases raised.symm.trans returned

theorem Untouched.insert (untouched : Untouched before store) {reason : String} {requestedBy : Option String}
    (taken : ((server platform).exchange store event (.insertReversal transaction.id transaction.referenceNumber.text
      reason requestedBy)).tookEffect = true) :
    ∃ record, record.status = .requested ∧ Stage before transaction before.db.ledger record
      ((server platform).next store event
        (.insertReversal transaction.id transaction.referenceNumber.text reason requestedBy)) ∧
      ∀ value, ((server platform).exchange store event (.insertReversal transaction.id
        transaction.referenceNumber.text reason requestedBy)).reply = .ok value → value = record := by
  obtain ⟨inserted, after, executed, next, _, replied⟩ | ⟨_, untaken, _⟩ := @next_cases platform store event
    (.insertReversal transaction.id transaction.referenceNumber.text reason requestedBy)
  · cases executed
    refine ⟨_, rfl, ?_, replied⟩
    constructor
    · rw [next]
      exact congrArg (fun reversals => reversals ++ [_]) untouched.reversals
    · exact congrArg List.length untouched.reversals
    · rfl
    · rfl
    · rw [next]
      exact untouched.ledger
    · intro db member
      rw [next_past] at member
      rcases List.mem_cons.mp member with rfl | earlier
      · exact .inl ⟨before.db, List.mem_cons_self, untouched.reversals⟩
      · exact .inl (untouched.past db earlier)
  · rw [untaken] at taken
    cases taken

theorem Untouched.untaken (untouched : Untouched before store)
    (untaken : ((server platform).exchange store event statement).tookEffect = false) :
    Untouched before ((server platform).next store event statement) := by
  obtain ⟨_, _, _, _, taken, _⟩ | ⟨next, _⟩ := @next_cases platform store event statement
  · rw [untaken] at taken
    cases taken
  · constructor
    · rw [next]
      exact untouched.reversals
    · rw [next]
      exact untouched.ledger
    · intro db member
      rw [next_past] at member
      rcases List.mem_cons.mp member with rfl | earlier
      · exact ⟨before.db, List.mem_cons_self, untouched.reversals⟩
      · exact untouched.past db earlier

theorem uncut_after {first rest : List (Exchange Statement Statement.Reply String)} (uncut : Uncut (first ++ rest)) :
    Uncut rest := by
  intro earlier post later args split
  exact uncut (first ++ earlier) post later args (by simp [split])

/-- How an uncut call ends. -/
def Ends (platform : Platform) (before after : Store) : Prop :=
  Untouched before after ∨ ∃ transaction ledger, Leaves platform before transaction ledger after

/-- Nothing is recorded, or a record is requested, which is returned unless its answer was lost. -/
def Creates (before : Store) (transaction : TransactionRow)
    (execution : Execution Statement Statement.Reply String ReversalRecord Store) : Prop :=
  (∃ error, execution.outcome = .error error) ∧ Untouched before execution.state ∨
  ∃ record, record.status = .requested ∧ Stage before transaction before.db.ledger record execution.state ∧
    ∀ value, execution.outcome = .ok value → value = record

theorem createReversalRecord_creates (untouched : Untouched before store) (transaction : TransactionRow)
    (reason : String) (requestedBy : Option String) :
    (server platform).Ensures store (createReversalRecord transaction reason requestedBy)
      (Creates before transaction) := by
  apply Server.Ensures.call_bind
  · intro event error raised
    cases taken : ((server platform).exchange store event (.insertReversal transaction.id
        transaction.referenceNumber.text reason requestedBy)).tookEffect with
    | false => exact .inl ⟨⟨error, rfl⟩, untouched.untaken taken⟩
    | true =>
      obtain ⟨record, requested, stage, _⟩ := untouched.insert taken
      refine .inr ⟨record, requested, stage, ?_⟩
      intro value same
      cases same
  · intro event (created : ReversalRecord) answered
    obtain ⟨record, requested, stage, replied⟩ := untouched.insert (taken_of_answered answered)
    obtain rfl := replied created answered
    refine Server.Ensures.bind (stage.keeps (appendAuditEvent_asks (fun _ => rfl) _)) ?_ ?_
    · intro execution error stage _
      refine .inr ⟨created, requested, stage, ?_⟩
      intro value same
      cases same
    · intro execution _ stage _
      apply Server.Ensures.done
      refine .inr ⟨created, requested, stage, ?_⟩
      intro value same
      exact (Except.ok.inj same).symm

theorem reverseFound_ends (consistent : Consistent platform before) (untouched : Untouched before store)
    (upper : String → String) (transaction : TransactionRow) (reason : String) (actorId : Option String)
    (allowCompleted : Bool) :
    (server platform).Ensures store (reverseFound upper transaction reason actorId allowCompleted) fun execution =>
      Uncut execution.exchanges → Ends platform before execution.state := by
  unfold reverseFound
  by_cases already : transaction.status = .reversed
  · rw [if_pos already]
    apply Server.Ensures.call_bind
    · intro event error raised _
      exact .inl (untouched.next rfl)
    · intro event record answered
      apply Server.Ensures.done
      intro _
      exact .inl (untouched.next rfl)
  rw [if_neg already]
  split
  · apply Server.Ensures.done
    intro _
    exact .inl untouched
  refine Server.Ensures.bind (createReversalRecord_creates untouched transaction reason actorId) ?_ ?_
  · rintro execution error (⟨_, untouched⟩ | ⟨record, requested, stage, _⟩) raised _
    · exact .inl untouched
    · refine .inr ⟨transaction, _, record, stage, .inl ⟨rfl, ?_⟩⟩
      rw [requested]
      rintro (same | same) <;> cases same
  · rintro execution value (⟨⟨error, raised⟩, _⟩ | ⟨record, requested, stage, same⟩) returned
    · cases raised.symm.trans returned
    · obtain rfl := same value returned
      refine (guarded_ends consistent stage requested upper reason actorId).weaken ?_
      intro later ends uncut
      obtain ⟨ledger, leaves⟩ := ends (uncut_after uncut)
      exact .inr ⟨transaction, ledger, leaves⟩

theorem reverse_ends (consistent : Consistent platform before) (call : ReverseCall)
    {execution : Execution Statement Statement.Reply String TransactionReversalResult Store}
    (executed : call.executed platform before = some execution) (uncut : Uncut execution.exchanges) :
    Ends platform before execution.state := by
  have whole : (server platform).Ensures before
      (reverse platform.upper call.transactionId call.reason call.actorId call.allowCompleted) fun execution =>
        Uncut execution.exchanges → Ends platform before execution.state := by
    have untouched := Untouched.refl before
    apply Server.Ensures.call_bind
    · intro event error raised _
      exact .inl (untouched.next rfl)
    · intro event (found : Option TransactionRow) answered
      cases found with
      | none =>
        apply Server.Ensures.done
        intro _
        exact .inl (untouched.next rfl)
      | some transaction =>
        refine (reverseFound_ends consistent (untouched.next rfl) _ transaction _ _ _).weaken ?_
        intro later ends uncut
        exact ends (@uncut_after [_] _ uncut)
  exact whole _ execution executed uncut

end Stage

/-! What a call leaves is consistent. -/

section Consistent

variable {platform : Platform} {before after : Store} {transaction : TransactionRow}
variable {ledger : Ledger.Database} {record : ReversalRecord}

theorem existing_of_posts (posts : Posts platform transaction before.db.ledger ledger) (uuid : Uuid) (reference : String) :
    ledger.existing uuid (reversalReference reference) ≠ [] ↔
      before.db.ledger.existing uuid (reversalReference reference) ≠ [] ∨
        platform.ledger.uuid transaction.id = some uuid ∧ transaction.referenceNumber.text = reference := by
  obtain ⟨own, identified, posted, rows, appended, stamped⟩ := posts
  have split : ledger.existing uuid (reversalReference reference) =
      before.db.ledger.existing uuid (reversalReference reference) ++ rows.filter fun row =>
        row.transactionId = some uuid ∧ row.referenceNumber.text = reversalReference reference := by
    unfold Ledger.Database.existing
    rw [appended, List.filter_append]
  constructor
  · intro found
    by_cases earlier : before.db.ledger.existing uuid (reversalReference reference) = []
    · simp_all [List.nil_append, reversalReference]
    · exact .inl earlier
  · rintro (earlier | ⟨same, rfl⟩)
    · rw [split]
      simp [earlier]
    · simp_all

theorem getElem?_snoc {records : List ReversalRecord} {last found : ReversalRecord} {position : ℕ}
    (place : (records ++ [last])[position]? = some found) :
    records[position]? = some found ∧ position < records.length ∨ position = records.length ∧ found = last := by
  rcases getElem?_append_singleton place with earlier | own
  · exact .inl ⟨earlier, (List.getElem?_eq_some_iff.mp earlier).1⟩
  · exact .inr own

theorem Consistent.of_earlier (consistent : Consistent platform before) {earlier : Database}
    (there : earlier ∈ before.db :: before.past) {position : ℕ} (place : earlier.reversals[position]? = some record) :
    record.id < before.db.reversals.length ∧
      (isTerminal record.status = true → before.db.reversals[position]? = some record) := by
  rcases List.mem_cons.mp there with rfl | past
  · constructor
    · rw [consistent.numbered position record place]
      exact (List.getElem?_eq_some_iff.mp place).1
    · intro _
      exact place
  · constructor
    · exact consistent.earlier earlier past record (List.mem_of_getElem? place)
    · exact consistent.final earlier past position record place

theorem Stage.agrees (consistent : Consistent platform before) (stage : Stage before transaction ledger record after)
    (ends : ledger = before.db.ledger ∧ ¬record.status.Succeeded ∨
      Posts platform transaction before.db.ledger ledger ∧ record.status.Succeeded) (uuid : Uuid) (reference : String) :
    Agrees platform after.db uuid reference := by
  have agreed := consistent.agrees uuid reference
  unfold Agrees at agreed ⊢
  rw [stage.reversals, stage.ledger]
  have split : (∃ found ∈ before.db.reversals ++ [record], platform.ledger.uuid found.transactionId = some uuid ∧
      found.originalReference = reference ∧ found.status.Succeeded) ↔
      (∃ found ∈ before.db.reversals, platform.ledger.uuid found.transactionId = some uuid ∧
        found.originalReference = reference ∧ found.status.Succeeded) ∨
      platform.ledger.uuid transaction.id = some uuid ∧ transaction.referenceNumber.text = reference ∧
        record.status.Succeeded := by
    rw [← stage.belongs, ← stage.named]
    constructor
    · simp
    · simp
  rw [split, agreed]
  rcases ends with ⟨rfl, unfinished⟩ | ⟨posts, succeeded⟩
  · simp [unfinished]
  · rw [existing_of_posts posts]
    simp [succeeded]

theorem Stage.final (consistent : Consistent platform before) (stage : Stage before transaction ledger record after) : Final after := by
  intro db member position found place terminal
  rw [stage.reversals]
  have kept : before.db.reversals[position]? = some found →
      (before.db.reversals ++ [record])[position]? = some found := by
    intro early
    rw [List.getElem?_append_left (List.getElem?_eq_some_iff.mp early).1]
    exact early
  rcases stage.past db member with ⟨earlier, there, same⟩ | ⟨older, same, _, last⟩
  · rw [same] at place
    exact kept ((consistent.of_earlier there place).2 terminal)
  · grind

theorem Stage.consistent (consistent : Consistent platform before) (stage : Stage before transaction ledger record after)
    (ends : ledger = before.db.ledger ∧ ¬record.status.Succeeded ∨
      Posts platform transaction before.db.ledger ledger ∧ record.status.Succeeded) : Consistent platform after := by
  have longer : after.db.reversals.length = before.db.reversals.length + 1 := by
    rw [stage.reversals]
    simp
  constructor
  · intro position found place
    rw [stage.reversals] at place
    rcases getElem?_snoc place with ⟨early, _⟩ | ⟨rfl, rfl⟩
    · exact consistent.numbered position found early
    · exact stage.number
  · intro db member found inside
    obtain ⟨position, place⟩ := List.mem_iff_getElem?.mp inside
    rw [longer]
    rcases stage.past db member with ⟨earlier, there, same⟩ | ⟨older, same, number, _⟩
    · rw [same] at place
      exact Nat.lt_succ_of_lt (consistent.of_earlier there place).1
    · rw [same] at place
      rcases getElem?_snoc place with ⟨early, _⟩ | ⟨_, rfl⟩
      · exact Nat.lt_succ_of_lt (consistent.of_earlier List.mem_cons_self early).1
      · rw [number, stage.number]
        exact Nat.lt_succ_self _
  · exact stage.final consistent
  · exact stage.agrees consistent ends

theorem Untouched.consistent (consistent : Consistent platform before) (untouched : Untouched before after) :
    Consistent platform after := by
  constructor
  · intro position found place
    rw [untouched.reversals] at place
    exact consistent.numbered position found place
  · intro db member found inside
    obtain ⟨position, place⟩ := List.mem_iff_getElem?.mp inside
    obtain ⟨earlier, there, same⟩ := untouched.past db member
    rw [same] at place
    rw [untouched.reversals]
    exact (consistent.of_earlier there place).1
  · intro db member position found place terminal
    obtain ⟨earlier, there, same⟩ := untouched.past db member
    rw [same] at place
    rw [untouched.reversals]
    exact (consistent.of_earlier there place).2 terminal
  · intro uuid reference
    unfold Agrees
    rw [untouched.reversals, untouched.ledger]
    exact consistent.agrees uuid reference

theorem Elsewhere.consistent (consistent : Consistent platform before) (moved : Elsewhere before after) :
    Consistent platform after := by
  constructor
  · intro position found place
    rw [moved.records] at place
    exact consistent.numbered position found place
  · intro db member found inside
    obtain ⟨position, place⟩ := List.mem_iff_getElem?.mp inside
    rw [moved.history] at member
    rw [moved.records]
    exact (consistent.of_earlier member place).1
  · intro db member position found place terminal
    rw [moved.history] at member
    rw [moved.records]
    exact (consistent.of_earlier member place).2 terminal
  · intro uuid reference
    unfold Agrees
    rw [moved.records, moved.postings]
    exact consistent.agrees uuid reference

theorem Ends.finished (consistent : Consistent platform before) (ends : Ends platform before after) :
    Consistent platform after ∧ Finished platform before after := by
  rcases ends with untouched | ⟨transaction, ledger, record, stage, ends⟩
  · have later := untouched.consistent consistent
    refine ⟨later, later.agrees, ?_, later.final⟩
    intro position record beyond place
    rw [untouched.reversals, List.getElem?_eq_none beyond] at place
    cases place
  · have later := stage.consistent consistent ends
    refine ⟨later, later.agrees, ?_, later.final⟩
    intro position found beyond place failed
    rw [stage.reversals] at place
    rcases getElem?_snoc place with ⟨_, bound⟩ | ⟨_, rfl⟩
    · exact (Nat.not_lt_of_le beyond bound).elim
    · rcases ends with ⟨same, _⟩ | ⟨_, succeeded⟩
      · rw [stage.ledger, same]
      · rw [failed] at succeeded
        rcases succeeded with same | same <;> cases same

end Consistent

theorem consistent_of_fresh {platform : Platform} {store : Store} (unrecorded : store.db.reversals = [])
    (never : ∀ db ∈ store.past, db.reversals = [])
    (unposted : ∀ row ∈ store.db.ledger.entries, ∀ reference, row.referenceNumber.text ≠ reversalReference reference) :
    Consistent platform store := by
  constructor
  · simp_all
  · simp_all
  · intro db member position record place
    rw [never db member] at place
    cases place
  · intro uuid reference
    have none : store.db.ledger.existing uuid (reversalReference reference) = [] := by
      apply List.filter_eq_nil_iff.mpr
      intro row member fits
      exact unposted row member reference (of_decide_eq_true fits).2
    simp [Agrees, unrecorded, none]

theorem uncut_of_answered {exchanges : List (Exchange Statement Statement.Reply String)}
    (answered : exchanges.all (fun exchange => exchange.reply.toBool) = true) : Uncut exchanges := by
  have every : ∀ exchange ∈ exchanges, ∃ value, exchange.reply = .ok value := by
    intro exchange member
    have ok := List.all_eq_true.mp answered exchange member
    cases reply : exchange.reply with
    | ok value => exact ⟨value, rfl⟩
    | error error =>
      rw [reply] at ok
      cases ok
  rintro first post rest args rfl _ _
  exact ⟨every post (by simp), fun exchange member _ => every exchange (by simp [member])⟩

/-- A disputed withdrawal whose entries are in the ledger. -/
def disputed : Store :=
  ⟨⟨0, [⟨"t", ⟨"TXN-1", by decide⟩, "withdraw", "100", "mtn", some "u", .dispute, 0⟩], Ledger.withdrawn, [], [], .empty⟩,
    []⟩

def reversalCall (count : ℕ) : ReverseCall :=
  ⟨"t", "duplicate", none, false, List.replicate count
    ⟨0, none, 0, Ledger.momentWith [4, 5, 6], none, ⟨false, none⟩⟩⟩

def sampleWith (statuses : Option (List Queue.TransactionStatus)) : Platform :=
  ⟨Ledger.simpleServer, String.toUpper, ⟨12, 3, 3⟩, statuses⟩

theorem disputed_consistent (platform : Platform) : Consistent platform disputed := by
  apply consistent_of_fresh
  · rfl
  · nofun
  · have named : ∀ row ∈ disputed.db.ledger.entries, row.referenceNumber.text = "TXN-1" := by decide +kernel
    intro row member reference same
    rw [named row member] at same
    have chars := congrArg String.toList same
    simp [reversalReference] at chars

end ProxyPay.Transactions
