import ProxyPay.BridgePayouts.Payments

/-! A completed record stays, and a record keeps the payment it names, where every update finds the record as its call read
it. -/

namespace ProxyPay.BridgePayouts

open ProxyPay.Library ProxyPay.Library.Text

/-- No completed record was changed. -/
def CompletedStays (bridge : Bridge) : Prop :=
  ∀ write ∈ bridge.writes, write.stored.status = .completed → write.written = write.stored

/-- No payment that a record names was replaced by another. -/
def PaymentStays (bridge : Bridge) : Prop :=
  ∀ write ∈ bridge.writes, ∀ id, write.stored.providerPaymentId = some id → write.written.providerPaymentId = some id

/-- The record that the call will write. -/
def Phase.written : Phase → Option Sep31TransactionRecord
  | .recording record => some record
  | .failing record => some record
  | .recordingAgain record => some record
  | .completing record => some record
  | _ => none

/-- An update finds the record as its call read it. -/
def isFresh (before : Bridge) : Label → Bool
  | .next index => before.calls[index]?.all fun call => call.phase.written.isNone || before.find call = call.read
  | _ => true

/-- The record is neither paid nor names a payment. -/
def Sep31TransactionRecord.IsOpen (record : Sep31TransactionRecord) : Prop :=
  record.status.isPaid = false ∧ record.providerPaymentId = none

/-- A record may take the place of another. -/
structure Replaces (read written : Sep31TransactionRecord) : Prop where
  uncompleted : read.status ≠ .completed
  payment : ∀ id, read.providerPaymentId = some id → written.providerPaymentId = some id
  unnamed : written.status.isPaid = false → written.providerPaymentId = none

/-- What the call has read, for what it will write. -/
def Call.Reads (call : Call) : Prop :=
  match call.phase with
  | .paying record => call.read = some record ∧ record.IsOpen ∧ record.reference = call.reference
  | .looking => ∃ read, call.read = some read ∧ read.IsOpen
  | .payingAgain => ∃ read, call.read = some read ∧ read.IsOpen
  | .recording record => record.reference = call.reference ∧ record.status.isPaid = true ∧
      ∃ read, call.read = some read ∧ read.IsOpen
  | .recordingAgain record => record.reference = call.reference ∧ ∃ read, call.read = some read ∧ Replaces read record
  | .failing record => record.reference = call.reference ∧ ∃ read, call.read = some read ∧ Replaces read record
  | .completing record => record.reference = call.reference ∧ ∃ read, call.read = some read ∧ Replaces read record
  | _ => True

structure Stable (bridge : Bridge) : Prop where
  own : ∀ reference record, bridge.store.get? reference = some record → record.reference = reference
  unnamed : ∀ reference record, bridge.store.get? reference = some record → record.status.isPaid = false →
    record.providerPaymentId = none
  reads : ∀ call ∈ bridge.calls, call.Reads
  completed : CompletedStays bridge
  payments : PaymentStays bridge

variable {before after : Bridge} {label : Label} {index : ℕ} {call : Call} {record read : Sep31TransactionRecord}
variable {reference : String}

theorem Sep31TransactionRecord.IsOpen.replaces (isOpen : read.IsOpen)
    (unnamed : record.status.isPaid = false → record.providerPaymentId = none) : Replaces read record where
  uncompleted := by
    intro completed
    have unpaid := isOpen.1
    rw [completed] at unpaid
    cases unpaid
  payment id named := by
    rw [isOpen.2] at named
    cases named
  unnamed := unnamed

theorem reads_of_phase {phase : Phase} (reads : call.Reads) (here : call.phase = phase) :
    Call.Reads { call with phase := phase } := by
  subst here
  exact reads

theorem Stable.put (stable : Stable before) (new : Call) (reads : new.Reads) : Stable (before.put index new) where
  own := stable.own
  unnamed := stable.unnamed
  reads other member := by
    cases List.mem_or_eq_of_mem_set member with
    | inl earlier => exact stable.reads other earlier
    | inr here =>
      subst here
      exact reads
  completed := stable.completed
  payments := stable.payments

theorem Stable.goOn (stable : Stable before) (phase : Phase) (reads : Call.Reads { call with phase := phase }) :
    Stable (before.goOn index call phase) :=
  stable.put { call with phase := phase } reads

theorem Stable.update (stable : Stable before) (own : record.reference = call.reference) (there : call.read = some read)
    (replaces : Replaces read record) (fresh : before.find call = call.read) : Stable (before.update record) := by
  have stored : before.store.get? record.reference = some read := by
    rw [own]
    exact fresh.trans there
  have writes : (before.update record).writes = before.writes ++ [⟨read, record⟩] := by
    unfold Bridge.update
    rw [stored]
    rfl
  constructor
  · intro reference other found
    rw [get?_update] at found
    split at found
    · simp_all
    · exact stable.own reference other found
  · intro reference other found unpaid
    rw [get?_update] at found
    split at found
    · cases found
      exact replaces.unnamed unpaid
    · exact stable.unnamed reference other found unpaid
  · exact stable.reads
  · intro write member completed
    rw [writes] at member
    cases List.mem_append.mp member with
    | inl earlier => exact stable.completed write earlier completed
    | inr here =>
      cases List.mem_singleton.mp here
      exact absurd completed replaces.uncompleted
  · intro write member id named
    rw [writes] at member
    cases List.mem_append.mp member with
    | inl earlier => exact stable.payments write earlier id named
    | inr here =>
      cases List.mem_singleton.mp here
      exact replaces.payment id named

theorem fresh_of_isFresh (found : before.calls[index]? = some call) (valid : isFresh before (.next index) = true)
    (writes : call.phase.written = some record) : before.find call = call.read := by
  simp only [isFresh, found, Option.all_some, writes, Option.isNone_some, Bool.false_or, decide_eq_true_eq] at valid
  exact valid

section

variable (stable : Stable before)

include stable

theorem Stable.check (own : record.reference = call.reference)
    (unnamed : record.status.isPaid = false → record.providerPaymentId = none) : Stable (before.check index call record) := by
  unfold Bridge.check
  split
  · exact stable.goOn _ trivial
  · rename_i unpaid
    have unpaid : record.status.isPaid = false := Bool.eq_false_iff.mpr unpaid
    exact stable.put { call with phase := .paying record, read := some record } ⟨rfl, ⟨unpaid, unnamed unpaid⟩, own⟩

theorem Stable.reconcile (own : record.reference = call.reference) (providerPaymentId : String) :
    Stable (before.reconcile index call record providerPaymentId) := by
  unfold Bridge.reconcile
  split
  · exact stable.goOn _ trivial
  · rename_i uncompleted
    split
    · exact stable.goOn _ trivial
    · refine stable.put _ ⟨own, record, rfl, uncompleted, ?_, ?_⟩
      · intro id named
        rw [named]
        rfl
      · nofun

theorem Stable.create : Stable (before.create index call) := by
  unfold Bridge.create
  split
  · exact stable.goOn _ trivial
  · rename_i absent
    simp only
    refine Stable.check ?_ rfl fun _ => rfl
    have other : ∀ reference record,
        (before.store.set call.reference ⟨call.reference, .pending, none⟩).get? reference = some record →
          record = ⟨call.reference, .pending, none⟩ ∧ call.reference = reference ∨
            before.store.get? reference = some record := by
      intro reference record found
      rw [InsertionMap.get?_set] at found
      split at found
      · rename_i same
        cases found
        exact .inl ⟨rfl, same⟩
      · exact .inr found
    refine ⟨?_, ?_, stable.reads, stable.completed, stable.payments⟩
    · intro reference record found
      cases other reference record found with
      | inl here => exact here.1 ▸ here.2
      | inr earlier => exact stable.own reference record earlier
    · intro reference record found unpaid
      cases other reference record found with
      | inl here =>
        rw [here.1]
      | inr earlier => exact stable.unnamed reference record earlier unpaid

theorem Stable.write (call : Call) (own : record.reference = call.reference) (there : call.read = some read)
    (replaces : Replaces read record) (fresh : before.find call = call.read) (outcome : Outcome) (marks : List ℕ) :
    Stable { (before.update record).goOn index call (.over outcome) with marks := marks } := by
  have updated : Stable ((before.update record).goOn index call (.over outcome)) :=
    (stable.update own there replaces fresh).goOn (.over outcome) trivial
  exact ⟨updated.own, updated.unnamed, updated.reads, updated.completed, updated.payments⟩

theorem Stable.operate (found : before.calls[index]? = some call)
    (valid : isFresh before (.next index) = true) (done : before.operate index call = some after) : Stable after := by
  have reads := stable.reads call (List.mem_of_getElem? found)
  unfold Bridge.operate at done
  split at done
  · split at done
    · rename_i record read
      cases done
      exact stable.check (stable.own _ _ read) (stable.unnamed _ _ read)
    · cases done
      exact stable.goOn _ trivial
  · split at done
    · rename_i record read
      cases done
      exact stable.reconcile (stable.own _ _ read) _
    · cases done
      exact stable.goOn _ trivial
  · cases done
    exact stable.create
  · split at done
    · rename_i record read
      cases done
      exact stable.check (stable.own _ _ read) (stable.unnamed _ _ read)
    · cases done
      exact stable.goOn _ trivial
  · rename_i record phase
    cases done
    have fresh := fresh_of_isFresh found valid (by rw [phase]; rfl)
    obtain ⟨own, paid, read, there, isOpen⟩ := reads_of_phase reads phase
    have replaces : Replaces read record := isOpen.replaces fun unpaid => absurd (unpaid.symm.trans paid) (by decide)
    exact stable.write call own there replaces fresh _ _
  · rename_i record phase
    cases done
    have fresh := fresh_of_isFresh found valid (by rw [phase]; rfl)
    obtain ⟨own, read, there, replaces⟩ := reads_of_phase reads phase
    exact stable.write call own there replaces fresh _ _
  · rename_i record phase
    cases done
    have fresh := fresh_of_isFresh found valid (by rw [phase]; rfl)
    obtain ⟨own, read, there, replaces⟩ := reads_of_phase reads phase
    exact stable.write call own there replaces fresh _ _
  · rename_i phase
    obtain ⟨read, there, isOpen⟩ := reads_of_phase reads phase
    split at done
    · rename_i existing _
      cases done
      have replaces : Replaces read (Bridge.submitted call existing.id) := isOpen.replaces fun unpaid => by cases unpaid
      exact stable.goOn _ ⟨rfl, read, there, replaces⟩
    · cases done
      exact stable.goOn _ ⟨read, there, isOpen⟩
  · rename_i record phase
    cases done
    have fresh := fresh_of_isFresh found valid (by rw [phase]; rfl)
    obtain ⟨own, read, there, replaces⟩ := reads_of_phase reads phase
    exact stable.write call own there replaces fresh _ _
  · cases done

theorem Stable.execute (payload : CreatePaymentPayload) (id : String) : Stable (before.execute call payload id) :=
  ⟨stable.own, stable.unnamed, stable.reads, stable.completed, stable.payments⟩

theorem Stable.answer (found : before.calls[index]? = some call) {reply : Reply}
    (done : before.pay index call reply = some after) : Stable after := by
  have reads := stable.reads call (List.mem_of_getElem? found)
  unfold Bridge.pay at done
  split at done
  · rename_i record payload id phase _
    obtain ⟨there, isOpen, _⟩ := reads_of_phase reads phase
    cases done
    exact (stable.execute payload id).put _ ⟨rfl, rfl, record, there, isOpen⟩
  · rename_i record payload id _ _ phase _
    obtain ⟨there, isOpen, _⟩ := reads_of_phase reads phase
    cases done
    exact (stable.execute payload id).put _ ⟨record, there, isOpen⟩
  · rename_i record _ _ phase _
    obtain ⟨there, isOpen, own⟩ := reads_of_phase reads phase
    split at done
    · cases done
      exact stable.goOn _ ⟨record, there, isOpen⟩
    · cases done
      exact stable.goOn _ ⟨own, record, there, isOpen.replaces fun _ => isOpen.2⟩
  · rename_i payload id phase _
    obtain ⟨read, there, isOpen⟩ := reads_of_phase reads phase
    cases done
    have replaces : Replaces read (Bridge.submitted call id) := isOpen.replaces fun unpaid => by cases unpaid
    exact (stable.execute payload id).put _ ⟨rfl, read, there, replaces⟩
  · rename_i payload id _ _ _ _
    cases done
    exact (stable.execute payload id).put _ trivial
  · cases done
    exact stable.goOn _ trivial
  · cases done

theorem Stable.throw (found : before.calls[index]? = some call)
    (done : before.throw index call = some after) : Stable after := by
  have reads := stable.reads call (List.mem_of_getElem? found)
  unfold Bridge.throw at done
  split at done
  · cases done
    exact stable.goOn _ trivial
  · rename_i record phase
    cases done
    obtain ⟨_, _, read, there, isOpen⟩ := reads_of_phase reads phase
    exact stable.goOn _ ⟨read, there, isOpen⟩
  · cases done
  · cases done
  · cases done
  · cases done
    exact stable.goOn _ trivial

theorem Stable.append (reference : String) (task : Task) :
    Stable { before with calls := before.calls ++ [⟨reference, task, .finding, none, false⟩] } where
  own := stable.own
  unnamed := stable.unnamed
  reads call member := by
    cases List.mem_append.mp member with
    | inl earlier => exact stable.reads call earlier
    | inr here =>
      cases List.mem_singleton.mp here
      trivial
  completed := stable.completed
  payments := stable.payments

theorem Stable.step (valid : isFresh before label = true) (move : step before label after) : Stable after := by
  unfold BridgePayouts.step at move
  cases label with
  | submitSep31Payout reference payload =>
    cases move
    exact stable.append reference _
  | reconcileSep31Callback reference providerPaymentId =>
    cases move
    exact stable.append reference _
  | next index =>
    obtain ⟨call, found, done⟩ := Option.bind_eq_some_iff.mp move
    exact stable.operate found valid done
  | pay index reply =>
    obtain ⟨call, found, done⟩ := Option.bind_eq_some_iff.mp move
    exact stable.answer found done
  | fail index =>
    obtain ⟨call, found, done⟩ := Option.bind_eq_some_iff.mp move
    exact stable.throw found done

end

theorem stable_initial : Stable .initial := by
  constructor
  · nofun
  · nofun
  · intro call member
    cases member
  · intro write member
    cases member
  · intro write member
    cases member

variable {trace : List Label} {last : Bridge}

/-- What holds of payments and records along every run. -/
theorem records_follow (run : Run step .initial trace last) :
    (Throughout step .initial (fun before label _ => isOwned before label = true) trace →
        PaidOnce last ∧ FailedUnpaid last) ∧
      (Throughout step .initial (fun before label _ => isFresh before label = true) trace →
        CompletedStays last ∧ PaymentStays last) := by
  constructor
  · intro every
    have owned : Owned last := by
      apply run.kept every Owned owned_initial
      intro before label after owned move valid
      exact owned.step valid move
    exact ⟨owned.once, owned.unpaid⟩
  · intro every
    have stable : Stable last := by
      apply run.kept every Stable stable_initial
      intro before label after stable move valid
      exact stable.step valid move
    exact ⟨stable.completed, stable.payments⟩

def payloadSample : CreatePaymentPayload :=
  ⟨100, "USD"⟩

/-- A payout is submitted, paid and completed by its callback, and submitted again. -/
def paidAndCompleted : List Label :=
  [.submitSep31Payout "R1" payloadSample, .next 0, .next 0, .pay 0 (.created "P1"), .next 0,
    .reconcileSep31Callback "R1" "P1", .next 1, .next 1, .submitSep31Payout "R1" payloadSample, .next 2]

theorem paidAndCompleted_follows : ∃ last : Bridge,
    last.store.get? "R1" = some ⟨"R1", .completed, some "P1"⟩ ∧ last.payments.length = 1 ∧
      PaidOnce last ∧ FailedUnpaid last ∧ CompletedStays last ∧ PaymentStays last := by
  have followed : (paidAndCompleted.foldlM Bridge.perform .initial).map (fun bridge =>
      (bridge.store.get? "R1", bridge.payments.length)) = some (some ⟨"R1", .completed, some "P1"⟩, 1) := by decide
  obtain ⟨last, reached, both⟩ := Option.map_eq_some_iff.mp followed
  obtain ⟨paid, stays⟩ := records_follow (Run.follow reached)
  obtain ⟨once, unpaid⟩ := paid (throughout_follow (by decide))
  obtain ⟨completed, payments⟩ := stays (throughout_follow (by decide))
  exact ⟨last, congrArg Prod.fst both, congrArg Prod.snd both, once, unpaid, completed, payments⟩

/-- The update after a payment fails, the lookup finds nothing, and the payment is made again. -/
def paidTwice : List Label :=
  [.submitSep31Payout "R1" payloadSample, .next 0, .next 0, .pay 0 (.created "P1"), .fail 0, .next 0,
    .pay 0 (.created "P2"), .next 0]

theorem bridgePaidTwice_not_once : ¬∀ (trace : List Label) (last : Bridge), Run step .initial trace last →
    PaidOnce last ∧ CompletedStays last ∧ PaymentStays last ∧ FailedUnpaid last := by
  intro always
  have followed : (paidTwice.foldlM Bridge.perform .initial).map (·.paid "R1") = some 2 := by decide
  obtain ⟨last, reached, paid⟩ := Option.map_eq_some_iff.mp followed
  have once := (always paidTwice last (Run.follow reached)).1 "R1"
  rw [paid] at once
  exact absurd once (by decide)

end ProxyPay.BridgePayouts
