import ProxyPay.BridgePayouts.Calls
import ProxyPay.Library.Exclusive

/-! A reference is paid once where no submission reads a record as unpaid while another that has read it so may pay or has
paid, and where no payment that was executed is tried again. -/

namespace ProxyPay.BridgePayouts

open ProxyPay.Library

variable (bridge : Bridge)

/-- At most one payment was executed for each reference. -/
def PaidOnce : Prop :=
  ∀ reference, bridge.paid reference ≤ 1

/-- No payment had been executed for a reference when its record was marked as failed. -/
def FailedUnpaid : Prop :=
  ∀ count ∈ bridge.marks, count = 0

/-- The call has read its record as unpaid and may pay, or it has paid and ended without recording it. -/
def Call.holds (call : Call) : Bool :=
  match call.phase with
  | .paying _ => true
  | .recording _ => true
  | .failing _ => true
  | .looking => true
  | .payingAgain => true
  | .recordingAgain _ => true
  | .over .threw => call.executed
  | _ => false

def Reply.isExecuted : Reply → Bool
  | .created _ => true
  | .lost _ _ _ => true
  | .failed _ => false

/-- The call reads, or creates, a record that is not paid. -/
def Bridge.readsUnpaid (call : Call) : Bool :=
  match call.phase, call.task with
  | .finding, .submitSep31Payout _ => (bridge.find call).any fun record => !record.status.isPaid
  | .refinding, _ => (bridge.find call).any fun record => !record.status.isPaid
  | .creating, _ => (bridge.find call).isNone
  | _, _ => false

/-- No other call holds a reference whose record is read as unpaid, and a payment that was executed is not executed again. -/
def isOwned (before : Bridge) : Label → Bool
  | .next index => before.calls[index]?.all fun call =>
    !before.readsUnpaid call || before.calls.all fun other => !(other.holds && other.reference = call.reference)
  | .pay index reply => before.calls[index]?.all fun call =>
    call.phase ≠ .payingAgain || !reply.isExecuted || !call.executed
  | _ => true

/-- What a call has in hand is for its reference, and it has not paid before it has asked for it. -/
def Call.Fits (call : Call) : Prop :=
  match call.phase with
  | .finding => call.executed = false
  | .creating => call.executed = false
  | .refinding => call.executed = false
  | .paying record => record.reference = call.reference ∧ call.executed = false
  | .failing record => record.reference = call.reference ∧ call.executed = false
  | .recording record => record.reference = call.reference ∧ record.status.isPaid = true
  | .recordingAgain record => record.reference = call.reference ∧ record.status.isPaid = true
  | .completing record => record.reference = call.reference ∧ record.status.isPaid = true ∧ call.executed = false
  | _ => True

/-- The record of the reference says that it is paid. -/
def Bridge.IsRecorded (reference : String) : Prop :=
  ∃ record, bridge.store.get? reference = some record ∧ record.status.isPaid = true

structure Owned (bridge : Bridge) : Prop where
  exclusive : Exclusive Call.reference Call.holds bridge.calls
  fits : ∀ call ∈ bridge.calls, call.Fits
  own : ∀ reference record, bridge.store.get? reference = some record → record.reference = reference
  fresh : ∀ call ∈ bridge.calls, call.holds = true → call.executed = false → bridge.paid call.reference = 0
  recorded : ∀ reference, 0 < bridge.paid reference → bridge.IsRecorded reference ∨
    ∃ call ∈ bridge.calls, call.reference = reference ∧ call.holds = true ∧ call.executed = true
  once : PaidOnce bridge
  unpaid : FailedUnpaid bridge

variable {before after : Bridge} {label : Label} {index : ℕ} {call : Call} {record : Sep31TransactionRecord}
variable {reference : String}

section

variable (owned : Owned before)

include owned

theorem Owned.paid_eq_zero (unheld : ∀ other ∈ before.calls, other.holds = true →
    other.reference ≠ reference) (unrecorded : ¬before.IsRecorded reference) : before.paid reference = 0 := by
  by_contra paid
  cases owned.recorded reference (Nat.pos_of_ne_zero paid) with
  | inl recorded => exact unrecorded recorded
  | inr held => grind

section

variable (found : before.calls[index]? = some call)

include found

theorem Owned.change (new : Call)
    (payments : after.payments = before.payments) (calls : after.calls = before.calls.set index new)
    (same : new.reference = call.reference) (executed : new.executed = call.executed) (fits : new.Fits)
    (holds : new.holds = true → call.holds = true ∨ before.paid call.reference = 0 ∧
      ∀ other ∈ before.calls, other.holds = true → other.reference ≠ call.reference)
    (leaves : call.holds = true → call.executed = true → new.holds = true ∨ after.IsRecorded call.reference)
    (stays : ∀ reference, before.IsRecorded reference → after.IsRecorded reference ∨ before.paid reference = 0)
    (own : ∀ reference record, after.store.get? reference = some record → record.reference = reference)
    (unpaid : FailedUnpaid after) : Owned after := by
  have member := List.mem_of_getElem? found
  have paid : ∀ reference, after.paid reference = before.paid reference := by
    intro reference
    unfold Bridge.paid
    rw [payments]
  constructor
  · rw [calls]
    cases holding : new.holds with
    | false => exact owned.exclusive.set_idle holding
    | true =>
      cases holds holding with
      | inl was => exact owned.exclusive.set found same fun _ => was
      | inr free =>
        apply owned.exclusive.enter
        intro other among claims
        by_contra alive
        exact free.2 other among (by simpa using alive) (claims.trans same)
  · intro other among
    rw [calls] at among
    cases List.mem_or_eq_of_mem_set among with
    | inl earlier => exact owned.fits other earlier
    | inr here =>
      subst here
      exact fits
  · exact own
  · intro other among alive unexecuted
    rw [paid]
    rw [calls] at among
    cases List.mem_or_eq_of_mem_set among with
    | inl earlier => exact owned.fresh other earlier alive unexecuted
    | inr here =>
      subst here
      rw [same]
      cases holds alive with
      | inl was => exact owned.fresh call member was (executed.symm.trans unexecuted)
      | inr free => exact free.1
  · intro reference positive
    rw [paid] at positive
    cases owned.recorded reference positive with
    | inl recorded =>
      cases stays reference recorded with
      | inl still => exact .inl still
      | inr none => exact absurd none (Nat.ne_of_gt positive)
    | inr held =>
      obtain ⟨other, among, mine, alive, pays⟩ := held
      by_cases self : other = call
      · subst self
        cases leaves alive pays with
        | inl still =>
          right
          refine ⟨new, ?_, same.trans mine, still, executed.trans pays⟩
          rw [calls]
          exact List.mem_set (List.getElem?_eq_some_iff.mp found).1 new
        | inr recorded => exact .inl (mine ▸ recorded)
      · right
        refine ⟨other, ?_, mine, alive, pays⟩
        rw [calls]
        exact mem_set_of_ne among found self
  · intro reference
    rw [paid]
    exact owned.once reference
  · exact unpaid

theorem Owned.put (new : Call)
    (same : new.reference = call.reference) (executed : new.executed = call.executed) (fits : new.Fits)
    (holds : new.holds = true → call.holds = true ∨ before.paid call.reference = 0 ∧
      ∀ other ∈ before.calls, other.holds = true → other.reference ≠ call.reference)
    (leaves : call.holds = true → call.executed = true → new.holds = true ∨ before.IsRecorded call.reference) :
    Owned (before.put index new) := by
  refine owned.change found new rfl rfl same executed fits holds leaves ?_ ?_ ?_
  · intro reference recorded
    exact .inl recorded
  · exact owned.own
  · exact owned.unpaid

theorem Owned.idle (was : call.holds = false) (new : Call)
    (same : new.reference = call.reference) (executed : new.executed = call.executed) (fits : new.Fits)
    (holds : new.holds = false) : Owned (before.put index new) := by
  apply owned.put found new same executed fits
  · simp_all
  · simp_all

section

variable (was : call.holds = false) (unexecuted : call.executed = false) (own : record.reference = call.reference)

include was unexecuted own

theorem Owned.check (free : record.status.isPaid = false → before.paid call.reference = 0 ∧
      ∀ other ∈ before.calls, other.holds = true → other.reference ≠ call.reference) :
    Owned (before.check index call record) := by
  unfold Bridge.check
  split
  · exact owned.idle found was _ rfl rfl trivial rfl
  · rename_i unpaid
    apply owned.put found { call with phase := .paying record, read := some record } rfl rfl
    · exact ⟨own, unexecuted⟩
    · simp_all
    · simp_all

theorem Owned.reconcile (providerPaymentId : String) :
    Owned (before.reconcile index call record providerPaymentId) := by
  unfold Bridge.reconcile
  split
  · exact owned.idle found was _ rfl rfl trivial rfl
  · split
    · exact owned.idle found was _ rfl rfl trivial rfl
    · exact owned.idle found was _ rfl rfl ⟨own, rfl, unexecuted⟩ rfl

end

end

theorem Owned.free (read : before.store.get? reference = some record)
    (unheld : record.status.isPaid = false → ∀ other ∈ before.calls, other.holds = true → other.reference ≠ reference)
    (unpaid : record.status.isPaid = false) : before.paid reference = 0 ∧
      ∀ other ∈ before.calls, other.holds = true → other.reference ≠ reference := by
  refine ⟨?_, unheld unpaid⟩
  apply owned.paid_eq_zero (unheld unpaid)
  intro recorded
  obtain ⟨other, there, paid⟩ := recorded
  cases read.symm.trans there
  exact Bool.false_ne_true (unpaid.symm.trans paid)

end

theorem unheld_of_isOwned (found : before.calls[index]? = some call) (valid : isOwned before (.next index) = true)
    (reads : before.readsUnpaid call = true) : ∀ other ∈ before.calls, other.holds = true →
      other.reference ≠ call.reference := by
  simp only [isOwned, found, Option.all_some, reads, Bool.not_true, Bool.false_or, List.all_eq_true] at valid
  intro other member alive same
  have none := valid other member
  simp [alive, same] at none

theorem get?_update (bridge : Bridge) : (bridge.update record).store.get? reference =
    if record.reference = reference then some record else bridge.store.get? reference :=
  InsertionMap.get?_set

theorem Owned.write (owned : Owned before) (found : before.calls[index]? = some call) (outcome : Outcome)
    (own : record.reference = call.reference)
    (kept : record.status.isPaid = true ∨ before.paid call.reference = 0 ∧ call.executed = false)
    (ends : outcome = .returned record ∨ call.executed = false) {marks : List ℕ}
    (unpaid : ∀ count ∈ marks, count = 0) :
    Owned { (before.update record).goOn index call (.over outcome) with marks := marks } := by
  have idle : Call.holds { call with phase := .over outcome } = false := by
    cases ends with
    | inl returned =>
      subst returned
      rfl
    | inr unexecuted =>
      cases outcome with
      | returned record => rfl
      | threw => exact unexecuted
  refine owned.change found { call with phase := .over outcome } rfl rfl rfl rfl trivial ?_ ?_ ?_ ?_ unpaid
  · simp_all
  · intro alive executed
    right
    refine ⟨record, ?_, ?_⟩
    · show (before.update record).store.get? call.reference = some record
      rw [get?_update, if_pos own]
    · simp_all
  · intro reference recorded
    by_cases same : record.reference = reference
    · have there : (before.update record).store.get? reference = some record := by rw [get?_update, if_pos same]
      cases kept with
      | inl paid => exact .inl ⟨record, there, paid⟩
      | inr none => exact .inr (same ▸ own ▸ none.1)
    · obtain ⟨other, there, paid⟩ := recorded
      refine .inl ⟨other, ?_, paid⟩
      show (before.update record).store.get? reference = some other
      rw [get?_update, if_neg same, there]
  · intro reference other there
    have there : (before.update record).store.get? reference = some other := there
    rw [get?_update] at there
    split at there
    · simp_all
    · exact owned.own reference other there

theorem Owned.create (owned : Owned before) (found : before.calls[index]? = some call) (phase : call.phase = .creating)
    (unexecuted : call.executed = false) (valid : isOwned before (.next index) = true) :
    Owned (before.create index call) := by
  have was : call.holds = false := by
    unfold Call.holds
    rw [phase]
  unfold Bridge.create
  cases read : before.find call with
  | some record => exact owned.idle found was { call with phase := .refinding } rfl rfl unexecuted rfl
  | none =>
    have unheld : ∀ other ∈ before.calls, other.holds = true → other.reference ≠ call.reference :=
      unheld_of_isOwned found valid (by simp [Bridge.readsUnpaid, phase, read])
    have free : before.paid call.reference = 0 := by
      apply owned.paid_eq_zero unheld
      intro recorded
      obtain ⟨other, there, _⟩ := recorded
      cases read.symm.trans there
    let record : Sep31TransactionRecord := ⟨call.reference, .pending, none⟩
    show Owned (Bridge.put { before with store := before.store.set call.reference record } index
      { call with phase := .paying record, read := some record })
    refine owned.change found { call with phase := .paying record, read := some record } rfl rfl rfl rfl
      ⟨rfl, unexecuted⟩ ?_ ?_ ?_ ?_ owned.unpaid
    · intro _
      exact .inr ⟨free, unheld⟩
    · simp_all
    · intro reference recorded
      left
      obtain ⟨other, there, paid⟩ := recorded
      refine ⟨other, ?_, paid⟩
      show (before.store.set _ _).get? reference = some other
      rw [InsertionMap.get?_set]
      split
      · rename_i same
        subst same
        cases read.symm.trans there
      · exact there
    · intro reference other there
      have there : (before.store.set call.reference ⟨call.reference, .pending, none⟩).get? reference = some other := there
      rw [InsertionMap.get?_set] at there
      split at there
      · rename_i same
        cases there
        exact same
      · exact owned.own reference other there

theorem paid_execute {payload : CreatePaymentPayload} {id : String} : (before.execute call payload id).paid reference =
      before.paid reference + if call.reference = reference then 1 else 0 := by
  unfold Bridge.paid Bridge.execute
  rw [List.countP_append, List.countP_singleton]
  simp only [decide_eq_true_eq]

section

variable (owned : Owned before) (found : before.calls[index]? = some call)

include owned found

theorem Owned.pay (new : Call)
    {payload : CreatePaymentPayload} {id : String} (alive : call.holds = true) (unexecuted : call.executed = false)
    (same : new.reference = call.reference) (executed : new.executed = true) (fits : new.Fits) (still : new.holds = true) :
    Owned ((before.execute call payload id).put index new) := by
  have member := List.mem_of_getElem? found
  have none : before.paid call.reference = 0 := owned.fresh call member alive unexecuted
  have paid : ∀ reference, Bridge.paid ((before.execute call payload id).put index new) reference =
      before.paid reference + if call.reference = reference then 1 else 0 := fun reference => paid_execute
  constructor
  · exact owned.exclusive.set found same fun _ => alive
  · intro other among
    cases List.mem_or_eq_of_mem_set among with
    | inl earlier => exact owned.fits other earlier
    | inr here =>
      subst here
      exact fits
  · exact owned.own
  · intro other among holds pays
    rw [paid]
    obtain ⟨i, place⟩ := List.mem_iff_getElem?.mp among
    cases getElem?_set_of_some place with
    | inl here =>
      rw [here.2] at pays
      cases pays.symm.trans executed
    | inr earlier =>
      have claims : call.reference ≠ other.reference := by
        intro claims
        exact earlier.1 (owned.exclusive i index other call earlier.2 found holds alive claims.symm)
      rw [if_neg claims, owned.fresh other (List.mem_of_getElem? earlier.2) holds pays]
  · intro reference positive
    rw [paid] at positive
    by_cases claims : call.reference = reference
    · right
      refine ⟨new, ?_, same.trans claims, still, executed⟩
      exact List.mem_set (List.getElem?_eq_some_iff.mp found).1 new
    · rw [if_neg claims] at positive
      cases owned.recorded reference positive with
      | inl recorded => exact .inl recorded
      | inr held =>
        obtain ⟨other, among, mine, holds, pays⟩ := held
        right
        refine ⟨other, ?_, mine, holds, pays⟩
        apply mem_set_of_ne among found
        intro self
        subst self
        exact claims mine
  · intro reference
    rw [paid]
    by_cases claims : call.reference = reference
    · simp [← claims, none]
    · rw [if_neg claims]
      exact owned.once reference
  · exact owned.unpaid

theorem Owned.keep (alive : call.holds = true)
    (phase : Phase) (fits : Call.Fits { call with phase := phase }) (still : Call.holds { call with phase := phase } = true) :
    Owned (before.goOn index call phase) := by
  apply owned.put found { call with phase := phase } rfl rfl fits
  · intro _
    exact .inl alive
  · intro _ _
    exact .inl still

theorem Owned.give (alive : call.holds = true) : Owned (before.goOn index call (.over .threw)) := by
  apply owned.put found { call with phase := .over .threw } rfl rfl trivial
  · intro _
    exact .inl alive
  · intro _ executed
    exact .inl executed

end

theorem holds_of_phase {phase : Phase} (holds : Call.holds { call with phase := phase } = true)
    (here : call.phase = phase) : call.holds = true := by
  subst here
  exact holds

theorem fits_of_phase {phase : Phase} (fits : call.Fits) (here : call.phase = phase) :
    Call.Fits { call with phase := phase } := by
  subst here
  exact fits

section

variable (owned : Owned before) (found : before.calls[index]? = some call)

include owned found

theorem Owned.operate (valid : isOwned before (.next index) = true) (done : before.operate index call = some after) : Owned after := by
  have fits := owned.fits call (List.mem_of_getElem? found)
  have unheld := unheld_of_isOwned found valid
  unfold Bridge.operate at done
  split at done
  · rename_i payload phase task
    have unexecuted : call.executed = false := fits_of_phase fits phase
    have was : call.holds = false := by
      unfold Call.holds
      rw [phase]
    split at done
    · rename_i record read
      cases done
      apply owned.check found was unexecuted (owned.own _ _ read)
      apply owned.free read
      intro unpaid
      apply unheld
      simp [Bridge.readsUnpaid, phase, task, read, unpaid]
    · cases done
      exact owned.idle found was { call with phase := .creating } rfl rfl unexecuted rfl
  · rename_i providerPaymentId phase task
    have unexecuted : call.executed = false := fits_of_phase fits phase
    have was : call.holds = false := by
      unfold Call.holds
      rw [phase]
    split at done
    · rename_i record read
      cases done
      exact owned.reconcile found was unexecuted (owned.own _ _ read) providerPaymentId
    · cases done
      exact owned.idle found was { call with phase := .over .threw } rfl rfl trivial unexecuted
  · rename_i phase
    cases done
    have unexecuted : call.executed = false := fits_of_phase fits phase
    exact owned.create found phase unexecuted valid
  · rename_i phase
    have unexecuted : call.executed = false := fits_of_phase fits phase
    have was : call.holds = false := by
      unfold Call.holds
      rw [phase]
    split at done
    · rename_i record read
      cases done
      apply owned.check found was unexecuted (owned.own _ _ read)
      apply owned.free read
      intro unpaid
      apply unheld
      simp [Bridge.readsUnpaid, phase, read, unpaid]
    · cases done
      exact owned.idle found was { call with phase := .over .threw } rfl rfl trivial unexecuted
  · rename_i record phase
    cases done
    have good : record.reference = call.reference ∧ record.status.isPaid = true := fits_of_phase fits phase
    exact owned.write found (.returned record) good.1 (.inl good.2) (.inl rfl) owned.unpaid
  · rename_i record phase
    cases done
    have good : record.reference = call.reference ∧ record.status.isPaid = true := fits_of_phase fits phase
    exact owned.write found (.returned record) good.1 (.inl good.2) (.inl rfl) owned.unpaid
  · rename_i record phase
    cases done
    have good : record.reference = call.reference ∧ call.executed = false := fits_of_phase fits phase
    have alive : call.holds = true := holds_of_phase rfl phase
    have none : before.paid call.reference = 0 := owned.fresh call (List.mem_of_getElem? found) alive good.2
    apply owned.write found .threw good.1 (.inr ⟨none, good.2⟩) (.inr good.2)
    intro count member
    cases List.mem_append.mp member with
    | inl earlier => exact owned.unpaid count earlier
    | inr here => simp_all
  · rename_i phase
    have alive : call.holds = true := holds_of_phase rfl phase
    split at done
    · cases done
      exact owned.keep found alive _ ⟨rfl, rfl⟩ rfl
    · cases done
      exact owned.keep found alive _ trivial rfl
  · rename_i record phase
    cases done
    have good : record.reference = call.reference ∧ record.status.isPaid = true ∧ call.executed = false :=
      fits_of_phase fits phase
    exact owned.write found (.returned record) good.1 (.inl good.2.1) (.inl rfl) owned.unpaid
  · cases done

theorem Owned.answer {reply : Reply}
    (valid : isOwned before (.pay index reply) = true) (done : before.pay index call reply = some after) : Owned after := by
  have fits := owned.fits call (List.mem_of_getElem? found)
  simp only [isOwned, found, Option.all_some] at valid
  unfold Bridge.pay at done
  split at done
  · rename_i phase _
    have good : _ ∧ call.executed = false := fits_of_phase fits phase
    cases done
    exact owned.pay found { call with phase := _, executed := true } (holds_of_phase rfl phase) good.2 rfl rfl ⟨rfl, rfl⟩ rfl
  · rename_i phase _
    have good : _ ∧ call.executed = false := fits_of_phase fits phase
    cases done
    exact owned.pay found { call with phase := _, executed := true } (holds_of_phase rfl phase) good.2 rfl rfl trivial rfl
  · rename_i record _ _ phase _
    have good : record.reference = call.reference ∧ call.executed = false := fits_of_phase fits phase
    have alive : call.holds = true := holds_of_phase rfl phase
    split at done
    · cases done
      exact owned.keep found alive _ trivial rfl
    · cases done
      exact owned.keep found alive _ good rfl
  · rename_i phase _
    have unexecuted : call.executed = false := by simpa [phase, Reply.isExecuted] using valid
    cases done
    exact owned.pay found { call with phase := _, executed := true } (holds_of_phase rfl phase) unexecuted rfl rfl ⟨rfl, rfl⟩ rfl
  · rename_i phase _
    have unexecuted : call.executed = false := by simpa [phase, Reply.isExecuted] using valid
    cases done
    exact owned.pay found { call with phase := _, executed := true } (holds_of_phase rfl phase) unexecuted rfl rfl trivial rfl
  · rename_i phase _
    cases done
    exact owned.give found (holds_of_phase rfl phase)
  · cases done

theorem Owned.stop (idle : call.holds = false)
    (unexecuted : call.executed = false) : Owned (before.goOn index call (.over .threw)) :=
  owned.idle found idle { call with phase := .over .threw } rfl rfl trivial unexecuted

theorem Owned.throw (done : before.throw index call = some after) : Owned after := by
  have fits := owned.fits call (List.mem_of_getElem? found)
  have idle : ∀ phase, call.phase = phase → Call.holds { call with phase := phase } = false → call.holds = false := by simp
  unfold Bridge.throw at done
  cases phase : call.phase with
  | finding =>
    rw [phase] at done
    cases done
    exact owned.stop found (idle _ phase rfl) (fits_of_phase fits phase)
  | creating =>
    rw [phase] at done
    cases done
    have unexecuted : call.executed = false := fits_of_phase fits phase
    exact owned.idle found (idle _ phase rfl) { call with phase := .refinding } rfl rfl unexecuted rfl
  | refinding =>
    rw [phase] at done
    cases done
    exact owned.stop found (idle _ phase rfl) (fits_of_phase fits phase)
  | paying record =>
    rw [phase] at done
    cases done
  | recording record =>
    rw [phase] at done
    cases done
    exact owned.keep found (holds_of_phase rfl phase) _ trivial rfl
  | failing record =>
    rw [phase] at done
    cases done
    exact owned.give found (holds_of_phase rfl phase)
  | looking =>
    rw [phase] at done
    cases done
    exact owned.give found (holds_of_phase rfl phase)
  | payingAgain =>
    rw [phase] at done
    cases done
  | recordingAgain record =>
    rw [phase] at done
    cases done
    exact owned.give found (holds_of_phase rfl phase)
  | completing record =>
    rw [phase] at done
    cases done
    have good : record.reference = call.reference ∧ record.status.isPaid = true ∧ call.executed = false :=
      fits_of_phase fits phase
    exact owned.stop found (idle _ phase rfl) good.2.2
  | «over» outcome =>
    rw [phase] at done
    cases done

end

theorem Owned.append (owned : Owned before) (reference : String) (task : Task) :
    Owned { before with calls := before.calls ++ [⟨reference, task, .finding, none, false⟩] } where
  exclusive := owned.exclusive.append_idle rfl
  fits call member := by
    cases List.mem_append.mp member with
    | inl earlier => exact owned.fits call earlier
    | inr here =>
      cases List.mem_singleton.mp here
      rfl
  own := owned.own
  fresh call member holds unexecuted := by
    cases List.mem_append.mp member with
    | inl earlier => exact owned.fresh call earlier holds unexecuted
    | inr here =>
      cases List.mem_singleton.mp here
      cases holds
  recorded reference positive := by
    cases owned.recorded reference positive with
    | inl recorded => exact .inl recorded
    | inr held => simp_all
  once := owned.once
  unpaid := owned.unpaid

theorem owned_initial : Owned .initial := by
  constructor
  · exact Exclusive.nil
  · intro call member
    cases member
  · intro reference record there
    cases there
  · intro call member
    cases member
  · intro reference positive
    cases positive
  · intro reference
    exact Nat.zero_le 1
  · intro count member
    cases member

theorem Owned.step (owned : Owned before) (valid : isOwned before label = true)
    (move : step before label after) : Owned after := by
  unfold BridgePayouts.step at move
  cases label with
  | submitSep31Payout reference payload =>
    cases move
    exact owned.append reference _
  | reconcileSep31Callback reference providerPaymentId =>
    cases move
    exact owned.append reference _
  | next index =>
    obtain ⟨call, found, done⟩ := Option.bind_eq_some_iff.mp move
    exact owned.operate found valid done
  | pay index reply =>
    obtain ⟨call, found, done⟩ := Option.bind_eq_some_iff.mp move
    exact owned.answer found valid done
  | fail index =>
    obtain ⟨call, found, done⟩ := Option.bind_eq_some_iff.mp move
    exact owned.throw found done

end ProxyPay.BridgePayouts
