import ProxyPay.Library.Exclusive
import ProxyPay.Library.Total
import ProxyPay.Library.Transition
import ProxyPay.Splits.Ledger

/-! Rules and entries are there in full or not at all, and an amount is shared out once, in every run in which
no statement fails after the first insert of its call and a transaction is split once. -/

namespace ProxyPay.Splits

open ProxyPay.Library

/-- What the entries of a transaction sum to. -/
def allocated (ledger : List LedgerEntry) (transactionId : String) : ℚ :=
  total (fun entry => entry.allocatedAmount.value) (fun entry => entry.transactionId = transactionId) ledger

/-- The transaction for which a call has inserted entries and goes on to insert more. -/
def Call.midway : Call → Option String
  | .recording _ [] _ => none
  | .recording request (_ :: _) _ => some request.transactionId
  | _ => none

structure Sound (amounts : String → ℚ) (tables : Tables) : Prop where
  rules : ∀ ruleId error, Call.uncreated (some ruleId) error ∈ tables.calls →
    (∀ rule ∈ tables.rules, rule.id ≠ ruleId) ∧ ∀ recipient ∈ tables.recipients, recipient.ruleId ≠ ruleId
  entries : ∀ request entries error, Call.thrown request entries error ∈ tables.calls →
    ∀ entry ∈ tables.ledger, entry.id ∉ entries
  amounts : ∀ transactionId, (∃ entry ∈ tables.ledger, entry.transactionId = transactionId) →
    (∀ call ∈ tables.calls, call.midway ≠ some transactionId) → allocated tables.ledger transactionId ≤ amounts transactionId

/-- No statement fails after the first insert of its call, and a call that inserts its first entry finds none of
the transaction, whose amount has eight places. -/
def isOrderly (amounts : String → ℚ) (tables : Tables) : Label → Bool
  | .fail index =>
    match tables.calls[index]? with
    | some (.adding _ _) => false
    | some (.recording _ (_ :: _) _) => false
    | some (.marking _ _ _) => false
    | _ => true
  | .insertEntry index _ =>
    match tables.calls[index]? with
    | some (.recording request [] _) =>
      HasPlaces (amounts request.transactionId) ∧
        ∀ entry ∈ tables.ledger, entry.transactionId ≠ request.transactionId
    | _ => true
  | _ => true

def sumOf (left : List CreateLedgerEntryInput) : ℚ := (left.map CreateLedgerEntryInput.allocatedAmount).sum

/-- What a call that has entries to insert keeps. -/
def Call.Fits (amounts : String → ℚ) (ledger : List LedgerEntry) : Call → Prop
  | .recording request [] left => (∀ input ∈ left, HasPlaces input.allocatedAmount) ∧
      (HasPlaces (amounts request.transactionId) → sumOf left ≤ amounts request.transactionId)
  | .recording request (_ :: _) left => (∀ input ∈ left, HasPlaces input.allocatedAmount) ∧
      (∃ entry ∈ ledger, entry.transactionId = request.transactionId) ∧
      allocated ledger request.transactionId + sumOf left ≤ amounts request.transactionId
  | .uncreated ruleId _ => ruleId = none
  | .thrown _ entries _ => entries = []
  | _ => True

/-- A call that is not midway. -/
def Call.Rests (amounts : String → ℚ) (ledger : List LedgerEntry) (call : Call) : Prop :=
  call.Fits amounts ledger ∧ call.midway = none

structure Kept (amounts : String → ℚ) (tables : Tables) : Prop where
  fits : ∀ call ∈ tables.calls, call.Fits amounts tables.ledger
  single : Exclusive Call.midway (fun call => call.midway.isSome) tables.calls
  settled : ∀ transactionId, (∃ entry ∈ tables.ledger, entry.transactionId = transactionId) →
    (∀ call ∈ tables.calls, call.midway ≠ some transactionId) → allocated tables.ledger transactionId ≤ amounts transactionId

variable {print : ℚ → String} {amounts : String → ℚ} {before after : Tables} {index : ℕ}

theorem Kept.sound (kept : Kept amounts before) : Sound amounts before := by
  constructor
  · intro ruleId error member
    cases kept.fits _ member
  · intro request entries error member entry _
    rw [kept.fits _ member]
    exact List.not_mem_nil
  · exact kept.settled

variable {label : Label}

theorem step_cases (move : step print amounts before label after) :
    match label with
    | .createRule input => after = { before with calls := before.calls ++ [checkRule print input] }
    | .insertRule index id => ∃ input rule, before.calls[index]? = some (.inserting input) ∧
        after = { before.become index (continueAdding id input.recipients) with rules := before.rules ++ [rule] }
    | .insertRecipient index => ∃ ruleId recipient left row,
        before.calls[index]? = some (.adding ruleId (recipient :: left)) ∧
        after = { before.become index (continueAdding ruleId left) with recipients := before.recipients ++ [row] }
    | .split request => after = { before with calls := before.calls ++ [checkAmount amounts request] }
    | .find index => ∃ request rule, before.calls[index]? = some (.finding request) ∧
        after = before.become index (checkFound rule request)
    | .select index => ∃ request recipients, before.calls[index]? = some (.selecting request) ∧
        after = before.become index (allocate amounts recipients request)
    | .insertEntry index id => ∃ request entries input left row,
        before.calls[index]? = some (.recording request entries (input :: left)) ∧ input.row id request = some row ∧
        after = { before.become index (continueRecording request (entries ++ [id]) left) with
          ledger := before.ledger ++ [row] }
    | .mark index => ∃ request entries id left, before.calls[index]? = some (.marking request entries (id :: left)) ∧
        after = { before.become index (continueMarking request entries left) with
          ledger := before.ledger.map (LedgerEntry.process id) }
    | .fail index => ∃ call failed, before.calls[index]? = some call ∧ call.fail = some failed ∧
        after = before.become index failed := by
  cases label with
  | createRule input | split request => exact (Option.some.inj move).symm
  | insertRule index id => grind [step, Tables.perform]
  | insertRecipient index =>
    simp only [step, Tables.perform] at move
    split at move
    · obtain ⟨row, _, same⟩ := Option.map_eq_some_iff.mp move
      exact ⟨_, _, _, row, ‹_›, same.symm⟩
    · cases move
  | find index | select index => grind [step, Tables.perform]
  | insertEntry index id =>
    simp only [step, Tables.perform] at move
    split at move
    · split at move
      · cases move
      · obtain ⟨row, made, same⟩ := Option.map_eq_some_iff.mp move
        exact ⟨_, _, _, _, row, ‹_›, made, same.symm⟩
    · cases move
  | mark index => grind [step, Tables.perform]
  | fail index =>
    simp only [step, Tables.perform] at move
    split at move
    · obtain ⟨failed, ended, same⟩ := Option.map_eq_some_iff.mp move
      exact ⟨_, failed, ‹_›, ended, same.symm⟩
    · cases move

/-! What follows a statement. -/

section

variable (ledger : List LedgerEntry)

include ledger

theorem continueAdding_rests (ruleId : String) (left : List CreateRecipientInput) :
    (continueAdding ruleId left).Rests amounts ledger := by
  unfold continueAdding
  split
  · exact ⟨trivial, rfl⟩
  · exact ⟨trivial, rfl⟩

theorem continueMarking_rests (request : SplitRequest) (entries left : List String) :
    (continueMarking request entries left).Rests amounts ledger := by
  unfold continueMarking
  split
  · exact ⟨trivial, rfl⟩
  · exact ⟨trivial, rfl⟩

theorem checkRule_rests (input : CreateRuleInput) : (checkRule print input).Rests amounts ledger := by
  unfold checkRule
  split
  · exact ⟨rfl, rfl⟩
  · split
    · exact ⟨trivial, rfl⟩
    · exact ⟨rfl, rfl⟩

theorem checkAmount_rests (request : SplitRequest) : (checkAmount amounts request).Rests amounts ledger := by
  unfold checkAmount
  split
  · exact ⟨rfl, rfl⟩
  · exact ⟨trivial, rfl⟩

theorem checkFound_rests (rule : Option SplitPaymentRule) (request : SplitRequest) :
    (checkFound rule request).Rests amounts ledger := by
  unfold checkFound
  split
  · exact ⟨rfl, rfl⟩
  · split
    · exact ⟨trivial, rfl⟩
    · exact ⟨rfl, rfl⟩

end

theorem amounts_entryInput {recipients : List SplitPaymentRecipient} {allocations : List ℚ}
    (same : allocations.length = recipients.length) :
    (List.zipWith SplitPaymentRecipient.entryInput recipients allocations).map CreateLedgerEntryInput.allocatedAmount =
      allocations := by
  induction recipients generalizing allocations with
  | nil => exact (List.length_eq_zero_iff.mp same).symm
  | cons recipient rest ih =>
    cases allocations with
    | nil => cases same
    | cons allocation allocations => exact congrArg (allocation :: ·) (ih (Nat.succ.inj same))

theorem allocate_rests (ledger : List LedgerEntry) (recipients : List SplitPaymentRecipient) (request : SplitRequest) :
    (allocate amounts recipients request).Rests amounts ledger := by
  unfold allocate
  split
  · exact ⟨rfl, rfl⟩
  · dsimp only
    split
    · exact ⟨rfl, rfl⟩
    · rename_i allocations calculated
      have listed := amounts_entryInput (length_calculateAllocations calculated)
      unfold continueRecording
      split
      · refine ⟨⟨?_, ?_⟩, rfl⟩
        · intro input member
          have share : input.allocatedAmount ∈ allocations := listed ▸ List.mem_map_of_mem member
          exact hasPlaces_of_mem_allocations calculated _ share
        · intro places
          rw [sumOf, listed]
          exact sum_calculateAllocations places calculated
      · split
        · exact continueMarking_rests ledger request [] []
        · exact ⟨trivial, rfl⟩

/-! What the ledger records for a transaction. -/

theorem allocated_append (ledger : List LedgerEntry) (row : LedgerEntry) (transactionId : String) :
    allocated (ledger ++ [row]) transactionId = allocated ledger transactionId +
      if row.transactionId = transactionId then row.allocatedAmount.value else 0 := by
  rw [allocated, allocated, total_append, total_singleton]
  simp only [decide_eq_true_eq]

variable {ledger : List LedgerEntry}

theorem allocated_of_none {transactionId : String}
    (none : ∀ entry ∈ ledger, entry.transactionId ≠ transactionId) : allocated ledger transactionId = 0 := by
  unfold allocated total
  rw [List.filter_eq_nil_iff.mpr]
  · rfl
  · simp_all

theorem allocated_map {change : LedgerEntry → LedgerEntry}
    (transaction : ∀ entry, (change entry).transactionId = entry.transactionId)
    (amount : ∀ entry, (change entry).allocatedAmount = entry.allocatedAmount) (ledger : List LedgerEntry)
    (transactionId : String) : allocated (ledger.map change) transactionId = allocated ledger transactionId := by
  induction ledger with
  | nil => rfl
  | cons entry rest ih => simp_all [List.map_cons, total_cons, allocated]

variable {call : Call}

theorem Call.Fits.carry {other : List LedgerEntry} (fits : call.Fits amounts ledger)
    (same : ∀ transactionId, call.midway = some transactionId →
      (∃ entry ∈ ledger, entry.transactionId = transactionId) →
      (∃ entry ∈ other, entry.transactionId = transactionId) ∧
        allocated other transactionId = allocated ledger transactionId) : call.Fits amounts other := by
  cases call with
  | recording request entries left =>
    cases entries with
    | nil => exact fits
    | cons id entries =>
      obtain ⟨places, recorded, covered⟩ := fits
      obtain ⟨still, equal⟩ := same request.transactionId rfl recorded
      exact ⟨places, still, equal ▸ covered⟩
  | uncreated ruleId error | thrown request entries error => exact fits
  | inserting input | adding ruleId left | created ruleId | finding request | selecting request => trivial
  | marking request entries left | returned request entries => trivial

/-! What the steps keep. -/

theorem kept_stored (rules : List SplitPaymentRule) (recipients : List SplitPaymentRecipient) :
    Kept amounts (.stored rules recipients) := by
  constructor
  · nofun
  · exact .nil
  · nofun

theorem Kept.start (kept : Kept amounts before) (rests : call.Rests amounts before.ledger) :
    Kept amounts { before with calls := before.calls ++ [call] } := by
  obtain ⟨fits, idle⟩ := rests
  constructor
  · exact forall_mem_append_singleton kept.fits fits
  · exact kept.single.append_idle (by rw [idle]; rfl)
  · intro transactionId recorded quiet
    exact kept.settled transactionId recorded fun other member => quiet other (List.mem_append_left _ member)

theorem Kept.become (kept : Kept amounts before) {old new : Call} (found : before.calls[index]? = some old)
    (was : old.midway = none) (rests : new.Rests amounts before.ledger) : Kept amounts (before.become index new) := by
  obtain ⟨fits, idle⟩ := rests
  constructor
  · exact forall_mem_set kept.fits fits
  · exact kept.single.set found (idle.trans was.symm) fun alive => by rw [idle] at alive; cases alive
  · intro transactionId recorded quiet
    apply kept.settled transactionId recorded
    intro call member
    by_cases same : call = old
    · simp_all
    · exact quiet call (mem_set_of_ne member found same)

theorem process_transactionId (id : String) (entry : LedgerEntry) :
    (entry.process id).transactionId = entry.transactionId := by
  unfold LedgerEntry.process
  split <;> rfl

theorem process_allocatedAmount (id : String) (entry : LedgerEntry) :
    (entry.process id).allocatedAmount = entry.allocatedAmount := by
  unfold LedgerEntry.process
  split <;> rfl

variable {id : String}

theorem Kept.mark (kept : Kept amounts before) {request : SplitRequest} {entries left : List String}
    (found : before.calls[index]? = some (.marking request entries (id :: left))) :
    Kept amounts { before.become index (continueMarking request entries left) with
      ledger := before.ledger.map (LedgerEntry.process id) } := by
  have next := kept.become found rfl (continueMarking_rests before.ledger request entries left)
  have same := allocated_map (process_transactionId id) (process_allocatedAmount id) before.ledger
  have recorded (transactionId : String) :
      (∃ entry ∈ before.ledger.map (LedgerEntry.process id), entry.transactionId = transactionId) ↔
        ∃ entry ∈ before.ledger, entry.transactionId = transactionId := by
    simp only [List.mem_map, exists_exists_and_eq_and, process_transactionId]
  constructor
  · intro call member
    apply (next.fits call member).carry
    intro transactionId _ present
    exact ⟨(recorded transactionId).mpr present, same transactionId⟩
  · exact next.single
  · intro transactionId present quiet
    rw [same transactionId]
    exact next.settled transactionId ((recorded transactionId).mp present) quiet

/-- What the call of an insert keeps, now with the new row. -/
structure Inserted (amounts : String → ℚ) (ledger : List LedgerEntry) (request : SplitRequest)
    (left : List CreateLedgerEntryInput) : Prop where
  places : ∀ input ∈ left, HasPlaces input.allocatedAmount
  recorded : ∃ entry ∈ ledger, entry.transactionId = request.transactionId
  covered : allocated ledger request.transactionId + sumOf left ≤ amounts request.transactionId

theorem Inserted.fits {request : SplitRequest} {left : List CreateLedgerEntryInput}
    (inserted : Inserted amounts ledger request left) {entries : List String} (some : entries ≠ []) :
    (continueRecording request entries left).Fits amounts ledger := by
  unfold continueRecording
  split
  · cases entries with
    | nil => exact absurd rfl some
    | cons id entries => exact ⟨inserted.places, inserted.recorded, inserted.covered⟩
  · split
    · exact (continueMarking_rests ledger request entries entries).1
    · trivial

theorem midway_continueRecording (request : SplitRequest) {entries : List String} (some : entries ≠ [])
    (left : List CreateLedgerEntryInput) : (continueRecording request entries left).midway =
      if left = [] then none else Option.some request.transactionId := by
  cases entries with
  | nil => exact absurd rfl some
  | cons id entries =>
    cases left with
    | cons input left => rfl
    | nil =>
      unfold continueRecording
      cases request.processes <;> rfl

theorem value_row {input : CreateLedgerEntryInput} {request : SplitRequest} {row : LedgerEntry}
    (made : input.row id request = some row) (places : HasPlaces input.allocatedAmount) :
    row.transactionId = request.transactionId ∧ row.allocatedAmount.value = input.allocatedAmount := by
  obtain ⟨amount, stored, rfl⟩ := Option.map_eq_some_iff.mp made
  refine ⟨rfl, ?_⟩
  obtain ⟨units, same⟩ := hasPlaces_iff.mp places
  have rounded := Decimal.units_store stored
  rw [same, div_mul_cancel₀ _ (by norm_num), roundHalfAway_intCast] at rounded
  change amount.value = input.allocatedAmount
  rw [Decimal.value, rounded, same]

section

variable (kept : Kept amounts before) {request : SplitRequest} {entries : List String}

include kept

variable {left : List CreateLedgerEntryInput} {id : String} {input : CreateLedgerEntryInput} {row : LedgerEntry}

theorem Kept.inserted (found : before.calls[index]? = some (.recording request entries (input :: left)))
    (made : input.row id request = some row) (orderly : isOrderly amounts before (.insertEntry index id) = true) :
    Inserted amounts (before.ledger ++ [row]) request left := by
  have fits := kept.fits _ (List.mem_of_getElem? found)
  have sum : sumOf (input :: left) = input.allocatedAmount + sumOf left := by simp [sumOf]
  cases entries with
  | nil =>
    obtain ⟨places, covered⟩ := fits
    obtain ⟨transaction, amount⟩ := value_row made (places input List.mem_cons_self)
    simp only [isOrderly, found, decide_eq_true_eq] at orderly
    obtain ⟨whole, none⟩ := orderly
    refine ⟨fun input member => places input (List.mem_cons_of_mem _ member), ⟨row, by simp, transaction⟩, ?_⟩
    rw [allocated_append, allocated_of_none none, if_pos transaction, amount, zero_add, ← sum]
    exact covered whole
  | cons first entries =>
    obtain ⟨places, _, covered⟩ := fits
    obtain ⟨transaction, amount⟩ := value_row made (places input List.mem_cons_self)
    refine ⟨fun input member => places input (List.mem_cons_of_mem _ member), ⟨row, by simp, transaction⟩, ?_⟩
    rw [allocated_append, if_pos transaction, amount, add_assoc, ← sum]
    exact covered

theorem Kept.alone (found : before.calls[index]? = some (.recording request entries left))
    (orderly : isOrderly amounts before (.insertEntry index id) = true) {i : ℕ} {call : Call}
    (other : before.calls[i]? = some call) (midway : call.midway = some request.transactionId) : i = index := by
  cases entries with
  | nil =>
    simp only [isOrderly, found, decide_eq_true_eq] at orderly
    have fits := kept.fits call (List.mem_of_getElem? other)
    cases call with
    | recording rival entries left =>
      cases entries with
      | nil => cases midway
      | cons first entries =>
        obtain ⟨_, ⟨entry, member, same⟩, _⟩ := fits
        exact absurd (same.trans (Option.some.inj midway)) (orderly.2 entry member)
    | _ => cases midway
  | cons first entries => exact kept.single i index _ _ other found (by simp [midway]) rfl midway

theorem Kept.insertEntry (found : before.calls[index]? = some (.recording request entries (input :: left)))
    (made : input.row id request = some row) (orderly : isOrderly amounts before (.insertEntry index id) = true) :
    Kept amounts { before.become index (continueRecording request (entries ++ [id]) left) with
      ledger := before.ledger ++ [row] } := by
  have inserted := kept.inserted found made orderly
  have places := kept.fits _ (List.mem_of_getElem? found)
  have transaction : row.transactionId = request.transactionId := by
    obtain ⟨amount, _, rfl⟩ := Option.map_eq_some_iff.mp made
    rfl
  have some : entries ++ [id] ≠ [] := List.append_ne_nil_of_right_ne_nil _ (List.cons_ne_nil _ _)
  have unchanged : ∀ transactionId, transactionId ≠ request.transactionId →
      allocated (before.ledger ++ [row]) transactionId = allocated before.ledger transactionId := by
    intro transactionId apart
    rw [allocated_append, transaction, if_neg apart.symm, add_zero]
  constructor
  · intro call member
    obtain ⟨i, place⟩ := List.mem_iff_getElem?.mp member
    rcases getElem?_set_of_some place with ⟨_, rfl⟩ | ⟨apart, earlier⟩
    · exact inserted.fits some
    · apply (kept.fits call (List.mem_of_getElem? earlier)).carry
      intro transactionId midway recorded
      obtain ⟨entry, present, same⟩ := recorded
      refine ⟨⟨entry, List.mem_append_left _ present, same⟩, unchanged transactionId ?_⟩
      rintro rfl
      exact apart (kept.alone found orderly earlier midway)
  · by_cases last : left = []
    · apply kept.single.enter
      intro call member same
      rw [same, midway_continueRecording request some, if_pos last]
      rfl
    · have live : (continueRecording request (entries ++ [id]) left).midway = Option.some request.transactionId := by
        rw [midway_continueRecording request some, if_neg last]
      cases entries with
      | cons first entries =>
        exact kept.single.set found live fun _ => rfl
      | nil =>
        apply kept.single.enter
        intro call member same
        obtain ⟨i, place⟩ := List.mem_iff_getElem?.mp member
        obtain rfl := kept.alone found orderly place (same.trans live)
        rw [found] at place
        cases place
        rfl
  · intro transactionId recorded quiet
    by_cases same : transactionId = request.transactionId
    · subst same
      have covered := inserted.covered
      have last : left = [] := by
        by_contra more
        obtain ⟨inside, _⟩ := List.getElem?_eq_some_iff.mp found
        refine quiet (continueRecording request (entries ++ [id]) left) (List.mem_set inside _) ?_
        rw [midway_continueRecording request some, if_neg more]
      rw [last] at covered
      simpa [sumOf] using covered
    · rw [unchanged transactionId same]
      apply kept.settled transactionId
      · obtain ⟨entry, member, here⟩ := recorded
        rcases List.mem_append.mp member with earlier | new
        · exact ⟨entry, earlier, here⟩
        · rw [List.mem_singleton.mp new, transaction] at here
          exact absurd here.symm same
      · intro call member midway
        by_cases moved : call = .recording request entries (input :: left)
        · subst moved
          cases entries with
          | nil => cases midway
          | cons first entries => exact same (Option.some.inj midway).symm
        · exact quiet call (mem_set_of_ne member found moved) midway

end

theorem Kept.step (kept : Kept amounts before) (move : step print amounts before label after)
    (orderly : isOrderly amounts before label = true) : Kept amounts after := by
  have moved := step_cases move
  cases label with
  | createRule input => exact moved ▸ kept.start (checkRule_rests _ _)
  | split request => exact moved ▸ kept.start (checkAmount_rests _ _)
  | insertRule index id =>
    obtain ⟨input, rule, found, rfl⟩ := moved
    have next := kept.become found rfl (continueAdding_rests _ id input.recipients)
    exact ⟨next.fits, next.single, next.settled⟩
  | insertRecipient index =>
    obtain ⟨ruleId, recipient, left, row, found, rfl⟩ := moved
    have next := kept.become found rfl (continueAdding_rests _ ruleId left)
    exact ⟨next.fits, next.single, next.settled⟩
  | find index =>
    obtain ⟨request, rule, found, rfl⟩ := moved
    exact kept.become found rfl (checkFound_rests _ rule request)
  | select index =>
    obtain ⟨request, recipients, found, rfl⟩ := moved
    exact kept.become found rfl (allocate_rests _ recipients request)
  | insertEntry index id =>
    obtain ⟨request, entries, input, left, row, found, made, rfl⟩ := moved
    exact kept.insertEntry found made orderly
  | mark index =>
    obtain ⟨request, entries, id, left, found, rfl⟩ := moved
    exact kept.mark found
  | fail index =>
    obtain ⟨call, failed, found, ended, rfl⟩ := moved
    simp only [isOrderly, found] at orderly
    cases call with
    | recording request entries left =>
      cases entries with
      | nil =>
        cases ended
        exact kept.become found rfl ⟨rfl, rfl⟩
      | cons first entries => cases orderly
    | adding ruleId left | marking request entries left => cases orderly
    | inserting input =>
      cases ended
      exact kept.become found rfl ⟨rfl, rfl⟩
    | finding request =>
      cases ended
      exact kept.become found rfl ⟨rfl, rfl⟩
    | selecting request =>
      cases ended
      exact kept.become found rfl ⟨rfl, rfl⟩
    | created ruleId | uncreated ruleId error | returned request entries => cases ended
    | thrown request entries error => cases ended

/-- In every such run a call that fails leaves nothing, and the entries of a transaction that is not being
split sum to no more than its amount. -/
theorem splits_sound {rules : List SplitPaymentRule} {recipients : List SplitPaymentRecipient} {trace : List Label}
    {last : Tables} (run : Run (step print amounts) (.stored rules recipients) trace last)
    (orderly : Throughout (step print amounts) (.stored rules recipients)
      (fun before label _ => isOrderly amounts before label = true) trace) : Sound amounts last := by
  have kept : Kept amounts last := by
    apply (run.restrict orderly).invariant (fun _ tables => Kept amounts tables)
    · exact kept_stored rules recipients
    · intro _ before label after kept move
      exact kept.step move.1 move.2
  exact kept.sound

def family : CreateRuleInput :=
  ⟨"Family", none, [⟨"user", "ann", none, "percentage", some 60, none⟩, ⟨"user", "bob", none, "percentage", some 40, none⟩],
    none⟩

def payday : SplitRequest := ⟨"t", "r", "XAF", true⟩

/-- A rule is created and applied, and a call that comes too early fails. -/
def applied : List Label :=
  [.split payday, .createRule family, .find 0, .insertRule 1 "r", .insertRecipient 1, .insertRecipient 1, .split payday,
    .find 2, .select 2, .insertEntry 2 "e", .insertEntry 2 "f", .mark 2, .mark 2]

theorem applied_sound : ∃ last : Tables, allocated last.ledger "t" = 1000 ∧ Sound (fun _ => 1000) last := by
  have followed : (applied.foldlM (Tables.perform (fun _ => "") fun _ => 1000) (.stored [] [])).map
      (fun tables => allocated tables.ledger "t") = some 1000 := by decide +kernel
  obtain ⟨last, reached, sum⟩ := Option.map_eq_some_iff.mp followed
  refine ⟨last, sum, splits_sound (Run.follow reached) ?_⟩
  exact throughout_follow (by decide +kernel)

/-- The second insert of a recipient fails. -/
def interrupted : List Label :=
  [.createRule family, .insertRule 0 "r", .insertRecipient 0, .fail 0]

theorem interrupted_not_sound : ¬∀ (print : ℚ → String) (amounts : String → ℚ) (trace : List Label) (last : Tables),
    Run (step print amounts) (.stored [] []) trace last → Sound amounts last := by
  intro always
  have followed : (interrupted.foldlM (Tables.perform (fun _ => "") fun _ => 1000) (.stored [] [])).map
      (fun tables => (tables.calls, tables.rules.map SplitPaymentRule.id)) =
        some ([.uncreated (some "r") .statement], ["r"]) := by decide +kernel
  obtain ⟨last, reached, same⟩ := Option.map_eq_some_iff.mp followed
  obtain ⟨calls, rules⟩ := Prod.mk.inj same
  have sound := always _ _ _ last (Run.follow reached)
  have failed : Call.uncreated (some "r") .statement ∈ last.calls := by
    rw [calls]
    exact List.mem_cons_self
  have stored : "r" ∈ last.rules.map SplitPaymentRule.id := by
    rw [rules]
    exact List.mem_cons_self
  obtain ⟨rule, member, named⟩ := List.mem_map.mp stored
  exact (sound.rules "r" .statement failed).1 rule member named

end ProxyPay.Splits
