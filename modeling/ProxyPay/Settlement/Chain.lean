import Mathlib.Data.Int.Notation
import Mathlib.Data.List.Nodup
import ProxyPay.Library.Exclusive
import ProxyPay.Library.Transition

/-! `SettlementStatusService` for one transaction: calls of `advanceStage` that read the stage, insert into
`settlement_status_log` and update the row of the transaction, one statement at a time. -/

namespace ProxyPay.Settlement

inductive SettlementStage where
  | INITIATED
  | PROVIDER_ACCEPTED
  | MOBILE_MONEY_CONFIRMED
  | STELLAR_SUBMITTED
  | STELLAR_CONFIRMED
  | PAYOUT_INITIATED
  | COMPLETED
  | FAILED
  | CANCELLED
  deriving DecidableEq

open SettlementStage

def SettlementStage.text : SettlementStage → String
  | INITIATED => "INITIATED"
  | PROVIDER_ACCEPTED => "PROVIDER_ACCEPTED"
  | MOBILE_MONEY_CONFIRMED => "MOBILE_MONEY_CONFIRMED"
  | STELLAR_SUBMITTED => "STELLAR_SUBMITTED"
  | STELLAR_CONFIRMED => "STELLAR_CONFIRMED"
  | PAYOUT_INITIATED => "PAYOUT_INITIATED"
  | COMPLETED => "COMPLETED"
  | FAILED => "FAILED"
  | CANCELLED => "CANCELLED"

def STAGE_ORDER : List SettlementStage :=
  [INITIATED, PROVIDER_ACCEPTED, MOBILE_MONEY_CONFIRMED, STELLAR_SUBMITTED, STELLAR_CONFIRMED, PAYOUT_INITIATED,
    COMPLETED]

def TERMINAL_STAGES : List SettlementStage := [COMPLETED, FAILED, CANCELLED]

variable (stage : SettlementStage)

/-- `STAGE_ORDER.indexOf` -/
def indexOf : ℤ :=
  match STAGE_ORDER.idxOf? stage with
  | some index => index
  | none => -1

def stageProgressPercent : ℤ :=
  if stage = FAILED ∨ stage = CANCELLED then 0
  else
    let idx := indexOf stage
    if idx < 0 then 0
    -- the nearest integer
    else (2 * 100 * (idx + 1) + STAGE_ORDER.length) / (2 * STAGE_ORDER.length)

def isTerminal (stage : Option SettlementStage) : Bool :=
  match stage with
  | some stage => TERMINAL_STAGES.contains stage
  | none => false

def isValidStageTransition (source : Option SettlementStage) (target : SettlementStage) : Bool :=
  if isTerminal source then false
  else if target = FAILED ∨ target = CANCELLED then true
  else
    match source with
    | none => target = INITIATED
    | some source => indexOf target = indexOf source + 1

structure SettlementStatusRecord where
  stage : SettlementStage
  previousStage : Option SettlementStage
  deriving DecidableEq

structure SettlementStatusPayload where
  stage : SettlementStage
  previousStage : Option SettlementStage
  progressPercent : ℤ
  isTerminal : Bool
  deriving DecidableEq

def SettlementStatusRecord.payload (record : SettlementStatusRecord) : SettlementStatusPayload :=
  ⟨record.stage, record.previousStage, stageProgressPercent record.stage, isTerminal (some record.stage)⟩

/-- Where a call of `advanceStage` stands: before its read, its insert or its update, or how it ended. -/
inductive Call where
  | reading (stage : SettlementStage)
  | inserting (record : SettlementStatusRecord)
  | updating (record : SettlementStatusRecord)
  | returned (payload : SettlementStatusPayload)
  | thrown (message : String)
  deriving DecidableEq

/-- The row of the transaction, its rows in `settlement_status_log` in the order of their inserts, and the
calls. -/
structure Tracking where
  settlementStage : Option SettlementStage
  log : List SettlementStatusRecord
  calls : List Call
  deriving DecidableEq

def Tracking.initial : Tracking := ⟨none, [], []⟩

inductive Label where
  | call (stage : SettlementStage)
  | read (index : ℕ)
  | insert (index : ℕ)
  | update (index : ℕ)
  deriving DecidableEq

/-- What follows the read: the transition is checked at once. -/
def validate (currentStage : Option SettlementStage) (stage : SettlementStage) : Call :=
  if isValidStageTransition currentStage stage then .inserting ⟨stage, currentStage⟩
  else
    .thrown ("Invalid stage transition: " ++ (currentStage.map SettlementStage.text).getD "null" ++ " → " ++ stage.text)

/-- A row that conflicts with the rows of the table is not inserted. -/
def Tracking.perform (conflicts : List SettlementStatusRecord → SettlementStatusRecord → Bool)
    (tracking : Tracking) : Label → Option Tracking
  | .call stage => some { tracking with calls := tracking.calls ++ [.reading stage] }
  | .read index =>
    match tracking.calls[index]? with
    | some (.reading stage) =>
      some { tracking with calls := tracking.calls.set index (validate tracking.settlementStage stage) }
    | _ => none
  | .insert index =>
    match tracking.calls[index]? with
    | some (.inserting record) =>
      some { tracking with
        log := if conflicts tracking.log record then tracking.log else tracking.log ++ [record]
        calls := tracking.calls.set index (.updating record) }
    | _ => none
  | .update index =>
    match tracking.calls[index]? with
    | some (.updating record) =>
      some { tracking with
        settlementStage := some record.stage
        calls := tracking.calls.set index (.returned record.payload) }
    | _ => none

def step (conflicts : List SettlementStatusRecord → SettlementStatusRecord → Bool) (before : Tracking)
    (label : Label) (after : Tracking) : Prop :=
  before.perform conflicts label = some after

end ProxyPay.Settlement

/-! The logged transitions are a chain in every run in which no call reads the stage between the read and the
update of another. -/

namespace ProxyPay.Settlement

open ProxyPay.Library
open SettlementStage

/-- One step of a settlement: its first stage, the next one, or its end. -/
inductive Advances : Option SettlementStage → SettlementStage → Prop where
  | first : Advances none INITIATED
  | next {position : ℕ} {source target : SettlementStage} (here : STAGE_ORDER[position]? = some source)
      (there : STAGE_ORDER[position + 1]? = some target) : Advances (some source) target
  | failed {source : Option SettlementStage} (open_ : isTerminal source = false) : Advances source FAILED
  | cancelled {source : Option SettlementStage} (open_ : isTerminal source = false) : Advances source CANCELLED

theorem indexOf_eq_iff (stage : SettlementStage) (position : ℕ) :
    indexOf stage = position ↔ STAGE_ORDER[position]? = some stage := by
  by_cases inside : position < STAGE_ORDER.length
  · have every : ∀ position < STAGE_ORDER.length, indexOf stage = position ↔ STAGE_ORDER[position]? = some stage := by
      cases stage <;> decide
    exact every position inside
  · rw [List.getElem?_eq_none (Nat.not_lt.mp inside)]
    have bound : indexOf stage < STAGE_ORDER.length := by cases stage <;> decide
    constructor
    · omega
    · nofun

variable {source : Option SettlementStage} {target : SettlementStage}

theorem isValidStageTransition_iff : isValidStageTransition source target = true ↔ Advances source target := by
  unfold isValidStageTransition
  constructor
  · intro valid
    by_cases ended : isTerminal source = true
    · rw [if_pos ended] at valid
      cases valid
    · rw [if_neg ended] at valid
      rw [Bool.not_eq_true] at ended
      by_cases failed : target = FAILED
      · exact failed ▸ .failed ended
      · by_cases cancelled : target = CANCELLED
        · exact cancelled ▸ .cancelled ended
        · rw [if_neg (by simp [failed, cancelled])] at valid
          cases source with
          | none => exact of_decide_eq_true valid ▸ .first
          | some source =>
            -- A stage that is not at its end has a place in the order.
            have placed : ∃ position : ℕ, indexOf source = position := by
              cases source <;> first | exact ⟨_, rfl⟩ | cases ended
            obtain ⟨position, place⟩ := placed
            have next := of_decide_eq_true valid
            rw [place] at next
            exact .next ((indexOf_eq_iff source position).mp place) ((indexOf_eq_iff target (position + 1)).mp next)
  · intro advances
    cases advances with
    | first => rfl
    | @next position source target here there =>
      have first : indexOf source = position := (indexOf_eq_iff source position).mpr here
      have second : indexOf target = (position + 1 : ℕ) := (indexOf_eq_iff target (position + 1)).mpr there
      have placed : 0 ≤ indexOf source := by omega
      have following : indexOf target = indexOf source + 1 := by omega
      change isValidStageTransition (some source) target = true
      clear here there first second
      revert placed following
      cases source <;> cases target <;> decide
    | failed open_ => rw [if_neg (by simp [open_]), if_pos (.inl rfl)]
    | cancelled open_ => rw [if_neg (by simp [open_]), if_pos (.inr rfl)]

theorem Advances.open_ (advances : Advances source target) : isTerminal source = false := by
  have valid := (isValidStageTransition_iff).mpr advances
  unfold isValidStageTransition at valid
  by_contra ended
  rw [Bool.not_eq_false] at ended
  rw [if_pos ended] at valid
  cases valid

def lastStage (log : List SettlementStatusRecord) : Option SettlementStage :=
  log.getLast?.map SettlementStatusRecord.stage

/-- Each entry advances the stage of the one before it. -/
inductive Chained : List SettlementStatusRecord → Prop where
  | nil : Chained []
  | snoc {log : List SettlementStatusRecord} {record : SettlementStatusRecord} (chained : Chained log)
      (follows : record.previousStage = lastStage log) (advances : Advances record.previousStage record.stage) :
      Chained (log ++ [record])

theorem lastStage_snoc (log : List SettlementStatusRecord) (record : SettlementStatusRecord) :
    lastStage (log ++ [record]) = some record.stage := by
  simp [lastStage]

def Call.isUnderWay : Call → Bool
  | .inserting _ => true
  | .updating _ => true
  | _ => false

variable {conflicts : List SettlementStatusRecord → SettlementStatusRecord → Bool} {before after : Tracking} {index : ℕ}

variable {label : Label}

theorem step_cases (move : step conflicts before label after) :
    match label with
    | .call stage => after = { before with calls := before.calls ++ [.reading stage] }
    | .read index => ∃ stage, before.calls[index]? = some (.reading stage) ∧
        after = { before with calls := before.calls.set index (validate before.settlementStage stage) }
    | .insert index => ∃ record, before.calls[index]? = some (.inserting record) ∧
        after = { before with
          log := if conflicts before.log record then before.log else before.log ++ [record]
          calls := before.calls.set index (.updating record) }
    | .update index => ∃ record, before.calls[index]? = some (.updating record) ∧
        after = { before with
          settlementStage := some record.stage
          calls := before.calls.set index (.returned record.payload) } := by
  cases label with
  | call stage => exact (Option.some.inj move).symm
  | read index | insert index | update index => grind [step, Tracking.perform]

/-- A call that reads a stage which it may advance is the only one under way, and its row is inserted. -/
def isUndisturbed (conflicts : List SettlementStatusRecord → SettlementStatusRecord → Bool) (tracking : Tracking) :
    Label → Bool
  | .read index =>
    match tracking.calls[index]? with
    | some (.reading stage) =>
      isValidStageTransition tracking.settlementStage stage → tracking.calls.all fun call => !call.isUnderWay
    | _ => true
  | .insert index =>
    match tracking.calls[index]? with
    | some (.inserting record) => !conflicts tracking.log record
    | _ => true
  | _ => true

/-- The log is a chain; its end is the stored stage, but for one call that is under way. -/
structure Kept (tracking : Tracking) : Prop where
  chained : Chained tracking.log
  single : Exclusive (fun _ => ()) Call.isUnderWay tracking.calls
  calm : (∀ call ∈ tracking.calls, call.isUnderWay = false) → tracking.settlementStage = lastStage tracking.log
  inserting : ∀ record, Call.inserting record ∈ tracking.calls → tracking.settlementStage = lastStage tracking.log ∧
    record.previousStage = tracking.settlementStage ∧ Advances record.previousStage record.stage
  updating : ∀ record, Call.updating record ∈ tracking.calls → lastStage tracking.log = some record.stage ∧
    isTerminal tracking.settlementStage = false

theorem kept_initial : Kept .initial := by
  constructor
  · exact .nil
  · exact .nil
  · intro _
    rfl
  · nofun
  · nofun

section

variable (kept : Kept before)

include kept

theorem Kept.others {call : Call} (found : before.calls[index]? = some call)
    (underWay : call.isUnderWay = true) (new : Call) :
    ∀ other ∈ before.calls.set index new, other = new ∨ other.isUnderWay = false := by
  intro other member
  obtain ⟨i, place⟩ := List.mem_iff_getElem?.mp member
  rcases getElem?_set_of_some place with ⟨_, same⟩ | ⟨apart, earlier⟩
  · exact .inl same
  · right
    by_contra alive
    rw [Bool.not_eq_false] at alive
    exact apart (kept.single i index other call earlier found alive underWay rfl)

theorem Kept.call (stage : SettlementStage) : Kept { before with calls := before.calls ++ [.reading stage] } := by
  constructor
  · exact kept.chained
  · exact kept.single.append_idle rfl
  · intro idle
    exact kept.calm fun call member => idle call (List.mem_append_left _ member)
  · intro record member
    exact kept.inserting record (by simpa using member)
  · intro record member
    exact kept.updating record (by simpa using member)

theorem Kept.read {stage : SettlementStage} (found : before.calls[index]? = some (.reading stage))
    (undisturbed : isUndisturbed conflicts before (.read index) = true) :
    Kept { before with calls := before.calls.set index (validate before.settlementStage stage) } := by
  unfold validate
  by_cases valid : isValidStageTransition before.settlementStage stage = true
  · rw [if_pos valid]
    have idle : ∀ call ∈ before.calls, call.isUnderWay = false := by simp_all [isUndisturbed, decide_eq_true_eq]
    have stored := kept.calm idle
    have others : ∀ other ∈ before.calls.set index (.inserting ⟨stage, before.settlementStage⟩),
        other = .inserting ⟨stage, before.settlementStage⟩ ∨ other.isUnderWay = false := by
      intro other member
      rcases List.mem_or_eq_of_mem_set member with earlier | same
      · exact .inr (idle other earlier)
      · exact .inl same
    constructor
    · exact kept.chained
    · exact kept.single.enter fun call member _ => idle call member
    · intro _
      exact stored
    · intro record member
      rcases others _ member with same | ended
      · cases same
        exact ⟨stored, rfl, (isValidStageTransition_iff).mp valid⟩
      · cases ended
    · intro record member
      rcases others _ member with same | ended
      · cases same
      · cases ended
  · rw [if_neg valid]
    constructor
    · exact kept.chained
    · exact kept.single.set found rfl fun alive => by cases alive
    · intro idle
      apply kept.calm
      intro call member
      by_cases same : call = .reading stage
      · rw [same]
        rfl
      · exact idle call (mem_set_of_ne member found same)
    · intro record member
      rcases List.mem_or_eq_of_mem_set member with earlier | same
      · exact kept.inserting record earlier
      · cases same
    · intro record member
      rcases List.mem_or_eq_of_mem_set member with earlier | same
      · exact kept.updating record earlier
      · cases same

variable {record : SettlementStatusRecord}

theorem Kept.insert (found : before.calls[index]? = some (.inserting record)) :
    Kept { before with log := before.log ++ [record], calls := before.calls.set index (.updating record) } := by
  obtain ⟨same, previous, advances⟩ := kept.inserting record (List.mem_of_getElem? found)
  have others := kept.others found rfl (.updating record)
  constructor
  · exact kept.chained.snoc (previous.trans same) advances
  · exact kept.single.set found rfl fun _ => rfl
  · intro idle
    obtain ⟨inside, _⟩ := List.getElem?_eq_some_iff.mp found
    have now := idle (.updating record) (List.mem_set inside _)
    cases now
  · intro other member
    rcases others _ member with same | idle
    · cases same
    · cases idle
  · intro other member
    rcases others _ member with same | idle
    · cases same
      exact ⟨lastStage_snoc _ _, previous ▸ advances.open_⟩
    · cases idle

theorem Kept.update (found : before.calls[index]? = some (.updating record)) : Kept { before with
      settlementStage := some record.stage, calls := before.calls.set index (.returned record.payload) } := by
  have last := (kept.updating record (List.mem_of_getElem? found)).1
  have others := kept.others found rfl (.returned record.payload)
  constructor
  · exact kept.chained
  · exact kept.single.set found rfl fun alive => by cases alive
  · intro _
    exact last.symm
  · intro other member
    rcases others _ member with same | idle
    · cases same
    · cases idle
  · intro other member
    rcases others _ member with same | idle
    · cases same
    · cases idle

theorem Kept.step (move : step conflicts before label after)
    (undisturbed : isUndisturbed conflicts before label = true) : Kept after := by
  have moved := step_cases move
  cases label with
  | call stage => exact moved ▸ kept.call stage
  | read index =>
    obtain ⟨stage, found, rfl⟩ := moved
    exact kept.read found undisturbed
  | insert index =>
    obtain ⟨record, found, rfl⟩ := moved
    have inserted : conflicts before.log record = false := by simpa [isUndisturbed, found] using undisturbed
    rw [inserted]
    exact kept.insert found
  | update index =>
    obtain ⟨record, found, rfl⟩ := moved
    exact kept.update found

end

/-! The end of a settlement. -/

structure Over (tracking : Tracking) : Prop where
  terminal : isTerminal tracking.settlementStage = true
  idle : ∀ call ∈ tracking.calls, call.isUnderWay = false

theorem Kept.over (kept : Kept before) (terminal : isTerminal before.settlementStage = true) : Over before := by
  refine ⟨terminal, ?_⟩
  intro call member
  cases call with
  | reading stage => rfl
  | inserting record =>
    obtain ⟨_, previous, advances⟩ := kept.inserting record member
    have unended := advances.open_
    rw [previous, terminal] at unended
    cases unended
  | updating record =>
    have unended := (kept.updating record member).2
    rw [terminal] at unended
    cases unended
  | returned payload | thrown message => rfl

theorem Over.step (ended : Over before) (move : step conflicts before label after) :
    Over after ∧ after.log = before.log ∧ after.settlementStage = before.settlementStage := by
  obtain ⟨terminal, idle⟩ := ended
  have moved := step_cases move
  cases label with
  | call stage =>
    dsimp only at moved
    subst moved
    refine ⟨⟨terminal, ?_⟩, rfl, rfl⟩
    refine forall_mem_append_singleton idle ?_
    rfl
  | read index =>
    obtain ⟨stage, found, rfl⟩ := moved
    refine ⟨⟨terminal, ?_⟩, rfl, rfl⟩
    refine forall_mem_set idle ?_
    unfold validate isValidStageTransition
    rw [if_pos terminal]
    rfl
  | insert index =>
    obtain ⟨record, found, _⟩ := moved
    cases idle _ (List.mem_of_getElem? found)
  | update index =>
    obtain ⟨record, found, _⟩ := moved
    cases idle _ (List.mem_of_getElem? found)

/-- One call after the other, and one that comes too late. -/
def oneByOne : List Label :=
  [.call INITIATED, .read 0, .call FAILED, .insert 0, .update 0, .read 1, .insert 1, .update 1, .call COMPLETED, .read 2]

theorem Chained.last {log : List SettlementStatusRecord}
    (chained : Chained (log ++ [record])) : record.previousStage = lastStage log := by
  generalize whole : log ++ [record] = entries at chained
  cases chained with
  | nil => simp at whole
  | snoc chained follows advances => simp_all

/-- Both calls read the stage before one of them stores it. -/
def together : List Label :=
  [.call INITIATED, .call INITIATED, .read 0, .read 1, .insert 0, .insert 1, .update 0, .update 1]

end ProxyPay.Settlement
