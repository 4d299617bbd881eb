import ProxyPay.AssetWorkflow.Service
import ProxyPay.Library.Exclusive
import ProxyPay.Library.Transition

/-! Assets are issued once and after approval if the calls on each request take turns. -/

namespace ProxyPay.AssetWorkflow

open ProxyPay.Library

variable (workflow : Workflow)

def Workflow.isFree (request : ℕ) : Bool :=
  workflow.calls.all fun call => call.request ≠ request || !call.isBusy

/-- A call reads what is stored, while no other call on the request is under way. -/
def isAlone (before : Workflow) : Label → Bool
  | .read index lag => before.calls[index]?.all fun call =>
      call.phase ≠ .reading || (lag = 0 && before.isFree call.request)
  | _ => true

/-- What becomes of the write of `completed` is known. -/
def isClear (before : Workflow) : Label → Bool
  | .write index tookEffect answered => before.calls[index]?.all fun call =>
      call.phase ≠ .writing .completed || !tookEffect || answered
  | _ => true

/-- An issued asset is reported, and the write of `completed` succeeds. -/
def isAcknowledged (before : Workflow) : Label → Bool
  | .write index tookEffect answered => before.calls[index]?.all fun call =>
      call.phase ≠ .writing .completed || (tookEffect && answered)
  | .settle _ issued returned => !issued || returned
  | _ => true

/-- The statuses that a request may have when a call does this next. -/
def Phase.allows (status : AssetWorkflowStatus) : Phase → Bool
  | .writing .pendingApproval => status = .draft
  | .writing .approved | .writing .rejected | .writing .draft => status = .pendingApproval
  | .writing .issuing => status = .approved
  | .calling | .answering | .writing .completed => status = .issuing
  | .writing .failed => status = .issuing || status = .completed
  | .reading | .returning | .ended => true

def Call.Fits (call : Call) (stored : Stored) : Prop :=
  call.phase.allows stored.now.status = true

def AssetWorkflowStatus.isEarly : AssetWorkflowStatus → Bool
  | .draft | .pendingApproval | .approved => true
  | _ => false

def Workflow.isSetUp (request : ℕ) : Bool :=
  workflow.setups.any fun setup => setup.request = request

/-- The approval is known, and nothing has been set up for it. -/
def Workflow.Awaits (call : Call) : Prop :=
  call.phase = .writing .issuing ∨ call.phase = .calling → workflow.isSetUp call.request = false ∧
    ∀ approverId action notes, call.operation = .approveRequest approverId action notes →
      (call.request, approverId) ∈ workflow.approvals

structure Kept (workflow : Workflow) : Prop where
  alone : Exclusive Call.request Call.isBusy workflow.calls
  placed : Placed Call.request Call.isBusy workflow.requests workflow.calls
  fits : Related Call.request Call.Fits workflow.requests workflow.calls
  awaits : ∀ call ∈ workflow.calls, workflow.Awaits call
  early : ∀ (id : ℕ) stored, workflow.requests[id]? = some stored → stored.now.status.isEarly = true →
    workflow.isSetUp id = false
  known : ∀ setup ∈ workflow.setups, setup.request < workflow.requests.length
  once : ∀ request, (workflow.setups.countP fun setup => setup.request = request) ≤ 1
  approved : ∀ setup ∈ workflow.setups, (setup.request, setup.approverId) ∈ workflow.approvals

variable {before after : Workflow} {label : Label} {call : Call} {stored : Stored} {phase : Phase}
variable {status : AssetWorkflowStatus} {index id : ℕ}

/-- What a step can do. -/
inductive Change (before : Workflow) : Label → Workflow → Prop where
  | create (assetCode limit : String) : Change before (.createRequest assetCode limit)
      { before with requests := before.requests ++ [⟨⟨assetCode, limit, .draft, none, none⟩, []⟩] }
  | start (label : Label) (call : Call) (reading : call.phase = .reading) : Change before label (before.start call)
  | done (label : Label) (index : ℕ) (call : Call) (found : before.calls[index]? = some call)
      (resting : call.phase = .reading ∨ call.phase = .returning) : Change before label (before.goOn index call .ended)
  | read (index lag : ℕ) (call : Call) (stored : Stored) (row : AssetIssuanceRequest)
      (found : before.calls[index]? = some call) (reading : call.phase = .reading)
      (present : before.requests[call.request]? = some stored) (shown : (stored.now :: stored.past)[lag]? = some row) :
      Change before (.read index lag) (before.goOn index call (call.operation.onRead row.status))
  | store (index : ℕ) (answered : Bool) (call : Call) (stored : Stored) (status : AssetWorkflowStatus)
      (found : before.calls[index]? = some call) (present : before.requests[call.request]? = some stored)
      (writes : call.phase = .writing status) : Change before (.write index true answered)
        ((before.store call status stored).goOn index call (if answered then .afterWrite status else .afterError status))
  | miss (index : ℕ) (call : Call) (stored : Stored) (status : AssetWorkflowStatus)
      (found : before.calls[index]? = some call) (present : before.requests[call.request]? = some stored)
      (writes : call.phase = .writing status) :
      Change before (.write index false false) (before.goOn index call (.afterError status))
  | setup (index : ℕ) (setup : Setup) (action : ApprovalAction) (notes : Option String) (stored : Stored)
      (found : before.calls[index]? = some ⟨setup.request, .approveRequest setup.approverId action notes, .calling⟩)
      (present : before.requests[setup.request]? = some stored) : Change before (.setup index)
        { before.goOn index ⟨setup.request, .approveRequest setup.approverId action notes, .calling⟩ .answering with
          setups := before.setups ++ [setup] }
  | settle (index : ℕ) (issued returned : Bool) (call : Call) (found : before.calls[index]? = some call)
      (answers : call.phase = .answering) : Change before (.settle index issued returned)
        { before.goOn index call (.writing (if returned then .completed else .failed)) with
          issued := before.issued ++ if issued then [call.request] else [] }

theorem change_of_step (move : step before label after) : Change before label after := by
  cases label with
  | createRequest assetCode limit =>
    cases move
    exact .create assetCode limit
  | submitForApproval request =>
    cases move
    exact .start _ _ rfl
  | approveRequest request approverId action notes =>
    cases move
    exact .start _ _ rfl
  | read index lag =>
    simp only [step, Workflow.perform] at move
    split at move
    · cases move
    · rename_i call found
      split at move
      · rename_i reading
        split at move
        · cases move
          exact .done _ index call found (.inl reading)
        · rename_i stored present
          obtain ⟨row, shown, rfl⟩ := Option.map_eq_some_iff.mp move
          exact .read index lag call stored row found reading present shown
      · rename_i returning
        cases move
        exact .done _ index call found (.inr returning)
      · cases move
  | failRead index =>
    simp only [step, Workflow.perform] at move
    split at move
    · cases move
    · rename_i call found
      split at move
      · rename_i resting
        cases move
        exact .done _ index call found resting
      · cases move
  | write index tookEffect answered =>
    simp only [step, Workflow.perform] at move
    split at move
    · cases move
    · rename_i call found
      split at move
      · rename_i status stored writes present
        cases tookEffect with
        | true =>
          cases move
          exact .store index answered call stored status found present writes
        | false =>
          cases answered with
          | true => cases move
          | false =>
            cases move
            exact .miss index call stored status found present writes
      · cases move
  | setup index =>
    simp only [step, Workflow.perform] at move
    split at move
    · rename_i request approverId action notes found
      obtain ⟨stored, present, rfl⟩ := Option.map_eq_some_iff.mp move
      exact .setup index ⟨request, approverId, stored.now.assetCode, stored.now.limit⟩ action notes stored found present
    · cases move
  | settle index issued returned =>
    simp only [step, Workflow.perform] at move
    split at move
    · cases move
    · rename_i call found
      split at move
      · rename_i answers
        cases move
        exact .settle index issued returned call found answers.1
      · cases move

theorem kept_initial : Kept .initial := by
  constructor
  · exact Exclusive.nil
  · exact Placed.nil
  · exact Related.nil
  · nofun
  · nofun
  · nofun
  · intro request
    exact Nat.zero_le 1
  · nofun

theorem fits_of_idle (call : Call) (stored : Stored) (idle : call.isBusy = false) : call.Fits stored := by
  unfold Call.Fits
  unfold Call.isBusy at idle
  cases phase : call.phase <;> rw [phase] at idle <;> first | rfl | cases idle

theorem isSetUp_eq_false_iff : before.isSetUp id = false ↔ ∀ setup ∈ before.setups, setup.request ≠ id := by
  simp [Workflow.isSetUp]

theorem isFree_iff : before.isFree id = true ↔ ∀ call ∈ before.calls, call.request = id → call.isBusy = false := by
  simp only [Workflow.isFree, List.all_eq_true, Bool.or_eq_true, decide_eq_true_eq, Bool.not_eq_true']
  constructor
  · grind
  · grind

theorem Kept.create (kept : Kept before) (row : AssetIssuanceRequest) :
    Kept { before with requests := before.requests ++ [⟨row, []⟩] } := by
  constructor
  · exact kept.alone
  · apply kept.placed.grow
    rw [List.length_append]
    exact Nat.le_add_right _ _
  · exact kept.fits.append_row kept.placed fits_of_idle
  · exact kept.awaits
  · intro id stored found early
    rcases getElem?_append_singleton found with earlier | ⟨rfl, rfl⟩
    · exact kept.early id stored earlier early
    · apply (isSetUp_eq_false_iff).mpr
      intro setup member
      exact Nat.ne_of_lt (kept.known setup member)
  · intro setup member
    rw [List.length_append]
    exact Nat.lt_of_lt_of_le (kept.known setup member) (Nat.le_add_right _ _)
  · exact kept.once
  · exact kept.approved

theorem Kept.start (kept : Kept before) (reading : call.phase = .reading) : Kept (before.start call) := by
  have idle : call.isBusy = false := by
    rw [Call.isBusy, reading]
  constructor
  · exact kept.alone.append_idle idle
  · apply kept.placed.start
    intro busy
    cases idle.symm.trans busy
  · apply kept.fits.start
    intro stored _
    exact fits_of_idle call stored idle
  · refine forall_mem_append_singleton kept.awaits ?_
    intro awaiting
    rw [reading] at awaiting
    rcases awaiting with writing | calling
    · cases writing
    · cases calling
  · exact kept.early
  · exact kept.known
  · exact kept.once
  · exact kept.approved

theorem Kept.goOn (kept : Kept before) (found : before.calls[index]? = some call)
    (busy : ({ call with phase } : Call).isBusy = true → call.isBusy = true ∨
      before.isFree call.request = true ∧ call.request < before.requests.length)
    (fits : ∀ stored, before.requests[call.request]? = some stored → phase.allows stored.now.status = true)
    (apart : phase ≠ .writing .issuing ∧ phase ≠ .calling) : Kept (before.goOn index call phase) := by
  have same : Call.request { call with phase } = call.request := rfl
  constructor
  · by_cases was : ({ call with phase } : Call).isBusy = true → call.isBusy = true
    · exact kept.alone.set found same was
    · obtain ⟨now, idle⟩ := Classical.not_imp.mp was
      rcases busy now with also | ⟨free, _⟩
      · exact absurd also idle
      · apply kept.alone.enter
        intro other member here
        exact (isFree_iff).mp free other member here
  · apply kept.placed.goOn
    intro now
    rcases busy now with was | ⟨_, inside⟩
    · exact kept.placed call (List.mem_of_getElem? found) was
    · exact inside
  · exact kept.fits.goOn fits
  · refine forall_mem_set kept.awaits ?_
    rintro (writing | calling)
    · exact absurd writing apart.1
    · exact absurd calling apart.2
  · exact kept.early
  · exact kept.known
  · exact kept.once
  · exact kept.approved

theorem early_of_write {old : AssetWorkflowStatus} (allowed : (Phase.writing status).allows old = true)
    (early : status.isEarly = true) : old.isEarly = true := by
  cases status with
  | draft | pendingApproval | approved => rw [of_decide_eq_true allowed]; rfl
  | _ => cases early

theorem allows_of_write (next : phase = .afterWrite status ∨ phase = .afterError status) : phase.allows status = true := by
  rcases next with rfl | rfl <;> cases status <;> rfl

theorem busy_of_writing (writes : call.phase = .writing status) : call.isBusy = true := by
  rw [Call.isBusy, writes]

theorem write_of_awaiting (next : phase = .afterWrite status ∨ phase = .afterError status)
    (awaiting : phase = .writing .issuing ∨ phase = .calling) : status = .approved ∨ status = .issuing := by
  rcases next with rfl | rfl <;> cases status <;> simp [Phase.afterWrite, Phase.afterError] at awaiting ⊢

theorem Kept.store (kept : Kept before) (found : before.calls[index]? = some call)
    (present : before.requests[call.request]? = some stored) (writes : call.phase = .writing status)
    (next : phase = .afterWrite status ∨ phase = .afterError status) :
    Kept ((before.store call status stored).goOn index call phase) := by
  have same : Call.request { call with phase } = call.request := rfl
  have busy := busy_of_writing writes
  have member := List.mem_of_getElem? found
  have fits := kept.fits call member stored present
  rw [Call.Fits, writes] at fits
  constructor
  · exact kept.alone.set found same fun _ => busy
  · apply Placed.goOn
    · exact kept.placed.grow (Nat.le_of_eq List.length_set.symm)
    · intro _
      exact Nat.lt_of_lt_of_eq (kept.placed call member busy) List.length_set.symm
  · exact kept.fits.write kept.alone found busy same fits_of_idle (allows_of_write next)
  · intro other present
    rcases List.mem_or_eq_of_mem_set present with earlier | rfl
    · intro awaiting
      obtain ⟨fresh, approved⟩ := kept.awaits other earlier awaiting
      exact ⟨fresh, fun approverId action notes same => List.mem_append_left _ (approved approverId action notes same)⟩
    · intro awaiting
      rcases write_of_awaiting next awaiting with rfl | rfl
      · have pending : stored.now.status = .pendingApproval := of_decide_eq_true fits
        refine ⟨kept.early call.request stored ‹_› (by rw [pending]; rfl), ?_⟩
        intro approverId action notes approves
        apply List.mem_append_right
        have operation : call.operation = .approveRequest approverId action notes := approves
        simp [Call.approval, operation, pending]
      · obtain ⟨fresh, approved⟩ := kept.awaits call member (.inl writes)
        exact ⟨fresh, fun approverId action notes same => List.mem_append_left _ (approved approverId action notes same)⟩
  · intro id other there early
    rcases getElem?_set_of_some there with ⟨rfl, rfl⟩ | ⟨_, earlier⟩
    · exact kept.early call.request stored present (early_of_write fits early)
    · exact kept.early id other earlier early
  · intro setup there
    exact Nat.lt_of_lt_of_eq (kept.known setup there) List.length_set.symm
  · exact kept.once
  · intro setup there
    exact List.mem_append_left _ (kept.approved setup there)

theorem Kept.setup (kept : Kept before) (setup : Setup) {action : ApprovalAction} {notes : Option String}
    (found : before.calls[index]? = some ⟨setup.request, .approveRequest setup.approverId action notes, .calling⟩)
    (present : before.requests[setup.request]? = some stored) :
    Kept { before.goOn index ⟨setup.request, .approveRequest setup.approverId action notes, .calling⟩ .answering with
      setups := before.setups ++ [setup] } := by
  have member := List.mem_of_getElem? found
  have inside := kept.placed _ member rfl
  obtain ⟨fresh, approved⟩ := kept.awaits _ member (.inr rfl)
  have issuing : stored.now.status = .issuing := of_decide_eq_true (kept.fits _ member stored present)
  have grown : ∀ id, id ≠ setup.request → before.isSetUp id = false →
      ({ before with setups := before.setups ++ [setup] } : Workflow).isSetUp id = false := by
    intro id other none
    rw [Workflow.isSetUp, List.any_append, Bool.or_eq_false_iff]
    exact ⟨none, by simp [Ne.symm other]⟩
  constructor
  · exact kept.alone.set found rfl fun _ => rfl
  · exact kept.placed.goOn fun _ => inside
  · apply kept.fits.goOn
    intro other there
    exact kept.fits _ member other there
  · intro other there
    obtain ⟨i, place⟩ := List.mem_iff_getElem?.mp there
    rcases getElem?_set_of_some place with ⟨_, rfl⟩ | ⟨apart, earlier⟩
    · nofun
    · intro awaiting
      obtain ⟨unset, known⟩ := kept.awaits other (List.mem_of_getElem? earlier) awaiting
      refine ⟨grown other.request ?_ unset, known⟩
      intro same
      have idle : other.isBusy = false := kept.alone.idle_of_ne found rfl apart earlier same
      rcases awaiting with writing | calling
      · cases idle.symm.trans (busy_of_writing writing)
      · rw [Call.isBusy, calling] at idle
        cases idle
  · intro id other there early
    apply grown id
    · rintro rfl
      cases present.symm.trans there
      rw [issuing] at early
      cases early
    · exact kept.early id other there early
  · exact forall_mem_append_singleton kept.known inside
  · intro request
    rw [List.countP_append]
    by_cases here : setup.request = request
    · subst here
      have none : (before.setups.countP fun other => other.request = setup.request) = 0 := by
        apply List.countP_eq_zero.mpr
        intro other there same
        exact (isSetUp_eq_false_iff).mp fresh other there (of_decide_eq_true same)
      rw [none]
      simp
    · simpa [here] using kept.once request
  · exact forall_mem_append_singleton kept.approved (approved _ _ _ rfl)

theorem onRead_cases (operation : Operation) (status : AssetWorkflowStatus) : operation.onRead status = .ended ∨
    ∃ target, operation.onRead status = .writing target ∧ (target ≠ .issuing ∧ target ≠ .failed) ∧
      (Phase.writing target).allows status = true := by
  cases operation with
  | submitForApproval =>
    by_cases draft : status = .draft
    · exact .inr ⟨.pendingApproval, if_pos draft, by decide, decide_eq_true draft⟩
    · exact .inl (if_neg draft)
  | approveRequest approverId action notes =>
    by_cases pending : status = .pendingApproval
    · right
      refine ⟨action.status, if_pos pending, ?_, ?_⟩
      · cases action <;> decide
      · cases action <;> exact decide_eq_true pending
    · exact .inl (if_neg pending)

theorem afterError_apart (status : AssetWorkflowStatus) :
    Phase.afterError status ≠ .writing .issuing ∧ Phase.afterError status ≠ .calling := by
  cases status <;> constructor <;> intro same <;> cases same

theorem Kept.done (kept : Kept before) (found : before.calls[index]? = some call) : Kept (before.goOn index call .ended) := by
  apply kept.goOn found
  · nofun
  · intro stored _
    rfl
  · constructor <;> intro same <;> cases same

theorem Kept.miss (kept : Kept before) (found : before.calls[index]? = some call) (writes : call.phase = .writing status) :
    Kept (before.goOn index call (.afterError status)) := by
  apply kept.goOn found
  · intro _
    exact .inl (busy_of_writing writes)
  · intro stored present
    have fits := kept.fits call (List.mem_of_getElem? found) stored present
    rw [Call.Fits, writes] at fits
    cases status with
    | completed =>
      rw [show stored.now.status = .issuing from of_decide_eq_true fits]
      rfl
    | _ => rfl
  · exact afterError_apart status

theorem Kept.step (kept : Kept before) (change : Change before label after) (single : isAlone before label = true) :
    Kept after := by
  cases change with
  | create assetCode limit => exact kept.create _
  | start label call reading => exact kept.start reading
  | done label index call found resting => exact kept.done found
  | read index lag call stored row found reading present shown =>
    have alone : lag = 0 ∧ before.isFree call.request = true := by simpa [isAlone, found, reading] using single
    obtain rfl := alone.1
    cases shown
    rcases onRead_cases call.operation stored.now.status with ended | ⟨target, writes, other, allowed⟩
    · rw [ended]
      exact kept.done found
    · rw [writes]
      apply kept.goOn found
      · grind
      · simp_all
      · exact ⟨fun same => other.1 (Phase.writing.inj same), Phase.noConfusion⟩
  | store index answered call stored status found present writes =>
    apply kept.store found present writes
    cases answered with
    | true => exact .inl rfl
    | false => exact .inr rfl
  | miss index call stored status found present writes => exact kept.miss found writes
  | setup index setup action notes stored found present => exact kept.setup setup found present
  | settle index issued returned call found answers =>
    have gone : Kept (before.goOn index call (.writing (if returned then .completed else .failed))) := by
      apply kept.goOn found
      · intro _
        left
        rw [Call.isBusy, answers]
      · intro stored present
        have fits := kept.fits call (List.mem_of_getElem? found) stored present
        rw [Call.Fits, answers] at fits
        rw [show stored.now.status = .issuing from of_decide_eq_true fits]
        cases returned <;> rfl
      · cases returned <;> constructor <;> intro same <;> cases same
    exact ⟨gone.alone, gone.placed, gone.fits, gone.awaits, gone.early, gone.known, gone.once, gone.approved⟩

/-- A call that is to fail its request finds it unfinished. -/
def Call.Strict (call : Call) (stored : Stored) : Prop :=
  call.phase = .writing .failed → stored.now.status = .issuing

def Strict (workflow : Workflow) : Prop :=
  Related Call.request Call.Strict workflow.requests workflow.calls

theorem strict_of_idle (call : Call) (stored : Stored) (idle : call.isBusy = false) : call.Strict stored := by
  intro writes
  cases idle.symm.trans (busy_of_writing writes)

theorem Strict.goOn (strict : Strict before) (apart : phase ≠ .writing .failed) : Strict (before.goOn index call phase) := by
  apply Related.goOn strict
  intro stored _ writes
  exact absurd writes apart

theorem Strict.step (strict : Strict before) (kept : Kept before) (change : Change before label after)
    (clear : isClear before label = true) : Strict after := by
  cases change with
  | create assetCode limit => exact Related.append_row strict kept.placed strict_of_idle
  | start label call reading =>
    apply Related.start strict
    intro stored _ writes
    cases reading.symm.trans writes
  | done label index call found resting => exact strict.goOn Phase.noConfusion
  | read index lag call stored row found reading present shown =>
    apply strict.goOn
    rcases onRead_cases call.operation row.status with ended | ⟨target, writes, other, _⟩
    · rw [ended]
      exact Phase.noConfusion
    · rw [writes]
      exact fun same => other.2 (Phase.writing.inj same)
  | store index answered call stored status found present writes =>
    have place : Call.request { call with phase := if answered then .afterWrite status else .afterError status } =
        call.request := rfl
    simp only [isClear, found, Option.all_some, writes] at clear
    apply Related.write strict kept.alone found (busy_of_writing writes) place strict_of_idle
    intro fails
    cases answered with
    | true => cases status <;> cases fails
    | false =>
      cases status with
      | completed => simp at clear
      | _ => cases fails
  | miss index call stored status found present writes =>
    apply Related.goOn strict
    intro other there fails
    cases present.symm.trans there
    have fits := kept.fits call (List.mem_of_getElem? found) stored present
    rw [Call.Fits, writes] at fits
    cases status with
    | completed => exact of_decide_eq_true fits
    | _ => cases fails
  | setup index setup action notes stored found present => exact strict.goOn Phase.noConfusion
  | settle index issued returned call found answers =>
    apply Related.goOn strict
    intro stored present _
    have fits := kept.fits call (List.mem_of_getElem? found) stored present
    rw [Call.Fits, answers] at fits
    exact of_decide_eq_true fits

theorem requests_of_change (change : Change before label after) : after.requests = before.requests ∨
    (∃ stored : Stored, stored.now.status = .draft ∧ after.requests = before.requests ++ [stored]) ∨
    ∃ call status, call ∈ before.calls ∧ call.phase = .writing status ∧ ∃ stored, before.requests[call.request]? = some stored ∧
      after.requests = before.requests.set call.request
        (stored.push (stored.now.updateStatus status (call.operation.arguments status))) := by
  cases change with
  | create assetCode limit => exact .inr (.inl ⟨_, rfl, rfl⟩)
  | store index answered call stored status found present writes =>
    exact .inr (.inr ⟨call, status, List.mem_of_getElem? found, writes, stored, present, rfl⟩)
  | _ => exact .inl rfl

theorem unfinished_of_writing {old : AssetWorkflowStatus} (allowed : (Phase.writing status).allows old = true)
    (strict : status = .failed → old = .issuing) : old.isFinal = false := by
  cases status with
  | failed => rw [strict rfl]; rfl
  | _ => rw [of_decide_eq_true allowed]; rfl

theorem Final.of_step (kept : Kept before) (strict : Strict before) (change : Change before label after) :
    Final before label after := by
  intro id old new found there final
  rcases requests_of_change change with same | ⟨stored, _, added⟩ | ⟨call, status, member, writes, stored, present, written⟩
  · simp_all
  · grind
  · rw [written] at there
    rcases getElem?_set_of_some there with ⟨rfl, rfl⟩ | ⟨_, earlier⟩
    · obtain rfl := Option.some.inj (present.symm.trans found)
      have fits := kept.fits call member stored present
      rw [Call.Fits, writes] at fits
      have unfinished := unfinished_of_writing fits fun failed => strict call member stored present (by rw [writes, failed])
      cases unfinished.symm.trans final
    · rw [Option.some.inj (found.symm.trans earlier)]

theorem unrecorded_of_change (change : Change before label after)
    (unrecorded : ∀ stored ∈ before.requests, stored.now.status = .completed → stored.now.approvedBy = none) :
    ∀ stored ∈ after.requests, stored.now.status = .completed → stored.now.approvedBy = none := by
  intro other member completed
  rcases requests_of_change change with same | ⟨stored, draft, added⟩ | ⟨call, status, _, _, stored, _, written⟩
  · exact unrecorded other (same ▸ member) completed
  · grind
  · rw [written] at member
    rcases List.mem_or_eq_of_mem_set member with earlier | rfl
    · exact unrecorded other earlier completed
    · obtain rfl : status = .completed := completed
      cases call.operation <;> rfl

/-- A call is about to complete the request. -/
def Workflow.Completes (id : ℕ) : Prop :=
  ∃ call ∈ workflow.calls, call.request = id ∧ call.phase = .writing .completed

/-- An issued request is completed, or about to be. -/
def Completing : Prop :=
  ∀ id ∈ workflow.issued, ∃ stored, workflow.requests[id]? = some stored ∧
    (stored.now.status = .completed ∨ workflow.Completes id)

theorem completes_goOn (completes : before.Completes id) (found : before.calls[index]? = some call)
    (apart : call.request ≠ id ∨ call.phase ≠ .writing .completed) : (before.goOn index call phase).Completes id := by
  obtain ⟨other, member, same, writes⟩ := completes
  refine ⟨other, mem_set_of_ne member found ?_, same, writes⟩
  rintro rfl
  rcases apart with elsewhere | differs
  · exact elsewhere same
  · exact differs writes

theorem Completing.goOn (completing : Completing before) (found : before.calls[index]? = some call)
    (apart : call.phase ≠ .writing .completed) : Completing (before.goOn index call phase) := by
  intro id member
  obtain ⟨stored, present, done | completes⟩ := completing id member
  · exact ⟨stored, present, .inl done⟩
  · exact ⟨stored, present, .inr (completes_goOn completes found (.inr apart))⟩

theorem Completing.step (completing : Completing before) (kept : Kept before) (strict : Strict before)
    (change : Change before label after) (acknowledged : isAcknowledged before label = true) : Completing after := by
  cases change with
  | create assetCode limit =>
    intro id member
    obtain ⟨stored, present, either⟩ := completing id member
    exact ⟨stored, by rw [List.getElem?_append_left (List.getElem?_eq_some_iff.mp present).1, present], either⟩
  | start label call reading =>
    intro id member
    obtain ⟨stored, present, done | ⟨other, there, same, writes⟩⟩ := completing id member
    · exact ⟨stored, present, .inl done⟩
    · exact ⟨stored, present, .inr ⟨other, List.mem_append_left _ there, same, writes⟩⟩
  | done label index call found resting =>
    apply completing.goOn found
    rcases resting with reading | returning
    · rw [reading]
      exact Phase.noConfusion
    · rw [returning]
      exact Phase.noConfusion
  | read index lag call stored row found reading present shown =>
    apply completing.goOn found
    rw [reading]
    exact Phase.noConfusion
  | store index answered call stored status found present writes =>
    intro id member
    obtain ⟨old, there, either⟩ := completing id member
    have inside := List.mem_of_getElem? found
    by_cases here : call.request = id
    · subst here
      cases present.symm.trans there
      have fits := kept.fits call inside stored present
      rw [Call.Fits, writes] at fits
      have unfinished := unfinished_of_writing fits fun failed => strict call inside stored present (by rw [writes, failed])
      refine ⟨_, List.getElem?_set_self (List.getElem?_eq_some_iff.mp present).1, .inl ?_⟩
      rcases either with done | ⟨other, there, same, completes⟩
      · rw [done] at unfinished
        cases unfinished
      · obtain rfl := kept.alone.eq_of_mem there inside (busy_of_writing completes) (busy_of_writing writes) same
        exact Phase.writing.inj (writes.symm.trans completes)
    · refine ⟨old, (List.getElem?_set_ne here).trans there, ?_⟩
      rcases either with done | completes
      · exact .inl done
      · exact .inr (completes_goOn completes found (.inl here))
  | miss index call stored status found present writes =>
    apply completing.goOn found
    intro completes
    simp [isAcknowledged, found, completes] at acknowledged
  | setup index setup action notes stored found present => exact completing.goOn found Phase.noConfusion
  | settle index issued returned call found answers =>
    intro id member
    have goes : ∀ phase, Completing (before.goOn index call phase) := by
      intro phase
      apply completing.goOn found
      rw [answers]
      exact Phase.noConfusion
    rcases List.mem_append.mp member with earlier | new
    · exact goes _ id earlier
    · cases issued with
      | false => cases new
      | true =>
        obtain rfl := List.mem_singleton.mp new
        cases returned with
        | false => cases acknowledged
        | true =>
          have busy : call.isBusy = true := by rw [Call.isBusy, answers]
          have inside := kept.placed call (List.mem_of_getElem? found) busy
          refine ⟨_, List.getElem?_eq_getElem inside, .inr ⟨{ call with phase := .writing .completed }, ?_, rfl, rfl⟩⟩
          exact List.mem_set (List.getElem?_eq_some_iff.mp found).1 _

theorem clear_of_acknowledged (acknowledged : isAcknowledged before label = true) : isClear before label = true := by
  cases label with
  | write index tookEffect answered => grind [isAcknowledged, isClear, Option.all_some]
  | _ => rfl

theorem Completing.settled (completing : Completing before) : Settled before := by
  intro id member idle
  obtain ⟨stored, present, done | ⟨call, there, same, writes⟩⟩ := completing id member
  · exact ⟨stored, present, done⟩
  · cases (idle call there same).symm.trans (busy_of_writing writes)

/-- A completed request never records its approver. If the calls on each request take turns, its asset is set up once at
most and after approval; what is completed or rejected stays so if the write of `completed` is answered when it takes
effect; and an issued request is completed if that write succeeds. -/
theorem assets_issued {trace : List Label} {last : Workflow} (run : Run step .initial trace last) :
    (Recorded last ↔ ∀ stored ∈ last.requests, stored.now.status ≠ .completed) ∧
    (Throughout step .initial (fun before label _ => isAlone before label = true) trace → Approved last) ∧
    (Throughout step .initial (fun before label _ => (isAlone before label && isClear before label) = true) trace →
      Throughout step .initial Final trace) ∧
    (Throughout step .initial (fun before label _ => (isAlone before label && isAcknowledged before label) = true) trace →
      Settled last) := by
  have strict_initial : Strict .initial := Related.nil
  refine ⟨?_, ?_, ?_, ?_⟩
  · have unrecorded : ∀ stored ∈ last.requests, stored.now.status = .completed → stored.now.approvedBy = none := by
      apply run.invariant (fun _ workflow => ∀ stored ∈ workflow.requests, stored.now.status = .completed →
        stored.now.approvedBy = none)
      · intro stored member
        cases member
      · intro _ before label after unrecorded move
        exact unrecorded_of_change (change_of_step move) unrecorded
    constructor
    · intro recorded stored member completed
      obtain ⟨id, found⟩ := List.mem_iff_getElem?.mp member
      obtain ⟨approverId, _, approved⟩ := recorded id stored found completed
      cases (unrecorded stored member completed).symm.trans approved
    · intro none id stored found completed
      exact absurd completed (none stored (List.mem_of_getElem? found))
  · intro every
    have kept : Kept last := by
      apply run.kept every
      · exact kept_initial
      · intro before label after kept move single
        exact kept.step (change_of_step move) single
    exact ⟨kept.once, kept.approved⟩
  · rintro every earlier label rest before after rfl reached move
    have kept : Kept before ∧ Strict before := by
      apply reached.kept every.before
      · exact ⟨kept_initial, strict_initial⟩
      · intro before label after ⟨kept, strict⟩ move kind
        obtain ⟨single, clear⟩ := Bool.and_eq_true_iff.mp kind
        have change := change_of_step move
        exact ⟨kept.step change single, strict.step kept change clear⟩
    exact Final.of_step kept.1 kept.2 (change_of_step move)
  · intro every
    have kept : Kept last ∧ Strict last ∧ Completing last := by
      apply run.kept every
      · refine ⟨kept_initial, strict_initial, ?_⟩
        intro id member
        cases member
      · intro before label after ⟨kept, strict, completing⟩ move kind
        obtain ⟨single, acknowledged⟩ := Bool.and_eq_true_iff.mp kind
        have change := change_of_step move
        have clear := clear_of_acknowledged acknowledged
        exact ⟨kept.step change single, strict.step kept change clear, completing.step kept strict change acknowledged⟩
    exact kept.2.2.settled

/-- One request is rejected and another is issued. -/
def issuedSecond : List Label :=
  [.createRequest "USDC" "1000", .createRequest "EURC" "500", .submitForApproval 0, .submitForApproval 1, .read 0 0,
    .write 0 true true, .read 1 0, .write 1 true true, .approveRequest 0 "ada" .reject none, .read 2 0, .write 2 true true,
    .approveRequest 1 "bob" .approve (some "fine"), .read 3 0, .write 3 true true, .write 3 true true, .setup 3,
    .settle 3 true true, .write 3 true true]

theorem issuedSecond_settled : ∃ last : Workflow,
    last.requests.map (fun stored => stored.now.status) = [.rejected, .completed] ∧ ¬Recorded last ∧ Approved last ∧
    Throughout step .initial Final issuedSecond ∧ Settled last := by
  have followed : (issuedSecond.foldlM Workflow.perform .initial).map (fun workflow =>
      workflow.requests.map (fun stored => stored.now.status)) = some [.rejected, .completed] := by decide
  obtain ⟨last, reached, statuses⟩ := Option.map_eq_some_iff.mp followed
  obtain ⟨recorded, approved, final, settled⟩ := assets_issued (Run.follow reached)
  refine ⟨last, statuses, ?_, ?_, ?_, ?_⟩
  · intro records
    have member : AssetWorkflowStatus.completed ∈ last.requests.map (fun stored => stored.now.status) := by
      rw [statuses]
      decide
    obtain ⟨stored, present, completed⟩ := List.mem_map.mp member
    exact recorded.mp records stored present completed
  · exact approved (throughout_follow (by decide))
  · exact final (throughout_follow (by decide))
  · exact settled (throughout_follow (by decide))

/-- A request is approved and issued without any failure. -/
def issuedFirst : List Label :=
  [.createRequest "USDC" "1000", .submitForApproval 0, .read 0 0, .write 0 true true,
    .approveRequest 0 "ada" .approve (some "Looks good"), .read 1 0, .write 1 true true, .write 1 true true, .setup 1,
    .settle 1 true true, .write 1 true true]

theorem issuedFirst_not_recorded : ¬∀ (trace : List Label) (last : Workflow), Run step .initial trace last →
    Approved last ∧ Recorded last ∧ Settled last ∧ Throughout step .initial Final trace := by
  intro always
  have followed : (issuedFirst.foldlM Workflow.perform .initial).map (fun workflow =>
      workflow.requests.map (fun stored => (stored.now.status, stored.now.approvedBy))) = some [(.completed, none)] := by
    decide
  obtain ⟨last, reached, rows⟩ := Option.map_eq_some_iff.mp followed
  obtain ⟨stored, others, present, row, _⟩ := List.map_eq_cons_iff.mp rows
  obtain ⟨completed, unrecorded⟩ := Prod.mk.inj row
  have recorded := (always issuedFirst last (Run.follow reached)).2.1 0 stored (by rw [present]; rfl) completed
  obtain ⟨approverId, _, approved⟩ := recorded
  cases unrecorded.symm.trans approved

end ProxyPay.AssetWorkflow
