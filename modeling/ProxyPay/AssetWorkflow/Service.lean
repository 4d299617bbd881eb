import ProxyPay.Library.Text

/-! Requests of `assetWorkflowService` and the calls on them, one query or call of the network at a time. Reads may go to
a replica, and a query may take effect without an answer. A request is known by its position. -/

namespace ProxyPay.AssetWorkflow

open ProxyPay.Library

inductive AssetWorkflowStatus where
  | draft
  | pendingApproval
  | approved
  | rejected
  | issuing
  | completed
  | failed
  deriving DecidableEq

inductive ApprovalAction where
  | approve
  | reject
  | requestChanges
  deriving DecidableEq

structure AssetIssuanceRequest where
  assetCode : String
  limit : String
  status : AssetWorkflowStatus
  approvedBy : Option String
  approvalNotes : Option String
  deriving DecidableEq

/-- A row with what was stored before, which a replica may still show. -/
structure Stored where
  now : AssetIssuanceRequest
  past : List AssetIssuanceRequest
  deriving DecidableEq

inductive Operation where
  | submitForApproval
  | approveRequest (approverId : String) (action : ApprovalAction) (notes : Option String)
  deriving DecidableEq

/-- What a call does next. -/
inductive Phase where
  | reading
  | writing (status : AssetWorkflowStatus)
  | calling
  | answering
  | returning
  | ended
  deriving DecidableEq

structure Call where
  request : ℕ
  operation : Operation
  phase : Phase
  deriving DecidableEq

/-- A call of `setupAnchoredAsset`. -/
structure Setup where
  request : ℕ
  approverId : String
  assetCode : String
  limit : String
  deriving DecidableEq

structure Workflow where
  requests : List Stored
  calls : List Call
  /-- Who approved which request while it was pending. -/
  approvals : List (ℕ × String)
  setups : List Setup
  /-- The requests whose asset exists on the network. -/
  issued : List ℕ
  deriving DecidableEq

def Workflow.initial : Workflow :=
  ⟨[], [], [], [], []⟩

inductive Label where
  | createRequest (assetCode limit : String)
  | submitForApproval (request : ℕ)
  | approveRequest (request : ℕ) (approverId : String) (action : ApprovalAction) (notes : Option String)
  | read (call : ℕ) (lag : ℕ)
  | failRead (call : ℕ)
  | write (call : ℕ) (tookEffect answered : Bool)
  | setup (call : ℕ)
  | settle (call : ℕ) (issued returned : Bool)
  deriving DecidableEq

def ApprovalAction.status : ApprovalAction → AssetWorkflowStatus
  | .approve => .approved
  | .reject => .rejected
  | .requestChanges => .draft

/-- What an operation does with the status that it reads. -/
def Operation.onRead : Operation → AssetWorkflowStatus → Phase
  | .submitForApproval, status => if status = .draft then .writing .pendingApproval else .ended
  | .approveRequest _ action _, status => if status = .pendingApproval then .writing action.status else .ended

/-- The approver and the notes that an operation passes on; `issueAsset` passes none. -/
def Operation.arguments : Operation → AssetWorkflowStatus → Option String × Option String
  | .approveRequest approverId _ notes, .approved | .approveRequest approverId _ notes, .rejected
  | .approveRequest approverId _ notes, .draft => (some approverId, notes)
  | _, _ => (none, none)

def AssetIssuanceRequest.updateStatus (request : AssetIssuanceRequest) (status : AssetWorkflowStatus)
    (arguments : Option String × Option String) : AssetIssuanceRequest :=
  { request with status, approvedBy := Text.truthy arguments.1, approvalNotes := Text.truthy arguments.2 }

def Phase.afterWrite : AssetWorkflowStatus → Phase
  | .approved => .writing .issuing
  | .issuing => .calling
  | .failed => .ended
  | .completed | .rejected | .draft | .pendingApproval => .returning

/-- The second write of `issueAsset` has its `catch`. -/
def Phase.afterError : AssetWorkflowStatus → Phase
  | .completed => .writing .failed
  | _ => .ended

variable (workflow : Workflow)

variable (call : Call)

def Workflow.start : Workflow :=
  { workflow with calls := workflow.calls ++ [call] }

def Workflow.goOn (index : ℕ) (call : Call) (phase : Phase) : Workflow :=
  { workflow with calls := workflow.calls.set index { call with phase } }

def Stored.push (stored : Stored) (request : AssetIssuanceRequest) : Stored :=
  ⟨request, stored.now :: stored.past⟩

def Call.approval (status : AssetWorkflowStatus) (stored : Stored) : List (ℕ × String) :=
  match call.operation with
  | .approveRequest approverId _ _ =>
    if status = .approved ∧ stored.now.status = .pendingApproval then [(call.request, approverId)] else []
  | .submitForApproval => []

def Workflow.store (status : AssetWorkflowStatus) (stored : Stored) : Workflow :=
  { workflow with
    requests := workflow.requests.set call.request
      (stored.push (stored.now.updateStatus status (call.operation.arguments status)))
    approvals := workflow.approvals ++ call.approval status stored }

def Workflow.perform : Label → Option Workflow
  | .createRequest assetCode limit =>
    some { workflow with requests := workflow.requests ++ [⟨⟨assetCode, limit, .draft, none, none⟩, []⟩] }
  | .submitForApproval request => some (workflow.start ⟨request, .submitForApproval, .reading⟩)
  | .approveRequest request approverId action notes =>
    some (workflow.start ⟨request, .approveRequest approverId action notes, .reading⟩)
  | .read index lag =>
    match workflow.calls[index]? with
    | none => none
    | some call =>
      match call.phase with
      | .reading =>
        match workflow.requests[call.request]? with
        | none => some (workflow.goOn index call .ended)
        | some stored => (stored.now :: stored.past)[lag]?.map fun row => workflow.goOn index call (call.operation.onRead row.status)
      | .returning => some (workflow.goOn index call .ended)
      | _ => none
  | .failRead index =>
    match workflow.calls[index]? with
    | none => none
    | some call => if call.phase = .reading ∨ call.phase = .returning then some (workflow.goOn index call .ended) else none
  | .write index tookEffect answered =>
    match workflow.calls[index]? with
    | none => none
    | some call =>
      match call.phase, workflow.requests[call.request]? with
      | .writing status, some stored =>
        if tookEffect then
          some ((workflow.store call status stored).goOn index call (if answered then .afterWrite status else .afterError status))
        else if answered then none
        else some (workflow.goOn index call (.afterError status))
      | _, _ => none
  | .setup index =>
    match workflow.calls[index]? with
    | some ⟨request, .approveRequest approverId action notes, .calling⟩ =>
      workflow.requests[request]?.map fun stored =>
        { workflow.goOn index ⟨request, .approveRequest approverId action notes, .calling⟩ .answering with
          setups := workflow.setups ++ [⟨request, approverId, stored.now.assetCode, stored.now.limit⟩] }
    | _ => none
  | .settle index issued returned =>
    match workflow.calls[index]? with
    | none => none
    | some call =>
      if call.phase = .answering ∧ (returned = true → issued = true) then
        some { workflow.goOn index call (.writing (if returned then .completed else .failed)) with
          issued := workflow.issued ++ if issued then [call.request] else [] }
      else none

def step (before : Workflow) (label : Label) (after : Workflow) : Prop :=
  before.perform label = some after

/-- The call has read its request and is not done with it. -/
def Call.isBusy : Bool :=
  match call.phase with
  | .writing _ | .calling | .answering => true
  | .reading | .returning | .ended => false

/-- Each asset is set up once at most, for an approver who approved it while it was pending. -/
structure Approved (workflow : Workflow) : Prop where
  once : ∀ request, (workflow.setups.countP fun setup => setup.request = request) ≤ 1
  approved : ∀ setup ∈ workflow.setups, (setup.request, setup.approverId) ∈ workflow.approvals

def Recorded : Prop :=
  ∀ (id : ℕ) stored, workflow.requests[id]? = some stored → stored.now.status = .completed →
    ∃ approverId, (id, approverId) ∈ workflow.approvals ∧ stored.now.approvedBy = some approverId

/-- A request whose asset is issued is completed, unless a call on it is still under way. -/
def Settled : Prop :=
  ∀ id ∈ workflow.issued, (∀ call ∈ workflow.calls, call.request = id → call.isBusy = false) →
    ∃ stored, workflow.requests[id]? = some stored ∧ stored.now.status = .completed

def AssetWorkflowStatus.isFinal : AssetWorkflowStatus → Bool
  | .completed | .rejected => true
  | _ => false

def Final (before : Workflow) (_ : Label) (after : Workflow) : Prop :=
  ∀ (id : ℕ) old new, before.requests[id]? = some old → after.requests[id]? = some new → old.now.status.isFinal = true →
    new.now.status = old.now.status

end ProxyPay.AssetWorkflow
