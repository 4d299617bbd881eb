import Mathlib.Algebra.Order.Ring.Rat
import ProxyPay.Library.Text

/-! `DisputeStateMachine` with `DISPUTE_TRANSITIONS`, and the transitions of the dispute service beside it. -/

namespace ProxyPay.Disputes

open ProxyPay.Library

inductive DisputeStatus where
  | opened
  | investigating
  | resolved
  | rejected
  | reversed
  | upheld
  deriving DecidableEq

open DisputeStatus

def DisputeStatus.text : DisputeStatus → String
  | opened => "open"
  | investigating => "investigating"
  | resolved => "resolved"
  | rejected => "rejected"
  | reversed => "reversed"
  | upheld => "upheld"

structure StateTransition where
  source : DisputeStatus
  target : DisputeStatus
  requiredFields : List String
  deriving DecidableEq

def DISPUTE_TRANSITIONS : List StateTransition :=
  [⟨opened, investigating, []⟩,
    ⟨opened, resolved, ["resolution"]⟩,
    ⟨opened, rejected, ["resolution"]⟩,
    ⟨opened, reversed, ["resolution"]⟩,
    ⟨opened, upheld, ["resolution"]⟩,
    ⟨investigating, resolved, ["resolution"]⟩,
    ⟨investigating, rejected, ["resolution"]⟩,
    ⟨investigating, reversed, ["resolution"]⟩,
    ⟨investigating, upheld, ["resolution"]⟩]

def terminalStates : List DisputeStatus := [resolved, rejected, reversed, upheld]

def isValidTransition (source target : DisputeStatus) : Bool :=
  DISPUTE_TRANSITIONS.any fun transition => transition.source = source && transition.target = target

def getAllowedTransitions (source : DisputeStatus) : List DisputeStatus :=
  (DISPUTE_TRANSITIONS.filter fun transition => transition.source = source).map StateTransition.target

def isTerminalState (state : DisputeStatus) : Bool := terminalStates.contains state

def getRequiredFields (source target : DisputeStatus) : List String :=
  match DISPUTE_TRANSITIONS.find? fun transition => transition.source = source && transition.target = target with
  | some transition => transition.requiredFields
  | none => []

/-- What follows the statuses in the text of a transition that is not allowed. -/
def describeAllowed (source : DisputeStatus) (allowed : List DisputeStatus) : String :=
  if allowed.isEmpty then "\"" ++ source.text ++ "\" is a terminal state."
  else "Allowed transitions: " ++ ", ".intercalate (allowed.map DisputeStatus.text)

/-- A field that is absent, empty or blank. -/
def isMissing : Option String → Bool
  | none => true
  | some text => text = "" || Text.trim text = ""

def validateTransition (source target : DisputeStatus) (data : String → Option String) : List String :=
  (if isValidTransition source target then []
    else ["Cannot transition from \"" ++ source.text ++ "\" to \"" ++ target.text ++ "\". " ++
      describeAllowed source (getAllowedTransitions source)]) ++
  ((getRequiredFields source target).filter fun field => isMissing (data field)).map (fun field =>
    "Field \"" ++ field ++ "\" is required for transition to \"" ++ target.text ++ "\"") ++
  (if target = investigating ∧ Text.truthy (data "assignedTo") = none then
    ["Dispute must be assigned to an agent when moving to investigating status"]
    else [])

/-- The table of `DisputeService`. -/
def TRANSITIONS : DisputeStatus → List DisputeStatus
  | opened => [investigating, resolved, rejected, reversed, upheld]
  | investigating => [resolved, rejected, reversed, upheld]
  | resolved => []
  | rejected => []
  | reversed => []
  | upheld => []

def TERMINAL_STATUSES : List DisputeStatus := [resolved, rejected, reversed, upheld]

/-- The checks of `updateStatus`, with the message of the one that fails. -/
def checkUpdate (status newStatus : DisputeStatus) (resolution : Option String) : Option String :=
  let allowed := TRANSITIONS status
  if !allowed.contains newStatus then
    some ("Cannot transition dispute from \"" ++ status.text ++ "\" to \"" ++ newStatus.text ++ "\". " ++
      describeAllowed status allowed)
  else if TERMINAL_STATUSES.contains newStatus ∧ Text.truthy resolution = none then
    some ("A resolution text is required when setting status to \"" ++ newStatus.text ++ "\"")
  else none

/-! The life of a dispute: it may be investigated, and it is decided once. -/

inductive Moves : DisputeStatus → DisputeStatus → Prop where
  | investigate : Moves opened investigating
  | decide {source target : DisputeStatus} (undecided : isTerminalState source = false)
      (decided : isTerminalState target = true) : Moves source target

variable {source target : DisputeStatus}

theorem isValidTransition_iff : isValidTransition source target = true ↔ Moves source target := by
  constructor
  · intro valid
    by_cases decided : isTerminalState target = true
    · refine .decide ?_ decided
      revert valid
      cases source <;> cases target <;> decide
    · have first : source = opened ∧ target = investigating := by
        revert valid decided
        cases source <;> cases target <;> decide
      rw [first.1, first.2]
      exact .investigate
  · intro moves
    cases moves with
    | investigate => rfl
    | decide undecided decided =>
      revert undecided decided
      cases source <;> cases target <;> decide

theorem Moves.undecided (moves : Moves source target) : isTerminalState source = false := by
  cases moves with
  | investigate => rfl
  | decide undecided _ => exact undecided

theorem contains_TRANSITIONS (source target : DisputeStatus) :
    (TRANSITIONS source).contains target = isValidTransition source target := by
  cases source <;> cases target <;> rfl

theorem getRequiredFields_of_moves (moves : Moves source target) :
    getRequiredFields source target = if isTerminalState target then ["resolution"] else [] := by
  cases moves with
  | investigate => rfl
  | decide undecided decided =>
    revert undecided decided
    cases source <;> cases target <;> decide

theorem validateTransition_nil {data : String → Option String} (valid : validateTransition source target data = []) :
    Moves source target ∧ ∀ field ∈ getRequiredFields source target, isMissing (data field) = false := by
  unfold validateTransition at valid
  rw [List.append_eq_nil_iff, List.append_eq_nil_iff, List.map_eq_nil_iff, List.filter_eq_nil_iff] at valid
  obtain ⟨⟨allowed, present⟩, _⟩ := valid
  constructor
  · apply (isValidTransition_iff).mp
    by_cases allows : isValidTransition source target = true
    · exact allows
    · simp_all
  · simp_all

theorem checkUpdate_none {status newStatus : DisputeStatus} {resolution : Option String}
    (passed : checkUpdate status newStatus resolution = none) : Moves status newStatus := by
  unfold checkUpdate at passed
  dsimp only at passed
  rw [contains_TRANSITIONS] at passed
  apply (isValidTransition_iff).mp
  cases allows : isValidTransition status newStatus with
  | true => rfl
  | false =>
    rw [allows] at passed
    cases passed

end ProxyPay.Disputes

/-! Runs of `processDispute` and changes of the status by hand for one dispute, one statement at a time. -/

namespace ProxyPay.Disputes

open ProxyPay.Library

inductive Resolution where
  | resolved
  | rejected
  deriving DecidableEq

structure RuleResult where
  ruleName : String
  priority : ℤ
  matched : Bool
  confidence : ℚ
  resolution : Option Resolution
  resolutionReason : Option String
  deriving DecidableEq

/-- The registered rules give these results in their order. -/
def evaluateDispute (confidenceThreshold : ℚ) : List RuleResult → Option RuleResult
  | [] => none
  | result :: rules =>
    if !result.matched || result.resolution.isNone then evaluateDispute confidenceThreshold rules
    else if result.confidence < confidenceThreshold then evaluateDispute confidenceThreshold rules
    else some result

structure Dispute where
  status : DisputeStatus
  resolution : Option String
  assignedTo : Option String
  deriving DecidableEq

/-- A row of `dispute_resolution_notifications`. -/
structure ResolutionNotification where
  merchantId : String
  ruleName : String
  resolution : Resolution
  message : Option String
  deriving DecidableEq

/-- A row of `dispute_resolution_log`. -/
structure ResolutionLog where
  ruleName : String
  rulePriority : ℤ
  confidence : ℚ
  resolution : Resolution
  deriving DecidableEq

/-- The body of `PATCH /:disputeId/status`, where a field may be left out or be null. -/
structure StatusRequest where
  status : DisputeStatus
  resolution : Option (Option String)
  assignedTo : Option (Option String)
  deriving DecidableEq

def StatusRequest.data (request : StatusRequest) (field : String) : Option String :=
  if field = "resolution" then request.resolution.join
  else if field = "assignedTo" then request.assignedTo.join
  else none

variable (dispute : Dispute)

/-- The update of `DisputeModel`, which leaves out the fields that are not given. -/
def Dispute.update (request : StatusRequest) : Dispute :=
  { status := request.status
    resolution := request.resolution.getD dispute.resolution
    assignedTo := request.assignedTo.getD dispute.assignedTo }

def newStatus : Resolution → DisputeStatus
  | .resolved => .resolved
  | .rejected => .rejected

/-- The update of `processDispute`. -/
def Dispute.resolve (resolution : Resolution) (resolutionReason : Option String) : Dispute :=
  { dispute with status := newStatus resolution, resolution := resolutionReason }

/-- Where a run of `processDispute` or a request stands, or how it ended. -/
inductive Process where
  | evaluating (merchantId : String)
  | notifying (merchantId : String) (result : RuleResult) (resolution : Resolution)
  | applying (result : RuleResult) (resolution : Resolution)
  | logging (result : RuleResult) (resolution : Resolution)
  | processed (autoResolved : Bool) (result : Option RuleResult)
  | validating (request : StatusRequest)
  | checking (request : StatusRequest)
  | writing (request : StatusRequest)
  | updated (dispute : Dispute)
  | invalid (details : List String)
  | refused (message : String)
  | failed
  deriving DecidableEq

structure Disputes where
  dispute : Dispute
  notifications : List ResolutionNotification
  log : List ResolutionLog
  processes : List Process
  deriving DecidableEq

/-- A stored dispute that no rule has resolved yet. -/
def Disputes.stored : Disputes := ⟨dispute, [], [], []⟩

inductive Label where
  | process (merchantId : String)
  | evaluate (index : ℕ) (confidenceThreshold : ℚ) (results : List RuleResult)
  | notify (index : ℕ) (sent : Bool)
  | apply (index : ℕ)
  | log (index : ℕ)
  | change (request : StatusRequest)
  | validate (index : ℕ)
  | check (index : ℕ)
  | write (index : ℕ)
  | fail (index : ℕ)
  deriving DecidableEq

def Disputes.become (disputes : Disputes) (index : ℕ) (process : Process) : Disputes :=
  { disputes with processes := disputes.processes.set index process }

/-- What follows the evaluation. -/
def proceed (merchantId : String) (result : Option RuleResult) : Process :=
  match result with
  | none => .processed false none
  | some result =>
    match result.resolution with
    | none => .processed false (some result)
    | some resolution => .notifying merchantId result resolution

/-- What follows the validation of the request. -/
def accept (request : StatusRequest) : Process :=
  match validateTransition dispute.status request.status request.data with
  | [] => .checking request
  | details => .invalid details

/-- What follows the read of `updateStatus`. -/
def permit (request : StatusRequest) : Process :=
  match checkUpdate dispute.status request.status request.resolution.join with
  | none => .writing request
  | some message => .refused message

/-- Any process may fail where it stands. -/
def Disputes.perform (disputes : Disputes) : Label → Option Disputes
  | .process merchantId => some { disputes with processes := disputes.processes ++ [.evaluating merchantId] }
  | .evaluate index confidenceThreshold results =>
    match disputes.processes[index]? with
    | some (.evaluating merchantId) =>
      some (disputes.become index (proceed merchantId (evaluateDispute confidenceThreshold results)))
    | _ => none
  | .notify index sent =>
    match disputes.processes[index]? with
    | some (.notifying merchantId result resolution) =>
      let after := disputes.become index (.applying result resolution)
      -- A notification that is not sent is only logged.
      some (if sent then
        { after with
          notifications := after.notifications ++ [⟨merchantId, result.ruleName, resolution, result.resolutionReason⟩] }
        else after)
    | _ => none
  | .apply index =>
    match disputes.processes[index]? with
    | some (.applying result resolution) =>
      some { disputes.become index (.logging result resolution) with
        dispute := disputes.dispute.resolve resolution result.resolutionReason }
    | _ => none
  | .log index =>
    match disputes.processes[index]? with
    | some (.logging result resolution) =>
      some { disputes.become index (.processed true (some result)) with
        log := disputes.log ++ [⟨result.ruleName, result.priority, result.confidence, resolution⟩] }
    | _ => none
  | .change request => some { disputes with processes := disputes.processes ++ [.validating request] }
  | .validate index =>
    match disputes.processes[index]? with
    | some (.validating request) => some (disputes.become index (accept disputes.dispute request))
    | _ => none
  | .check index =>
    match disputes.processes[index]? with
    | some (.checking request) => some (disputes.become index (permit disputes.dispute request))
    | _ => none
  | .write index =>
    match disputes.processes[index]? with
    | some (.writing request) =>
      let dispute := disputes.dispute.update request
      some { disputes.become index (.updated dispute) with dispute := dispute }
    | _ => none
  | .fail index => some (disputes.become index .failed)

def step (before : Disputes) (label : Label) (after : Disputes) : Prop :=
  before.perform label = some after

end ProxyPay.Disputes
