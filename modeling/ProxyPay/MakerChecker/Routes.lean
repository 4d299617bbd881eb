import ProxyPay.Library.Text

/-! The maker-checker routes over the store of pending actions. A decision is coded once for a single action and once for
the actions of a bulk request. -/

namespace ProxyPay.MakerChecker

open ProxyPay.Library

variable {Payload : Type}

structure User where
  id : String
  role : String

inductive ActionType where
  | freezeAccount
  | manualCredit
  | manualDebit
  | unlockUser
  deriving DecidableEq

inductive Status where
  | pending
  | approved
  | rejected
  deriving DecidableEq

def Status.text : Status → String
  | .pending => "pending"
  | .approved => "approved"
  | .rejected => "rejected"

structure PendingAction (Payload : Type) where
  id : String
  actionType : ActionType
  status : Status
  payload : Payload
  makerId : String
  checkerId : Option String
  makerNote : Option String
  checkerNote : Option String
  createdAt : ℕ
  resolvedAt : Option ℕ

/-- A run of `executeAction`, on behalf of a checker. -/
structure Execution where
  action : String
  checker : String
  finished : Bool
  deriving DecidableEq

structure Store (Payload : Type) where
  pendingActions : List (PendingAction Payload)
  /-- In order. -/
  executions : List Execution

def Store.initial : Store Payload :=
  ⟨[], []⟩

/-- The message of an error, if what is thrown is one. -/
abbrev Thrown :=
  Option String

inductive Decision where
  | approve
  | reject
  deriving DecidableEq

/-- What `executeAction` returns, a record with the payload spread into it. -/
structure Result (Payload : Type) where
  executed : Bool
  actionType : ActionType
  payload : Payload

structure BulkResult where
  actionId : String
  succeeded : Bool
  message : Option String
  deriving DecidableEq

inductive Response (Payload : Type) where
  | refused (code : ℕ) (message : String)
  | submitted (action : PendingAction Payload)
  | approved (action : PendingAction Payload) (result : Result Payload)
  | rejected (action : PendingAction Payload)
  | bulk (message : String) (total succeeded failed : ℕ) (results : List BulkResult)
  /-- The handler throws. -/
  | thrown (error : Thrown)

/-- The clock and the errors of `executeAction`, for each action that a request decides. -/
structure Environment where
  clock : String → ℕ
  throws : String → Option Thrown

inductive Request (Payload : Type) where
  | submit (actionType : Option String) (payload : Option Payload) (makerNote : Option String) (id : String) (now : ℕ)
  | single (decision : Decision) (id : String) (checkerNote : Option String) (environment : Environment)
  /-- The entries of `actionIds`, if it is an array, as far as they are texts. -/
  | bulk (decision : Decision) (actionIds : Option (List (Option String))) (checkerNote : Option String)
      (environment : Environment)

structure Label (Payload : Type) where
  user : Option User
  request : Request Payload

def maxBulkIds : ℕ := 100

def normalizeBulkIds (value : Option (List (Option String))) : List String :=
  match value with
  | none => []
  | some entries => (((entries.filterMap id).map Text.trim).filter (· ≠ "")).eraseDups

def highRiskActions : List (String × ActionType) :=
  [("freeze_account", .freezeAccount), ("manual_credit", .manualCredit), ("manual_debit", .manualDebit),
    ("unlock_user", .unlockUser)]

def isAdminRole (role : String) : Bool :=
  role = "admin" || role = "super-admin"

/-- The user of a request that passes `requireAdmin`. -/
def requireAdmin (user : Option User) : Option User :=
  user.filter fun user => isAdminRole user.role

variable (action : PendingAction Payload)

def executeAction : Result Payload :=
  ⟨true, action.actionType, action.payload⟩

def PendingAction.resolve (status : Status) (checker : User) (note : Option String)
    (now : ℕ) : PendingAction Payload :=
  { action with status, checkerId := some checker.id, checkerNote := Text.truthy note, resolvedAt := some now }

namespace Store

def find (store : Store Payload) (id : String) : Option (PendingAction Payload) :=
  store.pendingActions.find? fun action => action.id = id

/-- The first action with the id is changed in place. -/
def amend (id : String) (change : PendingAction Payload → PendingAction Payload) :
    List (PendingAction Payload) → List (PendingAction Payload)
  | [] => []
  | action :: rest => if action.id = id then change action :: rest else action :: amend id change rest

def resolve (store : Store Payload) (id : String) (status : Status) (checker : User) (note : Option String) (now : ℕ) :
    Store Payload :=
  { store with pendingActions := amend id (·.resolve status checker note now) store.pendingActions }

variable (store : Store Payload)

def execute (id : String) (checker : User) (thrown : Option Thrown) : Store Payload :=
  { store with executions := store.executions ++ [⟨id, checker.id, thrown.isNone⟩] }

def submit (maker : User) (actionType : Option String) (payload : Option Payload)
    (makerNote : Option String) (id : String) (now : ℕ) : Store Payload × Response Payload :=
  match Text.truthy actionType, payload with
  | some actionType, some payload =>
    match highRiskActions.lookup actionType with
    | none =>
      let names := ", ".intercalate (highRiskActions.map Prod.fst)
      (store, .refused 400 s!"action_type must be one of: {names}")
    | some actionType =>
      let action : PendingAction Payload :=
        ⟨id, actionType, .pending, payload, maker.id, none, Text.truthy makerNote, none, now, none⟩
      ({ store with pendingActions := store.pendingActions ++ [action] }, .submitted action)
  | _, _ => (store, .refused 400 "action_type and payload are required")

variable (checker : User)

def approve (note : Option String) (environment : Environment) (id : String) :
    Store Payload × Response Payload :=
  match store.find id with
  | none => (store, .refused 404 "Action not found")
  | some action =>
    if action.status ≠ .pending then (store, .refused 409 s!"Action is already {action.status.text}")
    else if action.makerId = checker.id then (store, .refused 403 "Checker cannot be the same as the Maker")
    else
      let now := environment.clock id
      let approved := store.resolve id .approved checker note now
      let resolved := action.resolve .approved checker note now
      match environment.throws id with
      | some error => (approved.execute id checker (some error), .thrown error)
      | none => (approved.execute id checker none, .approved resolved (executeAction resolved))

def reject (note : Option String) (environment : Environment) (id : String) :
    Store Payload × Response Payload :=
  match store.find id with
  | none => (store, .refused 404 "Action not found")
  | some action =>
    if action.status ≠ .pending then (store, .refused 409 s!"Action is already {action.status.text}")
    else if action.makerId = checker.id then (store, .refused 403 "Checker cannot be the same as the Maker")
    else
      let now := environment.clock id
      (store.resolve id .rejected checker note now, .rejected (action.resolve .rejected checker note now))

/-- The body of the loop of a bulk approval. -/
def approveInBulk (note : Option String) (environment : Environment)
    (actionId : String) : Store Payload × BulkResult :=
  match store.find actionId with
  | none => (store, ⟨actionId, false, some "Action not found"⟩)
  | some action =>
    if action.status ≠ .pending then (store, ⟨actionId, false, some s!"Action is already {action.status.text}"⟩)
    else if action.makerId = checker.id then
      (store, ⟨actionId, false, some "Checker cannot be the same as the Maker"⟩)
    else
      let approved := store.resolve actionId .approved checker note (environment.clock actionId)
      match environment.throws actionId with
      | none => (approved.execute actionId checker none, ⟨actionId, true, none⟩)
      | some error => (approved.execute actionId checker (some error), ⟨actionId, false, some (error.getD "Unknown error")⟩)

/-- The body of the loop of a bulk rejection. -/
def rejectInBulk (note : Option String) (environment : Environment)
    (actionId : String) : Store Payload × BulkResult :=
  match store.find actionId with
  | none => (store, ⟨actionId, false, some "Action not found"⟩)
  | some action =>
    if action.status ≠ .pending then (store, ⟨actionId, false, some s!"Action is already {action.status.text}"⟩)
    else if action.makerId = checker.id then
      (store, ⟨actionId, false, some "Checker cannot be the same as the Maker"⟩)
    else
      (store.resolve actionId .rejected checker note (environment.clock actionId), ⟨actionId, true, none⟩)

/-- The ids are taken one after the other. -/
def inTurn {Outcome : Type} (handle : Store Payload → String → Store Payload × Outcome) (store : Store Payload) :
    List String → Store Payload × List Outcome
  | [] => (store, [])
  | id :: rest =>
    let (next, outcome) := handle store id
    let (last, outcomes) := inTurn handle next rest
    (last, outcome :: outcomes)

def bulk (store : Store Payload) (message : String)
    (handle : Store Payload → String → Store Payload × BulkResult) (actionIds : List String) :
    Store Payload × Response Payload :=
  if actionIds = [] then (store, .refused 400 "actionIds must be a non-empty array of action IDs")
  else if maxBulkIds < actionIds.length then (store, .refused 413 s!"Too many actionIds supplied (max {maxBulkIds})")
  else
    let (last, results) := inTurn handle store actionIds
    let succeeded := results.countP BulkResult.succeeded
    (last, .bulk message results.length succeeded (results.length - succeeded) results)

def single (decision : Decision) (checker : User) (note : Option String)
    (environment : Environment) (id : String) : Store Payload × Response Payload :=
  match decision with
  | .approve => store.approve checker note environment id
  | .reject => store.reject checker note environment id

def bulkApprove (note : Option String) (environment : Environment)
    (actionIds : List String) : Store Payload × Response Payload :=
  store.bulk "Bulk approve completed" (fun store => store.approveInBulk checker note environment) actionIds

def bulkReject (note : Option String) (environment : Environment)
    (actionIds : List String) : Store Payload × Response Payload :=
  store.bulk "Bulk reject completed" (fun store => store.rejectInBulk checker note environment) actionIds

def handle (label : Label Payload) : Store Payload × Response Payload :=
  match requireAdmin label.user with
  | none => (store, .refused 403 "Admin access required")
  | some user =>
    match label.request with
    | .submit actionType payload makerNote id now => store.submit user actionType payload makerNote id now
    | .single decision id checkerNote environment => store.single decision user checkerNote environment id
    | .bulk .approve actionIds checkerNote environment =>
      store.bulkApprove user checkerNote environment (normalizeBulkIds actionIds)
    | .bulk .reject actionIds checkerNote environment =>
      store.bulkReject user checkerNote environment (normalizeBulkIds actionIds)

end Store

/-- The id that a submission generates is none that was generated before. -/
def Request.isFresh (store : Store Payload) : Request Payload → Bool
  | .submit _ _ _ id _ => store.pendingActions.all fun action => action.id ≠ id
  | _ => true

def Store.perform (store : Store Payload) (label : Label Payload) : Option (Store Payload) :=
  if label.request.isFresh store then some (store.handle label).1 else none

variable (before : Store Payload)

def step (label : Label Payload) (after : Store Payload) : Prop :=
  before.perform label = some after

/-- No action is executed twice. -/
def Once (store : Store Payload) : Prop :=
  (store.executions.map Execution.action).Nodup

/-- What a request executes was pending, and its user is an admin other than the maker. -/
def FourEyes (label : Label Payload) (after : Store Payload) : Prop :=
  ∃ executions, after.executions = before.executions ++ executions ∧ ∀ execution ∈ executions, ∃ user action,
    label.user = some user ∧ isAdminRole user.role = true ∧ execution.checker = user.id ∧
    action ∈ before.pendingActions ∧ action.id = execution.action ∧ action.status = .pending ∧ action.makerId ≠ user.id

/-- An action that is decided never changes again. -/
def Final (_ : Label Payload) (after : Store Payload) : Prop :=
  ∀ (place : ℕ) action, before.pendingActions[place]? = some action → action.status ≠ .pending →
    after.pendingActions[place]? = some action

/-- Approved are the actions whose execution finished. -/
def Agrees (store : Store Payload) : Prop :=
  ∀ action ∈ store.pendingActions, action.status = .approved ↔
    ∃ execution ∈ store.executions, execution.action = action.id ∧ execution.finished = true

/-- What a response says of an action. -/
def Response.outcome (id : String) : Response Payload → BulkResult
  | .refused _ message => ⟨id, false, some message⟩
  | .thrown error => ⟨id, false, some (error.getD "Unknown error")⟩
  | .submitted _ | .approved _ _ | .rejected _ | .bulk _ _ _ _ _ => ⟨id, true, none⟩

/-- What a response to a bulk request says of its actions. -/
def Response.outcomes (ids : List String) : Response Payload → List BulkResult
  | .bulk _ _ _ _ results => results
  | response => ids.map fun id => response.outcome id

/-- A bulk request does what the single ones do in turn. -/
def Sequential (store : Store Payload) (user : Option User) (decision : Decision)
    (actionIds : Option (List (Option String))) (note : Option String) (environment : Environment) : Prop :=
  let ids := normalizeBulkIds actionIds
  let bulk := store.handle ⟨user, .bulk decision actionIds note environment⟩
  let singles := Store.inTurn (fun store id =>
    let (next, response) := store.handle ⟨user, .single decision id note environment⟩
    (next, response.outcome id)) store ids
  bulk.1 = singles.1 ∧ bulk.2.outcomes ids = singles.2

end ProxyPay.MakerChecker
