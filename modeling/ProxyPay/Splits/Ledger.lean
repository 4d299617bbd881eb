import ProxyPay.Splits.Rules

/-! Calls of `createRule`, `applyRule` and `processTransaction` over their tables, one statement at a time. -/

namespace ProxyPay.Splits

open ProxyPay.Library

/-- A row of `split_payment_rules`. -/
structure SplitPaymentRule where
  id : String
  name : String
  description : Option String
  createdBy : Option String
  isActive : Bool
  deriving DecidableEq

inductive LedgerStatus where
  | pending
  | processing
  deriving DecidableEq

/-- A row of `split_payment_ledger`. -/
structure LedgerEntry where
  id : String
  transactionId : String
  ruleId : String
  recipientType : String
  recipientId : String
  recipientLabel : Option String
  splitType : String
  allocatedAmount : Decimal 18 8
  currency : String
  status : LedgerStatus
  deriving DecidableEq

/-- The update of the entry with this id. -/
def LedgerEntry.process (id : String) (entry : LedgerEntry) : LedgerEntry :=
  if entry.id = id then { entry with status := .processing } else entry

structure CreateRuleInput where
  name : String
  description : Option String
  recipients : List CreateRecipientInput
  createdBy : Option String
  deriving DecidableEq

/-- A call of `applyRule`, or of `processTransaction`. -/
structure SplitRequest where
  transactionId : String
  ruleId : String
  currency : String
  processes : Bool
  deriving DecidableEq

structure CreateLedgerEntryInput where
  recipientType : String
  recipientId : String
  recipientLabel : Option String
  splitType : String
  allocatedAmount : ℚ
  deriving DecidableEq

/-- What a call throws. -/
inductive SplitError where
  | message (text : String)
  | exceeds (fixedSum totalAmount : ℚ)
  | statement
  deriving DecidableEq

/-- Where a call stands, or how it ended; `entries` are the rows it has inserted, `left` is what it still has
to do. -/
inductive Call where
  | inserting (input : CreateRuleInput)
  | adding (ruleId : String) (left : List CreateRecipientInput)
  | created (ruleId : String)
  | uncreated (ruleId : Option String) (error : SplitError)
  | finding (request : SplitRequest)
  | selecting (request : SplitRequest)
  | recording (request : SplitRequest) (entries : List String) (left : List CreateLedgerEntryInput)
  | marking (request : SplitRequest) (entries : List String) (left : List String)
  | returned (request : SplitRequest) (entries : List String)
  | thrown (request : SplitRequest) (entries : List String) (error : SplitError)
  deriving DecidableEq

structure Tables where
  rules : List SplitPaymentRule
  recipients : List SplitPaymentRecipient
  ledger : List LedgerEntry
  calls : List Call
  deriving DecidableEq

/-- Stored rules that have not been applied. -/
def Tables.stored (rules : List SplitPaymentRule) (recipients : List SplitPaymentRecipient) : Tables :=
  ⟨rules, recipients, [], []⟩

inductive Label where
  | createRule (input : CreateRuleInput)
  | insertRule (index : ℕ) (id : String)
  | insertRecipient (index : ℕ)
  | split (request : SplitRequest)
  | find (index : ℕ)
  | select (index : ℕ)
  | insertEntry (index : ℕ) (id : String)
  | mark (index : ℕ)
  | fail (index : ℕ)
  deriving DecidableEq

variable (print : ℚ → String)

/-- The checks of `SplitPaymentService.createRule`. -/
def checkRule (input : CreateRuleInput) : Call :=
  if Text.trim input.name = "" then .uncreated none (.message "Rule name is required.")
  else
    match validateRecipients print input.recipients with
    | [] => .inserting { input with name := Text.trim input.name }
    | errors => .uncreated none (.message ("Invalid recipients: " ++ " | ".intercalate errors))

variable (amounts : String → ℚ)

/-- The first check of `applyRule`. -/
def checkAmount (request : SplitRequest) : Call :=
  if amounts request.transactionId ≤ 0 then .thrown request [] (.message "totalAmount must be greater than 0.")
  else .finding request

def CreateRecipientInput.row (recipient : CreateRecipientInput) (ruleId : String) : Option SplitPaymentRecipient :=
  (recipient.splitValue.bind Decimal.store).map fun splitValue =>
    { ruleId
      recipientType := recipient.recipientType
      recipientId := recipient.recipientId
      recipientLabel := recipient.recipientLabel
      splitType := recipient.splitType
      splitValue
      priority := recipient.priority.getD 0 }

def CreateLedgerEntryInput.row (input : CreateLedgerEntryInput) (id : String) (request : SplitRequest) :
    Option LedgerEntry :=
  (Decimal.store input.allocatedAmount).map fun allocatedAmount =>
    { id
      transactionId := request.transactionId
      ruleId := request.ruleId
      recipientType := input.recipientType
      recipientId := input.recipientId
      recipientLabel := input.recipientLabel
      splitType := input.splitType
      allocatedAmount
      currency := request.currency
      status := .pending }

variable (recipients : List SplitPaymentRecipient)

/-- The recipients of a rule in the order of their priorities, the older ones first. -/
def recipientsOf (ruleId : String) : List SplitPaymentRecipient :=
  (recipients.filter fun recipient => recipient.ruleId = ruleId).insertionSort fun first second =>
    first.priority ≤ second.priority

def continueAdding (ruleId : String) (left : List CreateRecipientInput) : Call :=
  if left.isEmpty then .created ruleId else .adding ruleId left

variable (request : SplitRequest)

def continueMarking (entries left : List String) : Call :=
  if left.isEmpty then .returned request entries else .marking request entries left

def continueRecording (entries : List String) (left : List CreateLedgerEntryInput) : Call :=
  if !left.isEmpty then .recording request entries left
  else if request.processes then continueMarking request entries entries
  else .returned request entries

def SplitPaymentRecipient.entryInput (recipient : SplitPaymentRecipient) (allocatedAmount : ℚ) :
    CreateLedgerEntryInput :=
  { recipientType := recipient.recipientType
    recipientId := recipient.recipientId
    recipientLabel := recipient.recipientLabel
    splitType := recipient.splitType
    allocatedAmount }

/-- What follows the selection of the rule. -/
def checkFound (rule : Option SplitPaymentRule) (request : SplitRequest) : Call :=
  match rule with
  | none => .thrown request [] (.message ("Split rule with id '" ++ request.ruleId ++ "' not found."))
  | some rule =>
    if rule.isActive then .selecting request
    else .thrown request [] (.message ("Split rule '" ++ request.ruleId ++ "' is inactive and cannot be applied."))

/-- What follows the selection of the recipients. -/
def allocate (request : SplitRequest) : Call :=
  if recipients.isEmpty then
    .thrown request [] (.message ("Split rule '" ++ request.ruleId ++ "' has no recipients defined."))
  else
    let sorted := recipients.insertionSort fun first second => first.priority ≤ second.priority
    match calculateAllocations sorted (amounts request.transactionId) with
    | none => .thrown request [] (.exceeds (fixedSum sorted) (amounts request.transactionId))
    | some allocations =>
      continueRecording request [] (List.zipWith SplitPaymentRecipient.entryInput sorted allocations)

/-- A statement that fails, ends its call. -/
def Call.fail : Call → Option Call
  | .inserting _ => some (.uncreated none .statement)
  | .adding ruleId _ => some (.uncreated (some ruleId) .statement)
  | .finding request => some (.thrown request [] .statement)
  | .selecting request => some (.thrown request [] .statement)
  | .recording request entries _ => some (.thrown request entries .statement)
  | .marking request entries _ => some (.thrown request entries .statement)
  | _ => none

def Tables.become (tables : Tables) (index : ℕ) (call : Call) : Tables :=
  { tables with calls := tables.calls.set index call }

/-- A row that a table cannot hold is not inserted; the statement can only fail. -/
def Tables.perform (amounts : String → ℚ) (tables : Tables) : Label → Option Tables
  | .createRule input => some { tables with calls := tables.calls ++ [checkRule print input] }
  | .insertRule index id =>
    match tables.calls[index]? with
    | some (.inserting input) =>
      if tables.rules.any fun rule => rule.id = id then none
      else
        some { tables.become index (continueAdding id input.recipients) with
          rules := tables.rules ++ [⟨id, input.name, input.description, input.createdBy, true⟩] }
    | _ => none
  | .insertRecipient index =>
    match tables.calls[index]? with
    | some (.adding ruleId (recipient :: left)) =>
      (recipient.row ruleId).map fun row =>
        { tables.become index (continueAdding ruleId left) with recipients := tables.recipients ++ [row] }
    | _ => none
  | .split request => some { tables with calls := tables.calls ++ [checkAmount amounts request] }
  | .find index =>
    match tables.calls[index]? with
    | some (.finding request) =>
      some (tables.become index (checkFound (tables.rules.find? fun rule => rule.id = request.ruleId) request))
    | _ => none
  | .select index =>
    match tables.calls[index]? with
    | some (.selecting request) =>
      some (tables.become index (allocate amounts (recipientsOf tables.recipients request.ruleId) request))
    | _ => none
  | .insertEntry index id =>
    match tables.calls[index]? with
    | some (.recording request entries (input :: left)) =>
      if tables.ledger.any fun entry => entry.id = id then none
      else
        (input.row id request).map fun row =>
          { tables.become index (continueRecording request (entries ++ [id]) left) with
            ledger := tables.ledger ++ [row] }
    | _ => none
  | .mark index =>
    match tables.calls[index]? with
    | some (.marking request entries (id :: left)) =>
      some { tables.become index (continueMarking request entries left) with
        ledger := tables.ledger.map (LedgerEntry.process id) }
    | _ => none
  | .fail index =>
    match tables.calls[index]? with
    | some call => call.fail.map fun call => tables.become index call
    | none => none

def step (amounts : String → ℚ) (before : Tables) (label : Label) (after : Tables) : Prop :=
  before.perform print amounts label = some after

end ProxyPay.Splits
