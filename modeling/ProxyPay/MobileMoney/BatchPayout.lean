import ProxyPay.Library.Generator
import ProxyPay.MobileMoney.Service

/-! `sendBatchPayout`, label by label as it is compiled, and what the labels amount to. The
two modes of the function share its labels and its only protected region. -/

namespace ProxyPay.MobileMoney

open ProxyPay.Library

structure BatchPayoutItem where
  referenceId : String
  phoneNumber : String
  amount : String
  deriving DecidableEq

/-- What is reported of one item. -/
structure BatchPayoutResult where
  referenceId : String
  success : Bool
  error : Option String
  providerReference : Option String
  deriving DecidableEq

/-- What is reported of a batch. -/
structure BatchReport where
  success : Bool
  results : List BatchPayoutResult
  error : Option Thrown
  deriving DecidableEq

/-- A provider, of which only matters whether it has a `sendBatchPayout`. -/
structure ProviderInstance where
  sendBatchPayout : Bool
  deriving DecidableEq

/-- The awaited calls; the last one is the batch call of the provider, by its breaker. -/
inductive BatchRequest where
  | getProviderOrThrow (providerKey : String)
  | sendPayout (providerKey phoneNumber amount : String)
  | executeWithCircuitBreaker (providerKey operation : String) (items : List BatchPayoutItem)
  deriving DecidableEq

def BatchRequest.Reply : BatchRequest → Type
  | .getProviderOrThrow _ => ProviderInstance
  | .sendPayout .. => Receipt
  | .executeWithCircuitBreaker .. => BatchReport

abbrev BatchService := Script BatchRequest BatchRequest.Reply Thrown

abbrev BatchAnswered := Exchange BatchRequest BatchRequest.Reply Thrown

def maxBatchSize : Nat := 50

/-- The variables of the function; all but the results start undefined. -/
structure BatchLocals where
  providerInstance : Option ProviderInstance
  results : List BatchPayoutResult
  index : Option Nat
  items : Option (List BatchPayoutItem)
  item : Option BatchPayoutItem
  receipt : Option Receipt
  report : Option BatchReport
  error : Option Thrown

def BatchLocals.undefined : BatchLocals := ⟨none, [], none, none, none, none, none, none⟩

abbrev BatchMachine := Machine Thrown BatchLocals

abbrev BatchOp := Op BatchRequest BatchRequest.Reply BatchLocals (Option BatchReport)

/-- The `TypeError` of reading a property of `undefined`. -/
def readsUndefined (property : String) : Thrown :=
  .error ("Cannot read properties of undefined (reading '" ++ property ++ "')")

variable (items : List BatchPayoutItem)

/-- Every item is reported as failed, for the same reason. -/
def allFailed (message : String) (error : Thrown) : BatchReport where
  success := false
  results := items.map fun item => ⟨item.referenceId, false, some message, none⟩
  error := some error

/-- `String(data.referenceId || "")` where there are data. -/
def referenceOf : Data → String
  | .provided referenceId => referenceId.getD ""
  | .sandboxAutoApproved .. => ""

def paidEntry (item : BatchPayoutItem) (receipt : Receipt) : BatchPayoutResult where
  referenceId := item.referenceId
  success := true
  error := none
  providerReference := receipt.data.map referenceOf

def oversized : BatchReport :=
  allFailed items ("Batch size exceeds maximum of " ++ toString maxBatchSize)
    (.error ("Batch size " ++ toString items.length ++ " exceeds maximum of " ++
      toString maxBatchSize))

def failedBatch (error : Thrown) : BatchReport :=
  allFailed items (error.message?.getD "Batch payout failed") error

def individualReport (results : List BatchPayoutResult) : BatchReport :=
  ⟨results.any BatchPayoutResult.success, results, none⟩

namespace sendBatchPayout

variable (providerKey : String) (allItems : List BatchPayoutItem)

/-- The protected region: labels 1 to 5, with the handler at label 6. -/
def region : Region Thrown BatchLocals :=
  ⟨1, 6, 7, fun error locals => { locals with error := some error }⟩

variable (machine : BatchMachine)

def label1 : BatchMachine × Except Thrown BatchOp :=
  ({ machine with trys := region :: machine.trys },
    .ok (.await (.getProviderOrThrow providerKey) fun provider locals =>
      { locals with providerInstance := some provider }))

def label0 : BatchMachine × Except Thrown BatchOp :=
  if allItems.length = 0 then (machine, .ok (.ret (some ⟨true, [], none⟩)))
  else if allItems.length > maxBatchSize then (machine, .ok (.ret (some (oversized allItems))))
  else label1 providerKey { machine with label := 1 }

/-- The loop condition; in the batch mode its variables are undefined. -/
def label3 : BatchMachine × Except Thrown BatchOp :=
  match machine.locals.items with
  | none => (machine, .error (readsUndefined "length"))
  | some items =>
    match machine.locals.index.bind fun index => items[index]? with
    | none => (machine, .ok (.jump 5))
    | some item =>
      ({ machine with locals := { machine.locals with item := some item } },
        .ok (.await (.sendPayout providerKey item.phoneNumber item.amount) fun receipt locals =>
          { locals with receipt := some receipt }))

/-- Only the individual mode prepares the loop, but both modes fall into it. -/
def label2 : BatchMachine × Except Thrown BatchOp :=
  match machine.locals.providerInstance with
  | none => (machine, .error (readsUndefined "sendBatchPayout"))
  | some provider =>
    if !provider.sendBatchPayout then
      label3 providerKey { machine with
        label := 3
        locals := { machine.locals with results := [], index := some 0, items := some allItems } }
    else label3 providerKey machine

def label4 : BatchMachine × Except Thrown BatchOp :=
  match machine.locals.item, machine.locals.receipt with
  | some item, some receipt =>
    ({ machine with
        locals := { machine.locals with
          results := machine.locals.results ++ [paidEntry item receipt]
          index := machine.locals.index.map (· + 1) } },
      .ok (.jump 3))
  | none, _ => (machine, .error (readsUndefined "referenceId"))
  | _, none => (machine, .error (readsUndefined "data"))

def label5 : BatchMachine × Except Thrown BatchOp :=
  (machine, .ok (.ret (some (individualReport machine.locals.results))))

def label6 : BatchMachine × Except Thrown BatchOp :=
  (machine, .ok (.ret (some (failedBatch allItems (machine.locals.error.getD .other)))))

def label7 : BatchMachine × Except Thrown BatchOp :=
  (machine, .ok (.await (.executeWithCircuitBreaker providerKey "sendBatchPayout" allItems)
    fun report locals => { locals with report := some report }))

def label8 : BatchMachine × Except Thrown BatchOp :=
  (machine, .ok (.ret machine.locals.report))

def body : Body BatchRequest BatchRequest.Reply Thrown BatchLocals (Option BatchReport)
  | machine =>
    match machine.label with
    | 0 => label0 providerKey allItems machine
    | 1 => label1 providerKey machine
    | 2 => label2 providerKey allItems machine
    | 3 => label3 providerKey machine
    | 4 => label4 machine
    | 5 => label5 machine
    | 6 => label6 allItems machine
    | 7 => label7 providerKey allItems machine
    | 8 => label8 machine
    | _ => (machine, .ok (.ret none))

end sendBatchPayout

/-- The function, driven for a number of times that its body is run. -/
def sendBatchPayout (fuel : Nat) (provider : String) (items : List BatchPayoutItem) :
    BatchService (Driven (Option BatchReport)) :=
  Machine.drive (sendBatchPayout.body (toLowerCase provider) items) fuel
    ⟨0, [], .undefined⟩

/-- The individual mode as a loop over the items. -/
def payIndividually (providerKey : String) :
    List BatchPayoutItem → List BatchPayoutResult → BatchService (List BatchPayoutResult)
  | [], results => .done (.ok results)
  | item :: rest, results =>
    (Script.call (BatchRequest.sendPayout providerKey item.phoneNumber item.amount)).bind
      fun receipt => payIndividually providerKey rest (results ++ [paidEntry item receipt])

/-- What the protected region amounts to once the provider is there. -/
def payBatch (providerKey : String) (items : List BatchPayoutItem) (provider : ProviderInstance) :
    BatchService BatchReport :=
  if provider.sendBatchPayout then .done (.error (readsUndefined "length"))
  else (payIndividually providerKey items []).bind fun results =>
    .done (.ok (individualReport results))

/-- What the function amounts to. -/
def batchOutcome (providerKey : String) (items : List BatchPayoutItem) : BatchService BatchReport :=
  if items.length = 0 then .done (.ok ⟨true, [], none⟩)
  else if items.length > maxBatchSize then .done (.ok (oversized items))
  else
    ((Script.call (BatchRequest.getProviderOrThrow providerKey)).bind
      (payBatch providerKey items)).catching fun error => .done (.ok (failedBatch items error))

/-- The report, as the compiled function returns it. -/
def delivered (script : BatchService BatchReport) : BatchService (Driven (Option BatchReport)) :=
  script.bind fun report => .done (.ok (.returned (some report)))

section Labels

open sendBatchPayout

variable {providerKey : String} {allItems paid rest : List BatchPayoutItem} {fuel : Nat}
variable {locals : BatchLocals}

theorem drive_handler (enough : 1 ≤ fuel) {error : Thrown} (received : locals.error = some error) :
    Machine.drive (body providerKey allItems) fuel ⟨6, [region], locals⟩ =
      .done (.ok (.returned (some (failedBatch allItems error)))) := by
  obtain ⟨fuel, rfl⟩ : ∃ later, fuel = later + 1 := ⟨fuel - 1, by omega⟩
  have reports : body providerKey allItems ⟨6, [region], locals⟩ =
      (⟨6, [region], locals⟩, .ok (.ret (some (failedBatch allItems error)))) := by
    simp [body, label6, received]
  exact Machine.drive_ret reports

theorem drive_loop (enough : 2 * rest.length + 2 ≤ fuel) (split : allItems = paid ++ rest)
    (items : locals.items = some allItems) (index : locals.index = some paid.length) :
    Machine.drive (body providerKey allItems) fuel ⟨3, [region], locals⟩ =
      delivered (((payIndividually providerKey rest locals.results).bind fun results =>
        .done (.ok (individualReport results))).catching fun error =>
          .done (.ok (failedBatch allItems error))) := by
  induction rest generalizing paid locals fuel with
  | nil =>
    obtain ⟨fuel, rfl⟩ : ∃ later, fuel = later + 2 := ⟨fuel - 2, by simp at enough; omega⟩
    have ends : allItems[paid.length]? = none := by simp [split]
    have leaves : body providerKey allItems ⟨3, [region], locals⟩ =
        (⟨3, [region], locals⟩, .ok (.jump 5)) := by
      simp [body, label3, items, index, ends]
    rw [Machine.drive_jump leaves]
    rfl
  | cons item rest ih =>
    obtain ⟨fuel, rfl⟩ : ∃ later, fuel = later + 2 := ⟨fuel - 2, by simp at enough; omega⟩
    have more : 2 * rest.length + 2 ≤ fuel := by simp at enough; omega
    have here : allItems[paid.length]? = some item := by simp [split]
    have asks : body providerKey allItems ⟨3, [region], locals⟩ =
        (⟨3, [region], { locals with item := some item }⟩,
          .ok (.await (.sendPayout providerKey item.phoneNumber item.amount) fun receipt locals =>
            { locals with receipt := some receipt })) := by
      simp [body, label3, items, index, here]
    rw [Machine.drive_await asks fun _ => rfl]
    simp only [payIndividually, Script.call, Script.bind, Script.catching, delivered]
    congr 1
    funext reply
    cases reply with
    | error error => exact drive_handler (by omega) rfl
    | ok receipt =>
      have pushes : body providerKey allItems
          ⟨4, [region], { locals with item := some item, receipt := some receipt }⟩ =
            (⟨4, [region], { locals with
              item := some item
              receipt := some receipt
              results := locals.results ++ [paidEntry item receipt]
              index := locals.index.map (· + 1) }⟩, .ok (.jump 3)) := by
        rfl
      refine (Machine.drive_jump pushes).trans ?_
      have further : allItems = (paid ++ [item]) ++ rest := by simp [split]
      exact ih more further items (by simp [index])

theorem drive_provider (enough : 2 * allItems.length + 2 ≤ fuel) (provider : ProviderInstance) :
    Machine.drive (body providerKey allItems) fuel
        ⟨2, [region], { BatchLocals.undefined with providerInstance := some provider }⟩ =
      delivered ((payBatch providerKey allItems provider).catching fun error =>
        .done (.ok (failedBatch allItems error))) := by
  unfold payBatch
  cases mode : provider.sendBatchPayout with
  | true =>
    obtain ⟨fuel, rfl⟩ : ∃ later, fuel = later + 1 := ⟨fuel - 1, by omega⟩
    have fails : body providerKey allItems
        ⟨2, [region], { BatchLocals.undefined with providerInstance := some provider }⟩ =
          (⟨2, [region], { BatchLocals.undefined with providerInstance := some provider }⟩,
            .error (readsUndefined "length")) := by
      simp [body, label2, label3, mode, BatchLocals.undefined]
    rw [Machine.drive_throw fails rfl]
    exact drive_handler (by omega) rfl
  | false =>
    have enters : body providerKey allItems
        ⟨2, [region], { BatchLocals.undefined with providerInstance := some provider }⟩ =
          body providerKey allItems ⟨3, [region], { BatchLocals.undefined with
            providerInstance := some provider
            index := some 0
            items := some allItems }⟩ := by
      simp [body, label2, mode, BatchLocals.undefined]
    rw [Machine.drive_fallThrough enters]
    exact drive_loop enough (List.nil_append allItems).symm rfl rfl

theorem sendBatchPayout_eq {provider : String} (enough : 2 * allItems.length + 3 ≤ fuel) :
    sendBatchPayout fuel provider allItems = delivered (batchOutcome (toLowerCase provider) allItems) := by
  obtain ⟨fuel, rfl⟩ : ∃ later, fuel = later + 1 := ⟨fuel - 1, by omega⟩
  unfold sendBatchPayout batchOutcome
  by_cases empty : allItems.length = 0
  · have returns : body (toLowerCase provider) allItems ⟨0, [], .undefined⟩ =
        (⟨0, [], .undefined⟩, .ok (.ret (some ⟨true, [], none⟩))) := by
      simp [body, label0, empty]
    rw [Machine.drive_ret returns, if_pos empty]
    rfl
  · by_cases large : allItems.length > maxBatchSize
    · have returns : body (toLowerCase provider) allItems ⟨0, [], .undefined⟩ =
          (⟨0, [], .undefined⟩, .ok (.ret (some (oversized allItems)))) := by
        simp [body, label0, empty, large]
      rw [Machine.drive_ret returns, if_neg empty, if_pos large]
      rfl
    · have loads : body (toLowerCase provider) allItems ⟨0, [], .undefined⟩ =
          (⟨1, [region], .undefined⟩,
            .ok (.await (.getProviderOrThrow (toLowerCase provider)) fun provider locals =>
              { locals with providerInstance := some provider })) := by
        simp [body, label0, label1, empty, large]
      rw [Machine.drive_await loads fun _ => rfl, if_neg empty, if_neg large]
      simp only [Script.call, Script.bind, Script.catching, delivered]
      congr 1
      funext reply
      cases reply with
      | error error => exact drive_handler (by omega) rfl
      | ok loaded =>
        have more : 2 * allItems.length + 2 ≤ fuel := by omega
        exact drive_provider more loaded

end Labels

end ProxyPay.MobileMoney
