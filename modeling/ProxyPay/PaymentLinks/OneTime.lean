import ProxyPay.Library.Exclusive
import ProxyPay.Library.Text
import ProxyPay.Library.Transition

/-! The requests that pay one link, one statement of `processPaymentHandler` at a time. A transaction is known by its
position. -/

namespace ProxyPay.PaymentLinks

open ProxyPay.Library

structure PaymentLink where
  merchantId : String
  amount : String
  currency : String
  description : Option String
  token : String
  isOneTime : Bool
  isUsed : Bool
  stellarAddress : String
  redirectSuccessUrl : Option String
  expiresAt : Option ℕ
  deriving DecidableEq

structure Transaction where
  referenceNumber : String
  amount : String
  phoneNumber : String
  provider : String
  stellarAddress : String
  notes : String
  userId : String
  deriving DecidableEq

structure Job where
  transactionId : ℕ
  amount : String
  phoneNumber : String
  provider : String
  stellarAddress : String
  deriving DecidableEq

inductive Response where
  | refused (code : ℕ) (error : String)
  | initiated (redirectUrl : String)
  deriving DecidableEq

/-- What a request does next. -/
inductive Phase where
  | finding
  | creating (link : PaymentLink)
  | marking (link : PaymentLink) (transactionId : ℕ) (referenceNumber : String)
  | enqueuing (link : PaymentLink) (transactionId : ℕ) (referenceNumber : String)
  | answered (response : Response)
  deriving DecidableEq

/-- A request, with its origin, the time of its checks, and whether it enqueued a job. -/
structure Request where
  origin : String
  phoneNumber : String
  provider : String
  checked : Option (PaymentLink × ℕ)
  enqueued : Bool
  phase : Phase
  deriving DecidableEq

structure Payments where
  link : PaymentLink
  requests : List Request
  transactions : List Transaction
  jobs : List Job
  deriving DecidableEq

/-- A link before its first request. -/
def Payments.initial (link : PaymentLink) : Payments :=
  ⟨link, [], [], []⟩

/-- `query` is the request's next statement, with the time of what follows it and the number of a transaction that it
inserts; `fail` is an error that it throws instead. -/
inductive Label where
  | process (origin : String) (phoneNumber provider : Option String)
  | query (request : ℕ) (now : ℕ) (referenceNumber : String)
  | fail (request : ℕ) (message : Option String)

def PaymentLink.isExpired (link : PaymentLink) (now : ℕ) : Bool :=
  link.expiresAt.any (· < now)

/-- The checks of a link that was found. -/
def validate (link : PaymentLink) (now : ℕ) : Phase :=
  if link.isExpired now then .answered (.refused 400 "This payment link has expired")
  else if link.isOneTime && link.isUsed then
    .answered (.refused 400 "This one-time payment link has already been used")
  else .creating link

def Request.transaction (request : Request) (link : PaymentLink) (referenceNumber : String) : Transaction where
  referenceNumber := referenceNumber
  amount := link.amount
  phoneNumber := request.phoneNumber
  provider := request.provider
  stellarAddress := link.stellarAddress
  notes := (Text.truthy link.description).getD s!"Payment via link token {link.token}"
  userId := link.merchantId

def Request.redirectUrl (request : Request) (link : PaymentLink) (transactionId : ℕ) (referenceNumber : String) : String :=
  (Text.truthy link.redirectSuccessUrl).getD
    s!"{request.origin}/pay/result/success?transactionId={transactionId}&reference={referenceNumber}&amount={link.amount}&currency={link.currency}"

namespace Payments

variable (payments : Payments)

def goOn (index : ℕ) (request : Request) : Payments :=
  { payments with requests := payments.requests.set index request }

def query (index : ℕ) (request : Request) (now : ℕ) (referenceNumber : String) : Option Payments :=
  match request.phase with
  | .finding =>
    some (payments.goOn index
      { request with checked := some (payments.link, now), phase := validate payments.link now })
  | .creating link =>
    let transactionId := payments.transactions.length
    let phase := if link.isOneTime then .marking link transactionId referenceNumber
      else .enqueuing link transactionId referenceNumber
    some { payments.goOn index { request with phase } with
      transactions := payments.transactions ++ [request.transaction link referenceNumber] }
  | .marking link transactionId referenceNumber =>
    some { payments.goOn index { request with phase := .enqueuing link transactionId referenceNumber } with
      link := { payments.link with isUsed := true } }
  | .enqueuing link transactionId referenceNumber =>
    some { payments.goOn index { request with
        enqueued := true
        phase := .answered (.initiated (request.redirectUrl link transactionId referenceNumber)) } with
      jobs := payments.jobs ++
        [⟨transactionId, link.amount, request.phoneNumber, request.provider, link.stellarAddress⟩] }
  | .answered _ => none

def perform : Label → Option Payments
  | .process origin phoneNumber provider =>
    match Text.truthy phoneNumber, Text.truthy provider with
    | some phoneNumber, some provider =>
      some { payments with
        requests := payments.requests ++ [⟨origin, phoneNumber, provider, none, false, .finding⟩] }
    | _, _ =>
      let response := .refused 400 "Phone number and provider are required"
      some { payments with
        requests := payments.requests ++
          [⟨origin, phoneNumber.getD "", provider.getD "", none, false, .answered response⟩] }
  | .query index now referenceNumber =>
    match payments.requests[index]? with
    | none => none
    | some request => payments.query index request now referenceNumber
  | .fail index message =>
    match payments.requests[index]? with
    | none => none
    | some request =>
      match request.phase with
      | .answered _ => none
      | _ =>
        let error := (Text.truthy message).getD "Failed to process payment link transaction"
        some (payments.goOn index { request with phase := .answered (.refused 500 error) })

end Payments

def step (before : Payments) (label : Label) (after : Payments) : Prop :=
  before.perform label = some after

/-- A request that enqueued a job had found the link unused and unexpired. -/
def Checked (payments : Payments) : Prop :=
  ∀ request ∈ payments.requests, request.enqueued = true → ∃ link now, request.checked = some (link, now) ∧
    link.isUsed = false ∧ link.isExpired now = false

def Phase.isEnqueuing : Phase → Bool
  | .enqueuing _ _ _ => true
  | _ => false

/-- A link that is used has a job, or a request that is about to enqueue one. -/
def Backed (payments : Payments) : Prop :=
  payments.link.isUsed = true → payments.jobs ≠ [] ∨ ∃ request ∈ payments.requests, request.phase.isEnqueuing = true

end ProxyPay.PaymentLinks

/-! When a one-time link is paid once, and when one that is used has a payment. -/

namespace ProxyPay.PaymentLinks

open ProxyPay.Library

def Phase.isMarking : Phase → Bool
  | .marking _ _ _ => true
  | _ => false

/-- The copy of the link that a request goes on with. -/
def Phase.link : Phase → Option PaymentLink
  | .creating link | .marking link _ _ | .enqueuing link _ _ => some link
  | .finding | .answered _ => none

namespace Payments

/-- The request that takes its next statement. -/
def querying (payments : Payments) : Label → Option Request
  | .query index _ _ => payments.requests[index]?
  | _ => none

def failing (payments : Payments) : Label → Option Request
  | .fail index _ => payments.requests[index]?
  | _ => none

def enqueuing (payments : Payments) : ℕ :=
  payments.requests.countP fun request => request.phase.isEnqueuing

end Payments

/-- No request marks a link that is used already. -/
def isFirst (before : Payments) (label : Label) : Bool :=
  (before.querying label).all fun request => !request.phase.isMarking || !before.link.isUsed

/-- No job fails to be enqueued. -/
def isQueued (before : Payments) (label : Label) : Bool :=
  (before.failing label).all fun request => !request.phase.isEnqueuing

variable {before after : Payments} {label : Label} {request new : Request} {link copy : PaymentLink} {index : ℕ}
variable {trace : List Label} {last : Payments}

/-- What a step can do to a one-time link. -/
inductive Change (before : Payments) : Label → Payments → Prop where
  | start (label : Label) (new : Request) (idle : new.phase.link = none) (silent : new.enqueued = false) :
      Change before label { before with requests := before.requests ++ [new] }
  | find (index now : ℕ) (number : String) (request : Request) (found : before.requests[index]? = some request)
      (finding : request.phase = .finding) :
      Change before (.query index now number) (before.goOn index
        { request with checked := some (before.link, now), phase := validate before.link now })
  | create (index now : ℕ) (number : String) (request : Request) (found : before.requests[index]? = some request)
      (copy : PaymentLink) (creating : request.phase = .creating copy) (transactions : List Transaction)
      (phase : Phase) (same : phase.link = some copy) (marking : copy.isOneTime = true → phase.isMarking = true) :
      Change before (.query index now number) { before.goOn index { request with phase } with transactions }
  | mark (index now : ℕ) (number : String) (request : Request) (found : before.requests[index]? = some request)
      (copy : PaymentLink) (transactionId : ℕ) (referenceNumber : String)
      (marking : request.phase = .marking copy transactionId referenceNumber) :
      Change before (.query index now number)
        { before.goOn index { request with phase := .enqueuing copy transactionId referenceNumber } with
          link := { before.link with isUsed := true } }
  | enqueue (index now : ℕ) (number : String) (request : Request) (found : before.requests[index]? = some request)
      (enqueuing : request.phase.isEnqueuing = true) (response : Response) (job : Job) :
      Change before (.query index now number)
        { before.goOn index { request with enqueued := true, phase := .answered response } with
          jobs := before.jobs ++ [job] }
  | fail (index : ℕ) (message : Option String) (request : Request) (found : before.requests[index]? = some request)
      (response : Response) :
      Change before (.fail index message) (before.goOn index { request with phase := .answered response })

theorem change_of_step (move : step before label after) : Change before label after := by
  cases label with
  | process origin phoneNumber provider =>
    simp only [step, Payments.perform] at move
    split at move
    · cases move
      exact .start _ _ rfl rfl
    · cases move
      exact .start _ _ rfl rfl
  | query index now number =>
    simp only [step, Payments.perform] at move
    split at move
    · cases move
    · rename_i request found
      unfold Payments.query at move
      split at move
      · rename_i finding
        cases move
        exact .find index now number request found finding
      · rename_i copy creating
        cases move
        apply Change.create index now number request found copy creating
        · split <;> rfl
        · intro oneTime
          rw [if_pos oneTime]
          rfl
      · rename_i copy transactionId referenceNumber marking
        cases move
        exact .mark index now number request found copy transactionId referenceNumber marking
      · rename_i copy transactionId referenceNumber enqueuing
        cases move
        exact .enqueue index now number request found (by rw [enqueuing]; rfl) _ _
      · cases move
  | fail index message =>
    simp only [step, Payments.perform] at move
    split at move
    · cases move
    · rename_i request found
      split at move
      · cases move
      · cases move
        exact .fail index message request found _

/-- The request has found the link unused and unexpired. -/
def Request.HasChecked (request : Request) : Prop :=
  ∃ link now, request.checked = some (link, now) ∧ link.isUsed = false ∧ link.isExpired now = false

/-- Requests that go on, or have enqueued a job, found a one-time link that they could pay. -/
structure Kept (payments : Payments) : Prop where
  oneTime : payments.link.isOneTime = true
  copies : ∀ request ∈ payments.requests, ∀ copy, request.phase.link = some copy →
    copy.isOneTime = true ∧ request.HasChecked
  checked : ∀ request ∈ payments.requests, request.enqueued = true → request.HasChecked
  silent : ∀ request ∈ payments.requests, request.phase = .finding → request.enqueued = false

theorem Kept.goOn (kept : Kept before) (later : new.phase ≠ .finding)
    (copies : ∀ copy, new.phase.link = some copy → copy.isOneTime = true ∧ new.HasChecked)
    (checked : new.enqueued = true → new.HasChecked) : Kept (before.goOn index new) := by
  constructor
  · exact kept.oneTime
  · exact forall_mem_set kept.copies copies
  · exact forall_mem_set kept.checked checked
  · intro other member finding
    rcases List.mem_or_eq_of_mem_set member with earlier | rfl
    · exact kept.silent other earlier finding
    · exact absurd finding later

theorem validate_cases (link : PaymentLink) (now : ℕ) : (∃ response, validate link now = .answered response) ∨
    validate link now = .creating link ∧ link.isExpired now = false ∧ (link.isOneTime = true → link.isUsed = false) := by
  unfold validate
  split
  · exact .inl ⟨_, rfl⟩
  · grind

theorem Kept.change (kept : Kept before) (change : Change before label after) : Kept after := by
  cases change with
  | start _ new idle silent =>
    constructor
    · exact kept.oneTime
    · intro request member copy goes
      rcases List.mem_append.mp member with earlier | last
      · exact kept.copies request earlier copy goes
      · obtain rfl := List.mem_singleton.mp last
        rw [idle] at goes
        cases goes
    · intro request member enqueued
      rcases List.mem_append.mp member with earlier | last
      · exact kept.checked request earlier enqueued
      · obtain rfl := List.mem_singleton.mp last
        rw [silent] at enqueued
        cases enqueued
    · intro request member finding
      rcases List.mem_append.mp member with earlier | last
      · exact kept.silent request earlier finding
      · obtain rfl := List.mem_singleton.mp last
        exact silent
  | find index now number request found finding =>
    have silent := kept.silent request (List.mem_of_getElem? found) finding
    rcases validate_cases before.link now with ⟨response, refused⟩ | ⟨passed, unexpired, unused⟩
    · rw [refused]
      apply kept.goOn
      · intro impossible
        cases impossible
      · exact fun _ goes => nomatch goes
      · intro enqueued
        rw [silent] at enqueued
        cases enqueued
    · rw [passed]
      have checked : Request.HasChecked { request with checked := some (before.link, now), phase := .creating before.link } :=
        ⟨before.link, now, rfl, unused kept.oneTime, unexpired⟩
      apply kept.goOn
      · intro impossible
        cases impossible
      · intro copy goes
        cases goes
        exact ⟨kept.oneTime, checked⟩
      · exact fun _ => checked
  | create index now number request found copy creating transactions phase same marking =>
    have member := List.mem_of_getElem? found
    obtain ⟨oneTime, checked⟩ := kept.copies request member copy (by rw [creating]; rfl)
    have now : Kept (before.goOn index { request with phase }) := by
      apply kept.goOn
      · rintro rfl
        cases same
      · intro other goes
        cases same.symm.trans goes
        exact ⟨oneTime, checked⟩
      · exact fun _ => checked
    exact ⟨now.oneTime, now.copies, now.checked, now.silent⟩
  | mark index now number request found copy transactionId referenceNumber marking =>
    have member := List.mem_of_getElem? found
    obtain ⟨oneTime, checked⟩ := kept.copies request member copy (by rw [marking]; rfl)
    have now : Kept (before.goOn index { request with phase := .enqueuing copy transactionId referenceNumber }) := by
      apply kept.goOn
      · intro impossible
        cases impossible
      · intro other goes
        cases goes
        exact ⟨oneTime, checked⟩
      · exact fun _ => checked
    exact ⟨now.oneTime, now.copies, now.checked, now.silent⟩
  | enqueue index now number request found enqueuing response job =>
    have member := List.mem_of_getElem? found
    have now : Kept (before.goOn index { request with enqueued := true, phase := .answered response }) := by
      apply kept.goOn
      · intro impossible
        cases impossible
      · intro other goes
        cases goes
      · intro _
        cases here : request.phase with
        | enqueuing copy transactionId referenceNumber =>
          exact (kept.copies request member copy (by rw [here]; rfl)).2
        | _ =>
          rw [here] at enqueuing
          cases enqueuing
    exact ⟨now.oneTime, now.copies, now.checked, now.silent⟩
  | fail index message request found response =>
    apply kept.goOn
    · intro impossible
      cases impossible
    · intro other goes
      cases goes
    · exact kept.checked request (List.mem_of_getElem? found)

/-- Jobs, and requests that will enqueue one, of which there are none before the link is used. -/
def Single (payments : Payments) : Prop :=
  payments.jobs.length + payments.enqueuing ≤ payments.link.isUsed.toNat

theorem enqueuing_goOn (found : before.requests[index]? = some request) (new : Request) :
    (before.goOn index new).enqueuing + request.phase.isEnqueuing.toNat = before.enqueuing + new.phase.isEnqueuing.toNat :=
  countP_set _ found new

theorem Single.change (single : Single before) (kept : Kept before) (change : Change before label after)
    (first : isFirst before label = true) : Single after := by
  rw [Single] at single
  cases change with
  | start _ new idle silent =>
    have quiet : new.phase.isEnqueuing = false := by
      cases here : new.phase <;> first | rfl | simp [here, Phase.link] at idle
    rw [Single, Payments.enqueuing, List.countP_append, List.countP_singleton, quiet]
    exact single
  | find index now number request found finding =>
    have counted := enqueuing_goOn found { request with checked := some (before.link, now), phase := validate before.link now }
    have quiet : (validate before.link now).isEnqueuing = false := by
      rcases validate_cases before.link now with ⟨response, refused⟩ | ⟨passed, _⟩
      · rw [refused]
        rfl
      · rw [passed]
        rfl
    simp only [finding, quiet] at counted
    exact Nat.le_trans (Nat.le_of_eq (congrArg (before.jobs.length + ·) counted)) single
  | create index now number request found copy creating transactions phase same marking =>
    have counted := enqueuing_goOn found { request with phase }
    have next := marking (kept.copies request (List.mem_of_getElem? found) copy (by rw [creating]; rfl)).1
    have quiet : phase.isEnqueuing = false := by cases phase <;> first | rfl | cases next
    simp only [creating, quiet] at counted
    exact Nat.le_trans (Nat.le_of_eq (congrArg (before.jobs.length + ·) counted)) single
  | mark index now number request found copy transactionId referenceNumber marking =>
    have counted := enqueuing_goOn found { request with phase := .enqueuing copy transactionId referenceNumber }
    have unused : before.link.isUsed = false := by
      simpa [isFirst, Payments.querying, found, marking, Phase.isMarking] using first
    rw [unused] at single
    simp only [marking, Phase.isEnqueuing, Bool.toNat_false, Bool.toNat_true] at counted single
    change before.jobs.length + (before.goOn index _).enqueuing ≤ 1
    omega
  | enqueue index now number request found enqueuing response job =>
    have counted := enqueuing_goOn found { request with enqueued := true, phase := .answered response }
    rw [enqueuing] at counted
    change (before.jobs ++ [job]).length + (before.goOn index _).enqueuing ≤ before.link.isUsed.toNat
    rw [List.length_append, List.length_singleton]
    simp only [Phase.isEnqueuing, Bool.toNat_false, Bool.toNat_true] at counted
    omega
  | fail index message request found response =>
    have counted := enqueuing_goOn found { request with phase := .answered response }
    change before.jobs.length + (before.goOn index _).enqueuing ≤ before.link.isUsed.toNat
    simp only [Phase.isEnqueuing, Bool.toNat_false] at counted
    omega

theorem Backed.goOn (backed : Backed before) (found : before.requests[index]? = some request)
    (other : request.phase.isEnqueuing = false) (new : Request) : Backed (before.goOn index new) := by
  intro used
  rcases backed used with jobs | ⟨witness, member, enqueuing⟩
  · exact .inl jobs
  · right
    refine ⟨witness, mem_set_of_ne member found ?_, enqueuing⟩
    rintro rfl
    rw [other] at enqueuing
    cases enqueuing

theorem Backed.change (backed : Backed before) (change : Change before label after)
    (queued : isQueued before label = true) : Backed after := by
  cases change with
  | start =>
    intro used
    rcases backed used with jobs | ⟨witness, member, enqueuing⟩
    · exact .inl jobs
    · exact .inr ⟨witness, List.mem_append_left _ member, enqueuing⟩
  | find index now number request found finding => exact backed.goOn found (by rw [finding]; rfl) _
  | create index now number request found copy creating transactions phase =>
    exact backed.goOn found (by rw [creating]; rfl) { request with phase }
  | mark index now number request found copy transactionId referenceNumber marking =>
    intro _
    exact .inr ⟨_, List.mem_set (List.getElem?_eq_some_iff.mp found).1 _, rfl⟩
  | enqueue index now number request found enqueuing response job =>
    intro _
    exact .inl (by simp)
  | fail index message request found response =>
    apply backed.goOn found
    simpa [isQueued, Payments.failing, found] using queued

theorem link_follows (oneTime : link.isOneTime = true) (unused : link.isUsed = false)
    (run : Run step (.initial link) trace last) :
    (Throughout step (.initial link) (fun before label _ => isFirst before label = true) trace → last.jobs.length ≤ 1) ∧
      Checked last ∧
      (Throughout step (.initial link) (fun before label _ => isQueued before label = true) trace → Backed last) := by
  have start : Kept (.initial link) :=
    ⟨oneTime, (fun _ member => nomatch member), (fun _ member => nomatch member), fun _ member => nomatch member⟩
  refine ⟨?_, ?_, ?_⟩
  · intro every
    have kept : Kept last ∧ Single last := by
      apply run.kept every
      · exact ⟨start, Nat.zero_le _⟩
      · intro before label after ⟨kept, single⟩ move first
        have change := change_of_step move
        exact ⟨kept.change change, single.change kept change first⟩
    exact Nat.le_trans (Nat.le_add_right _ _) (Nat.le_trans kept.2 (Bool.toNat_le _))
  · have kept : Kept last := by
      apply run.invariant (fun _ payments => Kept payments) start
      intro _ before label after kept move
      exact kept.change (change_of_step move)
    exact kept.checked
  · intro every
    apply run.kept every
    · intro used
      rw [Payments.initial, unused] at used
      cases used
    · intro before label after backed move queued
      exact backed.change (change_of_step move) queued

/-- A link of 500 as it is created by default. -/
def linkSample : PaymentLink :=
  ⟨"m1", "500", "XAF", none, "t0", true, false, "G", none, some 100⟩

/-- A payment, and a request that comes too late. -/
def paidLink : List Label :=
  [.process "https://host" (some "670000000") (some "mtn"), .query 0 10 "R1", .query 0 10 "R1", .query 0 10 "R1",
    .process "https://host" (some "680000000") (some "orange"), .query 0 10 "R1", .query 1 11 "R2"]

theorem paidLink_follows : ∃ last : Payments, last.link.isUsed = true ∧ last.transactions.length = 1 ∧
    last.jobs.length ≤ 1 ∧ Checked last ∧ Backed last := by
  have followed : (paidLink.foldlM Payments.perform (.initial linkSample)).map (fun payments =>
      (payments.link.isUsed, payments.transactions.length)) = some (true, 1) := by decide
  obtain ⟨last, reached, same⟩ := Option.map_eq_some_iff.mp followed
  obtain ⟨used, transactions⟩ := Prod.mk.inj same
  obtain ⟨once, checked, backed⟩ := link_follows rfl rfl (Run.follow reached)
  refine ⟨last, used, transactions, ?_, checked, ?_⟩
  · exact once (throughout_follow (by decide))
  · exact backed (throughout_follow (by decide))

/-- Two requests read the link before either marks it. -/
def paidByTwo : List Label :=
  [.process "https://host" (some "670000000") (some "mtn"), .process "https://host" (some "680000000") (some "orange"),
    .query 0 10 "R1", .query 1 10 "R2", .query 0 10 "R1", .query 0 10 "R1", .query 0 10 "R1", .query 1 11 "R2",
    .query 1 11 "R2", .query 1 11 "R2"]

theorem paidByTwo_not_once : ¬∀ (link : PaymentLink) (trace : List Label) (last : Payments), link.isOneTime = true →
    link.isUsed = false → Run step (.initial link) trace last →
    last.jobs.length ≤ 1 ∧ Checked last ∧ Backed last := by
  intro always
  have followed : (paidByTwo.foldlM Payments.perform (.initial linkSample)).map (fun payments => payments.jobs.length) =
      some 2 := by decide
  obtain ⟨last, reached, jobs⟩ := Option.map_eq_some_iff.mp followed
  have once := (always linkSample paidByTwo last rfl rfl (Run.follow reached)).1
  rw [jobs] at once
  exact absurd once (by decide)

end ProxyPay.PaymentLinks
