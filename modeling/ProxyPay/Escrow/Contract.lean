import ProxyPay.Soroban.Host

/-! The escrow contract, entry point by entry point, and what each of them can do
when it succeeds. Extending the storage's time to live is left out: it touches
neither the stored state nor any token. -/

namespace ProxyPay.Escrow

open ProxyPay.Library ProxyPay.Soroban

inductive EscrowError where
  | notInitialised
  | alreadyReleased
  | lockNotExpired
  | lockExpired
  deriving DecidableEq

structure EscrowState where
  depositor : Address
  beneficiary : Address
  arbiter : Address
  token : Address
  amount : I128
  emergencyUnlockTimestamp : UInt64
  lockUntilLedger : UInt32
  feeBps : UInt32
  feeRecipient : Address
  released : Bool
  deriving DecidableEq

variable {contract : Address}

abbrev EscrowContract (contract : Address) := Contract contract EscrowState EscrowError

open Contract in
/-- `(fee, net)`. The product is taken in `i128` before the division. -/
def EscrowState.split (state : EscrowState) : EscrowContract contract (I128 × I128) := do
  let product ← arithmetic (state.amount.val * (state.feeBps.toNat : Int))
  let fee ← arithmetic (product.val.tdiv 10000)
  let net ← arithmetic (state.amount.val - fee.val)
  return (fee, net)

/-- Arguments of the source's `initialize`, in the order of the source. -/
structure InitialiseArgs where
  depositor : Address
  beneficiary : Address
  arbiter : Address
  token : Address
  amount : I128
  emergencyUnlockTimestamp : UInt64
  lockUntilLedger : UInt32
  feeBps : UInt32
  feeRecipient : Address
  deriving DecidableEq

open Contract in
def initialise (args : InitialiseArgs) : EscrowContract contract Unit := do
  requireAuth args.depositor
  assert (0 < args.amount.val) "amount must be positive"
  let present ← hasStored
  assert (!present) "already initialised"
  let now ← timestamp
  assert (now < args.emergencyUnlockTimestamp) "emergency unlock must be in the future"
  assert (args.feeBps ≤ 10000) "fee basis points must be in [0, 10000]"
  assert (args.depositor ≠ args.beneficiary) "beneficiary must differ from depositor"
  assert (args.arbiter ≠ args.depositor ∧ args.arbiter ≠ args.beneficiary)
    "arbiter must differ from depositor and beneficiary"
  transfer ⟨args.token, args.depositor, contract, args.amount.val⟩
  store {
    depositor := args.depositor
    beneficiary := args.beneficiary
    arbiter := args.arbiter
    token := args.token
    amount := args.amount
    emergencyUnlockTimestamp := args.emergencyUnlockTimestamp
    lockUntilLedger := args.lockUntilLedger
    feeBps := args.feeBps
    feeRecipient := args.feeRecipient
    released := false }

open Contract in
def release : EscrowContract contract Unit := do
  let state ← loadOr .notInitialised
  requireAuth state.arbiter
  failIf state.released .alreadyReleased
  let now ← sequence
  failIf (0 < state.lockUntilLedger ∧ state.lockUntilLedger < now) .lockExpired
  let (fee, net) ← state.split
  if 0 < fee.val then transfer ⟨state.token, contract, state.feeRecipient, fee.val⟩
  transfer ⟨state.token, contract, state.beneficiary, net.val⟩
  store { state with released := true }

open Contract in
def refund : EscrowContract contract Unit := do
  let state ← loadOr .notInitialised
  requireAuth state.arbiter
  failIf state.released .alreadyReleased
  let now ← sequence
  failIf (0 < state.lockUntilLedger ∧ state.lockUntilLedger < now) .lockExpired
  transfer ⟨state.token, contract, state.depositor, state.amount.val⟩
  store { state with released := true }

open Contract in
def emergencyRefund : EscrowContract contract Unit := do
  let state ← loadExpect "not initialised"
  requireAuth state.depositor
  assert (!state.released) "already released"
  let now ← timestamp
  assert (state.emergencyUnlockTimestamp ≤ now) "emergency unlock not yet available"
  transfer ⟨state.token, contract, state.depositor, state.amount.val⟩
  store { state with released := true }

open Contract in
def selfRefund : EscrowContract contract Unit := do
  let state ← loadOr .notInitialised
  requireAuth state.depositor
  failIf state.released .alreadyReleased
  let now ← sequence
  failIf (state.lockUntilLedger = 0 ∨ now ≤ state.lockUntilLedger) .lockNotExpired
  transfer ⟨state.token, contract, state.depositor, state.amount.val⟩
  store { state with released := true }

inductive Call where
  | initialise (args : InitialiseArgs)
  | release
  | refund
  | emergencyRefund
  | selfRefund
  deriving DecidableEq

def invoke : Call → EscrowContract contract Unit
  | .initialise args => initialise args
  | .release => release
  | .refund => refund
  | .emergencyRefund => emergencyRefund
  | .selfRefund => selfRefund

/-- The deposit that a call pulls in; the settling calls pull nothing in. -/
def Call.deposits : Call → Option Int
  | .initialise args => some args.amount.val
  | _ => none

def Call.settles (call : Call) : Bool := call.deposits.isNone

/-- The state that `initialise` stores. -/
def InitialiseArgs.state (args : InitialiseArgs) : EscrowState where
  depositor := args.depositor
  beneficiary := args.beneficiary
  arbiter := args.arbiter
  token := args.token
  amount := args.amount
  emergencyUnlockTimestamp := args.emergencyUnlockTimestamp
  lockUntilLedger := args.lockUntilLedger
  feeBps := args.feeBps
  feeRecipient := args.feeRecipient
  released := false

def EscrowState.product (state : EscrowState) : Int :=
  state.amount.val * (state.feeBps.toNat : Int)

def EscrowState.fee (state : EscrowState) : Int := state.product.tdiv 10000

def EscrowState.net (state : EscrowState) : Int := state.amount.val - state.fee

/-- Nothing that `split` computes leaves the range of `i128`. -/
structure EscrowState.Splits (state : EscrowState) : Prop where
  product : I128.InRange state.product
  fee : I128.InRange state.fee
  net : I128.InRange state.net

/-- The lock is disabled, or its last ledger has not passed. -/
def EscrowState.WindowOpen (state : EscrowState) (ledger : Ledger) : Prop :=
  state.lockUntilLedger = 0 ∨ ledger.sequence ≤ state.lockUntilLedger

/-- Who has to authorise a settling call. -/
def Call.signer (state : EscrowState) : Call → Address
  | .initialise args => args.depositor
  | .release => state.arbiter
  | .refund => state.arbiter
  | .emergencyRefund => state.depositor
  | .selfRefund => state.depositor

/-- When a settling call is possible. -/
def Call.Timely (state : EscrowState) (ledger : Ledger) : Call → Prop
  | .initialise _ => False
  | .release => state.WindowOpen ledger
  | .refund => state.WindowOpen ledger
  | .emergencyRefund => state.emergencyUnlockTimestamp ≤ ledger.timestamp
  | .selfRefund => ¬ state.WindowOpen ledger

/-- Only `release` computes anything. -/
def Call.Computes (state : EscrowState) : Call → Prop
  | .release => state.Splits
  | _ => True

/-- The transfers a settling call makes, in order. -/
def Call.payments (contract : Address) (state : EscrowState) : Call → List Transfer
  | .initialise _ => []
  | .release =>
    (if 0 < state.fee then [⟨state.token, contract, state.feeRecipient, state.fee⟩] else []) ++
      [⟨state.token, contract, state.beneficiary, state.net⟩]
  | _ => [⟨state.token, contract, state.depositor, state.amount.val⟩]

variable {env : Env contract} {chain last : Chain EscrowState} {value : Unit}

open Contract

variable {args : InitialiseArgs}

theorem initialise_ok : invoke (.initialise args) env chain = .ok (value, last) ↔
      env.authorised args.depositor = true ∧ 0 < args.amount.val ∧ chain.storage = none ∧
      env.ledger.timestamp < args.emergencyUnlockTimestamp ∧ args.feeBps ≤ 10000 ∧
      args.depositor ≠ args.beneficiary ∧
      args.arbiter ≠ args.depositor ∧ args.arbiter ≠ args.beneficiary ∧
      env.accepts chain.tokens ⟨args.token, args.depositor, contract, args.amount.val⟩ = true ∧
      last = { chain with
        storage := some args.state
        tokens := chain.tokens.move ⟨args.token, args.depositor, contract, args.amount.val⟩ } := by
  simp [invoke, initialise, seq_ok, requireAuth_ok, assert_ok, hasStored_ok, timestamp_ok,
    transfer_ok, store_ok, InitialiseArgs.state, and_assoc]

theorem split_ok {state : EscrowState} {fee net : I128} : state.split env chain = .ok ((fee, net), last) ↔
      I128.InRange state.product ∧ fee.val = state.fee ∧ net.val = state.net ∧ chain = last := by
  simp only [EscrowState.split, seq_ok, arithmetic_ok, done_ok, Prod.mk.injEq]
  constructor
  · rintro ⟨product, _, ⟨productEq, rfl⟩, _, _, ⟨feeEq, rfl⟩, _, _, ⟨netEq, rfl⟩, ⟨rfl, rfl⟩, rfl⟩
    refine ⟨I128.exists_val.mp ⟨product, productEq⟩, ?_, ?_, rfl⟩
    · rw [feeEq, productEq]; rfl
    · rw [netEq, feeEq, productEq]; rfl
  · rintro ⟨inside, feeEq, netEq, rfl⟩
    obtain ⟨product, productEq⟩ := I128.exists_val.mpr inside
    refine ⟨product, _, ⟨productEq, rfl⟩, fee, _, ⟨?_, rfl⟩, net, _, ⟨?_, rfl⟩, ⟨rfl, rfl⟩, rfl⟩
    · rw [feeEq, productEq]; rfl
    · rw [netEq, feeEq]; rfl

variable {ledger : Ledger}

private theorem windowOpen_iff {state : EscrowState} : state.WindowOpen ledger ↔
      ¬ (0 < state.lockUntilLedger ∧ state.lockUntilLedger < ledger.sequence) := by
  unfold EscrowState.WindowOpen
  simp only [UInt32.lt_iff_toNat_lt, UInt32.le_iff_toNat_le, ← UInt32.toNat_inj, UInt32.toNat_zero]
  omega

private theorem pay_ok {state : EscrowState} {fee net : I128} (feeEq : fee.val = state.fee)
    (netEq : net.val = state.net) :
    (do
      if 0 < fee.val then transfer ⟨state.token, contract, state.feeRecipient, fee.val⟩
      transfer ⟨state.token, contract, state.beneficiary, net.val⟩
      store { state with released := true } : EscrowContract contract Unit) env chain =
        .ok (value, last) ↔
      env.AcceptsAll chain.tokens (Call.release.payments contract state) ∧
      last = { chain with
        storage := some { state with released := true }
        tokens := chain.tokens.moves (Call.release.payments contract state) } := by
  rw [feeEq, netEq]
  by_cases positive : 0 < state.fee <;>
    simp [positive, seq_ok, transfer_ok, store_ok, Call.payments, Env.AcceptsAll, Tokens.moves,
      and_assoc]

private theorem release_ok : release env chain = .ok (value, last) ↔ ∃ state, chain.storage = some state ∧
      env.authorised state.arbiter = true ∧ state.released = false ∧
      state.WindowOpen env.ledger ∧ state.Splits ∧
      env.AcceptsAll chain.tokens (Call.release.payments contract state) ∧
      last = { chain with
        storage := some { state with released := true }
        tokens := chain.tokens.moves (Call.release.payments contract state) } := by
  simp only [release, seq_ok, loadOr_ok, requireAuth_ok, failIf_ok, sequence_ok, and_assoc,
    exists_and_left, exists_eq_left', exists_const, decide_eq_false_iff_not, ← windowOpen_iff]
  refine exists_congr fun state => and_congr_right fun _ => and_congr_right fun _ =>
    and_congr_right fun _ => and_congr_right fun _ => ?_
  constructor
  · rintro ⟨⟨fee, net⟩, middle, split, paid⟩
    obtain ⟨product, feeEq, netEq, rfl⟩ := (split_ok).mp split
    exact ⟨⟨product, I128.exists_val.mp ⟨fee, feeEq⟩, I128.exists_val.mp ⟨net, netEq⟩⟩,
      (pay_ok feeEq netEq).mp paid⟩
  · rintro ⟨splits, paid⟩
    obtain ⟨fee, feeEq⟩ := I128.exists_val.mpr splits.fee
    obtain ⟨net, netEq⟩ := I128.exists_val.mpr splits.net
    exact ⟨(fee, net), chain, (split_ok).mpr ⟨splits.product, feeEq, netEq, rfl⟩,
      (pay_ok feeEq netEq).mpr paid⟩

theorem settle_ok {call : Call} (settles : call.settles = true) :
    invoke call env chain = .ok (value, last) ↔ ∃ state, chain.storage = some state ∧
      env.authorised (call.signer state) = true ∧ state.released = false ∧
      call.Timely state env.ledger ∧ call.Computes state ∧
      env.AcceptsAll chain.tokens (call.payments contract state) ∧
      last = { chain with
        storage := some { state with released := true }
        tokens := chain.tokens.moves (call.payments contract state) } := by
  cases call with
  | initialise args => cases settles
  | release => exact release_ok
  | refund =>
    simp [invoke, refund, seq_ok, loadOr_ok, requireAuth_ok, failIf_ok, sequence_ok, transfer_ok,
      store_ok, and_assoc, Call.signer, Call.Timely, Call.Computes, Call.payments, Env.AcceptsAll,
      Tokens.moves, windowOpen_iff]
  | emergencyRefund =>
    simp [invoke, emergencyRefund, seq_ok, loadExpect_ok, requireAuth_ok, assert_ok, timestamp_ok,
      transfer_ok, store_ok, and_assoc, Call.signer, Call.Timely, Call.Computes, Call.payments,
      Env.AcceptsAll, Tokens.moves]
  | selfRefund =>
    simp [invoke, selfRefund, seq_ok, loadOr_ok, requireAuth_ok, failIf_ok, sequence_ok,
      transfer_ok, store_ok, and_assoc, Call.signer, Call.Timely, Call.Computes, Call.payments,
      Env.AcceptsAll, Tokens.moves, EscrowState.WindowOpen]

/-- The chain after `initialise` was the first thing that happened on it. -/
def InitialiseArgs.initialised (contract : Address) (args : InitialiseArgs) (ledger : Ledger) : Chain EscrowState where
  storage := some args.state
  tokens := (Chain.genesis EscrowState).tokens.move
    ⟨args.token, args.depositor, contract, args.amount.val⟩
  ledger

/-- The guards of `initialise`, for a depositor that is not the contract. -/
def InitialiseArgs.Acceptable (contract : Address) (args : InitialiseArgs) (ledger : Ledger) : Prop :=
  args.depositor ≠ contract ∧ 0 < args.amount.val ∧
    ledger.timestamp < args.emergencyUnlockTimestamp ∧ args.feeBps ≤ 10000 ∧
    args.depositor ≠ args.beneficiary ∧
    args.arbiter ≠ args.depositor ∧ args.arbiter ≠ args.beneficiary

instance (args : InitialiseArgs) (ledger : Ledger) : Decidable (args.Acceptable contract ledger) :=
  inferInstanceAs (Decidable (_ ∧ _))

theorem InitialiseArgs.run_initialised (acceptable : args.Acceptable contract ledger) :
    Run (Step invoke) (Chain.genesis EscrowState) [.invoked (Env.permissive contract ledger) (.initialise args) true]
      (args.initialised contract ledger) := by
  obtain ⟨foreign, positive, future, feeBps, beneficiary, arbiter, third⟩ := acceptable
  have later : (Chain.genesis EscrowState).ledger.Le ledger :=
    ⟨UInt32.le_iff_toNat_le.mpr (Nat.zero_le _), UInt64.le_iff_toNat_le.mpr (Nat.zero_le _)⟩
  have signed : (Env.permissive contract ledger).authorised args.depositor = true :=
    Env.permissive_authorised foreign
  exact .next .start (.success later ((initialise_ok).mpr
    ⟨signed, positive, rfl, future, feeBps, beneficiary, arbiter, third, rfl, rfl⟩))

/-- A deposit of 500 units with a fee of one percent, locked until ledger 10. -/
def InitialiseArgs.sample : InitialiseArgs where
  depositor := ⟨1⟩
  beneficiary := ⟨2⟩
  arbiter := ⟨3⟩
  token := ⟨4⟩
  amount := ⟨500, by decide, by decide⟩
  emergencyUnlockTimestamp := 100
  lockUntilLedger := 10
  feeBps := 100
  feeRecipient := ⟨5⟩

theorem InitialiseArgs.run_sample : Run (Step invoke) (Chain.genesis EscrowState)
    [.invoked (Env.permissive ⟨0⟩ ⟨0, 0⟩) (.initialise .sample) true]
    (InitialiseArgs.sample.initialised ⟨0⟩ ⟨0, 0⟩) :=
  InitialiseArgs.run_initialised (by decide)

end ProxyPay.Escrow
