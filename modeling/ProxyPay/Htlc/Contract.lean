import Mathlib.Data.Finset.Card
import ProxyPay.Soroban.Host

/-! The hash time-locked contract, entry point by entry point. The hash function is the
host's; nothing below depends on which function it is. Failing `assert!`s abort. -/

namespace ProxyPay.Htlc

open ProxyPay.Library ProxyPay.Soroban

structure HtlcState where
  sender : Address
  receiver : Address
  token : Address
  amount : I128
  hashlock : Bytes32
  timelock : UInt64
  claimed : Bool
  refunded : Bool
  approvedSigners : HostVec Address
  requiredSignatures : UInt32
  deriving DecidableEq

variable {contract : Address}

/-- No entry point returns an error value; all failures are panics. -/
abbrev HtlcContract (contract : Address) := Contract contract HtlcState Empty

/-- Arguments of the source's `initialize`, in the order of the source. -/
structure InitialiseArgs where
  sender : Address
  receiver : Address
  token : Address
  amount : I128
  hashlock : Bytes32
  timelock : UInt64
  approvedSigners : HostVec Address
  requiredSignatures : UInt32
  deriving DecidableEq

open Contract in
def initialise (args : InitialiseArgs) : HtlcContract contract Unit := do
  requireAuth args.sender
  assert (0 < args.amount.val) "amount must be positive"
  let present ← hasStored
  assert (!present) "already initialised"
  let now ← timestamp
  assert (now < args.timelock) "timelock must be in the future"
  if 0 < args.approvedSigners.len then
    assert (0 < args.requiredSignatures ∧ args.requiredSignatures ≤ args.approvedSigners.len)
      "required_signatures must be between 1 and number of approved signers"
  transfer ⟨args.token, args.sender, contract, args.amount.val⟩
  store {
    sender := args.sender
    receiver := args.receiver
    token := args.token
    amount := args.amount
    hashlock := args.hashlock
    timelock := args.timelock
    claimed := false
    refunded := false
    approvedSigners := args.approvedSigners
    requiredSignatures := args.requiredSignatures }

open Contract in
/-- The loop over the signers of a claim, from `valid_signature_count` on. -/
def countSignatures (approvedSigners : HostVec Address) : List Address → UInt32 → HtlcContract contract UInt32
  | [], validSignatureCount => pure validSignatureCount
  | signer :: rest, validSignatureCount => do
    let isApproved := approvedSigners.items.any fun approved => approved == signer
    assert isApproved "signer not in approved list"
    requireAuth signer
    let validSignatureCount ← increment validSignatureCount
    countSignatures approvedSigners rest validSignatureCount

open Contract in
/-- The multi-signature verification of a claim; without approved signers the receiver
must authorise. -/
def verifySignatures (state : HtlcState) (signers : HostVec Address) : HtlcContract contract Unit := do
  if 0 < state.approvedSigners.len then
    let validSignatureCount ← countSignatures state.approvedSigners signers.items 0
    assert (state.requiredSignatures ≤ validSignatureCount) "insufficient signatures"
  else
    requireAuth state.receiver

open Contract in
def claim (sha256 : Bytes32 → Bytes32) (preimage : Bytes32) (signers : HostVec Address) :
    HtlcContract contract Unit := do
  let state ← loadExpect "not initialised"
  assert (!state.claimed) "already claimed"
  assert (!state.refunded) "already refunded"
  assert (sha256 preimage = state.hashlock) "invalid preimage"
  verifySignatures state signers
  transfer ⟨state.token, contract, state.receiver, state.amount.val⟩
  store { state with claimed := true }

open Contract in
def refund : HtlcContract contract Unit := do
  let state ← loadExpect "not initialised"
  assert (!state.claimed) "already claimed"
  assert (!state.refunded) "already refunded"
  let now ← timestamp
  assert (state.timelock ≤ now) "timelock not yet expired"
  transfer ⟨state.token, contract, state.sender, state.amount.val⟩
  store { state with refunded := true }

inductive Call where
  | initialise (args : InitialiseArgs)
  | claim (preimage : Bytes32) (signers : HostVec Address)
  | refund
  deriving DecidableEq

def invoke (sha256 : Bytes32 → Bytes32) : Call → HtlcContract contract Unit
  | .initialise args => initialise args
  | .claim preimage signers => claim sha256 preimage signers
  | .refund => refund

/-- The deposit that a call pulls in; the settling calls pull nothing in. -/
def Call.deposits : Call → Option Int
  | .initialise args => some args.amount.val
  | _ => none

def Call.settles (call : Call) : Bool := call.deposits.isNone

/-- The state that `initialise` stores. -/
def InitialiseArgs.state (args : InitialiseArgs) : HtlcState where
  sender := args.sender
  receiver := args.receiver
  token := args.token
  amount := args.amount
  hashlock := args.hashlock
  timelock := args.timelock
  claimed := false
  refunded := false
  approvedSigners := args.approvedSigners
  requiredSignatures := args.requiredSignatures

/-- What `initialise` asks of the multi-signature arguments. -/
def InitialiseArgs.ThresholdFits (args : InitialiseArgs) : Prop :=
  args.approvedSigners.items ≠ [] →
    0 < args.requiredSignatures ∧ args.requiredSignatures ≤ args.approvedSigners.len

instance (args : InitialiseArgs) : Decidable args.ThresholdFits :=
  inferInstanceAs (Decidable (_ → _))

/-- The signatures that a claim collects before it pays. -/
def HtlcState.Signed (state : HtlcState) (env : Env contract) (signers : HostVec Address) : Prop :=
  if state.approvedSigners.items = [] then env.authorised state.receiver = true
  else (∀ signer ∈ signers.items,
      signer ∈ state.approvedSigners.items ∧ env.authorised signer = true) ∧
    state.requiredSignatures ≤ signers.len

/-- Under what condition a settling call opens the lock. -/
def Call.Opens (sha256 : Bytes32 → Bytes32) (state : HtlcState) (env : Env contract) : Call → Prop
  | .initialise _ => False
  | .claim preimage signers => sha256 preimage = state.hashlock ∧ state.Signed env signers
  | .refund => state.timelock ≤ env.ledger.timestamp

/-- Who receives the amount. -/
def Call.payee (state : HtlcState) : Call → Address
  | .refund => state.sender
  | _ => state.receiver

/-- The flag that a settling call sets. -/
def Call.mark (state : HtlcState) : Call → HtlcState
  | .initialise _ => state
  | .claim _ _ => { state with claimed := true }
  | .refund => { state with refunded := true }

/-- The transfer that a settling call makes. -/
def Call.payment (contract : Address) (state : HtlcState) (call : Call) : Transfer :=
  ⟨state.token, contract, call.payee state, state.amount.val⟩

variable {sha256 : Bytes32 → Bytes32} {env : Env contract} {chain last : Chain HtlcState}
variable {value : Unit}

open Contract

theorem initialise_ok {args : InitialiseArgs} : invoke sha256 (.initialise args) env chain = .ok (value, last) ↔
      env.authorised args.sender = true ∧ 0 < args.amount.val ∧ chain.storage = none ∧
      env.ledger.timestamp < args.timelock ∧ args.ThresholdFits ∧
      env.accepts chain.tokens ⟨args.token, args.sender, contract, args.amount.val⟩ = true ∧
      last = { chain with
        storage := some args.state
        tokens := chain.tokens.move ⟨args.token, args.sender, contract, args.amount.val⟩ } := by
  simp only [invoke, initialise, seq_ok, requireAuth_ok, assert_ok, hasStored_ok, timestamp_ok]
  by_cases configured : args.approvedSigners.items = [] <;>
    simp [configured, HostVec.len_pos, seq_ok, assert_ok, transfer_ok, store_ok,
      InitialiseArgs.ThresholdFits, InitialiseArgs.state, and_assoc]

theorem countSignatures_ok {approvedSigners : HostVec Address} {signers : List Address} {count total : UInt32} :
    countSignatures approvedSigners signers count env chain = .ok (total, last) ↔
      (∀ signer ∈ signers, signer ∈ approvedSigners.items ∧ env.authorised signer = true) ∧
      total.toNat = count.toNat + signers.length ∧ chain = last := by
  induction signers generalizing count chain with
  | nil =>
    have same : count = total ↔ total.toNat = count.toNat := by
      rw [← UInt32.toNat_inj, eq_comm]
    simp [countSignatures, done_ok, same]
  | cons signer rest ih =>
    simp only [countSignatures, seq_ok, assert_ok, requireAuth_ok, increment_ok, ih]
    have approves : (approvedSigners.items.any fun approved => approved == signer) = true ↔
        signer ∈ approvedSigners.items := by simp
    rw [approves]
    constructor
    · rintro ⟨_, _, ⟨member, rfl⟩, _, _, ⟨signed, rfl⟩, next, _, ⟨counted, rfl⟩, rest, sum, rfl⟩
      refine ⟨?_, ?_, rfl⟩
      · intro other listed
        rcases List.mem_cons.mp listed with rfl | later
        · exact ⟨member, signed⟩
        · exact rest other later
      · simp only [List.length_cons]
        omega
    · rintro ⟨every, sum, rfl⟩
      obtain ⟨member, signed⟩ := every signer (by simp)
      have bound := total.toNat_lt
      simp only [List.length_cons] at sum
      refine ⟨(), _, ⟨member, rfl⟩, (), _, ⟨signed, rfl⟩, UInt32.ofNat (count.toNat + 1), _,
        ⟨UInt32.toNat_ofNat_of_lt' (by simp only [UInt32.size]; omega), rfl⟩,
        fun other later => every other (List.mem_cons_of_mem _ later), ?_, rfl⟩
      rw [UInt32.toNat_ofNat_of_lt' (by simp only [UInt32.size]; omega)]
      omega

theorem verifySignatures_ok {state : HtlcState} {signers : HostVec Address} :
    verifySignatures state signers env chain = .ok (value, last) ↔ state.Signed env signers ∧ chain = last := by
  unfold verifySignatures HtlcState.Signed
  by_cases configured : state.approvedSigners.items = []
  · simp [configured, HostVec.len_pos, requireAuth_ok]
  · simp only [configured, HostVec.len_pos, ne_eq, not_false_eq_true, ↓reduceIte, seq_ok,
      countSignatures_ok, assert_ok, decide_eq_true_eq, and_assoc]
    constructor
    · rintro ⟨count, _, every, counted, rfl, enough, rfl⟩
      have total : count = signers.len := by
        rw [← UInt32.toNat_inj, counted, signers.len_toNat, UInt32.toNat_zero, Nat.zero_add]
      exact ⟨every, total ▸ enough, rfl⟩
    · rintro ⟨every, enough, rfl⟩
      exact ⟨signers.len, chain, every, by rw [signers.len_toNat, UInt32.toNat_zero, Nat.zero_add],
        rfl, enough, rfl⟩

theorem settle_ok {call : Call} (settles : call.settles = true) :
    invoke sha256 call env chain = .ok (value, last) ↔ ∃ state, chain.storage = some state ∧
      state.claimed = false ∧ state.refunded = false ∧ call.Opens sha256 state env ∧
      env.accepts chain.tokens (call.payment contract state) = true ∧
      last = { chain with
        storage := some (call.mark state)
        tokens := chain.tokens.move (call.payment contract state) } := by
  cases call with
  | initialise args => cases settles
  | claim preimage signers =>
    simp [invoke, claim, seq_ok, loadExpect_ok, assert_ok, verifySignatures_ok, transfer_ok,
      store_ok, Call.Opens, Call.payment, Call.payee, Call.mark, and_assoc]
  | refund =>
    simp [invoke, refund, seq_ok, loadExpect_ok, assert_ok, timestamp_ok, transfer_ok, store_ok,
      Call.Opens, Call.payment, Call.payee, Call.mark, and_assoc]

/-- The chain after `initialise` was the first thing that happened on it. -/
def InitialiseArgs.initialised (contract : Address) (args : InitialiseArgs) (ledger : Ledger) : Chain HtlcState where
  storage := some args.state
  tokens := (Chain.genesis HtlcState).tokens.move
    ⟨args.token, args.sender, contract, args.amount.val⟩
  ledger

/-- The guards of `initialise`, for a sender that is not the contract. -/
def InitialiseArgs.Acceptable (contract : Address) (args : InitialiseArgs) (ledger : Ledger) : Prop :=
  args.sender ≠ contract ∧ 0 < args.amount.val ∧ ledger.timestamp < args.timelock ∧
    args.ThresholdFits

instance (args : InitialiseArgs) (ledger : Ledger) : Decidable (args.Acceptable contract ledger) :=
  inferInstanceAs (Decidable (_ ∧ _))

theorem InitialiseArgs.run_initialised {args : InitialiseArgs} {ledger : Ledger}
    (acceptable : args.Acceptable contract ledger) :
    Run (Step (invoke sha256)) (Chain.genesis HtlcState)
      [.invoked (Env.permissive contract ledger) (.initialise args) true]
      (args.initialised contract ledger) := by
  obtain ⟨foreign, positive, future, threshold⟩ := acceptable
  have later : (Chain.genesis HtlcState).ledger.Le ledger :=
    ⟨UInt32.le_iff_toNat_le.mpr (Nat.zero_le _), UInt64.le_iff_toNat_le.mpr (Nat.zero_le _)⟩
  have signed : (Env.permissive contract ledger).authorised args.sender = true :=
    Env.permissive_authorised foreign
  exact .next .start (.success later ((initialise_ok).mpr
    ⟨signed, positive, rfl, future, threshold, rfl, rfl⟩))

/-- Thirty-two bytes of one. -/
def preimageSample : Bytes32 := Vector.replicate 32 1

/-- Their SHA-256 digest. -/
def digestSample : Bytes32 :=
  #v[114, 205, 110, 132, 34, 196, 7, 251, 109, 9, 134, 144, 241, 19, 11, 125,
    237, 126, 194, 247, 245, 225, 211, 11, 217, 213, 33, 240, 21, 54, 55, 147]

theorem lower_sample : -2 ^ 127 ≤ (500 : Int) := by
  decide

theorem upper_sample : (500 : Int) < 2 ^ 127 := by
  decide

/-- A lock over 500 units that two of three signers can open. -/
def InitialiseArgs.sample : InitialiseArgs where
  sender := ⟨1⟩
  receiver := ⟨2⟩
  token := ⟨4⟩
  amount := ⟨500, lower_sample, upper_sample⟩
  hashlock := digestSample
  timelock := 1000
  approvedSigners := ⟨[⟨5⟩, ⟨6⟩, ⟨7⟩], by decide⟩
  requiredSignatures := 2

theorem InitialiseArgs.run_sample : Run (Step (invoke sha256)) (Chain.genesis HtlcState)
    [.invoked (Env.permissive ⟨0⟩ ⟨1, 100⟩) (.initialise .sample) true]
    (InitialiseArgs.sample.initialised ⟨0⟩ ⟨1, 100⟩) :=
  InitialiseArgs.run_initialised (by decide)

end ProxyPay.Htlc

/-! How many signers stand behind a claim. The loop counts list entries, so that an
approved signer listed again is counted again. -/

namespace ProxyPay.Htlc

open ProxyPay.Library ProxyPay.Soroban

variable {contract : Address} {sha256 : Bytes32 → Bytes32}

/-- At least `requiredSignatures` different approved signers have authorised. -/
def HtlcState.ThresholdMet (state : HtlcState) (env : Env contract) : Prop :=
  ∃ distinct : Finset Address, state.requiredSignatures.toNat ≤ distinct.card ∧
    ∀ who ∈ distinct, who ∈ state.approvedSigners.items ∧ env.authorised who = true

theorem signed_multisig {state : HtlcState} {env : Env contract} {signers : HostVec Address}
    (multisig : state.approvedSigners.items ≠ []) :
    state.Signed env signers ↔ (∀ signer ∈ signers.items,
        signer ∈ state.approvedSigners.items ∧ env.authorised signer = true) ∧
      state.requiredSignatures ≤ signers.len := by
  simp [HtlcState.Signed, multisig]

/-- A claim that can succeed is always backed by enough different signers exactly when
its list names enough different signers. -/
theorem claim_threshold_iff {chain : Chain HtlcState} {state : HtlcState} {preimage : Bytes32}
    {signers : HostVec Address} (storage : chain.storage = some state)
    (multisig : state.approvedSigners.items ≠ [])
    (possible : ∃ (env : Env contract) (last : Chain HtlcState),
      invoke sha256 (.claim preimage signers) env chain = .ok ((), last)) :
    (∀ (env : Env contract) last, invoke sha256 (.claim preimage signers) env chain = .ok ((), last) →
        state.ThresholdMet env) ↔
      state.requiredSignatures.toNat ≤ signers.items.toFinset.card := by
  constructor
  · intro backed
    obtain ⟨env, last, ran⟩ := possible
    obtain ⟨other, stored, unclaimed, unrefunded, ⟨opens, signed⟩, accepted, _⟩ :=
      (settle_ok rfl).mp ran
    cases stored.symm.trans storage
    obtain ⟨every, enough⟩ := (signed_multisig multisig).mp signed
    have lone : state.Signed (env.signedOnlyBy signers.items) signers := by
      refine (signed_multisig multisig).mpr ⟨?_, enough⟩
      intro signer listed
      obtain ⟨approved, authorised⟩ := every signer listed
      exact ⟨approved, by simp [Env.signedOnlyBy, authorised, listed]⟩
    have again : invoke sha256 (.claim preimage signers) (env.signedOnlyBy signers.items) chain =
        .ok ((), _) :=
      (settle_ok rfl).mpr ⟨state, storage, unclaimed, unrefunded, ⟨opens, lone⟩, accepted, rfl⟩
    obtain ⟨distinct, large, authorised⟩ := backed _ _ again
    have listed : distinct ⊆ signers.items.toFinset := by
      intro who member
      have signed := (authorised who member).2
      simp only [Env.signedOnlyBy, Bool.and_eq_true, List.contains_iff_mem] at signed
      exact List.mem_toFinset.mpr signed.2
    exact large.trans (Finset.card_le_card listed)
  · intro enough env last ran
    obtain ⟨other, stored, _, _, ⟨_, signed⟩, _⟩ := (settle_ok rfl).mp ran
    cases stored.symm.trans storage
    have every := ((signed_multisig multisig).mp signed).1
    exact ⟨signers.items.toFinset, enough, fun who member =>
      every who (List.mem_toFinset.mp member)⟩

/-- A claim that lists one approved signer twice. -/
def repeatedSigner : HostVec Address := ⟨[⟨5⟩, ⟨5⟩], by decide⟩

/-- One signer alone opens a lock that requires two. -/
theorem repeated_signer_claims : ∃ (trace : List (Event ⟨0⟩ Call)) (chain last : Chain HtlcState) (env : Env ⟨0⟩),
      Run (Step (invoke fun _ => digestSample)) (Chain.genesis HtlcState) trace chain ∧
      chain.storage = some InitialiseArgs.sample.state ∧
      invoke (fun _ => digestSample) (.claim preimageSample repeatedSigner) env chain = .ok ((), last) ∧
      ¬ InitialiseArgs.sample.state.ThresholdMet env := by
  have signed : InitialiseArgs.sample.state.Signed
      ((Env.permissive ⟨0⟩ ⟨2, 200⟩).signedOnlyBy [⟨5⟩]) repeatedSigner := by
    simp [HtlcState.Signed, InitialiseArgs.state, InitialiseArgs.sample, Env.permissive,
      Env.signedOnlyBy, repeatedSigner, HostVec.len]
  refine ⟨_, _, _, (Env.permissive ⟨0⟩ ⟨2, 200⟩).signedOnlyBy [⟨5⟩], InitialiseArgs.run_sample,
    rfl, (settle_ok rfl).mpr
      ⟨InitialiseArgs.sample.state, rfl, rfl, rfl, ⟨rfl, signed⟩, rfl, rfl⟩, ?_⟩
  rintro ⟨distinct, large, authorised⟩
  have single : distinct ⊆ {⟨5⟩} := by
    intro who member
    have signed := (authorised who member).2
    simp only [Env.signedOnlyBy, Bool.and_eq_true, List.contains_iff_mem,
      List.mem_singleton] at signed
    exact Finset.mem_singleton.mpr signed.2
  have small := Finset.card_le_card single
  have two : InitialiseArgs.sample.state.requiredSignatures.toNat = 2 := by decide
  rw [Finset.card_singleton] at small
  omega

/-- Two different signers of the sample. -/
def twoSigners : HostVec Address := ⟨[⟨5⟩, ⟨6⟩], by decide⟩

/-- They open the lock, and both have authorised. -/
theorem two_signers_claim : InitialiseArgs.sample.state.ThresholdMet (Env.permissive ⟨0⟩ ⟨2, 200⟩) := by
  have signed : InitialiseArgs.sample.state.Signed (Env.permissive ⟨0⟩ ⟨2, 200⟩) twoSigners := by
    simp [HtlcState.Signed, InitialiseArgs.state, InitialiseArgs.sample, Env.permissive,
      twoSigners, HostVec.len]
  have ran : invoke (fun _ => digestSample) (.claim preimageSample twoSigners)
      (Env.permissive ⟨0⟩ ⟨2, 200⟩) (InitialiseArgs.sample.initialised ⟨0⟩ ⟨1, 100⟩) =
        .ok ((), _) :=
    (settle_ok rfl).mpr ⟨InitialiseArgs.sample.state, rfl, rfl, rfl, ⟨rfl, signed⟩, rfl, rfl⟩
  exact (claim_threshold_iff rfl (by decide) ⟨_, _, ran⟩).mpr (by decide) _ _ ran

end ProxyPay.Htlc
