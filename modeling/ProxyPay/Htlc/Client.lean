import Mathlib.Algebra.Order.Ring.Rat
import ProxyPay.Htlc.Contract
import ProxyPay.Library.Hex

/-! The invocations that `HtlcService` builds, and the arguments that the contract's entry points take. -/

namespace ProxyPay.Htlc

open ProxyPay.Library ProxyPay.Soroban

/-- A value on its way to a contract. -/
inductive ScVal where
  | address (who : Address)
  | u32 (value : UInt32)
  | u64 (value : UInt64)
  | i128 (value : I128)
  | bytes (list : List UInt8)
  | vec (items : List ScVal)

structure Invocation where
  contract : Address
  method : String
  args : List ScVal

namespace ScVal

def toAddress : ScVal → Option Address
  | .address who => some who
  | _ => none

def toU32 : ScVal → Option UInt32
  | .u32 value => some value
  | _ => none

def toU64 : ScVal → Option UInt64
  | .u64 value => some value
  | _ => none

def toI128 : ScVal → Option I128
  | .i128 value => some value
  | _ => none

def toBytes32 : ScVal → Option Bytes32
  | .bytes list => if exact : list.length = 32 then some ⟨list.toArray, exact⟩ else none
  | _ => none

def toAddresses : ScVal → Option (HostVec Address)
  | .vec items => do
    let addresses ← items.mapM toAddress
    if bounded : addresses.length < 2 ^ 32 then some ⟨addresses, bounded⟩ else none
  | _ => none

def ofAddresses (addresses : HostVec Address) : ScVal :=
  .vec (addresses.items.map .address)

end ScVal

/-- The call that the contract reads off an invocation. -/
def Invocation.decode (invocation : Invocation) : Option Call :=
  match invocation.method, invocation.args with
  | "initialize", [sender, receiver, token, amount, hashlock, timelock, approvedSigners, requiredSignatures] => do
    some (.initialise {
      sender := ← sender.toAddress
      receiver := ← receiver.toAddress
      token := ← token.toAddress
      amount := ← amount.toI128
      hashlock := ← hashlock.toBytes32
      timelock := ← timelock.toU64
      approvedSigners := ← approvedSigners.toAddresses
      requiredSignatures := ← requiredSignatures.toU32 })
  | "claim", [preimage, signers] => do
    some (.claim (← preimage.toBytes32) (← signers.toAddresses))
  | "refund", [] => some .refund
  | _, _ => none

/-- The invocation that carries a call, by the signatures of the contract. -/
def Call.encode (contract : Address) : Call → Invocation
  | .initialise args => ⟨contract, "initialize",
      [.address args.sender, .address args.receiver, .address args.token, .i128 args.amount, .bytes args.hashlock.toList,
        .u64 args.timelock, .ofAddresses args.approvedSigners, .u32 args.requiredSignatures]⟩
  | .claim preimage signers => ⟨contract, "claim", [.bytes preimage.toList, .ofAddresses signers]⟩
  | .refund => ⟨contract, "refund", []⟩

theorem toBytes32_toList (bytes : Bytes32) : (ScVal.bytes bytes.toList).toBytes32 = some bytes := by
  obtain ⟨array, size⟩ := bytes
  simp [ScVal.toBytes32, Vector.toList, size]

theorem mapM_toAddress (addresses : List Address) :
    (addresses.map ScVal.address).mapM ScVal.toAddress = some addresses := by
  induction addresses with
  | nil => rfl
  | cons first rest ih => simp [List.mapM_cons, ih, ScVal.toAddress]

theorem toAddresses_ofAddresses (addresses : HostVec Address) :
    (ScVal.ofAddresses addresses).toAddresses = some addresses := by
  rw [ScVal.ofAddresses, ScVal.toAddresses, mapM_toAddress]
  exact dif_pos addresses.bounded

theorem decode_encode (contract : Address) (call : Call) : (call.encode contract).decode = some call := by
  cases call with
  | initialise args =>
    simp [Call.encode, Invocation.decode, ScVal.toAddress, ScVal.toI128, ScVal.toU64, ScVal.toU32, toBytes32_toList,
      toAddresses_ofAddresses]
  | claim preimage signers => simp [Call.encode, Invocation.decode, toBytes32_toList, toAddresses_ofAddresses]
  | refund => rfl

structure HtlcLockParams where
  senderAddress : String
  receiverAddress : String
  tokenAddress : String
  amount : String
  hashlock : String
  timelock : ℚ
  contractId : String

structure HtlcClaimParams where
  claimerAddress : String
  preimage : String
  contractId : String

structure HtlcRefundParams where
  refunderAddress : String
  contractId : String

/-- What the client library makes of texts: accounts that Horizon loads, contracts, addresses, and bytes under the type
`bytesN`, which is none of those that its documentation lists for them. -/
structure Sdk where
  loadAccount : String → Bool
  contract : String → Option Address
  address : String → Option Address
  bytesN : List UInt8 → Option ScVal

def digits (base : ℕ) (text : List Char) : Option ℤ :=
  if text ≠ [] ∧ text.all (fun char => (Text.digitValue? char).any (· < base)) then some (Text.natural base text) else none

/-- `BigInt` of a text -/
def bigInt (text : String) : Option ℤ :=
  match (Text.trim text).toList with
  | [] => some 0
  | '0' :: 'x' :: rest | '0' :: 'X' :: rest => digits 16 rest
  | '0' :: 'o' :: rest | '0' :: 'O' :: rest => digits 8 rest
  | '0' :: 'b' :: rest | '0' :: 'B' :: rest => digits 2 rest
  | '+' :: rest => digits 10 rest
  | '-' :: rest => (digits 10 rest).map (- ·)
  | rest => digits 10 rest

def nativeToU64 (value : ℤ) : Option ScVal :=
  if 0 ≤ value ∧ value < 2 ^ 64 then some (.u64 (.ofNat value.toNat)) else none

def nativeToU32 (value : ℚ) : Option ScVal :=
  if value.den = 1 ∧ 0 ≤ value.num ∧ value.num < 2 ^ 32 then some (.u32 (.ofNat value.num.toNat)) else none

def buildLockTx (sdk : Sdk) (params : HtlcLockParams) : Option Invocation :=
  if !sdk.loadAccount params.senderAddress then none
  else do
    let contract ← sdk.contract params.contractId
    let sender ← sdk.address params.senderAddress
    let receiver ← sdk.address params.receiverAddress
    let token ← sdk.address params.tokenAddress
    let amount ← (bigInt params.amount).bind nativeToU64
    let hashlock ← sdk.bytesN (Hex.decode params.hashlock.toList)
    let timelock ← nativeToU32 params.timelock
    some ⟨contract, "initialize", [.address sender, .address receiver, .address token, amount, hashlock, timelock]⟩

def buildClaimTx (sdk : Sdk) (params : HtlcClaimParams) : Option Invocation :=
  if !sdk.loadAccount params.claimerAddress then none
  else do
    let contract ← sdk.contract params.contractId
    let preimage ← sdk.bytesN (Hex.decode params.preimage.toList)
    some ⟨contract, "claim", [preimage]⟩

def buildRefundTx (sdk : Sdk) (params : HtlcRefundParams) : Option Invocation :=
  if !sdk.loadAccount params.refunderAddress then none
  else do
    let contract ← sdk.contract params.contractId
    some ⟨contract, "refund", []⟩

inductive ClientCall where
  | lock (params : HtlcLockParams)
  | claim (params : HtlcClaimParams)
  | refund (params : HtlcRefundParams)

def ClientCall.build (sdk : Sdk) : ClientCall → Option Invocation
  | .lock params => buildLockTx sdk params
  | .claim params => buildClaimTx sdk params
  | .refund params => buildRefundTx sdk params

/-- The contract's call has the parameters of the client's. -/
def ClientCall.Carries (sdk : Sdk) : ClientCall → Call → Prop
  | .lock params, .initialise args =>
    sdk.address params.senderAddress = some args.sender ∧ sdk.address params.receiverAddress = some args.receiver ∧
      sdk.address params.tokenAddress = some args.token ∧ bigInt params.amount = some args.amount.val ∧
      Hex.decode params.hashlock.toList = args.hashlock.toList ∧ params.timelock = args.timelock.toNat
  | .claim params, .claim preimage _ => Hex.decode params.preimage.toList = preimage.toList
  | .refund _, .refund => True
  | _, _ => False

/-- An invocation is built, and the contract reads the parameters off it. -/
def Agrees (sdk : Sdk) (call : ClientCall) : Prop :=
  ∃ invocation read, call.build sdk = some invocation ∧ invocation.decode = some read ∧ call.Carries sdk read

variable {sdk : Sdk} {invocation : Invocation}

theorem decode_lock {params : HtlcLockParams}
    (built : buildLockTx sdk params = some invocation) : invocation.decode = none := by
  unfold buildLockTx at built
  split at built
  · cases built
  · simp only [Option.bind_eq_bind, Option.bind_eq_some_iff] at built
    obtain ⟨contract, _, sender, _, receiver, _, token, _, amount, _, hashlock, _, timelock, _, same⟩ := built
    cases same
    rfl

theorem decode_claim {params : HtlcClaimParams}
    (built : buildClaimTx sdk params = some invocation) : invocation.decode = none := by
  unfold buildClaimTx at built
  split at built
  · cases built
  · simp only [Option.bind_eq_bind, Option.bind_eq_some_iff] at built
    obtain ⟨contract, _, preimage, _, same⟩ := built
    cases same
    rfl

theorem build_refund (sdk : Sdk) (params : HtlcRefundParams) : buildRefundTx sdk params =
    if sdk.loadAccount params.refunderAddress then (sdk.contract params.contractId).map (Call.encode · .refund) else none := by
  unfold buildRefundTx
  cases sdk.loadAccount params.refunderAddress <;> cases sdk.contract params.contractId <;> rfl

/-- Client and contract agree on no lock and on no claim, and on every refund that is built. -/
theorem call_agrees_iff (sdk : Sdk) (call : ClientCall) : Agrees sdk call ↔ ∃ params, call = .refund params ∧
    sdk.loadAccount params.refunderAddress = true ∧ (sdk.contract params.contractId).isSome = true := by
  constructor
  · rintro ⟨invocation, read, built, decoded, _⟩
    cases call with
    | lock params =>
      rw [decode_lock built] at decoded
      cases decoded
    | claim params =>
      rw [decode_claim built] at decoded
      cases decoded
    | refund params =>
      rw [ClientCall.build, build_refund] at built
      split at built
      · rename_i loaded
        obtain ⟨contract, found, _⟩ := Option.map_eq_some_iff.mp built
        exact ⟨params, rfl, loaded, by rw [found]; rfl⟩
      · cases built
  · rintro ⟨params, rfl, loaded, valid⟩
    obtain ⟨contract, found⟩ := Option.isSome_iff_exists.mp valid
    refine ⟨Call.encode contract .refund, .refund, ?_, decode_encode contract .refund, trivial⟩
    rw [ClientCall.build, build_refund, if_pos loaded, found]
    rfl

def accountSample : String := "GAAAAAAAAAAAAAAAAAAAAAAAAAAAAAAAAAAAAAAAAAAAAAAAAAAAAWHF"

def contractSample : String := "CAAAAAAAAAAAAAAAAAAAAAAAAAAAAAAAAAAAAAAAAAAAAAAAAAAAD2KM"

/-- The library on one account and one contract; it throws at the type `bytesN`. -/
def sdkSample : Sdk where
  loadAccount := fun text => text = accountSample
  contract := fun text => if text = contractSample then some ⟨0⟩ else none
  address := fun text => if text = accountSample then some ⟨1⟩ else if text = contractSample then some ⟨0⟩ else none
  bytesN := fun _ => none

def lockSample : HtlcLockParams :=
  ⟨accountSample, accountSample, contractSample, "100", String.ofList (List.replicate 64 '0'), 2000, contractSample⟩

/-- What the contract would have to read off. -/
def argsSample : InitialiseArgs :=
  ⟨⟨1⟩, ⟨1⟩, ⟨0⟩, ⟨100, by decide, by decide⟩, Vector.replicate 32 0, 2000, ⟨[], by decide⟩, 0⟩

theorem lockSample_not_agrees : ¬∀ (sdk : Sdk) (params : HtlcLockParams) (args : InitialiseArgs),
    sdk.loadAccount params.senderAddress = true → (sdk.contract params.contractId).isSome = true →
    (ClientCall.lock params).Carries sdk (.initialise args) → Agrees sdk (.lock params) := by
  intro always
  obtain ⟨invocation, read, built, decoded, _⟩ := always sdkSample lockSample argsSample (by decide)
    (by decide) ⟨by decide, by decide, by decide, by decide, by decide,
      by decide⟩
  rw [decode_lock built] at decoded
  cases decoded

end ProxyPay.Htlc
