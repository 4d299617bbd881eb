import Mathlib.Algebra.Order.Group.Int
import ProxyPay.Library.Vault

/-! The part of the Soroban host that the contracts rely on: addresses and their
authorisations, the two ledger clocks, instance storage under one key, checked
`i128` arithmetic, and token transfers. A failing invocation rolls everything back. -/

namespace ProxyPay.Soroban

open ProxyPay.Library

/-- An account or contract address; contracts only ever compare them. -/
structure Address where
  id : Nat
  deriving DecidableEq

/-- A value of the contract integer type `i128`. -/
@[ext] structure I128 where
  val : Int
  lower : -2 ^ 127 ≤ val
  upper : val < 2 ^ 127
  deriving DecidableEq

/-- The value is one that `i128` can represent. -/
def I128.InRange (value : Int) : Prop := -2 ^ 127 ≤ value ∧ value < 2 ^ 127

instance (value : Int) : Decidable (I128.InRange value) :=
  inferInstanceAs (Decidable (_ ∧ _))

/-- The value when it is in range, nothing when the operation overflowed. -/
def I128.checked (value : Int) : Option I128 :=
  if inside : I128.InRange value then some ⟨value, inside.1, inside.2⟩ else none

variable {value : Int}

theorem I128.checked_eq_some {result : I128} : I128.checked value = some result ↔ result.val = value := by
  unfold I128.checked
  constructor
  · grind
  · intro same
    have inside : I128.InRange value := by
      rw [← same]; exact ⟨result.lower, result.upper⟩
    simp only [inside, ↓reduceDIte, Option.some.injEq]
    exact I128.ext same.symm

theorem I128.exists_val : (∃ result : I128, result.val = value) ↔ InRange value := by
  constructor
  · rintro ⟨result, rfl⟩
    exact ⟨result.lower, result.upper⟩
  · intro inside
    exact ⟨⟨value, inside.1, inside.2⟩, rfl⟩

/-- A host vector; its length is a `u32`. -/
@[ext] structure HostVec (α : Type) where
  items : List α
  bounded : items.length < 2 ^ 32
  deriving DecidableEq

def HostVec.len {α : Type} (vec : HostVec α) : UInt32 := UInt32.ofNat vec.items.length

theorem HostVec.len_toNat {α : Type} (vec : HostVec α) : vec.len.toNat = vec.items.length :=
  UInt32.toNat_ofNat_of_lt' vec.bounded

theorem HostVec.len_pos {α : Type} (vec : HostVec α) : 0 < vec.len ↔ vec.items ≠ [] := by
  rw [UInt32.lt_iff_toNat_lt, vec.len_toNat, UInt32.toNat_zero, List.length_pos_iff]

/-- A `BytesN<32>` value. -/
abbrev Bytes32 := Vector UInt8 32

/-- The ledger header fields a contract can read. -/
structure Ledger where
  sequence : UInt32
  timestamp : UInt64
  deriving DecidableEq

/-- Neither clock runs backwards from one ledger to the next. -/
structure Ledger.Le (first second : Ledger) : Prop where
  sequence : first.sequence ≤ second.sequence
  timestamp : first.timestamp ≤ second.timestamp

/-- One `transfer` call on a token contract. -/
structure Transfer where
  token : Address
  source : Address
  target : Address
  amount : Int
  deriving DecidableEq

/-- Balances by token and holder, with the transfers the contract has had
performed, oldest first. -/
structure Tokens where
  balance : Address → Address → Int
  transfers : List Transfer

def Tokens.move (tokens : Tokens) (transfer : Transfer) : Tokens where
  balance := fun token holder =>
    tokens.balance token holder
      - (if token = transfer.token ∧ holder = transfer.source then transfer.amount else 0)
      + (if token = transfer.token ∧ holder = transfer.target then transfer.amount else 0)
  transfers := tokens.transfers ++ [transfer]

def Tokens.moves (tokens : Tokens) (transfers : List Transfer) : Tokens :=
  transfers.foldl Tokens.move tokens

theorem Tokens.moves_transfers (tokens : Tokens) (transfers : List Transfer) :
    (tokens.moves transfers).transfers = tokens.transfers ++ transfers := by
  induction transfers generalizing tokens with
  | nil => simp [Tokens.moves]
  | cons transfer rest ih => simp_all [Tokens.moves, Tokens.move, List.append_assoc]

theorem Tokens.move_balance (tokens : Tokens) (transfer : Transfer) (foreign : transfer.source ≠ transfer.target) :
    (tokens.move transfer).balance transfer.token transfer.target =
      tokens.balance transfer.token transfer.target + transfer.amount := by
  simp [Tokens.move, Ne.symm foreign]

/-- Amounts of `token` that the listed transfers take away from `holder`. -/
def outgoing (holder token : Address) (transfers : List Transfer) : Int :=
  ((transfers.filter fun transfer => transfer.token = token ∧ transfer.source = holder).map
    Transfer.amount).sum

/-- Amounts of `token` that the listed transfers bring to `holder` from others. -/
def incoming (holder token : Address) (transfers : List Transfer) : Int :=
  ((transfers.filter fun transfer =>
    transfer.token = token ∧ transfer.target = holder ∧ transfer.source ≠ holder).map
    Transfer.amount).sum

theorem outgoing_append (holder token : Address) (first second : List Transfer) :
    outgoing holder token (first ++ second) = outgoing holder token first + outgoing holder token second := by
  simp [outgoing]

/-- What one invocation finds. `authorised` are the addresses that signed it; the
contract itself has no `__check_auth` and cannot be re-entered, so it never does.
`accepts` is the token contract's decision to perform a transfer or to abort. -/
structure Env (contract : Address) where
  ledger : Ledger
  authorised : Address → Bool
  silent : authorised contract = false
  accepts : Tokens → Transfer → Bool

/-- The same invocation, signed by nobody outside the list. -/
def Env.signedOnlyBy {contract : Address} (env : Env contract) (signers : List Address) : Env contract :=
  { env with
    authorised := fun who => env.authorised who && signers.contains who
    silent := by simp [env.silent] }

/-- The token contract performs the listed transfers one after the other. -/
def Env.AcceptsAll {contract : Address} (env : Env contract) : Tokens → List Transfer → Prop
  | _, [] => True
  | tokens, transfer :: rest =>
    env.accepts tokens transfer = true ∧ env.AcceptsAll (tokens.move transfer) rest

/-- Every transfer the holder can afford goes through. -/
def Env.Honours {contract : Address} (env : Env contract) : Prop :=
  ∀ tokens transfer, 0 ≤ transfer.amount →
    transfer.amount ≤ tokens.balance transfer.token transfer.source →
    env.accepts tokens transfer = true

/-- Why an invocation was rolled back. -/
inductive Failure (Error : Type) where
  | error (error : Error)
  | panic (message : String)
  | unauthorised (who : Address)
  | overflow
  | transferRefused (transfer : Transfer)
  deriving DecidableEq

/-- The chain as one contract sees it, with the last ledger it was seen at. -/
structure Chain (State : Type) where
  storage : Option State
  tokens : Tokens
  ledger : Ledger

/-- Contract code: it reads its environment and either finishes or is rolled back. -/
abbrev Contract (contract : Address) (State Error : Type) :=
  ReaderT (Env contract) (StateT (Chain State) (Except (Failure Error)))

namespace Contract

variable {contract : Address} {State Error α β : Type}

/-- `assert!` -/
def assert (condition : Bool) (message : String) : Contract contract State Error Unit :=
  if condition then pure () else throw (.panic message)

/-- `return Err(error)` under a condition. -/
def failIf (condition : Bool) (error : Error) : Contract contract State Error Unit :=
  if condition then throw (.error error) else pure ()

/-- `Address::require_auth` -/
def requireAuth (who : Address) : Contract contract State Error Unit := do
  if (← read).authorised who then pure () else throw (.unauthorised who)

/-- `env.storage().instance().has(..)` -/
def hasStored : Contract contract State Error Bool := do
  return (← get).storage.isSome

/-- `env.storage().instance().get(..).ok_or(error)?` -/
def loadOr (error : Error) : Contract contract State Error State := do
  match (← get).storage with
  | some state => pure state
  | none => throw (.error error)

/-- `env.storage().instance().get(..).expect(message)` -/
def loadExpect (message : String) : Contract contract State Error State := do
  match (← get).storage with
  | some state => pure state
  | none => throw (.panic message)

/-- `env.storage().instance().set(..)` -/
def store (state : State) : Contract contract State Error Unit :=
  modify fun chain => { chain with storage := some state }

/-- `token::Client::transfer` -/
def transfer (request : Transfer) : Contract contract State Error Unit := do
  if (← read).accepts (← get).tokens request then
    modify fun chain => { chain with tokens := chain.tokens.move request }
  else throw (.transferRefused request)

/-- The value of a checked `i128` operation; an overflow aborts the invocation. -/
def arithmetic (value : Int) : Contract contract State Error I128 :=
  match I128.checked value with
  | some result => pure result
  | none => throw .overflow

/-- `count += 1` on a `u32`; an overflow aborts the invocation. -/
def increment (count : UInt32) : Contract contract State Error UInt32 :=
  if count.toNat + 1 < 2 ^ 32 then pure (count + 1) else throw .overflow

def sequence : Contract contract State Error UInt32 := do
  return (← read).ledger.sequence

def timestamp : Contract contract State Error UInt64 := do
  return (← read).ledger.timestamp

variable {env : Env contract} {chain last : Chain State}

theorem seq_ok {first : Contract contract State Error α} {next : α → Contract contract State Error β} {value : β} :
    (first >>= next) env chain = .ok (value, last) ↔ ∃ result middle, first env chain = .ok (result, middle) ∧
        next result env middle = .ok (value, last) := by
  change (Except.bind (first env chain) fun pair => next pair.1 env pair.2) = .ok (value, last) ↔ _
  cases first env chain with
  | error failure => simp [Except.bind]
  | ok pair =>
    constructor
    · intro rest
      exact ⟨pair.1, pair.2, rfl, rest⟩
    · rintro ⟨result, middle, same, rest⟩
      cases same
      exact rest

variable {result : α}

theorem done_ok {value : α} : (pure value : Contract contract State Error α) env chain = .ok (result, last) ↔
      value = result ∧ chain = last := by
  change Except.ok (value, chain) = Except.ok (result, last) ↔ _
  simp

theorem throw_ok {failure : Failure Error} :
    (throw failure : Contract contract State Error α) env chain = .ok (result, last) ↔ False := by
  change Except.error failure = Except.ok (result, last) ↔ _
  simp

variable {value : Unit} {condition : Bool} {message : String}

theorem assert_ok : (assert condition message : Contract contract State Error Unit) env chain = .ok (value, last) ↔
      condition = true ∧ chain = last := by
  unfold assert
  cases condition <;> simp [done_ok, throw_ok]

variable {error : Error}

theorem failIf_ok : (failIf condition error : Contract contract State Error Unit) env chain = .ok (value, last) ↔
      condition = false ∧ chain = last := by
  unfold failIf
  cases condition <;> simp [done_ok, throw_ok]

theorem requireAuth_ok {who : Address} :
    (requireAuth who : Contract contract State Error Unit) env chain = .ok (value, last) ↔
      env.authorised who = true ∧ chain = last := by
  change (if env.authorised who then pure () else throw (.unauthorised who) :
    Contract contract State Error Unit) env chain = _ ↔ _
  cases env.authorised who <;> simp [done_ok, throw_ok]

theorem hasStored_ok {present : Bool} :
    (hasStored : Contract contract State Error Bool) env chain = .ok (present, last) ↔
      chain.storage.isSome = present ∧ chain = last := by
  change Except.ok (chain.storage.isSome, chain) = Except.ok (present, last) ↔ _
  simp

variable {state : State}

theorem loadOr_ok : (loadOr error : Contract contract State Error State) env chain = .ok (state, last) ↔
      chain.storage = some state ∧ chain = last := by
  change (match chain.storage with
    | some state => pure state
    | none => throw (.error error) : Contract contract State Error State) env chain = _ ↔ _
  cases chain.storage <;> simp [done_ok, throw_ok]

theorem loadExpect_ok : (loadExpect message : Contract contract State Error State) env chain = .ok (state, last) ↔
      chain.storage = some state ∧ chain = last := by
  change (match chain.storage with
    | some state => pure state
    | none => throw (.panic message) : Contract contract State Error State) env chain = _ ↔ _
  cases chain.storage <;> simp [done_ok, throw_ok]

theorem store_ok : (store state : Contract contract State Error Unit) env chain = .ok (value, last) ↔
      last = { chain with storage := some state } := by
  change Except.ok ((), { chain with storage := some state }) = Except.ok (value, last) ↔ _
  simp [eq_comm]

theorem transfer_ok {request : Transfer} :
    (transfer request : Contract contract State Error Unit) env chain = .ok (value, last) ↔
      env.accepts chain.tokens request = true ∧ last = { chain with tokens := chain.tokens.move request } := by
  change (if env.accepts chain.tokens request then
      modify fun chain => { chain with tokens := chain.tokens.move request }
    else throw (.transferRefused request) : Contract contract State Error Unit) env chain = _ ↔ _
  cases env.accepts chain.tokens request
  · simp [throw_ok]
  · change Except.ok ((), { chain with tokens := chain.tokens.move request }) =
      Except.ok (value, last) ↔ _
    simp [eq_comm]

theorem arithmetic_ok {value : Int} {result : I128} :
    (arithmetic value : Contract contract State Error I128) env chain = .ok (result, last) ↔
      result.val = value ∧ chain = last := by
  unfold arithmetic
  rw [← I128.checked_eq_some]
  cases I128.checked value <;> simp [done_ok, throw_ok]

theorem increment_ok {count result : UInt32} :
    (increment count : Contract contract State Error UInt32) env chain = .ok (result, last) ↔
      result.toNat = count.toNat + 1 ∧ chain = last := by
  unfold increment
  have bound := result.toNat_lt
  split
  · next inside =>
    have sum : (count + 1).toNat = count.toNat + 1 := by simp_all
    rw [done_ok, ← UInt32.toNat_inj, sum, eq_comm]
  · next outside =>
    simp only [throw_ok, false_iff]
    omega

theorem sequence_ok {number : UInt32} :
    (sequence : Contract contract State Error UInt32) env chain = .ok (number, last) ↔
      env.ledger.sequence = number ∧ chain = last := by
  change Except.ok (env.ledger.sequence, chain) = Except.ok (number, last) ↔ _
  simp

theorem timestamp_ok {time : UInt64} : (timestamp : Contract contract State Error UInt64) env chain = .ok (time, last) ↔
      env.ledger.timestamp = time ∧ chain = last := by
  change Except.ok (env.ledger.timestamp, chain) = Except.ok (time, last) ↔ _
  simp

end Contract

/-- What happens on the chain: an invocation of the contract, recorded with whether
it succeeded, or the rest of the world moving tokens. -/
inductive Event (contract : Address) (Call : Type) where
  | invoked (env : Env contract) (call : Call) (succeeded : Bool)
  | outside (balance : Address → Address → Int)

section Step

variable {contract : Address} {State Error Call : Type}
variable (invoke : Call → Contract contract State Error Unit)

/-- Only the contract itself can spend what it holds; everybody else may move their
own tokens, also to the contract. A failed invocation only lets time pass. -/
inductive Step : Chain State → Event contract Call → Chain State → Prop where
  | success {chain last : Chain State} {env : Env contract} {call : Call}
      (later : chain.ledger.Le env.ledger) (ran : invoke call env chain = .ok ((), last)) :
      Step chain (.invoked env call true) { last with ledger := env.ledger }
  | failure {chain : Chain State} {env : Env contract} {call : Call} {failure : Failure Error}
      (later : chain.ledger.Le env.ledger) (failed : invoke call env chain = .error failure) :
      Step chain (.invoked env call false) { chain with ledger := env.ledger }
  | outside {chain : Chain State} {balance : Address → Address → Int}
      (kept : ∀ token, chain.tokens.balance token contract ≤ balance token contract) :
      Step chain (.outside balance) { chain with tokens := { chain.tokens with balance } }

end Step

/-- A freshly deployed contract: nothing stored, nothing moved, no debts. -/
structure Deployed (contract : Address) {State : Type} (chain : Chain State) : Prop where
  storage : chain.storage = none
  transfers : chain.tokens.transfers = []
  balance : ∀ token, 0 ≤ chain.tokens.balance token contract

/-- A chain on which nothing has happened yet. -/
def Chain.genesis (State : Type) : Chain State where
  storage := none
  tokens := ⟨fun _ _ => 0, []⟩
  ledger := ⟨0, 0⟩

theorem Deployed.genesis {contract : Address} {State : Type} : Deployed contract (Chain.genesis State) :=
  ⟨rfl, rfl, fun _ => Int.le_refl 0⟩

/-- Everybody but the contract has signed, and the token performs every transfer. -/
def Env.permissive (contract : Address) (ledger : Ledger) : Env contract where
  ledger
  authorised := fun who => who ≠ contract
  silent := by simp
  accepts := fun _ _ => true

variable {ledger : Ledger}

theorem Env.permissive_authorised {contract who : Address}
    (foreign : who ≠ contract) : (Env.permissive contract ledger).authorised who = true :=
  decide_eq_true foreign

theorem Env.permissive_honours {contract : Address} : (Env.permissive contract ledger).Honours :=
  fun _ _ _ _ => rfl

end ProxyPay.Soroban

/-! Contracts that keep one deposit. Such a contract refines the one-shot vault as soon
as each of its steps does, and then it takes one deposit and pays it out once. -/

namespace ProxyPay.Soroban

open ProxyPay.Library

variable {contract : Address} {State Error Call : Type}

section Events

variable (deposits : Call → Option Int)

/-- The move of the vault that a call makes: a deposit locks, everything else settles. -/
def vaultMove (call : Call) : Vault.Move Int :=
  match deposits call with
  | some amount => .lock amount
  | none => .settle

/-- The vault moves that a history shows: its successful invocations. -/
def visible : Event contract Call → Option (Vault.Move Int)
  | .invoked _ call true => some (vaultMove deposits call)
  | .invoked _ _ false => none
  | .outside _ => none

/-- A deposit that went through. -/
def initialises : Event contract Call → Bool
  | .invoked _ call succeeded => succeeded && (deposits call).isSome
  | .outside _ => false

/-- A settlement that went through. -/
def settles : Event contract Call → Bool
  | .invoked _ call succeeded => succeeded && (deposits call).isNone
  | .outside _ => false

theorem countP_initialises (trace : List (Event contract Call)) : trace.countP (initialises deposits) =
      (trace.filterMap (visible deposits)).countP Vault.Move.isLock := by
  rw [List.countP_filterMap]
  congr 1
  funext event
  cases event with
  | outside balance => rfl
  | invoked env call succeeded =>
    cases succeeded with
    | false => rfl
    | true => cases amount : deposits call <;>
        simp [initialises, visible, vaultMove, amount, Vault.Move.isLock]

theorem countP_settles (trace : List (Event contract Call)) : trace.countP (settles deposits) =
      (trace.filterMap (visible deposits)).countP Vault.Move.isSettle := by
  rw [List.countP_filterMap]
  congr 1
  funext event
  cases event with
  | outside balance => rfl
  | invoked env call succeeded =>
    cases succeeded with
    | false => rfl
    | true => cases amount : deposits call <;>
        simp [settles, visible, vaultMove, amount, Vault.Move.isSettle]

end Events

/-- Each step of the contract is the vault's move that it shows, or none. -/
def RefinesVault (invoke : Call → Contract contract State Error Unit)
    (deposits : Call → Option Int) (vault : Chain State → Vault Int) : Prop :=
  ∀ chain event last, Step invoke chain event last →
    Shows Vault.Step (vault chain) (visible deposits event) (vault last)

namespace RefinesVault

variable {invoke : Call → Contract contract State Error Unit}
variable {deposits : Call → Option Int} {vault : Chain State → Vault Int}
variable {start last : Chain State} {trace : List (Event contract Call)}

section

variable (refines : RefinesVault invoke deposits vault)

include refines

theorem run (run : Run (Step invoke) start trace last) :
    Run Vault.Step (vault start) (trace.filterMap (visible deposits)) (vault last) :=
  run.simulate vault (visible deposits) refines

theorem initialises_le (run : Run (Step invoke) start trace last) (empty : vault start = .empty) :
    trace.countP (initialises deposits) ≤ 1 := by
  have simulated := refines.run run
  rw [empty] at simulated
  rw [countP_initialises]
  exact Vault.lock_at_most_once simulated

theorem settles_le (run : Run (Step invoke) start trace last) (empty : vault start = .empty) :
    trace.countP (settles deposits) ≤ 1 := by
  have simulated := refines.run run
  rw [empty] at simulated
  rw [countP_settles]
  exact Vault.settle_at_most_once simulated

theorem settled (run : Run (Step invoke) start trace last) (done : (vault start).isSettled = true) :
    (vault last).isSettled = true :=
  Vault.settled_forever (refines.run run) done

end

end RefinesVault

end ProxyPay.Soroban
