import ProxyPay.Escrow.Contract

/-! Every history of the escrow is a history of a one-shot vault, and the journal of
its token transfers is exactly the deposit followed by one settlement. -/

namespace ProxyPay.Escrow

open ProxyPay.Library ProxyPay.Soroban

variable {contract : Address}

/-- The transfer by which `initialise` pulled the deposit in. -/
def EscrowState.deposit (contract : Address) (state : EscrowState) : Transfer :=
  ⟨state.token, state.depositor, contract, state.amount.val⟩

/-- What `initialise` has checked about a stored state. -/
structure EscrowState.WellFormed (contract : Address) (state : EscrowState) : Prop where
  positive : 0 < state.amount.val
  feeBps : state.feeBps ≤ 10000
  foreign : state.depositor ≠ contract

namespace EscrowState.WellFormed

variable {state : EscrowState}

section

variable (formed : state.WellFormed contract)

include formed

attribute [local simp] Call.payments

theorem feeBps_le : (state.feeBps.toNat : Int) ≤ 10000 := by
  have bound : state.feeBps.toNat ≤ 10000 := UInt32.le_iff_toNat_le.mp formed.feeBps
  omega

theorem product_nonneg : 0 ≤ state.product :=
  Int.mul_nonneg (Int.le_of_lt formed.positive) (Int.natCast_nonneg _)

theorem fee_eq : state.fee = state.product / 10000 :=
  Int.tdiv_eq_ediv_of_nonneg formed.product_nonneg

theorem fee_nonneg : 0 ≤ state.fee := by
  rw [formed.fee_eq]
  exact Int.ediv_nonneg formed.product_nonneg (by decide)

theorem fee_le : state.fee ≤ state.amount.val := by
  rw [formed.fee_eq]
  have bound : state.product ≤ state.amount.val * 10000 :=
    Int.mul_le_mul_of_nonneg_left formed.feeBps_le (Int.le_of_lt formed.positive)
  omega

theorem outgoing_payments {call : Call} (settles : call.settles = true) (token : Address) :
    outgoing contract token (call.payments contract state) =
      if token = state.token then state.amount.val else 0 := by
  by_cases same : token = state.token
  · subst same
    cases call with
    | initialise args => cases settles
    | release =>
      have nonneg := formed.fee_nonneg
      by_cases positive : 0 < state.fee
      · simp [outgoing, positive, EscrowState.net]
      · have zero : state.fee = 0 := by omega
        simp [outgoing, EscrowState.net, zero]
    | refund => simp [outgoing]
    | emergencyRefund => simp [outgoing]
    | selfRefund => simp [outgoing]
  · have other : ¬ state.token = token := fun equal => same equal.symm
    cases call with
    | initialise args => cases settles
    | release => by_cases positive : 0 < state.fee <;>
        simp [outgoing, positive, other, same]
    | refund => simp [outgoing, other, same]
    | emergencyRefund => simp [outgoing, other, same]
    | selfRefund => simp [outgoing, other, same]

theorem outgoing_deposit (token : Address) : outgoing contract token [state.deposit contract] = 0 := by
  simp [outgoing, EscrowState.deposit, formed.foreign]

end

end EscrowState.WellFormed

/-- The three stages of an escrow, each with its complete transfer journal. -/
inductive Sound (contract : Address) (chain : Chain EscrowState) : Prop where
  | unset (storage : chain.storage = none) (transfers : chain.tokens.transfers = [])
      (balance : ∀ token, 0 ≤ chain.tokens.balance token contract)
  | locked (state : EscrowState) (storage : chain.storage = some state)
      (formed : state.WellFormed contract) (held : state.released = false)
      (transfers : chain.tokens.transfers = [state.deposit contract])
      (covered : state.amount.val ≤ chain.tokens.balance state.token contract)
  | settled (state : EscrowState) (call : Call) (storage : chain.storage = some state)
      (formed : state.WellFormed contract) (released : state.released = true)
      (settles : call.settles = true)
      (transfers : chain.tokens.transfers =
        state.deposit contract :: call.payments contract state)

variable {chain : Chain EscrowState}

theorem Sound.deployed (deployed : Deployed contract chain) : Sound contract chain :=
  .unset deployed.storage deployed.transfers deployed.balance

theorem Sound.of_held {state : EscrowState} (sound : Sound contract chain) (storage : chain.storage = some state)
    (held : state.released = false) :
    state.WellFormed contract ∧ chain.tokens.transfers = [state.deposit contract] ∧
      state.amount.val ≤ chain.tokens.balance state.token contract := by
  cases sound with
  | unset none => simp [none] at storage
  | locked other stored formed _ transfers covered | settled other call stored _ released => simp_all

variable {last : Chain EscrowState} {env : Env contract}

theorem Sound.initialise {args : InitialiseArgs} (sound : Sound contract chain)
    (ran : invoke (.initialise args) env chain = .ok ((), last)) : Sound contract last := by
  obtain ⟨signed, positive, fresh, _, feeBps, _, _, _, _, rfl⟩ := initialise_ok.mp ran
  have foreign : args.depositor ≠ contract := by
    rintro rfl
    rw [env.silent] at signed
    cases signed
  cases sound with
  | unset _ transfers balance =>
    refine .locked args.state rfl ⟨positive, feeBps, foreign⟩ rfl ?_ ?_
    · simp [Tokens.move, transfers, EscrowState.deposit, InitialiseArgs.state]
    · have moved := chain.tokens.move_balance
        ⟨args.token, args.depositor, contract, args.amount.val⟩ foreign
      have nonneg := balance args.token
      simp only [InitialiseArgs.state] at moved ⊢
      omega
  | locked state storage | settled state call storage => simp [fresh] at storage

theorem Sound.settle {call : Call} (sound : Sound contract chain) (settles : call.settles = true)
    (ran : invoke call env chain = .ok ((), last)) : Sound contract last := by
  obtain ⟨state, storage, _, held, _, _, _, rfl⟩ := (settle_ok settles).mp ran
  obtain ⟨formed, transfers, _⟩ := sound.of_held storage held
  refine .settled { state with released := true } call rfl
    ⟨formed.positive, formed.feeBps, formed.foreign⟩ rfl settles ?_
  simp only [Tokens.moves_transfers, transfers]
  cases call <;> rfl

theorem Sound.step {event : Event contract Call} (sound : Sound contract chain) (step : Step invoke chain event last) :
    Sound contract last := by
  have relabel : ∀ (chain : Chain EscrowState) ledger, Sound contract chain →
      Sound contract { chain with ledger } := by
    intro chain ledger sound
    cases sound with
    | unset storage transfers balance => exact .unset storage transfers balance
    | locked state storage formed held transfers covered =>
      exact .locked state storage formed held transfers covered
    | settled state call storage formed released settles transfers =>
      exact .settled state call storage formed released settles transfers
  cases step with
  | @success middle env call later ran =>
    apply relabel
    cases settles : call.settles with
    | true => exact sound.settle settles ran
    | false =>
      cases call with
      | initialise args => exact sound.initialise ran
      | _ => cases settles
  | failure later failed => exact relabel _ _ sound
  | outside kept =>
    cases sound with
    | unset storage transfers balance =>
      exact .unset storage transfers fun token => Int.le_trans (balance token) (kept token)
    | locked state storage formed held transfers covered =>
      exact .locked state storage formed held transfers (Int.le_trans covered (kept _))
    | settled state call storage formed released settles transfers =>
      exact .settled state call storage formed released settles transfers

theorem Sound.run {start : Chain EscrowState} {trace : List (Event contract Call)}
    (deployed : Deployed contract start) (run : Run (Step invoke) start trace last) :
    Sound contract last :=
  run.invariant (fun _ chain => Sound contract chain) (Sound.deployed deployed)
    fun _ _ _ _ sound step => sound.step step

theorem Sound.accepts_payments {state : EscrowState} (sound : Sound contract chain) (storage : chain.storage = some state)
    (held : state.released = false) (honours : env.Honours) (call : Call) :
    env.AcceptsAll chain.tokens (call.payments contract state) := by
  obtain ⟨formed, _, covered⟩ := sound.of_held storage held
  have whole : env.accepts chain.tokens
      ⟨state.token, contract, state.depositor, state.amount.val⟩ = true :=
    honours _ _ (Int.le_of_lt formed.positive) covered
  have feeNonneg := formed.fee_nonneg
  have feeLe := formed.fee_le
  cases call with
  | initialise args => trivial
  | release =>
    by_cases positive : 0 < state.fee
    · have fee : env.accepts chain.tokens
          ⟨state.token, contract, state.feeRecipient, state.fee⟩ = true :=
        honours _ _ feeNonneg (by simp only; omega)
      have left : state.net ≤
          (chain.tokens.move ⟨state.token, contract, state.feeRecipient, state.fee⟩).balance
            state.token contract := by
        simp only [Tokens.move, EscrowState.net, and_self, ↓reduceIte]
        split <;> omega
      have net := honours _ ⟨state.token, contract, state.beneficiary, state.net⟩
        (by simp only [EscrowState.net]; omega) left
      simpa [Call.payments, positive, Env.AcceptsAll] using ⟨fee, net⟩
    · have net := honours chain.tokens ⟨state.token, contract, state.beneficiary, state.net⟩
        (by simp only [EscrowState.net]; omega) (by simp only [EscrowState.net]; omega)
      simpa [Call.payments, positive, Env.AcceptsAll] using net
  | refund => exact ⟨whole, trivial⟩
  | emergencyRefund => exact ⟨whole, trivial⟩
  | selfRefund => exact ⟨whole, trivial⟩

theorem EscrowState.WellFormed.splits_iff {state : EscrowState}
    (formed : state.WellFormed contract) : state.Splits ↔ state.product < 2 ^ 127 := by
  have nonneg := formed.product_nonneg
  have feeNonneg := formed.fee_nonneg
  have feeLe := formed.fee_le
  have upper := state.amount.upper
  constructor
  · intro splits
    exact splits.product.2
  · intro below
    refine ⟨⟨by omega, below⟩, ⟨by omega, by omega⟩, ?_, ?_⟩ <;>
      simp only [EscrowState.net] <;> omega

end ProxyPay.Escrow
