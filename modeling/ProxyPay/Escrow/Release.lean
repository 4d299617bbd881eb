import ProxyPay.Escrow.Invariant

/-! When the arbiter can release: the window is not the only limit, because the fee is
computed from a product that has to fit `i128`. -/

namespace ProxyPay.Escrow

open ProxyPay.Library ProxyPay.Soroban

variable {contract : Address}

/-- The release goes through and pays the rounded-down fee and the rest. -/
def ReleasePays (env : Env contract) (chain : Chain EscrowState) (state : EscrowState) : Prop :=
  ∃ last fee net, invoke .release env chain = .ok ((), last) ∧
    fee = state.amount.val * (state.feeBps.toNat : Int) / 10000 ∧ net = state.amount.val - fee ∧
    0 ≤ fee ∧ fee ≤ state.amount.val ∧ 0 ≤ net ∧ fee + net = state.amount.val ∧
    last.tokens.transfers = chain.tokens.transfers ++
      ((if 0 < fee then [⟨state.token, contract, state.feeRecipient, fee⟩] else []) ++
        [⟨state.token, contract, state.beneficiary, net⟩])

/-- Inside its window, an authorised release pays out exactly when the product of the
amount and the fee rate fits `i128`. -/
theorem release_pays_iff {start chain : Chain EscrowState} {trace : List (Event contract Call)}
    {state : EscrowState} {env : Env contract} (deployed : Deployed contract start)
    (run : Run (Step invoke) start trace chain) (storage : chain.storage = some state)
    (held : state.released = false) (windowOpen : state.WindowOpen env.ledger)
    (signed : env.authorised state.arbiter = true) (honours : env.Honours) :
    ReleasePays env chain state ↔ state.amount.val * (state.feeBps.toNat : Int) < 2 ^ 127 := by
  have sound := Sound.run deployed run
  obtain ⟨formed, _, _⟩ := sound.of_held storage held
  have splits := formed.splits_iff
  constructor
  · rintro ⟨last, fee, net, ran, _⟩
    obtain ⟨other, stored, _, _, _, fits, _⟩ := (settle_ok rfl).mp ran
    cases stored.symm.trans storage
    exact splits.mp fits
  · intro below
    have accepted := sound.accepts_payments storage held honours .release
    have ran : invoke .release env chain = .ok ((), _) := (settle_ok rfl).mpr
      ⟨state, storage, signed, held, windowOpen, splits.mpr below, accepted, rfl⟩
    refine ⟨_, state.fee, state.net, ran, formed.fee_eq, rfl, formed.fee_nonneg, formed.fee_le,
      ?_, ?_, ?_⟩
    · have bound := formed.fee_le
      simp only [EscrowState.net]
      omega
    · simp only [EscrowState.net]
      omega
    · simp only [Tokens.moves_transfers]
      rfl

/-- A deposit of 500 units is released with a fee of 5. -/
theorem release_pays_sample : ReleasePays (Env.permissive ⟨0⟩ ⟨10, 5⟩)
    (InitialiseArgs.sample.initialised ⟨0⟩ ⟨0, 0⟩) InitialiseArgs.sample.state :=
  (release_pays_iff Deployed.genesis
    InitialiseArgs.run_sample rfl rfl (.inr (by decide)) (by decide) Env.permissive_honours).mpr (by decide)

/-- The largest deposit, with a fee of two basis points and no lock. -/
def InitialiseArgs.largest : InitialiseArgs :=
  { InitialiseArgs.sample with
    amount := ⟨2 ^ 127 - 1, by decide, by decide⟩, feeBps := 2, lockUntilLedger := 0 }

/-- `initialise` accepts a deposit that the arbiter can then never release. -/
theorem largest_never_released : ∃ (trace : List (Event ⟨0⟩ Call)) (chain : Chain EscrowState),
      Run (Step invoke) (Chain.genesis EscrowState) trace chain ∧
      chain.storage = some InitialiseArgs.largest.state ∧ ∀ ledger : Ledger,
        InitialiseArgs.largest.state.WindowOpen ledger ∧
        (Env.permissive ⟨0⟩ ledger).authorised InitialiseArgs.largest.arbiter = true ∧
        (Env.permissive ⟨0⟩ ledger).Honours ∧
        ¬ ReleasePays (Env.permissive ⟨0⟩ ledger) chain InitialiseArgs.largest.state := by
  have acceptable : InitialiseArgs.largest.Acceptable ⟨0⟩ ⟨0, 0⟩ := by decide
  refine ⟨_, _, InitialiseArgs.run_initialised acceptable, rfl, ?_⟩
  intro ledger
  refine ⟨.inl rfl, Env.permissive_authorised (by decide), Env.permissive_honours, ?_⟩
  rintro ⟨last, fee, net, ran, _⟩
  obtain ⟨state, stored, _, _, _, splits, _⟩ := (settle_ok rfl).mp ran
  cases Option.some.inj stored
  exact absurd splits.product.2 (by decide)

end ProxyPay.Escrow
