import ProxyPay.Escrow.Invariant

/-! Who can settle an escrow, and when: the arbiter up to the lock's last ledger, the
depositor after it, and the depositor again from the emergency timestamp on. -/

namespace ProxyPay.Escrow

open ProxyPay.Library ProxyPay.Soroban

variable {contract : Address}

/-- The call goes through on this chain. -/
def Succeeds (call : Call) (env : Env contract) (chain : Chain EscrowState) : Prop :=
  ∃ last, invoke call env chain = .ok ((), last)

/-- The two calls the arbiter settles with. -/
def Call.arbitrates : Call → Bool
  | .release => true
  | .refund => true
  | _ => false

/-- Neither the arbiter nor the depositor has signed anything in the history. -/
def Unsigned (state : EscrowState) (trace : List (Event contract Call)) : Prop :=
  ∀ env call succeeded, Event.invoked env call succeeded ∈ trace →
    env.authorised state.arbiter = false ∧ env.authorised state.depositor = false

variable {chain : Chain EscrowState} {state : EscrowState} {env : Env contract}

section

variable (storage : chain.storage = some state)

include storage

theorem Succeeds.arbitration {call : Call} (arbitrates : call.arbitrates = true) (succeeds : Succeeds call env chain) :
    env.authorised state.arbiter = true ∧ state.WindowOpen env.ledger := by
  obtain ⟨last, ran⟩ := succeeds
  cases call with
  | release | refund =>
    obtain ⟨other, stored, signed, _, timely, _⟩ := (settle_ok rfl).mp ran
    cases stored.symm.trans storage
    exact ⟨signed, timely⟩
  | initialise | emergencyRefund | selfRefund => cases arbitrates

theorem Succeeds.selfRefund (succeeds : Succeeds .selfRefund env chain) : ¬ state.WindowOpen env.ledger := by
  obtain ⟨last, ran⟩ := succeeds
  obtain ⟨other, stored, _, _, timely, _⟩ := (settle_ok rfl).mp ran
  cases stored.symm.trans storage
  exact timely

variable {last : Chain EscrowState}

theorem step_unsigned {event : Event contract Call} (unsigned : Unsigned state [event]) (step : Step invoke chain event last) :
    last.storage = some state ∧ last.tokens.transfers = chain.tokens.transfers := by
  cases step with
  | @success middle env call later ran =>
    exfalso
    obtain ⟨arbiter, depositor⟩ := unsigned env call true (by simp)
    cases call with
    | initialise args =>
      have fresh := (initialise_ok.mp ran).2.2.1
      simp [storage] at fresh
    | release | refund =>
      obtain ⟨other, stored, signed, _⟩ := (settle_ok rfl).mp ran
      cases stored.symm.trans storage
      simp [Call.signer, arbiter] at signed
    | emergencyRefund | selfRefund =>
      obtain ⟨other, stored, signed, _⟩ := (settle_ok rfl).mp ran
      cases stored.symm.trans storage
      simp [Call.signer, depositor] at signed
  | failure later failed | outside kept => exact ⟨storage, rfl⟩

theorem run_unsigned {trace : List (Event contract Call)} (run : Run (Step invoke) chain trace last) (unsigned : Unsigned state trace) :
    last.storage = some state ∧ last.tokens.transfers = chain.tokens.transfers := by
  induction run with
  | start => exact ⟨storage, rfl⟩
  | next earlier move ih =>
    obtain ⟨stored, transfers⟩ := ih fun env call succeeded member =>
      unsigned env call succeeded (List.mem_append_left _ member)
    obtain ⟨kept, same⟩ := step_unsigned stored
      (fun env call succeeded member =>
        unsigned env call succeeded (List.mem_append_right _ member)) move
    exact ⟨kept, same.trans transfers⟩

end

/-- What the two clocks and the two signers guarantee about an unreleased escrow. -/
structure AuthorityWindows (contract : Address) (chain : Chain EscrowState)
    (state : EscrowState) : Prop where
  arbiter : 0 < state.lockUntilLedger → ∀ (env : Env contract) call, call.arbitrates = true →
    Succeeds call env chain → env.ledger.sequence ≤ state.lockUntilLedger
  depositor : 0 < state.lockUntilLedger → ∀ env : Env contract,
    Succeeds .selfRefund env chain → state.lockUntilLedger < env.ledger.sequence
  exclusive : 0 < state.lockUntilLedger → ∀ (first second : Env contract) call,
    first.ledger.sequence = second.ledger.sequence → call.arbitrates = true →
    Succeeds call first chain → ¬ Succeeds .selfRefund second chain
  disabled : state.lockUntilLedger = 0 → ∀ env : Env contract, ¬ Succeeds .selfRefund env chain
  guarded : ∀ (trace : List (Event contract Call)) last, Run (Step invoke) chain trace last →
    Unsigned state trace →
      last.storage = some state ∧ last.tokens.transfers = chain.tokens.transfers
  recoverable : ∀ env : Env contract,
    state.emergencyUnlockTimestamp ≤ env.ledger.timestamp →
    env.authorised state.depositor = true → env.Honours →
    ∃ last, invoke .emergencyRefund env chain = .ok ((), last) ∧
      last.tokens.transfers = chain.tokens.transfers ++
        [⟨state.token, contract, state.depositor, state.amount.val⟩]

/-- Every escrow that can be reached keeps its authority windows until it is settled. -/
theorem authority_windows {start chain : Chain EscrowState} {trace : List (Event contract Call)}
    {state : EscrowState} (deployed : Deployed contract start)
    (run : Run (Step invoke) start trace chain) (storage : chain.storage = some state)
    (held : state.released = false) : AuthorityWindows contract chain state := by
  have sound := Sound.run deployed run
  have locked : ∀ ledger : Ledger, 0 < state.lockUntilLedger → state.WindowOpen ledger →
      ledger.sequence ≤ state.lockUntilLedger := by
    intro ledger enabled windowOpen
    rcases windowOpen with zero | before
    · simp [zero] at enabled
    · exact before
  have expired : ∀ ledger : Ledger, ¬ state.WindowOpen ledger →
      state.lockUntilLedger < ledger.sequence :=
    fun ledger closed => UInt32.not_le.mp fun before => closed (.inr before)
  constructor
  · intro enabled env call arbitrates succeeds
    exact locked _ enabled (succeeds.arbitration storage arbitrates).2
  · intro enabled env succeeds
    exact expired _ (succeeds.selfRefund storage)
  · intro enabled first second call same arbitrates succeeds refunds
    have before := locked _ enabled (succeeds.arbitration storage arbitrates).2
    have after := expired _ (refunds.selfRefund storage)
    rw [same] at before
    exact absurd before (UInt32.not_le.mpr after)
  · intro zero env succeeds
    exact succeeds.selfRefund storage (.inl zero)
  · intro trace last later unsigned
    exact run_unsigned storage later unsigned
  · intro env reached signed honours
    have accepted := sound.accepts_payments storage held honours .emergencyRefund
    have ran : invoke .emergencyRefund env chain = .ok ((), _) :=
      (settle_ok rfl).mpr ⟨state, storage, signed, held, reached, trivial, accepted, rfl⟩
    refine ⟨_, ran, ?_⟩
    simp only [Tokens.moves_transfers]
    rfl

/-- The sample escrow can be recovered by its depositor in ledger 11. -/
theorem authority_windows_sample : ∃ last, invoke .emergencyRefund (Env.permissive ⟨0⟩ ⟨11, 100⟩)
      (InitialiseArgs.sample.initialised ⟨0⟩ ⟨0, 0⟩) = .ok ((), last) ∧
      last.tokens.transfers = [⟨⟨4⟩, ⟨1⟩, ⟨0⟩, 500⟩, ⟨⟨4⟩, ⟨0⟩, ⟨1⟩, 500⟩] :=
  (authority_windows Deployed.genesis InitialiseArgs.run_sample rfl rfl).recoverable
    (Env.permissive ⟨0⟩ ⟨11, 100⟩) (by decide) (by decide) Env.permissive_honours

end ProxyPay.Escrow
