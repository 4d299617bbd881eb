import ProxyPay.Escrow.Invariant

/-! The escrow refines the one-shot vault, so that its deposit leaves it once, whole. -/

namespace ProxyPay.Escrow

open ProxyPay.Library ProxyPay.Soroban

variable {contract : Address}

/-- The vault an escrow implements. -/
def vault (chain : Chain EscrowState) : Vault Int :=
  match chain.storage with
  | none => .empty
  | some state => if state.released then .settled state.amount.val else .locked state.amount.val

theorem refines_vault : RefinesVault (@invoke contract) Call.deposits vault := by
  intro chain event last step
  cases step with
  | @success middle env call later ran =>
    cases callSettles : call.settles with
    | true =>
      obtain ⟨state, storage, _, held, _, _, _, rfl⟩ := (settle_ok callSettles).mp ran
      have locked : vault chain = .locked state.amount.val := by simp [vault, storage, held]
      rw [locked]
      cases call with
      | initialise args => cases callSettles
      | _ => exact Vault.Step.settle state.amount.val
    | false =>
      cases call with
      | initialise args =>
        obtain ⟨_, _, fresh, _, _, _, _, _, _, rfl⟩ := initialise_ok.mp ran
        have empty : vault chain = .empty := by simp [vault, fresh]
        rw [empty]
        exact Vault.Step.lock args.amount.val
      | _ => cases callSettles
  | failure later failed | outside kept => rfl

theorem stored_by_initialise {start last : Chain EscrowState}
    {trace : List (Event contract Call)} (deployed : Deployed contract start)
    (run : Run (Step invoke) start trace last) :
    ∀ state, last.storage = some state → ∃ env args, Event.invoked env (.initialise args) true ∈ trace ∧
        args.amount = state.amount ∧ args.token = state.token := by
  refine run.invariant (fun trace chain => ∀ state, chain.storage = some state → ∃ env args,
    Event.invoked env (.initialise args) true ∈ trace ∧
      args.amount = state.amount ∧ args.token = state.token) ?_ ?_
  · intro state storage
    simp [deployed.storage] at storage
  · intro trace chain event after earlier step state storage
    have keep : ∀ old, chain.storage = some old → old.amount = state.amount →
        old.token = state.token → ∃ env args,
          Event.invoked env (.initialise args) true ∈ trace ++ [event] ∧
            args.amount = state.amount ∧ args.token = state.token := by
      intro old stored amount token
      obtain ⟨env, args, member, amounts, tokens⟩ := earlier old stored
      exact ⟨env, args, List.mem_append_left _ member, amounts.trans amount, tokens.trans token⟩
    cases step with
    | @success middle env call later ran =>
      cases callSettles : call.settles with
      | true =>
        obtain ⟨old, stored, _, _, _, _, _, rfl⟩ := (settle_ok callSettles).mp ran
        cases Option.some.inj storage
        exact keep old stored rfl rfl
      | false =>
        cases call with
        | initialise args =>
          obtain ⟨_, _, _, _, _, _, _, _, _, rfl⟩ := initialise_ok.mp ran
          cases Option.some.inj storage
          exact ⟨env, args, by simp, rfl, rfl⟩
        | _ => cases callSettles
    | failure later failed | outside kept => exact keep state storage rfl rfl

/-- What an escrow promises about a history that has led to `chain`. -/
structure SinglePayout (contract : Address) (trace : List (Event contract Call))
    (chain : Chain EscrowState) : Prop where
  unset : chain.storage = none → ∀ token, outgoing contract token chain.tokens.transfers = 0
  held : ∀ state, chain.storage = some state → state.released = false →
    ∀ token, outgoing contract token chain.tokens.transfers = 0
  released : ∀ state, chain.storage = some state → state.released = true →
    ∀ token, outgoing contract token chain.tokens.transfers =
      if token = state.token then state.amount.val else 0
  pulledIn : ∀ state, chain.storage = some state →
    incoming contract state.token chain.tokens.transfers = state.amount.val ∧
      ∃ env args, Event.invoked env (.initialise args) true ∈ trace ∧
        args.amount = state.amount ∧ args.token = state.token
  initialises : trace.countP (initialises Call.deposits) ≤ 1
  settles : trace.countP (settles Call.deposits) ≤ 1

section

variable {chain : Chain EscrowState} {state : EscrowState} (sound : Sound contract chain)
  (storage : chain.storage = some state)

include sound storage

theorem Sound.outgoing_held (held : state.released = false) (token : Address) :
    outgoing contract token chain.tokens.transfers = 0 := by
  obtain ⟨formed, transfers, _⟩ := sound.of_held storage held
  rw [transfers, formed.outgoing_deposit]

theorem Sound.outgoing_released (released : state.released = true) (token : Address) :
    outgoing contract token chain.tokens.transfers =
      if token = state.token then state.amount.val else 0 := by
  cases sound with
  | unset none => simp [none] at storage
  | locked other stored _ held => simp_all
  | settled other call stored formed _ settles transfers =>
    cases stored.symm.trans storage
    have split := outgoing_append contract token [state.deposit contract]
      (call.payments contract state)
    rw [transfers, ← List.singleton_append, split, formed.outgoing_deposit,
      formed.outgoing_payments settles, Int.zero_add]

theorem Sound.incoming_deposit : incoming contract state.token chain.tokens.transfers = state.amount.val := by
  cases sound with
  | unset none => simp [none] at storage
  | locked other stored formed _ transfers =>
    cases stored.symm.trans storage
    simp [transfers, incoming, EscrowState.deposit, formed.foreign]
  | settled other call stored formed _ settles transfers =>
    cases stored.symm.trans storage
    rw [transfers]
    cases call with
    | initialise args => cases settles
    | release => by_cases positive : 0 < state.fee <;>
        simp [incoming, EscrowState.deposit, formed.foreign, Call.payments, positive]
    | _ => simp [incoming, EscrowState.deposit, formed.foreign, Call.payments]

end

/-- In every reachable state the contract has paid out nothing before the release and
exactly the deposit after it, and it never holds funds again. -/
theorem single_payout {start middle last : Chain EscrowState}
    {first rest : List (Event contract Call)} (deployed : Deployed contract start)
    (run : Run (Step invoke) start first middle) (later : Run (Step invoke) middle rest last) :
    SinglePayout contract first middle ∧ (∀ state, middle.storage = some state → state.released = true →
        ∃ after, last.storage = some after ∧ after.released = true) := by
  have sound := Sound.run deployed run
  have empty : vault start = .empty := by simp [vault, deployed.storage]
  refine ⟨⟨?_, fun state storage => sound.outgoing_held storage,
    fun state storage => sound.outgoing_released storage,
    fun state storage => ⟨sound.incoming_deposit storage,
      stored_by_initialise deployed run state storage⟩,
    (refines_vault).initialises_le run empty, (refines_vault).settles_le run empty⟩, ?_⟩
  · intro unset token
    cases sound with
    | unset _ transfers => simp [transfers, outgoing]
    | locked state storage | settled state call storage => simp [unset] at storage
  · intro state storage released
    have done := (refines_vault).settled later (by simp [vault, storage, released, Vault.isSettled])
    cases stored : last.storage with
    | none => simp [vault, stored, Vault.isSettled] at done
    | some after =>
      refine ⟨after, rfl, ?_⟩
      cases flag : after.released with
      | true => rfl
      | false => simp [vault, stored, flag, Vault.isSettled] at done

/-- The chain once the sample escrow has been released. -/
def InitialiseArgs.released : Chain EscrowState where
  storage := some { InitialiseArgs.sample.state with released := true }
  tokens := (InitialiseArgs.sample.initialised ⟨0⟩ ⟨0, 0⟩).tokens.moves
    [⟨⟨4⟩, ⟨0⟩, ⟨5⟩, 5⟩, ⟨⟨4⟩, ⟨0⟩, ⟨2⟩, 495⟩]
  ledger := ⟨10, 5⟩

theorem run_released : Run (Step invoke) (Chain.genesis EscrowState)
    [.invoked (.permissive ⟨0⟩ ⟨0, 0⟩) (.initialise .sample) true,
      .invoked (.permissive ⟨0⟩ ⟨10, 5⟩) .release true] InitialiseArgs.released := by
  have ran : invoke .release (Env.permissive ⟨0⟩ ⟨10, 5⟩)
      (InitialiseArgs.sample.initialised ⟨0⟩ ⟨0, 0⟩) = .ok ((), _) :=
    (settle_ok rfl).mpr ⟨InitialiseArgs.sample.state, rfl, by decide, rfl, .inr (by decide),
      ⟨by decide, by decide, by decide⟩, ⟨rfl, rfl, trivial⟩, rfl⟩
  exact InitialiseArgs.run_sample.next (.success ⟨by decide, by decide⟩ ran)

theorem single_payout_sample : outgoing ⟨0⟩ ⟨4⟩ InitialiseArgs.released.tokens.transfers = 500 :=
  (single_payout Deployed.genesis run_released .start).1.released _ rfl rfl ⟨4⟩

end ProxyPay.Escrow
