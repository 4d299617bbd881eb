import ProxyPay.Htlc.Contract

/-! The lock opens once, along one of its two paths: a preimage for the receiver, or
the expired timelock for the sender. -/

namespace ProxyPay.Htlc

open ProxyPay.Library ProxyPay.Soroban

variable {contract : Address} {sha256 : Bytes32 → Bytes32}

/-- The transfer by which `initialise` pulled the deposit in. -/
def HtlcState.deposit (contract : Address) (state : HtlcState) : Transfer :=
  ⟨state.token, state.sender, contract, state.amount.val⟩

/-- Neither path has been taken. -/
def HtlcState.Pending (state : HtlcState) : Prop :=
  state.claimed = false ∧ state.refunded = false

/-- The three stages of a lock, each with its complete transfer journal. The last one
remembers the call of the history that opened it. -/
inductive Sound (contract : Address) (sha256 : Bytes32 → Bytes32)
    (trace : List (Event contract Call)) (chain : Chain HtlcState) : Prop where
  | unset (storage : chain.storage = none) (transfers : chain.tokens.transfers = [])
  | locked (state : HtlcState) (storage : chain.storage = some state) (pending : state.Pending)
      (foreign : state.sender ≠ contract)
      (transfers : chain.tokens.transfers = [state.deposit contract])
  | settled (state : HtlcState) (env : Env contract) (call : Call)
      (storage : chain.storage = some (call.mark state)) (pending : state.Pending)
      (foreign : state.sender ≠ contract) (settles : call.settles = true)
      (happened : Event.invoked env call true ∈ trace) (opens : call.Opens sha256 state env)
      (transfers : chain.tokens.transfers = [state.deposit contract, call.payment contract state])

section

variable {trace : List (Event contract Call)}

theorem Sound.later {chain last : Chain HtlcState}
    {event : Event contract Call} (sound : Sound contract sha256 trace chain)
    (storage : last.storage = chain.storage)
    (transfers : last.tokens.transfers = chain.tokens.transfers) :
    Sound contract sha256 (trace ++ [event]) last := by
  cases sound with
  | unset stored moved => exact .unset (storage.trans stored) (transfers.trans moved)
  | locked state stored pending foreign moved =>
    exact .locked state (storage.trans stored) pending foreign (transfers.trans moved)
  | settled state env call stored pending foreign settles happened opens moved =>
    exact .settled state env call (storage.trans stored) pending foreign settles
      (List.mem_append_left _ happened) opens (transfers.trans moved)

theorem Sound.of_pending {chain : Chain HtlcState} {state : HtlcState} (sound : Sound contract sha256 trace chain)
    (storage : chain.storage = some state) (pending : state.Pending) :
    state.sender ≠ contract ∧ chain.tokens.transfers = [state.deposit contract] := by
  obtain ⟨unclaimed, unrefunded⟩ := pending
  cases sound with
  | unset none => simp [none] at storage
  | locked other stored _ foreign transfers => simp_all
  | settled other env call stored _ _ settles =>
    cases stored.symm.trans storage
    cases call with
    | initialise args => cases settles
    | claim preimage signers => cases unclaimed
    | refund => cases unrefunded

theorem Sound.step {chain last : Chain HtlcState}
    {event : Event contract Call} (sound : Sound contract sha256 trace chain)
    (step : Step (invoke sha256) chain event last) :
    Sound contract sha256 (trace ++ [event]) last := by
  cases step with
  | @success middle env call later ran =>
    cases settles : call.settles with
    | true =>
      obtain ⟨state, storage, unclaimed, unrefunded, opens, _, rfl⟩ := (settle_ok settles).mp ran
      obtain ⟨foreign, transfers⟩ := sound.of_pending storage ⟨unclaimed, unrefunded⟩
      refine .settled state env call rfl ⟨unclaimed, unrefunded⟩ foreign settles (by simp) opens ?_
      simp only [Tokens.move, transfers, List.singleton_append]
    | false =>
      cases call with
      | initialise args =>
        obtain ⟨signed, _, fresh, _, _, _, rfl⟩ := initialise_ok.mp ran
        have foreign : args.sender ≠ contract := by
          rintro rfl
          rw [env.silent] at signed
          cases signed
        cases sound with
        | unset _ transfers =>
          refine .locked args.state rfl ⟨rfl, rfl⟩ foreign ?_
          simp [Tokens.move, transfers, HtlcState.deposit, InitialiseArgs.state]
        | locked state storage | settled state env call storage => simp [fresh] at storage
      | _ => cases settles
  | failure later failed | outside kept => exact sound.later rfl rfl

end

theorem Sound.run {start last : Chain HtlcState} {trace : List (Event contract Call)}
    (deployed : Deployed contract start) (run : Run (Step (invoke sha256)) start trace last) :
    Sound contract sha256 trace last :=
  run.invariant (Sound contract sha256) (.unset deployed.storage deployed.transfers)
    fun _ _ _ _ sound step => sound.step step

/-- The vault a lock implements. -/
def vault (chain : Chain HtlcState) : Vault Int :=
  match chain.storage with
  | none => .empty
  | some state =>
    if state.claimed || state.refunded then .settled state.amount.val
    else .locked state.amount.val

theorem refines_vault : RefinesVault (@invoke contract sha256) Call.deposits vault := by
  intro chain event last step
  cases step with
  | @success middle env call later ran =>
    cases callSettles : call.settles with
    | true =>
      obtain ⟨state, storage, unclaimed, unrefunded, _, _, rfl⟩ := (settle_ok callSettles).mp ran
      have locked : vault chain = .locked state.amount.val := by
        simp [vault, storage, unclaimed, unrefunded]
      rw [locked]
      cases call with
      | initialise args => cases callSettles
      | claim preimage signers => exact Vault.Step.settle state.amount.val
      | refund =>
        have marked : vault { chain with
            storage := some (Call.refund.mark state)
            tokens := chain.tokens.move (Call.refund.payment contract state)
            ledger := env.ledger } = .settled state.amount.val := by
          simp [vault, Call.mark]
        rw [marked]
        exact Vault.Step.settle state.amount.val
    | false =>
      cases call with
      | initialise args =>
        obtain ⟨_, _, fresh, _, _, _, rfl⟩ := initialise_ok.mp ran
        have empty : vault chain = .empty := by simp [vault, fresh]
        rw [empty]
        exact Vault.Step.lock args.amount.val
      | _ => cases callSettles
  | failure later failed | outside kept => rfl

/-- Every call of the history comes before the timelock, and none of them shows a
preimage of the hashlock. -/
def Locks (sha256 : Bytes32 → Bytes32) (state : HtlcState) (trace : List (Event contract Call)) : Prop :=
  ∀ env call succeeded, Event.invoked env call succeeded ∈ trace →
    env.ledger.timestamp < state.timelock ∧
      ∀ preimage signers, call = .claim preimage signers → sha256 preimage ≠ state.hashlock

theorem step_locks {chain last : Chain HtlcState} {event : Event contract Call}
    {state : HtlcState} (storage : chain.storage = some state)
    (locks : Locks sha256 state [event]) (step : Step (invoke sha256) chain event last) :
    last.storage = some state ∧ last.tokens.transfers = chain.tokens.transfers := by
  cases step with
  | @success middle env call later ran =>
    exfalso
    obtain ⟨early, unknown⟩ := locks env call true (by simp)
    cases call with
    | initialise args =>
      have fresh := (initialise_ok.mp ran).2.2.1
      simp [storage] at fresh
    | claim preimage signers =>
      obtain ⟨other, stored, _, _, ⟨opens, _⟩, _⟩ := (settle_ok rfl).mp ran
      cases stored.symm.trans storage
      exact unknown preimage signers rfl opens
    | refund =>
      obtain ⟨other, stored, _, _, expired, _⟩ := (settle_ok rfl).mp ran
      cases stored.symm.trans storage
      exact UInt64.not_le.mpr early expired
  | failure later failed | outside kept => exact ⟨storage, rfl⟩

theorem run_locks {chain last : Chain HtlcState} {trace : List (Event contract Call)}
    {state : HtlcState} (storage : chain.storage = some state)
    (run : Run (Step (invoke sha256)) chain trace last) (locks : Locks sha256 state trace) :
    last.storage = some state ∧ last.tokens.transfers = chain.tokens.transfers := by
  induction run with
  | start => exact ⟨storage, rfl⟩
  | next earlier move ih =>
    obtain ⟨stored, transfers⟩ := ih fun env call succeeded member =>
      locks env call succeeded (List.mem_append_left _ member)
    obtain ⟨kept, same⟩ := step_locks stored
      (fun env call succeeded member =>
        locks env call succeeded (List.mem_append_right _ member)) move
    exact ⟨kept, same.trans transfers⟩

/-- What a lock promises about a history that has led to `chain`. -/
structure TwoPaths (contract : Address) (sha256 : Bytes32 → Bytes32)
    (trace : List (Event contract Call)) (chain : Chain HtlcState) : Prop where
  unset : chain.storage = none → ∀ token, outgoing contract token chain.tokens.transfers = 0
  exclusive : ∀ state, chain.storage = some state →
    ¬ (state.claimed = true ∧ state.refunded = true)
  pending : ∀ state, chain.storage = some state → state.claimed = false →
    state.refunded = false → ∀ token, outgoing contract token chain.tokens.transfers = 0
  settled : ∀ state, chain.storage = some state → state.claimed = true ∨ state.refunded = true →
    ∀ token, outgoing contract token chain.tokens.transfers =
      if token = state.token then state.amount.val else 0
  claimed : ∀ state, chain.storage = some state → state.claimed = true →
    (∃ env preimage signers, Event.invoked env (.claim preimage signers) true ∈ trace ∧
      sha256 preimage = state.hashlock) ∧
    ⟨state.token, contract, state.receiver, state.amount.val⟩ ∈ chain.tokens.transfers
  refunded : ∀ state, chain.storage = some state → state.refunded = true →
    (∃ env, Event.invoked env .refund true ∈ trace ∧ state.timelock ≤ env.ledger.timestamp) ∧
    ⟨state.token, contract, state.sender, state.amount.val⟩ ∈ chain.tokens.transfers
  initialises : trace.countP (initialises Call.deposits) ≤ 1
  settles : trace.countP (settles Call.deposits) ≤ 1
  locked : ∀ state, chain.storage = some state → ∀ (rest : List (Event contract Call)) last,
    Run (Step (invoke sha256)) chain rest last → Locks sha256 state rest →
      last.storage = some state ∧ last.tokens.transfers = chain.tokens.transfers

section Stages

variable {trace : List (Event contract Call)} {chain : Chain HtlcState} {state : HtlcState}

section

variable (sound : Sound contract sha256 trace chain) (storage : chain.storage = some state)

include sound storage

theorem Sound.outgoing_pending (pending : state.Pending) (token : Address) :
    outgoing contract token chain.tokens.transfers = 0 := by
  obtain ⟨foreign, transfers⟩ := sound.of_pending storage pending
  simp [transfers, outgoing, HtlcState.deposit, foreign]

theorem Sound.opened (open_ : state.claimed = true ∨ state.refunded = true) :
    ∃ before env call, state = call.mark before ∧ before.Pending ∧ before.sender ≠ contract ∧
      call.settles = true ∧ Event.invoked env call true ∈ trace ∧ call.Opens sha256 before env ∧
      chain.tokens.transfers = [before.deposit contract, call.payment contract before] := by
  cases sound with
  | unset none => simp [none] at storage
  | locked other stored pending =>
    cases stored.symm.trans storage
    simp [pending.1, pending.2] at open_
  | settled before env call stored pending foreign settles happened opens transfers =>
    exact ⟨before, env, call, Option.some.inj (storage.symm.trans stored), pending, foreign,
      settles, happened, opens, transfers⟩

theorem Sound.exclusive : ¬ (state.claimed = true ∧ state.refunded = true) := by
  rintro ⟨claimed, refunded⟩
  obtain ⟨before, env, call, rfl, ⟨unclaimed, unrefunded⟩, _⟩ := sound.opened storage (.inl claimed)
  cases call with
  | initialise args => simp [Call.mark, unclaimed] at claimed
  | claim preimage signers => simp [Call.mark, unrefunded] at refunded
  | refund => simp [Call.mark, unclaimed] at claimed

theorem Sound.outgoing_opened (open_ : state.claimed = true ∨ state.refunded = true) (token : Address) :
    outgoing contract token chain.tokens.transfers =
      if token = state.token then state.amount.val else 0 := by
  obtain ⟨before, env, call, rfl, _, foreign, settles, _, _, transfers⟩ :=
    sound.opened storage open_
  have amount : (call.mark before).amount = before.amount := by cases call <;> rfl
  have same : (call.mark before).token = before.token := by cases call <;> rfl
  rw [amount, same, transfers]
  by_cases equal : token = before.token
  · simp [outgoing, HtlcState.deposit, Call.payment, foreign, equal]
  · simp [outgoing, HtlcState.deposit, Call.payment, equal, Ne.symm equal]

theorem Sound.claimed (claimed : state.claimed = true) :
    (∃ env preimage signers, Event.invoked env (.claim preimage signers) true ∈ trace ∧
      sha256 preimage = state.hashlock) ∧
    ⟨state.token, contract, state.receiver, state.amount.val⟩ ∈ chain.tokens.transfers := by
  obtain ⟨before, env, call, rfl, pending, _, settles, happened, opens, transfers⟩ :=
    sound.opened storage (.inl claimed)
  cases call with
  | initialise args => cases settles
  | claim preimage signers =>
    refine ⟨⟨env, preimage, signers, happened, opens.1⟩, ?_⟩
    simp [transfers, Call.payment, Call.payee, Call.mark]
  | refund => simp [Call.mark, pending.1] at claimed

theorem Sound.refunded (refunded : state.refunded = true) :
    (∃ env, Event.invoked env .refund true ∈ trace ∧ state.timelock ≤ env.ledger.timestamp) ∧
    ⟨state.token, contract, state.sender, state.amount.val⟩ ∈ chain.tokens.transfers := by
  obtain ⟨before, env, call, rfl, pending, _, settles, happened, opens, transfers⟩ :=
    sound.opened storage (.inr refunded)
  cases call with
  | initialise args => cases settles
  | claim preimage signers => simp [Call.mark, pending.2] at refunded
  | refund =>
    refine ⟨⟨env, happened, opens⟩, ?_⟩
    simp [transfers, Call.payment, Call.payee, Call.mark]

end

end Stages

/-- The lock opens at most once, and only along its two paths. -/
theorem two_paths {start chain : Chain HtlcState} {trace : List (Event contract Call)}
    (deployed : Deployed contract start) (run : Run (Step (invoke sha256)) start trace chain) :
    TwoPaths contract sha256 trace chain := by
  have sound := Sound.run deployed run
  have empty : vault start = .empty := by simp [vault, deployed.storage]
  refine ⟨?_, fun state storage => sound.exclusive storage,
    fun state storage unclaimed unrefunded => sound.outgoing_pending storage ⟨unclaimed, unrefunded⟩,
    fun state storage => sound.outgoing_opened storage, fun state storage => sound.claimed storage,
    fun state storage => sound.refunded storage, (refines_vault).initialises_le run empty,
    (refines_vault).settles_le run empty, fun state storage rest last => run_locks storage⟩
  intro unset token
  cases sound with
  | unset _ transfers => simp [transfers, outgoing]
  | locked state storage | settled state env call storage => simp [unset] at storage

/-- Two of the three signers claim the sample for its receiver. -/
def claimSample : Call := .claim preimageSample twoSigners

/-- The chain once the sample has been claimed. -/
def claimedSample : Chain HtlcState where
  storage := some { InitialiseArgs.sample.state with claimed := true }
  tokens := (InitialiseArgs.sample.initialised ⟨0⟩ ⟨1, 100⟩).tokens.move ⟨⟨4⟩, ⟨0⟩, ⟨2⟩, 500⟩
  ledger := ⟨2, 200⟩

theorem run_claimedSample : Run (Step (invoke fun _ => digestSample)) (Chain.genesis HtlcState)
      [.invoked (.permissive ⟨0⟩ ⟨1, 100⟩) (.initialise .sample) true,
        .invoked (.permissive ⟨0⟩ ⟨2, 200⟩) claimSample true] claimedSample := by
  have signed : InitialiseArgs.sample.state.Signed (Env.permissive ⟨0⟩ ⟨2, 200⟩)
      ⟨[⟨5⟩, ⟨6⟩], by decide⟩ := by
    simp [HtlcState.Signed, InitialiseArgs.state, InitialiseArgs.sample, Env.permissive,
      HostVec.len]
  have ran : invoke (fun _ => digestSample) claimSample (Env.permissive ⟨0⟩ ⟨2, 200⟩)
      (InitialiseArgs.sample.initialised ⟨0⟩ ⟨1, 100⟩) = .ok ((), _) :=
    (settle_ok rfl).mpr
      ⟨InitialiseArgs.sample.state, rfl, rfl, rfl, ⟨rfl, signed⟩, rfl, rfl⟩
  exact InitialiseArgs.run_sample.next (.success ⟨by decide, by decide⟩ ran)

/-- The claimed sample has paid its whole amount to the receiver. -/
theorem two_paths_sample : outgoing ⟨0⟩ ⟨4⟩ claimedSample.tokens.transfers = 500 ∧
      ⟨⟨4⟩, ⟨0⟩, ⟨2⟩, 500⟩ ∈ claimedSample.tokens.transfers := by
  have promised := two_paths Deployed.genesis run_claimedSample
  exact ⟨promised.settled _ rfl (.inl rfl) ⟨4⟩, (promised.claimed _ rfl rfl).2⟩

/-- The contract owes nothing before a lock is set, and holds the amount of a pending one. -/
def Funded (contract : Address) (chain : Chain HtlcState) : Prop :=
  match chain.storage with
  | none => ∀ token, 0 ≤ chain.tokens.balance token contract
  | some state => state.Pending → 0 ≤ state.amount.val ∧ state.amount.val ≤ chain.tokens.balance state.token contract

theorem Funded.step {chain last : Chain HtlcState} {event : Event contract Call} (funded : Funded contract chain)
    (step : Step (invoke sha256) chain event last) : Funded contract last := by
  cases step with
  | @success middle env call later ran =>
    cases settles : call.settles with
    | true =>
      obtain ⟨state, _, _, _, _, _, rfl⟩ := (settle_ok settles).mp ran
      rintro ⟨unclaimed, unrefunded⟩
      cases call with
      | initialise args => cases settles
      | claim preimage signers => cases unclaimed
      | refund => cases unrefunded
    | false =>
      cases call with
      | initialise args =>
        obtain ⟨signed, positive, fresh, _, _, _, rfl⟩ := initialise_ok.mp ran
        have foreign : args.sender ≠ contract := by
          rintro rfl
          rw [env.silent] at signed
          cases signed
        have moved := chain.tokens.move_balance ⟨args.token, args.sender, contract, args.amount.val⟩ foreign
        have nonneg : ∀ token, 0 ≤ chain.tokens.balance token contract := by simpa [Funded, fresh] using funded
        have before := nonneg args.token
        intro _
        simp only [InitialiseArgs.state] at moved ⊢
        omega
      | _ => cases settles
  | failure later failed => exact funded
  | outside kept =>
    unfold Funded at funded ⊢
    cases stored : chain.storage with
    | none =>
      simp only [stored] at funded ⊢
      exact fun token => Int.le_trans (funded token) (kept token)
    | some state =>
      simp only [stored] at funded ⊢
      exact fun pending => ⟨(funded pending).1, Int.le_trans (funded pending).2 (kept _)⟩

/-- A pending lock is never stuck: from its time on anybody refunds its sender, and whoever has the preimage and the
signatures pays its receiver at any time, after the timelock, too. -/
theorem never_stuck {start chain : Chain HtlcState} {trace : List (Event contract Call)} {state : HtlcState}
    {env : Env contract} (deployed : Deployed contract start) (run : Run (Step (invoke sha256)) start trace chain)
    (storage : chain.storage = some state) (pending : state.Pending) (honours : env.Honours) :
    (state.timelock ≤ env.ledger.timestamp → ∃ last, invoke sha256 .refund env chain = .ok ((), last) ∧
      last.tokens.transfers = chain.tokens.transfers ++ [⟨state.token, contract, state.sender, state.amount.val⟩]) ∧
    ∀ preimage signers, sha256 preimage = state.hashlock → state.Signed env signers →
      ∃ last, invoke sha256 (.claim preimage signers) env chain = .ok ((), last) ∧
        last.tokens.transfers = chain.tokens.transfers ++ [⟨state.token, contract, state.receiver, state.amount.val⟩] := by
  have funded : Funded contract chain := by
    refine run.invariant (fun _ chain => Funded contract chain) ?_ fun _ _ _ _ funded step => funded.step step
    simpa [Funded, deployed.storage] using deployed.balance
  rw [Funded, storage] at funded
  obtain ⟨nonneg, covered⟩ := funded pending
  have opens (call : Call) (settles : call.settles = true) (opened : call.Opens sha256 state env) :
      ∃ last, invoke sha256 call env chain = .ok ((), last) ∧
        last.tokens.transfers = chain.tokens.transfers ++ [call.payment contract state] :=
    ⟨_, (settle_ok settles).mpr
      ⟨state, storage, pending.1, pending.2, opened, honours _ (call.payment contract state) nonneg covered, rfl⟩, rfl⟩
  exact ⟨opens .refund rfl, fun preimage signers known signed => opens (.claim preimage signers) rfl ⟨known, signed⟩⟩

theorem sample_refunded : ∃ last, invoke (fun _ => digestSample) .refund (Env.permissive ⟨0⟩ ⟨9, 1000⟩)
    (InitialiseArgs.sample.initialised ⟨0⟩ ⟨1, 100⟩) = .ok ((), last) ∧
      last.tokens.transfers = [⟨⟨4⟩, ⟨1⟩, ⟨0⟩, 500⟩, ⟨⟨4⟩, ⟨0⟩, ⟨1⟩, 500⟩] :=
  (never_stuck Deployed.genesis InitialiseArgs.run_sample rfl ⟨rfl, rfl⟩ Env.permissive_honours).1 (by decide)

end ProxyPay.Htlc
