import ProxyPay.Recovery.Approvals

/-! Rotation: whether the secret of an active key is still the one of its public key, and whether the
key that replaces another can be recovered by the same signers. -/

namespace ProxyPay.Recovery

open ProxyPay.Library

/-- The stored secret is the one of the public key. -/
def ManagedKey.Matches (platform : Platform) (key : ManagedKey) : Prop :=
  ∃ secret, platform.vault.decrypt key.encryptedSecret = .ok secret ∧
    platform.publicKey secret = key.publicKey.text

def ActiveMatch (platform : Platform) (store : Store) : Prop :=
  ∀ key ∈ store.managedKeys, key.isActive = true → key.Matches platform

/-- A signer belongs to a key that exists. -/
def SignersOwned (store : Store) : Prop :=
  ∀ signer ∈ store.recoverySigners, signer.managedKeyId < store.managedKeys.length

/-- The key that a call replaces if it comes that far, and the address that was requested for the
new one. -/
def Operation.replaces (store : Store) : Operation → Option (KeyId × Option String)
  | .rotateKey keyId _ address => some (keyId, address)
  | .completeRecovery keyId id _ =>
    some (keyId, (store.sessions[id]?.bind RecoverySession.requestedNewAddress).map Varchar.text)
  | _ => none

/-- The newest key stands for this one: it is active, it has its threshold and its signers. -/
structure CarriedOver (before after : Store) (keyId : KeyId) : Prop where
  threshold : ∃ old new, before.managedKeys[keyId]? = some old ∧
    after.managedKeys[before.managedKeys.length]? = some new ∧ new.isActive = true ∧
    new.recoveryThreshold = old.recoveryThreshold
  signers : ∀ signer,
    after.Registered before.managedKeys.length signer ↔ before.Registered keyId signer

/-- What is asked of a call. -/
structure Consistent (platform : Platform) (before : Store) (entry : Entry) (after : Store) : Prop where
  keys : ActiveMatch platform after
  carried : ∀ keyId address, entry.operation.replaces before = some (keyId, address) →
    entry.exchanges.any replacing = true → CarriedOver before after keyId

/-- If the call replaces a key, the key has no signers, and an address that was requested is the
public key of the keypair that was drawn. -/
def ReplacesPlainly (platform : Platform) (before : Store) (entry : Entry) (_ : Store) : Prop :=
  ∀ keyId address, entry.operation.replaces before = some (keyId, address) →
    entry.exchanges.any replacing = true → before.signersOf keyId = [] ∧
      ∀ requested ∈ address, ∀ secret ∈ entry.exchanges.findSome? drawnSecret,
        ((Varchar.store requested : Option (Varchar 56)).map Varchar.text) =
          some (platform.publicKey secret)

section Invariants

variable {platform : Platform} {store after : Store} {drawn : String} {event : Event}
variable {statement : Statement} {reply : statement.Reply}

theorem perform_signersOwned (accepted : store.perform platform drawn statement = .ok (reply, after))
    (owned : SignersOwned store) : SignersOwned after := by
  have keys : store.managedKeys.length ≤ after.managedKeys.length := by
    apply Nat.le_of_not_lt
    intro fewer
    have inside := List.getElem?_eq_getElem fewer
    obtain ⟨_, found, _⟩ := perform_key accepted inside
    obtain ⟨bound, _⟩ := List.getElem?_eq_some_iff.mp found
    exact Nat.lt_irrefl _ bound
  have unwritten (same : after.recoverySigners = store.recoverySigners) : SignersOwned after := by
    intro signer member
    rw [same] at member
    exact (owned signer member).trans_le keys
  cases statement with
  | insertSigner keyId signerPublicKey signerLabel =>
    obtain ⟨present, belongs, rfl⟩ := Store.insertSigner_ok accepted
    refine forall_mem_append_singleton owned ?_
    simp_all
  | deleteSigner keyId signerPublicKey =>
    cases accepted
    intro signer member
    exact owned signer (List.mem_filter.mp member).1
  | _ => exact unwritten ((Store.perform_frame accepted).2.2 rfl)

theorem next_signersOwned (owned : SignersOwned store) :
    SignersOwned ((database platform).next store event statement) :=
  kept_by_next SignersOwned owned fun _ _ accepted => perform_signersOwned accepted owned

/-- A statement that adds a row of a key. -/
def Statement.addsKey : Statement → Bool
  | .insertKey _ | .replaceKey .. => true
  | _ => false

theorem next_activeMatch (other : statement.addsKey = false) (keys : ActiveMatch platform store) :
    ActiveMatch platform ((database platform).next store event statement) := by
  apply kept_by_next (ActiveMatch platform) keys
  intro reply after accepted
  cases statement with
  | updateThreshold target newThreshold =>
    obtain ⟨updated, done, same⟩ := bind_ok.mp accepted
    cases pure_ok.mp same
    cases Store.updateThreshold_ok done
    intro key member active
    obtain ⟨index, found⟩ := List.mem_iff_getElem?.mp member
    obtain ⟨old, present, rfl⟩ := getElem?_modify_of_some found
    have matched := keys old (List.mem_of_getElem? present)
    by_cases changed : target = index
    · rw [if_pos changed] at active ⊢
      exact matched active
    · simp_all
  | insertKey values | replaceKey keyId values completed => cases other
  | _ =>
    have same := (Store.perform_frame accepted).2.1 rfl
    intro key member
    rw [same] at member
    exact keys key member

theorem performs_signersOwned {before : Store} {entry : Entry}
    (done : performs platform before entry after) (owned : SignersOwned before) :
    SignersOwned after := by
  have ensures : (database platform).Ensures before (entry.operation.script platform) fun ended =>
      SignersOwned ended.state :=
    Server.Ensures.keeps SignersOwned (script_asks platform entry.operation)
      (fun _ _ _ _ => next_signersOwned) owned
  exact ensured ensures done

end Invariants

section Effects

variable {platform : Platform} {before after store : Store} {entry : Entry}

theorem createManagedKey_ensures (userId : String) (recoveryThreshold : Int) :
    (database platform).Ensures store (createManagedKey platform userId recoveryThreshold)
      fun ended => ended.state.managedKeys = store.managedKeys ∨
        ∃ secret randomness, ended.state.managedKeys = store.managedKeys ++
          [⟨userId, ⟨platform.publicKey secret, platform.publicKey_fits secret⟩,
            platform.vault.encrypt secret randomness, recoveryThreshold, true⟩] := by
  refine ensures_plain rfl (fun _ untouched => .inl untouched.keys) ?_
  intro _ secret _ _ accepted stops
  cases accepted
  refine ensures_plain rfl stops ?_
  intro _ randomness _ _ accepted stops
  cases accepted
  have created {drawn : String} {now after : Store} {reply : KeyId}
      (accepted : now.perform platform drawn (.insertKey ⟨userId, platform.publicKey secret,
        platform.vault.encrypt secret randomness, recoveryThreshold⟩) = .ok (reply, after))
      (keys : now.managedKeys = store.managedKeys) :
      ∃ secret randomness, after.managedKeys = store.managedKeys ++
          [⟨userId, ⟨platform.publicKey secret, platform.publicKey_fits secret⟩,
            platform.vault.encrypt secret randomness, recoveryThreshold, true⟩] := by
    obtain ⟨inserted, added, same⟩ := bind_ok.mp accepted
    cases pure_ok.mp same
    obtain ⟨publicKey, fits, rfl⟩ := Store.insertKey_ok added
    rw [Varchar.store_of_length (platform.publicKey_fits secret)] at fits
    cases fits
    exact ⟨secret, randomness, by rw [← keys]⟩
  refine ensures_write ?_ ?_ ?_
  · exact fun _ _ => .inl rfl
  · intro _ _ _ after _ accepted
    have added := created accepted rfl
    exact .inr added
  · intro _ _ _ after accepted
    have added := created accepted rfl
    exact Server.Ensures.done (.inr added)

section

variable (done : performs platform before entry after)

include done

theorem activeMatch_of_asks (adds : ∀ statement, entry.operation.mayAsk statement → statement.addsKey = false)
    (keys : ActiveMatch platform before) : ActiveMatch platform after := by
  have ensures : (database platform).Ensures before (entry.operation.script platform) fun ended =>
      ActiveMatch platform ended.state :=
    Server.Ensures.keeps (ActiveMatch platform) ((script_asks platform entry.operation).weaken adds)
      (fun _ _ _ => next_activeMatch) keys
  exact ensured ensures done

theorem signers_of_replaces {target : KeyId × Option String} (replaces : entry.operation.replaces before = some target) :
    after.recoverySigners = before.recoverySigners := by
  have permitted : ∀ statement, entry.operation.mayAsk statement → statement.writesSigners = false := by
    intro statement allowed
    generalize entry.operation = operation at replaces allowed
    cases operation with
    | rotateKey | completeRecovery =>
      cases statement with
      | insertSigner | deleteSigner => cases allowed
      | _ => rfl
    | _ => cases replaces
  have ensures : (database platform).Ensures before (entry.operation.script platform) fun ended =>
      ended.state.recoverySigners = before.recoverySigners :=
    Server.Ensures.keeps (fun store : Store => store.recoverySigners = before.recoverySigners)
      ((script_asks platform entry.operation).weaken permitted)
      (fun store _ _ written same => kept_by_next
        (fun after => after.recoverySigners = before.recoverySigners) same
        fun _ _ accepted => ((Store.perform_frame accepted).2.2 written).trans same) rfl
  exact ensured ensures done

theorem replaced_or_kept {keyId : KeyId} {address : Option String} (replaces : entry.operation.replaces before = some (keyId, address)) :
    (entry.exchanges.any replacing = false ∧ after.managedKeys = before.managedKeys) ∨
      ∃ key secret randomness stored, Replaced platform before keyId address key secret randomness
        stored entry.exchanges after.managedKeys := by
  obtain ⟨operation, events, exchanges, outcome⟩ := entry
  cases operation with
  | rotateKey target userId requested =>
    cases replaces
    exact ensured (rotateKey_ensures userId address) done
  | completeRecovery target id ip =>
    cases replaces
    cases ensured (completeRecovery_ensures ip) done with
    | untouched sessions keys kept => exact .inl ⟨kept, keys⟩
    | expired session reason present awaiting sessions keys kept => exact .inl ⟨kept, keys⟩
    | completed session newPublicKey key secret randomness stored present awaiting sessions replaced => grind
  | _ => cases replaces

end

end Effects

section Rotations

variable {platform : Platform} {before after : Store} {entry : Entry} {keyId : KeyId}
variable {address : Option String} {key : ManagedKey} {secret randomness : String}
variable {stored : Varchar 56} {exchanges : List Answered}

section

variable
  (replaced : Replaced platform before keyId address key secret randomness stored exchanges after.managedKeys)

include replaced

theorem Replaced.present : before.managedKeys[keyId]? = some key :=
  (Option.filter_eq_some_iff.mp replaced.active).1

theorem Replaced.newest : after.managedKeys[before.managedKeys.length]? = some
      ⟨key.userId, stored, platform.vault.encrypt secret randomness, key.recoveryThreshold, true⟩ := by
  rw [replaced.keys, List.getElem?_append_right (by simp)]
  simp

end

theorem newest_matches : (⟨key.userId, stored, platform.vault.encrypt secret randomness, key.recoveryThreshold, true⟩ :
      ManagedKey).Matches platform ↔ platform.publicKey secret = stored.text := by
  constructor
  · rintro ⟨other, decrypted, same⟩
    rw [platform.vault.decrypt_encrypt] at decrypted
    cases decrypted
    exact same
  · intro same
    exact ⟨secret, platform.vault.decrypt_encrypt secret randomness, same⟩

section

variable
  (replaced : Replaced platform before keyId address key secret randomness stored exchanges after.managedKeys)

include replaced

theorem Replaced.activeMatch_iff (keys : ActiveMatch platform before) :
    ActiveMatch platform after ↔ platform.publicKey secret = stored.text := by
  constructor
  · intro matched
    exact (newest_matches).mp (matched _ (List.mem_of_getElem? replaced.newest) rfl)
  · intro same other member active
    rw [replaced.keys] at member
    rcases List.mem_append.mp member with member | member
    · obtain ⟨index, found⟩ := List.mem_iff_getElem?.mp member
      obtain ⟨old, present, rfl⟩ := getElem?_modify_of_some found
      by_cases target : keyId = index
      · rw [if_pos target] at active
        cases active
      · rw [if_neg target] at active ⊢
        exact keys old (List.mem_of_getElem? present) active
    · rw [List.mem_singleton.mp member]
      exact (newest_matches).mpr same

theorem Replaced.stored_iff :
    platform.publicKey secret = stored.text ↔ ∀ requested ∈ address, ∀ drawn ∈ exchanges.findSome? drawnSecret,
        ((Varchar.store requested : Option (Varchar 56)).map Varchar.text) = some (platform.publicKey drawn) := by
  have fits := replaced.address
  rw [replaced.drawn]
  cases address with
  | none =>
    rw [Option.getD_none, Varchar.store_of_length (platform.publicKey_fits secret)] at fits
    cases fits
    simp
  | some requested =>
    rw [Option.getD_some] at fits
    simp [fits, eq_comm]

end

theorem signersOf_eq_nil : before.signersOf keyId = [] ↔ ∀ signer, ¬ before.Registered keyId signer := by
  rw [Store.signersOf, List.filter_eq_nil_iff]
  constructor
  · rintro nobody signer ⟨row, member, isOf⟩
    simp only [RecoverySigner.isOf, decide_eq_true_eq] at isOf
    exact nobody row member (by simp [isOf.1])
  · intro nobody row member owned
    apply nobody row.signerPublicKey.text
    exact ⟨row, member, by simpa [RecoverySigner.isOf] using owned⟩

theorem Replaced.carriedOver_iff (owned : SignersOwned before) (same : after.recoverySigners = before.recoverySigners)
    (replaced : Replaced platform before keyId address key secret randomness stored exchanges after.managedKeys) :
    CarriedOver before after keyId ↔ before.signersOf keyId = [] := by
  have nobody (signer : String) : ¬ after.Registered before.managedKeys.length signer := by
    rintro ⟨row, member, isOf⟩
    rw [same] at member
    simp only [RecoverySigner.isOf, decide_eq_true_eq] at isOf
    have inside := owned row member
    rw [isOf.1] at inside
    exact Nat.lt_irrefl _ inside
  rw [signersOf_eq_nil]
  constructor
  · intro carried signer registered
    exact nobody signer ((carried.signers signer).mpr registered)
  · intro none
    constructor
    · exact ⟨key, _, replaced.present, replaced.newest, rfl, rfl⟩
    · exact fun signer => ⟨fun there => (nobody signer there).elim, fun there => (none signer there).elim⟩

theorem createManagedKey_activeMatch {userId : String} {recoveryThreshold : Int} {events : List Event}
    {outcome : Except String Result}
    (done : performs platform before ⟨.createManagedKey userId recoveryThreshold, events, exchanges, outcome⟩ after)
    (keys : ActiveMatch platform before) : ActiveMatch platform after := by
  intro key member active
  rcases ensured (createManagedKey_ensures userId recoveryThreshold) done with
    same | ⟨secret, randomness, added⟩
  · have same : after.managedKeys = before.managedKeys := same
    rw [same] at member
    exact keys key member active
  · have added : after.managedKeys = _ := added
    rw [added] at member
    rcases List.mem_append.mp member with member | member
    · exact keys key member active
    · rw [List.mem_singleton.mp member]
      exact ⟨secret, platform.vault.decrypt_encrypt secret randomness, rfl⟩

theorem consistent_iff (owned : SignersOwned before) (keys : ActiveMatch platform before)
    (done : performs platform before entry after) :
    Consistent platform before entry after ↔ ReplacesPlainly platform before entry after := by
  cases target : entry.operation.replaces before with
  | none =>
    have matched : ActiveMatch platform after := by
      obtain ⟨operation, events, exchanges, outcome⟩ := entry
      cases operation with
      | createManagedKey userId recoveryThreshold => exact createManagedKey_activeMatch done keys
      | rotateKey keyId userId address | completeRecovery keyId id ip => cases target
      | _ =>
        apply activeMatch_of_asks done _ keys
        intro statement allowed
        cases statement with
        | insertKey values => cases allowed
        | replaceKey keyId values completed => cases completed <;> cases allowed
        | _ => rfl
    constructor
    · intro _ keyId address replaces
      rw [target] at replaces
      cases replaces
    · intro _
      refine ⟨matched, ?_⟩
      intro keyId address replaces
      rw [target] at replaces
      cases replaces
  | some pair =>
    obtain ⟨keyId, address⟩ := pair
    have signers := signers_of_replaces done target
    rcases replaced_or_kept done target with ⟨unchanged, same⟩ | ⟨key, secret, randomness, stored, replaced⟩
    · constructor
      · intro _ other requested _ replacing
        rw [unchanged] at replacing
        cases replacing
      · intro _
        constructor
        · intro key member
          rw [same] at member
          exact keys key member
        · simp_all
    · have matched := (replaced.activeMatch_iff keys).trans replaced.stored_iff
      have carried := replaced.carriedOver_iff owned signers
      constructor
      · intro consistent other requested replaces _
        rw [target] at replaces
        cases replaces
        exact ⟨carried.mp (consistent.carried keyId address target replaced.replaced),
          matched.mp consistent.keys⟩
      · intro plainly
        obtain ⟨nobody, own⟩ := plainly keyId address target replaced.replaced
        constructor
        · exact matched.mpr own
        · simp_all

theorem run_signersOwned {trace : List Entry}
    (run : Run (performs platform) .empty trace after) : SignersOwned after := by
  apply run.invariant fun _ => SignersOwned
  · simp [SignersOwned, Store.empty]
  · exact fun _ _ _ _ owned done => performs_signersOwned done owned

end Rotations

/-- All calls of a run keep the active keys consistent if and only if each of them that replaces a
key replaces one without signers, by a key whose address is its own. -/
theorem rotations_consistent_iff (platform : Platform) (trace : List Entry) :
    Throughout (performs platform) .empty (Consistent platform) trace ↔
      Throughout (performs platform) .empty (ReplacesPlainly platform) trace := by
  apply throughout_congr
  intro earlier before entry after run done
  have reached : Run (performs platform) .empty earlier before := by
    clear done
    induction run with
    | start => exact .start
    | next _ move ih => exact Run.next ih move.1
  have keys : ActiveMatch platform before := by
    cases run with
    | start => simp [ActiveMatch, Store.empty]
    | next _ move => exact move.2.keys
  exact consistent_iff (run_signersOwned reached) keys done

/-- A rotation of the first key, which belongs to `user-1`. -/
def rotateFirst (address : Option String) : Operation :=
  .rotateKey 0 "user-1" address

/-- The five statements of a rotation, which draws this secret. -/
def rotationEvents (secret : String) : List Event :=
  List.replicate 5 ⟨0, none, secret⟩

theorem not_throughout {calls : List Call} {operation : Operation} {events : List Event}
    {played : List Entry × Store} {execution : Ended Result Store}
    (reached : play .sample calls .empty = some played)
    (executed : (database .sample).execute (operation.script .sample) events played.2 = some execution)
    (inconsistent : ¬ Consistent .sample played.2
      ⟨operation, events, execution.exchanges, execution.outcome⟩ execution.state) :
    ∃ trace last, Run (performs .sample) .empty trace last ∧
      ¬ Throughout (performs .sample) .empty (Consistent .sample) trace := by
  have run : Run (performs .sample) .empty played.1 played.2 := play_run reached
  have done : performs .sample played.2 ⟨operation, events, execution.exchanges, execution.outcome⟩
      execution.state := executed
  refine ⟨_, _, Run.next run done, ?_⟩
  intro every
  exact inconsistent ((throughout_snoc.mp every).2 _ _ run done)

/-- The signer can recover the old key, and no signer can recover the new one. -/
def leftBehind (before : Store) (execution : Ended Result Store) : Bool :=
  execution.exchanges.any replacing && before.managedKeys.length = 1 &&
    before.recoverySigners.any (RecoverySigner.isOf 0 alice.signerPublicKey) &&
    execution.state.recoverySigners.all fun signer => !signer.isOf 1 alice.signerPublicKey

/-- The secret of the second key is the first one's. -/
def foreignAddress (execution : Ended Result Store) : Bool :=
  execution.state.managedKeys[1]?.any fun key =>
    key.isActive && key.publicKey.text = secondKeypair.2 &&
      key.encryptedSecret = KeyVault.wrapping.encrypt firstKeypair.1 firstKeypair.1

theorem rotation_inconsistent : (∃ trace last, Run (performs .sample) .empty trace last ∧
      ¬ Throughout (performs .sample) .empty (Consistent .sample) trace) ∧
    ∃ last, (∃ trace, Run (performs .sample) .empty trace last) ∧ ¬ ActiveMatch .sample last := by
  constructor
  · obtain ⟨played, reached, rest⟩ := Option.bind_eq_some_iff.mp
      (show ((play .sample (prepared.take 2) .empty).bind fun played =>
        ((database .sample).execute ((rotateFirst none).script .sample)
          (rotationEvents secondKeypair.1) played.2).map (leftBehind played.2)) = some true by
        decide +kernel)
    obtain ⟨execution, executed, left⟩ := Option.map_eq_some_iff.mp rest
    apply not_throughout reached executed
    intro consistent
    simp only [leftBehind, Bool.and_eq_true, decide_eq_true_eq] at left
    obtain ⟨⟨⟨replaced, one⟩, there⟩, gone⟩ := left
    obtain ⟨row, member, isOf⟩ := List.any_eq_true.mp there
    have carried := (consistent.carried 0 none rfl replaced).signers alice.signerPublicKey
    rw [one] at carried
    obtain ⟨copied, among, isOfNew⟩ := carried.mpr ⟨row, member, isOf⟩
    simpa [isOfNew] using List.all_eq_true.mp gone copied among
  · obtain ⟨played, reached, rest⟩ := Option.bind_eq_some_iff.mp
      (show ((play .sample (prepared.take 1) .empty).bind fun played =>
        ((database .sample).execute ((rotateFirst (some secondKeypair.2)).script .sample)
          (rotationEvents firstKeypair.1) played.2).map foreignAddress) = some true by
        decide +kernel)
    obtain ⟨execution, executed, foreign⟩ := Option.map_eq_some_iff.mp rest
    have run : Run (performs .sample) .empty played.1 played.2 := play_run reached
    have done : performs .sample played.2 ⟨rotateFirst (some secondKeypair.2),
      rotationEvents firstKeypair.1, execution.exchanges, execution.outcome⟩ execution.state := executed
    refine ⟨execution.state, ⟨_, Run.next run done⟩, ?_⟩
    intro matched
    obtain ⟨key, present, fields⟩ := (Option.any_eq_true _ _).mp foreign
    simp only [Bool.and_eq_true, decide_eq_true_eq] at fields
    obtain ⟨⟨active, address⟩, encrypted⟩ := fields
    obtain ⟨secret, decrypted, same⟩ := matched key (List.mem_of_getElem? present) active
    rw [encrypted, address] at *
    have drawn : KeyVault.wrapping.decrypt (KeyVault.wrapping.encrypt firstKeypair.1 firstKeypair.1) =
        .ok secret := decrypted
    rw [KeyVault.decrypt_encrypt] at drawn
    cases drawn
    have different : Platform.sample.publicKey firstKeypair.1 ≠ secondKeypair.2 := by decide +kernel
    exact different same

end ProxyPay.Recovery
