import ProxyPay.Recovery.Sequence

/-! Calls one at a time: what a completed session rests on, and how often a key is recovered. -/

namespace ProxyPay.Recovery

open ProxyPay.Library

/-- What happens to a row of a key: it keeps its keypair, and it is never made active. -/
structure KeyKept (key later : ManagedKey) : Prop where
  publicKey : later.publicKey = key.publicKey
  encryptedSecret : later.encryptedSecret = key.encryptedSecret
  active : later.isActive = true → key.isActive = true

theorem KeyKept.refl (key : ManagedKey) : KeyKept key key :=
  ⟨rfl, rfl, fun active => active⟩

theorem KeyKept.deactivate (key : ManagedKey) : KeyKept key key.deactivate :=
  ⟨rfl, rfl, nofun⟩

theorem key_of_modify {keys more : List ManagedKey} {target keyId : KeyId} {key : ManagedKey}
    {change : ManagedKey → ManagedKey} (keeps : ∀ key, KeyKept key (change key))
    (present : keys[keyId]? = some key) :
    ∃ later, (keys.modify target change ++ more)[keyId]? = some later ∧ KeyKept key later := by
  obtain ⟨inside, _⟩ := List.getElem?_eq_some_iff.mp present
  refine ⟨if target = keyId then change key else key, ?_, ?_⟩
  · grind
  · split
    · exact keeps key
    · exact .refl key

section Keys

variable {platform : Platform} {store after : Store} {keyId : KeyId} {key : ManagedKey}
variable {drawn : String} {event : Event} {statement : Statement} {reply : statement.Reply}

theorem perform_key (accepted : store.perform platform drawn statement = .ok (reply, after))
    (present : store.managedKeys[keyId]? = some key) :
    ∃ later, after.managedKeys[keyId]? = some later ∧ KeyKept key later := by
  cases statement with
  | insertKey values =>
    obtain ⟨inserted, added, same⟩ := bind_ok.mp accepted
    obtain ⟨publicKey, _, rfl⟩ := Store.insertKey_ok added
    cases pure_ok.mp same
    obtain ⟨inside, _⟩ := List.getElem?_eq_some_iff.mp present
    exact ⟨key, (List.getElem?_append_left inside).trans present, .refl key⟩
  | updateThreshold target newThreshold =>
    obtain ⟨updated, done, same⟩ := bind_ok.mp accepted
    cases pure_ok.mp same
    cases Store.updateThreshold_ok done
    obtain ⟨later, found, kept⟩ := @key_of_modify _ [] target _ _
      (fun key => { key with recoveryThreshold := newThreshold })
      (fun _ => ⟨rfl, rfl, fun active => active⟩) present
    exact ⟨later, by simpa using found, kept⟩
  | replaceKey target values completed =>
    obtain ⟨replaced, done, same⟩ := bind_ok.mp accepted
    cases pure_ok.mp same
    obtain ⟨_, _, stored, _, keys⟩ := replaceKey_after done
    rw [keys]
    exact key_of_modify KeyKept.deactivate present
  | _ =>
    rw [(Store.perform_frame accepted).2.1 rfl]
    exact ⟨key, present, .refl key⟩

/-- The key is no longer active. -/
def Store.Retired (store : Store) (keyId : KeyId) : Prop :=
  ∃ key, store.managedKeys[keyId]? = some key ∧ key.isActive = false

theorem next_retired (retired : store.Retired keyId) :
    ((database platform).next store event statement).Retired keyId := by
  apply kept_by_next (fun after => after.Retired keyId) retired
  intro reply after accepted
  obtain ⟨key, present, inactive⟩ := retired
  obtain ⟨later, found, kept⟩ := perform_key accepted present
  refine ⟨later, found, ?_⟩
  cases active : later.isActive with
  | false => rfl
  | true =>
    rw [kept.active active] at inactive
    cases inactive

end Keys

/-- A call of `initiateRecovery` that handed this token for this session out to the signer. -/
def Entry.issued (keyId : KeyId) (id : SessionId) (signer token : String) (entry : Entry) : Prop :=
  (∃ given, entry.operation = .initiateRecovery keyId signer given) ∧
    ∃ expiresAt, entry.outcome = .ok (.tokenIssued token expiresAt id)

/-- In this run the signer, who was registered then, has signed a token of this very session. -/
def ApprovedIn (platform : Platform) (trace : List Entry) (keyId : KeyId) (id : SessionId) (signer : String) : Prop :=
  ∃ earlier entry rest before, trace = earlier ++ entry :: rest ∧
    Run (performs platform) .empty earlier before ∧
    ∃ token signature ip, entry.operation = .approveRecovery keyId id token signature signer ip ∧
      before.Registered keyId signer ∧ platform.verify signer token signature = .ok true ∧
      ∃ issuing ∈ earlier, issuing.issued keyId id signer token

/-- A call of `completeRecovery` that has replaced this key. -/
def Entry.recovers (keyId : KeyId) (entry : Entry) : Bool :=
  match entry.operation with
  | .completeRecovery target _ _ => target = keyId && entry.exchanges.any replacing
  | _ => false

/-- Each call of `approveRecovery` whose token the database would take was given a token that was
handed out for the session that it names. -/
def OwnTokens (platform : Platform) (trace : List Entry) : Prop :=
  ∀ earlier entry rest before, trace = earlier ++ entry :: rest →
    Run (performs platform) .empty earlier before →
    ∀ keyId id token signature signer ip,
      entry.operation = .approveRecovery keyId id token signature signer ip →
      (before.unusedToken keyId (platform.sha256 token) signer).isSome = true →
      ∃ issuing ∈ earlier, issuing.issued keyId id signer token

/-- A completed session rests on as many approvals by different signers as it requires. -/
def Supported (platform : Platform) (trace : List Entry) (store : Store) : Prop :=
  ∀ (id : SessionId) session, store.sessions[id]? = some session → session.state = .completed →
    ∃ signers : List String, signers.Nodup ∧ session.requiredApprovals ≤ signers.length ∧
      ∀ signer ∈ signers, ApprovedIn platform trace session.managedKeyId id signer

/-- A session that is over stays as it is. -/
def Final (platform : Platform) (store : Store) : Prop :=
  ∀ entry after, performs platform store entry after →
    ∀ (id : SessionId) session, store.sessions[id]? = some session → session.state.terminal = true →
      after.sessions[id]? = some session

section Steps

variable {platform : Platform} {trace : List Entry} {before after : Store} {entry : Entry}

theorem final (store : Store) : Final platform store := by
  intro entry after done id session present ended
  have inside : id < after.sessions.length := by
    obtain ⟨inside, _⟩ := List.getElem?_eq_some_iff.mp present
    exact Nat.lt_of_lt_of_le inside (performs_sessions_length done)
  have found := List.getElem?_eq_getElem inside
  rcases performs_session done found with ⟨old, same, step⟩ | ⟨absent, _⟩
  · rw [present] at same
    cases same
    have kept : after.sessions[id] = session := by
      generalize after.sessions[id] = later at step
      cases step with
      | kept => rfl
      | approved keyId token signature signer ip called approvable =>
        rw [approvable.nonterminal] at ended
        cases ended
      | rejected reason nonterminal => simp_all
      | completed newPublicKey awaiting =>
        rw [awaiting] at ended
        cases ended
    rw [found, kept]
  · rw [present] at absent
    cases absent

variable {id : SessionId}

theorem ApprovedIn.later {keyId : KeyId} {signer : String}
    (approved : ApprovedIn platform trace keyId id signer) (more : List Entry) :
    ApprovedIn platform (trace ++ more) keyId id signer := by
  obtain ⟨earlier, entry, rest, before, split, run, signed⟩ := approved
  exact ⟨earlier, entry, rest ++ more, before, by simp [split], run, signed⟩

/-- What the approvals of a session rest on. -/
structure Approvals (platform : Platform) (trace : List Entry) (id : SessionId)
    (session : RecoverySession) : Prop where
  nodup : session.approvedBy.Nodup
  approved : ∀ signer ∈ session.approvedBy,
    ApprovedIn platform trace session.managedKeyId id signer
  enough : session.state = .awaitingCompletion ∨ session.state = .completed →
    session.requiredApprovals ≤ session.approvedBy.length

variable {session : RecoverySession}

theorem Approvals.later (approvals : Approvals platform trace id session) (more : List Entry) :
    Approvals platform (trace ++ more) id session :=
  ⟨approvals.nodup, fun signer member => (approvals.approved signer member).later more,
    approvals.enough⟩

theorem Approvals.step {old : RecoverySession}
    (run : Run (performs platform) .empty trace before) (own : OwnTokens platform (trace ++ [entry]))
    (approvals : Approvals platform trace id old)
    (step : SessionStep platform before entry.operation id old session) :
    Approvals platform (trace ++ [entry]) id session := by
  cases step with
  | kept => exact approvals.later [entry]
  | approved keyId token signature signer ip called approvable =>
    obtain ⟨issuing, issuedEarlier, issued⟩ :=
      own trace entry [] before rfl run keyId id token signature signer ip called approvable.unused
    have signed : ApprovedIn platform (trace ++ [entry]) old.managedKeyId id signer := by
      rw [approvable.owned]
      exact ⟨trace, entry, [], before, rfl, run, token, signature, ip, called, approvable.registered,
        approvable.verified, issuing, issuedEarlier, issued⟩
    constructor
    · exact List.nodup_append'.mpr ⟨approvals.nodup, List.nodup_singleton _, by simp [approvable.fresh]⟩
    · exact forall_mem_append_singleton (fun other member => (approvals.approved other member).later [entry]) signed
    · intro reached
      by_cases enough : old.requiredApprovals ≤ (old.approvedBy ++ [signer]).length
      · exact enough
      · have state : (old.approve signer).state = .collectingApprovals := if_neg enough
        rw [state] at reached
        simp at reached
  | rejected reason nonterminal =>
    have later := approvals.later [entry]
    exact ⟨later.nodup, later.approved, by simp [RecoverySession.reject]⟩
  | completed newPublicKey awaiting =>
    have later := approvals.later [entry]
    exact ⟨later.nodup, later.approved, fun _ => later.enough (.inl awaiting)⟩

/-- A key that was recovered is not active, and it was recovered once. -/
structure RecoveredOnce (trace : List Entry) (store : Store) : Prop where
  retired : ∀ keyId, 0 < trace.countP (Entry.recovers keyId) → store.Retired keyId
  once : ∀ keyId, trace.countP (Entry.recovers keyId) ≤ 1

theorem recovers_active {keyId : KeyId} (done : performs platform before entry after)
    (recovers : entry.recovers keyId = true) :
    (∃ key, before.activeKey keyId = some key) ∧ after.Retired keyId := by
  obtain ⟨operation, events, exchanges, outcome⟩ := entry
  cases operation with
  | completeRecovery target id ip =>
    obtain ⟨rfl, replaced⟩ : target = keyId ∧ exchanges.any replacing = true := by
      simpa [Entry.recovers] using recovers
    cases ensured (completeRecovery_ensures ip) done with
    | untouched sessions keys kept | expired session reason present awaiting sessions keys kept => simp_all
    | completed session newPublicKey key secret randomness stored present awaiting sessions result =>
      refine ⟨⟨key, result.active⟩, ?_⟩
      obtain ⟨there, _⟩ := Option.filter_eq_some_iff.mp result.active
      have inside := (List.getElem?_eq_some_iff.mp there).choose
      refine ⟨key.deactivate, ?_, rfl⟩
      rw [result.keys, List.getElem?_append_left (by simpa using inside), List.getElem?_modify, there]
      simp
  | _ => cases recovers

theorem RecoveredOnce.step (recovered : RecoveredOnce trace before)
    (done : performs platform before entry after) : RecoveredOnce (trace ++ [entry]) after := by
  have retires {keyId : KeyId} (retired : before.Retired keyId) : after.Retired keyId := by
    have ensures : (database platform).Ensures before (entry.operation.script platform) fun ended =>
        ended.state.Retired keyId :=
      Server.Ensures.keeps (fun store : Store => store.Retired keyId)
        (script_asks platform entry.operation) (fun _ _ _ _ => next_retired) retired
    exact ensured ensures done
  have first {keyId : KeyId} (recovers : entry.recovers keyId = true) :
      trace.countP (Entry.recovers keyId) = 0 := by
    apply Nat.eq_zero_of_not_pos
    intro already
    obtain ⟨⟨key, active⟩, _⟩ := recovers_active done recovers
    obtain ⟨other, there, inactive⟩ := recovered.retired keyId already
    obtain ⟨present, isActive⟩ := Option.filter_eq_some_iff.mp active
    rw [there] at present
    cases present
    rw [inactive] at isActive
    cases isActive
  constructor
  · intro keyId positive
    by_cases recovers : entry.recovers keyId = true
    · exact (recovers_active done recovers).2
    · apply retires
      apply recovered.retired
      simpa [List.countP_append, recovers] using positive
  · intro keyId
    by_cases recovers : entry.recovers keyId = true
    · simp [List.countP_append, recovers, first recovers]
    · simpa [List.countP_append, recovers] using recovered.once keyId

theorem approvals_of_pending (pending : session.state = .pending) (nobody : session.approvedBy = []) :
    Approvals platform trace id session := by
  constructor
  · simp [nobody]
  · simp [nobody]
  · simp [pending]

theorem run_approvals (run : Run (performs platform) .empty trace after) (own : OwnTokens platform trace) :
    ∀ (id : SessionId) session, after.sessions[id]? = some session → Approvals platform trace id session := by
  induction run with
  | start =>
    intro id session found
    simp [Store.empty] at found
  | @next trace middle last entry earlier move ih =>
    intro id session found
    have before : OwnTokens platform trace := by
      intro first entry' rest store split
      exact own first entry' (rest ++ [entry]) store (by simp [split])
    rcases performs_session move found with ⟨old, present, step⟩ | ⟨_, pending, nobody⟩
    · exact (ih before id old present).step earlier own step
    · exact approvals_of_pending pending nobody

theorem run_recovered (run : Run (performs platform) .empty trace after) : RecoveredOnce trace after := by
  apply run.invariant RecoveredOnce
  · constructor <;> simp
  · exact fun _ _ _ _ recovered done => recovered.step done

end Steps

/-- In a run in which every approval submits a token that was handed out for its session, a session
is completed only on enough approvals. In every run, a session that is over stays as it is, and a
key is recovered at most once. -/
theorem recovery_needs_approvals {platform : Platform} {trace : List Entry} {last : Store}
    (run : Run (performs platform) .empty trace last) (own : OwnTokens platform trace) :
    Supported platform trace last ∧ Final platform last ∧ ∀ keyId, trace.countP (Entry.recovers keyId) ≤ 1 := by
  refine ⟨?_, final last, (run_recovered run).once⟩
  intro id session found completed
  have approvals := run_approvals run own id session found
  exact ⟨session.approvedBy, approvals.nodup, approvals.enough (.inr completed), approvals.approved⟩

/-- A call that meets no fault, with the number of its statements and what it draws. -/
abbrev Call := Operation × Nat × String

/-- The calls are executed one after the other. -/
def play (platform : Platform) : List Call → Store → Option (List Entry × Store)
  | [], store => some ([], store)
  | (operation, count, drawn) :: calls, store =>
    let events := List.replicate count ⟨0, none, drawn⟩
    ((database platform).execute (operation.script platform) events store).bind fun execution =>
      (play platform calls execution.state).map fun played =>
        (⟨operation, events, execution.exchanges, execution.outcome⟩ :: played.1, played.2)

theorem play_run {platform : Platform} {calls : List Call} {store last : Store} {trace : List Entry}
    (played : play platform calls store = some (trace, last)) :
    Run (performs platform) store trace last := by
  induction calls generalizing store trace last with
  | nil =>
    cases played
    exact .start
  | cons call calls ih =>
    obtain ⟨operation, count, drawn⟩ := call
    obtain ⟨execution, executed, rest⟩ := Option.bind_eq_some_iff.mp played
    obtain ⟨⟨entries, after⟩, continued, same⟩ := Option.map_eq_some_iff.mp rest
    obtain ⟨rfl, rfl⟩ := Prod.mk.inj same
    exact Run.append (Run.next .start executed) (ih continued)

/-- A key with one signer, and a session that is open. -/
def prepared : List Call :=
  [(.createManagedKey "user-1" 1, 3, firstKeypair.1),
    (.addRecoverySigner 0 "user-1" alice.signerPublicKey "Alice", 4, ""),
    (.openRecoverySession 0 none none, 5, "")]

def issueToken (id : SessionId) : Call :=
  (.initiateRecovery 0 alice.signerPublicKey (some id), 8, alice.token)

def approveAndComplete (id : SessionId) : List Call :=
  [(.approveRecovery 0 id alice.token alice.signature alice.signerPublicKey none, 8, ""),
    (.completeRecovery 0 id none, 8, secondKeypair.1)]

def recovery : List Call :=
  prepared ++ [issueToken 0] ++ approveAndComplete 0

/-- The session for which the token was issued is cancelled, and another one is opened. -/
def cancelledAndReopened : List Call :=
  prepared ++ [issueToken 0, (.cancelRecoverySession 0 0 "Cancelled by user" none, 4, ""),
    (.openRecoverySession 0 none none, 5, "")] ++ approveAndComplete 1

/-- The session is completed on one approval, and no call has issued a token for it. -/
def completedUnissued (id : SessionId) (played : List Entry × Store) : Bool :=
  (played.2.sessions[id]?.any fun session =>
    session.state = .completed && session.requiredApprovals = 1) &&
  played.1.all fun entry =>
    match entry.outcome with
    | .ok (.tokenIssued _ _ session) => session ≠ id
    | _ => true

variable {id : SessionId}

theorem not_supported {platform : Platform} {played : List Entry × Store}
    (unissued : completedUnissued id played = true) : ¬ Supported platform played.1 played.2 := by
  intro supported
  obtain ⟨completed, nothing⟩ := Bool.and_eq_true_iff.mp unissued
  obtain ⟨session, found, ended⟩ := (Option.any_eq_true _ _).mp completed
  obtain ⟨state, required⟩ := Bool.and_eq_true_iff.mp ended
  obtain ⟨signers, _, enough, approved⟩ := supported id session found (of_decide_eq_true state)
  rw [of_decide_eq_true required] at enough
  cases signers with
  | nil => simp at enough
  | cons signer signers =>
    obtain ⟨earlier, entry, rest, before, split, _, token, _, _, _, _, _, issuing, member, _, expiresAt,
      issued⟩ := approved signer List.mem_cons_self
    have same := List.all_eq_true.mp nothing issuing (by simp [split, member])
    simp [issued] at same

/-- A decidable form of `Entry.issued`. -/
def Entry.issues (keyId : KeyId) (id : SessionId) (signer token : String) (entry : Entry) : Bool :=
  match entry.operation, entry.outcome with
  | .initiateRecovery key asking _, .ok (.tokenIssued issued _ session) =>
    key = keyId && asking = signer && issued = token && session = id
  | _, _ => false

theorem Entry.issued_of_issues {keyId : KeyId} {signer token : String}
    {entry : Entry} (issues : entry.issues keyId id signer token = true) :
    entry.issued keyId id signer token := by
  unfold Entry.issues at issues
  split at issues
  · rename_i key asking given issued expiresAt session called returned
    simp only [Bool.and_eq_true, decide_eq_true_eq] at issues
    obtain ⟨⟨⟨rfl, rfl⟩, rfl⟩, rfl⟩ := issues
    exact ⟨⟨given, called⟩, expiresAt, returned⟩
  · cases issues

/-- Every approval comes after a call that issued its token for its session. -/
def approvesOwn (entries : List Entry) : Bool :=
  (List.range entries.length).all fun index =>
    match entries[index]?.map Entry.operation with
    | some (.approveRecovery keyId id token _ signer _) =>
      (entries.take index).any (Entry.issues keyId id signer token)
    | _ => true

theorem ownTokens_of_approvesOwn {platform : Platform} {trace : List Entry}
    (own : approvesOwn trace = true) : OwnTokens platform trace := by
  intro earlier entry rest before split _ keyId id token signature signer ip called _
  subst split
  have issuedBefore := List.all_eq_true.mp own earlier.length (by simp)
  simp only [List.getElem?_append_right (Nat.le_refl earlier.length), Nat.sub_self,
    List.getElem?_cons_zero, Option.map_some, called, List.take_left'] at issuedBefore
  obtain ⟨issuing, member, issues⟩ := List.any_eq_true.mp issuedBefore
  exact ⟨issuing, member, Entry.issued_of_issues issues⟩

theorem recovered_on_own_token : ∃ trace last,
    Run (performs .sample) .empty trace last ∧ Supported .sample trace last ∧ Final .sample last ∧
      trace.countP (Entry.recovers 0) = 1 := by
  obtain ⟨⟨trace, last⟩, reached, checked⟩ := Option.map_eq_some_iff.mp
    (show (play .sample recovery .empty).map
        (fun played => (approvesOwn played.1, played.1.countP (Entry.recovers 0))) = some (true, 1) by
      decide +kernel)
  obtain ⟨own, once⟩ := Prod.mk.inj checked
  have run : Run (performs .sample) .empty trace last := play_run reached
  obtain ⟨supported, ended, _⟩ := recovery_needs_approvals run (ownTokens_of_approvesOwn own)
  exact ⟨trace, last, run, supported, ended, once⟩

theorem cancelled_token_approves : ∃ trace last,
    Run (performs .sample) .empty trace last ∧ ¬ Supported .sample trace last := by
  obtain ⟨played, reached, unissued⟩ := Option.map_eq_some_iff.mp
    (show (play .sample cancelledAndReopened .empty).map (completedUnissued 1) = some true by
      decide +kernel)
  exact ⟨played.1, played.2, play_run reached, not_supported unissued⟩

end ProxyPay.Recovery
