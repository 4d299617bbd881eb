import ProxyPay.Recovery.Service

/-! Calls that are executed one at a time, with whatever faults they meet, and what each of them
can do to the sessions and to the keys. -/

namespace ProxyPay.Recovery

open ProxyPay.Library

/-- A call with what it met, what it exchanged and how it ended. -/
structure Entry where
  operation : Operation
  events : List Event
  exchanges : List Answered
  outcome : Except String Result

def performs (platform : Platform) (before : Store) (entry : Entry) (after : Store) : Prop :=
  (database platform).execute (entry.operation.script platform) entry.events before =
    some ⟨entry.exchanges, entry.outcome, after⟩

/-- How a call ended, with its exchanges and what it left. -/
abbrev Ended := Execution Statement Statement.Reply String

/-- What is said of a call with one more exchange in front. -/
abbrev behind {α : Type} (exchange : Exchange Statement Statement.Reply String) (post : Ended α Store → Prop)
    (ended : Ended α Store) : Prop :=
  post ⟨exchange :: ended.exchanges, ended.outcome, ended.state⟩

section Rules

variable {platform : Platform} {store : Store} {α : Type} {statement : Statement}
variable {next : statement.Reply → Work α} {post : Ended α Store → Prop}

theorem ensures_write (refused : ∀ elapsed error,
      post ⟨[⟨statement, .error error, false⟩], .error error, store.tick elapsed⟩)
    (lost : ∀ elapsed drawn reply after error,
      (store.tick elapsed).perform platform drawn statement = .ok (reply, after) →
      post ⟨[⟨statement, .error error, true⟩], .error error, after⟩)
    (answered : ∀ elapsed drawn reply after,
      (store.tick elapsed).perform platform drawn statement = .ok (reply, after) →
      (database platform).Ensures after (next reply) (behind ⟨statement, .ok reply, true⟩ post)) :
    (database platform).Ensures store ((ask statement).bind next) post := by
  intro events execution executed
  obtain ⟨event, later, continued, _, done, rfl⟩ := Server.execute_await executed
  unfold Server.exchange at done ⊢
  unfold Server.next at done
  rcases @served_cases platform store event statement with
    ⟨reply, after, accepted, same | same⟩ | ⟨message, same⟩
  · have served : (database platform).serve store event statement = (.ok reply, true, after) := same
    rw [served] at done ⊢
    exact answered _ _ _ _ accepted _ _ done
  · have served : (database platform).serve store event statement =
      (.error connectionLost, true, after) := same
    rw [served] at done ⊢
    rw [Server.execute_done done]
    exact lost _ _ _ _ _ accepted
  · have served : (database platform).serve store event statement =
      (.error message, false, store.tick event.elapsed) := same
    rw [served] at done ⊢
    rw [Server.execute_done done]
    exact refused _ _

/-- It leaves the tables of keys, signers and sessions as they were. -/
structure Untouched (store : Store) (ended : Ended α Store) : Prop where
  sessions : ended.state.sessions = store.sessions
  keys : ended.state.managedKeys = store.managedKeys
  signers : ended.state.recoverySigners = store.recoverySigners
  plain : ∀ exchange ∈ ended.exchanges, exchange.tookEffect = true → exchange.request.plain = true

/-- A call may stop here. -/
def MayStop (store : Store) (post : Ended α Store → Prop) : Prop :=
  ∀ ended, Untouched store ended → post ended

theorem Untouched.here (outcome : Except String α) : Untouched store (⟨[], outcome, store⟩ : Ended α Store) :=
  ⟨rfl, rfl, rfl, by simp⟩

theorem Untouched.cons {after : Store} {ended : Ended α Store} (later : Untouched after ended)
    (exchange : Answered) (first : exchange.request.plain = true) (sessions : after.sessions = store.sessions)
    (keys : after.managedKeys = store.managedKeys)
    (signers : after.recoverySigners = store.recoverySigners) :
    Untouched store (⟨exchange :: ended.exchanges, ended.outcome, ended.state⟩ : Ended α Store) := by
  refine ⟨later.sessions.trans sessions, later.keys.trans keys, later.signers.trans signers, ?_⟩
  intro other member took
  rcases List.mem_cons.mp member with rfl | member
  · exact first
  · exact later.plain other member took

theorem Store.perform_plain {drawn : String} {reply : statement.Reply} {after : Store} (plain : statement.plain = true)
    (accepted : store.perform platform drawn statement = .ok (reply, after)) :
    after.sessions = store.sessions ∧ after.managedKeys = store.managedKeys ∧
      after.recoverySigners = store.recoverySigners := by
  obtain ⟨sessions, keys, signers⟩ := Store.perform_frame accepted
  simp only [Statement.plain, Bool.and_eq_true, Bool.not_eq_true'] at plain
  exact ⟨sessions plain.1.1, keys plain.1.2, signers plain.2⟩

theorem ensures_plain (plain : statement.plain = true) (stops : MayStop store post)
    (answered : ∀ elapsed drawn reply after,
      (store.tick elapsed).perform platform drawn statement = .ok (reply, after) →
      MayStop after (behind ⟨statement, .ok reply, true⟩ post) →
      (database platform).Ensures after (next reply) (behind ⟨statement, .ok reply, true⟩ post)) :
    (database platform).Ensures store ((ask statement).bind next) post := by
  have stopped (exchange : Answered) (error : String) (after : Store)
      (asked : exchange.request = statement) (sessions : after.sessions = store.sessions)
      (keys : after.managedKeys = store.managedKeys)
      (signers : after.recoverySigners = store.recoverySigners) :
      post ⟨[exchange], .error error, after⟩ := by
    apply stops
    refine ⟨sessions, keys, signers, ?_⟩
    intro other member _
    rw [List.mem_singleton.mp member, asked]
    exact plain
  refine ensures_write ?_ ?_ ?_
  · intro elapsed error
    exact stopped ⟨statement, .error error, false⟩ error (store.tick elapsed) rfl rfl rfl rfl
  · intro elapsed drawn reply after error accepted
    obtain ⟨sessions, keys, signers⟩ := Store.perform_plain plain accepted
    exact stopped ⟨statement, .error error, true⟩ error after rfl sessions keys signers
  · intro elapsed drawn reply after accepted
    obtain ⟨sessions, keys, signers⟩ := Store.perform_plain plain accepted
    apply answered elapsed drawn reply after accepted
    intro ended untouched
    exact stops _ (untouched.cons ⟨statement, .ok reply, true⟩ plain sessions keys signers)

theorem ensures_check {β : Type} {result : Except String β} {next : β → Work α} (stops : MayStop store post)
    (passed : ∀ value, result = .ok value → (database platform).Ensures store (next value) post) :
    (database platform).Ensures store ((Script.check result).bind next) post := by
  refine Server.Ensures.check_bind ?_ passed
  intro error _
  exact stops _ (.here _)

theorem untouched_of_plain {script : Work α} (asks : script.Asks fun statement => statement.plain = true) :
    (database platform).Ensures store script (Untouched store) := by
  induction script generalizing store with
  | done outcome => exact Server.Ensures.done (.here outcome)
  | await request rest ih =>
    intro events execution executed
    obtain ⟨event, later, continued, _, done, rfl⟩ := Server.execute_await executed
    have frame : ((database platform).next store event request).sessions = store.sessions ∧
        ((database platform).next store event request).managedKeys = store.managedKeys ∧
        ((database platform).next store event request).recoverySigners = store.recoverySigners :=
      kept_by_next (fun after => after.sessions = store.sessions ∧
        after.managedKeys = store.managedKeys ∧ after.recoverySigners = store.recoverySigners)
        ⟨rfl, rfl, rfl⟩ fun _ _ => Store.perform_plain asks.1
    have untouched := ih _ (asks.2 _) _ _ done
    exact untouched.cons ((database platform).exchange store event request) asks.1 frame.1 frame.2.1
      frame.2.2

end Rules

section Parts

variable {platform : Platform} {store : Store} {keyId : KeyId} {id : SessionId}
variable {α : Type} {post : Ended α Store → Prop}

section

variable (stops : MayStop store post)

include stops

theorem ensures_getRecoverySession {next : RecoverySession → Work α} (found : ∀ elapsed session, store.sessions[id]? = some session →
      MayStop (store.tick elapsed) (behind ⟨.selectSession id, .ok (some session), true⟩ post) →
      (database platform).Ensures (store.tick elapsed) (next session) (behind ⟨.selectSession id, .ok (some session), true⟩ post)) :
    (database platform).Ensures store ((getRecoverySession id).bind next) post := by
  unfold getRecoverySession
  change (database platform).Ensures store (((ask _).bind _).bind next) post
  rw [Script.bind_assoc]
  refine ensures_plain rfl stops ?_
  intro elapsed drawn row after accepted stops
  cases accepted
  refine ensures_check stops ?_
  intro session present
  have present := orThrow_ok.mp present
  rw [present] at stops ⊢
  exact found elapsed session present stops

theorem ensures_assertSessionActive {session : RecoverySession} {next : Unit → Work α} (active : ∀ elapsed now, session.state.terminal = false → MayStop (store.tick elapsed) (behind ⟨.readClock, .ok now, true⟩ post) →
      (database platform).Ensures (store.tick elapsed) (next ()) (behind ⟨.readClock, .ok now, true⟩ post)) :
    (database platform).Ensures store ((assertSessionActive session).bind next) post := by
  unfold assertSessionActive
  change (database platform).Ensures store (((Script.check _).bind _).bind next) post
  rw [Script.bind_assoc]
  refine ensures_check stops ?_
  intro _ nonterminal
  change (database platform).Ensures store (((ask _).bind _).bind next) post
  rw [Script.bind_assoc]
  refine ensures_plain rfl stops ?_
  intro elapsed drawn now after accepted stops
  cases accepted
  refine ensures_check stops ?_
  intro _ _
  exact active elapsed _ (require_ok.mp nonterminal) stops

theorem ensures_getActiveManagedKeyById {next : ManagedKey → Work α} (found : ∀ elapsed key, store.activeKey keyId = some key →
      MayStop (store.tick elapsed) (behind ⟨.selectActiveKey keyId, .ok (some key), true⟩ post) →
      (database platform).Ensures (store.tick elapsed) (next key) (behind ⟨.selectActiveKey keyId, .ok (some key), true⟩ post)) :
    (database platform).Ensures store ((getActiveManagedKeyById keyId).bind next) post := by
  unfold getActiveManagedKeyById
  change (database platform).Ensures store (((ask _).bind _).bind next) post
  rw [Script.bind_assoc]
  refine ensures_plain rfl stops ?_
  intro elapsed drawn row after accepted stops
  cases accepted
  refine ensures_check stops ?_
  intro key present
  have present := orThrow_ok.mp present
  have same : (store.tick elapsed).activeKey keyId = some key := present
  rw [same] at stops ⊢
  exact found elapsed key present stops

theorem ensures_getManagedKey {userId : String} {next : ManagedKey → Work α} (found : ∀ elapsed key, store.activeKey keyId = some key → key.userId = userId →
      MayStop (store.tick elapsed) (behind ⟨.selectKey keyId userId, .ok (some key), true⟩ post) →
      (database platform).Ensures (store.tick elapsed) (next key) (behind ⟨.selectKey keyId userId, .ok (some key), true⟩ post)) :
    (database platform).Ensures store ((getManagedKey keyId userId).bind next) post := by
  unfold getManagedKey
  change (database platform).Ensures store (((ask _).bind _).bind next) post
  rw [Script.bind_assoc]
  refine ensures_plain rfl stops ?_
  intro elapsed drawn row after accepted stops
  cases accepted
  refine ensures_check stops ?_
  intro key present
  have present := orThrow_ok.mp present
  rw [present] at stops ⊢
  obtain ⟨active, owner⟩ := Option.filter_eq_some_iff.mp present
  exact found elapsed key active (of_decide_eq_true owner) stops

end

end Parts

/-- The exchange has replaced a key. -/
def replacing : Answered → Bool
  | ⟨.replaceKey .., _, tookEffect⟩ => tookEffect
  | _ => false

/-- The secret of a new keypair. -/
def drawnSecret : Answered → Option String
  | ⟨.randomKeypair, .ok secret, _⟩ => some secret
  | _ => none

theorem not_replacing {exchange : Answered} (plain : exchange.tookEffect = true → exchange.request.plain = true) :
    replacing exchange = false := by
  obtain ⟨request, reply, tookEffect⟩ := exchange
  cases request with
  | replaceKey keyId values completed =>
    cases tookEffect with
    | false => rfl
    | true => simp [Statement.plain, Statement.writesKeys] at plain
  | _ => rfl

theorem Untouched.not_replacing {store : Store} {α : Type} {ended : Ended α Store}
    (untouched : Untouched store ended) : ended.exchanges.any replacing = false := by
  apply List.any_eq_false.mpr
  intro exchange member
  simp [Recovery.not_replacing (untouched.plain exchange member)]

def ManagedKey.deactivate (key : ManagedKey) : ManagedKey :=
  { key with isActive := false }

/-- An active key has been replaced by one whose public key is the requested address, if there is
one, and the drawn one otherwise. -/
structure Replaced (platform : Platform) (store : Store) (keyId : KeyId) (address : Option String)
    (key : ManagedKey) (secret randomness : String) (stored : Varchar 56)
    (exchanges : List Answered) (keys : List ManagedKey) : Prop where
  replaced : exchanges.any replacing = true
  active : store.activeKey keyId = some key
  drawn : exchanges.findSome? drawnSecret = some secret
  address : Varchar.store (address.getD (platform.publicKey secret)) = some stored
  keys : keys = store.managedKeys.modify keyId ManagedKey.deactivate ++
    [⟨key.userId, stored, platform.vault.encrypt secret randomness, key.recoveryThreshold, true⟩]


/-- The signer may approve the session with this token. -/
structure Approvable (platform : Platform) (store : Store) (keyId : KeyId) (id : SessionId)
    (token signature signer : String) (session : RecoverySession) : Prop where
  present : store.sessions[id]? = some session
  owned : session.managedKeyId = keyId
  nonterminal : session.state.terminal = false
  fresh : signer ∉ session.approvedBy
  registered : store.Registered keyId signer
  unused : (store.unusedToken keyId (platform.sha256 token) signer).isSome = true
  verified : platform.verify signer token signature = .ok true

/-- The session with one approval more. -/
def RecoverySession.approve (signer : String) (session : RecoverySession) : RecoverySession :=
  { session with
    approvedBy := session.approvedBy ++ [signer]
    state := afterApproval session (session.approvedBy ++ [signer]) }

variable {signer : String}

theorem unused_of_live {store : Store} {keyId : KeyId} {tokenHash : String}
    (live : (store.liveToken keyId tokenHash signer).isSome = true) :
    (store.unusedToken keyId tokenHash signer).isSome = true := by
  rw [Store.liveToken, List.find?_isSome] at live
  obtain ⟨token, member, matched⟩ := live
  rw [Store.unusedToken, List.find?_isSome]
  exact ⟨token, member, by simp_all⟩

theorem registered_of_found {store : Store} {keyId : KeyId} {row : Option RecoverySigner}
    (found : store.recoverySigners.find? (RecoverySigner.isOf keyId signer) = row)
    (some : row.isSome = true) : store.Registered keyId signer := by
  obtain ⟨registered, rfl⟩ := Option.isSome_iff_exists.mp some
  exact ⟨registered, List.mem_of_find?_eq_some found, List.find?_some found⟩

section Effects

variable (platform : Platform) (store : Store) (keyId : KeyId) (id : SessionId)

theorem approveRecovery_ensures (token signature signer : String) (ip : Option String) :
    (database platform).Ensures store (approveRecovery platform keyId id token signature signer ip)
      fun ended => ended.state.sessions = store.sessions ∨
        ∃ session, Approvable platform store keyId id token signature signer session ∧
          ended.state.sessions = store.sessions.set id (session.approve signer) := by
  refine ensures_getRecoverySession (fun _ untouched => .inl untouched.sessions) ?_
  intro _ session present stops
  refine ensures_check stops ?_
  intro _ owned
  refine ensures_assertSessionActive stops ?_
  intro _ now nonterminal stops
  refine ensures_check stops ?_
  intro _ fresh
  refine ensures_plain rfl stops ?_
  intro _ _ row _ accepted stops
  cases accepted
  refine ensures_check stops ?_
  intro _ registered
  refine ensures_plain rfl stops ?_
  intro _ _ token _ accepted stops
  cases accepted
  refine ensures_check stops ?_
  intro _ live
  refine ensures_check stops ?_
  intro isValid verified
  refine ensures_check stops ?_
  intro _ valid
  refine ensures_plain rfl stops ?_
  intro _ _ _ _ accepted _
  cases accepted
  have unused := unused_of_live (require_ok.mp live)
  have approvable : Approvable platform store keyId id token signature signer session :=
    { present
      owned := require_ok.mp owned
      nonterminal
      fresh := require_ok.mp fresh
      registered := registered_of_found rfl (require_ok.mp registered)
      unused
      verified := by rw [verified, require_ok.mp valid] }
  have approved : store.sessions.modify id (fun row =>
      { row with
        approvedBy := session.approvedBy ++ [signer]
        state := afterApproval session (session.approvedBy ++ [signer]) }) =
      store.sessions.set id (session.approve signer) :=
    modify_eq_set_of_some present
  refine ensures_write ?_ ?_ ?_
  · exact fun _ _ => .inl rfl
  · intro _ _ _ _ _ accepted
    cases accepted
    exact .inr ⟨session, approvable, approved⟩
  · intro _ _ _ _ accepted
    cases accepted
    have rest : (writeAuditLog ⟨id, approvalEvent session (session.approvedBy ++ [signer]), some signer,
        some session.state, afterApproval session (session.approvedBy ++ [signer]), ip⟩ >>= fun _ =>
          getRecoverySession id >>= fun updated => pure (.approval true updated) : Work Result).Asks
            fun statement => statement.plain = true :=
      (writeAuditLog_asks fun _ plain => plain).bind fun _ =>
        (getRecoverySession_asks fun _ plain => plain).bind fun _ => .done _
    exact (untouched_of_plain rest).weaken fun ended untouched =>
      .inr ⟨session, approvable, untouched.sessions.trans approved⟩

variable {platform store keyId id}

/-- What the transaction leaves of the sessions. -/
def sessionsAfter (completed : Option SessionId) (before after : List RecoverySession) : Prop :=
  match completed with
  | none => after = before
  | some id => ∃ stored, after = before.modify id fun session =>
      { session with state := .completed, newPublicKey := some stored }

theorem replaceKey_after {values : KeyValues} {completed : Option SessionId} {after : Store}
    (replaced : store.replaceKey keyId values completed = .ok after) :
    after.recoverySigners = store.recoverySigners ∧
    sessionsAfter completed store.sessions after.sessions ∧
    ∃ stored, Varchar.store values.publicKey = some stored ∧
      after.managedKeys = store.managedKeys.modify keyId ManagedKey.deactivate ++
        [⟨values.userId, stored, values.encryptedSecret, values.recoveryThreshold, true⟩] := by
  have sessions := Store.replaceKey_sessions replaced
  obtain ⟨inserted, added, rest⟩ := Store.replaceKey_ok replaced
  obtain ⟨stored, fits, rfl⟩ := Store.insertKey_ok added
  cases completed with
  | none =>
    cases rest
    exact ⟨rfl, sessions, stored, fits, rfl⟩
  | some id =>
    obtain ⟨newPublicKey, same⟩ := rest
    cases same
    exact ⟨rfl, sessions, stored, fits, rfl⟩

theorem replaceManagedKey_ensures {key : ManagedKey} (active : store.activeKey keyId = some key)
    (address : Option String) (completed : Option SessionId) :
    (database platform).Ensures store (replaceManagedKey platform keyId key.userId key address completed) fun ended =>
        Untouched store ended ∨ ended.state.recoverySigners = store.recoverySigners ∧
          sessionsAfter completed store.sessions ended.state.sessions ∧
          ∃ secret randomness stored, Replaced platform store keyId address key secret randomness stored
            ended.exchanges ended.state.managedKeys := by
  refine ensures_plain rfl (fun _ untouched => .inl untouched) ?_
  intro _ secret _ _ accepted stops
  cases accepted
  refine ensures_plain rfl stops ?_
  intro _ randomness _ _ accepted stops
  cases accepted
  refine ensures_plain rfl stops ?_
  intro _ _ _ _ accepted stops
  cases accepted
  refine ensures_write ?_ ?_ ?_
  · intro _ error
    refine stops _ ⟨rfl, rfl, rfl, ?_⟩
    intro exchange member took
    rw [List.mem_singleton.mp member] at took
    cases took
  · intro _ _ _ after error accepted
    obtain ⟨replaced, done, same⟩ := bind_ok.mp accepted
    cases pure_ok.mp same
    obtain ⟨signers, sessions, stored, fits, keys⟩ := replaceKey_after done
    exact .inr ⟨signers, sessions, secret, randomness, stored, rfl, active, rfl, fits, keys⟩
  · intro _ _ _ after accepted
    obtain ⟨replaced, done, same⟩ := bind_ok.mp accepted
    cases pure_ok.mp same
    obtain ⟨signers, sessions, stored, fits, keys⟩ := replaceKey_after done
    refine Server.Ensures.done ?_
    exact .inr ⟨signers, sessions, secret, randomness, stored, rfl, active, rfl, fits, keys⟩

theorem rejectSession_ensures {session : RecoverySession} (present : store.sessions[id]? = some session)
    (reason : String) (ip : Option String) :
    (database platform).Ensures store (rejectSession id reason ip) fun ended =>
      Untouched store ended ∨ ended.state.sessions = store.sessions.set id (session.reject reason) ∧
        ended.state.managedKeys = store.managedKeys ∧ ended.exchanges.any replacing = false := by
  have rejected : store.sessions.modify id (RecoverySession.reject reason) =
      store.sessions.set id (session.reject reason) := modify_eq_set_of_some present
  refine ensures_getRecoverySession (fun _ untouched => .inl untouched) ?_
  intro _ read _ stops
  refine ensures_write ?_ ?_ ?_
  · intro _ error
    refine stops _ ⟨rfl, rfl, rfl, ?_⟩
    intro exchange member took
    rw [List.mem_singleton.mp member] at took
    cases took
  · intro _ _ _ after error accepted
    cases accepted
    exact .inr ⟨rejected, rfl, rfl⟩
  · intro _ _ _ after accepted
    cases accepted
    refine (untouched_of_plain (writeAuditLog_asks fun _ plain => plain)).weaken ?_
    intro ended untouched
    refine .inr ⟨untouched.sessions.trans rejected, untouched.keys, ?_⟩
    simpa [replacing] using untouched.not_replacing

theorem cancelRecoverySession_ensures (reason : String) (ip : Option String) :
    (database platform).Ensures store (cancelRecoverySession keyId id reason ip) fun ended =>
      ended.state.sessions = store.sessions ∨
        ∃ session, store.sessions[id]? = some session ∧ session.state.terminal = false ∧
          ended.state.sessions = store.sessions.set id (session.reject reason) := by
  refine ensures_getRecoverySession (fun _ untouched => .inl untouched.sessions) ?_
  intro elapsed session present stops
  refine ensures_check stops ?_
  intro _ _
  refine ensures_check stops ?_
  intro _ nonterminal
  have present : (store.tick elapsed).sessions[id]? = some session := present
  refine (rejectSession_ensures present reason ip).bind_done ?_
  intro ended outcome rejected
  rcases rejected with untouched | ⟨sessions, _⟩
  · exact .inl untouched.sessions
  · exact .inr ⟨session, present, require_ok.mp nonterminal, sessions⟩

/-- What a completion can do. -/
inductive CompletionEffect (platform : Platform) (store : Store) (keyId : KeyId) (id : SessionId)
    (ended : Ended Result Store) : Prop where
  | untouched (sessions : ended.state.sessions = store.sessions)
      (keys : ended.state.managedKeys = store.managedKeys)
      (kept : ended.exchanges.any replacing = false)
  | expired (session : RecoverySession) (reason : String)
      (present : store.sessions[id]? = some session)
      (awaiting : session.state = .awaitingCompletion)
      (sessions : ended.state.sessions = store.sessions.set id (session.reject reason))
      (keys : ended.state.managedKeys = store.managedKeys)
      (kept : ended.exchanges.any replacing = false)
  | completed (session : RecoverySession) (newPublicKey : Varchar 56) (key : ManagedKey)
      (secret randomness : String) (stored : Varchar 56)
      (present : store.sessions[id]? = some session)
      (awaiting : session.state = .awaitingCompletion)
      (sessions : ended.state.sessions = store.sessions.set id
        { session with state := .completed, newPublicKey := some newPublicKey })
      (replaced : Replaced platform store keyId (session.requestedNewAddress.map Varchar.text) key
        secret randomness stored ended.exchanges ended.state.managedKeys)

section

variable {address : Option String} {key : ManagedKey} {secret randomness : String} {stored : Varchar 56}
  {exchanges : List Answered} {keys : List ManagedKey}

theorem Replaced.cons (replaced : Replaced platform store keyId address key secret randomness stored exchanges keys)
    (exchange : Answered) (other : replacing exchange = false) (undrawn : drawnSecret exchange = none) :
    Replaced platform store keyId address key secret randomness stored (exchange :: exchanges) keys := by
  refine ⟨?_, replaced.active, ?_, replaced.address, replaced.keys⟩
  · rw [List.any_cons, other, replaced.replaced]
    rfl
  · rw [List.findSome?_cons, undrawn, replaced.drawn]

theorem Replaced.tick {elapsed : Nat}
    (replaced : Replaced platform (store.tick elapsed) keyId address key secret randomness stored exchanges keys) :
    Replaced platform store keyId address key secret randomness stored exchanges keys :=
  ⟨replaced.replaced, replaced.active, replaced.drawn, replaced.address, replaced.keys⟩

theorem Replaced.append (replaced : Replaced platform store keyId address key secret randomness stored exchanges keys)
    (later : List Answered) :
    Replaced platform store keyId address key secret randomness stored (exchanges ++ later) keys := by
  refine ⟨?_, replaced.active, ?_, replaced.address, replaced.keys⟩
  · rw [List.any_append, replaced.replaced]
    rfl
  · rw [List.findSome?_append, replaced.drawn]
    rfl

end

theorem Untouched.append {α : Type} {first : Ended α Store} {later : Ended Result Store}
    (untouched : Untouched store first) (rest : Untouched first.state later) :
    Untouched store (⟨first.exchanges ++ later.exchanges, later.outcome, later.state⟩ : Ended Result Store) := by
  refine ⟨rest.sessions.trans untouched.sessions, rest.keys.trans untouched.keys,
    rest.signers.trans untouched.signers, ?_⟩
  intro exchange member took
  rcases List.mem_append.mp member with member | member
  · exact untouched.plain exchange member took
  · exact rest.plain exchange member took

variable {ended : Ended Result Store}

theorem CompletionEffect.cons (effect : CompletionEffect platform store keyId id ended) (exchange : Answered)
    (other : replacing exchange = false) (undrawn : drawnSecret exchange = none) :
    CompletionEffect platform store keyId id ⟨exchange :: ended.exchanges, ended.outcome, ended.state⟩ := by
  cases effect with
  | untouched sessions keys kept =>
    exact .untouched sessions keys (by simp [other, kept])
  | expired session reason present awaiting sessions keys kept =>
    exact .expired session reason present awaiting sessions keys (by simp [other, kept])
  | completed session newPublicKey key secret randomness stored present awaiting sessions replaced =>
    exact .completed session newPublicKey key secret randomness stored present awaiting sessions
      (replaced.cons exchange other undrawn)

theorem CompletionEffect.tick {elapsed : Nat} (effect : CompletionEffect platform (store.tick elapsed) keyId id ended) :
    CompletionEffect platform store keyId id ended := by
  cases effect with
  | untouched sessions keys kept => exact .untouched sessions keys kept
  | expired session reason present awaiting sessions keys kept =>
    exact .expired session reason present awaiting sessions keys kept
  | completed session newPublicKey key secret randomness stored present awaiting sessions replaced =>
    exact .completed session newPublicKey key secret randomness stored present awaiting sessions
      replaced.tick

theorem rotateRecovered_ensures {session : RecoverySession} (ip : Option String)
    (present : store.sessions[id]? = some session) (awaiting : session.state = .awaitingCompletion) :
    (database platform).Ensures store (rotateRecovered platform keyId id session ip)
      (CompletionEffect platform store keyId id) := by
  refine ensures_getActiveManagedKeyById
    (fun _ untouched => .untouched untouched.sessions untouched.keys untouched.not_replacing) ?_
  intro elapsed key active stops
  have active : (store.tick elapsed).activeKey keyId = some key := active
  have completes {newPublicKey stored : Varchar 56} {secret randomness : String}
      {sessions : List RecoverySession} {exchanges : List Answered} {keys : List ManagedKey}
      (marked : sessions = store.sessions.modify id fun session =>
        { session with state := .completed, newPublicKey := some newPublicKey })
      (replaced : Replaced platform (store.tick elapsed) keyId
        (session.requestedNewAddress.map Varchar.text) key secret randomness stored exchanges keys)
      (outcome : Except String Result) (last : Store) (sameSessions : last.sessions = sessions)
      (sameKeys : last.managedKeys = keys) (later : List Answered) :
      CompletionEffect platform store keyId id ⟨⟨.selectActiveKey keyId, .ok (some key), true⟩ ::
        (exchanges ++ later), outcome, last⟩ := by
    refine .completed session newPublicKey key secret randomness stored present awaiting ?_ ?_
    · rw [sameSessions, marked]
      exact modify_eq_set_of_some present
    · rw [sameKeys]
      exact ((replaced.append later).cons ⟨.selectActiveKey keyId, .ok (some key), true⟩ rfl rfl).tick
  refine (replaceManagedKey_ensures active _ (some id)).bind ?_ ?_
  · intro ended error effect _
    rcases effect with untouched | ⟨_, ⟨newPublicKey, marked⟩, secret, randomness, stored, replaced⟩
    · exact stops _ ⟨untouched.sessions, untouched.keys, untouched.signers, untouched.plain⟩
    · simpa using completes marked replaced (.error error) ended.state rfl rfl []
  · intro ended rotation effect _
    have rest : (writeAuditLog ⟨id, "recovery_completed", none, some .awaitingCompletion, .completed,
        ip⟩ >>= fun _ => pure (.recovered rotation id) : Work Result).Asks
          fun statement => statement.plain = true :=
      (writeAuditLog_asks fun _ plain => plain).bind fun _ => .done _
    refine (untouched_of_plain rest).weaken ?_
    intro later audited
    rcases effect with untouched | ⟨_, ⟨newPublicKey, marked⟩, secret, randomness, stored, replaced⟩
    · exact stops _ (untouched.append audited)
    · exact completes marked replaced later.outcome later.state audited.sessions audited.keys
        later.exchanges

theorem completeRecovery_ensures (ip : Option String) :
    (database platform).Ensures store (completeRecovery platform keyId id ip)
      (CompletionEffect platform store keyId id) := by
  refine ensures_getRecoverySession
    (fun _ untouched => .untouched untouched.sessions untouched.keys untouched.not_replacing) ?_
  intro first session present stops
  refine ensures_check stops ?_
  intro _ _
  refine ensures_check stops ?_
  intro _ awaiting
  have awaiting := require_ok.mp awaiting
  refine ensures_plain rfl stops ?_
  intro second _ now _ accepted stops
  cases accepted
  have present : ((store.tick first).tick second).sessions[id]? = some session := present
  split
  · refine (rejectSession_ensures present _ ip).bind_done ?_
    intro ended outcome rejected
    rcases rejected with untouched | ⟨sessions, keys, kept⟩
    · exact stops _ ⟨untouched.sessions, untouched.keys, untouched.signers, untouched.plain⟩
    · exact .expired session _ present awaiting sessions keys (by simpa [replacing] using kept)
  · refine (rotateRecovered_ensures ip present awaiting).weaken ?_
    intro ended effect
    have timed := effect.cons
      ⟨.readClock, .ok ((store.tick first).tick second).clock, true⟩ rfl rfl
    exact (timed.cons ⟨.selectSession id, .ok (some session), true⟩ rfl rfl).tick.tick

theorem rotateKey_ensures (userId : String) (address : Option String) :
    (database platform).Ensures store (rotateKey platform keyId userId address) fun ended =>
      (ended.exchanges.any replacing = false ∧ ended.state.managedKeys = store.managedKeys) ∨
        ∃ key secret randomness stored, Replaced platform store keyId address key secret randomness
          stored ended.exchanges ended.state.managedKeys := by
  refine ensures_getManagedKey
    (fun _ untouched => .inl ⟨untouched.not_replacing, untouched.keys⟩) ?_
  intro elapsed key active owner stops
  subst owner
  have active : (store.tick elapsed).activeKey keyId = some key := active
  refine (replaceManagedKey_ensures active address none).bind_done ?_
  intro ended outcome effect
  rcases effect with untouched | ⟨_, _, secret, randomness, stored, replaced⟩
  · exact stops _ ⟨untouched.sessions, untouched.keys, untouched.signers, untouched.plain⟩
  · exact .inr ⟨key, secret, randomness, stored,
      replaced.tick.cons ⟨.selectKey keyId key.userId, .ok (some key), true⟩ rfl rfl⟩

end Effects

/-- What a call can make of a session. -/
inductive SessionStep (platform : Platform) (before : Store) (operation : Operation) (id : SessionId)
    (old : RecoverySession) : RecoverySession → Prop where
  | kept : SessionStep platform before operation id old old
  | approved (keyId : KeyId) (token signature signer : String) (ip : Option String)
      (called : operation = .approveRecovery keyId id token signature signer ip)
      (approvable : Approvable platform before keyId id token signature signer old) :
      SessionStep platform before operation id old (old.approve signer)
  | rejected (reason : String) (nonterminal : old.state.terminal = false) :
      SessionStep platform before operation id old (old.reject reason)
  | completed (newPublicKey : Varchar 56) (awaiting : old.state = .awaitingCompletion) :
      SessionStep platform before operation id old
        { old with state := .completed, newPublicKey := some newPublicKey }

/-- A statement that rewrites the rows of sessions. -/
def Statement.rewritesSessions : Statement → Bool
  | .updateSession .. | .rejectSession .. | .replaceKey _ _ (some _) => true
  | _ => false

section Calls

variable {platform : Platform} {before after : Store} {entry : Entry} {id : SessionId}
variable {session : RecoverySession}

theorem ensured {post : Ended Result Store → Prop}
    (ensures : (database platform).Ensures before (entry.operation.script platform) post)
    (done : performs platform before entry after) : post ⟨entry.exchanges, entry.outcome, after⟩ :=
  ensures _ _ done

/-- Every row is as it was, or it is new. -/
structure Older (before after : Store) : Prop where
  length : before.sessions.length ≤ after.sessions.length
  rows : ∀ (id : SessionId) session, after.sessions[id]? = some session →
    before.sessions[id]? = some session ∨
      before.sessions[id]? = none ∧ session.state = .pending ∧ session.approvedBy = []

variable {event : Event}

theorem next_sessions_length {store : Store} {statement : Statement} :
    store.sessions.length ≤ ((database platform).next store event statement).sessions.length :=
  kept_by_next (fun after => store.sessions.length ≤ after.sessions.length) le_rfl
    fun _ _ => Store.perform_sessions_length

theorem older_next {middle : Store} {statement : Statement}
    (other : statement.rewritesSessions = false) (older : Older before middle) :
    Older before ((database platform).next middle event statement) := by
  refine ⟨older.length.trans next_sessions_length, ?_⟩
  intro id session found
  rcases next_session found with ⟨old, present, change⟩ | ⟨absent, pending, nobody⟩
  · have same : session = old := by
      rcases change with same | ⟨_, change⟩
      · exact same
      · cases change with
        | kept => rfl
        | _ => cases other
    rw [same]
    exact older.rows id old present
  · have beyond := List.getElem?_eq_none_iff.mp absent
    exact .inr ⟨List.getElem?_eq_none_iff.mpr (older.length.trans beyond), pending, nobody⟩

theorem performs_sessions_length (done : performs platform before entry after) :
    before.sessions.length ≤ after.sessions.length := by
  have ensures : (database platform).Ensures before (entry.operation.script platform) fun ended =>
      before.sessions.length ≤ ended.state.sessions.length :=
    Server.Ensures.keeps (fun store : Store => before.sessions.length ≤ store.sessions.length)
      (script_asks platform entry.operation)
      (fun _ _ _ _ (kept : _ ≤ _) => kept.trans next_sessions_length) le_rfl
  exact ensured ensures done

theorem step_of_set {old new : RecoverySession} {target : SessionId} (present : before.sessions[target]? = some old)
    (sessions : after.sessions = before.sessions.set target new)
    (step : SessionStep platform before entry.operation target old new)
    (found : after.sessions[id]? = some session) :
    ∃ old, before.sessions[id]? = some old ∧ SessionStep platform before entry.operation id old session := by
  rw [sessions] at found
  rcases getElem?_set_of_some found with ⟨rfl, rfl⟩ | ⟨_, earlier⟩
  · exact ⟨old, present, step⟩
  · exact ⟨session, earlier, .kept⟩

theorem performs_session (done : performs platform before entry after) (found : after.sessions[id]? = some session) :
    (∃ old, before.sessions[id]? = some old ∧ SessionStep platform before entry.operation id old session) ∨
    before.sessions[id]? = none ∧ session.state = .pending ∧ session.approvedBy = [] := by
  have unwritten (same : after.sessions = before.sessions) :
      ∃ old, before.sessions[id]? = some old ∧
        SessionStep platform before entry.operation id old session :=
    ⟨session, same ▸ found, .kept⟩
  obtain ⟨operation, events, exchanges, outcome⟩ := entry
  have others (permitted : ∀ statement, operation.mayAsk statement →
      statement.rewritesSessions = false) :
      (∃ old, before.sessions[id]? = some old ∧ SessionStep platform before operation id old session) ∨
        before.sessions[id]? = none ∧ session.state = .pending ∧ session.approvedBy = [] := by
    have ensures : (database platform).Ensures before (operation.script platform) fun ended =>
        Older before ended.state :=
      Server.Ensures.keeps (Older before) ((script_asks platform operation).weaken permitted)
        (fun _ _ _ => older_next) ⟨le_rfl, fun _ _ there => .inl there⟩
    rcases (ensured ensures done).rows id session found with same | fresh
    · exact .inl ⟨session, same, .kept⟩
    · exact .inr fresh
  cases operation with
  | approveRecovery keyId target token signature signer ip =>
    left
    rcases ensured (approveRecovery_ensures platform before keyId target token signature signer ip)
      done with same | ⟨old, approvable, sessions⟩
    · exact unwritten same
    · exact step_of_set approvable.present sessions
        (.approved keyId token signature signer ip rfl approvable) found
  | completeRecovery keyId target ip =>
    left
    cases ensured (completeRecovery_ensures ip) done with
    | untouched same => exact unwritten same
    | expired old reason present awaiting sessions =>
      exact step_of_set present sessions (.rejected reason (by rw [awaiting]; rfl)) found
    | completed old newPublicKey key secret randomness stored present awaiting sessions =>
      exact step_of_set present sessions (.completed newPublicKey awaiting) found
  | cancelRecoverySession keyId target reason ip =>
    left
    rcases ensured (cancelRecoverySession_ensures reason ip) done with
      same | ⟨old, present, nonterminal, sessions⟩
    · exact unwritten same
    · exact step_of_set present sessions (.rejected reason nonterminal) found
  | rotateKey keyId userId address =>
    apply others
    intro statement allowed
    cases statement with
    | replaceKey key values completed =>
      obtain ⟨_, rfl⟩ := allowed
      rfl
    | _ => first | rfl | cases allowed
  | _ =>
    apply others
    intro statement allowed
    cases statement with
    | replaceKey key values completed =>
      cases completed with
      | none => rfl
      | some id => cases allowed
    | _ => first | rfl | cases allowed

end Calls

end ProxyPay.Recovery
