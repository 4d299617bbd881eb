import ProxyPay.Library.Exclusive
import ProxyPay.Library.Server
import ProxyPay.Recovery.Tables

/-! What each statement leaves, and the database as it serves the statements: a statement may be
lost, refused, or executed without its answer getting through. -/

namespace ProxyPay.Recovery

open ProxyPay.Library

namespace Store

variable {platform : Platform} {store after : Store} {keyId : KeyId} {id : SessionId}
variable {values : KeyValues}

theorem insertKey_ok (inserted : store.insertKey values = .ok after) :
    ∃ publicKey, Varchar.store values.publicKey = some publicKey ∧ after = { store with
        managedKeys := store.managedKeys ++
          [⟨values.userId, publicKey, values.encryptedSecret, values.recoveryThreshold, true⟩] } := by
  unfold insertKey at inserted
  obtain ⟨publicKey, fits, rest⟩ := bind_ok.mp inserted
  obtain ⟨_, _, same⟩ := bind_ok.mp rest
  exact ⟨publicKey, orThrow_ok.mp fits, (pure_ok.mp same).symm⟩

theorem updateThreshold_ok {newThreshold : Int} (updated : store.updateThreshold keyId newThreshold = .ok after) :
    after = { store with
      managedKeys := store.managedKeys.modify keyId
        fun key => { key with recoveryThreshold := newThreshold } } := by
  unfold updateThreshold at updated
  obtain ⟨_, _, same⟩ := bind_ok.mp updated
  exact (pure_ok.mp same).symm

theorem completeSession_ok {newPublicKey : String} (completed : store.completeSession id newPublicKey = .ok after) :
    ∃ stored, after = store.updateSession id fun session =>
      { session with state := .completed, newPublicKey := some stored } := by
  unfold completeSession at completed
  obtain ⟨stored, _, same⟩ := bind_ok.mp completed
  exact ⟨stored, (pure_ok.mp same).symm⟩

theorem replaceKey_ok {completed : Option SessionId} (replaced : store.replaceKey keyId values completed = .ok after) :
    ∃ inserted, (store.deactivate keyId).insertKey values = .ok inserted ∧
      match completed with
      | none => after = inserted
      | some id => ∃ stored, after = inserted.updateSession id fun session =>
          { session with state := .completed, newPublicKey := some stored } := by
  cases completed with
  | none => exact ⟨after, replaced, rfl⟩
  | some id =>
    obtain ⟨inserted, added, rest⟩ := bind_ok.mp replaced
    exact ⟨inserted, added, completeSession_ok rest⟩

theorem insertSigner_ok {signerPublicKey signerLabel : String} {signer : RecoverySigner}
    (inserted : store.insertSigner keyId signerPublicKey signerLabel = .ok (signer, after)) :
    keyId < store.managedKeys.length ∧ signer.managedKeyId = keyId ∧
      after = { store with recoverySigners := store.recoverySigners ++ [signer] } := by
  unfold insertSigner at inserted
  obtain ⟨publicKey, _, rest⟩ := bind_ok.mp inserted
  obtain ⟨label, _, rest⟩ := bind_ok.mp rest
  obtain ⟨_, present, rest⟩ := bind_ok.mp rest
  obtain ⟨_, _, same⟩ := bind_ok.mp rest
  cases pure_ok.mp same
  exact ⟨require_ok.mp present, rfl, rfl⟩

theorem insertToken_ok {tokenHash signerPublicKey : String} {expiresAt : Nat}
    (inserted : store.insertToken keyId tokenHash signerPublicKey expiresAt = .ok after) :
    ∃ token, after = { store with recoveryTokens := store.recoveryTokens ++ [token] } := by
  unfold insertToken at inserted
  obtain ⟨hash, _, rest⟩ := bind_ok.mp inserted
  obtain ⟨publicKey, _, rest⟩ := bind_ok.mp rest
  obtain ⟨_, _, same⟩ := bind_ok.mp rest
  exact ⟨_, (pure_ok.mp same).symm⟩

theorem insertSession_ok {values : SessionValues} {reply : SessionId × RecoverySession}
    (inserted : store.insertSession platform values = .ok (reply, after)) :
    reply.1 = store.sessions.length ∧ reply.2.state = .pending ∧ reply.2.approvedBy = [] ∧
      after = { store with sessions := store.sessions ++ [reply.2] } := by
  unfold insertSession at inserted
  obtain ⟨address, _, rest⟩ := bind_ok.mp inserted
  obtain ⟨oldPublicKey, _, rest⟩ := bind_ok.mp rest
  obtain ⟨_, _, rest⟩ := bind_ok.mp rest
  obtain ⟨_, _, rest⟩ := bind_ok.mp rest
  obtain ⟨_, _, same⟩ := bind_ok.mp rest
  cases pure_ok.mp same
  exact ⟨rfl, rfl, rfl, rfl⟩

end Store

/-- The statements that may write `key_recovery_sessions`. -/
def Statement.writesSessions : Statement → Bool
  | .insertSession _ | .updateSession .. | .rejectSession .. | .replaceKey _ _ (some _) => true
  | _ => false

def Statement.writesKeys : Statement → Bool
  | .insertKey _ | .updateThreshold .. | .replaceKey .. => true
  | _ => false

def Statement.writesSigners : Statement → Bool
  | .insertSigner .. | .deleteSigner .. => true
  | _ => false

namespace Store

variable {platform : Platform} {store after : Store} {drawn : String} {statement : Statement}
variable {reply : statement.Reply}

theorem perform_frame (accepted : store.perform platform drawn statement = .ok (reply, after)) :
    (statement.writesSessions = false → after.sessions = store.sessions) ∧
    (statement.writesKeys = false → after.managedKeys = store.managedKeys) ∧
    (statement.writesSigners = false → after.recoverySigners = store.recoverySigners) := by
  cases statement with
  | insertKey values =>
    obtain ⟨inserted, added, same⟩ := bind_ok.mp accepted
    obtain ⟨publicKey, _, rfl⟩ := insertKey_ok added
    cases pure_ok.mp same
    exact ⟨fun _ => rfl, nofun, fun _ => rfl⟩
  | updateThreshold keyId newThreshold =>
    obtain ⟨updated, done, same⟩ := bind_ok.mp accepted
    cases pure_ok.mp same
    cases updateThreshold_ok done
    exact ⟨fun _ => rfl, nofun, fun _ => rfl⟩
  | replaceKey keyId values completed =>
    obtain ⟨replaced, done, same⟩ := bind_ok.mp accepted
    obtain ⟨inserted, added, rest⟩ := replaceKey_ok done
    obtain ⟨publicKey, _, rfl⟩ := insertKey_ok added
    cases completed with
    | none =>
      cases pure_ok.mp same
      cases rest
      exact ⟨fun _ => rfl, nofun, fun _ => rfl⟩
    | some id =>
      obtain ⟨stored, written⟩ := rest
      cases pure_ok.mp same
      cases written
      exact ⟨nofun, nofun, fun _ => rfl⟩
  | insertSigner keyId signerPublicKey signerLabel =>
    obtain ⟨_, _, rfl⟩ := insertSigner_ok accepted
    exact ⟨fun _ => rfl, fun _ => rfl, nofun⟩
  | insertToken keyId tokenHash signerPublicKey expiresAt =>
    obtain ⟨inserted, done, same⟩ := bind_ok.mp accepted
    obtain ⟨token, rfl⟩ := insertToken_ok done
    cases pure_ok.mp same
    exact ⟨fun _ => rfl, fun _ => rfl, fun _ => rfl⟩
  | insertSession values =>
    obtain ⟨_, _, _, rfl⟩ := insertSession_ok accepted
    exact ⟨nofun, fun _ => rfl, fun _ => rfl⟩
  | insertAuditEntry entry =>
    obtain ⟨_, _, same⟩ := bind_ok.mp accepted
    cases pure_ok.mp same
    exact ⟨fun _ => rfl, fun _ => rfl, fun _ => rfl⟩
  | updateSession id approvedBy state =>
    cases accepted
    exact ⟨nofun, fun _ => rfl, fun _ => rfl⟩
  | rejectSession id reason =>
    cases accepted
    exact ⟨nofun, fun _ => rfl, fun _ => rfl⟩
  | deleteSigner keyId signerPublicKey =>
    cases accepted
    exact ⟨fun _ => rfl, fun _ => rfl, nofun⟩
  | _ =>
    cases accepted
    exact ⟨fun _ => rfl, fun _ => rfl, fun _ => rfl⟩

end Store

/-- The statements that leave the tables as they are. -/
def Statement.isRead : Statement → Bool
  | .readClock | .randomKeypair | .randomBytes | .encrypt _ | .selectKey .. | .selectActiveKey _
  | .selectSigners _ | .selectSigner .. | .selectToken .. | .selectSession _
  | .selectActiveSessions _ | .insertAuditEntry _ => true
  | _ => false

theorem Store.perform_read {platform : Platform} {store after : Store} {drawn : String}
    {statement : Statement} {reply : statement.Reply} (plain : statement.isRead = true)
    (accepted : store.perform platform drawn statement = .ok (reply, after)) : after = store := by
  cases statement with
  | insertAuditEntry entry =>
    obtain ⟨_, _, same⟩ := bind_ok.mp accepted
    cases pure_ok.mp same
    rfl
  | _ =>
    first
    | (cases accepted; rfl)
    | cases plain

/-- How a statement may change the row of a session. -/
inductive SessionChange (id : SessionId) (session : RecoverySession) :
    Statement → RecoverySession → Prop where
  | kept {statement : Statement} : SessionChange id session statement session
  | updated (approvedBy : List String) (state : RecoverySessionState) :
    SessionChange id session (.updateSession id approvedBy state) { session with approvedBy, state }
  | rejected (reason : String) :
    SessionChange id session (.rejectSession id reason) (session.reject reason)
  | completed (keyId : KeyId) (values : KeyValues) (stored : Varchar 56) :
    SessionChange id session (.replaceKey keyId values (some id))
      { session with state := .completed, newPublicKey := some stored }

namespace Store

variable {platform : Platform} {store after : Store} {drawn : String} {statement : Statement}
variable {reply : statement.Reply} {id : SessionId} {session : RecoverySession}

theorem replaceKey_sessions {keyId : KeyId} {values : KeyValues} {completed : Option SessionId}
    (replaced : store.replaceKey keyId values completed = .ok after) :
    match completed with
    | none => after.sessions = store.sessions
    | some id => ∃ stored, after.sessions = store.sessions.modify id fun session =>
        { session with state := .completed, newPublicKey := some stored } := by
  obtain ⟨inserted, added, rest⟩ := replaceKey_ok replaced
  obtain ⟨publicKey, _, rfl⟩ := insertKey_ok added
  cases completed with
  | none =>
    cases rest
    rfl
  | some id =>
    obtain ⟨stored, rfl⟩ := rest
    exact ⟨stored, rfl⟩

section

variable (accepted : store.perform platform drawn statement = .ok (reply, after))

include accepted

theorem perform_session (found : after.sessions[id]? = some session) :
    (∃ old, store.sessions[id]? = some old ∧ SessionChange id old statement session) ∨
    store.sessions[id]? = none ∧ session.state = .pending ∧ session.approvedBy = [] := by
  have unwritten (same : after.sessions = store.sessions) :
      ∃ old, store.sessions[id]? = some old ∧ SessionChange id old statement session :=
    ⟨session, same ▸ found, .kept⟩
  cases statement with
  | insertSession values =>
    obtain ⟨_, pending, nobody, rfl⟩ := insertSession_ok accepted
    rcases getElem?_append_singleton found with earlier | ⟨rfl, rfl⟩
    · exact .inl ⟨session, earlier, .kept⟩
    · exact .inr ⟨by simp, pending, nobody⟩
  | updateSession target approvedBy state =>
    cases accepted
    obtain ⟨old, present, rfl⟩ := getElem?_modify_of_some found
    left
    refine ⟨old, present, ?_⟩
    split
    · subst target
      exact .updated approvedBy state
    · exact .kept
  | rejectSession target reason =>
    cases accepted
    obtain ⟨old, present, rfl⟩ := getElem?_modify_of_some found
    left
    refine ⟨old, present, ?_⟩
    split
    · subst target
      exact .rejected reason
    · exact .kept
  | replaceKey keyId values completed =>
    obtain ⟨replaced, done, same⟩ := bind_ok.mp accepted
    cases pure_ok.mp same
    left
    cases completed with
    | none => exact unwritten (replaceKey_sessions done)
    | some target =>
      obtain ⟨stored, sessions⟩ := replaceKey_sessions done
      rw [sessions] at found
      obtain ⟨old, present, rfl⟩ := getElem?_modify_of_some found
      refine ⟨old, present, ?_⟩
      split
      · subst target
        exact .completed keyId values stored
      · exact .kept
  | _ => exact .inl (unwritten ((perform_frame accepted).1 rfl))

theorem perform_sessions_length : store.sessions.length ≤ after.sessions.length := by
  cases statement with
  | insertSession values =>
    obtain ⟨_, _, _, rfl⟩ := insertSession_ok accepted
    simp
  | updateSession target approvedBy state =>
    cases accepted
    simp [updateSession]
  | rejectSession target reason =>
    cases accepted
    simp [updateSession]
  | replaceKey keyId values completed =>
    obtain ⟨replaced, done, same⟩ := bind_ok.mp accepted
    cases pure_ok.mp same
    cases completed with
    | none => rw [replaceKey_sessions done]
    | some target =>
      obtain ⟨stored, sessions⟩ := replaceKey_sessions done
      simp [sessions]
  | _ => rw [(perform_frame accepted).1 rfl]

end

end Store
/-- How the connection fails: before the statement is executed, or before its answer arrives. -/
inductive Fault where
  | statementLost
  | answerLost
  deriving DecidableEq

/-- What a request meets: the time since the last one, a fault, and what a random draw yields. -/
structure Event where
  elapsed : Nat
  fault : Option Fault
  drawn : String
  deriving DecidableEq

def connectionLost : String := "Connection terminated unexpectedly"

/-- What the caller gets of a result, whether it took effect, and what it leaves. -/
def deliver {Reply : Type} (now : Store) (fault : Option Fault)
    (result : Except String (Reply × Store)) : Except String Reply × Bool × Store :=
  match fault, result with
  | none, .ok (reply, after) => (.ok reply, true, after)
  | some .answerLost, .ok (_, after) => (.error connectionLost, true, after)
  | some .statementLost, _ => (.error connectionLost, false, now)
  | _, .error message => (.error message, false, now)

theorem deliver_cases {Reply : Type} (now : Store) (fault : Option Fault) (result : Except String (Reply × Store)) :
    (∃ reply after, result = .ok (reply, after) ∧ (deliver now fault result = (.ok reply, true, after) ∨
        deliver now fault result = (.error connectionLost, true, after))) ∨
    ∃ message, deliver now fault result = (.error message, false, now) := by
  cases fault with
  | none =>
    cases result with
    | error message => exact .inr ⟨message, rfl⟩
    | ok pair => exact .inl ⟨pair.1, pair.2, rfl, .inl rfl⟩
  | some fault =>
    cases fault with
    | statementLost => exact .inr ⟨connectionLost, rfl⟩
    | answerLost =>
      cases result with
      | error message => exact .inr ⟨message, rfl⟩
      | ok pair => exact .inl ⟨pair.1, pair.2, rfl, .inr rfl⟩

def Store.serve (platform : Platform) (store : Store) (event : Event) (statement : Statement) :
    Except String statement.Reply × Bool × Store :=
  let now := store.tick event.elapsed
  deliver now event.fault (now.perform platform event.drawn statement)

def database (platform : Platform) : Server Statement Statement.Reply String Event Store :=
  ⟨Store.serve platform⟩

abbrev Answered := Exchange Statement Statement.Reply String

section Serve

variable {platform : Platform} {store : Store} {event : Event} {statement : Statement}

theorem served_cases : (∃ reply after,
      (store.tick event.elapsed).perform platform event.drawn statement = .ok (reply, after) ∧
      (store.serve platform event statement = (.ok reply, true, after) ∨
        store.serve platform event statement = (.error connectionLost, true, after))) ∨
    ∃ message, store.serve platform event statement = (.error message, false, store.tick event.elapsed) :=
  deliver_cases _ _ _

theorem performed (took : ((database platform).exchange store event statement).tookEffect = true) :
    ∃ reply, (store.tick event.elapsed).perform platform event.drawn statement =
      .ok (reply, (database platform).next store event statement) := by
  change (store.serve platform event statement).2.1 = true at took
  change ∃ reply, _ = Except.ok (reply, (store.serve platform event statement).2.2)
  rcases @served_cases platform store event statement with
    ⟨reply, after, accepted, same | lost⟩ | ⟨message, refused⟩
  · exact ⟨reply, by rw [same, accepted]⟩
  · exact ⟨reply, by rw [lost, accepted]⟩
  · simp [refused] at took

theorem unperformed (refused : ((database platform).exchange store event statement).tookEffect = false) :
    (database platform).next store event statement = store.tick event.elapsed := by
  change (store.serve platform event statement).2.1 = false at refused
  change (store.serve platform event statement).2.2 = _
  rcases @served_cases platform store event statement with
    ⟨reply, after, accepted, same | lost⟩ | ⟨message, same⟩
  · simp [same] at refused
  · simp [lost] at refused
  · rw [same]

theorem answered {reply : statement.Reply}
    (returned : ((database platform).exchange store event statement).reply = .ok reply) :
    ((database platform).exchange store event statement).tookEffect = true ∧
      (store.tick event.elapsed).perform platform event.drawn statement =
        .ok (reply, (database platform).next store event statement) := by
  change (store.serve platform event statement).1 = .ok reply at returned
  change (store.serve platform event statement).2.1 = true ∧
    _ = Except.ok (reply, (store.serve platform event statement).2.2)
  rcases @served_cases platform store event statement with
    ⟨value, after, accepted, same | lost⟩ | ⟨message, refused⟩
  · simp_all
  · simp [lost] at returned
  · simp [refused] at returned

theorem kept_by_next (holds : Store → Prop) (ticks : holds (store.tick event.elapsed))
    (performs : ∀ reply after, (store.tick event.elapsed).perform platform event.drawn statement =
      .ok (reply, after) → holds after) :
    holds ((database platform).next store event statement) := by
  change holds (store.serve platform event statement).2.2
  rcases @served_cases platform store event statement with
    ⟨reply, after, accepted, same | lost⟩ | ⟨message, refused⟩
  · simp_all
  · simp_all
  · rw [refused]
    exact ticks

theorem next_read (plain : statement.isRead = true) :
    (database platform).next store event statement = store.tick event.elapsed :=
  kept_by_next (· = store.tick event.elapsed) rfl fun _ _ accepted => Store.perform_read plain accepted

variable {id : SessionId} {old session : RecoverySession}

theorem next_session (found : ((database platform).next store event statement).sessions[id]? = some session) :
    (∃ old, store.sessions[id]? = some old ∧ (session = old ∨
      ((database platform).exchange store event statement).tookEffect = true ∧
        SessionChange id old statement session)) ∨
    store.sessions[id]? = none ∧ session.state = .pending ∧ session.approvedBy = [] := by
  cases took : ((database platform).exchange store event statement).tookEffect with
  | true =>
    obtain ⟨reply, accepted⟩ := performed took
    rcases Store.perform_session accepted found with ⟨old, present, change⟩ | fresh
    · exact .inl ⟨old, present, .inr ⟨rfl, change⟩⟩
    · exact .inr fresh
  | false =>
    rw [unperformed took] at found
    exact .inl ⟨session, found, .inl rfl⟩

theorem session_next (present : store.sessions[id]? = some old) :
    ∃ session, ((database platform).next store event statement).sessions[id]? = some session ∧
      (session = old ∨ ((database platform).exchange store event statement).tookEffect = true ∧
        SessionChange id old statement session) := by
  have kept : store.sessions.length ≤
      ((database platform).next store event statement).sessions.length :=
    kept_by_next (fun after => store.sessions.length ≤ after.sessions.length) le_rfl
      fun _ _ => Store.perform_sessions_length
  obtain ⟨inside, _⟩ := List.getElem?_eq_some_iff.mp present
  have found := List.getElem?_eq_getElem (Nat.lt_of_lt_of_le inside kept)
  refine ⟨_, found, ?_⟩
  rcases next_session found with ⟨before, same, change⟩ | ⟨absent, _⟩
  · simp_all
  · rw [present] at absent
    cases absent

end Serve

end ProxyPay.Recovery
