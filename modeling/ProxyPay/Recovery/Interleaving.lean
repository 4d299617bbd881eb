import ProxyPay.Recovery.Service

/-! Any number of callers whose statements are executed in any order. A session row is written
with what its caller has computed from an earlier read of it. -/

namespace ProxyPay.Recovery

open ProxyPay.Library

abbrev Callers := Service Operation Statement Statement.Reply String Result Store

abbrev Move := Turn Operation Event

def step (platform : Platform) : Callers → Move → Callers → Prop :=
  Service.step (database platform) (Operation.script platform)

/-- The row, where the exchange is a read of a session that found one. -/
def sessionRead : Answered → Option RecoverySession
  | ⟨.selectSession _, .ok row, _⟩ => row
  | _ => none

/-- The session that the exchange was found to exist. -/
def sessionFound : Answered → Option SessionId
  | ⟨.selectSession id, .ok (some _), _⟩ => some id
  | _ => none

/-- The approvals that the exchange has written. -/
def approvalWritten : Answered → Option (SessionId × List String)
  | ⟨.updateSession id approvedBy _, .ok _, _⟩ => some (id, approvedBy)
  | _ => none

variable {target : SessionId} {tookEffect : Bool}

theorem sessionFound_some {id : SessionId} {reply : Except String (Option RecoverySession)} (found : sessionFound ⟨.selectSession target, reply, tookEffect⟩ = some id) :
    target = id ∧ ∃ row, reply = .ok (some row) := by
  match reply with
  | .error error | .ok none => cases found
  | .ok (some row) =>
    cases found
    exact ⟨rfl, row, rfl⟩

theorem approvalWritten_some {id : SessionId} {approvedBy written : List String}
    {state : RecoverySessionState} {reply : Except String Unit}
    (found : approvalWritten ⟨.updateSession target written state, reply, tookEffect⟩ =
      some (id, approvedBy)) : target = id ∧ written = approvedBy ∧ reply = .ok () := by
  cases reply with
  | error error => cases found
  | ok value =>
    cases found
    exact ⟨rfl, rfl, rfl⟩

/-- The exchange has inserted the new key of this session. -/
def completes (id : SessionId) : Answered → Bool
  | ⟨.replaceKey _ _ completed, _, tookEffect⟩ => tookEffect && completed = some id
  | _ => false

/-- The signer for whom the operation approves. -/
def Operation.approver : Operation → Option String
  | .approveRecovery _ _ _ _ signerPublicKey _ => some signerPublicKey
  | _ => none

/-- A caller writes the approvals that it has read with its own signer added, and it completes
only a session that it has read. -/
def Operation.asks (operation : Operation) (history : List Answered) : Statement → Prop
  | .updateSession id approvedBy state => state.terminal = false ∧ id ∈ history.filterMap sessionFound ∧
      ∃ session signer, history.findSome? sessionRead = some session ∧
        operation.approver = some signer ∧ approvedBy = session.approvedBy ++ [signer]
  | .replaceKey _ _ (some id) => id ∈ history.filterMap sessionFound
  | _ => True

/-- An approval is returned after it was written. -/
def Operation.returns (operation : Operation) (history : List Answered) (result : Result) : Prop :=
  ∀ keyId id token signature signer ip session,
    operation = .approveRecovery keyId id token signature signer ip →
    result = .approval true session →
    id ∈ history.filterMap sessionFound ∧
      ∃ approvedBy, (id, approvedBy) ∈ history.filterMap approvalWritten ∧ signer ∈ approvedBy

section Follows

variable {platform : Platform} {keyId : KeyId} {id : SessionId} {ip : Option String}
variable {asks : List Answered → Statement → Prop} {returns : List Answered → Result → Prop}
variable {history : List Answered}

open Script

theorem follows_getRecoverySession {next : RecoverySession → Work Result} (permitted : asks history (.selectSession id))
    (found : ∀ session tookEffect,
      Follows asks returns (history ++ [⟨.selectSession id, .ok (some session), tookEffect⟩]) (next session)) :
    Follows asks returns history ((getRecoverySession id).bind next) := by
  unfold getRecoverySession
  change Follows asks returns history (((ask _).bind _).bind next)
  rw [bind_assoc]
  apply Follows.call_bind permitted
  intro row tookEffect
  apply Follows.check_bind
  intro session known
  rw [orThrow_ok.mp known]
  exact found session tookEffect

theorem follows_assertSessionActive {session : RecoverySession} {next : Unit → Work Result}
    (permitted : asks history .readClock)
    (active : session.state.terminal = false → ∀ now tookEffect,
      Follows asks returns (history ++ [⟨.readClock, .ok now, tookEffect⟩]) (next ())) :
    Follows asks returns history ((assertSessionActive session).bind next) := by
  unfold assertSessionActive
  change Follows asks returns history (((check _).bind _).bind next)
  rw [bind_assoc]
  apply Follows.check_bind
  intro _ nonterminal
  change Follows asks returns history (((ask _).bind _).bind next)
  rw [bind_assoc]
  apply Follows.call_bind permitted
  intro now tookEffect
  apply Follows.check_bind
  intro _ _
  exact active (require_ok.mp nonterminal) now tookEffect

end Follows

theorem afterApproval_nonterminal (session : RecoverySession) (approvedBy : List String) :
    (afterApproval session approvedBy).terminal = false := by
  unfold afterApproval
  split <;> rfl

variable {operation : Operation}

theorem asks_of_plain {history : List Answered} {statement : Statement}
    (plain : statement.plain = true) : operation.asks history statement := by
  cases statement with
  | updateSession id approvedBy state => cases plain
  | replaceKey keyId values completed => simp [Statement.plain, Statement.writesKeys] at plain
  | _ => trivial

theorem returns_of_other (other : operation.approver = none)
    (history : List Answered) (result : Result) : operation.returns history result := by
  intro keyId id token signature signer ip session same
  rw [same] at other
  cases other

section Rules

variable (platform : Platform)

open Script

theorem approveRecovery_follows (keyId : KeyId) (id : SessionId)
    (token signature signer : String) (ip : Option String) :
    (approveRecovery platform keyId id token signature signer ip).Follows
      (Operation.approveRecovery keyId id token signature signer ip).asks
      (Operation.approveRecovery keyId id token signature signer ip).returns [] := by
  apply follows_getRecoverySession trivial
  intro session _
  apply Follows.check_bind
  intro _ _
  apply follows_assertSessionActive trivial
  intro nonterminal now _
  apply Follows.check_bind
  intro _ _
  apply Follows.call_bind trivial
  intro row _
  apply Follows.check_bind
  intro _ _
  apply Follows.call_bind trivial
  intro found _
  apply Follows.check_bind
  intro _ _
  apply Follows.check_bind
  intro isValid _
  apply Follows.check_bind
  intro _ _
  apply Follows.call_bind trivial
  intro _ _
  apply Follows.call_bind
  · exact ⟨afterApproval_nonterminal _ _, by simp [sessionFound], session, signer, rfl, rfl, rfl⟩
  intro _ _
  apply Follows.call_bind trivial
  intro _ _
  apply follows_getRecoverySession trivial
  intro updated _
  apply Follows.done
  intro _ _ _ _ _ _ _ same _
  cases same
  constructor
  · simp [sessionFound]
  · exact ⟨session.approvedBy ++ [signer], by simp [approvalWritten], by simp⟩

theorem rotateRecovered_follows {operation : Operation} {history : List Answered}
    (keyId : KeyId) (id : SessionId) (session : RecoverySession) (ip : Option String)
    (known : id ∈ history.filterMap sessionFound)
    (anything : ∀ history result, operation.returns history result) :
    (rotateRecovered platform keyId id session ip).Follows operation.asks operation.returns history := by
  apply Follows.call_bind_bind trivial
  intro row _
  apply Follows.check_bind
  intro key _
  apply Follows.call_bind_bind trivial
  intro newSecret _
  apply Follows.call_bind_bind trivial
  intro newEncryptedSecret _
  apply Follows.call_bind_bind trivial
  intro rotatedAt _
  apply Follows.call_bind_bind
  · simp only [Operation.asks, List.filterMap_append, List.mem_append]
    tauto
  intro _ _
  apply Follows.call_bind trivial
  intro _ _
  exact Follows.done (anything _ _)

theorem completeRecovery_follows (keyId : KeyId) (id : SessionId) (ip : Option String) :
    (completeRecovery platform keyId id ip).Follows (Operation.completeRecovery keyId id ip).asks
      (Operation.completeRecovery keyId id ip).returns [] := by
  apply follows_getRecoverySession trivial
  intro session _
  apply Follows.check_bind
  intro _ _
  apply Follows.check_bind
  intro _ _
  apply Follows.call_bind trivial
  intro now _
  split
  · have rejects (statement : Statement) (plain : statement.plain = true) :
        ∀ history, (Operation.completeRecovery keyId id ip).asks history statement :=
      fun _ => asks_of_plain plain
    apply Follows.of_asks (expireSession_asks rejects fun _ _ => trivial)
    · exact fun history _ permitted => permitted history
    · exact returns_of_other rfl
  · apply rotateRecovered_follows platform
    · simp [sessionFound]
    · exact returns_of_other rfl

theorem script_follows (operation : Operation) :
    (operation.script platform).Follows operation.asks operation.returns [] := by
  have others (other : operation.approver = none)
      (permitted : ∀ history statement, operation.mayAsk statement → operation.asks history statement) :
      (operation.script platform).Follows operation.asks operation.returns [] :=
    Follows.of_asks (script_asks platform operation) permitted (returns_of_other other)
  have permits (statement : Statement) (allowed : operation.mayAsk statement)
      (keeps : ∀ id approvedBy state, statement ≠ .updateSession id approvedBy state)
      (stays : ∀ keyId values id, statement ≠ .replaceKey keyId values (some id))
      (history : List Answered) : operation.asks history statement := by
    cases statement with
    | updateSession id approvedBy state => exact absurd rfl (keeps id approvedBy state)
    | replaceKey keyId values completed =>
      cases completed with
      | none => trivial
      | some id => exact absurd rfl (stays keyId values id)
    | _ => trivial
  cases operation with
  | approveRecovery keyId id token signature signer ip =>
    exact approveRecovery_follows platform keyId id token signature signer ip
  | completeRecovery keyId id ip => exact completeRecovery_follows platform keyId id ip
  | rotateKey keyId userId address =>
    apply others rfl
    intro history statement allowed
    apply permits statement allowed
    · rintro id approvedBy state rfl
      cases allowed
    · rintro key values id rfl
      cases allowed.2
  | _ =>
    apply others rfl
    intro history statement allowed
    apply permits statement allowed
    · rintro id approvedBy state rfl
      cases allowed
    · rintro key values id rfl
      cases allowed

end Rules

/-- What the statement of the caller is about to overwrite is not over, and whoever has approved it,
the caller's own signer apart, had done so when the caller read it. -/
def timely (store : Store) (caller : Caller Operation Statement Statement.Reply String Result) : Statement → Bool
  | .updateSession id _ _ => store.sessions[id]?.all fun row =>
      !row.state.terminal && row.approvedBy.all fun other =>
        (caller.exchanges.findSome? sessionRead).all (fun read => other ∈ read.approvedBy) ||
          caller.operation.approver = some other
  | .replaceKey _ _ (some id) => store.sessions[id]?.all fun row => !row.state.terminal
  | _ => true

/-- A statement that reaches the database is timely. -/
def upToDate (before : Callers) : Move → Bool
  | .call _ => true
  | .serve index event =>
    match before.callers[index]? with
    | none => true
    | some caller =>
      match caller.rest with
      | .done _ => true
      | .await request _ => event.fault = some .statementLost || timely before.state caller request

/-- Nobody's approval is lost, and a session has inserted at most one key. -/
structure Accountable (service : Callers) : Prop where
  approvals : ∀ caller ∈ service.callers, ∀ keyId id token signature signer ip session,
    caller.operation = .approveRecovery keyId id token signature signer ip →
    caller.rest = .done (.ok (.approval true session)) →
    ∃ row, service.state.sessions[id]? = some row ∧ signer ∈ row.approvedBy
  rotations : ∀ id, service.exchanged.countP (completes id) ≤ 1

/-- A session that is over stays over. -/
def Settled (before after : Store) : Prop :=
  ∀ (id : SessionId) row, before.sessions[id]? = some row → row.state.terminal = true →
    ∃ later, after.sessions[id]? = some later ∧ later.state.terminal = true

/-- What the exchanges so far tell of the sessions. -/
structure Recorded (service : Callers) : Prop where
  follows : ∀ caller ∈ service.callers,
    caller.rest.Follows caller.operation.asks caller.operation.returns caller.exchanges
  found : ∀ id ∈ service.exchanged.filterMap sessionFound,
    ∃ row, service.state.sessions[id]? = some row
  approved : ∀ id approvedBy, (id, approvedBy) ∈ service.exchanged.filterMap approvalWritten →
    ∃ row, service.state.sessions[id]? = some row ∧ approvedBy ⊆ row.approvedBy
  completed : ∀ id, 0 < service.exchanged.countP (completes id) →
    ∃ row, service.state.sessions[id]? = some row ∧ row.state.terminal = true
  rotations : ∀ id, service.exchanged.countP (completes id) ≤ 1

section Serve

variable {platform : Platform} {store : Store} {event : Event} {statement : Statement}
variable {caller : Caller Operation Statement Statement.Reply String Result} {id : SessionId}
variable {row : RecoverySession}

theorem reached (took : ((database platform).exchange store event statement).tookEffect = true) :
    event.fault ≠ some .statementLost := by
  intro lost
  change (store.serve platform event statement).2.1 = true at took
  unfold Store.serve deliver at took
  simp [lost] at took

theorem session_grows (asks : caller.operation.asks caller.exchanges statement)
    (inTime : event.fault = some .statementLost ∨ timely store caller statement = true)
    (present : store.sessions[id]? = some row) :
    ∃ later, ((database platform).next store event statement).sessions[id]? = some later ∧
      row.approvedBy ⊆ later.approvedBy ∧
      (row.state.terminal = true → later.state.terminal = true) := by
  obtain ⟨later, found, rfl | ⟨took, change⟩⟩ := @session_next platform store event statement _ _ present
  · exact ⟨later, found, List.Subset.refl _, fun ended => ended⟩
  · refine ⟨later, found, ?_⟩
    have allowed := inTime.resolve_left (reached took)
    cases change with
    | kept => exact ⟨List.Subset.refl _, fun ended => ended⟩
    | updated approvedBy state =>
      obtain ⟨_, _, read, signer, first, own, rfl⟩ := asks
      simp only [timely, present, Option.all_some, Bool.and_eq_true, Bool.not_eq_true',
        List.all_eq_true, Bool.or_eq_true, decide_eq_true_eq, first, own] at allowed
      constructor
      · grind
      · simp_all
    | rejected reason => exact ⟨List.Subset.refl _, fun _ => rfl⟩
    | completed keyId values stored => exact ⟨List.Subset.refl _, fun _ => rfl⟩

theorem found_new (found : sessionFound ((database platform).exchange store event statement) = some id) :
    ∃ later, ((database platform).next store event statement).sessions[id]? = some later := by
  cases statement with
  | selectSession target =>
    obtain ⟨rfl, row, replied⟩ := sessionFound_some found
    obtain ⟨_, accepted⟩ := answered replied
    have known : store.sessions[target]? = some row :=
      Option.some.inj (congrArg (fun result => (result.toOption).map Prod.fst) accepted)
    rw [next_read rfl]
    exact ⟨row, known⟩
  | _ => cases found

theorem written_new {approvedBy : List String}
    (written : approvalWritten ((database platform).exchange store event statement) =
      some (id, approvedBy)) (present : store.sessions[id]? = some row) :
    ∃ later, ((database platform).next store event statement).sessions[id]? = some later ∧
      approvedBy ⊆ later.approvedBy := by
  cases statement with
  | updateSession target approvals state =>
    obtain ⟨rfl, rfl, replied⟩ := approvalWritten_some written
    obtain ⟨_, accepted⟩ := answered replied
    generalize (database platform).next store event _ = after at accepted ⊢
    cases accepted
    refine ⟨{ row with approvedBy := approvals, state }, ?_, List.Subset.refl _⟩
    simp [Store.updateSession, Store.tick, present]
  | _ => cases written

theorem completes_replaceKey {keyId : KeyId} {values : KeyValues} {target : Option SessionId} (completed : completes id
      ((database platform).exchange store event (.replaceKey keyId values target)) = true) :
    ((database platform).exchange store event (.replaceKey keyId values target)).tookEffect = true ∧
      target = some id := by
  simpa [completes, Server.exchange] using completed

theorem completed_new (completed : completes id ((database platform).exchange store event statement) = true)
    (present : store.sessions[id]? = some row) :
    (∃ keyId values, statement = .replaceKey keyId values (some id)) ∧
    ((database platform).exchange store event statement).tookEffect = true ∧
    ∃ later, ((database platform).next store event statement).sessions[id]? = some later ∧
      later.state.terminal = true := by
  cases statement with
  | replaceKey keyId values target =>
    obtain ⟨took, rfl⟩ := completes_replaceKey completed
    refine ⟨⟨keyId, values, rfl⟩, took, ?_⟩
    obtain ⟨reply, accepted⟩ := performed took
    obtain ⟨replaced, done, same⟩ := bind_ok.mp accepted
    obtain ⟨stored, sessions⟩ := Store.replaceKey_sessions done
    cases pure_ok.mp same
    refine ⟨{ row with state := .completed, newPublicKey := some stored }, ?_, rfl⟩
    rw [sessions]
    simp [Store.tick, present]
  | _ => cases completed

end Serve

section Step

variable {platform : Platform} {before after : Callers} {move : Move}

/-- What a statement that is served leaves of the sessions, and what it adds to the record. -/
structure Served (platform : Platform) (before after : Callers) (event : Event)
    (request : Statement) : Prop where
  grows : ∀ (id : SessionId) row, before.state.sessions[id]? = some row →
    ∃ later, after.state.sessions[id]? = some later ∧ row.approvedBy ⊆ later.approvedBy ∧
      (row.state.terminal = true → later.state.terminal = true)
  exchanged : after.exchanged.Perm
    ((database platform).exchange before.state event request :: before.exchanged)
  state : after.state = (database platform).next before.state event request

variable {index : Nat}

section

variable (recorded : Recorded before)

include recorded

theorem served {event : Event} (moved : step platform before (.serve index event) after)
    (timely : upToDate before (.serve index event) = true) :
    ∃ caller request rest, before.callers[index]? = some caller ∧ caller.rest = .await request rest ∧
      caller.operation.asks caller.exchanges request ∧ Served platform before after event request := by
  obtain ⟨caller, request, rest, found, left, state, callers⟩ := Service.step_serve moved
  have followed := recorded.follows caller (List.mem_of_getElem? found)
  rw [left] at followed
  have inTime : event.fault = some .statementLost ∨
      Recovery.timely before.state caller request = true := by
    simpa [upToDate, found, left] using timely
  refine ⟨caller, request, rest, found, left, followed.1, ?_, ?_, state⟩
  · intro id row present
    rw [state]
    exact session_grows followed.1 inTime present
  · unfold Service.exchanged
    rw [callers]
    exact Service.exchanged_serve found

theorem step_settled (moved : step platform before move after)
    (timely : upToDate before move = true) : Settled before.state after.state := by
  intro id row present finished
  cases move with
  | call operation =>
    rw [(Service.step_call moved).1]
    exact ⟨row, present, finished⟩
  | serve index event =>
    obtain ⟨_, _, _, _, _, _, served⟩ := served recorded moved timely
    obtain ⟨later, found, _, ended⟩ := served.grows id row present
    exact ⟨later, found, ended finished⟩

theorem Recorded.serve {event : Event} (moved : step platform before (.serve index event) after)
    (timely : upToDate before (.serve index event) = true) : Recorded after := by
  obtain ⟨caller, request, rest, present, left, asks, served⟩ := served recorded moved timely
  have exchanged {exchange : Answered} (member : exchange ∈ after.exchanged) :
      exchange = (database platform).exchange before.state event request ∨
        exchange ∈ before.exchanged :=
    List.mem_cons.mp (served.exchanged.mem_iff.mp member)
  have counted (id : SessionId) : after.exchanged.countP (completes id) =
      before.exchanged.countP (completes id) +
        if completes id ((database platform).exchange before.state event request) then 1 else 0 := by
    rw [served.exchanged.countP_eq, List.countP_cons]
  have existed {id : SessionId} (known : id ∈ caller.exchanges.filterMap sessionFound) :
      ∃ row, before.state.sessions[id]? = some row := by
    obtain ⟨exchange, member, found⟩ := List.mem_filterMap.mp known
    apply recorded.found
    refine List.mem_filterMap.mpr ⟨exchange, ?_, found⟩
    exact List.mem_flatMap.mpr ⟨caller, List.mem_of_getElem? present, member⟩
  -- A session whose key is inserted was not over, so that none had been inserted for it.
  have first {id : SessionId}
      (completed : completes id ((database platform).exchange before.state event request) = true) :
      before.exchanged.countP (completes id) = 0 := by
    apply Nat.eq_zero_of_not_pos
    intro already
    obtain ⟨row, found, finished⟩ := recorded.completed id already
    obtain ⟨⟨keyId, values, rfl⟩, took, _⟩ := completed_new completed found
    have lost := reached took
    simp [upToDate, present, left, lost, Recovery.timely, found, finished] at timely
  constructor
  · exact Service.step_follows (script_follows platform) moved recorded.follows
  · intro id known
    obtain ⟨exchange, member, found⟩ := List.mem_filterMap.mp known
    rcases exchanged member with rfl | earlier
    · rw [served.state]
      exact found_new found
    · obtain ⟨row, there⟩ := recorded.found id (List.mem_filterMap.mpr ⟨exchange, earlier, found⟩)
      obtain ⟨later, still, _⟩ := served.grows id row there
      exact ⟨later, still⟩
  · intro id approvedBy known
    obtain ⟨exchange, member, written⟩ := List.mem_filterMap.mp known
    rcases exchanged member with rfl | earlier
    · cases request with
      | updateSession target approvals state =>
        obtain ⟨rfl, _, _⟩ := approvalWritten_some written
        obtain ⟨row, there⟩ := existed asks.2.1
        rw [served.state]
        exact written_new written there
      | _ => cases written
    · obtain ⟨row, there, contained⟩ :=
        recorded.approved id approvedBy (List.mem_filterMap.mpr ⟨exchange, earlier, written⟩)
      obtain ⟨later, still, kept, _⟩ := served.grows id row there
      exact ⟨later, still, List.Subset.trans contained kept⟩
  · intro id positive
    by_cases completed : completes id ((database platform).exchange before.state event request) = true
    · cases request with
      | replaceKey keyId values target =>
        obtain ⟨_, rfl⟩ := completes_replaceKey completed
        obtain ⟨row, there⟩ := existed asks
        rw [served.state]
        exact (completed_new completed there).2.2
      | _ => cases completed
    · rw [counted, if_neg completed, Nat.add_zero] at positive
      obtain ⟨row, there, finished⟩ := recorded.completed id positive
      obtain ⟨later, still, _, ended⟩ := served.grows id row there
      exact ⟨later, still, ended finished⟩
  · intro id
    rw [counted]
    by_cases completed : completes id ((database platform).exchange before.state event request) = true
    · simp [first completed, completed]
    · simpa [completed] using recorded.rotations id

theorem Recorded.call {operation : Operation} (moved : step platform before (.call operation) after) : Recorded after := by
  have exchanged : after.exchanged = before.exchanged := Service.exchanged_call moved
  have state := (Service.step_call moved).1
  constructor
  · exact Service.step_follows (script_follows platform) moved recorded.follows
  · rw [exchanged, state]
    exact recorded.found
  · rw [exchanged, state]
    exact recorded.approved
  · rw [exchanged, state]
    exact recorded.completed
  · rw [exchanged]
    exact recorded.rotations

theorem Recorded.step (moved : step platform before move after)
    (timely : upToDate before move = true) : Recorded after := by
  cases move with
  | call operation => exact recorded.call moved
  | serve index event => exact recorded.serve moved timely

end

theorem Recorded.accountable (recorded : Recorded after) : Accountable after := by
  constructor
  · intro caller member keyId id token signature signer ip session called returned
    have followed := recorded.follows caller member
    rw [returned] at followed
    obtain ⟨_, approvedBy, written, own⟩ :=
      followed _ rfl keyId id token signature signer ip session called rfl
    obtain ⟨exchange, exchanged, wrote⟩ := List.mem_filterMap.mp written
    obtain ⟨row, there, contained⟩ := recorded.approved id approvedBy
      (List.mem_filterMap.mpr ⟨exchange, List.mem_flatMap.mpr ⟨caller, member, exchanged⟩, wrote⟩)
    exact ⟨row, there, contained own⟩
  · exact recorded.rotations

end Step

/-- In a run in which every statement is timely, every approval that was returned is there,
sessions that are over stay over, and no session inserts a second key. -/
theorem sessions_accountable {platform : Platform} {store : Store} {trace : List Move}
    {last : Callers} (run : Run (step platform) ⟨store, []⟩ trace last)
    (timely : Throughout (step platform) ⟨store, []⟩ (fun before move _ => upToDate before move = true) trace) :
    Accountable last ∧ Throughout (step platform) ⟨store, []⟩ (fun before _ after => Settled before.state after.state)
        trace := by
  have recorded {trace : List Move} {last : Callers}
      (run : Run (step platform) ⟨store, []⟩ trace last)
      (timely : Throughout (step platform) ⟨store, []⟩
        (fun before move _ => upToDate before move = true) trace) : Recorded last := by
    apply (run.restrict timely).invariant fun _ => Recorded
    · constructor <;> simp [Service.exchanged]
    · intro _ before move after recorded moved
      exact recorded.step moved.1 moved.2
  refine ⟨(recorded run timely).accountable, ?_⟩
  intro earlier move rest before after split reached moved
  have earlierTimely : Throughout (step platform) ⟨store, []⟩
      (fun before move _ => upToDate before move = true) earlier := by
    intro first label others before after same
    exact timely first label (others ++ move :: rest) before after (by simp [split, same])
  exact step_settled (recorded reached earlierTimely) moved (timely _ _ _ _ _ split reached moved)

/-- A key with two signers who have a token each, and a session that needs both. -/
def Store.ceremony : Store where
  clock := 0
  managedKeys := [⟨"user-1", ⟨firstKeypair.2, by decide⟩,
    KeyVault.wrapping.encrypt firstKeypair.1 "salt", 2, true⟩]
  recoverySigners := [
    ⟨0, ⟨alice.signerPublicKey, by decide⟩, ⟨"Alice", by decide⟩⟩,
    ⟨0, ⟨bob.signerPublicKey, by decide⟩, ⟨"Bob", by decide⟩⟩]
  recoveryTokens := [
    ⟨0, ⟨alice.tokenHash, by decide⟩, ⟨alice.signerPublicKey, by decide⟩, 900000, none⟩,
    ⟨0, ⟨bob.tokenHash, by decide⟩, ⟨bob.signerPublicKey, by decide⟩, 900000, none⟩]
  sessions := [⟨0, 2, .pending, [], none, none, 1800000, none, none,
    ⟨firstKeypair.2, by decide⟩⟩]

/-- The same with both approvals. -/
def Store.approvedCeremony : Store :=
  Store.ceremony.updateSession 0 fun session =>
    { session with
      approvedBy := [alice.signerPublicKey, bob.signerPublicKey]
      state := .awaitingCompletion }

def approveBy (signed : SignedToken) : Operation :=
  .approveRecovery 0 0 signed.token signed.signature signed.signerPublicKey none

/-- The next statements of a caller, without a fault. -/
def turns (caller count : Nat) : List Move :=
  List.replicate count (.serve caller ⟨0, none, secondKeypair.1⟩)

def oneAfterAnother : List Move :=
  [.call (approveBy alice)] ++ turns 0 8 ++ [.call (approveBy bob)] ++ turns 1 8

theorem approvals_kept : ∃ last, Run (step .sample) ⟨.ceremony, []⟩ oneAfterAnother last ∧
    last.state.sessions.map RecoverySession.approvedBy =
      [[alice.signerPublicKey, bob.signerPublicKey]] ∧ Accountable last := by
  obtain ⟨last, followed, approved⟩ := Option.map_eq_some_iff.mp
    (show (oneAfterAnother.foldlM (Service.perform (database .sample) (Operation.script .sample))
        ⟨.ceremony, []⟩).map (fun service => service.state.sessions.map RecoverySession.approvedBy) =
      some [[alice.signerPublicKey, bob.signerPublicKey]] by decide)
  have run : Run (step .sample) ⟨.ceremony, []⟩ oneAfterAnother last := Run.follow followed
  have inTime : Throughout (step .sample) ⟨.ceremony, []⟩
      (fun before move _ => upToDate before move = true) oneAfterAnother :=
    throughout_follow (by decide)
  exact ⟨last, run, approved, (sessions_accountable run inTime).1⟩

/-- Both signers have read the session before either is recorded. -/
def twoApprovals : List Move :=
  [.call (approveBy alice), .call (approveBy bob)] ++ turns 0 1 ++ turns 1 1 ++ turns 0 7 ++ turns 1 7

/-- The session is cancelled after a signer has read it. -/
def lateApproval : List Move :=
  [.call (approveBy alice), .call (.cancelRecoverySession 0 0 "Cancelled by user" none)] ++
    turns 0 5 ++ turns 1 4

/-- Two completions have read the key before either replaces it. -/
def twoCompletions : List Move :=
  [.call (.completeRecovery 0 0 none), .call (.completeRecovery 0 0 none)] ++
    turns 0 3 ++ turns 1 3 ++ turns 0 5 ++ turns 1 5

/-- An approval was returned to its caller and is not there. -/
def approvalMissing (service : Callers) : Bool :=
  service.callers.any fun caller =>
    match caller.operation, caller.rest with
    | .approveRecovery _ id _ _ signer _, .done (.ok (.approval true _)) =>
      service.state.sessions[id]?.all fun row => signer ∉ row.approvedBy
    | _, _ => false

theorem not_accountable {service : Callers} (missing : approvalMissing service = true) : ¬ Accountable service := by
  intro accountable
  obtain ⟨caller, member, lacks⟩ := List.any_eq_true.mp missing
  split at lacks
  · rename_i called returned
    obtain ⟨row, found, own⟩ := accountable.approvals caller member _ _ _ _ _ _ _ called returned
    simp [found, own] at lacks
  · cases lacks

/-- The first session is over. -/
def firstOver (service : Callers) : Bool :=
  service.state.sessions[0]?.any fun row => row.state.terminal

theorem session_overwritten : (∃ last, Run (step .sample) ⟨.ceremony, []⟩ twoApprovals last ∧ ¬ Accountable last) ∧
    (∃ before move after, Run (step .sample) ⟨.ceremony, []⟩ lateApproval before ∧
      step .sample before move after ∧ ¬ Settled before.state after.state) ∧
    ∃ last, Run (step .sample) ⟨.approvedCeremony, []⟩ twoCompletions last ∧
      last.exchanged.countP (completes 0) = 2 := by
  refine ⟨?_, ?_, ?_⟩
  · obtain ⟨last, followed, missing⟩ := Option.map_eq_some_iff.mp
      (show (twoApprovals.foldlM (Service.perform (database .sample) (Operation.script .sample))
        ⟨.ceremony, []⟩).map approvalMissing = some true by decide)
    exact ⟨last, Run.follow followed, not_accountable missing⟩
  · obtain ⟨before, followed, rest⟩ := Option.bind_eq_some_iff.mp
      (show ((lateApproval.foldlM (Service.perform (database .sample) (Operation.script .sample))
        ⟨.ceremony, []⟩).bind fun before =>
          (before.perform (database .sample) (Operation.script .sample)
            (.serve 0 ⟨0, none, ""⟩)).map fun after => (firstOver before, firstOver after)) =
        some (true, false) by decide)
    obtain ⟨after, moved, found⟩ := Option.map_eq_some_iff.mp rest
    obtain ⟨wasOver, isOver⟩ := Prod.mk.inj found
    refine ⟨before, _, after, Run.follow followed, moved, ?_⟩
    intro settled
    obtain ⟨row, present, terminal⟩ := (Option.any_eq_true _ _).mp wasOver
    obtain ⟨later, found, still⟩ := settled 0 row present terminal
    simp [firstOver, found, still] at isOver
  · obtain ⟨last, followed, counted⟩ := Option.map_eq_some_iff.mp
      (show (twoCompletions.foldlM (Service.perform (database .sample) (Operation.script .sample))
        ⟨.approvedCeremony, []⟩).map (fun service => service.exchanged.countP (completes 0)) =
          some 2 by decide)
    exact ⟨last, Run.follow followed, counted⟩

end ProxyPay.Recovery
