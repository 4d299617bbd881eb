import ProxyPay.Idempotency.AtMostOnce

/-! Whatever is replayed was answered to a request with the same key and the same request text; who made
that request is not looked at. -/

namespace ProxyPay.Idempotency

open ProxyPay.Library

variable {Body : Type}

/-- The response that an exchange with a handler brought, where the middleware sees it. -/
def answerOf : Exchanged Body → Option (Response Body)
  | ⟨.next _, .ok ⟨response, true⟩, _⟩ => some response
  | _ => none

/-- What a stored response is replayed as. -/
def Platform.kept (platform : Platform Body) (response : Response Body) : Response Body :=
  ⟨response.statusCode, response.body.map platform.jsonb⟩

/-- The caller's handler has answered with a success that is replayed as this response. -/
def Produced (platform : Platform Body) (producer : Requester Body) (replayed : Response Body) : Prop :=
  ∃ response ∈ producer.exchanges.filterMap answerOf,
    (200 ≤ response.statusCode ∧ response.statusCode < 300) ∧ replayed = platform.kept response

/-- Some caller with the key and the hash has produced the response. -/
def Sourced (platform : Platform Body) (callers : List (Requester Body)) (key requestHash : String)
    (replayed : Response Body) : Prop :=
  ∃ producer ∈ callers, keyOf producer = some key ∧
    hashRequest platform producer.operation = requestHash ∧ Produced platform producer replayed

/-- A request without a key is never answered by a replay. -/
def Unreplayed (request : HttpRequest Body) (outcome : Outcome Body) : Prop :=
  request.claimedKey? = none → ∀ response, outcome ≠ .replayed response

/-- Stored and replayed responses have their sources. -/
structure Traced (platform : Platform Body) (traffic : Traffic Body) : Prop where
  standing : Standing platform True traffic
  rows : ∀ row ∈ traffic.state.rows, row.state = .completed →
    Sourced platform traffic.callers row.key row.requestHash ⟨row.statusCode.getD 200, row.responseBody⟩
  replays : ∀ caller ∈ traffic.callers, ∀ response, caller.rest = .done (.ok (.replayed response)) →
    ∃ key, keyOf caller = some key ∧
      Sourced platform traffic.callers key (hashRequest platform caller.operation) response
  follows : ∀ caller ∈ traffic.callers,
    caller.rest.Follows (fun _ _ => True) (fun _ => Unreplayed caller.operation) caller.exchanges

section Steps

variable {platform : Platform Body} {before after : Traffic Body} {callers later : List (Requester Body)}
variable {key requestHash : String} {response : Response Body}

/-- Callers stay with all that they have exchanged. -/
def Grows (callers later : List (Requester Body)) : Prop :=
  ∀ caller ∈ callers, ∃ other ∈ later, other.operation = caller.operation ∧
    ∀ exchange ∈ caller.exchanges, exchange ∈ other.exchanges

theorem Sourced.grow (sourced : Sourced platform callers key requestHash response) (grows : Grows callers later) :
    Sourced platform later key requestHash response := by
  obtain ⟨producer, member, keyed, hashed, answer, among, success, same⟩ := sourced
  obtain ⟨other, there, operation, exchanges⟩ := grows producer member
  refine ⟨other, there, ?_, ?_, answer, ?_, success, same⟩
  · rw [keyOf, operation]
    exact keyed
  · rw [operation]
    exact hashed
  · grind

variable {statement : Statement Body} {index : ℕ} {caller : Requester Body}

theorem grows_serve {rest : Except String statement.Reply → Work Body (Outcome Body)} (reply : Except String statement.Reply)
    (tookEffect : Bool) (found : callers[index]? = some caller) :
    Grows callers (callers.set index (answered caller statement rest reply tookEffect)) := by
  intro other member
  by_cases same : other = caller
  · subst same
    refine ⟨_, List.mem_set (List.getElem?_eq_some_iff.mp found).1 _, rfl, ?_⟩
    intro exchange had
    exact List.mem_append_left _ had
  · exact ⟨other, mem_set_of_ne member found same, rfl, fun _ had => had⟩

theorem idempotency_follows (request : HttpRequest Body) :
    (idempotency platform request).Follows (fun _ _ => True) (fun _ => Unreplayed request) [] := by
  rcases @idempotency_cases Body platform request with ⟨key, claimed, _⟩ | ⟨_, passes | ⟨_, _, rejects⟩⟩
  · refine Script.Follows.any (fun _ _ => trivial) ?_
    intro history outcome unclaimed
    cases claimed.symm.trans unclaimed
  · rw [passes]
    refine Script.Follows.call_bind trivial fun answer _ => ?_
    exact .done fun _ _ => nofun
  · rw [rejects]
    exact .done fun _ _ => nofun

variable {store : Store Body}

theorem mem_perform {answer : Answer Body}
    {row : IdempotencyRow Body} (member : row ∈ (store.perform platform answer statement).2.rows) :
    row ∈ store.rows ∨ row.state = .inProgress ∨ ∃ earlier ∈ store.rows, ∃ response,
      statement = .storeResponse earlier.key response ∧ row.key = earlier.key ∧ row.requestHash = earlier.requestHash ∧
        (⟨row.statusCode.getD 200, row.responseBody⟩ : Response Body) = platform.kept response := by
  cases statement with
  | deleteExpired key => exact .inl (List.mem_filter.mp member).1
  | insertKey key method path requestHash expiresAt => grind [Store.perform]
  | storeResponse key response =>
    obtain ⟨earlier, there, rfl⟩ := List.mem_map.mp member
    by_cases same : earlier.key = key
    · grind [Platform.kept]
    · rw [if_neg same]
      exact .inl there
  | releaseKey key => exact .inl (List.mem_filter.mp member).1
  | dateNow | selectKey key | next request => exact .inl member

variable {request : HttpRequest Body}

theorem Traced.call (traced : Traced platform before)
    (moved : step platform before (.call request) after) : Traced platform after := by
  obtain ⟨state, callers⟩ := Service.step_call moved
  have grows : Grows before.callers after.callers := by
    intro caller member
    rw [callers]
    exact ⟨caller, List.mem_append_left _ member, rfl, fun _ had => had⟩
  constructor
  · exact traced.standing.call moved
  · intro row member completed
    rw [state] at member
    exact (traced.rows row member completed).grow grows
  · intro caller member response replayed
    rw [callers] at member
    rcases List.mem_append.mp member with earlier | new
    · obtain ⟨key, keyed, sourced⟩ := traced.replays caller earlier response replayed
      exact ⟨key, keyed, sourced.grow grows⟩
    · obtain rfl := List.mem_singleton.mp new
      rcases @idempotency_cases Body platform request with ⟨key, _, script⟩ | ⟨_, passes | ⟨_, _, rejects⟩⟩
      · rw [script] at replayed
        cases replayed
      · rw [passes] at replayed
        cases replayed
      · rw [rejects] at replayed
        cases replayed
  · exact Service.step_follows idempotency_follows moved traced.follows

theorem Placed.stores {lossy : Prop}
    {rest : Except String (Statement.storeResponse key response).Reply → Work Body (Outcome Body)}
    (placed : Placed platform lossy caller) (left : caller.rest = .await (.storeResponse key response) rest) :
    Produced platform caller (platform.kept response) := by
  rcases placed.cases left with ⟨_, _, ⟨request, calls⟩, _⟩ | ⟨own, position, next, _, viewed, _, tells, _⟩
  · cases calls
  · obtain ⟨_, stored, rfl⟩ := view_writes viewed rfl
    obtain ⟨_, tookEffect, had⟩ := tells
    rcases (view_persisting viewed).1 with ⟨success, same⟩ | other
    · cases same
      exact ⟨response, List.mem_filterMap.mpr ⟨_, had, rfl⟩, success, rfl⟩
    · cases other

variable {position : Position Body}

theorem view_ended {outcome : Except String (Outcome Body)}
    (viewed : view platform key request position = .ended outcome) : position = .ended outcome := by
  cases position with
  | persisting response =>
    by_cases success : 200 ≤ response.statusCode ∧ response.statusCode < 300
    · cases (if_pos success).symm.trans viewed
    · cases (if_neg success).symm.trans viewed
  | ended result =>
    cases viewed
    rfl
  | _ => cases viewed

theorem view_replays {next : Except String statement.Reply → Position Body} {reply : Except String statement.Reply}
    (viewed : view platform key request position = .awaits statement next)
    (told : next reply = .ended (.ok (.replayed response))) : position = .selecting := by
  cases position with
  | selecting => rfl
  | passing =>
    cases viewed
    cases reply <;> cases told
  | deleting =>
    cases viewed
    cases reply <;> cases told
  | telling =>
    cases viewed
    cases reply <;> cases told
  | inserting now =>
    cases viewed
    cases reply with
    | error error => cases told
    | ok inserted => exact (afterInsert_ne_ended inserted _ told).elim
  | running =>
    cases viewed
    cases reply with
    | error error => cases told
    | ok answer =>
      obtain ⟨response, byJson⟩ := answer
      cases byJson <;> cases told
  | persisting response =>
    rw [(view_persisting viewed).2] at told
    cases told
  | ended outcome => cases viewed

variable {event : Event Body}

theorem select_replays (told : afterSelect platform request ((server platform).exchange store event (.selectKey key)).reply =
      .ended (.ok (.replayed response))) :
    ∃ row ∈ store.rows, row.key = key ∧ row.requestHash = hashRequest platform request ∧ row.state = .completed ∧
      response = ⟨row.statusCode.getD 200, row.responseBody⟩ := by
  rcases @served Body platform store event (.selectKey key) with ⟨reply, -⟩ | ⟨-, ⟨error, reply⟩, -⟩
  · rw [reply] at told
    cases found : store.rows.find? fun row => row.key = key with
    | none =>
      have nothing : ((store.wait event.elapsed).perform platform event.answer (.selectKey key)).1 = none := found
      rw [nothing] at told
      cases told
    | some row =>
      have selected : ((store.wait event.elapsed).perform platform event.answer (.selectKey key)).1 = some row := found
      rw [selected] at told
      refine ⟨row, List.mem_of_find?_eq_some found, by simpa using List.find?_some found, ?_⟩
      have reused : reuse (hashRequest platform request) row = .replayed response := by
        simpa [afterSelect] using told
      unfold reuse at reused
      split at reused
      · cases reused
      · rename_i same
        split at reused
        · cases reused
        · rename_i finished
          cases reused
          refine ⟨by simpa using same, ?_, rfl⟩
          cases state : row.state with
          | inProgress => exact (finished state).elim
          | completed => rfl
  · rw [reply] at told
    cases told

theorem Traced.serve (traced : Traced platform before)
    (moved : step platform before (.serve index event) after) (safe : secured before (.serve index event) = true) :
    Traced platform after := by
  obtain ⟨caller, statement, rest, found, left, state, callers⟩ := Service.step_serve moved
  have standing := traced.standing
  have placed := standing.placed caller (List.mem_of_getElem? found)
  have grows : Grows before.callers after.callers := by
    rw [callers]
    exact grows_serve _ _ found
  constructor
  · exact standing.serve moved safe fun _ => trivial
  · intro row member completed
    rw [state] at member
    have before_or : row ∈ before.state.rows ∨
        row ∈ ((before.state.wait event.elapsed).perform platform event.answer statement).2.rows := by
      rcases @next_rows Body platform before.state event statement with same | same
      · exact .inl (same ▸ member)
      · exact .inr (same ▸ member)
    have earlier (there : row ∈ before.state.rows) := (traced.rows row there completed).grow grows
    rcases before_or with there | there
    · exact earlier there
    · rcases mem_perform there with there | progress | ⟨stored, among, response, rfl, keyed, hashed, replayed⟩
      · exact earlier there
      · simp_all
      · obtain ⟨own, holds⟩ := placed.writes left rfl
        obtain ⟨guard, guarding, guards, _, kept⟩ := standing.guarded caller (List.mem_of_getElem? found) holds
        obtain rfl := List.inj_on_of_nodup_map standing.distinct guarding among
          (Option.some.inj (guards.symm.trans own))
        have sourced : Sourced platform before.callers row.key row.requestHash ⟨row.statusCode.getD 200, row.responseBody⟩ := by
          rw [keyed, hashed, replayed]
          exact ⟨caller, List.mem_of_getElem? found, own, kept.symm, placed.stores left⟩
        exact sourced.grow grows
  · intro other member response replayed
    rw [callers] at member
    rcases List.mem_or_eq_of_mem_set member with earlier | rfl
    · obtain ⟨key, keyed, sourced⟩ := traced.replays other earlier response replayed
      exact ⟨key, keyed, sourced.grow grows⟩
    · cases own : keyOf caller with
      | none =>
        have unreplayed := (Service.step_follows idempotency_follows moved traced.follows) _
          (callers ▸ List.mem_set (List.getElem?_eq_some_iff.mp found).1 _)
        rw [replayed] at unreplayed
        exact (unreplayed _ rfl own response rfl).elim
      | some key =>
        refine ⟨key, own, ?_⟩
        rcases placed.cases left with ⟨none, _⟩ | ⟨same, position, next, keyed, viewed, _, _, stands⟩
        · cases none.symm.trans own
        · obtain rfl : key = same := Option.some.inj (own.symm.trans keyed)
          have there := stands ((server platform).exchange before.state event statement).reply
          rw [show rest ((server platform).exchange before.state event statement).reply = _ from replayed] at there
          have told := view_ended there.done
          obtain rfl := view_replays viewed told
          cases viewed
          obtain ⟨row, among, rfl, hashed, completed, rfl⟩ := select_replays told
          have sourced := (traced.rows row among completed).grow grows
          rw [hashed] at sourced
          exact sourced
  · exact Service.step_follows idempotency_follows moved traced.follows

end Steps

section Runs

variable {platform : Platform Body} {trace : List (Move Body)} {traffic : Traffic Body}

theorem secured_traced (run : Run (step platform) .initial trace traffic)
    (passed : Throughout (step platform) .initial (fun before move _ => secured before move = true) trace) :
    Traced platform traffic := by
  refine (run.restrict passed).invariant (fun _ => Traced platform) ?_ ?_
  · exact ⟨.initial, nofun, nofun, nofun⟩
  · rintro trace before move after traced ⟨moved, safe⟩
    cases move with
    | call request => exact traced.call moved
    | serve index event => exact traced.serve moved safe

/-- A replayed response was answered to a request with the same key, method, url and body. -/
theorem replays_same_request (run : Run (step platform) .initial trace traffic)
    (passed : Throughout (step platform) .initial (fun before move _ => secured before move = true) trace)
    (collisionFree : ∀ first ∈ traffic.callers, ∀ second ∈ traffic.callers,
      hashRequest platform first.operation = hashRequest platform second.operation →
        requestText platform first.operation = requestText platform second.operation)
    {caller : Requester Body} (member : caller ∈ traffic.callers) {response : Response Body}
    (replayed : caller.rest = .done (.ok (.replayed response))) :
    ∃ producer ∈ traffic.callers, keyOf producer = keyOf caller ∧
      requestText platform producer.operation = requestText platform caller.operation ∧
        Produced platform producer response := by
  obtain ⟨key, keyed, producer, there, own, hashed, produced⟩ :=
    (secured_traced run passed).replays caller member response replayed
  exact ⟨producer, there, own.trans keyed.symm, collisionFree producer there caller member hashed, produced⟩

end Runs

/-- What a caller was told. -/
def outcomeOf (caller : Requester Body) : Option (Outcome Body) :=
  match caller.rest with
  | .done (.ok outcome) => some outcome
  | _ => none

theorem rest_of_outcome {caller : Requester Body} {outcome : Outcome Body} (told : outcomeOf caller = some outcome) :
    caller.rest = .done (.ok outcome) := by
  unfold outcomeOf at told
  split at told
  · simp_all
  · cases told

instance : DecidableEq (HttpRequest (List (String × String))) := inferInstance

instance : DecidableEq (Response (List (String × String))) := inferInstance

instance : DecidableEq (Outcome (List (String × String))) := inferInstance

def accepted : Response (List (String × String)) := ⟨201, some [("status", "pending")]⟩

theorem retry_of_the_same_request : ∃ traffic, Run (step .sample) .initial retried traffic ∧
    ∃ caller ∈ traffic.callers, caller.rest = .done (.ok (.replayed accepted)) ∧
      ∃ producer ∈ traffic.callers, keyOf producer = keyOf caller ∧
        requestText .sample producer.operation = requestText .sample caller.operation ∧
          Produced .sample producer accepted := by
  obtain ⟨traffic, followed, seen⟩ := Option.map_eq_some_iff.mp
    (show (retried.foldlM (Service.perform (server .sample) (idempotency .sample)) Traffic.initial).map
      (fun traffic => traffic.callers.map fun caller => (caller.operation, outcomeOf caller)) =
        some [(transfer, some (.handled accepted)), (transfer, some (.replayed accepted))] by decide)
  have run : Run (step .sample) .initial retried traffic := Run.follow followed
  have same : ∀ caller ∈ traffic.callers, caller.operation = transfer := by
    intro caller member
    have among : (caller.operation, outcomeOf caller) ∈
        traffic.callers.map fun caller => (caller.operation, outcomeOf caller) :=
      List.mem_map.mpr ⟨caller, member, rfl⟩
    rw [seen] at among
    simp only [List.mem_cons, List.not_mem_nil, or_false, Prod.mk.injEq] at among
    exact among.elim And.left And.left
  have last : (transfer, some (.replayed accepted)) ∈
      traffic.callers.map fun caller => (caller.operation, outcomeOf caller) := by
    rw [seen]
    simp
  obtain ⟨caller, member, told⟩ := List.mem_map.mp last
  have replayed := rest_of_outcome (Prod.mk.inj told).2
  refine ⟨traffic, run, caller, member, replayed, ?_⟩
  apply replays_same_request run (throughout_follow (by decide)) _ member replayed
  intro first among second there _
  rw [same first among, same second there]

/-- Another user's request with the same key and the same body. -/
def otherUsers : HttpRequest (List (String × String)) :=
  { transfer with user := "bob" }

/-- The request of one user is answered before the other one's arrives. -/
def crossed : List (Move (List (String × String))) :=
  [.call transfer] ++ turns 0 5 201 ++ [.call otherUsers] ++ turns 1 4 201

/-- A caller's user, outcome and own answers. -/
def told (caller : Requester (List (String × String))) :
    String × Option (Outcome (List (String × String))) × List (Response (List (String × String))) :=
  (caller.operation.user, outcomeOf caller, caller.exchanges.filterMap answerOf)

theorem replay_crosses_users : ¬∀ trace traffic, Run (step .sample) .initial trace traffic → trace.all instant = true →
      ∀ caller ∈ traffic.callers, ∀ response, caller.rest = .done (.ok (.replayed response)) →
        ∃ producer ∈ traffic.callers, producer.operation.user = caller.operation.user ∧
          Produced .sample producer response := by
  intro always
  obtain ⟨traffic, followed, seen⟩ := Option.map_eq_some_iff.mp
    (show (crossed.foldlM (Service.perform (server .sample) (idempotency .sample)) Traffic.initial).map
      (fun traffic => traffic.callers.map told) =
        some [("alice", some (.handled accepted), [accepted]), ("bob", some (.replayed accepted), [])] by
      decide)
  have last : ("bob", some (.replayed accepted), []) ∈ traffic.callers.map told := by
    rw [seen]
    simp
  obtain ⟨caller, member, same⟩ := List.mem_map.mp last
  obtain ⟨user, outcome⟩ := Prod.mk.inj same
  obtain ⟨producer, there, owner, response, answered, _⟩ := always crossed traffic (Run.follow followed)
    (by decide) caller member accepted (rest_of_outcome (Prod.mk.inj outcome).1)
  have among : told producer ∈ traffic.callers.map told := List.mem_map_of_mem there
  have bobs : producer.operation.user = "bob" := owner.trans user
  rw [seen] at among
  simp only [told, bobs, List.mem_cons, List.not_mem_nil, or_false, Prod.mk.injEq] at among
  rcases among with ⟨alice, _⟩ | ⟨_, _, nothing⟩
  · revert alice
    decide
  · rw [nothing] at answered
    cases answered

end ProxyPay.Idempotency
