import ProxyPay.Idempotency.Middleware
import ProxyPay.Library.Exclusive
import ProxyPay.Library.Json
import ProxyPay.Library.Machine

/-! A key lets one handler run at a time, and a stored response is what later requests get, as long as no
request that has lost the insertion finds the row gone, and no run outlives its row. -/

namespace ProxyPay.Idempotency

open ProxyPay.Library

variable {Body : Type}

/-- The key that a request claims. -/
def HttpRequest.claimedKey? (request : HttpRequest Body) : Option String :=
  if request.method ∉ mutatingMethods then none
  else request.key?.filter fun key => key.length ≤ maxKeyLength

/-! The places where a request that claims a key can stand. -/

inductive Position (Body : Type) where
  | passing
  | deleting
  | telling
  | inserting (now : ℕ)
  | selecting
  | running
  | persisting (response : Response Body)
  | ended (outcome : Except String (Outcome Body))

section View

variable (platform : Platform Body) (key : String) (request : HttpRequest Body)

def afterInsert : Except String ℕ → Position Body
  | .ok inserted => if inserted = 1 then .running else .selecting
  | .error _ => .passing

def afterSelect : Except String (Option (IdempotencyRow Body)) → Position Body
  | .ok none => .running
  | .ok (some existing) => .ended (.ok (reuse (hashRequest platform request) existing))
  | .error _ => .passing

def afterRun : Except String (Answer Body) → Position Body
  | .ok answer => if answer.byJson then .persisting answer.response else .ended (.ok (.handled answer.response))
  | .error error => .ended (.error error)

abbrev Seen (Body : Type) := View (Statement Body) Statement.Reply String (Outcome Body) (Position Body)

def view : Position Body → Seen Body
  | .passing => .awaits (.next request) fun reply => .ended (reply.map fun answer => .handled (Answer.response answer))
  | .deleting => .awaits (.deleteExpired key) fun reply =>
    match reply with
    | .ok _ => .telling
    | .error _ => .passing
  | .telling => .awaits .dateNow fun reply =>
    match reply with
    | .ok now => .inserting now
    | .error _ => .passing
  | .inserting now =>
    .awaits (.insertKey key request.method (String.ofList (request.originalUrl.toList.take 512))
      (hashRequest platform request) (now + platform.ttl)) afterInsert
  | .selecting => .awaits (.selectKey key) (afterSelect platform request)
  | .running => .awaits (.next request) afterRun
  | .persisting response =>
    if 200 ≤ response.statusCode ∧ response.statusCode < 300 then
      .awaits (.storeResponse key response) fun _ => .ended (.ok (.handled response))
    else .awaits (.releaseKey key) fun _ => .ended (.ok (.handled response))
  | .ended outcome => .ended outcome

theorem pass_stands : Script.Stands (view platform key request) .passing (pass request) := by
  refine .awaits rfl fun reply => ?_
  cases reply with
  | error error | ok answer => exact .ended rfl

theorem persist_stands (response : Response Body) : Script.Stands (view platform key request) (.persisting response)
      ((persist key response).bind fun _ => .done (.ok (.handled response))) := by
  unfold persist
  by_cases success : 200 ≤ response.statusCode ∧ response.statusCode < 300
  · have seen : view platform key request (.persisting response) =
        .awaits (.storeResponse key response) fun _ => .ended (.ok (.handled response)) := if_pos success
    rw [if_pos success]
    refine .awaits seen fun reply => ?_
    cases reply <;> exact .ended rfl
  · have seen : view platform key request (.persisting response) =
        .awaits (.releaseKey key) fun _ => .ended (.ok (.handled response)) := if_neg success
    rw [if_neg success]
    refine .awaits seen fun reply => ?_
    cases reply <;> exact .ended rfl

theorem handle_stands : Script.Stands (view platform key request) .running (handle key request) := by
  refine .awaits rfl fun reply => ?_
  cases reply with
  | error error => exact .ended rfl
  | ok answer =>
    obtain ⟨response, byJson⟩ := answer
    cases byJson with
    | false => exact .ended rfl
    | true => exact persist_stands platform key request response

theorem select_stands : Script.Stands (view platform key request) .selecting
    (((Script.bind (ask (.selectKey key)) fun existing : Option (IdempotencyRow Body) =>
      .done (.ok (some existing))).catching fun _ => .done (.ok none)).bind fun claimed =>
        match claimed with
        | none => pass request
        | some none => handle key request
        | some (some existing) => .done (.ok (reuse (hashRequest platform request) existing))) := by
  refine .awaits rfl fun reply => ?_
  cases reply with
  | error error => exact pass_stands platform key request
  | ok existing =>
    match existing with
    | none => exact handle_stands platform key request
    | some existing => exact .ended rfl

theorem inserted_stands (inserted : ℕ) : Script.Stands (view platform key request) (afterInsert (.ok inserted))
    (((Script.bind (if inserted = 1 then .done (.ok none) else ask (.selectKey key))
      fun existing : Option (IdempotencyRow Body) => .done (.ok (some existing))).catching
        fun _ => .done (.ok none)).bind fun claimed =>
          match claimed with
          | none => pass request
          | some none => handle key request
          | some (some existing) => .done (.ok (reuse (hashRequest platform request) existing))) := by
  match inserted with
  | 0 => exact select_stands platform key request
  | 1 => exact handle_stands platform key request
  | more + 2 => exact select_stands platform key request

theorem protect_stands : Script.Stands (view platform key request) .deleting (protect platform key request) := by
  refine .awaits rfl fun reply => ?_
  cases reply with
  | error error => exact pass_stands platform key request
  | ok value =>
    refine .awaits rfl fun reply => ?_
    cases reply with
    | error error => exact pass_stands platform key request
    | ok now =>
      refine .awaits rfl fun reply => ?_
      cases reply with
      | error error => exact pass_stands platform key request
      | ok inserted => exact inserted_stands platform key request inserted

end View

/-! Who holds a key. -/

abbrev Exchanged (Body : Type) := Exchange (Statement Body) Statement.Reply String

/-- The exchange is an insertion that has claimed the key. -/
def claims : Exchanged Body → Bool
  | ⟨.insertKey .., .ok inserted, _⟩ => Nat.beq inserted 1
  | _ => false

/-- The request has claimed its key and is not over. -/
def holding (caller : Requester Body) : Bool :=
  caller.exchanges.any claims && !caller.rest.isDone

def keyOf (caller : Requester Body) : Option String :=
  caller.operation.claimedKey?

/-- The caller waits for its handler. -/
def handling (caller : Requester Body) : Bool :=
  (keyOf caller).isSome &&
    match caller.rest with
    | .await (.next _) _ => true
    | _ => false

/-- What a place says about the exchanges that led there. -/
def Tells (request : HttpRequest Body) (exchanges : List (Exchanged Body)) : Position Body → Prop
  | .running => exchanges.any claims = true
  | .persisting response => exchanges.any claims = true ∧
      ∃ tookEffect, ⟨.next request, .ok ⟨response, true⟩, tookEffect⟩ ∈ exchanges
  | .ended _ => True
  | _ => exchanges.any claims = false

/-- The request only calls its handler. -/
def Statement.IsNext (statement : Statement Body) : Prop :=
  ∃ request, statement = .next request

/-- Where a caller stands; only where the store may fail it runs its handler without having the key. -/
def Placed (platform : Platform Body) (lossy : Prop) (caller : Requester Body) : Prop :=
  match keyOf caller with
  | none => caller.rest.Asks Statement.IsNext ∧ caller.exchanges.any claims = false
  | some key => ∃ position, (position = .passing → lossy) ∧
      Script.Stands (view platform key caller.operation) position caller.rest ∧
      Tells caller.operation caller.exchanges position

structure Standing (platform : Platform Body) (lossy : Prop) (traffic : Traffic Body) : Prop where
  placed : ∀ caller ∈ traffic.callers, Placed platform lossy caller
  exclusive : Exclusive keyOf holding traffic.callers
  distinct : (traffic.state.rows.map IdempotencyRow.key).Nodup
  guarded : ∀ caller ∈ traffic.callers, holding caller = true →
    ∃ row ∈ traffic.state.rows, keyOf caller = some row.key ∧ row.state = .inProgress ∧
      row.requestHash = hashRequest platform caller.operation

/-- What a step must not do: let time pass beyond the expiry of a key that is held, or select a row that
is gone. -/
def secured (traffic : Traffic Body) : Move Body → Bool
  | .call _ => true
  | .serve index event =>
    (traffic.callers.all fun caller => !holding caller || traffic.state.rows.all fun row =>
      decide (keyOf caller = some row.key → traffic.state.now + event.elapsed < row.expiresAt)) &&
    match (traffic.callers[index]?).map Caller.rest with
    | some (.await (.selectKey key) _) => traffic.state.rows.any fun row => row.key = key
    | _ => true

section Serve

variable {platform : Platform Body} {store : Store Body} {event : Event Body}

theorem served (statement : Statement Body) : ((server platform).exchange store event statement).reply =
        .ok ((store.wait event.elapsed).perform platform event.answer statement).1 ∧
      (server platform).next store event statement =
        ((store.wait event.elapsed).perform platform event.answer statement).2 ∨
    (statement.isQuery = true ∧ event.fault ≠ none) ∧
      (∃ error, ((server platform).exchange store event statement).reply = .error error) ∧
      ((server platform).next store event statement = store.wait event.elapsed ∨
        (server platform).next store event statement =
          ((store.wait event.elapsed).perform platform event.answer statement).2) := by
  obtain ⟨elapsed, fault, answer⟩ := event
  cases query : statement.isQuery with
  | false => 
    left
    simp [Server.exchange, Server.next, server, query, Fault.deliver]
  | true =>
    cases fault with
    | none =>
      left
      simp [Server.exchange, Server.next, server, Fault.deliver]
    | some fault =>
      right
      cases fault with
      | requestLost | replyLost => simp [Server.exchange, Server.next, server, query, Fault.deliver]

/-- The key whose row a statement completes or releases. -/
def Statement.writes : Statement Body → Option String
  | .storeResponse key _ => some key
  | .releaseKey key => some key
  | _ => none

variable (answer : Answer Body)

theorem perform_distinct (statement : Statement Body)
    (distinct : (store.rows.map IdempotencyRow.key).Nodup) :
    (((store.perform platform answer statement).2.rows).map IdempotencyRow.key).Nodup := by
  cases statement with
  | deleteExpired key => exact (List.filter_sublist.map _).nodup distinct
  | insertKey key method path requestHash expiresAt =>
    simp only [Store.perform]
    split
    · exact distinct
    · rename_i absent
      rw [List.map_append]
      refine List.nodup_append'.mpr ⟨distinct, List.nodup_singleton _, ?_⟩
      intro other member same
      obtain ⟨row, there, rfl⟩ := List.mem_map.mp member
      simp only [List.map_cons, List.map_nil, List.mem_singleton] at same
      exact absent (List.any_eq_true.mpr ⟨row, there, by simpa using same⟩)
  | storeResponse key response => grind [Store.complete, List.map_map, Store.perform]
  | releaseKey key => exact (List.filter_sublist.map _).nodup distinct
  | dateNow | selectKey key | next request => exact distinct

theorem perform_keeps {statement : Statement Body} {row : IdempotencyRow Body}
    (member : row ∈ store.rows) (lives : ∀ key, statement = .deleteExpired key → row.key = key →
      store.now < row.expiresAt) (unwritten : statement.writes ≠ some row.key) :
    row ∈ (store.perform platform answer statement).2.rows := by
  cases statement with
  | deleteExpired key =>
    apply List.mem_filter.mpr
    refine ⟨member, ?_⟩
    by_cases same : row.key = key
    · simp_all
    · simp [same]
  | insertKey key method path requestHash expiresAt => grind [Store.perform]
  | storeResponse key response =>
    have other : row.key ≠ key := fun same => unwritten (by simp [Statement.writes, same])
    exact List.mem_map.mpr ⟨row, member, if_neg other⟩
  | releaseKey key =>
    have other : row.key ≠ key := fun same => unwritten (by simp [Statement.writes, same])
    exact List.mem_filter.mpr ⟨member, by simpa using other⟩
  | dateNow | selectKey key | next request => exact member

theorem next_rows (statement : Statement Body) : ((server platform).next store event statement).rows = store.rows ∨
      ((server platform).next store event statement).rows =
        ((store.wait event.elapsed).perform platform event.answer statement).2.rows := by
  rcases @served Body platform store event statement with ⟨-, next⟩ | ⟨-, -, next | next⟩
  · exact .inr (by rw [next])
  · exact .inl (by rw [next]; rfl)
  · exact .inr (by rw [next])

theorem perform_now (statement : Statement Body) :
    (store.perform platform answer statement).2.now = store.now := by
  cases statement with
  | insertKey key method path requestHash expiresAt =>
    simp only [Store.perform]
    split <;> rfl
  | _ => rfl

theorem next_now (statement : Statement Body) :
    ((server platform).next store event statement).now = store.now + event.elapsed := by
  rcases @served Body platform store event statement with ⟨-, next⟩ | ⟨-, -, next | next⟩
  · rw [next, perform_now]
    rfl
  · rw [next]
    rfl
  · rw [next, perform_now]
    rfl

theorem next_distinct (statement : Statement Body) (distinct : (store.rows.map IdempotencyRow.key).Nodup) :
    (((server platform).next store event statement).rows.map IdempotencyRow.key).Nodup := by
  rcases @next_rows Body platform store event statement with same | same
  · rwa [same]
  · rw [same]
    exact perform_distinct event.answer statement distinct

theorem next_keeps {statement : Statement Body} {row : IdempotencyRow Body} (member : row ∈ store.rows)
    (lives : ∀ key, statement = .deleteExpired key → row.key = key → store.now + event.elapsed < row.expiresAt)
    (unwritten : statement.writes ≠ some row.key) :
    row ∈ ((server platform).next store event statement).rows := by
  rcases @next_rows Body platform store event statement with same | same
  · rwa [same]
  · rw [same]
    have later : row ∈ (store.wait event.elapsed).rows := member
    exact perform_keeps event.answer later lives unwritten

theorem claims_fresh {statement : Statement Body}
    (claimed : claims ((server platform).exchange store event statement) = true) :
    ∃ key method path requestHash expiresAt, statement = .insertKey key method path requestHash expiresAt ∧
      (∀ row ∈ store.rows, row.key ≠ key) ∧
      ((server platform).next store event statement).rows =
        store.rows ++ [⟨key, method, path, requestHash, .inProgress, none, none, expiresAt⟩] := by
  cases statement with
  | insertKey key method path requestHash expiresAt =>
    refine ⟨key, method, path, requestHash, expiresAt, rfl, ?_⟩
    change claims ⟨.insertKey key method path requestHash expiresAt, ((server platform).exchange store event
      (.insertKey key method path requestHash expiresAt)).reply, _⟩ = true at claimed
    rcases @served Body platform store event (.insertKey key method path requestHash expiresAt) with
      ⟨reply, next⟩ | ⟨-, ⟨error, reply⟩, -⟩
    · rw [reply] at claimed
      rw [next]
      by_cases present : store.rows.any (fun row => decide (row.key = key)) = true
      · have lost : (store.wait event.elapsed).perform platform event.answer
            (.insertKey key method path requestHash expiresAt) = ((0 : ℕ), store.wait event.elapsed) :=
          if_pos present
        rw [lost] at claimed
        cases claimed
      · have inserts : (store.wait event.elapsed).perform platform event.answer
            (.insertKey key method path requestHash expiresAt) = ((1 : ℕ), { store.wait event.elapsed with
              rows := store.rows ++ [⟨key, method, path, requestHash, .inProgress, none, none, expiresAt⟩] }) :=
          if_neg present
        rw [inserts]
        refine ⟨?_, rfl⟩
        intro row member same
        exact present (List.any_eq_true.mpr ⟨row, member, by simpa using same⟩)
    · rw [reply] at claimed
      cases claimed
  | _ => cases claimed

end Serve

section Places

variable {platform : Platform Body} {key : String} {request : HttpRequest Body} {position : Position Body}
variable {statement : Statement Body} {next : Except String statement.Reply → Position Body}
variable {exchanges : List (Exchanged Body)}

theorem view_persisting {response : Response Body}
    (viewed : view platform key request (.persisting response) = .awaits statement next) :
    ((200 ≤ response.statusCode ∧ response.statusCode < 300) ∧ statement = .storeResponse key response ∨
      statement = .releaseKey key) ∧ ∀ reply, next reply = .ended (.ok (.handled response)) := by
  by_cases success : 200 ≤ response.statusCode ∧ response.statusCode < 300
  · have seen := (if_pos success).symm.trans viewed
    cases seen
    exact ⟨.inl ⟨success, rfl⟩, fun _ => rfl⟩
  · have seen := (if_neg success).symm.trans viewed
    cases seen
    exact ⟨.inr rfl, fun _ => rfl⟩

section

variable (viewed : view platform key request position = .awaits statement next)

include viewed

theorem view_writes {written : String} (writes : statement.writes = some written) :
    written = key ∧ ∃ response, position = .persisting response := by
  cases position with
  | persisting response =>
    have same : statement.writes = some key := by
      rcases (view_persisting viewed).1 with ⟨_, rfl⟩ | rfl <;> rfl
    exact ⟨Option.some.inj (writes.symm.trans same), response, rfl⟩
  | _ => cases viewed <;> cases writes

variable {other method path requestHash : String} {expiresAt : ℕ}

theorem view_insert (inserts : statement = .insertKey other method path requestHash expiresAt) :
    other = key ∧ requestHash = hashRequest platform request := by
  cases position with
  | persisting response =>
    rcases (view_persisting viewed).1 with ⟨_, rfl⟩ | rfl <;> cases inserts
  | inserting now =>
    subst inserts
    cases viewed
    exact ⟨rfl, rfl⟩
  | _ => subst inserts; cases viewed

end

theorem stands_ended {outcome : Except String (Outcome Body)} {rest : Work Body (Outcome Body)}
    (stands : Script.Stands (view platform key request) (.ended outcome) rest) : rest = .done outcome := by
  cases stands with
  | ended viewed =>
    cases viewed
    rfl
  | awaits viewed => cases viewed

theorem any_claims_append (exchange : Exchanged Body) :
    (exchanges ++ [exchange]).any claims = (exchanges.any claims || claims exchange) := by
  simp

theorem tells_inserted (unclaimed : exchanges.any claims = false) (inserted : ℕ) (tookEffect : Bool) :
    Tells request (exchanges ++ [⟨.insertKey other method path requestHash expiresAt, .ok inserted, tookEffect⟩])
      (afterInsert (.ok inserted)) := by
  match inserted with
  | 0 | 1 | more + 2 => exact (any_claims_append _).trans (by rw [unclaimed]; rfl)

theorem tells_next (viewed : view platform key request position = .awaits statement next)
    (tells : Tells request exchanges position) (reply : Except String statement.Reply) (tookEffect : Bool)
    (there : position = .selecting → next reply ≠ .running) :
    Tells request (exchanges ++ [⟨statement, reply, tookEffect⟩]) (next reply) := by
  cases position with
  | passing =>
    cases viewed
    trivial
  | deleting =>
    cases viewed
    cases reply <;> simpa [Tells, claims] using tells
  | telling =>
    cases viewed
    cases reply <;> simpa [Tells, claims] using tells
  | inserting now =>
    cases viewed
    cases reply with
    | error error => simpa [Tells, claims, afterInsert] using tells
    | ok inserted => exact tells_inserted tells inserted tookEffect
  | selecting =>
    cases viewed
    match reply with
    | .error error => simpa [Tells, claims, afterSelect] using tells
    | .ok none => exact (there rfl rfl).elim
    | .ok (some existing) => trivial
  | running =>
    cases viewed
    cases reply with
    | error error => trivial
    | ok answer =>
      obtain ⟨response, byJson⟩ := answer
      cases byJson with
      | false => trivial
      | true =>
        constructor
        · rw [any_claims_append, show exchanges.any claims = true from tells, Bool.true_or]
        · exact ⟨tookEffect, by simp⟩
  | persisting response =>
    rw [(view_persisting viewed).2]
    trivial
  | ended outcome => cases viewed

theorem afterInsert_ne_passing (inserted : ℕ) : afterInsert (.ok inserted) ≠ (.passing : Position Body) := by
  by_cases first : inserted = 1 <;> simp [afterInsert, first]

theorem afterInsert_ne_ended (inserted : ℕ) (outcome : Except String (Outcome Body)) :
    afterInsert (.ok inserted) ≠ (.ended outcome : Position Body) := by
  by_cases first : inserted = 1 <;> simp [afterInsert, first]

theorem view_passing {lossy : Prop} (viewed : view platform key request position = .awaits statement next)
    (reply : Except String statement.Reply)
    (failed : ∀ error, reply = .error error → lossy) :
    next reply = .passing → lossy := by
  cases position with
  | passing =>
    cases viewed
    exact nofun
  | deleting =>
    cases viewed
    cases reply with
    | error error => exact fun _ => failed error rfl
    | ok value => exact nofun
  | telling =>
    cases viewed
    cases reply with
    | error error => exact fun _ => failed error rfl
    | ok value => exact nofun
  | inserting now =>
    cases viewed
    cases reply with
    | error error => exact fun _ => failed error rfl
    | ok inserted => exact fun passes => (afterInsert_ne_passing inserted passes).elim
  | selecting =>
    cases viewed
    match reply with
    | .error error => exact fun _ => failed error rfl
    | .ok none | .ok (some existing) => exact nofun
  | running =>
    cases viewed
    cases reply with
    | error error => exact nofun
    | ok answer =>
      intro passes
      change (if answer.byJson = true then _ else _) = _ at passes
      split at passes <;> cases passes
  | persisting response =>
    rw [(view_persisting viewed).2]
    exact nofun
  | ended outcome => cases viewed

end Places

section Callers

variable {platform : Platform Body} {lossy : Prop} {caller : Requester Body} {statement : Statement Body}
variable {rest : Except String statement.Reply → Work Body (Outcome Body)}

/-- The caller after an answer. -/
def answered (caller : Requester Body) (statement : Statement Body)
    (rest : Except String statement.Reply → Work Body (Outcome Body)) (reply : Except String statement.Reply)
    (tookEffect : Bool) : Requester Body :=
  ⟨caller.operation, caller.exchanges ++ [⟨statement, reply, tookEffect⟩], rest reply⟩

theorem Placed.cases (placed : Placed platform lossy caller) (left : caller.rest = .await statement rest) :
    (keyOf caller = none ∧ caller.exchanges.any claims = false ∧ statement.IsNext ∧
      ∀ reply, (rest reply).Asks Statement.IsNext) ∨
    ∃ key position next, keyOf caller = some key ∧ view platform key caller.operation position = .awaits statement next ∧
      (position = .passing → lossy) ∧ Tells caller.operation caller.exchanges position ∧
      ∀ reply, Script.Stands (view platform key caller.operation) (next reply) (rest reply) := by
  unfold Placed at placed
  cases own : keyOf caller with
  | none =>
    rw [own] at placed
    rw [left] at placed
    exact .inl ⟨rfl, placed.2, placed.1.1, placed.1.2⟩
  | some key =>
    rw [own] at placed
    obtain ⟨position, passes, stands, tells⟩ := placed
    rw [left] at stands
    obtain ⟨next, viewed, answers⟩ := stands.await
    exact .inr ⟨key, position, next, rfl, viewed, passes, tells, answers⟩

theorem claims_next {request : HttpRequest Body} (reply : Except String (Statement.next request).Reply)
    (tookEffect : Bool) : claims (⟨.next request, reply, tookEffect⟩ : Exchanged Body) = false := by
  cases reply <;> rfl

section

variable (placed : Placed platform lossy caller) (left : caller.rest = .await statement rest)

include placed left

theorem Placed.answered (reply : Except String statement.Reply) (tookEffect : Bool)
    (there : ∀ key next, view platform key caller.operation .selecting = .awaits statement next → next reply ≠ .running)
    (failed : ∀ error, reply = .error error → lossy) :
    Placed platform lossy (answered caller statement rest reply tookEffect) := by
  have same : keyOf (Idempotency.answered caller statement rest reply tookEffect) = keyOf caller := rfl
  unfold Placed
  rw [same]
  rcases placed.cases left with ⟨none, unclaimed, ⟨request, rfl⟩, asks⟩ | 
    ⟨key, position, next, some, viewed, passes, tells, stands⟩
  · rw [none]
    refine ⟨asks reply, ?_⟩
    change (caller.exchanges ++ [_]).any claims = false
    rw [any_claims_append, unclaimed, claims_next]
    rfl
  · rw [some]
    refine ⟨next reply, ?_, stands reply, tells_next viewed tells reply tookEffect ?_⟩
    · exact view_passing viewed reply failed
    · grind

theorem Placed.writes {key : String}
    (writes : statement.writes = some key) : keyOf caller = some key ∧ holding caller = true := by
  rcases placed.cases left with ⟨_, _, ⟨request, rfl⟩, _⟩ | ⟨own, position, next, some, viewed, _, tells, _⟩
  · cases writes
  · obtain ⟨rfl, response, rfl⟩ := view_writes viewed writes
    refine ⟨some, ?_⟩
    unfold holding
    rw [left, tells.1]
    rfl

theorem Placed.inserts {key method path requestHash : String} {expiresAt : ℕ}
    (inserts : statement = .insertKey key method path requestHash expiresAt) :
    keyOf caller = some key ∧ requestHash = hashRequest platform caller.operation := by
  rcases placed.cases left with ⟨_, _, ⟨request, rfl⟩, _⟩ | ⟨own, position, next, some, viewed, _, _, _⟩
  · cases inserts
  · obtain ⟨rfl, same⟩ := view_insert viewed inserts
    exact ⟨some, same⟩

theorem Placed.holding {reply : Except String statement.Reply} {tookEffect : Bool}
    (holds : holding (Idempotency.answered caller statement rest reply tookEffect) = true) :
    claims (⟨statement, reply, tookEffect⟩ : Exchanged Body) = true ∨
      Idempotency.holding caller = true ∧ statement.writes = none := by
  unfold Idempotency.holding Idempotency.answered at holds
  rw [any_claims_append, Bool.and_eq_true, Bool.or_eq_true] at holds
  obtain ⟨earlier | now, going⟩ := holds
  · right
    constructor
    · unfold Idempotency.holding
      rw [earlier, left]
      rfl
    · cases writes : statement.writes with
      | none => rfl
      | some key =>
        rcases placed.cases left with ⟨_, _, ⟨request, rfl⟩, _⟩ | ⟨own, position, next, _, viewed, _, _, stands⟩
        · cases writes
        · obtain ⟨rfl, response, rfl⟩ := view_writes viewed writes
          have ended := stands reply
          rw [(view_persisting viewed).2] at ended
          rw [stands_ended ended] at going
          cases going
  · exact .inl now

end

end Callers

section Steps

variable {platform : Platform Body} {lossy : Prop} {before after : Traffic Body} {move : Move Body}

theorem pass_asks (request : HttpRequest Body) : (pass request).Asks Statement.IsNext :=
  .bind (.call ⟨request, rfl⟩) fun _ => .done _

theorem idempotency_cases (request : HttpRequest Body) :
    (∃ key, request.claimedKey? = some key ∧ idempotency platform request = protect platform key request) ∨
      request.claimedKey? = none ∧ (idempotency platform request = pass request ∨
        ∃ statusCode error, idempotency platform request = .done (.ok (.rejected statusCode error))) := by
  unfold HttpRequest.claimedKey? idempotency
  by_cases other : request.method ∉ mutatingMethods
  · simp_all
  · rw [if_neg other, if_neg other]
    cases request.key? with
    | none => exact .inr ⟨rfl, .inl rfl⟩
    | some key =>
      by_cases long : maxKeyLength < key.length
      · right
        exact ⟨by simp [Option.filter, long], .inr ⟨400, keyTooLong, if_pos long⟩⟩
      · simp_all

theorem idempotency_placed (request : HttpRequest Body) :
    Placed platform lossy ⟨request, [], idempotency platform request⟩ := by
  unfold Placed keyOf
  rcases @idempotency_cases Body platform request with ⟨key, claimed, script⟩ | ⟨unclaimed, passes | ⟨_, _, rejects⟩⟩
  · rw [claimed]
    refine ⟨.deleting, nofun, ?_, rfl⟩
    rw [script]
    exact protect_stands platform key request
  · rw [unclaimed, passes]
    exact ⟨pass_asks request, rfl⟩
  · rw [unclaimed, rejects]
    exact ⟨.done _, rfl⟩

theorem Standing.call {request : HttpRequest Body} (standing : Standing platform lossy before)
    (moved : step platform before (.call request) after) : Standing platform lossy after := by
  obtain ⟨state, callers⟩ := Service.step_call moved
  obtain ⟨store, others⟩ := after
  obtain rfl : store = before.state := state
  obtain rfl : others = before.callers ++ [⟨request, [], idempotency platform request⟩] := callers
  have member : ∀ caller ∈ before.callers ++ [(⟨request, [], idempotency platform request⟩ : Requester Body)],
      caller ∈ before.callers ∨ caller = ⟨request, [], idempotency platform request⟩ := by
    intro caller among
    simpa using among
  constructor
  · intro caller among
    rcases member caller among with earlier | rfl
    · exact standing.placed caller earlier
    · exact idempotency_placed request
  · exact standing.exclusive.append_idle rfl
  · exact standing.distinct
  · intro caller among holds
    rcases member caller among with earlier | rfl
    · exact standing.guarded caller earlier holds
    · cases holds

theorem selects {key : String} {event : Event Body} {store : Store Body}
    (there : (store.rows.any fun row => row.key = key) = true) (request : HttpRequest Body) :
    afterSelect platform request ((server platform).exchange store event (.selectKey key)).reply ≠ .running := by
  rcases @served Body platform store event (.selectKey key) with ⟨reply, -⟩ | ⟨-, ⟨error, reply⟩, -⟩
  · obtain ⟨row, member, same⟩ := List.any_eq_true.mp there
    have found : (store.rows.find? fun row => row.key = key).isSome = true := List.find?_isSome.mpr ⟨row, member, same⟩
    obtain ⟨existing, found⟩ := Option.isSome_iff_exists.mp found
    have answers : ((store.wait event.elapsed).perform platform event.answer (.selectKey key)).1 = some existing := found
    rw [reply, answers]
    exact nofun
  · rw [reply]
    exact nofun

theorem Standing.serve {index : ℕ} {event : Event Body} (standing : Standing platform lossy before)
    (moved : step platform before (.serve index event) after) (safe : secured before (.serve index event) = true)
    (faults : event.fault ≠ none → lossy) : Standing platform lossy after := by
  obtain ⟨caller, statement, rest, found, left, state, callers⟩ := Service.step_serve moved
  obtain ⟨store, others⟩ := after
  obtain rfl : store = (server platform).next before.state event statement := state
  obtain rfl : others = before.callers.set index (answered caller statement rest _ _) := callers
  have placed := standing.placed caller (List.mem_of_getElem? found)
  simp only [secured, found, Option.map_some, left, Bool.and_eq_true, List.all_eq_true, Bool.or_eq_true,
    Bool.not_eq_true', decide_eq_true_eq] at safe
  obtain ⟨lives, there⟩ := safe
  have own := lives caller (List.mem_of_getElem? found)
  -- A claim has found no row, so that nobody holds its key.
  have unheld (claimed : claims ((server platform).exchange before.state event statement) = true) :
      ∀ other ∈ before.callers, keyOf other = keyOf caller → holding other = false := by
    intro other member same
    obtain ⟨key, method, path, requestHash, expiresAt, inserts, fresh, _⟩ := claims_fresh claimed
    by_contra holds
    obtain ⟨row, there, guards, _⟩ := standing.guarded other member (by simpa using holds)
    rw [same, (placed.inserts left inserts).1] at guards
    exact fresh row there (Option.some.inj guards).symm
  constructor
  · refine forall_mem_set standing.placed ?_
    refine placed.answered left _ _ ?_ ?_
    · intro key next viewed
      cases viewed
      exact selects there caller.operation
    · intro error failed
      rcases @served Body platform before.state event statement with ⟨reply, -⟩ | ⟨⟨-, faulty⟩, -⟩
      · cases reply.symm.trans failed
      · exact faults faulty
  · by_cases claimed : claims ((server platform).exchange before.state event statement) = true
    · exact standing.exclusive.enter (unheld claimed)
    · refine standing.exclusive.set found rfl fun holds => ?_
      exact ((placed.holding left holds).resolve_left claimed).1
  · exact next_distinct statement standing.distinct
  · intro other member holds
    obtain ⟨position, located⟩ := List.mem_iff_getElem?.mp member
    rcases getElem?_set_of_some located with ⟨_, rfl⟩ | ⟨apart, earlier⟩
    · rcases placed.holding left holds with claimed | ⟨held, unwritten⟩
      · obtain ⟨key, method, path, requestHash, expiresAt, inserts, _, rows⟩ := claims_fresh claimed
        obtain ⟨same, hashed⟩ := placed.inserts left inserts
        exact ⟨⟨key, method, path, requestHash, .inProgress, none, none, expiresAt⟩,
          rows ▸ List.mem_append_right _ (List.mem_singleton_self _), same, rfl, hashed⟩
      · obtain ⟨row, there, guards, kept⟩ := standing.guarded caller (List.mem_of_getElem? found) held
        refine ⟨row, next_keeps there ?_ ?_, guards, kept⟩
        · intro key _ _
          exact own.resolve_left (by simp [held]) row there guards
        · rw [unwritten]
          exact nofun
    · obtain ⟨row, there, guards, kept⟩ := standing.guarded other (List.mem_of_getElem? earlier) holds
      refine ⟨row, next_keeps there ?_ ?_, guards, kept⟩
      · grind
      · intro writes
        obtain ⟨same, held⟩ := placed.writes left writes
        exact apart (standing.exclusive position index other caller earlier found holds held (guards.trans same.symm))

end Steps

/-! What a stored response means. -/

/-- The caller has not been told yet whether the key is in use. -/
def deciding (caller : Requester Body) : Bool :=
  match caller.rest with
  | .await (.deleteExpired _) _ => true
  | .await .dateNow _ => true
  | .await (.insertKey ..) _ => true
  | .await (.selectKey _) _ => true
  | _ => false

def replayOf (row : IdempotencyRow Body) : Outcome Body :=
  .replayed ⟨row.statusCode.getD 200, row.responseBody⟩

/-- The completed row is there, and the requests that had not been decided in the middle, or came later,
get its response. -/
structure Replaying (platform : Platform Body) (row : IdempotencyRow Body) (middle : List (Requester Body))
    (traffic : Traffic Body) : Prop where
  stored : row ∈ traffic.state.rows
  replays : ∀ (index : ℕ) (caller : Requester Body), traffic.callers[index]? = some caller → keyOf caller = some row.key →
    hashRequest platform caller.operation = row.requestHash →
    (∀ earlier, middle[index]? = some earlier → deciding earlier = true) →
      deciding caller = true ∨ caller.rest = .done (.ok (replayOf row))

/-- No statement fails. -/
def calm : Move Body → Bool
  | .call _ => true
  | .serve _ event => event.fault.isNone

section Replays

variable {platform : Platform Body} {row : IdempotencyRow Body} {middle : List (Requester Body)}
variable {before after : Traffic Body} {index : ℕ} {event : Event Body}

theorem Standing.unheld {lossy : Prop} (standing : Standing platform lossy before) (stored : row ∈ before.state.rows)
    (completed : row.state = .completed) (caller : Requester Body) (member : caller ∈ before.callers)
    (same : keyOf caller = some row.key) : holding caller = false := by
  by_contra holds
  obtain ⟨other, there, guards, progress, _⟩ := standing.guarded caller member (by simpa using holds)
  have equal : other.key = row.key := Option.some.inj (guards.symm.trans same)
  obtain rfl := List.inj_on_of_nodup_map standing.distinct there stored equal
  rw [completed] at progress
  cases progress

theorem Replaying.call {request : HttpRequest Body} (replaying : Replaying platform row middle before)
    (moved : step platform before (.call request) after) : Replaying platform row middle after := by
  obtain ⟨state, callers⟩ := Service.step_call moved
  constructor
  · rw [state]
    exact replaying.stored
  · intro position caller located same hashed early
    rw [callers] at located
    rcases getElem?_append_singleton located with earlier | ⟨_, rfl⟩
    · exact replaying.replays position caller earlier same hashed early
    · left
      rcases @idempotency_cases Body platform request with ⟨key, _, script⟩ | ⟨unclaimed, _⟩
      · unfold deciding
        rw [script]
        rfl
      · cases same.symm.trans unclaimed

/-- The places before the decision. -/
def Position.early : Position Body → Bool
  | .deleting => true
  | .telling => true
  | .inserting _ => true
  | .selecting => true
  | _ => false

theorem deciding_of {key : String} {request : HttpRequest Body} {position : Position Body}
    {exchanges : List (Exchanged Body)} {rest : Work Body (Outcome Body)}
    (stands : Script.Stands (view platform key request) position rest) (early : position.early = true) :
    deciding ⟨request, exchanges, rest⟩ = true := by
  cases position with
  | deleting =>
    obtain ⟨later, rfl, _⟩ := stands.of_awaits rfl
    rfl
  | telling =>
    obtain ⟨later, rfl, _⟩ := stands.of_awaits rfl
    rfl
  | inserting now =>
    obtain ⟨later, rfl, _⟩ := stands.of_awaits rfl
    rfl
  | selecting =>
    obtain ⟨later, rfl, _⟩ := stands.of_awaits rfl
    rfl
  | _ => cases early

theorem find_stored {rows : List (IdempotencyRow Body)} (distinct : (rows.map IdempotencyRow.key).Nodup)
    (stored : row ∈ rows) : (rows.find? fun other => other.key = row.key) = some row := by
  have present : (rows.find? fun other => decide (other.key = row.key)).isSome = true :=
    List.find?_isSome.mpr ⟨row, stored, by simp⟩
  obtain ⟨existing, found⟩ := Option.isSome_iff_exists.mp present
  have same : existing.key = row.key := by simpa using List.find?_some found
  rw [found, List.inj_on_of_nodup_map distinct (List.mem_of_find?_eq_some found) stored same]

theorem decided {caller : Requester Body} {statement : Statement Body} {store : Store Body}
    {rest : Except String statement.Reply → Work Body (Outcome Body)}
    (placed : Placed platform False caller) (left : caller.rest = .await statement rest)
    (stored : row ∈ store.rows) (distinct : (store.rows.map IdempotencyRow.key).Nodup)
    (completed : row.state = .completed) (same : keyOf caller = some row.key)
    (hashed : hashRequest platform caller.operation = row.requestHash) (fault : event.fault = none)
    (early : deciding caller = true) :
    deciding (answered caller statement rest ((server platform).exchange store event statement).reply
        ((server platform).exchange store event statement).tookEffect) = true ∨
      rest ((server platform).exchange store event statement).reply = .done (.ok (replayOf row)) := by
  rcases placed.cases left with ⟨none, _⟩ | ⟨key, position, next, some, viewed, passes, _, stands⟩
  · cases none.symm.trans same
  · obtain rfl : key = row.key := Option.some.inj (some.symm.trans same)
    have reply : ((server platform).exchange store event statement).reply =
        .ok ((store.wait event.elapsed).perform platform event.answer statement).1 := by
      rcases @served Body platform store event statement with ⟨reply, -⟩ | ⟨⟨-, faulty⟩, -⟩
      · exact reply
      · exact (faulty fault).elim
    have there := stands ((server platform).exchange store event statement).reply
    unfold deciding at early
    rw [left] at early
    cases position with
    | passing => exact (passes rfl).elim
    | deleting =>
      cases viewed
      left
      apply deciding_of there
      rw [reply]
      rfl
    | telling =>
      cases viewed
      left
      apply deciding_of there
      rw [reply]
      rfl
    | inserting now =>
      cases viewed
      left
      apply deciding_of there
      have present : store.rows.any (fun other => decide (other.key = row.key)) = true :=
        List.any_eq_true.mpr ⟨row, stored, by simp⟩
      have lost : (store.wait event.elapsed).perform platform event.answer (.insertKey row.key caller.operation.method
          (String.ofList (caller.operation.originalUrl.toList.take 512)) (hashRequest platform caller.operation)
          (now + platform.ttl)) = ((0 : ℕ), store.wait event.elapsed) := if_pos present
      rw [reply, lost]
      rfl
    | selecting =>
      cases viewed
      right
      have selected : ((store.wait event.elapsed).perform platform event.answer (.selectKey row.key)).1 = Option.some row :=
        find_stored distinct stored
      rw [reply, selected] at there
      have replayed : reuse (hashRequest platform caller.operation) row = replayOf row := by
        simp [reuse, hashed, completed, replayOf]
      rw [reply, selected, stands_ended there, replayed]
    | running =>
      cases viewed
      cases early
    | persisting response =>
      rcases (view_persisting viewed).1 with ⟨_, rfl⟩ | rfl <;> cases early
    | ended outcome => cases viewed

theorem Replaying.serve (replaying : Replaying platform row middle before) (standing : Standing platform False before)
    (completed : row.state = .completed) (moved : step platform before (.serve index event) after)
    (fault : event.fault = none) (alive : after.state.now < row.expiresAt) :
    Replaying platform row middle after := by
  obtain ⟨caller, statement, rest, found, left, state, callers⟩ := Service.step_serve moved
  have placed := standing.placed caller (List.mem_of_getElem? found)
  rw [state, next_now] at alive
  constructor
  · rw [state]
    refine next_keeps replaying.stored (fun _ _ _ => alive) ?_
    intro writes
    obtain ⟨same, holds⟩ := placed.writes left writes
    rw [standing.unheld replaying.stored completed caller (List.mem_of_getElem? found) same] at holds
    cases holds
  · intro position other located same hashed early
    rw [callers] at located
    rcases getElem?_set_of_some located with ⟨rfl, rfl⟩ | ⟨_, earlier⟩
    · have earlier := replaying.replays position caller found same hashed early
      rcases earlier with undecided | ended
      · exact decided placed left replaying.stored standing.distinct completed same hashed fault undecided
      · rw [left] at ended
        cases ended
    · exact replaying.replays position other earlier same hashed early

end Replays

/-! The runs. -/

/-- At most one handler of a key is running. -/
def OneAtATime (traffic : Traffic Body) : Prop :=
  Exclusive keyOf handling traffic.callers

/-- Once a response is stored, the requests that are decided later get it as long as the key lives. -/
def Replayed (platform : Platform Body) (trace : List (Move Body)) : Prop :=
  ∀ earlier later middle last row, trace = earlier ++ later → Run (step platform) .initial earlier middle →
    Run (step platform) middle later last → row ∈ middle.state.rows → row.state = .completed →
    last.state.now < row.expiresAt →
      ∀ (index : ℕ) (caller : Requester Body), last.callers[index]? = some caller → keyOf caller = some row.key →
        hashRequest platform caller.operation = row.requestHash →
        (∀ before, middle.callers[index]? = some before → deciding before = true) →
          deciding caller = true ∨ caller.rest = .done (.ok (replayOf row))

section Runs

variable {platform : Platform Body} {lossy : Prop} {trace : List (Move Body)} {traffic : Traffic Body}

theorem Standing.initial : Standing platform lossy (.initial : Traffic Body) := by
  constructor
  · exact nofun
  · exact .nil
  · exact List.nodup_nil
  · exact nofun

theorem Standing.step {before after : Traffic Body} {move : Move Body} (standing : Standing platform lossy before)
    (moved : Idempotency.step platform before move after) (safe : secured before move = true)
    (faults : calm move = true ∨ lossy) : Standing platform lossy after := by
  cases move with
  | call request => exact standing.call moved
  | serve index event =>
    refine standing.serve moved safe fun faulty => faults.resolve_left ?_
    cases fault : event.fault with
    | none => exact (faulty fault).elim
    | some fault => simp [calm, fault]

/-- What a sound step is: nothing fails, and a held key does not expire or lose its row. -/
def sound (traffic : Traffic Body) (move : Move Body) : Bool :=
  calm move && secured traffic move

theorem sound_standing (run : Run (step platform) .initial trace traffic)
    (passed : Throughout (step platform) .initial (fun before move _ => sound before move = true) trace) :
    Standing platform False traffic := by
  refine (run.restrict passed).invariant (fun _ => Standing platform False) .initial ?_
  intro trace before move after standing moved
  obtain ⟨calm, secured⟩ := Bool.and_eq_true_iff.mp moved.2
  exact standing.step moved.1 secured (.inl calm)

theorem handling_holds {caller : Requester Body} (placed : Placed platform False caller)
    (handles : handling caller = true) : holding caller = true := by
  unfold handling at handles
  obtain ⟨keyed, waits⟩ := Bool.and_eq_true_iff.mp handles
  cases left : caller.rest with
  | done outcome =>
    rw [left] at waits
    cases waits
  | await statement rest =>
    rcases placed.cases left with ⟨none, _⟩ | ⟨key, position, next, _, viewed, passes, tells, _⟩
    · rw [none] at keyed
      cases keyed
    · rw [left] at waits
      cases position with
      | passing => exact (passes rfl).elim
      | running =>
        unfold holding
        rw [show caller.exchanges.any claims = true from tells, left]
        rfl
      | persisting response =>
        rcases (view_persisting viewed).1 with ⟨_, rfl⟩ | rfl <;> cases waits
      | ended outcome => cases viewed
      | _ =>
        cases viewed
        cases waits

theorem Standing.oneAtATime (standing : Standing platform False traffic) : OneAtATime traffic := by
  intro i j first second foundFirst foundSecond runsFirst runsSecond same
  have holds : ∀ caller ∈ traffic.callers, handling caller = true → holding caller = true :=
    fun caller member => handling_holds (standing.placed caller member)
  exact standing.exclusive i j first second foundFirst foundSecond
    (holds first (List.mem_of_getElem? foundFirst) runsFirst)
    (holds second (List.mem_of_getElem? foundSecond) runsSecond) same

theorem now_mono {before after : Traffic Body} {move : Move Body} (moved : step platform before move after) :
    before.state.now ≤ after.state.now := by
  cases move with
  | call request => exact Nat.le_of_eq (congrArg Store.now (Service.step_call moved).1).symm
  | serve index event =>
    obtain ⟨caller, statement, rest, _, _, state, _⟩ := Service.step_serve moved
    rw [state, next_now]
    omega

/-- In a run of sound steps at most one handler of a key runs at a time, and a stored response is what
later requests with the key and the request get. -/
theorem at_most_once (run : Run (step platform) .initial trace traffic)
    (passed : Throughout (step platform) .initial (fun before move _ => sound before move = true) trace) :
    OneAtATime traffic ∧ Replayed platform trace := by
  constructor
  · exact (sound_standing run passed).oneAtATime
  · intro earlier later middle last row split first second stored completed alive
    subst split
    have standing := sound_standing first passed.before
    refine ((second.restrict (passed.after first)).invariant (fun _ traffic => Standing platform False traffic ∧
      (traffic.state.now < row.expiresAt → Replaying platform row middle.callers traffic)) ?_ ?_).2 alive |>.replays
    · refine ⟨standing, fun _ => ⟨stored, ?_⟩⟩
      intro index caller located same hashed early
      exact .inl (early caller located)
    · rintro trace before move after ⟨stands, replays⟩ ⟨moved, safe⟩
      obtain ⟨calms, secures⟩ := Bool.and_eq_true_iff.mp safe
      refine ⟨stands.step moved secures (.inl calms), fun alive => ?_⟩
      have replaying := replays (Nat.lt_of_le_of_lt (now_mono moved) alive)
      cases move with
      | call request => exact replaying.call moved
      | serve index event => exact replaying.serve stands completed moved (by simpa [calm] using calms) alive

end Runs

/-- Bodies that are flat objects, with the hash of the request below. -/
def Platform.sample : Platform (List (String × String)) where
  sha256 text :=
    if text = "POST:/api/transactions:\x7b\"amount\":\"100\"\x7d" then
      "f4a9601e3ac5384cb8d1eeba4c8e89ba804af4d5b9238cfd635ea4cde68fef96"
    else ""
  stringify body := String.ofList (Json.writeObject (body.map fun member => (member.1, Json.writeText member.2)))
  emptyObject := []
  jsonb body := body
  ttl := 86400000

def transfer : HttpRequest (List (String × String)) :=
  ⟨"alice", "POST", "/api/transactions", some "key-1", some [("amount", "100")]⟩

def Event.answering (statusCode : ℕ) : Event (List (String × String)) :=
  ⟨0, none, ⟨⟨statusCode, some [("status", "pending")]⟩, true⟩⟩

/-- The next statements of a caller, with a handler that answers with this status. -/
def turns (caller count statusCode : ℕ) : List (Move (List (String × String))) :=
  List.replicate count (.serve caller (.answering statusCode))

/-- A request and its retry after it. -/
def retried : List (Move (List (String × String))) :=
  [.call transfer] ++ turns 0 5 201 ++ [.call transfer] ++ turns 1 4 201

theorem retry_replayed : ∃ traffic, Run (step .sample) .initial retried traffic ∧
    OneAtATime traffic ∧ Replayed .sample retried := by
  obtain ⟨traffic, followed, _⟩ := Option.map_eq_some_iff.mp
    (show (retried.foldlM (Service.perform (server .sample) (idempotency .sample)) Traffic.initial).map
      (fun traffic => traffic.callers.map fun caller => caller.rest.isDone) = some [true, true] by decide)
  have run : Run (step .sample) .initial retried traffic := Run.follow followed
  exact ⟨traffic, run, at_most_once run (throughout_follow (by decide))⟩

/-- The second request has lost the insertion when the first one fails and releases the key; it finds no row
and runs its handler, and a third one claims the key. -/
def overlapping : List (Move (List (String × String))) :=
  [.call transfer, .call transfer, .call transfer] ++ turns 0 3 201 ++ turns 1 3 201 ++ turns 0 2 500 ++
    turns 1 1 201 ++ turns 2 3 201

/-- The second request succeeds and its response is stored. -/
def stored : List (Move (List (String × String))) :=
  overlapping ++ turns 1 2 201

/-- The third request fails and releases the key, and a fourth one claims it. -/
def forgotten : List (Move (List (String × String))) :=
  turns 2 2 500 ++ [.call transfer] ++ turns 3 3 201

def storedRow : IdempotencyRow (List (String × String)) :=
  ⟨"key-1", "POST", "/api/transactions", Platform.sample.sha256 "POST:/api/transactions:\x7b\"amount\":\"100\"\x7d",
    .completed, some 201, some [("status", "pending")], 86400000⟩

/-- No statement fails and no time passes, so that every handler is fast enough. -/
def instant (move : Move (List (String × String))) : Bool :=
  match move with
  | .call _ => true
  | .serve _ event => event.fault.isNone && event.elapsed = 0

/-- Which callers run their handlers, and for which keys. -/
def summary (traffic : Traffic (List (String × String))) : List (Bool × Option String) :=
  traffic.callers.map fun caller => (handling caller, keyOf caller)

/-- What the fourth request is, whether it is decided and over, and whether its key has expired. -/
def fourth (traffic : Traffic (List (String × String))) :
    Option (HttpRequest (List (String × String)) × Bool × Bool × Bool) :=
  (traffic.callers[3]?).map fun caller =>
    (caller.operation, deciding caller, caller.rest.isDone, storedRow.expiresAt ≤ traffic.state.now)

theorem two_at_a_time :
    (¬∀ trace traffic, Run (step .sample) .initial trace traffic → trace.all instant = true → OneAtATime traffic) ∧
    ¬∀ trace traffic, Run (step .sample) .initial trace traffic → trace.all instant = true →
      Replayed .sample trace := by
  constructor
  · intro always
    obtain ⟨traffic, followed, running⟩ := Option.map_eq_some_iff.mp
      (show (overlapping.foldlM (Service.perform (server .sample) (idempotency .sample)) Traffic.initial).map summary =
        some [(false, some "key-1"), (true, some "key-1"), (true, some "key-1")] by decide)
    have one := always overlapping traffic (Run.follow followed) (by decide)
    have second : (summary traffic)[1]? = some (true, some "key-1") := by rw [running]; rfl
    have third : (summary traffic)[2]? = some (true, some "key-1") := by rw [running]; rfl
    rw [summary, List.getElem?_map] at second third
    obtain ⟨first, foundFirst, sameFirst⟩ := Option.map_eq_some_iff.mp second
    obtain ⟨other, foundOther, sameOther⟩ := Option.map_eq_some_iff.mp third
    obtain ⟨runsFirst, keyFirst⟩ := Prod.mk.inj sameFirst
    obtain ⟨runsOther, keyOther⟩ := Prod.mk.inj sameOther
    cases one 1 2 first other foundFirst foundOther runsFirst runsOther (keyFirst.trans keyOther.symm)
  · intro always
    obtain ⟨middle, reached, rows⟩ := Option.map_eq_some_iff.mp
      (show (stored.foldlM (Service.perform (server .sample) (idempotency .sample)) Traffic.initial).map
        (fun traffic => (traffic.state.rows, traffic.callers.length)) = some ([storedRow], 3) by decide)
    obtain ⟨last, followed, running⟩ := Option.map_eq_some_iff.mp
      (show ((stored ++ forgotten).foldlM (Service.perform (server .sample) (idempotency .sample)) Traffic.initial).map
        fourth = some (some (transfer, false, false, false)) by decide)
    have run : Run (step .sample) .initial (stored ++ forgotten) last := Run.follow followed
    obtain ⟨between, first, second⟩ := run.split
    obtain rfl : middle = between := (Run.follow reached).unique first
    obtain ⟨rows, length⟩ := Prod.mk.inj rows
    obtain ⟨caller, located, seen⟩ := Option.map_eq_some_iff.mp running
    obtain ⟨operation, waits⟩ := Prod.mk.inj seen
    obtain ⟨undecided, continues⟩ := Prod.mk.inj waits
    obtain ⟨going, alive⟩ := Prod.mk.inj continues
    have keyed : keyOf caller = some "key-1" := by
      rw [keyOf, operation]
      decide
    have hashed : hashRequest .sample caller.operation = storedRow.requestHash := by
      rw [operation]
      decide
    have replays := always (stored ++ forgotten) last run (by decide) stored forgotten middle last storedRow rfl
      first second (by simp [rows]) rfl
      (Nat.lt_of_not_le (of_decide_eq_false alive)) 3 caller located keyed hashed
      (by simp [List.getElem?_eq_none (Nat.le_of_eq length)])
    rcases replays with early | ended
    · rw [undecided] at early
      cases early
    · rw [ended] at going
      cases going

end ProxyPay.Idempotency
