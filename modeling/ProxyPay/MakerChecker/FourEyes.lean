import ProxyPay.Library.Exclusive
import Mathlib.Data.List.Nodup
import ProxyPay.Library.Transition
import ProxyPay.MakerChecker.Routes

/-! Every execution was approved by a second admin, once; decisions are final; and a bulk request is the single ones in
turn. The approved actions are those executed as long as no execution throws. -/

namespace ProxyPay.MakerChecker

open ProxyPay.Library

variable {Payload : Type}

/-- `executeAction` throws for no action that the request approves. -/
def Request.isSmooth : Request Payload → Bool
  | .single .approve id _ environment => (environment.throws id).isNone
  | .bulk .approve actionIds _ environment => (normalizeBulkIds actionIds).all fun id => (environment.throws id).isNone
  | _ => true

variable {store before after : Store Payload} {action old new : PendingAction Payload} {checker user : User}
variable {note : Option String} {environment : Environment} {id : String} {decision : Decision} {label : Label Payload}
variable {amending : PendingAction Payload → PendingAction Payload} {actions : List (PendingAction Payload)}
variable {trace : List (Label Payload)} {last : Store Payload}

theorem find_id (found : store.find id = some action) : action ∈ store.pendingActions ∧ action.id = id :=
  ⟨List.mem_of_find?_eq_some found, by simpa using List.find?_some found⟩

variable {place : ℕ}

theorem getElem?_amend (amending : PendingAction Payload → PendingAction Payload) (id : String)
    (there : actions[place]? = some action) :
    (Store.amend id amending actions)[place]? = some action ∨ actions.find? (fun action => action.id = id) = some action := by
  induction actions generalizing place with
  | nil => cases there
  | cons first rest ih => grind [Store.amend, List.find?_cons]

theorem mem_amend (member : new ∈ Store.amend id amending actions) :
    new ∈ actions ∨ ∃ old, actions.find? (fun action => action.id = id) = some old ∧ new = amending old := by
  induction actions with
  | nil => cases member
  | cons first rest ih => grind [Store.amend, List.find?_cons]

theorem amend_mem (amending : PendingAction Payload → PendingAction Payload)
    (found : actions.find? (fun action => action.id = id) = some old) :
    amending old ∈ Store.amend id amending actions := by
  induction actions with
  | nil => cases found
  | cons first rest ih => grind [List.find?_cons, Store.amend]

theorem amend_ids (amending : PendingAction Payload → PendingAction Payload) (id : String)
    (keeps : ∀ action, (amending action).id = action.id) :
    (Store.amend id amending actions).map PendingAction.id = actions.map PendingAction.id := by
  induction actions with
  | nil => rfl
  | cons first rest ih => grind [Store.amend, List.map_cons]

/-- What the decision on an action can do. -/
inductive Decided (store : Store Payload) (checker : User) (note : Option String) (environment : Environment)
    (id : String) : Decision → Store Payload → Prop where
  | refuse (decision : Decision) : Decided store checker note environment id decision store
  | approve (action : PendingAction Payload) (found : store.find id = some action) (pending : action.status = .pending)
      (other : action.makerId ≠ checker.id) : Decided store checker note environment id .approve
        ((store.resolve id .approved checker note (environment.clock id)).execute id checker (environment.throws id))
  | reject (action : PendingAction Payload) (found : store.find id = some action) (pending : action.status = .pending)
      (other : action.makerId ≠ checker.id) : Decided store checker note environment id .reject
        (store.resolve id .rejected checker note (environment.clock id))

theorem decided_of_single (store : Store Payload) (decision : Decision) (checker : User) (note : Option String)
    (environment : Environment) (id : String) :
    Decided store checker note environment id decision (store.single decision checker note environment id).1 := by
  cases decision with
  | approve =>
    rw [Store.single, Store.approve]
    split
    · exact .refuse _
    · rename_i action found
      split
      · exact .refuse _
      · split
        · exact .refuse _
        · rename_i pending other
          have approved : Decided store checker note environment id .approve
              ((store.resolve id .approved checker note (environment.clock id)).execute id checker
                (environment.throws id)) := .approve action found (by simpa using pending) other
          split
          · simp_all
          · simp_all
  | reject =>
    rw [Store.single, Store.reject]
    split
    · exact .refuse _
    · rename_i action found
      split
      · exact .refuse _
      · split
        · exact .refuse _
        · rename_i pending other
          exact .reject action found (by simpa using pending) other

/-- What the requests of an admin do to the store. -/
structure Reviewed (user : User) (before after : Store Payload) : Prop where
  executed : ∃ executions, after.executions = before.executions ++ executions ∧ ∀ execution ∈ executions,
    execution.checker = user.id ∧ ∃ action ∈ before.pendingActions, action.id = execution.action ∧
      action.status = .pending ∧ action.makerId ≠ user.id
  pending : ∀ action ∈ after.pendingActions, action.status = .pending → action ∈ before.pendingActions
  final : ∀ (place : ℕ) action, before.pendingActions[place]? = some action → action.status ≠ .pending →
    after.pendingActions[place]? = some action

theorem Reviewed.refl (user : User) (store : Store Payload) : Reviewed user store store :=
  ⟨⟨[], (List.append_nil _).symm, fun _ member => nomatch member⟩, fun _ member _ => member, fun _ _ there _ => there⟩

theorem Reviewed.trans {middle : Store Payload} (earlier : Reviewed user before middle)
    (later : Reviewed user middle after) : Reviewed user before after := by
  constructor
  · obtain ⟨first, grown, reviewed⟩ := earlier.executed
    obtain ⟨second, more, others⟩ := later.executed
    refine ⟨first ++ second, by rw [more, grown, List.append_assoc], ?_⟩
    intro execution member
    rcases List.mem_append.mp member with old | new
    · exact reviewed execution old
    · obtain ⟨checker, action, there, same, pending, other⟩ := others execution new
      exact ⟨checker, action, earlier.pending action there pending, same, pending, other⟩
  · intro action member pending
    exact earlier.pending action (later.pending action member pending) pending
  · intro place action there decided
    exact later.final place action (earlier.final place action there decided) decided

variable {now : ℕ} {status : Status}

theorem resolve_pending (resolved : status ≠ .pending)
    (member : action ∈ (store.resolve id status checker note now).pendingActions) (pending : action.status = .pending) :
    action ∈ store.pendingActions := by
  rcases mem_amend member with there | ⟨old, _, rfl⟩
  · exact there
  · exact absurd pending resolved

theorem resolve_final (found : store.find id = some action) (pending : action.status = .pending) (there : store.pendingActions[place]? = some old) (decided : old.status ≠ .pending) :
    (store.resolve id status checker note now).pendingActions[place]? = some old := by
  rcases getElem?_amend (·.resolve status checker note now) id there with stays | first
  · exact stays
  · obtain rfl : action = old := Option.some.inj (found.symm.trans first)
    exact absurd pending decided

theorem Decided.reviewed (decided : Decided store checker note environment id decision after) :
    Reviewed checker store after := by
  cases decided with
  | refuse => exact .refl checker store
  | approve action found pending other =>
    obtain ⟨member, same⟩ := find_id found
    constructor
    · refine ⟨[⟨id, checker.id, (environment.throws id).isNone⟩], rfl, ?_⟩
      intro execution here
      obtain rfl := List.mem_singleton.mp here
      exact ⟨rfl, action, member, same, pending, other⟩
    · intro action there
      exact resolve_pending (by decide) there
    · intro place old there
      exact resolve_final found pending there
  | reject action found pending other =>
    constructor
    · exact ⟨[], (List.append_nil _).symm, fun _ member => nomatch member⟩
    · intro action there
      exact resolve_pending (by decide) there
    · intro place old there
      exact resolve_final found pending there

/-- Actions have ids of their own, and what was executed is approved. -/
structure Kept (store : Store Payload) : Prop where
  distinct : (store.pendingActions.map PendingAction.id).Nodup
  approved : ∀ execution ∈ store.executions, ∃ action ∈ store.pendingActions, action.id = execution.action ∧
    action.status = .approved
  once : Once store

theorem Kept.eq_of_id (kept : Kept store) (here : old ∈ store.pendingActions) (there : new ∈ store.pendingActions)
    (same : old.id = new.id) : old = new :=
  List.inj_on_of_nodup_map kept.distinct here there same

section

variable (kept : Kept store) (found : store.find id = some action) (pending : action.status = .pending)

include kept found pending

theorem Kept.unexecuted : ∀ execution ∈ store.executions, execution.action ≠ id := by
  intro execution member same
  obtain ⟨other, there, mine, approved⟩ := kept.approved execution member
  obtain ⟨here, own⟩ := find_id found
  obtain rfl := kept.eq_of_id there here (mine.trans (same.trans own.symm))
  rw [pending] at approved
  cases approved

theorem Kept.resolve (status : Status) (checker : User) (note : Option String) (now : ℕ) :
    Kept (store.resolve id status checker note now) := by
  constructor
  · have unchanged : (store.resolve id status checker note now).pendingActions.map PendingAction.id =
        store.pendingActions.map PendingAction.id := amend_ids (·.resolve status checker note now) id fun _ => rfl
    rw [unchanged]
    exact kept.distinct
  · intro execution member
    obtain ⟨other, there, same, approved⟩ := kept.approved execution member
    obtain ⟨place, position⟩ := List.mem_iff_getElem?.mp there
    have stays : (store.resolve id status checker note now).pendingActions[place]? = some other :=
      resolve_final found pending position (by rw [approved]; decide)
    exact ⟨other, List.mem_of_getElem? stays, same, approved⟩
  · exact kept.once

end

theorem Decided.kept (decided : Decided store checker note environment id decision after) (kept : Kept store) :
    Kept after := by
  cases decided with
  | refuse => exact kept
  | approve action found pending other =>
    have resolved := kept.resolve found pending .approved checker note (environment.clock id)
    constructor
    · exact resolved.distinct
    · exact forall_mem_append_singleton resolved.approved ⟨_, amend_mem (·.resolve .approved checker note (environment.clock id)) found, (find_id found).2, rfl⟩
    · rw [Once, Store.execute, List.map_append, List.nodup_append]
      refine ⟨kept.once, List.nodup_singleton _, ?_⟩
      intro earlier member now same
      obtain ⟨execution, there, rfl⟩ := List.mem_map.mp member
      obtain rfl := List.mem_singleton.mp same
      exact kept.unexecuted found pending execution there
  | reject action found pending other => exact kept.resolve found pending .rejected checker note (environment.clock id)

theorem mem_of_resolve (found : store.find id = some action)
    (member : new ∈ (store.resolve id status checker note now).pendingActions) (other : new.id ≠ id) :
    new ∈ store.pendingActions := by
  rcases mem_amend member with there | ⟨old, first, rfl⟩
  · exact there
  · obtain rfl : action = old := Option.some.inj (found.symm.trans first)
    exact absurd (find_id found).2 other

theorem Decided.agrees (decided : Decided store checker note environment id decision after) (kept : Kept store)
    (agrees : Agrees store) (smooth : decision = .approve → environment.throws id = none) : Agrees after := by
  have later := decided.kept kept
  cases decided with
  | refuse => exact agrees
  | approve action found pending other =>
    intro new member
    by_cases here : new.id = id
    · have resolved := amend_mem (·.resolve .approved checker note (environment.clock id)) found
      obtain rfl : action.resolve .approved checker note (environment.clock id) = new :=
        later.eq_of_id resolved member ((find_id found).2.trans here.symm)
      constructor
      · intro _
        refine ⟨_, List.mem_append_right _ (List.mem_singleton.mpr rfl), here.symm, ?_⟩
        rw [smooth rfl]
        rfl
      · intro _
        rfl
    · rw [agrees new (mem_of_resolve found member here)]
      constructor
      · rintro ⟨execution, there, same, finished⟩
        exact ⟨execution, List.mem_append_left _ there, same, finished⟩
      · rintro ⟨execution, there, same, finished⟩
        rcases List.mem_append.mp there with earlier | last
        · exact ⟨execution, earlier, same, finished⟩
        · simp_all
  | reject action found pending other =>
    intro new member
    by_cases here : new.id = id
    · have resolved := amend_mem (·.resolve .rejected checker note (environment.clock id)) found
      obtain rfl : action.resolve .rejected checker note (environment.clock id) = new :=
        later.eq_of_id resolved member ((find_id found).2.trans here.symm)
      constructor
      · nofun
      · rintro ⟨execution, there, same, _⟩
        exact absurd (same.trans here) (kept.unexecuted found pending execution there)
    · exact agrees new (mem_of_resolve found member here)

variable {Outcome : Type}

theorem inTurn_induct {handle : Store Payload → String → Store Payload × Outcome}
    (keeps : Store Payload → Prop) (ids : List String) (initially : keeps store)
    (kept : ∀ id ∈ ids, ∀ store, keeps store → keeps (handle store id).1) :
    keeps (Store.inTurn handle store ids).1 := by
  induction ids generalizing store with
  | nil => exact initially
  | cons id rest ih => simp_all [Store.inTurn]

theorem inTurn_map {First Second : Type} {first : Store Payload → String → Store Payload × First}
    {second : Store Payload → String → Store Payload × Second} (outcome : String → First → Second) (ids : List String)
    (same : ∀ store id, second store id = ((first store id).1, outcome id (first store id).2)) (store : Store Payload) :
    (Store.inTurn second store ids).1 = (Store.inTurn first store ids).1 := by
  induction ids generalizing store with
  | nil => rfl
  | cons id rest ih =>
    rw [Store.inTurn, Store.inTurn, same]
    exact ih _

theorem inTurn_const (outcome : String → Outcome) (store : Store Payload) (ids : List String) :
    Store.inTurn (fun store id => (store, outcome id)) store ids = (store, ids.map outcome) := by
  induction ids with
  | nil => rfl
  | cons id rest ih => simp only [Store.inTurn, ih, List.map_cons]

theorem approveInBulk_eq (store : Store Payload) (checker : User) (note : Option String) (environment : Environment)
    (id : String) : store.approveInBulk checker note environment id =
      ((store.approve checker note environment id).1, (store.approve checker note environment id).2.outcome id) := by
  rw [Store.approveInBulk, Store.approve]
  cases store.find id with
  | none => rfl
  | some action => grind [Response.outcome]

theorem rejectInBulk_eq (store : Store Payload) (checker : User) (note : Option String) (environment : Environment)
    (id : String) : store.rejectInBulk checker note environment id =
      ((store.reject checker note environment id).1, (store.reject checker note environment id).2.outcome id) := by
  rw [Store.rejectInBulk, Store.reject]
  cases store.find id with
  | none => rfl
  | some action => grind [Response.outcome]

/-- What a request can do. -/
inductive Change (before : Store Payload) : Label Payload → Store Payload → Prop where
  | refuse (label : Label Payload) : Change before label before
  | submit (label : Label Payload) (action : PendingAction Payload) (pending : action.status = .pending)
      (fresh : ∀ other ∈ before.pendingActions, other.id ≠ action.id) :
      Change before label { before with pendingActions := before.pendingActions ++ [action] }
  | decide (label : Label Payload) (user : User) (admin : label.user = some user ∧ isAdminRole user.role = true)
      (decision : Decision) (note : Option String) (environment : Environment) (ids : List String)
      (smooth : label.request.isSmooth = true → decision = .approve → ∀ id ∈ ids, environment.throws id = none) :
      Change before label (Store.inTurn (fun store => store.single decision user note environment) before ids).1

theorem change_of_submit {maker : User} {actionType : Option String} {payload : Option Payload}
    {makerNote : Option String} (user : Option User)
    (fresh : (Request.submit actionType payload makerNote id now).isFresh before = true) :
    Change before ⟨user, .submit actionType payload makerNote id now⟩
      (before.submit maker actionType payload makerNote id now).1 := by
  unfold Store.submit
  split
  · split
    · exact .refuse _
    · apply Change.submit
      · rfl
      · intro other member
        simpa using List.all_eq_true.mp fresh other member
  · exact .refuse _

theorem bulk_store (store : Store Payload) (message : String)
    (handle : Store Payload → String → Store Payload × BulkResult) (ids : List String) :
    (store.bulk message handle ids).1 = store ∨ (store.bulk message handle ids).1 = (Store.inTurn handle store ids).1 := by
  rw [Store.bulk]
  split
  · exact .inl rfl
  · split
    · exact .inl rfl
    · exact .inr rfl

theorem change_of_step (move : step before label after) : Change before label after := by
  rw [step, Store.perform] at move
  split at move
  · rename_i fresh
    cases move
    obtain ⟨user, request⟩ := label
    rw [Store.handle]
    cases admitted : requireAdmin user with
    | none => exact .refuse _
    | some checker =>
      obtain ⟨here, admin⟩ := Option.filter_eq_some_iff.mp admitted
      cases request with
      | submit actionType payload makerNote id now => exact change_of_submit user fresh
      | single decision id note environment =>
        apply Change.decide _ checker ⟨here, admin⟩ decision note environment [id]
        intro smooth approves other member
        subst approves
        obtain rfl := List.mem_singleton.mp member
        simpa [Request.isSmooth] using smooth
      | bulk decision actionIds note environment =>
        cases decision with
        | approve =>
          change Change before _ (before.bulkApprove checker note environment (normalizeBulkIds actionIds)).1
          rcases bulk_store before "Bulk approve completed"
            (fun store => store.approveInBulk checker note environment) (normalizeBulkIds actionIds) with same | same
          · rw [Store.bulkApprove, same]
            exact .refuse _
          · rw [Store.bulkApprove, same,
              inTurn_map (fun id response => Response.outcome id response) _ fun store id =>
                approveInBulk_eq store checker note environment id]
            apply Change.decide _ checker ⟨here, admin⟩ .approve note environment (normalizeBulkIds actionIds)
            intro smooth _ id member
            simpa using List.all_eq_true.mp smooth id member
        | reject =>
          change Change before _ (before.bulkReject checker note environment (normalizeBulkIds actionIds)).1
          rcases bulk_store before "Bulk reject completed"
            (fun store => store.rejectInBulk checker note environment) (normalizeBulkIds actionIds) with same | same
          · rw [Store.bulkReject, same]
            exact .refuse _
          · rw [Store.bulkReject, same,
              inTurn_map (fun id response => Response.outcome id response) _ fun store id =>
                rejectInBulk_eq store checker note environment id]
            apply Change.decide _ checker ⟨here, admin⟩ .reject note environment (normalizeBulkIds actionIds)
            intro _ rejects
            cases rejects
  · cases move

theorem reviewed_inTurn (user : User) (decision : Decision) (note : Option String) (environment : Environment)
    (store : Store Payload) (ids : List String) :
    Reviewed user store (Store.inTurn (fun store => store.single decision user note environment) store ids).1 := by
  apply inTurn_induct (Reviewed user store) ids (.refl user store)
  intro id _ middle earlier
  exact earlier.trans (decided_of_single middle decision user note environment id).reviewed

theorem Change.fourEyes (change : Change before label after) : FourEyes before label after := by
  cases change with
  | refuse => exact ⟨[], (List.append_nil _).symm, fun _ member => nomatch member⟩
  | submit => exact ⟨[], (List.append_nil _).symm, fun _ member => nomatch member⟩
  | decide user admin decision note environment ids =>
    obtain ⟨executions, grown, reviewed⟩ := (reviewed_inTurn user decision note environment before ids).executed
    refine ⟨executions, grown, ?_⟩
    intro execution member
    obtain ⟨checker, action, there, same, pending, other⟩ := reviewed execution member
    exact ⟨user, action, admin.1, admin.2, checker, there, same, pending, other⟩

theorem Change.final (change : Change before label after) : Final before label after := by
  intro place action there decided
  cases change with
  | refuse => exact there
  | submit new pending fresh => grind
  | decide user admin decision note environment ids =>
    exact (reviewed_inTurn user decision note environment before ids).final place action there decided

theorem kept_initial : Kept (Store.initial : Store Payload) :=
  ⟨List.nodup_nil, (fun _ member => nomatch member), List.nodup_nil⟩

theorem Kept.change (kept : Kept before) (change : Change before label after) : Kept after := by
  cases change with
  | refuse => exact kept
  | submit action pending fresh =>
    constructor
    · rw [List.map_append, List.nodup_append]
      refine ⟨kept.distinct, List.nodup_singleton _, ?_⟩
      intro id member new last
      obtain ⟨other, there, rfl⟩ := List.mem_map.mp member
      obtain rfl := List.mem_singleton.mp last
      exact fresh other there
    · intro execution member
      obtain ⟨other, there, same, approved⟩ := kept.approved execution member
      exact ⟨other, List.mem_append_left _ there, same, approved⟩
    · exact kept.once
  | decide user admin decision note environment ids =>
    apply inTurn_induct Kept ids kept
    intro id _ store kept
    exact (decided_of_single store decision user note environment id).kept kept

theorem Agrees.change (agrees : Agrees before) (kept : Kept before) (change : Change before label after)
    (smooth : label.request.isSmooth = true) : Agrees after := by
  cases change with
  | refuse => exact agrees
  | submit action pending fresh =>
    refine forall_mem_append_singleton agrees ?_
    constructor
    · simp_all
    · rintro ⟨execution, there, same, _⟩
      obtain ⟨old, known, mine, _⟩ := kept.approved execution there
      exact absurd (mine.trans same) (fresh old known)
  | decide user admin decision note environment ids quiet =>
    have both : Kept (Store.inTurn (fun store => store.single decision user note environment) before ids).1 ∧
        Agrees (Store.inTurn (fun store => store.single decision user note environment) before ids).1 := by
      apply inTurn_induct (fun store => Kept store ∧ Agrees store) ids ⟨kept, agrees⟩
      intro id member store ⟨kept, agrees⟩
      have decided := decided_of_single store decision user note environment id
      exact ⟨decided.kept kept, decided.agrees kept agrees fun approves => quiet smooth approves id member⟩
    exact both.2

theorem bulk_outcomes (store : Store Payload) (message : String)
    (handle : Store Payload → String → Store Payload × BulkResult) (ids : List String)
    (bounded : ids.length ≤ maxBulkIds) :
    ((store.bulk message handle ids).1, (store.bulk message handle ids).2.outcomes ids) = Store.inTurn handle store ids := by
  rw [Store.bulk]
  by_cases empty : ids = []
  · subst empty
    rfl
  · rw [if_neg empty, if_neg (Nat.not_lt.mpr bounded)]
    rfl

theorem sequential (store : Store Payload) (user : Option User) (decision : Decision)
    (actionIds : Option (List (Option String))) (note : Option String) (environment : Environment)
    (bounded : (normalizeBulkIds actionIds).length ≤ maxBulkIds) :
    Sequential store user decision actionIds note environment := by
  rw [Sequential]
  cases admitted : requireAdmin user with
  | none =>
    simp only [Store.handle, admitted]
    rw [inTurn_const fun id => Response.outcome id (Response.refused 403 "Admin access required" : Response Payload)]
    exact ⟨rfl, rfl⟩
  | some checker =>
    cases decision with
    | approve =>
      have turns := bulk_outcomes store "Bulk approve completed"
        (fun store => store.approveInBulk checker note environment) _ bounded
      have same : (fun store : Store Payload => store.approveInBulk checker note environment) = fun store id =>
          ((store.approve checker note environment id).1, (store.approve checker note environment id).2.outcome id) := by
        funext store id
        exact approveInBulk_eq store checker note environment id
      rw [same] at turns
      simp only [Store.handle, admitted, Store.single, Store.bulkApprove, same, ← turns]
      trivial
    | reject =>
      have turns := bulk_outcomes store "Bulk reject completed"
        (fun store => store.rejectInBulk checker note environment) _ bounded
      have same : (fun store : Store Payload => store.rejectInBulk checker note environment) = fun store id =>
          ((store.reject checker note environment id).1, (store.reject checker note environment id).2.outcome id) := by
        funext store id
        exact rejectInBulk_eq store checker note environment id
      rw [same] at turns
      simp only [Store.handle, admitted, Store.single, Store.bulkReject, same, ← turns]
      trivial

theorem requests_follow (run : Run step .initial trace last) :
    Once last ∧ Throughout step .initial FourEyes trace ∧ Throughout step .initial Final trace ∧
      (∀ user decision actionIds note environment, (normalizeBulkIds actionIds).length ≤ maxBulkIds →
        Sequential last user decision actionIds note environment) ∧
      (Throughout step .initial (fun _ label _ => label.request.isSmooth = true) trace → Agrees last) := by
  refine ⟨?_, ?_, ?_, sequential last, ?_⟩
  · have kept : Kept last := by
      apply run.invariant (fun _ store => Kept store) kept_initial
      intro _ before label after kept move
      exact kept.change (change_of_step move)
    exact kept.once
  · intro earlier label rest before after _ _ move
    exact (change_of_step move).fourEyes
  · intro earlier label rest before after _ _ move
    exact (change_of_step move).final
  · intro every
    have kept : Kept last ∧ Agrees last := by
      apply run.kept every
      · refine ⟨kept_initial, ?_⟩
        intro action member
        cases member
      · intro before label after ⟨kept, agrees⟩ move smooth
        have change := change_of_step move
        exact ⟨kept.change change, agrees.change kept change smooth⟩
    exact kept.2

def makerSample : Option User :=
  some ⟨"maker", "admin"⟩

def checkerSample : Option User :=
  some ⟨"checker", "super-admin"⟩

def environmentSample (throws : Option Thrown) : Environment :=
  ⟨fun _ => 2, fun _ => throws⟩

/-- An action that its maker may not approve and another admin does. -/
def reviewed : List (Label Unit) :=
  [⟨makerSample, .submit (some "manual_credit") (some ()) none "a1" 0⟩,
    ⟨makerSample, .single .approve "a1" none (environmentSample none)⟩,
    ⟨checkerSample, .bulk .approve (some [some " a1 ", none, some "a1"]) none (environmentSample none)⟩]

theorem reviewed_follows : ∃ last : Store Unit, last.executions = [⟨"a1", "checker", true⟩] ∧ Once last ∧
    Throughout step .initial FourEyes reviewed ∧ Throughout step .initial Final reviewed ∧
    Sequential last checkerSample .reject (some [some "a1"]) none (environmentSample none) ∧ Agrees last := by
  have followed : (reviewed.foldlM Store.perform .initial).map Store.executions = some [⟨"a1", "checker", true⟩] := by
    decide
  obtain ⟨last, reached, executions⟩ := Option.map_eq_some_iff.mp followed
  obtain ⟨once, eyes, final, bulk, agrees⟩ := requests_follow (Run.follow reached)
  refine ⟨last, executions, once, eyes, final, ?_, ?_⟩
  · exact bulk _ _ _ _ _ (by decide)
  · exact agrees (throughout_follow (by decide))

/-- The execution of an action that was approved throws. -/
def halfApproved : List (Label Unit) :=
  [⟨makerSample, .submit (some "manual_credit") (some ()) none "a1" 0⟩,
    ⟨checkerSample, .single .approve "a1" none (environmentSample (some (some "connection refused")))⟩]

theorem halfApproved_not_agrees : ¬∀ (trace : List (Label Unit)) (last : Store Unit), Run step .initial trace last →
    Agrees last := by
  intro always
  have followed : (halfApproved.foldlM Store.perform .initial).map (fun store =>
      (store.pendingActions.map PendingAction.status, store.executions)) =
      some ([.approved], [⟨"a1", "checker", false⟩]) := by decide
  obtain ⟨last, reached, same⟩ := Option.map_eq_some_iff.mp followed
  obtain ⟨status, executions⟩ := Prod.mk.inj same
  obtain ⟨action, others, stored, approved, _⟩ := List.map_eq_cons_iff.mp status
  have finished := (always halfApproved last (Run.follow reached) action (by rw [stored]; exact List.mem_cons_self ..)).mp
    approved
  rw [executions] at finished
  obtain ⟨execution, member, _, done⟩ := finished
  obtain rfl := List.mem_singleton.mp member
  cases done

end ProxyPay.MakerChecker
