import Mathlib.Data.List.Nodup
import ProxyPay.Channels.Pool

/-! The queue of waiting callers. Every queued call waits in the queue or has been settled once,
and every row that the queue takes goes to one caller or back, as long as nothing is raised
between the row's `UPDATE` and the hand-over. -/

namespace ProxyPay.Channels

open ProxyPay.Library

variable {config : PoolConfig} {start before after last pool : Pool} {action : Action}
variable {trace : List Action} {hold : Hold} {index caller : Nat} {phase : Phase}
variable {settlement : Settlement} {message : String} {rejected : List DeferredAcquire}

/-- A caller has had the lease. -/
def Hold.handed (hold : Hold) : Bool :=
  match hold.phase with
  | .leased | .releasing _ _ | .released | .unreleased => true
  | .acquired | .returning | .returned | .stranded => false

/-- How often a hold was given to a queued call. -/
def Pool.handedTo (pool : Pool) (index : Nat) : Nat :=
  pool.callers.flatten.count (.resolved index)

/-- A queued call is settled at most once and waits in the queue until it is settled. A row that
`processQueue` made busy is on its way, was handed to exactly one queued call, or was handed to none
and is given back. -/
structure Accounted (pool : Pool) : Prop where
  once : ∀ settlements ∈ pool.callers, settlements.length ≤ 1
  waiting : ∀ caller, pool.callers[caller]? = some [] →
    ∃ deferred ∈ pool.acquireQueue, deferred.caller = caller
  handed : ∀ index hold, pool.holds[index]? = some hold → hold.origin = .processQueue →
    hold.phase ≠ .stranded ∧ pool.handedTo index = if hold.handed then 1 else 0

/-- Nothing is raised once `processQueue` has a row: its answer arrives, the result is built, and
what nobody waits for is given back. -/
def Undisturbed (before : Pool) (action : Action) (_after : Pool) : Prop :=
  match action with
  | .failToBuild index | .loseAnswer index =>
    ∀ hold, before.holds[index]? = some hold → hold.origin ≠ .processQueue
  | .releaseFails index => ∀ hold, before.holds[index]? = some hold →
    hold.origin = .processQueue → hold.phase ≠ .returning
  | _ => True

/-- What holds of the queue after any run. -/
structure Queued (pool : Pool) : Prop where
  distinct : (pool.acquireQueue.map DeferredAcquire.caller).Nodup
  unsettled : ∀ deferred ∈ pool.acquireQueue, pool.callers[deferred.caller]? = some []
  once : ∀ settlements ∈ pool.callers, settlements.length ≤ 1
  counted : ∀ index, pool.handedTo index = match pool.holds[index]? with
    | some hold => if hold.origin = .processQueue ∧ hold.handed then 1 else 0
    | none => 0

theorem settle_callers (caller other : Nat) : (pool.settle caller settlement).callers[other]? =
    if caller = other then pool.callers[other]?.map (· ++ [settlement]) else pool.callers[other]? := by
  simp only [Pool.settle, List.getElem?_modify]
  by_cases same : caller = other
  · simp [same]
  · simp [same]

theorem count_modify (callers : List (List Settlement)) (within : caller < callers.length) (wanted : Settlement) :
    (callers.modify caller (· ++ [settlement])).flatten.count wanted =
      callers.flatten.count wanted + if settlement = wanted then 1 else 0 := by
  induction callers generalizing caller with
  | nil => simp at within
  | cons first rest ih => grind

theorem rejectAll_callers (other : Nat) : (pool.rejectAll message rejected).callers[other]? = pool.callers[other]?.map
      (· ++ (rejected.filter fun deferred => deferred.caller = other).map fun _ => .rejected message) := by
  induction rejected generalizing pool with
  | nil => simp [Pool.rejectAll]
  | cons deferred rest ih =>
    have unfolded : pool.rejectAll message (deferred :: rest) =
        (pool.settle deferred.caller (.rejected message)).rejectAll message rest := rfl
    rw [unfolded, ih, settle_callers]
    by_cases same : deferred.caller = other
    · cases pool.callers[other]? <;> simp [same]
    · cases pool.callers[other]? <;> simp [same]

theorem settle_rejected_handedTo : (pool.settle caller (.rejected message)).handedTo index = pool.handedTo index := by
  unfold Pool.handedTo Pool.settle
  by_cases within : caller < pool.callers.length
  · simp [count_modify _ within]
  · rw [List.modify_eq_self (by omega)]

theorem rejectAll_handedTo : (pool.rejectAll message rejected).handedTo index = pool.handedTo index := by
  induction rejected generalizing pool with
  | nil => rfl
  | cons deferred rest ih =>
    have unfolded : pool.rejectAll message (deferred :: rest) =
        (pool.settle deferred.caller (.rejected message)).rejectAll message rest := rfl
    rw [unfolded, ih, settle_rejected_handedTo]

theorem handedTo_congr (same : after.callers = before.callers) : after.handedTo index = before.handedTo index := by
  rw [Pool.handedTo, Pool.handedTo, same]

theorem Queued.leave (queued : Queued before) (sameCallers : after.callers = before.callers)
    (left : after.acquireQueue.Sublist before.acquireQueue)
    (counted : ∀ index, before.handedTo index = match after.holds[index]? with
      | some hold => if hold.origin = .processQueue ∧ hold.handed then 1 else 0
      | none => 0) : Queued after := by
  constructor
  · exact (left.map _).nodup queued.distinct
  · intro deferred member
    rw [sameCallers]
    exact queued.unsettled deferred (left.subset member)
  · rw [sameCallers]
    exact queued.once
  · intro index
    rw [handedTo_congr sameCallers]
    exact counted index

theorem Queued.frame (queued : Queued before) (sameHolds : after.holds = before.holds)
    (sameQueue : after.acquireQueue = before.acquireQueue)
    (sameCallers : after.callers = before.callers) : Queued after := by
  apply queued.leave sameCallers
  · rw [sameQueue]
  · rw [sameHolds]
    exact queued.counted

theorem Queued.enter (queued : Queued before) (found : before.holds[index]? = some hold)
    (same : hold.origin = .processQueue → ({ hold with phase } : Hold).handed = hold.handed)
    (sameHolds : after.holds = before.holds.set index { hold with phase })
    (sameCallers : after.callers = before.callers)
    (left : after.acquireQueue.Sublist before.acquireQueue) : Queued after := by
  apply queued.leave sameCallers left
  intro place
  rw [queued.counted place, sameHolds]
  by_cases here : index = place
  · grind
  · rw [List.getElem?_set_ne here]

variable {id : AccountId} {origin : Origin}

theorem Queued.acquire (queued : Queued before) (taken : before.acquireIdle id origin = some after) : Queued after := by
  unfold Pool.acquireIdle at taken
  obtain ⟨row, -, rest⟩ := Option.bind_eq_some_iff.mp taken
  split at rest <;> cases rest
  refine queued.leave rfl (List.Sublist.refl _) ?_
  intro index
  rw [queued.counted index]
  by_cases within : index < before.holds.length
  · rw [List.getElem?_append_left within]
  · grind [List.getElem?_eq_none, Hold.handed]

theorem Queued.unknown (queued : Queued pool) : ∀ deferred ∈ pool.acquireQueue,
    deferred.caller < pool.callers.length := by
  intro deferred member
  by_contra beyond
  have waiting := queued.unsettled deferred member
  rw [List.getElem?_eq_none (by omega)] at waiting
  cases waiting

theorem Queued.enqueue (queued : Queued before) : Queued (before.enqueue config) := by
  unfold Pool.enqueue
  split
  · exact queued
  · constructor
    · rw [List.map_append, List.nodup_append]
      refine ⟨queued.distinct, by simp, ?_⟩
      intro caller queuedCaller other newCaller
      obtain ⟨deferred, member, rfl⟩ := List.mem_map.mp queuedCaller
      have known := queued.unknown deferred member
      have fresh : other = before.callers.length := by simpa using newCaller
      omega
    · intro deferred member
      rcases List.mem_append.mp member with old | new
      · rw [List.getElem?_append_left (queued.unknown deferred old)]
        exact queued.unsettled deferred old
      · rw [List.mem_singleton.mp new]
        simp
    · intro settlements member
      rcases List.mem_append.mp member with old | new
      · exact queued.once settlements old
      · simp [List.mem_singleton.mp new]
    · intro index
      rw [← queued.counted index]
      simp [Pool.handedTo]

variable {rest : List DeferredAcquire} {deferred : DeferredAcquire}

theorem Queued.hand (queued : Queued before) (waits : before.acquireQueue = deferred :: rest)
    (found : before.holds[index]? = some hold) (origin : hold.origin = .processQueue)
    (acquired : hold.phase = .acquired) :
    Queued { (before.enter index hold .leased).settle deferred.caller (.resolved index) with
      acquireQueue := rest } := by
  have unsettled := queued.unsettled
  have distinct := queued.distinct
  rw [waits] at unsettled distinct
  have first := unsettled deferred (by simp)
  have within : deferred.caller < before.callers.length := by
    apply queued.unknown
    rw [waits]
    simp
  obtain ⟨absent, others⟩ := List.nodup_cons.mp distinct
  constructor
  · exact others
  · intro other member
    have apart : deferred.caller ≠ other.caller := by grind
    rw [settle_callers, if_neg apart]
    exact unsettled other (by simp [member])
  · intro settlements member
    obtain ⟨caller, place⟩ := List.mem_iff_getElem?.mp member
    rw [settle_callers] at place
    by_cases same : deferred.caller = caller
    · rw [if_pos same, ← same] at place
      change before.callers[deferred.caller]?.map _ = some settlements at place
      rw [first] at place
      cases place
      simp
    · rw [if_neg same] at place
      exact queued.once settlements (List.mem_of_getElem? place)
  · intro place
    have count : Pool.handedTo { (before.enter index hold .leased).settle deferred.caller
        (.resolved index) with acquireQueue := rest } place =
          before.handedTo place + if Settlement.resolved index = .resolved place then 1 else 0 :=
      count_modify before.callers within (.resolved place)
    rw [count, queued.counted place]
    change _ = match (before.holds.set index { hold with phase := .leased })[place]? with
      | some hold => if hold.origin = Origin.processQueue ∧ hold.handed then 1 else 0
      | none => 0
    by_cases here : index = place
    · subst here
      simp [List.getElem?_set_self', found, origin, Hold.handed, acquired]
    · simp_all

theorem Queued.reject (queued : Queued before) (split : before.acquireQueue.Perm (rejected ++ rest)) :
    Queued { before.rejectAll message rejected with acquireQueue := rest } := by
  obtain ⟨-, holds⟩ := before.rejectAll_frame message rejected
  have distinct : ((rejected ++ rest).map DeferredAcquire.caller).Nodup :=
    (split.map _).nodup_iff.mp queued.distinct
  rw [List.map_append, List.nodup_append] at distinct
  obtain ⟨distinctRejected, distinctRest, apart⟩ := distinct
  constructor
  · exact distinctRest
  · intro deferred member
    have none : (rejected.filter fun other => other.caller = deferred.caller) = [] := by simp_all
    rw [rejectAll_callers, none,
      queued.unsettled deferred (split.mem_iff.mpr (List.mem_append_right _ member))]
    rfl
  · intro settlements member
    obtain ⟨caller, place⟩ := List.mem_iff_getElem?.mp member
    rw [rejectAll_callers] at place
    obtain ⟨old, known, changed⟩ := Option.map_eq_some_iff.mp place
    rw [← changed]
    by_cases leaves : ∃ deferred ∈ rejected, deferred.caller = caller
    · obtain ⟨deferred, rejectedMember, same⟩ := leaves
      have waiting := queued.unsettled deferred
        (split.mem_iff.mpr (List.mem_append_left _ rejectedMember))
      rw [same, known] at waiting
      cases waiting
      have single : (rejected.filter fun other => other.caller = caller).length ≤ 1 := by
        have count := List.nodup_iff_count_le_one.mp distinctRejected caller
        rw [List.count_eq_length_filter, List.filter_map, List.length_map] at count
        simpa [Function.comp_def, beq_eq_decide] using count
      simpa using single
    · have none : (rejected.filter fun other => other.caller = caller) = [] := by
        rw [List.filter_eq_nil_iff]
        intro other rejectedMember
        simpa using fun same => leaves ⟨other, rejectedMember, same⟩
      rw [none]
      simpa using queued.once old (List.mem_of_getElem? known)
  · intro index
    change (before.rejectAll message rejected).handedTo index = match
      (before.rejectAll message rejected).holds[index]? with
        | some hold => if hold.origin = Origin.processQueue ∧ hold.handed then 1 else 0
        | none => 0
    rw [rejectAll_handedTo, holds]
    exact queued.counted index

theorem Queued.of_fresh (fresh : start.Fresh) : Queued start := by
  constructor
  · simp [fresh.acquireQueue]
  · simp [fresh.acquireQueue]
  · simp [fresh.callers]
  · simp [Pool.handedTo, fresh.callers, fresh.holds]

theorem timeout_cases {caller : Nat} (moved : before.timeout config caller = some after) :
    after = before ∨ ∃ deferred message, before.acquireQueue.find? (fun deferred =>
        deferred.caller = caller) = some deferred ∧
      after = { before.rejectAll message [deferred] with
        acquireQueue := before.acquireQueue.filter fun other => other.caller ≠ caller } := by
  unfold Pool.timeout at moved
  split at moved
  · left
    exact (Option.some.inj moved).symm
  · rename_i deferred found
    have same : deferred.caller = caller := by simpa using List.find?_some found
    split at moved <;> cases moved
    right
    refine ⟨deferred, Pool.timeoutMessage config, found, ?_⟩
    simp [Pool.rejectAll, same]

theorem Queued.expired (queued : Queued pool)
    (found : pool.acquireQueue.find? (fun deferred => deferred.caller = caller) = some deferred) :
    pool.acquireQueue.Perm ([deferred] ++ pool.acquireQueue.filter fun other => other.caller ≠ caller) := by
  have same : deferred.caller = caller := by simpa using List.find?_some found
  have member := List.mem_of_find?_eq_some found
  have single : pool.acquireQueue.filter (fun other => other.caller = caller) = [deferred] := by
    have inj : ∀ other ∈ pool.acquireQueue, other.caller = caller → other = deferred := by
      intro other otherMember otherCaller
      exact List.inj_on_of_nodup_map queued.distinct otherMember member (otherCaller.trans same.symm)
    have count : (pool.acquireQueue.filter fun other => other.caller = caller).length ≤ 1 := by
      have bound := List.nodup_iff_count_le_one.mp queued.distinct caller
      rw [List.count_eq_length_filter, List.filter_map, List.length_map] at bound
      simpa [Function.comp_def, beq_eq_decide] using bound
    have there : deferred ∈ pool.acquireQueue.filter fun other => other.caller = caller :=
      List.mem_filter.mpr ⟨member, decide_eq_true same⟩
    cases kept : pool.acquireQueue.filter fun other => other.caller = caller with
    | nil =>
      rw [kept] at there
      cases there
    | cons first rest => simp_all
  have parts := List.filter_append_perm (fun other : DeferredAcquire => other.caller = caller)
    pool.acquireQueue
  rw [single] at parts
  simpa using parts.symm

theorem Queued.kept (queued : Queued before) (move : step config before action after) : Queued after := by
  change before.perform config action = some after at move
  cases action with
  | tick elapsed =>
    cases move
    exact queued.frame rfl rfl rfl
  | acquire id => exact queued.acquire move
  | acquireFindsNone =>
    cases move
    exact queued.enqueue
  | processQueue =>
    simp only [Pool.perform] at move
    split at move <;> cases move <;> exact queued.frame rfl rfl rfl
  | processQueueAcquires id =>
    simp only [Pool.perform] at move
    split at move
    · cases move
    · have started : Queued { before with processing := before.processing - 1 } :=
        queued.frame rfl rfl rfl
      exact started.acquire move
  | processQueueFindsNone =>
    simp only [Pool.perform] at move
    split at move <;> cases move
    exact queued.frame rfl rfl rfl
  | deliver index =>
    obtain ⟨hold, located, delivered⟩ := Option.map_eq_some_iff.mp move
    obtain ⟨found, acquired⟩ := Pool.holdIn_some located
    subst delivered
    unfold Pool.deliver
    split
    · rename_i origin
      exact queued.enter found (by simp [origin]) rfl rfl (List.Sublist.refl _)
    · rename_i origin waits
      exact queued.hand waits found origin acquired
    · exact queued.enter found (by simp [Hold.handed, acquired]) rfl rfl (List.Sublist.refl _)
  | failToBuild index =>
    obtain ⟨hold, located, failed⟩ := Option.bind_eq_some_iff.mp move
    obtain ⟨found, acquired⟩ := Pool.holdIn_some located
    unfold Pool.failToBuild at failed
    split at failed <;> cases failed
    · exact queued.enter found (by simp [Hold.handed, acquired]) rfl rfl (List.Sublist.refl _)
    · rename_i waits
      refine queued.enter found (by simp [Hold.handed, acquired]) rfl rfl ?_
      rw [waits]
      exact List.sublist_cons_self _ _
  | loseAnswer index =>
    obtain ⟨hold, located, lost⟩ := Option.map_eq_some_iff.mp move
    obtain ⟨found, acquired⟩ := Pool.holdIn_some located
    subst lost
    exact queued.enter found (by simp [Hold.handed, acquired]) rfl rfl (List.Sublist.refl _)
  | release index success newSequence =>
    obtain ⟨hold, located, released⟩ := Option.map_eq_some_iff.mp move
    obtain ⟨found, leased⟩ := Pool.holdIn_some located
    subst released
    exact queued.enter found (by simp [Hold.handed, leased]) rfl rfl (List.Sublist.refl _)
  | releaseUpdate index =>
    obtain ⟨hold, found, updated⟩ := Option.bind_eq_some_iff.mp move
    split at updated
    · rename_i success newSequence releasing
      cases updated
      exact queued.enter found (by simp [Hold.handed, releasing]) rfl rfl (List.Sublist.refl _)
    · rename_i returning
      cases updated
      exact queued.enter found (by simp [Hold.handed, returning]) rfl rfl (List.Sublist.refl _)
    · cases updated
  | releaseFails index =>
    obtain ⟨hold, found, failed⟩ := Option.bind_eq_some_iff.mp move
    split at failed
    · rename_i success newSequence releasing
      cases failed
      exact queued.enter found (by simp [Hold.handed, releasing]) rfl rfl (List.Sublist.refl _)
    · rename_i returning
      cases failed
      exact queued.enter found (by simp [Hold.handed, returning]) rfl rfl (List.Sublist.refl _)
    · cases failed
  | timeout caller =>
    rcases timeout_cases move with rfl | ⟨deferred, message, found, rfl⟩
    · exact queued
    · exact queued.reject (queued.expired found)
  | expire =>
    cases move
    apply queued.reject
    rw [List.takeWhile_append_dropWhile]
  | shutdown =>
    cases move
    apply queued.reject
    simp
  | resyncSequence id newSequence =>
    cases move
    exact queued.frame rfl rfl rfl
  | recoverStale =>
    cases move
    exact queued.frame rfl rfl rfl
  | recoverDisabled =>
    cases move
    exact queued.frame rfl rfl rfl
  | disable id =>
    cases move
    exact queued.frame rfl rfl rfl

/-- Every queued call that is not settled is still in the queue. -/
def Waiting (pool : Pool) : Prop :=
  ∀ caller, pool.callers[caller]? = some [] → ∃ deferred ∈ pool.acquireQueue, deferred.caller = caller

def Unstranded (pool : Pool) : Prop :=
  ∀ hold ∈ pool.holds, hold.origin = .processQueue → hold.phase ≠ .stranded

theorem Queued.accounted_iff (queued : Queued pool) : Accounted pool ↔ Waiting pool ∧ Unstranded pool := by
  constructor
  · intro accounted
    refine ⟨accounted.waiting, ?_⟩
    intro hold member origin
    obtain ⟨index, found⟩ := List.mem_iff_getElem?.mp member
    exact (accounted.handed index hold found origin).1
  · rintro ⟨waiting, unstranded⟩
    constructor
    · exact queued.once
    · exact waiting
    · intro index hold found origin
      constructor
      · exact unstranded hold (List.mem_of_getElem? found) origin
      · rw [queued.counted index, found]
        simp [origin]

section

variable (waiting : Waiting before)

include waiting

theorem Waiting.frame (sameCallers : after.callers = before.callers)
    (sameQueue : after.acquireQueue = before.acquireQueue) : Waiting after := by
  unfold Waiting
  rw [sameCallers, sameQueue]
  exact waiting

theorem Waiting.enqueue : Waiting (before.enqueue config) := by
  unfold Pool.enqueue
  split
  · exact waiting
  · intro caller unsettled
    rcases getElem?_append_singleton unsettled with old | ⟨new, -⟩
    · obtain ⟨deferred, member, same⟩ := waiting caller old
      exact ⟨deferred, List.mem_append_left _ member, same⟩
    · exact ⟨_, List.mem_append_right _ (List.mem_singleton_self _), new.symm⟩

theorem Waiting.settle (waits : before.acquireQueue = deferred :: rest) (sameQueue : after.acquireQueue = rest)
    (settled : after.callers = (before.settle deferred.caller settlement).callers) :
    Waiting after := by
  intro caller unsettled
  rw [settled, settle_callers] at unsettled
  by_cases same : deferred.caller = caller
  · simp_all
  · rw [if_neg same] at unsettled
    obtain ⟨other, member, named⟩ := waiting caller unsettled
    rw [waits] at member
    rcases List.mem_cons.mp member with first | later
    · simp_all
    · exact ⟨other, by rw [sameQueue]; exact later, named⟩

theorem Waiting.reject (split : before.acquireQueue.Perm (rejected ++ rest)) :
    Waiting { before.rejectAll message rejected with acquireQueue := rest } := by
  intro caller unsettled
  rw [rejectAll_callers] at unsettled
  obtain ⟨old, known, changed⟩ := Option.map_eq_some_iff.mp unsettled
  obtain ⟨empty, none⟩ := List.append_eq_nil_iff.mp changed
  subst empty
  obtain ⟨deferred, member, same⟩ := waiting caller known
  rcases List.mem_append.mp (split.mem_iff.mp member) with leaves | stays
  · simp_all
  · exact ⟨deferred, stays, same⟩

end

theorem Unstranded.frame (unstranded : Unstranded before) (sameHolds : after.holds = before.holds) :
    Unstranded after := by
  unfold Unstranded
  rw [sameHolds]
  exact unstranded

theorem Unstranded.enter (unstranded : Unstranded before) (sound : hold.origin = .processQueue → phase ≠ .stranded)
    (sameHolds : after.holds = before.holds.set index { hold with phase }) : Unstranded after := by
  intro other member origin
  rw [sameHolds] at member
  rcases List.mem_or_eq_of_mem_set member with old | new
  · exact unstranded other old origin
  · subst new
    exact sound origin

theorem Unstranded.acquire (unstranded : Unstranded before)
    (taken : before.acquireIdle id origin = some after) : Unstranded after := by
  unfold Pool.acquireIdle at taken
  obtain ⟨row, -, rest⟩ := Option.bind_eq_some_iff.mp taken
  split at rest <;> cases rest
  intro hold member queueOrigin
  rcases List.mem_append.mp member with old | new
  · exact unstranded hold old queueOrigin
  · rw [List.mem_singleton.mp new]
    simp

theorem stranded_set (found : before.holds[index]? = some hold) (origin : hold.origin = .processQueue)
    (sameHolds : after.holds = before.holds.set index { hold with phase := .stranded }) :
    ¬Unstranded after := by
  intro unstranded
  have member : ({ hold with phase := .stranded } : Hold) ∈ after.holds := by grind [List.getElem?_set_self']
  exact unstranded _ member origin rfl

theorem undisturbed_keeps (queued : Queued before) (waiting : Waiting before)
    (unstranded : Unstranded before) (move : step config before action after)
    (undisturbed : Undisturbed before action after) : Waiting after ∧ Unstranded after := by
  change before.perform config action = some after at move
  cases action with
  | tick elapsed =>
    cases move
    exact ⟨waiting.frame rfl rfl, unstranded.frame rfl⟩
  | acquire id =>
    refine ⟨?_, unstranded.acquire move⟩
    obtain ⟨row, -, rest⟩ := Option.bind_eq_some_iff.mp move
    split at rest <;> cases rest
    exact waiting.frame rfl rfl
  | acquireFindsNone =>
    cases move
    refine ⟨waiting.enqueue, ?_⟩
    unfold Pool.enqueue
    split <;> exact unstranded.frame rfl
  | processQueue =>
    simp only [Pool.perform] at move
    split at move <;> cases move <;> exact ⟨waiting.frame rfl rfl, unstranded.frame rfl⟩
  | processQueueAcquires id =>
    simp only [Pool.perform] at move
    split at move
    · cases move
    · have started : Unstranded { before with processing := before.processing - 1 } :=
        unstranded.frame rfl
      refine ⟨?_, started.acquire move⟩
      obtain ⟨row, -, rest⟩ := Option.bind_eq_some_iff.mp move
      split at rest <;> cases rest
      exact waiting.frame rfl rfl
  | processQueueFindsNone =>
    simp only [Pool.perform] at move
    split at move <;> cases move
    exact ⟨waiting.frame rfl rfl, unstranded.frame rfl⟩
  | deliver index =>
    obtain ⟨hold, located, delivered⟩ := Option.map_eq_some_iff.mp move
    subst delivered
    unfold Pool.deliver
    split
    · exact ⟨waiting.frame rfl rfl, unstranded.enter (by simp) rfl⟩
    · rename_i waits
      exact ⟨waiting.settle waits rfl rfl, unstranded.enter (by simp) rfl⟩
    · exact ⟨waiting.frame rfl rfl, unstranded.enter (by simp) rfl⟩
  | failToBuild index =>
    obtain ⟨hold, located, failed⟩ := Option.bind_eq_some_iff.mp move
    obtain ⟨found, -⟩ := Pool.holdIn_some located
    have direct := undisturbed hold found
    unfold Pool.failToBuild at failed
    split at failed <;> cases failed
    · exact ⟨waiting.frame rfl rfl, unstranded.enter (fun origin => absurd origin direct) rfl⟩
    · simp_all
  | loseAnswer index =>
    obtain ⟨hold, located, lost⟩ := Option.map_eq_some_iff.mp move
    obtain ⟨found, -⟩ := Pool.holdIn_some located
    have direct := undisturbed hold found
    subst lost
    exact ⟨waiting.frame rfl rfl, unstranded.enter (fun origin => absurd origin direct) rfl⟩
  | release index success newSequence =>
    obtain ⟨hold, -, released⟩ := Option.map_eq_some_iff.mp move
    subst released
    exact ⟨waiting.frame rfl rfl, unstranded.enter (by simp) rfl⟩
  | releaseUpdate index =>
    obtain ⟨hold, -, updated⟩ := Option.bind_eq_some_iff.mp move
    split at updated <;> cases updated <;>
      exact ⟨waiting.frame rfl rfl, unstranded.enter (by simp) rfl⟩
  | releaseFails index =>
    obtain ⟨hold, found, failed⟩ := Option.bind_eq_some_iff.mp move
    split at failed
    · cases failed
      exact ⟨waiting.frame rfl rfl, unstranded.enter (by simp) rfl⟩
    · rename_i returning
      cases failed
      refine ⟨waiting.frame rfl rfl, unstranded.enter ?_ rfl⟩
      intro origin
      exact absurd returning (undisturbed hold found origin)
    · cases failed
  | timeout caller =>
    rcases timeout_cases move with rfl | ⟨deferred, message, found, rfl⟩
    · exact ⟨waiting, unstranded⟩
    · obtain ⟨-, holds⟩ := before.rejectAll_frame message [deferred]
      exact ⟨waiting.reject (queued.expired found), unstranded.frame holds⟩
  | expire =>
    cases move
    obtain ⟨-, holds⟩ := before.rejectAll_frame "Queue timeout"
      (before.acquireQueue.takeWhile (before.expired config))
    refine ⟨waiting.reject ?_, unstranded.frame holds⟩
    rw [List.takeWhile_append_dropWhile]
  | shutdown =>
    cases move
    obtain ⟨-, holds⟩ := before.rejectAll_frame "Pool is shutting down" before.acquireQueue
    refine ⟨waiting.reject ?_, unstranded.frame holds⟩
    simp
  | resyncSequence id newSequence =>
    cases move
    exact ⟨waiting.frame rfl rfl, unstranded.frame rfl⟩
  | recoverStale =>
    cases move
    exact ⟨waiting.frame rfl rfl, unstranded.frame rfl⟩
  | recoverDisabled =>
    cases move
    exact ⟨waiting.frame rfl rfl, unstranded.frame rfl⟩
  | disable id =>
    cases move
    exact ⟨waiting.frame rfl rfl, unstranded.frame rfl⟩

theorem disturbed_strands (move : step config before action after)
    (disturbed : ¬Undisturbed before action after) : ¬Unstranded after := by
  change before.perform config action = some after at move
  cases action with
  | failToBuild index =>
    obtain ⟨hold, located, failed⟩ := Option.bind_eq_some_iff.mp move
    obtain ⟨found, -⟩ := Pool.holdIn_some located
    have origin : hold.origin = .processQueue := by
      by_contra direct
      apply disturbed
      intro other there
      rw [found] at there
      cases there
      exact direct
    unfold Pool.failToBuild at failed
    split at failed <;> cases failed
    · simp_all
    · exact stranded_set found origin rfl
  | loseAnswer index =>
    obtain ⟨hold, located, lost⟩ := Option.map_eq_some_iff.mp move
    obtain ⟨found, -⟩ := Pool.holdIn_some located
    have origin : hold.origin = .processQueue := by
      by_contra direct
      apply disturbed
      intro other there
      rw [found] at there
      cases there
      exact direct
    subst lost
    exact stranded_set found origin rfl
  | releaseFails index =>
    obtain ⟨hold, found, failed⟩ := Option.bind_eq_some_iff.mp move
    by_cases returns : hold.origin = .processQueue ∧ hold.phase = .returning
    · obtain ⟨origin, returning⟩ := returns
      rw [returning] at failed
      cases failed
      exact stranded_set found origin rfl
    · apply absurd _ disturbed
      intro other there origin returning
      rw [found] at there
      cases there
      exact returns ⟨origin, returning⟩
  | _ => exact absurd trivial disturbed

theorem accounted_step (queued : Queued before) (accounted : Accounted before)
    (move : step config before action after) :
    Accounted after ↔ Undisturbed before action after := by
  rw [(queued.kept move).accounted_iff]
  obtain ⟨waiting, unstranded⟩ := queued.accounted_iff.mp accounted
  constructor
  · rintro ⟨-, kept⟩
    by_contra disturbed
    exact disturbed_strands move disturbed kept
  · exact undisturbed_keeps queued waiting unstranded move

theorem accounted_fresh (fresh : start.Fresh) : Accounted start := by
  constructor
  · simp [fresh.callers]
  · simp [fresh.callers]
  · simp [fresh.holds]

theorem queue_accounted_iff (fresh : start.Fresh) :
    Throughout (step config) start (fun _ _ after => Accounted after) trace ↔
      Throughout (step config) start Undisturbed trace := by
  apply throughout_congr
  intro trace before action after run move
  have queued : Queued before := by
    apply run.invariant fun _ pool => Queued pool
    · exact Queued.of_fresh fresh
    · rintro _ before action after queued ⟨moved, -⟩
      exact queued.kept moved
  have accounted : Accounted before := by
    apply run.invariant fun _ pool => Accounted pool
    · exact accounted_fresh fresh
    · simp
  exact accounted_step queued accounted move

end ProxyPay.Channels
