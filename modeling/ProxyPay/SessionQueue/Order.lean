import ProxyPay.Library.Transition
import ProxyPay.SessionQueue.Queue

/-! The queue serves each session in order as long as no session is cleared while its requests wait. -/

namespace ProxyPay.SessionQueue

open ProxyPay.Library

variable {Key Value : Type}

/-- The entry that runs and those behind it. -/
def SessionQueueState.entries (state : SessionQueueState Key) : List ℕ :=
  state.current.toList ++ state.chain

/-- A session is cleared only when none of its requests waits. -/
def isQuiet [DecidableEq Key] (before : Queue Key Value) : Label Key Value → Bool
  | .clear sessionKey _ =>
    (before.queues.get? sessionKey).all fun index => before.states[index]?.all fun state => state.pending.isEmpty
  | _ => true

/-- What is settled among the first requests is settled alike among the second. -/
def Retains (first second : List (Request Key Value)) : Prop :=
  ∀ (id : ℕ) request outcome, first[id]? = some request → request.settlement = some outcome →
    ∃ later, second[id]? = some later ∧ later.settlement = some outcome

variable (requests : List (Request Key Value))

theorem retains_refl : Retains requests requests :=
  fun _ request _ found settled => ⟨request, found, settled⟩

theorem Retains.trans {first second third : List (Request Key Value)} (earlier : Retains first second)
    (later : Retains second third) : Retains first third := by
  intro id request outcome found settled
  obtain ⟨middle, there, same⟩ := earlier id request outcome found settled
  exact later id middle outcome there same

theorem retains_append (requests more : List (Request Key Value)) : Retains requests (requests ++ more) := by
  intro id request outcome found settled
  exact ⟨request, by rw [List.getElem?_append_left (List.getElem?_eq_some_iff.mp found).1, found], settled⟩

theorem retains_modify {id : ℕ} {change : Request Key Value → Request Key Value}
    (keeps : ∀ request outcome, request.settlement = some outcome → (change request).settlement = some outcome) :
    Retains requests (requests.modify id change) := by
  intro other request outcome found settled
  rw [List.getElem?_modify, found]
  by_cases here : id = other
  · exact ⟨change request, by simp [here], keeps request outcome settled⟩
  · exact ⟨request, by simp [here], settled⟩

theorem settle_keeps (outcome : Outcome Value) (request : Request Key Value) (first : Outcome Value)
    (settled : request.settlement = some first) : (request.settle outcome).settlement = some first := by
  rw [Request.settle, settled]
  rfl

theorem retains_drop (clock : ℕ → ℚ) (requests : List (Request Key Value)) (dropped : List ℕ) :
    Retains requests (Queue.drop clock requests dropped) := by
  unfold Queue.drop
  generalize dropped.zipIdx = entries
  induction entries generalizing requests with
  | nil => exact retains_refl requests
  | cons entry rest ih =>
    rw [List.foldl_cons]
    refine Retains.trans ?_ (ih _)
    apply retains_modify
    intro request outcome settled
    exact settle_keeps _ request outcome settled

structure Kept [DecidableEq Key] (queue : Queue Key Value) : Prop where
  mapped : ∀ sessionKey index, queue.queues.get? sessionKey = some index →
    ∃ state, queue.states[index]? = some state ∧ state.key = sessionKey
  tail : ∀ state ∈ queue.states, state.chain = state.pending ∧ state.locked = state.current.isSome
  active : ∀ (index : ℕ) state, queue.states[index]? = some state → state.entries ≠ [] →
    queue.queues.get? state.key = some index
  sorted : ∀ state ∈ queue.states, state.entries.Pairwise (· < ·)
  owned : ∀ state ∈ queue.states, ∀ id ∈ state.entries, ∃ request, queue.requests[id]? = some request ∧
    request.sessionKey = state.key ∧ request.settlement = none
  unsettled : ∀ (id : ℕ) request, queue.requests[id]? = some request → request.settlement = none →
    ∃ state ∈ queue.states, id ∈ state.entries
  own : ∀ request ∈ queue.requests, ∀ outcome, request.settlement = some outcome →
    request.result = some outcome ∨ (∃ waitedMs, outcome = .timeout waitedMs) ∨ outcome = .overflow
  starts : ∀ entry ∈ queue.started, ∃ request, queue.requests[entry.2]? = some request ∧ request.sessionKey = entry.1
  order : InOrder queue
  next : ∀ state ∈ queue.states, ∀ id ∈ state.chain, ∀ earlier, (state.key, earlier) ∈ queue.started → earlier < id
  unexecuted : Unexecuted queue

theorem entries_of_idle {state : SessionQueueState Key} {id : ℕ} {rest : List ℕ} (idle : state.current = none)
    (chain : state.chain = id :: rest) : state.entries = id :: rest := by
  rw [SessionQueueState.entries, idle, chain]
  rfl

variable [DecidableEq Key] {before after : Queue Key Value} {state new : SessionQueueState Key}
variable {request changed : Request Key Value} {sessionKey : Key} {index id : ℕ}

theorem kept_initial (maxQueueDepth : ℕ) : Kept (.initial maxQueueDepth : Queue Key Value) := by
  constructor
  · nofun
  · nofun
  · nofun
  · nofun
  · nofun
  · intro id request found
    cases found
  · intro request member
    cases member
  · nofun
  · intro sessionKey
    exact List.Pairwise.nil
  · nofun
  · intro id request waitedMs found
    cases found

section

variable (kept : Kept before)

include kept

variable {first second : SessionQueueState Key} {other : ℕ}

section

variable (here : before.states[index]? = some first) (there : before.states[other]? = some second)

include here there

theorem Kept.same_state (inFirst : id ∈ first.entries) (inSecond : id ∈ second.entries) : index = other := by
  obtain ⟨request, found, key, _⟩ := kept.owned first (List.mem_of_getElem? here) id inFirst
  obtain ⟨again, also, same, _⟩ := kept.owned second (List.mem_of_getElem? there) id inSecond
  cases found.symm.trans also
  have mapped := kept.active index first here (List.ne_nil_of_mem inFirst)
  have too := kept.active other second there (List.ne_nil_of_mem inSecond)
  rw [← key, same] at mapped
  exact Option.some.inj (mapped.symm.trans too)

theorem Kept.same_key (busy : first.entries ≠ []) (also : second.entries ≠ []) (same : first.key = second.key) : index = other := by
  have mapped := kept.active index first here busy
  have too := kept.active other second there also
  rw [same] at mapped
  exact Option.some.inj (mapped.symm.trans too)

end

theorem Kept.unstarted (member : state ∈ before.states) (waits : id ∈ state.chain) (sessionKey : Key) :
    (sessionKey, id) ∉ before.started := by
  intro started
  obtain ⟨request, found, key, _⟩ := kept.owned state member id (List.mem_append_right _ waits)
  obtain ⟨again, also, same⟩ := kept.starts _ started
  cases found.symm.trans also
  rw [key] at same
  dsimp only at same
  subst same
  exact Nat.lt_irrefl id (kept.next state member id waits id started)

theorem Kept.erase (resting : ∀ (index : ℕ) state, before.states[index]? = some state →
    state.key = sessionKey → state.entries = []) :
    Kept { before with queues := before.queues.erase sessionKey } := by
  constructor
  · intro other index found
    rw [InsertionMap.get?_erase] at found
    split at found
    · cases found
    · exact kept.mapped other index found
  · exact kept.tail
  · intro index state found busy
    rw [InsertionMap.get?_erase, if_neg]
    · exact kept.active index state found busy
    · grind
  · exact kept.sorted
  · exact kept.owned
  · exact kept.unsettled
  · exact kept.own
  · exact kept.starts
  · exact kept.order
  · exact kept.next
  · exact kept.unexecuted

theorem Kept.resting (found : before.states[index]? = some state)
    (unlocked : state.locked = false) (empty : state.pending.isEmpty = true) : state.entries = [] := by
  obtain ⟨chain, locked⟩ := kept.tail state (List.mem_of_getElem? found)
  have idle : state.current = none := by simp_all
  rw [SessionQueueState.entries, chain, idle, List.isEmpty_iff.mp empty]
  rfl

theorem Kept.release (found : before.states[index]? = some state)
    (here : before.queues.get? state.key = some index) : Kept (before.release state) := by
  unfold Queue.release
  split
  · rename_i free
    obtain ⟨unlocked, empty⟩ := Bool.and_eq_true_iff.mp free
    apply kept.erase
    intro other second there same
    by_contra busy
    have mapped := kept.active other second there busy
    rw [same, here] at mapped
    cases mapped
    cases found.symm.trans there
    exact busy (kept.resting found (Bool.not_eq_true' _ |>.mp unlocked) empty)
  · exact kept

theorem Kept.create (missing : before.queues.get? sessionKey = none) : Kept { before with
      queues := before.queues.set sessionKey before.states.length
      states := before.states ++ [.fresh sessionKey] } := by
  have cases : ∀ state ∈ before.states ++ [.fresh sessionKey], state ∈ before.states ∨ state = .fresh sessionKey := by simp
  constructor
  · intro other index found
    rw [InsertionMap.get?_set] at found
    split at found
    · rename_i same
      cases found
      exact ⟨.fresh sessionKey, List.getElem?_concat_length, same⟩
    · obtain ⟨state, there, key⟩ := kept.mapped other index found
      exact ⟨state, by rw [List.getElem?_append_left (List.getElem?_eq_some_iff.mp there).1, there], key⟩
  · intro state member
    rcases cases state member with earlier | rfl
    · exact kept.tail state earlier
    · exact ⟨rfl, rfl⟩
  · intro index state found busy
    rcases getElem?_append_singleton found with earlier | ⟨_, rfl⟩
    · have mapped := kept.active index state earlier busy
      rw [InsertionMap.get?_set, if_neg, mapped]
      intro same
      rw [← same, missing] at mapped
      cases mapped
    · exact absurd rfl busy
  · intro state member
    rcases cases state member with earlier | rfl
    · exact kept.sorted state earlier
    · exact List.Pairwise.nil
  · intro state member id entry
    rcases cases state member with earlier | rfl
    · exact kept.owned state earlier id entry
    · cases entry
  · intro id request found unsettled
    obtain ⟨state, member, entry⟩ := kept.unsettled id request found unsettled
    exact ⟨state, List.mem_append_left _ member, entry⟩
  · exact kept.own
  · exact kept.starts
  · exact kept.order
  · intro state member id waits
    rcases cases state member with earlier | rfl
    · exact kept.next state earlier id waits
    · cases waits
  · exact kept.unexecuted

theorem Kept.refuse (request : Request Key Value) (refused : request.settlement = some .overflow) :
    Kept { before with requests := before.requests ++ [request] } := by
  have stays : ∀ (id : ℕ) other, before.requests[id]? = some other → (before.requests ++ [request])[id]? = some other := by grind
  constructor
  · exact kept.mapped
  · exact kept.tail
  · exact kept.active
  · exact kept.sorted
  · intro state member id entry
    obtain ⟨owner, found, facts⟩ := kept.owned state member id entry
    exact ⟨owner, stays id owner found, facts⟩
  · intro id other found unsettled
    rcases getElem?_append_singleton found with earlier | ⟨_, rfl⟩
    · exact kept.unsettled id other earlier unsettled
    · cases refused.symm.trans unsettled
  · intro other member outcome settled
    rcases List.mem_append.mp member with earlier | last
    · exact kept.own other earlier outcome settled
    · simp_all
  · intro entry member
    obtain ⟨owner, found, key⟩ := kept.starts entry member
    exact ⟨owner, stays _ owner found, key⟩
  · exact kept.order
  · exact kept.next
  · intro id other waitedMs found timeout
    rcases getElem?_append_singleton found with earlier | ⟨_, rfl⟩
    · exact kept.unexecuted id other waitedMs earlier timeout
    · cases refused.symm.trans timeout

theorem mapped_become (found : before.states[index]? = some state) (same : new.key = state.key)
    {place : ℕ} (mapped : before.queues.get? sessionKey = some place) :
    ∃ other, (before.states.set index new)[place]? = some other ∧ other.key = sessionKey := by
  obtain ⟨other, there, key⟩ := kept.mapped sessionKey place mapped
  by_cases here : index = place
  · grind
  · exact ⟨other, by rw [List.getElem?_set_ne here, there], key⟩

theorem Kept.push (found : before.states[index]? = some state)
    (here : before.queues.get? state.key = some index) (key : request.sessionKey = state.key)
    (unsettled : request.settlement = none) :
    Kept { before.become index (state.push before.requests.length) with requests := before.requests ++ [request] } := by
  have member := List.mem_of_getElem? found
  have stays : ∀ (id : ℕ) other, before.requests[id]? = some other → (before.requests ++ [request])[id]? = some other := by grind
  have below : ∀ other ∈ before.states, ∀ id ∈ other.entries, id < before.requests.length := by
    intro other there id entry
    obtain ⟨owner, present, _⟩ := kept.owned other there id entry
    exact (List.getElem?_eq_some_iff.mp present).1
  have entries : (state.push before.requests.length).entries = state.entries ++ [before.requests.length] := by
    rw [SessionQueueState.entries, SessionQueueState.entries, List.append_assoc]
    rfl
  constructor
  · intro other place mapped
    have same : (state.push before.requests.length).key = state.key := rfl
    exact mapped_become kept found same mapped
  · refine forall_mem_set kept.tail ?_
    obtain ⟨chain, locked⟩ := kept.tail state member
    exact ⟨congrArg (· ++ _) chain, locked⟩
  · intro place other there busy
    rcases getElem?_set_of_some there with ⟨rfl, rfl⟩ | ⟨_, earlier⟩
    · exact here
    · exact kept.active place other earlier busy
  · refine forall_mem_set kept.sorted ?_
    rw [entries]
    apply List.pairwise_append.mpr
    refine ⟨kept.sorted state member, List.pairwise_singleton _ _, ?_⟩
    intro id entry last final
    rw [List.mem_singleton.mp final]
    exact below state member id entry
  · intro other there id entry
    rcases List.mem_or_eq_of_mem_set there with earlier | rfl
    · obtain ⟨owner, present, facts⟩ := kept.owned other earlier id entry
      exact ⟨owner, stays id owner present, facts⟩
    · rw [entries] at entry
      rcases List.mem_append.mp entry with earlier | last
      · obtain ⟨owner, present, facts⟩ := kept.owned state member id earlier
        exact ⟨owner, stays id owner present, facts⟩
      · obtain rfl := List.mem_singleton.mp last
        exact ⟨request, List.getElem?_concat_length, key, unsettled⟩
  · intro id other present open'
    rcases getElem?_append_singleton present with earlier | ⟨rfl, rfl⟩
    · obtain ⟨owner, there, entry⟩ := kept.unsettled id other earlier open'
      by_cases same : owner = state
      · subst same
        refine ⟨_, List.mem_set (List.getElem?_eq_some_iff.mp found).1 _, ?_⟩
        rw [entries]
        exact List.mem_append_left _ entry
      · exact ⟨owner, mem_set_of_ne there found same, entry⟩
    · refine ⟨_, List.mem_set (List.getElem?_eq_some_iff.mp found).1 _, ?_⟩
      rw [entries]
      exact List.mem_append_right _ (List.mem_singleton.mpr rfl)
  · intro other there outcome settled
    rcases List.mem_append.mp there with earlier | last
    · exact kept.own other earlier outcome settled
    · rw [List.mem_singleton.mp last, unsettled] at settled
      cases settled
  · intro entry started
    obtain ⟨owner, present, same⟩ := kept.starts entry started
    exact ⟨owner, stays _ owner present, same⟩
  · exact kept.order
  · intro other there id waits earlier started
    rcases List.mem_or_eq_of_mem_set there with before | rfl
    · exact kept.next other before id waits earlier started
    · rcases List.mem_append.mp waits with behind | last
      · exact kept.next state member id behind earlier started
      · obtain ⟨owner, present, _⟩ := kept.starts _ started
        rw [List.mem_singleton.mp last]
        exact (List.getElem?_eq_some_iff.mp present).1
  · intro id other waitedMs present timeout
    rcases getElem?_append_singleton present with earlier | ⟨_, rfl⟩
    · exact kept.unexecuted id other waitedMs earlier timeout
    · cases unsettled.symm.trans timeout

variable {rest : List ℕ}

theorem Kept.take_pending (member : state ∈ before.states)
    (chain : state.chain = id :: rest) : (state.take id rest).chain = (state.take id rest).pending := by
  rw [SessionQueueState.take, ← (kept.tail state member).1, chain, List.erase_cons_head]

section

variable (found : before.states[index]? = some state)

include found

theorem Kept.run (idle : state.current = none) (chain : state.chain = id :: rest) :
    Kept { before.become index ((state.take id rest).lock id) with started := before.started ++ [(state.key, id)] } := by
  have member := List.mem_of_getElem? found
  have whole := entries_of_idle idle chain
  have same : ((state.take id rest).lock id).entries = state.entries := whole.symm
  have key : ((state.take id rest).lock id).key = state.key := rfl
  have first : id ∈ state.entries := by
    rw [whole]
    exact List.mem_cons_self
  have waits : id ∈ state.chain := by
    rw [chain]
    exact List.mem_cons_self
  obtain ⟨request, present, owner, unsettled⟩ := kept.owned state member id first
  constructor
  · intro other place mapped
    exact mapped_become kept found key mapped
  · exact forall_mem_set kept.tail ⟨kept.take_pending member chain, rfl⟩
  · intro place other there busy
    rcases getElem?_set_of_some there with ⟨rfl, rfl⟩ | ⟨_, earlier⟩
    · exact kept.active place state found (List.ne_nil_of_mem first)
    · exact kept.active place other earlier busy
  · refine forall_mem_set kept.sorted ?_
    rw [same]
    exact kept.sorted state member
  · intro other there other' entry
    rcases List.mem_or_eq_of_mem_set there with earlier | rfl
    · exact kept.owned other earlier other' entry
    · rw [same] at entry
      exact kept.owned state member other' entry
  · intro other request found' open'
    obtain ⟨holder, there, entry⟩ := kept.unsettled other request found' open'
    by_cases here : holder = state
    · subst here
      exact ⟨_, List.mem_set (List.getElem?_eq_some_iff.mp found).1 _, by rwa [same]⟩
    · exact ⟨holder, mem_set_of_ne there found here, entry⟩
  · exact kept.own
  · exact forall_mem_append_singleton kept.starts ⟨request, present, owner⟩
  · intro sessionKey
    have order := kept.order sessionKey
    unfold Queue.startsOf at order ⊢
    rw [List.filter_append, List.map_append]
    apply List.pairwise_append.mpr
    refine ⟨order, ?_, ?_⟩
    · by_cases here : state.key = sessionKey <;> simp [here]
    · intro earlier started last final
      obtain ⟨⟨_, _⟩, filtered, rfl⟩ := List.mem_map.mp started
      obtain ⟨before, here⟩ := List.mem_filter.mp filtered
      obtain ⟨⟨_, _⟩, kept', rfl⟩ := List.mem_map.mp final
      obtain ⟨last, there⟩ := List.mem_filter.mp kept'
      cases List.mem_singleton.mp last
      cases (of_decide_eq_true here).trans (of_decide_eq_true there).symm
      exact kept.next state member id waits _ before
  · intro other there later behind earlier started
    rcases List.mem_append.mp started with before | last
    · rcases List.mem_or_eq_of_mem_set there with present | rfl
      · exact kept.next other present later behind earlier before
      · apply kept.next state member later _ earlier before
        rw [chain]
        exact List.mem_cons_of_mem _ behind
    · obtain ⟨keys, rfl⟩ := Prod.mk.inj (List.mem_singleton.mp last)
      obtain ⟨place, there⟩ := List.mem_iff_getElem?.mp there
      rcases getElem?_set_of_some there with ⟨_, rfl⟩ | ⟨apart, present⟩
      · have sorted := kept.sorted state member
        rw [whole] at sorted
        exact List.rel_of_pairwise_cons sorted behind
      · have busy : other.entries ≠ [] := List.ne_nil_of_mem (List.mem_append_right _ behind)
        exact absurd (kept.same_key present found busy (List.ne_nil_of_mem first) keys) apart
  · intro other timedOut waitedMs found' timeout sessionKey started
    rcases List.mem_append.mp started with earlier | last
    · exact kept.unexecuted other timedOut waitedMs found' timeout sessionKey earlier
    · obtain ⟨_, rfl⟩ := Prod.mk.inj (List.mem_singleton.mp last)
      cases present.symm.trans found'
      cases unsettled.symm.trans timeout

theorem Kept.leave (key : new.key = state.key)
    (tail : new.chain = new.pending ∧ new.locked = new.current.isSome) (front : state.entries = id :: new.entries)
    (behind : ∀ later ∈ new.chain, later ∈ state.chain) {change : Request Key Value → Request Key Value}
    {outcome : Outcome Value}
    (settles : ∀ request, before.requests[id]? = some request → request.settlement = none →
      (change request).sessionKey = request.sessionKey ∧
      (change request).settlement = some outcome ∧
      ((change request).result = some outcome ∨ (∃ waitedMs, outcome = .timeout waitedMs) ∨ outcome = .overflow))
    (apart : ∀ waitedMs, outcome = .timeout waitedMs → ∀ sessionKey, (sessionKey, id) ∉ before.started) :
    Kept ((before.become index new).change id change) := by
  have member := List.mem_of_getElem? found
  have first : id ∈ state.entries := by
    rw [front]
    exact List.mem_cons_self
  have others : ∀ later ∈ new.entries, later ∈ state.entries ∧ id < later := by
    intro later entry
    have sorted := kept.sorted state member
    rw [front] at sorted ⊢
    exact ⟨List.mem_cons_of_mem _ entry, List.rel_of_pairwise_cons sorted entry⟩
  obtain ⟨request, present, owner, unsettled⟩ := kept.owned state member id first
  obtain ⟨sameKey, settled, own⟩ := settles request present unsettled
  have requests : ∀ (other : ℕ) later, (before.requests.modify id change)[other]? = some later →
      (other = id ∧ later = change request) ∨ (other ≠ id ∧ before.requests[other]? = some later) := by
    intro other later there
    obtain ⟨old, earlier, same⟩ := getElem?_modify_of_some there
    by_cases here : id = other
    · simp_all
    · grind
  have stays : ∀ (other : ℕ) later, other ≠ id → before.requests[other]? = some later →
      (before.requests.modify id change)[other]? = some later := by
    intro other later here there
    rw [List.getElem?_modify_ne _ _ (Ne.symm here), there]
  constructor
  · intro other place mapped
    exact mapped_become kept found key mapped
  · exact forall_mem_set kept.tail tail
  · intro place other there busy
    rcases getElem?_set_of_some there with ⟨rfl, rfl⟩ | ⟨_, earlier⟩
    · rw [key]
      exact kept.active place state found (List.ne_nil_of_mem first)
    · exact kept.active place other earlier busy
  · refine forall_mem_set kept.sorted ?_
    have sorted := kept.sorted state member
    rw [front] at sorted
    exact sorted.of_cons
  · intro other there later entry
    obtain ⟨place, there⟩ := List.mem_iff_getElem?.mp there
    rcases getElem?_set_of_some there with ⟨_, rfl⟩ | ⟨elsewhere, earlier⟩
    · obtain ⟨before', greater⟩ := others later entry
      obtain ⟨holder, here, keys, open'⟩ := kept.owned state member later before'
      exact ⟨holder, stays later holder (Nat.ne_of_gt greater) here, keys.trans key.symm, open'⟩
    · obtain ⟨holder, here, facts⟩ := kept.owned other (List.mem_of_getElem? earlier) later entry
      refine ⟨holder, stays later holder ?_ here, facts⟩
      rintro rfl
      exact elsewhere (kept.same_state earlier found entry first)
  · intro other later there open'
    rcases requests other later there with ⟨_, rfl⟩ | ⟨differs, earlier⟩
    · cases settled.symm.trans open'
    · obtain ⟨holder, place, entry⟩ := kept.unsettled other later earlier open'
      by_cases here : holder = state
      · subst here
        rw [front] at entry
        refine ⟨new, List.mem_set (List.getElem?_eq_some_iff.mp found).1 _, ?_⟩
        exact List.mem_of_ne_of_mem differs entry
      · exact ⟨holder, mem_set_of_ne place found here, entry⟩
  · intro later there outcome' same
    obtain ⟨other, place⟩ := List.mem_iff_getElem?.mp there
    rcases requests other later place with ⟨_, rfl⟩ | ⟨_, earlier⟩
    · simp_all
    · exact kept.own later (List.mem_of_getElem? earlier) outcome' same
  · intro entry started
    obtain ⟨holder, there, keys⟩ := kept.starts entry started
    by_cases here : entry.2 = id
    · rw [here, present] at there
      cases there
      refine ⟨change request, ?_, sameKey.trans keys⟩
      rw [here, Queue.change, List.getElem?_modify_eq]
      exact congrArg (Option.map change) present
    · exact ⟨holder, stays entry.2 holder here there, keys⟩
  · exact kept.order
  · intro other there later waits earlier started
    rcases List.mem_or_eq_of_mem_set there with before' | rfl
    · exact kept.next other before' later waits earlier started
    · rw [key] at started
      exact kept.next state member later (behind later waits) earlier started
  · intro other later waitedMs there timeout
    rcases requests other later there with ⟨rfl, rfl⟩ | ⟨_, earlier⟩
    · exact apart waitedMs (Option.some.inj (settled.symm.trans timeout))
    · exact kept.unexecuted other later waitedMs earlier timeout

theorem Kept.expire (idle : state.current = none) (chain : state.chain = id :: rest) (started : ℚ)
    (present : before.requests[id]? = some request) :
    Kept ((before.become index (state.take id rest)).change id (Request.timeOut started)) := by
  have member := List.mem_of_getElem? found
  have waits : id ∈ state.chain := by
    rw [chain]
    exact List.mem_cons_self
  have key : (state.take id rest).key = state.key := rfl
  have front : state.entries = id :: (state.take id rest).entries := by
    rw [entries_of_idle idle chain, SessionQueueState.entries]
    exact congrArg (id :: ·) (congrArg (fun current => Option.toList current ++ rest) idle).symm
  have tail : (state.take id rest).locked = (state.take id rest).current.isSome := (kept.tail state member).2
  apply kept.leave found key ⟨kept.take_pending member chain, tail⟩ front
  · intro later behind
    rw [chain]
    exact List.mem_cons_of_mem _ behind
  · intro again there unsettled
    cases present.symm.trans there
    refine ⟨rfl, ?_, .inr (.inl ⟨started - request.enqueuedAt, rfl⟩)⟩
    rw [Request.timeOut, Request.settle, unsettled]
    rfl
  · intro _ _ sessionKey
    exact kept.unstarted member waits sessionKey

theorem Kept.finish (running : state.current = some id) (result : Except Value Value) :
    Kept ((before.become index state.unlock).change id (Request.finish (outcome result))) := by
  have member := List.mem_of_getElem? found
  have key : state.unlock.key = state.key := rfl
  have front : state.entries = id :: state.unlock.entries := by
    rw [SessionQueueState.entries, running]
    rfl
  apply kept.leave found key ⟨(kept.tail state member).1, rfl⟩ front
  · intro later behind
    exact behind
  · intro request _ unsettled
    refine ⟨rfl, ?_, .inl rfl⟩
    rw [Request.finish, Request.settle, unsettled]
    rfl
  · intro waitedMs timeout
    cases result <;> cases timeout

theorem Kept.accept (here : before.queues.get? sessionKey = some index) (key : state.key = sessionKey) (sessionExpiresAt : Option ℚ)
    (now : ℚ) : Kept (if before.maxQueueDepth ≤ state.pending.length then
        { before with requests := before.requests ++ [⟨sessionKey, sessionExpiresAt, now, none, some .overflow⟩] }
      else { before.become index (state.push before.requests.length) with
        requests := before.requests ++ [⟨sessionKey, sessionExpiresAt, now, none, none⟩] }) := by
  subst key
  split
  · exact kept.refuse _ rfl
  · exact kept.push found here rfl rfl

end

theorem Kept.enqueue (sessionKey : Key) (sessionExpiresAt : Option ℚ) (now : ℚ) :
    Kept (before.enqueue sessionKey sessionExpiresAt now) := by
  unfold Queue.enqueue Queue.getOrCreateState
  cases mapped : before.queues.get? sessionKey with
  | some index =>
    obtain ⟨state, found, key⟩ := kept.mapped sessionKey index mapped
    simp only [found]
    exact kept.accept found mapped key sessionExpiresAt now
  | none =>
    have created := kept.create mapped
    have place : (before.states ++ [.fresh sessionKey])[before.states.length]? = some (.fresh sessionKey) :=
      List.getElem?_concat_length
    have here : (before.queues.set sessionKey before.states.length).get? sessionKey = some before.states.length := by
      rw [InsertionMap.get?_set, if_pos rfl]
    simp only [place]
    exact created.accept place here rfl sessionExpiresAt now

theorem Kept.clear (clock : ℕ → ℚ) (quiet : isQuiet before (.clear sessionKey clock) = true) :
    Kept (before.clear sessionKey clock) := by
  unfold Queue.clear
  cases mapped : before.queues.get? sessionKey with
  | none => exact kept
  | some index =>
    obtain ⟨state, found, key⟩ := kept.mapped sessionKey index mapped
    have empty : state.pending.isEmpty = true := by simpa only [isQuiet, mapped, found, Option.all_some] using quiet
    have pending := List.isEmpty_iff.mp empty
    have unchanged : before.states.set index { state with pending := [] } = before.states := by
      rw [← pending]
      obtain ⟨inside, rfl⟩ := List.getElem?_eq_some_iff.mp found
      exact List.set_getElem_self inside
    simp only [found, pending, Queue.become, unchanged, Queue.drop, List.zipIdx_nil, List.foldl_nil]
    split
    · exact kept
    · rename_i unlocked
      apply kept.erase
      intro other second there same
      by_contra busy
      have too := kept.active other second there busy
      rw [same, mapped] at too
      cases too
      cases found.symm.trans there
      exact busy (kept.resting found (Bool.eq_false_iff.mpr unlocked) empty)

theorem Kept.step {label : Label Key Value} (move : step before label after)
    (quiet : isQuiet before label = true) : Kept after := by
  cases label with
  | enqueue sessionKey sessionExpiresAt now =>
    cases move
    exact kept.enqueue sessionKey sessionExpiresAt now
  | runEntry index started now =>
    simp only [SessionQueue.step, Queue.perform, Queue.runEntry] at move
    split at move
    · cases move
    · rename_i state found
      split at move
      · rename_i id rest idle chain
        split at move
        · cases move
        · rename_i request present
          split at move
          · cases move
            have inside := (List.getElem?_eq_some_iff.mp found).1
            apply (kept.expire found idle chain started present).release (List.getElem?_set_self inside)
            apply kept.active index state found
            rw [entries_of_idle idle chain]
            exact List.cons_ne_nil _ _
          · cases move
            exact kept.run found idle chain
      · cases move
  | finish index result =>
    simp only [SessionQueue.step, Queue.perform, Queue.finish] at move
    split at move
    · cases move
    · rename_i state found
      split at move
      · cases move
      · rename_i id running
        cases move
        have inside := (List.getElem?_eq_some_iff.mp found).1
        apply (kept.finish found running result).release (List.getElem?_set_self inside)
        apply kept.active index state found
        rw [SessionQueueState.entries, running]
        exact List.cons_ne_nil _ _
  | clear sessionKey clock =>
    cases move
    exact kept.clear clock quiet

end

theorem requests_release (queue : Queue Key Value) (state : SessionQueueState Key) :
    (queue.release state).requests = queue.requests := by
  unfold Queue.release
  split <;> rfl

theorem Stable.of_step {label : Label Key Value} (move : step before label after) : Stable before label after := by
  change Retains before.requests after.requests
  cases label with
  | enqueue sessionKey sessionExpiresAt now =>
    cases move
    have same : (before.getOrCreateState sessionKey).1.requests = before.requests := by
      unfold Queue.getOrCreateState
      split <;> rfl
    unfold Queue.enqueue
    dsimp only
    rw [← same]
    split
    · exact retains_refl _
    · split <;> exact retains_append _ _
  | runEntry index started now =>
    simp only [SessionQueue.step, Queue.perform, Queue.runEntry] at move
    split at move
    · cases move
    · split at move
      · split at move
        · cases move
        · split at move
          · cases move
            rw [requests_release]
            apply retains_modify
            intro request outcome settled
            exact settle_keeps _ request outcome settled
          · cases move
            exact retains_refl _
      · cases move
  | finish index result =>
    simp only [SessionQueue.step, Queue.perform, Queue.finish] at move
    split at move
    · cases move
    · split at move
      · cases move
      · cases move
        rw [requests_release]
        apply retains_modify
        intro request outcome settled
        exact settle_keeps _ request outcome settled
  | clear sessionKey clock =>
    cases move
    unfold Queue.clear
    split
    · exact retains_refl _
    · split
      · exact retains_refl _
      · dsimp only
        split <;> exact retains_drop _ _ _

theorem Kept.serial (kept : Kept before) : Serial before := by
  intro i j first second here there running also same
  have busy : ∀ state : SessionQueueState Key, state.isRunning = true → state.entries ≠ [] := by nofun
  exact kept.same_key here there (busy first running) (busy second also) same

theorem Kept.settled (kept : Kept before) : Settled before := by
  constructor
  · exact kept.own
  · intro idle request member
    cases unsettled : request.settlement with
    | some outcome => rfl
    | none =>
      obtain ⟨id, found⟩ := List.mem_iff_getElem?.mp member
      obtain ⟨state, present, entry⟩ := kept.unsettled id request found unsettled
      obtain ⟨current, chain⟩ := idle state present
      rw [SessionQueueState.entries, current, chain] at entry
      cases entry

/-- Promises keep their settlements; and if no session is cleared while requests of it wait, its tasks run one at a time
and in order, every promise is settled in the end, and none that timed out is run. -/
theorem queue_serves {maxQueueDepth : ℕ} {trace : List (Label Key Value)} {last : Queue Key Value}
    (run : Run step (.initial maxQueueDepth) trace last) : Throughout step (.initial maxQueueDepth) Stable trace ∧
    (Throughout step (.initial maxQueueDepth) (fun before label _ => isQuiet before label = true) trace →
      Serial last ∧ InOrder last ∧ Settled last ∧ Unexecuted last) := by
  constructor
  · intro earlier label rest before after split reached move
    exact Stable.of_step move
  · intro quiet
    have kept : Kept last := by
      apply run.kept quiet
      · exact kept_initial maxQueueDepth
      · intro before label after kept move quiet
        exact kept.step move quiet
    exact ⟨kept.serial, kept.order, kept.settled, kept.unexecuted⟩

/-- Two sessions; a request of the first expires while it waits, and a task fails. -/
def servedTwo : List (Label String ℕ) :=
  [.enqueue "a" (some 100) 0, .enqueue "b" none 0, .runEntry 0 1 1, .enqueue "a" (some 5) 2, .enqueue "a" none 3,
    .runEntry 1 4 4, .finish 0 (.ok 7), .runEntry 0 9 9, .runEntry 0 9 9, .finish 0 (.ok 8), .finish 1 (.error 3),
    .clear "b" fun _ => 10]

theorem servedTwo_serves : ∃ last : Queue String ℕ, last.started = [("a", 0), ("b", 1), ("a", 3)] ∧
    last.requests.map Request.settlement =
      [some (.resolved 7), some (.rejected 3), some (.timeout 7), some (.resolved 8)] ∧
    Serial last ∧ InOrder last ∧ Settled last ∧ Unexecuted last := by
  have followed : (servedTwo.foldlM Queue.perform (.initial 100)).map (fun queue =>
      (queue.started, queue.requests.map Request.settlement)) = some ([("a", 0), ("b", 1), ("a", 3)],
        [some (.resolved 7), some (.rejected 3), some (.timeout 7), some (.resolved 8)]) := by decide +kernel
  obtain ⟨last, reached, same⟩ := Option.map_eq_some_iff.mp followed
  obtain ⟨started, settlements⟩ := Prod.mk.inj same
  exact ⟨last, started, settlements, (queue_serves (Run.follow reached)).2 (throughout_follow (by decide))⟩

/-- A request is cleared while another runs, and then run. -/
def cleared : List (Label String ℕ) :=
  [.enqueue "a" none 0, .runEntry 0 0 0, .enqueue "a" none 1, .clear "a" fun _ => 2, .finish 0 (.ok 7), .runEntry 0 3 3]

theorem cleared_executed : ¬∀ (maxQueueDepth : ℕ) (trace : List (Label String ℕ)) (last : Queue String ℕ),
    Run step (.initial maxQueueDepth) trace last → Serial last ∧ InOrder last ∧ Settled last ∧ Unexecuted last := by
  intro always
  have followed : (cleared.foldlM Queue.perform (.initial 100)).map (fun queue =>
      (queue.started, (queue.requests[1]?).bind Request.settlement)) =
      some ([("a", 0), ("a", 1)], some (.timeout 1)) := by decide +kernel
  obtain ⟨last, reached, same⟩ := Option.map_eq_some_iff.mp followed
  obtain ⟨started, settlement⟩ := Prod.mk.inj same
  obtain ⟨request, found, timeout⟩ := Option.bind_eq_some_iff.mp settlement
  apply (always 100 cleared last (Run.follow reached)).2.2.2 1 request 1 found timeout "a"
  rw [started]
  decide

end ProxyPay.SessionQueue
