import ProxyPay.Library.InsertionMap

/-! The cache of provider balances: reads, refreshes and invalidations in any order, over fetches that resolve or reject
at any later time. Every step has a number, and a value keeps the number of the step that began its fetch. -/

namespace ProxyPay.ProviderBalances

open Library

structure CacheRecord (Value : Type) where
  value : Value
  fetchedAt : ℕ
  began : ℕ
  deriving DecidableEq

structure CacheEntry (Value : Type) extends CacheRecord Value where
  provider : String
  ageMs : ℕ
  stale : Bool

/-- A promise in `inflight`; it is settled with an entry, or with an error, before it is removed. -/
structure Inflight (Value : Type) where
  began : ℕ
  settled : Option (Option (CacheEntry Value))

/-- A caller who waits for the promise of the provider, and the last invalidation before the call. -/
structure Waiting where
  provider : String
  invalidated : ℕ

/-- An entry that was returned, when, and the last invalidation before the call. -/
structure Answer (Value : Type) where
  entry : CacheEntry Value
  returnedAt : ℕ
  invalidated : ℕ

structure State (Value : Type) where
  now : ℕ
  steps : ℕ
  entries : InsertionMap String (CacheRecord Value)
  inflight : InsertionMap String (Inflight Value)
  /-- the providers whose fetchers have been called and are neither resolved nor rejected -/
  fetching : List String
  waiting : List Waiting
  answers : List (Answer Value)
  invalidated : String → ℕ

def State.initial (Value : Type) : State Value := ⟨0, 1, .empty, .empty, [], [], [], fun _ => 0⟩

inductive Label (Value : Type) where
  | tick (ms : ℕ)
  | get (provider : String)
  | refresh (provider : String)
  | peek (provider : String)
  | invalidate (provider : Option String)
  | resolve (provider : String) (value : Value)
  | reject (provider : String)
  /-- `finally` of the caller who began the refresh -/
  | remove (provider : String)

section Steps

variable {Value : Type} (staleThresholdMs : ℕ)

def isStaleAt (now fetchedAt : ℕ) : Bool := staleThresholdMs ≤ now - fetchedAt

def toEntry (now : ℕ) (provider : String) (record : CacheRecord Value) : CacheEntry Value :=
  { record with provider, ageMs := now - record.fetchedAt, stale := isStaleAt staleThresholdMs now record.fetchedAt }

namespace State

variable (state : State Value)

def answer (provider : String) (entry : CacheEntry Value) : State Value :=
  { state with answers := state.answers ++ [⟨entry, state.now, state.invalidated provider⟩] }

/-- `refresh(provider, fetcher)` up to its first pause -/
def refresh (provider : String) : State Value :=
  match state.inflight.get? provider with
  | some ⟨_, some (some entry)⟩ => state.answer provider entry
  | some ⟨_, some none⟩ => state
  | some ⟨_, none⟩ => { state with waiting := state.waiting ++ [⟨provider, state.invalidated provider⟩] }
  | none =>
    { state with
      inflight := state.inflight.set provider ⟨state.steps, none⟩
      fetching := provider :: state.fetching
      waiting := state.waiting ++ [⟨provider, state.invalidated provider⟩] }

/-- `get(provider, fetcher)` up to its first pause -/
def get (provider : String) : State Value :=
  match state.entries.get? provider with
  | some record =>
    if isStaleAt staleThresholdMs state.now record.fetchedAt then state.refresh provider
    else state.answer provider (toEntry staleThresholdMs state.now provider record)
  | none => state.refresh provider

def invalidate (provider : Option String) : State Value :=
  match provider.filter (· ≠ "") with
  | some provider =>
    { state with
      entries := state.entries.erase provider
      invalidated := Function.update state.invalidated provider state.steps }
  | none => { state with entries := .empty, invalidated := fun _ => state.steps }

/-- The promise of the provider is settled, and those who wait for it have its entry. -/
def settle (provider : String) (began : ℕ) (entry : Option (CacheEntry Value)) : State Value :=
  { state with
    inflight := state.inflight.set provider ⟨began, some entry⟩
    fetching := state.fetching.erase provider
    waiting := state.waiting.filter (·.provider ≠ provider)
    answers := state.answers ++ entry.toList.flatMap fun entry =>
      (state.waiting.filter (·.provider = provider)).map fun call => ⟨entry, state.now, call.invalidated⟩ }

/-- A step; the clock stands still while callers are told of a settled promise. -/
def step : Label Value → Option (State Value)
  | .tick ms =>
    if state.inflight.entries.all (·.2.settled.isNone) then some { state with now := state.now + ms } else none
  | .get provider => some (state.get staleThresholdMs provider)
  | .refresh provider => some (state.refresh provider)
  | .peek provider => some <|
    match state.entries.get? provider with
    | some record => { state with
        answers := state.answers ++ [⟨toEntry staleThresholdMs state.now provider record, state.now, 0⟩] }
    | none => state
  | .invalidate provider => some (state.invalidate provider)
  | .resolve provider value =>
    match state.inflight.get? provider with
    | some ⟨began, none⟩ =>
      let record : CacheRecord Value := ⟨value, state.now, began⟩
      some ({ state with entries := state.entries.set provider record }.settle provider began
        (some (toEntry staleThresholdMs state.now provider record)))
    | _ => none
  | .reject provider =>
    match state.inflight.get? provider with
    | some ⟨began, none⟩ => some (state.settle provider began
        ((state.entries.get? provider).map fun record =>
          { toEntry staleThresholdMs state.now provider record with stale := true }))
    | _ => none
  | .remove provider =>
    match state.inflight.get? provider with
    | some ⟨_, some _⟩ => some { state with inflight := state.inflight.erase provider }
    | _ => none

end State

/-- Steps after one another, each with its number. -/
def run : State Value → List (Label Value) → Option (State Value)
  | state, [] => some state
  | state, label :: trace =>
    (state.step staleThresholdMs label).bind fun next => run { next with steps := next.steps + 1 } trace

/-- Nothing is invalidated while a promise for it is in flight. -/
def State.calm (state : State Value) : Label Value → Bool
  | .invalidate provider =>
    match provider.filter (· ≠ "") with
    | some provider => (state.inflight.get? provider).isNone
    | none => state.inflight.entries.isEmpty
  | _ => true

def calm : State Value → List (Label Value) → Bool
  | _, [] => true
  | state, label :: trace => state.calm label &&
    (state.step staleThresholdMs label).all fun next => calm { next with steps := next.steps + 1 } trace

/-! What holds in every state. -/

/-- An entry that may be returned now, after an invalidation. -/
structure Served (now invalidated : ℕ) (entry : CacheEntry Value) : Prop where
  current : invalidated < entry.began
  fresh : entry.stale = false → now - entry.fetchedAt < staleThresholdMs

/-- What was returned was not older than the threshold where it was not called stale, and was fetched after the last
invalidation before the call; and no provider has two fetches in flight. -/
structure Good (state : State Value) : Prop where
  served : ∀ answer ∈ state.answers, Served staleThresholdMs answer.returnedAt answer.invalidated answer.entry
  single : state.fetching.Nodup

structure Kept (state : State Value) : Prop extends Good staleThresholdMs state where
  stored : ∀ provider record, state.entries.get? provider = some record → state.invalidated provider < record.began
  flying : ∀ provider promise, state.inflight.get? provider = some promise → state.invalidated provider < promise.began ∧
    ∀ entry, promise.settled = some (some entry) → Served staleThresholdMs state.now (state.invalidated provider) entry
  fetched : ∀ provider ∈ state.fetching, ∃ began, state.inflight.get? provider = some ⟨began, none⟩
  numbered : ∀ provider, state.invalidated provider < state.steps
  called : ∀ call ∈ state.waiting, call.invalidated ≤ state.invalidated call.provider

variable {staleThresholdMs} {state next : State Value} {provider : String} {entry : CacheEntry Value}

theorem served_toEntry {now invalidated : ℕ} {record : CacheRecord Value} (current : invalidated < record.began) :
    Served staleThresholdMs now invalidated (toEntry staleThresholdMs now provider record) := by
  refine ⟨current, fun fresh => ?_⟩
  simpa [toEntry, isStaleAt] using fresh

namespace Kept

theorem initial : Kept staleThresholdMs (State.initial Value) := by
  constructor <;> simp [State.initial]
  constructor <;> simp

section

variable (kept : Kept staleThresholdMs state)

include kept

theorem answer (served : Served staleThresholdMs state.now (state.invalidated provider) entry) :
    Kept staleThresholdMs (state.answer provider entry) :=
  { kept with served := List.forall_mem_append.mpr ⟨kept.served, by simpa using served⟩ }

theorem refresh : Kept staleThresholdMs (state.refresh provider) := by
  have waits : ∀ call ∈ state.waiting ++ [⟨provider, state.invalidated provider⟩],
      call.invalidated ≤ state.invalidated call.provider := List.forall_mem_append.mpr ⟨kept.called, by simp⟩
  unfold State.refresh
  split
  · rename_i found
    exact kept.answer ((kept.flying _ _ found).2 _ rfl)
  · exact kept
  · exact { kept with called := waits }
  · rename_i free
    have idle : provider ∉ state.fetching := by
      intro member
      obtain ⟨began, found⟩ := kept.fetched provider member
      rw [free] at found
      cases found
    refine { kept with single := List.nodup_cons.mpr ⟨idle, kept.single⟩, flying := ?_, fetched := ?_, called := waits }
    · intro other promise found
      rw [InsertionMap.get?_set] at found
      split at found
      · cases found
        exact ⟨kept.numbered other, nofun⟩
      · exact kept.flying other promise found
    · intro other member
      by_cases same : provider = other
      · exact ⟨state.steps, by rw [InsertionMap.get?_set, if_pos same]⟩
      · obtain ⟨began, found⟩ := kept.fetched other ((List.mem_cons.mp member).resolve_left (Ne.symm same))
        exact ⟨began, by rw [InsertionMap.get?_set, if_neg same, found]⟩

theorem get : Kept staleThresholdMs (state.get staleThresholdMs provider) := by
  unfold State.get
  split
  · rename_i record found
    split
    · exact kept.refresh
    · exact kept.answer (served_toEntry (kept.stored _ _ found))
  · exact kept.refresh

theorem settle {began : ℕ} (found : state.inflight.get? provider = some ⟨began, none⟩)
    {outcome : Option (CacheEntry Value)}
    (served : ∀ entry, outcome = some entry → Served staleThresholdMs state.now (state.invalidated provider) entry) :
    Kept staleThresholdMs (state.settle provider began outcome) := by
  refine { kept with
    served := List.forall_mem_append.mpr ⟨kept.served, fun answer member => ?_⟩
    single := kept.single.erase provider, flying := ?_, fetched := ?_
    called := fun call member => kept.called call (List.mem_filter.mp member).1 }
  · obtain ⟨entry, returned, member⟩ := List.mem_flatMap.mp member
    obtain ⟨call, waits, rfl⟩ := List.mem_map.mp member
    obtain ⟨waits, same⟩ := List.mem_filter.mp waits
    have good := served entry (by simpa using returned)
    have before := kept.called call waits
    rw [of_decide_eq_true same] at before
    exact ⟨Nat.lt_of_le_of_lt before good.current, good.fresh⟩
  · intro other promise there
    rw [State.settle, InsertionMap.get?_set] at there
    split at there
    · rename_i same
      cases there
      subst same
      exact ⟨(kept.flying provider ⟨began, none⟩ found).1, fun entry settled => served entry (Option.some.inj settled)⟩
    · exact kept.flying other promise there
  · intro other member
    obtain ⟨differs, member⟩ := (kept.single.mem_erase_iff).mp member
    obtain ⟨since, there⟩ := kept.fetched other member
    exact ⟨since, by rw [State.settle, InsertionMap.get?_set, if_neg (Ne.symm differs), there]⟩

theorem invalidate {target : Option String} (calm : state.calm (.invalidate target) = true) :
    Kept staleThresholdMs { state.invalidate target with steps := state.steps + 1 } := by
  have old {provider : String} : (state.invalidate target).invalidated provider = state.invalidated provider ∨
      (state.invalidate target).invalidated provider = state.steps ∧ state.inflight.get? provider = none ∧
        (state.invalidate target).entries.get? provider = none := by
    unfold State.invalidate
    split
    · rename_i named target
      simp only [State.calm, target] at calm
      by_cases same : provider = named
      · subst same
        exact .inr ⟨Function.update_self .., Option.isNone_iff_eq_none.mp calm, by simp [InsertionMap.get?_erase]⟩
      · exact .inl (Function.update_of_ne same ..)
    · rename_i target
      simp only [State.calm, target] at calm
      refine .inr ⟨rfl, ?_, rfl⟩
      rw [InsertionMap.get?, List.isEmpty_iff.mp calm]
      rfl
  have kept_records {provider : String} {record : CacheRecord Value}
      (found : (state.invalidate target).entries.get? provider = some record) :
      state.entries.get? provider = some record := by
    unfold State.invalidate at found
    split at found
    · simp only [InsertionMap.get?_erase] at found
      split at found
      · cases found
      · exact found
    · cases found
  have same : (state.invalidate target).inflight = state.inflight ∧ (state.invalidate target).now = state.now ∧
      (state.invalidate target).answers = state.answers ∧ (state.invalidate target).fetching = state.fetching ∧
        (state.invalidate target).waiting = state.waiting := by
    unfold State.invalidate
    split <;> simp
  obtain ⟨inflight, now, answers, fetching, waiting⟩ := same
  constructor
  · exact ⟨answers ▸ kept.served, fetching ▸ kept.single⟩
  · intro provider record found
    rcases @old provider with before | ⟨_, _, gone⟩
    · exact before ▸ kept.stored provider record (kept_records found)
    · rw [gone] at found
      cases found
  · intro provider promise found
    rw [inflight] at found
    rcases @old provider with before | ⟨_, free, _⟩
    · rw [before, now]
      exact kept.flying provider promise found
    · rw [free] at found
      cases found
  · rw [inflight, fetching]
    exact kept.fetched
  · intro provider
    have before := kept.numbered provider
    rcases @old provider with same | ⟨same, _⟩ <;> simp only [same] <;> omega
  · intro call waits
    have before := kept.called call (waiting ▸ waits)
    have later := kept.numbered call.provider
    rcases @old call.provider with same | ⟨same, _⟩ <;> simp only [same] <;> omega

theorem step {label : Label Value} (calm : state.calm label = true)
    (done : state.step staleThresholdMs label = some next) :
    Kept staleThresholdMs { next with steps := next.steps + 1 } := by
  have counted {state : State Value} (kept : Kept staleThresholdMs state) :
      Kept staleThresholdMs { state with steps := state.steps + 1 } :=
    { kept with numbered := fun provider => Nat.lt_succ_of_lt (kept.numbered provider) }
  cases label with
  | tick ms =>
    simp only [State.step] at done
    split at done
    · rename_i quiet
      cases done
      refine counted { kept with flying := fun provider promise found => ⟨(kept.flying provider promise found).1, ?_⟩ }
      intro entry same
      have unsettled := List.all_eq_true.mp quiet _ (InsertionMap.mem_entries.mpr found)
      rw [same] at unsettled
      cases unsettled
    · cases done
  | get provider =>
    cases done
    exact counted kept.get
  | refresh provider =>
    cases done
    exact counted kept.refresh
  | peek provider =>
    cases done
    split
    · rename_i record found
      exact counted { kept with
        served := List.forall_mem_append.mpr
          ⟨kept.served, by simpa using served_toEntry (Nat.zero_lt_of_lt (kept.stored _ _ found))⟩ }
    · exact counted kept
  | invalidate target =>
    cases done
    have steps : (state.invalidate target).steps = state.steps := by
      unfold State.invalidate
      split <;> rfl
    rw [steps]
    exact kept.invalidate calm
  | resolve provider value =>
    simp only [State.step] at done
    split at done
    · rename_i began found
      cases done
      have current := (kept.flying provider ⟨began, none⟩ found).1
      have renewed : Kept staleThresholdMs
          { state with entries := state.entries.set provider ⟨value, state.now, began⟩ } := by
        refine { kept with stored := ?_ }
        intro other record there
        rw [InsertionMap.get?_set] at there
        split at there
        · rename_i same
          cases there
          exact same ▸ current
        · exact kept.stored other record there
      refine counted (renewed.settle found fun entry same => ?_)
      cases same
      exact served_toEntry current
    · cases done
  | reject provider =>
    simp only [State.step] at done
    split at done
    · rename_i began found
      cases done
      refine counted (kept.settle found fun entry same => ?_)
      obtain ⟨record, there, rfl⟩ := Option.map_eq_some_iff.mp same
      exact ⟨kept.stored provider record there, nofun⟩
    · cases done
  | remove provider =>
    simp only [State.step] at done
    split at done
    · rename_i began settled found
      cases done
      refine counted { kept with flying := ?_, fetched := ?_ }
      · intro other promise there
        rw [InsertionMap.get?_erase] at there
        split at there
        · cases there
        · exact kept.flying other promise there
      · intro other member
        obtain ⟨since, there⟩ := kept.fetched other member
        refine ⟨since, ?_⟩
        rw [InsertionMap.get?_erase, if_neg, there]
        rintro rfl
        rw [found] at there
        cases there
    · cases done

end

end Kept

/-- In every run in which nothing is invalidated while a promise for it is in flight, what is returned is fresh; and a
failed refresh leaves what is stored. -/
theorem answers_good (staleThresholdMs : ℕ) (trace : List (Label Value)) (last : State Value)
    (reached : run staleThresholdMs (State.initial Value) trace = some last)
    (quiet : calm staleThresholdMs (State.initial Value) trace = true) :
    Good staleThresholdMs last ∧
      ∀ provider next, last.step staleThresholdMs (.reject provider) = some next → next.entries = last.entries := by
  constructor
  · have all {state : State Value} (kept : Kept staleThresholdMs state) (trace : List (Label Value))
        (reached : run staleThresholdMs state trace = some last) (quiet : calm staleThresholdMs state trace = true) :
        Kept staleThresholdMs last := by
      induction trace generalizing state with
      | nil =>
        cases reached
        exact kept
      | cons label trace ih =>
        obtain ⟨next, done, rest⟩ := Option.bind_eq_some_iff.mp reached
        obtain ⟨first, later⟩ := Bool.and_eq_true_iff.mp quiet
        rw [done] at later
        exact ih (kept.step first done) rest later
    exact (all Kept.initial trace reached quiet).toGood
  · intro provider next done
    simp only [State.step] at done
    split at done
    · cases done
      rfl
    · cases done

end Steps

/-- A balance is fetched, and fetched again when it is an hour old. -/
def refetched : List (Label ℕ) :=
  [.get "mtn", .resolve "mtn" 10, .remove "mtn", .tick 3600000, .get "mtn", .resolve "mtn" 20]

theorem refetched_good : (run 3600000 (State.initial ℕ) refetched).isSome = true ∧
    Good 3600000 ((run 3600000 (State.initial ℕ) refetched).get (by decide)) :=
  ⟨by decide, (answers_good 3600000 refetched _ (Option.some_get _).symm (by decide)).1⟩

/-- A fetch that began before the invalidation answers the call after it. -/
theorem invalidated_answer : ¬∀ (trace : List (Label ℕ)) (last : State ℕ),
    run 3600000 (State.initial ℕ) trace = some last → Good 3600000 last := by
  intro good
  have computed : (run 3600000 (State.initial ℕ) [.get "mtn", .invalidate (some "mtn"), .get "mtn", .resolve "mtn" 10]).all
      (fun last => last.answers.all fun answer => answer.invalidated < answer.entry.began) = false := by decide
  cases reached : run 3600000 (State.initial ℕ) [.get "mtn", .invalidate (some "mtn"), .get "mtn", .resolve "mtn" 10] with
  | none =>
    rw [reached] at computed
    cases computed
  | some last =>
    have served := (good _ last reached).served
    rw [reached] at computed
    obtain ⟨answer, member, early⟩ := List.all_eq_false.mp computed
    exact early (decide_eq_true (served answer member).current)

end ProxyPay.ProviderBalances
