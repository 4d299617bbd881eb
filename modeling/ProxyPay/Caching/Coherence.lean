import ProxyPay.Caching.LayeredCache
import ProxyPay.Library.Exclusive
import ProxyPay.Library.Transition

/-! The caches are coherent in every run in which no copy of a superseded value can outlive its invalidation. -/

namespace ProxyPay.Caching

open ProxyPay.Library

variable {Value : Type} {matching : String → String → Bool} {before after : Caches Value}
variable {home index : ℕ}

/-- A message finds no `get` of its instance about to fill in a value of its key that Redis has no more; a
pattern is deleted when no value under it is left in memory or on its way there without being in Redis; and
everything is invalidated when the other instances hold nothing. -/
def isOrderly (matching : String → String → Bool) (caches : Caches Value) : Label Value → Bool
  | .deliver home =>
    match caches.instances[home]? with
    | some ⟨_, message :: _⟩ =>
      caches.calls.all fun call =>
        match call with
        | .filling other key item =>
          other ≠ home || key ≠ message.key || (caches.redis.get? key).map Item.set = some item.set
        | _ => true
    | _ => true
  | .keys call =>
    match caches.calls[call]? with
    | some (.matching _ pattern) =>
      let gone := caches.unlisted matching pattern
      (caches.instances.all fun cache => cache.l1.entries.all fun entry => !gone.contains (.item entry.1 entry.2.set)) &&
        caches.calls.all fun call =>
          match call with
          | .filling _ key item => !gone.contains (.item key item.set)
          | _ => true
    | _ => true
  | .invalidateAll home => (caches.instances.eraseIdx home).all fun cache => cache.l1.entries.isEmpty
  | _ => true

def Call.isGetting : Call Value → Bool
  | .fetching _ _ => true
  | .filling _ _ _ => true
  | _ => false

def Call.isStoring : Call Value → Bool
  | .storing _ _ _ => true
  | _ => false

/-- The keys that a call will still publish. -/
def Call.pending : Call Value → List String
  | .dropping _ keys _ => keys
  | .publishing _ keys _ _ => keys
  | _ => []

namespace Caches

/-- The memory of the instance has the copy. -/
def Holds (caches : Caches Value) (home : ℕ) (key : String) (copy : Copy Value) : Prop :=
  ∃ cache, caches.instances[home]? = some cache ∧ cache.l1.get? key = some copy

def Retires (caches : Caches Value) (index : ℕ) (mark : Mark) : Prop :=
  ∃ call, caches.calls[index]? = some call ∧ mark ∈ call.retired

/-- The instance has yet to hear from the call about the key. -/
def Pending (caches : Caches Value) (home : ℕ) (key : String) (index : ℕ) : Prop :=
  (∃ call, caches.calls[index]? = some call ∧ key ∈ call.pending) ∨
    ∀ cache, caches.instances[home]? = some cache → ⟨key, index⟩ ∈ cache.inbox

/-- The call has put its copy into memory, if it is one that does. -/
def Placed (caches : Caches Value) (index : ℕ) : Prop :=
  ∃ call, caches.calls[index]? = some call ∧ call.isGetting = false

end Caches

/-- A superseded value is in memory, or on its way there, only where its invalidation is still pending, and it
is not in Redis. -/
structure Kept (caches : Caches Value) : Prop where
  held : ∀ home key copy index, caches.Holds home key copy → caches.Retires index (.item key copy.set) →
    caches.Pending home key index
  filling : ∀ (call home : ℕ) key item index, caches.calls[call]? = some (.filling home key item) →
    caches.Retires index (.item key item.set) → caches.Pending home key index
  redis : ∀ key item index, caches.redis.get? key = some item → ¬caches.Retires index (.item key item.set)
  written : ∀ key set index, caches.Retires index (.item key set) → (key, set) ∈ caches.written
  writer : ∀ key set, (key, set) ∈ caches.written →
    ∃ call, caches.calls[set]? = some call ∧ call.isStoring = false
  placed : ∀ home key copy, caches.Holds home key copy → caches.Placed copy.call
  gone : ∀ call index, caches.Retires index (.copy call) → caches.Placed call ∧
    ∀ home key copy, caches.Holds home key copy → copy.call ≠ call

theorem kept_empty (count : ℕ) : Kept (Caches.empty Value count) := by
  have holds : ∀ home key copy, ¬(Caches.empty Value count).Holds home key copy := by
    rintro home key copy ⟨cache, found, held⟩
    have member := List.mem_of_getElem? found
    rw [Caches.empty, List.mem_replicate] at member
    rw [member.2] at held
    cases held
  have retires : ∀ index mark, ¬(Caches.empty Value count).Retires index mark := by
    rintro index mark ⟨call, found, _⟩
    simp [Caches.empty] at found
  constructor
  · intro home key copy index held
    exact absurd held (holds home key copy)
  · intro call home key item index _ retired
    exact absurd retired (retires index _)
  · intro key item index _
    exact retires index _
  · intro key set index retired
    exact absurd retired (retires index _)
  · intro key set member
    cases member
  · intro home key copy held
    exact absurd held (holds home key copy)
  · intro call index retired
    exact absurd retired (retires index _)

theorem Kept.advance (kept : Kept before) {calls : List (Call Value)}
    (retires : ∀ (index : ℕ) call, calls[index]? = some call → ∀ mark ∈ call.retired, before.Retires index mark)
    (pending : ∀ home key index, before.Pending home key index → { before with calls }.Pending home key index)
    (fills : ∀ (call home : ℕ) key item, calls[call]? = some (.filling home key item) →
      before.calls[call]? = some (.filling home key item) ∨ before.redis.get? key = some item)
    (progress : ∀ (index : ℕ) call, before.calls[index]? = some call → ∃ next, calls[index]? = some next ∧
      (call.isGetting = false → next.isGetting = false) ∧ (call.isStoring = false → next.isStoring = false)) :
    Kept { before with calls } := by
  have retired : ∀ index mark, { before with calls }.Retires index mark → before.Retires index mark := by
    rintro index mark ⟨call, found, member⟩
    exact retires index call found mark member
  have placed : ∀ index, before.Placed index → { before with calls }.Placed index := by
    rintro index ⟨call, found, idle⟩
    obtain ⟨next, there, quiet, _⟩ := progress index call found
    exact ⟨next, there, quiet idle⟩
  constructor
  · intro home key copy index held marked
    exact pending _ _ _ (kept.held home key copy index held (retired _ _ marked))
  · intro call home key item index found marked
    rcases fills call home key item found with earlier | present
    · exact pending _ _ _ (kept.filling call home key item index earlier (retired _ _ marked))
    · exact absurd (retired _ _ marked) (kept.redis key item index present)
  · intro key item index present marked
    exact kept.redis key item index present (retired _ _ marked)
  · intro key set index marked
    exact kept.written key set index (retired _ _ marked)
  · intro key set member
    obtain ⟨call, found, stored⟩ := kept.writer key set member
    obtain ⟨next, there, _, still⟩ := progress set call found
    exact ⟨next, there, still stored⟩
  · intro home key copy held
    exact placed _ (kept.placed home key copy held)
  · intro call index marked
    obtain ⟨there, absent⟩ := kept.gone call index (retired _ _ marked)
    exact ⟨placed _ there, absent⟩

variable {call : Call Value}

theorem Kept.start (kept : Kept before) (nothing : call.retired = [])
    (fills : ∀ home key item, call ≠ .filling home key item) : Kept (before.start call) := by
  have still : ∀ (index : ℕ) earlier, before.calls[index]? = some earlier → (before.calls ++ [call])[index]? = some earlier := by grind
  apply kept.advance
  · intro index other found mark member
    rcases getElem?_append_singleton found with earlier | ⟨_, rfl⟩
    · exact ⟨other, earlier, member⟩
    · rw [nothing] at member
      cases member
  · rintro home key index (⟨other, found, waits⟩ | waits)
    · exact .inl ⟨other, still index other found, waits⟩
    · exact .inr waits
  · grind
  · simp_all

variable {next old : Call Value}

theorem Kept.become (kept : Kept before) (found : before.calls[index]? = some old)
    (retires : ∀ mark ∈ next.retired, mark ∈ old.retired)
    (pending : ∀ home, ∀ key ∈ old.pending, (before.become index next).Pending home key index)
    (fills : ∀ home key item, next = .filling home key item → before.redis.get? key = some item)
    (progress : (old.isGetting = false → next.isGetting = false) ∧ (old.isStoring = false → next.isStoring = false)) :
    Kept (before.become index next) := by
  obtain ⟨inside, _⟩ := List.getElem?_eq_some_iff.mp found
  have placed : (before.calls.set index next)[index]? = some next := by simp [inside]
  apply kept.advance
  · intro other call there mark member
    rcases getElem?_set_of_some there with ⟨rfl, rfl⟩ | ⟨_, earlier⟩
    · exact ⟨old, found, retires mark member⟩
    · exact ⟨call, earlier, member⟩
  · rintro home key other (⟨call, there, waits⟩ | waits)
    · by_cases same : other = index
      · subst same
        rw [found] at there
        cases there
        exact pending home key waits
      · exact .inl ⟨call, by simpa [List.getElem?_set_ne (Ne.symm same)] using there, waits⟩
    · exact .inr waits
  · grind
  · grind

theorem Kept.instances (kept : Kept before) {instances : List (Instance Value)}
    (holds : ∀ (home : ℕ) cache, instances[home]? = some cache → ∃ old, before.instances[home]? = some old ∧
      (∀ key copy, cache.l1.get? key = some copy → old.l1.get? key = some copy) ∧
      ∀ message ∈ old.inbox, message ∈ cache.inbox) : Kept { before with instances } := by
  have held : ∀ home key copy, { before with instances }.Holds home key copy → before.Holds home key copy := by
    rintro home key copy ⟨cache, found, there⟩
    obtain ⟨old, earlier, fewer, _⟩ := holds home cache found
    exact ⟨old, earlier, fewer key copy there⟩
  have pending : ∀ home key index, before.Pending home key index → { before with instances }.Pending home key index := by
    rintro home key index (waits | waits)
    · exact .inl waits
    · right
      intro cache found
      obtain ⟨old, earlier, _, more⟩ := holds home cache found
      exact more _ (waits old earlier)
  constructor
  · intro home key copy index there marked
    exact pending _ _ _ (kept.held home key copy index (held _ _ _ there) marked)
  · intro call home key item index found marked
    exact pending _ _ _ (kept.filling call home key item index found marked)
  · exact kept.redis
  · exact kept.written
  · exact kept.writer
  · intro home key copy there
    exact kept.placed home key copy (held _ _ _ there)
  · intro call index marked
    obtain ⟨placed, absent⟩ := kept.gone call index marked
    exact ⟨placed, fun home key copy there => absent home key copy (held _ _ _ there)⟩

variable {key : String} {action : Instance Value → Instance Value} {copy : Copy Value}

theorem holds_change {other : ℕ} (held : (before.change home action).Holds other key copy) :
    (other ≠ home ∧ before.Holds other key copy) ∨
      (other = home ∧ ∃ cache, before.instances[home]? = some cache ∧ (action cache).l1.get? key = some copy) := by
  obtain ⟨cache, found, there⟩ := held
  obtain ⟨old, earlier, rfl⟩ := getElem?_modify_of_some found
  by_cases same : home = other
  · simp_all
  · rw [if_neg same] at there
    exact .inl ⟨Ne.symm same, old, earlier, there⟩

theorem Kept.change (kept : Kept before)
    (fewer : ∀ (cache : Instance Value) key copy, (action cache).l1.get? key = some copy → cache.l1.get? key = some copy)
    (inbox : ∀ cache, (action cache).inbox = cache.inbox) : Kept (before.change home action) := by
  apply kept.instances
  intro other cache found
  obtain ⟨old, earlier, rfl⟩ := getElem?_modify_of_some found
  refine ⟨old, earlier, ?_⟩
  split
  · exact ⟨fewer old, fun message member => by rwa [inbox]⟩
  · exact ⟨fun key copy there => there, fun message member => member⟩

theorem get?_forget (forgotten : String) (cache : Instance Value) (key : String) (copy : Copy Value)
    (there : (cache.forget forgotten).l1.get? key = some copy) : key ≠ forgotten ∧ cache.l1.get? key = some copy := by
  unfold Instance.forget at there
  rw [InsertionMap.get?_erase] at there
  by_cases same : forgotten = key
  · rw [if_pos same] at there
    cases there
  · rw [if_neg same] at there
    exact ⟨Ne.symm same, there⟩

theorem Kept.forget (kept : Kept before) (home : ℕ) (key : String) : Kept (before.change home (Instance.forget key)) :=
  kept.change (fun cache other copy there => (get?_forget key cache other copy there).2) fun _ => rfl

theorem Kept.put (kept : Kept before) {home : ℕ}
    (safe : ∀ index, before.Retires index (.item key copy.set) → before.Pending home key index)
    (placed : before.Placed copy.call) (kept_ : ∀ index, ¬before.Retires index (.copy copy.call)) :
    Kept (before.change home (Instance.put key copy)) := by
  have held : ∀ other name found, (before.change home (Instance.put key copy)).Holds other name found →
      before.Holds other name found ∨ (other = home ∧ name = key ∧ found = copy) := by
    intro other name found there
    rcases holds_change there with ⟨_, earlier⟩ | ⟨rfl, cache, present, now⟩
    · exact .inl earlier
    · unfold Instance.put at now
      rw [InsertionMap.get?_set] at now
      by_cases same : key = name
      · simp_all
      · rw [if_neg same] at now
        exact .inl ⟨cache, present, now⟩
  have pending : ∀ other name index, before.Pending other name index →
      (before.change home (Instance.put key copy)).Pending other name index := by
    rintro other name index (waits | waits)
    · exact .inl waits
    · right
      intro cache found
      obtain ⟨old, earlier, rfl⟩ := getElem?_modify_of_some found
      split
      · exact waits old earlier
      · exact waits old earlier
  constructor
  · intro other name found index there marked
    rcases held other name found there with earlier | ⟨rfl, rfl, rfl⟩
    · exact pending _ _ _ (kept.held other name found index earlier marked)
    · exact pending _ _ _ (safe index marked)
  · intro call other name item index found marked
    exact pending _ _ _ (kept.filling call other name item index found marked)
  · exact kept.redis
  · exact kept.written
  · exact kept.writer
  · intro other name found there
    rcases held other name found there with earlier | ⟨rfl, rfl, rfl⟩
    · exact kept.placed other name found earlier
    · exact placed
  · intro call index marked
    obtain ⟨there, absent⟩ := kept.gone call index marked
    refine ⟨there, ?_⟩
    intro other name found now same
    rcases held other name found now with earlier | ⟨rfl, rfl, rfl⟩
    · exact absent other name found earlier same
    · exact kept_ index (same ▸ marked)

theorem Kept.expire (kept : Kept before) (key : String) : Kept { before with redis := before.redis.erase key } := by
  constructor
  · exact kept.held
  · exact kept.filling
  · intro name item index present
    rw [InsertionMap.get?_erase] at present
    by_cases same : key = name
    · rw [if_pos same] at present
      cases present
    · rw [if_neg same] at present
      exact kept.redis name item index present
  · exact kept.written
  · exact kept.writer
  · exact kept.placed
  · exact kept.gone

/-! The steps that supersede or remove. -/

variable {caches : Caches Value} {mark : Mark}

theorem mem_marks {keys : List String} :
    mark ∈ caches.marks keys ↔ ∃ key set, mark = .item key set ∧ key ∈ keys ∧ (key, set) ∈ caches.written := by
  unfold Caches.marks
  rw [List.mem_map]
  constructor
  · grind
  · simp_all

theorem Kept.retire (kept : Kept before) {keys : List String}
    {redis : InsertionMap String (Item Value)} {written : List (String × ℕ)} (found : before.calls[index]? = some old)
    (silent : old.pending = []) (retired : next.retired = old.retired ++ before.marks keys)
    (pending : next.pending = keys) (nextIdle : next.isGetting = false) (stored : next.isStoring = false)
    (left : ∀ key item, redis.get? key = some item →
      (key ∉ keys ∧ before.redis.get? key = some item) ∨ (key, item.set) ∉ before.written)
    (more : ∀ entry ∈ before.written, entry ∈ written)
    (own : ∀ entry ∈ written, entry ∈ before.written ∨ entry.2 = index) :
    Kept { before.become index next with redis := redis, written := written } := by
  obtain ⟨inside, _⟩ := List.getElem?_eq_some_iff.mp found
  have placed : (before.calls.set index next)[index]? = some next := by simp [inside]
  have marked : ∀ other mark, { before.become index next with redis := redis, written := written }.Retires other mark →
      before.Retires other mark ∨ (other = index ∧ mark ∈ before.marks keys) := by
    rintro other mark ⟨call, there, member⟩
    rcases getElem?_set_of_some there with ⟨rfl, rfl⟩ | ⟨_, earlier⟩
    · rw [retired] at member
      rcases List.mem_append.mp member with older | newer
      · exact .inl ⟨old, found, older⟩
      · exact .inr ⟨rfl, newer⟩
    · exact .inl ⟨call, earlier, member⟩
  have waits : ∀ home key other, before.Pending home key other →
      { before.become index next with redis := redis, written := written }.Pending home key other := by
    rintro home key other (⟨call, there, waits⟩ | waits)
    · by_cases same : other = index
      · simp_all
      · exact .inl ⟨call, by simpa [Caches.become, List.getElem?_set_ne (Ne.symm same)] using there, waits⟩
    · exact .inr waits
  have published : ∀ home key set, Mark.item key set ∈ before.marks keys →
      { before.become index next with redis := redis, written := written }.Pending home key index := by
    intro home key set member
    obtain ⟨_, _, same, listed, _⟩ := (mem_marks).mp member
    cases same
    exact .inl ⟨next, placed, pending ▸ listed⟩
  have still : ∀ call, before.Placed call →
      { before.become index next with redis := redis, written := written }.Placed call := by
    rintro call ⟨earlier, there, quiet⟩
    by_cases same : call = index
    · subst same
      exact ⟨next, placed, nextIdle⟩
    · exact ⟨earlier, by simpa [Caches.become, List.getElem?_set_ne (Ne.symm same)] using there, quiet⟩
  constructor
  · intro home key copy other held now
    rcases marked other _ now with earlier | ⟨rfl, newer⟩
    · exact waits _ _ _ (kept.held home key copy other held earlier)
    · exact published home key copy.set newer
  · intro call home key item other there now
    rcases getElem?_set_of_some there with ⟨_, same⟩ | ⟨_, earlier⟩
    · rw [← same] at nextIdle
      cases nextIdle
    · rcases marked other _ now with older | ⟨rfl, newer⟩
      · exact waits _ _ _ (kept.filling call home key item other earlier older)
      · exact published home key item.set newer
  · intro key item other present now
    have unwritten : (key, item.set) ∉ before.written → False := by
      intro unwritten
      rcases marked other _ now with older | ⟨rfl, newer⟩
      · exact unwritten (kept.written key item.set other older)
      · obtain ⟨_, _, same, _, there⟩ := (mem_marks).mp newer
        cases same
        exact unwritten there
    rcases left key item present with ⟨unlisted, earlier⟩ | fresh
    · rcases marked other _ now with older | ⟨rfl, newer⟩
      · exact kept.redis key item other earlier older
      · obtain ⟨_, _, same, listed, _⟩ := (mem_marks).mp newer
        cases same
        exact unlisted listed
    · exact unwritten fresh
  · intro key set other now
    rcases marked other _ now with older | ⟨rfl, newer⟩
    · exact more _ (kept.written key set other older)
    · obtain ⟨_, _, same, _, there⟩ := (mem_marks).mp newer
      cases same
      exact more _ there
  · intro key set member
    by_cases same : set = index
    · subst same
      exact ⟨next, placed, stored⟩
    · rcases own _ member with earlier | here
      · obtain ⟨call, there, quiet⟩ := kept.writer key set earlier
        exact ⟨call, by simpa [Caches.become, List.getElem?_set_ne (Ne.symm same)] using there, quiet⟩
      · exact absurd here same
  · intro home key copy held
    exact still _ (kept.placed home key copy held)
  · intro call other now
    rcases marked other _ now with older | ⟨rfl, newer⟩
    · obtain ⟨there, absent⟩ := kept.gone call other older
      exact ⟨still call there, absent⟩
    · obtain ⟨_, _, same, _⟩ := (mem_marks).mp newer
      cases same

variable {pattern : String}

theorem mem_unlisted :
    mark ∈ caches.unlisted matching pattern ↔ ∃ key set, mark = .item key set ∧ matching pattern key = true ∧
      caches.redis.get? key = none ∧ (key, set) ∈ caches.written := by
  unfold Caches.unlisted
  rw [List.mem_map]
  constructor
  · rintro ⟨entry, member, rfl⟩
    obtain ⟨there, listed⟩ := List.mem_filter.mp member
    rw [Bool.and_eq_true, Option.isNone_iff_eq_none] at listed
    exact ⟨entry.1, entry.2, rfl, listed.1, listed.2, there⟩
  · simp_all

theorem Kept.keys (kept : Kept before) (found : before.calls[index]? = some (.matching home pattern))
    (retired : next.retired = before.unlisted matching pattern) (nextIdle : next.isGetting = false)
    (stored : next.isStoring = false) (orderly : isOrderly matching before (.keys index) = true) :
    Kept (before.become index next) := by
  obtain ⟨inside, _⟩ := List.getElem?_eq_some_iff.mp found
  have placed : (before.calls.set index next)[index]? = some next := by simp [inside]
  simp only [isOrderly, found, Bool.and_eq_true, List.all_eq_true] at orderly
  obtain ⟨memory, way⟩ := orderly
  have marked : ∀ other mark, (before.become index next).Retires other mark →
      before.Retires other mark ∨ mark ∈ before.unlisted matching pattern := by
    rintro other mark ⟨call, there, member⟩
    rcases getElem?_set_of_some there with ⟨rfl, rfl⟩ | ⟨_, earlier⟩
    · exact .inr (retired ▸ member)
    · exact .inl ⟨call, earlier, member⟩
  have waits : ∀ home key other, before.Pending home key other → (before.become index next).Pending home key other := by
    rintro home key other (⟨call, there, waits⟩ | waits)
    · by_cases same : other = index
      · subst same
        rw [found] at there
        cases there
        cases waits
      · exact .inl ⟨call, by simpa [Caches.become, List.getElem?_set_ne (Ne.symm same)] using there, waits⟩
    · exact .inr waits
  have still : ∀ call, before.Placed call → (before.become index next).Placed call := by
    rintro call ⟨earlier, there, quiet⟩
    by_cases same : call = index
    · subst same
      exact ⟨next, placed, nextIdle⟩
    · exact ⟨earlier, by simpa [Caches.become, List.getElem?_set_ne (Ne.symm same)] using there, quiet⟩
  constructor
  · intro home key copy other held now
    rcases marked other _ now with earlier | gone
    · exact waits _ _ _ (kept.held home key copy other held earlier)
    · obtain ⟨cache, there, present⟩ := held
      have absent := memory cache (List.mem_of_getElem? there) (key, copy) (InsertionMap.mem_entries.mpr present)
      simp [gone] at absent
  · intro call home key item other there now
    rcases getElem?_set_of_some there with ⟨_, same⟩ | ⟨_, earlier⟩
    · rw [← same] at nextIdle
      cases nextIdle
    · rcases marked other _ now with older | gone
      · exact waits _ _ _ (kept.filling call home key item other earlier older)
      · have absent := way _ (List.mem_of_getElem? earlier)
        simp [gone] at absent
  · intro key item other present now
    rcases marked other _ now with older | gone
    · exact kept.redis key item other present older
    · obtain ⟨_, _, same, _, absent, _⟩ := (mem_unlisted).mp gone
      cases same
      cases present.symm.trans absent
  · intro key set other now
    rcases marked other _ now with older | gone
    · exact kept.written key set other older
    · obtain ⟨_, _, same, _, _, there⟩ := (mem_unlisted).mp gone
      cases same
      exact there
  · intro key set member
    by_cases same : set = index
    · subst same
      exact ⟨next, placed, stored⟩
    · obtain ⟨call, there, quiet⟩ := kept.writer key set member
      exact ⟨call, by simpa [Caches.become, List.getElem?_set_ne (Ne.symm same)] using there, quiet⟩
  · intro home key copy held
    exact still _ (kept.placed home key copy held)
  · intro call other now
    rcases marked other _ now with older | gone
    · obtain ⟨there, absent⟩ := kept.gone call other older
      exact ⟨still call there, absent⟩
    · obtain ⟨_, _, same, _⟩ := (mem_unlisted).mp gone
      cases same

theorem Kept.startFlush (kept : Kept before) (empty : ∀ home key copy, ¬before.Holds home key copy)
    (copies : ∀ mark ∈ call.retired, ∃ index, mark = .copy index ∧ before.Placed index)
    (fills : ∀ home key item, call ≠ .filling home key item) : Kept (before.start call) := by
  have still : ∀ (index : ℕ) earlier, before.calls[index]? = some earlier →
      (before.calls ++ [call])[index]? = some earlier := by
    intro index earlier found
    obtain ⟨inside, _⟩ := List.getElem?_eq_some_iff.mp found
    rw [List.getElem?_append_left inside, found]
  have marked : ∀ index mark, (before.start call).Retires index mark →
      before.Retires index mark ∨ ∃ copy, mark = .copy copy ∧ before.Placed copy := by
    rintro index mark ⟨other, found, member⟩
    rcases getElem?_append_singleton found with earlier | ⟨_, rfl⟩
    · exact .inl ⟨other, earlier, member⟩
    · exact .inr (copies mark member)
  have placed : ∀ index, before.Placed index → (before.start call).Placed index := by
    rintro index ⟨earlier, found, quiet⟩
    exact ⟨earlier, still index earlier found, quiet⟩
  have item : ∀ key set index, (before.start call).Retires index (.item key set) → before.Retires index (.item key set) := by grind
  constructor
  · intro home key copy index held
    exact absurd held (empty home key copy)
  · intro other home key found index there now
    rcases getElem?_append_singleton there with earlier | ⟨_, same⟩
    · rcases kept.filling other home key found index earlier (item _ _ _ now) with ⟨publisher, here, waits⟩ | waits
      · exact .inl ⟨publisher, still index publisher here, waits⟩
      · exact .inr waits
    · exact absurd same.symm (fills home key found)
  · intro key found index present now
    exact kept.redis key found index present (item _ _ _ now)
  · intro key set index now
    exact kept.written key set index (item _ _ _ now)
  · intro key set member
    obtain ⟨writer, found, stored⟩ := kept.writer key set member
    exact ⟨writer, still set writer found, stored⟩
  · intro home key copy held
    exact absurd held (empty home key copy)
  · intro copy index now
    refine ⟨?_, fun home key other held => absurd held (empty home key other)⟩
    rcases marked index _ now with earlier | ⟨_, same, there⟩
    · exact placed copy (kept.gone copy index earlier).1
    · cases same
      exact placed copy there

variable {cache : Instance Value}

theorem Kept.deliver (kept : Kept before) {handled : Instance Value} (found : before.instances[home]? = some cache)
    (done : cache.handle = some handled) (orderly : isOrderly matching before (.deliver home) = true) :
    Kept { before with instances := before.instances.set home handled } := by
  obtain ⟨l1, inbox⟩ := cache
  cases inbox with
  | nil => cases done
  | cons message inbox =>
    have fewer : ∀ key copy, handled.l1.get? key = some copy → key ≠ message.key ∧ l1.get? key = some copy := by
      cases done
      intro key copy there
      exact get?_forget message.key ⟨l1, message :: inbox⟩ key copy there
    have later : ∀ other ∈ message :: inbox, other ≠ message → other ∈ handled.inbox := by
      cases done
      intro other member apart
      exact (List.mem_cons.mp member).resolve_left apart
    simp only [isOrderly, found, List.all_eq_true] at orderly
    have held : ∀ other key copy, { before with instances := before.instances.set home handled }.Holds other key copy →
        (other = home → key ≠ message.key) ∧ before.Holds other key copy := by
      rintro other key copy ⟨now, there, present⟩
      rcases getElem?_set_of_some there with ⟨rfl, rfl⟩ | ⟨apart, earlier⟩
      · obtain ⟨different, older⟩ := fewer key copy present
        exact ⟨fun _ => different, _, found, older⟩
      · exact ⟨fun same => absurd same apart, now, earlier, present⟩
    have pending : ∀ other key index, before.Pending other key index → (other = home → key ≠ message.key) →
        { before with instances := before.instances.set home handled }.Pending other key index := by
      rintro other key index (waits | waits) apart
      · exact .inl waits
      · right
        intro now there
        rcases getElem?_set_of_some there with ⟨rfl, rfl⟩ | ⟨_, earlier⟩
        · exact later _ (waits _ found) fun same => apart rfl (congrArg Message.key same)
        · exact waits now earlier
    constructor
    · intro other key copy index there now
      obtain ⟨apart, earlier⟩ := held other key copy there
      exact pending _ _ _ (kept.held other key copy index earlier now) apart
    · intro call other key item index there now
      have waits := kept.filling call other key item index there now
      by_cases here : other = home ∧ key = message.key
      · have present := orderly _ (List.mem_of_getElem? there)
        simp only [here.1, here.2, ne_eq, not_true_eq_false, decide_false, Bool.false_or, decide_eq_true_eq] at present
        obtain ⟨current, stored, same⟩ := Option.map_eq_some_iff.mp present
        rw [here.2, ← same] at now
        exact absurd now (kept.redis message.key current index stored)
      · exact pending _ _ _ waits fun same equal => here ⟨same, equal⟩
    · exact kept.redis
    · exact kept.written
    · exact kept.writer
    · intro other key copy there
      exact kept.placed other key copy (held other key copy there).2
    · intro call index now
      obtain ⟨there, absent⟩ := kept.gone call index now
      exact ⟨there, fun other key copy still => absent other key copy (held other key copy still).2⟩

/-! The other steps. -/

theorem getElem?_become (found : before.calls[index]? = some old) :
    (before.become index next).calls[index]? = some next := by
  obtain ⟨inside, _⟩ := List.getElem?_eq_some_iff.mp found
  simp [Caches.become, inside]

theorem Kept.fill (kept : Kept before) {item : Item Value}
    (found : before.calls[index]? = some (.filling home key item)) :
    Kept ((before.become index (.answered (some item.value))).change home
      (Instance.put key ⟨item.value, item.set, index⟩)) := by
  have next : Kept (before.become index (.answered (some item.value))) := by
    apply kept.become found
    · nofun
    · nofun
    · nofun
    · exact ⟨fun _ => rfl, fun _ => rfl⟩
  have earlier : ∀ other mark, (before.become index (.answered (some item.value))).Retires other mark →
      before.Retires other mark := by
    rintro other mark ⟨call, there, member⟩
    rcases getElem?_set_of_some there with ⟨rfl, rfl⟩ | ⟨_, earlier⟩
    · cases member
    · exact ⟨call, earlier, member⟩
  apply next.put
  · intro other marked
    rcases kept.filling index home key item other found (earlier _ _ marked) with ⟨call, there, waits⟩ | waits
    · by_cases same : other = index
      · subst same
        rw [found] at there
        cases there
        cases waits
      · exact .inl ⟨call, by simpa [Caches.become, List.getElem?_set_ne (Ne.symm same)] using there, waits⟩
    · exact .inr waits
  · exact ⟨_, getElem?_become found, rfl⟩
  · intro other marked
    obtain ⟨⟨call, there, idle⟩, _⟩ := kept.gone index other (earlier _ _ marked)
    rw [found] at there
    cases there
    cases idle

theorem Kept.set (kept : Kept before) (home : ℕ) (key : String) (value : Value) :
    Kept ((before.start (.storing home key value)).change home
      (Instance.put key ⟨value, before.calls.length, before.calls.length⟩)) := by
  have next : Kept (before.start (.storing home key value)) := by
    apply kept.start rfl
    intro home key item same
    cases same
  have here : (before.calls ++ [Call.storing home key value])[before.calls.length]? = some (.storing home key value) := by
    simp
  apply next.put
  · intro other marked
    obtain ⟨call, there, stored⟩ := next.writer _ _ (next.written key before.calls.length other marked)
    cases here.symm.trans there
    cases stored
  · exact ⟨_, here, rfl⟩
  · rintro other ⟨call, there, member⟩
    rcases getElem?_append_singleton there with earlier | ⟨_, rfl⟩
    · obtain ⟨⟨call, inside, _⟩, _⟩ := kept.gone before.calls.length other ⟨call, earlier, member⟩
      simp at inside
    · cases member

/-- The call will still publish these keys, and it retires these values. -/
def Publishes (keys : List String) (retired : List Mark) (call : Call Value) : Prop :=
  call.retired = retired ∧ call.pending = keys ∧ call.isGetting = false ∧ call.isStoring = false

theorem publishes_start (home : ℕ) (keys : List String) (drops : Bool) (retired : List Mark) :
    Publishes keys retired (startPublishing home keys drops retired : Call Value) := by
  unfold startPublishing
  cases drops with
  | true | false => exact ⟨rfl, rfl, rfl, rfl⟩

theorem publishes_continue (home : ℕ) (keys : List String) (drops : Bool) (retired : List Mark) :
    Publishes keys retired (continuePublishing home keys drops retired : Call Value) := by
  cases keys with
  | nil => exact ⟨rfl, rfl, rfl, rfl⟩
  | cons first rest => exact publishes_start home (first :: rest) drops retired

theorem Kept.publish (kept : Kept before) {keys : List String} {drops : Bool} {retired : List Mark}
    (found : before.calls[index]? = some (.publishing home (key :: keys) drops retired)) :
    Kept { before.become index (continuePublishing home keys drops retired) with
      instances := before.instances.map (Instance.receive ⟨key, index⟩) } := by
  have received : Kept { before with instances := before.instances.map (Instance.receive ⟨key, index⟩) } := by
    apply kept.instances
    intro other cache there
    rw [List.getElem?_map, Option.map_eq_some_iff] at there
    obtain ⟨old, earlier, rfl⟩ := there
    exact ⟨old, earlier, fun _ _ present => present, fun message member => List.mem_append_left _ member⟩
  have publishes : Publishes keys retired (continuePublishing home keys drops retired : Call Value) :=
    publishes_continue home keys drops retired
  obtain ⟨same, waiting, idle, stored⟩ := publishes
  apply received.become found
  · intro mark member
    exact same ▸ member
  · intro other name member
    rcases List.mem_cons.mp member with rfl | more
    · right
      intro cache there
      rw [Caches.become, List.getElem?_map, Option.map_eq_some_iff] at there
      obtain ⟨old, _, rfl⟩ := there
      exact List.mem_append_right _ List.mem_cons_self
    · exact .inl ⟨_, getElem?_become found, by rw [waiting]; exact more⟩
  · intro other name item equal
    rw [equal] at idle
    cases idle
  · exact ⟨fun _ => idle, fun _ => stored⟩

theorem Kept.invalidateAll (kept : Kept before) (home : ℕ)
    (orderly : isOrderly matching before (.invalidateAll home) = true) :
    Kept ((before.start (.publishing home ["__FLUSH_ALL__"] false before.copies)).change home Instance.flushAll) := by
  have flushed : Kept (before.change home Instance.flushAll) := by
    apply kept.change
    · nofun
    · intro cache
      rfl
  apply Kept.startFlush flushed
  · intro other key copy held
    rcases holds_change held with ⟨apart, cache, found, there⟩ | ⟨_, cache, _, there⟩
    · have remaining : cache ∈ before.instances.eraseIdx home := List.mem_eraseIdx_iff_getElem?.mpr ⟨other, apart, found⟩
      have empty := List.all_eq_true.mp orderly cache remaining
      have member := InsertionMap.mem_entries.mpr there
      rw [List.isEmpty_iff.mp empty] at member
      cases member
    · cases there
  · intro mark member
    obtain ⟨cache, there, listed⟩ := List.mem_flatMap.mp member
    obtain ⟨entry, present, rfl⟩ := List.mem_map.mp listed
    obtain ⟨other, found⟩ := List.mem_iff_getElem?.mp there
    exact ⟨_, rfl, kept.placed other entry.1 entry.2 ⟨cache, found, InsertionMap.mem_entries.mp present⟩⟩
  · nofun

variable {label : Label Value}

theorem Kept.step (kept : Kept before) (move : step matching before label after)
    (orderly : isOrderly matching before label = true) : Kept after := by
  cases label with
  | get home key =>
    simp only [Caching.step, Caches.perform] at move
    split at move
    · cases move
    · split at move <;> cases move
      · apply kept.start rfl
        intro home key item same
        cases same
      · apply kept.start rfl
        intro home key item same
        cases same
  | fetch call =>
    simp only [Caching.step, Caches.perform] at move
    split at move
    · rename_i home key found
      split at move <;> cases move
      · apply kept.become found
        · nofun
        · nofun
        · nofun
        · exact ⟨fun _ => rfl, fun _ => rfl⟩
      · rename_i item present
        apply kept.become found
        · nofun
        · nofun
        · simp_all
        · refine ⟨fun idle => ?_, fun _ => rfl⟩
          cases idle
    · cases move
  | fill call stays =>
    simp only [Caching.step, Caches.perform] at move
    split at move
    · rename_i home key item found
      split at move
      · cases move
      · split at move <;> cases move
        · exact kept.fill found
        · apply kept.become found
          · nofun
          · nofun
          · nofun
          · exact ⟨fun _ => rfl, fun _ => rfl⟩
    · cases move
  | set home key value =>
    cases move
    exact kept.set home key value
  | store call =>
    simp only [Caching.step, Caches.perform] at move
    split at move
    · rename_i home key value found
      cases move
      apply kept.retire found rfl rfl rfl rfl rfl
      · intro name item present
        rw [InsertionMap.get?_set] at present
        by_cases same : key = name
        · rw [if_pos same] at present
          cases present
          right
          intro member
          obtain ⟨writer, there, stored⟩ := kept.writer _ _ member
          cases found.symm.trans there
          cases stored
        · rw [if_neg same] at present
          exact .inl ⟨fun member => same (List.mem_singleton.mp member).symm, present⟩
      · simp_all
      · grind
    · cases move
  | del home key =>
    cases move
    have next : Kept (before.start (.removing home [key] false [])) := by
      apply kept.start rfl
      intro home key item same
      cases same
    exact next.forget home key
  | delPattern home pattern =>
    cases move
    apply kept.start rfl
    intro home key item same
    cases same
  | keys call =>
    simp only [Caching.step, Caches.perform] at move
    split at move
    · rename_i home pattern found
      cases move
      refine kept.keys found ?_ ?_ ?_ orderly
      · unfold continueRemoving
        split <;> rfl
      · unfold continueRemoving
        split <;> rfl
      · unfold continueRemoving
        split <;> rfl
    · cases move
  | remove call =>
    simp only [Caching.step, Caches.perform] at move
    split at move
    · rename_i home keys drops retired found
      cases move
      have publishes : Publishes keys (retired ++ before.marks keys)
          (startPublishing home keys drops (retired ++ before.marks keys) : Call Value) :=
        publishes_start home keys drops _
      obtain ⟨same, waiting, idle, stored⟩ := publishes
      apply kept.retire found rfl same waiting idle stored
      · grind
      · intro entry member
        exact member
      · intro entry member
        exact .inl member
    · cases move
  | drop call =>
    simp only [Caching.step, Caches.perform] at move
    split at move
    · rename_i home key keys retired found
      cases move
      have next : Kept (before.become call (.publishing home (key :: keys) true retired)) := by
        apply kept.become found
        · intro mark member
          exact member
        · intro other name member
          exact .inl ⟨_, getElem?_become found, member⟩
        · nofun
        · exact ⟨fun _ => rfl, fun _ => rfl⟩
      exact next.forget home key
    · cases move
  | invalidateAll home =>
    cases move
    exact kept.invalidateAll home orderly
  | publish call =>
    simp only [Caching.step, Caches.perform] at move
    split at move
    · rename_i home key keys drops retired found
      cases move
      exact kept.publish found
    · cases move
  | deliver home =>
    simp only [Caching.step, Caches.perform] at move
    split at move
    · cases move
    · rename_i cache found
      obtain ⟨handled, done, rfl⟩ := Option.map_eq_some_iff.mp move
      exact kept.deliver found done orderly
  | expire key =>
    cases move
    exact kept.expire key
  | evict home key =>
    cases move
    exact kept.forget home key

theorem not_pending (complete : before.IsComplete index)
    (found : before.instances[home]? = some cache) : ¬before.Pending home key index := by
  obtain ⟨⟨retired, returned⟩, delivered⟩ := complete
  rintro (⟨call, there, waits⟩ | waits)
  · cases returned.symm.trans there
    cases waits
  · exact delivered cache (List.mem_of_getElem? found) _ (waits cache found) rfl

theorem Kept.fresh (kept : Kept before) (move : Caching.step matching before label after) : Fresh before label := by
  intro index call found complete mark member retired
  have marked : before.Retires index mark := ⟨call, found, retired⟩
  cases label with
  | get home key =>
    simp only [Caches.answer] at member
    split at member
    · cases member
    · rename_i cache there
      split at member
      · rename_i copy present
        have held : before.Holds home key copy := ⟨cache, there, present⟩
        rcases List.mem_cons.mp member with rfl | last
        · exact not_pending complete there (kept.held home key copy index held marked)
        · obtain rfl := List.mem_singleton.mp last
          exact (kept.gone copy.call index marked).2 home key copy held rfl
      · cases member
  | fill getting stays =>
    simp only [Caches.answer] at member
    simp only [Caching.step, Caches.perform] at move
    split at member
    · rename_i home key item there
      rw [there] at move
      dsimp only at move
      split at move
      · cases move
      · rename_i inside
        split at member
        · obtain rfl := List.mem_singleton.mp member
          have here : before.instances[home]? = some before.instances[home] :=
            List.getElem?_eq_getElem (Nat.not_le.mp inside)
          exact not_pending complete here (kept.filling getting home key item index there marked)
        · cases member
    · cases member
  | _ => cases member

/-- In every such run no `get` of any instance gives back what a call has superseded or removed that has
returned and whose messages are delivered. -/
theorem caches_coherent {count : ℕ} {trace : List (Label Value)} {last : Caches Value}
    (run : Run (step matching) (.empty Value count) trace last)
    (orderly : Throughout (step matching) (.empty Value count) (fun before label _ => isOrderly matching before label = true)
      trace) :
    Throughout (step matching) (.empty Value count) (fun before label _ => Fresh before label) trace := by
  rintro earlier label rest before after rfl reached move
  have kept : Kept before := by
    apply (reached.restrict orderly.before).invariant (fun _ caches => Kept caches)
    · exact kept_empty count
    · intro _ before label after kept move
      exact kept.step move.1 move.2
  exact kept.fresh move

/-- A value is set and read elsewhere, and deleted before it is read again. -/
def settled : List (Label ℕ) :=
  [.set 0 "k" 7, .store 0, .publish 0, .deliver 1, .get 1 "k", .fetch 1, .deliver 0, .fill 1 true, .del 0 "k", .remove 2,
    .get 1 "k", .publish 2, .deliver 1, .deliver 0, .get 1 "k", .fetch 4]

theorem settled_coherent : ∃ last : Caches ℕ, last.redis.get? "k" = none ∧
    Throughout (step fun _ _ => true) (.empty ℕ 2) (fun before label _ => Fresh before label) settled := by
  have followed : (settled.foldlM (Caches.perform fun _ _ => true) (.empty ℕ 2)).map
      (fun caches => caches.redis.get? "k") = some none := by decide
  obtain ⟨last, reached, gone⟩ := Option.map_eq_some_iff.mp followed
  refine ⟨last, gone, caches_coherent (Run.follow reached) ?_⟩
  exact throughout_follow (by decide)

/-- A value is read from Redis before it is deleted, and put into memory after the deletion was heard of. -/
def overtaken : List (Label ℕ) :=
  [.set 0 "k" 7, .store 0, .publish 0, .deliver 0, .deliver 1, .evict 1 "k", .get 1 "k", .fetch 1, .del 0 "k",
    .remove 2, .publish 2, .deliver 0, .deliver 1, .fill 1 true]

/-- What a call that has returned has retired. -/
def Call.ended : Call Value → Option (List Mark)
  | .returned retired => some retired
  | _ => none

theorem overtaken_not_coherent : ¬∀ (matching : String → String → Bool) (count : ℕ) (trace : List (Label ℕ))
    (last : Caches ℕ), Run (step matching) (.empty ℕ count) trace last →
      Throughout (step matching) (.empty ℕ count) (fun before label _ => Fresh before label) trace := by
  intro always
  have followed : (overtaken.foldlM (Caches.perform fun _ _ => true) (.empty ℕ 2)).map (fun caches =>
      (caches.calls[2]?.bind Call.ended, caches.instances.flatMap Instance.inbox, caches.answer (.get 1 "k"))) =
      some (some [.item "k" 0], [], [.item "k" 0, .copy 1]) := by decide
  obtain ⟨before, reached, same⟩ := Option.map_eq_some_iff.mp followed
  simp only [Prod.mk.injEq] at same
  obtain ⟨deleted, heard, stale⟩ := same
  have moved : ((overtaken ++ [Label.get 1 "k"]).foldlM (Caches.perform fun _ _ => true) (.empty ℕ 2)).isSome = true := by
    decide
  obtain ⟨after, ended⟩ := Option.isSome_iff_exists.mp moved
  have run := Run.follow ended
  obtain ⟨middle, earlier, move⟩ := run.last_step
  obtain rfl := Run.unique (Run.follow reached) earlier
  have fresh := always _ _ _ _ run overtaken (.get 1 "k") [] _ _ rfl earlier move
  obtain ⟨call, found, retired⟩ := Option.bind_eq_some_iff.mp deleted
  cases call with
  | returned marks =>
    cases retired
    have complete : before.IsComplete 2 := by
      refine ⟨⟨_, found⟩, fun cache there message member => ?_⟩
      have listed := List.mem_flatMap.mpr ⟨cache, there, member⟩
      rw [heard] at listed
      cases listed
    apply fresh 2 _ found complete (.item "k" 0)
    · rw [stale]
      exact List.mem_cons_self
    · exact List.mem_cons_self
  | _ => cases retired

end ProxyPay.Caching
