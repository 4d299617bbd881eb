import ProxyPay.Callbacks.Store

/-! The index of the store leads to what is stored, and a duplicate is found exactly if there is one, in every run
whose calls take from the index what they take from the records. -/

namespace ProxyPay.Callbacks.Store

open ProxyPay.Library

variable {Value : Type} {limits : Limits} {before : System Value} {provider key hash : String} {now : ℤ}

theorem fullKey_ne_empty (provider key : String) : fullKey provider key ≠ "" := by
  intro same
  have chars := congrArg String.toList same
  rw [fullKey, String.toList_append, String.toList_append] at chars
  simp at chars

theorem fullKey_inj {other : String} : fullKey provider key = fullKey provider other ↔ key = other := by
  constructor
  · simp [fullKey, String.toList_append]
  · exact congrArg _

namespace CallbackIdempotencyStore

variable {store : CallbackIdempotencyStore Value}

theorem oldest_some {entry : String × CallbackRecord Value} (goes : store.oldest limits = some entry) :
    store.records.get? entry.1 = some entry.2 := by
  unfold CallbackIdempotencyStore.oldest at goes
  split at goes
  · obtain ⟨first, _⟩ := Option.filter_eq_some_iff.mp goes
    exact InsertionMap.mem_entries.mp (List.mem_of_head? first)
  · cases goes

/-- The key of the record that goes. -/
def evicts (limits : Limits) (store : CallbackIdempotencyStore Value) (name : String) : Bool :=
  (store.oldest limits).any fun entry => entry.1 = name

/-- The entry of the index that goes with it. -/
def clears (limits : Limits) (store : CallbackIdempotencyStore Value) (provider name : String) : Bool :=
  (store.oldest limits).any fun entry => fullKey provider entry.2.payloadHash = name

theorem get?_evict (name : String) : (store.evict limits provider).records.get? name =
    if store.evicts limits name then none else store.records.get? name := by
  unfold evict evicts
  cases store.oldest limits with
  | none => rfl
  | some entry => grind

theorem get?_hash_evict (name : String) : (store.evict limits provider).hashIndex.get? name =
    if store.clears limits provider name then none else store.hashIndex.get? name := by
  unfold evict clears
  cases store.oldest limits with
  | none => rfl
  | some entry => grind

variable {name : String}

theorem get?_record {record : CallbackRecord Value} (other : fullKey provider key ≠ name) :
    (store.recordCallback limits now provider key hash).records.get? name = some record ↔
      store.evicts limits name = false ∧ store.records.get? name = some record := by
  unfold recordCallback
  rw [InsertionMap.get?_set, if_neg other, get?_evict]
  by_cases gone : store.evicts limits name = true <;> simp [gone]

variable {target : String}

theorem get?_hash_record (other : fullKey provider hash ≠ name) :
    (store.recordCallback limits now provider key hash).hashIndex.get? name = some target ↔
      store.clears limits provider name = false ∧ store.hashIndex.get? name = some target := by
  unfold recordCallback
  rw [InsertionMap.get?_set, if_neg other, get?_hash_evict]
  by_cases gone : store.clears limits provider name = true <;> simp [gone]

theorem get?_record_new : (store.recordCallback limits now provider key hash).records.get? (fullKey provider key) =
    some ⟨⟨key, hash, provider, now⟩, .received, none, none⟩ := by
  unfold recordCallback
  rw [InsertionMap.get?_set, if_pos rfl]

theorem get?_hash_record_new :
    (store.recordCallback limits now provider key hash).hashIndex.get? (fullKey provider hash) =
      some (fullKey provider key) := by
  unfold recordCallback
  rw [InsertionMap.get?_set, if_pos rfl]

section

variable {record : CallbackRecord Value}

theorem cleared (well : store.evictsWell limits now provider key hash = true) (goes : store.evicts limits name = true)
    (stored : store.records.get? name = some record)
    (led : store.hashIndex.get? record.toReceived.hashName = some name) :
    store.clears limits provider record.toReceived.hashName = true ∨
      record.toReceived.hashName = fullKey provider hash := by
  unfold evicts at goes
  unfold evictsWell at well
  unfold clears
  cases oldest : store.oldest limits with
  | none =>
    rw [oldest] at goes
    cases goes
  | some entry =>
    obtain ⟨oldestKey, old⟩ := entry
    have found := oldest_some oldest
    rw [oldest, Option.any_some, decide_eq_true_eq] at goes
    cases goes
    cases stored.symm.trans found
    rw [oldest, Option.all_some, Bool.and_eq_true, Bool.or_eq_true, Bool.or_eq_true, decide_eq_true_eq,
      decide_eq_true_eq, decide_eq_true_eq] at well
    rcases well.1 with (elsewhere | own) | anew
    · exact absurd led elsewhere
    · exact .inl (decide_eq_true own.symm)
    · exact .inr anew

theorem spared (well : store.evictsWell limits now provider key hash = true) (stays : store.evicts limits name = false)
    (stored : store.records.get? name = some record) (other : fullKey provider key ≠ name)
    (fresh : record.toReceived.Fresh limits now)
    (gone : store.clears limits provider record.toReceived.hashName = true) :
    record.toReceived.hashName = fullKey provider hash := by
  unfold evicts at stays
  unfold evictsWell at well
  unfold clears at gone
  cases oldest : store.oldest limits with
  | none =>
    rw [oldest] at gone
    cases gone
  | some entry =>
    obtain ⟨oldestKey, old⟩ := entry
    rw [oldest, Option.any_some, decide_eq_true_eq] at gone
    rw [oldest, Option.any_some, decide_eq_false_iff_not] at stays
    rw [oldest, Option.all_some, Bool.and_eq_true] at well
    rcases Bool.or_eq_true_iff.mp well.2 with anew | none_lives
    · exact gone.symm.trans (of_decide_eq_true anew)
    · have each := List.all_eq_true.mp none_lives (name, record) (InsertionMap.mem_entries.mpr stored)
      simp [Ne.symm stays, Ne.symm other, fresh, gone] at each

theorem replaced (well : store.replacesWell limits provider key hash = true)
    (stays : store.evicts limits (fullKey provider key) = false)
    (stored : store.records.get? (fullKey provider key) = some record)
    (led : store.hashIndex.get? record.toReceived.hashName = some (fullKey provider key)) :
    store.clears limits provider record.toReceived.hashName = true ∨
      record.toReceived.hashName = fullKey provider hash := by
  unfold replacesWell at well
  rw [get?_evict, if_neg (Bool.eq_false_iff.mp stays), stored, Option.all_some, get?_hash_evict, Bool.or_eq_true,
    decide_eq_true_eq, decide_eq_true_eq] at well
  by_cases gone : store.clears limits provider record.toReceived.hashName = true
  · exact .inl gone
  · simp_all

theorem stays_led (evicts : store.evictsWell limits now provider key hash = true)
    (replaces : store.replacesWell limits provider key hash = true)
    (other : fullKey provider hash ≠ name) (left : store.clears limits provider name = false)
    (led : store.hashIndex.get? name = some target) (stored : store.records.get? target = some record)
    (same : name = record.toReceived.hashName) :
    fullKey provider key ≠ target ∧ store.evicts limits target = false := by
  subst same
  have stays : store.evicts limits target = false := by
    by_contra goes
    rcases cleared evicts (Bool.not_eq_false _ ▸ goes) stored led with gone | anew
    · rw [left] at gone
      cases gone
    · exact other anew.symm
  refine ⟨?_, stays⟩
  rintro rfl
  rcases replaced replaces stays stored led with gone | anew
  · rw [left] at gone
    cases gone
  · exact other anew.symm

end

end CallbackIdempotencyStore

variable {callback : Received}

theorem mem_remaining : callback ∈ before.remaining limits key ↔
    callback ∈ before.surviving ∧ callback.name ≠ key ∧ before.store.evicts limits callback.name = false := by
  unfold System.remaining CallbackIdempotencyStore.evicts
  rw [List.mem_filter, Bool.and_eq_true, decide_eq_true_eq]
  cases before.store.oldest limits with
  | none => simp
  | some entry => grind

/-- What the store and the history have to do with each other. -/
structure Kept (limits : Limits) (system : System Value) : Prop where
  bounded : system.store.getRecordCount ≤ limits.maxEntries
  named : ∀ key record, system.store.records.get? key = some record → key = record.toReceived.name
  known : ∀ key record, system.store.records.get? key = some record → record.toReceived ∈ system.surviving
  past : ∀ key record, system.store.records.get? key = some record → record.receivedAt ≤ system.clock
  stored : ∀ callback ∈ system.surviving, callback.Fresh limits system.clock →
    ∃ record, system.store.records.get? callback.name = some record ∧ record.toReceived = callback
  indexed : ∀ name key, system.store.hashIndex.get? name = some key →
    ∃ record, system.store.records.get? key = some record ∧ name = record.toReceived.hashName
  led : ∀ key record, system.store.records.get? key = some record → record.toReceived.Fresh limits system.clock →
    ∃ other later, system.store.hashIndex.get? record.toReceived.hashName = some other ∧
      system.store.records.get? other = some later ∧ record.receivedAt ≤ later.receivedAt

theorem Received.Fresh.mono {earlier : ℤ} (fresh : callback.Fresh limits now) (le : earlier ≤ now) :
    callback.Fresh limits earlier := by
  unfold Received.Fresh at fresh ⊢
  omega

theorem Received.Fresh.later {other : Received} (fresh : callback.Fresh limits now)
    (le : callback.receivedAt ≤ other.receivedAt) : other.Fresh limits now := by
  unfold Received.Fresh at fresh ⊢
  omega

namespace Kept

variable (kept : Kept limits before)
include kept

theorem consistent : Consistent limits before.store where
  bounded := kept.bounded
  indexed := kept.indexed
  few := InsertionMap.length_le_of_leads (fun record : CallbackRecord Value => record.toReceived.hashName) kept.indexed

theorem byHash_some {record : CallbackRecord Value}
    (found : before.store.byHash limits now provider hash = some record) :
    record.toReceived ∈ before.surviving ∧ record.toReceived.Fresh limits now ∧
      record.toReceived.hashName = fullKey provider hash := by
  unfold CallbackIdempotencyStore.byHash at found
  split at found
  · cases found
  · rename_i existing led
    obtain ⟨there, fresh⟩ := Option.filter_eq_some_iff.mp found
    obtain ⟨listed, _⟩ := Text.truthy_eq_some.mp led
    obtain ⟨other, stored, name⟩ := kept.indexed _ _ listed
    cases there.symm.trans stored
    exact ⟨kept.known _ _ there, of_decide_eq_true fresh, name.symm⟩

section

variable (le : before.clock ≤ now)

include le

theorem byHash_isSome {record : CallbackRecord Value} (stored : before.store.records.get? key = some record) (fresh : record.toReceived.Fresh limits now)
    (same : record.toReceived.hashName = fullKey provider hash) :
    (before.store.byHash limits now provider hash).isSome = true := by
  obtain ⟨other, later, listed, there, order⟩ := kept.led key record stored (fresh.mono le)
  have some_key : other ≠ "" := by
    rw [kept.named _ _ there]
    exact fullKey_ne_empty _ _
  rw [same] at listed
  unfold CallbackIdempotencyStore.byHash
  rw [Text.truthy_eq_some.mpr ⟨listed, some_key⟩]
  show ((before.store.records.get? other).filter _).isSome = true
  rw [there, Option.filter_some, if_pos (decide_eq_true (fresh.later order))]
  rfl

theorem wait : Kept limits { before with clock := now } where
  bounded := kept.bounded
  named := kept.named
  known := kept.known
  past := fun key record stored => Int.le_trans (kept.past key record stored) le
  stored := fun callback member fresh => kept.stored callback member (fresh.mono le)
  indexed := kept.indexed
  led := fun key record stored fresh => kept.led key record stored (fresh.mono le)

theorem expire {record : CallbackRecord Value} (stored : before.store.records.get? (fullKey provider key) = some record)
    (expired : ¬record.toReceived.Fresh limits now) (own : record.provider = provider)
    (dead : (before.store.byHash limits now provider record.payloadHash).isNone = true) :
    Kept limits ⟨⟨before.store.records.erase (fullKey provider key),
      before.store.hashIndex.erase (fullKey provider record.payloadHash)⟩, now, before.surviving⟩ := by
  have hashed : record.toReceived.hashName = fullKey provider record.payloadHash := by
    rw [Received.hashName, own]
  have left (name : String) (other : CallbackRecord Value) :
      (before.store.records.erase (fullKey provider key)).get? name = some other ↔
        fullKey provider key ≠ name ∧ before.store.records.get? name = some other := by
    rw [InsertionMap.get?_erase]
    by_cases same : fullKey provider key = name
    · simp [same]
    · simp [same]
  constructor
  · exact Nat.le_trans InsertionMap.length_erase_le kept.bounded
  · intro name other found
    exact kept.named name other ((left name other).mp found).2
  · intro name other found
    exact kept.known name other ((left name other).mp found).2
  · intro name other found
    exact Int.le_trans (kept.past name other ((left name other).mp found).2) le
  · intro callback member fresh
    obtain ⟨other, found, same⟩ := kept.stored callback member (fresh.mono le)
    refine ⟨other, (left _ _).mpr ⟨?_, found⟩, same⟩
    intro name
    rw [← name] at found
    cases stored.symm.trans found
    exact expired (same ▸ fresh)
  · intro name target listed
    rw [InsertionMap.get?_erase] at listed
    split at listed
    · cases listed
    · rename_i other_name
      obtain ⟨other, found, same⟩ := kept.indexed name target listed
      refine ⟨other, (left _ _).mpr ⟨?_, found⟩, same⟩
      intro target_key
      rw [← target_key] at found
      cases stored.symm.trans found
      exact other_name (hashed.symm.trans same.symm)
  · intro name other found fresh
    obtain ⟨apart, there⟩ := (left name other).mp found
    obtain ⟨target, later, listed, follows, order⟩ := kept.led name other there (fresh.mono le)
    have other_hash : fullKey provider record.payloadHash ≠ other.toReceived.hashName := by
      intro same
      have found_some := kept.byHash_isSome le there fresh same.symm
      rw [Option.isNone_iff_eq_none.mp dead] at found_some
      cases found_some
    refine ⟨target, later, ?_, (left _ _).mpr ⟨?_, follows⟩, order⟩
    · grind
    · intro same
      rw [← same] at follows
      cases stored.symm.trans follows
      exact expired (fresh.later order)

theorem find (tidy : before.store.findsWell limits now provider key hash = true) :
    Kept limits (before.perform limits now (.findDuplicate provider key hash)) ∧
      Answers limits before (now, .findDuplicate provider key hash) := by
  have unique {callback : Received} (matching : Matches limits before now provider key hash callback) :
      (∃ record, before.store.records.get? (fullKey provider key) = some record ∧ record.toReceived = callback) ∨
        (before.store.byHash limits now provider hash).isSome = true := by
    obtain ⟨member, fresh, rfl, same | same⟩ := matching
    · left
      rw [← same]
      exact kept.stored callback member (fresh.mono le)
    · right
      obtain ⟨record, stored, rfl⟩ := kept.stored callback member (fresh.mono le)
      apply kept.byHash_isSome le stored fresh
      rw [Received.hashName, same]
  unfold CallbackIdempotencyStore.findsWell at tidy
  cases stored : before.store.records.get? (fullKey provider key) with
  | none =>
    simp only [stored] at tidy
    have answer : before.store.findDuplicate limits now provider key hash =
        (before.store.byHash limits now provider hash, before.store) := by
      rw [CallbackIdempotencyStore.findDuplicate, stored]
    have right (record : CallbackRecord Value) (found : before.store.byHash limits now provider hash = some record) :
        Matches limits before now provider key hash record.toReceived := by
      obtain ⟨member, fresh, name⟩ := kept.byHash_some found
      rw [found, Option.all_some, decide_eq_true_eq] at tidy
      rw [Received.hashName, tidy] at name
      exact ⟨member, fresh, tidy, .inr ((fullKey_inj).mp name)⟩
    constructor
    · show Kept limits ⟨(before.store.findDuplicate limits now provider key hash).2, now, before.surviving⟩
      rw [answer]
      exact kept.wait le
    · show (_ ↔ _) ∧ _
      rw [answer]
      refine ⟨⟨?_, ?_⟩, right⟩
      · intro found
        obtain ⟨record, found⟩ := Option.isSome_iff_exists.mp found
        exact ⟨record.toReceived, right record found⟩
      · grind
  | some record =>
    simp only [stored, Bool.and_eq_true, Bool.or_eq_true, decide_eq_true_eq] at tidy
    obtain ⟨own, tidy⟩ := tidy
    have name : record.idempotencyKey = key := by
      have named := kept.named _ _ stored
      rw [Received.name, own] at named
      exact ((fullKey_inj).mp named).symm
    by_cases fresh : record.toReceived.Fresh limits now
    · have answer : before.store.findDuplicate limits now provider key hash = (some record, before.store) := by
        rw [CallbackIdempotencyStore.findDuplicate, stored]
        exact if_pos fresh
      have right : Matches limits before now provider key hash record.toReceived :=
        ⟨kept.known _ _ stored, fresh, own, .inl name⟩
      constructor
      · show Kept limits ⟨(before.store.findDuplicate limits now provider key hash).2, now, before.surviving⟩
        rw [answer]
        exact kept.wait le
      · show (_ ↔ _) ∧ _
        rw [answer]
        refine ⟨iff_of_true rfl ⟨_, right⟩, ?_⟩
        intro found same
        cases same
        exact right
    · obtain ⟨dead, none_hash⟩ := tidy.resolve_left fresh
      have answer : before.store.findDuplicate limits now provider key hash =
          (none, ⟨before.store.records.erase (fullKey provider key),
            before.store.hashIndex.erase (fullKey provider record.payloadHash)⟩) := by
        rw [CallbackIdempotencyStore.findDuplicate, stored]
        exact if_neg fresh
      constructor
      · show Kept limits ⟨(before.store.findDuplicate limits now provider key hash).2, now, before.surviving⟩
        rw [answer]
        exact kept.expire le stored fresh own dead
      · show (_ ↔ _) ∧ _
        rw [answer]
        refine ⟨iff_of_false Bool.false_ne_true ?_, fun found same => nomatch same⟩
        intro found
        obtain ⟨callback, matching⟩ := found
        rcases unique matching with ⟨other, there, rfl⟩ | found
        · cases stored.symm.trans there
          exact fresh matching.2.1
        · simp_all

end

/-! Recording. -/

theorem oldest_isSome (positive : 1 ≤ limits.maxEntries)
    (full : limits.maxEntries ≤ before.store.records.entries.length) : (before.store.oldest limits).isSome = true := by
  unfold CallbackIdempotencyStore.oldest
  rw [if_pos full]
  cases entries : before.store.records.entries with
  | nil => simp_all
  | cons entry rest =>
    have stored : before.store.records.get? entry.1 = some entry.2 := by
      apply InsertionMap.mem_entries.mp
      rw [entries]
      exact List.mem_cons_self
    have some_key : entry.1 ≠ "" := by
      rw [kept.named _ _ stored]
      exact fullKey_ne_empty _ _
    rw [List.head?_cons, Option.filter_some, if_pos (decide_eq_true some_key)]
    rfl

theorem record_bounded (positive : 1 ≤ limits.maxEntries) :
    (before.store.recordCallback limits now provider key hash).getRecordCount ≤ limits.maxEntries := by
  have evicted : (before.store.evict limits provider).records.entries.length < limits.maxEntries := by
    unfold CallbackIdempotencyStore.evict
    cases goes : before.store.oldest limits with
    | some entry =>
      have less := InsertionMap.length_erase_lt (CallbackIdempotencyStore.oldest_some goes)
      exact Nat.lt_of_lt_of_le less kept.bounded
    | none =>
      by_contra full
      have found := kept.oldest_isSome positive (Nat.le_of_not_lt full)
      rw [goes] at found
      cases found
  exact Nat.le_trans InsertionMap.length_set_le evicted

theorem record (le : before.clock ≤ now) (positive : 1 ≤ limits.maxEntries)
    (evicts : before.store.evictsWell limits now provider key hash = true)
    (replaces : before.store.replacesWell limits provider key hash = true) :
    Kept limits (before.perform limits now (.recordCallback provider key hash)) := by
  have past : ∀ name record,
      (before.store.recordCallback limits now provider key hash).records.get? name = some record →
        record.receivedAt ≤ now := by
    intro name record found
    by_cases new : fullKey provider key = name
    · subst new
      cases CallbackIdempotencyStore.get?_record_new.symm.trans found
      exact Int.le_refl _
    · exact Int.le_trans (kept.past name record ((CallbackIdempotencyStore.get?_record new).mp found).2) le
  constructor
  · exact kept.record_bounded positive
  · intro name record found
    by_cases new : fullKey provider key = name
    · subst new
      cases CallbackIdempotencyStore.get?_record_new.symm.trans found
      rfl
    · exact kept.named name record ((CallbackIdempotencyStore.get?_record new).mp found).2
  · intro name record found
    apply List.mem_append.mpr
    by_cases new : fullKey provider key = name
    · subst new
      cases CallbackIdempotencyStore.get?_record_new.symm.trans found
      exact .inr List.mem_cons_self
    · obtain ⟨stays, stored⟩ := (CallbackIdempotencyStore.get?_record new).mp found
      have named := kept.named name record stored
      rw [named] at stays new
      exact .inl ((mem_remaining).mpr ⟨kept.known name record stored, Ne.symm new, stays⟩)
  · exact past
  · intro callback member fresh
    rcases List.mem_append.mp member with old | new
    · obtain ⟨survived, other, stays⟩ := (mem_remaining).mp old
      obtain ⟨record, stored, same⟩ := kept.stored callback survived (fresh.mono le)
      exact ⟨record, (CallbackIdempotencyStore.get?_record (Ne.symm other)).mpr ⟨stays, stored⟩, same⟩
    · cases List.mem_singleton.mp new
      exact ⟨_, CallbackIdempotencyStore.get?_record_new, rfl⟩
  · intro name target found
    by_cases new : fullKey provider hash = name
    · subst new
      cases CallbackIdempotencyStore.get?_hash_record_new.symm.trans found
      exact ⟨_, CallbackIdempotencyStore.get?_record_new, rfl⟩
    · obtain ⟨left, led⟩ := (CallbackIdempotencyStore.get?_hash_record new).mp found
      obtain ⟨record, stored, same⟩ := kept.indexed name target led
      obtain ⟨other, stays⟩ := CallbackIdempotencyStore.stays_led evicts replaces new left led stored same
      exact ⟨record, (CallbackIdempotencyStore.get?_record other).mpr ⟨stays, stored⟩, same⟩
  · intro name record found fresh
    by_cases new : fullKey provider hash = record.toReceived.hashName
    · refine ⟨_, _, ?_, CallbackIdempotencyStore.get?_record_new, past name record found⟩
      rw [← new]
      exact CallbackIdempotencyStore.get?_hash_record_new
    · by_cases own : fullKey provider key = name
      · subst own
        cases CallbackIdempotencyStore.get?_record_new.symm.trans found
        exact absurd rfl new
      · obtain ⟨stays, stored⟩ := (CallbackIdempotencyStore.get?_record own).mp found
        obtain ⟨target, later, led, there, order⟩ := kept.led name record stored (fresh.mono le)
        have left : before.store.clears limits provider record.toReceived.hashName = false := by
          by_contra gone
          exact new (CallbackIdempotencyStore.spared evicts stays stored own fresh (Bool.not_eq_false _ ▸ gone)).symm
        obtain ⟨record', stored', same⟩ := kept.indexed _ _ led
        cases there.symm.trans stored'
        obtain ⟨other, stays_too⟩ := CallbackIdempotencyStore.stays_led evicts replaces new left led there same
        exact ⟨target, later, (CallbackIdempotencyStore.get?_hash_record new).mpr ⟨left, led⟩,
          (CallbackIdempotencyStore.get?_record other).mpr ⟨stays_too, there⟩, order⟩

theorem mark (le : before.clock ≤ now) (statusCode : ℕ) (body : Option Value) :
    Kept limits (before.perform limits now (.markProcessed provider key statusCode body)) := by
  show Kept limits ⟨before.store.markProcessed provider key statusCode body, now, before.surviving⟩
  unfold CallbackIdempotencyStore.markProcessed
  cases stored : before.store.records.get? (fullKey provider key) with
  | none => exact kept.wait le
  | some record =>
    -- Only the outcome of the one record changes.
    have back (name : String) (found : CallbackRecord Value)
        (there : (before.store.records.set (fullKey provider key)
          { record with status := .processed, statusCode := some statusCode, responseBody := body }).get? name =
            some found) :
        ∃ old, before.store.records.get? name = some old ∧ found.toReceived = old.toReceived := by
      rw [InsertionMap.get?_set] at there
      split at there
      · grind
      · exact ⟨found, there, rfl⟩
    have forth (name : String) (old : CallbackRecord Value) (there : before.store.records.get? name = some old) :
        ∃ found, (before.store.records.set (fullKey provider key)
          { record with status := .processed, statusCode := some statusCode, responseBody := body }).get? name =
            some found ∧ found.toReceived = old.toReceived := by
      rw [InsertionMap.get?_set]
      split
      · simp_all
      · exact ⟨old, there, rfl⟩
    constructor
    · exact Nat.le_trans (Nat.le_of_eq (InsertionMap.length_set_of_some stored)) kept.bounded
    · intro name found there
      obtain ⟨old, was, same⟩ := back name found there
      rw [same]
      exact kept.named name old was
    · intro name found there
      obtain ⟨old, was, same⟩ := back name found there
      rw [same]
      exact kept.known name old was
    · intro name found there
      obtain ⟨old, was, same⟩ := back name found there
      rw [same]
      exact Int.le_trans (kept.past name old was) le
    · intro callback member fresh
      obtain ⟨old, was, same⟩ := kept.stored callback member (fresh.mono le)
      obtain ⟨found, there, kind⟩ := forth _ old was
      exact ⟨found, there, kind.trans same⟩
    · intro name target led
      obtain ⟨old, was, same⟩ := kept.indexed name target led
      obtain ⟨found, there, kind⟩ := forth target old was
      rw [← kind] at same
      exact ⟨found, there, same⟩
    · intro name found there fresh
      obtain ⟨old, was, same⟩ := back name found there
      rw [same] at fresh ⊢
      obtain ⟨target, later, led, stands, order⟩ := kept.led name old was (fresh.mono le)
      obtain ⟨other, shown, kind⟩ := forth target later stands
      rw [← kind] at order
      exact ⟨target, other, led, shown, order⟩

end Kept

theorem kept_empty (limits : Limits) (clock : ℤ) : Kept limits (System.initial clock : System Value) where
  bounded := Nat.zero_le _
  named := fun _ _ stored => nomatch stored
  known := fun _ _ stored => nomatch stored
  past := fun _ _ stored => nomatch stored
  stored := fun _ member => nomatch member
  indexed := fun _ _ listed => nomatch listed
  led := fun _ _ stored => nomatch stored

theorem step_kept {label : ℤ × Call Value} {after : System Value} (positive : 1 ≤ limits.maxEntries)
    (kept : Kept limits before) (move : step limits before label after) (tidy : isTidy limits before label = true) :
    Kept limits after ∧ Answers limits before label := by
  obtain ⟨now, call⟩ := label
  unfold step System.next at move
  split at move
  · rename_i le
    cases move
    cases call with
    | findDuplicate provider key hash => exact kept.find le tidy
    | recordCallback provider key hash =>
      obtain ⟨evicts, replaces⟩ := Bool.and_eq_true_iff.mp tidy
      exact ⟨kept.record le positive evicts replaces, trivial⟩
    | markProcessed provider key statusCode body => exact ⟨kept.mark le statusCode body, trivial⟩
    | clear => exact ⟨kept_empty limits now, trivial⟩
  · cases move

/-- In every run of such calls the store is consistent and every call is answered right. -/
theorem store_consistent (limits : Limits) (positive : 1 ≤ limits.maxEntries) (clock : ℤ)
    {trace : List (ℤ × Call Value)} {last : System Value} (run : Run (step limits) (.initial clock) trace last)
    (every : Throughout (step limits) (.initial clock) (fun before label _ => isTidy limits before label = true) trace) :
    Consistent limits last.store ∧
      Throughout (step limits) (.initial clock) (fun before label _ => Answers limits before label) trace := by
  have kept_along {trace : List (ℤ × Call Value)} {last : System Value}
      (run : Run (step limits) (.initial clock) trace last)
      (every : Throughout (step limits) (.initial clock) (fun before label _ => isTidy limits before label = true)
        trace) : Kept limits last := by
    apply run.kept every (Kept limits) (kept_empty limits clock)
    intro before label after kept move tidy
    exact (step_kept positive kept move tidy).1
  refine ⟨(kept_along run every).consistent, ?_⟩
  intro earlier label rest before after split reached move
  have tidy := every earlier label rest before after split reached move
  rw [split] at every
  exact (step_kept positive (kept_along reached every.before) move tidy).2

/-- A callback is recorded, found again by its payload and marked, and another provider's takes its place. -/
def busy : List (ℤ × Call Unit) :=
  [(0, .recordCallback "mtn" "tx-1" "a"), (1, .findDuplicate "mtn" "tx-2" "a"),
    (2, .markProcessed "mtn" "tx-1" 200 none), (20, .recordCallback "mtn" "tx-1" "a"),
    (21, .findDuplicate "airtel" "tx-1" "a")]

theorem store_consistent_busy : ∃ last : System Unit,
    Run (step ⟨10, 1⟩) (.initial 0) busy last ∧ Consistent ⟨10, 1⟩ last.store ∧
      Throughout (step ⟨10, 1⟩) (.initial 0) (fun before label _ => Answers ⟨10, 1⟩ before label) busy := by
  have followed : (busy.foldlM (System.next ⟨10, 1⟩) (.initial 0)).isSome = true := by decide
  obtain ⟨last, reached⟩ := Option.isSome_iff_exists.mp followed
  have run : Run (step ⟨10, 1⟩) (.initial 0) busy last := Run.follow reached
  exact ⟨last, run, store_consistent ⟨10, 1⟩ (Nat.le_refl 1) 0 run (throughout_follow (by decide))⟩

/-- A full store looks up the hash of the record that goes under the provider of the one that comes. -/
theorem index_leaks : ¬∀ (limits : Limits) (clock : ℤ) (trace : List (ℤ × Call Unit)) (last : System Unit),
    1 ≤ limits.maxEntries → Run (step limits) (.initial clock) trace last → Consistent limits last.store ∧
        Throughout (step limits) (.initial clock) (fun before label _ => Answers limits before label) trace := by
  intro holds
  let trace : List (ℤ × Call Unit) := [(0, .recordCallback "mtn" "tx-1" "a"), (1, .recordCallback "airtel" "tx-2" "b")]
  obtain ⟨last, reached, leads, gone⟩ : ∃ last : System Unit,
      trace.foldlM (System.next ⟨10, 1⟩) (.initial 0) = some last ∧
        last.store.hashIndex.get? "mtn:a" = some "mtn:tx-1" ∧ last.store.records.get? "mtn:tx-1" = none :=
    ⟨_, rfl, by decide, by decide⟩
  obtain ⟨record, stored, _⟩ := (holds ⟨10, 1⟩ 0 trace last (Nat.le_refl 1) (Run.follow reached)).1.indexed _ _ leads
  cases gone.symm.trans stored

end ProxyPay.Callbacks.Store
