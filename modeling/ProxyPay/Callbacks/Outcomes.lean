import ProxyPay.Callbacks.Middleware
import ProxyPay.Library.Json

/-! Which callbacks are handed to their handlers, within the limits of the store: exactly those of which
neither the key nor the payload has been seen, whatever became of the earlier ones. -/

namespace ProxyPay.Callbacks

open ProxyPay.Library

variable {Value : Type}

section Properties

variable (values : Values Value)

def keyOf (callback : Callback Value) : String :=
  extractCallbackIdempotencyKey values callback

def SameKey (first second : Callback Value) : Prop :=
  first.provider = second.provider ∧ keyOf values first = keyOf values second

def SameText (first second : Callback Value) : Prop :=
  first.provider = second.provider ∧ values.payloadText first.body = values.payloadText second.body

def SameBody (first second : Callback Value) : Prop :=
  first.provider = second.provider ∧ first.body = second.body

/-- The provider sends a callback again. -/
def Resent (first second : Callback Value) : Prop :=
  SameKey values first second ∧ first.body = second.body

def Handed.succeeded (handed : Handed Value) : Prop :=
  ∃ ending, handed.ending = some ending ∧ ending.succeeded = true

/-- The handler has ended without a 2xx answer. -/
def Handed.failed (handed : Handed Value) : Prop :=
  ∃ ending, handed.ending = some ending ∧ ending.succeeded = false

/-- The callback will be handed to the handler. -/
def Service.admits (limits : Limits) (service : Service Value) (callback : Callback Value) (now : ℕ) : Prop :=
  (service.lookup values limits callback now).1 = none

/-- What should happen to a callback that arrives: a succeeded one is not handed on again, a failed one is,
and only a callback with the key or the body keeps another one from its handler. -/
structure Treated (limits : Limits) (service : Service Value) (callback : Callback Value) (now : ℕ) : Prop where
  once : service.admits values limits callback now → ∀ handed ∈ service.handed, handed.succeeded →
    ¬SameKey values handed.callback callback ∧ ¬SameBody handed.callback callback
  again : ∀ handed ∈ service.handed, handed.failed → Resent values handed.callback callback →
    service.admits values limits callback now
  apart : ¬service.admits values limits callback now →
    ∃ handed ∈ service.handed, SameKey values handed.callback callback ∨ SameBody handed.callback callback

def Right (limits : Limits) (service : Service Value) : Label Value → Prop
  | .arrive callback now => Treated values limits service callback now
  | .finish _ _ => True

/-- No failed callback is sent again, and no other body has the text of this one. -/
def Unaffected (service : Service Value) : Label Value → Prop
  | .arrive callback _ =>
    (∀ handed ∈ service.handed, handed.failed → ¬Resent values handed.callback callback) ∧
      ((∃ handed ∈ service.handed, SameText values handed.callback callback) →
        ∃ handed ∈ service.handed, SameKey values handed.callback callback ∨ SameBody handed.callback callback)
  | .finish _ _ => True

/-- The store has room, and no record has expired. -/
def Within (limits : Limits) (service : Service Value) : Label Value → Prop
  | .arrive _ now => service.store.records.entries.length < limits.maxEntries ∧
      ∀ entry ∈ service.store.records.entries, CallbackIdempotencyStore.expired limits now entry.2 = false
  | .finish _ _ => True

/-- Different payloads have different hashes. -/
def CollisionFree (service : Service Value) : Label Value → Prop
  | .arrive callback _ => ∀ handed ∈ service.handed,
      values.hashPayload handed.callback.body = values.hashPayload callback.body →
        values.payloadText handed.callback.body = values.payloadText callback.body
  | .finish _ _ => True

section Decidable

variable [DecidableEq Value]

instance (first second : Callback Value) : Decidable (SameKey values first second) :=
  inferInstanceAs (Decidable (_ ∧ _))

instance (first second : Callback Value) : Decidable (SameText values first second) :=
  inferInstanceAs (Decidable (_ ∧ _))

instance (first second : Callback Value) : Decidable (SameBody first second) :=
  inferInstanceAs (Decidable (_ ∧ _))

instance (first second : Callback Value) : Decidable (Resent values first second) :=
  inferInstanceAs (Decidable (_ ∧ _))

instance (handed : Handed Value) : Decidable handed.failed :=
  decidable_of_iff (handed.ending.any (fun ending => !ending.succeeded) = true) (by
    simp [Handed.failed, Option.any_eq_true])

instance (service : Service Value) : DecidablePred (Unaffected values service)
  | .arrive _ _ => inferInstanceAs (Decidable (_ ∧ _))
  | .finish _ _ => .isTrue trivial

instance (limits : Limits) (service : Service Value) : DecidablePred (Within limits service)
  | .arrive _ _ => inferInstanceAs (Decidable (_ ∧ _))
  | .finish _ _ => .isTrue trivial

instance (service : Service Value) : DecidablePred (CollisionFree values service)
  | .arrive _ _ => inferInstanceAs (Decidable (∀ handed ∈ service.handed, _ → _))
  | .finish _ _ => .isTrue trivial

end Decidable

end Properties

theorem fullKey_ne_empty (provider : Provider) (key : String) : fullKey provider key ≠ "" := by
  intro same
  have chars := congrArg String.toList same
  cases provider <;> simp [fullKey, Provider.name] at chars

theorem fullKey_inj {first second : Provider} {key other : String} :
    fullKey first key = fullKey second other ↔ first = second ∧ key = other := by
  constructor
  · intro same
    have chars := congrArg String.toList same
    cases first <;> cases second <;>
      simp [fullKey, Provider.name] at chars ⊢ <;> exact String.toList_inj.mp chars
  · rintro ⟨rfl, rfl⟩
    rfl

/-- The store has a record and a hash of every callback that was handed on, and nothing else. -/
structure Recorded (values : Values Value) (service : Service Value) : Prop where
  recorded : ∀ handed ∈ service.handed,
    (service.store.records.get? (fullKey handed.callback.provider (keyOf values handed.callback))).isSome = true
  indexed : ∀ handed ∈ service.handed,
    service.store.hashIndex.get? (fullKey handed.callback.provider (values.hashPayload handed.callback.body)) =
      some (fullKey handed.callback.provider (keyOf values handed.callback))
  known : ∀ key, (service.store.records.get? key).isSome = true →
    ∃ handed ∈ service.handed, key = fullKey handed.callback.provider (keyOf values handed.callback)
  listed : ∀ name key, service.store.hashIndex.get? name = some key →
    ∃ handed ∈ service.handed, name = fullKey handed.callback.provider (values.hashPayload handed.callback.body)

section Store

variable {values : Values Value} {limits : Limits} {service after : Service Value} {callback : Callback Value} {now : ℕ}

/-- The key or the hash of the callback is that of an earlier one. -/
def Seen (values : Values Value) (service : Service Value) (callback : Callback Value) : Prop :=
  ∃ handed ∈ service.handed, SameKey values handed.callback callback ∨
    handed.callback.provider = callback.provider ∧
      values.hashPayload handed.callback.body = values.hashPayload callback.body

section

variable (recorded : Recorded values service) (within : Within limits service (.arrive callback now))

include recorded within

theorem lookup_within : (service.lookup values limits callback now).2 = service.store ∧
      (service.admits values limits callback now ↔ ¬Seen values service callback) := by
  have lives : ∀ key record, service.store.records.get? key = some record →
      CallbackIdempotencyStore.expired limits now record = false := by
    intro key record found
    exact within.2 (key, record) (InsertionMap.mem_entries.mpr found)
  unfold Service.admits Service.lookup CallbackIdempotencyStore.findDuplicate
  cases byKey : service.store.records.get? (fullKey callback.provider (extractCallbackIdempotencyKey values callback)) with
  | some record =>
    simp only [lives _ record byKey, Bool.false_eq_true, if_false, reduceCtorEq, false_iff, not_not, true_and]
    obtain ⟨handed, member, same⟩ := recorded.known _ (by rw [byKey]; rfl)
    obtain ⟨provider, key⟩ := (fullKey_inj).mp same
    exact ⟨handed, member, .inl ⟨provider.symm, key.symm⟩⟩
  | none =>
    refine ⟨rfl, ?_⟩
    have unkeyed : ∀ handed ∈ service.handed, ¬SameKey values handed.callback callback := by
      rintro handed member ⟨provider, key⟩
      have found := recorded.recorded handed member
      rw [provider, key, keyOf, byKey] at found
      cases found
    unfold CallbackIdempotencyStore.byHash
    cases byHash : service.store.hashIndex.get? (fullKey callback.provider (values.hashPayload callback.body)) with
    | none =>
      simp only [Text.truthy, Option.filter_none, true_iff]
      rintro ⟨handed, member, key | ⟨provider, hash⟩⟩
      · exact unkeyed handed member key
      · have found := recorded.indexed handed member
        rw [provider, hash] at found
        cases found.symm.trans byHash
    | some key =>
      obtain ⟨handed, member, same⟩ := recorded.listed _ key byHash
      obtain ⟨provider, hash⟩ := (fullKey_inj).mp same
      have indexed := recorded.indexed handed member
      rw [← provider, ← hash, byHash] at indexed
      cases indexed
      obtain ⟨record, found⟩ := Option.isSome_iff_exists.mp (recorded.recorded handed member)
      rw [← provider] at found
      have truthy : Text.truthy (some (fullKey callback.provider (keyOf values handed.callback))) =
          some (fullKey callback.provider (keyOf values handed.callback)) :=
        Text.truthy_eq_some.mpr ⟨rfl, fullKey_ne_empty _ _⟩
      rw [truthy]
      simp only [found, Option.filter_some, lives _ record found, Bool.not_false, if_true, reduceCtorEq, false_iff,
        not_not]
      exact ⟨handed, member, .inr ⟨provider.symm, hash.symm⟩⟩

theorem Recorded.arrive : Recorded values (service.callbackIdempotency values limits callback now) := by
  obtain ⟨same, admitted⟩ := lookup_within recorded within
  unfold Service.admits at admitted
  unfold Service.callbackIdempotency
  generalize service.lookup values limits callback now = result at same admitted ⊢
  obtain ⟨found, store⟩ := result
  obtain rfl : store = service.store := same
  cases found with
  | some record => exact ⟨recorded.recorded, recorded.indexed, recorded.known, recorded.listed⟩
  | none =>
    have unseen := admitted.mp rfl
    have room : service.store.evict limits callback.provider = service.store :=
      if_neg (Nat.not_le_of_lt within.1)
    simp only [CallbackIdempotencyStore.recordCallback, room]
    have apart : ∀ handed ∈ service.handed,
        fullKey callback.provider (keyOf values callback) ≠
          fullKey handed.callback.provider (keyOf values handed.callback) ∧
        fullKey callback.provider (values.hashPayload callback.body) ≠
          fullKey handed.callback.provider (values.hashPayload handed.callback.body) := by
      intro handed member
      constructor
      · intro equal
        obtain ⟨provider, key⟩ := (fullKey_inj).mp equal
        exact unseen ⟨handed, member, .inl ⟨provider.symm, key.symm⟩⟩
      · intro equal
        obtain ⟨provider, hash⟩ := (fullKey_inj).mp equal
        exact unseen ⟨handed, member, .inr ⟨provider.symm, hash.symm⟩⟩
    have new : (⟨callback, none⟩ : Handed Value) ∈ service.handed ++ [⟨callback, none⟩] := by simp
    constructor
    · intro handed member
      rw [InsertionMap.get?_set]
      rcases List.mem_append.mp member with earlier | added
      · refine (congrArg Option.isSome (if_neg ?_)).trans (recorded.recorded handed earlier)
        exact (apart handed earlier).1
      · obtain rfl := List.mem_singleton.mp added
        exact congrArg Option.isSome (if_pos rfl)
    · intro handed member
      rw [InsertionMap.get?_set]
      rcases List.mem_append.mp member with earlier | added
      · refine (if_neg ?_).trans (recorded.indexed handed earlier)
        exact (apart handed earlier).2
      · obtain rfl := List.mem_singleton.mp added
        exact if_pos rfl
    · intro key lookup
      rw [InsertionMap.get?_set] at lookup
      split at lookup
      · rename_i own
        exact ⟨_, new, own.symm⟩
      · obtain ⟨handed, member, known⟩ := recorded.known key lookup
        exact ⟨handed, List.mem_append_left _ member, known⟩
    · intro name key lookup
      rw [InsertionMap.get?_set] at lookup
      split at lookup
      · simp_all
      · obtain ⟨handed, member, known⟩ := recorded.listed name key lookup
        exact ⟨handed, List.mem_append_left _ member, known⟩

end

variable (store : CallbackIdempotencyStore Value)

theorem markProcessed_hashIndex (provider : Provider) (key : String)
    (statusCode : ℕ) (body : Option Value) :
    (store.markProcessed provider key statusCode body).hashIndex = store.hashIndex := by
  unfold CallbackIdempotencyStore.markProcessed
  cases store.records.get? (fullKey provider key) <;> rfl

theorem markProcessed_get? (provider : Provider) (key name : String)
    (statusCode : ℕ) (body : Option Value) :
    ((store.markProcessed provider key statusCode body).records.get? name).isSome = true ↔
      (store.records.get? name).isSome = true := by
  unfold CallbackIdempotencyStore.markProcessed
  cases found : store.records.get? (fullKey provider key) with
  | none => exact Iff.rfl
  | some record => grind

section

variable (recorded : Recorded values service)

include recorded

theorem Recorded.congr (index : after.store.hashIndex = service.store.hashIndex)
    (keys : ∀ name, (after.store.records.get? name).isSome = true ↔ (service.store.records.get? name).isSome = true)
    (callbacks : after.handed.map Handed.callback = service.handed.map Handed.callback) : Recorded values after := by
  have earlier : ∀ handed ∈ after.handed, ∃ other ∈ service.handed, other.callback = handed.callback := by
    intro handed member
    exact List.mem_map.mp (callbacks ▸ List.mem_map_of_mem member)
  have later : ∀ handed ∈ service.handed, ∃ other ∈ after.handed, other.callback = handed.callback := by
    intro handed member
    exact List.mem_map.mp (callbacks.symm ▸ List.mem_map_of_mem member)
  constructor
  · intro handed member
    obtain ⟨other, there, same⟩ := earlier handed member
    exact (keys _).mpr (same ▸ recorded.recorded other there)
  · intro handed member
    obtain ⟨other, there, same⟩ := earlier handed member
    exact index ▸ same ▸ recorded.indexed other there
  · intro key found
    obtain ⟨handed, member, known⟩ := recorded.known key ((keys key).mp found)
    obtain ⟨other, there, same⟩ := later handed member
    exact ⟨other, there, same ▸ known⟩
  · intro name key found
    obtain ⟨handed, member, known⟩ := recorded.listed name key (index ▸ found)
    obtain ⟨other, there, same⟩ := later handed member
    exact ⟨other, there, same ▸ known⟩

theorem Recorded.finish {index : ℕ} {ending : Ending Value} (moved : service.finish values index ending = some after) : Recorded values after := by
  obtain ⟨handed, located, moved⟩ := Option.bind_eq_some_iff.mp moved
  simp only [Option.pure_def] at moved
  split at moved
  · cases moved
  · cases moved
    have callbacks : (service.handed.set index { handed with ending := some ending }).map Handed.callback =
        service.handed.map Handed.callback := by
      have own : (service.handed.map Handed.callback)[index]? = some handed.callback := by simp_all
      obtain ⟨bound, own⟩ := List.getElem?_eq_some_iff.mp own
      rw [List.map_set, ← own, List.set_getElem_self]
    split
    · exact recorded.congr (markProcessed_hashIndex ..) (fun name => markProcessed_get? _ _ _ name _ _) callbacks
    · exact recorded.congr rfl (fun _ => Iff.rfl) callbacks

theorem treated_iff (within : Within limits service (.arrive callback now))
    (free : CollisionFree values service (.arrive callback now)) :
    Treated values limits service callback now ↔ Unaffected values service (.arrive callback now) := by
  have admitted := (lookup_within recorded within).2
  constructor
  · intro treated
    constructor
    · intro handed member failed resent
      exact admitted.mp (treated.again handed member failed resent) ⟨handed, member, .inl resent.1⟩
    · rintro ⟨handed, member, provider, text⟩
      have hash : values.hashPayload handed.callback.body = values.hashPayload callback.body :=
        congrArg values.sha256 text
      apply treated.apart
      intro admits
      exact admitted.mp admits ⟨handed, member, .inr ⟨provider, hash⟩⟩
  · rintro ⟨unfailed, textual⟩
    constructor
    · intro admits handed member _
      have unseen := admitted.mp admits
      constructor
      · intro key
        exact unseen ⟨handed, member, .inl key⟩
      · rintro ⟨provider, body⟩
        exact unseen ⟨handed, member, .inr ⟨provider, congrArg values.hashPayload body⟩⟩
    · simp_all
    · intro refused
      obtain ⟨handed, member, key | ⟨provider, hash⟩⟩ := not_not.mp (fun unseen => refused (admitted.mpr unseen))
      · exact ⟨handed, member, .inl key⟩
      · exact textual ⟨handed, member, provider, free handed member hash⟩

theorem Recorded.step {label : Label Value} (within : Within limits service label)
    (move : step values limits service label after) : Recorded values after := by
  cases label with
  | arrive callback now =>
    cases move
    exact recorded.arrive within
  | finish index ending => exact recorded.finish move

end

end Store

theorem recorded_initial (values : Values Value) : Recorded values .initial := by
  constructor
  · intro handed member
    cases member
  · intro handed member
    cases member
  · intro key found
    cases found
  · intro name key found
    cases found

/-- Along every run within the limits of the store, the callbacks are treated as they should be exactly if
they are unaffected. -/
theorem treated_throughout {values : Values Value} {limits : Limits} {trace : List (Label Value)}
    (within : Throughout (step values limits) .initial (fun before label _ => Within limits before label) trace)
    (free : Throughout (step values limits) .initial (fun before label _ => CollisionFree values before label) trace) :
    Throughout (step values limits) .initial (fun before label _ => Right values limits before label) trace ↔
      Throughout (step values limits) .initial (fun before label _ => Unaffected values before label) trace := by
  have known : ∀ earlier rest middle, trace = earlier ++ rest → Run (step values limits) .initial earlier middle →
      Recorded values middle := by
    intro earlier rest middle split run
    induction run generalizing rest with
    | start => exact recorded_initial values
    | @next earlier before after label earlierRun move ih =>
      have whole : trace = earlier ++ label :: rest := by rw [split, List.append_assoc]; rfl
      exact (ih _ whole).step (within earlier label rest before after whole earlierRun move) move
  have same : ∀ earlier label rest before after, trace = earlier ++ label :: rest →
      Run (step values limits) .initial earlier before → step values limits before label after →
        (Right values limits before label ↔ Unaffected values before label) := by
    intro earlier label rest before after split run move
    cases label with
    | arrive callback now =>
      exact treated_iff (known earlier _ before split run) (within earlier _ rest before after split run move)
        (free earlier _ rest before after split run move)
    | finish index ending => exact Iff.rfl
  constructor
  · intro right earlier label rest before after split run move
    exact (same earlier label rest before after split run move).mp (right earlier label rest before after split run move)
  · intro unaffected earlier label rest before after split run move
    exact (same earlier label rest before after split run move).mpr
      (unaffected earlier label rest before after split run move)

/-- Bodies that are flat objects or texts. -/
inductive Datum where
  | undefined
  | text (text : String)
  | object (members : List (String × String))
  deriving DecidableEq

def Datum.stringify : Datum → String
  | .undefined => "\x7b\x7d"
  | .text value => String.ofList (Json.writeText value)
  | .object members =>
    String.ofList (Json.writeObject (members.map fun member => (member.1, Json.writeText member.2)))

/-- The values, with the hash of the payload below. -/
def Values.sample : Values Datum where
  sha256 text :=
    if text = "\x7b\"transactionId\":\"tx-1\",\"status\":\"SUCCESSFUL\"\x7d" then
      "0e3a2431b161eafaafae11b3072c821297c6603fdb3a7b292b730547aa7f0047"
    else ""
  stringify := Datum.stringify
  text?
    | .text text => some text
    | _ => none
  truthy
    | .undefined => false
    | .text text => text ≠ ""
    | .object _ => true
  isObject
    | .object _ => true
    | _ => false
  member value name :=
    match value with
    | .object members => ((members.find? (·.1 = name)).map fun member => .text member.2).getD .undefined
    | _ => .undefined

/-- The limits of the store that the application shares. -/
def Limits.default : Limits := ⟨24 * 60 * 60 * 1000, 10000⟩

def paid : Callback Datum :=
  ⟨.mtn, ⟨none, none, none, none, none⟩, .object [("transactionId", "tx-1"), ("status", "SUCCESSFUL")]⟩

/-- The callback arrives, its handler ends, and the provider sends it again a minute later. -/
def repeated (ending : Ending Datum) : List (Label Datum) :=
  [.arrive paid 0, .finish 0 ending, .arrive paid 60000]

theorem processed_once : (∃ service, Run (step .sample .default) .initial
      (repeated (.answered 200 (some (some (.object [("status", "ok")]))))) service) ∧
    Throughout (step .sample .default) .initial (fun before label _ => Right .sample .default before label)
      (repeated (.answered 200 (some (some (.object [("status", "ok")]))))) := by
  constructor
  · obtain ⟨service, followed⟩ := Option.isSome_iff_exists.mp
      (show ((repeated (.answered 200 (some (some (.object [("status", "ok")]))))).foldlM
        (Service.perform .sample .default) Service.initial).isSome = true by decide)
    exact ⟨service, Run.follow followed⟩
  · apply (treated_throughout _ _).mpr
    · exact throughout_decide (by decide)
    · exact throughout_decide (by decide)
    · exact throughout_decide (by decide)

/-- The callback whose handler answers with an error is dropped when it comes again. -/
theorem failed_callback_lost : ¬∀ trace : List (Label Datum),
    Throughout (step .sample .default) .initial (fun before label _ => Within .default before label) trace →
    Throughout (step .sample .default) .initial (fun before label _ => CollisionFree .sample before label) trace →
      Throughout (step .sample .default) .initial (fun before label _ => Right .sample .default before label) trace := by
  intro always
  obtain ⟨before, followed, lost⟩ := Option.map_eq_some_iff.mp
    (show (([.arrive paid 0, .finish 0 (.answered 500 (some none))] : List (Label Datum)).foldlM
      (Service.perform .sample .default) Service.initial).map
        (fun service => (service.handed, (service.lookup .sample .default paid 60000).1.isNone)) =
          some ([⟨paid, some (.answered 500 (some none))⟩], false) by decide)
  obtain ⟨handed, refused⟩ := Prod.mk.inj lost
  have treated := always (repeated (.answered 500 (some none))) (throughout_decide (by decide))
    (throughout_decide (by decide)) [.arrive paid 0, .finish 0 (.answered 500 (some none))] (.arrive paid 60000) []
    before _ rfl (Run.follow followed) rfl
  have admitted : before.admits .sample .default paid 60000 := by
    apply treated.again ⟨paid, some (.answered 500 (some none))⟩
    · simp [handed]
    · exact ⟨_, rfl, rfl⟩
    · exact ⟨⟨rfl, rfl⟩, rfl⟩
  rw [Service.admits] at admitted
  rw [admitted] at refused
  cases refused

end ProxyPay.Callbacks
