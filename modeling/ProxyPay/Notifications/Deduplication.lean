import ProxyPay.Library.InsertionMap

/-! Keys of notification events and of emails, and what is suppressed by them. -/

namespace ProxyPay.Notifications

open Library

/-- A part of a key. -/
inductive Part where
  | string (value : String)
  | undefined
  | null
  deriving DecidableEq

/-- `part || ""` -/
def Part.text : Part → List Char
  | string value => value.toList
  | undefined | null => []

section Texts

variable {first second : List (List Char)}

/-- What is left of texts that are cut at every separator. -/
def pieces (texts : List (List Char)) : List (List Char) := texts.flatMap (·.splitOn '|')

section

variable (some_text : first ≠ [])

include some_text

theorem splitOn_join : (['|'].intercalate first).splitOn '|' = pieces first := by
  induction first with
  | nil => exact absurd rfl some_text
  | cons text rest ih =>
    cases rest with
    | nil => simp [pieces]
    | cons next rest =>
      rw [List.intercalate_cons_cons, List.append_assoc, List.singleton_append, List.splitOn_append_cons_self,
        ih (List.cons_ne_nil _ _)]
      rfl

theorem join_eq_iff (also : second ≠ []) :
    ['|'].intercalate first = ['|'].intercalate second ↔ pieces first = pieces second := by
  rw [← splitOn_join some_text, ← splitOn_join also]
  constructor
  · exact fun same => by rw [same]
  · intro same
    exact (List.intercalate_splitOn '|').symm.trans
      ((congrArg ['|'].intercalate same).trans (List.intercalate_splitOn '|'))

theorem pieces_ne_nil : pieces first ≠ [] := by
  obtain ⟨text, rest, rfl⟩ := List.exists_cons_of_ne_nil some_text
  simp [pieces, List.splitOn_ne_nil]

theorem join_ne_nil (filled : ∀ text ∈ first, text ≠ []) : ['|'].intercalate first ≠ [] := by
  obtain ⟨text, rest, rfl⟩ := List.exists_cons_of_ne_nil some_text
  cases rest with
  | nil => simpa using filled
  | cons next rest => simp [List.intercalate_cons_cons]

end

theorem join_filled_iff (filled : ∀ text ∈ first, text ≠ []) (also : ∀ text ∈ second, text ≠ []) :
    ['|'].intercalate first = ['|'].intercalate second ↔ pieces first = pieces second := by
  by_cases none_left : first = []
  · by_cases none_right : second = []
    · simp [none_left, none_right]
    · subst none_left
      exact iff_of_false (join_ne_nil none_right also).symm (pieces_ne_nil none_right).symm
  · by_cases none_right : second = []
    · subst none_right
      exact iff_of_false (join_ne_nil none_left filled) (pieces_ne_nil none_left)
    · exact join_eq_iff none_left none_right

end Texts

/-! The two keys. -/

section Keys

/-- `parts.filter(Boolean)` -/
def present (parts : List Part) : List (List Char) := (parts.map Part.text).filter (· ≠ [])

variable {Digest : Type*} (digest : List Char → Digest)

/-- `hashDedupParts(parts)`, by the truncated digest. -/
def hashDedupParts (parts : List Part) : Digest := digest (['|'].intercalate (present parts))

/-- What an email is deduplicated by. -/
structure EmailContext where
  email_type : String
  recipient_email : String
  related_entity_type : Part
  related_entity_id : Part

variable (toLowerCase : String → String)

variable (context : EmailContext)

/-- The texts that are joined. -/
def EmailContext.texts : List (List Char) :=
  [context.email_type.toList, (toLowerCase context.recipient_email).toList, context.related_entity_type.text,
    context.related_entity_id.text]

def generateDedupKey : Digest := digest (['|'].intercalate (context.texts toLowerCase))

/-- The same context, up to the letter case of the recipient. -/
def EmailContext.Same (context other : EmailContext) : Prop :=
  context.email_type = other.email_type ∧ toLowerCase context.recipient_email = toLowerCase other.recipient_email ∧
    context.related_entity_type = other.related_entity_type ∧ context.related_entity_id = other.related_entity_id

variable {digest}

theorem hashDedupParts_eq_iff (injective : Function.Injective digest) (parts other : List Part) :
    hashDedupParts digest parts = hashDedupParts digest other ↔ pieces (present parts) = pieces (present other) := by
  have filled (parts : List Part) : ∀ text ∈ present parts, text ≠ [] := fun text member =>
    of_decide_eq_true (List.mem_filter.mp member).2
  rw [hashDedupParts, hashDedupParts, injective.eq_iff, join_filled_iff (filled parts) (filled other)]

theorem generateDedupKey_eq_iff (injective : Function.Injective digest) (context other : EmailContext) :
    generateDedupKey digest toLowerCase context = generateDedupKey digest toLowerCase other ↔
      pieces (context.texts toLowerCase) = pieces (other.texts toLowerCase) := by
  rw [generateDedupKey, generateDedupKey, injective.eq_iff, join_eq_iff (by simp [EmailContext.texts]) (by simp [EmailContext.texts])]

end Keys

/-! Claims and emails. -/

/-- Where claims are stored: the expiry of the keys in Redis, and of those in the process. -/
structure Stores (Key : Type*) where
  redis : Key → Option ℕ
  memory : InsertionMap Key ℕ

/-- What `redisClient.set(key, "1", { NX, PX })` comes to; a failing one may have stored the key. -/
inductive Redis where
  | closed
  | answers
  | fails (stored : Bool)

section Claims

variable {Key : Type*} [DecidableEq Key]

/-- `InMemoryDeduplicator.tryAcquire(key)` -/
def tryAcquire (ttlMs now : ℕ) (memory : InsertionMap Key ℕ) (key : Key) : Bool × InsertionMap Key ℕ :=
  let memory := if 10000 ≤ memory.entries.length then
    ((memory.entries.filter fun entry => entry.2 ≤ now).map Prod.fst).foldl InsertionMap.erase memory else memory
  if (memory.get? key).any (now < ·) then (false, memory) else (true, memory.set key (now + ttlMs))

/-- `SET NX PX`; the answer is whether the key was set. -/
def setNx (ttlMs now : ℕ) (redis : Key → Option ℕ) (key : Key) : Bool × (Key → Option ℕ) :=
  if (redis key).any (now < ·) then (false, redis) else (true, Function.update redis key (some (now + ttlMs)))

/-- `NotificationDeduplicator.claim(key)` -/
def claim (ttlMs now : ℕ) (outcome : Redis) (stores : Stores Key) (key : Key) : Bool × Stores Key :=
  let (set, redis) := setNx ttlMs now stores.redis key
  let (acquired, memory) := tryAcquire ttlMs now stores.memory key
  match outcome with
  | .answers => (set, { stores with redis })
  | .closed => (acquired, { stores with memory })
  | .fails stored => (acquired, ⟨if stored then redis else stores.redis, memory⟩)

/-- The keys of which one is stored were accepted. -/
def Stores.Accepted (stores : Stores Key) (accepted : List Key) : Prop :=
  ∀ key, (stores.redis key).isSome ∨ (stores.memory.get? key).isSome → key ∈ accepted

section Steps

variable {stores : Stores Key} {accepted : List Key} {memory : InsertionMap Key ℕ} {redis : Key → Option ℕ}
  {ttlMs now : ℕ} {key other : Key}

theorem tryAcquire_refused (refused : (tryAcquire ttlMs now memory key).1 = false) : (memory.get? key).isSome = true := by
  cases found : memory.get? key with
  | some expiresAt => rfl
  | none =>
    have gone (keys : List Key) : (keys.foldl InsertionMap.erase memory).get? key = none := by
      simp [InsertionMap.get?_eraseAll, found]
    simp only [tryAcquire] at refused
    split at refused
    · simp [gone] at refused
    · simp [found] at refused

theorem tryAcquire_stored (stored : ((tryAcquire ttlMs now memory key).2.get? other).isSome = true) :
    (memory.get? other).isSome = true ∨ other = key ∧ (tryAcquire ttlMs now memory key).1 = true := by
  simp only [tryAcquire] at stored ⊢
  grind

theorem setNx_refused (refused : (setNx ttlMs now redis key).1 = false) : (redis key).isSome = true := by
  unfold setNx at refused
  cases found : redis key with
  | none => simp [found] at refused
  | some expiresAt => rfl

theorem setNx_stored (stored : ((setNx ttlMs now redis key).2 other).isSome = true) :
    (redis other).isSome = true ∨ other = key := by
  by_cases same : other = key
  · exact .inr same
  · unfold setNx at stored
    split at stored
    · exact .inl stored
    · exact .inl (by simpa [same] using stored)

theorem Stores.Accepted.claim (held : stores.Accepted accepted) (outcome : Redis) :
    ((claim ttlMs now outcome stores key).1 = false → key ∈ accepted) ∧ (claim ttlMs now outcome stores key).2.Accepted
        (if (claim ttlMs now outcome stores key).1 then key :: accepted else accepted) := by
  have memory_refused : (tryAcquire ttlMs now stores.memory key).1 = false → key ∈ accepted :=
    fun refused => held key (.inr (tryAcquire_refused refused))
  have redis_refused : (setNx ttlMs now stores.redis key).1 = false → key ∈ accepted :=
    fun refused => held key (.inl (setNx_refused refused))
  have grown {answer : Bool} (refused : answer = false → key ∈ accepted) (other : Key)
      (known : other ∈ accepted ∨ other = key) : other ∈ if answer then key :: accepted else accepted := by
    cases answer with
    | true => exact List.mem_cons.mpr known.symm
    | false => exact known.elim id fun same => same ▸ refused rfl
  have memory_known (other : Key) (stored : ((tryAcquire ttlMs now stores.memory key).2.get? other).isSome = true) :
      other ∈ accepted ∨ other = key :=
    (tryAcquire_stored stored).imp (fun before => held other (.inr before)) And.left
  have redis_known (other : Key) (stored : ((setNx ttlMs now stores.redis key).2 other).isSome = true) :
      other ∈ accepted ∨ other = key :=
    (setNx_stored stored).imp_left fun before => held other (.inl before)
  cases outcome with
  | answers =>
    refine ⟨redis_refused, fun other stored => grown redis_refused other ?_⟩
    exact stored.elim (redis_known other) fun before => .inl (held other (.inr before))
  | closed =>
    refine ⟨memory_refused, fun other stored => grown memory_refused other ?_⟩
    exact stored.elim (fun before => .inl (held other (.inl before))) (memory_known other)
  | fails written =>
    refine ⟨memory_refused, fun other stored => grown memory_refused other ?_⟩
    rcases stored with in_redis | in_memory
    · cases written with
      | true => exact redis_known other in_redis
      | false => exact .inl (held other (.inl in_redis))
    · exact memory_known other in_memory

end Steps

end Claims

section Suppression

variable {Digest : Type*} [DecidableEq Digest]

/-- Runs of claims, with the events whose notifications were let through. -/
inductive Claimed (digest : List Char → Digest) (ttlMs : ℕ) : Stores Digest → List (List Part) → Prop where
  | start : Claimed digest ttlMs ⟨fun _ => none, .empty⟩ []
  | claim {stores : Stores Digest} {accepted : List (List Part)} (before : Claimed digest ttlMs stores accepted) (now : ℕ)
      (outcome : Redis) (parts : List Part) :
      Claimed digest ttlMs (claim ttlMs now outcome stores (hashDedupParts digest parts)).2
        (if (claim ttlMs now outcome stores (hashDedupParts digest parts)).1 then parts :: accepted else accepted)

variable {digest : List Char → Digest} {ttlMs : ℕ}

theorem Claimed.accepted {stores : Stores Digest} {accepted : List (List Part)}
    (run : Claimed digest ttlMs stores accepted) : stores.Accepted (accepted.map (hashDedupParts digest)) := by
  induction run with
  | start => intro key stored; simp at stored
  | @claim stores accepted _ now outcome parts ih =>
    have after : (Notifications.claim ttlMs now outcome stores (hashDedupParts digest parts)).2.Accepted _ := (ih.claim outcome).2
    split at after
    · rename_i answered
      rw [if_pos answered]
      exact after
    · rename_i answered
      rw [if_neg answered]
      exact after

/-- A row of `email_outbox` that was created for a context. -/
structure OutboxRow (digest : List Char → Digest) (toLowerCase : String → String) where
  context : EmailContext
  dedup_key : Digest
  live : Bool
  keyed : dedup_key = generateDedupKey digest toLowerCase context

/-- Where `create` returns null: an entry with the key is pending, processing or delivered. -/
def alreadyQueued {toLowerCase : String → String} (rows : List (OutboxRow digest toLowerCase)) (dedup_key : Digest) : Bool :=
  rows.any fun row => row.dedup_key = dedup_key && row.live

/-- Keys separate what they are made of exactly if its pieces differ, and where they do, nothing is suppressed because of
something else. -/
theorem deduplicates_iff (injective : Function.Injective digest) (toLowerCase : String → String) (ttlMs : ℕ) :
    (∀ parts other : List Part, (hashDedupParts digest parts = hashDedupParts digest other ↔ parts = other) ↔
      parts = other ∨ pieces (present parts) ≠ pieces (present other)) ∧
    (∀ context other : EmailContext,
      (generateDedupKey digest toLowerCase context = generateDedupKey digest toLowerCase other ↔
        context.Same toLowerCase other) ↔
      context.Same toLowerCase other ∨ pieces (context.texts toLowerCase) ≠ pieces (other.texts toLowerCase)) ∧
    (∀ stores accepted, Claimed digest ttlMs stores accepted → ∀ now outcome parts,
      (∀ earlier ∈ accepted, earlier = parts ∨ pieces (present earlier) ≠ pieces (present parts)) →
      (claim ttlMs now outcome stores (hashDedupParts digest parts)).1 = false → parts ∈ accepted) ∧
    (∀ (rows : List (OutboxRow digest toLowerCase)) (context : EmailContext),
      (∀ row ∈ rows, row.context.Same toLowerCase context ∨
        pieces (row.context.texts toLowerCase) ≠ pieces (context.texts toLowerCase)) →
      alreadyQueued rows (generateDedupKey digest toLowerCase context) = true →
      ∃ row ∈ rows, row.live = true ∧ row.context.Same toLowerCase context) := by
  have same_texts {context other : EmailContext} (same : context.Same toLowerCase other) :
      context.texts toLowerCase = other.texts toLowerCase := by
    obtain ⟨email_type, recipient, entity_type, entity_id⟩ := same
    simp only [EmailContext.texts, email_type, recipient, entity_type, entity_id]
  refine ⟨fun parts other => ?_, fun context other => ?_, fun stores accepted run now outcome parts separate refused => ?_,
    fun rows context separate queued => ?_⟩
  · rw [hashDedupParts_eq_iff injective]
    by_cases same : parts = other
    · simp [same]
    · simp [same]
  · rw [generateDedupKey_eq_iff toLowerCase injective]
    by_cases same : context.Same toLowerCase other
    · simp [same, same_texts same]
    · simp [same]
  · have known := (run.accepted.claim outcome).1 refused
    obtain ⟨earlier, member, key⟩ := List.mem_map.mp known
    rcases separate earlier member with same | differ
    · exact same ▸ member
    · exact absurd ((hashDedupParts_eq_iff injective _ _).mp key) differ
  · obtain ⟨row, member, found⟩ := List.any_eq_true.mp queued
    obtain ⟨key, live⟩ := Bool.and_eq_true_iff.mp found
    have key := of_decide_eq_true key
    rw [row.keyed, generateDedupKey_eq_iff toLowerCase injective] at key
    exact ⟨row, member, live, (separate row member).resolve_right fun differ => differ key⟩

/-- Two events whose parts differ, and one key. -/
theorem joined_events_clash : ¬∀ parts other : List Part, parts ≠ other →
    hashDedupParts (id : List Char → List Char) parts ≠ hashDedupParts id other := by
  intro separate
  exact separate [.string "a|b"] [.string "a", .string "b"] (by decide) (by decide)

theorem plain_events_separate : (hashDedupParts (id : List Char → List Char) [.string "a"] = hashDedupParts id [.string "b"] ↔
    [Part.string "a"] = [Part.string "b"]) ↔
      [Part.string "a"] = [Part.string "b"] ∨ pieces (present [.string "a"]) ≠ pieces (present [.string "b"]) :=
  (deduplicates_iff Function.injective_id id 300000).1 _ _

end Suppression

end ProxyPay.Notifications
