import Mathlib

/-! The sliding window over a sorted set of Redis: how many requests of one identifier are admitted, which are
rejected, and when the next one would be admitted. -/

namespace ProxyPay.RateLimits

structure RateLimitEntry where
  max : ℕ
  windowMs : ℕ

/-! The sorted set of a key, as far as the script uses it. Scores are times in milliseconds. -/

variable {Member : Type} [DecidableEq Member]

structure SortedSet (Member : Type) where
  entries : List (ℕ × Member)
  expiresAt : ℕ

/-- No such key. -/
def SortedSet.empty : SortedSet Member := ⟨[], 0⟩

/-- The entries at a time; those of an expired key are gone. -/
def SortedSet.live (now : ℕ) (key : SortedSet Member) : List (ℕ × Member) :=
  if key.expiresAt < now then [] else key.entries

/-- `ZREMRANGEBYSCORE` -/
def removeRangeByScore (least most : ℤ) (entries : List (ℕ × Member)) : List (ℕ × Member) :=
  entries.filter fun entry => !(least ≤ entry.1 && entry.1 ≤ most)

/-- `ZADD` -/
def add (score : ℕ) (member : Member) (entries : List (ℕ × Member)) : List (ℕ × Member) :=
  entries.filter (fun entry => entry.2 ≠ member) ++ [(score, member)]

/-- The score of `ZRANGE 0 0 WITHSCORES` -/
def oldest (entries : List (ℕ × Member)) : Option ℕ :=
  (entries.map Prod.fst).min?

/-- What the script returns. -/
structure Reply where
  allowed : Bool
  count : ℕ
  score : ℕ

/-- `SLIDING_WINDOW_SCRIPT`; in its time of Redis it is one step. -/
def slidingWindowScript (now : ℕ) (windowStart : ℤ) (maxRequests : ℕ) (member : Member) (ttlSeconds : ℕ)
    (key : SortedSet Member) : Reply × SortedSet Member :=
  let entries := removeRangeByScore 0 windowStart (key.live now)
  let count := entries.length
  let expiresAt := now + ttlSeconds * 1000
  if maxRequests ≤ count then (⟨false, count, (oldest entries).getD now⟩, ⟨entries, expiresAt⟩)
  else (⟨true, count + 1, now⟩, ⟨add now member entries, expiresAt⟩)

structure WindowResult where
  allowed : Bool
  limit : ℕ
  remaining : ℕ
  resetMs : ℕ

/-- With Redis available. -/
def checkSlidingWindow (entry : RateLimitEntry) (now : ℕ) (member : Member) (key : SortedSet Member) :
    WindowResult × SortedSet Member :=
  let windowStart : ℤ := now - entry.windowMs
  let ttlSeconds := (entry.windowMs + 999) / 1000 + 10
  let (reply, key) := slidingWindowScript now windowStart entry.max member ttlSeconds key
  (⟨reply.allowed, entry.max, if reply.allowed then entry.max - reply.count else 0, reply.score + entry.windowMs⟩, key)

structure Request (Member : Type) where
  now : ℕ
  member : Member

variable (entry : RateLimitEntry)

def serve (key : SortedSet Member) (request : Request Member) : WindowResult × SortedSet Member :=
  checkSlidingWindow entry request.now request.member key

/-- The key behind some requests. -/
def behind (requests : List (Request Member)) : SortedSet Member :=
  requests.foldl (fun key request => (serve entry key request).2) .empty

/-- The requests that are admitted, behind those of the key. -/
def admittedFrom (key : SortedSet Member) : List (Request Member) → List (Request Member)
  | [] => []
  | request :: rest =>
    let (result, key) := serve entry key request
    if result.allowed then request :: admittedFrom key rest else admittedFrom key rest

def admitted (requests : List (Request Member)) : List (Request Member) :=
  admittedFrom entry .empty requests

/-- The requests in the window that ends at this time. -/
def inWindow (finish : ℤ) (requests : List (Request Member)) : List (Request Member) :=
  requests.filter fun request => finish - entry.windowMs < request.now && request.now ≤ finish

/-- The clock does not go back, and no member occurs twice. -/
structure History (requests : List (Request Member)) : Prop where
  clock : (requests.map Request.now).Pairwise (· ≤ ·)
  members : (requests.map Request.member).Nodup

variable {entry} {key : SortedSet Member} {requests : List (Request Member)}

theorem admittedFrom_append (key : SortedSet Member) (requests : List (Request Member)) (request : Request Member) :
    admittedFrom entry key (requests ++ [request]) = admittedFrom entry key requests ++
      if (serve entry (requests.foldl (fun key request => (serve entry key request).2) key) request).1.allowed
      then [request] else [] := by
  induction requests generalizing key with
  | nil =>
    simp only [List.nil_append, admittedFrom, List.foldl_nil]
    rfl
  | cons first rest ih => grind [List.cons_append, admittedFrom, List.foldl_cons]

theorem admitted_append (requests : List (Request Member)) (request : Request Member) :
    admitted entry (requests ++ [request]) = admitted entry requests ++
      if (serve entry (behind entry requests) request).1.allowed then [request] else [] :=
  admittedFrom_append .empty requests request

theorem behind_append (requests : List (Request Member)) (request : Request Member) :
    behind entry (requests ++ [request]) = (serve entry (behind entry requests) request).2 := by
  rw [behind, List.foldl_append]
  rfl

variable {request : Request Member}

theorem mem_of_admitted (member : request ∈ admitted entry requests) : request ∈ requests := by
  induction requests using List.reverseRecOn with
  | nil => exact member
  | append_singleton requests last ih => grind [admitted_append, List.mem_append]

def Request.scored (request : Request Member) : ℕ × Member := (request.now, request.member)

/-- The set holds every admitted request that is still in the window of the last one, and it does not expire before
they have left it. -/
structure Tracks (entry : RateLimitEntry) (requests : List (Request Member)) (key : SortedSet Member) : Prop where
  kept : ∀ cut : ℤ, (∀ request ∈ requests, (request.now : ℤ) - entry.windowMs ≤ cut) →
    key.entries.filter (fun found => cut < found.1) =
      ((admitted entry requests).filter fun request => cut < request.now).map Request.scored
  stays : ∀ request ∈ requests, request.now + entry.windowMs ≤ key.expiresAt

section

variable (tracks : Tracks entry requests key) {now : ℕ} (clock : ∀ request ∈ requests, request.now ≤ now)

include tracks clock

theorem Tracks.removed : removeRangeByScore 0 ((now : ℤ) - entry.windowMs) (key.live now) =
      (inWindow entry now (admitted entry requests)).map Request.scored := by
  have past : ∀ request ∈ admitted entry requests, request.now ≤ now := fun request member =>
    clock request (mem_of_admitted member)
  have window : inWindow entry now (admitted entry requests) =
      (admitted entry requests).filter fun request => (now : ℤ) - entry.windowMs < request.now := by
    apply List.filter_congr
    intro request member
    have := past request member
    simp [this]
  have removed (entries : List (ℕ × Member)) : removeRangeByScore 0 ((now : ℤ) - entry.windowMs) entries =
      entries.filter fun found => (now : ℤ) - entry.windowMs < found.1 := by
    apply List.filter_congr
    intro found _
    by_cases fresh : (now : ℤ) - entry.windowMs < found.1
    · simp [fresh, not_le.mpr fresh]
    · simp [fresh, not_lt.mp fresh]
  rw [window, removed, SortedSet.live]
  split
  · rename_i expired
    symm
    rw [List.filter_nil, List.map_eq_nil_iff, List.filter_eq_nil_iff]
    intro request member
    have := tracks.stays request (mem_of_admitted member)
    rw [decide_eq_true_eq]
    omega
  · apply tracks.kept
    intro request member
    have := clock request member
    omega

theorem Tracks.rejected (member : Member) (full : entry.max ≤ (inWindow entry now (admitted entry requests)).length) :
    checkSlidingWindow entry now member key = (⟨false, entry.max, 0,
        (oldest ((inWindow entry now (admitted entry requests)).map Request.scored)).getD now + entry.windowMs⟩,
      ⟨(inWindow entry now (admitted entry requests)).map Request.scored,
        now + ((entry.windowMs + 999) / 1000 + 10) * 1000⟩) := by
  unfold checkSlidingWindow slidingWindowScript
  simp only [tracks.removed clock, List.length_map, if_pos full]
  rfl

theorem Tracks.accepted {member : Member} (free : (inWindow entry now (admitted entry requests)).length < entry.max) :
    (checkSlidingWindow entry now member key).1.allowed = true ∧ (checkSlidingWindow entry now member key).2 =
        ⟨add now member ((inWindow entry now (admitted entry requests)).map Request.scored),
          now + ((entry.windowMs + 999) / 1000 + 10) * 1000⟩ := by
  unfold checkSlidingWindow slidingWindowScript
  simp only [tracks.removed clock, List.length_map, if_neg (not_le.mpr free), and_self]

theorem Tracks.allowed_iff (member : Member) : (checkSlidingWindow entry now member key).1.allowed = true ↔
      (inWindow entry now (admitted entry requests)).length < entry.max := by
  by_cases free : (inWindow entry now (admitted entry requests)).length < entry.max
  · exact iff_of_true (tracks.accepted clock free).1 free
  · rw [tracks.rejected clock member (not_lt.mp free)]
    exact iff_of_false Bool.false_ne_true free

end

omit [DecidableEq Member] in
theorem filter_inWindow {now : ℕ} {cut : ℤ} (begun : (now : ℤ) - entry.windowMs ≤ cut)
    (past : ∀ request ∈ requests, request.now ≤ now) :
    (inWindow entry now requests).filter (fun request => cut < request.now) =
      requests.filter fun request => cut < request.now := by
  rw [inWindow, List.filter_filter]
  apply List.filter_congr
  intro request member
  have := past request member
  by_cases after : cut < request.now
  · grind
  · simp [after]

theorem tracks (history : History requests) : Tracks entry requests (behind entry requests) := by
  induction requests using List.reverseRecOn with
  | nil => exact ⟨fun _ _ => rfl, by simp⟩
  | append_singleton requests request ih =>
    obtain ⟨clock, members⟩ := history
    rw [List.map_append, List.pairwise_append] at clock
    rw [List.map_append, List.nodup_append] at members
    have earlier : ∀ other ∈ requests, other.now ≤ request.now := fun other member =>
      clock.2.2 other.now (List.mem_map_of_mem member) request.now (by simp)
    have fresh : ∀ other ∈ requests, other.member ≠ request.member := fun other member =>
      members.2.2 other.member (List.mem_map_of_mem member) request.member (by simp)
    have tracks : Tracks entry requests (behind entry requests) := ih ⟨clock.1, members.1⟩
    have past : ∀ other ∈ admitted entry requests, other.now ≤ request.now := fun other member =>
      earlier other (mem_of_admitted member)
    have unlisted : ((inWindow entry request.now (admitted entry requests)).map Request.scored).filter
        (fun found => found.2 ≠ request.member) =
          (inWindow entry request.now (admitted entry requests)).map Request.scored := by
      rw [List.filter_eq_self]
      intro found member
      obtain ⟨other, listed, rfl⟩ := List.mem_map.mp member
      exact decide_eq_true (fresh other (mem_of_admitted (List.mem_of_mem_filter listed)))
    have lasts : request.now + entry.windowMs ≤ request.now + ((entry.windowMs + 999) / 1000 + 10) * 1000 := by omega
    rw [behind_append]
    by_cases free : (inWindow entry request.now (admitted entry requests)).length < entry.max
    · obtain ⟨allowed, left⟩ := @Tracks.accepted Member _ entry _ requests tracks request.now earlier request.member free
      have now_admitted : admitted entry (requests ++ [request]) = admitted entry requests ++ [request] := by
        rw [admitted_append, serve, allowed, if_pos rfl]
      rw [serve, left, add, unlisted]
      constructor
      · intro cut begun
        rw [now_admitted, List.filter_append, List.filter_append, List.map_append,
          ← filter_inWindow (begun request (by simp)) past, List.filter_map]
        congr 1
        by_cases after : cut < request.now <;> simp [after, Request.scored]
      · intro other member
        rcases List.mem_append.mp member with before | same
        · exact (Nat.add_le_add_right (earlier other before) _).trans lasts
        · rw [List.mem_singleton.mp same]
          exact lasts
    · have left := tracks.rejected earlier request.member (not_lt.mp free)
      have now_admitted : admitted entry (requests ++ [request]) = admitted entry requests := by
        rw [admitted_append, serve, left]
        exact List.append_nil _
      rw [serve, left]
      constructor
      · intro cut begun
        rw [now_admitted, ← filter_inWindow (begun request (by simp)) past, List.filter_map]
        rfl
      · intro other member
        rcases List.mem_append.mp member with before | same
        · exact (Nat.add_le_add_right (earlier other before) _).trans lasts
        · rw [List.mem_singleton.mp same]
          exact lasts

omit [DecidableEq Member] in
theorem inWindow_later {now : ℕ} {finish : ℤ} (later : (now : ℤ) ≤ finish) (past : ∀ request ∈ requests, request.now ≤ now) :
    inWindow entry finish requests =
      (inWindow entry now requests).filter fun request => finish - entry.windowMs < request.now := by
  rw [filter_inWindow (by omega) past, inWindow]
  apply List.filter_congr
  intro request member
  have inside : (request.now : ℤ) ≤ finish := by
    have := past request member
    omega
  simp [inside]

theorem length_inWindow_le (history : History requests) (finish : ℤ) :
    (inWindow entry finish (admitted entry requests)).length ≤ entry.max := by
  induction requests using List.reverseRecOn generalizing finish with
  | nil => exact Nat.zero_le _
  | append_singleton requests request ih =>
    obtain ⟨clock, members⟩ := history
    rw [List.map_append, List.pairwise_append] at clock
    rw [List.map_append, List.nodup_append] at members
    have before : History requests := ⟨clock.1, members.1⟩
    have earlier : ∀ other ∈ requests, other.now ≤ request.now := fun other member =>
      clock.2.2 other.now (List.mem_map_of_mem member) request.now (by simp)
    have past : ∀ other ∈ admitted entry requests, other.now ≤ request.now := fun other member =>
      earlier other (mem_of_admitted member)
    rw [admitted_append]
    split
    · rename_i allowed
      have free := ((tracks before).allowed_iff earlier request.member).mp allowed
      by_cases out : finish < request.now
      · have unseen : inWindow entry finish (admitted entry requests ++ [request]) =
            inWindow entry finish (admitted entry requests) := by
          simp [inWindow, List.filter_append, not_le.mpr out]
        rw [unseen]
        exact ih before finish
      · have kept := List.length_filter_le (fun other : Request Member => decide (finish - entry.windowMs < other.now))
          (inWindow entry request.now (admitted entry requests))
        rw [← inWindow_later (not_lt.mp out) past] at kept
        have joined : (inWindow entry finish (admitted entry requests ++ [request])).length ≤
            (inWindow entry finish (admitted entry requests)).length + 1 := by
          rw [inWindow, List.filter_append, List.length_append]
          exact Nat.add_le_add_left (List.length_filter_le _ [request]) _
        omega
    · rw [List.append_nil]
      exact ih before finish

variable {earlier : List (Request Member)}

theorem History.split {later : List (Request Member)} (history : History (earlier ++ request :: later)) :
    History earlier ∧ History (earlier ++ [request]) ∧ ∀ other ∈ earlier, other.now ≤ request.now := by
  obtain ⟨clock, members⟩ := history
  have whole : earlier ++ request :: later = earlier ++ [request] ++ later := by simp
  rw [whole, List.map_append] at clock members
  have clock := (List.pairwise_append.mp clock).1
  have members := (List.nodup_append.mp members).1
  refine ⟨?_, ⟨clock, members⟩, ?_⟩ <;> rw [List.map_append] at clock members
  · exact ⟨(List.pairwise_append.mp clock).1, (List.nodup_append.mp members).1⟩
  · exact fun other member =>
      (List.pairwise_append.mp clock).2.2 other.now (List.mem_map_of_mem member) request.now (by simp)

theorem rejected_iff (history : History earlier) (clock : ∀ other ∈ earlier, other.now ≤ request.now) :
    (serve entry (behind entry earlier) request).1.allowed = false ↔
      (inWindow entry request.now (admitted entry earlier)).length = entry.max := by
  have most := @length_inWindow_le Member _ entry earlier history request.now
  rw [← Bool.not_eq_true, serve, (tracks history).allowed_iff clock]
  omega

theorem reset_isLeast (history : History (earlier ++ [request])) (positive : 0 < entry.max)
    (rejected : (serve entry (behind entry earlier) request).1.allowed = false) (member : Member) :
    IsLeast {instant : ℕ | request.now ≤ instant ∧
        (checkSlidingWindow entry instant member (behind entry (earlier ++ [request]))).1.allowed = true}
      (serve entry (behind entry earlier) request).1.resetMs := by
  obtain ⟨before, -, clock⟩ := history.split
  have full := (rejected_iff before clock).mp rejected
  have past : ∀ other ∈ admitted entry earlier, other.now ≤ request.now := fun other member =>
    clock other (mem_of_admitted member)
  have upto : ∀ other ∈ earlier ++ [request], other.now ≤ request.now := by
    simpa [or_imp, forall_and] using clock
  have same : admitted entry (earlier ++ [request]) = admitted entry earlier := by
    rw [admitted_append, rejected, if_neg Bool.false_ne_true, List.append_nil]
  have result := (tracks before).rejected clock request.member full.ge
  have reset : (serve entry (behind entry earlier) request).1.resetMs =
      (oldest ((inWindow entry request.now (admitted entry earlier)).map Request.scored)).getD request.now +
        entry.windowMs := by
    rw [serve, result]
  -- from now on the window only loses requests
  have admits (instant : ℕ) (later : request.now ≤ instant) :
      (checkSlidingWindow entry instant member (behind entry (earlier ++ [request]))).1.allowed = true ↔
        ((inWindow entry request.now (admitted entry earlier)).filter fun request : Request Member =>
          (instant : ℤ) - entry.windowMs < request.now).length <
            (inWindow entry request.now (admitted entry earlier)).length := by
    rw [(tracks history).allowed_iff (fun other listed => (upto other listed).trans later), same,
      inWindow_later (Int.ofNat_le.mpr later) past, full]
  have some_request : inWindow entry request.now (admitted entry earlier) ≠ [] := by grind
  have inside : ∀ other ∈ inWindow entry request.now (admitted entry earlier),
      (request.now : ℤ) - entry.windowMs < other.now ∧ other.now ≤ request.now := by
    intro other listed
    have chosen := List.of_mem_filter listed
    simpa using chosen
  generalize inWindow entry request.now (admitted entry earlier) = window at *
  obtain ⟨score, found⟩ : ∃ score, oldest (window.map Request.scored) = some score := by
    rw [← Option.isSome_iff_exists, oldest, List.isSome_min?_iff]
    simpa using some_request
  have least := List.min?_eq_some_iff.mp found
  rw [List.map_map] at least
  obtain ⟨listed, below⟩ := least
  obtain ⟨first, first_listed, rfl⟩ := List.mem_map.mp listed
  have below : ∀ other ∈ window, first.now ≤ other.now := fun other other_listed =>
    below other.now (List.mem_map_of_mem other_listed)
  rw [reset, found, Option.getD_some]
  have opens := inside first first_listed
  constructor
  · show request.now ≤ first.now + entry.windowMs ∧ _
    have later : request.now ≤ first.now + entry.windowMs := by omega
    refine ⟨later, (admits _ later).mpr ?_⟩
    rw [List.length_filter_lt_length_iff_exists]
    exact ⟨first, first_listed, by simp⟩
  · rintro instant ⟨later, allowed⟩
    rw [admits instant later, List.length_filter_lt_length_iff_exists] at allowed
    obtain ⟨other, other_listed, left⟩ := allowed
    have := below other other_listed
    rw [decide_eq_true_eq, not_lt] at left
    show first.now + entry.windowMs ≤ instant
    omega

/-- No window has more admitted requests than the maximum, a request is rejected exactly behind that many, and the
reset time is that of the next admission; where nothing may be admitted, it is the end of a window from now on. -/
theorem sliding_window (history : History requests) :
    (∀ finish : ℤ, (inWindow entry finish (admitted entry requests)).length ≤ entry.max) ∧
    ∀ earlier request later, requests = earlier ++ request :: later →
      ((serve entry (behind entry earlier) request).1.allowed = false ↔
        (inWindow entry request.now (admitted entry earlier)).length = entry.max) ∧
      ((serve entry (behind entry earlier) request).1.allowed = false →
        if entry.max = 0 then
          (serve entry (behind entry earlier) request).1.resetMs = request.now + entry.windowMs
        else
          ∀ member : Member, IsLeast {instant : ℕ | request.now ≤ instant ∧
              (checkSlidingWindow entry instant member (behind entry (earlier ++ [request]))).1.allowed = true}
            (serve entry (behind entry earlier) request).1.resetMs) := by
  refine ⟨length_inWindow_le history, ?_⟩
  rintro earlier request later rfl
  obtain ⟨before, upto, clock⟩ := history.split
  refine ⟨rejected_iff before clock, ?_⟩
  intro rejected
  have full := (rejected_iff before clock).mp rejected
  split
  · rename_i zero
    rw [zero, List.length_eq_zero_iff] at full
    rw [serve, (tracks before).rejected clock request.member (by rw [zero]; exact Nat.zero_le _), full]
    rfl
  · rename_i some_request
    exact reset_isLeast upto (Nat.pos_of_ne_zero some_request) rejected

/-- One request a second. -/
theorem second_request_rejected :
    (inWindow ⟨1, 1000⟩ 1000 (admitted ⟨1, 1000⟩ [⟨0, "0:a"⟩, ⟨999, "999:b"⟩, ⟨1000, "1000:c"⟩])).length ≤ 1 :=
  (sliding_window ⟨by decide, by decide⟩).1 1000

/-- Where nothing may be admitted, nothing is admitted at the reset time. -/
theorem nothing_admitted_at_reset : ¬∀ (entry : RateLimitEntry) (requests : List (Request String)), History requests →
    ∀ earlier request later, requests = earlier ++ request :: later →
      (serve entry (behind entry earlier) request).1.allowed = false → ∀ member,
        IsLeast {instant : ℕ | request.now ≤ instant ∧
            (checkSlidingWindow entry instant member (behind entry (earlier ++ [request]))).1.allowed = true}
          (serve entry (behind entry earlier) request).1.resetMs := by
  intro always
  have least := always ⟨0, 60000⟩ [⟨0, "0:a"⟩] ⟨by decide, by decide⟩ [] ⟨0, "0:a"⟩ [] rfl rfl "60000:b"
  cases least.1.2

end ProxyPay.RateLimits
