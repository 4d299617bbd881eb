import Mathlib

/-! The token bucket of `ParallelBatchProcessor`: how many tokens any number of workers take in any interval. -/

namespace ProxyPay.BatchWorker.Tokens

/-- `(elapsed / 1000) * rateLimitPerSecond` as the runtime computes it. Within a second no whole token is computed
that has not been earned, and more than one token's time is computed as a token at least. -/
structure Arithmetic (rate : ℕ) where
  product : ℤ → ℚ
  earned : ∀ elapsed : ℤ, 0 ≤ elapsed → elapsed < 1000 → ⌊product elapsed⌋ * 1000 ≤ elapsed * rate
  reaches : ∀ elapsed : ℤ, 0 ≤ elapsed → 1000 < elapsed * rate → 1 ≤ product elapsed

/-- Without rounding. -/
def Arithmetic.exact (rate : ℕ) : Arithmetic rate where
  product elapsed := (elapsed / 1000 : ℚ) * rate
  earned elapsed _ _ := by
    have floor := Int.floor_le ((elapsed / 1000 : ℚ) * rate)
    have scaled : ((⌊(elapsed / 1000 : ℚ) * rate⌋ * 1000 : ℤ) : ℚ) ≤ ((elapsed * rate : ℤ) : ℚ) := by
      push_cast
      linarith
    exact_mod_cast scaled
  reaches elapsed _ enough := by
    have scaled : (1000 : ℚ) < elapsed * rate := by exact_mod_cast enough
    linarith

/-- How results are rounded to doubles, as far as the bucket relies on it. -/
structure Doubles where
  round : ℚ → ℚ
  mono : Monotone round
  zero : round 0 = 0
  one : round 1 = 1
  near : ∀ value, 1 / 2 ^ 10 ≤ value → value ≤ 2 ^ 53 → |round value - value| ≤ value / 2 ^ 53

def Doubles.product (doubles : Doubles) (rate : ℕ) (elapsed : ℤ) : ℚ :=
  doubles.round (doubles.round (elapsed / 1000) * rate)

section

variable (doubles : Doubles) {rate : ℕ} (some_rate : 1 ≤ rate) (small : rate ≤ 2 ^ 40)

include doubles some_rate small

theorem Doubles.product_near {elapsed : ℤ} (begun : 1 ≤ elapsed) (within : elapsed < 1000) :
    |doubles.product rate elapsed - elapsed * rate / 1000| < 1 / 1000 := by
  have low : (1 : ℚ) ≤ elapsed := by exact_mod_cast begun
  have high : (elapsed : ℚ) ≤ 999 := by
    have : elapsed ≤ 999 := by omega
    exact_mod_cast this
  have rate_low : (1 : ℚ) ≤ rate := by exact_mod_cast some_rate
  have rate_high : (rate : ℚ) ≤ 2 ^ 40 := by exact_mod_cast small
  have exact_low : (1 / 1000 : ℚ) ≤ elapsed * rate / 1000 := by
    have := mul_le_mul low rate_low zero_le_one (by linarith)
    linarith
  have exact_high : (elapsed * rate / 1000 : ℚ) ≤ 2 ^ 40 := by
    have := mul_le_mul high rate_high (by linarith) (by norm_num : (0 : ℚ) ≤ 999)
    linarith
  have quotient := doubles.near (elapsed / 1000) (by linarith) (by linarith)
  -- the error of the quotient, multiplied by the rate
  have scaled : |doubles.round (elapsed / 1000) * rate - elapsed * rate / 1000| ≤ elapsed * rate / 1000 / 2 ^ 53 := by
    have factored : doubles.round (elapsed / 1000) * rate - elapsed * rate / 1000 =
        (doubles.round (elapsed / 1000) - elapsed / 1000) * rate := by ring
    rw [factored, abs_mul, abs_of_nonneg (by linarith : (0 : ℚ) ≤ rate)]
    calc |doubles.round (elapsed / 1000) - elapsed / 1000| * rate
        ≤ (elapsed / 1000 / 2 ^ 53 : ℚ) * rate := mul_le_mul_of_nonneg_right quotient (by linarith)
      _ = elapsed * rate / 1000 / 2 ^ 53 := by ring
  have bounds := abs_le.mp scaled
  have product := abs_le.mp (doubles.near (doubles.round (elapsed / 1000) * rate) (by linarith) (by linarith))
  rw [Doubles.product, abs_lt]
  constructor <;> linarith

theorem Doubles.earned (elapsed : ℤ)
    (begun : 0 ≤ elapsed) (within : elapsed < 1000) : ⌊doubles.product rate elapsed⌋ * 1000 ≤ elapsed * rate := by
  by_cases none_elapsed : elapsed = 0
  · simp_all [Doubles.product, zero]
  · have near := abs_lt.mp (doubles.product_near some_rate small (by omega : 1 ≤ elapsed) within)
    have floor := Int.floor_le (doubles.product rate elapsed)
    have scaled : ((⌊doubles.product rate elapsed⌋ * 1000 : ℤ) : ℚ) < ((elapsed * rate + 1 : ℤ) : ℚ) := by
      push_cast
      linarith
    exact Int.lt_add_one_iff.mp (by exact_mod_cast scaled)

theorem Doubles.reaches (elapsed : ℤ)
    (begun : 0 ≤ elapsed) (enough : 1000 < elapsed * rate) : 1 ≤ doubles.product rate elapsed := by
  by_cases within : elapsed < 1000
  · have some_elapsed : 1 ≤ elapsed := by
      by_contra none_elapsed
      have zero : elapsed = 0 := by omega
      rw [zero, zero_mul] at enough
      omega
    have near := abs_lt.mp (doubles.product_near some_rate small some_elapsed within)
    have whole : ((1001 : ℤ) : ℚ) ≤ ((elapsed * rate : ℤ) : ℚ) := by exact_mod_cast enough
    push_cast at whole
    linarith
  · have second : (1 : ℚ) ≤ elapsed / 1000 := by
      have : (1000 : ℚ) ≤ elapsed := by exact_mod_cast not_lt.mp within
      linarith
    have rate_low : (1 : ℚ) ≤ rate := by exact_mod_cast some_rate
    have quotient := doubles.mono second
    rw [doubles.one] at quotient
    have product := doubles.mono (one_le_mul_of_one_le_of_one_le quotient rate_low)
    rwa [doubles.one] at product

end

/-- In doubles, for any rate up to a million million. -/
def Arithmetic.ofDoubles (doubles : Doubles) {rate : ℕ} (some_rate : 1 ≤ rate) (small : rate ≤ 2 ^ 40) :
    Arithmetic rate :=
  ⟨doubles.product rate, doubles.earned some_rate small, doubles.reaches some_rate small⟩

/-! The bucket. -/

structure Bucket where
  tokens : ℤ
  lastRefillAt : ℤ

/-- The constructor. -/
def Bucket.initial (rate : ℕ) (now : ℤ) : Bucket := ⟨rate, now⟩

variable {rate : ℕ} (arithmetic : Arithmetic rate)

def refillTokens (now : ℤ) (bucket : Bucket) : Bucket :=
  let refill := ⌊arithmetic.product (now - bucket.lastRefillAt)⌋
  if 0 < refill then ⟨min rate (bucket.tokens + refill), now⟩ else bucket

/-- What `waitForToken` does when it is called and after each of its waits: whether it takes a token. -/
def poll (now : ℤ) (bucket : Bucket) : Bool × Bucket :=
  let bucket := refillTokens arithmetic now bucket
  if bucket.tokens ≤ 0 then (false, bucket) else (true, { bucket with tokens := bucket.tokens - 1 })

/-- A worker looks at the bucket. -/
structure Poll (Worker : Type) where
  worker : Worker
  now : ℤ

variable {Worker : Type}

/-- The polls that are granted a token. -/
def granted : Bucket → List (Poll Worker) → List (Poll Worker)
  | _, [] => []
  | bucket, request :: rest =>
    let (taken, bucket) := poll arithmetic request.now bucket
    if taken then request :: granted bucket rest else granted bucket rest

/-- The bucket behind some polls. -/
def behind (bucket : Bucket) (schedule : List (Poll Worker)) : Bucket :=
  schedule.foldl (fun bucket request => (poll arithmetic request.now bucket).2) bucket

/-- The tokens are never negative and never more than a second's. -/
def Bucket.Sound (rate : ℕ) (bucket : Bucket) : Prop := 0 ≤ bucket.tokens ∧ bucket.tokens ≤ rate

variable {arithmetic} {bucket : Bucket} {now : ℤ}

theorem initial_sound (rate : ℕ) (now : ℤ) : (Bucket.initial rate now).Sound rate := by
  constructor
  · exact Int.natCast_nonneg rate
  · exact le_refl _

section

variable (positive : 1 ≤ rate) (sound : bucket.Sound rate) (clock : bucket.lastRefillAt ≤ now)

include positive sound clock

theorem refillTokens_cases : (refillTokens arithmetic now bucket = bucket ∧ (now - bucket.lastRefillAt) * rate ≤ 1000) ∨
      ∃ tokens : ℤ, refillTokens arithmetic now bucket = ⟨tokens, now⟩ ∧ 0 < tokens ∧ tokens ≤ rate ∧
        (tokens - bucket.tokens) * 1000 ≤ (now - bucket.lastRefillAt) * rate := by
  obtain ⟨nonneg, most⟩ := sound
  have elapsed : 0 ≤ now - bucket.lastRefillAt := by omega
  unfold refillTokens
  by_cases refill : 0 < ⌊arithmetic.product (now - bucket.lastRefillAt)⌋
  · right
    refine ⟨_, if_pos refill, by omega, min_le_left _ _, ?_⟩
    by_cases within : now - bucket.lastRefillAt < 1000
    · have earned := arithmetic.earned _ elapsed within
      omega
    · calc (min (rate : ℤ) (bucket.tokens + ⌊arithmetic.product (now - bucket.lastRefillAt)⌋) - bucket.tokens) * 1000
          ≤ 1000 * rate := by omega
        _ ≤ (now - bucket.lastRefillAt) * rate :=
          mul_le_mul_of_nonneg_right (not_lt.mp within) (Int.natCast_nonneg rate)
  · left
    refine ⟨if_neg refill, ?_⟩
    by_contra enough
    have reached := arithmetic.reaches _ elapsed (not_le.mp enough)
    exact refill (Int.floor_pos.mpr reached)

theorem poll_denied (denied : (poll arithmetic now bucket).1 = false) :
    (poll arithmetic now bucket).2 = bucket ∧ (now - bucket.lastRefillAt) * rate ≤ 1000 := by
  rcases refillTokens_cases positive sound clock with ⟨same, early⟩ | ⟨tokens, same, some_token, _⟩
  · refine ⟨?_, early⟩
    unfold poll at denied ⊢
    rw [same] at denied ⊢
    by_cases empty : bucket.tokens ≤ 0
    · simp only [if_pos empty]
    · simp [if_neg empty] at denied
  · grind [poll]

theorem poll_sound : (poll arithmetic now bucket).2.Sound rate ∧ (poll arithmetic now bucket).2.lastRefillAt ≤ now := by
  have refilled : (refillTokens arithmetic now bucket).Sound rate ∧
      (refillTokens arithmetic now bucket).lastRefillAt ≤ now := by
    rcases refillTokens_cases positive sound clock with ⟨same, -⟩ | ⟨tokens, same, some_token, most, -⟩
    · rw [same]
      exact ⟨sound, clock⟩
    · rw [same]
      exact ⟨⟨some_token.le, most⟩, le_refl now⟩
  obtain ⟨⟨nonneg, most⟩, earlier⟩ := refilled
  unfold poll
  by_cases empty : (refillTokens arithmetic now bucket).tokens ≤ 0
  · simp only [if_pos empty]
    exact ⟨⟨nonneg, most⟩, earlier⟩
  · simp only [if_neg empty]
    refine ⟨⟨?_, ?_⟩, earlier⟩
    · grind
    · grind

end

/-! Any schedule. The clock does not go back: the polls are ordered by their times, and none is before the time of
the bucket. -/

def Ordered (start : ℤ) (schedule : List (Poll Worker)) : Prop :=
  (start :: schedule.map Poll.now).Pairwise (· ≤ ·)

theorem ordered_cons {start : ℤ} {request : Poll Worker} {rest : List (Poll Worker)} :
    Ordered start (request :: rest) ↔ start ≤ request.now ∧ Ordered request.now rest ∧
      ∀ other ∈ rest, start ≤ other.now := by
  simp only [Ordered, List.map_cons, List.pairwise_cons, List.mem_cons, List.mem_map, forall_eq_or_imp,
    forall_exists_index, and_imp, forall_apply_eq_imp_iff₂]
  tauto

theorem Ordered.mono {start earlier : ℤ} {schedule : List (Poll Worker)} (ordered : Ordered start schedule)
    (before : earlier ≤ start) : Ordered earlier schedule := by
  rw [Ordered, List.pairwise_cons] at ordered ⊢
  exact ⟨fun time member => before.trans (ordered.1 time member), ordered.2⟩

theorem behind_sound (positive : 1 ≤ rate) {schedule rest : List (Poll Worker)} (sound : bucket.Sound rate)
    (ordered : Ordered bucket.lastRefillAt (schedule ++ rest)) :
    (behind arithmetic bucket schedule).Sound rate ∧ Ordered (behind arithmetic bucket schedule).lastRefillAt rest := by
  induction schedule generalizing bucket with
  | nil => exact ⟨sound, ordered⟩
  | cons request others ih =>
    obtain ⟨clock, later, -⟩ := (ordered_cons).mp ordered
    obtain ⟨next_sound, next_clock⟩ := poll_sound positive sound clock
    exact ih next_sound (later.mono next_clock)

/-- The polls between two times, among these. -/
def during (begins finish : ℤ) (requests : List (Poll Worker)) : List (Poll Worker) :=
  requests.filter fun request => begins ≤ request.now && request.now ≤ finish

theorem granted_cons (bucket : Bucket) (request : Poll Worker) (rest : List (Poll Worker)) :
    granted arithmetic bucket (request :: rest) = (if (poll arithmetic request.now bucket).1 then [request] else []) ++
        granted arithmetic (poll arithmetic request.now bucket).2 rest := by
  rw [granted]
  generalize poll arithmetic request.now bucket = result
  obtain ⟨taken, after⟩ := result
  cases taken <;> rfl

theorem granted_sublist (bucket : Bucket) (schedule : List (Poll Worker)) :
    (granted arithmetic bucket schedule).Sublist schedule := by
  induction schedule generalizing bucket with
  | nil => exact .refl []
  | cons request rest ih => grind [granted_cons]

theorem during_of_late {begins finish start : ℤ} {schedule : List (Poll Worker)} (bucket : Bucket)
    (ordered : Ordered start schedule) (late : finish < start) :
    during begins finish (granted arithmetic bucket schedule) = [] := by
  unfold during
  rw [List.filter_eq_nil_iff]
  intro request member
  have listed := (granted_sublist bucket schedule).subset member
  have after := (List.pairwise_cons.mp ordered).1 request.now (List.mem_map_of_mem listed)
  simp only [Bool.and_eq_true, decide_eq_true_eq, not_and]
  omega

theorem length_during_cons {begins finish : ℤ} (request : Poll Worker) (rest : List (Poll Worker)) :
    (during begins finish (granted arithmetic bucket (request :: rest))).length ≤
      (if (poll arithmetic request.now bucket).1 then 1 else 0) +
        (during begins finish (granted arithmetic (poll arithmetic request.now bucket).2 rest)).length := by
  rw [granted_cons, during, List.filter_append, List.length_append]
  apply Nat.add_le_add_right
  cases (poll arithmetic request.now bucket).1 with
  | true => exact List.length_filter_le _ _
  | false => exact le_refl _

theorem poll_tokens : (if (poll arithmetic now bucket).1 then 1 else 0) + (poll arithmetic now bucket).2.tokens =
      (refillTokens arithmetic now bucket).tokens ∧
    (poll arithmetic now bucket).2.lastRefillAt = (refillTokens arithmetic now bucket).lastRefillAt := by
  unfold poll
  by_cases empty : (refillTokens arithmetic now bucket).tokens ≤ 0
  · simp [if_pos empty]
  · simp [if_neg empty]

theorem poll_earned (positive : 1 ≤ rate) (sound : bucket.Sound rate) (clock : bucket.lastRefillAt ≤ now) (finish : ℤ) :
    (if (poll arithmetic now bucket).1 then 1 else 0) * 1000 + ((poll arithmetic now bucket).2.tokens * 1000 +
        (finish - (poll arithmetic now bucket).2.lastRefillAt) * rate) ≤
      bucket.tokens * 1000 + (finish - bucket.lastRefillAt) * rate := by
  obtain ⟨taken, refilled⟩ := @poll_tokens rate arithmetic bucket now
  rw [refilled]
  rcases refillTokens_cases positive sound clock with ⟨same, -⟩ | ⟨tokens, same, -, -, earned⟩
  · rw [same] at taken ⊢
    linarith
  · grind

theorem during_granted_le (positive : 1 ≤ rate) {schedule : List (Poll Worker)} {begins finish : ℤ}
    (sound : bucket.Sound rate) (ordered : Ordered bucket.lastRefillAt schedule) (opened : bucket.lastRefillAt ≤ finish) :
    ((during begins finish (granted arithmetic bucket schedule)).length : ℤ) * 1000 ≤
      bucket.tokens * 1000 + (finish - bucket.lastRefillAt) * rate := by
  have nothing : 0 ≤ bucket.tokens * 1000 + (finish - bucket.lastRefillAt) * rate :=
    add_nonneg (mul_nonneg sound.1 (by decide)) (mul_nonneg (by omega) (Int.natCast_nonneg rate))
  induction schedule generalizing bucket with
  | nil => simpa [granted, during] using nothing
  | cons request rest ih =>
    obtain ⟨clock, later, -⟩ := (ordered_cons).mp ordered
    by_cases late : finish < request.now
    · have from_now : Ordered request.now (request :: rest) :=
        (ordered_cons).mpr ⟨le_refl _, later, fun other member =>
          (List.pairwise_cons.mp later).1 other.now (List.mem_map_of_mem member)⟩
      rw [during_of_late bucket from_now late]
      simpa using nothing
    · obtain ⟨next_sound, next_clock⟩ := @poll_sound rate arithmetic bucket request.now positive sound clock
      have earned := @poll_earned rate arithmetic bucket request.now positive sound clock finish
      have rest_bound := ih next_sound (later.mono next_clock) (by omega)
        (add_nonneg (mul_nonneg next_sound.1 (by decide)) (mul_nonneg (by omega) (Int.natCast_nonneg rate)))
      have counted := @length_during_cons rate arithmetic Worker bucket begins finish request rest
      zify at counted
      linarith

theorem during_granted_bound (positive : 1 ≤ rate) {schedule : List (Poll Worker)} {begins : ℤ} {width : ℕ}
    (sound : bucket.Sound rate) (ordered : Ordered bucket.lastRefillAt schedule) :
    ((during begins (begins + width) (granted arithmetic bucket schedule)).length : ℤ) * 1000 ≤
      rate * 1000 + width * rate + 1000 := by
  have nothing : (0 : ℤ) ≤ rate * 1000 + width * rate + 1000 := by positivity
  induction schedule generalizing bucket with
  | nil => simpa [granted, during] using nothing
  | cons request rest ih =>
    obtain ⟨clock, later, -⟩ := (ordered_cons).mp ordered
    obtain ⟨next_sound, next_clock⟩ := @poll_sound rate arithmetic bucket request.now positive sound clock
    by_cases early : request.now < begins
    · -- the poll is not counted
      have counted : during begins (begins + width) (granted arithmetic bucket (request :: rest)) =
          during begins (begins + width) (granted arithmetic (poll arithmetic request.now bucket).2 rest) := by
        rw [granted_cons, during, List.filter_append]
        cases (poll arithmetic request.now bucket).1 with
        | true => simp [during, not_le.mpr early]
        | false => rfl
      rw [counted]
      exact ih next_sound (later.mono next_clock)
    by_cases late : begins + width < request.now
    · have from_now : Ordered request.now (request :: rest) :=
        (ordered_cons).mpr ⟨le_refl _, later, fun other member =>
          (List.pairwise_cons.mp later).1 other.now (List.mem_map_of_mem member)⟩
      rw [during_of_late bucket from_now late]
      simpa using nothing
    have inside : (begins + width - request.now) * rate ≤ width * rate :=
      mul_le_mul_of_nonneg_right (by omega) (Int.natCast_nonneg rate)
    rcases @refillTokens_cases rate arithmetic bucket request.now positive sound clock with
      ⟨-, early_refill⟩ | ⟨tokens, same, -, most, -⟩
    · have bound := @during_granted_le rate arithmetic Worker bucket positive (request :: rest) begins (begins + width) sound
        ordered (by omega)
      have full := sound.2
      linarith
    · obtain ⟨taken, refilled⟩ := @poll_tokens rate arithmetic bucket request.now
      rw [same] at taken refilled
      change _ = tokens at taken
      change _ = request.now at refilled
      have bound := @during_granted_le rate arithmetic Worker _ positive rest begins (begins + width) next_sound
        (later.mono next_clock) (by omega)
      have counted := @length_during_cons rate arithmetic Worker bucket begins (begins + width) request rest
      zify at counted
      rw [refilled] at bound
      linarith

/-! Progress. -/

theorem behind_of_denied (positive : 1 ≤ rate) {schedule : List (Poll Worker)} (sound : bucket.Sound rate)
    (ordered : Ordered bucket.lastRefillAt schedule) (denied : granted arithmetic bucket schedule = []) :
    ∀ request ∈ schedule, bucket.lastRefillAt ≤ request.now ∧ (request.now - bucket.lastRefillAt) * rate ≤ 1000 := by
  induction schedule with
  | nil => simp
  | cons request rest ih =>
    obtain ⟨clock, later, -⟩ := (ordered_cons).mp ordered
    rw [granted_cons, List.append_eq_nil_iff] at denied
    obtain ⟨first, others⟩ := denied
    have first_denied : (poll arithmetic request.now bucket).1 = false := by simp_all
    obtain ⟨same, early⟩ := poll_denied positive sound clock first_denied
    rw [same] at others
    rw [List.forall_mem_cons]
    exact ⟨⟨clock, early⟩, ih (later.mono clock) others⟩

theorem waits_add {times : List ℤ} {first last : ℤ} (apart : (first :: times).IsChain fun one next => one + 50 ≤ next)
    (final : (first :: times).getLast? = some last) : first + 50 * times.length ≤ last := by
  induction times generalizing first with
  | nil => simp_all
  | cons next times ih => grind

variable [DecidableEq Worker]

/-- The worker polls 22 times, 50 ms apart, that is for more than a second. -/
def KeepsPolling (worker : Worker) (schedule : List (Poll Worker)) : Prop :=
  let times := (schedule.filter fun request => request.worker = worker).map Poll.now
  22 ≤ times.length ∧ times.IsChain fun one next => one + 50 ≤ next

theorem granted_of_keepsPolling (positive : 1 ≤ rate) {schedule : List (Poll Worker)} (sound : bucket.Sound rate)
    (ordered : Ordered bucket.lastRefillAt schedule) {worker : Worker} (polls : KeepsPolling worker schedule) :
    granted arithmetic bucket schedule ≠ [] := by
  intro denied
  have unchanged := behind_of_denied positive sound ordered denied
  obtain ⟨many, apart⟩ := polls
  have reached (time : ℤ) (member : time ∈ (schedule.filter fun request => request.worker = worker).map Poll.now) :
      bucket.lastRefillAt ≤ time ∧ (time - bucket.lastRefillAt) * rate ≤ 1000 := by
    obtain ⟨request, found, rfl⟩ := List.mem_map.mp member
    exact unchanged request (List.mem_of_mem_filter found)
  generalize (schedule.filter fun request => request.worker = worker).map Poll.now = times at many apart reached
  cases times with
  | nil => cases many
  | cons first times =>
    obtain ⟨last, final⟩ : ∃ last, (first :: times).getLast? = some last :=
      ⟨_, List.getLast?_eq_some_getLast (List.cons_ne_nil first times)⟩
    have long := waits_add apart final
    have begun := (reached first List.mem_cons_self).1
    have ended := (reached last (List.mem_of_getLast? final)).2
    rw [List.length_cons] at many
    have passed : (1050 : ℤ) * 1 ≤ (last - bucket.lastRefillAt) * rate :=
      mul_le_mul (by omega) (by omega) (by decide) (by omega)
    omega

/-- The tokens that any schedule takes in any interval are bounded, the bucket is sound all the time, and a worker
who keeps polling gets a token unless others take them. -/
theorem rate_bounded (arithmetic : Arithmetic rate) (positive : 1 ≤ rate) (started : ℤ) (schedule : List (Poll Worker))
    (clock : Ordered started schedule) :
    (∀ (begins : ℤ) (width : ℕ),
      (during begins (begins + width) (granted arithmetic (.initial rate started) schedule)).length ≤
        rate + width * rate / 1000 + 1) ∧
    (∀ earlier later, schedule = earlier ++ later → (behind arithmetic (.initial rate started) earlier).Sound rate) ∧
    ∀ earlier stretch later, schedule = earlier ++ (stretch ++ later) → ∀ worker, KeepsPolling worker stretch →
      (∀ request ∈ granted arithmetic (behind arithmetic (.initial rate started) earlier) stretch,
        request.worker = worker) →
      ∃ request ∈ granted arithmetic (behind arithmetic (.initial rate started) earlier) stretch,
        request.worker = worker := by
  have sound := initial_sound rate started
  refine ⟨?_, ?_, ?_⟩
  · intro begins width
    have bound := @during_granted_bound rate arithmetic Worker _ positive schedule begins width sound clock
    have whole : ((during begins (begins + width) (granted arithmetic (.initial rate started) schedule)).length) * 1000 ≤
        rate * 1000 + width * rate + 1000 := by exact_mod_cast bound
    omega
  · rintro earlier later rfl
    exact (behind_sound positive sound clock).1
  · rintro earlier stretch later rfl worker polls alone
    obtain ⟨behind_is_sound, rest_ordered⟩ := @behind_sound rate arithmetic Worker _ positive earlier _ sound clock
    have stretch_ordered : Ordered (behind arithmetic (.initial rate started) earlier).lastRefillAt stretch := by
      rw [Ordered, List.map_append, ← List.cons_append] at rest_ordered
      exact (List.pairwise_append.mp rest_ordered).1
    obtain ⟨request, member⟩ := List.exists_mem_of_ne_nil _
      (@granted_of_keepsPolling rate arithmetic Worker _ _ positive stretch behind_is_sound stretch_ordered worker polls)
    exact ⟨request, member, alone request member⟩

/-- Two workers in one second, two tokens a second. -/
theorem two_workers_bounded :
    (during 0 (0 + (1000 : ℕ)) (granted (.exact 2) (.initial 2 0)
      [⟨true, 0⟩, ⟨false, 0⟩, ⟨true, 400⟩, ⟨false, 700⟩])).length ≤ 2 + 1000 * 2 / 1000 + 1 :=
  (rate_bounded (.exact 2) (by decide) 0 [⟨true, 0⟩, ⟨false, 0⟩, ⟨true, 400⟩, ⟨false, 700⟩]
    (by unfold Ordered; decide)).1 0 1000

end ProxyPay.BatchWorker.Tokens
