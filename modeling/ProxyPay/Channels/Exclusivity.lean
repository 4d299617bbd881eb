import ProxyPay.Channels.Pool

/-! One lease per account. The status of a row keeps others away while somebody holds it, and the
recovery of old locks is the one thing that frees a row that is held. -/

namespace ProxyPay.Channels

open ProxyPay.Library

variable {config : PoolConfig} {start before after last : Pool} {action : Action}
variable {trace : List Action} {hold : Hold} {index : Nat} {phase : Phase}

/-- At most one lease per account, and none on an idle row. -/
structure ExclusiveLeases (pool : Pool) : Prop where
  single : Exclusive Hold.account Hold.outstanding pool.holds
  idle : ∀ id row, pool.accounts id = some row → row.status = .idle →
    ∀ hold ∈ pool.holds, hold.outstanding = true → hold.account ≠ id

/-- The recovery comes before the holds on rows have grown old: no hold outlives the lock timeout,
and no row that was disabled under its holder is held until it is enabled again. -/
def Prompt (config : PoolConfig) (before : Pool) (action : Action) (_after : Pool) : Prop :=
  match action with
  | .recoverStale => ∀ hold ∈ before.holds, hold.live = true →
      before.clock ≤ hold.since + config.lockTimeoutMs
  | .recoverDisabled => ∀ hold ∈ before.holds, hold.live = true →
      ∀ row, before.accounts hold.account = some row → row.status = .disabled →
        ∀ time, row.disabledAt = some time → before.clock ≤ time + config.disableRecoveryMs
  | _ => True

/-- The row of a hold is locked since the hold began, unless it was disabled meanwhile. -/
def Guards (hold : Hold) (row : ChannelAccountRow) : Prop :=
  row.status = .busy ∧ row.lockedAt = some hold.since ∨ row.status = .disabled

structure Held (pool : Pool) : Prop where
  exclusive : Exclusive Hold.account Hold.live pool.holds
  guarded : ∀ hold ∈ pool.holds, hold.live = true →
    ∀ row, pool.accounts hold.account = some row → Guards hold row

theorem Hold.live_of_outstanding (leased : hold.outstanding = true) : hold.live = true := by
  have phase : hold.phase = .leased := by simpa [outstanding] using leased
  simp [live, phase]

theorem Held.exclusiveLeases (held : Held last) : ExclusiveLeases last := by
  constructor
  · intro i j first second foundFirst foundSecond leasedFirst leasedSecond same
    exact held.exclusive i j first second foundFirst foundSecond
      (Hold.live_of_outstanding leasedFirst) (Hold.live_of_outstanding leasedSecond) same
  · intro id row stored idle hold member leased same
    subst same
    have guards := held.guarded hold member (Hold.live_of_outstanding leased) row stored
    unfold Guards at guards
    simp [idle] at guards

section

variable (held : Held before)

include held

theorem Held.keep (sameHolds : after.holds = before.holds)
    (kept : ∀ hold ∈ before.holds, hold.live = true → ∀ row, after.accounts hold.account = some row →
      ∃ old, before.accounts hold.account = some old ∧ (Guards hold old → Guards hold row)) :
    Held after := by
  constructor
  · rw [sameHolds]
    exact held.exclusive
  · intro hold member alive row stored
    rw [sameHolds] at member
    obtain ⟨old, known, guards⟩ := kept hold member alive row stored
    exact guards (held.guarded hold member alive old known)

theorem Held.frame (sameHolds : after.holds = before.holds)
    (sameAccounts : after.accounts = before.accounts) : Held after := by
  apply held.keep sameHolds
  intro hold _ _ row stored
  rw [sameAccounts] at stored
  exact ⟨row, stored, fun guards => guards⟩

theorem Held.enter (found : before.holds[index]? = some hold)
    (alive : ({ hold with phase } : Hold).live = true → hold.live = true)
    (sameHolds : after.holds = before.holds.set index { hold with phase })
    (sameAccounts : after.accounts = before.accounts) : Held after := by
  constructor
  · rw [sameHolds]
    exact held.exclusive.set found rfl alive
  · intro other member otherAlive row stored
    rw [sameHolds] at member
    rw [sameAccounts] at stored
    rcases List.mem_or_eq_of_mem_set member with old | new
    · exact held.guarded other old otherAlive row stored
    · subst new
      exact held.guarded hold (List.mem_of_getElem? found) (alive otherAlive) row stored

theorem Held.acquire {id : AccountId} {origin : Origin} (taken : before.acquireIdle id origin = some after) : Held after := by
  unfold Pool.acquireIdle at taken
  obtain ⟨row, stored, rest⟩ := Option.bind_eq_some_iff.mp taken
  by_cases idle : row.status = .idle
  · rw [if_pos idle] at rest
    cases rest
    have free : ∀ hold ∈ before.holds, hold.account = id → hold.live = false := by
      intro hold member same
      by_contra alive
      have guards := held.guarded hold member (by simpa using alive) row (same ▸ stored)
      unfold Guards at guards
      simp [idle] at guards
    constructor
    · exact held.exclusive.start free
    · intro hold member alive taken stored
      rcases List.mem_append.mp member with old | new
      · have other : hold.account ≠ id := by
          intro same
          rw [free hold old same] at alive
          cases alive
        simp only [Pool.update, if_neg other] at stored
        exact held.guarded hold old alive taken stored
      · obtain rfl := List.mem_singleton.mp new
        obtain ⟨old, -, changed⟩ := Option.map_eq_some_iff.mp (by simpa [Pool.update] using stored)
        left
        rw [← changed]
        exact ⟨rfl, rfl⟩
  · rw [if_neg idle] at rest
    cases rest

theorem Held.giveBack (found : before.holds[index]? = some hold)
    (alive : hold.live = true) (ended : ({ hold with phase } : Hold).live = false)
    (change : ChannelAccountRow → ChannelAccountRow) :
    Held ((before.update hold.account change).enter index hold phase) := by
  constructor
  · exact held.exclusive.set found rfl (by rw [ended]; simp)
  · intro other member otherAlive row stored
    rw [Pool.enter_holds] at member
    obtain ⟨place, there⟩ := List.mem_iff_getElem?.mp member
    rcases getElem?_set_of_some there with ⟨-, same⟩ | ⟨apart, known⟩
    · rw [same, ended] at otherAlive
      cases otherAlive
    · have elsewhere : other.account ≠ hold.account := by
        intro same
        exact apart (held.exclusive place index other hold known found otherAlive alive same)
      have kept : before.accounts other.account = some row := by
        simpa [Pool.update, elsewhere] using stored
      exact held.guarded other (List.mem_of_getElem? known) otherAlive row kept

theorem Held.recoverStale (prompt : Prompt config before .recoverStale after) (moved : after = before.updateAll
      (ChannelAccountRow.recoverStale config.lockTimeoutMs before.clock)) : Held after := by
  subst moved
  refine held.keep rfl ?_
  intro hold member alive row stored
  obtain ⟨old, known, changed⟩ := Option.map_eq_some_iff.mp stored
  refine ⟨old, known, ?_⟩
  intro guards
  have young := prompt hold member alive
  have unchanged : ChannelAccountRow.recoverStale config.lockTimeoutMs before.clock old = old := by
    unfold ChannelAccountRow.recoverStale
    rw [if_neg]
    rintro ⟨busy, past⟩
    rcases guards with ⟨-, locked⟩ | disabled
    · simp only [ChannelAccountRow.past, locked, decide_eq_true_eq] at past
      omega
    · simp [busy] at disabled
  rw [← changed, unchanged]
  exact guards

theorem Held.recoverDisabled (prompt : Prompt config before .recoverDisabled after) (moved : after = before.updateAll
      (ChannelAccountRow.recoverDisabled config.disableRecoveryMs before.clock)) : Held after := by
  subst moved
  refine held.keep rfl ?_
  intro hold member alive row stored
  obtain ⟨old, known, changed⟩ := Option.map_eq_some_iff.mp stored
  refine ⟨old, known, ?_⟩
  intro guards
  have unchanged : ChannelAccountRow.recoverDisabled config.disableRecoveryMs before.clock old =
      old := by
    unfold ChannelAccountRow.recoverDisabled
    rw [if_neg]
    rintro ⟨disabled, past⟩
    cases since : old.disabledAt with
    | none => simp [ChannelAccountRow.past, since] at past
    | some time =>
      have young := prompt hold member alive old known disabled time since
      simp only [ChannelAccountRow.past, since, decide_eq_true_eq] at past
      omega
  rw [← changed, unchanged]
  exact guards

theorem Held.step (prompt : Prompt config before action after)
    (move : step config before action after) : Held after := by
  change before.perform config action = some after at move
  cases action with
  | tick elapsed =>
    cases move
    exact held.frame rfl rfl
  | acquire id => exact held.acquire move
  | acquireFindsNone =>
    cases move
    unfold Pool.enqueue
    split <;> exact held.frame rfl rfl
  | processQueue =>
    simp only [Pool.perform] at move
    split at move <;> cases move <;> exact held.frame rfl rfl
  | processQueueAcquires id =>
    simp only [Pool.perform] at move
    split at move
    · cases move
    · exact (held.frame rfl rfl : Held { before with processing := before.processing - 1 }).acquire move
  | processQueueFindsNone =>
    simp only [Pool.perform] at move
    split at move <;> cases move
    exact held.frame rfl rfl
  | deliver index =>
    obtain ⟨hold, located, delivered⟩ := Option.map_eq_some_iff.mp move
    obtain ⟨found, acquired⟩ := Pool.holdIn_some located
    have alive : hold.live = true := by simp [Hold.live, acquired]
    subst delivered
    unfold Pool.deliver
    split <;> exact held.enter found (fun _ => alive) rfl rfl
  | failToBuild index =>
    obtain ⟨hold, located, failed⟩ := Option.bind_eq_some_iff.mp move
    obtain ⟨found, acquired⟩ := Pool.holdIn_some located
    have alive : hold.live = true := by simp [Hold.live, acquired]
    unfold Pool.failToBuild at failed
    split at failed <;> cases failed <;> exact held.enter found (fun _ => alive) rfl rfl
  | loseAnswer index =>
    obtain ⟨hold, located, lost⟩ := Option.map_eq_some_iff.mp move
    obtain ⟨found, acquired⟩ := Pool.holdIn_some located
    subst lost
    exact held.enter found (by simp [Hold.live]) rfl rfl
  | release index success newSequence =>
    obtain ⟨hold, located, released⟩ := Option.map_eq_some_iff.mp move
    obtain ⟨found, leased⟩ := Pool.holdIn_some located
    subst released
    exact held.enter found (fun _ => by simp [Hold.live, leased]) rfl rfl
  | releaseUpdate index =>
    obtain ⟨hold, found, updated⟩ := Option.bind_eq_some_iff.mp move
    split at updated
    · rename_i success newSequence releasing
      cases updated
      exact held.giveBack found (by simp [Hold.live, releasing]) rfl _
    · rename_i returning
      cases updated
      exact held.giveBack found (by simp [Hold.live, returning]) rfl _
    · cases updated
  | releaseFails index =>
    obtain ⟨hold, found, failed⟩ := Option.bind_eq_some_iff.mp move
    split at failed <;> cases failed <;> exact held.enter found (by simp [Hold.live]) rfl rfl
  | timeout caller =>
    simp only [Pool.perform, Pool.timeout] at move
    split at move
    · cases move
      exact held
    · split at move <;> cases move
      exact held.frame rfl rfl
  | expire =>
    cases move
    obtain ⟨accounts, holds⟩ := before.rejectAll_frame "Queue timeout"
      (before.acquireQueue.takeWhile (before.expired config))
    exact held.frame holds accounts
  | shutdown =>
    cases move
    obtain ⟨accounts, holds⟩ := before.rejectAll_frame "Pool is shutting down" before.acquireQueue
    exact held.frame holds accounts
  | resyncSequence id newSequence =>
    cases move
    refine held.keep rfl ?_
    intro hold _ _ row stored
    by_cases same : hold.account = id
    · obtain ⟨old, known, changed⟩ := Option.map_eq_some_iff.mp
        (by simpa [Pool.update, same] using stored)
      refine ⟨old, same ▸ known, ?_⟩
      rw [← changed]
      exact fun guards => guards
    · exact ⟨row, by simpa [Pool.update, same] using stored, fun guards => guards⟩
  | recoverStale =>
    cases move
    exact held.recoverStale prompt rfl
  | recoverDisabled =>
    cases move
    exact held.recoverDisabled prompt rfl
  | disable id =>
    cases move
    refine held.keep rfl ?_
    intro hold _ _ row stored
    by_cases same : hold.account = id
    · obtain ⟨old, known, changed⟩ := Option.map_eq_some_iff.mp
        (by simpa [Pool.update, same] using stored)
      refine ⟨old, same ▸ known, ?_⟩
      intro _
      right
      rw [← changed]
      rfl
    · exact ⟨row, by simpa [Pool.update, same] using stored, fun guards => guards⟩

end

/-- Leases are exclusive in every state that a run reaches, as long as the recovery finds only
locks that nobody holds any more. -/
theorem leases_exclusive (fresh : start.Fresh) (run : Run (step config) start trace last)
    (prompt : Throughout (step config) start (Prompt config) trace) : ExclusiveLeases last := by
  apply Held.exclusiveLeases
  apply (run.restrict prompt).invariant fun _ pool => Held pool
  · constructor
    · rw [fresh.holds]
      exact Exclusive.nil
    · simp [fresh.holds]
  · rintro _ before action after held ⟨move, prompt⟩
    exact held.step prompt move

theorem lease_exclusive : ∃ last, Run (step .default) Pool.one [.recoverStale, .acquire "channel-1", .deliver 0] last ∧
      last.holds = [⟨"channel-1", 0, .acquire, .leased⟩] ∧ ExclusiveLeases last := by
  obtain ⟨last, followed, holds⟩ := Option.map_eq_some_iff.mp
    (show ([.recoverStale, .acquire "channel-1", .deliver 0].foldlM (Pool.perform .default)
      Pool.one).map Pool.holds = some [⟨"channel-1", 0, .acquire, .leased⟩] from rfl)
  have run := run_follow followed
  refine ⟨last, run, holds, leases_exclusive Pool.one_fresh run ?_⟩
  intro earlier action rest before after split reached _
  cases earlier with
  | nil =>
    cases split
    rw [reached.eq_of_nil]
    simp [Prompt, Pool.one]
  | cons first earlier =>
    have others : action = .acquire "channel-1" ∨ action = .deliver 0 := by
      have member : action ∈ [Action.acquire "channel-1", .deliver 0] := by
        rw [(List.cons.inj split).2]
        simp
      simpa using member
    rcases others with same | same <;> simp [same, Prompt]

/-- A lease is a little older than the lock timeout when the maintenance frees its row. -/
def slowLease : List Action :=
  [.acquire "channel-1", .deliver 0, .tick 30001, .recoverStale, .acquire "channel-1", .deliver 1]

theorem slow_lease_shared : ∃ last, Pool.one.Fresh ∧ Run (step .default) Pool.one slowLease last ∧ last.holds =
      [⟨"channel-1", 0, .acquire, .leased⟩, ⟨"channel-1", 30001, .acquire, .leased⟩] ∧
    ¬ExclusiveLeases last := by
  obtain ⟨last, followed, holds⟩ := Option.map_eq_some_iff.mp
    (show (slowLease.foldlM (Pool.perform .default) Pool.one).map Pool.holds =
      some [⟨"channel-1", 0, .acquire, .leased⟩, ⟨"channel-1", 30001, .acquire, .leased⟩] from rfl)
  refine ⟨last, Pool.one_fresh, run_follow followed, holds, ?_⟩
  intro exclusive
  have single := exclusive.single
  rw [holds] at single
  have same := single 0 1 _ _ rfl rfl rfl rfl rfl
  cases same

end ProxyPay.Channels
