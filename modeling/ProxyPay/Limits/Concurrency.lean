import ProxyPay.Library.Exclusive
import ProxyPay.Library.Transition
import ProxyPay.Limits.Check

/-! The daily limits hold in any interleaving in which a user is not checked while an earlier request of theirs
is still under way: the check counts completed transactions only. -/

namespace ProxyPay.Limits

open ProxyPay.Library ProxyPay.Library.Text

variable {config : Config} {getUserKYCLevel : String → Option KYCLevel} {before after : Traffic}

/-- The daily limits of a user: that of their level for all transactions, and that of each provider for the
transactions of the provider. -/
inductive Applies (config : Config) (getUserKYCLevel : String → Option KYCLevel) (userId : String) :
    (Transaction → Bool) → ℕ → Prop where
  | global {level : KYCLevel} (known : getUserKYCLevel userId = some level) :
      Applies config getUserKYCLevel userId (fun _ => true) (config.TRANSACTION_LIMITS level)
  | provider {provider : String} {limit : ℕ} (known : getProviderDailyLimit config (some provider) = some limit) :
      Applies config getUserKYCLevel userId (isOf config provider) limit

variable (userId : String)

def completedIn (start : ℕ) (tx : Transaction) : Bool :=
  tx.userId = userId && tx.status = .completed && start ≤ tx.createdAt && tx.createdAt ≤ start + twentyFourHours

/-- What a user has completed of what was created in any 24 hours does not exceed a limit. -/
def WithinLimits (config : Config) (getUserKYCLevel : String → Option KYCLevel) (traffic : Traffic) : Prop :=
  ∀ userId start counts limit, Applies config getUserKYCLevel userId counts limit →
    total Transaction.amount (fun tx => completedIn userId start tx && counts tx) traffic.transactions ≤ limit

/-- When a user is checked, none of their transactions of the last 24 hours is pending and no other request of
theirs is admitted. -/
def Alone (traffic : Traffic) : Label → Prop
  | .check request =>
    (∀ tx ∈ traffic.transactions, tx.userId = request.userId → traffic.now ≤ tx.createdAt + twentyFourHours →
      tx.status ≠ .pending) ∧
    ∀ other ∈ traffic.admitted, other.userId ≠ request.userId
  | _ => True

instance (traffic : Traffic) : DecidablePred (Alone traffic)
  | .check _ => inferInstanceAs (Decidable (_ ∧ _))
  | .tick _ => isTrue trivial
  | .create _ => isTrue trivial
  | .abandon _ => isTrue trivial
  | .complete _ => isTrue trivial
  | .fail _ => isTrue trivial

def Request.created (request : Request) (now : ℕ) : Transaction :=
  ⟨request.userId, request.amount, request.provider, .pending, now⟩

variable {limit : ℕ}

theorem Applies.same {userId : String} {counts : Transaction → Bool}
    (applies : Applies config getUserKYCLevel userId counts limit) {first second : Transaction}
    (same : first.provider = second.provider) : counts first = counts second := by
  cases applies with
  | global known => rfl
  | provider known => rw [isOf, isOf, same]

theorem getProviderDailyLimit_eq_some {provider : Option String} : getProviderDailyLimit config provider = some limit ↔
      ∃ name, truthy provider = some name ∧ config.getProviderLimits (config.casing.lower name) = some limit := by
  unfold getProviderDailyLimit
  cases truthy provider with
  | none | some name => simp

/-- What a user has completed since this time. -/
def completedSince (since : ℕ) (tx : Transaction) : Bool :=
  tx.userId = userId && tx.status = .completed && since ≤ tx.createdAt

theorem fits_of_allows {traffic : Traffic} {request : Request}
    (allowed : allows config getUserKYCLevel traffic request = true) :
    0 ≤ request.amount ∧ ∀ counts limit, Applies config getUserKYCLevel request.userId counts limit →
      counts (request.created traffic.now) = true →
      total Transaction.amount
          (fun tx => completedSince request.userId (traffic.now - twentyFourHours) tx && counts tx) traffic.transactions +
        request.amount ≤ limit := by
  unfold allows checkTransactionLimit at allowed
  split at allowed
  case h_2 => cases allowed
  case h_1 result answer =>
    split at answer
    · cases answer
      cases allowed
    rename_i large
    split at answer
    · cases answer
      cases allowed
    have positive : 0 ≤ request.amount := le_trans (Nat.cast_nonneg _) (not_lt.mp large)
    refine ⟨positive, ?_⟩
    split at answer
    · cases answer
    rename_i level known
    dsimp only at answer
    split at answer
    · cases answer
      cases allowed
    rename_i provider
    split at answer
    · cases answer
      cases allowed
    rename_i global
    intro counts limit applies counted
    have recent : total Transaction.amount
        (fun tx => completedSince request.userId (traffic.now - twentyFourHours) tx && counts tx) traffic.transactions =
        total Transaction.amount counts
          (findCompletedByUserSince traffic.transactions request.userId (traffic.now - twentyFourHours)) := by
      unfold findCompletedByUserSince
      rw [total_filter]
      rfl
    rw [recent]
    cases applies with
    | @global other same => simp_all [List.filter_true, total]
    | @provider name limit same =>
      have lower : config.casing.lower (request.provider.getD "") = config.casing.lower name := of_decide_eq_true counted
      obtain ⟨_, visible, selected⟩ := (getProviderDailyLimit_eq_some).mp same
      obtain ⟨whole, present⟩ := truthy_eq_some.mp visible
      cases whole
      cases given : truthy request.provider with
      | none =>
        -- The empty provider is none, so that no limit is configured for it.
        have empty : request.provider.getD "" = "" := by
          by_contra shown
          rw [← truthy_getD, truthy_eq_some.mpr ⟨rfl, shown⟩] at given
          cases given
        rw [empty] at lower
        exact (present (config.visible _ lower.symm)).elim
      | some text =>
        obtain ⟨named, _⟩ := truthy_eq_some.mp given
        rw [named] at lower
        change config.casing.lower text = _ at lower
        rw [← lower] at selected
        rw [(getProviderDailyLimit_eq_some).mpr ⟨text, given, selected⟩, Option.filter_eq_none_iff] at provider
        have enough := provider limit rfl
        unfold getProviderDailyTotal at enough
        rw [given] at enough
        have agree : isOf config text = isOf config name := by
          funext tx
          rw [isOf, isOf, lower]
        simp only [decide_eq_true_eq, not_lt, agree] at enough
        exact enough

/-! The invariant. -/

/-- What a user has not failed of what was created since this time. -/
def standingSince (since : ℕ) (tx : Transaction) : Bool :=
  tx.userId = userId && tx.status ≠ .failed && since ≤ tx.createdAt

def standingIn (start : ℕ) (tx : Transaction) : Bool :=
  standingSince userId start tx && tx.createdAt ≤ start + twentyFourHours

/-- Also what is pending keeps to the limits, and what is admitted still fits into them. -/
structure Kept (config : Config) (getUserKYCLevel : String → Option KYCLevel) (traffic : Traffic) : Prop where
  positive : ∀ tx ∈ traffic.transactions, 0 ≤ tx.amount
  past : ∀ tx ∈ traffic.transactions, tx.createdAt ≤ traffic.now
  distinct : traffic.admitted.Pairwise fun first second => first.userId ≠ second.userId
  fits : ∀ request ∈ traffic.admitted, 0 ≤ request.amount ∧ ∀ counts limit,
    Applies config getUserKYCLevel request.userId counts limit → counts (request.created traffic.now) = true →
    total Transaction.amount
        (fun tx => standingSince request.userId (traffic.now - twentyFourHours) tx && counts tx) traffic.transactions +
      request.amount ≤ limit
  limited : ∀ userId start counts limit, Applies config getUserKYCLevel userId counts limit →
    total Transaction.amount (fun tx => standingIn userId start tx && counts tx) traffic.transactions ≤ limit

theorem Kept.withinLimits (kept : Kept config getUserKYCLevel before) : WithinLimits config getUserKYCLevel before := by
  intro userId start counts limit applies
  apply le_trans _ (kept.limited userId start counts limit applies)
  apply total_mono kept.positive
  intro tx _ counted
  simp only [completedIn, standingIn, standingSince, Bool.and_eq_true, decide_eq_true_eq] at counted ⊢
  obtain ⟨⟨⟨⟨owner, done⟩, since⟩, bound⟩, counted⟩ := counted
  simp [owner, done, since, bound, counted]

theorem kept_initial (now : ℕ) : Kept config getUserKYCLevel (.initial now) := by
  constructor
  · nofun
  · nofun
  · exact List.Pairwise.nil
  · nofun
  · intro userId start counts limit _
    exact Nat.cast_nonneg limit

section

variable (kept : Kept config getUserKYCLevel before)

include kept

theorem Kept.tick (elapsed : ℕ) : Kept config getUserKYCLevel { before with now := before.now + elapsed } := by
  constructor
  · exact kept.positive
  · intro tx member
    exact Nat.le_add_right_of_le (kept.past tx member)
  · exact kept.distinct
  · intro request member
    obtain ⟨positive, fits⟩ := kept.fits request member
    refine ⟨positive, ?_⟩
    intro counts limit applies counted
    rw [applies.same (show (request.created (before.now + elapsed)).provider = (request.created before.now).provider
      from rfl)] at counted
    apply le_trans _ (fits counts limit applies counted)
    apply add_le_add_left
    apply total_mono kept.positive
    intro tx _ later
    simp only [standingSince, Bool.and_eq_true, decide_eq_true_eq] at later ⊢
    refine ⟨⟨later.1.1, ?_⟩, later.2⟩
    have since := later.1.2
    omega
  · exact kept.limited

variable {request : Request}

theorem Kept.admit (allowed : allows config getUserKYCLevel before request = true) (alone : Alone before (.check request)) :
    Kept config getUserKYCLevel { before with admitted := before.admitted ++ [request] } := by
  obtain ⟨positive, fits⟩ := fits_of_allows allowed
  obtain ⟨settled, others⟩ := alone
  constructor
  · exact kept.positive
  · exact kept.past
  · apply List.pairwise_append.mpr
    refine ⟨kept.distinct, List.pairwise_singleton _ _, ?_⟩
    intro other member new new_member
    rw [List.mem_singleton] at new_member
    subst new_member
    exact others other member
  · intro other member
    rcases List.mem_append.mp member with earlier | new
    · exact kept.fits other earlier
    · rw [List.mem_singleton] at new
      subst new
      refine ⟨positive, ?_⟩
      intro counts limit applies counted
      apply le_trans _ (fits counts limit applies counted)
      apply add_le_add_left
      apply total_mono kept.positive
      intro tx there standing
      simp only [standingSince, completedSince, Bool.and_eq_true, decide_eq_true_eq] at standing ⊢
      obtain ⟨⟨⟨owner, unfailed⟩, since⟩, counted⟩ := standing
      refine ⟨⟨⟨owner, ?_⟩, since⟩, counted⟩
      -- Nothing of the user is pending, so that what has not failed is completed.
      have done := settled tx there owner (by omega)
      cases status : tx.status with
      | pending => exact (done status).elim
      | completed => rfl
      | failed => exact (unfailed status).elim
  · exact kept.limited

theorem Kept.abandon (index : ℕ) :
    Kept config getUserKYCLevel { before with admitted := before.admitted.eraseIdx index } := by
  constructor
  · exact kept.positive
  · exact kept.past
  · exact kept.distinct.sublist (List.eraseIdx_sublist _ _)
  · intro request member
    exact kept.fits request (List.mem_of_mem_eraseIdx member)
  · exact kept.limited

variable {index : ℕ}

theorem Kept.others {other : Request}
    (found : before.admitted[index]? = some request) (member : other ∈ before.admitted.eraseIdx index) :
    request.userId ≠ other.userId := by
  obtain ⟨inside, rfl⟩ := List.getElem?_eq_some_iff.mp found
  have whole := (List.Perm.pairwise_iff (fun different same => different same.symm)
    (List.getElem_cons_eraseIdx_perm inside)).mpr kept.distinct
  exact List.rel_of_pairwise_cons whole member

theorem Kept.create (found : before.admitted[index]? = some request) : Kept config getUserKYCLevel { before with
      admitted := before.admitted.eraseIdx index
      transactions := before.transactions ++ [request.created before.now] } := by
  obtain ⟨positive, fits⟩ := kept.fits request (List.mem_of_getElem? found)
  have rest := kept.abandon index
  constructor
  · intro tx member
    rcases List.mem_append.mp member with earlier | new
    · exact kept.positive tx earlier
    · rw [List.mem_singleton] at new
      exact new ▸ positive
  · intro tx member
    rcases List.mem_append.mp member with earlier | new
    · exact kept.past tx earlier
    · rw [List.mem_singleton] at new
      subst new
      exact Nat.le_refl _
  · exact rest.distinct
  · intro other member
    obtain ⟨more, fits⟩ := rest.fits other member
    refine ⟨more, ?_⟩
    intro counts limit applies counted
    have foreign : standingSince other.userId (before.now - twentyFourHours) (request.created before.now) = false := by
      simp [standingSince, Request.created, kept.others found member]
    rw [total_append, total_singleton, foreign, Bool.false_and, if_neg Bool.false_ne_true, add_zero]
    exact fits counts limit applies counted
  · intro userId start counts limit applies
    rw [total_append, total_singleton]
    by_cases counted : (standingIn userId start (request.created before.now) &&
      counts (request.created before.now)) = true
    · rw [if_pos counted]
      simp only [standingIn, standingSince, Bool.and_eq_true, decide_eq_true_eq] at counted
      obtain ⟨⟨⟨⟨owner, _⟩, since⟩, bound⟩, counted⟩ := counted
      change before.now ≤ start + twentyFourHours at bound
      change request.userId = userId at owner
      subst owner
      apply le_trans _ (fits counts limit applies counted)
      apply add_le_add_left
      apply total_mono kept.positive
      intro tx _ standing
      simp only [standingIn, standingSince, Bool.and_eq_true, decide_eq_true_eq] at standing ⊢
      refine ⟨⟨standing.1.1.1, ?_⟩, standing.2⟩
      have later := standing.1.1.2
      omega
    · rw [if_neg counted, add_zero]
      exact kept.limited userId start counts limit applies

theorem Kept.settle {status : TransactionStatus}
    (settled : before.settle index status = some after) : Kept config getUserKYCLevel after := by
  obtain ⟨tx, found, rest⟩ := Option.bind_eq_some_iff.mp settled
  split at rest
  case isFalse => cases rest
  case isTrue pending =>
    cases rest
    have member := List.mem_of_getElem? found
    have less (userId : String) (counts : Transaction → Bool) (limit : ℕ)
        (applies : Applies config getUserKYCLevel userId counts limit) (others : Transaction → Bool)
        (standing : ∀ other, others { tx with status := other } = true → others tx = true) :
        total Transaction.amount (fun tx => others tx && counts tx) (before.transactions.set index { tx with status }) ≤
          total Transaction.amount (fun tx => others tx && counts tx) before.transactions := by
      apply total_set_le found (kept.positive tx member)
      · rfl
      · intro counted
        rw [Bool.and_eq_true] at counted ⊢
        refine ⟨standing status counted.1, ?_⟩
        rw [applies.same (show tx.provider = ({ tx with status } : Transaction).provider from rfl)]
        exact counted.2
    have since (userId : String) (start : ℕ) (other : TransactionStatus)
        (counted : standingSince userId start { tx with status := other } = true) :
        standingSince userId start tx = true := by
      simp only [standingSince, Bool.and_eq_true, decide_eq_true_eq] at counted ⊢
      exact ⟨⟨counted.1.1, by rw [pending]; decide⟩, counted.2⟩
    constructor
    · exact forall_mem_set kept.positive (kept.positive tx member)
    · exact forall_mem_set kept.past (kept.past tx member)
    · exact kept.distinct
    · intro request admitted
      obtain ⟨positive, fits⟩ := kept.fits request admitted
      refine ⟨positive, ?_⟩
      intro counts limit applies counted
      apply le_trans _ (fits counts limit applies counted)
      apply add_le_add_left
      exact less _ counts limit applies _ (since _ _)
    · intro userId start counts limit applies
      apply le_trans _ (kept.limited userId start counts limit applies)
      apply less _ counts limit applies
      intro other counted
      simp only [standingIn, Bool.and_eq_true, decide_eq_true_eq] at counted ⊢
      exact ⟨since _ _ _ counted.1, counted.2⟩

theorem Kept.step {label : Label} (move : step config getUserKYCLevel before label after) (alone : Alone before label) :
    Kept config getUserKYCLevel after := by
  cases label with
  | tick elapsed =>
    cases move
    exact kept.tick elapsed
  | check request =>
    change (if allows config getUserKYCLevel before request then _ else _) = _ at move
    by_cases allowed : allows config getUserKYCLevel before request = true
    · rw [if_pos allowed] at move
      cases move
      exact kept.admit allowed alone
    · simp_all
  | create index =>
    obtain ⟨request, found, rest⟩ := Option.bind_eq_some_iff.mp move
    cases rest
    exact kept.create found
  | abandon index =>
    cases move
    exact kept.abandon index
  | complete index | fail index => exact kept.settle move

end

/-- The default limits. -/
def Config.sample : Config where
  TRANSACTION_LIMITS
    | .unverified => 10000
    | .basic => 100000
    | .full => 1000000
  MIN_TRANSACTION_AMOUNT := 100
  MAX_TRANSACTION_AMOUNT := 1000000
  positive := by decide
  getProviderLimits provider :=
    if provider = "mtn" then some 500000
    else if provider = "airtel" then some 1000000
    else if provider = "orange" then some 750000
    else none
  casing := .ascii
  visible text same := by
    have length := congrArg String.length same
    simpa [Casing.ascii, String.toLower] using length
  template amount := toString amount.num

def unverified (_userId : String) : Option KYCLevel := some .unverified

def six : Request := ⟨"alice", 6000, some "mtn"⟩

/-- The second request is refused. -/
def settledFirst : List Label :=
  [.check six, .create 0, .complete 0, .check six, .check ⟨"alice", 4000, some "mtn"⟩, .create 0, .complete 1]

/-- Both requests are let through before one of them is completed. -/
def overlapping : List Label :=
  [.check six, .create 0, .check six, .create 0, .complete 0, .complete 1]

theorem allows_iff {traffic : Traffic} {request : Request} : allows config getUserKYCLevel traffic request = true ↔
    let recent := findCompletedByUserSince traffic.transactions request.userId (traffic.now - twentyFourHours)
    config.MIN_TRANSACTION_AMOUNT ≤ request.amount ∧ request.amount ≤ config.MAX_TRANSACTION_AMOUNT ∧
      (∀ limit, getProviderDailyLimit config request.provider = some limit →
        getProviderDailyTotal config recent request.provider + request.amount ≤ limit) ∧
      ∃ level, getUserKYCLevel request.userId = some level ∧
        (recent.map Transaction.amount).sum + request.amount ≤ config.TRANSACTION_LIMITS level := by
  unfold allows checkTransactionLimit
  by_cases small : request.amount < config.MIN_TRANSACTION_AMOUNT
  · simp [small, outOfRange, pure, Except.pure]
  · by_cases large : config.MAX_TRANSACTION_AMOUNT < request.amount
    · simp [small, large, outOfRange, pure, Except.pure]
    · cases known : getUserKYCLevel request.userId with
      | none => simp [small, large, throw, throwThe, MonadExceptOf.throw]
      | some level =>
        simp only [if_neg small, if_neg large]
        have within := And.intro (not_lt.mp small) (not_lt.mp large)
        generalize findCompletedByUserSince traffic.transactions request.userId (traffic.now - twentyFourHours) = recent
        cases configured : getProviderDailyLimit config request.provider with
        | none =>
          rcases lt_or_ge (config.TRANSACTION_LIMITS level : ℚ) ((recent.map Transaction.amount).sum + request.amount) with ended | under
          · simp [pure, Except.pure, ended, ended.not_ge]
          · simp [pure, Except.pure, within, under, under.not_gt]
        | some limit =>
          rcases lt_or_ge (limit : ℚ) (getProviderDailyTotal config recent request.provider + request.amount) with above | below
          · simp [pure, Except.pure, Option.filter_some, above, above.not_ge]
          · rcases lt_or_ge (config.TRANSACTION_LIMITS level : ℚ) ((recent.map Transaction.amount).sum + request.amount) with ended | under
            · simp [pure, Except.pure, Option.filter_some, below.not_gt, ended, ended.not_ge]
            · simp [pure, Except.pure, Option.filter_some, within, below, below.not_gt, under, under.not_gt]

end ProxyPay.Limits
