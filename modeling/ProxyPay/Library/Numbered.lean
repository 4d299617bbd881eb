import Mathlib.Data.Int.Notation
import ProxyPay.Library.Exclusive
import ProxyPay.Library.Script
import ProxyPay.Library.Transition

/-! A client that submits transactions to a ledger, which applies a transaction only if its number is the
next of its account. The client waits for the answer to what it has sent, and may lose it. -/

namespace ProxyPay.Library.Numbered

/-- What the ledger has made of a transaction. -/
inductive Fate where
  | flying
  | applied
  | mismatched
  | refused
  deriving DecidableEq

/-- What the client has heard of a transaction. -/
inductive Standing where
  | awaited
  | accepted
  | thrown
  deriving DecidableEq

structure Sent (Account : Type) where
  account : Account
  number : ℤ
  fate : Fate
  standing : Standing

/-- What the client observes: a `lost` answer says nothing about the transaction. -/
inductive Observation where
  | accepted
  | mismatched
  | refused
  | lost
  deriving DecidableEq

variable {Account Request Error α : Type} {Reply : Request → Type}

structure Client (Account Request : Type) (Reply : Request → Type) (Error α : Type) where
  rest : Script Request Reply Error α
  sent : List (Sent Account)
  waiting : Bool
  numbers : Account → ℤ

def Client.start (script : Script Request Reply Error α) (numbers : Account → ℤ) :
    Client Account Request Reply Error α :=
  ⟨script, [], false, numbers⟩

/-- `advance` is a transaction of somebody else, and `receive` the arrival of one that flies. -/
inductive Label (Request : Type) (Reply : Request → Type) (Error : Type) (Account : Type) where
  | answer (exchange : Exchange Request Reply Error)
  | send (request : Request)
  | receive (index : ℕ)
  | refuse (index : ℕ)
  | advance (account : Account)
  | observe (index : ℕ) (observation : Observation) (exchange : Exchange Request Reply Error)

/-- The observation goes with the fate of the transaction, and the answer with the observation. -/
def Observes (isMismatch : Error → Bool) {request : Request} (fate : Fate) (reply : Except Error (Reply request)) :
    Observation → Prop
  | .accepted => fate = .applied ∧ ∃ value, reply = .ok value
  | .mismatched => fate = .mismatched ∧ ∃ error, reply = .error error ∧ isMismatch error = true
  | .refused => fate = .refused ∧ ∃ error, reply = .error error ∧ isMismatch error = false
  | .lost => ∃ error, reply = .error error ∧ isMismatch error = false

def Observation.standing : Observation → Standing
  | .accepted => .accepted
  | _ => .thrown

/-- What the ledger makes of a transaction that arrives. -/
def Sent.judge (numbers : Account → ℤ) (sent : Sent Account) : Fate :=
  if sent.number = numbers sent.account + 1 then .applied else .mismatched

def Client.mark (client : Client Account Request Reply Error α) (index : ℕ) (sent : Sent Account) :
    Client Account Request Reply Error α :=
  { client with sent := client.sent.set index sent }

def Client.count [DecidableEq Account] (numbers : Account → ℤ) (account : Account) : Account → ℤ :=
  Function.update numbers account (numbers account + 1)

/-- A request that sends a transaction may also throw before it sends it. -/
def step [DecidableEq Account] (transaction : Request → Option (Account × ℤ)) (isMismatch : Error → Bool)
    (before : Client Account Request Reply Error α) (label : Label Request Reply Error Account)
    (after : Client Account Request Reply Error α) : Prop :=
  match label with
  | .answer exchange => before.waiting = false ∧ ∃ next, before.rest = .await exchange.request next ∧
      (transaction exchange.request = none ∨ ∃ error, exchange.reply = .error error) ∧
      after = { before with rest := next exchange.reply }
  | .send request => before.waiting = false ∧ ∃ next account number, before.rest = .await request next ∧
      transaction request = some (account, number) ∧
      after = { before with sent := before.sent ++ [⟨account, number, .flying, .awaited⟩], waiting := true }
  | .receive index => ∃ sent, before.sent[index]? = some sent ∧ sent.fate = .flying ∧
      after = { before.mark index { sent with fate := sent.judge before.numbers } with
        numbers := if sent.judge before.numbers = .applied then Client.count before.numbers sent.account
          else before.numbers }
  | .refuse index => ∃ sent, before.sent[index]? = some sent ∧ sent.fate = .flying ∧
      after = before.mark index { sent with fate := .refused }
  | .advance account => after = { before with numbers := Client.count before.numbers account }
  | .observe index observation exchange => ∃ sent next, before.sent[index]? = some sent ∧ sent.standing = .awaited ∧
      before.rest = .await exchange.request next ∧ Observes isMismatch sent.fate exchange.reply observation ∧
      after = { before.mark index { sent with standing := observation.standing } with
        rest := next exchange.reply, waiting := false }

def Sent.isApplied (sent : Sent Account) : Bool := sent.fate = .applied

def Sent.isAccepted (sent : Sent Account) : Bool := sent.standing = .accepted

def Sent.isAwaited (sent : Sent Account) : Bool := sent.standing = .awaited

/-- One transaction is applied at most, and none if the client reports a failure. -/
def AppliedOnce (succeeds : Except Error α → Bool) (client : Client Account Request Reply Error α) : Prop :=
  client.sent.countP Sent.isApplied ≤ 1 ∧
    ∀ outcome, client.rest = .done outcome → succeeds outcome = false → client.sent.countP Sent.isApplied = 0

/-- No answer of a transaction that is applied is lost, and no transaction is applied whose submission has thrown. -/
def IsHeard (before : Client Account Request Reply Error α) : Label Request Reply Error Account → Prop
  | .receive index => ∀ sent, before.sent[index]? = some sent → sent.judge before.numbers = .applied →
      sent.standing ≠ .thrown
  | .observe index .lost _ => ∀ sent, before.sent[index]? = some sent → sent.fate ≠ .applied
  | _ => True

/-- The script ends as soon as a transaction is accepted, and with success exactly then. -/
def Submits (transaction : Request → Option (Account × ℤ)) (succeeds : Except Error α → Bool) :
    Bool → Script Request Reply Error α → Prop
  | accepted, .done outcome => succeeds outcome = accepted
  | accepted, .await request next =>
    if (transaction request).isNone then ∀ reply, Submits transaction succeeds accepted (next reply)
    else accepted = false ∧ (∀ value, Submits transaction succeeds true (next (.ok value))) ∧
      ∀ error, Submits transaction succeeds false (next (.error error))

/-- What the outcome of the script is turned into does not send anything. -/
theorem Submits.conclude {β : Type} {transaction : Request → Option (Account × ℤ)} {succeeds : Except Error α → Bool}
    {reports : Except Error β → Bool} {accepted : Bool} {script : Script Request Reply Error α} {value : α → β}
    {failure : Error → Except Error β} (submits : Submits transaction succeeds accepted script)
    (returns : ∀ result, reports (.ok (value result)) = succeeds (.ok result))
    (throws : ∀ error, reports (failure error) = succeeds (.error error)) :
    Submits transaction reports accepted
      ((script.bind fun result => .done (.ok (value result))).catching fun error => .done (failure error)) := by
  induction script generalizing accepted with
  | done outcome =>
    cases outcome with
    | ok result => exact (returns result).trans submits
    | error error => exact (throws error).trans submits
  | await request next ih => grind [Script.bind, Script.catching, Submits]

section Runs

variable {transaction : Request → Option (Account × ℤ)} {isMismatch : Error → Bool}
variable {succeeds : Except Error α → Bool} {before after last : Client Account Request Reply Error α}
variable {script : Script Request Reply Error α} {numbers : Account → ℤ}
variable {label : Label Request Reply Error Account} {trace : List (Label Request Reply Error Account)}

/-- The transactions that are accepted and awaited are those that the script accounts for. -/
structure Sound (transaction : Request → Option (Account × ℤ)) (succeeds : Except Error α → Bool)
    (client : Client Account Request Reply Error α) : Prop where
  accounted : ∃ accepted, Submits transaction succeeds accepted client.rest ∧
    client.sent.countP Sent.isAccepted = accepted.toNat
  awaited : client.sent.countP Sent.isAwaited = client.waiting.toNat
  asks : client.waiting = true → ∃ request next, client.rest = .await request next ∧
    (transaction request).isNone = false
  applied : ∀ sent ∈ client.sent, sent.standing = .accepted → sent.fate = .applied

theorem Sound.start (submits : Submits transaction succeeds false script) :
    Sound transaction succeeds (.start script numbers) := by
  constructor
  · exact ⟨false, submits, rfl⟩
  · rfl
  · nofun
  · nofun

variable {index : ℕ} {sent : Sent Account}

/-- The ledger settles the fate of a transaction that flies. -/
theorem Sound.settle (sound : Sound transaction succeeds before)
    (found : before.sent[index]? = some sent) (flying : sent.fate = .flying) (fate : Fate) (numbers : Account → ℤ) :
    Sound transaction succeeds { before.mark index { sent with fate } with numbers } := by
  obtain ⟨accepted, submits, count⟩ := sound.accounted
  have notAccepted : sent.standing ≠ .accepted := by
    intro standing
    rw [sound.applied sent (List.mem_of_getElem? found) standing] at flying
    cases flying
  constructor
  · refine ⟨accepted, submits, ?_⟩
    have same : { sent with fate }.isAccepted = sent.isAccepted := rfl
    have counted := countP_set Sent.isAccepted found { sent with fate }
    rw [same] at counted
    exact (Nat.add_right_cancel counted).trans count
  · have same : { sent with fate }.isAwaited = sent.isAwaited := rfl
    have counted := countP_set Sent.isAwaited found { sent with fate }
    rw [same] at counted
    exact (Nat.add_right_cancel counted).trans sound.awaited
  · exact sound.asks
  · intro other member standing
    rcases List.mem_or_eq_of_mem_set member with earlier | rfl
    · exact sound.applied other earlier standing
    · exact absurd standing notAccepted

/-- The client hears of the transaction that it waits for. -/
theorem Sound.observe (sound : Sound transaction succeeds before)
    {observation : Observation} {request : Request} {reply : Except Error (Reply request)}
    {next : Except Error (Reply request) → Script Request Reply Error α} (found : before.sent[index]? = some sent)
    (awaited : sent.standing = .awaited) (asked : before.rest = .await request next)
    (observed : Observes isMismatch sent.fate reply observation) :
    Sound transaction succeeds { before.mark index { sent with standing := observation.standing } with
      rest := next reply, waiting := false } := by
  obtain ⟨accepted, submits, count⟩ := sound.accounted
  have waiting : before.waiting = true := by
    have positive : 0 < before.sent.countP Sent.isAwaited :=
      List.countP_pos_iff.mpr ⟨sent, List.mem_of_getElem? found, by simp [Sent.isAwaited, awaited]⟩
    rw [sound.awaited] at positive
    cases waits : before.waiting with
    | false => simp [waits] at positive
    | true => rfl
  obtain ⟨_, _, same, sends⟩ := sound.asks waiting
  cases asked.symm.trans same
  rw [asked, Submits, if_neg (by simp [sends])] at submits
  obtain ⟨rfl, returns, throws⟩ := submits
  have nowAccepted := countP_set Sent.isAccepted found { sent with standing := observation.standing }
  have nowAwaited := countP_set Sent.isAwaited found { sent with standing := observation.standing }
  have wasAccepted : sent.isAccepted = false := by simp [Sent.isAccepted, awaited]
  have wasAwaited : sent.isAwaited = true := by simp [Sent.isAwaited, awaited]
  have isAwaited : { sent with standing := observation.standing }.isAwaited = false := by
    cases observation <;> rfl
  rw [wasAccepted, count] at nowAccepted
  rw [wasAwaited, isAwaited, sound.awaited, waiting] at nowAwaited
  constructor
  · cases observation with
    | accepted =>
      obtain ⟨_, value, rfl⟩ := observed
      exact ⟨true, returns value, nowAccepted⟩
    | mismatched =>
      obtain ⟨_, error, rfl, _⟩ := observed
      exact ⟨false, throws error, nowAccepted⟩
    | refused =>
      obtain ⟨_, error, rfl, _⟩ := observed
      exact ⟨false, throws error, nowAccepted⟩
    | lost =>
      obtain ⟨error, rfl, _⟩ := observed
      exact ⟨false, throws error, nowAccepted⟩
  · exact Nat.succ.inj nowAwaited
  · nofun
  · intro other member standing
    rcases List.mem_or_eq_of_mem_set member with earlier | rfl
    · exact sound.applied other earlier standing
    · cases observation with
      | accepted => exact observed.1
      | _ => cases standing

variable (client : Client Account Request Reply Error α)

/-- A transaction is applied whose submission has thrown. -/
def Tainted : Prop :=
  ∃ sent ∈ client.sent, sent.fate = .applied ∧ sent.standing = .thrown

theorem not_tainted_start : ¬Tainted (Client.start script numbers : Client Account Request Reply Error α) := by
  rintro ⟨sent, member, _⟩
  cases member

/-- A transaction takes the place of one that is not tainted. -/
theorem tainted_mark {old new : Sent Account} (found : before.sent[index]? = some old)
    (clean : ¬(old.fate = .applied ∧ old.standing = .thrown)) :
    Tainted (before.mark index new) ↔ Tainted before ∨ (new.fate = .applied ∧ new.standing = .thrown) := by
  obtain ⟨inside, _⟩ := List.getElem?_eq_some_iff.mp found
  constructor
  · rintro ⟨sent, member, tainted⟩
    rcases List.mem_or_eq_of_mem_set member with earlier | rfl
    · exact .inl ⟨sent, earlier, tainted⟩
    · exact .inr tainted
  · rintro (⟨sent, member, tainted⟩ | tainted)
    · refine ⟨sent, mem_set_of_ne member found ?_, tainted⟩
      rintro rfl
      exact clean tainted
    · exact ⟨new, List.mem_set inside new, tainted⟩

variable {outcome : Except Error α}

/-- Once the client has ended, it awaits nothing. -/
theorem Sound.ended (sound : Sound transaction succeeds last)
    (ended : last.rest = .done outcome) : ∀ sent ∈ last.sent, sent.standing ≠ .awaited := by
  intro sent member standing
  have idle : last.waiting = false := by
    cases waits : last.waiting with
    | false => rfl
    | true =>
      obtain ⟨request, next, asked, _⟩ := sound.asks waits
      cases ended.symm.trans asked
  have none := sound.awaited
  rw [idle] at none
  apply List.countP_eq_zero.mp none sent member
  simp [Sent.isAwaited, standing]

/-- The transactions that are applied and not accepted. -/
def Client.stray : ℕ :=
  client.sent.countP fun sent => sent.isApplied && !sent.isAccepted

theorem Sound.countP_applied (sound : Sound transaction succeeds last) :
    last.sent.countP Sent.isApplied = last.sent.countP Sent.isAccepted + last.stray := by
  rw [List.countP_eq_countP_filter_add last.sent Sent.isApplied Sent.isAccepted, List.countP_filter, List.countP_filter]
  congr 1
  apply List.countP_congr
  intro sent member
  have applied := sound.applied sent member
  simp only [Sent.isApplied, Sent.isAccepted, Bool.and_eq_true, decide_eq_true_eq]
  exact ⟨fun both => both.2, fun standing => ⟨applied standing, standing⟩⟩

theorem Sound.not_tainted_iff (sound : Sound transaction succeeds last)
    (ended : last.rest = .done outcome) : ¬Tainted last ↔ last.stray = 0 := by
  rw [Client.stray, List.countP_eq_zero]
  constructor
  · intro clean sent member both
    apply clean
    have standing := sound.ended ended sent member
    simp only [Sent.isApplied, Sent.isAccepted, Bool.and_eq_true, Bool.not_eq_true', decide_eq_true_eq,
      decide_eq_false_iff_not] at both
    refine ⟨sent, member, both.1, ?_⟩
    cases heard : sent.standing with
    | awaited => exact absurd heard standing
    | accepted => exact absurd heard both.2
    | thrown => rfl
  · rintro none ⟨sent, member, applied, thrown⟩
    exact none sent member (by simp [Sent.isApplied, Sent.isAccepted, applied, thrown])

variable [DecidableEq Account]

theorem step_determined (before : Client Account Request Reply Error α) (label : Label Request Reply Error Account)
    (first second : Client Account Request Reply Error α) (one : step transaction isMismatch before label first)
    (other : step transaction isMismatch before label second) : first = second := by
  cases label with
  | answer exchange =>
    obtain ⟨_, next, asked, _, rfl⟩ := one
    obtain ⟨_, again, same, _, rfl⟩ := other
    cases asked.symm.trans same
    rfl
  | send request =>
    obtain ⟨_, next, account, number, _, sends, rfl⟩ := one
    obtain ⟨_, again, _, _, _, same, rfl⟩ := other
    cases sends.symm.trans same
    rfl
  | receive index =>
    obtain ⟨sent, found, _, rfl⟩ := one
    obtain ⟨_, same, _, rfl⟩ := other
    cases found.symm.trans same
    rfl
  | refuse index =>
    obtain ⟨sent, found, _, rfl⟩ := one
    obtain ⟨_, same, _, rfl⟩ := other
    cases found.symm.trans same
    rfl
  | advance account => exact Eq.trans one (Eq.symm other)
  | observe index observation exchange =>
    obtain ⟨sent, next, found, _, asked, _, rfl⟩ := one
    obtain ⟨_, again, same, _, waited, _, rfl⟩ := other
    cases found.symm.trans same
    cases asked.symm.trans waited
    rfl

theorem Sound.step (sound : Sound transaction succeeds before) (move : step transaction isMismatch before label after) :
    Sound transaction succeeds after := by
  obtain ⟨accepted, submits, count⟩ := sound.accounted
  cases label with
  | answer exchange =>
    obtain ⟨idle, next, asked, sends, rfl⟩ := move
    constructor
    · refine ⟨accepted, ?_, count⟩
      rw [asked, Submits] at submits
      split at submits
      · exact submits exchange.reply
      · grind
    · exact sound.awaited
    · simp_all
    · exact sound.applied
  | send request =>
    obtain ⟨idle, next, account, number, asked, sends, rfl⟩ := move
    have none := sound.awaited
    rw [idle] at none
    constructor
    · refine ⟨accepted, submits, ?_⟩
      simpa [List.countP_append, Sent.isAccepted] using count
    · simpa [List.countP_append, Sent.isAwaited] using none
    · simp_all
    · intro sent member standing
      rcases List.mem_append.mp member with earlier | new
      · exact sound.applied sent earlier standing
      · simp_all
  | receive index =>
    obtain ⟨sent, found, flying, rfl⟩ := move
    exact sound.settle found flying _ _
  | refuse index =>
    obtain ⟨sent, found, flying, rfl⟩ := move
    exact sound.settle found flying .refused before.numbers
  | advance account =>
    obtain rfl := move
    exact ⟨⟨accepted, submits, count⟩, sound.awaited, sound.asks, sound.applied⟩
  | observe index observation exchange =>
    obtain ⟨sent, next, found, awaited, asked, observed, rfl⟩ := move
    exact sound.observe found awaited asked observed

theorem sound_run (submits : Submits transaction succeeds false script)
    (run : Run (step transaction isMismatch) (.start script numbers) trace last) : Sound transaction succeeds last := by
  apply run.invariant (fun _ client => Sound transaction succeeds client)
  · exact .start submits
  · intro _ before label after sound move
    exact sound.step move

/-- A step taints the client exactly if it is not heard. -/
theorem tainted_step (move : step transaction isMismatch before label after) :
    Tainted after ↔ Tainted before ∨ ¬IsHeard before label := by
  cases label with
  | answer exchange =>
    obtain ⟨_, next, _, _, rfl⟩ := move
    simp [Tainted, IsHeard]
  | send request =>
    obtain ⟨_, next, account, number, _, _, rfl⟩ := move
    simp [Tainted, IsHeard, or_and_right, exists_or]
  | receive index =>
    obtain ⟨sent, found, flying, rfl⟩ := move
    have clean : ¬(sent.fate = .applied ∧ sent.standing = .thrown) := by simp [flying]
    refine (tainted_mark found clean).trans (or_congr_right ?_)
    simp [IsHeard, found]
  | refuse index =>
    obtain ⟨sent, found, flying, rfl⟩ := move
    have clean : ¬(sent.fate = .applied ∧ sent.standing = .thrown) := by simp [flying]
    refine (tainted_mark found clean).trans (or_congr_right ?_)
    simp [IsHeard]
  | advance account =>
    obtain rfl := move
    simp [Tainted, IsHeard]
  | observe index observation exchange =>
    obtain ⟨sent, next, found, awaited, _, observed, rfl⟩ := move
    have clean : ¬(sent.fate = .applied ∧ sent.standing = .thrown) := by simp [awaited]
    refine (tainted_mark found clean).trans (or_congr_right ?_)
    cases observation with
    | accepted => simp [IsHeard, Observation.standing]
    | mismatched | refused => simp [IsHeard, Observation.standing, observed.1]
    | lost => simp [IsHeard, Observation.standing, found]

/-- The steps of a run are all heard exactly if no transaction is applied at its end whose submission has thrown. -/
theorem heard_iff (run : Run (step transaction isMismatch) (.start script numbers) trace last) :
    Throughout (step transaction isMismatch) (.start script numbers) (fun before label _ => IsHeard before label) trace ↔
      ¬Tainted last := by
  induction run with
  | start => exact ⟨fun _ => not_tainted_start, fun _ => throughout_nil⟩
  | next earlier move ih =>
    rw [throughout_snoc, ih, tainted_step move, not_or, not_not]
    refine and_congr_right fun _ => ⟨fun every => every _ _ earlier move, fun heard before after reached _ => ?_⟩
    rwa [Run.unique_of step_determined reached earlier]

/-- A client that has ended has applied one transaction at most, and none if it reports a failure, exactly if every
step was heard. -/
theorem appliedOnce_iff (submits : Submits transaction succeeds false script)
    (run : Run (step transaction isMismatch) (.start script numbers) trace last)
    (ended : last.rest = .done outcome) :
    AppliedOnce succeeds last ↔
      Throughout (step transaction isMismatch) (.start script numbers) (fun before label _ => IsHeard before label) trace := by
  rw [heard_iff run]
  have sound := sound_run submits run
  obtain ⟨accepted, submitted, count⟩ := sound.accounted
  rw [ended, Submits] at submitted
  rw [sound.not_tainted_iff ended, AppliedOnce, sound.countP_applied, count]
  constructor
  · rintro ⟨once, failed⟩
    cases accepted with
    | true => exact Nat.le_zero.mp (Nat.le_of_add_le_add_left once)
    | false => exact (Nat.add_eq_zero_iff.mp (failed outcome ended submitted)).2
  · intro none
    rw [none]
    refine ⟨Bool.toNat_le accepted, fun other same failed => ?_⟩
    cases ended.symm.trans same
    rw [← submitted, failed]
    rfl

/-- Whatever the ledger does, the script has one transaction applied at most, and none if it fails, exactly if every
step is heard. -/
def AppliesOnce (transaction : Request → Option (Account × ℤ)) (isMismatch : Error → Bool)
    (succeeds : Except Error α → Bool) (script : Script Request Reply Error α) : Prop :=
  ∀ (numbers : Account → ℤ) trace last (outcome : Except Error α),
    Run (step transaction isMismatch) (.start script numbers) trace last → last.rest = .done outcome →
    (AppliedOnce succeeds last ↔
      Throughout (step transaction isMismatch) (.start script numbers) (fun before label _ => IsHeard before label) trace)

theorem Submits.appliesOnce (submits : Submits transaction succeeds false script) :
    AppliesOnce transaction isMismatch succeeds script := by
  intro numbers trace last outcome run ended
  exact appliedOnce_iff submits run ended

end Runs

end ProxyPay.Library.Numbered
