import ProxyPay.Library.Exclusive
import ProxyPay.Library.Transition
import ProxyPay.Queue.Delivery

/-! When redelivery and replay never pay again. Neither the worker nor a replay keeps a
state that could suppress a duplicate, so that everything rests on when jobs are delivered
and on how the calls of a replay end. -/

namespace ProxyPay.Queue

open ProxyPay.Library

/-- The movements made so far for a transaction. -/
def movementsOf (id : String) (ledger : List Moved) : List Movement :=
  (ledger.filter fun moved => moved.job.transactionId = id).map Moved.movement

/-- The movements that the job requires have taken effect. -/
def settledIn (job : TransactionJobData) (ledger : List Moved) : Bool :=
  match job.type with
  | .deposit => .collection ∈ movementsOf job.transactionId ledger ∧
      .stellar ∈ movementsOf job.transactionId ledger
  | .withdraw => .payout ∈ movementsOf job.transactionId ledger

def settlerAfter (job : TransactionJobData) (seen : List Moved) : List Moved → Option Nat
  | [] => none
  | moved :: rest =>
    if settledIn job (seen ++ [moved]) then some moved.delivery
    else settlerAfter job (seen ++ [moved]) rest

/-- The delivery whose payment completed the movements that the job requires. -/
def settler (job : TransactionJobData) (ledger : List Moved) : Option Nat :=
  settlerAfter job [] ledger

/-- Once a transaction's movements have taken effect, only the delivery that completed
them ever pays for it again. -/
def PaysOnce (ledger : List Moved) : Prop :=
  ∀ before moved after, ledger = before ++ moved :: after →
    ∀ settling, settler moved.job before = some settling → moved.delivery = settling

section Ledger

variable {job : TransactionJobData} {ledger rest seen : List Moved} {moved : Moved}

theorem movementsOf_append (id : String) (first second : List Moved) :
    movementsOf id (first ++ second) = movementsOf id first ++ movementsOf id second := by
  simp [movementsOf]

theorem settledIn_nil : settledIn job [] = false := by
  unfold settledIn
  split <;> simp [movementsOf]

theorem settledIn_append (settled : settledIn job ledger = true) : settledIn job (ledger ++ rest) = true := by
  unfold settledIn at settled ⊢
  split at settled <;> simp_all [movementsOf_append]

theorem settledIn_other (other : moved.job.transactionId ≠ job.transactionId) :
    settledIn job (ledger ++ [moved]) = settledIn job ledger := by
  have same : movementsOf job.transactionId (ledger ++ [moved]) =
      movementsOf job.transactionId ledger := by
    rw [movementsOf_append]
    simp [movementsOf, other]
  unfold settledIn
  rw [same]

theorem settlerAfter_append : settlerAfter job seen (ledger ++ [moved]) = (settlerAfter job seen ledger).or
      (if settledIn job (seen ++ ledger ++ [moved]) then some moved.delivery else none) := by
  induction ledger generalizing seen with
  | nil => simp [settlerAfter]
  | cons head rest ih =>
    simp only [List.cons_append, settlerAfter, ih]
    split <;> simp

theorem settlerAfter_none (unsettled : settledIn job (seen ++ ledger) = false) :
    settlerAfter job seen ledger = none := by
  induction ledger generalizing seen with
  | nil => rfl
  | cons head rest ih =>
    rw [List.append_cons] at unsettled
    have earlier : settledIn job (seen ++ [head]) = false := by
      cases settled : settledIn job (seen ++ [head]) with
      | false => rfl
      | true => rw [settledIn_append settled] at unsettled; cases unsettled
    simp [settlerAfter, earlier, ih unsettled]

theorem settler_append : settler job (ledger ++ [moved]) = (settler job ledger).or
      (if settledIn job (ledger ++ [moved]) then some moved.delivery else none) := by
  have appended : settlerAfter job [] (ledger ++ [moved]) = (settlerAfter job [] ledger).or
      (if settledIn job ([] ++ ledger ++ [moved]) then some moved.delivery else none) :=
    settlerAfter_append
  simpa [settler] using appended

theorem settler_isSome : (settler job ledger).isSome = settledIn job ledger := by
  cases settled : settledIn job ledger with
  | false =>
    have none : settlerAfter job [] ledger = none := settlerAfter_none settled
    simp [settler, none]
  | true =>
    rcases List.eq_nil_or_concat ledger with rfl | ⟨earlier, last, rfl⟩
    · rw [settledIn_nil] at settled
      cases settled
    · rw [List.concat_eq_append] at settled ⊢
      simp [settler_append, settled]

theorem settler_other (other : moved.job.transactionId ≠ job.transactionId) :
    settler job (ledger ++ [moved]) = settler job ledger := by
  have known : (settler job ledger).isSome = settledIn job ledger := settler_isSome
  rw [settler_append, settledIn_other other]
  cases found : settler job ledger <;> simp_all

theorem settler_paid {delivery : Nat} (found : settler job (ledger ++ [moved]) = some delivery) :
    settler job ledger = some delivery ∨ delivery = moved.delivery := by
  rw [settler_append] at found
  cases earlier : settler job ledger with
  | none => simp_all
  | some settling => exact .inl (by simpa [earlier] using found)

theorem PaysOnce.append (once : PaysOnce ledger) (settles : ∀ settling, settler moved.job ledger = some settling →
      moved.delivery = settling) : PaysOnce (ledger ++ [moved]) := by
  intro before paid after split
  rcases List.eq_nil_or_concat after with rfl | ⟨middle, last, rfl⟩
  · simp_all
  · have shorter : ledger ++ [moved] = (before ++ paid :: middle) ++ [last] := by
      simpa using split
    exact once before paid middle (List.append_inj' shorter rfl).1

end Ledger

/-- The replay has published its entry and not yet marked it. -/
def Replay.marks (replay : Replay) : Bool :=
  match replay.rest with
  | .await (.markReplayed ..) _ => true
  | _ => false

/-- The SELECT reads the current row, a publication that raises has not happened, and an
UPDATE that raises has. -/
structure Faithful (system : System)
    (answer : (request : ReplayRequest) → Except ReplayFailure request.Reply × Bool) : Prop where
  current : ∀ id row, (answer (.selectEntry id)).1 = .ok row → row = system.entries[id]?
  published : ∀ id jobData error, (answer (.publishJob id jobData)).1 = .error error →
    (answer (.publishJob id jobData)).2 = false
  marked : ∀ id replayedBy error, (answer (.markReplayed id replayedBy)).1 = .error error →
    (answer (.markReplayed id replayedBy)).2 = true

/-- When a step is safe. A job is delivered only while no other delivery of its
transaction is under way and its movements have not taken effect; replays of one entry
follow each other, with faithful answers, and none stops between publication and mark. -/
def Careful (system : System) : Label → Prop
  | .deliver job =>
    (∀ delivery ∈ system.deliveries, delivery.job.transactionId = job.transactionId →
      delivery.live = false) ∧ settledIn job system.ledger = false
  | .startReplay id _ => ∀ replay ∈ system.replays, replay.id = id → replay.live = false
  | .replay _ answer => Faithful system answer
  | .stopReplay index => ∀ replay, system.replays[index]? = some replay → replay.marks = false
  | _ => True

/-- What the deliveries under way keep: one for each transaction, which alone may have
completed its movements. -/
structure Settling (system : System) : Prop where
  exclusive : Exclusive (fun delivery : Delivery => delivery.job.transactionId) Delivery.live
    system.deliveries
  settling : ∀ (index : Nat) delivery, system.deliveries[index]? = some delivery →
    delivery.live = true → ∀ settling, settler delivery.job system.ledger = some settling →
      index = settling
  once : PaysOnce system.ledger

section Deliveries

variable {config : Config} {system after : System} {label : Label} {index : Nat}
variable {job : TransactionJobData}

variable {delivery : Delivery}

section

variable (settling : Settling system)

include settling

theorem Settling.move {rest : Consumer Unit} {ledger : List Moved} (found : system.deliveries[index]? = some delivery)
    (was : delivery.live = true)
    (paid : ledger = system.ledger ∨ ∃ movement, ledger = system.ledger ++ [⟨index, delivery.job, movement⟩])
    (deliveries : after.deliveries = system.deliveries.set index { delivery with rest })
    (same : after.ledger = ledger) : Settling after := by
  have own := settling.settling index delivery found was
  refine ⟨?_, ?_, ?_⟩
  · rw [deliveries]
    exact settling.exclusive.set found rfl fun _ => was
  · intro i other place alive completed completes
    rw [deliveries] at place
    rw [same] at completes
    rcases getElem?_set_of_some place with ⟨rfl, rfl⟩ | ⟨apart, kept⟩
    · rcases paid with rfl | ⟨movement, rfl⟩
      · exact own completed completes
      · rcases settler_paid completes with earlier | rfl
        · exact own completed earlier
        · rfl
    · have different : delivery.job.transactionId ≠ other.job.transactionId := fun equal =>
        apart (settling.exclusive i index other delivery kept found alive was equal.symm)
      have unpaid : settler other.job ledger = settler other.job system.ledger := by
        rcases paid with rfl | ⟨movement, rfl⟩
        · rfl
        · exact settler_other different
      exact settling.settling i other kept alive completed (unpaid ▸ completes)
  · rw [same]
    rcases paid with rfl | ⟨movement, rfl⟩
    · exact settling.once
    · exact settling.once.append own

theorem Settling.deliver (careful : Careful system (.deliver job)) {rest : Consumer Unit} :
    Settling { system with deliveries := system.deliveries ++ [⟨job, rest⟩] } := by
  refine ⟨settling.exclusive.start careful.1, ?_, settling.once⟩
  intro i delivery found alive completed completes
  rcases getElem?_append_singleton found with earlier | ⟨_, rfl⟩
  · exact settling.settling i delivery earlier alive completed completes
  · have settled : (settler job system.ledger).isSome = settledIn job system.ledger :=
      settler_isSome
    rw [completes, careful.2] at settled
    cases settled

theorem Settling.stop {outcome : Except Thrown Unit} (found : system.deliveries[index]? = some delivery) :
    Settling { system with
      deliveries := system.deliveries.set index { delivery with rest := .done outcome } } := by
  refine ⟨settling.exclusive.set found rfl nofun, ?_, settling.once⟩
  intro i other place alive
  rcases getElem?_set_of_some place with ⟨rfl, rfl⟩ | ⟨_, kept⟩
  · cases alive
  · exact settling.settling i other kept alive

theorem Settling.frame (deliveries : after.deliveries = system.deliveries)
    (ledger : after.ledger = system.ledger) : Settling after := by
  obtain ⟨exclusive, completes, once⟩ := settling
  refine ⟨?_, ?_, ?_⟩
  · rwa [deliveries]
  · rwa [deliveries, ledger]
  · rwa [ledger]

end

end Deliveries

/-- The entry is marked as replayed. -/
def Marked (entries : List DLQEntry) (id : Nat) : Prop :=
  ∃ entry, entries[id]? = some entry ∧ entry.replayed = true

/-- Where a replay stands, with what it has learned of the table and of the queue. -/
inductive Stage (entries : List DLQEntry) (publications : List Nat) (id : Nat)
    (replayedBy : String) : ReplayScript DLQEntry → Prop where
  | selecting : Stage entries publications id replayedBy (replayDLQEntry id replayedBy)
  | publishing (entry : DLQEntry) (listed : id < entries.length) (fresh : id ∉ publications) :
      Stage entries publications id replayedBy (publishEntry id replayedBy entry)
  | marking (entry : DLQEntry) (listed : id < entries.length) :
      Stage entries publications id replayedBy (markEntry id replayedBy entry)
  | ended (outcome : Except ReplayFailure DLQEntry) :
      Stage entries publications id replayedBy (.done outcome)

/-- What the replays keep: one under way for each entry, and every entry published is
published once, and marked or about to be marked. -/
structure Replaying (system : System) : Prop where
  exclusive : Exclusive Replay.id Replay.live system.replays
  staged : ∀ replay ∈ system.replays,
    Stage system.entries system.publications replay.id replay.replayedBy replay.rest
  once : ∀ id, system.publications.count id ≤ 1
  noted : ∀ id ∈ system.publications, Marked system.entries id ∨
    ∃ replay ∈ system.replays, replay.id = id ∧ replay.marks = true

section Replays

variable {config : Config} {system after : System} {label : Label} {index id : Nat}
variable {entries : List DLQEntry} {publications : List Nat} {replayedBy : String}
variable {replay : Replay} {rest : ReplayScript DLQEntry}

theorem live_of_marks (marks : replay.marks = true) : replay.live = true := by
  obtain ⟨id, replayedBy, rest⟩ := replay
  cases rest with
  | done outcome => cases marks
  | await request next => rfl

variable {captured : List DLQEntry}

theorem Marked.append (marked : Marked entries id) : Marked (entries ++ captured) id := by
  obtain ⟨entry, found, replayed⟩ := marked
  have inside : id < entries.length := (List.getElem?_eq_some_iff.mp found).1
  exact ⟨entry, by rwa [List.getElem?_append_left inside], replayed⟩

theorem Marked.modify {other : Nat} (marked : Marked entries id) : Marked (entries.modify other fun entry =>
      { entry with replayed := true, replayedBy := some replayedBy }) id := by
  obtain ⟨entry, found, replayed⟩ := marked
  by_cases same : other = id
  · exact ⟨{ entry with replayed := true, replayedBy := some replayedBy },
      by simp [same, found], rfl⟩
  · exact ⟨entry, by simp [same, found], replayed⟩

theorem marked_modify (listed : id < entries.length) : Marked (entries.modify id fun entry =>
      { entry with replayed := true, replayedBy := some replayedBy }) id :=
  ⟨{ entries[id] with replayed := true, replayedBy := some replayedBy },
    by simp [listed], rfl⟩

theorem Stage.frame {later : List DLQEntry} {published : List Nat}
    (stage : Stage entries publications id replayedBy rest)
    (longer : entries.length ≤ later.length)
    (fresh : rest.isDone = false → id ∉ publications → id ∉ published) :
    Stage later published id replayedBy rest := by
  cases stage with
  | selecting => exact .selecting
  | publishing entry listed unpublished =>
    exact .publishing entry (by omega) (fresh rfl unpublished)
  | marking entry listed => exact .marking entry (by omega)
  | ended outcome => exact .ended outcome

theorem Replaying.frame (replaying : Replaying system) (replays : after.replays = system.replays)
    (published : after.publications = system.publications)
    (entries : after.entries = system.entries ++ captured) : Replaying after := by
  obtain ⟨exclusive, staged, once, noted⟩ := replaying
  refine ⟨?_, ?_, ?_, ?_⟩
  · rwa [replays]
  · rw [replays, published, entries]
    exact fun replay member => (staged replay member).frame (by simp) fun _ fresh => fresh
  · rwa [published]
  · rw [replays, published, entries]
    intro id member
    exact (noted id member).imp_left Marked.append

theorem Replaying.start (replaying : Replaying system) (careful : Careful system (.startReplay id replayedBy)) :
    Replaying { system with
      replays := system.replays ++ [⟨id, replayedBy, replayDLQEntry id replayedBy⟩] } := by
  obtain ⟨exclusive, staged, once, noted⟩ := replaying
  refine ⟨exclusive.start careful, ?_, once, ?_⟩
  · exact forall_mem_append_singleton staged .selecting
  · grind

/-- One replay moves to its next stage: what the other replays rely on stays as it is, and
an entry that is published is marked, or is about to be. -/
structure Advances (system after : System) (replay : Replay) (rest : ReplayScript DLQEntry) :
    Prop where
  stage : Stage after.entries after.publications replay.id replay.replayedBy rest
  longer : system.entries.length ≤ after.entries.length
  keeps : ∀ id, Marked system.entries id → Marked after.entries id
  added : ∀ id ∈ after.publications, id ∈ system.publications ∨ id = replay.id
  once : ∀ id, after.publications.count id ≤ 1
  noted : replay.id ∈ after.publications → Marked after.entries replay.id ∨
    Replay.marks { replay with rest } = true

theorem Replaying.move (replaying : Replaying system) (found : system.replays[index]? = some replay)
    (was : replay.live = true) (advances : Advances system after replay rest)
    (replays : after.replays = system.replays.set index { replay with rest }) :
    Replaying after := by
  obtain ⟨exclusive, staged, _, noted⟩ := replaying
  refine ⟨?_, ?_, advances.once, ?_⟩
  · rw [replays]
    exact exclusive.set found rfl fun _ => was
  · rw [replays]
    intro other place
    obtain ⟨i, position⟩ := List.mem_iff_getElem?.mp place
    rcases getElem?_set_of_some position with ⟨rfl, rfl⟩ | ⟨apart, kept⟩
    · exact advances.stage
    · have stage := staged other (List.mem_of_getElem? kept)
      refine stage.frame advances.longer fun alive fresh listed => ?_
      rcases advances.added _ listed with earlier | same
      · exact fresh earlier
      · exact apart (exclusive i index other replay kept found
          (by simp [Replay.live, alive]) was same)
  · rw [replays]
    intro other listed
    by_cases same : other = replay.id
    · subst same
      refine (advances.noted listed).imp_right fun marks => ⟨{ replay with rest }, ?_, rfl, marks⟩
      have inside : index < system.replays.length := (List.getElem?_eq_some_iff.mp found).1
      exact List.mem_iff_getElem?.mpr ⟨index, List.getElem?_set_self inside⟩
    · have before := (advances.added other listed).resolve_right same
      rcases noted other before with marked | ⟨marker, here, key, marks⟩
      · exact .inl (advances.keeps other marked)
      · refine .inr ⟨marker, mem_set_of_ne here found ?_, key, marks⟩
        rintro rfl
        exact same key.symm

section

variable (replaying : Replaying system)

include replaying

theorem Replaying.marked (found : system.replays[index]? = some replay)
    (was : replay.live = true) (unmarking : replay.marks = false)
    (listed : replay.id ∈ system.publications) : Marked system.entries replay.id := by
  rcases replaying.noted _ listed with marked | ⟨marker, here, same, marks⟩
  · exact marked
  · obtain rfl := replaying.exclusive.eq_of_mem here (List.mem_of_getElem? found)
      (live_of_marks marks) was same
    rw [unmarking] at marks
    cases marks

theorem Replaying.idle (found : system.replays[index]? = some replay)
    (was : replay.live = true) (unmarking : replay.marks = false)
    (stage : Stage system.entries system.publications replay.id replay.replayedBy rest) :
    Replaying { system with replays := system.replays.set index { replay with rest } } := by
  refine replaying.move found was ?_ rfl
  exact {
    stage
    longer := Nat.le_refl _
    keeps := fun _ marked => marked
    added := fun _ listed => .inl listed
    once := replaying.once
    noted := fun listed => .inl (replaying.marked found was unmarking listed) }

variable {tookEffect : Bool} {answered : System}

theorem Replaying.select (found : system.replays[index]? = some ⟨id, replayedBy, replayDLQEntry id replayedBy⟩)
    {reply : Except ReplayFailure (Option DLQEntry)}
    (current : ∀ row, reply = .ok row → row = system.entries[id]?)
    (effect : system.answerReplay ⟨.selectEntry id, reply, tookEffect⟩ = some answered) :
    Replaying { answered with
      replays := system.replays.set index
        ⟨id, replayedBy, (Script.done reply).bind (checkEntry id replayedBy)⟩ } := by
  have idle : ∀ rest, Stage system.entries system.publications id replayedBy rest →
      Replaying { system with replays := system.replays.set index ⟨id, replayedBy, rest⟩ } :=
    fun _ stage => replaying.idle found rfl rfl stage
  cases reply with
  | error error =>
    cases effect
    exact idle _ (.ended _)
  | ok row =>
    obtain rfl := current row rfl
    have same : answered = system := by simp_all [System.answerReplay]
    subst same
    refine idle _ ?_
    simp only [Script.bind]
    cases row : answered.entries[id]? with
    | none => exact .ended _
    | some entry =>
      have listed : id < answered.entries.length := (List.getElem?_eq_some_iff.mp row).1
      simp only [checkEntry]
      cases replayed : entry.replayed with
      | true => exact .ended _
      | false =>
        refine .publishing entry listed fun published => ?_
        obtain ⟨known, place, marked⟩ := replaying.marked found rfl rfl published
        rw [row] at place
        cases place
        rw [replayed] at marked
        cases marked

variable {entry : DLQEntry} {reply : Except ReplayFailure Unit}

theorem Replaying.publish (found : system.replays[index]? = some ⟨id, replayedBy, publishEntry id replayedBy entry⟩)
    (listed : id < system.entries.length) (fresh : id ∉ system.publications)
    (missed : ∀ error, reply = .error error → tookEffect = false)
    (effect : system.answerReplay ⟨.publishJob id entry.jobData, reply, tookEffect⟩ = some answered) :
    Replaying { answered with
      replays := system.replays.set index
        ⟨id, replayedBy, (Script.done reply).bind fun _ => markEntry id replayedBy entry⟩ } := by
  cases reply with
  | error error =>
    obtain rfl := missed error rfl
    cases effect
    exact replaying.idle found rfl rfl (.ended _)
  | ok value =>
    cases effect
    have once : ∀ other, (system.publications ++ [id]).count other ≤ 1 := by
      intro other
      rw [List.count_append]
      by_cases same : other = id
      · subst same
        simp [List.count_eq_zero_of_not_mem fresh]
      · simpa [List.count_singleton, Ne.symm same] using replaying.once other
    refine replaying.move found rfl ?_ rfl
    exact {
      stage := .marking entry listed
      longer := Nat.le_refl _
      keeps := fun _ marked => marked
      added := fun other published => by simpa using published
      once
      noted := fun _ => .inr rfl }

theorem Replaying.mark (found : system.replays[index]? = some ⟨id, replayedBy, markEntry id replayedBy entry⟩)
    (listed : id < system.entries.length)
    (marked : ∀ error, reply = .error error → tookEffect = true)
    (effect : system.answerReplay ⟨.markReplayed id replayedBy, reply, tookEffect⟩ = some answered)
    {row : DLQEntry} :
    Replaying { answered with
      replays := system.replays.set index
        ⟨id, replayedBy, (Script.done reply).bind fun _ => .done (.ok row)⟩ } := by
  have took : effective (⟨.markReplayed id replayedBy, reply, tookEffect⟩ : ReplayAnswered) = true := by
    cases reply with
    | error error => exact marked error rfl
    | ok value => rfl
  have ends : ∀ entries publications, Stage entries publications id replayedBy
      ((Script.done reply).bind fun _ => .done (.ok row)) := by
    intro entries publications
    cases reply <;> exact .ended _
  simp only [System.answerReplay, took, ↓reduceIte] at effect
  cases effect
  refine replaying.move found rfl ?_ rfl
  exact {
    stage := ends _ _
    longer := by simp
    keeps := fun _ noted => noted.modify
    added := fun _ published => .inl published
    once := replaying.once
    noted := fun _ => .inl (marked_modify listed) }

theorem Replaying.answer {answer : (request : ReplayRequest) → Except ReplayFailure request.Reply × Bool}
    (faithful : Faithful system answer)
    (step : system.step config (.replay index answer) = some after) : Replaying after := by
  obtain ⟨⟨id, replayedBy, script⟩, exchange, rest, answered, found, advanced, effect, rfl⟩ :=
    replay_step step
  have stage : Stage system.entries system.publications id replayedBy script :=
    replaying.staged _ (List.mem_of_getElem? found)
  cases stage with
  | selecting =>
    cases advanced
    exact replaying.select found (faithful.current id) effect
  | publishing entry listed fresh =>
    cases advanced
    exact replaying.publish found listed fresh (faithful.published id entry.jobData) effect
  | marking entry listed =>
    cases advanced
    exact replaying.mark found listed (faithful.marked id replayedBy) effect
  | ended outcome => cases advanced

end

end Replays

section Runs

variable {config : Config} {system after : System} {label : Label}

/-- A step of the system that is safe. -/
def CarefulStep (config : Config) (system : System) (label : Label) (after : System) : Prop :=
  system.step config label = some after ∧ Careful system label

theorem settling_step (settling : Settling system) (step : CarefulStep config system label after) : Settling after := by
  obtain ⟨moved, careful⟩ := step
  cases label with
  | submit job =>
    cases moved
    exact settling.frame rfl rfl
  | deliver job =>
    obtain ⟨_, rfl⟩ := deliver_step moved
    exact settling.deliver careful
  | work index answer =>
    obtain ⟨delivery, exchange, rest, found, was, rfl⟩ := work_step moved
    obtain ⟨_, _, _, paid⟩ := system.work_effect index delivery.job exchange
    exact settling.move found was paid rfl rfl
  | stopWork index =>
    obtain ⟨delivery, found, _, rfl⟩ := stopWork_step moved
    exact settling.stop found
  | startReplay id replayedBy =>
    cases moved
    exact settling.frame rfl rfl
  | replay index answer =>
    obtain ⟨replay, exchange, rest, answered, _, _, effect, rfl⟩ := replay_step moved
    obtain ⟨deliveries, ledger⟩ := answerReplay_effect effect
    exact settling.frame deliveries ledger
  | stopReplay index =>
    obtain ⟨replay, _, _, rfl⟩ := stopReplay_step moved
    exact settling.frame rfl rfl

theorem replaying_step (replaying : Replaying system)
    (step : CarefulStep config system label after) : Replaying after := by
  obtain ⟨moved, careful⟩ := step
  have same : system.entries = system.entries ++ [] := (List.append_nil _).symm
  cases label with
  | submit job =>
    cases moved
    exact replaying.frame rfl rfl same
  | deliver job =>
    obtain ⟨_, rfl⟩ := deliver_step moved
    exact replaying.frame rfl rfl same
  | work index answer =>
    obtain ⟨delivery, exchange, rest, _, _, rfl⟩ := work_step moved
    obtain ⟨replays, publications, ⟨captured, entries⟩, _⟩ :=
      system.work_effect index delivery.job exchange
    exact replaying.frame replays publications entries
  | stopWork index =>
    obtain ⟨delivery, _, _, rfl⟩ := stopWork_step moved
    exact replaying.frame rfl rfl same
  | startReplay id replayedBy =>
    cases moved
    exact replaying.start careful
  | replay index answer => exact replaying.answer careful moved
  | stopReplay index =>
    obtain ⟨replay, found, live, rfl⟩ := stopReplay_step moved
    exact replaying.idle found live (careful replay found) (.ended _)

theorem settling_empty : Settling System.empty :=
  ⟨.nil, nofun, fun before moved after split => by cases before <;> cases split⟩

theorem replaying_empty : Replaying System.empty :=
  ⟨.nil, nofun, fun _ => Nat.zero_le 1, nofun⟩

/-- In a run of safe steps, no transaction is paid again by a further delivery, and no
entry is published twice. -/
theorem never_pays_again {trace : List Label} (run : Run (CarefulStep config) System.empty trace system) :
    PaysOnce system.ledger ∧ ∀ id, system.publications.count id ≤ 1 := by
  have kept := run.invariant (fun _ system => Settling system ∧ Replaying system)
    ⟨settling_empty, replaying_empty⟩
    fun _ _ _ _ both step => ⟨settling_step both.1 step, replaying_step both.2 step⟩
  exact ⟨kept.1.once, kept.2.once⟩

end Runs

/-- A consumer whose calls all succeed and take effect. -/
def normalAnswer : (request : ConsumerRequest) → Except Thrown request.Reply × Bool
  | .worker request => (.ok (normalReply request), true)
  | .captureFailure _ => (.ok (), true)

/-- A worker that loses its connections. -/
def lostAnswer : (request : ConsumerRequest) → Except Thrown request.Reply × Bool
  | .worker _ => (.error stopped, false)
  | .captureFailure _ => (.ok (), true)

/-- A replay whose calls all succeed, over the given table. -/
def currentAnswer (entries : List DLQEntry) : (request : ReplayRequest) → Except ReplayFailure request.Reply × Bool
  | .selectEntry id => (.ok (entries[id]? : Option DLQEntry), true)
  | .publishJob .. => (.ok (), true)
  | .markReplayed .. => (.ok (), true)

theorem currentAnswer_faithful (system : System) : Faithful system (currentAnswer system.entries) where
  current _ _ same := (Except.ok.inj same).symm
  published _ _ _ := nofun
  marked _ _ _ := nofun

/-- A withdrawal fails on its first call, is captured, and is replayed. -/
def replayedOnce : List Label :=
  let job := TransactionJobData.sample .withdraw
  let replay : Label := .replay 0 (currentAnswer [failureEntry .sample job stopped])
  [.submit job, .deliver job, .work 0 lostAnswer, .work 0 normalAnswer,
    .startReplay 0 "operator", replay, replay, replay]

theorem never_pays_again_replayed : ∃ system, Run (CarefulStep .sample) System.empty replayedOnce system ∧
      system.publications = [0] ∧ PaysOnce system.ledger ∧
      ∀ id, system.publications.count id ≤ 1 := by
  have submitted : Run (CarefulStep .sample) System.empty (replayedOnce.take 1) _ :=
    Run.next .start ⟨rfl, trivial⟩
  have delivered : Run (CarefulStep .sample) System.empty (replayedOnce.take 2) _ :=
    submitted.next ⟨rfl, nofun, rfl⟩
  have lost : Run (CarefulStep .sample) System.empty (replayedOnce.take 3) _ :=
    delivered.next ⟨rfl, trivial⟩
  have captured : Run (CarefulStep .sample) System.empty (replayedOnce.take 4) _ :=
    lost.next ⟨rfl, trivial⟩
  have started : Run (CarefulStep .sample) System.empty (replayedOnce.take 5) _ :=
    captured.next ⟨rfl, nofun⟩
  have selected : Run (CarefulStep .sample) System.empty (replayedOnce.take 6) _ :=
    started.next ⟨rfl, currentAnswer_faithful _⟩
  have published : Run (CarefulStep .sample) System.empty (replayedOnce.take 7) _ :=
    selected.next ⟨rfl, currentAnswer_faithful _⟩
  have marked : Run (CarefulStep .sample) System.empty replayedOnce _ :=
    published.next ⟨rfl, currentAnswer_faithful _⟩
  exact ⟨_, marked, rfl, never_pays_again marked⟩

/-- A withdrawal is processed without any problem, and its message delivered again. -/
def deliveredTwice : List Label :=
  let job := TransactionJobData.sample .withdraw
  [.submit job, .deliver job] ++ List.replicate 22 (.work 0 normalAnswer) ++
    .deliver job :: List.replicate 8 (.work 1 normalAnswer)

/-- Two operators replay the same entry at the same time. -/
def replayedTwice : List Label :=
  let job := TransactionJobData.sample .withdraw
  let answer := currentAnswer [failureEntry .sample job stopped]
  [.submit job, .deliver job, .work 0 lostAnswer, .work 0 normalAnswer,
    .startReplay 0 "first", .startReplay 0 "second",
    .replay 0 answer, .replay 1 answer, .replay 0 answer, .replay 1 answer]

/-- A redelivered job pays again, and an entry replayed twice at once is published twice. -/
theorem redelivery_pays_again : (∃ system, Run (fun before label after => before.step .sample label = some after)
      System.empty deliveredTwice system ∧ ¬ PaysOnce system.ledger) ∧
    (∃ system, Run (fun before label after => before.step .sample label = some after)
      System.empty replayedTwice system ∧ ¬ ∀ id, system.publications.count id ≤ 1) := by
  let job := TransactionJobData.sample .withdraw
  have twice : (deliveredTwice.foldlM (System.step .sample) System.empty).map System.ledger =
      some [⟨0, job, .stellar⟩, ⟨0, job, .payout⟩, ⟨1, job, .stellar⟩, ⟨1, job, .payout⟩] := by
    rfl
  have republished :
      (replayedTwice.foldlM (System.step .sample) System.empty).map System.publications =
        some [0, 0] := by
    rfl
  constructor
  · obtain ⟨system, followed, ledger⟩ := Option.map_eq_some_iff.mp twice
    refine ⟨system, .follow followed, fun once => ?_⟩
    rw [ledger] at once
    have same := once [⟨0, job, .stellar⟩, ⟨0, job, .payout⟩] ⟨1, job, .stellar⟩
      [⟨1, job, .payout⟩] rfl 0 rfl
    cases same
  · obtain ⟨system, followed, publications⟩ := Option.map_eq_some_iff.mp republished
    refine ⟨system, .follow followed, fun once => ?_⟩
    have count := once 0
    rw [publications] at count
    exact absurd count (by decide)

end ProxyPay.Queue
