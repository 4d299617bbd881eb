import Mathlib.Data.List.Perm.Basic
import ProxyPay.BatchWorker.Processor
import ProxyPay.Library.Exclusive

/-! A finished batch accounts for every item exactly if no item has failed for good in the millisecond in
which it was taken: the summary takes it for one that was skipped. -/

namespace ProxyPay.BatchWorker.Summary

open ProxyPay.Library

/-- The calls of the processor for an item. -/
def calls (log : List Logged) (item : ℕ) : ℕ :=
  log.countP fun logged =>
    match logged with
    | .called other _ => other = item
    | .answered .. => false

/-- What a finished batch should have done and should report. -/
structure Accounted (options : ProcessorOptions) (total : ℕ) (batch : Batch) : Prop where
  once : ((batch.summary total).results.map BatchResult.item).Perm (List.range total)
  bounded : ∀ item, calls batch.log item ≤ options.maxRetries + 1
  stops : ∀ earlier later item worker, batch.log = earlier ++ .answered item worker true :: later →
    ∀ other, Logged.called item other ∉ later
  alone : ∀ item worker other, Logged.called item worker ∈ batch.log → Logged.called item other ∈ batch.log →
    worker = other
  sum : (batch.summary total).succeeded + (batch.summary total).failed + (batch.summary total).skipped = total
  skipped : (batch.summary total).skipped = (List.range total).countP fun item => calls batch.log item = 0

/-- Where there are no retries, an answer that fails an item comes later than the item was taken. -/
def Slow (options : ProcessorOptions) (batch : Batch) : Label → Prop
  | .worker index false => ∀ item start attempt, batch.workers[index]? = some (.calling item start attempt) →
      options.maxRetries = 0 → start < batch.now
  | _ => True

/-! What the log says of one item. -/

def about (log : List Logged) (item : ℕ) : List Logged :=
  log.filter fun logged => logged.item = item

/-- Attempts that have failed. -/
def attempts (item worker count : ℕ) : List Logged :=
  (List.replicate count [Logged.called item worker, .answered item worker false]).flatten

attribute [local simp] Worker.held Batch.goOn

theorem about_append (log : List Logged) (logged : Logged) (item : ℕ) :
    about (log ++ [logged]) item = if logged.item = item then about log item ++ [logged] else about log item := by
  unfold about
  rw [List.filter_append]
  by_cases same : logged.item = item
  · simp [same]
  · simp [same]

theorem attempts_succ (item worker count : ℕ) : attempts item worker (count + 1) =
    attempts item worker count ++ [.called item worker, .answered item worker false] := by
  unfold attempts
  rw [List.replicate_succ', List.flatten_append]
  rfl

theorem calls_about (log : List Logged) (item : ℕ) : calls log item = calls (about log item) item := by
  unfold calls about
  rw [List.countP_filter]
  apply List.countP_congr
  intro logged _
  cases logged with
  | called other worker => simp_all [Logged.item]
  | answered other worker success => simp

theorem calls_attempts (item worker count : ℕ) : calls (attempts item worker count) item = count := by
  induction count with
  | zero => rfl
  | succ count ih => simp_all [attempts_succ, List.countP_append, calls]

/-! What a worker does when it goes on. -/

/-- From one place to the next, with what is left of the queue, the new results and the new log. -/
inductive Went (options : ProcessorOptions) (before : Batch) (index : ℕ) :
    Worker → Worker → List ℕ → List BatchResult → List Logged → Prop where
  | finish (empty : before.queue = []) : Went options before index .ready .finished [] [] []
  | drain {item : ℕ} {rest : List ℕ} (queue : before.queue = item :: rest) :
    Went options before index .ready .finished [] ((item :: rest).map fun skipped => ⟨skipped, false, 0⟩) []
  | take {item : ℕ} {rest : List ℕ} (queue : before.queue = item :: rest) :
    Went options before index .ready (.waiting item before.now 0) rest [] []
  | call {item start attempt : ℕ} : Went options before index (.waiting item start attempt)
      (.calling item start attempt) before.queue [] [.called item index]
  | succeed {item start attempt : ℕ} : Went options before index (.calling item start attempt) .ready before.queue
      [⟨item, true, before.now - start⟩] [.answered item index true]
  | retry {item start attempt : ℕ} (more : attempt < options.maxRetries) :
    Went options before index (.calling item start attempt)
      (.delaying item start attempt (before.now + Batch.delayMs attempt)) before.queue [] [.answered item index false]
  | fail {item start attempt : ℕ} (last : ¬attempt < options.maxRetries) :
    Went options before index (.calling item start attempt) .ready before.queue
      [⟨item, false, before.now - start⟩] [.answered item index false]
  | resume {item start attempt wake : ℕ} (awake : wake ≤ before.now) :
    Went options before index (.delaying item start attempt wake) (.waiting item start (attempt + 1)) before.queue [] []
  | giveUp {item start attempt wake : ℕ} (awake : wake ≤ before.now) :
    Went options before index (.delaying item start attempt wake) .ready before.queue
      [⟨item, false, before.now - start⟩] []

section Step

variable {options : ProcessorOptions} {before after : Batch} {index : ℕ} {success : Bool}

variable {now : ℕ} {breaker : Breaker}

theorem passes_unopened (passes : (checkCircuitBreaker options now breaker).1 = true) :
    (checkCircuitBreaker options now breaker).2.circuitState ≠ .opened := by
  unfold checkCircuitBreaker at passes ⊢
  by_cases opened : breaker.circuitState = .opened
  · grind
  · simp [opened]

theorem passes_again (passes : (checkCircuitBreaker options now breaker).1 = true) :
    (checkCircuitBreaker options now (checkCircuitBreaker options now breaker).2).1 = true := by
  have unopened := passes_unopened passes
  generalize (checkCircuitBreaker options now breaker).2 = left at unopened ⊢
  rw [checkCircuitBreaker, if_neg unopened]

theorem advance_cases (moved : before.advance options index success = some after) :
    ∃ old new queue added noted, before.workers[index]? = some old ∧
      Went options before index old new queue added noted ∧ after.workers = before.workers.set index new ∧
      after.queue = queue ∧ after.results = before.results ++ added ∧ after.log = before.log ++ noted ∧
      after.now = before.now ∧
      (∀ item start attempt, old = .calling item start attempt → noted = [.answered item index success]) := by
  obtain ⟨old, found, moved⟩ := Option.bind_eq_some_iff.mp moved
  cases old with
  | ready =>
    cases moved
    unfold Batch.processNext
    cases queue : before.queue with
    | nil =>
      refine ⟨_, _, _, _, _, found, .finish queue, rfl, queue, ?_, ?_, rfl, nofun⟩
      · simp
      · simp
    | cons item rest =>
      by_cases passes : (checkCircuitBreaker options before.now before.breaker).1 = true
      · have again := passes_again passes
        simp only [passes, if_true, Batch.enter, again]
        refine ⟨_, _, _, _, _, found, .take queue, rfl, rfl, ?_, ?_, rfl, nofun⟩
        · simp
        · simp
      · simp only [passes, Bool.false_eq_true, if_false]
        refine ⟨_, _, _, _, _, found, .drain queue, rfl, rfl, rfl, ?_, rfl, nofun⟩
        simp [Batch.push]
  | waiting item start attempt =>
    cases moved
    refine ⟨_, _, _, _, _, found, .call, rfl, rfl, ?_, rfl, rfl, nofun⟩
    simp [Batch.note]
  | calling item start attempt =>
    cases moved
    have said : ∀ item' start' attempt', Worker.calling item start attempt = .calling item' start' attempt' →
        [Logged.answered item index success] = [.answered item' index success] := by
      rintro _ _ _ ⟨⟩
      rfl
    cases success with
    | true =>
      exact ⟨_, _, _, _, _, found, .succeed, rfl, rfl, rfl, rfl, rfl, said⟩
    | false =>
      by_cases more : attempt < options.maxRetries
      · simp only [Batch.answer, Bool.false_eq_true, if_false, more, if_true]
        refine ⟨_, _, _, _, _, found, .retry more, rfl, rfl, ?_, rfl, rfl, said⟩
        simp [Batch.note]
      · simp only [Batch.answer, Bool.false_eq_true, if_false, more]
        exact ⟨_, _, _, _, _, found, .fail more, rfl, rfl, rfl, rfl, rfl, said⟩
  | delaying item start attempt wake =>
    by_cases awake : wake ≤ before.now
    · have moved : some (before.enter options index item start (attempt + 1)) = some after := by
        rw [← moved]
        exact (if_pos awake).symm
      cases moved
      by_cases passes : (checkCircuitBreaker options before.now before.breaker).1 = true
      · simp only [Batch.enter, passes, if_true]
        refine ⟨_, _, _, _, _, found, .resume awake, rfl, rfl, ?_, ?_, rfl, nofun⟩
        · simp
        · simp
      · simp only [Batch.enter, passes, Bool.false_eq_true, if_false]
        refine ⟨_, _, _, _, _, found, .giveUp awake, rfl, rfl, rfl, ?_, rfl, nofun⟩
        simp [Batch.push]
    · simp_all
  | finished => cases moved

end Step

/-! The invariant: every item is in one place, and the log says of it what that place says. -/

/-- What a worker says of the item that it holds. -/
def Busy (options : ProcessorOptions) (batch : Batch) (index : ℕ) : Worker → Prop
  | .waiting item start attempt => about batch.log item = attempts item index attempt ∧
      attempt ≤ options.maxRetries ∧ start ≤ batch.now ∧ (0 < attempt → start < batch.now)
  | .calling item start attempt => about batch.log item = attempts item index attempt ++ [.called item index] ∧
      attempt ≤ options.maxRetries ∧ start ≤ batch.now ∧ (0 < attempt → start < batch.now)
  | .delaying item start attempt wake => about batch.log item = attempts item index (attempt + 1) ∧
      attempt < options.maxRetries ∧ start < wake
  | _ => True

/-- What a result says of its item: it has succeeded after some attempts, or all of them have failed. -/
inductive Settled (options : ProcessorOptions) (log : List Logged) : BatchResult → Prop where
  | succeeded {item worker count durationMs : ℕ} (few : count ≤ options.maxRetries)
      (said : about log item = attempts item worker count ++ [.called item worker, .answered item worker true]) :
      Settled options log ⟨item, true, durationMs⟩
  | failed {item worker count durationMs : ℕ} (few : count ≤ options.maxRetries + 1)
      (said : about log item = attempts item worker count) (skipped : count = 0 → durationMs = 0) :
      Settled options log ⟨item, false, durationMs⟩

structure Standing (options : ProcessorOptions) (total : ℕ) (batch : Batch) : Prop where
  partition : (batch.results.map BatchResult.item ++ (batch.workers.filterMap Worker.held ++ batch.queue)).Perm
    (List.range total)
  queued : ∀ item ∈ batch.queue, about batch.log item = []
  busy : ∀ index worker, batch.workers[index]? = some worker → Busy options batch index worker
  settled : ∀ result ∈ batch.results, Settled options batch.log result
  known : ∀ logged ∈ batch.log, logged.item < total
  ended : batch.workers = [] ∨ Worker.finished ∈ batch.workers → batch.queue = []

section Standing

variable {options : ProcessorOptions} {total index item : ℕ} {before after : Batch} {worker : Worker}

theorem Standing.alone (standing : Standing options total before) (found : before.workers[index]? = some worker)
    (holds : worker.held = some item) :
    item < total ∧ item ∉ before.queue ∧ item ∉ before.results.map BatchResult.item ∧
      ∀ other moved, other ≠ index → before.workers[other]? = some moved → moved.held ≠ some item := by
  have split : (before.workers.filterMap Worker.held).Perm
      (item :: (before.workers.set index .ready).filterMap Worker.held) := by
    have perm := @filterMap_set_perm _ _ _ .ready _ _ Worker.held found
    rw [holds] at perm
    simpa [Worker.held] using perm.symm.trans List.perm_append_comm
  have whole : (item :: (before.results.map BatchResult.item ++
      ((before.workers.set index .ready).filterMap Worker.held ++ before.queue))).Perm (List.range total) := by
    refine List.Perm.trans ?_ standing.partition
    refine List.perm_middle.symm.trans (List.Perm.append_left _ ?_)
    exact (split.append_right before.queue).symm
  have distinct := whole.nodup_iff.mpr List.nodup_range
  have fresh := (List.nodup_cons.mp distinct).1
  simp only [List.mem_append, not_or] at fresh
  refine ⟨List.mem_range.mp (whole.subset List.mem_cons_self), fresh.2.2, fresh.1, ?_⟩
  intro other moved apart place own
  apply fresh.2.1
  apply List.mem_filterMap.mpr
  exact ⟨moved, List.mem_of_getElem? ((List.getElem?_set_ne (Ne.symm apart)).trans place), own⟩

variable {log : List Logged}

theorem about_other {noted : List Logged} (others : ∀ logged ∈ noted, logged.item ≠ item) :
    about (log ++ noted) item = about log item := by
  unfold about
  have none : noted.filter (fun logged => logged.item = item) = [] := by simp_all
  rw [List.filter_append, none, List.append_nil]

variable {later : List Logged} {result : BatchResult}

theorem Settled.congr (settled : Settled options log result)
    (same : about later result.item = about log result.item) : Settled options later result := by
  cases settled with
  | succeeded few said => exact .succeeded few (same.trans said)
  | failed few said skipped => exact .failed few (same.trans said) skipped

theorem Busy.congr (busy : Busy options before index worker) (later : before.now ≤ after.now)
    (same : ∀ item, worker.held = some item → about after.log item = about before.log item) :
    Busy options after index worker := by
  cases worker with
  | ready => trivial
  | waiting item start attempt =>
    obtain ⟨said, few, started, retried⟩ := busy
    exact ⟨(same item rfl).trans said, few, Nat.le_trans started later, fun more => Nat.lt_of_lt_of_le (retried more) later⟩
  | calling item start attempt =>
    obtain ⟨said, few, started, retried⟩ := busy
    exact ⟨(same item rfl).trans said, few, Nat.le_trans started later, fun more => Nat.lt_of_lt_of_le (retried more) later⟩
  | delaying item start attempt wake =>
    obtain ⟨said, few, started⟩ := busy
    exact ⟨(same item rfl).trans said, few, started⟩
  | finished => trivial

variable {old new : Worker} {added : List BatchResult} {noted : List Logged}

theorem Standing.goOn (standing : Standing options total before) (found : before.workers[index]? = some old)
    (workers : after.workers = before.workers.set index new) (results : after.results = before.results ++ added)
    (log : after.log = before.log ++ noted) (time : after.now = before.now)
    (balanced : (added.map BatchResult.item ++ ((new.held).toList ++ after.queue)).Perm
      ((old.held).toList ++ before.queue))
    (left : ∀ item ∈ after.queue, item ∈ before.queue) (own : ∀ logged ∈ noted, old.held = some logged.item)
    (busy : Busy options after index new) (settled : ∀ result ∈ added, Settled options after.log result)
    (ends : new = .finished ∨ before.queue = [] → after.queue = []) : Standing options total after := by
  have others : ∀ other, old.held ≠ some other → about after.log other = about before.log other := by
    intro other apart
    rw [log]
    apply about_other
    intro logged member same
    exact apart (same ▸ own logged member)
  constructor
  · rw [results, workers, List.map_append]
    refine List.Perm.trans ?_ standing.partition
    rw [List.append_assoc]
    apply List.Perm.append_left
    have moved := @filterMap_set_perm _ _ _ new _ _ Worker.held found
    rw [List.perm_iff_count] at moved balanced ⊢
    intro item
    have exchanged := moved item
    have handed := balanced item
    simp only [List.count_append] at exchanged handed ⊢
    omega
  · intro item member
    rw [others item, standing.queued item (left item member)]
    intro holds
    exact (standing.alone found holds).2.1 (left item member)
  · intro other moved place
    rw [workers] at place
    rcases getElem?_set_of_some place with ⟨rfl, rfl⟩ | ⟨apart, earlier⟩
    · exact busy
    · apply (standing.busy other moved earlier).congr (Nat.le_of_eq time.symm)
      intro item holds
      apply others
      intro held
      exact (standing.alone found held).2.2.2 other moved apart earlier holds
  · intro result member
    rw [results] at member
    rcases List.mem_append.mp member with earlier | fresh
    · apply (standing.settled result earlier).congr
      apply others
      intro held
      exact (standing.alone found held).2.2.1 (List.mem_map_of_mem earlier)
    · exact settled result fresh
  · intro logged member
    rw [log] at member
    rcases List.mem_append.mp member with earlier | fresh
    · exact standing.known logged earlier
    · exact (standing.alone found (own logged fresh)).1
  · intro past
    apply ends
    rw [workers] at past
    rcases past with none | finished
    · simp_all
    · rcases List.mem_or_eq_of_mem_set finished with earlier | rfl
      · exact .inr (standing.ended (.inr earlier))
      · exact .inl rfl

theorem delayMs_pos (attempt : ℕ) : 0 < Batch.delayMs attempt := by
  unfold Batch.delayMs
  have power := Nat.two_pow_pos attempt
  omega

section

variable (standing : Standing options total before)

include standing

theorem Standing.advance {success : Bool} (moved : before.advance options index success = some after) : Standing options total after := by
  obtain ⟨old, new, queue, added, noted, found, went, workers, left, results, log, time, _⟩ := advance_cases moved
  have busy := standing.busy index old found
  have nothing : noted = [] → after.log = before.log := by
    rintro rfl
    simpa using log
  cases went with
  | finish empty =>
    apply standing.goOn found workers results log time
    · simp [left, empty]
    · simp [left]
    · simp
    · trivial
    · simp
    · simp [left]
  | @drain item rest queue =>
    apply standing.goOn found workers results log time
    · simp [left, queue, Function.comp_def]
    · simp [left]
    · simp
    · trivial
    · intro result member
      obtain ⟨skipped, there, rfl⟩ := List.mem_map.mp member
      rw [nothing rfl]
      exact @Settled.failed _ _ _ 0 0 _ (Nat.zero_le _) (standing.queued skipped (queue ▸ there)) fun _ => rfl
    · simp [left]
  | @take item rest queue =>
    apply standing.goOn found workers results log time
    · simp [left, queue]
    · simp_all
    · simp
    · refine ⟨?_, Nat.zero_le _, Nat.le_of_eq time.symm, fun none => absurd none (Nat.lt_irrefl 0)⟩
      rw [nothing rfl]
      exact standing.queued item (by simp [queue])
    · simp
    · simp_all
  | @call item start attempt =>
    obtain ⟨said, few, started, retried⟩ := busy
    apply standing.goOn found workers results log time
    · simp [left]
    · simp [left]
    · simp [Logged.item]
    · refine ⟨?_, few, time ▸ started, time ▸ retried⟩
      rw [log, about_append, said]
      exact if_pos rfl
    · simp
    · simp [left]
  | @succeed item start attempt =>
    obtain ⟨said, few, started, retried⟩ := busy
    apply standing.goOn found workers results log time
    · simp [left]
    · simp [left]
    · simp [Logged.item]
    · trivial
    · intro result member
      obtain rfl := List.mem_singleton.mp member
      apply Settled.succeeded few
      rw [log, about_append, said]
      exact (if_pos rfl).trans (List.append_assoc ..)
    · simp [left]
  | @retry item start attempt more =>
    obtain ⟨said, few, started, retried⟩ := busy
    apply standing.goOn found workers results log time
    · simp [left]
    · simp [left]
    · simp [Logged.item]
    · refine ⟨?_, more, Nat.lt_of_le_of_lt started (Nat.lt_add_of_pos_right (delayMs_pos attempt))⟩
      rw [log, about_append, said, attempts_succ]
      exact (if_pos rfl).trans (List.append_assoc ..)
    · simp
    · simp [left]
  | @fail item start attempt last =>
    obtain ⟨said, few, started, retried⟩ := busy
    apply standing.goOn found workers results log time
    · simp [left]
    · simp [left]
    · simp [Logged.item]
    · trivial
    · intro result member
      obtain rfl := List.mem_singleton.mp member
      refine @Settled.failed _ _ _ index (attempt + 1) _ (Nat.succ_le_succ few) ?_ fun none => ?_
      · rw [log, about_append, said, attempts_succ]
        exact (if_pos rfl).trans (List.append_assoc ..)
      · cases none
    · simp [left]
  | @resume item start attempt wake awake =>
    obtain ⟨said, few, started⟩ := busy
    apply standing.goOn found workers results log time
    · simp [left]
    · simp [left]
    · simp
    · have late := Nat.lt_of_lt_of_le started awake
      refine ⟨?_, few, time ▸ Nat.le_of_lt late, fun _ => time ▸ late⟩
      rw [nothing rfl, said]
    · simp
    · simp [left]
  | @giveUp item start attempt wake awake =>
    obtain ⟨said, few, started⟩ := busy
    apply standing.goOn found workers results log time
    · simp [left]
    · simp [left]
    · simp
    · trivial
    · intro result member
      obtain rfl := List.mem_singleton.mp member
      refine @Settled.failed _ _ _ index (attempt + 1) _ (Nat.le_succ_of_le few) ?_ fun none => ?_
      · rw [nothing rfl, said]
      · cases none
    · simp [left]

theorem Standing.tick (elapsed : ℕ) : Standing options total { before with now := before.now + elapsed } := by
  refine ⟨standing.partition, standing.queued, ?_, standing.settled, standing.known, standing.ended⟩
  intro other moved place
  exact (standing.busy other moved place).congr (Nat.le_add_right _ _) fun _ _ => rfl

theorem Standing.elsewhere (breaker : Breaker) : Standing options total { before with breaker } := by
  refine ⟨standing.partition, standing.queued, ?_, standing.settled, standing.known, standing.ended⟩
  intro other moved place
  exact (standing.busy other moved place).congr (Nat.le_refl _) fun _ _ => rfl

end

theorem standing_start (options : ProcessorOptions) (breaker : Breaker) (now total : ℕ) :
    Standing options total (.start options breaker now total) := by
  have idle : ∀ worker ∈ (Batch.start options breaker now total).workers, worker = .ready := by
    intro worker member
    exact List.eq_of_mem_replicate member
  constructor
  · have none : (Batch.start options breaker now total).workers.filterMap Worker.held = [] := by
      apply List.filterMap_eq_nil_iff.mpr
      intro worker member
      rw [idle worker member]
      rfl
    rw [none]
    exact List.Perm.refl _
  · intro item _
    rfl
  · intro index worker place
    rw [idle worker (List.mem_of_getElem? place)]
    trivial
  · nofun
  · nofun
  · simp [Batch.start, List.length_replicate, List.length_nil]

/-! Items that the summary takes for skipped. -/

/-- The item has failed for good in no time. -/
def Fast (log : List Logged) (result : BatchResult) : Prop :=
  result.success = false ∧ result.durationMs = 0 ∧ calls log result.item ≠ 0

theorem calls_congr (same : about later item = about log item) : calls later item = calls log item := by
  rw [calls_about, same, ← calls_about]

variable {count : ℕ}

theorem calls_of_attempts {index : ℕ} (said : about log item = attempts item index count) : calls log item = count := by
  rw [calls_about, said, calls_attempts]

theorem fast_iff {success : Bool} (standing : Standing options total before)
    (moved : before.advance options index success = some after) :
    (∃ result ∈ after.results, Fast after.log result) ↔
      (∃ result ∈ before.results, Fast before.log result) ∨ ¬Slow options before (.worker index success) := by
  have later := standing.advance moved
  obtain ⟨old, new, queue, added, noted, found, went, workers, left, results, log, time, said⟩ := advance_cases moved
  have busy := standing.busy index old found
  have own : ∀ logged ∈ noted, old.held = some logged.item := by
    cases went <;> simp [Logged.item]
  have earlier : ∀ result ∈ before.results, Fast after.log result ↔ Fast before.log result := by
    intro result member
    unfold Fast
    rw [@calls_congr _ before.log after.log]
    rw [log]
    apply about_other
    intro logged there same
    have held := own logged there
    rw [same] at held
    exact (standing.alone found held).2.2.1 (List.mem_map_of_mem member)
  have split : (∃ result ∈ after.results, Fast after.log result) ↔
      (∃ result ∈ before.results, Fast before.log result) ∨ ∃ result ∈ added, Fast after.log result := by
    rw [results]
    constructor
    · grind
    · grind
  rw [split]
  apply or_congr_right
  -- Only an answer that fails an item for good adds one.
  have quiet : (∀ item start attempt, old ≠ .calling item start attempt) → Slow options before (.worker index success) := by
    intro idle
    cases success with
    | true => trivial
    | false =>
      intro item start attempt place
      exact (idle item start attempt (Option.some.inj (found.symm.trans place))).elim
  have nothing : noted = [] → after.log = before.log := by
    rintro rfl
    simpa using log
  cases went with
  | finish empty => exact ⟨by simp, fun fast => (fast (quiet nofun)).elim⟩
  | take queue => exact ⟨by simp, fun fast => (fast (quiet nofun)).elim⟩
  | call => exact ⟨by simp, fun fast => (fast (quiet nofun)).elim⟩
  | resume awake => exact ⟨by simp, fun fast => (fast (quiet nofun)).elim⟩
  | @drain item rest queue =>
    refine ⟨?_, fun fast => (fast (quiet nofun)).elim⟩
    rintro ⟨result, member, fast⟩
    obtain ⟨skipped, there, rfl⟩ := List.mem_map.mp member
    have never := fast.2.2
    rw [nothing rfl, calls_about, standing.queued skipped (queue ▸ there)] at never
    exact (never rfl).elim
  | @succeed item start attempt =>
    have answered := said item start attempt rfl
    cases success with
    | false => cases answered
    | true =>
      refine ⟨?_, fun fast => (fast trivial).elim⟩
      rintro ⟨result, member, fast⟩
      obtain rfl := List.mem_singleton.mp member
      cases fast.1
  | @retry item start attempt more =>
    refine ⟨by simp, fun fast => (fast ?_).elim⟩
    cases success with
    | true => trivial
    | false =>
      intro _ _ _ _ none
      rw [none] at more
      cases more
  | @giveUp item start attempt wake awake =>
    refine ⟨?_, fun fast => (fast (quiet nofun)).elim⟩
    rintro ⟨result, member, fast⟩
    obtain rfl := List.mem_singleton.mp member
    have quick := fast.2.1
    have started := busy.2.2
    simp only at quick
    omega
  | @fail item start attempt last =>
    obtain ⟨told, few, started, retried⟩ := busy
    have answered := said item start attempt rfl
    cases success with
    | true => cases answered
    | false =>
      have called : calls after.log item ≠ 0 := by
        have counted : about after.log item = attempts item index (attempt + 1) := by
          rw [log, about_append, told, attempts_succ]
          exact (if_pos rfl).trans (List.append_assoc ..)
        rw [calls_of_attempts counted]
        exact Nat.succ_ne_zero attempt
      constructor
      · rintro ⟨result, member, fast⟩ slow
        obtain rfl := List.mem_singleton.mp member
        have quick := fast.2.1
        have late := slow item start attempt found
        simp only at quick
        rcases Nat.eq_zero_or_pos attempt with rfl | more
        · omega
        · omega
      · intro quick
        refine ⟨_, List.mem_singleton.mpr rfl, rfl, ?_, called⟩
        by_contra slow
        apply quick
        intro item' start' attempt' place _
        cases found.symm.trans place
        simp only at slow
        omega

/-! A batch that is over. -/

theorem countP_eq_of_imp {α : Type} {first second : α → Bool} {list : List α}
    (implied : ∀ value ∈ list, first value = true → second value = true)
    (same : list.countP first = list.countP second) : ∀ value ∈ list, second value = true → first value = true := by
  induction list with
  | nil => simp
  | cons head tail ih =>
    have onward := List.countP_mono_left fun value member => implied value (List.mem_cons_of_mem head member)
    have here := implied head List.mem_cons_self
    have rest : tail.countP first = tail.countP second := by grind
    intro value member holds
    rcases List.mem_cons.mp member with rfl | later
    · grind
    · exact ih (fun value member => implied value (List.mem_cons_of_mem head member)) rest value later holds

theorem mem_attempts {logged : Logged} (member : logged ∈ attempts item index count) :
    logged = .called item index ∨ logged = .answered item index false := by
  obtain ⟨attempt, there, inside⟩ := List.mem_flatten.mp member
  rw [List.eq_of_mem_replicate there] at inside
  simpa using inside

theorem Settled.said (settled : Settled options log result) : calls log result.item ≤ options.maxRetries + 1 ∧
      (∃ worker, ∀ other, Logged.called result.item other ∈ log → other = worker) ∧
      ∀ earlier later worker, log = earlier ++ .answered result.item worker true :: later →
        ∀ other, Logged.called result.item other ∉ later := by
  have through : ∀ {logged : Logged}, logged ∈ log → logged ∈ about log logged.item := by
    intro logged member
    exact List.mem_filter.mpr ⟨member, decide_eq_true rfl⟩
  have after : ∀ {item earlier later worker}, log = earlier ++ Logged.answered item worker true :: later →
      about log item = about earlier item ++ .answered item worker true :: about later item := by
    rintro item earlier later worker rfl
    unfold about
    rw [List.filter_append]
    simp [Logged.item]
  cases settled with
  | @succeeded item index count durationMs few said =>
    refine ⟨?_, ⟨index, ?_⟩, ?_⟩
    · rw [calls_about, said]
      have counted := calls_attempts item index count
      unfold calls at counted ⊢
      rw [List.countP_append, counted]
      simp
      exact few
    · intro other member
      have there := through member
      rw [show (Logged.called item other).item = item from rfl, said] at there
      rcases List.mem_append.mp there with early | last
      · rcases mem_attempts early with same | same <;> cases same
        rfl
      · simpa using last
    · intro earlier later worker split other member
      -- The success is the last thing that is said of the item.
      have whole := after split
      rw [said] at whole
      have there : Logged.called item other ∈ about later item := List.mem_filter.mpr ⟨member, decide_eq_true rfl⟩
      obtain empty | ⟨front, final, onward⟩ := List.eq_nil_or_concat (about later item)
      · rw [empty] at there
        cases there
      · rw [onward, List.concat_eq_append, ← List.cons_append, ← List.append_assoc,
          show ∀ first second : Logged, attempts item index count ++ [first, second] =
            (attempts item index count ++ [first]) ++ [second] by simp] at whole
        have early : Logged.answered item worker true ∈ attempts item index count ++ [.called item index] := by
          rw [(List.append_inj' whole rfl).1]
          simp
        rcases List.mem_append.mp early with tried | called
        · rcases mem_attempts tried with same | same <;> cases same
        · simp at called
  | @failed item index count durationMs few said skipped =>
    refine ⟨?_, ⟨index, ?_⟩, ?_⟩
    · rw [calls_of_attempts said]
      exact few
    · intro other member
      have there := through member
      rw [show (Logged.called item other).item = item from rfl, said] at there
      rcases mem_attempts there with same | same <;> cases same
      rfl
    · intro earlier later worker split other _
      have there : Logged.answered item worker true ∈ attempts item index count := by
        rw [← said, after split]
        simp
      rcases mem_attempts there with same | same <;> cases same

theorem Standing.over (standing : Standing options total before) (past : before.isOver = true) :
    (before.results.map BatchResult.item).Perm (List.range total) := by
  have finished : ∀ worker ∈ before.workers, worker = .finished := by
    intro worker member
    exact of_decide_eq_true (List.all_eq_true.mp past worker member)
  have idle : before.workers.filterMap Worker.held = [] := by
    apply List.filterMap_eq_nil_iff.mpr
    intro worker member
    rw [finished worker member]
    rfl
  have drained : before.queue = [] := by
    apply standing.ended
    rcases List.eq_nil_or_concat before.workers with none | ⟨front, last, whole⟩
    · exact .inl none
    · simp_all
  have perm := standing.partition
  rw [idle, drained] at perm
  simpa using perm

theorem counts_add (results : List BatchResult) : results.countP (fun result => result.success) +
        results.countP (fun result => !result.success && 0 < result.durationMs) +
      results.countP (fun result => !result.success && result.durationMs = 0) = results.length := by
  induction results with
  | nil => rfl
  | cons result results ih => grind

theorem Standing.accounted (standing : Standing options total before) (ended : before.isOver = true) :
    Accounted options total before ↔ ¬∃ result ∈ before.results, Fast before.log result := by
  have perm := standing.over ended
  have located : ∀ item < total, ∃ result ∈ before.results, result.item = item := by
    intro item bound
    exact List.mem_map.mp (perm.mem_iff.mpr (List.mem_range.mpr bound))
  have uncalled : (List.range total).countP (fun item => calls before.log item = 0) =
      before.results.countP fun result => calls before.log result.item = 0 := by
    rw [← perm.countP_eq, List.countP_map]
    rfl
  have skipped : ∀ result ∈ before.results, decide (calls before.log result.item = 0) = true →
      (!result.success && decide (result.durationMs = 0)) = true := by
    intro result member none
    have zero := of_decide_eq_true none
    cases standing.settled result member with
    | @succeeded item index count durationMs few said => grind [calls_about, List.countP_append, calls]
    | @failed item index count durationMs few said skips =>
      rw [calls_of_attempts said] at zero
      simp [skips zero]
  constructor
  · rintro accounted ⟨result, member, failed, quick, called⟩
    have same := accounted.skipped
    rw [uncalled] at same
    have none := countP_eq_of_imp skipped same.symm result member (by simp [failed, quick])
    exact called (of_decide_eq_true none)
  · intro slow
    constructor
    · exact perm
    · intro item
      by_cases bound : item < total
      · obtain ⟨result, member, rfl⟩ := located item bound
        exact (standing.settled result member).said.1
      · have silent : about before.log item = [] := by
          apply List.filter_eq_nil_iff.mpr
          intro logged member same
          exact bound (of_decide_eq_true same ▸ standing.known logged member)
        rw [calls_about, silent]
        exact Nat.zero_le _
    · intro earlier later item worker split
      have bound : item < total := standing.known (.answered item worker true) (by simp [split])
      obtain ⟨result, member, rfl⟩ := located item bound
      exact (standing.settled result member).said.2.2 earlier later worker split
    · intro item worker other first second
      obtain ⟨result, member, rfl⟩ := located item (standing.known _ first)
      obtain ⟨only, same⟩ := (standing.settled result member).said.2.1
      rw [same worker first, same other second]
    · have length := perm.length_eq
      rw [List.length_map, List.length_range] at length
      exact (counts_add before.results).trans length
    · rw [uncalled]
      apply List.countP_congr
      intro result member
      constructor
      · intro counted
        simp only [Bool.and_eq_true, Bool.not_eq_true', decide_eq_true_eq] at counted
        by_contra called
        exact slow ⟨result, member, counted.1, counted.2, fun none => called (decide_eq_true none)⟩
      · exact skipped result member

end Standing

/-- A batch that is over accounts for its items exactly if none was failed for good in no time. -/
theorem processBatch_accounted {options : ProcessorOptions} {breaker : Breaker} {now total : ℕ} {trace : List Label} {last : Batch}
    (run : Run (step options) (.start options breaker now total) trace last) (ended : last.isOver = true) :
    Accounted options total last ↔
      Throughout (step options) (.start options breaker now total) (fun before label _ => Slow options before label)
        trace := by
  have standing : Standing options total last ∧ ((∃ result ∈ last.results, Fast last.log result) ↔
      ¬Throughout (step options) (.start options breaker now total) (fun before label _ => Slow options before label)
        trace) := by
    clear ended
    induction run with
    | start =>
      refine ⟨standing_start options breaker now total, ?_⟩
      constructor
      · rintro ⟨result, member, _⟩
        cases member
      · intro slow
        exact (slow throughout_nil).elim
    | @next trace before after label earlier move ih =>
      obtain ⟨standing, fast⟩ := ih
      have once : Throughout (step options) (.start options breaker now total)
          (fun before label _ => Slow options before label) (trace ++ [label]) ↔
          Throughout (step options) (.start options breaker now total)
            (fun before label _ => Slow options before label) trace ∧ Slow options before label := by
        rw [throughout_snoc]
        apply and_congr_right
        intro _
        constructor
        · intro every
          exact every before after earlier move
        · intro slow other moved run _
          rw [Run.unique run earlier]
          exact slow
      rw [once, not_and_or, ← fast]
      cases label with
      | tick elapsed =>
        cases move
        exact ⟨standing.tick elapsed, by simp [Slow]⟩
      | worker index success => exact ⟨standing.advance move, fast_iff standing move⟩
      | elsewhere breaker =>
        cases move
        exact ⟨standing.elsewhere breaker, by simp [Slow]⟩
  rw [standing.1.accounted ended, standing.2, not_not]

/-- Two workers take two items; one is called again after it has failed. -/
def retried : List Label :=
  [.worker 0 false, .worker 1 false, .worker 0 false, .worker 0 false, .worker 1 false, .worker 1 true,
    .worker 1 false, .tick 1000, .worker 0 false, .worker 0 false, .worker 0 true, .worker 0 false]

theorem retried_accounted : ∃ last : Batch, last.isOver = true ∧ Accounted ⟨2, 5, 60000, 1⟩ 2 last := by
  have followed : (retried.foldlM (Batch.perform ⟨2, 5, 60000, 1⟩) (.start ⟨2, 5, 60000, 1⟩ .initial 0 2)).map
      Batch.isOver = some true := by decide
  obtain ⟨last, reached, ended⟩ := Option.map_eq_some_iff.mp followed
  refine ⟨last, ended, (processBatch_accounted (Run.follow reached) ended).mpr ?_⟩
  intro earlier label rest before after _ _ _
  cases label with
  | tick elapsed | elsewhere breaker => trivial
  | worker index success =>
    cases success with
    | true => trivial
    | false =>
      intro item start attempt _ never
      cases never

/-- The processor fails an item in the millisecond in which it was taken. -/
def quick : List Label :=
  [.worker 0 false, .worker 0 false, .worker 0 false, .worker 0 false]

theorem quick_not_accounted : ¬∀ (options : ProcessorOptions) (breaker : Breaker) (now total : ℕ) (trace : List Label)
    (last : Batch), Run (step options) (.start options breaker now total) trace last → last.isOver = true →
    Accounted options total last := by
  intro always
  have followed : (quick.foldlM (Batch.perform ⟨1, 5, 60000, 0⟩) (.start ⟨1, 5, 60000, 0⟩ .initial 0 1)).map
      (fun last => (last.isOver, (last.summary 1).skipped, calls last.log 0)) = some (true, 1, 1) := by decide
  obtain ⟨last, reached, counted⟩ := Option.map_eq_some_iff.mp followed
  simp only [Prod.mk.injEq] at counted
  obtain ⟨ended, skipped, called⟩ := counted
  have accounted := always _ _ _ _ quick last (Run.follow reached) ended
  have never := accounted.skipped
  rw [skipped] at never
  simp [called] at never

end ProxyPay.BatchWorker.Summary
