import ProxyPay.MobileMoney.BatchPayout

/-! Whether the report of a batch agrees with what was paid. -/

namespace ProxyPay.MobileMoney

open ProxyPay.Library

def BatchRequest.isBatch : BatchRequest → Bool
  | .executeWithCircuitBreaker .. => true
  | _ => false

def BatchRequest.isPayout : BatchRequest → Bool
  | .sendPayout .. => true
  | _ => false

/-- How the provider was loaded. -/
def loadOf : BatchAnswered → Option (Except Thrown ProviderInstance)
  | ⟨.getProviderOrThrow _, reply, _⟩ => some reply
  | _ => none

def loadsOf (exchanges : List BatchAnswered) : List (Except Thrown ProviderInstance) :=
  exchanges.filterMap loadOf

/-- Whether an individual payout has paid its item. An answer is believed; a payout that
raised may have paid. -/
def payoutOf : BatchAnswered → Option Bool
  | ⟨.sendPayout .., .ok _, _⟩ => some true
  | ⟨.sendPayout .., .error _, tookEffect⟩ => some tookEffect
  | _ => none

def payoutsOf (exchanges : List BatchAnswered) : List Bool :=
  exchanges.filterMap payoutOf

/-- A batch call that took effect. -/
def settlesBatch : BatchAnswered → Bool
  | ⟨.executeWithCircuitBreaker .., .ok _, _⟩ => true
  | ⟨.executeWithCircuitBreaker .., .error _, tookEffect⟩ => tookEffect
  | _ => false

/-- The item at this position has been paid: by its own payout, or by a batch call, where
`inBatch` tells which positions the provider pays. -/
def paidAt (inBatch : Nat → Bool) (exchanges : List BatchAnswered) (index : Nat) : Bool :=
  (payoutsOf exchanges)[index]? = some true || (exchanges.any settlesBatch && inBatch index)

/-- There is one entry for each item, in order; it reports success exactly when the item
was paid; and a provider that supports batches is asked for the batch. -/
structure Truthful (inBatch : Nat → Bool) (items : List BatchPayoutItem)
    (exchanges : List BatchAnswered) (outcome : Except Thrown (Driven (Option BatchReport))) :
    Prop where
  reports : ∃ report, outcome = .ok (.returned (some report)) ∧
    report.results.map BatchPayoutResult.referenceId =
      items.map BatchPayoutItem.referenceId ∧
    ∀ index result, report.results[index]? = some result →
      (result.success = true ↔ paidAt inBatch exchanges index = true)
  asks : .ok ⟨true⟩ ∈ loadsOf exchanges → ∃ exchange ∈ exchanges, exchange.request.isBatch = true

/-- The lists and the outcomes of the calls under which the report is truthful: nothing is
to be paid, the list is too long, the provider cannot be loaded, or it has no batches and
either every payout returns or the first one raises without having paid. -/
def Settles (items : List BatchPayoutItem) (exchanges : List BatchAnswered) : Prop :=
  items.length = 0 ∨ items.length > maxBatchSize ∨
  (∃ error, .error error ∈ loadsOf exchanges) ∨
  .ok ⟨false⟩ ∈ loadsOf exchanges ∧
    ((∀ exchange ∈ exchanges, exchange.request.isPayout = true →
        ∃ receipt, exchange.reply = .ok receipt) ∨
      (payoutsOf exchanges).head? = some false)

/-- The runs of `batchOutcome`, one constructor for each way through it. -/
inductive BatchRun (key : String) (items : List BatchPayoutItem) :
    List BatchAnswered → BatchReport → Prop where
  | empty (none : items.length = 0) : BatchRun key items [] ⟨true, [], .none⟩
  | large (large : items.length > maxBatchSize) : BatchRun key items [] (oversized items)
  | unloaded (some : items.length ≠ 0) (error : Thrown) (tookEffect : Bool) :
      BatchRun key items [⟨.getProviderOrThrow key, .error error, tookEffect⟩]
        (failedBatch items error)
  | batch (some : items.length ≠ 0) (fits : ¬ items.length > maxBatchSize) (tookEffect : Bool) :
      BatchRun key items [⟨.getProviderOrThrow key, .ok ⟨true⟩, tookEffect⟩]
        (failedBatch items (readsUndefined "length"))
  | individual (some : items.length ≠ 0) (tookEffect : Bool) {rest : List BatchAnswered}
      {results : List BatchPayoutResult}
      (paid : (payIndividually key items []).Runs rest (.ok results)) :
      BatchRun key items (⟨.getProviderOrThrow key, .ok ⟨false⟩, tookEffect⟩ :: rest)
        (individualReport results)
  | interrupted (some : items.length ≠ 0) (fits : ¬ items.length > maxBatchSize)
      (tookEffect : Bool) {rest : List BatchAnswered} {error : Thrown}
      (raised : (payIndividually key items []).Runs rest (.error error)) :
      BatchRun key items (⟨.getProviderOrThrow key, .ok ⟨false⟩, tookEffect⟩ :: rest)
        (failedBatch items error)

section Runs

variable {key : String} {items rest : List BatchPayoutItem} {exchanges : List BatchAnswered}
variable {results : List BatchPayoutResult}

variable {outcome : Except Thrown BatchReport}

theorem payBatch_runs {provider : ProviderInstance} (runs : (payBatch key items provider).Runs exchanges outcome) :
    (provider.sendBatchPayout = true ∧ exchanges = [] ∧ outcome = .error (readsUndefined "length")) ∨
    (provider.sendBatchPayout = false ∧ ((∃ results, (payIndividually key items []).Runs exchanges (.ok results) ∧
          outcome = .ok (individualReport results)) ∨
        ∃ error, (payIndividually key items []).Runs exchanges (.error error) ∧ outcome = .error error)) := by
  unfold payBatch at runs
  split at runs
  · next mode =>
    cases runs
    exact .inl ⟨mode, rfl, rfl⟩
  · next mode =>
    refine .inr ⟨by simpa using mode, ?_⟩
    rcases Script.runs_bind runs with ⟨error, raised, rfl⟩ | ⟨results, first, second, paid, later, rfl⟩
    · exact .inr ⟨error, raised, rfl⟩
    · cases later
      exact .inl ⟨results, by simpa using paid, rfl⟩

theorem batchOutcome_runs (runs : (batchOutcome key items).Runs exchanges outcome) :
    ∃ report, outcome = .ok report ∧ BatchRun key items exchanges report := by
  unfold batchOutcome at runs
  split at runs
  · next none =>
    cases runs
    exact ⟨_, rfl, .empty none⟩
  next some =>
  split at runs
  · next large =>
    cases runs
    exact ⟨_, rfl, .large large⟩
  next fits =>
  rcases Script.runs_catching runs with ⟨report, returned, rfl⟩ | ⟨error, first, last, raised, later, rfl⟩
  · refine ⟨report, rfl, ?_⟩
    rcases Script.runs_bind returned with ⟨error, _, same⟩ | ⟨⟨mode⟩, first, last, loaded, paid, rfl⟩
    · cases same
    · obtain ⟨tookEffect, rfl⟩ := Script.runs_call loaded
      rcases payBatch_runs paid with ⟨_, _, same⟩ | ⟨mode, ⟨results, all, same⟩ | ⟨_, _, same⟩⟩
      · cases same
      · cases mode
        cases same
        exact .individual some tookEffect all
      · cases same
  · cases later
    refine ⟨_, rfl, ?_⟩
    rw [List.append_nil]
    rcases Script.runs_bind raised with ⟨_, unloaded, same⟩ | ⟨⟨mode⟩, first, last, loaded, failed, rfl⟩
    · cases same
      obtain ⟨tookEffect, rfl⟩ := Script.runs_call unloaded
      exact .unloaded some error tookEffect
    · obtain ⟨tookEffect, rfl⟩ := Script.runs_call loaded
      rcases payBatch_runs failed with ⟨mode, rfl, same⟩ | ⟨mode, ⟨_, _, same⟩ | ⟨_, all, same⟩⟩
      · cases mode
        cases same
        exact .batch some fits tookEffect
      · cases same
      · cases mode
        cases same
        exact .interrupted some fits tookEffect all

theorem payIndividually_runs {outcome : Except Thrown (List BatchPayoutResult)}
    (runs : (payIndividually key rest results).Runs exchanges outcome) :
    (∀ exchange ∈ exchanges, exchange.request.isPayout = true) ∧
    ((∃ entries, outcome = .ok (results ++ entries) ∧
        entries.map BatchPayoutResult.referenceId = rest.map BatchPayoutItem.referenceId ∧
        (∀ entry ∈ entries, entry.success = true) ∧
        payoutsOf exchanges = List.replicate rest.length true ∧
        ∀ exchange ∈ exchanges, ∃ value, exchange.reply = .ok value) ∨
      ∃ error count tookEffect, outcome = .error error ∧ count < rest.length ∧
        payoutsOf exchanges = List.replicate count true ++ [tookEffect] ∧
        ∃ exchange ∈ exchanges, exchange.reply = .error error) := by
  induction rest generalizing results exchanges with
  | nil =>
    cases runs
    exact ⟨nofun, .inl ⟨[], by simp, rfl, nofun, rfl, nofun⟩⟩
  | cons item rest ih =>
    rcases Script.runs_bind runs with ⟨error, raised, rfl⟩ | ⟨receipt, first, last, returned, later, rfl⟩
    · obtain ⟨tookEffect, rfl⟩ := Script.runs_call raised
      refine ⟨by simp [BatchRequest.isPayout], .inr ⟨error, 0, tookEffect, rfl, by simp, rfl, ?_⟩⟩
      exact ⟨_, List.mem_singleton_self _, rfl⟩
    · obtain ⟨tookEffect, rfl⟩ := Script.runs_call returned
      obtain ⟨payouts, ending⟩ := ih later
      refine ⟨by simpa [BatchRequest.isPayout] using payouts, ?_⟩
      rcases ending with
        ⟨entries, rfl, order, successes, all, answered⟩ |
        ⟨error, count, effect, rfl, inside, some, failing, member, raised⟩
      · refine .inl ⟨paidEntry item receipt :: entries, by simp, ?_, ?_, ?_, ?_⟩
        · simp [order, paidEntry]
        · simpa [paidEntry] using successes
        · simpa [payoutsOf, payoutOf, List.replicate_succ] using all
        · simpa using answered
      · refine .inr ⟨error, count + 1, effect, rfl, by simpa using inside, ?_,
          failing, by simp [member], raised⟩
        simpa [payoutsOf, payoutOf, List.replicate_succ] using some

end Runs

section Truth

variable {inBatch : Nat → Bool} {key : String} {items : List BatchPayoutItem}
variable {exchanges : List BatchAnswered} {report : BatchReport} {message : String}
variable {error : Thrown}

theorem truthful_allFailed (unpaid : ∀ index, paidAt inBatch exchanges index = false)
    (single : .ok ⟨true⟩ ∉ loadsOf exchanges) :
    Truthful inBatch items exchanges (.ok (.returned (some (allFailed items message error)))) := by
  refine ⟨⟨_, rfl, by simp [allFailed], ?_⟩, fun loaded => absurd loaded single⟩
  intro index result found
  obtain ⟨item, _, rfl⟩ := List.mem_map.mp (List.mem_of_getElem? found)
  simp [unpaid index]

theorem Truthful.unpaid (truthful : Truthful inBatch items exchanges
      (.ok (.returned (some (allFailed items message error)))))
    {index : Nat} (inside : index < items.length) : paidAt inBatch exchanges index = false := by
  obtain ⟨report, same, _, entries⟩ := truthful.reports
  cases same
  have entry := entries index ⟨items[index].referenceId, false, some message, none⟩ (by
    simp [allFailed, inside])
  simpa using entry

theorem truthful_nil (outcome : BatchReport)
    (failed : outcome = ⟨true, [], none⟩ ∧ items.length = 0 ∨ outcome = oversized items) :
    Truthful inBatch items [] (.ok (.returned (some outcome))) := by
  rcases failed with ⟨rfl, none⟩ | rfl
  · refine ⟨⟨_, rfl, ?_, by simp⟩, nofun⟩
    simp [List.length_eq_zero_iff.mp none]
  · exact truthful_allFailed (fun _ => rfl) nofun

variable {first : BatchAnswered}

theorem loadsOf_cons {reply : Except Thrown ProviderInstance}
    (load : loadOf first = some reply) : loadsOf (first :: exchanges) = reply :: loadsOf exchanges := by
  simp [loadsOf, load]

theorem paidAt_cons (unpaid : payoutOf first = none) (single : settlesBatch first = false) (index : Nat) :
    paidAt inBatch (first :: exchanges) index = paidAt inBatch exchanges index := by
  have same : payoutsOf (first :: exchanges) = payoutsOf exchanges := by
    simp [payoutsOf, unpaid]
  simp only [paidAt, same, List.any_cons, single, Bool.false_or]

section

variable (payouts : ∀ exchange ∈ exchanges, exchange.request.isPayout = true)

include payouts

theorem payouts_frame : loadsOf exchanges = [] ∧ exchanges.any settlesBatch = false := by
  constructor
  · refine List.filterMap_eq_nil_iff.mpr fun exchange member => ?_
    obtain ⟨request, reply, tookEffect⟩ := exchange
    have payout := payouts _ member
    cases request <;> first | rfl | cases payout
  · refine List.any_eq_false.mpr fun exchange member => ?_
    obtain ⟨request, reply, tookEffect⟩ := exchange
    have payout := payouts _ member
    cases request <;> first | (simp [settlesBatch]; done) | cases payout

theorem paidAt_payouts (index : Nat) : paidAt inBatch exchanges index = decide ((payoutsOf exchanges)[index]? = some true) := by
  simp [paidAt, (payouts_frame payouts).2]

end

theorem BatchRun.truthful_iff (run : BatchRun key items exchanges report) :
    Truthful inBatch items exchanges (.ok (.returned (some report))) ↔ Settles items exchanges := by
  cases run with
  | empty none => exact ⟨fun _ => .inl none, fun _ => truthful_nil _ (.inl ⟨rfl, none⟩)⟩
  | large large => exact ⟨fun _ => .inr (.inl large), fun _ => truthful_nil _ (.inr rfl)⟩
  | unloaded some error tookEffect =>
    refine ⟨fun _ => .inr (.inr (.inl ⟨error, List.mem_singleton_self _⟩)), fun _ => ?_⟩
    exact truthful_allFailed (fun _ => rfl) fun member => nomatch List.mem_singleton.mp member
  | batch some fits tookEffect =>
    constructor
    · intro truthful
      obtain ⟨exchange, member, asked⟩ := truthful.asks (List.mem_singleton_self _)
      obtain rfl := List.mem_singleton.mp member
      cases asked
    · rintro (none | large | ⟨error, member⟩ | ⟨member, _⟩)
      · exact absurd none some
      · exact absurd large fits
      · exact nomatch List.mem_singleton.mp member
      · exact nomatch List.mem_singleton.mp member
  | @individual some tookEffect rest results paid =>
    obtain ⟨payouts, ended⟩ := payIndividually_runs paid
    rcases ended with ⟨entries, same, order, successes, all, answered⟩ | ⟨_, _, _, same, _⟩
    · cases same
      rw [List.nil_append]
      have settles : Settles items (⟨.getProviderOrThrow key, .ok ⟨false⟩, tookEffect⟩ :: rest) := by
        refine .inr (.inr (.inr ⟨List.mem_cons_self, .inl ?_⟩))
        intro exchange member isPayout
        rcases List.mem_cons.mp member with rfl | later
        · cases isPayout
        · exact answered exchange later
      refine ⟨fun _ => settles, fun _ => ⟨⟨_, rfl, order, ?_⟩, ?_⟩⟩
      · intro index result found
        have length : entries.length = items.length := by simpa using congrArg List.length order
        have inside : index < items.length := by
          rw [← length]
          exact (List.getElem?_eq_some_iff.mp found).1
        rw [paidAt_cons rfl rfl, paidAt_payouts payouts, all]
        simp [successes result (List.mem_of_getElem? found), inside]
      · intro member
        rw [loadsOf_cons rfl, (payouts_frame payouts).1] at member
        exact nomatch List.mem_singleton.mp member
    · cases same
  | @interrupted some fits tookEffect rest error raised =>
    obtain ⟨payouts, ended⟩ := payIndividually_runs raised
    rcases ended with ⟨_, same, _⟩ | ⟨_, count, effect, same, inside, made, failing, member, failed⟩
    · cases same
    cases same
    have loads : loadsOf (⟨.getProviderOrThrow key, .ok ⟨false⟩, tookEffect⟩ :: rest) =
        [.ok ⟨false⟩] := by
      rw [loadsOf_cons rfl, (payouts_frame payouts).1]
      rfl
    have whole : payoutsOf (⟨.getProviderOrThrow key, .ok ⟨false⟩, tookEffect⟩ :: rest) =
        List.replicate count true ++ [effect] := made
    have paid : ∀ index, paidAt inBatch (⟨.getProviderOrThrow key, .ok ⟨false⟩, tookEffect⟩ :: rest)
        index = decide ((List.replicate count true ++ [effect])[index]? = .some true) := by
      intro index
      rw [paidAt_cons rfl rfl, paidAt_payouts payouts, made]
    constructor
    · intro truthful
      have first := truthful.unpaid (Nat.zero_lt_of_lt inside)
      rw [paid] at first
      refine .inr (.inr (.inr ⟨List.mem_cons_self, .inr ?_⟩))
      rw [whole]
      cases count with
      | zero => simpa using first
      | succ count => simp [List.replicate_succ] at first
    · rintro (none | large | ⟨problem, thrown⟩ | ⟨_, returned | first⟩)
      · exact absurd none some
      · exact absurd large fits
      · simp_all
      · grind
      · rw [whole] at first
        have unpaid : count = 0 ∧ effect = false := by grind
        obtain ⟨rfl, rfl⟩ := unpaid
        refine truthful_allFailed (fun index => ?_) ?_
        · rw [paid]
          cases index <;> rfl
        · simp_all

end Truth

/-- Driven often enough, the function returns a report in every run, and the report is
truthful exactly under the condition. -/
theorem batch_truthful_iff {fuel : Nat} {provider : String} {items : List BatchPayoutItem}
    {exchanges : List BatchAnswered} {outcome : Except Thrown (Driven (Option BatchReport))}
    {inBatch : Nat → Bool} (enough : 2 * items.length + 3 ≤ fuel)
    (runs : (sendBatchPayout fuel provider items).Runs exchanges outcome) :
    Truthful inBatch items exchanges outcome ↔ Settles items exchanges := by
  rw [sendBatchPayout_eq enough] at runs
  rcases Script.runs_bind runs with ⟨error, raised, rfl⟩ | ⟨report, first, last, returned, ended, rfl⟩
  · obtain ⟨report, same, _⟩ := batchOutcome_runs raised
    cases same
  · cases ended
    obtain ⟨_, same, run⟩ := batchOutcome_runs returned
    cases same
    rw [List.append_nil]
    exact run.truthful_iff

def sampleItems : List BatchPayoutItem :=
  [⟨"first", "+237600000000", "10"⟩, ⟨"second", "+237600000001", "20"⟩]

/-- A provider with or without batches, whose payouts return up to a number of exchanges. -/
def world (batches : Bool) (limit : Nat) : Script.World BatchRequest BatchRequest.Reply Thrown
  | _, .getProviderOrThrow _ => (.ok (⟨batches⟩ : ProviderInstance), true)
  | history, .sendPayout .. =>
    if history.length < limit then (.ok (⟨true, none, none⟩ : Receipt), true)
    else (.error (.error "timeout"), false)
  | _, .executeWithCircuitBreaker .. => (.ok (⟨true, [], none⟩ : BatchReport), true)

def sampleRun (batches : Bool) (limit : Nat) : List BatchAnswered × Except Thrown (Driven (Option BatchReport)) :=
  (sendBatchPayout 7 "airtel" sampleItems).run (world batches limit) []

theorem batch_truthful_paid : Truthful (fun _ => false) sampleItems (sampleRun false 3).1 (sampleRun false 3).2 := by
  refine (batch_truthful_iff (Nat.le_refl 7) (Script.runs_run _ _ _)).mpr
    (.inr (.inr (.inr ⟨List.mem_cons_self, .inl ?_⟩)))
  intro exchange member isPayout
  rcases member with _ | ⟨_, _ | ⟨_, _ | ⟨_, none⟩⟩⟩
  · cases isPayout
  · exact ⟨_, rfl⟩
  · exact ⟨_, rfl⟩
  · cases none

/-- An item that was paid is reported as failed when a later one raises, and a provider
that supports batches is not asked for the batch. -/
theorem batch_reports_falsely : ¬ Truthful (fun _ => false) sampleItems (sampleRun false 2).1 (sampleRun false 2).2 ∧
    ¬ Truthful (fun _ => false) sampleItems (sampleRun true 3).1 (sampleRun true 3).2 := by
  constructor
  · intro truthful
    have reported : (sampleRun false 2).2 =
        .ok (.returned (some (failedBatch sampleItems (.error "timeout")))) := by rfl
    rw [reported] at truthful
    have paid : paidAt (fun _ => false) (sampleRun false 2).1 0 = true := by rfl
    rw [Truthful.unpaid truthful (by decide)] at paid
    cases paid
  · intro truthful
    obtain ⟨exchange, member, asked⟩ := truthful.asks List.mem_cons_self
    rcases member with _ | ⟨_, none⟩
    · cases asked
    · cases none

end ProxyPay.MobileMoney
