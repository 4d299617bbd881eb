import ProxyPay.Disputes.Engine
import ProxyPay.Library.Exclusive
import ProxyPay.Library.Transition

/-! The automatic path and requests keep to the life of a dispute in every run in which no two of them stand
between their decision and their update at once. -/

namespace ProxyPay.Disputes

open ProxyPay.Library

def Dispute.data (dispute : Dispute) (field : String) : Option String :=
  if field = "resolution" then dispute.resolution
  else if field = "assignedTo" then dispute.assignedTo
  else none

/-- What a step may do to the stored dispute. -/
structure Respects (before after : Dispute) : Prop where
  moves : after.status ≠ before.status → Moves before.status after.status ∧
    ∀ field ∈ getRequiredFields before.status after.status, isMissing (after.data field) = false
  final : isTerminalState before.status = true → after.status = before.status ∧ after.resolution = before.resolution

theorem Respects.refl (dispute : Dispute) : Respects dispute dispute := by
  constructor
  · nofun
  · simp

theorem Respects.of_moves {before after : Dispute} (moves : Moves before.status after.status)
    (present : isTerminalState after.status = true → isMissing after.resolution = false) : Respects before after := by
  constructor
  · intro _
    refine ⟨moves, ?_⟩
    intro field required
    rw [getRequiredFields_of_moves moves] at required
    by_cases decided : isTerminalState after.status = true
    · rw [if_pos decided, List.mem_singleton] at required
      rw [required]
      exact present decided
    · simp_all
  · intro ended
    rw [moves.undecided] at ended
    cases ended

/-- Between its decision and its update. -/
def Process.isReady : Process → Bool
  | .notifying _ _ _ => true
  | .applying _ _ => true
  | .writing _ => true
  | _ => false

def Process.isLogging : Process → Bool
  | .logging _ _ => true
  | _ => false

/-- A rule decides on a dispute that is undecided and gives its reason; no other process is between its decision
and its update when one updates the dispute. -/
def isUndisturbed (disputes : Disputes) : Label → Bool
  | .evaluate _ confidenceThreshold results =>
    (evaluateDispute confidenceThreshold results).all fun result =>
      !isTerminalState disputes.dispute.status && !isMissing result.resolutionReason
  | .apply index => (disputes.processes.eraseIdx index).all fun process => !process.isReady
  | .write index => (disputes.processes.eraseIdx index).all fun process => !process.isReady
  | _ => true

variable {before after : Disputes} {index : ℕ}

variable {label : Label}

theorem step_cases (move : step before label after) :
    match label with
    | .process merchantId => after = { before with processes := before.processes ++ [.evaluating merchantId] }
    | .evaluate index confidenceThreshold results => ∃ merchantId,
        before.processes[index]? = some (.evaluating merchantId) ∧
        after = before.become index (proceed merchantId (evaluateDispute confidenceThreshold results))
    | .notify index _ => ∃ merchantId result resolution notifications,
        before.processes[index]? = some (.notifying merchantId result resolution) ∧
        after = { before.become index (.applying result resolution) with notifications := notifications }
    | .apply index => ∃ result resolution, before.processes[index]? = some (.applying result resolution) ∧
        after = { before.become index (.logging result resolution) with
          dispute := before.dispute.resolve resolution result.resolutionReason }
    | .log index => ∃ result resolution, before.processes[index]? = some (.logging result resolution) ∧
        after = { before.become index (.processed true (some result)) with
          log := before.log ++ [⟨result.ruleName, result.priority, result.confidence, resolution⟩] }
    | .change request => after = { before with processes := before.processes ++ [.validating request] }
    | .validate index => ∃ request, before.processes[index]? = some (.validating request) ∧
        after = before.become index (accept before.dispute request)
    | .check index => ∃ request, before.processes[index]? = some (.checking request) ∧
        after = before.become index (permit before.dispute request)
    | .write index => ∃ request, before.processes[index]? = some (.writing request) ∧
        after = { before.become index (.updated (before.dispute.update request)) with
          dispute := before.dispute.update request }
    | .fail index => after = before.become index .failed := by
  cases label with
  | process merchantId | change request | fail index => exact (Option.some.inj move).symm
  | notify index sent =>
    simp only [step, Disputes.perform] at move
    split at move
    · refine ⟨_, _, _, after.notifications, ‹_›, ?_⟩
      cases move
      split <;> rfl
    · cases move
  | evaluate index confidenceThreshold results | apply index | log index => grind [step, Disputes.perform]
  | validate index | check index | write index => grind [step, Disputes.perform]

/-- The text that a decision needs is given. -/
def StatusRequest.Complete (request : StatusRequest) : Prop :=
  isTerminalState request.status = true → isMissing request.resolution.join = false

/-- What a process that will update the dispute has seen to. -/
def Process.Fits (dispute : Dispute) : Process → Prop
  | .notifying _ result _ => isTerminalState dispute.status = false ∧ isMissing result.resolutionReason = false
  | .applying result _ => isTerminalState dispute.status = false ∧ isMissing result.resolutionReason = false
  | .checking request => request.Complete
  | .writing request => Moves dispute.status request.status ∧ request.Complete
  | _ => True

variable {dispute : Dispute} {process : Process}

theorem Process.Fits.of_not_ready {other : Dispute} (fits : process.Fits dispute)
    (unready : process.isReady = false) : process.Fits other := by
  cases process with
  | notifying merchantId result resolution | applying result resolution | writing request => cases unready
  | checking request => exact fits
  | evaluating merchantId | logging result resolution | processed autoResolved result => trivial
  | validating request | updated dispute | invalid details | refused message | failed => trivial

theorem fits_proceed {merchantId : String} {chosen : Option RuleResult}
    (sound : chosen.all (fun result => !isTerminalState dispute.status && !isMissing result.resolutionReason) = true) :
    (proceed merchantId chosen).Fits dispute := by
  cases chosen with
  | none => trivial
  | some result => grind [Process.Fits, proceed]

theorem fits_accept (dispute : Dispute) (request : StatusRequest) : (accept dispute request).Fits dispute := by
  unfold accept
  split
  · rename_i valid
    obtain ⟨moves, present⟩ := validateTransition_nil valid
    intro decided
    rw [getRequiredFields_of_moves moves, if_pos decided] at present
    exact present "resolution" List.mem_cons_self
  · trivial

variable {request : StatusRequest}

theorem fits_permit (complete : request.Complete) : (permit dispute request).Fits dispute := by
  unfold permit
  split
  · rename_i passed
    exact ⟨checkUpdate_none passed, complete⟩
  · trivial

/-- The resolutions that are logged or about to be. -/
def Disputes.resolutions (disputes : Disputes) : ℕ :=
  disputes.log.length + disputes.processes.countP Process.isLogging

structure Agreed (disputes : Disputes) : Prop where
  fits : ∀ process ∈ disputes.processes, process.Fits disputes.dispute
  once : disputes.resolutions ≤ 1
  undecided : isTerminalState disputes.dispute.status = false → disputes.resolutions = 0

theorem agreed_stored (dispute : Dispute) : Agreed (.stored dispute) := by
  constructor
  · intro process member
    cases member
  · exact Nat.zero_le 1
  · intro _
    rfl

variable {new : Process} {processes : List Process}

theorem countP_set_le (idle : new.isLogging = false) :
    (processes.set index new).countP Process.isLogging ≤ processes.countP Process.isLogging := by
  by_cases inside : index < processes.length
  · rw [List.countP_set inside, idle]
    simp
  · rw [List.set_eq_of_length_le (Nat.not_lt.mp inside)]

section

variable (agreed : Agreed before) (fits : process.Fits before.dispute) (idle : process.isLogging = false)

include agreed fits idle

theorem Agreed.become : Agreed (before.become index process) := by
  have fewer : (before.become index process).resolutions ≤ before.resolutions :=
    Nat.add_le_add_left (countP_set_le idle) _
  constructor
  · exact forall_mem_set agreed.fits fits
  · exact fewer.trans agreed.once
  · intro undecided
    have none := agreed.undecided undecided
    omega

theorem Agreed.start : Agreed { before with processes := before.processes ++ [process] } := by
  have same : Disputes.resolutions { before with processes := before.processes ++ [process] } = before.resolutions := by
    simp [Disputes.resolutions, idle]
  constructor
  · exact forall_mem_append_singleton agreed.fits fits
  · exact same ▸ agreed.once
  · exact same ▸ agreed.undecided

end

theorem fits_of_alone (agreed : Agreed before)
    (alone : ((before.processes.eraseIdx index).all fun process => !process.isReady) = true) (fits : new.Fits dispute) :
    ∀ process ∈ before.processes.set index new, process.Fits dispute := by
  intro process member
  obtain ⟨i, place⟩ := List.mem_iff_getElem?.mp member
  rcases getElem?_set_of_some place with ⟨_, rfl⟩ | ⟨apart, earlier⟩
  · exact fits
  · have other : process ∈ before.processes.eraseIdx index := List.mem_eraseIdx_iff_getElem?.mpr ⟨i, apart, earlier⟩
    have unready : process.isReady = false := by simpa using List.all_eq_true.mp alone process other
    exact (agreed.fits process (List.mem_of_getElem? earlier)).of_not_ready unready

theorem countP_set_of_some {old : Process} (found : processes[index]? = some old) :
    (processes.set index new).countP Process.isLogging + (if old.isLogging then 1 else 0) =
      processes.countP Process.isLogging + (if new.isLogging then 1 else 0) := by
  obtain ⟨inside, rfl⟩ := List.getElem?_eq_some_iff.mp found
  rw [List.countP_set inside]
  by_cases logging : processes[index].isLogging = true
  · grind
  · rw [if_neg logging]
    omega

variable {result : RuleResult} {resolution : Resolution}

section

variable (agreed : Agreed before)

include agreed

theorem Agreed.apply (found : before.processes[index]? = some (.applying result resolution))
    (undisturbed : isUndisturbed before (.apply index) = true) :
    Agreed { before.become index (.logging result resolution) with
      dispute := before.dispute.resolve resolution result.resolutionReason } := by
  obtain ⟨undecided, _⟩ := agreed.fits _ (List.mem_of_getElem? found)
  have none := agreed.undecided undecided
  have one : Disputes.resolutions { before.become index (.logging result resolution) with
      dispute := before.dispute.resolve resolution result.resolutionReason } = before.resolutions + 1 := by
    have count : (before.processes.set index (.logging result resolution)).countP Process.isLogging =
        before.processes.countP Process.isLogging + 1 := countP_set_of_some found
    simp only [Disputes.resolutions, Disputes.become, count]
    rfl
  constructor
  · exact fits_of_alone agreed undisturbed trivial
  · rw [one, none]
  · intro unended
    cases resolution <;> cases unended

theorem Agreed.log (found : before.processes[index]? = some (.logging result resolution)) :
    Agreed { before.become index (.processed true (some result)) with
      log := before.log ++ [⟨result.ruleName, result.priority, result.confidence, resolution⟩] } := by
  have same : Disputes.resolutions { before.become index (.processed true (some result)) with
      log := before.log ++ [⟨result.ruleName, result.priority, result.confidence, resolution⟩] } =
      before.resolutions := by
    have count : (before.processes.set index (.processed true (some result))).countP Process.isLogging + 1 =
        before.processes.countP Process.isLogging := countP_set_of_some found
    simp only [Disputes.resolutions, Disputes.become, List.length_append, List.length_singleton]
    omega
  have next : Agreed (before.become index (.processed true (some result))) := agreed.become trivial rfl
  constructor
  · exact next.fits
  · exact same ▸ agreed.once
  · exact same ▸ agreed.undecided

theorem Agreed.write (found : before.processes[index]? = some (.writing request))
    (undisturbed : isUndisturbed before (.write index) = true) :
    Agreed { before.become index (.updated (before.dispute.update request)) with
      dispute := before.dispute.update request } := by
  obtain ⟨moves, _⟩ := agreed.fits _ (List.mem_of_getElem? found)
  have none := agreed.undecided moves.undecided
  have fewer : (before.become index (.updated (before.dispute.update request))).resolutions ≤ before.resolutions :=
    Nat.add_le_add_left (countP_set_le rfl) _
  have still := Nat.le_zero.mp (fewer.trans none.le)
  constructor
  · exact fits_of_alone agreed undisturbed trivial
  · exact still.le.trans (Nat.zero_le 1)
  · intro _
    exact still

theorem Agreed.step (move : step before label after)
    (undisturbed : isUndisturbed before label = true) : Agreed after ∧ Respects before.dispute after.dispute := by
  have moved := step_cases move
  cases label with
  | process merchantId | change request => exact moved ▸ ⟨agreed.start trivial rfl, .refl _⟩
  | fail index => exact moved ▸ ⟨agreed.become trivial rfl, .refl _⟩
  | evaluate index confidenceThreshold results =>
    obtain ⟨merchantId, found, rfl⟩ := moved
    have idle : (proceed merchantId (evaluateDispute confidenceThreshold results)).isLogging = false := by
      unfold proceed
      split
      · rfl
      · split <;> rfl
    exact ⟨agreed.become (fits_proceed undisturbed) idle, .refl _⟩
  | notify index sent =>
    obtain ⟨merchantId, result, resolution, notifications, found, rfl⟩ := moved
    have fits := agreed.fits _ (List.mem_of_getElem? found)
    have next : Agreed (before.become index (.applying result resolution)) := agreed.become fits rfl
    exact ⟨⟨next.fits, next.once, next.undecided⟩, .refl _⟩
  | apply index =>
    obtain ⟨result, resolution, found, rfl⟩ := moved
    obtain ⟨undecided, reason⟩ := agreed.fits _ (List.mem_of_getElem? found)
    refine ⟨agreed.apply found undisturbed, .of_moves (.decide undecided ?_) fun _ => reason⟩
    cases resolution <;> rfl
  | log index =>
    obtain ⟨result, resolution, found, rfl⟩ := moved
    exact ⟨agreed.log found, .refl _⟩
  | validate index =>
    obtain ⟨request, found, rfl⟩ := moved
    have idle : (accept before.dispute request).isLogging = false := by
      unfold accept
      split <;> rfl
    exact ⟨agreed.become (fits_accept _ _) idle, .refl _⟩
  | check index =>
    obtain ⟨request, found, rfl⟩ := moved
    have complete := agreed.fits _ (List.mem_of_getElem? found)
    have idle : (permit before.dispute request).isLogging = false := by
      unfold permit
      split <;> rfl
    exact ⟨agreed.become (fits_permit complete) idle, .refl _⟩
  | write index =>
    obtain ⟨request, found, rfl⟩ := moved
    obtain ⟨moves, complete⟩ := agreed.fits _ (List.mem_of_getElem? found)
    refine ⟨agreed.write found undisturbed, .of_moves moves ?_⟩
    intro decided
    have given := complete decided
    cases resolution : request.resolution with
    | none =>
      rw [resolution] at given
      cases given
    | some text => simpa [Dispute.update, resolution] using given

end

/-- The automatic path and the requests respect the life of the dispute in every run of this kind, and one
automatic resolution is logged at most. -/
theorem disputes_respected {dispute : Dispute} {trace : List Label} {last : Disputes}
    (run : Run step (.stored dispute) trace last)
    (undisturbed : Throughout step (.stored dispute) (fun before label _ => isUndisturbed before label = true) trace) :
    Throughout step (.stored dispute) (fun before _ after => Respects before.dispute after.dispute) trace ∧
    last.log.length ≤ 1 := by
  have every {trace : List Label} {last : Disputes} (run : Run step (.stored dispute) trace last)
      (undisturbed : Throughout step (.stored dispute) (fun before label _ => isUndisturbed before label = true)
        trace) : Agreed last := by
    apply (run.restrict undisturbed).invariant (fun _ disputes => Agreed disputes)
    · exact agreed_stored dispute
    · intro _ before label after agreed move
      exact (agreed.step move.1 move.2).1
  constructor
  · rintro earlier label rest before after rfl reached move
    have good := undisturbed earlier label rest before after rfl reached move
    exact ((every reached undisturbed.before).step move good).2
  · exact (Nat.le_add_right _ _).trans (every run undisturbed).once

def timeout : RuleResult := ⟨"provider_timeout", 20, true, 9 / 10, some .resolved, some "Provider timed out"⟩

def freshDispute : Dispute := ⟨.opened, none, none⟩

/-- A request has the dispute investigated, the rules resolve it, and a rejection comes too late. -/
def inTurn : List Label :=
  [.change ⟨.investigating, none, some (some "agent")⟩, .process "shop", .validate 0, .check 0, .write 0,
    .evaluate 1 (17 / 20) [timeout], .change ⟨.rejected, some (some "No evidence"), none⟩, .notify 1 false, .apply 1,
    .validate 2, .log 1]

theorem inTurn_respected : ∃ last : Disputes, last.dispute = ⟨.resolved, some "Provider timed out", some "agent"⟩ ∧
    Throughout step (.stored freshDispute) (fun before _ after => Respects before.dispute after.dispute) inTurn ∧
    last.log.length ≤ 1 := by
  have followed : (inTurn.foldlM Disputes.perform (.stored freshDispute)).map Disputes.dispute =
      some ⟨.resolved, some "Provider timed out", some "agent"⟩ := by decide +kernel
  obtain ⟨last, reached, resolved⟩ := Option.map_eq_some_iff.mp followed
  refine ⟨last, resolved, disputes_respected (Run.follow reached) ?_⟩
  exact throughout_follow (by decide +kernel)

/-- The dispute is rejected by hand while the rules are evaluated. -/
def crossed : List Label :=
  [.process "shop", .evaluate 0 (17 / 20) [timeout], .change ⟨.rejected, some (some "No evidence"), none⟩, .validate 1,
    .check 1, .write 1, .notify 0 true]

theorem crossed_not_respected : ¬∀ (dispute : Dispute) (trace : List Label) (last : Disputes),
    Run step (.stored dispute) trace last →
    Throughout step (.stored dispute) (fun before _ after => Respects before.dispute after.dispute) trace ∧
    last.log.length ≤ 1 := by
  intro always
  have rejected : ((crossed.foldlM Disputes.perform (.stored freshDispute)).map Disputes.dispute) =
      some ⟨.rejected, some "No evidence", none⟩ := by decide +kernel
  have resolved : (((crossed ++ [Label.apply 0]).foldlM Disputes.perform (.stored freshDispute)).map Disputes.dispute) =
      some ⟨.resolved, some "Provider timed out", none⟩ := by decide +kernel
  obtain ⟨before, reached, was⟩ := Option.map_eq_some_iff.mp rejected
  obtain ⟨after, ended, now⟩ := Option.map_eq_some_iff.mp resolved
  have run := Run.follow ended
  obtain ⟨middle, earlier, move⟩ := run.last_step
  obtain rfl := Run.unique (Run.follow reached) earlier
  have respects := (always _ _ _ run).1 crossed (.apply 0) [] _ _ rfl earlier move
  have final := (respects.final (by rw [was]; rfl)).1
  rw [was, now] at final
  cases final

end ProxyPay.Disputes
