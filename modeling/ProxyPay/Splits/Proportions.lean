import Mathlib.Algebra.BigOperators.Ring.List
import ProxyPay.Splits.Shares

/-! How near an allocation is to the exact proportion of its recipient, and when the last one is not negative. -/

namespace ProxyPay.Splits

open ProxyPay.Library

/-- Half of the last place. -/
def halfUnit : ℚ := 1 / 2 / 10 ^ 8

theorem roundUnits_near (value : ℚ) : |roundUnits value - value| ≤ halfUnit := by
  have below := Int.floor_le (value * 10 ^ 8 + 1 / 2)
  have above := Int.lt_floor_add_one (value * 10 ^ 8 + 1 / 2)
  unfold roundUnits halfUnit
  rw [abs_le]
  constructor
  · grind
  · rw [sub_le_iff_le_add, div_le_iff₀ (by norm_num)]
    linarith

theorem roundUnits_nonneg {value : ℚ} : 0 ≤ roundUnits value ↔ -halfUnit ≤ value := by
  unfold roundUnits halfUnit
  rw [le_div_iff₀ (by norm_num), zero_mul, Int.cast_nonneg_iff, Int.floor_nonneg]
  constructor
  · intro large
    linarith
  · intro large
    linarith

/-- The exact proportion of a recipient. -/
def exactShare (recipients : List SplitPaymentRecipient) (totalAmount : ℚ) (recipient : SplitPaymentRecipient) : ℚ :=
  recipient.splitValue.value / percentageSum recipients * (totalAmount - fixedSum recipients)

/-- An allocation that is no less than zero, is the value of a fixed recipient, and is near the proportion of
any other. -/
def Fair (recipients : List SplitPaymentRecipient) (totalAmount : ℚ) (recipient : SplitPaymentRecipient)
    (allocation : Option ℚ) : Prop :=
  ∃ amount, allocation = some amount ∧ 0 ≤ amount ∧
    (recipient.splitType = "fixed" → amount = recipient.splitValue.value) ∧
    (recipient.isPercentage = true → ∃ part, quotient recipient.splitValue.value (percentageSum recipients) = some part ∧
      |amount - part * (totalAmount - fixedSum recipients)| ≤ (percentages recipients).length * halfUnit)

/-- By how much rounding raises the shares before the last one. -/
def raised (recipients : List SplitPaymentRecipient) (totalAmount : ℚ) : ℚ :=
  ((percentages recipients).dropLast.map fun recipient =>
    roundUnits (exactShare recipients totalAmount recipient) - exactShare recipients totalAmount recipient).sum

/-- The last percentage can spare what rounding gives to the others. -/
def Spared (recipients : List SplitPaymentRecipient) (totalAmount : ℚ) : Prop :=
  ∀ last ∈ (percentages recipients).getLast?,
    raised recipients totalAmount ≤ exactShare recipients totalAmount last + halfUnit

theorem forall₂_shares (P : SplitPaymentRecipient → ℚ → Prop) (totalPct remainingForPercentage : ℚ)
    (recipients : List SplitPaymentRecipient) : ∀ left,
    List.Forall₂ P recipients (shares totalPct remainingForPercentage left recipients) ↔
      (∀ recipient ∈ recipients, recipient.isPercentage = false → P recipient recipient.fixed) ∧
      (∀ recipient ∈ (percentages recipients).dropLast,
        P recipient (roundUnits (recipient.splitValue.value / totalPct * remainingForPercentage))) ∧
      ∀ last ∈ (percentages recipients).getLast?, P last (roundUnits (left -
        ((percentages recipients).dropLast.map fun recipient =>
          roundUnits (recipient.splitValue.value / totalPct * remainingForPercentage)).sum)) := by
  induction recipients with
  | nil => simp [shares, percentages]
  | cons recipient rest ih =>
    intro left
    unfold shares
    cases here : recipient.isPercentage with
    | false =>
      rw [if_neg Bool.false_ne_true, List.forall₂_cons, ih left, percentages_cons_of_not here,
        List.forall_mem_cons]
      constructor
      · intro facts
        obtain ⟨first, others, before, last⟩ := facts
        exact ⟨⟨fun _ => first, others⟩, before, last⟩
      · intro facts
        obtain ⟨⟨first, others⟩, before, last⟩ := facts
        exact ⟨first here, others, before, last⟩
    | true =>
      rw [if_pos rfl, List.forall₂_cons, percentages_cons_of_isPercentage here, List.forall_mem_cons, ih]
      have skipped (goal : Prop) : recipient.isPercentage = false → goal := by
        intro other
        rw [here] at other
        cases other
      cases more : percentages rest with
      | nil =>
        have none : rest.any SplitPaymentRecipient.isPercentage = false := by
          rw [Bool.eq_false_iff, ne_eq, any_isPercentage, not_not]
          exact more
        simp only [none, Bool.false_eq_true, if_false, List.dropLast_singleton, List.getLast?_singleton, List.dropLast_nil,
          List.getLast?_nil, List.map_nil, List.sum_nil, sub_zero, List.not_mem_nil, false_implies, implies_true,
          reduceCtorEq, Option.mem_def, Option.some.injEq, forall_eq', true_and, and_true]
        constructor
        · intro facts
          obtain ⟨first, fixed⟩ := facts
          exact ⟨⟨skipped _, fixed⟩, first⟩
        · intro facts
          obtain ⟨⟨_, fixed⟩, first⟩ := facts
          exact ⟨first, fixed⟩
      | cons second others =>
        have some : rest.any SplitPaymentRecipient.isPercentage = true := by
          rw [any_isPercentage, more]
          exact List.cons_ne_nil _ _
        simp only [some, if_true, List.dropLast_cons_cons, List.forall_mem_cons, List.getLast?_cons_cons, List.map_cons,
          List.sum_cons, sub_sub]
        constructor
        · intro facts
          obtain ⟨first, fixed, before, last⟩ := facts
          exact ⟨⟨skipped _, fixed⟩, ⟨first, before⟩, last⟩
        · intro facts
          obtain ⟨⟨_, fixed⟩, ⟨first, before⟩, last⟩ := facts
          exact ⟨first, fixed, before, last⟩

theorem abs_sum_le {α : Type} (f : α → ℚ) (bound : ℚ) (list : List α) (near : ∀ element ∈ list, |f element| ≤ bound) :
    |(list.map f).sum| ≤ list.length * bound := by
  induction list with
  | nil => simp
  | cons element rest ih =>
    have first := near element List.mem_cons_self
    have others := ih fun other member => near other (List.mem_cons_of_mem _ member)
    rw [List.map_cons, List.sum_cons, List.length_cons]
    push_cast
    have triangle := abs_add_le (f element) (rest.map f).sum
    linarith

section Accepted

variable {print : ℚ → String} {inputs : List CreateRecipientInput} {ruleId : String}

theorem errors_check (validation : Validation) (numbered : CreateRecipientInput × ℕ)
    (clean : (validation.check numbered).errors = []) :
    validation.errors = [] ∧ ∃ value, numbered.1.splitValue = some value ∧ 0 < value := by
  unfold Validation.check at clean
  cases value : numbered.1.splitValue with
  | none =>
    simp [value] at clean
  | some value' =>
    simp only [value] at clean
    by_cases positive : value' ≤ 0
    · split at clean
      · simp at clean
      · simp at clean
    · refine ⟨?_, value', rfl, not_le.mp positive⟩
      split at clean
      · simp_all
      · simp_all

theorem errors_foldl (numbered : List (CreateRecipientInput × ℕ)) : ∀ validation : Validation,
    (numbered.foldl Validation.check validation).errors = [] →
      validation.errors = [] ∧ ∀ pair ∈ numbered, ∃ value, pair.1.splitValue = some value ∧ 0 < value := by
  induction numbered with
  | nil => simp
  | cons pair rest ih =>
    intro validation clean
    obtain ⟨checked, others⟩ := ih _ clean
    obtain ⟨earlier, first⟩ := errors_check validation pair checked
    exact ⟨earlier, List.forall_mem_cons.mpr ⟨first, others⟩⟩

theorem positive_of_accepted (accepted : validateRecipients print inputs = []) :
    ∀ input ∈ inputs, ∃ value, input.splitValue = some value ∧ 0 < value := by
  unfold validateRecipients at accepted
  split at accepted
  · cases accepted
  · obtain ⟨clean, _⟩ := List.append_eq_nil_iff.mp accepted
    have all := (errors_foldl _ _ clean).2
    intro input member
    obtain ⟨index, inside, rfl⟩ := List.mem_iff_getElem.mp member
    have numbered : (inputs[index], index) ∈ inputs.zipIdx := by
      rw [List.mem_zipIdx_iff_getElem?]
      exact List.getElem?_eq_getElem inside
    exact all _ numbered

theorem value_nonneg_of_row {input : CreateRecipientInput} {row : SplitPaymentRecipient}
    (known : input.row ruleId = some row) (positive : ∃ value, input.splitValue = some value ∧ 0 < value) :
    0 ≤ row.splitValue.value := by
  obtain ⟨value, given, above⟩ := positive
  obtain ⟨splitValue, kept, rfl⟩ := Option.map_eq_some_iff.mp known
  rw [given] at kept
  have units := Decimal.units_store kept
  rw [Decimal.value_nonneg, units, roundHalfAway, if_pos (by positivity), Int.floor_nonneg]
  positivity

theorem mem_of_mapM {α β : Type} {f : α → Option β} {list : List α} {images : List β}
    (mapped : list.mapM f = some images) : ∀ image ∈ images, ∃ element ∈ list, f element = some image := by
  induction list generalizing images with
  | nil => simp_all
  | cons element rest ih =>
    rw [List.mapM_cons] at mapped
    obtain ⟨first, here, others⟩ := Option.bind_eq_some_iff.mp mapped
    obtain ⟨later, there, same⟩ := Option.bind_eq_some_iff.mp others
    cases same
    intro image member
    rcases List.mem_cons.mp member with rfl | member
    · exact ⟨element, List.mem_cons_self, here⟩
    · simp_all

theorem nonneg_of_stored (accepted : validateRecipients print inputs = []) {rows : List SplitPaymentRecipient}
    (known : stored ruleId inputs = some rows) : ∀ row ∈ rows, 0 ≤ row.splitValue.value := by
  obtain ⟨unsorted, read, rfl⟩ := Option.map_eq_some_iff.mp known
  intro row member
  obtain ⟨input, given, made⟩ := mem_of_mapM read row ((List.mem_insertionSort _).mp member)
  exact value_nonneg_of_row made (positive_of_accepted accepted input given)

end Accepted

section Shares

variable {recipients : List SplitPaymentRecipient} {totalAmount : ℚ}

theorem sum_exactShare (totalAmount : ℚ) (nonzero : percentageSum recipients ≠ 0) :
    ((percentages recipients).map (exactShare recipients totalAmount)).sum = totalAmount - fixedSum recipients := by
  unfold exactShare
  rw [List.sum_map_mul_right]
  have parts : ((percentages recipients).map fun recipient =>
      recipient.splitValue.value / percentageSum recipients).sum = 1 := by
    simp only [div_eq_mul_inv]
    rw [List.sum_map_mul_right]
    exact mul_inv_cancel₀ nonzero
  rw [parts, one_mul]

variable {last : SplitPaymentRecipient}

theorem left_for_last (nonzero : percentageSum recipients ≠ 0) (final : last ∈ (percentages recipients).getLast?) :
    totalAmount - fixedSum recipients - ((percentages recipients).dropLast.map fun recipient =>
      roundUnits (exactShare recipients totalAmount recipient)).sum =
        exactShare recipients totalAmount last - raised recipients totalAmount := by
  have parts : (percentages recipients).dropLast ++ [last] = percentages recipients :=
    List.dropLast_append_getLast? last final
  have whole := sum_exactShare totalAmount nonzero
  rw [← parts, List.map_append, List.sum_append, List.map_singleton, List.sum_singleton] at whole
  have rounded : ((percentages recipients).dropLast.map fun recipient =>
      roundUnits (exactShare recipients totalAmount recipient)).sum = raised recipients totalAmount +
        ((percentages recipients).dropLast.map (exactShare recipients totalAmount)).sum := by
    rw [raised, ← List.sum_map_add]
    simp only [sub_add_cancel]
  rw [rounded, ← whole]
  ring

theorem raised_small (recipients : List SplitPaymentRecipient) (totalAmount : ℚ) :
    |raised recipients totalAmount| ≤ (percentages recipients).dropLast.length * halfUnit :=
  abs_sum_le _ halfUnit _ fun _ _ => roundUnits_near _

/-- What `Fair` says of an amount. -/
def FairAmount (recipients : List SplitPaymentRecipient) (totalAmount : ℚ) (recipient : SplitPaymentRecipient)
    (amount : ℚ) : Prop :=
  0 ≤ amount ∧ (recipient.splitType = "fixed" → amount = recipient.splitValue.value) ∧
    (recipient.isPercentage = true →
      |amount - exactShare recipients totalAmount recipient| ≤ (percentages recipients).length * halfUnit)

variable {recipient : SplitPaymentRecipient}

theorem fair_some (nonzero : recipient.isPercentage = true → percentageSum recipients ≠ 0) (amount : ℚ) :
    Fair recipients totalAmount recipient (some amount) ↔ FairAmount recipients totalAmount recipient amount := by
  unfold Fair FairAmount quotient exactShare
  constructor
  · simp_all
  · simp_all

theorem not_fixed_of_isPercentage (percentage : recipient.isPercentage = true) : recipient.splitType ≠ "fixed" := by
  have same : recipient.splitType = "percentage" := by simpa [SplitPaymentRecipient.isPercentage] using percentage
  rw [same]
  decide

theorem fair_fixed (above : 0 ≤ recipient.splitValue.value)
    (other : recipient.isPercentage = false) : FairAmount recipients totalAmount recipient recipient.fixed := by
  refine ⟨?_, ?_, ?_⟩
  · unfold SplitPaymentRecipient.fixed
    split
    · exact above
    · exact le_refl 0
  · intro fixed
    rw [SplitPaymentRecipient.fixed, if_pos fixed]
  · simp_all

theorem halfUnit_pos : 0 < halfUnit := by norm_num [halfUnit]

theorem fair_before (member : recipient ∈ percentages recipients)
    (above : 0 ≤ exactShare recipients totalAmount recipient) :
    FairAmount recipients totalAmount recipient (roundUnits (exactShare recipients totalAmount recipient)) := by
  have positive := halfUnit_pos
  have count : (1 : ℚ) ≤ (percentages recipients).length := by
    exact_mod_cast List.length_pos_of_mem member
  have percentage : recipient.isPercentage = true := (List.mem_filter.mp member).2
  refine ⟨?_, ?_, ?_⟩
  · rw [roundUnits_nonneg]
    linarith
  · intro fixed
    exact absurd fixed (not_fixed_of_isPercentage percentage)
  · intro _
    calc |roundUnits (exactShare recipients totalAmount recipient) - exactShare recipients totalAmount recipient|
        ≤ halfUnit := roundUnits_near _
      _ = 1 * halfUnit := (one_mul _).symm
      _ ≤ (percentages recipients).length * halfUnit := by gcongr

theorem fair_last (final : last ∈ (percentages recipients).getLast?) : FairAmount recipients totalAmount last
      (roundUnits (exactShare recipients totalAmount last - raised recipients totalAmount)) ↔
        raised recipients totalAmount ≤ exactShare recipients totalAmount last + halfUnit := by
  have member : last ∈ percentages recipients := List.mem_of_getLast? final
  have percentage : last.isPercentage = true := (List.mem_filter.mp member).2
  have near := roundUnits_near (exactShare recipients totalAmount last - raised recipients totalAmount)
  have others := raised_small recipients totalAmount
  have count : ((percentages recipients).length : ℚ) = (percentages recipients).dropLast.length + 1 := by
    have some := List.length_pos_of_mem member
    rw [List.length_dropLast]
    exact_mod_cast (Nat.sub_add_cancel some).symm
  constructor
  · intro fair
    have large := (roundUnits_nonneg).mp fair.1
    linarith
  · intro spared
    refine ⟨?_, ?_, ?_⟩
    · rw [roundUnits_nonneg]
      linarith
    · intro fixed
      exact absurd fixed (not_fixed_of_isPercentage percentage)
    · intro _
      rw [abs_le] at near others ⊢
      rw [count, add_mul, one_mul]
      constructor
      · linarith
      · linarith

theorem exactShare_nonneg (above : ∀ recipient ∈ recipients, 0 ≤ recipient.splitValue.value)
    (covered : fixedSum recipients ≤ totalAmount) (member : recipient ∈ recipients) :
    0 ≤ exactShare recipients totalAmount recipient := by
  have whole : 0 ≤ percentageSum recipients := by
    apply List.sum_nonneg
    intro value listed
    obtain ⟨other, present, rfl⟩ := List.mem_map.mp listed
    exact above other (List.mem_filter.mp present).1
  exact mul_nonneg (div_nonneg (above recipient member) whole) (sub_nonneg.mpr covered)

theorem nonzero_of_fair {allocations : List (Option ℚ)}
    (fair : List.Forall₂ (Fair recipients totalAmount) recipients allocations)
    (some : recipients.any SplitPaymentRecipient.isPercentage = true) : percentageSum recipients ≠ 0 := by
  have parts : List.Forall₂ (fun recipient allocation =>
      (recipient.isPercentage = true → percentageSum recipients ≠ 0) ∧ Fair recipients totalAmount recipient allocation)
      recipients allocations := by
    apply fair.imp
    intro recipient allocation fair
    refine ⟨fun percentage zero => ?_, fair⟩
    obtain ⟨_, _, _, _, near⟩ := fair
    obtain ⟨_, part, _⟩ := near percentage
    rw [quotient, if_pos zero] at part
    cases part
  obtain ⟨recipient, member, percentage⟩ := List.any_eq_true.mp some
  exact ((List.forall₂_and_left _ _).mp parts).1 recipient member percentage

end Shares

/-- Four equal parts of two units of the last place. -/
def quarters : List CreateRecipientInput :=
  ["ann", "bob", "cay", "dan"].map fun name => ⟨"user", name, none, "percentage", some 25, none⟩

end ProxyPay.Splits
