import ProxyPay.Splits.Ledger

/-! What the recipients of a rule get of an amount. Numbers are exact, and a quotient by zero is none. -/

namespace ProxyPay.Splits

open ProxyPay.Library

/-- A quotient of two numbers, which by zero is `NaN` or infinite. -/
def quotient (dividend divisor : ℚ) : Option ℚ :=
  if divisor = 0 then none else some (dividend / divisor)

namespace Numeric

/-- The shares as the language computes them. -/
def shares (totalPct remainingForPercentage : ℚ) : Option ℚ → List SplitPaymentRecipient → List (Option ℚ)
  | _, [] => []
  | left, recipient :: rest =>
    if recipient.isPercentage then
      let amount :=
        if rest.any SplitPaymentRecipient.isPercentage then
          (quotient recipient.splitValue.value totalPct).map fun part => roundUnits (part * remainingForPercentage)
        else left.map roundUnits
      amount :: shares totalPct remainingForPercentage (do return (← left) - (← amount)) rest
    else some recipient.fixed :: shares totalPct remainingForPercentage left rest

def calculateAllocations (recipients : List SplitPaymentRecipient) (totalAmount : ℚ) : Option (List (Option ℚ)) :=
  if totalAmount < fixedSum recipients then none
  else
    let remainingForPercentage := totalAmount - fixedSum recipients
    some (shares (percentageSum recipients) remainingForPercentage (some remainingForPercentage) recipients)

end Numeric

def percentages (recipients : List SplitPaymentRecipient) : List SplitPaymentRecipient :=
  recipients.filter SplitPaymentRecipient.isPercentage

theorem any_isPercentage (recipients : List SplitPaymentRecipient) :
    recipients.any SplitPaymentRecipient.isPercentage = true ↔ percentages recipients ≠ [] := by
  rw [percentages, ne_eq, List.filter_eq_nil_iff, List.any_eq_true]
  push Not
  rfl

/-- Only the shares before the last one are quotients. -/
def Divides (totalPct : ℚ) (recipients : List SplitPaymentRecipient) : Prop :=
  totalPct ≠ 0 ∨ (percentages recipients).length ≤ 1

variable {recipient : SplitPaymentRecipient}

theorem percentages_cons_of_isPercentage (here : recipient.isPercentage = true)
    (rest : List SplitPaymentRecipient) : percentages (recipient :: rest) = recipient :: percentages rest :=
  List.filter_cons_of_pos here

theorem percentages_cons_of_not (other : recipient.isPercentage = false)
    (rest : List SplitPaymentRecipient) : percentages (recipient :: rest) = percentages rest :=
  List.filter_cons_of_neg (by simp [other])

theorem Divides.tail {totalPct : ℚ} {rest : List SplitPaymentRecipient}
    (divides : Divides totalPct (recipient :: rest)) : Divides totalPct rest := by
  rcases divides with nonzero | few
  · exact .inl nonzero
  · right
    cases here : recipient.isPercentage with
    | true =>
      rw [percentages_cons_of_isPercentage here, List.length_cons] at few
      omega
    | false => rwa [percentages_cons_of_not here] at few

theorem shares_eq_some (totalPct remainingForPercentage : ℚ) (recipients : List SplitPaymentRecipient) :
    ∀ left, Divides totalPct recipients → Numeric.shares totalPct remainingForPercentage (some left) recipients =
      (shares totalPct remainingForPercentage left recipients).map some := by
  induction recipients with
  | nil =>
    intro left _
    rfl
  | cons recipient rest ih =>
    intro left divides
    unfold Numeric.shares shares
    cases here : recipient.isPercentage with
    | false =>
      rw [if_neg Bool.false_ne_true, if_neg Bool.false_ne_true, ih left divides.tail, List.map_cons]
    | true =>
      rw [if_pos rfl, if_pos rfl]
      cases more : rest.any SplitPaymentRecipient.isPercentage with
      | false =>
        simp only [Bool.false_eq_true, if_false, Option.map_some, List.map_cons]
        congr 1
        exact ih _ divides.tail
      | true =>
        have nonzero : totalPct ≠ 0 := by
          rcases divides with nonzero | few
          · exact nonzero
          · have some := (any_isPercentage rest).mp more
            rw [percentages_cons_of_isPercentage here, List.length_cons] at few
            exact absurd (List.length_eq_zero_iff.mp (by omega)) some
        simp only [if_true, quotient, if_neg nonzero, Option.map_some, List.map_cons]
        congr 1
        exact ih _ divides.tail

theorem none_mem_shares (remainingForPercentage : ℚ) (recipients : List SplitPaymentRecipient) :
    ∀ left, 1 < (percentages recipients).length → none ∈ Numeric.shares 0 remainingForPercentage left recipients := by
  induction recipients with
  | nil => nofun
  | cons recipient rest ih =>
    intro left many
    unfold Numeric.shares
    cases here : recipient.isPercentage with
    | false => simp_all [percentages_cons_of_not]
    | true =>
      rw [percentages_cons_of_isPercentage here, List.length_cons] at many
      have more : rest.any SplitPaymentRecipient.isPercentage = true := by grind [any_isPercentage]
      rw [if_pos rfl, more]
      exact List.mem_cons_self

/-- The allocations are numbers of this sum. -/
def Sums (allocations : List (Option ℚ)) (sum : ℚ) : Prop :=
  ∃ numbers : List ℚ, allocations = numbers.map some ∧ numbers.sum = sum

theorem sums_map_some (numbers : List ℚ) (sum : ℚ) : Sums (numbers.map some) sum ↔ numbers.sum = sum := by
  constructor
  · intro sums
    obtain ⟨others, same, total⟩ := sums
    rw [List.map_injective_iff.mpr (Option.some_injective ℚ) same]
    exact total
  · intro total
    exact ⟨numbers, rfl, total⟩

theorem not_sums_of_none {allocations : List (Option ℚ)} (member : none ∈ allocations) (sum : ℚ) :
    ¬Sums allocations sum := by
  intro sums
  obtain ⟨numbers, rfl, _⟩ := sums
  obtain ⟨number, _, impossible⟩ := List.mem_map.mp member
  cases impossible

section Distribution

variable {recipients : List SplitPaymentRecipient} {totalAmount : ℚ} {allocations : List (Option ℚ)}

theorem calculated_eq (calculated : Numeric.calculateAllocations recipients totalAmount = some allocations) :
    fixedSum recipients ≤ totalAmount ∧ allocations = Numeric.shares (percentageSum recipients)
      (totalAmount - fixedSum recipients) (some (totalAmount - fixedSum recipients)) recipients := by
  unfold Numeric.calculateAllocations at calculated
  split at calculated
  · cases calculated
  · simp_all

theorem sum_of_fixed (places : HasPlaces totalAmount)
    (calculated : Numeric.calculateAllocations recipients totalAmount = some allocations)
    (divides : Divides (percentageSum recipients) recipients) :
    Sums allocations (if recipients.any SplitPaymentRecipient.isPercentage then totalAmount else fixedSum recipients) := by
  obtain ⟨_, rfl⟩ := calculated_eq calculated
  rw [shares_eq_some _ _ _ _ divides, sums_map_some, sum_shares _ _ _ _ (places.sub (hasPlaces_fixedSum recipients))]
  split
  · rw [add_sub_cancel]
  · rw [add_zero]

/-- The whole amount is allocated where a percentage takes what the fixed amounts leave, or where they leave
nothing; without a percentage the rest of the amount is not allocated. -/
theorem whole_amount_allocated (places : HasPlaces totalAmount)
    (calculated : Numeric.calculateAllocations recipients totalAmount = some allocations) :
    (Sums allocations totalAmount ↔ Divides (percentageSum recipients) recipients ∧
      (recipients.any SplitPaymentRecipient.isPercentage = true ∨ fixedSum recipients = totalAmount)) ∧
    (recipients.any SplitPaymentRecipient.isPercentage = false → Sums allocations (fixedSum recipients)) := by
  constructor
  · constructor
    · intro whole
      have divides : Divides (percentageSum recipients) recipients := by
        by_contra undivided
        unfold Divides at undivided
        push Not at undivided
        obtain ⟨_, rfl⟩ := calculated_eq calculated
        rw [undivided.1] at whole
        exact not_sums_of_none (none_mem_shares _ _ _ undivided.2) _ whole
      refine ⟨divides, ?_⟩
      have sums := sum_of_fixed places calculated divides
      obtain ⟨numbers, rfl, sum⟩ := whole
      rw [sums_map_some, sum] at sums
      by_cases some : recipients.any SplitPaymentRecipient.isPercentage = true
      · exact .inl some
      · rw [if_neg some] at sums
        exact .inr sums.symm
    · intro condition
      obtain ⟨divides, covered⟩ := condition
      have sums := sum_of_fixed places calculated divides
      by_cases some : recipients.any SplitPaymentRecipient.isPercentage = true
      · rwa [if_pos some] at sums
      · rw [if_neg some] at sums
        rcases covered with percentage | exact
        · exact absurd percentage some
        · rwa [exact] at sums
  · intro fixed
    have few : (percentages recipients).length ≤ 1 := by
      have empty : percentages recipients = [] := by
        by_contra some
        rw [(any_isPercentage recipients).mpr some] at fixed
        cases fixed
      rw [empty]
      exact Nat.zero_le 1
    have sums := sum_of_fixed places calculated (.inr few)
    rwa [fixed, if_neg Bool.false_ne_true] at sums

end Distribution

/-- The recipients of a stored rule in the order of their priorities. -/
def stored (ruleId : String) (inputs : List CreateRecipientInput) : Option (List SplitPaymentRecipient) :=
  (inputs.mapM fun input : CreateRecipientInput => input.row ruleId).map fun rows =>
    rows.insertionSort fun first second => first.priority ≤ second.priority

def salaries : List CreateRecipientInput :=
  [⟨"user", "ann", none, "percentage", some 60, some 2⟩, ⟨"merchant", "rent", none, "fixed", some 250, none⟩,
    ⟨"user", "bob", none, "percentage", some 30, some 1⟩]

theorem salaries_calculated :
    ((stored "r" salaries).bind fun recipients => Numeric.calculateAllocations recipients 1000) =
      some [some 250, some 250, some 500] ∧
      HasPlaces 1000 ∧ validateRecipients (fun _ => "") salaries = [] := by
  decide +kernel

theorem salaries_allocated : ∃ recipients allocations, stored "r" salaries = some recipients ∧
    (Sums allocations 1000 ↔ Divides (percentageSum recipients) recipients ∧
      (recipients.any SplitPaymentRecipient.isPercentage = true ∨ fixedSum recipients = 1000)) ∧
    (recipients.any SplitPaymentRecipient.isPercentage = false → Sums allocations (fixedSum recipients)) := by
  obtain ⟨calculated, places, -⟩ := salaries_calculated
  obtain ⟨recipients, known, allocated⟩ := Option.bind_eq_some_iff.mp calculated
  exact ⟨recipients, _, known, whole_amount_allocated places allocated⟩

/-- Two recipients of fixed amounts, which leave a part of the amount. -/
def wages : List CreateRecipientInput :=
  [⟨"merchant", "m1", none, "fixed", some 5000, none⟩, ⟨"merchant", "m2", none, "fixed", some 3000, some 1⟩]

theorem wages_leave_remainder : ¬∀ (print : ℚ → String) (inputs : List CreateRecipientInput) (ruleId : String)
    (recipients : List SplitPaymentRecipient) (totalAmount : ℚ) (allocations : List (Option ℚ)),
    validateRecipients print inputs = [] → stored ruleId inputs = some recipients → 0 < totalAmount →
    HasPlaces totalAmount → Numeric.calculateAllocations recipients totalAmount = some allocations →
    Sums allocations totalAmount := by
  intro every
  have calculated : ((stored "r" wages).bind fun recipients => Numeric.calculateAllocations recipients 10000) =
      some ([5000, 3000].map some) := by decide +kernel
  obtain ⟨recipients, known, allocated⟩ := Option.bind_eq_some_iff.mp calculated
  have whole := every (fun _ => "") wages "r" recipients 10000 _ (by decide +kernel) known (by norm_num)
    (by decide +kernel) allocated
  rw [sums_map_some] at whole
  norm_num at whole

end ProxyPay.Splits
