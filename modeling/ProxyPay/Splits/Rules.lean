import Mathlib.Data.List.Sort
import ProxyPay.Library.Rounding
import ProxyPay.Library.Text

/-! `SplitPaymentService`: the check of the recipients of a rule, and how it shares an amount out. Numbers are
exact. -/

namespace ProxyPay.Splits

open ProxyPay.Library

/-- A recipient as it is given; the value may be no number. -/
structure CreateRecipientInput where
  recipientType : String
  recipientId : String
  recipientLabel : Option String
  splitType : String
  splitValue : Option ℚ
  priority : Option ℤ
  deriving DecidableEq

/-- A row of `split_payment_recipients`. -/
structure SplitPaymentRecipient where
  ruleId : String
  recipientType : String
  recipientId : String
  recipientLabel : Option String
  splitType : String
  splitValue : Decimal 18 8
  priority : ℤ
  deriving DecidableEq

/-- `Math.round(value * 1e8) / 1e8` -/
def roundUnits (value : ℚ) : ℚ := ⌊value * 10 ^ 8 + 1 / 2⌋ / 10 ^ 8

/-- What the loop over the recipients keeps. -/
structure Validation where
  errors : List String
  percentageTotal : ℚ
  allPercentage : Bool

def recipientTypes : List String := ["user", "merchant", "phone"]

def splitTypes : List String := ["percentage", "fixed"]

def Validation.check (validation : Validation) (numbered : CreateRecipientInput × ℕ) : Validation :=
  let recipient := numbered.1
  let label := "Recipient[" ++ toString numbered.2 ++ "]"
  let errors := validation.errors ++
    (if recipientTypes.contains recipient.recipientType then []
      else [label ++ ": recipientType must be one of: " ++ ", ".intercalate recipientTypes ++ "."]) ++
    (if Text.trim recipient.recipientId = "" then [label ++ ": recipientId must not be empty."] else []) ++
    (if splitTypes.contains recipient.splitType then []
      else [label ++ ": splitType must be one of: " ++ ", ".intercalate splitTypes ++ "."])
  match recipient.splitValue with
  -- The other checks of the value are skipped.
  | none => { validation with errors := errors ++ [label ++ ": splitValue must be a number."] }
  | some splitValue =>
    let errors := errors ++ if splitValue ≤ 0 then [label ++ ": splitValue must be greater than 0."] else []
    if recipient.splitType = "percentage" then
      { validation with
        errors := errors ++
          if 100 < splitValue then [label ++ ": percentage splitValue must be between 0 and 100."] else []
        percentageTotal := validation.percentageTotal + splitValue }
    else { validation with errors := errors, allPercentage := false }

/-- The errors of the recipients; `print` writes a number. -/
def validateRecipients (print : ℚ → String) (recipients : List CreateRecipientInput) : List String :=
  if recipients = [] then ["At least one recipient is required."]
  else
    let validation := recipients.zipIdx.foldl Validation.check ⟨[], 0, true⟩
    validation.errors ++
      if validation.allPercentage ∧ roundUnits validation.percentageTotal ≠ 100 then
        ["When all recipients use 'percentage' splitType, the values must sum to 100 (got " ++
          print (roundUnits validation.percentageTotal) ++ ")."]
      else []

def SplitPaymentRecipient.isPercentage (recipient : SplitPaymentRecipient) : Bool :=
  recipient.splitType = "percentage"

/-- What a fixed recipient gets. -/
def SplitPaymentRecipient.fixed (recipient : SplitPaymentRecipient) : ℚ :=
  if recipient.splitType = "fixed" then recipient.splitValue.value else 0

/-- The shares of the recipients, where `left` is what earlier percentages left over. -/
def shares (totalPct remainingForPercentage : ℚ) : ℚ → List SplitPaymentRecipient → List ℚ
  | _, [] => []
  | left, recipient :: rest =>
    if recipient.isPercentage then
      let amount :=
        if rest.any SplitPaymentRecipient.isPercentage then
          roundUnits (recipient.splitValue.value / totalPct * remainingForPercentage)
        -- The last percentage gets the remainder.
        else roundUnits left
      amount :: shares totalPct remainingForPercentage (left - amount) rest
    else recipient.fixed :: shares totalPct remainingForPercentage left rest

def fixedSum (recipients : List SplitPaymentRecipient) : ℚ :=
  (recipients.map SplitPaymentRecipient.fixed).sum

def percentageSum (recipients : List SplitPaymentRecipient) : ℚ :=
  ((recipients.filter SplitPaymentRecipient.isPercentage).map fun recipient => recipient.splitValue.value).sum

/-- The allocations, unless the fixed amounts exceed the total. -/
def calculateAllocations (recipients : List SplitPaymentRecipient) (totalAmount : ℚ) : Option (List ℚ) :=
  if totalAmount < fixedSum recipients then none
  else
    let remainingForPercentage := totalAmount - fixedSum recipients
    some (shares (percentageSum recipients) remainingForPercentage remainingForPercentage recipients)

/-! The allocations sum to no more than an amount of eight places. -/

def HasPlaces (value : ℚ) : Prop := (value * 10 ^ 8).den = 1

instance : DecidablePred HasPlaces := fun value => inferInstanceAs (Decidable ((value * 10 ^ 8).den = 1))

theorem hasPlaces_iff {value : ℚ} : HasPlaces value ↔ ∃ units : ℤ, value = units / 10 ^ 8 := by
  have scale : (10 : ℚ) ^ 8 ≠ 0 := by norm_num
  constructor
  · intro places
    refine ⟨(value * 10 ^ 8).num, ?_⟩
    rw [eq_div_iff scale]
    exact (Rat.den_eq_one_iff _).mp places |>.symm
  · simp_all [div_mul_cancel₀, HasPlaces]

theorem hasPlaces_value (decimal : Decimal 18 8) : HasPlaces decimal.value :=
  (hasPlaces_iff).mpr ⟨decimal.units, rfl⟩

theorem hasPlaces_roundUnits (value : ℚ) : HasPlaces (roundUnits value) := (hasPlaces_iff).mpr ⟨_, rfl⟩

theorem hasPlaces_fixed (recipient : SplitPaymentRecipient) : HasPlaces recipient.fixed := by
  unfold SplitPaymentRecipient.fixed
  split
  · exact hasPlaces_value _
  · exact (hasPlaces_iff).mpr ⟨0, by norm_num⟩

section

variable {first second : ℚ} (one : HasPlaces first) (other : HasPlaces second)

include one other

theorem HasPlaces.add : HasPlaces (first + second) := by
  obtain ⟨m, rfl⟩ := (hasPlaces_iff).mp one
  obtain ⟨n, rfl⟩ := (hasPlaces_iff).mp other
  refine (hasPlaces_iff).mpr ⟨m + n, ?_⟩
  push_cast
  rw [add_div]

theorem HasPlaces.sub : HasPlaces (first - second) := by
  obtain ⟨m, rfl⟩ := (hasPlaces_iff).mp one
  obtain ⟨n, rfl⟩ := (hasPlaces_iff).mp other
  refine (hasPlaces_iff).mpr ⟨m - n, ?_⟩
  push_cast
  rw [sub_div]

end

theorem roundUnits_of_hasPlaces {value : ℚ} (places : HasPlaces value) : roundUnits value = value := by
  obtain ⟨units, rfl⟩ := (hasPlaces_iff).mp places
  unfold roundUnits
  rw [div_mul_cancel₀ _ (by norm_num)]
  have floor : ⌊(units : ℚ) + 1 / 2⌋ = units := by
    rw [Int.floor_eq_iff]
    constructor <;> norm_num
  rw [floor]

theorem hasPlaces_fixedSum (recipients : List SplitPaymentRecipient) : HasPlaces (fixedSum recipients) := by
  unfold fixedSum
  induction recipients with
  | nil => exact (hasPlaces_iff).mpr ⟨0, by simp⟩
  | cons recipient rest ih =>
    rw [List.map_cons, List.sum_cons]
    exact (hasPlaces_fixed recipient).add ih

theorem hasPlaces_shares (totalPct remainingForPercentage : ℚ) (recipients : List SplitPaymentRecipient) :
    ∀ left, ∀ share ∈ shares totalPct remainingForPercentage left recipients, HasPlaces share := by
  induction recipients with
  | nil => nofun
  | cons recipient rest ih =>
    intro left share member
    unfold shares at member
    split at member
    · rcases List.mem_cons.mp member with rfl | later
      · split <;> exact hasPlaces_roundUnits _
      · exact ih _ share later
    · rcases List.mem_cons.mp member with rfl | later
      · exact hasPlaces_fixed recipient
      · exact ih _ share later

theorem fixed_of_isPercentage {recipient : SplitPaymentRecipient} (percentage : recipient.isPercentage = true) :
    recipient.fixed = 0 := by
  have same : recipient.splitType = "percentage" := by simpa [SplitPaymentRecipient.isPercentage] using percentage
  rw [SplitPaymentRecipient.fixed, same, if_neg (by decide)]

theorem sum_shares (totalPct remainingForPercentage : ℚ) (recipients : List SplitPaymentRecipient) :
    ∀ left, HasPlaces left → (shares totalPct remainingForPercentage left recipients).sum =
      fixedSum recipients + if recipients.any SplitPaymentRecipient.isPercentage then left else 0 := by
  induction recipients with
  | nil => simp [shares, fixedSum]
  | cons recipient rest ih =>
    intro left places
    have sums : fixedSum (recipient :: rest) = recipient.fixed + fixedSum rest := by simp [fixedSum]
    unfold shares
    cases percentage : recipient.isPercentage with
    | false => grind
    | true =>
      rw [if_pos rfl, List.sum_cons, sums, fixed_of_isPercentage percentage, List.any_cons, percentage, Bool.true_or,
        if_pos rfl, zero_add]
      cases more : rest.any SplitPaymentRecipient.isPercentage with
      | true =>
        rw [if_pos rfl, ih _ (places.sub (hasPlaces_roundUnits _)), more, if_pos rfl]
        ring
      | false =>
        rw [if_neg Bool.false_ne_true, roundUnits_of_hasPlaces places, ih _ (places.sub places), more,
          if_neg Bool.false_ne_true]
        ring

theorem length_shares (totalPct remainingForPercentage : ℚ) (recipients : List SplitPaymentRecipient) :
    ∀ left, (shares totalPct remainingForPercentage left recipients).length = recipients.length := by
  induction recipients with
  | nil =>
    intro left
    rfl
  | cons recipient rest ih => grind [shares]

section

variable {recipients : List SplitPaymentRecipient} {totalAmount : ℚ} {allocations : List ℚ}

theorem length_calculateAllocations (calculated : calculateAllocations recipients totalAmount = some allocations) :
    allocations.length = recipients.length := by
  unfold calculateAllocations at calculated
  split at calculated
  · cases calculated
  · cases calculated
    exact length_shares _ _ _ _

theorem sum_calculateAllocations (places : HasPlaces totalAmount) (calculated : calculateAllocations recipients totalAmount = some allocations) :
    allocations.sum ≤ totalAmount := by
  unfold calculateAllocations at calculated
  split at calculated
  · cases calculated
  · rename_i covered
    rw [not_lt] at covered
    cases calculated
    rw [sum_shares _ _ _ _ (places.sub (hasPlaces_fixedSum recipients))]
    split
    · rw [add_sub_cancel]
    · rwa [add_zero]

theorem hasPlaces_of_mem_allocations (calculated : calculateAllocations recipients totalAmount = some allocations) :
    ∀ share ∈ allocations, HasPlaces share := by
  unfold calculateAllocations at calculated
  split at calculated
  · cases calculated
  · cases calculated
    exact hasPlaces_shares _ _ _ _

end

end ProxyPay.Splits
