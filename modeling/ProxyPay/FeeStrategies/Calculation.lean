import ProxyPay.FeeStrategies.Engine
import ProxyPay.Library.Rounding

/-! The fee of a transaction: each kind of strategy with its bounds, the check of what comes out, and the search for
the first strategy that applies. Numbers are exact. -/

namespace ProxyPay.FeeStrategies

open ProxyPay.Library ProxyPay.Library.Text

structure VolumeTier where
  minAmount : ℚ
  maxAmount : Option ℚ
  feePercentage : Option ℚ
  flatAmount : Option ℚ
  deriving DecidableEq

/-- What a row of the table says of a fee. -/
structure FeeTerms where
  id : String
  name : String
  strategyType : FeeStrategyType
  scope : FeeStrategyScope
  flatAmount : Option ℚ
  feePercentage : Option ℚ
  feeMinimum : Option ℚ
  feeMaximum : Option ℚ
  daysOfWeek : Option (List ℤ)
  timeStart : Option String
  timeEnd : Option String
  overridePercentage : Option ℚ
  overrideFlatAmount : Option ℚ
  volumeTiers : Option (List VolumeTier)
  deriving DecidableEq

structure Clamped where
  clamped : ℚ
  appliedMin : Option ℚ
  appliedMax : Option ℚ
  deriving DecidableEq

def clampFee (fee : ℚ) (minimum maximum : Option ℚ) : Clamped :=
  let appliedMin := minimum.filter fun minimum => fee < minimum
  let raised := appliedMin.getD fee
  let appliedMax := maximum.filter fun maximum => raised > maximum
  ⟨appliedMax.getD raised, appliedMin, appliedMax⟩

structure AppliedFee where
  rawFee : ℚ
  clampedFee : ℚ
  appliedMinimum : Option ℚ
  appliedMaximum : Option ℚ
  deriving DecidableEq

def applied (rawFee : ℚ) (minimum maximum : Option ℚ) : AppliedFee :=
  let result := clampFee rawFee minimum maximum
  ⟨rawFee, result.clamped, result.appliedMin, result.appliedMax⟩

def applyFlatFee (strategy : FeeTerms) : AppliedFee :=
  applied (strategy.flatAmount.getD 0) strategy.feeMinimum strategy.feeMaximum

def applyPercentageFee (strategy : FeeTerms) (amount : ℚ) : AppliedFee :=
  applied (amount * (strategy.feePercentage.getD 0 / 100))
    (if strategy.scope = .user then none else strategy.feeMinimum) strategy.feeMaximum

/-! Times are milliseconds since the first of January 1970, a Thursday. -/

/-- Days from Sunday on. -/
def getUTCDay (time : ℤ) : ℤ := (time / 86400000 + 4) % 7

def isoDay (time : ℤ) : ℤ :=
  if getUTCDay time = 0 then 7 else getUTCDay time

/-- Hours and minutes, with two digits each. -/
def hhmm (time : ℤ) : String :=
  let minutes := (time % 86400000 / 60000).toNat
  String.ofList (pad 10 2 (minutes / 60) ++ ':' :: pad 10 2 (minutes % 60))

/-- The time is within the hours of the strategy, if it has any. -/
def inHours (strategy : FeeTerms) (time : ℤ) : Bool :=
  match truthy strategy.timeStart, truthy strategy.timeEnd with
  | some start, some stop => !(hhmm time < start || hhmm time ≥ stop)
  | _, _ => true

def applyTimeBasedFee (strategy : FeeTerms) (amount : ℚ) (time : ℤ) : Option AppliedFee :=
  if isoDay time ∉ strategy.daysOfWeek.getD [] then none
  else if !inHours strategy time then none
  else
    let rawFee := strategy.overrideFlatAmount.getD (amount * (strategy.overridePercentage.getD 0 / 100))
    some (applied rawFee none strategy.feeMaximum)

def VolumeTier.covers (amount : ℚ) (tier : VolumeTier) : Bool :=
  tier.minAmount ≤ amount && tier.maxAmount.all (amount < ·)

def VolumeTier.fee (amount : ℚ) (tier : VolumeTier) : ℚ :=
  match tier.feePercentage with
  | some percentage => amount * (percentage / 100)
  | none => tier.flatAmount.getD 0

def applyVolumeBasedFee (strategy : FeeTerms) (amount : ℚ) : AppliedFee :=
  match (strategy.volumeTiers.getD []).find? (VolumeTier.covers amount) with
  | some tier => applied (tier.fee amount) strategy.feeMinimum strategy.feeMaximum
  | none => applied 0 none strategy.feeMaximum

def applyStrategy (strategy : FeeTerms) (amount : ℚ) (time : ℤ) : Option AppliedFee :=
  match strategy.strategyType with
  | .flat => some (applyFlatFee strategy)
  | .percentage => some (applyPercentageFee strategy amount)
  | .timeBased => applyTimeBasedFee strategy amount time
  | .volumeBased => some (applyVolumeBasedFee strategy amount)

structure FeeValidationResult where
  appliedFeeCap : ℚ
  capped : Bool
  invalid : Bool
  warnings : List String
  deriving DecidableEq

/-- What the engine is run with: the value of FEE_STRATEGY_MAX_FEE_RATE, and how a number is written. -/
structure FeeSettings where
  configuredRate : Option ℚ
  written : ℚ → String

def DEFAULT_MAX_FEE_RATE : ℚ := 1 / 100

variable (settings : FeeSettings)

def getMaxFeeRate : ℚ :=
  match settings.configuredRate with
  | some configured => if 0 < configured then configured else DEFAULT_MAX_FEE_RATE
  | none => DEFAULT_MAX_FEE_RATE

/-- The bound that is enforced. -/
def feeCap (strategy : FeeTerms) (amount : ℚ) : ℚ :=
  match strategy.feeMaximum with
  | some maximum => max maximum 0
  | none => max 0 amount * getMaxFeeRate settings

/-- The number is always finite here. -/
def validateCalculatedFee (fee amount : ℚ) (strategy : FeeTerms) : ℚ × FeeValidationResult :=
  let cap := feeCap settings strategy amount
  let invalid := decide (fee < 0)
  let validated := if invalid then 0 else fee
  let capped := decide (validated > cap)
  let warnings :=
    (if invalid then
      ["Calculated fee (" ++ settings.written fee ++
        ") is invalid — negative or non-finite fees are not permitted; falling back to 0"] else []) ++
    (if capped then
      ["Calculated fee (" ++ settings.written validated ++ ") exceeds the maximum allowed fee cap (" ++
        settings.written cap ++ "); clamping to the cap"] else [])
  (if capped then cap else validated, ⟨toFixed 2 cap, capped, invalid, warnings⟩)

structure FeeBreakdown where
  strategyId : String
  strategyType : FeeStrategyType
  rawFee : ℚ
  clampedFee : ℚ
  appliedMinimum : Option ℚ
  appliedMaximum : Option ℚ
  deriving DecidableEq

structure FeeCalculationResult where
  fee : ℚ
  total : ℚ
  strategyUsed : String
  scopeUsed : FeeStrategyScope
  timeOverrideActive : Bool
  breakdown : FeeBreakdown
  validation : FeeValidationResult
  deriving DecidableEq

def feeResult (strategy : FeeTerms) (amount : ℚ) (result : AppliedFee) : FeeCalculationResult :=
  let (validated, validation) := validateCalculatedFee settings result.clampedFee amount strategy
  let fee := toFixed 2 validated
  { fee
    total := toFixed 2 (amount + fee)
    strategyUsed := strategy.name
    scopeUsed := strategy.scope
    timeOverrideActive := strategy.strategyType = .timeBased
    breakdown :=
      { strategyId := strategy.id
        strategyType := strategy.strategyType
        rawFee := toFixed 2 result.rawFee
        clampedFee := toFixed 2 result.clampedFee
        appliedMinimum := result.appliedMinimum
        appliedMaximum := result.appliedMaximum }
    validation }

def defaultResult (amount : ℚ) : FeeCalculationResult where
  fee := 0
  total := amount
  strategyUsed := "none"
  scopeUsed := .global
  timeOverrideActive := false
  breakdown := ⟨"", .flat, 0, 0, none, none⟩
  validation := ⟨toFixed 2 (amount * getMaxFeeRate settings), false, false, []⟩

/-- What the call returns, if anything: the default result is made and dropped, and its `return` stands in
another method. -/
def calculateFee (candidates : List FeeTerms) (amount : ℚ) (time : ℤ) : Option FeeCalculationResult :=
  match candidates with
  | [] =>
    let _ := defaultResult settings amount
    none
  | strategy :: rest =>
    match applyStrategy strategy amount time with
    | some result => some (feeResult settings strategy amount result)
    | none => calculateFee rest amount time

/-! What is asked of the result. -/

/-- The strategy applies at this time. -/
def FeeTerms.isMet (time : ℤ) (strategy : FeeTerms) : Bool :=
  strategy.strategyType ≠ .timeBased || (isoDay time ∈ strategy.daysOfWeek.getD [] && inHours strategy time)

structure FeeTerms.Prices (strategy : FeeTerms) (amount : ℚ) (result : FeeCalculationResult) : Prop where
  winner : result.strategyUsed = strategy.name ∧ result.breakdown.strategyId = strategy.id ∧
    result.scopeUsed = strategy.scope
  nonneg : 0 ≤ result.fee
  capped : result.fee ≤ toFixed 2 (feeCap settings strategy amount)
  total : |result.total - (amount + result.fee)| ≤ 1 / 200

/-- The first strategy that applies sets the fee; without one it is nothing. -/
def Consistent (candidates : List FeeTerms) (amount : ℚ) (time : ℤ) (outcome : Option FeeCalculationResult) : Prop :=
  match candidates.find? (FeeTerms.isMet time) with
  | some strategy => ∃ result, outcome = some result ∧ strategy.Prices settings amount result
  | none => outcome = some (defaultResult settings amount)

variable {settings} {candidates : List FeeTerms} {strategy : FeeTerms} {amount : ℚ} {time : ℤ}

theorem getMaxFeeRate_pos : 0 < getMaxFeeRate settings := by
  unfold getMaxFeeRate DEFAULT_MAX_FEE_RATE
  cases settings.configuredRate with
  | none => norm_num
  | some configured =>
    show 0 < if 0 < configured then configured else _
    split
    · assumption
    · norm_num

theorem feeCap_nonneg : 0 ≤ feeCap settings strategy amount := by
  unfold feeCap
  cases strategy.feeMaximum with
  | none => exact mul_nonneg (le_max_left _ _) (getMaxFeeRate_pos).le
  | some maximum => exact le_max_right _ _

theorem applyStrategy_isSome : (applyStrategy strategy amount time).isSome = strategy.isMet time := by
  unfold applyStrategy FeeTerms.isMet
  cases strategy.strategyType with
  | timeBased => grind [applyTimeBasedFee]
  | flat | percentage | volumeBased => simp

theorem validated_bounds (fee : ℚ) : 0 ≤ (validateCalculatedFee settings fee amount strategy).1 ∧
    (validateCalculatedFee settings fee amount strategy).1 ≤ feeCap settings strategy amount := by
  have cap : 0 ≤ feeCap settings strategy amount := feeCap_nonneg
  unfold validateCalculatedFee
  by_cases negative : fee < 0
  · simp [negative, not_lt.mpr cap, cap]
  · grind

theorem feeResult_prices (result : AppliedFee) :
    strategy.Prices settings amount (feeResult settings strategy amount result) := by
  obtain ⟨begun, most⟩ := @validated_bounds settings strategy amount result.clampedFee
  constructor
  · exact ⟨rfl, rfl, rfl⟩
  · exact toFixed.nonneg begun
  · exact toFixed.mono most
  · have near := toFixed.near 2 (amount + (feeResult settings strategy amount result).fee)
    norm_num at near ⊢
    exact near

theorem calculateFee_eq : calculateFee settings candidates amount time =
    (candidates.find? (FeeTerms.isMet time)).bind fun strategy =>
      (applyStrategy strategy amount time).map (feeResult settings strategy amount) := by
  induction candidates with
  | nil => rfl
  | cons strategy rest ih =>
    have met := @applyStrategy_isSome strategy amount time
    unfold calculateFee
    rw [List.find?_cons, ← met]
    cases known : applyStrategy strategy amount time with
    | some result => simp_all
    | none => exact ih

def plainSettings : FeeSettings := ⟨none, fun _ => ""⟩

end ProxyPay.FeeStrategies
