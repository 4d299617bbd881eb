import ProxyPay.Library.Rounding

/-! The three calculators of a fee: of a user by the volume of the last 30 days, of the service, and of the environment.
Numbers are exact. -/

namespace ProxyPay.Fees

open ProxyPay.Library

inductive MerchantTier where
  | BRONZE
  | SILVER
  | GOLD
  deriving DecidableEq

structure TierConfig where
  tier : MerchantTier
  minVolume : ℚ
  discountPercent : ℚ
  label : String

def bronze : TierConfig := ⟨.BRONZE, 0, 0, "Bronze"⟩

/-- From the highest volume down. -/
def MERCHANT_TIERS : List TierConfig := [⟨.GOLD, 5000, 20, "Gold"⟩, ⟨.SILVER, 1000, 10, "Silver"⟩, bronze]

def mapVolumeToTier (volume : ℚ) : TierConfig :=
  (MERCHANT_TIERS.find? fun tier => tier.minVolume ≤ volume).getD bronze

/-- What a configuration, or the environment, says of fees. -/
structure FeeConfiguration where
  name : String
  feePercentage : ℚ
  feeMinimum : ℚ
  feeMaximum : ℚ

structure FeeResult where
  fee : ℚ
  total : ℚ
  configUsed : String

structure VipFeeResult extends FeeResult where
  tier : MerchantTier
  discountPercent : ℚ
  thirtyDayVolume : ℚ

def clamp (minimum maximum fee : ℚ) : ℚ :=
  let fee := if fee < minimum then minimum else fee
  if maximum < fee then maximum else fee

variable (config : FeeConfiguration)

/-- `FeeService.calculateFee` -/
def serviceFee (amount : ℚ) : FeeResult :=
  let fee := clamp config.feeMinimum config.feeMaximum (amount * (config.feePercentage / 100))
  ⟨toFixed 2 fee, toFixed 2 (amount + fee), config.name⟩

variable (env : FeeConfiguration)

def calculateFeeSync (amount : ℚ) : FeeResult :=
  let fee := clamp env.feeMinimum env.feeMaximum (amount * (env.feePercentage / 100))
  ⟨toFixed 2 fee, toFixed 2 (amount + fee), "env_fallback"⟩

/-- `activeConfiguration` is none where the service throws. -/
def calculateFeeForUser (activeConfiguration : Option FeeConfiguration) (thirtyDayVolume amount : ℚ) :
    VipFeeResult :=
  let tierConfig := mapVolumeToTier thirtyDayVolume
  let base := activeConfiguration.getD { env with name := "env_fallback" }
  let multiplier := 1 - tierConfig.discountPercent / 100
  let effectiveRate := base.feePercentage * multiplier
  let fee := clamp (base.feeMinimum * multiplier) (base.feeMaximum * multiplier) (amount * (effectiveRate / 100))
  {
    fee := toFixed 2 fee
    total := toFixed 2 (amount + fee)
    configUsed := base.name
    tier := tierConfig.tier
    discountPercent := tierConfig.discountPercent
    thirtyDayVolume }

/-! The discount scales the fee and its bounds alike. -/

variable {minimum maximum first second multiplier fee amount : ℚ}

section

variable (ordered : minimum ≤ maximum)

include ordered

theorem clamp_eq : clamp minimum maximum fee = max minimum (min maximum fee) := by
  unfold clamp
  grind

theorem clamp_mul (nonneg : 0 ≤ multiplier) :
    clamp (minimum * multiplier) (maximum * multiplier) (fee * multiplier) = clamp minimum maximum fee * multiplier := by
  have scaled := mul_le_mul_of_nonneg_right ordered nonneg
  rw [clamp_eq ordered, clamp_eq scaled, max_mul_of_nonneg _ _ nonneg, min_mul_of_nonneg _ _ nonneg]

theorem clamp_mono (le : first ≤ second) : clamp minimum maximum first ≤ clamp minimum maximum second := by
  rw [clamp_eq ordered, clamp_eq ordered]
  exact max_le_max_left _ (min_le_min_left _ le)

theorem clamp_within : minimum ≤ clamp minimum maximum fee ∧ clamp minimum maximum fee ≤ maximum := by
  rw [clamp_eq ordered]
  exact ⟨le_max_left _ _, max_le ordered (min_le_left _ _)⟩

end

/-- What a volume leaves of a fee. -/
def remaining (volume : ℚ) : ℚ := 1 - (mapVolumeToTier volume).discountPercent / 100

theorem remaining_cases (volume : ℚ) :
    remaining volume = if 5000 ≤ volume then 4 / 5 else if 1000 ≤ volume then 9 / 10 else 1 := by
  unfold remaining mapVolumeToTier MERCHANT_TIERS bronze
  by_cases gold : 5000 ≤ volume
  · norm_num [List.find?_cons, gold]
  · by_cases silver : 1000 ≤ volume
    · norm_num [List.find?_cons, gold, silver]
    · by_cases some_volume : 0 ≤ volume
      · norm_num [List.find?_cons, gold, silver, some_volume]
      · norm_num [List.find?_cons, gold, silver, some_volume]

theorem remaining_nonneg (volume : ℚ) : 0 ≤ remaining volume := by
  rw [remaining_cases]
  split_ifs <;> norm_num

theorem remaining_anti {volume later : ℚ} (le : volume ≤ later) : remaining later ≤ remaining volume := by
  rw [remaining_cases, remaining_cases]
  split_ifs <;> linarith

/-- The fee before it is rounded. -/
def exactFee (volume amount : ℚ) : ℚ :=
  clamp config.feeMinimum config.feeMaximum (amount * (config.feePercentage / 100)) * remaining volume

theorem calculateFeeForUser_eq {env config : FeeConfiguration} (ordered : config.feeMinimum ≤ config.feeMaximum)
    (volume amount : ℚ) :
    (calculateFeeForUser env (some config) volume amount).fee = toFixed 2 (exactFee config volume amount) ∧
      (calculateFeeForUser env (some config) volume amount).total = toFixed 2 (amount + exactFee config volume amount) := by
  have rate : amount * (config.feePercentage * remaining volume / 100) =
      amount * (config.feePercentage / 100) * remaining volume := by
    ring
  have scaled := @clamp_mul _ _ _ (amount * (config.feePercentage / 100)) ordered (remaining_nonneg volume)
  rw [← rate] at scaled
  constructor
  · exact congrArg (toFixed 2) scaled
  · exact congrArg (fun fee => toFixed 2 (amount + fee)) scaled

def defaults : FeeConfiguration := ⟨"default", 3 / 2, 50, 5000⟩

theorem clamp_add_le {minimum maximum first second : ℚ} (ordered : minimum ≤ maximum) (nonneg : 0 ≤ minimum) :
    clamp minimum maximum (first + second) ≤ clamp minimum maximum first + clamp minimum maximum second := by
  rw [clamp_eq ordered, clamp_eq ordered, clamp_eq ordered]
  grind

/-- To pay in two parts saves nothing but what is lost in rounding. -/
theorem two_payments_cost (env config : FeeConfiguration) (volume amount other : ℚ) (minimum_nonneg : 0 ≤ config.feeMinimum)
    (ordered : config.feeMinimum ≤ config.feeMaximum) : (calculateFeeForUser env (some config) volume (amount + other)).fee ≤
      (calculateFeeForUser env (some config) volume amount).fee + (calculateFeeForUser env (some config) volume other).fee +
        3 / 200 := by
  have fee (amount : ℚ) := (@calculateFeeForUser_eq env config ordered volume amount).1
  have whole : exactFee config volume (amount + other) ≤ exactFee config volume amount + exactFee config volume other := by
    unfold exactFee
    rw [← add_mul, add_mul amount]
    exact mul_le_mul_of_nonneg_right (clamp_add_le ordered minimum_nonneg) (remaining_nonneg volume)
  have near (amount : ℚ) := abs_le.mp (toFixed.near 2 amount)
  rw [fee, fee, fee]
  linarith [(near (exactFee config volume (amount + other))).2, (near (exactFee config volume amount)).1, (near (exactFee config volume other)).1]

theorem ten_thousand_in_two : (calculateFeeForUser defaults (some defaults) 0 (4000 + 6000)).fee ≤
    (calculateFeeForUser defaults (some defaults) 0 4000).fee + (calculateFeeForUser defaults (some defaults) 0 6000).fee +
      3 / 200 :=
  two_payments_cost defaults defaults 0 4000 6000 (by decide +kernel) (by decide +kernel)

end ProxyPay.Fees
