import Mathlib.Analysis.Real.Sqrt
import ProxyPay.Library.Rounding

/-! `ExchangeRateBufferService`: which buffers the routes accept, which one a rate gets, and the buffered rate in both
directions. Numbers are exact. -/

namespace ProxyPay.ExchangeRates

open ProxyPay.Library

inductive VolatilityMode where
  | static
  | dynamic
  deriving DecidableEq

/-- A row of `exchange_rate_buffers`. -/
structure ExchangeRateBuffer where
  provider : String
  currencyPair : String
  bufferPercent : Decimal 8 4
  minBufferPct : Decimal 8 4
  maxBufferPct : Decimal 8 4
  volatilityMode : VolatilityMode
  isActive : Bool
  deriving DecidableEq

structure CreateBufferRequest where
  provider : String
  currencyPair : String
  bufferPercent : ℚ
  minBufferPct : Option ℚ
  maxBufferPct : Option ℚ
  volatilityMode : Option VolatilityMode

structure UpdateBufferRequest where
  bufferPercent : Option ℚ
  minBufferPct : Option ℚ
  maxBufferPct : Option ℚ
  volatilityMode : Option VolatilityMode
  isActive : Option Bool

/-- `z.number().min(0).max(50)` -/
def percentAccepted (percent : ℚ) : Bool := 0 ≤ percent ∧ percent ≤ 50

/-- `/^[A-Z]{3}_[A-Z]{3}$/` -/
def pairAccepted (pair : String) : Bool :=
  match pair.toList with
  | [a, b, c, '_', d, e, f] => [a, b, c, d, e, f].all Char.isUpper
  | _ => false

variable (data : CreateBufferRequest)

def CreateBufferRequest.accepted : Bool :=
  data.provider ≠ "" && pairAccepted data.currencyPair && percentAccepted data.bufferPercent &&
    data.minBufferPct.all percentAccepted && data.maxBufferPct.all percentAccepted

def UpdateBufferRequest.accepted (data : UpdateBufferRequest) : Bool :=
  data.bufferPercent.all percentAccepted && data.minBufferPct.all percentAccepted &&
    data.maxBufferPct.all percentAccepted

/-- `POST /`; none where the request is refused. -/
def createBuffer : Option ExchangeRateBuffer := do
  guard data.accepted
  let bufferPercent ← Decimal.store data.bufferPercent
  let minBufferPct ← Decimal.store (data.minBufferPct.getD (1 / 10))
  let maxBufferPct ← Decimal.store (data.maxBufferPct.getD 5)
  return {
    provider := data.provider
    currencyPair := data.currencyPair
    bufferPercent
    minBufferPct
    maxBufferPct
    volatilityMode := data.volatilityMode.getD .static
    isActive := true }

/-- A field that is undefined is left as it is. -/
def setPercent (old : Decimal 8 4) : Option ℚ → Option (Decimal 8 4)
  | none => some old
  | some percent => Decimal.store percent

/-- `PATCH /:id` of a row that exists. -/
def updateBuffer (old : ExchangeRateBuffer) (data : UpdateBufferRequest) : Option ExchangeRateBuffer := do
  guard data.accepted
  let bufferPercent ← setPercent old.bufferPercent data.bufferPercent
  let minBufferPct ← setPercent old.minBufferPct data.minBufferPct
  let maxBufferPct ← setPercent old.maxBufferPct data.maxBufferPct
  return { old with
    bufferPercent
    minBufferPct
    maxBufferPct
    volatilityMode := data.volatilityMode.getD old.volatilityMode
    isActive := data.isActive.getD old.isActive }

/-- A row that was created and then updated any number of times. -/
inductive Configured : ExchangeRateBuffer → Prop where
  | created {data : CreateBufferRequest} {row : ExchangeRateBuffer} (made : createBuffer data = some row) : Configured row
  | updated {old row : ExchangeRateBuffer} {data : UpdateBufferRequest} (before : Configured old)
      (made : updateBuffer old data = some row) : Configured row

/-- The table, and the cache, whose rows may be outdated. -/
structure Buffers where
  rows : List ExchangeRateBuffer
  cached : String → Option ExchangeRateBuffer
  rows_configured : ∀ row ∈ rows, Configured row
  cached_configured : ∀ key, ∀ row ∈ cached key, Configured row

def Buffers.getBufferConfig (buffers : Buffers) (provider currencyPair : String) : Option ExchangeRateBuffer :=
  match buffers.cached (provider ++ ":" ++ currencyPair) with
  | some cached => some cached
  | none => buffers.rows.find? fun row =>
      row.provider = provider && row.currencyPair = currencyPair && row.isActive

def Buffers.resolveBuffer (buffers : Buffers) (provider currencyPair : String) : Option ExchangeRateBuffer :=
  match buffers.getBufferConfig provider currencyPair with
  | some exact => some exact
  | none => buffers.getBufferConfig "*" currencyPair

inductive Direction where
  | sell
  | buy

variable {K : Type*} [Field K] [LinearOrder K]

structure BufferedRate (K : Type*) where
  rawRate : K
  bufferedRate : K
  bufferApplied : K
  providerUsed : String
  currencyPair : String
  mode : VolatilityMode

/-- A snapshot of `historical_prices`, whose prices are positive. -/
structure HistoricalPrice (K : Type*) [Zero K] [LT K] where
  price : K
  positive : 0 < price

variable (sqrt : K → K)

/-- The percentage of the volatility of the last day; none of the snapshots where they could not be read. -/
def computeDynamicBuffer (config : ExchangeRateBuffer) (findRange : Option (List (HistoricalPrice K))) : K :=
  match findRange with
  | none => config.bufferPercent.value
  | some snapshots =>
    if snapshots.length < 2 then config.bufferPercent.value
    else
      let prices := snapshots.map HistoricalPrice.price
      let mean := prices.sum / (prices.length : K)
      let variance := (prices.map fun price => (price - mean) ^ 2).sum / (prices.length : K)
      let coefficientOfVariation := sqrt variance / mean * 100
      coefficientOfVariation * (2 : ℕ)

variable (buffers : Buffers) (findRange : String → String → Option (List (HistoricalPrice K)))

/-- The percentage that a rate of two currencies gets, and its configuration. -/
def bufferPercentage (provider fromCurrency toCurrency : String) : K :=
  match buffers.resolveBuffer provider (fromCurrency ++ "_" ++ toCurrency) with
  | none => 0
  | some config =>
    let bufferPct := match config.volatilityMode with
      | .static => (config.bufferPercent.value : K)
      | .dynamic => computeDynamicBuffer sqrt config (findRange fromCurrency toCurrency)
    max (config.minBufferPct.value : K) (min (config.maxBufferPct.value : K) bufferPct)

def applyBuffer [FloorRing K] (rawRate : K) (provider fromCurrency toCurrency : String) (direction : Direction) : BufferedRate K :=
  let pair := fromCurrency ++ "_" ++ toCurrency
  let config := buffers.resolveBuffer provider pair
  let bufferPct := bufferPercentage sqrt buffers findRange provider fromCurrency toCurrency
  let multiplier := 1 + bufferPct / 100
  let bufferedRate := match direction with
    | .sell => rawRate / multiplier
    | .buy => rawRate * multiplier
  {
    rawRate
    bufferedRate := roundPlaces 7 bufferedRate
    bufferApplied := bufferPct
    providerUsed := (config.map ExchangeRateBuffer.provider).getD "none"
    currencyPair := pair
    mode := (config.map ExchangeRateBuffer.volatilityMode).getD .static }

/-! No configuration lowers a percentage below zero, so no rate is better than the raw one. -/

variable [IsStrictOrderedRing K]

variable {decimal : Decimal 8 4}

theorem store_nonneg {number : ℚ} (begun : 0 ≤ number)
    (stored : Decimal.store number = some decimal) : 0 ≤ decimal.value := by
  rw [Decimal.value_nonneg, Decimal.units_store stored]
  exact roundHalfAway_nonneg (mul_nonneg begun (by positivity))

theorem percent_nonneg {percent : ℚ} (accepted : percentAccepted percent = true) : 0 ≤ percent :=
  (of_decide_eq_true accepted).1

theorem setPercent_nonneg {old : Decimal 8 4} {percent : Option ℚ} (begun : 0 ≤ old.value)
    (accepted : percent.all percentAccepted = true) (stored : setPercent old percent = some decimal) :
    0 ≤ decimal.value := by
  cases percent with
  | none =>
    cases stored
    exact begun
  | some percent => exact store_nonneg (percent_nonneg accepted) stored

variable {row : ExchangeRateBuffer}

theorem createBuffer_nonneg {data : CreateBufferRequest}
    (made : createBuffer data = some row) : 0 ≤ row.minBufferPct.value := by
  simp only [createBuffer, Option.bind_eq_bind, Option.bind_eq_some_iff, guard] at made
  obtain ⟨_, checked, bufferPercent, -, minBufferPct, stored, maxBufferPct, -, same⟩ := made
  have accepted : data.accepted = true := by simp_all
  cases same
  have given : data.minBufferPct.all percentAccepted = true := by simp_all [CreateBufferRequest.accepted, Bool.and_eq_true]
  have begun : 0 ≤ data.minBufferPct.getD (1 / 10) := by
    cases supplied : data.minBufferPct with
    | none => norm_num
    | some percent =>
      rw [supplied] at given
      exact percent_nonneg given
  exact store_nonneg begun stored

theorem updateBuffer_nonneg {old : ExchangeRateBuffer} {data : UpdateBufferRequest}
    (begun : 0 ≤ old.minBufferPct.value) (made : updateBuffer old data = some row) : 0 ≤ row.minBufferPct.value := by
  simp only [updateBuffer, Option.bind_eq_bind, Option.bind_eq_some_iff, guard] at made
  obtain ⟨_, checked, bufferPercent, -, minBufferPct, stored, maxBufferPct, -, same⟩ := made
  have accepted : data.accepted = true := by simp_all
  cases same
  have given : data.minBufferPct.all percentAccepted = true := by simp_all [UpdateBufferRequest.accepted, Bool.and_eq_true]
  exact setPercent_nonneg begun given stored

theorem Configured.min_nonneg (configured : Configured row) : 0 ≤ row.minBufferPct.value := by
  induction configured with
  | created made => exact createBuffer_nonneg made
  | updated _ made begun => exact updateBuffer_nonneg begun made

variable {currencyPair : String} {config : ExchangeRateBuffer}

theorem Buffers.getBufferConfig_configured {provider : String}
    (found : buffers.getBufferConfig provider currencyPair = some config) : Configured config := by
  unfold Buffers.getBufferConfig at found
  split at found
  · rename_i cached hit
    cases found
    exact buffers.cached_configured _ config hit
  · exact buffers.rows_configured config (List.mem_of_find?_eq_some found)

theorem Buffers.resolveBuffer_configured {provider : String}
    (found : buffers.resolveBuffer provider currencyPair = some config) : Configured config := by
  unfold Buffers.resolveBuffer at found
  split at found
  · rename_i exact_config hit
    cases found
    exact buffers.getBufferConfig_configured hit
  · exact buffers.getBufferConfig_configured found

section

variable (provider fromCurrency toCurrency : String)

theorem bufferPercentage_nonneg : 0 ≤ bufferPercentage sqrt buffers findRange provider fromCurrency toCurrency := by
  unfold bufferPercentage
  split
  · exact le_rfl
  · rename_i config found
    have begun := (buffers.resolveBuffer_configured found).min_nonneg
    exact le_max_of_le_left (by exact_mod_cast begun)

theorem bufferPercentage_within {config : ExchangeRateBuffer}
    (found : buffers.resolveBuffer provider (fromCurrency ++ "_" ++ toCurrency) = some config)
    (ordered : config.minBufferPct.value ≤ config.maxBufferPct.value) :
    (config.minBufferPct.value : K) ≤ bufferPercentage sqrt buffers findRange provider fromCurrency toCurrency ∧
      bufferPercentage sqrt buffers findRange provider fromCurrency toCurrency ≤ config.maxBufferPct.value := by
  have bounds : (config.minBufferPct.value : K) ≤ config.maxBufferPct.value := by exact_mod_cast ordered
  simp only [bufferPercentage, found]
  exact ⟨le_max_left _ _, max_le bounds (min_le_left _ _)⟩

end

theorem buffered_around {rawRate multiplier : K} (positive : 0 < rawRate) (least : 1 ≤ multiplier) :
    rawRate / multiplier ≤ rawRate ∧ rawRate ≤ rawRate * multiplier :=
  ⟨div_le_self positive.le least, le_mul_of_one_le_right positive.le least⟩

/-- The buffer is never in favour of the customer: a sold rate is at most the raw one and a bought rate at least, to
half a unit of the seventh place, and a round trip returns no more than was put in. The sold rate is zero only if it is
less than half a unit. The percentage is within the bounds of a configuration unless they contradict each other. -/
theorem buffer_protects (buffers : Buffers) (findRange : String → String → Option (List (HistoricalPrice ℝ)))
    (rawRate : ℝ) (provider fromCurrency toCurrency : String) (positive : 0 < rawRate) :
    let sold := applyBuffer Real.sqrt buffers findRange rawRate provider fromCurrency toCurrency .sell
    let bought := applyBuffer Real.sqrt buffers findRange rawRate provider fromCurrency toCurrency .buy
    0 ≤ sold.bufferedRate ∧ (0 < sold.bufferedRate ↔ 1 / 2 / 10 ^ 7 ≤ rawRate / (1 + sold.bufferApplied / 100)) ∧
      sold.bufferedRate ≤ rawRate + 1 / 2 / 10 ^ 7 ∧ rawRate - 1 / 2 / 10 ^ 7 ≤ bought.bufferedRate ∧
      (∀ config, buffers.resolveBuffer provider (fromCurrency ++ "_" ++ toCurrency) = some config →
        config.minBufferPct.value ≤ config.maxBufferPct.value → ∀ direction,
          let applied := (applyBuffer Real.sqrt buffers findRange rawRate provider fromCurrency toCurrency
            direction).bufferApplied
          (config.minBufferPct.value : ℝ) ≤ applied ∧ applied ≤ config.maxBufferPct.value) ∧
      ∀ amount, 0 ≤ amount → amount * sold.bufferedRate / bought.bufferedRate ≤ amount := by
  intro sold bought
  have percentage := bufferPercentage_nonneg Real.sqrt buffers findRange provider fromCurrency toCurrency
  have least : 1 ≤ 1 + bufferPercentage Real.sqrt buffers findRange provider fromCurrency toCurrency / 100 := by
    linarith
  have nonneg : 0 ≤ rawRate / (1 + bufferPercentage Real.sqrt buffers findRange provider fromCurrency toCurrency / 100) :=
    div_nonneg positive.le (by linarith)
  obtain ⟨below, above⟩ := buffered_around positive least
  have sold_near := abs_le.mp (roundPlaces.near 7
    (rawRate / (1 + bufferPercentage Real.sqrt buffers findRange provider fromCurrency toCurrency / 100)))
  have bought_near := abs_le.mp (roundPlaces.near 7
    (rawRate * (1 + bufferPercentage Real.sqrt buffers findRange provider fromCurrency toCurrency / 100)))
  have ordered : sold.bufferedRate ≤ bought.bufferedRate := roundPlaces.mono (below.trans above)
  have sold_nonneg : 0 ≤ sold.bufferedRate := roundPlaces.nonneg nonneg
  refine ⟨sold_nonneg, roundPlaces.pos_iff, ?_, ?_, ?_, ?_⟩
  · have upper := sold_near.2
    change roundPlaces 7 _ ≤ _
    linarith
  · have lower := bought_near.1
    change _ ≤ roundPlaces 7 _
    linarith
  · intro config found bounds direction
    exact bufferPercentage_within Real.sqrt buffers findRange provider fromCurrency toCurrency found bounds
  · intro amount begun
    exact div_le_of_le_mul₀ (sold_nonneg.trans ordered) begun (mul_le_mul_of_nonneg_left ordered begun)

/-- Two percent for every provider of a currency, in dynamic mode. -/
def twoPercent : ExchangeRateBuffer where
  provider := "*"
  currencyPair := "USD_XAF"
  bufferPercent := ⟨20000, by decide⟩
  minBufferPct := ⟨1000, by decide⟩
  maxBufferPct := ⟨50000, by decide⟩
  volatilityMode := .dynamic
  isActive := true

theorem twoPercent_configured : Configured twoPercent := by
  have made : createBuffer ⟨"*", "USD_XAF", 2, none, none, some .dynamic⟩ = some twoPercent := by
    decide +kernel
  exact .created made

def twoPercentBuffers : Buffers where
  rows := [twoPercent]
  cached _ := none
  rows_configured row member := by
    rw [List.mem_singleton.mp member]
    exact twoPercent_configured
  cached_configured key row member := by
    cases member

theorem dollar_protected :
    let sold := applyBuffer Real.sqrt twoPercentBuffers (fun _ _ => none) 600 "mtn" "USD" "XAF" .sell
    let bought := applyBuffer Real.sqrt twoPercentBuffers (fun _ _ => none) 600 "mtn" "USD" "XAF" .buy
    0 ≤ sold.bufferedRate ∧ (0 < sold.bufferedRate ↔ 1 / 2 / 10 ^ 7 ≤ 600 / (1 + sold.bufferApplied / 100)) ∧
      sold.bufferedRate ≤ 600 + 1 / 2 / 10 ^ 7 ∧ 600 - 1 / 2 / 10 ^ 7 ≤ bought.bufferedRate ∧
      (∀ config, twoPercentBuffers.resolveBuffer "mtn" ("USD" ++ "_" ++ "XAF") = some config →
        config.minBufferPct.value ≤ config.maxBufferPct.value → ∀ direction,
          let applied := (applyBuffer Real.sqrt twoPercentBuffers (fun _ _ => none) 600 "mtn" "USD" "XAF"
            direction).bufferApplied
          (config.minBufferPct.value : ℝ) ≤ applied ∧ applied ≤ config.maxBufferPct.value) ∧
      ∀ amount, 0 ≤ amount → amount * sold.bufferedRate / bought.bufferedRate ≤ amount :=
  buffer_protects twoPercentBuffers (fun _ _ => none) 600 "mtn" "USD" "XAF" (by norm_num)

def noBuffers : Buffers where
  rows := []
  cached _ := none
  rows_configured row member := by
    cases member
  cached_configured key row member := by
    cases member

/-- A rate below half a unit of the seventh place is rounded to zero. -/
theorem tiny_rate_sold_for_nothing : ¬∀ (buffers : Buffers)
    (findRange : String → String → Option (List (HistoricalPrice ℝ))) (rawRate : ℝ)
    (provider fromCurrency toCurrency : String), 0 < rawRate →
      0 < (applyBuffer Real.sqrt buffers findRange rawRate provider fromCurrency toCurrency .sell).bufferedRate := by
  intro every
  have positive := every noBuffers (fun _ _ => none) (1 / 10 ^ 8) "mtn" "XAF" "USD" (by norm_num)
  have large : (1 : ℝ) / 2 / 10 ^ 7 ≤ 1 / 10 ^ 8 / (1 + 0 / 100) := roundPlaces.pos_iff.mp positive
  norm_num at large

end ProxyPay.ExchangeRates
