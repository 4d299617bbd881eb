import ProxyPay.Library.DecimalText
import ProxyPay.Library.Fallible

/-! Firm quotes: which requests are accepted, and when the amounts of a quote fit its price. Numbers are exact. -/

namespace ProxyPay.Sep38

open ProxyPay.Library ProxyPay.Library.DecimalText

/-- A number of a body; `String` writes it as a decimal. -/
structure Numeric where
  value : ℚ
  text : String
  reads : readDecimal text = some value

/-- An amount of a body. -/
inductive AmountRaw where
  | text (value : String)
  | number (value : Numeric)
  /-- Neither a text nor a finite number. -/
  | other

/-- `String(value)` -/
def AmountRaw.toText : AmountRaw → String
  | .text value => value
  | .number value => value.text
  | .other => ""

inductive TtlRaw where
  | number (value : ℚ)
  /-- Any other value, as `String` writes it. -/
  | other (text : String)

/-- A body; an amount that is undefined is none. -/
structure QuoteRequest where
  sell_asset : Option String
  buy_asset : Option String
  sell_amount : Option AmountRaw
  buy_amount : Option AmountRaw
  ttl : TtlRaw

structure RateResult where
  price : Numeral
  fee_percent : Numeral
  fee_fixed : Numeral

structure Sep38Quote where
  id : String
  expires_at : ℤ
  sell_asset : String
  buy_asset : String
  sell_amount : String
  buy_amount : String
  price : Numeral
  fee_percent : Numeral
  fee_fixed : Numeral
  created_at : ℤ

def AMOUNT_PRECISION : ℕ := 7

def DEFAULT_TTL_SECONDS : ℤ := 60

def MAX_TTL_SECONDS : ℤ := 300

def parsePositiveAmount : AmountRaw → Option ℚ
  | .text value => (parseFloat value).filter fun parsed => 0 < parsed
  | .number value => if 0 < value.value then some value.value else none
  | .other => none

def normalizeTtl : TtlRaw → ℤ
  | .number parsed => if parsed ≤ 0 then DEFAULT_TTL_SECONDS else min ⌊parsed⌋ MAX_TTL_SECONDS
  | .other text =>
    match Text.parseInt text with
    | none => DEFAULT_TTL_SECONDS
    | some parsed => if parsed ≤ 0 then DEFAULT_TTL_SECONDS else min parsed MAX_TTL_SECONDS

/-- The status and the message of an answer without a quote. -/
structure Refusal where
  status : ℕ
  error : String
  deriving DecidableEq

/-- A supplied amount that is not positive is refused. -/
def readAmount (error : String) : Option AmountRaw → Except Refusal (Option ℚ)
  | none => .ok none
  | some raw =>
    match parsePositiveAmount raw with
    | none => .error ⟨400, error⟩
    | some amount => .ok (some amount)

def RateResult.feeMultiplier (rate : RateResult) : ℚ := 1 - rate.fee_percent.value / 100

/-- What a sell amount buys. -/
def RateResult.bought (rate : RateResult) (sellAmount : ℚ) : ℚ :=
  (sellAmount - rate.fee_fixed.value) * rate.feeMultiplier * rate.price.value

/-- What a buy amount costs. -/
def RateResult.sold (rate : RateResult) (buyAmount : ℚ) : ℚ :=
  buyAmount / rate.price.value / rate.feeMultiplier + rate.fee_fixed.value

/-- `value.toFixed(AMOUNT_PRECISION)` -/
def fixedText (value : ℚ) : String := String.ofList (Numeral.fixed AMOUNT_PRECISION value).text

/-- An amount of the quote: as the client supplied it, or else derived. -/
def amountText (raw : Option AmountRaw) (value : ℚ) : String :=
  match raw with
  | some raw => raw.toText
  | none => fixedText value

/-- The two amounts of a quote as numbers; of none that is supplied there is no quote. -/
def amounts (rate : RateResult) : Option ℚ → Option ℚ → Option (ℚ × ℚ)
  | some sellAmount, _ => some (sellAmount, rate.bought sellAmount)
  | none, some buyAmount => some (rate.sold buyAmount, buyAmount)
  | none, none => none

variable (getFirmPrice : String → String → Option RateResult) (now : ℤ) (id : String)

def missing : String :=
  "Missing required parameters: sell_asset, buy_asset and one of sell_amount or buy_amount"

/-- `POST /quote` -/
def postQuote (body : QuoteRequest) : Except Refusal Sep38Quote := do
  let sellAsset ← orThrow ⟨400, missing⟩ body.sell_asset
  let buyAsset ← orThrow ⟨400, missing⟩ body.buy_asset
  require (body.sell_amount.isSome ∨ body.buy_amount.isSome) ⟨400, missing⟩
  let sellAmount ← readAmount "sell_amount must be a positive number" body.sell_amount
  let buyAmount ← readAmount "buy_amount must be a positive number" body.buy_amount
  let rate ← orThrow ⟨400, "Unsupported asset pair: " ++ sellAsset ++ " -> " ++ buyAsset⟩
    (getFirmPrice sellAsset buyAsset)
  require (0 < rate.price.value ∧ 0 < rate.feeMultiplier) ⟨500, "Unable to generate quote"⟩
  let (sellValue, buyValue) ← orThrow ⟨400, missing⟩ (amounts rate sellAmount buyAmount)
  require (0 < buyValue ∧ 0 < sellValue) ⟨400, "Amount is too small to cover the quote fees"⟩
  let ttlSeconds := normalizeTtl body.ttl
  return {
    id
    expires_at := now + ttlSeconds * 1000
    sell_asset := sellAsset
    buy_asset := buyAsset
    sell_amount := amountText body.sell_amount sellValue
    buy_amount := amountText body.buy_amount buyValue
    price := rate.price
    fee_percent := rate.fee_percent
    fee_fixed := rate.fee_fixed
    created_at := now }

/-- The amounts are positive decimals that fit the price to seven places, and the quote lasts from one second to five
minutes. -/
structure Priced (quote : Sep38Quote) (sell buy : ℚ) : Prop where
  sell_read : readDecimal quote.sell_amount = some sell
  buy_read : readDecimal quote.buy_amount = some buy
  sell_pos : 0 < sell
  buy_pos : 0 < buy
  fits : |buy - (sell - quote.fee_fixed.value) * (1 - quote.fee_percent.value / 100) * quote.price.value| ≤
    1 / 10 ^ 7 * (1 + quote.price.value)
  lasts : ∃ seconds : ℤ, quote.expires_at - quote.created_at = seconds * 1000 ∧ 1 ≤ seconds ∧ seconds ≤ 300

/-! What makes a quote priced. -/

/-- Every supplied amount is a decimal throughout. -/
def Spelled (raw : Option AmountRaw) : Prop := ∀ supplied ∈ raw, (readDecimal supplied.toText).isSome = true

/-- One amount is large enough for the other one to be positive to seven places, or two supplied amounts fit. -/
def AmountsFit (rate : RateResult) : Option ℚ → Option ℚ → Prop
  | some sell, some buy => |buy - rate.bought sell| ≤ 1 / 10 ^ 7 * (1 + rate.price.value)
  | some sell, none => 1 / 2 / 10 ^ 7 ≤ rate.bought sell
  | none, some buy => 1 / 2 / 10 ^ 7 ≤ rate.sold buy ∧
    |toFixed 7 (rate.sold buy) - rate.sold buy| * (rate.feeMultiplier * rate.price.value) ≤
      1 / 10 ^ 7 * (1 + rate.price.value)
  | none, none => False

/-- The number that the router reads of a supplied amount. -/
def parsedAmount (raw : Option AmountRaw) : Option ℚ := raw.bind parsePositiveAmount

structure PricedWhen (body : QuoteRequest) (rate : RateResult) : Prop where
  sell_spelled : Spelled body.sell_amount
  buy_spelled : Spelled body.buy_amount
  fit : AmountsFit rate (parsedAmount body.sell_amount) (parsedAmount body.buy_amount)
  ttl : ∀ seconds, body.ttl = .number seconds → seconds ≤ 0 ∨ 1 ≤ seconds

theorem normalizeTtl_iff (ttl : TtlRaw) :
    (1 ≤ normalizeTtl ttl ∧ normalizeTtl ttl ≤ 300) ↔ ∀ seconds, ttl = .number seconds → seconds ≤ 0 ∨ 1 ≤ seconds := by
  cases ttl with
  | number parsed =>
    have floor : 1 ≤ ⌊parsed⌋ ↔ 1 ≤ parsed := by
      rw [Int.le_floor, Int.cast_one]
    simp only [normalizeTtl, DEFAULT_TTL_SECONDS, MAX_TTL_SECONDS, TtlRaw.number.injEq, forall_eq']
    rw [← floor]
    split
    · rename_i none_given
      simp [none_given]
    · simp_all
  | other text =>
    simp only [normalizeTtl, DEFAULT_TTL_SECONDS, MAX_TTL_SECONDS, reduceCtorEq, false_implies, implies_true, iff_true]
    split
    · decide
    · omega

variable {amount value : ℚ} {raw : AmountRaw}

theorem read_supplied (parsed : parsePositiveAmount raw = some amount) :
    readDecimal raw.toText = some value ↔ (readDecimal raw.toText).isSome = true ∧ value = amount := by
  have same (other : ℚ) (read : readDecimal raw.toText = some other) : other = amount := by
    cases raw with
    | text text =>
      change readDecimal text = some other at read
      rw [parsePositiveAmount, parseFloat_of_readDecimal read, Option.filter_eq_some_iff] at parsed
      exact Option.some.inj parsed.1
    | number number =>
      rw [AmountRaw.toText, number.reads] at read
      rw [parsePositiveAmount] at parsed
      split at parsed
      · exact (Option.some.inj read).symm.trans (Option.some.inj parsed)
      · cases parsed
    | other => cases parsed
  constructor
  · simp_all
  · rintro ⟨some_value, rfl⟩
    obtain ⟨other, read⟩ := Option.isSome_iff_exists.mp some_value
    rw [read, same other read]

theorem amount_pos (parsed : parsePositiveAmount raw = some amount) : 0 < amount := by
  cases raw with
  | text text => exact of_decide_eq_true (Option.filter_eq_some_iff.mp parsed).2
  | number number => grind [parsePositiveAmount]
  | other => cases parsed

theorem read_fixedText {number : ℚ} : readDecimal (fixedText number) = some value ↔ value = toFixed 7 number := by
  rw [fixedText, readDecimal_text, Numeral.value_fixed, Option.some.injEq, eq_comm]
  rfl

/-- What an accepted request has been checked for. -/
structure Accepted (body : QuoteRequest) (quote : Sep38Quote) (rate : RateResult) (sellValue buyValue : ℚ) : Prop where
  firm : ∃ sellAsset buyAsset, body.sell_asset = some sellAsset ∧ body.buy_asset = some buyAsset ∧
    getFirmPrice sellAsset buyAsset = some rate
  sell_positive : ∀ raw ∈ body.sell_amount, ∃ amount, parsePositiveAmount raw = some amount
  buy_positive : ∀ raw ∈ body.buy_amount, ∃ amount, parsePositiveAmount raw = some amount
  price_pos : 0 < rate.price.value
  multiplier_pos : 0 < rate.feeMultiplier
  values : amounts rate (parsedAmount body.sell_amount) (parsedAmount body.buy_amount) = some (sellValue, buyValue)
  buy_pos : 0 < buyValue
  sell_pos : 0 < sellValue
  made : quote = {
    id
    expires_at := now + normalizeTtl body.ttl * 1000
    sell_asset := body.sell_asset.getD ""
    buy_asset := body.buy_asset.getD ""
    sell_amount := amountText body.sell_amount sellValue
    buy_amount := amountText body.buy_amount buyValue
    price := rate.price
    fee_percent := rate.fee_percent
    fee_fixed := rate.fee_fixed
    created_at := now }

theorem readAmount_ok {error : String} {raw : Option AmountRaw} {amount : Option ℚ} :
    readAmount error raw = .ok amount ↔
      amount = parsedAmount raw ∧ ∀ supplied ∈ raw, ∃ value, parsePositiveAmount supplied = some value := by
  cases raw with
  | none => simp [readAmount, parsedAmount, eq_comm]
  | some raw =>
    cases parsed : parsePositiveAmount raw with
    | none => simp [readAmount, parsedAmount, parsed]
    | some value => simp [readAmount, parsedAmount, parsed, eq_comm]

theorem accepted_of_quoted {body : QuoteRequest} {quote : Sep38Quote}
    (quoted : postQuote getFirmPrice now id body = .ok quote) :
    ∃ rate sellValue buyValue, Accepted getFirmPrice now id body quote rate sellValue buyValue := by
  simp only [postQuote, bind_ok, orThrow_ok, require_ok, readAmount_ok] at quoted
  obtain ⟨sellAsset, sell_asset, buyAsset, buy_asset, -, -, _, ⟨rfl, sell_positive⟩, _, ⟨rfl, buy_positive⟩, rate, firm, -,
    ⟨price_pos, multiplier_pos⟩, ⟨sellValue, buyValue⟩, values, -, ⟨buy_pos, sell_pos⟩, made⟩ := quoted
  refine ⟨rate, sellValue, buyValue, ⟨sellAsset, buyAsset, sell_asset, buy_asset, firm⟩, sell_positive, buy_positive,
    price_pos, multiplier_pos, values, buy_pos, sell_pos, ?_⟩
  rw [sell_asset, buy_asset]
  exact (Except.ok.inj made).symm

theorem read_amountText {raw : Option AmountRaw}
    (positive : ∀ supplied ∈ raw, ∃ parsed, parsePositiveAmount supplied = some parsed) :
    readDecimal (amountText raw value) = some amount ↔
      Spelled raw ∧ amount = (parsedAmount raw).getD (toFixed 7 value) := by
  cases raw with
  | none => simp [amountText, read_fixedText, Spelled, parsedAmount]
  | some raw =>
    obtain ⟨parsed, read⟩ := positive raw rfl
    rw [amountText, read_supplied read]
    simp [Spelled, parsedAmount, read]

/-- Two amounts as they are read again: positive, and they fit the price. -/
structure Fitting (rate : RateResult) (sell buy : ℚ) : Prop where
  sell_pos : 0 < sell
  buy_pos : 0 < buy
  fits : |buy - rate.bought sell| ≤ 1 / 10 ^ 7 * (1 + rate.price.value)

variable {rate : RateResult}

theorem RateResult.bought_sold (price_pos : 0 < rate.price.value)
    (multiplier_pos : 0 < rate.feeMultiplier) (buy : ℚ) : rate.bought (rate.sold buy) = buy := by
  have price := price_pos.ne'
  have multiplier := multiplier_pos.ne'
  unfold RateResult.bought RateResult.sold
  field_simp
  ring

theorem fitting_iff {sellAmount buyAmount : Option ℚ} {sellValue buyValue : ℚ}
    (price_pos : 0 < rate.price.value) (multiplier_pos : 0 < rate.feeMultiplier)
    (values : amounts rate sellAmount buyAmount = some (sellValue, buyValue)) (sell_pos : 0 < sellValue)
    (buy_pos : 0 < buyValue) (supplied_pos : ∀ amount ∈ buyAmount, 0 < amount) :
    Fitting rate (sellAmount.getD (toFixed 7 sellValue)) (buyAmount.getD (toFixed 7 buyValue)) ↔
      AmountsFit rate sellAmount buyAmount := by
  cases sellAmount with
  | some sell =>
    cases values
    cases buyAmount with
    | some buy => exact ⟨Fitting.fits, fun fits => ⟨sell_pos, supplied_pos buy rfl, fits⟩⟩
    | none =>
      have near := toFixed.near 7 (rate.bought sellValue)
      have positive := @toFixed.pos_iff 7 _ buy_pos.le
      constructor
      · intro fitting
        exact positive.mp fitting.buy_pos
      · intro large
        have within : 1 / 2 / 10 ^ 7 ≤ 1 / 10 ^ 7 * (1 + rate.price.value) := by
          norm_num
          linarith
        exact ⟨sell_pos, positive.mpr large, near.trans within⟩
  | none =>
    cases buyAmount with
    | none => cases values
    | some buy =>
      cases values
      have positive := @toFixed.pos_iff 7 _ sell_pos.le
      have error : |buyValue - rate.bought (toFixed 7 (rate.sold buyValue))| =
          |toFixed 7 (rate.sold buyValue) - rate.sold buyValue| * (rate.feeMultiplier * rate.price.value) := by
        have difference : buyValue - rate.bought (toFixed 7 (rate.sold buyValue)) =
            -((toFixed 7 (rate.sold buyValue) - rate.sold buyValue) * (rate.feeMultiplier * rate.price.value)) := by
          have whole := rate.bought_sold price_pos multiplier_pos buyValue
          unfold RateResult.bought at whole ⊢
          linarith
        rw [difference, abs_neg, abs_mul, abs_of_pos (mul_pos multiplier_pos price_pos)]
      constructor
      · intro fitting
        exact ⟨positive.mp fitting.sell_pos, error ▸ fitting.fits⟩
      · intro large
        exact ⟨positive.mpr large.1, buy_pos, error.trans_le large.2⟩

/-- A firm quote is priced exactly if every supplied amount is a decimal throughout, the amounts fit, and the lifetime
is no fraction of a second. -/
theorem quote_priced_iff (body : QuoteRequest) (quote : Sep38Quote)
    (quoted : postQuote getFirmPrice now id body = .ok quote) :
    ∃ rate sellAsset buyAsset, body.sell_asset = some sellAsset ∧ body.buy_asset = some buyAsset ∧
      getFirmPrice sellAsset buyAsset = some rate ∧
      ((∃ sell buy, Priced quote sell buy) ↔ PricedWhen body rate) := by
  obtain ⟨rate, sellValue, buyValue, accepted⟩ := accepted_of_quoted getFirmPrice now id quoted
  obtain ⟨sellAsset, buyAsset, sell_asset, buy_asset, firm⟩ := accepted.firm
  refine ⟨rate, sellAsset, buyAsset, sell_asset, buy_asset, firm, ?_⟩
  have supplied_pos : ∀ amount ∈ parsedAmount body.buy_amount, 0 < amount := by
    intro amount parsed
    obtain ⟨raw, -, positive⟩ := Option.bind_eq_some_iff.mp parsed
    exact amount_pos positive
  have fitting := fitting_iff accepted.price_pos accepted.multiplier_pos accepted.values accepted.sell_pos
    accepted.buy_pos supplied_pos
  have ttl := normalizeTtl_iff body.ttl
  have made := accepted.made
  constructor
  · rintro ⟨sell, buy, priced⟩
    rw [made] at priced
    obtain ⟨sell_spelled, sell_same⟩ := (read_amountText accepted.sell_positive).mp priced.sell_read
    obtain ⟨buy_spelled, buy_same⟩ := (read_amountText accepted.buy_positive).mp priced.buy_read
    obtain ⟨seconds, lasts, least, most⟩ := priced.lasts
    have same : seconds = normalizeTtl body.ttl := by
      change now + normalizeTtl body.ttl * 1000 - now = seconds * 1000 at lasts
      omega
    subst same sell_same buy_same
    exact ⟨sell_spelled, buy_spelled, fitting.mp ⟨priced.sell_pos, priced.buy_pos, priced.fits⟩, ttl.mp ⟨least, most⟩⟩
  · intro condition
    have fits := fitting.mpr condition.fit
    have lasts := ttl.mpr condition.ttl
    rw [made]
    refine ⟨_, _, (read_amountText accepted.sell_positive).mpr ⟨condition.sell_spelled, rfl⟩,
      (read_amountText accepted.buy_positive).mpr ⟨condition.buy_spelled, rfl⟩, fits.sell_pos, fits.buy_pos, fits.fits,
      normalizeTtl body.ttl, ?_, lasts⟩
    change now + normalizeTtl body.ttl * 1000 - now = _
    omega

/-- Two for one, without fees. -/
def twoForOne (_sellAsset _buyAsset : String) : Option RateResult :=
  some { price := Numeral.fixed 7 2, fee_percent := Numeral.fixed 2 0, fee_fixed := Numeral.fixed 7 0 }

/-- Both amounts are supplied, far from the price. -/
def unpriced : QuoteRequest where
  sell_asset := some "stellar:XLM"
  buy_asset := some "iso4217:USD"
  sell_amount := some (.text "100")
  buy_amount := some (.text "1")
  ttl := .other "60"

theorem unpriced_quoted : (postQuote twoForOne 0 "quote" unpriced).toOption.isSome = true := by
  decide +kernel

theorem unpriced_issued : ¬∀ (getFirmPrice : String → String → Option RateResult) (now : ℤ) (id : String)
    (body : QuoteRequest) (quote : Sep38Quote), postQuote getFirmPrice now id body = .ok quote →
      ∃ sell buy, Priced quote sell buy := by
  intro every
  have issued := unpriced_quoted
  cases quoted : postQuote twoForOne 0 "quote" unpriced with
  | error refusal =>
    rw [quoted] at issued
    cases issued
  | ok quote =>
    obtain ⟨sell, buy, priced⟩ := every _ _ _ _ _ quoted
    obtain ⟨rate, sellValue, buyValue, accepted⟩ := accepted_of_quoted twoForOne 0 "quote" quoted
    obtain ⟨_, _, -, -, firm⟩ := accepted.firm
    cases firm
    rw [accepted.made] at priced
    have hundred : readDecimal "100" = some 100 := by decide +kernel
    have one : readDecimal "1" = some 1 := by decide +kernel
    cases hundred.symm.trans priced.sell_read
    cases one.symm.trans priced.buy_read
    have two : (Numeral.fixed 7 2).value = 2 := by decide +kernel
    have none_percent : (Numeral.fixed 2 0).value = 0 := by decide +kernel
    have none_fixed : (Numeral.fixed 7 0).value = 0 := by decide +kernel
    have fits := priced.fits
    simp only [two, none_percent, none_fixed] at fits
    norm_num at fits

/-- A hundred are sold, and what they buy is derived. -/
def sold_hundred : QuoteRequest := { unpriced with buy_amount := none }

theorem hundred_priced : ∃ quote, postQuote twoForOne 0 "quote" sold_hundred = .ok quote ∧
    ∃ rate sellAsset buyAsset, sold_hundred.sell_asset = some sellAsset ∧ sold_hundred.buy_asset = some buyAsset ∧
      twoForOne sellAsset buyAsset = some rate ∧
      ((∃ sell buy, Priced quote sell buy) ↔ PricedWhen sold_hundred rate) := by
  have issued : (postQuote twoForOne 0 "quote" sold_hundred).toOption.isSome = true := by
    decide +kernel
  cases quoted : postQuote twoForOne 0 "quote" sold_hundred with
  | error refusal =>
    rw [quoted] at issued
    cases issued
  | ok quote => exact ⟨quote, rfl, quote_priced_iff twoForOne 0 "quote" sold_hundred quote quoted⟩

end ProxyPay.Sep38
