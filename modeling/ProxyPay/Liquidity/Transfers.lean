import Mathlib

/-! Liquidity transfers between providers. -/

namespace ProxyPay.Liquidity

/-- The providers whose balances can be fetched. -/
inductive ProviderName where
  | mtn
  | airtel
  deriving DecidableEq

def ProviderName.other : ProviderName → ProviderName
  | .mtn => .airtel
  | .airtel => .mtn

/-- How a transfer goes: it is not recorded, it is recorded and completed, its completion fails and it is marked so, or
that fails, too. -/
inductive Outcome where
  | unrecorded
  | completed
  | failed
  | unmarked

inductive Status where
  | pending
  | completed
  | failed

/-- A recorded transfer, and the balances after it. -/
structure Transfer where
  fromProvider : ProviderName
  toProvider : ProviderName
  amount : ℚ
  status : Status
  left : ProviderName → ℚ

structure Run where
  balances : ProviderName → ℚ
  transfers : List Transfer
  rejected : Bool

variable (threshold : ProviderName → ℚ) (outcome : ProviderName → Outcome)

def moved (balances : ProviderName → ℚ) (recipient : ProviderName) (amount : ℚ) : ProviderName → ℚ :=
  fun provider => if provider = recipient then balances provider + amount else balances provider - amount

/-- The body of the loop; the donor is the only other provider. -/
def transferTo (target : ℚ) (run : Run) (recipient : ProviderName) : Run :=
  if run.rejected then run
  else
    let deficit := target - run.balances recipient
    let donor := recipient.other
    let donorSurplus := run.balances donor - threshold donor
    if deficit ≤ 0 ∨ donorSurplus ≤ 0 then run
    else
      let transferAmount := min deficit donorSurplus
      match outcome recipient with
      | .unrecorded => { run with rejected := true }
      | .completed =>
        let balances := moved run.balances recipient transferAmount
        ⟨balances, run.transfers ++ [⟨donor, recipient, transferAmount, .completed, balances⟩], false⟩
      | .failed => { run with transfers := run.transfers ++ [⟨donor, recipient, transferAmount, .failed, run.balances⟩] }
      | .unmarked =>
        ⟨run.balances, run.transfers ++ [⟨donor, recipient, transferAmount, .pending, run.balances⟩], true⟩

/-- Without both balances nothing is done. -/
def runLiquidityRebalance (fetched : ProviderName → Option ℚ) : Option Run := do
  let mtn ← fetched .mtn
  let airtel ← fetched .airtel
  let balances : ProviderName → ℚ := fun | .mtn => mtn | .airtel => airtel
  let low := [ProviderName.mtn, .airtel].filter fun provider => balances provider < threshold provider
  return low.foldl (transferTo threshold outcome ((mtn + airtel) * (1 / 2))) ⟨balances, [], false⟩

/-- `fetchBalance(provider)` -/
def fetchBalance (fetched : ProviderName → Option ℚ) (provider : String) : Option ℚ :=
  if provider = "mtn" then fetched .mtn else if provider = "airtel" then fetched .airtel else none

/-- What a manual transfer is recorded as. -/
structure ManualTransfer where
  fromProvider : String
  toProvider : String
  amount : ℚ
  deriving DecidableEq

/-- The transfer, unless the call throws. -/
def triggerManualTransfer (fetched : ProviderName → Option ℚ) (getThreshold : String → ℚ) (outcome : Outcome)
    (fromProvider toProvider : String) (amount : ℚ) : Option ManualTransfer :=
  match fetchBalance fetched fromProvider with
  | none => none
  | some balance =>
    if balance - amount < getThreshold fromProvider then none
    else match outcome with
      | .completed => some ⟨fromProvider, toProvider, amount⟩
      | .unrecorded | .failed | .unmarked => none

/-- The route: missing values, equal providers and amounts that are not positive are refused. -/
def postTransfer (fetched : ProviderName → Option ℚ) (getThreshold : String → ℚ) (outcome : Outcome)
    (fromProvider toProvider : String) (amount : ℚ) : Option ManualTransfer :=
  if fromProvider = "" ∨ toProvider = "" ∨ amount = 0 then none
  else if fromProvider = toProvider then none
  else if amount ≤ 0 then none
  else triggerManualTransfer fetched getThreshold outcome fromProvider toProvider amount

/-- A positive amount goes to another provider; the donor keeps its threshold, and the recipient stays within the half. -/
structure Transfer.Sound (total : ℚ) (transfer : Transfer) : Prop where
  positive : 0 < transfer.amount
  different : transfer.fromProvider ≠ transfer.toProvider
  donor : threshold transfer.fromProvider ≤ transfer.left transfer.fromProvider
  recipient : transfer.left transfer.toProvider ≤ total * (1 / 2)

structure Sound (total : ℚ) (run : Run) : Prop where
  conserved : run.balances .mtn + run.balances .airtel = total
  transfers : ∀ transfer ∈ run.transfers, transfer.Sound threshold total

variable {threshold outcome}

theorem Sound.transferTo {total : ℚ} {run : Run} (sound : Sound threshold total run) (recipient : ProviderName) :
    Sound threshold total (transferTo threshold outcome (total * (1 / 2)) run recipient) := by
  have different : recipient.other ≠ recipient := by cases recipient <;> decide
  unfold Liquidity.transferTo
  split
  · exact sound
  · dsimp only
    split
    · exact sound
    · rename_i room
      obtain ⟨deficit, surplus⟩ := not_or.mp room
      rw [not_le] at deficit surplus
      have positive := lt_min deficit surplus
      obtain ⟨within, kept⟩ := le_min_iff.mp (le_refl (min (total * (1 / 2) - run.balances recipient)
        (run.balances recipient.other - threshold recipient.other)))
      generalize min (total * (1 / 2) - run.balances recipient) (run.balances recipient.other - threshold recipient.other) =
        amount at *
      have one_more (status : Status) (left : ProviderName → ℚ) (donor : threshold recipient.other ≤ left recipient.other)
          (half : left recipient ≤ total * (1 / 2)) : ∀ transfer ∈ run.transfers ++
            [⟨recipient.other, recipient, amount, status, left⟩], transfer.Sound threshold total := by
        intro transfer member
        rcases List.mem_append.mp member with earlier | now
        · exact sound.transfers transfer earlier
        · obtain rfl := List.mem_singleton.mp now
          exact ⟨positive, different, donor, half⟩
      cases outcome recipient with
      | unrecorded => exact ⟨sound.conserved, sound.transfers⟩
      | completed =>
        refine ⟨?_, one_more _ _ ?_ ?_⟩
        · have same := sound.conserved
          cases recipient <;> simp [moved] <;> linarith
        · simp only [moved, if_neg different]
          linarith
        · simp only [moved, if_true]
          linarith
      | failed => exact ⟨sound.conserved, one_more _ _ (by linarith) (by linarith)⟩
      | unmarked => exact ⟨sound.conserved, one_more _ _ (by linarith) (by linarith)⟩

end ProxyPay.Liquidity
