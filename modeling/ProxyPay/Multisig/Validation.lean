import Mathlib.Algebra.Order.BigOperators.Group.List
import Mathlib.Data.List.Nodup
import Mathlib.Tactic.Linarith
import ProxyPay.Library.Total

/-! `multisigValidator`: the check of the weights and thresholds of an account, and the weight of a list of signatures.
Numbers are exact. -/

namespace ProxyPay.Multisig

open ProxyPay.Library

structure SignerConfig where
  publicKey : String
  weight : ℚ
  deriving DecidableEq

structure MultisigThresholdConfig where
  low : ℚ
  medium : ℚ
  high : ℚ

structure ValidationResult where
  valid : Bool
  errors : List String
  warnings : List String
  totalWeight : ℚ
  thresholds : MultisigThresholdConfig

/-- The keys that occur before. -/
def duplicateKeys (signers : List SignerConfig) : List String :=
  let keys := signers.map SignerConfig.publicKey
  (keys.zipIdx.filter fun numbered => keys.idxOf numbered.1 ≠ numbered.2).map Prod.fst

/-- The check of an account; `print` writes a number. -/
def validateMultisigThresholds (print : ℚ → String) (masterWeight : ℚ) (signers : List SignerConfig)
    (thresholds : MultisigThresholdConfig) : ValidationResult :=
  let totalWeight := masterWeight + (signers.map SignerConfig.weight).sum
  let maxThreshold := max thresholds.low (max thresholds.medium thresholds.high)
  let errors :=
    (if totalWeight ≤ 0 then ["Total weight of all signers must be greater than zero"] else []) ++
    (if totalWeight < maxThreshold then
      ["Highest threshold (" ++ print maxThreshold ++ ") exceeds total available weight (" ++ print totalWeight ++
        "). Transactions at this level would be impossible to sign."] else []) ++
    (if totalWeight < thresholds.low then
      ["Low threshold (" ++ print thresholds.low ++ ") exceeds total weight (" ++ print totalWeight ++ ")"] else []) ++
    (if totalWeight < thresholds.medium then
      ["Medium threshold (" ++ print thresholds.medium ++ ") exceeds total weight (" ++ print totalWeight ++ ")"]
      else []) ++
    (if totalWeight < thresholds.high then
      ["High threshold (" ++ print thresholds.high ++ ") exceeds total weight (" ++ print totalWeight ++ ")"] else []) ++
    (if duplicateKeys signers ≠ [] then
      ["Duplicate signer keys found: " ++ ", ".intercalate (duplicateKeys signers)] else []) ++
    (if signers = [] ∧ masterWeight < thresholds.low then
      ["No additional signers configured and master weight (" ++ print masterWeight ++ ") is below low threshold (" ++
        print thresholds.low ++ ")"] else [])
  let warnings :=
    (if masterWeight ≤ 0 then
      ["Master key weight is zero — the account cannot be controlled by the master key alone"] else []) ++
    (if thresholds.medium < thresholds.low then
      ["Low threshold is greater than medium threshold — this is unusual"] else []) ++
    (if thresholds.high < thresholds.medium then
      ["Medium threshold is greater than high threshold — this is unusual"] else [])
  { valid := errors.isEmpty, errors, warnings, totalWeight, thresholds }

def calculateSignatureWeight (signatures : List String) (signers : List SignerConfig) (serverPublicKey : String) : ℚ :=
  signatures.foldl (fun weight signature =>
    match signers.find? fun signer => signer.publicKey = signature with
    | some signer => if signer.publicKey ≠ serverPublicKey then weight + signer.weight else weight
    | none => weight) 0

inductive OperationType where
  | low
  | medium
  | high
  /-- Any other text. -/
  | other

def meetsThreshold (signatureWeight : ℚ) (operationType : OperationType) (thresholds : MultisigThresholdConfig) : Bool :=
  match operationType with
  | .low => thresholds.low ≤ signatureWeight
  | .medium => thresholds.medium ≤ signatureWeight
  | .high => thresholds.high ≤ signatureWeight
  | .other => false

/-! The weight of a list of signatures, by signers. -/

/-- The weight of the distinct signers other than the server that occur among the signatures. -/
def distinctWeight (signatures : List String) (signers : List SignerConfig) (serverPublicKey : String) : ℚ :=
  total SignerConfig.weight (fun signer => signer.publicKey ∈ signatures && signer.publicKey ≠ serverPublicKey) signers

/-- What a signature of the signer adds. -/
def countedWeight (serverPublicKey : String) (signer : SignerConfig) : ℚ :=
  if signer.publicKey ≠ serverPublicKey then signer.weight else 0

/-- The weight of the signatures that repeat an earlier one. -/
def repeatedWeight (signatures : List String) (signers : List SignerConfig) (serverPublicKey : String) : ℚ :=
  (signers.map fun signer =>
    (signatures.count signer.publicKey - 1) • countedWeight serverPublicKey signer).sum

variable {print : ℚ → String} {masterWeight : ℚ} {signers : List SignerConfig} {thresholds : MultisigThresholdConfig}
variable {signatures : List String} {serverPublicKey : String}

theorem nodup_of_idxOf {keys : List String} (first : ∀ index key, keys[index]? = some key → keys.idxOf key = index) :
    keys.Nodup := by
  rw [List.nodup_iff_getElem?_ne_getElem?]
  intro index later before bound same
  have found := List.getElem?_eq_getElem (before.trans bound)
  have earliest := first index _ found
  have latest := first later _ (same ▸ found)
  omega

theorem nodup_of_valid (valid : (validateMultisigThresholds print masterWeight signers thresholds).valid = true) :
    (signers.map SignerConfig.publicKey).Nodup := by
  have distinct : duplicateKeys signers = [] := by simp_all [validateMultisigThresholds, List.isEmpty_iff, List.append_eq_nil_iff]
  apply nodup_of_idxOf
  intro index key found
  by_contra different
  have listed : (key, index) ∈ (signers.map SignerConfig.publicKey).zipIdx := List.mem_zipIdx_iff_getElem?.mpr found
  have kept : key ∈ duplicateKeys signers :=
    List.mem_map.mpr ⟨(key, index), List.mem_filter.mpr ⟨listed, decide_eq_true different⟩, rfl⟩
  rw [distinct] at kept
  cases kept

theorem calculateSignatureWeight_eq_sum : calculateSignatureWeight signatures signers serverPublicKey =
      (signatures.map (looked SignerConfig.publicKey (countedWeight serverPublicKey) signers)).sum := by
  have step (weight : ℚ) (signature : String) :
      (match signers.find? fun signer => signer.publicKey = signature with
        | some signer => if signer.publicKey ≠ serverPublicKey then weight + signer.weight else weight
        | none => weight) = weight + looked SignerConfig.publicKey (countedWeight serverPublicKey) signers signature := by
    unfold looked countedWeight
    cases signers.find? fun signer => signer.publicKey = signature with
    | none => simp
    | some signer => grind
  unfold calculateSignatureWeight
  simp only [step]
  rw [List.sum_eq_foldl, List.foldl_map]

theorem distinctWeight_eq_sum : distinctWeight signatures signers serverPublicKey =
      (signers.map fun signer => if signer.publicKey ∈ signatures then countedWeight serverPublicKey signer else 0).sum := by
  unfold distinctWeight countedWeight
  induction signers with
  | nil => rfl
  | cons signer signers ih => grind [total_cons, List.map_cons, List.sum_cons]

theorem calculateSignatureWeight_eq (distinct : (signers.map SignerConfig.publicKey).Nodup) :
    calculateSignatureWeight signatures signers serverPublicKey =
      distinctWeight signatures signers serverPublicKey + repeatedWeight signatures signers serverPublicKey := by
  rw [calculateSignatureWeight_eq_sum, sum_looked _ _ distinct, distinctWeight_eq_sum, repeatedWeight, ← List.sum_map_add]
  apply congrArg List.sum
  apply List.map_congr_left
  intro signer _
  by_cases member : signer.publicKey ∈ signatures
  · have once := List.count_pos_iff.mpr member
    rw [if_pos member, ← succ_nsmul', Nat.sub_add_cancel once]
  · rw [if_neg member, List.count_eq_zero_of_not_mem member]
    simp

theorem repeatedWeight_eq_zero (nonneg : ∀ signer ∈ signers, 0 ≤ signer.weight) :
    repeatedWeight signatures signers serverPublicKey = 0 ↔
      ∀ signer ∈ signers, signer.publicKey ≠ serverPublicKey → signer.weight ≠ 0 →
        signatures.count signer.publicKey ≤ 1 := by
  have counted_nonneg : ∀ signer ∈ signers, 0 ≤ countedWeight serverPublicKey signer := by grind [countedWeight]
  have adds_nonneg : ∀ weight ∈ signers.map fun signer =>
      (signatures.count signer.publicKey - 1) • countedWeight serverPublicKey signer, 0 ≤ weight := by
    intro weight member
    obtain ⟨signer, listed, rfl⟩ := List.mem_map.mp member
    exact nsmul_nonneg (counted_nonneg signer listed) _
  have term_zero (signer : SignerConfig) :
      (signatures.count signer.publicKey - 1) • countedWeight serverPublicKey signer = 0 ↔
        (signer.publicKey ≠ serverPublicKey → signer.weight ≠ 0 → signatures.count signer.publicKey ≤ 1) := by
    rw [nsmul_eq_mul, mul_eq_zero, Nat.cast_eq_zero, Nat.sub_eq_zero_iff_le]
    unfold countedWeight
    by_cases server : signer.publicKey = serverPublicKey
    · simp [server]
    · grind
  constructor
  · intro none_repeated signer member
    apply (term_zero signer).mp
    exact List.all_zero_of_le_zero_le_of_sum_eq_zero adds_nonneg none_repeated
      (List.mem_map.mpr ⟨signer, member, rfl⟩)
  · intro once
    apply List.sum_eq_zero
    intro weight member
    obtain ⟨signer, listed, rfl⟩ := List.mem_map.mp member
    exact (term_zero signer).mpr (once signer listed)

/-- The threshold of an operation; none of any other text. -/
def MultisigThresholdConfig.required (thresholds : MultisigThresholdConfig) : OperationType → Option ℚ
  | .low => some thresholds.low
  | .medium => some thresholds.medium
  | .high => some thresholds.high
  | .other => none

/-- For signers that pass the check, the weight of the signatures is that of the distinct signers exactly if the repeated
signatures have no weight in sum, which without negative weights means that no signer with a weight signs twice. Then an
operation is let through only for distinct signers of its threshold. -/
theorem signature_weight_distinct_iff (print : ℚ → String) (masterWeight : ℚ) (signers : List SignerConfig)
    (thresholds : MultisigThresholdConfig) (signatures : List String) (serverPublicKey : String)
    (valid : (validateMultisigThresholds print masterWeight signers thresholds).valid = true) :
    ((calculateSignatureWeight signatures signers serverPublicKey = distinctWeight signatures signers serverPublicKey ∧
        ∀ operation required, thresholds.required operation = some required →
          meetsThreshold (calculateSignatureWeight signatures signers serverPublicKey) operation thresholds = true →
            required ≤ distinctWeight signatures signers serverPublicKey) ↔
      repeatedWeight signatures signers serverPublicKey = 0) ∧
    ((∀ signer ∈ signers, 0 ≤ signer.weight) → (repeatedWeight signatures signers serverPublicKey = 0 ↔
        ∀ signer ∈ signers, signer.publicKey ≠ serverPublicKey → signer.weight ≠ 0 →
          signatures.count signer.publicKey ≤ 1)) := by
  have weight := @calculateSignatureWeight_eq signers signatures serverPublicKey (nodup_of_valid valid)
  refine ⟨?_, repeatedWeight_eq_zero⟩
  constructor
  · rintro ⟨same, -⟩
    linarith
  · intro none_repeated
    have same : calculateSignatureWeight signatures signers serverPublicKey =
        distinctWeight signatures signers serverPublicKey := by
      linarith
    refine ⟨same, ?_⟩
    intro operation required threshold met
    rw [same] at met
    cases operation with
    | other => cases threshold
    | low | medium | high =>
      cases threshold
      exact of_decide_eq_true met

/-- Two signers, of whom one signs twice. -/
def twoSigners : List SignerConfig := [⟨"GA", 1⟩, ⟨"GB", 1⟩]

def bothRequired : MultisigThresholdConfig where
  low := 1
  medium := 2
  high := 2

theorem twoSigners_weighed :
    ((calculateSignatureWeight ["GA", "GB"] twoSigners "SERVER" = distinctWeight ["GA", "GB"] twoSigners "SERVER" ∧
        ∀ operation required, bothRequired.required operation = some required →
          meetsThreshold (calculateSignatureWeight ["GA", "GB"] twoSigners "SERVER") operation bothRequired = true →
            required ≤ distinctWeight ["GA", "GB"] twoSigners "SERVER") ↔
      repeatedWeight ["GA", "GB"] twoSigners "SERVER" = 0) ∧
    ((∀ signer ∈ twoSigners, 0 ≤ signer.weight) → (repeatedWeight ["GA", "GB"] twoSigners "SERVER" = 0 ↔
        ∀ signer ∈ twoSigners, signer.publicKey ≠ "SERVER" → signer.weight ≠ 0 →
          ["GA", "GB"].count signer.publicKey ≤ 1)) :=
  signature_weight_distinct_iff (fun _ => "") 1 twoSigners bothRequired ["GA", "GB"] "SERVER" (by decide +kernel)

/-- One signer that signs twice meets a threshold that needs both. -/
theorem one_signer_counted_twice : ¬∀ (print : ℚ → String) (masterWeight : ℚ) (signers : List SignerConfig)
    (thresholds : MultisigThresholdConfig) (signatures : List String) (serverPublicKey : String),
    (validateMultisigThresholds print masterWeight signers thresholds).valid = true →
      calculateSignatureWeight signatures signers serverPublicKey = distinctWeight signatures signers serverPublicKey := by
  intro every
  have same := every (fun _ => "") 1 twoSigners bothRequired ["GA", "GA"] "SERVER" (by decide +kernel)
  have different : calculateSignatureWeight ["GA", "GA"] twoSigners "SERVER" ≠
      distinctWeight ["GA", "GA"] twoSigners "SERVER" := by
    decide +kernel
  exact different same

/-- The order of the signatures is of no account, and no threshold of a valid account is out of reach: the master key, the
server's key and one signature of each other signer have its weight. -/
theorem thresholds_in_reach (print : ℚ → String) (masterWeight : ℚ) (signers : List SignerConfig)
    (thresholds : MultisigThresholdConfig) (serverPublicKey : String)
    (valid : (validateMultisigThresholds print masterWeight signers thresholds).valid = true) :
    (∀ signatures others : List String, signatures.Perm others →
        calculateSignatureWeight signatures signers serverPublicKey = calculateSignatureWeight others signers serverPublicKey) ∧
      ∀ operation required, thresholds.required operation = some required →
        required ≤ masterWeight + total SignerConfig.weight (fun signer => signer.publicKey = serverPublicKey) signers +
          calculateSignatureWeight (signers.map SignerConfig.publicKey) signers serverPublicKey := by
  constructor
  · intro signatures others same
    rw [calculateSignatureWeight_eq_sum, calculateSignatureWeight_eq_sum]
    exact (same.map _).sum_eq
  · have distinct := nodup_of_valid valid
    have all : calculateSignatureWeight (signers.map SignerConfig.publicKey) signers serverPublicKey =
        (signers.map (countedWeight serverPublicKey)).sum := by
      rw [calculateSignatureWeight_eq_sum, sum_looked _ _ distinct]
      apply congrArg List.sum
      apply List.map_congr_left
      intro signer member
      rw [List.count_eq_one_of_mem distinct (List.mem_map_of_mem member), one_nsmul]
    have split (signers : List SignerConfig) : (signers.map SignerConfig.weight).sum =
        total SignerConfig.weight (fun signer => signer.publicKey = serverPublicKey) signers +
          (signers.map (countedWeight serverPublicKey)).sum := by
      induction signers with
      | nil => simp
      | cons signer signers ih => grind [total_cons, countedWeight]
    have enough : max thresholds.low (max thresholds.medium thresholds.high) ≤
        masterWeight + (signers.map SignerConfig.weight).sum := by
      simp only [validateMultisigThresholds, List.isEmpty_iff, List.append_eq_nil_iff] at valid
      grind
    rw [all, add_assoc, ← split]
    intro operation required threshold
    cases operation <;> cases threshold <;> grind

theorem twoSigners_in_reach : (∀ signatures others : List String, signatures.Perm others →
      calculateSignatureWeight signatures twoSigners "SERVER" = calculateSignatureWeight others twoSigners "SERVER") ∧
    ∀ operation required, bothRequired.required operation = some required →
      required ≤ 1 + total SignerConfig.weight (fun signer => signer.publicKey = "SERVER") twoSigners +
        calculateSignatureWeight (twoSigners.map SignerConfig.publicKey) twoSigners "SERVER" :=
  thresholds_in_reach (fun _ => "") 1 twoSigners bothRequired "SERVER" (by decide +kernel)

end ProxyPay.Multisig
