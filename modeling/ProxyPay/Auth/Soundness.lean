import Mathlib.Algebra.Order.BigOperators.Group.List
import Mathlib.Algebra.Order.Group.Nat
import Mathlib.Data.List.Induction
import Mathlib.Data.List.Nodup
import Mathlib.Data.List.Perm.Subperm
import ProxyPay.Auth.Sep10

/-! A challenge authenticates an account only with the weight that its record asks for, unless the threshold is zero or
a disabled master key makes up for the last unit of weight. -/

namespace ProxyPay.Auth

open ProxyPay.Library

variable {hash server id : String} {transaction : Transaction} {signatures : List Signature}
variable {signers : List SignerInfo} {account : Account id}

/-- The account's signers that made a signature, the server's key apart. -/
def Account.signing (account : Account id) (server : String) (transaction : Transaction) : List Signer :=
  account.signers.filter fun signer =>
    signer.type = "ed25519_public_key" && signer.key ≠ server && transaction.isSignedBy signer.key

/-- Signatures of distinct keys of the account reach the weight that it asks for, as Horizon lists their weights. -/
def Authorised (server : String) (transaction : Transaction) (account : Account id) : Prop :=
  ∃ chosen : List Signer, (chosen.map Signer.key).Nodup ∧
    (∀ signer ∈ chosen, signer ∈ account.signers ∧ signer.type = "ed25519_public_key" ∧ signer.key ≠ server ∧
      transaction.isSignedBy signer.key = true) ∧
    max 1 account.thresholds.med_threshold ≤ (chosen.map Signer.weight).sum

def Account.signedWeight (account : Account id) (server : String) (transaction : Transaction) : ℕ :=
  ((account.signing server transaction).map Signer.weight).sum

/-- A token is issued only for an account that has authorised it. -/
def Sound (server : String) (horizon : Horizon) (now : ℕ) (envelope : Option Transaction) (result : Except String Token) :
    Prop :=
  ∀ token, result = .ok token → ∃ transaction account, envelope = some transaction ∧ horizon token.sub = .ok account ∧
    transaction.isSignedBy server = true ∧
    (∃ minTime maxTime, transaction.timeBounds = some (minTime, maxTime) ∧ minTime ≤ now ∧ now ≤ maxTime) ∧
    Authorised server transaction account

variable {signer : Signer}

theorem mem_signing : signer ∈ account.signing server transaction ↔ signer ∈ account.signers ∧
    signer.type = "ed25519_public_key" ∧ signer.key ≠ server ∧ transaction.isSignedBy signer.key = true := by
  simp [Account.signing, and_assoc]

theorem signing_nodup : ((account.signing server transaction).map Signer.key).Nodup :=
  account.distinct.sublist (List.filter_sublist.map Signer.key)

theorem authorised_iff : Authorised server transaction account ↔
    max 1 account.thresholds.med_threshold ≤ account.signedWeight server transaction := by
  constructor
  · rintro ⟨chosen, distinct, good, enough⟩
    apply Nat.le_trans enough
    have subset : chosen ⊆ account.signing server transaction := fun signer member => (mem_signing).mpr (good signer member)
    obtain ⟨sorted, permutation, sublist⟩ := List.subperm_of_subset (List.Nodup.of_map _ distinct) subset
    rw [← (permutation.map Signer.weight).sum_nat]
    exact (sublist.map Signer.weight).sum_le_sum fun weight _ => Nat.zero_le weight
  · intro enough
    exact ⟨account.signing server transaction, signing_nodup, fun signer member => (mem_signing).mp member, enough⟩

/-- The weight under which a key is counted: that of the first signer with the key. -/
def weightOf (signers : List SignerInfo) (key : String) : ℕ :=
  ((signers.find? (·.publicKey = key)).map SignerInfo.weight).getD 0

/-- The counted keys are those that signed, once each, and the total is their weight. -/
structure Counted (hash server : String) (signers : List SignerInfo) (signatures : List Signature)
    (counted : ℕ × List String) : Prop where
  distinct : counted.2.Nodup
  keys : ∀ key, key ∈ counted.2 ↔ key ≠ server ∧ key ∈ signers.map SignerInfo.publicKey ∧
    signatures.any (verify key hash) = true
  total : counted.1 = (counted.2.map (weightOf signers)).sum

theorem matching_eq (validated : List String) (signature : Signature) :
    matching hash server signers validated signature =
      if signature.key ≠ server ∧ signature.key ∉ validated ∧ signature.hash = hash then
        signers.find? (·.publicKey = signature.key)
      else none := by
  unfold matching
  split
  · rename_i fresh
    congr 1
    funext signer
    by_cases same : signer.publicKey = signature.key
    · simp [verify, same, fresh]
    · simp [verify, same, Ne.symm same]
  · rename_i stale
    apply List.find?_eq_none.mpr
    intro signer _ counts
    simp only [verify, Bool.and_eq_true, decide_eq_true_eq, Bool.not_eq_true', List.contains_eq_mem,
      decide_eq_false_iff_not] at counts
    obtain ⟨⟨other, unseen⟩, same, hashed⟩ := counts
    exact stale ⟨by rwa [same], by rwa [same], hashed⟩

variable {key : String}

theorem verify_iff {signature : Signature} :
    verify key hash signature = true ↔ signature.key = key ∧ signature.hash = hash := by
  simp [verify]

theorem any_snoc (key : String) (signature : Signature) : (signatures ++ [signature]).any (verify key hash) = true ↔
      signatures.any (verify key hash) = true ∨ (signature.key = key ∧ signature.hash = hash) := by
  rw [List.any_append, Bool.or_eq_true, List.any_cons, List.any_nil, Bool.or_false, verify_iff]

theorem Counted.snoc {counted : ℕ × List String} (sound : Counted hash server signers signatures counted)
    (signature : Signature) :
    Counted hash server signers (signatures ++ [signature]) (count hash server signers counted signature) := by
  unfold count
  rw [matching_eq]
  by_cases fresh : signature.key ≠ server ∧ signature.key ∉ counted.2 ∧ signature.hash = hash
  · rw [if_pos fresh]
    cases found : signers.find? (·.publicKey = signature.key) with
    | none =>
      have unlisted : signature.key ∉ signers.map SignerInfo.publicKey := by simp_all
      refine ⟨sound.distinct, fun key => ?_, sound.total⟩
      rw [sound.keys, any_snoc]
      refine and_congr_right fun _ => and_congr_right fun listed => (or_iff_left ?_).symm
      rintro ⟨rfl, _⟩
      exact unlisted listed
    | some signer =>
      have same : signer.publicKey = signature.key := by simpa using List.find?_some found
      have weight : weightOf signers signer.publicKey = signer.weight := by
        rw [weightOf, same, found]
        rfl
      constructor
      · exact List.nodup_cons.mpr ⟨by rw [same]; exact fresh.2.1, sound.distinct⟩
      · intro key
        rw [List.mem_cons, sound.keys, any_snoc]
        constructor
        · grind
        · grind
      · rw [List.map_cons, List.sum_cons, weight, sound.total, Nat.add_comm]
  · rw [if_neg fresh]
    refine ⟨sound.distinct, fun key => ?_, sound.total⟩
    rw [any_snoc]
    constructor
    · intro member
      obtain ⟨other, listed, signed⟩ := (sound.keys key).mp member
      exact ⟨other, listed, .inl signed⟩
    · rintro ⟨other, listed, signed | ⟨rfl, hashed⟩⟩
      · exact (sound.keys key).mpr ⟨other, listed, signed⟩
      · simp_all

theorem counted_all (signatures : List Signature) :
    Counted hash server signers signatures (signatures.foldl (count hash server signers) (0, [])) := by
  induction signatures using List.reverseRecOn with
  | nil => exact ⟨List.nodup_nil, fun key => by simp, rfl⟩
  | append_singleton signatures signature ih =>
    rw [List.foldl_append]
    exact ih.snoc signature

theorem find?_of_mem {Item Key : Type} [DecidableEq Key] {items : List Item} {key : Item → Key} {item : Item}
    (distinct : (items.map key).Nodup) (member : item ∈ items) : items.find? (key · = key item) = some item := by
  induction items with
  | nil => cases member
  | cons first rest ih => grind

theorem assembleSigners_eq (account : Account id) : assembleSigners id account = ⟨id, 1⟩ ::
    (account.signers.filter fun signer => signer.type = "ed25519_public_key").map fun signer =>
      ⟨signer.key, signer.weight⟩ := rfl

theorem weightOf_assemble (member : signer ∈ account.signing server transaction) :
    weightOf (assembleSigners id account) signer.key = if signer.key = id then 1 else signer.weight := by
  obtain ⟨listed, type, _⟩ := (mem_signing).mp member
  rw [weightOf, assembleSigners_eq]
  by_cases master : signer.key = id
  · simp [master]
  · have present : signer ∈ account.signers.filter fun signer => signer.type = "ed25519_public_key" :=
      List.mem_filter.mpr ⟨listed, decide_eq_true type⟩
    have distinct := account.distinct.sublist ((List.filter_sublist (p := fun signer : Signer => signer.type = "ed25519_public_key")).map Signer.key)
    have found := find?_of_mem distinct present
    rw [List.find?_cons_of_neg (by simpa using Ne.symm master), List.find?_map, if_neg master]
    simp only [Function.comp_def]
    rw [found]
    rfl

theorem mem_assembleSigners : key ∈ (assembleSigners id account).map SignerInfo.publicKey ↔
    ∃ signer ∈ account.signers, signer.type = "ed25519_public_key" ∧ signer.key = key := by
  rw [assembleSigners_eq, List.map_cons, List.map_map, List.mem_cons]
  constructor
  · rintro (rfl | listed)
    · obtain ⟨signer, member, same, type⟩ := account.master
      exact ⟨signer, member, type, same⟩
    · grind
  · grind

theorem calculateSignatureWeights_eq (account : Account id) :
    calculateSignatureWeights transaction (assembleSigners id account) server =
      ((account.signing server transaction).map fun signer => if signer.key = id then 1 else signer.weight).sum := by
  have counted : Counted transaction.hash server (assembleSigners id account) transaction.signatures _ :=
    counted_all transaction.signatures
  have permutation : ((account.signing server transaction).map Signer.key).Perm
      (transaction.signatures.foldl (count transaction.hash server (assembleSigners id account)) (0, [])).2 := by
    apply (List.perm_ext_iff_of_nodup signing_nodup counted.distinct).mpr
    intro key
    rw [counted.keys, mem_assembleSigners, List.mem_map]
    constructor
    · rintro ⟨signer, member, rfl⟩
      obtain ⟨listed, type, other, signed⟩ := (mem_signing).mp member
      exact ⟨other, ⟨signer, listed, type, rfl⟩, signed⟩
    · rintro ⟨other, ⟨signer, listed, type, rfl⟩, signed⟩
      exact ⟨signer, (mem_signing).mpr ⟨listed, type, other, signed⟩, rfl⟩
  rw [calculateSignatureWeights, counted.total, ← (permutation.map _).sum_nat, List.map_map]
  congr 1
  apply List.map_congr_left
  intro signer member
  exact weightOf_assemble member

/-- What the master key weighs in the record. -/
def Account.masterWeight (account : Account id) : ℕ :=
  ((account.signers.find? (·.key = id)).map Signer.weight).getD 0

theorem counted_of_unsigned (unsigned : ∀ signer ∈ account.signing server transaction, signer.key ≠ id) :
    calculateSignatureWeights transaction (assembleSigners id account) server =
      account.signedWeight server transaction := by
  rw [calculateSignatureWeights_eq, Account.signedWeight]
  congr 1
  apply List.map_congr_left
  intro signer member
  exact if_neg (unsigned signer member)

theorem counted_of_signed {master : Signer} (member : master ∈ account.signing server transaction)
    (same : master.key = id) :
    calculateSignatureWeights transaction (assembleSigners id account) server + account.masterWeight =
      account.signedWeight server transaction + 1 := by
  have weight : account.masterWeight = master.weight := by
    have found := find?_of_mem account.distinct ((mem_signing).mp member).1
    rw [same] at found
    rw [Account.masterWeight, found]
    rfl
  have order := List.perm_cons_erase member
  have others : ∀ signer ∈ (account.signing server transaction).erase master, signer.key ≠ id := by
    intro signer present again
    have distinct := (order.map Signer.key).nodup_iff.mp signing_nodup
    apply (List.nodup_cons.mp distinct).1
    rw [same.trans again.symm]
    exact List.mem_map_of_mem present
  have rest : (((account.signing server transaction).erase master).map fun signer =>
      if signer.key = id then 1 else signer.weight) = ((account.signing server transaction).erase master).map Signer.weight :=
    List.map_congr_left fun signer present => if_neg (others signer present)
  rw [calculateSignatureWeights_eq, Account.signedWeight, (order.map _).sum_nat, (order.map Signer.weight).sum_nat,
    List.map_cons, List.map_cons, List.sum_cons, List.sum_cons, rest, if_pos same, weight]
  omega

theorem met_authorises_iff (account : Account id) :
    (thresholdMet server transaction id account = true → Authorised server transaction account) ↔
      (account.thresholds.med_threshold = 0 → 1 ≤ account.signedWeight server transaction) ∧
      (0 < account.thresholds.med_threshold → account.masterWeight = 0 → id ≠ server → transaction.isSignedBy id = true →
        account.signedWeight server transaction + 1 ≠ account.thresholds.med_threshold) := by
  rw [authorised_iff]
  unfold thresholdMet
  by_cases zero : account.thresholds.med_threshold = 0
  · simp [zero]
  · rw [if_neg zero, decide_eq_true_eq]
    have positive := Nat.pos_of_ne_zero zero
    by_cases signed : id ≠ server ∧ transaction.isSignedBy id = true
    · obtain ⟨master, listed, same, type⟩ := account.master
      have member : master ∈ account.signing server transaction :=
        (mem_signing).mpr ⟨listed, type, same ▸ signed.1, same ▸ signed.2⟩
      have counted := counted_of_signed member same
      simp only [zero, positive, signed.1, signed.2, false_implies, true_implies, true_and, ne_eq, not_false_eq_true]
      omega
    · have unsigned : ∀ signer ∈ account.signing server transaction, signer.key ≠ id := by
        rintro signer member rfl
        exact signed ((mem_signing).mp member).2.2
      rw [counted_of_unsigned unsigned]
      constructor
      · intro _
        refine ⟨fun none => absurd none zero, fun _ _ other own => absurd ⟨other, own⟩ signed⟩
      · intro _ met
        exact Nat.max_le.mpr ⟨Nat.le_trans positive met, met⟩

/-- The account that a transaction is to authenticate. -/
def Transaction.client (transaction : Transaction) : Option String :=
  transaction.operations.head?.map fun operation => (Text.truthy operation.source).getD transaction.source

def Transaction.isWithin (transaction : Transaction) (now : ℕ) : Bool :=
  transaction.timeBounds.any fun bounds => bounds.1 ≤ now && now ≤ bounds.2

/-- The transaction passes the checks that ask nothing of the account's record. -/
structure Transaction.IsChallenge (transaction : Transaction) (server : String) (now : ℕ) (clientAccountID : Option String)
    (client : String) : Prop where
  sequence : transaction.sequence = "0"
  within : transaction.isWithin now = true
  operations : transaction.operations.all (fun operation => operation.type = "manageData") = true
  authenticates : transaction.client = some client
  agrees : (Text.truthy clientAccountID).any (· ≠ client) = false
  signed : transaction.isSignedBy server = true

variable {now : ℕ}

theorem isWithin_iff : transaction.isWithin now = true ↔
    ∃ minTime maxTime, transaction.timeBounds = some (minTime, maxTime) ∧ minTime ≤ now ∧ now ≤ maxTime := by
  unfold Transaction.isWithin
  cases transaction.timeBounds with
  | none => simp
  | some bounds =>
    obtain ⟨minTime, maxTime⟩ := bounds
    simp

variable {clientAccountID : Option String}

theorem Transaction.IsChallenge.of_check {client : String}
    (passed : checkTransaction server now transaction clientAccountID = .ok client) :
    transaction.IsChallenge server now clientAccountID client := by
  unfold checkTransaction at passed
  split at passed
  · cases passed
  · rename_i sequence
    split at passed
    · cases passed
    · rename_i minTime maxTime bounds
      split at passed
      · cases passed
      · rename_i started
        split at passed
        · cases passed
        · rename_i lasting
          split at passed
          · cases passed
          · rename_i data
            split at passed
            · cases passed
            · rename_i firstOp rest operations
              dsimp only at passed
              split at passed
              · cases passed
              · rename_i agrees
                split at passed
                · cases passed
                · rename_i signed
                  obtain rfl := Except.ok.inj passed
                  constructor
                  · exact not_not.mp sequence
                  · exact (isWithin_iff).mpr ⟨minTime, maxTime, bounds, Nat.not_lt.mp started, Nat.not_lt.mp lasting⟩
                  · simpa using data
                  · simp [Transaction.client, operations]
                  · simpa using agrees
                  · simpa using signed

theorem checkTransaction_of_isChallenge {client : String}
    (challenge : transaction.IsChallenge server now clientAccountID client) :
    checkTransaction server now transaction clientAccountID = .ok client := by
  obtain ⟨minTime, maxTime, bounds, started, lasting⟩ := (isWithin_iff).mp challenge.within
  obtain ⟨firstOp, first, same⟩ := Option.map_eq_some_iff.mp challenge.authenticates
  obtain ⟨rest, operations⟩ := List.head?_eq_some_iff.mp first
  have data := challenge.operations
  rw [operations] at data
  have agrees := challenge.agrees
  unfold checkTransaction
  rw [if_neg (not_not.mpr challenge.sequence), bounds]
  dsimp only
  rw [if_neg (Nat.not_lt.mpr started), if_neg (Nat.not_lt.mpr lasting), operations, data]
  dsimp only
  rw [same, agrees, challenge.signed]
  rfl

theorem verifyChallenge_eq_ok {config : Sep10Config} {horizon : Horizon} {iat : ℕ} {jti : String}
    {envelope : Option Transaction} {token : Token} :
    verifyChallenge config server horizon now iat jti envelope clientAccountID = .ok token ↔
      ∃ transaction client account, envelope = some transaction ∧
        transaction.IsChallenge server now clientAccountID client ∧ horizon client = .ok account ∧
        thresholdMet server transaction client account = true ∧ token = issueToken config iat jti client := by
  constructor
  · intro issued
    unfold verifyChallenge at issued
    split at issued
    · cases issued
    · rename_i transaction
      split at issued
      · cases issued
      · rename_i client passed
        unfold verifyThresholdMet at issued
        cases answer : horizon client with
        | error message => simp_all
        | ok account =>
          rw [answer] at issued
          dsimp only at issued
          cases met : thresholdMet server transaction client account with
          | false => simp_all
          | true =>
            rw [met] at issued
            exact ⟨transaction, client, account, rfl, .of_check passed, answer, met, (Except.ok.inj issued).symm⟩
  · rintro ⟨transaction, client, account, rfl, challenge, answer, met, rfl⟩
    simp only [verifyChallenge, checkTransaction_of_isChallenge challenge, verifyThresholdMet, answer, met]

/-- The threshold is at least one or some weight has signed, and a disabled master key that has signed does not make up
for the last unit of weight. -/
def IsCovered (server : String) (horizon : Horizon) (now : ℕ) (envelope : Option Transaction)
    (clientAccountID : Option String) : Prop :=
  ∀ transaction client account, envelope = some transaction → transaction.IsChallenge server now clientAccountID client →
    horizon client = .ok account →
    (account.thresholds.med_threshold = 0 → 1 ≤ account.signedWeight server transaction) ∧
    (0 < account.thresholds.med_threshold → account.masterWeight = 0 → client ≠ server →
      transaction.isSignedBy client = true →
      account.signedWeight server transaction + 1 ≠ account.thresholds.med_threshold)

/-- A token is issued only with a valid signature of the server, within the time bounds and with the weight that the
account asks for, exactly in the cases that are covered. -/
theorem verifyChallenge_sound_iff (config : Sep10Config) (server : String) (horizon : Horizon) (now iat : ℕ) (jti : String)
    (envelope : Option Transaction) (clientAccountID : Option String) :
    Sound server horizon now envelope (verifyChallenge config server horizon now iat jti envelope clientAccountID) ↔
      IsCovered server horizon now envelope clientAccountID := by
  constructor
  · intro sound transaction client account parsed challenge answer
    apply (met_authorises_iff account).mp
    intro met
    have issued : verifyChallenge config server horizon now iat jti envelope clientAccountID = .ok _ :=
      (verifyChallenge_eq_ok).mpr ⟨transaction, client, account, parsed, challenge, answer, met, rfl⟩
    obtain ⟨other, record, same, again, _, _, authorised⟩ := sound _ issued
    cases parsed.symm.trans same
    cases answer.symm.trans again
    exact authorised
  · intro covered token issued
    obtain ⟨transaction, client, account, parsed, challenge, answer, met, rfl⟩ := (verifyChallenge_eq_ok).mp issued
    have authorised := (met_authorises_iff account).mpr (covered transaction client account parsed challenge answer) met
    exact ⟨transaction, account, parsed, answer, challenge.signed, (isWithin_iff).mp challenge.within, authorised⟩

/-- An account as it is created: its master key has weight one, and its thresholds are zero. -/
def createdAccount (id : String) : Account id where
  signers := [⟨id, 1, "ed25519_public_key"⟩]
  thresholds := ⟨0, 0, 0⟩
  distinct := List.nodup_singleton id
  master := ⟨_, List.mem_singleton_self _, rfl, rfl⟩

/-- A challenge as the server hands it out, with no other signature. -/
def unsigned : Transaction :=
  ⟨"hash", "GA", "0", some (100, 1000), [⟨"manageData", some "GA"⟩, ⟨"manageData", some "GS"⟩], [⟨"GS", "hash"⟩]⟩

theorem unsigned_not_sound : ¬∀ (config : Sep10Config) (server : String) (horizon : Horizon) (now iat : ℕ) (jti : String)
    (envelope : Option Transaction) (clientAccountID : Option String),
    Sound server horizon now envelope (verifyChallenge config server horizon now iat jti envelope clientAccountID) := by
  intro always
  have sound := always ⟨"api", "home"⟩ "GS" (fun id => .ok (createdAccount id)) 500 500 "jti" (some unsigned) none
  have issued : verifyChallenge ⟨"api", "home"⟩ "GS" (fun id => .ok (createdAccount id)) 500 500 "jti" (some unsigned) none =
      .ok (issueToken ⟨"api", "home"⟩ 500 "jti" "GA") := by
    apply (verifyChallenge_eq_ok).mpr
    refine ⟨unsigned, "GA", createdAccount "GA", rfl, ?_, rfl, rfl, rfl⟩
    constructor <;> decide
  obtain ⟨transaction, account, same, answer, _, _, authorised⟩ := sound _ issued
  cases same
  cases answer
  have enough := (authorised_iff).mp authorised
  revert enough
  decide

end ProxyPay.Auth
