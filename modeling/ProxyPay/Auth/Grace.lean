import ProxyPay.Auth.Keys

/-! Which tokens are accepted after any history of rotations of the key. -/

namespace ProxyPay.Auth

open ProxyPay.Library.Text

structure Key where
  keyId : String
  secret : String
  named : keyId ≠ ""
  kept : secret ≠ ""

/-- The environment of a server with its active key. -/
structure Deployment where
  environment : KeyEnvironment
  active : Key
  holds : environment.JWT_SECRET = some active.secret ∧ environment.JWT_KEY_ID.getD "v1" = active.keyId

/-- The first deployment has no previous key. Its key has the name `v1` if it has none. -/
structure Start where
  keyId : Option String
  secret : String
  named : keyId ≠ some ""
  kept : secret ≠ ""

def Start.key (start : Start) : Key where
  keyId := start.keyId.getD "v1"
  secret := start.secret
  named := by
    cases given : start.keyId with
    | none => exact (by decide)
    | some keyId =>
      intro empty
      exact start.named (given.trans (congrArg some empty))
  kept := start.kept

/-- A new key is installed at a time, in seconds, which the environment may record. -/
structure KeyRotation where
  key : Key
  time : ℕ
  issuedAt : Option String

def Deployment.start (start : Start) : Deployment where
  environment := ⟨some start.secret, start.keyId, none, none, none⟩
  active := start.key
  holds := ⟨rfl, rfl⟩

/-- The active key moves to the place of the previous one. -/
def Deployment.rotate (deployment : Deployment) (rotation : KeyRotation) : Deployment where
  environment := ⟨some rotation.key.secret, some rotation.key.keyId, some deployment.active.secret,
    some deployment.active.keyId, rotation.issuedAt⟩
  active := rotation.key
  holds := ⟨rfl, rfl⟩

def deployed (start : Start) (rotations : List KeyRotation) : Deployment :=
  rotations.foldl Deployment.rotate (.start start)

section Tokens

variable {Payload : Type}

/-- The token was signed with the key, and names it. -/
def SignedToken.IsSignedBy (token : SignedToken Payload) (key : Key) : Prop :=
  token.secret = key.secret ∧ token.kid = some key.keyId

/-- The token has not expired for longer than is tolerated. -/
def SignedToken.Lasts (token : SignedToken Payload) (clockTolerance now : ℕ) : Prop :=
  ∀ exp, token.exp = some exp → now / 1000 < exp + clockTolerance

variable {messages : Messages} {secret keyId : String} {clockTolerance now later : ℕ} {token : SignedToken Payload}
variable {payload : Payload} {environment : KeyEnvironment} {store : List JwtKeyEntry} {key : Key}

theorem verify_eq_ok_iff : token.verify messages secret clockTolerance now = .ok payload ↔
    token.secret = secret ∧ token.Lasts clockTolerance now ∧ token.payload = payload := by
  unfold SignedToken.verify SignedToken.Lasts
  by_cases signed : token.secret = secret
  · rw [if_neg (not_not_intro signed)]
    cases token.exp with
    | none => simp [signed]
    | some exp => grind
  · simp [signed]

theorem verifyWith_named (built : buildKeyStore environment now = .ok store) (named : token.kid = some keyId)
    (given : keyId ≠ "") : verifyWith messages clockTolerance environment now later (some token) =
      match store.find? (·.keyId = keyId) with
      | some entry => token.verify messages entry.secret clockTolerance later
      | none => .error (messages.unknownKey keyId) := by
  have kid : truthy ((some token).bind (·.kid)) = some keyId := truthy_eq_some.mpr ⟨named, given⟩
  have found : findKeyById environment now keyId = .ok (store.find? (·.keyId = keyId)) := by
    rw [findKeyById, built]
    rfl
  unfold verifyWith
  rw [kid]
  simp only [found]
  cases store.find? (·.keyId = keyId) with
  | none | some entry => rfl

theorem findKeyById_eq (built : buildKeyStore environment now = .ok store) :
    findKeyById environment now keyId = .ok (store.find? (·.keyId = keyId)) := by
  rw [findKeyById, built]
  rfl

theorem getActiveKey_eq {active : JwtKeyEntry} {others : List JwtKeyEntry}
    (built : buildKeyStore environment now = .ok (active :: others)) : getActiveKey environment now = .ok active := by
  rw [getActiveKey, built]
  rfl

theorem signed_of_verifyWith {presented : Option (SignedToken Payload)} {active : JwtKeyEntry} {others : List JwtKeyEntry}
    (built : buildKeyStore environment now = .ok (active :: others))
    (accepted : verifyWith messages clockTolerance environment now later presented = .ok payload) :
    ∃ token, presented = some token ∧ (∃ entry ∈ active :: others, token.secret = entry.secret) ∧
      token.Lasts clockTolerance later ∧ token.payload = payload := by
  unfold verifyWith at accepted
  cases kid : truthy (presented.bind (·.kid)) with
  | none =>
    rw [kid, getActiveKey_eq built] at accepted
    cases presented with
    | none => cases accepted
    | some token =>
      obtain ⟨signed, lasts, same⟩ := (verify_eq_ok_iff).mp accepted
      exact ⟨token, rfl, ⟨active, List.mem_cons_self, signed⟩, lasts, same⟩
  | some keyId =>
    rw [kid] at accepted
    simp only [findKeyById_eq built] at accepted
    cases found : (active :: others).find? (·.keyId = keyId) with
    | none =>
      simp only [found] at accepted
      cases accepted
    | some entry =>
      simp only [found] at accepted
      cases presented with
      | none => cases accepted
      | some token =>
        obtain ⟨signed, lasts, same⟩ := (verify_eq_ok_iff).mp accepted
        exact ⟨token, rfl, ⟨entry, List.mem_of_find?_eq_some found, signed⟩, lasts, same⟩

theorem verifyWith_signed {entry : JwtKeyEntry} (built : buildKeyStore environment now = .ok store)
    (signed : token.IsSignedBy key) (found : store.find? (·.keyId = key.keyId) = some entry) (same : entry.secret = key.secret) :
    verifyWith messages clockTolerance environment now later (some token) = .ok token.payload ↔
      token.Lasts clockTolerance later := by
  rw [verifyWith_named built signed.2 key.named, found]
  simp only
  rw [verify_eq_ok_iff]
  constructor
  · simp
  · intro lasts
    exact ⟨signed.1.trans same.symm, lasts, rfl⟩

end Tokens

variable {deployment : Deployment} {start : Start} {rotation : KeyRotation} {now : ℕ}

def Deployment.activeEntry (deployment : Deployment) : JwtKeyEntry :=
  ⟨deployment.active.keyId, deployment.active.secret, none⟩

/-- The previous key, while its grace period lasts. -/
def Deployment.previousKey? (deployment : Deployment) (now : ℕ) : Option JwtKeyEntry :=
  match truthy deployment.environment.JWT_PREVIOUS_SECRET, truthy deployment.environment.JWT_PREVIOUS_KEY_ID with
  | some secret, some keyId =>
    ((supersededAt deployment.environment now).map (· + KEY_ROTATION_GRACE_PERIOD_MS)).bind fun expiresAt =>
      if now < expiresAt then some ⟨keyId, secret, some expiresAt⟩ else none
  | _, _ => none

theorem buildKeyStore_eq : buildKeyStore deployment.environment now =
    .ok (deployment.activeEntry :: (deployment.previousKey? now).toList) := by
  obtain ⟨secret, keyId⟩ := deployment.holds
  have active : truthy deployment.environment.JWT_SECRET = some deployment.active.secret :=
    truthy_eq_some.mpr ⟨secret, deployment.active.kept⟩
  unfold buildKeyStore Deployment.previousKey? Deployment.activeEntry
  rw [active, keyId]
  simp only
  cases truthy deployment.environment.JWT_PREVIOUS_SECRET with
  | none => rfl
  | some previousSecret => grind

theorem previousEntry_rotate : (deployment.rotate rotation).previousKey? now =
    ((supersededAt (deployment.rotate rotation).environment now).map (· + KEY_ROTATION_GRACE_PERIOD_MS)).bind fun expiresAt =>
      if now < expiresAt then some ⟨deployment.active.keyId, deployment.active.secret, some expiresAt⟩ else none := by
  have secret : truthy (deployment.rotate rotation).environment.JWT_PREVIOUS_SECRET = some deployment.active.secret :=
    truthy_eq_some.mpr ⟨rfl, deployment.active.kept⟩
  have keyId : truthy (deployment.rotate rotation).environment.JWT_PREVIOUS_KEY_ID = some deployment.active.keyId :=
    truthy_eq_some.mpr ⟨rfl, deployment.active.named⟩
  unfold Deployment.previousKey?
  rw [secret, keyId]

/-- The time of the rotation was recorded in seconds. -/
def KeyRotation.IsRecorded (rotation : KeyRotation) : Prop :=
  rotation.issuedAt = some (toString rotation.time)

/-- The grace period after the rotation, in milliseconds. -/
def KeyRotation.InGrace (rotation : KeyRotation) (now : ℕ) : Prop :=
  (now : ℤ) < rotation.time * 1000 + KEY_ROTATION_GRACE_PERIOD_MS

theorem inGrace_iff : rotation.InGrace now ↔ (now : ℤ) < rotation.time * 1000 + KEY_ROTATION_GRACE_PERIOD_MS :=
  Iff.rfl

theorem supersededAt_recorded (recorded : rotation.IsRecorded) :
    supersededAt (deployment.rotate rotation).environment now = some (rotation.time * 1000 : ℤ) := by
  have issuedAt : truthy (deployment.rotate rotation).environment.JWT_PREVIOUS_KEY_ISSUED_AT =
      some (toString rotation.time) := by
    apply truthy_eq_some.mpr
    refine ⟨recorded, ?_⟩
    intro empty
    have digits := parseInt_toString rotation.time
    rw [empty] at digits
    cases digits
  unfold supersededAt
  rw [issuedAt]
  simp only [parseInt_toString, Option.map_some]

theorem previousEntry_recorded (recorded : rotation.IsRecorded) : (deployment.rotate rotation).previousKey? now =
    if (now : ℤ) < rotation.time * 1000 + KEY_ROTATION_GRACE_PERIOD_MS then
      some ⟨deployment.active.keyId, deployment.active.secret, some (rotation.time * 1000 + KEY_ROTATION_GRACE_PERIOD_MS)⟩
    else none := by
  rw [previousEntry_rotate, supersededAt_recorded recorded, Option.map_some, Option.bind_some]

section Acceptance

variable {Payload : Type} {token : SignedToken Payload} {payload : Payload} {messages : Messages} {later clockTolerance : ℕ}

theorem accepted_active (signed : token.IsSignedBy deployment.active) :
    verifyWith messages clockTolerance deployment.environment now later (some token) = .ok token.payload ↔
      token.Lasts clockTolerance later := by
  apply verifyWith_signed buildKeyStore_eq signed
  · exact List.find?_cons_of_pos (by simp [Deployment.activeEntry])
  · rfl

theorem accepted_previous (signed : token.IsSignedBy deployment.active) (recorded : rotation.IsRecorded)
    (other : rotation.key.keyId ≠ deployment.active.keyId) :
    verifyWith messages clockTolerance (deployment.rotate rotation).environment now later (some token) = .ok token.payload ↔
      rotation.InGrace now ∧ token.Lasts clockTolerance later := by
  have passed : ∀ others : List JwtKeyEntry,
      ((deployment.rotate rotation).activeEntry :: others).find? (·.keyId = deployment.active.keyId) =
        others.find? (·.keyId = deployment.active.keyId) := by
    intro others
    apply List.find?_cons_of_neg
    intro same
    exact other (of_decide_eq_true same)
  by_cases grace : rotation.InGrace now
  · have found : ((deployment.rotate rotation).activeEntry ::
        ((deployment.rotate rotation).previousKey? now).toList).find? (·.keyId = deployment.active.keyId) =
          some ⟨deployment.active.keyId, deployment.active.secret,
            some (rotation.time * 1000 + KEY_ROTATION_GRACE_PERIOD_MS)⟩ := by
      rw [passed, previousEntry_recorded recorded, if_pos ((inGrace_iff).mp grace)]
      exact List.find?_cons_of_pos (decide_eq_true rfl)
    rw [verifyWith_signed buildKeyStore_eq signed found rfl]
    constructor
    · intro lasts
      exact ⟨grace, lasts⟩
    · intro accepted
      exact accepted.2
  · rw [verifyWith_named buildKeyStore_eq signed.2 deployment.active.named, passed, previousEntry_recorded recorded,
      if_neg (mt (inGrace_iff).mpr grace)]
    constructor
    · intro impossible
      cases impossible
    · intro accepted
      exact absurd accepted.1 grace

theorem signed_of_accepted {presented : Option (SignedToken Payload)}
    (accepted : verifyWith messages clockTolerance (deployment.rotate rotation).environment now later presented = .ok payload) :
    ∃ token, presented = some token ∧ token.payload = payload ∧ token.Lasts clockTolerance later ∧
      (token.secret = rotation.key.secret ∨
        token.secret = deployment.active.secret ∧ (rotation.IsRecorded → rotation.InGrace now)) := by
  obtain ⟨token, same, ⟨entry, member, signed⟩, lasts, carries⟩ := signed_of_verifyWith buildKeyStore_eq accepted
  refine ⟨token, same, carries, lasts, ?_⟩
  cases List.mem_cons.mp member with
  | inl active =>
    subst active
    exact .inl signed
  | inr previous =>
    right
    rw [Option.mem_toList] at previous
    have secret : entry.secret = deployment.active.secret := by
      have found := (previousEntry_rotate).symm.trans previous
      obtain ⟨expiresAt, _, kept⟩ := Option.bind_eq_some_iff.mp found
      split at kept
      · cases kept
        rfl
      · cases kept
    refine ⟨signed.trans secret, ?_⟩
    intro recorded
    have there := (previousEntry_recorded recorded).symm.trans previous
    split at there
    · rename_i grace
      exact grace
    · cases there

theorem signed_of_accepted_start {presented : Option (SignedToken Payload)}
    (accepted : verifyWith messages clockTolerance (Deployment.start start).environment now later presented = .ok payload) :
    ∃ token, presented = some token ∧ token.payload = payload ∧ token.Lasts clockTolerance later ∧
      token.secret = start.secret := by
  obtain ⟨token, same, ⟨entry, member, signed⟩, lasts, carries⟩ := signed_of_verifyWith buildKeyStore_eq accepted
  cases List.mem_cons.mp member with
  | inl active =>
    subst active
    exact ⟨token, same, carries, lasts, signed⟩
  | inr previous => cases previous

/-- The key before the last rotation, and what is known of it. -/
def IsPrevious (start : Start) (rotations : List KeyRotation) (rotation : KeyRotation) (key : Key) : Prop :=
  ∃ earlier, rotations = earlier ++ [rotation] ∧ key = (deployed start earlier).active

theorem deployed_append (rotations : List KeyRotation) (rotation : KeyRotation) :
    deployed start (rotations ++ [rotation]) = (deployed start rotations).rotate rotation := by
  unfold deployed
  rw [List.foldl_append]
  rfl

/-- A token of the active key is accepted until it has expired; one of the key before until then or until the recorded grace
period ends; and no other. -/
def Honours (start : Start) (rotations : List KeyRotation) (verify : KeyEnvironment → ℕ → ℕ → Option (SignedToken Payload) →
    Except String Payload) (clockTolerance : ℕ) : Prop :=
  (∀ token now later, token.IsSignedBy (deployed start rotations).active →
    (verify (deployed start rotations).environment now later (some token) = .ok token.payload ↔
      token.Lasts clockTolerance later)) ∧
  (∀ rotation key token now later, IsPrevious start rotations rotation key → rotation.IsRecorded →
    rotation.key.keyId ≠ key.keyId → token.IsSignedBy key →
      (verify (deployed start rotations).environment now later (some token) = .ok token.payload ↔
        rotation.InGrace now ∧ token.Lasts clockTolerance later)) ∧
  ∀ presented now later payload, verify (deployed start rotations).environment now later presented = .ok payload →
    ∃ token, presented = some token ∧ token.payload = payload ∧ token.Lasts clockTolerance later ∧
      (token.secret = (deployed start rotations).active.secret ∨
        ∃ rotation key, IsPrevious start rotations rotation key ∧ token.secret = key.secret ∧
          (rotation.IsRecorded → rotation.InGrace now))

theorem honours_verifyWith (start : Start) (rotations : List KeyRotation) (messages : Messages) (clockTolerance : ℕ) :
    Honours start rotations (@verifyWith Payload messages clockTolerance) clockTolerance := by
  refine ⟨?_, ?_, ?_⟩
  · intro token now later signed
    exact accepted_active signed
  · intro rotation key token now later previous recorded other signed
    obtain ⟨earlier, rfl, rfl⟩ := previous
    rw [deployed_append]
    exact accepted_previous signed recorded other
  · intro presented now later payload accepted
    cases List.eq_nil_or_concat rotations with
    | inl first =>
      subst first
      obtain ⟨token, same, carries, lasts, signed⟩ := signed_of_accepted_start accepted
      exact ⟨token, same, carries, lasts, .inl signed⟩
    | inr more =>
      obtain ⟨earlier, rotation, same⟩ := more
      rw [List.concat_eq_append] at same
      subst same
      rw [deployed_append] at accepted ⊢
      obtain ⟨token, same, carries, lasts, signed⟩ := signed_of_accepted accepted
      refine ⟨token, same, carries, lasts, ?_⟩
      cases signed with
      | inl active => exact .inl active
      | inr previous => exact .inr ⟨rotation, _, ⟨earlier, rfl, rfl⟩, previous.1, previous.2⟩

theorem generateToken_signed {options : GenerateTokenOptions} (unnamed : options.keyId = none)
    (made : generateToken deployment.environment now payload options = .ok token) :
    token.IsSignedBy deployment.active ∧ token.payload = payload := by
  unfold generateToken at made
  rw [unnamed] at made
  simp only [truthy, Option.filter_none, getActiveKey_eq buildKeyStore_eq] at made
  cases made
  exact ⟨⟨rfl, rfl⟩, rfl⟩

theorem generateRefreshToken_signed (made : generateRefreshToken deployment.environment now payload = .ok token) :
    token.IsSignedBy deployment.active ∧ token.payload = payload := by
  unfold generateRefreshToken at made
  rw [getActiveKey_eq buildKeyStore_eq] at made
  cases made
  exact ⟨⟨rfl, rfl⟩, rfl⟩

/-- The grace period is honoured after every history of rotations, and tokens are made with the active key. -/
theorem rotations_honoured (Payload : Type) (start : Start) (rotations : List KeyRotation) :
    Honours start rotations (@verifyToken Payload) 60 ∧ Honours start rotations (@verifyRefreshSignature Payload) 0 ∧
      ∀ now (payload : Payload) token,
        (∃ expiresIn, generateToken (deployed start rotations).environment now payload ⟨expiresIn, none⟩ = .ok token) ∨
          generateRefreshToken (deployed start rotations).environment now payload = .ok token →
        token.IsSignedBy (deployed start rotations).active ∧ token.payload = payload := by
  refine ⟨honours_verifyWith start rotations _ 60, honours_verifyWith start rotations _ 0, ?_⟩
  intro now payload token made
  rcases made with ⟨expiresIn, made⟩ | made
  · exact generateToken_signed rfl made
  · exact generateRefreshToken_signed made

def startSample : Start where
  keyId := none
  secret := "active-secret-32chars-xxxxxxxxxx"
  named := by decide
  kept := by decide

/-- A token that expires after an hour. -/
def hourSample : SignedToken Unit :=
  ⟨some "v1", "active-secret-32chars-xxxxxxxxxx", some 3600, ()⟩

/-- Half a minute after it has expired, an access token is accepted. -/
theorem hourSample_late : ¬∀ (start : Start) (rotations : List KeyRotation) (token : SignedToken Unit) (now later : ℕ),
    token.IsSignedBy (deployed start rotations).active →
      (verifyToken (deployed start rotations).environment now later (some token) = .ok token.payload ↔
        token.Lasts 0 later) := by
  intro always
  have signed : hourSample.IsSignedBy (deployed startSample []).active := ⟨rfl, rfl⟩
  have tolerated : hourSample.Lasts 60 3630000 := by
    intro exp expires
    cases expires
    decide
  have accepted : verifyToken (deployed startSample []).environment 3630000 3630000 (some hourSample) =
      .ok hourSample.payload := (accepted_active signed).mpr tolerated
  have lasts := (always startSample [] hourSample 3630000 3630000 signed).mp accepted
  exact absurd (lasts 3600 rfl) (by decide)

end Acceptance

end ProxyPay.Auth
