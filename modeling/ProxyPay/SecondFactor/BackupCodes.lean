import ProxyPay.SecondFactor.Guesses

/-! Which backup codes are accepted, and how often. -/

namespace ProxyPay.SecondFactor

open ProxyPay.Library ProxyPay.Library.Text

def Item.code_hash : Item → String
  | .text code_hash => code_hash
  | .object row => row.code_hash

/-- The backup codes that were issued to a user. All are stored as hashes, and none has two rows. -/
structure Issue (bcrypt : Bcrypt) where
  user : Option User
  codes : List BackupCode
  hashed : ∀ row ∈ codes, ∃ code salt, row.code_hash = bcrypt.hash code salt
  hashedItems : ∀ found list, user = some found → found.backup_codes = some (.items list) →
    ∀ item ∈ list, ∃ code salt, item.code_hash = bcrypt.hash code salt
  single : ∀ first ∈ codes, ∀ second ∈ codes, ∀ code, bcrypt.compare code first.code_hash = true →
    bcrypt.compare code second.code_hash = true → first.id = second.id

/-- The code has a row, or an item of the list of the user. -/
def Issue.IsIssued {bcrypt : Bcrypt} (issue : Issue bcrypt) (code : String) : Prop :=
  (∃ row ∈ issue.codes, ∃ salt, row.code_hash = bcrypt.hash code salt) ∨
    ∃ found list, issue.user = some found ∧ found.backup_codes = some (.items list) ∧
      ∃ item ∈ list, ∃ salt, item.code_hash = bcrypt.hash code salt

def Task.isLogin : Task → Bool
  | .login _ => true
  | .verifyWithdrawal2FA _ => false

def Phase.isMarking : Phase → Bool
  | .marking _ => true
  | _ => false

namespace Call

/-- The backup code that the call carries. -/
def code? (call : Call) : Option String :=
  truthy call.task.request.backupCode

/-- The code that the call has matched. -/
def claim (call : Call) : Option String :=
  match call.phase with
  | .marking _ => call.code?
  | .resetting .backup => call.code?
  | .over (.verified .backup) => call.code?
  | _ => none

/-- The call has matched the code and not marked it as used: it has still to do so, or it is a login, which never does. -/
def holds (call : Call) (code : String) : Bool :=
  call.claim = some code && (call.task.isLogin || call.phase.isMarking)

/-- The call succeeds by its backup code. -/
def isAccepted (call : Call) : Bool :=
  call.phase = .over (.verified .backup)

end Call

/-- No code makes two calls succeed. -/
def SingleUse (server : Server) : Prop :=
  ∀ (index other : ℕ) first second, server.calls[index]? = some first → server.calls[other]? = some second →
    first.isAccepted = true → second.isAccepted = true → first.code? = second.code? → index = other

/-- A code that makes a call succeed was issued. -/
def OnlyIssued {bcrypt : Bcrypt} (issue : Issue bcrypt) (server : Server) : Prop :=
  ∀ call ∈ server.calls, call.isAccepted = true → ∃ code, call.code? = some code ∧ issue.IsIssued code

/-- A withdrawal matches a code only where no call holds it, and a login only where no call has matched it. -/
def isUnclaimed (runtime : Runtime) (before : Server) : Label → Bool
  | .next index => before.calls[index]?.all fun call =>
    match call.phase with
    | .readingCodes code => (before.match? runtime code).isNone || before.calls.all fun other => !other.holds code
    | .checkingCodes user =>
      before.acceptsToken runtime user call.task.request ||
        match call.code?, user.backup_codes with
        | some code, some (.items list) =>
          !list.any (Item.accepts runtime code) || before.calls.all fun other => other.claim ≠ some code
        | _, _ => true
    | _ => true
  | _ => true

variable {runtime : Runtime} {issue : Issue runtime.bcrypt} {before after server : Server} {label : Label} {index : ℕ}
variable {call : Call} {code : String} {apart : Prop} {codes marked : List BackupCode}

/-- Every row of the code is used. -/
def Spent (runtime : Runtime) (codes : List BackupCode) (code : String) : Prop :=
  ∀ row ∈ codes, runtime.bcrypt.compare code row.code_hash = true → row.used = true

/-- What a call has found. -/
def Call.Fits (runtime : Runtime) (issue : Issue runtime.bcrypt) (codes : List BackupCode) (call : Call) : Prop :=
  match call.phase with
  | .readingCodes code => call.code? = some code
  | .marking row => ∃ code, call.code? = some code ∧ issue.IsIssued code ∧
      runtime.bcrypt.compare code row.code_hash = true ∧
      ∃ origin ∈ issue.codes, origin.id = row.id ∧ origin.code_hash = row.code_hash
  | .resetting .backup => ∃ code, call.code? = some code ∧ issue.IsIssued code ∧ Spent runtime codes code
  | .checkingCodes user => issue.user = some user ∧ call.task.isLogin = true
  | .over (.verified .backup) => ∃ code, call.code? = some code ∧ issue.IsIssued code ∧
      (call.task.isLogin = true ∨ Spent runtime codes code)
  | _ => True

/-- The rows are those that were issued, of which more may be used. -/
structure Marked (codes later : List BackupCode) : Prop where
  origin : ∀ row ∈ later, ∃ before ∈ codes, before.id = row.id ∧ before.code_hash = row.code_hash ∧
    (before.used = true → row.used = true)

/-- What the calls have found, and that no code is claimed twice if all matches were `apart`. -/
structure Kept (runtime : Runtime) (issue : Issue runtime.bcrypt) (apart : Prop) (server : Server) : Prop where
  user : server.user = issue.user
  codes : Marked issue.codes server.codes
  fits : ∀ call ∈ server.calls, call.Fits runtime issue server.codes
  exclusive : apart → Exclusive Call.claim (fun call => call.claim.isSome) server.calls

theorem Marked.refl : Marked codes codes where
  origin row member := ⟨row, member, rfl, rfl, id⟩

theorem Marked.trans {last : List BackupCode} (first : Marked codes marked) (second : Marked marked last) :
    Marked codes last where
  origin row member := by
    obtain ⟨middle, among, id, code_hash, used⟩ := second.origin row member
    obtain ⟨before, earlier, same, hash, was⟩ := first.origin middle among
    exact ⟨before, earlier, same.trans id, hash.trans code_hash, fun marked => used (was marked)⟩

theorem Spent.later (spent : Spent runtime codes code) (more : Marked codes marked) : Spent runtime marked code := by
  intro row member matched
  obtain ⟨before, earlier, _, code_hash, used⟩ := more.origin row member
  apply used
  apply spent before earlier
  rwa [code_hash]

theorem Call.Fits.later (fits : call.Fits runtime issue codes) (more : Marked codes marked) :
    call.Fits runtime issue marked := by
  unfold Call.Fits at fits ⊢
  split at fits
  · exact fits
  · exact fits
  · obtain ⟨code, carried, issued, spent⟩ := fits
    exact ⟨code, carried, issued, spent.later more⟩
  · exact fits
  · obtain ⟨code, carried, issued, spent⟩ := fits
    exact ⟨code, carried, issued, spent.imp id (·.later more)⟩
  · trivial

theorem Call.Fits.holds_or_spent (fits : call.Fits runtime issue codes) (claims : call.claim = some code) :
    call.holds code = true ∨ Spent runtime codes code := by
  obtain ⟨task, phase, unrecorded⟩ := call
  cases phase with
  | marking row =>
    left
    simp [Call.holds, claims, Phase.isMarking]
  | resetting method =>
    cases method with
    | totp => cases claims
    | backup =>
      obtain ⟨other, carried, _, spent⟩ := fits
      cases carried.symm.trans claims
      exact .inr spent
  | «over» outcome =>
    cases outcome with
    | verified method =>
      cases method with
      | totp => cases claims
      | backup =>
        obtain ⟨other, carried, _, spent⟩ := fits
        cases carried.symm.trans claims
        cases spent with
        | inl login =>
          left
          simp [Call.holds, claims, login]
        | inr spent => exact .inr spent
    | _ => cases claims
  | _ => cases claims

section

variable (kept : Kept runtime issue apart before) (found : before.calls[index]? = some call)

include kept found

theorem Kept.put (new : Call) (fits : new.Fits runtime issue after.codes) (codes : Marked before.codes after.codes)
    (claims : new.claim = none ∨ new.claim = call.claim ∨
      ∃ code, new.claim = some code ∧ (apart → ∀ other ∈ before.calls, other.claim ≠ some code))
    (user : after.user = before.user) (calls : after.calls = before.calls.set index new) : Kept runtime issue apart after := by
  constructor
  · exact user.trans kept.user
  · exact kept.codes.trans codes
  · intro other member
    rw [calls] at member
    cases List.mem_or_eq_of_mem_set member with
    | inl earlier => exact (kept.fits other earlier).later codes
    | inr here =>
      subst here
      exact fits
  · intro all
    rw [calls]
    rcases claims with unclaimed | same | ⟨code, claims, free⟩
    · apply (kept.exclusive all).set_idle
      rw [unclaimed]
      rfl
    · apply (kept.exclusive all).set found same
      intro alive
      rwa [← same]
    · apply (kept.exclusive all).enter
      intro other member same
      exact absurd (same.trans claims) (free all other member)

theorem Kept.goOn (phase : Phase) (fits : Call.Fits runtime issue before.codes { call with phase := phase })
    (unclaimed : Call.claim { call with phase := phase } = none) :
    Kept runtime issue apart (before.goOn index call phase) :=
  kept.put found { call with phase := phase } fits .refl (.inl unclaimed) rfl rfl

theorem Kept.refuse (error : String) : Kept runtime issue apart (before.refuse index call error) :=
  kept.goOn found _ trivial rfl

theorem Kept.find : Kept runtime issue apart (before.find index call) := by
  unfold Server.find
  split
  · exact kept.refuse found _
  · split
    · exact kept.refuse found _
    · split
      · exact kept.refuse found _
      · exact kept.goOn found _ trivial rfl

end

theorem fits_afterToken {unrecorded : Bool} :
    Call.Fits runtime issue codes { call with phase := Server.afterToken call.task.request, unrecorded := unrecorded } := by
  unfold Server.afterToken
  cases carried : truthy call.task.request.backupCode with
  | none => trivial
  | some code => exact carried

theorem claim_afterToken {unrecorded : Bool} :
    Call.claim { call with phase := Server.afterToken call.task.request, unrecorded := unrecorded } = none := by
  unfold Server.afterToken
  cases truthy call.task.request.backupCode with
  | none | some code => rfl

theorem Kept.checkLock (kept : Kept runtime issue apart before) (found : before.calls[index]? = some call) {user : User} :
    Kept runtime issue apart (before.checkLock runtime index call user) := by
  unfold Server.checkLock
  split
  · exact kept.goOn found _ trivial rfl
  · split
    · exact kept.goOn found _ fits_afterToken claim_afterToken
    · split
      · exact kept.goOn found _ trivial rfl
      · exact kept.put found _ fits_afterToken .refl (.inl claim_afterToken) rfl rfl

theorem match_eq_none_of_spent (spent : Spent runtime before.codes code) : before.match? runtime code = none := by
  unfold Server.match?
  rw [List.find?_eq_none]
  intro row member
  by_cases matched : runtime.bcrypt.compare code row.code_hash = true
  · simp [spent row member matched]
  · simp [matched]

theorem issued_of_row {row : BackupCode} (member : row ∈ issue.codes)
    (matched : runtime.bcrypt.compare code row.code_hash = true) : issue.IsIssued code := by
  obtain ⟨other, salt, hash⟩ := issue.hashed row member
  rw [hash, runtime.bcrypt.exact] at matched
  cases of_decide_eq_true matched
  exact .inl ⟨row, member, salt, hash⟩

theorem issued_of_item {found : User} {list : List Item} {item : Item} (user : issue.user = some found)
    (there : found.backup_codes = some (.items list)) (member : item ∈ list) (accepts : item.accepts runtime code = true) :
    issue.IsIssued code := by
  obtain ⟨other, salt, hash⟩ := issue.hashedItems found list user there item member
  have matched : runtime.bcrypt.compare code item.code_hash = true := by
    cases item with
    | text code_hash => exact accepts
    | object row => exact (Bool.and_eq_true_iff.mp accepts).2
  rw [hash, runtime.bcrypt.exact] at matched
  cases of_decide_eq_true matched
  exact .inr ⟨found, list, user, there, item, member, salt, hash⟩

section

variable (kept : Kept runtime issue apart before) (found : before.calls[index]? = some call)

include kept found

theorem Kept.readCodes (phase : call.phase = .readingCodes code)
    (unclaimed : apart → (before.match? runtime code).isNone = true ∨ ∀ other ∈ before.calls, other.holds code = false) :
    Kept runtime issue apart (before.readCodes runtime index call code) := by
  have carried : call.code? = some code := by
    have fits := kept.fits call (List.mem_of_getElem? found)
    unfold Call.Fits at fits
    rw [phase] at fits
    exact fits
  unfold Server.readCodes
  cases matched : before.match? runtime code with
  | none =>
    show Kept runtime issue apart (before.reject index call .incrementing)
    exact kept.put found { call with phase := .incrementing, unrecorded := true } trivial .refl (.inl rfl) rfl rfl
  | some row =>
    show Kept runtime issue apart (before.goOn index call (.marking row))
    have member : row ∈ before.codes := List.mem_of_find?_eq_some matched
    have compares : runtime.bcrypt.compare code row.code_hash = true := by
      have both := List.find?_some matched
      exact (Bool.and_eq_true_iff.mp both).2
    obtain ⟨origin, among, id, code_hash, _⟩ := kept.codes.origin row member
    have issued : issue.IsIssued code := issued_of_row among (code_hash ▸ compares)
    refine kept.put found { call with phase := .marking row } ?_ .refl ?_ rfl rfl
    · exact ⟨code, carried, issued, compares, origin, among, id, code_hash⟩
    · right
      right
      refine ⟨code, carried, ?_⟩
      intro all other earlier claims
      cases unclaimed all with
      | inl none => simp_all
      | inr free =>
        cases (kept.fits other earlier).holds_or_spent claims with
        | inl holds => exact Bool.false_ne_true ((free other earlier).symm.trans holds)
        | inr spent => simp_all [match_eq_none_of_spent]

theorem Kept.mark {row : BackupCode}
    (phase : call.phase = .marking row) : Kept runtime issue apart (before.mark index call row) := by
  have fits := kept.fits call (List.mem_of_getElem? found)
  unfold Call.Fits at fits
  rw [phase] at fits
  obtain ⟨code, carried, issued, compares, origin, among, id, code_hash⟩ := fits
  refine kept.put found { call with phase := .resetting .backup } ?_ ?_ ?_ rfl rfl
  · refine ⟨code, carried, issued, ?_⟩
    intro other member matched
    obtain ⟨earlier, there, same⟩ := List.mem_map.mp member
    obtain ⟨first, listed, first_id, first_hash, _⟩ := kept.codes.origin earlier there
    have hash : other.code_hash = first.code_hash := by grind
    have same_row : first.id = origin.id := by
      apply issue.single first listed origin among code
      · rwa [← hash]
      · rwa [code_hash]
    have marked : earlier.id = row.id := first_id.symm.trans (same_row.trans id)
    rw [← same, if_pos marked]
  · constructor
    intro other member
    obtain ⟨earlier, there, same⟩ := List.mem_map.mp member
    refine ⟨earlier, there, ?_, ?_, ?_⟩
    · rw [← same]
      split
      · rfl
      · rfl
    · rw [← same]
      split
      · rfl
      · rfl
    · grind
  · right
    left
    unfold Call.claim
    rw [phase]
    rfl

theorem Kept.resetFailures {method : Method}
    (phase : call.phase = .resetting method) : Kept runtime issue apart (before.resetFailures index call method) := by
  have fits := kept.fits call (List.mem_of_getElem? found)
  unfold Call.Fits at fits
  rw [phase] at fits
  refine kept.put found { call with phase := .over (.verified method), unrecorded := false } ?_ .refl ?_ rfl rfl
  · cases method with
    | totp => trivial
    | backup =>
      obtain ⟨code, carried, issued, spent⟩ := fits
      exact ⟨code, carried, issued, .inr spent⟩
  · cases method with
    | totp => exact .inl rfl
    | backup =>
      right
      left
      unfold Call.claim
      rw [phase]
      rfl

end

/-- The operation after a failure is recorded. -/
def Call.afterRecord (call : Call) (count : ℕ) : Call :=
  { call with
    phase := if count = 1 then .expiring 1 else .over (.refused (Server.failureText count))
    unrecorded := false }

theorem fits_afterRecord (count : ℕ) : (call.afterRecord count).Fits runtime issue codes := by
  unfold Call.afterRecord
  split
  · trivial
  · trivial

theorem claim_afterRecord (count : ℕ) : (call.afterRecord count).claim = none := by
  unfold Call.afterRecord
  split
  · rfl
  · rfl

section

variable (kept : Kept runtime issue apart before) (found : before.calls[index]? = some call)

include kept found

theorem Kept.incrementFailures : Kept runtime issue apart (before.incrementFailures index call) := by
  unfold Server.incrementFailures
  split
  · exact kept.put found (call.afterRecord _) (fits_afterRecord _) .refl (.inl (claim_afterRecord _)) rfl rfl
  · exact kept.put found { call with phase := .over (.refused _), unrecorded := false } trivial .refl (.inl rfl) rfl rfl

theorem Kept.expire (count : ℕ) : Kept runtime issue apart (before.expire index call count) := by
  unfold Server.expire
  split
  · exact kept.put found { call with phase := .over (.refused _) } trivial .refl (.inl rfl) rfl rfl
  · exact kept.goOn found _ trivial rfl

theorem Kept.checkCodes {user : User} (phase : call.phase = .checkingCodes user)
    (unclaimed : apart → isUnclaimed runtime before (.next index) = true) :
    Kept runtime issue apart (before.checkCodes runtime index call user) := by
  have fits := kept.fits call (List.mem_of_getElem? found)
  unfold Call.Fits at fits
  rw [phase] at fits
  unfold Server.checkCodes
  split
  · exact kept.refuse found _
  · split
    · exact kept.goOn found _ trivial rfl
    · rename_i rejected
      split
      · rename_i code list carried there
        have carried : call.code? = some code := carried
        split
        · rename_i accepted
          have free : apart → ∀ other ∈ before.calls, other.claim ≠ some code := by
            intro all
            have valid := unclaimed all
            simpa only [isUnclaimed, found, Option.all_some, phase, Bool.eq_false_iff.mpr rejected, carried, there, accepted,
              Bool.false_or, Bool.not_true, List.all_eq_true, decide_eq_true_eq] using valid
          obtain ⟨item, member, accepts⟩ := List.any_eq_true.mp accepted
          refine kept.put found { call with phase := .over (.verified .backup) } ?_ .refl ?_ rfl rfl
          · exact ⟨code, carried, issued_of_item fits.1 there member accepts, .inl fits.2⟩
          · exact .inr (.inr ⟨code, carried, free⟩)
        · exact kept.refuse found _
      · split
        · exact kept.refuse found _
        · exact kept.goOn found _ trivial rfl
      · exact kept.refuse found _

theorem Kept.operate (unclaimed : apart → isUnclaimed runtime before (.next index) = true)
    (done : before.operate runtime index call = some after) : Kept runtime issue apart after := by
  unfold Server.operate at done
  split at done
  · split at done
    · cases done
      exact kept.find found
    · rename_i request task
      cases done
      cases there : before.user with
      | none => exact kept.goOn found _ trivial rfl
      | some user =>
        refine kept.goOn found (.checkingCodes user) ⟨?_, ?_⟩ rfl
        · rw [← kept.user, there]
        · show call.task.isLogin = true
          rw [task]
          rfl
  · cases done
    exact kept.checkLock found
  · cases done
    exact kept.refuse found _
  · rename_i code phase
    cases done
    apply kept.readCodes found phase
    intro all
    have valid := unclaimed all
    simpa [isUnclaimed, found, phase] using valid
  · cases done
    exact kept.mark found ‹_›
  · cases done
    exact kept.resetFailures found ‹_›
  · cases done
    exact kept.incrementFailures found
  · cases done
    exact kept.expire found _
  · cases done
    exact kept.checkCodes found ‹_› unclaimed
  · cases done

theorem Kept.throw (done : before.throw index call = some after) : Kept runtime issue apart after := by
  unfold Server.throw at done
  split at done
  · cases done
    exact kept.goOn found _ trivial rfl
  · cases done
    exact kept.goOn found _ trivial rfl
  · cases done
  · cases done
    exact kept.goOn found _ trivial rfl

end

theorem Kept.append (kept : Kept runtime issue apart before) (task : Task) :
    Kept runtime issue apart { before with calls := before.calls ++ [⟨task, .finding, false⟩] } where
  user := kept.user
  codes := kept.codes
  fits call member := by
    cases List.mem_append.mp member with
    | inl earlier => exact kept.fits call earlier
    | inr here =>
      cases List.mem_singleton.mp here
      trivial
  exclusive all := (kept.exclusive all).append_idle rfl

theorem Kept.step (kept : Kept runtime issue apart before) (unclaimed : apart → isUnclaimed runtime before label = true)
    (move : step runtime before label after) : Kept runtime issue apart after := by
  unfold SecondFactor.step at move
  cases label with
  | tick time =>
    cases move
    exact ⟨kept.user, kept.codes, kept.fits, kept.exclusive⟩
  | redis isOpen =>
    cases move
    exact ⟨kept.user, kept.codes, kept.fits, kept.exclusive⟩
  | verifyWithdrawal2FA request =>
    cases move
    exact kept.append _
  | login request =>
    cases move
    exact kept.append _
  | next index =>
    obtain ⟨call, found, done⟩ := Option.bind_eq_some_iff.mp move
    exact kept.operate found unclaimed done
  | fail index =>
    obtain ⟨call, found, done⟩ := Option.bind_eq_some_iff.mp move
    exact kept.throw found done

theorem kept_initial {now : ℕ} {isOpen : Bool} : Kept runtime issue apart (.initial issue.user issue.codes now isOpen) := by
  constructor
  · rfl
  · exact .refl
  · intro call member
    cases member
  · intro _
    exact Exclusive.nil

theorem claim_of_isAccepted (accepted : call.isAccepted = true) : call.claim = call.code? := by
  have ended : call.phase = .over (.verified .backup) := of_decide_eq_true accepted
  unfold Call.claim
  rw [ended]

theorem Kept.accepted (kept : Kept runtime issue apart server) (member : call ∈ server.calls)
    (accepted : call.isAccepted = true) : ∃ code, call.code? = some code ∧ issue.IsIssued code := by
  have ended : call.phase = .over (.verified .backup) := of_decide_eq_true accepted
  have fits := kept.fits call member
  unfold Call.Fits at fits
  rw [ended] at fits
  obtain ⟨code, carried, issued, _⟩ := fits
  exact ⟨code, carried, issued⟩

theorem Kept.singleUse (kept : Kept runtime issue apart server) (all : apart) : SingleUse server := by
  intro index other first second found held once again same
  have claims : ∀ call ∈ server.calls, call.isAccepted = true → call.claim.isSome = true := by
    intro call member accepted
    obtain ⟨code, carried, _⟩ := kept.accepted member accepted
    rw [claim_of_isAccepted accepted, carried]
    rfl
  apply kept.exclusive all index other first second found held
  · exact claims first (List.mem_of_getElem? found) once
  · exact claims second (List.mem_of_getElem? held) again
  · rw [claim_of_isAccepted once, claim_of_isAccepted again, same]

variable {now : ℕ} {isOpen : Bool} {trace : List Label} {last : Server}

/-- Only issued codes are accepted, and each once where no call matches a code that another holds. -/
theorem backupCodes_follow (run : Run (step runtime) (.initial issue.user issue.codes now isOpen) trace last) :
    OnlyIssued issue last ∧ (Throughout (step runtime) (.initial issue.user issue.codes now isOpen)
        (fun before label _ => isUnclaimed runtime before label = true) trace → SingleUse last) := by
  constructor
  · have kept : Kept runtime issue False last := by
      apply run.invariant fun _ server => Kept runtime issue False server
      · exact kept_initial
      · intro trace before label after kept move
        exact kept.step False.elim move
    intro call member accepted
    exact kept.accepted member accepted
  · intro every
    have kept : Kept runtime issue True last := by
      apply run.kept every (Kept runtime issue True) kept_initial
      intro before label after kept move unclaimed
      exact kept.step (fun _ => unclaimed) move
    exact kept.singleUse trivial

def codesSample : List BackupCode :=
  [⟨"1", "A1B2C3-D4E5F6", false⟩, ⟨"2", "0A0B0C-0D0E0F", false⟩]

theorem id_codesSample : ∀ first ∈ codesSample, ∀ second ∈ codesSample, first.code_hash = second.code_hash →
    first.id = second.id := by decide

def issueSample : Issue runtimeSample.bcrypt where
  user := some userSample
  codes := codesSample
  hashed row _ := ⟨row.code_hash, "", rfl⟩
  hashedItems _ _ _ _ item _ := ⟨item.code_hash, "", rfl⟩
  single first among second listed _ matched again :=
    id_codesSample first among second listed ((of_decide_eq_true matched).symm.trans (of_decide_eq_true again))

def withCode (code : String) : Label :=
  .verifyWithdrawal2FA ⟨none, some code⟩

/-- A code is accepted, and refused when it comes again. -/
def acceptedOnce : List Label :=
  [withCode "A1B2C3-D4E5F6", .next 0, .next 0, .next 0, .next 0, .next 0, withCode "A1B2C3-D4E5F6", .next 1, .next 1, .next 1]

theorem acceptedOnce_follows : ∃ last : Server, last.calls.map Call.isAccepted = [true, false] ∧
    OnlyIssued issueSample last ∧ SingleUse last := by
  have followed : (acceptedOnce.foldlM (Server.perform runtimeSample)
      (.initial issueSample.user issueSample.codes 0 true)).map (fun server => server.calls.map Call.isAccepted) =
        some [true, false] := by decide
  obtain ⟨last, reached, accepted⟩ := Option.map_eq_some_iff.mp followed
  obtain ⟨issued, single⟩ := backupCodes_follow (Run.follow reached)
  exact ⟨last, accepted, issued, single (throughout_follow (by decide))⟩

/-- Two withdrawals read a code before one of them marks it. -/
def acceptedTwice : List Label :=
  [withCode "A1B2C3-D4E5F6", withCode "A1B2C3-D4E5F6", .next 0, .next 1, .next 0, .next 1, .next 0, .next 1, .next 0, .next 1,
    .next 0, .next 1]

theorem acceptedTwice_not_single : ¬∀ (runtime : Runtime) (issue : Issue runtime.bcrypt) (now : ℕ) (isOpen : Bool)
    (trace : List Label) (last : Server), Run (step runtime) (.initial issue.user issue.codes now isOpen) trace last →
      OnlyIssued issue last ∧ SingleUse last := by
  intro always
  have followed : (acceptedTwice.foldlM (Server.perform runtimeSample)
      (.initial issueSample.user issueSample.codes 0 true)).map (fun server =>
        server.calls.map fun call => (call.isAccepted, call.code?)) =
          some [(true, some "A1B2C3-D4E5F6"), (true, some "A1B2C3-D4E5F6")] := by decide
  obtain ⟨last, reached, accepted⟩ := Option.map_eq_some_iff.mp followed
  have single := (always runtimeSample issueSample 0 true acceptedTwice last (Run.follow reached)).2
  have first := congrArg (·[0]?) accepted
  have second := congrArg (·[1]?) accepted
  simp only [List.getElem?_map] at first second
  obtain ⟨one, found, once⟩ := Option.map_eq_some_iff.mp first
  obtain ⟨two, held, again⟩ := Option.map_eq_some_iff.mp second
  have same := single 0 1 one two found held (congrArg Prod.fst once) (congrArg Prod.fst again)
    ((congrArg Prod.snd once).trans (congrArg Prod.snd again).symm)
  exact absurd same (by decide)

end ProxyPay.SecondFactor
