import ProxyPay.Library.Text
import ProxyPay.Library.Transition

/-! Verifications of the second factor of one user, for withdrawals and for suspicious logins. A step is one operation of
Redis or of the database, with the code up to the next. -/

namespace ProxyPay.SecondFactor

open ProxyPay.Library ProxyPay.Library.Text

/-- `bcrypt`, where a hash is made with a salt and matches the code that it was made of only. -/
structure Bcrypt where
  hash : String → String → String
  compare : String → String → Bool
  exact : ∀ code other salt, compare code (hash other salt) = decide (code = other)

structure Runtime where
  bcrypt : Bcrypt
  /-- Whether a token is right for a secret at a time. -/
  verifyTOTPToken : String → String → ℕ → Bool

def MAX_ATTEMPTS : ℕ := 3

def LOCKOUT_DURATION_SECONDS : ℕ := 15 * 60

/-- A row of `backup_codes`. -/
structure BackupCode where
  id : String
  code_hash : String
  used : Bool
  deriving DecidableEq

/-- An item of the list `user.backup_codes`: a hash, or a record with one. -/
inductive Item where
  | text (code_hash : String)
  | object (code : BackupCode)
  deriving DecidableEq

/-- `user.backup_codes`, for which the table has a text column. -/
inductive BackupCodes where
  | text (column : String)
  | items (list : List Item)
  deriving DecidableEq

structure User where
  two_factor_secret : Option String
  two_factor_enabled : Bool
  two_factor_verified : Bool
  mandatory2FAWithdrawals : Bool
  backup_codes : Option BackupCodes
  deriving DecidableEq

def is2FAEnabled (user : User) : Bool :=
  (truthy user.two_factor_secret).isSome && user.two_factor_enabled && user.two_factor_verified

/-- The counter of failures. Redis forgets it at a time. -/
structure Failures where
  count : ℕ
  expiresAt : Option ℕ
  deriving DecidableEq

inductive Method where
  | totp
  | backup
  deriving DecidableEq

inductive Outcome where
  | verified (method : Method)
  | refused (error : String)
  | threw
  deriving DecidableEq

structure TwoFactorVerificationRequest where
  token : Option String
  backupCode : Option String
  deriving DecidableEq

inductive Task where
  | verifyWithdrawal2FA (request : TwoFactorVerificationRequest)
  /-- The check of a suspicious login, with its header and its body. -/
  | login (request : TwoFactorVerificationRequest)
  deriving DecidableEq

def Task.request : Task → TwoFactorVerificationRequest
  | .verifyWithdrawal2FA request => request
  | .login request => request

/-- The operation that comes next. -/
inductive Phase where
  | finding
  | checkingLock (user : User)
  | readingTime
  | readingCodes (code : String)
  | marking (row : BackupCode)
  | resetting (method : Method)
  | incrementing
  | expiring (count : ℕ)
  | checkingCodes (user : User)
  | over (outcome : Outcome)
  deriving DecidableEq

/-- A call, and whether a wrong code of it was evaluated and is not yet recorded. -/
structure Call where
  task : Task
  phase : Phase
  unrecorded : Bool
  deriving DecidableEq

/-- What happened to the withdrawals, with its time. -/
inductive Event where
  | wrong (time : ℕ)
  | recorded (time count : ℕ)
  | succeeded (time : ℕ)
  deriving DecidableEq

structure Server where
  now : ℕ
  isOpen : Bool
  failures : Option Failures
  user : Option User
  codes : List BackupCode
  calls : List Call
  events : List Event

def Server.initial (user : Option User) (codes : List BackupCode) (now : ℕ) (isOpen : Bool) : Server :=
  ⟨now, isOpen, none, user, codes, [], []⟩

inductive Label where
  | tick (time : ℕ)
  | redis (isOpen : Bool)
  | verifyWithdrawal2FA (request : TwoFactorVerificationRequest)
  | login (request : TwoFactorVerificationRequest)
  | next (index : ℕ)
  | fail (index : ℕ)

/-- An item that is not used matches a code, as `verifyBackupCode` of the login compares it. -/
def Item.accepts (runtime : Runtime) (code : String) : Item → Bool
  | .text code_hash => runtime.bcrypt.compare code code_hash
  | .object row => !row.used && runtime.bcrypt.compare code row.code_hash

def suspicious : String :=
  "Suspicious login detected. Provide X-2FA-Token header or backupCode to continue."

namespace Server

variable (server : Server)

variable (index : ℕ)

def put (call : Call) : Server :=
  { server with calls := server.calls.set index call }

def goOn (call : Call) (phase : Phase) : Server :=
  server.put index { call with phase := phase }

def refuse (call : Call) (error : String) : Server :=
  server.goOn index call (.over (.refused error))

/-- A wrong code of the call was evaluated. -/
def reject (call : Call) (phase : Phase) : Server :=
  { server.put index { call with phase := phase, unrecorded := true } with
    events := server.events ++ [.wrong server.now] }

/-- The counter that Redis has not forgotten. -/
def attempts : Option Failures :=
  server.failures.filter fun failures => !failures.expiresAt.any (· ≤ server.now)

def isLocked : Bool :=
  server.isOpen && server.attempts.any fun failures => MAX_ATTEMPTS ≤ failures.count

def getLockoutTimeRemaining : ℕ :=
  if server.isOpen then
    match server.attempts.bind (·.expiresAt) with
    | some time => (time - server.now + 500) / 1000
    | none => 0
  else 0

/-- The first steps of `verifyWithdrawal2FA`, up to the lock. -/
def find (call : Call) : Server :=
  match server.user with
  | none => server.refuse index call "User not found"
  | some user =>
    if is2FAEnabled user = false then server.refuse index call "2FA not enabled for user"
    else if user.mandatory2FAWithdrawals = false then
      server.refuse index call "User has not opted into mandatory 2FA withdrawals"
    else server.goOn index call (.checkingLock user)

/-- The operation after a token that was not accepted. -/
def afterToken (request : TwoFactorVerificationRequest) : Phase :=
  match truthy request.backupCode with
  | some code => .readingCodes code
  | none => .incrementing

variable (runtime : Runtime)

def checkLock (server : Server) (index : ℕ) (call : Call) (user : User) : Server :=
  if server.isLocked then server.goOn index call .readingTime
  else
    match truthy call.task.request.token with
    | none => server.goOn index call (afterToken call.task.request)
    | some token =>
      if runtime.verifyTOTPToken (user.two_factor_secret.getD "") token server.now then
        server.goOn index call (.resetting .totp)
      else server.reject index call (afterToken call.task.request)

/-- The unused row that the code matches. -/
def match? (server : Server) (code : String) : Option BackupCode :=
  server.codes.find? fun row => !row.used && runtime.bcrypt.compare code row.code_hash

def readCodes (server : Server) (index : ℕ) (call : Call) (code : String) : Server :=
  match server.match? runtime code with
  | some row => server.goOn index call (.marking row)
  | none => server.reject index call .incrementing

def mark (call : Call) (row : BackupCode) : Server :=
  { server.goOn index call (.resetting .backup) with
    codes := server.codes.map fun other => if other.id = row.id then { other with used := true } else other }

def resetFailures (call : Call) (method : Method) : Server :=
  { server.put index { call with phase := .over (.verified method), unrecorded := false } with
    failures := if server.isOpen then none else server.failures
    events := server.events ++ [.succeeded server.now] }

def failureText (count : ℕ) : String :=
  let triesLeft := MAX_ATTEMPTS - count
  if 0 < triesLeft then s!"Invalid 2FA token or backup code. {triesLeft} attempts remaining."
  else "Too many failed attempts. 2FA is now locked for 15 minutes."

def incrementFailures (call : Call) : Server :=
  if server.isOpen then
    let failures : Failures := match server.attempts with
      | some failures => { failures with count := failures.count + 1 }
      | none => ⟨1, none⟩
    let phase := if failures.count = 1 then .expiring 1 else .over (.refused (failureText failures.count))
    { server.put index { call with phase := phase, unrecorded := false } with
      failures := some failures
      events := server.events ++ [.recorded server.now failures.count] }
  else server.put index { call with phase := .over (.refused (failureText 0)), unrecorded := false }

def expire (call : Call) (count : ℕ) : Server :=
  if server.isOpen then
    { server.refuse index call (failureText count) with
      failures := match server.attempts with
        | some failures => some { failures with expiresAt := some (server.now + LOCKOUT_DURATION_SECONDS * 1000) }
        | none => server.failures }
  else server.goOn index call (.over .threw)

/-- The token of a login is right. -/
def acceptsToken (server : Server) (user : User) (request : TwoFactorVerificationRequest) : Bool :=
  (truthy request.token).any fun token => runtime.verifyTOTPToken (user.two_factor_secret.getD "") token server.now

/-- The check of a suspicious login. -/
def checkCodes (server : Server) (index : ℕ) (call : Call) (user : User) : Server :=
  if is2FAEnabled user = false then
    server.refuse index call "Anomalous login was blocked. Enable two-factor authentication and retry."
  else if server.acceptsToken runtime user call.task.request then
    server.goOn index call (.over (.verified .totp))
  else
    match truthy call.task.request.backupCode, user.backup_codes with
    | some code, some (.items list) =>
      if list.any (Item.accepts runtime code) then server.goOn index call (.over (.verified .backup))
      else server.refuse index call suspicious
    -- A text has no `map`.
    | some _, some (.text column) =>
      if column = "" then server.refuse index call suspicious else server.goOn index call (.over .threw)
    | _, _ => server.refuse index call suspicious

/-- The next operation of a call. -/
def operate (server : Server) (index : ℕ) (call : Call) : Option Server :=
  match call.phase with
  | .finding =>
    match call.task with
    | .verifyWithdrawal2FA _ => some (server.find index call)
    | .login _ => some (server.goOn index call (server.user.elim (.over .threw) .checkingCodes))
  | .checkingLock user => some (server.checkLock runtime index call user)
  | .readingTime => some (server.refuse index call
      s!"2FA locked. Too many failed attempts. Try again in {(server.getLockoutTimeRemaining + 59) / 60} minutes.")
  | .readingCodes code => some (server.readCodes runtime index call code)
  | .marking row => some (server.mark index call row)
  | .resetting method => some (server.resetFailures index call method)
  | .incrementing => some (server.incrementFailures index call)
  | .expiring count => some (server.expire index call count)
  | .checkingCodes user => some (server.checkCodes runtime index call user)
  | .over _ => none

/-- An operation fails. `verifyBackupCode` of the service takes the error for a wrong code. -/
def throw (call : Call) : Option Server :=
  match call.phase with
  | .readingCodes _ => some (server.goOn index call .incrementing)
  | .marking _ => some (server.goOn index call .incrementing)
  | .over _ => none
  | _ => some (server.goOn index call (.over .threw))

def perform (server : Server) : Label → Option Server
  | .tick time => some { server with now := server.now + time }
  | .redis isOpen => some { server with isOpen := isOpen }
  | .verifyWithdrawal2FA request =>
    some { server with calls := server.calls ++ [⟨.verifyWithdrawal2FA request, .finding, false⟩] }
  | .login request => some { server with calls := server.calls ++ [⟨.login request, .finding, false⟩] }
  | .next index => server.calls[index]?.bind (server.operate runtime index)
  | .fail index => server.calls[index]?.bind (server.throw index)

end Server

def step (runtime : Runtime) (before : Server) (label : Label) (after : Server) : Prop :=
  before.perform runtime label = some after

end ProxyPay.SecondFactor
