import ProxyPay.Library.Hex

/-! Logins, refresh requests and logouts over `refresh_token_families`, whose calls to the table interleave. A token is
known by its position among those issued, and a family by its number. -/

namespace ProxyPay.Auth

open ProxyPay.Library

structure RefreshTokenPayload where
  userId : String
  familyId : ℕ
  parentTokenId : Option ℕ
  deriving DecidableEq

/-- A row of `refresh_token_families`. -/
structure RefreshTokenFamily where
  id : BitVec 128
  user_id : String
  family_id : ℕ
  token : ℕ
  parent_token : Option ℕ
  is_revoked : Bool
  deriving DecidableEq

/-- Where a refresh request stands, or how it ended. -/
inductive Refresh where
  | verified (token : ℕ)
  | rotated (token newRefreshToken : ℕ)
  | refused (token : ℕ)
  deriving DecidableEq

structure Tokens where
  issued : List RefreshTokenPayload
  families : ℕ
  rows : List RefreshTokenFamily
  requests : List Refresh
  /-- The families of which a token was presented again after it had been exchanged. -/
  replayed : List ℕ
  /-- The tokens whose rows a logout has deleted. -/
  loggedOut : List ℕ
  deriving DecidableEq

def Tokens.initial : Tokens :=
  ⟨[], 0, [], [], [], []⟩

/-- `verifies` is whether the signature of the token is valid and its time not over. -/
inductive Label where
  | login (userId : String) (id : BitVec 128)
  | refresh (token : ℕ) (verifies : Bool)
  | rotate (request : ℕ) (id : BitVec 128)
  | fail (request : ℕ)
  | revoke (userId : String) (familyId : ℕ) (tokenId : String)
  | revokeAll (userId : String) (familyId : ℕ)
  deriving DecidableEq

/-- The row that `revokeFamily` looks for. -/
def RefreshTokenFamily.isNamed (id : BitVec 128) (userId : String) (familyId : ℕ) (row : RefreshTokenFamily) : Bool :=
  row.id = id && row.user_id = userId && row.family_id = familyId

/-- The rows that `revokeFamily` deletes, if it does not throw. A text that is no UUID is an error of the query. -/
def revokeFamily (rows : List RefreshTokenFamily) (familyId : ℕ) (userId tokenId : String) :
    Option (RefreshTokenFamily → Bool) :=
  match Uuid.read tokenId with
  | none => none
  | some id =>
    if rows.any (RefreshTokenFamily.isNamed id userId familyId) then some (RefreshTokenFamily.isNamed id userId familyId)
    else none

namespace Tokens

variable (tokens : Tokens)

variable (kind : RefreshTokenFamily → Bool)

/-- The rows of this kind are deleted. -/
def delete : Tokens :=
  { tokens with rows := tokens.rows.filter fun row => !kind row }

def logout : Tokens :=
  { tokens.delete kind with
    loggedOut := tokens.loggedOut ++ (tokens.rows.filter kind).map RefreshTokenFamily.token }

/-- `generateRefreshToken` -/
def generate (payload : RefreshTokenPayload) (id : BitVec 128) : Tokens :=
  { tokens with
    issued := tokens.issued ++ [payload]
    rows := tokens.rows ++
      [⟨id, payload.userId, payload.familyId, tokens.issued.length, payload.parentTokenId, false⟩] }

def respond (request : Refresh) : Tokens :=
  { tokens with requests := tokens.requests ++ [request] }

def become (request : ℕ) (next : Refresh) : Tokens :=
  { tokens with requests := tokens.requests.set request next }

variable (token : ℕ)

/-- `verifyRefreshToken`, which names no row when it revokes the family of a token that it does not find. -/
def verify (payload : RefreshTokenPayload) (verifies : Bool) : Tokens :=
  if !verifies then tokens.respond (.refused token)
  else
    match tokens.rows.find? (·.token = token) with
    | some ⟨_, _, _, _, _, false⟩ => tokens.respond (.verified token)
    | _ =>
      match revokeFamily tokens.rows payload.familyId payload.userId "reuse_detected" with
      | some kind => (tokens.delete kind).respond (.refused token)
      | none => tokens.respond (.refused token)

def isExchanged : Bool :=
  tokens.requests.any fun request =>
    match request with
    | .rotated old _ => old = token
    | _ => false

/-- A token that has been exchanged is presented. -/
def notice (payload : RefreshTokenPayload) : Tokens :=
  if tokens.isExchanged token then { tokens with replayed := tokens.replayed ++ [payload.familyId] } else tokens

def perform : Label → Option Tokens
  | .login userId id =>
    if tokens.rows.any (·.id = id) then none
    else some { tokens.generate ⟨userId, tokens.families, none⟩ id with families := tokens.families + 1 }
  | .refresh token verifies =>
    match tokens.issued[token]? with
    | none => none
    | some payload => some ((tokens.notice token payload).verify token payload verifies)
  | .rotate request id =>
    match tokens.requests[request]? with
    | some (.verified token) =>
      match tokens.issued[token]? with
      | none => none
      | some payload =>
        if tokens.rows.any (·.id = id) then none
        else some ((tokens.become request (.rotated token tokens.issued.length)).generate
          ⟨payload.userId, payload.familyId, some token⟩ id)
    | _ => none
  | .fail request =>
    match tokens.requests[request]? with
    | some (.verified token) => some (tokens.become request (.refused token))
    | _ => none
  | .revoke userId familyId tokenId =>
    match revokeFamily tokens.rows familyId userId tokenId with
    | some kind => some (tokens.logout kind)
    | none => some tokens
  | .revokeAll userId familyId => some (tokens.logout fun row => row.user_id = userId && row.family_id = familyId)

def familyOf : Option ℕ :=
  tokens.issued[token]?.map RefreshTokenPayload.familyId

/-- How often the token has been exchanged. -/
def exchanges : ℕ :=
  tokens.requests.countP fun request =>
    match request with
    | .rotated old _ => old = token
    | _ => false

end Tokens

def step (before : Tokens) (label : Label) (after : Tokens) : Prop :=
  before.perform label = some after

/-- What a step may do: a token is exchanged once; one that was exchanged, or whose family has seen one presented again,
is refused, and a request that is under way gets no pair any more; any other token is accepted unless it is logged out. -/
structure Rotates (before : Tokens) (label : Label) (after : Tokens) : Prop where
  once : ∀ token, after.exchanges token ≤ 1
  detects : ∀ token verifies family, label = .refresh token verifies → before.familyOf token = some family →
    before.isExchanged token = true ∨ family ∈ before.replayed → after.requests.getLast? = some (.refused token)
  revokes : ∀ request id token family, label = .rotate request id → before.requests[request]? = some (.verified token) →
    before.familyOf token = some family → family ∉ before.replayed
  works : ∀ token family, label = .refresh token true → before.familyOf token = some family →
    before.isExchanged token = false → family ∉ before.replayed → token ∉ before.loggedOut →
    after.requests.getLast? = some (.verified token)

end ProxyPay.Auth
