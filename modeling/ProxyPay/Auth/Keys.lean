import Mathlib.Data.Int.Notation
import ProxyPay.Library.Text

/-! The keys of JSON web tokens, which are read from the environment whenever a token is made or verified. -/

namespace ProxyPay.Auth

open ProxyPay.Library.Text

/-- The variables with the keys. -/
structure KeyEnvironment where
  JWT_SECRET : Option String
  JWT_KEY_ID : Option String
  JWT_PREVIOUS_SECRET : Option String
  JWT_PREVIOUS_KEY_ID : Option String
  JWT_PREVIOUS_KEY_ISSUED_AT : Option String
  deriving DecidableEq

/-- Seven days in milliseconds. -/
def KEY_ROTATION_GRACE_PERIOD_MS : ℤ :=
  7 * 24 * 60 * 60 * 1000

/-- A key, with the time from which it is rejected. A time that is no number is `none` within. -/
structure JwtKeyEntry where
  keyId : String
  secret : String
  expiresAt : Option ℤ
  deriving DecidableEq

/-- A token, with the secret that its signature was made with and the second from which it has expired. -/
structure SignedToken (Payload : Type) where
  kid : Option String
  secret : String
  exp : Option ℕ
  payload : Payload
  deriving DecidableEq

variable {Payload : Type} (environment : KeyEnvironment)

variable (now : ℕ)

/-- The time at which the previous key was superseded, in milliseconds, unless it is no number. -/
def supersededAt : Option ℤ :=
  match truthy environment.JWT_PREVIOUS_KEY_ISSUED_AT with
  | some issuedAt => (parseInt issuedAt).map (· * 1000)
  | none => some now

def buildKeyStore : Except String (List JwtKeyEntry) :=
  match truthy environment.JWT_SECRET with
  | none => .error "JWT_SECRET is not defined in environment variables"
  | some activeSecret =>
    let active : JwtKeyEntry := ⟨environment.JWT_KEY_ID.getD "v1", activeSecret, none⟩
    match truthy environment.JWT_PREVIOUS_SECRET, truthy environment.JWT_PREVIOUS_KEY_ID with
    | some prevSecret, some prevKeyId =>
      match (supersededAt environment now).map (· + KEY_ROTATION_GRACE_PERIOD_MS) with
      | some expiresAt =>
        if now < expiresAt then .ok [active, ⟨prevKeyId, prevSecret, some expiresAt⟩] else .ok [active]
      | none => .ok [active]
    | _, _ => .ok [active]

def getActiveKey : Except String JwtKeyEntry :=
  (buildKeyStore environment now).map fun store => store.headD ⟨"", "", none⟩

def findKeyById (keyId : String) : Except String (Option JwtKeyEntry) :=
  (buildKeyStore environment now).map fun store => store.find? (·.keyId = keyId)

/-- The options of `generateToken`, with the seconds that the token lasts. -/
structure GenerateTokenOptions where
  expiresIn : Option ℕ
  keyId : Option String

/-- `JWT_EXPIRES_IN` in seconds. -/
def JWT_EXPIRES_IN : ℕ :=
  60 * 60

/-- `REFRESH_TOKEN_EXPIRES_IN` in seconds. -/
def REFRESH_TOKEN_EXPIRES_IN : ℕ :=
  7 * 24 * 60 * 60

def sign (key : JwtKeyEntry) (payload : Payload) (expiresIn now : ℕ) : SignedToken Payload :=
  ⟨some key.keyId, key.secret, some (now / 1000 + expiresIn), payload⟩

def generateToken (payload : Payload) (options : GenerateTokenOptions) :
    Except String (SignedToken Payload) := do
  let signingKey ←
    match truthy options.keyId with
    | some keyId => do
      match ← findKeyById environment now keyId with
      | some found => pure found
      | none => throw s!"Unknown keyId: {keyId}"
    | none => getActiveKey environment now
  pure (sign signingKey payload (options.expiresIn.getD JWT_EXPIRES_IN) now)

/-- The token of `generateRefreshToken`. -/
def generateRefreshToken (payload : Payload) : Except String (SignedToken Payload) := do
  let signingKey ← getActiveKey environment now
  pure (sign signingKey payload REFRESH_TOKEN_EXPIRES_IN now)

/-- What a verification says when it fails. -/
structure Messages where
  unknownKey : String → String
  expired : String
  invalid : String

/-- `jwt.verify`, with the seconds that it tolerates. -/
def SignedToken.verify (token : SignedToken Payload) (messages : Messages) (secret : String) (clockTolerance now : ℕ) :
    Except String Payload :=
  if token.secret ≠ secret then .error messages.invalid
  else if token.exp.any fun exp => exp + clockTolerance ≤ now / 1000 then .error messages.expired
  else .ok token.payload

/-- A token is verified under the key that it names. The clock is read for the keys and once more for the token, and a text
that is no token is `none`. -/
def verifyWith (messages : Messages) (clockTolerance : ℕ) (environment : KeyEnvironment) (now later : ℕ)
    (token : Option (SignedToken Payload)) : Except String Payload := do
  let secret ←
    match truthy (token.bind (·.kid)) with
    | some kid => do
      match ← findKeyById environment now kid with
      | some entry => pure entry.secret
      | none => throw (messages.unknownKey kid)
    | none => (·.secret) <$> getActiveKey environment now
  match token with
  | some token => token.verify messages secret clockTolerance later
  | none => throw messages.invalid

def verifyToken (now later : ℕ) (token : Option (SignedToken Payload)) : Except String Payload :=
  verifyWith ⟨fun kid => s!"Invalid token: unknown key id '{kid}'", "Token has expired", "Invalid token"⟩ 60
    environment now later token

/-- `verifyRefreshToken` up to the check for reuse. -/
def verifyRefreshSignature (now later : ℕ) (token : Option (SignedToken Payload)) :
    Except String Payload :=
  verifyWith ⟨fun kid => s!"Invalid refresh token: unknown key id '{kid}'", "Refresh token has expired",
    "Invalid refresh token"⟩ 0 environment now later token

end ProxyPay.Auth
