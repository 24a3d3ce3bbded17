import AgentFabric.Construction.Cloud.ScheduledJob

namespace AgentFabric.Server
open Sorting

/-- A row of the table `principals`. -/
structure Principal where
  principalId : String
  tenantId : String
  principalType : String
  role : String
  scopesCsv : String

/-- A row of the table `tokens`. -/
structure Token where
  principalId : String
  tokenHash : String
  expiresAt : UtcTime
  revoked : Bool

/-- The rows that a database session sees. -/
structure AuthRows where
  principals : Dict String Principal
  tokens : Dict String Token

/-- The claims that a token carries. -/
structure Claims where
  sub : String
  tid : String
  scp : List String
  pty : String
  jti : String
  exp : Int
  iat : Int
  deriving DecidableEq

/-- The signing library with the secret of the service. -/
structure Jwt where
  encode : Claims → String
  decode : String → UtcTime → Except PyError Claims

/-- What a caller learns about the bearer of a token. -/
structure AuthPrincipal where
  principalId : String
  tenantId : String
  scopes : List String
  principalType : String
  tokenId : String
  deriving DecidableEq

variable (texts : List String)

/-- `sorted` of the set of the texts. -/
def sortedSet : List String := sortedBy id texts.dedup

def joinCsv : String := ",".intercalate texts

/-- The set of an empty column is empty. -/
def splitCsv (text : String) : List String :=
  if text = "" then [] else (text.toList.splitOn ',').map String.ofList

/-- The whole seconds of `timestamp()` since 1970. -/
def timestamp (time : UtcTime) : Int :=
  ((time.wall.micros : Int) - 719162 * 86400000000).tdiv 1000000

namespace AuthService

variable (jwt : Jwt) (sha256 : String → String) (rolePermissions : String → List String)

def effectiveScopes (scopes : List String) (role : String) : List String :=
  sortedSet (scopes ++ rolePermissions role)

variable (rows : AuthRows)

/-- A registration replaces everything about a principal that exists. -/
def registerPrincipal (principalId tenantId principalType : String)
    (scopes : List String) (role : String) : Principal × AuthRows :=
  let principal : Principal := {
    principalId
    tenantId
    principalType
    role
    scopesCsv := joinCsv (effectiveScopes rolePermissions scopes role) }
  (principal, { rows with principals := rows.principals.set principalId principal })

variable (principal : Principal)

/-- The scopes of a new token come from the stored column and the role. -/
def issuedScopes : List String :=
  sortedSet (splitCsv principal.scopesCsv ++ rolePermissions principal.role)

def expiry (now : UtcTime) (ttlSeconds : Int) : Except PyError UtcTime := do
  let micros ← Cloud.CronParser.timedelta ttlSeconds
  let expiresAt ← Cloud.CronParser.add now.toDateTime micros
  .ok ⟨expiresAt.wall⟩

def claimsOf (tokenId : String) (expiresAt now : UtcTime) : Claims where
  sub := principal.principalId
  tid := principal.tenantId
  scp := issuedScopes rolePermissions principal
  pty := principal.principalType
  jti := tokenId
  exp := timestamp expiresAt
  iat := timestamp now

/-- A new token takes its id from outside. -/
def issueToken (principalId : String) (ttlSeconds : Int) (tokenId : String)
    (now : UtcTime) : Except PyError (String × AuthRows) :=
  match rows.principals.get? principalId with
  | none => .error (.responseError "principal not found")
  | some principal => do
      let expiresAt ← expiry now ttlSeconds
      let encoded := jwt.encode (claimsOf rolePermissions principal tokenId expiresAt now)
      match rows.tokens.get? tokenId with
      | some _ => .error (.integrityError "UNIQUE constraint failed: tokens.token_id")
      | none => .ok (encoded, { rows with tokens := rows.tokens.set tokenId {
          principalId := principal.principalId
          tokenHash := sha256 encoded
          expiresAt
          revoked := false } })

variable (bearerToken : String)

def authenticate (now : UtcTime) :
    Except PyError AuthPrincipal := do
  let decoded ← jwt.decode bearerToken now
  if decoded.jti = "" then .error (.responseError "missing token id")
  else
    match rows.tokens.get? decoded.jti with
    | none => .error (.responseError "token not found")
    | some token =>
        if token.revoked then .error (.responseError "token revoked")
        else if token.expiresAt.wall.micros ≤ now.wall.micros then
          .error (.responseError "token expired")
        else if token.tokenHash ≠ sha256 bearerToken then
          .error (.responseError "token hash mismatch")
        else
          match rows.principals.get? decoded.sub with
          | none => .error (.responseError "principal not found")
          | some principal => .ok {
              principalId := principal.principalId
              tenantId := principal.tenantId
              scopes := sortedSet decoded.scp
              principalType := principal.principalType
              tokenId := decoded.jti }

/-- The row of a token is marked as revoked. -/
def revoke (tokenId : String) : AuthRows :=
  match rows.tokens.get? tokenId with
  | none => rows
  | some token => { rows with tokens := rows.tokens.set tokenId { token with revoked := true } }

def rotateToken (ttlSeconds : Int) (tokenId : String)
    (now : UtcTime) : Except PyError (String × AuthRows) := do
  let principal ← authenticate jwt sha256 rows bearerToken now
  issueToken jwt sha256 rolePermissions (revoke rows principal.tokenId) principal.principalId
    ttlSeconds tokenId now

end AuthService

/-- The calls of the service, where a new token takes its id from outside. -/
inductive AuthCall where
  | registerPrincipal (principalId tenantId principalType : String) (scopes : List String)
      (role : String)
  | issueToken (principalId : String) (ttlSeconds : Int) (tokenId : String)
  | rotateToken (bearerToken : String) (ttlSeconds : Int) (tokenId : String)
  | authenticate (bearerToken : String)

/-- A call at its time. -/
structure TimedCall where
  now : UtcTime
  call : AuthCall

inductive AuthAnswer where
  | registered (principal : Principal)
  | token (bearerToken : String)
  | authenticated (principal : AuthPrincipal)

namespace AuthService

variable (jwt : Jwt) (sha256 : String → String) (rolePermissions : String → List String)

/-- A call that raises is rolled back. -/
def answering (rows : AuthRows) (outcome : Except PyError (String × AuthRows)) :
    Except PyError AuthAnswer × AuthRows :=
  match outcome with
  | .error exception => (.error exception, rows)
  | .ok (bearerToken, after) => (.ok (.token bearerToken), after)

/-- Every call is one transaction. -/
def answer : Transition.Machine AuthRows TimedCall (Except PyError AuthAnswer)
  | rows, ⟨_, .registerPrincipal principalId tenantId principalType scopes role⟩ =>
      let (principal, after) :=
        registerPrincipal rolePermissions rows principalId tenantId principalType scopes role
      (.ok (.registered principal), after)
  | rows, ⟨now, .issueToken principalId ttlSeconds tokenId⟩ =>
      answering rows (issueToken jwt sha256 rolePermissions rows principalId ttlSeconds tokenId now)
  | rows, ⟨now, .rotateToken bearerToken ttlSeconds tokenId⟩ =>
      answering rows
        (rotateToken jwt sha256 rolePermissions rows bearerToken ttlSeconds tokenId now)
  | rows, ⟨now, .authenticate bearerToken⟩ =>
      ((authenticate jwt sha256 rows bearerToken now).map .authenticated, rows)

def initial : AuthRows := ⟨Dict.empty, Dict.empty⟩

end AuthService

end AgentFabric.Server
