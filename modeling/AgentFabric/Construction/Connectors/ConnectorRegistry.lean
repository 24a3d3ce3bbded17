import AgentFabric.Construction.Cloud.Runtime
import AgentFabric.Construction.Persistence.Store
import AgentFabric.Foundation.Effect
import AgentFabric.Foundation.PyCoercion

namespace AgentFabric.Connectors

def supportedConnectorTypes : List String := [
  "gmail", "google_calendar", "slack", "teams", "jira", "github", "salesforce", "servicenow",
  "sharepoint", "s3", "custom_http"]

/-- The order of the risk levels. -/
def riskOrder : List (String × Nat) := [("low", 0), ("medium", 1), ("high", 2), ("critical", 3)]

def riskLevel (level : String) : Except PyError Nat :=
  match riskOrder.lookup level with
  | none => .error (.keyError level)
  | some order => .ok order

def actionPermissions : List String := [
  "gmail.read", "gmail.send", "calendar.read", "calendar.write", "github.read", "github.write",
  "jira.read", "jira.write", "slack.read", "slack.write", "servicenow.read", "servicenow.write",
  "s3.read", "s3.write", "custom_http.execute", "teams.read", "teams.write", "salesforce.read",
  "salesforce.write", "sharepoint.read", "sharepoint.write"]

/-- The permissions of a connector type start with its name, except for the calendar. -/
def permissionPrefix (connectorType : String) : String :=
  if connectorType = "google_calendar" then "calendar" else connectorType

/-- The actions in any case that write. -/
def isWrite (action : String) : Bool :=
  haveI := lawfulBEq_chars
  LowerText.lower action ∈
    ["send".toList, "write".toList, "create".toList, "update".toList, "delete".toList]

def permissionFor (connectorType action : String) : Except PyError String :=
  let permission :=
    if connectorType = "custom_http" then "custom_http.execute"
    else if isWrite action then
      permissionPrefix connectorType ++ "." ++
        if connectorType = "gmail" ∧ LowerText.lower action = "send".toList then "send" else "write"
    else permissionPrefix connectorType ++ ".read"
  if permission ∈ actionPermissions then .ok permission
  else .error (.valueError ("unsupported connector action permission: " ++ permission))

/-- The message names the missing permissions in order. -/
def requirePermissions (granted required : List String) : Except PyError Unit :=
  let missing := (Sorting.sortedBy id required).filter fun permission => permission ∉ granted
  if missing = [] then .ok ()
  else .error (.permissionError ("missing connector permissions: " ++ ", ".intercalate missing))

/-- A version of a connector. -/
structure ConnectorManifest (Number : Type) where
  connectorId : String
  name : String
  version : String
  description : String
  connectorType : String
  supportedActions : List String
  requiredPermissions : List String
  credentialType : String
  rateLimits : Dict String Int
  riskLevel : String
  tenantScope : String
  allowedDomains : List String
  allowedHttpMethods : List String
  trustScore : Number

namespace ConnectorManifest

variable {Number : Type} (library : Library Number) (manifest : ConnectorManifest Number)

/-- Every supported action needs a declared permission. -/
def coversActions : Except PyError Bool := do
  let expected ← manifest.supportedActions.mapM (permissionFor manifest.connectorType)
  .ok (expected.all fun permission => permission ∈ manifest.requiredPermissions)

def validate : Except PyError Unit :=
  if "" ∈ [manifest.connectorId, manifest.name, manifest.version, manifest.description,
      manifest.credentialType] then
    .error (.valueError "connector manifest is missing required fields")
  else if manifest.connectorType ∉ supportedConnectorTypes then
    .error (.valueError ("unsupported connector type: " ++ manifest.connectorType))
  else if manifest.supportedActions = [] then
    .error (.valueError "connector must declare supported_actions")
  else if manifest.riskLevel ∉ riskOrder.map Prod.fst then
    .error (.valueError "invalid connector risk_level")
  else if manifest.tenantScope ≠ "tenant" then
    .error (.valueError "connectors must be tenant scoped")
  else if manifest.rateLimits.getD "requests_per_minute" 0 ≤ 0 then
    .error (.valueError "requests_per_minute must be positive")
  else if !library.withinUnit manifest.trustScore then
    .error (.valueError "connector trust_score must be between 0 and 1")
  else do
    if ← manifest.coversActions then .ok ()
    else .error (.valueError "connector permissions do not cover supported actions")

def asDict : List (String × Json) := [
  ("connector_id", .str manifest.connectorId),
  ("name", .str manifest.name),
  ("version", .str manifest.version),
  ("description", .str manifest.description),
  ("connector_type", .str manifest.connectorType),
  ("supported_actions", .arr (manifest.supportedActions.map .str)),
  ("required_permissions", .arr (manifest.requiredPermissions.map .str)),
  ("credential_type", .str manifest.credentialType),
  ("rate_limits", .obj (manifest.rateLimits.items.map fun limit => (limit.1, .int limit.2))),
  ("risk_level", .str manifest.riskLevel),
  ("tenant_scope", .str manifest.tenantScope),
  ("allowed_domains", .arr (manifest.allowedDomains.map .str)),
  ("allowed_http_methods", .arr (manifest.allowedHttpMethods.map .str)),
  ("trust_score", library.document manifest.trustScore)]

/-- A later limit of the same name replaces an earlier one. -/
def readRateLimits (document : Json) : Except PyError (Dict String Int) := do
  let pairs ← library.interpreter.dict ((document.field? "rate_limits").getD (.obj []))
  pairs.foldlM (fun limits pair => do
    let limit ← library.interpreter.int pair.2
    .ok (limits.set (library.interpreter.str pair.1) limit)) Dict.empty

/-- The default document of a trust score. -/
def fullTrust : Json := .float ⟨"1.0", Eq.refl true⟩

def fromDict (document : Json) : Except PyError (ConnectorManifest Number) := do
  let connectorId ← library.textItem document "connector_id"
  let name ← library.textItem document "name"
  let version ← library.textItem document "version"
  let connectorType ← library.textItem document "connector_type"
  let supportedActions ← library.textsOr document "supported_actions" []
  let requiredPermissions ← library.textsOr document "required_permissions" []
  let rateLimits ← readRateLimits library document
  let allowedDomains ← library.textsOr document "allowed_domains" []
  let allowedHttpMethods ← library.textsOr document "allowed_http_methods" ["GET", "POST"]
  let trustScore ← library.floatOr document "trust_score" fullTrust
  .ok {
    connectorId
    name
    version
    description := library.textOr document "description" ""
    connectorType
    supportedActions
    requiredPermissions
    credentialType := library.textOr document "credential_type" "api_key"
    rateLimits
    riskLevel := library.textOr document "risk_level" "medium"
    tenantScope := library.textOr document "tenant_scope" "tenant"
    allowedDomains
    allowedHttpMethods := allowedHttpMethods.map library.upper
    trustScore }

end ConnectorManifest

/-- What a tenant may do with its connectors, where an empty list allows everything. -/
structure ConnectorExecutionPolicy (Number : Type) where
  policyId : String
  tenantId : String
  allowedAgents : List String
  allowedConnectors : List String
  allowedActions : List String
  allowedCredentialTypes : List String
  maximumRisk : String
  minimumPackageTrustScore : Number
  requireVeil : Bool

/-- The decision of a policy with its reasons. -/
structure PolicyDecision where
  allowed : Bool
  reasons : List String
  policyId : String

def PolicyDecision.asDict (decision : PolicyDecision) : Json := .obj [
  ("allowed", .bool decision.allowed),
  ("reasons", .arr (decision.reasons.map .str)),
  ("policy_id", .str decision.policyId)]

/-- The request that a policy decides. -/
structure PolicyRequest (Number : Type) where
  agentId : String
  connectorId : String
  action : String
  credentialType : String
  riskLevel : String
  packageTrustScore : Number

namespace ConnectorExecutionPolicy

variable {Number : Type} (library : Library Number) (policy : ConnectorExecutionPolicy Number)

def validate : Except PyError Unit :=
  if policy.policyId = "" ∨ policy.tenantId = "" then
    .error (.valueError "policy_id and tenant_id are required")
  else if policy.maximumRisk ∉ riskOrder.map Prod.fst then
    .error (.valueError "invalid maximum_risk")
  else if !library.withinUnit policy.minimumPackageTrustScore then
    .error (.valueError "minimum package trust score must be between 0 and 1")
  else .ok ()

def asDict : Json := .obj [
  ("policy_id", .str policy.policyId),
  ("tenant_id", .str policy.tenantId),
  ("allowed_agents", .arr (policy.allowedAgents.map .str)),
  ("allowed_connectors", .arr (policy.allowedConnectors.map .str)),
  ("allowed_actions", .arr (policy.allowedActions.map .str)),
  ("allowed_credential_types", .arr (policy.allowedCredentialTypes.map .str)),
  ("maximum_risk", .str policy.maximumRisk),
  ("minimum_package_trust_score", library.document policy.minimumPackageTrustScore),
  ("require_veil", .bool policy.requireVeil)]

/-- The default document of the smallest package trust score. -/
def defaultTrust : Json := .float ⟨"0.8", by decide⟩

def fromDict (document : Json) : Except PyError (ConnectorExecutionPolicy Number) := do
  let policyId ← library.textItem document "policy_id"
  let tenantId ← library.textItem document "tenant_id"
  let allowedAgents ← library.textsOr document "allowed_agents" []
  let allowedConnectors ← library.textsOr document "allowed_connectors" []
  let allowedActions ← library.textsOr document "allowed_actions" []
  let allowedCredentialTypes ← library.textsOr document "allowed_credential_types" []
  let minimumPackageTrustScore ← library.floatOr document "minimum_package_trust_score" defaultTrust
  .ok {
    policyId
    tenantId
    allowedAgents
    allowedConnectors
    allowedActions
    allowedCredentialTypes
    maximumRisk := library.textOr document "maximum_risk" "medium"
    minimumPackageTrustScore
    requireVeil := Library.boolOr document "require_veil" true }

/-- An allowlist that is not empty lists what it allows. -/
def listed (allowlist : List String) (item : String) : Bool := allowlist.isEmpty || item ∈ allowlist

/-- The reasons stand in the order of the checks. -/
def decide (request : PolicyRequest Number) :
    Except PyError PolicyDecision := do
  let risk ← riskLevel request.riskLevel
  let maximum ← riskLevel policy.maximumRisk
  let reasons :=
    (if listed policy.allowedAgents request.agentId then [] else ["agent is not allowlisted"]) ++
    (if listed policy.allowedConnectors request.connectorId then []
      else ["connector is not allowlisted"]) ++
    (if listed policy.allowedActions request.action then [] else ["action is not allowlisted"]) ++
    (if listed policy.allowedCredentialTypes request.credentialType then []
      else ["credential type is not allowed"]) ++
    (if maximum < risk then ["connector risk exceeds policy threshold"] else []) ++
    (if library.less request.packageTrustScore policy.minimumPackageTrustScore then
      ["marketplace package trust score is too low"] else [])
  .ok ⟨reasons.isEmpty, reasons, policy.policyId⟩

end ConnectorExecutionPolicy

open Persistence Cloud

/-- The tenant of a call, where a global admin may read the connectors of other tenants. -/
structure TenantContext where
  tenantId : String
  organizationId : String
  principalId : String
  isGlobalAdmin : Bool

def TenantContext.require (context : TenantContext) : Except PyError Unit :=
  if "" ∈ [context.tenantId, context.organizationId, context.principalId] then
    .error (.permissionError "tenant context is required")
  else .ok ()

/-- The enablement of a connector for a tenant. -/
structure TenantConnector where
  tenantId : String
  connectorId : String
  version : String
  enabled : Bool
  enabledBy : String
  credentialRef : Option String
  policyId : Option String
  createdAt : DateTime
  updatedAt : DateTime

namespace TenantConnector

variable (connector : TenantConnector)

def key : String := connector.tenantId ++ ":" ++ connector.connectorId

def asDict : Json := .obj [
  ("tenant_id", .str connector.tenantId),
  ("connector_id", .str connector.connectorId),
  ("version", .str connector.version),
  ("enabled", .bool connector.enabled),
  ("enabled_by", .str connector.enabledBy),
  ("credential_ref", Json.optionalText connector.credentialRef),
  ("policy_id", Json.optionalText connector.policyId),
  ("created_at", .str connector.createdAt.isoformat),
  ("updated_at", .str connector.updatedAt.isoformat)]

def fromDict {Number : Type} (library : Library Number) (now : UtcTime) (document : Json) :
    Except PyError TenantConnector := do
  let tenantId ← library.textItem document "tenant_id"
  let connectorId ← library.textItem document "connector_id"
  let version ← library.textItem document "version"
  let createdAt ← library.timeOrNow document "created_at" now
  let updatedAt ← library.timeOrNow document "updated_at" now
  .ok {
    tenantId
    connectorId
    version
    enabled := Library.boolOr document "enabled" false
    enabledBy := library.textOr document "enabled_by" ""
    credentialRef := library.textIfTrue document "credential_ref"
    policyId := library.textIfTrue document "policy_id"
    createdAt
    updatedAt }

end TenantConnector

/-- A reference to a secret of a tenant for one connector. -/
structure CredentialReference where
  tenantId : String
  connectorId : String
  credentialType : String
  createdBy : String
  credentialId : String
  version : Int
  status : String
  createdAt : DateTime
  rotatedAt : Option DateTime
  revokedAt : Option DateTime

namespace CredentialReference

variable (reference : CredentialReference)

def referenceId : String :=
  "vault-ref:" ++ reference.credentialId ++ ":v" ++ toString reference.version

def asDict : Json := .obj [
  ("credential_id", .str reference.credentialId),
  ("credential_ref", .str reference.referenceId),
  ("tenant_id", .str reference.tenantId),
  ("connector_id", .str reference.connectorId),
  ("credential_type", .str reference.credentialType),
  ("created_by", .str reference.createdBy),
  ("version", .int reference.version),
  ("status", .str reference.status),
  ("created_at", .str reference.createdAt.isoformat),
  ("rotated_at", Json.optionalText (reference.rotatedAt.map DateTime.isoformat)),
  ("revoked_at", Json.optionalText (reference.revokedAt.map DateTime.isoformat))]

def fromDict {Number : Type} (library : Library Number) (now : UtcTime) (document : Json) :
    Except PyError CredentialReference := do
  let credentialId ← library.textItem document "credential_id"
  let tenantId ← library.textItem document "tenant_id"
  let connectorId ← library.textItem document "connector_id"
  let credentialType ← library.textItem document "credential_type"
  let version ← library.intOr document "version" 1
  let createdAt ← library.timeOrNow document "created_at" now
  let rotatedAt ← library.timeOrNone document "rotated_at"
  let revokedAt ← library.timeOrNone document "revoked_at"
  .ok {
    credentialId
    tenantId
    connectorId
    credentialType
    createdBy := library.textOr document "created_by" ""
    version
    status := library.textOr document "status" "active"
    createdAt
    rotatedAt
    revokedAt }

end CredentialReference

/-- One call of an adapter. -/
structure Invocation (Number : Type) where
  manifest : ConnectorManifest Number
  action : String
  payload : Json
  credential : String

/-- The persistence, the local secrets, the audit events and the calls of adapters so far. -/
structure ConnectorState (State Number : Type) where
  persistence : State
  localSecrets : Dict String String
  events : List EventAppend
  invocations : List (Invocation Number)

section Registry

variable {State Number : Type} (store : PersistenceStore State) (library : Library Number)

/-- A record is written to a collection. -/
def record (collection key : String) (document : Json) : Effect (ConnectorState State Number) Unit := do
  let state : ConnectorState State Number ← get
  let persistence ← Effect.ofExcept (store.put state.persistence collection key document)
  set { state with persistence }

/-- An audit event is appended. -/
def emit (eventType aggregateId : String) (payload : Json) :
    Effect (ConnectorState State Number) Unit :=
  modify fun state : ConnectorState State Number =>
    { state with events := state.events ++ [⟨eventType, aggregateId, payload⟩] }

namespace ConnectorRegistry

variable (persistence : State) (context : TenantContext) (connectorId : String)
  (version : Option String)

/-- A manifest is read under its version, or as the latest one without a version. -/
def get : Except PyError (ConnectorManifest Number) :=
  let found :=
    match version.filter fun version => version ≠ "" with
    | some version =>
        store.get persistence "enterprise_connector_manifests" (connectorId ++ ":" ++ version)
    | none => store.get persistence "enterprise_connector_latest" connectorId
  match found with
  | none => .error (.notFoundError "connector not found")
  | some document =>
      if !PersistenceStore.hasText document "tenant_id" context.tenantId &&
          !context.isGlobalAdmin then
        .error (.authorizationError "cross-tenant connector access denied")
      else ConnectorManifest.fromDict library document

def state (now : UtcTime) : Except PyError TenantConnector :=
  match store.get persistence "enterprise_connector_enablement"
      (context.tenantId ++ ":" ++ connectorId) with
  | none => .error (.notFoundError "connector is not enabled for tenant")
  | some document => do
      let connector ← TenantConnector.fromDict library now document
      if connector.tenantId ≠ context.tenantId then
        .error (.authorizationError "cross-tenant connector state denied")
      else .ok connector

def policy (policyId : String) : Except PyError (ConnectorExecutionPolicy Number) :=
  match store.get persistence "enterprise_connector_policies"
      (context.tenantId ++ ":" ++ policyId) with
  | none => .error (.notFoundError "connector policy not found")
  | some document => ConnectorExecutionPolicy.fromDict library document

/-- A version that exists already is refused unless it equals the manifest. -/
def register (manifest : ConnectorManifest Number) (tenantId createdBy : String) :
    Effect (ConnectorState State Number) (ConnectorManifest Number) := do
  Effect.ofExcept (manifest.validate library)
  let state : ConnectorState State Number ← MonadState.get
  let key := manifest.connectorId ++ ":" ++ manifest.version
  let existing := store.get state.persistence "enterprise_connector_manifests" key
  if existing.any fun document =>
      document.truthy && !library.interpreter.equal document (.obj (manifest.asDict library)) then
    throw (.conflictError "connector version already exists with different manifest")
  else
    let document : Json := .obj (manifest.asDict library ++
      [("tenant_id", .str tenantId), ("created_by", .str createdBy)])
    record store "enterprise_connector_manifests" key document
    record store "enterprise_connector_latest" manifest.connectorId document
    emit "connector.registered" manifest.connectorId document
    pure manifest

def enable (credentialRef : String) (policy : ConnectorExecutionPolicy Number) (now : UtcTime) :
    Effect (ConnectorState State Number) TenantConnector := do
  let state : ConnectorState State Number ← MonadState.get
  let manifest ← Effect.ofExcept (get store library state.persistence context connectorId version)
  Effect.ofExcept (policy.validate library)
  if policy.tenantId ≠ context.tenantId then
    throw (.authorizationError "cross-tenant connector policy denied")
  else
    let connector : TenantConnector := {
      tenantId := context.tenantId
      connectorId
      version := manifest.version
      enabled := true
      enabledBy := context.principalId
      credentialRef := some credentialRef
      policyId := some policy.policyId
      createdAt := now.toDateTime
      updatedAt := now.toDateTime }
    record store "enterprise_connector_policies" (context.tenantId ++ ":" ++ policy.policyId)
      (policy.asDict library)
    record store "enterprise_connector_enablement" connector.key connector.asDict
    emit "connector.enabled" connectorId connector.asDict
    pure connector

def disable (now : UtcTime) : Effect (ConnectorState State Number) TenantConnector := do
  let state : ConnectorState State Number ← MonadState.get
  let stored ← Effect.ofExcept
    (ConnectorRegistry.state store library state.persistence context connectorId now)
  let connector : TenantConnector := { stored with
    enabled := false
    enabledBy := context.principalId
    updatedAt := now.toDateTime }
  record store "enterprise_connector_enablement" connector.key connector.asDict
  emit "connector.disabled" connectorId connector.asDict
  pure connector

end ConnectorRegistry

end Registry

end AgentFabric.Connectors
