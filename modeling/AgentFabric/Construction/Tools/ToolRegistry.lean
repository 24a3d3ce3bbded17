import AgentFabric.Construction.Connectors.ConnectorRegistry

namespace AgentFabric.Tools
open Persistence Connectors

def supportedToolTypes : List String := [
  "connector_search", "connector_fetch", "document_summary", "ticket_analysis", "email_analysis",
  "code_repository_review", "audit_bundle_generation", "governance_proposal_creation",
  "marketplace_package_verification"]

/-- `dict(value[key])` of a stored record, where the value is a dict. -/
def objectItem (document : Json) (key : String) : Except PyError Json :=
  match document.field? key with
  | none => .error (.keyError key)
  | some (.obj fields) => .ok (.obj fields)
  | some _ => .error (.typeError "cannot convert dictionary update sequence")

/-- `dict(value.get(key, {}))` of a stored record, where the value is a dict. -/
def objectOr (document : Json) (key : String) : Except PyError (List (String × Json)) :=
  match document.field? key with
  | none => .ok []
  | some (.obj fields) => .ok fields
  | some _ => .error (.typeError "cannot convert dictionary update sequence")

/-- What a tool is and what it needs. -/
structure ToolManifest where
  name : String
  toolType : String
  description : String
  version : String
  requiredConnectorType : Option String
  metadata : List (String × Json)

namespace ToolManifest

variable (manifest : ToolManifest)

def validate : Except PyError Unit :=
  if manifest.toolType ∉ supportedToolTypes then
    .error (.valueError ("unsupported tool type: " ++ manifest.toolType))
  else if manifest.name = "" then .error (.valueError "tool name is required")
  else .ok ()

def asDict : Json := .obj [
  ("name", .str manifest.name),
  ("tool_type", .str manifest.toolType),
  ("description", .str manifest.description),
  ("version", .str manifest.version),
  ("required_connector_type", Json.optionalText manifest.requiredConnectorType),
  ("metadata", .obj manifest.metadata)]

def fromDict {Number : Type} (library : Library Number) (document : Json) :
    Except PyError ToolManifest := do
  let name ← library.textItem document "name"
  let toolType ← library.textItem document "tool_type"
  let metadata ← objectOr document "metadata"
  .ok {
    name
    toolType
    description := library.textOr document "description" ""
    version := library.textOr document "version" "1.0.0"
    requiredConnectorType := library.textIfTrue document "required_connector_type"
    metadata }

end ToolManifest

/-- What a call of a tool needs. -/
structure ToolPermission where
  requiredRbacScope : String
  requiredTenantContext : Bool
  requiredConnectorPolicy : Bool
  requiredVeilPolicyCheck : Bool
  governanceApprovalRequired : Bool
  resultPersistenceAllowed : Bool
  allowedOutputClassifications : List String

namespace ToolPermission

def asDict (permission : ToolPermission) : Json := .obj [
  ("required_rbac_scope", .str permission.requiredRbacScope),
  ("required_tenant_context", .bool permission.requiredTenantContext),
  ("required_connector_policy", .bool permission.requiredConnectorPolicy),
  ("required_veil_policy_check", .bool permission.requiredVeilPolicyCheck),
  ("governance_approval_required", .bool permission.governanceApprovalRequired),
  ("result_persistence_allowed", .bool permission.resultPersistenceAllowed),
  ("allowed_output_classifications", .arr (permission.allowedOutputClassifications.map .str))]

def fromDict {Number : Type} (library : Library Number) (document : Json) :
    Except PyError ToolPermission := do
  let allowedOutputClassifications ←
    library.textsOr document "allowed_output_classifications" ["public", "internal"]
  .ok {
    requiredRbacScope := library.textOr document "required_rbac_scope" "tools.execute"
    requiredTenantContext := Library.boolOr document "required_tenant_context" true
    requiredConnectorPolicy := Library.boolOr document "required_connector_policy" true
    requiredVeilPolicyCheck := Library.boolOr document "required_veil_policy_check" true
    governanceApprovalRequired := Library.boolOr document "governance_approval_required" false
    resultPersistenceAllowed := Library.boolOr document "result_persistence_allowed" true
    allowedOutputClassifications }

end ToolPermission

/-- A tool of a tenant. -/
structure Tool where
  tenantId : String
  organizationId : String
  createdBy : String
  manifest : ToolManifest
  permission : ToolPermission
  toolId : String
  status : String
  createdAt : DateTime
  updatedAt : DateTime

namespace Tool

def validate (tool : Tool) : Except PyError Unit := do
  if tool.tenantId = "" ∨ tool.organizationId = "" then
    .error (.valueError "tenant context is required")
  else
    tool.manifest.validate
    if tool.permission.requiredRbacScope = "" then
      .error (.valueError "tool required_rbac_scope is required")
    else .ok ()

def asDict (tool : Tool) : Json := .obj [
  ("tool_id", .str tool.toolId),
  ("tenant_id", .str tool.tenantId),
  ("organization_id", .str tool.organizationId),
  ("created_by", .str tool.createdBy),
  ("manifest", tool.manifest.asDict),
  ("permission", tool.permission.asDict),
  ("status", .str tool.status),
  ("created_at", .str tool.createdAt.isoformat),
  ("updated_at", .str tool.updatedAt.isoformat)]

def fromDict {Number : Type} (library : Library Number) (now : UtcTime) (document : Json) :
    Except PyError Tool := do
  let toolId ← library.textItem document "tool_id"
  let tenantId ← library.textItem document "tenant_id"
  let organizationId ← library.textItem document "organization_id"
  let manifest ← ToolManifest.fromDict library (← objectItem document "manifest")
  let permission ← ToolPermission.fromDict library (← objectItem document "permission")
  let createdAt ← library.timeOrNow document "created_at" now
  let updatedAt ← library.timeOrNow document "updated_at" now
  .ok {
    toolId
    tenantId
    organizationId
    createdBy := library.textOr document "created_by" ""
    manifest
    permission
    status := library.textOr document "status" "active"
    createdAt
    updatedAt }

end Tool

namespace ToolRegistry

variable {State Number : Type} (store : PersistenceStore State) (library : Library Number)
  (context : TenantContext) (manifest : ToolManifest) (permission : ToolPermission)
  (toolId : Option String)

/-- A tool takes the id of the caller, or a new one where the caller gives none. -/
def newTool (newId : String) (now : UtcTime) : Tool where
  tenantId := context.tenantId
  organizationId := context.organizationId
  createdBy := context.principalId
  manifest := manifest
  permission := permission
  toolId := (toolId.filter fun id => id ≠ "").getD newId
  status := "active"
  createdAt := now.toDateTime
  updatedAt := now.toDateTime

def register (newId : String) (now : UtcTime) : Effect (ConnectorState State Number) Tool := do
  let tool := newTool context manifest permission toolId newId now
  Effect.ofExcept tool.validate
  record store "tools" tool.toolId tool.asDict
  emit "tool.registered" tool.toolId tool.asDict
  pure tool

def get (persistence : State) (context : TenantContext) (toolId : String) (now : UtcTime) :
    Except PyError Tool :=
  match store.get persistence "tools" toolId with
  | none => .error (.notFoundError "tool not found")
  | some document => do
      let tool ← Tool.fromDict library now document
      if tool.tenantId ≠ context.tenantId ∧ !context.isGlobalAdmin then
        .error (.authorizationError "cross-tenant tool access denied")
      else .ok tool

end ToolRegistry

end AgentFabric.Tools

namespace AgentFabric.TenantConnectors
open Persistence Tools
open Connectors (TenantContext ConnectorState record emit)

def supportedConnectorTypes : List String := [
  "gmail", "google_workspace", "microsoft_365", "slack", "teams", "jira", "servicenow",
  "confluence", "sharepoint", "s3", "github"]

/-- What a connector is and what it offers. -/
structure ConnectorManifest where
  connectorType : String
  displayName : String
  capabilities : List String
  scopes : List String
  dataClasses : List String
  webhookSupported : Bool
  metadata : List (String × Json)

namespace ConnectorManifest

variable (manifest : ConnectorManifest)

def validate : Except PyError Unit :=
  if manifest.connectorType ∉ supportedConnectorTypes then
    .error (.valueError ("unsupported connector type: " ++ manifest.connectorType))
  else if manifest.displayName = "" then
    .error (.valueError "connector display_name is required")
  else .ok ()

def asDict : Json := .obj [
  ("connector_type", .str manifest.connectorType),
  ("display_name", .str manifest.displayName),
  ("capabilities", .arr (manifest.capabilities.map .str)),
  ("scopes", .arr (manifest.scopes.map .str)),
  ("data_classes", .arr (manifest.dataClasses.map .str)),
  ("webhook_supported", .bool manifest.webhookSupported),
  ("metadata", .obj manifest.metadata)]

def fromDict {Number : Type} (library : Library Number) (document : Json) :
    Except PyError ConnectorManifest := do
  let connectorType ← library.textItem document "connector_type"
  let capabilities ← library.textsOr document "capabilities" ["sync", "search", "fetch"]
  let scopes ← library.textsOr document "scopes" []
  let dataClasses ← library.textsOr document "data_classes" []
  let metadata ← objectOr document "metadata"
  .ok {
    connectorType
    displayName := library.textOr document "display_name" connectorType
    capabilities
    scopes
    dataClasses
    webhookSupported := Library.boolOr document "webhook_supported" false
    metadata }

end ConnectorManifest

/-- A reference to credential material. -/
structure ConnectorCredentials where
  credentialRef : String
  provider : String
  expiresAt : Option DateTime
  rotationDueAt : Option DateTime

namespace ConnectorCredentials

/-- A text with a marker in any case looks like a raw credential. -/
def isRaw (credentialRef : String) : Bool :=
  ["secret=", "password=", "token="].any fun marker =>
    marker.toList <:+: LowerText.lower credentialRef

variable (credentials : ConnectorCredentials)

def validate : Except PyError Unit :=
  if credentials.credentialRef = "" then .error (.valueError "credential_ref is required")
  else if isRaw credentials.credentialRef then
    .error (.valueError "raw credential values are not allowed")
  else .ok ()

def asDict : Json := .obj [
  ("credential_ref", .str credentials.credentialRef),
  ("provider", .str credentials.provider),
  ("expires_at", Json.optionalText (credentials.expiresAt.map DateTime.isoformat)),
  ("rotation_due_at", Json.optionalText (credentials.rotationDueAt.map DateTime.isoformat))]

def fromDict {Number : Type} (library : Library Number) (document : Json) :
    Except PyError ConnectorCredentials := do
  let credentialRef ← library.textItem document "credential_ref"
  let expiresAt ← library.timeOrNone document "expires_at"
  let rotationDueAt ← library.timeOrNone document "rotation_due_at"
  .ok {
    credentialRef
    provider := library.textOr document "provider" ""
    expiresAt
    rotationDueAt }

end ConnectorCredentials

/-- What may be done with a connector. -/
structure ConnectorPolicy where
  allowedOperations : List String
  allowedDataClasses : List String
  maxResults : Int
  requireVeil : Bool

namespace ConnectorPolicy

/-- The policy of a connector that is registered without one. -/
def standard : ConnectorPolicy := ⟨["sync", "search", "fetch", "webhook", "health"], [], 100, true⟩

def asDict (policy : ConnectorPolicy) : Json := .obj [
  ("allowed_operations", .arr (policy.allowedOperations.map .str)),
  ("allowed_data_classes", .arr (policy.allowedDataClasses.map .str)),
  ("max_results", .int policy.maxResults),
  ("require_veil", .bool policy.requireVeil)]

def fromDict {Number : Type} (library : Library Number) (document : Json) :
    Except PyError ConnectorPolicy := do
  let allowedOperations ← library.textsOr document "allowed_operations" standard.allowedOperations
  let allowedDataClasses ← library.textsOr document "allowed_data_classes" []
  let maxResults ← library.intOr document "max_results" 100
  .ok {
    allowedOperations
    allowedDataClasses
    maxResults
    requireVeil := Library.boolOr document "require_veil" true }

end ConnectorPolicy

/-- A connector of a tenant. -/
structure Connector where
  tenantId : String
  organizationId : String
  createdBy : String
  manifest : ConnectorManifest
  credentials : ConnectorCredentials
  policy : ConnectorPolicy
  connectorId : String
  status : String
  createdAt : DateTime
  updatedAt : DateTime

namespace Connector

variable (connector : Connector)

def validate : Except PyError Unit := do
  if connector.tenantId = "" ∨ connector.organizationId = "" then
    .error (.valueError "tenant context is required")
  else
    connector.manifest.validate
    connector.credentials.validate

def asDict : Json := .obj [
  ("connector_id", .str connector.connectorId),
  ("tenant_id", .str connector.tenantId),
  ("organization_id", .str connector.organizationId),
  ("created_by", .str connector.createdBy),
  ("manifest", connector.manifest.asDict),
  ("credentials", connector.credentials.asDict),
  ("policy", connector.policy.asDict),
  ("status", .str connector.status),
  ("created_at", .str connector.createdAt.isoformat),
  ("updated_at", .str connector.updatedAt.isoformat)]

def fromDict {Number : Type} (library : Library Number) (now : UtcTime) (document : Json) :
    Except PyError Connector := do
  let connectorId ← library.textItem document "connector_id"
  let tenantId ← library.textItem document "tenant_id"
  let organizationId ← library.textItem document "organization_id"
  let manifest ← ConnectorManifest.fromDict library (← objectItem document "manifest")
  let credentials ← ConnectorCredentials.fromDict library (← objectItem document "credentials")
  let policy ← ConnectorPolicy.fromDict library (.obj (← objectOr document "policy"))
  let createdAt ← library.timeOrNow document "created_at" now
  let updatedAt ← library.timeOrNow document "updated_at" now
  .ok {
    connectorId
    tenantId
    organizationId
    createdBy := library.textOr document "created_by" ""
    manifest
    credentials
    policy
    status := library.textOr document "status" "active"
    createdAt
    updatedAt }

end Connector

namespace ConnectorRegistry

variable {State Number : Type} (store : PersistenceStore State) (library : Library Number)
  (context : TenantContext) (manifest : ConnectorManifest) (credentials : ConnectorCredentials)
  (policy : Option ConnectorPolicy) (connectorId : Option String)

/-- A connector takes the id of the caller, or a new one where the caller gives none. -/
def newConnector (newId : String) (now : UtcTime) : Connector where
  tenantId := context.tenantId
  organizationId := context.organizationId
  createdBy := context.principalId
  manifest := manifest
  credentials := credentials
  policy := policy.getD .standard
  connectorId := (connectorId.filter fun id => id ≠ "").getD newId
  status := "active"
  createdAt := now.toDateTime
  updatedAt := now.toDateTime

def register (newId : String) (now : UtcTime) : Effect (ConnectorState State Number) Connector := do
  let connector := newConnector context manifest credentials policy connectorId newId now
  Effect.ofExcept connector.validate
  record store "connectors" connector.connectorId connector.asDict
  emit "connector.registered" connector.connectorId connector.asDict
  pure connector

def get (persistence : State) (context : TenantContext) (connectorId : String) (now : UtcTime) :
    Except PyError Connector :=
  match store.get persistence "connectors" connectorId with
  | none => .error (.notFoundError "connector not found")
  | some document => do
      let connector ← Connector.fromDict library now document
      if connector.tenantId ≠ context.tenantId ∧ !context.isGlobalAdmin then
        .error (.authorizationError "cross-tenant connector access denied")
      else .ok connector

end ConnectorRegistry

end AgentFabric.TenantConnectors
