import AgentFabric.Construction.Cloud.Runtime
import Mathlib.Data.List.ReduceOption

namespace AgentFabric.Federation

/-- The agreement under which a tenant works with a remote organization. -/
structure TrustAgreement where
  tenantId : String
  organizationId : String
  remoteOrgId : String
  createdBy : String
  allowedCapabilities : List String
  deniedCapabilities : List String
  permittedDataClasses : List String
  allowedWorkflowTypes : List String
  status : String
  agreementId : String
  expiresAt : DateTime
  createdAt : DateTime
  updatedAt : DateTime
  revokedReason : String

namespace TrustAgreement

variable (agreement : TrustAgreement) (now : UtcTime)

/-- The clock has reached the expiry, where a naive expiry cannot be compared. -/
def isExpired : Except PyError Bool :=
  match agreement.expiresAt.later? now.toDateTime with
  | none => .error (.typeError "can't compare offset-naive and offset-aware datetimes")
  | some later => .ok (!later)

/-- Another status is refused before the clock is read. -/
def isActive : Except PyError Bool :=
  if agreement.status = "active" then
    match agreement.expiresAt.later? now.toDateTime with
    | none => .error (.typeError "can't compare offset-naive and offset-aware datetimes")
    | some later => .ok later
  else .ok false

variable (capability : String)

/-- A denied capability is refused, and an empty allow list stands for every other one. -/
def allowsCapability : Bool :=
  if capability ∈ agreement.deniedCapabilities then false
  else agreement.allowedCapabilities.isEmpty || decide (capability ∈ agreement.allowedCapabilities)

def withStatus (status reason : String) : TrustAgreement :=
  { agreement with status, updatedAt := now.toDateTime, revokedReason := reason }

def fields : List (String × Json) := [
  ("agreement_id", .str agreement.agreementId),
  ("tenant_id", .str agreement.tenantId),
  ("organization_id", .str agreement.organizationId),
  ("remote_org_id", .str agreement.remoteOrgId),
  ("created_by", .str agreement.createdBy),
  ("allowed_capabilities", .arr (agreement.allowedCapabilities.map .str)),
  ("denied_capabilities", .arr (agreement.deniedCapabilities.map .str)),
  ("permitted_data_classes", .arr (agreement.permittedDataClasses.map .str)),
  ("allowed_workflow_types", .arr (agreement.allowedWorkflowTypes.map .str)),
  ("status", .str agreement.status),
  ("expires_at", .str agreement.expiresAt.isoformat),
  ("created_at", .str agreement.createdAt.isoformat),
  ("updated_at", .str agreement.updatedAt.isoformat),
  ("revoked_reason", .str agreement.revokedReason)]

/-- The agreement is active at a time. -/
def Active : Prop :=
  agreement.status = "active" ∧ agreement.expiresAt.offset.isSome ∧
    now.toDateTime.instant < agreement.expiresAt.instant

theorem isActive_iff : agreement.isActive now = .ok true ↔ agreement.Active now := by
  unfold isActive Active DateTime.later?
  by_cases active : agreement.status = "active"
  · rw [if_pos active]
    cases aware : agreement.expiresAt.offset.isSome with
    | false => simp [UtcTime.toDateTime]
    | true =>
        simp only [active, UtcTime.toDateTime, Option.isSome_some, if_true, Except.ok.injEq, true_and]
        exact decide_eq_true_iff
  · rw [if_neg active]
    simp [active]

theorem allowsCapability_iff :
    agreement.allowsCapability capability = true ↔
      capability ∉ agreement.deniedCapabilities ∧
        (agreement.allowedCapabilities = [] ∨ capability ∈ agreement.allowedCapabilities) := by
  unfold allowsCapability
  by_cases denied : capability ∈ agreement.deniedCapabilities <;> simp [denied]

end TrustAgreement

open Cloud

structure RemoteCapability where
  name : String
  version : String
  dataClasses : List String
  workflowTypes : List String
  packageSignatureVerified : Bool

/-- An agent of the remote catalog with what discovery reads of it. -/
structure CatalogAgent where
  tenantId : String
  organizationId : String
  remoteOrgId : String
  remoteAgentId : String
  name : String
  capabilities : List RemoteCapability
  reputationScore : ℚ
  publisherId : String
  blocked : Bool
  catalogId : String
  importedAt : DateTime

structure FederationPolicy where
  tenantId : String
  organizationId : String
  allowedCapabilities : List String
  deniedCapabilities : List String
  permittedDataClasses : List String
  allowedWorkflowTypes : List String
  minReputationScore : ℚ
  blockedRemoteOrgs : List String
  blockedRemoteAgents : List String
  blockedPublishers : List String
  compromisedKeys : List String

namespace FederationPolicy

variable (policy : FederationPolicy)

/-- The policy has the same rule as the agreement. -/
def allowsCapability (capability : String) : Bool :=
  if capability ∈ policy.deniedCapabilities then false
  else policy.allowedCapabilities.isEmpty || decide (capability ∈ policy.allowedCapabilities)

/-- The policy excludes an agent, whatever its capabilities are. -/
def excludes (agent : CatalogAgent) : Bool :=
  decide (agent.remoteOrgId ∈ policy.blockedRemoteOrgs) ||
    decide (agent.remoteAgentId ∈ policy.blockedRemoteAgents) ||
    (agent.publisherId != "" && decide (agent.publisherId ∈ policy.blockedPublishers)) ||
    decide (agent.reputationScore < policy.minReputationScore) || agent.blocked

end FederationPolicy

namespace CapabilityExchange

variable (agreement : TrustAgreement) (policy : FederationPolicy)

/-- Both the agreement and the policy let a capability through. -/
def permits (capability : RemoteCapability) : Bool :=
  capability.packageSignatureVerified && agreement.allowsCapability capability.name &&
    policy.allowsCapability capability.name &&
    capability.dataClasses.all (fun dataClass => dataClass ∈ agreement.permittedDataClasses) &&
    capability.dataClasses.all (fun dataClass => dataClass ∈ policy.permittedDataClasses)

def discoveryRequest (agent : CatalogAgent) (capabilities : List RemoteCapability) :
    PolicyCheckRequest where
  agentId := .str agent.remoteAgentId
  action := "federation.discovery"
  payload := .obj [
    ("tenant_id", .str agent.tenantId),
    ("remote_org_id", .str agent.remoteOrgId),
    ("capabilities", .arr (capabilities.map fun capability => .str capability.name))]

variable (checkPolicy : PolicyCheckRequest → Except PyError PolicyCheckResponse)

/-- An agent without a permitted capability is dropped before the policy service is asked. -/
def filterAgent (agent : CatalogAgent) : Except PyError (Option CatalogAgent) :=
  if policy.excludes agent then .ok none
  else
    let capabilities := agent.capabilities.filter (permits agreement policy)
    if capabilities.isEmpty then .ok none
    else do
      let response ← checkPolicy (discoveryRequest agent capabilities)
      .ok (if response.allowed then some { agent with capabilities } else none)

def filterCatalog (now : UtcTime) (agents : List CatalogAgent) :
    Except PyError (List CatalogAgent) := do
  if ← agreement.isActive now then do
    let visible ← agents.mapM (filterAgent agreement policy checkPolicy)
    .ok visible.reduceOption
  else .error (.authorizationError "active trust agreement is required")

end CapabilityExchange

end AgentFabric.Federation
