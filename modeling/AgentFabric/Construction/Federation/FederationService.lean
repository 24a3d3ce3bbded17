import AgentFabric.Construction.Federation.MessageRouter

namespace AgentFabric.Federation
open Cloud Events PyValue

/-- The part of a registered organization that an agreement looks for. -/
structure FederatedOrg where
  orgId : String
  tenantId : String
  remoteOrgId : String

/-- A catalog entry with its dictionary. -/
structure RemoteAgent where
  catalogId : String
  fields : List (String × PyValue)

/-- A task that a remote organization does, where an empty result stands for none. -/
structure RemoteDelegation where
  tenantId : String
  organizationId : String
  trustAgreementId : String
  remoteOrgId : String
  sourceAgentId : String
  destinationAgentId : String
  taskType : String
  payload : List (String × PyValue)
  createdBy : String
  status : String
  delegationId : String
  receiptId : Option String
  result : List (String × PyValue)
  rejectionReason : String
  createdAt : DateTime
  updatedAt : DateTime

def RemoteDelegation.asDict (delegation : RemoteDelegation) : List (String × PyValue) := [
  ("delegation_id", .str delegation.delegationId),
  ("tenant_id", .str delegation.tenantId),
  ("organization_id", .str delegation.organizationId),
  ("trust_agreement_id", .str delegation.trustAgreementId),
  ("remote_org_id", .str delegation.remoteOrgId),
  ("source_agent_id", .str delegation.sourceAgentId),
  ("destination_agent_id", .str delegation.destinationAgentId),
  ("task_type", .str delegation.taskType),
  ("payload", .obj delegation.payload),
  ("created_by", .str delegation.createdBy),
  ("status", .str delegation.status),
  ("receipt_id", delegation.receiptId.elim .null .str),
  ("result", .obj delegation.result),
  ("rejection_reason", .str delegation.rejectionReason),
  ("created_at", .str delegation.createdAt.isoformat),
  ("updated_at", .str delegation.updatedAt.isoformat)]

/-- The collections of the federation and the event log, which the router shares. -/
structure FederationState where
  orgs : Dict String FederatedOrg
  agreements : Dict String TrustAgreement
  capabilities : Dict String RemoteAgent
  delegations : Dict String RemoteDelegation
  router : RouterState

/-- The router's settings and the `str` of a value that is not a text. -/
structure FederationSettings extends RouterSettings where
  str : PyValue → String

/-- The ids that a new message draws. -/
structure MessageIds where
  messageId : String
  correlationId : String
  nonce : String

/-- What a sent message needs from outside. -/
structure Sending where
  signingSecret : String
  checkPolicy : PolicyCheckRequest → Except PyError PolicyCheckResponse
  receiptId : String

namespace FederationState

variable (settings : FederationSettings) (now : Nat → UtcTime)

def append (federation : FederationState) (eventType aggregateId : String)
    (payload : List (String × PyValue)) : FederationState :=
  { federation with router := federation.router.append eventType aggregateId payload }

section Agreements

variable (federation : FederationState) (agreement : TrustAgreement)

def putAgreement : FederationState :=
  { federation with
    agreements := federation.agreements.set agreement.agreementId agreement }

/-- The event of an agreement carries its dictionary. -/
def announce (eventType agreementId : String) (agreement : TrustAgreement) : FederationState :=
  federation.append eventType agreementId (ofJsonFields agreement.fields)

def createOrg (org : FederatedOrg) : Except PyError Unit × FederationState :=
  (.ok (), { federation with orgs := federation.orgs.set org.orgId org })

def createAgreement : Except PyError Unit × FederationState :=
  match ((Collection.rows federation.orgs).filter fun org =>
      org.tenantId = agreement.tenantId).find? fun org =>
        org.remoteOrgId = agreement.remoteOrgId with
  | none => (.error (.notFoundError "remote organization must be registered before agreement"),
      federation)
  | some _ => (.ok (), (federation.putAgreement agreement).announce "federation.agreement.created"
      agreement.agreementId agreement)

/-- An expired agreement is marked as such before the call raises. -/
def expire (updatedAt : UtcTime) : FederationState :=
  let expired := agreement.withStatus updatedAt "expired" ""
  (federation.putAgreement expired).announce "federation.agreement.expired" agreement.agreementId
    expired

variable (agreementId : String)

def activateAgreement : Except PyError Unit × FederationState :=
  match federation.agreements.get? agreementId with
  | none => (.error (.notFoundError "trust agreement not found"), federation)
  | some agreement =>
      match agreement.isExpired (now 0) with
      | .error exception => (.error exception, federation)
      | .ok true => (.error (.conflictError "trust agreement expired"),
          federation.expire agreement (now 1))
      | .ok false =>
          let activated := agreement.withStatus (now 1) "active" ""
          (.ok (), (federation.putAgreement activated).announce "federation.agreement.activated"
            agreementId activated)

def revokeAgreement (agreementId reason : String) : Except PyError Unit × FederationState :=
  match federation.agreements.get? agreementId with
  | none => (.error (.notFoundError "trust agreement not found"), federation)
  | some agreement =>
      let revoked := agreement.withStatus (now 0) "revoked" reason
      let announced := (federation.putAgreement revoked).announce "federation.agreement.revoked"
        agreementId revoked
      (.ok (), announced.append "federation.remote_org.blocked" agreement.remoteOrgId [
        ("tenant_id", .str agreement.tenantId),
        ("organization_id", .str agreement.organizationId),
        ("remote_org_id", .str agreement.remoteOrgId),
        ("reason", .str reason)])

/-- The check of an agreement before its use. -/
def assertActive : Except PyError Unit × FederationState :=
  match agreement.isExpired (now 0) with
  | .error exception => (.error exception, federation)
  | .ok true => (.error (.authorizationError "trust agreement expired"),
      federation.expire agreement (now 1))
  | .ok false =>
      match agreement.isActive (now 1) with
      | .error exception => (.error exception, federation)
      | .ok false => (.error (.authorizationError "active trust agreement is required"), federation)
      | .ok true => (.ok (), federation)

/-- The publication and the import of a capability differ in their event. -/
def offerCapability (eventType : String) (agent : RemoteAgent)
    (agreement : TrustAgreement) : Except PyError Unit × FederationState :=
  match federation.assertActive now agreement with
  | (.error exception, after) => (.error exception, after)
  | (.ok _, after) =>
      let stored := { after with capabilities := after.capabilities.set agent.catalogId agent }
      (.ok (), stored.append eventType agent.catalogId agent.fields)

variable (agent : RemoteAgent)

def publishCapability (agreement : TrustAgreement) : Except PyError Unit × FederationState :=
  federation.offerCapability now "federation.capability.published" agent agreement

def importCapability (agreement : TrustAgreement) : Except PyError Unit × FederationState :=
  federation.offerCapability now "federation.capability.imported" agent agreement

/-- The stored agreement is checked before the directory is searched. -/
def discover
    (search : TrustAgreement → Except PyError Unit) : Except PyError Unit × FederationState :=
  match federation.agreements.get? agreementId with
  | none => (.error (.notFoundError "trust agreement not found"), federation)
  | some agreement =>
      match federation.assertActive now agreement with
      | (.error exception, after) => (.error exception, after)
      | (.ok _, after) => (search agreement, after)

end Agreements

section Messages

variable (federation : FederationState)

def sendMessage (message : FederatedMessage) (sending : Sending) :
    Except PyError FederatedReceipt × FederationState :=
  match federation.agreements.get? message.trustAgreementId with
  | none => (.error (.notFoundError "trust agreement not found"), federation)
  | some agreement =>
      match federation.assertActive now agreement with
      | (.error exception, after) => (.error exception, after)
      | (.ok _, after) =>
          let delivery : Delivery := {
            message, agreement
            signingSecret := sending.signingSecret
            activeAt := now 2
            expiredAt := now 3
            checkPolicy := sending.checkPolicy
            receiptId := sending.receiptId
            createdAt := now 4 }
          let (answer, router) := after.router.send settings.toRouterSettings delivery
          (answer, { after with router })

def addReceipt (receipt : FederatedReceipt) : Except PyError Unit × FederationState :=
  (.ok (), { federation with router := federation.router.putReceipt receipt })

end Messages

section Delegations

/-- The task types that governance approves. -/
def governedTasks : List String := ["code_review", "compliance_review", "package_verification"]

variable (federation : FederationState)

/-- The durable backends refuse a delegation with values that JSON cannot write. -/
def putDelegation (key : String) (delegation : RemoteDelegation) : Except PyError FederationState :=
  match settings.encoding.encode (.obj delegation.asDict) with
  | .error exception => .error exception
  | .ok _ => .ok { federation with delegations := federation.delegations.set key delegation }

variable (delegation : RemoteDelegation)

/-- The checks of a delegation after its agreement. -/
def checkDelegation (agreement : TrustAgreement) (governanceApproved : Bool)
    (checkPolicy : PolicyCheckRequest → Except PyError PolicyCheckResponse) :
    Except PyError Unit := do
  if delegation.taskType ∉ agreement.allowedCapabilities then
    .error (.authorizationError "delegation capability is not allowed by agreement")
  else if delegation.taskType ∈ governedTasks ∧ governanceApproved = false then
    .error (.authorizationError "governance approval is required for delegation")
  else if delegation.payload.any fun field => sensitiveKey field.1 then
    .error (.validationError "raw sensitive federation payload values are not allowed")
  else do
    let response ← checkPolicy {
      agentId := .str delegation.sourceAgentId
      action := "federation.delegate." ++ delegation.taskType
      payload := .obj (defaultStrFields delegation.asDict) }
    if response.allowed then .ok ()
    else .error (.authorizationError (if response.reason = "" then
      "VEIL policy denied federation delegation" else response.reason))

/-- The unsigned message of a delegation, whose payload may replace the two first keys. -/
def delegationMessage (ids : MessageIds) (timestamp : UtcTime) : FederatedMessage where
  sourceOrgId := delegation.organizationId
  sourceTenantId := delegation.tenantId
  destinationOrgId := delegation.remoteOrgId
  destinationTenantId := delegation.remoteOrgId
  sourceAgentId := delegation.sourceAgentId
  destinationAgentId := delegation.destinationAgentId
  trustAgreementId := delegation.trustAgreementId
  payload := delegation.payload.foldl (fun fields field => Dict.setItems field.1 field.2 fields) [
    ("delegation_id", .str delegation.delegationId), ("task_type", .str delegation.taskType)]
  veilReference := match lookup delegation.payload "veil_reference" with
    | none => "veil-ref"
    | some (.str text) => text
    | some value => settings.str value
  signature := ""
  messageId := ids.messageId
  correlationId := ids.correlationId
  nonce := ids.nonce
  timestamp := timestamp.toDateTime
  ttlSeconds := 300
  messageType := "request"

/-- A stored receipt id that is empty reads as none. -/
def withReceipt (receiptId : String) (updatedAt : UtcTime) : RemoteDelegation :=
  { delegation with
    receiptId := if receiptId = "" then none else some receiptId
    updatedAt := updatedAt.toDateTime }

/-- The delegation is stored after its message was sent. -/
def recordRequest (delegation : RemoteDelegation) : Except PyError Unit × FederationState :=
  match federation.putDelegation settings delegation.delegationId delegation with
  | .error exception => (.error exception, federation)
  | .ok stored => (.ok (), stored.append "federation.delegation.requested" delegation.delegationId
      delegation.asDict)

/-- The message of a checked delegation is created and sent. -/
def sendDelegation (delegation : RemoteDelegation)
    (sending : Sending) (ids : MessageIds) : Except PyError Unit × FederationState :=
  match FederatedMessage.create settings.sha256 ⟨ids.correlationId, ids.nonce, now 0⟩
      sending.signingSecret (delegationMessage settings delegation ids (now 0)) with
  | none => (.error (.typeError "message fields"), federation)
  | some message =>
      match federation.sendMessage settings (fun reading => now (reading + 1)) message sending with
      | (.error exception, after) => (.error exception, after)
      | (.ok receipt, after) =>
          after.recordRequest settings (withReceipt delegation receipt.receiptId (now 6))

def requestDelegation (delegation : RemoteDelegation)
    (sending : Sending) (ids : MessageIds) (governanceApproved : Bool) :
    Except PyError Unit × FederationState :=
  match federation.agreements.get? delegation.trustAgreementId with
  | none => (.error (.notFoundError "trust agreement not found"), federation)
  | some agreement =>
      match federation.assertActive now agreement with
      | (.error exception, after) => (.error exception, after)
      | (.ok _, after) =>
          match checkDelegation delegation agreement governanceApproved sending.checkPolicy with
          | .error exception => (.error exception, after)
          | .ok _ => after.sendDelegation settings (fun reading => now (reading + 2)) delegation
              sending ids

/-- The change of a stored delegation with its event. -/
def updateDelegation (delegationId eventType : String)
    (change : RemoteDelegation → RemoteDelegation) : Except PyError Unit × FederationState :=
  match federation.delegations.get? delegationId with
  | none => (.error (.notFoundError "federation delegation not found"), federation)
  | some delegation =>
      match federation.putDelegation settings delegationId (change delegation) with
      | .error exception => (.error exception, federation)
      | .ok stored => (.ok (), stored.append eventType delegationId (change delegation).asDict)

/-- The audit service may raise after the delegation was stored. -/
def completeDelegation (delegationId : String)
    (result : List (String × PyValue)) (audit : Except PyError Unit) :
    Except PyError Unit × FederationState :=
  match federation.updateDelegation settings delegationId "federation.delegation.completed"
      fun delegation =>
        { delegation with status := "completed", result, updatedAt := (now 0).toDateTime } with
  | (.error exception, after) => (.error exception, after)
  | (.ok _, after) => (audit, after)

def rejectDelegation (delegationId reason : String) : Except PyError Unit × FederationState :=
  federation.updateDelegation settings delegationId "federation.delegation.failed"
    fun delegation =>
      { delegation with
        status := "failed", rejectionReason := reason, updatedAt := (now 0).toDateTime }

end Delegations

end FederationState

/-- The operations of the service that may change its collections. -/
inductive FederationOperation where
  | createOrg (org : FederatedOrg)
  | createAgreement (agreement : TrustAgreement)
  | activateAgreement (agreementId : String)
  | revokeAgreement (agreementId reason : String)
  | publishCapability (agent : RemoteAgent) (agreement : TrustAgreement)
  | importCapability (agent : RemoteAgent) (agreement : TrustAgreement)
  | discover (agreementId : String) (search : TrustAgreement → Except PyError Unit)
  | sendMessage (message : FederatedMessage) (sending : Sending)
  | addReceipt (receipt : FederatedReceipt)
  | requestDelegation (delegation : RemoteDelegation) (sending : Sending) (ids : MessageIds)
      (governanceApproved : Bool)
  | completeDelegation (delegationId : String) (result : List (String × PyValue))
      (audit : Except PyError Unit)
  | rejectDelegation (delegationId reason : String)

/-- An operation with the clock readings that it makes in their order. -/
structure FederationCall where
  operation : FederationOperation
  now : Nat → UtcTime

def FederationState.step (settings : FederationSettings) (federation : FederationState)
    (call : FederationCall) : Except PyError Unit × FederationState :=
  match call.operation with
  | .createOrg org => federation.createOrg org
  | .createAgreement agreement => federation.createAgreement agreement
  | .activateAgreement agreementId => federation.activateAgreement call.now agreementId
  | .revokeAgreement agreementId reason => federation.revokeAgreement call.now agreementId reason
  | .publishCapability agent agreement => federation.publishCapability call.now agent agreement
  | .importCapability agent agreement => federation.importCapability call.now agent agreement
  | .discover agreementId search => federation.discover call.now agreementId search
  | .sendMessage message sending =>
      let (answer, after) := federation.sendMessage settings call.now message sending
      (answer.map fun _ => (), after)
  | .addReceipt receipt => federation.addReceipt receipt
  | .requestDelegation delegation sending ids governanceApproved =>
      federation.requestDelegation settings call.now delegation sending ids governanceApproved
  | .completeDelegation delegationId result audit =>
      federation.completeDelegation settings call.now delegationId result audit
  | .rejectDelegation delegationId reason =>
      federation.rejectDelegation settings call.now delegationId reason

end AgentFabric.Federation
