import AgentFabric.Construction.Cloud.ScheduledJob
import AgentFabric.Construction.Connectors.ConnectorRegistry

namespace AgentFabric.Connectors
open Persistence

/-- A vault outside the process. -/
structure ProductionCredentialBackend where
  put : CredentialReference → String → Except PyError Unit
  get : CredentialReference → Except PyError String
  delete : CredentialReference → Except PyError Unit

namespace CredentialVault

variable {State Number : Type} (store : PersistenceStore State) (library : Library Number)
  (backend : Option ProductionCredentialBackend)

def get (persistence : State) (tenantId credentialId : String) (now : UtcTime) :
    Except PyError CredentialReference :=
  match store.get persistence "connector_credentials" credentialId with
  | none => .error (.notFoundError "credential not found")
  | some document => do
      let reference ← CredentialReference.fromDict library now document
      if reference.tenantId ≠ tenantId then
        .error (.authorizationError "cross-tenant credential access denied")
      else .ok reference

/-- The secret of an active credential. -/
def resolve (state : ConnectorState State Number) (tenantId credentialId : String)
    (now : UtcTime) : Except PyError String := do
  let reference ← get store library state.persistence tenantId credentialId now
  if reference.status ≠ "active" then .error (.authorizationError "credential is not active")
  else
    match backend with
    | some backend => backend.get reference
    | none =>
        match state.localSecrets.get? reference.credentialId with
        | none => .error (.notFoundError "credential material unavailable")
        | some secret => .ok secret

variable (reference : CredentialReference)

def storeSecret (secret : String) : Effect (ConnectorState State Number) Unit :=
  match backend with
  | some backend => Effect.ofExcept (backend.put reference secret)
  | none => modify fun state : ConnectorState State Number =>
      { state with localSecrets := state.localSecrets.set reference.credentialId secret }

/-- A new credential takes its id and its time from outside. -/
def create (tenantId connectorId credentialType createdBy secret credentialId : String)
    (now : UtcTime) : Effect (ConnectorState State Number) CredentialReference := do
  if secret = "" then throw (.valueError "credential secret is required")
  else
    let reference : CredentialReference := {
      tenantId
      connectorId
      credentialType
      createdBy
      credentialId
      version := 1
      status := "active"
      createdAt := now.toDateTime
      rotatedAt := none
      revokedAt := none }
    storeSecret backend reference secret
    record store "connector_credentials" reference.credentialId reference.asDict
    pure reference

def rotate (tenantId credentialId secret : String) (now : UtcTime) :
    Effect (ConnectorState State Number) CredentialReference := do
  let state : ConnectorState State Number ← MonadState.get
  let stored ← Effect.ofExcept (get store library state.persistence tenantId credentialId now)
  let reference : CredentialReference := { stored with
    version := stored.version + 1
    status := "active"
    rotatedAt := some now.toDateTime }
  storeSecret backend reference secret
  record store "connector_credentials" credentialId reference.asDict
  pure reference

/-- The secret goes before the record. -/
def forget : Effect (ConnectorState State Number) Unit :=
  match backend with
  | some backend => Effect.ofExcept (backend.delete reference)
  | none => modify fun state : ConnectorState State Number =>
      { state with localSecrets := state.localSecrets.erase reference.credentialId }

def revoke (tenantId credentialId : String) (now : UtcTime) :
    Effect (ConnectorState State Number) CredentialReference := do
  let state : ConnectorState State Number ← MonadState.get
  let stored ← Effect.ofExcept (get store library state.persistence tenantId credentialId now)
  let reference : CredentialReference := { stored with
    status := "revoked"
    revokedAt := some now.toDateTime }
  forget backend reference
  record store "connector_credentials" credentialId reference.asDict
  pure reference

end CredentialVault

open Cloud

/-- A check that refuses a request raises its exception. -/
def refuseWhen (refused : Bool) (exception : PyError) : Except PyError Unit :=
  if refused then .error exception else .ok ()

@[simp] theorem refuseWhen_eq_ok_iff (refused : Bool) (exception : PyError) :
    refuseWhen refused exception = .ok () ↔ refused = false := by
  cases refused <;> simp [refuseWhen]

/-- The limits of requests and responses. -/
structure ConnectorSandbox where
  timeoutSeconds : Int
  maxPayloadBytes : Nat
  maxResponseBytes : Nat
  blockedDomains : List String

namespace ConnectorSandbox

/-- The sandbox of a service that is made without one. -/
def standard : ConnectorSandbox :=
  ⟨30, 64 * 1024, 1024 * 1024, ["localhost", "127.0.0.1", "169.254.169.254"]⟩

/-- The keys of credential material in any case. -/
def isSensitiveKey (key : String) : Bool :=
  haveI := lawfulBEq_chars
  LowerText.lower key ∈ ["secret".toList, "password".toList, "token".toList, "token_value".toList,
    "private_key".toList, "credential".toList]

mutual

/-- The scan goes through the dicts and the lists of a value. -/
def containsSensitive : Json → Bool
  | .obj fields => fieldsContainSensitive fields
  | .arr items => itemsContainSensitive items
  | .null => false
  | .bool _ => false
  | .int _ => false
  | .float _ => false
  | .str _ => false

def itemsContainSensitive : List Json → Bool
  | [] => false
  | item :: rest => containsSensitive item || itemsContainSensitive rest

def fieldsContainSensitive : List (String × Json) → Bool
  | [] => false
  | (key, value) :: rest =>
      isSensitiveKey key || containsSensitive value || fieldsContainSensitive rest

end

variable {Number : Type} (library : Library Number) (sandbox : ConnectorSandbox)

/-- A request without a URL names no domain. -/
def validateDomain (url : String) (allowedDomains : List String) : Except PyError Unit :=
  if url = "" then .ok ()
  else do
    let hostname ← library.hostname url
    let domain := library.lower (hostname.getD "")
    refuseWhen (domain ∈ sandbox.blockedDomains) (.valueError "connector target domain is blocked")
    refuseWhen (!allowedDomains.isEmpty && domain ∉ allowedDomains)
      (.valueError "connector target domain is not allowlisted")

def validateRequest (payload : Json) (allowedDomains allowedMethods : List String) :
    Except PyError Unit := do
  refuseWhen (sandbox.maxPayloadBytes < payload.encodedBytes)
    (.valueError "connector payload exceeds sandbox limit")
  refuseWhen (containsSensitive payload)
    (.valueError "connector payload may not contain credential material")
  match payload with
  | .obj _ =>
      refuseWhen (library.upper (library.textOr payload "method" "GET") ∉ allowedMethods)
        (.valueError "HTTP method is not allowed")
      validateDomain library sandbox (library.textOr payload "url" "") allowedDomains
      let timeout ← library.intOr payload "timeout_seconds" sandbox.timeoutSeconds
      refuseWhen (timeout ≤ 0 || sandbox.timeoutSeconds < timeout)
        (.valueError "connector timeout exceeds sandbox limit")
  | _ => .error (.attributeError "payload has no attribute 'get'")

def validateResponse (response : Json) : Except PyError Unit := do
  refuseWhen (sandbox.maxResponseBytes < response.encodedBytes)
    (.valueError "connector response exceeds sandbox limit")
  refuseWhen (containsSensitive response)
    (.valueError "connector response contains credential material")

end ConnectorSandbox

/-- The calls of VEIL that a connector execution makes, each of which may raise. -/
structure VeilClient where
  checkPolicy : PolicyCheckRequest → Except PyError PolicyCheckResponse
  sanitizeContext : (agentId tenantId : String) → (context : Json) → Except PyError Json
  createAuditEvent : (agentId eventType : String) → (payload : Json) → Except PyError String

/-- The parts of an execution service besides its stores. -/
structure ConnectorExecutionService (Number : Type) where
  veilClient : Option VeilClient
  production : Bool
  sandbox : ConnectorSandbox
  adapter : ConnectorManifest Number → String → Json → String → Except PyError Json
  backend : Option ProductionCredentialBackend

/-- One request with its clock readings and the id of its execution. -/
structure ConnectorRequest (Number : Type) where
  context : TenantContext
  connectorId : String
  agentId : String
  action : String
  payload : List (String × Json)
  agentPermissions : List String
  packageTrustScore : Number
  executionId : String
  readAt : UtcTime
  limitedAt : UtcTime
  executedAt : UtcTime
  deniedAt : UtcTime

/-- The normalized record of a completed execution. -/
structure ConnectorExecution where
  tenantId : String
  connectorId : String
  connectorVersion : String
  agentId : String
  action : String
  status : String
  normalizedResult : Json
  credentialRef : String
  policyDecision : Json
  veilAuditRef : Option String
  error : Option String
  executionId : String
  timestamp : UtcTime

def ConnectorExecution.asDict (execution : ConnectorExecution) : Json := .obj [
  ("execution_id", .str execution.executionId),
  ("tenant_id", .str execution.tenantId),
  ("connector_id", .str execution.connectorId),
  ("connector_version", .str execution.connectorVersion),
  ("agent_id", .str execution.agentId),
  ("action", .str execution.action),
  ("status", .str execution.status),
  ("normalized_result", execution.normalizedResult),
  ("credential_ref", .str execution.credentialRef),
  ("policy_decision", execution.policyDecision),
  ("veil_audit_ref", Json.optionalText execution.veilAuditRef),
  ("error", Json.optionalText execution.error),
  ("timestamp", .str execution.timestamp.isoformat)]

/-- The credential id is the second part of a vault reference. -/
def credentialId (reference : String) : Except PyError String :=
  match reference.toList.splitOn ':' with
  | first :: id :: _ :: _ =>
      if first = "vault-ref".toList then .ok (String.ofList id)
      else .error (.authorizationError "invalid credential reference")
  | _ => .error (.authorizationError "invalid credential reference")

/-- The adapter of a service that is made without one. -/
def defaultAdapter {Number : Type} (manifest : ConnectorManifest Number) (action : String)
    (payload : Json) (credential : String) : Except PyError Json :=
  if credential = "" then .error (.authorizationError "credential material unavailable")
  else .ok (.obj [("connector_type", .str manifest.connectorType), ("action", .str action),
    ("payload", payload)])

/-- What an authorized request hands to the adapter and to its record. -/
structure PreparedRequest (Number : Type) where
  manifest : ConnectorManifest Number
  credential : CredentialReference
  decision : PolicyDecision
  payload : Json
  secret : String

namespace ConnectorExecutionService

variable {State Number : Type} (store : PersistenceStore State) (library : Library Number)
  (service : ConnectorExecutionService Number)

/-- A logged execution of the connector is recent when it is not before the cutoff. -/
def isRecent (connectorId : String) (cutoff : DateTime) (row : Json) : Except PyError Bool :=
  if PersistenceStore.hasText row "connector_id" connectorId then do
    let timestamp ← Library.readTime (← library.textItem row "timestamp")
    match cutoff.later? timestamp with
    | none => .error (.typeError "can't compare offset-naive and offset-aware datetimes")
    | some later => .ok !later
  else .ok false

/-- The executions of the last minute are counted. -/
def enforceRateLimit (persistence : State) (tenantId connectorId : String)
    (manifest : ConnectorManifest Number) (now : UtcTime) : Except PyError Unit := do
  let cutoff ← CronParser.add now.toDateTime (-60000000)
  let recent ← (store.listTenant persistence "enterprise_connector_executions" tenantId).mapM
    (isRecent library connectorId cutoff)
  match manifest.rateLimits.get? "requests_per_minute" with
  | none => .error (.keyError "requests_per_minute")
  | some limit =>
      refuseWhen (limit ≤ recent.countP id) (.authorizationError "connector rate limit exceeded")

def isAuthorizationError : PyError → Bool
  | .authorizationError _ => true
  | _ => false

/-- The answer of VEIL with the sanitized payload, which passes the sandbox again. -/
def sanitize (client : VeilClient) (request : ConnectorRequest Number)
    (manifest : ConnectorManifest Number) : Except PyError Json := do
  let decision ← client.checkPolicy {
    agentId := .str request.agentId
    action := "connector." ++ manifest.connectorType ++ "." ++ request.action
    payload := .obj [("tenant_id", .str request.context.tenantId),
      ("connector_id", .str manifest.connectorId)] }
  refuseWhen (!decision.allowed) (.authorizationError
    (if decision.reason = "" then "VEIL denied connector execution" else decision.reason))
  let sanitized ← client.sanitizeContext request.agentId request.context.tenantId
    (.obj request.payload)
  service.sandbox.validateRequest library sanitized manifest.allowedDomains
    manifest.allowedHttpMethods
  .ok sanitized

variable (request : ConnectorRequest Number)

/-- Without VEIL the payload stays as it is where neither production nor the policy needs VEIL. -/
def veilAuthorizeAndSanitize (manifest : ConnectorManifest Number)
    (policy : ConnectorExecutionPolicy Number) :
    Except PyError Json :=
  let withoutVeil : Except PyError Json :=
    if service.production || policy.requireVeil then
      .error (.authorizationError "VEIL policy service is unavailable")
    else .ok (.obj request.payload)
  match service.veilClient with
  | none => withoutVeil
  | some client =>
      match sanitize library service client request manifest with
      | .ok sanitized => .ok sanitized
      | .error exception =>
          if isAuthorizationError exception then .error exception else withoutVeil

/-- The checks before the adapter in the order of the source. -/
def prepare (state : ConnectorState State Number) (request : ConnectorRequest Number) :
    Except PyError (PreparedRequest Number) := do
  let context := request.context
  let connector ← ConnectorRegistry.state store library state.persistence context
    request.connectorId request.readAt
  refuseWhen (!connector.enabled) (.authorizationError "connector is disabled")
  let manifest ← ConnectorRegistry.get store library state.persistence context
    request.connectorId (some connector.version)
  refuseWhen (request.action ∉ manifest.supportedActions)
    (.authorizationError "connector action is not supported")
  let permission ← permissionFor manifest.connectorType request.action
  requirePermissions request.agentPermissions [permission]
  let reference := connector.credentialRef.getD ""
  refuseWhen (reference = "") (.authorizationError "connector credential is not configured")
  let id ← credentialId reference
  let credential ← CredentialVault.get store library state.persistence context.tenantId id
    request.readAt
  refuseWhen (credential.connectorId ≠ request.connectorId)
    (.authorizationError "credential is not scoped to this connector")
  let policy ← ConnectorRegistry.policy store library state.persistence context
    (connector.policyId.getD "")
  let decision ← policy.decide library {
    agentId := request.agentId
    connectorId := request.connectorId
    action := request.action
    credentialType := credential.credentialType
    riskLevel := manifest.riskLevel
    packageTrustScore := request.packageTrustScore }
  refuseWhen (!decision.allowed) (.authorizationError ("; ".intercalate decision.reasons))
  enforceRateLimit store library state.persistence context.tenantId request.connectorId manifest
    request.limitedAt
  service.sandbox.validateRequest library (.obj request.payload) manifest.allowedDomains
    manifest.allowedHttpMethods
  let payload ← veilAuthorizeAndSanitize library service request manifest policy
  let secret ← CredentialVault.resolve store library service.backend state context.tenantId id
    request.readAt
  .ok { manifest, credential, decision, payload, secret }

def veilAudit : Except PyError (Option String) :=
  match service.veilClient with
  | none => .ok none
  | some client => (client.createAuditEvent request.agentId "connector.execution.completed" (.obj [
      ("tenant_id", .str request.context.tenantId), ("connector_id", .str request.connectorId),
      ("action", .str request.action)])).map some

variable (prepared : PreparedRequest Number)

/-- The call of the adapter is kept. -/
def invoke : Effect (ConnectorState State Number) Unit :=
  modify fun state : ConnectorState State Number => { state with
    invocations := state.invocations ++
      [⟨prepared.manifest, request.action, prepared.payload, prepared.secret⟩] }

/-- An accepted response of the adapter is recorded as an execution. -/
def deliver : Effect (ConnectorState State Number) ConnectorExecution := do
  let response ← Effect.ofExcept
    (service.adapter prepared.manifest request.action prepared.payload prepared.secret)
  Effect.ofExcept (service.sandbox.validateResponse response)
  let veilAuditRef ← Effect.ofExcept (veilAudit service request)
  let execution : ConnectorExecution := {
    tenantId := request.context.tenantId
    connectorId := request.connectorId
    connectorVersion := prepared.manifest.version
    agentId := request.agentId
    action := request.action
    status := "completed"
    normalizedResult := .obj [("connector_id", .str request.connectorId),
      ("action", .str request.action), ("data", response)]
    credentialRef := prepared.credential.referenceId
    policyDecision := prepared.decision.asDict
    veilAuditRef
    error := none
    executionId := request.executionId
    timestamp := request.executedAt }
  record store "enterprise_connector_executions" execution.executionId execution.asDict
  emit "connector.execution.allowed" request.connectorId execution.asDict
  emit "connector.execution.completed" request.connectorId execution.asDict
  pure execution

/-- An authorized request goes to the adapter. -/
def attempt : Effect (ConnectorState State Number) ConnectorExecution := do
  let state : ConnectorState State Number ← get
  let prepared ← Effect.ofExcept (prepare store library service state request)
  invoke request prepared
  deliver store service request prepared

/-- The event, the reason and the raised exception of an execution that fails with an exception. -/
def failure : PyError → String × String × PyError
  | .authorizationError message =>
      ("connector.execution.denied", message, .authorizationError message)
  | .permissionError message =>
      ("connector.execution.denied", message, .authorizationError message)
  | .notFoundError message => ("connector.execution.denied", message, .notFoundError message)
  | .valueError message => ("connector.execution.failed", message, .validationError message)
  | .validationError message => ("connector.execution.failed", message, .validationError message)
  | .conflictError message => ("connector.execution.failed", message, .conflictError message)
  | _ => ("connector.execution.failed", "connector execution failed",
      .validationError "connector execution failed")

/-- A failure is recorded under the connector and the time, and raised again. -/
def fail (exception : PyError) : Effect (ConnectorState State Number) ConnectorExecution := do
  let (eventType, reason, raised) := failure exception
  let denial : Json := .obj [
    ("tenant_id", .str request.context.tenantId), ("connector_id", .str request.connectorId),
    ("agent_id", .str request.agentId), ("action", .str request.action), ("reason", .str reason)]
  record store "enterprise_connector_denials"
    (request.connectorId ++ ":" ++ library.timestamp request.deniedAt) denial
  emit eventType request.connectorId denial
  throw raised

def execute : Effect (ConnectorState State Number) ConnectorExecution := do
  Effect.ofExcept request.context.require
  emit "connector.execution.requested" request.connectorId (.obj [
    ("tenant_id", .str request.context.tenantId), ("connector_id", .str request.connectorId),
    ("agent_id", .str request.agentId), ("action", .str request.action)])
  (attempt store library service request).handle (fail store library request)

end ConnectorExecutionService

/-- The calls of the registry, the vault and the execution service. -/
inductive ConnectorCall (Number : Type) where
  | register (manifest : ConnectorManifest Number) (tenantId createdBy : String)
  | enable (context : TenantContext) (connectorId : String) (version : Option String)
      (credentialRef : String) (policy : ConnectorExecutionPolicy Number) (now : UtcTime)
  | disable (context : TenantContext) (connectorId : String) (now : UtcTime)
  | create (backend : Option ProductionCredentialBackend)
      (tenantId connectorId credentialType createdBy secret credentialId : String) (now : UtcTime)
  | rotate (backend : Option ProductionCredentialBackend) (tenantId credentialId secret : String)
      (now : UtcTime)
  | revoke (backend : Option ProductionCredentialBackend) (tenantId credentialId : String)
      (now : UtcTime)
  | execute (service : ConnectorExecutionService Number) (request : ConnectorRequest Number)

/-- The results of the calls. -/
inductive ConnectorAnswer (Number : Type) where
  | manifest (manifest : ConnectorManifest Number)
  | connector (connector : TenantConnector)
  | credential (reference : CredentialReference)
  | execution (execution : ConnectorExecution)

namespace ConnectorState

variable {State Number : Type} (store : PersistenceStore State) (library : Library Number)

def initial : ConnectorState State Number := ⟨store.initial, Dict.empty, [], []⟩

/-- One call with its result. -/
def call : ConnectorCall Number → Effect (ConnectorState State Number) (ConnectorAnswer Number)
  | .register manifest tenantId createdBy => do
      let registered ← ConnectorRegistry.register store library manifest tenantId createdBy
      pure (.manifest registered)
  | .enable context connectorId version credentialRef policy now => do
      let connector ← ConnectorRegistry.enable store library context connectorId version
        credentialRef policy now
      pure (.connector connector)
  | .disable context connectorId now => do
      let connector ← ConnectorRegistry.disable store library context connectorId now
      pure (.connector connector)
  | .create backend tenantId connectorId credentialType createdBy secret credentialId now => do
      let reference ← CredentialVault.create store backend tenantId connectorId credentialType
        createdBy secret credentialId now
      pure (.credential reference)
  | .rotate backend tenantId credentialId secret now => do
      let reference ← CredentialVault.rotate store library backend tenantId credentialId secret now
      pure (.credential reference)
  | .revoke backend tenantId credentialId now => do
      let reference ← CredentialVault.revoke store library backend tenantId credentialId now
      pure (.credential reference)
  | .execute service request => do
      let execution ← service.execute store library request
      pure (.execution execution)

/-- The system answers one call. -/
def answer : Transition.Machine (ConnectorState State Number) (ConnectorCall Number)
    (Except PyError (ConnectorAnswer Number)) :=
  fun state request => (call store library request).perform state

/-- The calls of adapters that one call makes. -/
def invoked (state : ConnectorState State Number) (request : ConnectorCall Number) :
    List (Invocation Number) :=
  (answer store library state request).2.invocations.drop state.invocations.length

end ConnectorState

end AgentFabric.Connectors
