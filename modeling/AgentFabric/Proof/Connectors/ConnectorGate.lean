import AgentFabric.Construction.Connectors.ConnectorService

namespace AgentFabric.Connectors
open Persistence Transition Cloud CredentialVault ConnectorRegistry Effect

section Gate

variable {State Number : Type} (store : PersistenceStore State) (library : Library Number)

/-- Every check of the gate holds for one call of an adapter, in the state that the request finds. -/
structure Gate (state : ConnectorState State Number) (service : ConnectorExecutionService Number)
    (request : ConnectorRequest Number) (invocation : Invocation Number)
    (connector : TenantConnector) (credential : CredentialReference)
    (policy : ConnectorExecutionPolicy Number) : Prop where
  connectorStored : ConnectorRegistry.state store library state.persistence request.context
    request.connectorId request.readAt = .ok connector
  connectorOwned : connector.tenantId = request.context.tenantId
  connectorEnabled : connector.enabled = true
  manifestStored : ConnectorRegistry.get store library state.persistence request.context
    request.connectorId (some connector.version) = .ok invocation.manifest
  actionSupported : invocation.action = request.action ∧
    request.action ∈ invocation.manifest.supportedActions
  permissionHeld : ∃ permission ∈ request.agentPermissions,
    permissionFor invocation.manifest.connectorType request.action = .ok permission
  credentialStored : ∃ id, credentialId (connector.credentialRef.getD "") = .ok id ∧
    CredentialVault.get store library state.persistence request.context.tenantId id
        request.readAt = .ok credential ∧
      resolve store library service.backend state request.context.tenantId id
        request.readAt = .ok invocation.credential
  credentialOwned : credential.tenantId = request.context.tenantId ∧
    credential.connectorId = request.connectorId
  credentialActive : credential.status = "active"
  policyStored : ConnectorRegistry.policy store library state.persistence request.context
    (connector.policyId.getD "") = .ok policy
  agentAllowed : policy.allowedAgents = [] ∨ request.agentId ∈ policy.allowedAgents
  connectorAllowed : policy.allowedConnectors = [] ∨ request.connectorId ∈ policy.allowedConnectors
  actionAllowed : policy.allowedActions = [] ∨ request.action ∈ policy.allowedActions
  credentialTypeAllowed : policy.allowedCredentialTypes = [] ∨
    credential.credentialType ∈ policy.allowedCredentialTypes
  riskAllowed : ∃ risk maximum, riskLevel invocation.manifest.riskLevel = .ok risk ∧
    riskLevel policy.maximumRisk = .ok maximum ∧ risk ≤ maximum
  trustAllowed : library.less request.packageTrustScore policy.minimumPackageTrustScore = false
  veilAllowed : service.production = true ∨ policy.requireVeil = true →
    ∃ client answer, service.veilClient = some client ∧
      client.checkPolicy {
        agentId := .str request.agentId
        action := "connector." ++ invocation.manifest.connectorType ++ "." ++ request.action
        payload := .obj [("tenant_id", .str request.context.tenantId),
          ("connector_id", .str invocation.manifest.connectorId)] } = .ok answer ∧
      answer.allowed = true ∧
      client.sanitizeContext request.agentId request.context.tenantId (.obj request.payload) =
        .ok invocation.payload
  payloadValid : service.sandbox.validateRequest library invocation.payload
    invocation.manifest.allowedDomains invocation.manifest.allowedHttpMethods = .ok ()

/-- An allowlist gives no reason exactly when it is empty or lists the item. -/
theorem listed_reason_eq_nil_iff (allowlist : List String) (item reason : String) :
    (if ConnectorExecutionPolicy.listed allowlist item then [] else [reason]) = [] ↔
      allowlist = [] ∨ item ∈ allowlist := by
  simp [ConnectorExecutionPolicy.listed, or_iff_not_imp_left]

/-- A policy without reasons allows every part of the request. -/
theorem decide_allowed (policy : ConnectorExecutionPolicy Number) (request : PolicyRequest Number)
    (decision : PolicyDecision) (decided : policy.decide library request = .ok decision)
    (allowed : decision.allowed = true) :
    (policy.allowedAgents = [] ∨ request.agentId ∈ policy.allowedAgents) ∧
    (policy.allowedConnectors = [] ∨ request.connectorId ∈ policy.allowedConnectors) ∧
    (policy.allowedActions = [] ∨ request.action ∈ policy.allowedActions) ∧
    (policy.allowedCredentialTypes = [] ∨ request.credentialType ∈ policy.allowedCredentialTypes) ∧
    (∃ risk maximum, riskLevel request.riskLevel = .ok risk ∧
      riskLevel policy.maximumRisk = .ok maximum ∧ risk ≤ maximum) ∧
    library.less request.packageTrustScore policy.minimumPackageTrustScore = false := by
  unfold ConnectorExecutionPolicy.decide at decided
  obtain ⟨risk, riskRead, decided⟩ := bind_eq_ok_iff.mp decided
  obtain ⟨maximum, maximumRead, decided⟩ := bind_eq_ok_iff.mp decided
  rw [← Except.ok.inj decided] at allowed
  simp only [List.isEmpty_iff, List.append_eq_nil_iff, listed_reason_eq_nil_iff] at allowed
  obtain ⟨⟨⟨⟨⟨agents, connectors⟩, actions⟩, types⟩, risks⟩, trust⟩ := allowed
  refine ⟨agents, connectors, actions, types, ⟨risk, maximum, riskRead, maximumRead, ?_⟩, ?_⟩
  · by_contra above
    rw [if_pos (not_le.mp above)] at risks
    cases risks
  · by_contra below
    rw [if_pos ((Bool.not_eq_false _).mp below)] at trust
    cases trust

theorem mem_of_requirePermissions {granted : List String} {permission : String}
    (held : requirePermissions granted [permission] = .ok ()) : permission ∈ granted := by
  by_contra missing
  simp [requirePermissions, Sorting.sortedBy, missing] at held

variable {now : UtcTime} {credential : CredentialReference} {persistence : State}

/-- A credential that the vault returns belongs to the tenant. -/
theorem CredentialVault.tenant_of_get {tenantId id : String}
    (found : CredentialVault.get store library persistence tenantId id now = .ok credential) :
    credential.tenantId = tenantId := by
  unfold CredentialVault.get at found
  split at found
  · cases found
  · obtain ⟨reference, -, checked⟩ := bind_eq_ok_iff.mp found
    by_cases foreign : reference.tenantId ≠ tenantId
    · rw [if_pos foreign] at checked
      cases checked
    · rw [if_neg foreign] at checked
      rw [← Except.ok.inj checked]
      exact not_not.mp foreign

theorem CredentialVault.active_of_resolve {backend : Option ProductionCredentialBackend}
    {state : ConnectorState State Number} {tenantId id secret : String}
    (found : CredentialVault.get store library state.persistence tenantId id now = .ok credential)
    (resolved : resolve store library backend state tenantId id now = .ok secret) :
    credential.status = "active" := by
  unfold resolve at resolved
  rw [found] at resolved
  by_contra inactive
  have refused : (.error (.authorizationError "credential is not active") : Except PyError String) =
      .ok secret := by
    rw [← resolved]
    exact (if_pos inactive).symm
  cases refused

/-- The enablement that the registry returns belongs to the tenant. -/
theorem ConnectorRegistry.tenant_of_state {context : TenantContext}
    {connectorId : String} {connector : TenantConnector}
    (found : ConnectorRegistry.state store library persistence context connectorId now =
      .ok connector) : connector.tenantId = context.tenantId := by
  unfold ConnectorRegistry.state at found
  split at found
  · cases found
  · obtain ⟨stored, -, checked⟩ := bind_eq_ok_iff.mp found
    by_cases foreign : stored.tenantId ≠ context.tenantId
    · rw [if_pos foreign] at checked
      cases checked
    · rw [if_neg foreign] at checked
      rw [← Except.ok.inj checked]
      exact not_not.mp foreign

namespace ConnectorExecutionService

variable (service : ConnectorExecutionService Number) (request : ConnectorRequest Number)
  (manifest : ConnectorManifest Number)

/-- A sanitized payload was allowed by VEIL and passes the sandbox. -/
theorem sanitize_eq_ok {client : VeilClient} {sanitized : Json}
    (returned : sanitize library service client request manifest = .ok sanitized) :
    (∃ answer, client.checkPolicy {
        agentId := .str request.agentId
        action := "connector." ++ manifest.connectorType ++ "." ++ request.action
        payload := .obj [("tenant_id", .str request.context.tenantId),
          ("connector_id", .str manifest.connectorId)] } = .ok answer ∧ answer.allowed = true) ∧
      client.sanitizeContext request.agentId request.context.tenantId (.obj request.payload) =
        .ok sanitized ∧
      service.sandbox.validateRequest library sanitized manifest.allowedDomains
        manifest.allowedHttpMethods = .ok () := by
  unfold sanitize at returned
  obtain ⟨answer, answered, returned⟩ := bind_eq_ok_iff.mp returned
  obtain ⟨_, allowed, returned⟩ := bind_eq_ok_iff.mp returned
  obtain ⟨payload, given, returned⟩ := bind_eq_ok_iff.mp returned
  obtain ⟨_, valid, returned⟩ := bind_eq_ok_iff.mp returned
  obtain rfl := Except.ok.inj returned
  rw [refuseWhen_eq_ok_iff, Bool.not_eq_false'] at allowed
  exact ⟨⟨answer, answered, allowed⟩, given, valid⟩

/-- The payload for the adapter is the sanitized one, or the given one where VEIL is not needed. -/
theorem veilAuthorizeAndSanitize_eq_ok {policy : ConnectorExecutionPolicy Number} {payload : Json}
    (returned : veilAuthorizeAndSanitize library service request manifest policy = .ok payload) :
    (∃ client, service.veilClient = some client ∧
        sanitize library service client request manifest = .ok payload) ∨
      (service.production = false ∧ policy.requireVeil = false ∧ payload = .obj request.payload) := by
  have plain {answer : Json}
      (passed : (if service.production || policy.requireVeil then
        .error (.authorizationError "VEIL policy service is unavailable")
        else .ok (.obj request.payload) : Except PyError Json) = .ok answer) :
      service.production = false ∧ policy.requireVeil = false ∧ answer = .obj request.payload := by
    cases production : service.production with
    | true => simp [production] at passed
    | false =>
        cases required : policy.requireVeil with
        | true => simp [production, required] at passed
        | false =>
            simp only [production, required, Bool.or_self, Bool.false_eq_true, if_false] at passed
            exact ⟨rfl, rfl, (Except.ok.inj passed).symm⟩
  unfold veilAuthorizeAndSanitize at returned
  dsimp only at returned
  split at returned
  · exact .inr (plain returned)
  · rename_i client present
    split at returned
    · rename_i sanitized answered
      rw [← Except.ok.inj returned]
      exact .inl ⟨client, present, answered⟩
    · split at returned
      · cases returned
      · exact .inr (plain returned)

/-- A prepared request has passed every check of the gate. -/
theorem prepare_gated (state : ConnectorState State Number) {prepared : PreparedRequest Number}
    (returned : prepare store library service state request = .ok prepared) :
    ∃ connector policy, Gate store library state service request
      ⟨prepared.manifest, request.action, prepared.payload, prepared.secret⟩ connector
      prepared.credential policy := by
  unfold prepare at returned
  dsimp only at returned
  obtain ⟨connector, connectorStored, returned⟩ := bind_eq_ok_iff.mp returned
  obtain ⟨_, enabled, returned⟩ := bind_eq_ok_iff.mp returned
  obtain ⟨manifest, manifestStored, returned⟩ := bind_eq_ok_iff.mp returned
  obtain ⟨_, supported, returned⟩ := bind_eq_ok_iff.mp returned
  obtain ⟨permission, needed, returned⟩ := bind_eq_ok_iff.mp returned
  obtain ⟨_, held, returned⟩ := bind_eq_ok_iff.mp returned
  obtain ⟨_, _, returned⟩ := bind_eq_ok_iff.mp returned
  obtain ⟨id, named, returned⟩ := bind_eq_ok_iff.mp returned
  obtain ⟨credential, credentialStored, returned⟩ := bind_eq_ok_iff.mp returned
  obtain ⟨_, bound, returned⟩ := bind_eq_ok_iff.mp returned
  obtain ⟨policy, policyStored, returned⟩ := bind_eq_ok_iff.mp returned
  obtain ⟨decision, decided, returned⟩ := bind_eq_ok_iff.mp returned
  obtain ⟨_, allowed, returned⟩ := bind_eq_ok_iff.mp returned
  obtain ⟨_, _, returned⟩ := bind_eq_ok_iff.mp returned
  obtain ⟨_, valid, returned⟩ := bind_eq_ok_iff.mp returned
  obtain ⟨payload, authorized, returned⟩ := bind_eq_ok_iff.mp returned
  obtain ⟨secret, resolved, returned⟩ := bind_eq_ok_iff.mp returned
  obtain rfl := Except.ok.inj returned
  rw [refuseWhen_eq_ok_iff] at enabled supported bound allowed
  obtain ⟨agents, connectors, actions, types, risks, trust⟩ :=
    decide_allowed library policy _ decision decided ((Bool.not_eq_false' ..).mp allowed)
  have payloads := veilAuthorizeAndSanitize_eq_ok library service request manifest authorized
  refine ⟨connector, policy, {
    connectorStored
    connectorOwned := tenant_of_state store library connectorStored
    connectorEnabled := (Bool.not_eq_false' ..).mp enabled
    manifestStored
    actionSupported := ⟨rfl, by simpa using supported⟩
    permissionHeld := ⟨permission, mem_of_requirePermissions held, needed⟩
    credentialStored := ⟨id, named, credentialStored, resolved⟩
    credentialOwned := ⟨tenant_of_get store library credentialStored, by simpa using bound⟩
    credentialActive := active_of_resolve store library credentialStored resolved
    policyStored
    agentAllowed := agents
    connectorAllowed := connectors
    actionAllowed := actions
    credentialTypeAllowed := types
    riskAllowed := risks
    trustAllowed := trust
    veilAllowed := fun needsVeil => ?_
    payloadValid := ?_ }⟩
  · rcases payloads with ⟨client, present, sanitized⟩ | ⟨production, required, -⟩
    · obtain ⟨⟨answer, answered, allows⟩, given, -⟩ :=
        sanitize_eq_ok library service request manifest sanitized
      exact ⟨client, answer, present, answered, allows, given⟩
    · rw [production, required] at needsVeil
      rcases needsVeil with impossible | impossible <;> cases impossible
  · rcases payloads with ⟨client, -, sanitized⟩ | ⟨-, -, rfl⟩
    · exact (sanitize_eq_ok library service request manifest sanitized).2.2
    · exact valid

end ConnectorExecutionService

/-- The calls of adapters stay as they are. -/
def Quiet {Value : Type} (effect : Effect (ConnectorState State Number) Value) : Prop :=
  ∀ state, (effect.perform state).2.invocations = state.invocations

namespace Quiet

variable {Value Next : Type}

theorem pure (value : Value) : Quiet (Pure.pure value : Effect (ConnectorState State Number) Value) :=
  fun _ => rfl

theorem throw (exception : PyError) :
    Quiet (MonadExcept.throw exception : Effect (ConnectorState State Number) Value) :=
  fun _ => rfl

theorem ofExcept (answer : Except PyError Value) :
    Quiet (Effect.ofExcept answer : Effect (ConnectorState State Number) Value) :=
  fun _ => rfl

theorem get : Quiet (MonadState.get :
    Effect (ConnectorState State Number) (ConnectorState State Number)) :=
  fun _ => rfl

/-- Quiet calls stay quiet one after the other. -/
theorem bind {effect : Effect (ConnectorState State Number) Value}
    {next : Value → Effect (ConnectorState State Number) Next} (first : Quiet effect)
    (second : ∀ value, Quiet (next value)) : Quiet (effect >>= next) := by
  intro state
  have kept := first state
  rw [perform_bind]
  revert kept
  obtain ⟨answer, after⟩ := effect.perform state
  cases answer with
  | error exception => exact id
  | ok value => exact fun kept => (second value after).trans kept

theorem ite {condition : Prop} [Decidable condition]
    {effect other : Effect (ConnectorState State Number) Value} (yes : Quiet effect)
    (no : Quiet other) : Quiet (if condition then effect else other) := by
  split
  · exact yes
  · exact no

theorem record (collection key : String) (document : Json) :
    Quiet (Connectors.record store collection key document :
      Effect (ConnectorState State Number) Unit) := by
  intro state
  rw [Connectors.record, perform_bind, perform_get]
  dsimp only
  rw [perform_bind, perform_ofExcept]
  cases store.put state.persistence collection key document <;> rfl

theorem emit (eventType aggregateId : String) (payload : Json) :
    Quiet (Connectors.emit eventType aggregateId payload :
      Effect (ConnectorState State Number) Unit) :=
  fun _ => rfl

/-- A quiet handler leaves the calls of adapters that the handled call makes. -/
theorem invocations_handle (effect : Effect (ConnectorState State Number) Value)
    {handler : PyError → Effect (ConnectorState State Number) Value}
    (quiet : ∀ exception, Quiet (handler exception)) (state : ConnectorState State Number) :
    ((effect.handle handler).perform state).2.invocations =
      (effect.perform state).2.invocations := by
  rw [perform_handle]
  obtain ⟨answer, after⟩ := effect.perform state
  cases answer with
  | error exception => exact quiet exception after
  | ok value => rfl

end Quiet

theorem ConnectorRegistry.register_quiet (manifest : ConnectorManifest Number)
    (tenantId createdBy : String) :
    Quiet (register store library manifest tenantId createdBy) := by
  refine (Quiet.ofExcept _).bind fun _ => Quiet.get.bind fun state => ?_
  refine .ite (.throw _) ?_
  exact (Quiet.record store _ _ _).bind fun _ => (Quiet.record store _ _ _).bind fun _ =>
    (Quiet.emit _ _ _).bind fun _ => .pure manifest

variable (context : TenantContext) (connectorId : String)

theorem ConnectorRegistry.enable_quiet
    (version : Option String) (credentialRef : String) (policy : ConnectorExecutionPolicy Number)
    (now : UtcTime) : Quiet (enable store library context connectorId version
      credentialRef policy now) := by
  refine Quiet.get.bind fun state => (Quiet.ofExcept _).bind fun manifest =>
    (Quiet.ofExcept _).bind fun _ => ?_
  refine .ite (.throw _) ?_
  exact (Quiet.record store _ _ _).bind fun _ => (Quiet.record store _ _ _).bind fun _ =>
    (Quiet.emit _ _ _).bind fun _ => .pure _

theorem ConnectorRegistry.disable_quiet
    (now : UtcTime) : Quiet (disable store library context connectorId now :
      Effect (ConnectorState State Number) _) := by
  refine Quiet.get.bind fun state => (Quiet.ofExcept _).bind fun stored => ?_
  exact (Quiet.record store _ _ _).bind fun _ => (Quiet.emit _ _ _).bind fun _ => .pure _

namespace CredentialVault

variable (backend : Option ProductionCredentialBackend) (reference : CredentialReference)

theorem storeSecret_quiet (secret : String) :
    Quiet (storeSecret backend reference secret : Effect (ConnectorState State Number) Unit) := by
  cases backend with
  | none => exact fun _ => rfl
  | some backend => exact .ofExcept _

theorem forget_quiet :
    Quiet (forget backend reference : Effect (ConnectorState State Number) Unit) := by
  cases backend with
  | none => exact fun _ => rfl
  | some backend => exact .ofExcept _

theorem create_quiet (tenantId connectorId credentialType createdBy secret credentialId : String)
    (now : UtcTime) : Quiet (create store backend tenantId connectorId credentialType createdBy secret
      credentialId now : Effect (ConnectorState State Number) _) := by
  refine .ite (.throw _) ?_
  exact (storeSecret_quiet backend _ _).bind fun _ => (Quiet.record store _ _ _).bind fun _ =>
    .pure _

theorem rotate_quiet (tenantId credentialId secret : String) (now : UtcTime) :
    Quiet (rotate store library backend tenantId credentialId secret now :
      Effect (ConnectorState State Number) _) := by
  refine Quiet.get.bind fun state => (Quiet.ofExcept _).bind fun stored => ?_
  exact (storeSecret_quiet backend _ _).bind fun _ => (Quiet.record store _ _ _).bind fun _ =>
    .pure _

theorem revoke_quiet (tenantId credentialId : String) (now : UtcTime) :
    Quiet (revoke store library backend tenantId credentialId now :
      Effect (ConnectorState State Number) _) := by
  refine Quiet.get.bind fun state => (Quiet.ofExcept _).bind fun stored => ?_
  exact (forget_quiet backend _).bind fun _ => (Quiet.record store _ _ _).bind fun _ => .pure _

end CredentialVault

namespace ConnectorExecutionService

variable (service : ConnectorExecutionService Number) (request : ConnectorRequest Number)

theorem fail_quiet (exception : PyError) :
    Quiet (fail store library request exception : Effect (ConnectorState State Number) _) := by
  unfold fail
  dsimp only
  exact (Quiet.record store _ _ _).bind fun _ => (Quiet.emit _ _ _).bind fun _ => .throw _

theorem deliver_quiet (prepared : PreparedRequest Number) :
    Quiet (deliver store service request prepared : Effect (ConnectorState State Number) _) := by
  refine (Quiet.ofExcept _).bind fun response => (Quiet.ofExcept _).bind fun _ =>
    (Quiet.ofExcept _).bind fun veilAuditRef => ?_
  exact (Quiet.record store _ _ _).bind fun _ => (Quiet.emit _ _ _).bind fun _ =>
    (Quiet.emit _ _ _).bind fun _ => .pure _

variable (state : ConnectorState State Number)

/-- The calls of adapters that a prepared request makes. -/
def preparedInvocations : List (Invocation Number) :=
  match prepare store library service state request with
  | .error _ => []
  | .ok prepared => [⟨prepared.manifest, request.action, prepared.payload, prepared.secret⟩]

/-- An attempt calls the adapter exactly once when the request is prepared, and never otherwise. -/
theorem attempt_invocations :
    ((attempt store library service request).perform state).2.invocations =
      state.invocations ++ preparedInvocations store library service request state := by
  rw [attempt, perform_bind, perform_get]
  dsimp only
  rw [perform_bind, perform_ofExcept, preparedInvocations]
  cases prepare store library service state request with
  | error exception => exact (List.append_nil _).symm
  | ok prepared => exact deliver_quiet store service request prepared _

/-- An execution calls adapters as its attempt does, or not at all. -/
theorem execute_invocations :
    ((execute store library service request).perform state).2.invocations = state.invocations ∨
      ((execute store library service request).perform state).2.invocations =
        state.invocations ++ preparedInvocations store library service request state := by
  rw [execute, perform_bind, perform_ofExcept]
  cases request.context.require with
  | error exception => exact .inl rfl
  | ok _ =>
      right
      dsimp only
      rw [perform_bind]
      exact (Quiet.invocations_handle _ (fail_quiet store library request) _).trans
        (attempt_invocations store library service request _)

end ConnectorExecutionService

/-- A call that makes a call of an adapter is an execution whose gate holds. -/
theorem gate_of_invoked (state : ConnectorState State Number) (call : ConnectorCall Number)
    (invocation : Invocation Number)
    (invoked : invocation ∈ ConnectorState.invoked store library state call) :
    ∃ service request connector credential policy, call = .execute service request ∧
      Gate store library state service request invocation connector credential policy := by
  have quiet (same : (ConnectorState.answer store library state call).2.invocations =
      state.invocations) : False := by
    rw [ConnectorState.invoked, same, List.drop_length] at invoked
    cases invoked
  cases call with
  | register manifest tenantId createdBy =>
      exact (quiet (((register_quiet store library _ _ _).bind fun _ => .pure _) state)).elim
  | enable context connectorId version credentialRef policy now =>
      exact (quiet (((enable_quiet store library _ _ _ _ _ _).bind fun _ => .pure _) state)).elim
  | disable context connectorId now =>
      exact (quiet (((disable_quiet store library _ _ _).bind fun _ => .pure _) state)).elim
  | create backend tenantId connectorId credentialType createdBy secret credentialId now =>
      exact (quiet (((create_quiet store backend _ _ _ _ _ _ _).bind fun _ => .pure _) state)).elim
  | rotate backend tenantId credentialId secret now =>
      exact (quiet (((rotate_quiet store library backend _ _ _ _).bind
        fun _ => .pure _) state)).elim
  | revoke backend tenantId credentialId now =>
      exact (quiet (((revoke_quiet store library backend _ _ _).bind fun _ => .pure _) state)).elim
  | execute service request =>
      have after : (ConnectorState.answer store library state
          (.execute service request)).2.invocations =
            ((service.execute store library request).perform state).2.invocations := by
        rw [ConnectorState.answer, ConnectorState.call]
        exact congrArg ConnectorState.invocations (perform_bind_snd (fun _ _ => rfl) state)
      rcases service.execute_invocations store library request state with none | made
      · exact (quiet (after.trans none)).elim
      · rw [ConnectorState.invoked, after, made, List.drop_left,
          ConnectorExecutionService.preparedInvocations] at invoked
        cases prepared : service.prepare store library state request with
        | error exception =>
            rw [prepared] at invoked
            cases invoked
        | ok ready =>
            rw [prepared] at invoked
            rw [List.mem_singleton.mp invoked]
            obtain ⟨connector, policy, gate⟩ := service.prepare_gated store library request state
              prepared
            exact ⟨service, request, connector, ready.credential, policy, rfl, gate⟩

end Gate

/-- The floats 0.8 and 1.0 in tenths and texts in ASCII. -/
def tenths : Library Nat where
  interpreter := ⟨fun _ => true, fun _ => 0, fun _ => false⟩
  upper := String.toUpper
  lower := String.toLower
  hostname := fun _ => .ok none
  timestamp := fun _ => "0.0"
  float
    | .float value => .ok (if value.text = "0.8" then 8 else 10)
    | _ => .error (.typeError "float() argument must be a string or a real number")
  document value := .float (if value = 8 then ⟨"0.8", Eq.refl true⟩ else ⟨"1.0", Eq.refl true⟩)
  less first second := first < second
  withinUnit value := value ≤ 10

/-- A connector is registered, gets a credential and is enabled for a tenant. -/
def enabledConnector : List (ConnectorCall Nat) :=
  let context : TenantContext := ⟨"tenant-a", "org-a", "owner-a", false⟩
  [.register {
      connectorId := "github", name := "GitHub", version := "1", description := "Repositories"
      connectorType := "github", supportedActions := ["read"]
      requiredPermissions := ["github.read"], credentialType := "oauth"
      rateLimits := Dict.empty.set "requests_per_minute" 2, riskLevel := "medium"
      tenantScope := "tenant", allowedDomains := [], allowedHttpMethods := ["GET"]
      trustScore := 10 } "tenant-a" "owner-a",
    .create none "tenant-a" "github" "oauth" "owner-a" "development" "credential-1" .first,
    .enable context "github" (some "1") "vault-ref:credential-1:v1" {
      policyId := "policy-1", tenantId := "tenant-a", allowedAgents := ["agent-a"]
      allowedConnectors := ["github"], allowedActions := ["read"]
      allowedCredentialTypes := ["oauth"], maximumRisk := "medium"
      minimumPackageTrustScore := 8, requireVeil := true } .first]

def readRequest : ConnectorRequest Nat where
  context := ⟨"tenant-a", "org-a", "owner-a", false⟩
  connectorId := "github"
  agentId := "agent-a"
  action := "read"
  payload := [("path", .str "/repos")]
  agentPermissions := ["github.read"]
  packageTrustScore := 10
  executionId := "connector-exec-1"
  readAt := .first
  limitedAt := ⟨⟨60000000, by decide⟩⟩
  executedAt := ⟨⟨60000000, by decide⟩⟩
  deniedAt := ⟨⟨60000000, by decide⟩⟩

def allowing : ConnectorExecutionService Nat where
  veilClient := some ⟨fun _ => .ok ⟨true, ""⟩, fun _ _ context => .ok context, fun _ _ _ => .ok "a"⟩
  production := true
  sandbox := .standard
  adapter := defaultAdapter
  backend := none

section Outcome

variable {State Number : Type} {store : PersistenceStore State}

/-- A record is written and nothing else changes. -/
theorem perform_record (lawful : store.Lawful) (collection key : String) (document : Json)
    (state : ConnectorState State Number) :
    ∃ next, store.put state.persistence collection key document = .ok next ∧
      (record store collection key document).perform state =
        (.ok (), { state with persistence := next }) := by
  obtain ⟨next, written⟩ := lawful.put_succeeds state.persistence collection key document
  refine ⟨next, written, ?_⟩
  rw [record, perform_bind, perform_get]
  dsimp only
  rw [perform_bind, perform_ofExcept, written]
  rfl

namespace ConnectorExecutionService

variable (library : Library Number) (service : ConnectorExecutionService Number)
  (request : ConnectorRequest Number) (prepared : PreparedRequest Number)

/-- The execution of a request whose response is accepted. -/
def completed (response : Json) (veilAuditRef : Option String) : ConnectorExecution := {
  tenantId := request.context.tenantId
  connectorId := request.connectorId
  connectorVersion := prepared.manifest.version
  agentId := request.agentId
  action := request.action
  status := "completed"
  normalizedResult := .obj [("connector_id", .str request.connectorId),
    ("action", .str request.action), ("data", response)]
  credentialRef := prepared.credential.referenceId
  policyDecision := prepared.decision.asDict
  veilAuditRef
  error := none
  executionId := request.executionId
  timestamp := request.executedAt }

/-- The adapter answers, the sandbox accepts the response and VEIL records the call. -/
def delivers : Bool :=
  match service.adapter prepared.manifest request.action prepared.payload prepared.secret with
  | .error _ => false
  | .ok response =>
      (service.sandbox.validateResponse response).isOk && (veilAudit service request).isOk

variable (store) in
/-- The request passes the checks before the adapter and its response is accepted. -/
def succeeds (state : ConnectorState State Number) : Bool :=
  match prepare store library service state request with
  | .error _ => false
  | .ok prepared => delivers service request prepared

/-- The denial record of a request. -/
def denial (reason : String) : Json := .obj [
  ("tenant_id", .str request.context.tenantId), ("connector_id", .str request.connectorId),
  ("agent_id", .str request.agentId), ("action", .str request.action), ("reason", .str reason)]

/-- The key of the denial record of a request. -/
def denialKey : String := request.connectorId ++ ":" ++ library.timestamp request.deniedAt

theorem completed_tenant (response : Json) (veilAuditRef : Option String) :
    PersistenceStore.hasText (completed request prepared response veilAuditRef).asDict "tenant_id"
      request.context.tenantId = true :=
  decide_eq_true rfl

theorem denial_tenant (reason : String) :
    PersistenceStore.hasText (denial request reason) "tenant_id" request.context.tenantId = true :=
  decide_eq_true rfl

theorem isOk_eq_true_iff {Value : Type} (answer : Except PyError Value) :
    answer.isOk = true ↔ ∃ value, answer = .ok value := by
  cases answer <;> simp [Except.isOk, Except.toBool]

/-- A delivered request is recorded as an execution. -/
theorem perform_deliver (lawful : store.Lawful) (prepared : PreparedRequest Number)
    (accepted : delivers service request prepared = true) (state : ConnectorState State Number) :
    ∃ response veilAuditRef after,
      store.put state.persistence "enterprise_connector_executions" request.executionId
        (completed request prepared response veilAuditRef).asDict = .ok after.persistence ∧
      (deliver store service request prepared).perform state =
        (.ok (completed request prepared response veilAuditRef), after) := by
  unfold delivers at accepted
  split at accepted
  · cases accepted
  · rename_i response answered
    rw [Bool.and_eq_true, isOk_eq_true_iff, isOk_eq_true_iff] at accepted
    obtain ⟨⟨_, valid⟩, veilAuditRef, audited⟩ := accepted
    let execution := completed request prepared response veilAuditRef
    obtain ⟨next, written, recorded⟩ := perform_record lawful "enterprise_connector_executions"
      request.executionId execution.asDict state
    refine ⟨response, veilAuditRef, { state with
      persistence := next
      events := state.events ++
        [⟨"connector.execution.allowed", request.connectorId, execution.asDict⟩] ++
        [⟨"connector.execution.completed", request.connectorId, execution.asDict⟩] }, written, ?_⟩
    rw [deliver, answered, perform_bind, perform_ofExcept]
    dsimp only
    rw [valid, perform_bind, perform_ofExcept]
    dsimp only
    rw [audited, perform_bind, perform_ofExcept]
    exact perform_bind_ok recorded

/-- A request that is not delivered raises and changes nothing. -/
theorem perform_deliver_error (refused : delivers service request prepared = false)
    (state : ConnectorState State Number) :
    ∃ exception, (deliver store service request prepared).perform state =
      (.error exception, state) := by
  unfold delivers at refused
  rw [deliver, perform_bind, perform_ofExcept]
  cases answered : service.adapter prepared.manifest request.action prepared.payload
      prepared.secret with
  | error exception => exact ⟨exception, rfl⟩
  | ok response =>
      rw [answered] at refused
      dsimp only at refused ⊢
      rw [perform_bind, perform_ofExcept]
      cases valid : service.sandbox.validateResponse response with
      | error exception => exact ⟨exception, rfl⟩
      | ok _ =>
          dsimp only
          rw [perform_bind, perform_ofExcept]
          cases audited : veilAudit service request with
          | error exception => exact ⟨exception, rfl⟩
          | ok reference =>
              rw [valid, audited] at refused
              cases refused

/-- A failure is recorded as a denial. -/
theorem perform_fail (lawful : store.Lawful) (exception : PyError)
    (state : ConnectorState State Number) :
    ∃ raised reason after,
      store.put state.persistence "enterprise_connector_denials" (denialKey library request)
        (denial request reason) = .ok after.persistence ∧
      (fail store library request exception).perform state = (.error raised, after) := by
  let document := denial request (failure exception).2.1
  obtain ⟨next, written, recorded⟩ := perform_record lawful "enterprise_connector_denials"
    (denialKey library request) document state
  refine ⟨(failure exception).2.2, (failure exception).2.1, { state with
    persistence := next
    events := state.events ++ [⟨(failure exception).1, request.connectorId, document⟩] },
    written, ?_⟩
  exact perform_bind_ok recorded

/-- An attempt that succeeds is recorded as an execution, and every other one raises without a
write. -/
theorem attempt_cases (lawful : store.Lawful) (state : ConnectorState State Number) :
    (succeeds store library service request state = true ∧
      ∃ prepared response veilAuditRef after,
        prepare store library service state request = .ok prepared ∧
        store.put state.persistence "enterprise_connector_executions" request.executionId
          (completed request prepared response veilAuditRef).asDict = .ok after.persistence ∧
        (attempt store library service request).perform state =
          (.ok (completed request prepared response veilAuditRef), after)) ∨
    (succeeds store library service request state = false ∧
      ∃ exception after, after.persistence = state.persistence ∧
        (attempt store library service request).perform state = (.error exception, after)) := by
  rw [attempt, perform_bind, perform_get]
  dsimp only
  rw [perform_bind, perform_ofExcept, succeeds]
  cases prepare store library service state request with
  | error exception => exact .inr ⟨rfl, exception, state, rfl, rfl⟩
  | ok prepared =>
      dsimp only
      let invoked : ConnectorState State Number := { state with
        invocations := state.invocations ++
          [⟨prepared.manifest, request.action, prepared.payload, prepared.secret⟩] }
      have called : (invoke request prepared).perform state = (.ok (), invoked) := rfl
      rw [perform_bind_ok called]
      cases accepted : delivers service request prepared with
      | true =>
          obtain ⟨response, veilAuditRef, after, written, delivered⟩ :=
            perform_deliver service request lawful prepared accepted invoked
          exact .inl ⟨rfl, prepared, response, veilAuditRef, after, rfl, written, delivered⟩
      | false =>
          obtain ⟨exception, raised⟩ :=
            perform_deliver_error service request prepared accepted invoked
          exact .inr ⟨rfl, exception, invoked, rfl, raised⟩

/-- A request without a tenant raises, a delivered one is recorded as an execution, and every other
one is recorded as a denial. -/
theorem execute_cases (lawful : store.Lawful) (state : ConnectorState State Number) :
    (∃ exception, request.context.require = .error exception ∧
      (execute store library service request).perform state = (.error exception, state)) ∨
    (request.context.require = .ok () ∧ succeeds store library service request state = true ∧
      ∃ prepared response veilAuditRef after,
        prepare store library service state request = .ok prepared ∧
        store.put state.persistence "enterprise_connector_executions" request.executionId
          (completed request prepared response veilAuditRef).asDict = .ok after.persistence ∧
        (execute store library service request).perform state =
          (.ok (completed request prepared response veilAuditRef), after)) ∨
    (request.context.require = .ok () ∧ succeeds store library service request state = false ∧
      ∃ raised reason after,
        store.put state.persistence "enterprise_connector_denials" (denialKey library request)
          (denial request reason) = .ok after.persistence ∧
        (execute store library service request).perform state = (.error raised, after)) := by
  rw [execute, perform_bind, perform_ofExcept]
  cases request.context.require with
  | error exception => exact .inl ⟨exception, rfl, rfl⟩
  | ok _ =>
      right
      dsimp only
      let requested : ConnectorState State Number := { state with
        events := state.events ++ [⟨"connector.execution.requested", request.connectorId, .obj [
          ("tenant_id", .str request.context.tenantId), ("connector_id", .str request.connectorId),
          ("agent_id", .str request.agentId), ("action", .str request.action)]⟩] }
      have emitted : (emit "connector.execution.requested" request.connectorId (.obj [
          ("tenant_id", .str request.context.tenantId), ("connector_id", .str request.connectorId),
          ("agent_id", .str request.agentId), ("action", .str request.action)]) :
            Effect (ConnectorState State Number) Unit).perform state = (.ok (), requested) := rfl
      rw [perform_bind_ok emitted, perform_handle]
      rcases attempt_cases library service request lawful requested with
        ⟨succeeded, prepared, response, veilAuditRef, after, passed, written, returned⟩ |
        ⟨failed, exception, attempted, same, raised⟩
      · rw [returned]
        exact .inl ⟨rfl, succeeded, prepared, response, veilAuditRef, after, passed, written, rfl⟩
      · obtain ⟨reraised, reason, after, written, recorded⟩ :=
          perform_fail library request lawful exception attempted
        rw [raised]
        rw [same] at written
        exact .inr ⟨rfl, failed, reraised, reason, after, written, recorded⟩

end ConnectorExecutionService

end Outcome

end AgentFabric.Connectors
