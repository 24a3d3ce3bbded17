import AgentFabric.Construction.Cloud.Runtime
import AgentFabric.Construction.Governance.ConsensusEngine
import AgentFabric.Construction.Persistence.Store
import AgentFabric.Foundation.Effect

namespace AgentFabric.Governance
open Persistence Transition Cloud

/-- The service keeps its records in the store and announces its steps in the event log. -/
structure GovernanceService (State : Type) where
  persistence : State
  events : List EventAppend

/-- The clock readings of a vote. -/
structure VoteClock where
  readAt : UtcTime
  markedAt : UtcTime
  evaluatedAt : UtcTime
  reviewedAt : UtcTime
  updatedAt : UtcTime

/-- The id and the times of a requested approval. -/
structure ApprovalDraw where
  approvalId : String
  createdAt : UtcTime
  expiresAt : UtcTime

/-- The clock readings, the ids and the policy service of an execution. -/
structure ExecuteContext where
  readAt : UtcTime
  markedAt : UtcTime
  checkPolicy : PolicyCheckRequest → PolicyCheckResponse
  auditEventId : String
  eventId : String
  updatedAt : UtcTime
  decisionRecordId : String
  createdAt : UtcTime

/-- The tenant that a route acts for. -/
structure TenantContext where
  tenantId : String
  isGlobalAdmin : Bool

namespace GovernanceService

variable {State : Type} (store : PersistenceStore State)

def initial : GovernanceService State := ⟨store.initial, []⟩

section Records

def proposals : String := "governance_proposals"

def votes : String := "governance_votes"

def approvals : String := "governance_approvals"

def decisionRecords : String := "governance_decision_records"

def put (collection key : String) (value : Json) : Effect (GovernanceService State) Unit := do
  let service : GovernanceService State ← get
  let persistence ← Effect.ofExcept (store.put service.persistence collection key value)
  set { service with persistence }

def append (eventType aggregateId : String) (payload : Json) :
    Effect (GovernanceService State) Unit := do
  let service : GovernanceService State ← get
  let event : EventAppend := ⟨eventType, aggregateId, payload⟩
  set { service with events := service.events ++ [event] }

/-- A malformed row raises. -/
def readRow {Value : Type} (row : Option Value) : Effect (GovernanceService State) Value :=
  match row with
  | none => throw (.valueError "invalid governance document")
  | some value => pure value

end Records

section Approvals

def requestApproval (proposal : Proposal) (assignedReviewer : String) (draw : ApprovalDraw) :
    Effect (GovernanceService State) HumanApproval := do
  let approval : HumanApproval := {
    proposalId := proposal.proposalId
    tenantId := proposal.tenantId
    assignedReviewer := assignedReviewer
    status := "pending"
    reason := ""
    approvalId := draw.approvalId
    createdAt := draw.createdAt.toDateTime
    expiresAt := draw.expiresAt.toDateTime
    resolvedAt := none }
  put store approvals approval.approvalId approval.asDict
  pure approval

def listApprovals (tenantId : String) (now : UtcTime) :
    Effect (GovernanceService State) (List HumanApproval) := do
  let service : GovernanceService State ← get
  readRow ((store.listTenant service.persistence approvals tenantId).mapM
    (HumanApproval.fromDict now))

def getApproval (approvalId : String) (now : UtcTime) :
    Effect (GovernanceService State) (Option HumanApproval) := do
  let service : GovernanceService State ← get
  match store.get service.persistence approvals approvalId with
  | none => pure none
  | some row =>
      if row.truthy then do
        let approval ← readRow (HumanApproval.fromDict now row)
        pure (some approval)
      else pure none

/-- Only a pending or escalated approval that has not expired is resolved. -/
def resolveRecord (approvalId status reason : String) (readAt resolvedAt : UtcTime) :
    Effect (GovernanceService State) HumanApproval := do
  match ← getApproval store approvalId readAt with
  | none => throw (.keyError approvalId)
  | some approval =>
      if ← Effect.ofExcept (approval.isExpired readAt) then throw (.conflictError "approval expired")
      else if approval.status ∉ ["pending", "escalated"] then
        throw (.conflictError "approval already resolved")
      else do
        let resolved := { approval with status, reason, resolvedAt := some resolvedAt.toDateTime }
        put store approvals resolved.approvalId resolved.asDict
        pure resolved

def approvedForProposal (tenantId proposalId : String) (now : UtcTime) :
    Effect (GovernanceService State) Bool := do
  let found ← listApprovals store tenantId now
  pure (found.any fun approval =>
    approval.proposalId = proposalId ∧ approval.status = "approved")

end Approvals

variable (proposal : Proposal)

/-- A denied action is announced before the call raises. -/
def blockAction {Value : Type} (response : PolicyCheckResponse)
    (default : String) : Effect (GovernanceService State) Value := do
  append "governance.action.blocked" proposal.proposalId (.obj [
    ("tenant_id", .str proposal.tenantId),
    ("proposal_id", .str proposal.proposalId),
    ("reason", .str response.reason)])
  throw (.authorizationError (if response.reason ≠ "" then response.reason else default))

def createProposal (assignedReviewer : Option String)
    (checkPolicy : PolicyCheckRequest → PolicyCheckResponse) (draw : ApprovalDraw) :
    Effect (GovernanceService State) Proposal := do
  let response := checkPolicy {
    agentId := .str proposal.proposingAgentId
    action := "governance.propose." ++ proposal.actionType
    payload := proposal.asDict }
  if !response.allowed then blockAction proposal response "VEIL policy denied proposal"
  else do
    put store proposals proposal.proposalId proposal.asDict
    append "governance.proposal.created" proposal.proposalId proposal.asDict
    if proposal.consensusMode = "human_required" ∨ proposal.riskLevel ∈ ["high", "critical"] then do
      let reviewer := (assignedReviewer.filter fun reviewer => reviewer ≠ "").getD proposal.createdBy
      let approval ← requestApproval store proposal reviewer draw
      append "governance.human_approval.requested" approval.approvalId approval.asDict
      pure proposal
    else pure proposal

/-- An expired proposal that was neither executed nor rejected is marked when it is read. -/
def getProposal (proposalId : String) (readAt markedAt : UtcTime) :
    Effect (GovernanceService State) Proposal := do
  let service : GovernanceService State ← get
  match store.get service.persistence proposals proposalId with
  | none => throw (.notFoundError "proposal not found")
  | some row => do
      let proposal ← readRow (Proposal.fromDict readAt row)
      let expired ← Effect.ofExcept (proposal.isExpired readAt)
      if expired ∧ proposal.status ∉ ["executed", "rejected"] then do
        let marked := proposal.withStatus "expired" none markedAt
        put store proposals proposalId marked.asDict
        pure marked
      else pure proposal

def votesFor (tenantId proposalId : String) (now : UtcTime) :
    Effect (GovernanceService State) (List Vote) := do
  let service : GovernanceService State ← get
  readRow (((store.listTenant service.persistence votes tenantId).filter fun row =>
    PersistenceStore.hasText row "proposal_id" proposalId).mapM (Vote.fromDict now))

/-- The status that a result gives to its proposal. -/
def recordOutcome (result : ConsensusResult) : Effect (GovernanceService State) String :=
  let payload := .obj (("tenant_id", .str proposal.tenantId) :: result.fields)
  if result.status = "approved" then do
    append "governance.consensus.reached" proposal.proposalId payload
    pure "approved"
  else if result.status ∈ ["rejected", "blocked", "expired", "escalated"] then do
    append "governance.consensus.failed" proposal.proposalId payload
    pure result.status
  else pure (if result.status = "awaiting_human" then "awaiting_human" else proposal.status)

/-- An agent does not vote on its own proposal of high risk unless the policy allows it. -/
def selfApproval (vote : Vote) (governancePolicy : GovernancePolicy) : Prop :=
  proposal.riskLevel ∈ ["high", "critical"] ∧ vote.voterAgentId = proposal.proposingAgentId ∧
    governancePolicy.highRiskSelfApprovalAllowed = false

instance (proposal : Proposal) (vote : Vote) (governancePolicy : GovernancePolicy) :
    Decidable (selfApproval proposal vote governancePolicy) :=
  inferInstanceAs (Decidable (_ ∧ _ ∧ _))

section Votes

variable {Threshold : Type} (quotients : Quotients Threshold)

/-- The vote is stored and announced before the engine checks it. -/
def recordVote (proposal : Proposal) (vote : Vote) (policy : ConsensusPolicy Threshold)
    (governancePolicy : GovernancePolicy) (clock : VoteClock) :
    Effect (GovernanceService State) (Vote × ConsensusResult × Proposal) := do
  put store votes vote.voteId vote.asDict
  append "governance.vote.cast" proposal.proposalId vote.asDict
  let cast ← votesFor store proposal.tenantId proposal.proposalId clock.readAt
  let result ← Effect.ofExcept (ConsensusEngine.evaluate quotients proposal cast policy
    governancePolicy clock.evaluatedAt clock.reviewedAt)
  let status ← recordOutcome proposal result
  let updated := proposal.withStatus status none clock.updatedAt
  put store proposals updated.proposalId updated.asDict
  pure (vote, result, updated)

def castVote (vote : Vote) (policy : ConsensusPolicy Threshold) (governancePolicy : GovernancePolicy)
    (clock : VoteClock) : Effect (GovernanceService State) (Vote × ConsensusResult × Proposal) := do
  let proposal ← getProposal store vote.proposalId clock.readAt clock.markedAt
  if proposal.status ∈ ["executed", "rejected", "expired"] then
    throw (.conflictError "proposal is closed")
  else if selfApproval proposal vote governancePolicy then
    throw (.authorizationError "self-approval is not allowed for high-risk proposals")
  else recordVote store quotients proposal vote policy governancePolicy clock

end Votes

section Execution

variable (proposal : Proposal)

/-- The dict form of the record of a decision. -/
def decisionRecord (cast : List Vote) (found : List HumanApproval)
    (actionPayload : List (String × Json)) (context : ExecuteContext) : Json := .obj [
  ("decision_record_id", .str context.decisionRecordId),
  ("proposal_id", .str proposal.proposalId),
  ("tenant_id", .str proposal.tenantId),
  ("proposal_summary", .obj [
    ("action_type", .str proposal.actionType),
    ("risk_level", .str proposal.riskLevel),
    ("target_org_id", .str proposal.targetOrgId),
    ("target_team_id", Json.optionalText proposal.targetTeamId),
    ("veil_trust_metadata_ref", Json.optionalText proposal.veilTrustMetadataRef)]),
  ("voters", .arr (cast.map fun vote => .str vote.voterAgentId)),
  ("votes", .arr (cast.map fun vote => .obj [
    ("voter_agent_id", .str vote.voterAgentId),
    ("voter_role", .str vote.voterRole),
    ("vote", .str vote.vote),
    ("weight", .int vote.weight)])),
  ("consensus_result", .obj [("status", .str "approved")]),
  ("human_approvals", .arr (found.map HumanApproval.asDict)),
  ("executed_action", .obj actionPayload),
  ("risk_summary", .obj [
    ("risk_level", .str proposal.riskLevel),
    ("raw_sensitive_values_persisted", .bool false)]),
  ("veil_audit_refs", .arr [.str context.auditEventId]),
  ("event_ids", .arr [.str context.eventId]),
  ("final_status", .str proposal.status),
  ("created_at", .str context.createdAt.isoformat)]

/-- The action of an approved proposal is written together with its decision record. -/
def recordExecution (actionPayload : List (String × Json))
    (context : ExecuteContext) : Effect (GovernanceService State) Json := do
  append "governance.action.executed" proposal.proposalId (.obj [
    ("tenant_id", .str proposal.tenantId),
    ("proposal_id", .str proposal.proposalId),
    ("action_type", .str proposal.actionType)])
  let executed := proposal.withStatus "executed" (some actionPayload) context.updatedAt
  put store proposals executed.proposalId executed.asDict
  let cast ← votesFor store proposal.tenantId proposal.proposalId context.readAt
  let found ← listApprovals store proposal.tenantId context.readAt
  let record := decisionRecord executed cast
    (found.filter fun approval => approval.proposalId = proposal.proposalId) actionPayload context
  put store decisionRecords proposal.proposalId record
  pure record

/-- The approval of a human is looked up only where it is required. -/
def humanApproved (tenantId proposalId : String) (requireHuman : Bool) (now : UtcTime) :
    Effect (GovernanceService State) Bool :=
  if requireHuman then approvedForProposal store tenantId proposalId now else pure true

def execute (proposalId : String) (actionPayload : List (String × Json)) (requireHuman : Bool)
    (context : ExecuteContext) : Effect (GovernanceService State) Json := do
  let proposal ← getProposal store proposalId context.readAt context.markedAt
  if proposal.status ≠ "approved" then
    throw (.conflictError "proposal consensus is not finalized")
  else do
    let approved ← humanApproved store proposal.tenantId proposalId requireHuman context.readAt
    if !approved then throw (.conflictError "human approval is required")
    else do
      let response := context.checkPolicy {
        agentId := .str proposal.proposingAgentId
        action := "governance.execute." ++ proposal.actionType
        payload := match proposal.asDict with
          | .obj fields => .obj (Dict.setItems "action_payload" (.obj actionPayload) fields)
          | document => document }
      if !response.allowed then blockAction proposal response "VEIL policy denied execution"
      else recordExecution store proposal actionPayload context

/-- The execute route asks for a human by the consensus mode and by the risk level. -/
def routeRequiresHuman (governancePolicy : GovernancePolicy) : Bool :=
  proposal.consensusMode = "human_required" || governancePolicy.requiresHuman proposal.riskLevel

end Execution

variable (context : TenantContext)

/-- A route gives access to the records of its tenant, or to all for a global admin. -/
def assertTenant (tenantId : String) : Effect (GovernanceService State) Unit :=
  if tenantId ≠ context.tenantId ∧ context.isGlobalAdmin = false then
    throw (.authorizationError "cross-tenant access denied")
  else pure ()

/-- The event that announces a resolution. -/
def resolutionEvent (status : String) : Except PyError String :=
  match status with
  | "approved" => .ok "governance.human_approval.granted"
  | "rejected" => .ok "governance.human_approval.rejected"
  | "escalated" => .ok "governance.human_approval.escalated"
  | other => .error (.keyError other)

/-- The route that resolves an approval also writes the status of its proposal. -/
def resolveGovernanceApproval (approvalId status reason : String)
    (clock : VoteClock) : Effect (GovernanceService State) HumanApproval := do
  match ← getApproval store approvalId clock.readAt with
  | none => throw (.notFoundError "approval not found")
  | some approval => do
      assertTenant context approval.tenantId
      let resolved ← resolveRecord store approvalId status reason clock.readAt clock.markedAt
      let eventType ← Effect.ofExcept (resolutionEvent status)
      append eventType approval.proposalId resolved.asDict
      let proposal ← getProposal store approval.proposalId clock.evaluatedAt clock.reviewedAt
      let updated := proposal.withStatus (if status = "approved" then "approved"
        else if status = "rejected" then "rejected" else "escalated") none clock.updatedAt
      put store proposals updated.proposalId updated.asDict
      pure resolved

end GovernanceService

/-- The calls of the service and of the route that resolves approvals. -/
inductive GovernanceCall (Threshold : Type) where
  | createProposal (proposal : Proposal) (assignedReviewer : Option String)
      (checkPolicy : PolicyCheckRequest → PolicyCheckResponse) (draw : ApprovalDraw)
  | getProposal (proposalId : String) (readAt markedAt : UtcTime)
  | castVote (vote : Vote) (policy : ConsensusPolicy Threshold)
      (governancePolicy : GovernancePolicy) (clock : VoteClock)
  | execute (proposalId : String) (actionPayload : List (String × Json)) (requireHuman : Bool)
      (context : ExecuteContext)
  | resolveApproval (context : TenantContext) (approvalId status reason : String)
      (clock : VoteClock)

/-- The values that the calls return. -/
inductive GovernanceAnswer where
  | proposal (proposal : Proposal)
  | vote (vote : Vote) (result : ConsensusResult) (proposal : Proposal)
  | decision (record : Json)
  | approval (approval : HumanApproval)

namespace GovernanceService

variable {State Threshold : Type} (store : PersistenceStore State)
  (quotients : Quotients Threshold)

/-- The effect of one call. -/
def call : GovernanceCall Threshold → Effect (GovernanceService State) GovernanceAnswer
  | .createProposal proposal assignedReviewer checkPolicy draw =>
      return .proposal (← createProposal store proposal assignedReviewer checkPolicy draw)
  | .getProposal proposalId readAt markedAt =>
      return .proposal (← getProposal store proposalId readAt markedAt)
  | .castVote vote policy governancePolicy clock => do
      let (vote, result, proposal) ← castVote store quotients vote policy governancePolicy clock
      return .vote vote result proposal
  | .execute proposalId actionPayload requireHuman context =>
      return .decision (← execute store proposalId actionPayload requireHuman context)
  | .resolveApproval context approvalId status reason clock =>
      return .approval (← resolveGovernanceApproval store context approvalId status reason clock)

def step (service : GovernanceService State) (operation : GovernanceCall Threshold) :
    Except PyError GovernanceAnswer × GovernanceService State :=
  (call store quotients operation).perform service

def reached (calls : List (GovernanceCall Threshold)) : GovernanceService State :=
  run (step store quotients) (initial store) calls

end GovernanceService

end AgentFabric.Governance
