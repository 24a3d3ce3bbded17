import AgentFabric.Construction.Cloud.ScheduledJob

namespace AgentFabric.Governance
open Cloud.ScheduledJob (dateField)

/-- A proposal of an agent with the defaults of the dataclass filled in. -/
structure Proposal where
  tenantId : String
  organizationId : String
  proposingAgentId : String
  targetOrgId : String
  actionType : String
  riskLevel : String
  requiredApprovals : Int
  createdBy : String
  targetTeamId : Option String
  veilTrustMetadataRef : Option String
  consensusMode : String
  status : String
  proposalId : String
  createdAt : DateTime
  updatedAt : DateTime
  expiresAt : DateTime
  executedAction : Option (List (String × Json))

namespace Proposal

variable (proposal : Proposal)

/-- A naive expiry cannot be compared with the clock. -/
def isExpired (now : UtcTime) : Except PyError Bool :=
  match now.toDateTime.later? proposal.expiresAt with
  | none => .error (.typeError "can't compare offset-naive and offset-aware datetimes")
  | some later => .ok later

/-- An executed action replaces the old one only when it is given. -/
def withStatus (status : String)
    (executedAction : Option (List (String × Json))) (now : UtcTime) : Proposal :=
  { proposal with
    status := status
    updatedAt := now.toDateTime
    executedAction := if executedAction.isSome then executedAction else proposal.executedAction }

def asDict : Json := .obj [
  ("proposal_id", .str proposal.proposalId),
  ("tenant_id", .str proposal.tenantId),
  ("organization_id", .str proposal.organizationId),
  ("proposing_agent_id", .str proposal.proposingAgentId),
  ("target_org_id", .str proposal.targetOrgId),
  ("target_team_id", Json.optionalText proposal.targetTeamId),
  ("action_type", .str proposal.actionType),
  ("risk_level", .str proposal.riskLevel),
  ("required_approvals", .int proposal.requiredApprovals),
  ("veil_trust_metadata_ref", Json.optionalText proposal.veilTrustMetadataRef),
  ("consensus_mode", .str proposal.consensusMode),
  ("status", .str proposal.status),
  ("created_by", .str proposal.createdBy),
  ("created_at", .str proposal.createdAt.isoformat),
  ("updated_at", .str proposal.updatedAt.isoformat),
  ("expires_at", .str proposal.expiresAt.isoformat),
  ("executed_action", .obj (proposal.executedAction.getD []))]

/-- An empty action is None. -/
def readAction (fields : List (String × Json)) : Option (List (String × Json)) :=
  if fields = [] then none else some fields

def fromDict (now : UtcTime) (document : Json) : Option Proposal := do
  let proposalId ← Json.textField document "proposal_id" none
  let tenantId ← Json.textField document "tenant_id" none
  let organizationId ← Json.textField document "organization_id" none
  let proposingAgentId ← Json.textField document "proposing_agent_id" none
  let targetOrgId ← Json.textField document "target_org_id" none
  let targetTeamId ← Json.optionalField document "target_team_id"
  let actionType ← Json.textField document "action_type" none
  let riskLevel ← Json.textField document "risk_level" (some "medium")
  let requiredApprovals ← Json.intField document "required_approvals" 1
  let veilTrustMetadataRef ← Json.optionalField document "veil_trust_metadata_ref"
  let consensusMode ← Json.textField document "consensus_mode" (some "majority")
  let status ← Json.textField document "status" (some "pending")
  let createdBy ← Json.textField document "created_by" (some "")
  let createdAt ← dateField document "created_at"
  let updatedAt ← dateField document "updated_at"
  let expiresAt ← dateField document "expires_at"
  let executedAction ← Json.objectField document "executed_action"
  some {
    tenantId, organizationId, proposingAgentId, targetOrgId, actionType, riskLevel,
    requiredApprovals, createdBy, targetTeamId, veilTrustMetadataRef, consensusMode, status,
    proposalId,
    createdAt := createdAt.getD now.toDateTime
    updatedAt := updatedAt.getD now.toDateTime
    expiresAt := expiresAt.getD now.toDateTime
    executedAction := readAction executedAction }

end Proposal

/-- A vote of an agent on a proposal. -/
structure Vote where
  proposalId : String
  tenantId : String
  voterAgentId : String
  voterRole : String
  vote : String
  weight : Int
  reason : String
  voteId : String
  createdAt : DateTime

namespace Vote

/-- The dict form of a vote, which is also the payload of its event. -/
def fields (vote : Vote) : List (String × Json) := [
  ("vote_id", .str vote.voteId),
  ("proposal_id", .str vote.proposalId),
  ("tenant_id", .str vote.tenantId),
  ("voter_agent_id", .str vote.voterAgentId),
  ("voter_role", .str vote.voterRole),
  ("vote", .str vote.vote),
  ("weight", .int vote.weight),
  ("reason", .str vote.reason),
  ("created_at", .str vote.createdAt.isoformat)]

def asDict (vote : Vote) : Json := .obj vote.fields

def fromDict (now : UtcTime) (document : Json) : Option Vote := do
  let voteId ← Json.textField document "vote_id" none
  let proposalId ← Json.textField document "proposal_id" none
  let tenantId ← Json.textField document "tenant_id" none
  let voterAgentId ← Json.textField document "voter_agent_id" none
  let voterRole ← Json.textField document "voter_role" none
  let vote ← Json.textField document "vote" none
  let weight ← Json.intField document "weight" 1
  let reason ← Json.textField document "reason" (some "")
  let createdAt ← dateField document "created_at"
  some {
    proposalId, tenantId, voterAgentId, voterRole, vote, weight, reason, voteId,
    createdAt := createdAt.getD now.toDateTime }

end Vote

/-- The decision of a human reviewer on a proposal. -/
structure HumanApproval where
  proposalId : String
  tenantId : String
  assignedReviewer : String
  status : String
  reason : String
  approvalId : String
  createdAt : DateTime
  expiresAt : DateTime
  resolvedAt : Option DateTime

namespace HumanApproval

variable (approval : HumanApproval)

def isExpired (now : UtcTime) : Except PyError Bool :=
  match now.toDateTime.later? approval.expiresAt with
  | none => .error (.typeError "can't compare offset-naive and offset-aware datetimes")
  | some later => .ok later

def asDict : Json := .obj [
  ("approval_id", .str approval.approvalId),
  ("proposal_id", .str approval.proposalId),
  ("tenant_id", .str approval.tenantId),
  ("assigned_reviewer", .str approval.assignedReviewer),
  ("status", .str approval.status),
  ("reason", .str approval.reason),
  ("created_at", .str approval.createdAt.isoformat),
  ("expires_at", .str approval.expiresAt.isoformat),
  ("resolved_at", Json.optionalText (approval.resolvedAt.map DateTime.isoformat))]

def fromDict (now : UtcTime) (document : Json) : Option HumanApproval := do
  let approvalId ← Json.textField document "approval_id" none
  let proposalId ← Json.textField document "proposal_id" none
  let tenantId ← Json.textField document "tenant_id" none
  let assignedReviewer ← Json.textField document "assigned_reviewer" (some "")
  let status ← Json.textField document "status" (some "pending")
  let reason ← Json.textField document "reason" (some "")
  let createdAt ← dateField document "created_at"
  let expiresAt ← dateField document "expires_at"
  let resolvedAt ← dateField document "resolved_at"
  some {
    proposalId, tenantId, assignedReviewer, status, reason, approvalId,
    createdAt := createdAt.getD now.toDateTime
    expiresAt := expiresAt.getD now.toDateTime
    resolvedAt }

end HumanApproval

/-- The roles that may vote. -/
def authorizedVotingRoles : List String := [
  "planner", "executor", "reviewer", "compliance_reviewer", "security_reviewer", "human_approver"]

/-- The votes that the engine knows. -/
def supportedVotes : List String := ["approve", "reject", "abstain", "escalate"]

/-- The comparison of a quotient with a threshold, which Python makes in floating point.
The sums are small enough for `int / int` not to raise an OverflowError. -/
structure Quotients (Threshold : Type) where
  half : Threshold
  maxTwoThirds : Threshold → Threshold
  atLeast : Int → Int → Threshold → Bool

/-- The comparison with exact quotients. -/
def exactQuotients : Quotients Rat where
  half := 1 / 2
  maxTwoThirds := fun threshold => max threshold (2 / 3)
  atLeast := fun numerator denominator threshold =>
    decide (threshold ≤ (numerator : Rat) / (denominator : Rat))

/-- The rule that a consensus is reached by. -/
structure ConsensusPolicy (Threshold : Type) where
  mode : String
  threshold : Threshold
  requiredRoles : List String
  requiredApprovals : Int

structure GovernancePolicy where
  policyId : String
  tenantId : String
  organizationId : String
  maxAgentAuthorityRisk : String
  humanRequiredRisks : List String
  securityRequiredActions : List String
  complianceRequiredActions : List String
  highRiskSelfApprovalAllowed : Bool

namespace GovernancePolicy

/-- The rank of a risk level or the default of an unknown one. -/
def riskOrder (riskLevel : String) (default : Nat) : Nat :=
  match riskLevel with
  | "low" => 1
  | "medium" => 2
  | "high" => 3
  | "critical" => 4
  | _ => default

variable (policy : GovernancePolicy) (riskLevel : String)

def requiresHuman : Bool :=
  riskLevel ∈ policy.humanRequiredRisks

def riskWithinAgentAuthority : Bool :=
  riskOrder riskLevel 99 ≤ riskOrder policy.maxAgentAuthorityRisk 0

end GovernancePolicy

structure ConsensusResult where
  reached : Bool
  status : String
  reason : String
  approvals : Nat
  rejections : Nat
  abstentions : Nat

def ConsensusResult.fields (result : ConsensusResult) : List (String × Json) := [
  ("reached", .bool result.reached),
  ("status", .str result.status),
  ("reason", .str result.reason),
  ("approvals", .int result.approvals),
  ("rejections", .int result.rejections),
  ("abstentions", .int result.abstentions)]

namespace ConsensusEngine

variable {Threshold : Type} (quotients : Quotients Threshold)

/-- The votes of one kind. -/
def having (kind : String) (votes : List Vote) : List Vote :=
  votes.filter fun vote => vote.vote = kind

/-- The first vote of an unauthorized role or of an unknown kind raises. -/
def checkVotes : List Vote → Except PyError Unit
  | [] => .ok ()
  | vote :: rest =>
      if vote.voterRole ∉ authorizedVotingRoles then
        .error (.authorizationError "agent cannot vote outside authorized role")
      else if vote.vote ∉ supportedVotes then
        .error (.validationError ("unsupported vote: " ++ vote.vote))
      else checkVotes rest

variable (votes : List Vote)

/-- A result with the counts of the votes. -/
def counted (reached : Bool) (status reason : String) : ConsensusResult where
  reached := reached
  status := status
  reason := reason
  approvals := (having "approve" votes).length
  rejections := (having "reject" votes).length
  abstentions := (having "abstain" votes).length

/-- A result that is approved when it is reached. -/
def decided (reached : Bool) (reason : String) : ConsensusResult :=
  counted votes reached (if reached then "approved" else "pending") reason

def totalWeight : Int := (votes.map Vote.weight).sum

variable (proposal : Proposal) (policy : ConsensusPolicy Threshold)

/-- The approvals that both the policy and the proposal ask for. -/
def requiredApprovals : Int :=
  max policy.requiredApprovals proposal.requiredApprovals

def missingRoles (votes : List Vote) : List String :=
  policy.requiredRoles.filter fun role =>
    role ∉ (having "approve" votes).map Vote.voterRole

/-- The policy of a review asks for the role of the reviewer. -/
def reviewPolicy (role : String) (required : Int) : ConsensusPolicy Threshold where
  mode := "majority"
  threshold := quotients.half
  requiredRoles := [role]
  requiredApprovals := required

variable (review : ConsensusPolicy Threshold → Except PyError ConsensusResult)

/-- The modes of a policy after the common checks, where a review evaluates once more. -/
def decideMode (required : Int) (votes : List Vote) (policy : ConsensusPolicy Threshold) :
    Except PyError ConsensusResult :=
  let approvals := (having "approve" votes).length
  let rejections := (having "reject" votes).length
  let total := max ((approvals + rejections : Nat) : Int) required
  match policy.mode with
  | "single_approver" => .ok (counted votes true "approved" "single approver consensus reached")
  | "majority" => .ok (decided votes (total < 2 * approvals) "majority evaluated")
  | "supermajority" =>
      if total = 0 then .error (.zeroDivisionError "division by zero")
      else .ok (decided votes
        (quotients.atLeast approvals total (quotients.maxTwoThirds policy.threshold))
        "supermajority evaluated")
  | "unanimous" =>
      .ok (decided votes (rejections = 0 ∧ required ≤ approvals ∧
        approvals + rejections = approvals) "unanimous evaluated")
  | "weighted" =>
      let approvalWeight := totalWeight (having "approve" votes)
      let weight := totalWeight (having "approve" votes ++ having "reject" votes)
      .ok (decided votes (0 < weight ∧
        quotients.atLeast approvalWeight weight policy.threshold) "weighted consensus evaluated")
  | "human_required" => .ok (counted votes true "awaiting_human" "human approval required")
  | "security_required" => review (reviewPolicy quotients "security_reviewer" required)
  | "compliance_required" => review (reviewPolicy quotients "compliance_reviewer" required)
  | mode => .error (.validationError ("unsupported consensus mode: " ++ mode))

/-- The checks that come before the mode. -/
def evaluateWith (proposal : Proposal) (votes : List Vote) (policy : ConsensusPolicy Threshold)
    (governancePolicy : GovernancePolicy) (now : UtcTime) : Except PyError ConsensusResult := do
  if ← proposal.isExpired now then .ok ⟨false, "expired", "proposal expired", 0, 0, 0⟩
  else if ¬ governancePolicy.riskWithinAgentAuthority proposal.riskLevel ∧
      policy.mode ≠ "human_required" then
    .ok ⟨false, "blocked", "proposal risk exceeds agent authority", 0, 0, 0⟩
  else if votes = [] then .ok ⟨false, "pending", "required voters are missing", 0, 0, 0⟩
  else do
    checkVotes votes
    if having "escalate" votes ≠ [] then
      .ok (counted votes false "escalated" "proposal escalated")
    else if having "reject" votes ≠ [] ∧ policy.mode ∈ ["single_approver", "unanimous"] then
      .ok (counted votes false "rejected" "proposal rejected")
    else if missingRoles policy votes ≠ [] then
      .ok (counted votes false "pending"
        ("missing required approver roles: " ++ ", ".intercalate (missingRoles policy votes)))
    else if ((having "approve" votes).length : Int) < requiredApprovals proposal policy then
      .ok (counted votes false "pending" "not enough approvals")
    else decideMode quotients review (requiredApprovals proposal policy) votes policy

/-- A review mode evaluates once more under a majority policy, which makes no further review. -/
def evaluateReview (votes : List Vote) (governancePolicy : GovernancePolicy) (reviewedAt : UtcTime)
    (policy : ConsensusPolicy Threshold) : Except PyError ConsensusResult :=
  evaluateWith quotients
    (fun policy => .error (.validationError ("unsupported consensus mode: " ++ policy.mode)))
    proposal votes policy governancePolicy reviewedAt

/-- The evaluation reads the clock at its start and again for a review. -/
def evaluate (votes : List Vote) (policy : ConsensusPolicy Threshold)
    (governancePolicy : GovernancePolicy) (evaluatedAt reviewedAt : UtcTime) :
    Except PyError ConsensusResult :=
  evaluateWith quotients (evaluateReview quotients proposal votes governancePolicy reviewedAt)
    proposal votes policy governancePolicy evaluatedAt

end ConsensusEngine

end AgentFabric.Governance
