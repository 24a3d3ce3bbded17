import AgentFabric.Construction.Governance.GovernanceService

namespace AgentFabric.Governance
open Persistence Cloud.ScheduledJob Effect PersistenceStore

/-- A row that equals a dict form up to field order holds the same times. -/
theorem dateField_of_same {row document : Json} (same : row.Same document) (key : String) :
    dateField row key = dateField document key := by
  rw [← dateField_sortKeys, same, dateField_sortKeys]

/-- A vote reads back from its row. -/
theorem Vote.fromDict_of_same (now : UtcTime) (vote : Vote) (row : Json)
    (same : row.Same vote.asDict) : Vote.fromDict now row = some vote := by
  have text := Json.textField_of_same same
  have number := Json.intField_of_same same
  have date := dateField_of_same same
  have voteId : Json.textField vote.asDict "vote_id" none = some vote.voteId := rfl
  have proposalId : Json.textField vote.asDict "proposal_id" none = some vote.proposalId := rfl
  have tenantId : Json.textField vote.asDict "tenant_id" none = some vote.tenantId := rfl
  have voterAgentId : Json.textField vote.asDict "voter_agent_id" none =
    some vote.voterAgentId := rfl
  have voterRole : Json.textField vote.asDict "voter_role" none = some vote.voterRole := rfl
  have kind : Json.textField vote.asDict "vote" none = some vote.vote := rfl
  have weight : Json.intField vote.asDict "weight" 1 = some vote.weight := rfl
  have reason : Json.textField vote.asDict "reason" (some "") = some vote.reason := rfl
  have createdAt := dateField_time vote.asDict "created_at" (some vote.createdAt) rfl
  simp only [fromDict, text, number, date, voteId, proposalId, tenantId, voterAgentId, voterRole,
    kind, weight, reason, createdAt, Option.bind_eq_bind, Option.bind_some, Option.getD_some]

/-- An approval reads back from its row. -/
theorem HumanApproval.fromDict_of_same (now : UtcTime) (approval : HumanApproval) (row : Json)
    (same : row.Same approval.asDict) : HumanApproval.fromDict now row = some approval := by
  have text := Json.textField_of_same same
  have date := dateField_of_same same
  have approvalId : Json.textField approval.asDict "approval_id" none =
    some approval.approvalId := rfl
  have proposalId : Json.textField approval.asDict "proposal_id" none =
    some approval.proposalId := rfl
  have tenantId : Json.textField approval.asDict "tenant_id" none = some approval.tenantId := rfl
  have assignedReviewer : Json.textField approval.asDict "assigned_reviewer" (some "") =
    some approval.assignedReviewer := rfl
  have status : Json.textField approval.asDict "status" (some "pending") =
    some approval.status := rfl
  have reason : Json.textField approval.asDict "reason" (some "") = some approval.reason := rfl
  have createdAt := dateField_time approval.asDict "created_at" (some approval.createdAt) rfl
  have expiresAt := dateField_time approval.asDict "expires_at" (some approval.expiresAt) rfl
  have resolvedAt := dateField_time approval.asDict "resolved_at" approval.resolvedAt rfl
  simp only [fromDict, text, date, approvalId, proposalId, tenantId, assignedReviewer, status,
    reason, createdAt, expiresAt, resolvedAt, Option.bind_eq_bind, Option.bind_some,
    Option.getD_some]

namespace Proposal

/-- The form of a proposal that its row keeps. -/
def canonical (proposal : Proposal) : Proposal :=
  { proposal with
    targetTeamId := proposal.targetTeamId.filter fun text => text ≠ ""
    veilTrustMetadataRef := proposal.veilTrustMetadataRef.filter fun text => text ≠ ""
    executedAction := readAction (Json.sortObject (proposal.executedAction.getD [])) }

/-- Two proposals are equal in Python when their rows keep the same. -/
def Same (first second : Proposal) : Prop := first.canonical = second.canonical

theorem readAction_getD (fields : List (String × Json)) : (readAction fields).getD [] = fields := by
  unfold readAction
  split
  · rename_i empty
    rw [empty]
    rfl
  · rfl

/-- A proposal reads back from its row up to the order of its action. -/
theorem fromDict_of_same (now : UtcTime) (proposal : Proposal) (row : Json)
    (same : row.Same proposal.asDict) :
    ∃ read, fromDict now row = some read ∧ read.Same proposal := by
  have text := Json.textField_of_same same
  have number := Json.intField_of_same same
  have optional := Json.optionalField_of_same same
  have date := dateField_of_same same
  obtain ⟨action, present, sorted⟩ := Json.objectField_of_same same "executed_action"
    (proposal.executedAction.getD []) rfl
  have proposalId : Json.textField proposal.asDict "proposal_id" none =
    some proposal.proposalId := rfl
  have tenantId : Json.textField proposal.asDict "tenant_id" none = some proposal.tenantId := rfl
  have organizationId : Json.textField proposal.asDict "organization_id" none =
    some proposal.organizationId := rfl
  have proposingAgentId : Json.textField proposal.asDict "proposing_agent_id" none =
    some proposal.proposingAgentId := rfl
  have targetOrgId : Json.textField proposal.asDict "target_org_id" none =
    some proposal.targetOrgId := rfl
  have targetTeamId := Json.optionalField_text proposal.asDict "target_team_id"
    proposal.targetTeamId rfl
  have actionType : Json.textField proposal.asDict "action_type" none =
    some proposal.actionType := rfl
  have riskLevel : Json.textField proposal.asDict "risk_level" (some "medium") =
    some proposal.riskLevel := rfl
  have requiredApprovals : Json.intField proposal.asDict "required_approvals" 1 =
    some proposal.requiredApprovals := rfl
  have veilTrustMetadataRef := Json.optionalField_text proposal.asDict "veil_trust_metadata_ref"
    proposal.veilTrustMetadataRef rfl
  have consensusMode : Json.textField proposal.asDict "consensus_mode" (some "majority") =
    some proposal.consensusMode := rfl
  have status : Json.textField proposal.asDict "status" (some "pending") =
    some proposal.status := rfl
  have createdBy : Json.textField proposal.asDict "created_by" (some "") =
    some proposal.createdBy := rfl
  have createdAt := dateField_time proposal.asDict "created_at" (some proposal.createdAt) rfl
  have updatedAt := dateField_time proposal.asDict "updated_at" (some proposal.updatedAt) rfl
  have expiresAt := dateField_time proposal.asDict "expires_at" (some proposal.expiresAt) rfl
  refine ⟨{ proposal with
    targetTeamId := proposal.targetTeamId.filter fun text => text ≠ ""
    veilTrustMetadataRef := proposal.veilTrustMetadataRef.filter fun text => text ≠ ""
    executedAction := readAction action }, ?_, ?_⟩
  · simp only [fromDict, text, number, optional, date, present, proposalId, tenantId,
      organizationId, proposingAgentId, targetOrgId, targetTeamId, actionType, riskLevel,
      requiredApprovals, veilTrustMetadataRef, consensusMode, status, createdBy, createdAt,
      updatedAt, expiresAt, Option.bind_eq_bind, Option.bind_some, Option.getD_some]
  · simp only [Same, canonical, readAction_getD, sorted, Option.filter_filter, Bool.and_self]

variable {first second : Proposal}

section

variable (same : first.Same second)
include same

/-- Equal proposals agree in every value that their rows keep. -/
theorem Same.congr {Value : Type}
    (field : Proposal → Value) (kept : ∀ proposal, field proposal.canonical = field proposal) :
    field first = field second := by
  rw [← kept first, ← kept second, same]

theorem Same.proposalId : first.proposalId = second.proposalId :=
  same.congr Proposal.proposalId fun _ => rfl

theorem Same.status : first.status = second.status :=
  same.congr Proposal.status fun _ => rfl

end

end Proposal

namespace GovernanceService

variable {State : Type} {store : PersistenceStore State}

section Put

variable (lawful : store.Lawful)

include lawful

/-- A put of a lawful store always succeeds. -/
theorem perform_put (service : GovernanceService State) (collection key : String) (value : Json) :
    ∃ next, store.put service.persistence collection key value = .ok next ∧
      (put store collection key value).perform service =
        (.ok (), { service with persistence := next }) := by
  obtain ⟨next, written⟩ := lawful.put_succeeds service.persistence collection key value
  refine ⟨next, written, ?_⟩
  unfold put
  rw [perform_bind_ok (perform_get service), written]
  rfl

end Put

variable (service : GovernanceService State) (eventType aggregateId : String)

@[simp] theorem perform_append (payload : Json) :
    (append eventType aggregateId payload).perform service =
      (.ok (), { service with events := service.events ++ [⟨eventType, aggregateId, payload⟩] }) :=
  rfl

theorem perform_readRow {Value : Type} (value : Value) :
    (readRow (some value)).perform service = (.ok value, service) := rfl

/-- Every row of a collection holds the dict form of a record under its key. -/
def HoldsRecords {Record : Type} (store : PersistenceStore State) (collection : String)
    (key : Record → String) (asDict : Record → Json) (service : GovernanceService State) : Prop :=
  ∀ id row, store.get service.persistence collection id = some row →
    ∃ record, key record = id ∧ row.Same (asDict record)

theorem HoldsRecords.put {Record : Type} {collection : String} {key : Record → String}
    {asDict : Record → Json} {service : GovernanceService State} (lawful : store.Lawful)
    (holds : HoldsRecords store collection key asDict service) {other id : String} {value : Json}
    {next : State} (written : store.put service.persistence other id value = .ok next)
    (fits : collection = other → ∃ record, key record = id ∧ value = asDict record) :
    HoldsRecords store collection key asDict { service with persistence := next } := by
  intro query row found
  by_cases same : (collection, query) = (other, id)
  · obtain ⟨rfl, rfl⟩ := Prod.mk.inj same
    obtain ⟨record, keyed, rfl⟩ := fits rfl
    obtain ⟨read, present, equal⟩ := lawful.get_put_self _ _ _ _ _ written
    dsimp only at found
    rw [present, Option.some.injEq] at found
    exact ⟨record, keyed, found ▸ equal⟩
  · dsimp only at found
    rw [lawful.get_put_of_ne _ _ _ _ _ _ _ written same] at found
    exact holds query row found

/-- The rows of the service read back as its records. -/
structure Readable (store : PersistenceStore State) (service : GovernanceService State) :
    Prop where
  proposals : HoldsRecords store proposals Proposal.proposalId Proposal.asDict service
  votes : HoldsRecords store votes Vote.voteId Vote.asDict service
  approvals : HoldsRecords store approvals HumanApproval.approvalId HumanApproval.asDict service

theorem initial_readable (lawful : store.Lawful) : Readable store (initial store) := by
  have empty (collection id : String) : store.get (initial store).persistence collection id = none :=
    lawful.get_initial collection id
  refine ⟨?_, ?_, ?_⟩
  all_goals
    intro id row found
    rw [empty] at found
    cases found

theorem append_keeps (payload : Json) :
    Effect.Keeps (Readable store) (fun _ => True) (append eventType aggregateId payload) :=
  fun _ readable => ⟨⟨readable.proposals, readable.votes, readable.approvals⟩, fun _ _ => trivial⟩

section Keeps

variable (lawful : store.Lawful)

include lawful

/-- A put keeps the rows readable when it writes a record under its key. -/
theorem put_keeps {collection id : String} {value : Json}
    (proposal : proposals = collection → ∃ record : Proposal, record.proposalId = id ∧
      value = record.asDict)
    (vote : votes = collection → ∃ record : Vote, record.voteId = id ∧ value = record.asDict)
    (approval : approvals = collection → ∃ record : HumanApproval, record.approvalId = id ∧
      value = record.asDict) :
    Effect.Keeps (Readable store) (fun _ => True) (put store collection id value) := by
  intro service readable
  obtain ⟨next, written, performed⟩ := perform_put lawful service collection id value
  rw [performed]
  exact ⟨⟨readable.proposals.put lawful written proposal, readable.votes.put lawful written vote,
    readable.approvals.put lawful written approval⟩, fun _ _ => trivial⟩

theorem putProposal_keeps (proposal : Proposal) :
    Effect.Keeps (Readable store) (fun _ => True)
      (put store proposals proposal.proposalId proposal.asDict) :=
  put_keeps lawful (fun _ => ⟨proposal, rfl, rfl⟩) (fun same => absurd same (by decide))
    (fun same => absurd same (by decide))

theorem putVote_keeps (vote : Vote) :
    Effect.Keeps (Readable store) (fun _ => True) (put store votes vote.voteId vote.asDict) :=
  put_keeps lawful (fun same => absurd same (by decide)) (fun _ => ⟨vote, rfl, rfl⟩)
    (fun same => absurd same (by decide))

theorem putApproval_keeps (approval : HumanApproval) :
    Effect.Keeps (Readable store) (fun _ => True)
      (put store approvals approval.approvalId approval.asDict) :=
  put_keeps lawful (fun same => absurd same (by decide)) (fun same => absurd same (by decide))
    (fun _ => ⟨approval, rfl, rfl⟩)

theorem putDecision_keeps (proposalId : String) (record : Json) :
    Effect.Keeps (Readable store) (fun _ => True) (put store decisionRecords proposalId record) :=
  put_keeps lawful (fun same => absurd same (by decide)) (fun same => absurd same (by decide))
    (fun same => absurd same (by decide))

end Keeps

end GovernanceService

open Transition

namespace GovernanceService

variable {State : Type} {store : PersistenceStore State}
  {invariant : GovernanceService State → Prop}

theorem readRow_keeps {Value : Type}
    {property : Value → Prop} {row : Option Value}
    (holds : ∀ value, row = some value → property value) :
    Effect.Keeps invariant property (readRow row) := by
  cases row with
  | none => exact .throw _
  | some value => exact .pure (holds value rfl)

theorem listApprovals_keeps (tenantId : String)
    (now : UtcTime) : Effect.Keeps invariant (fun _ => True) (listApprovals store tenantId now) :=
  .get_bind fun _ _ => readRow_keeps fun _ _ => trivial

variable (tenantId proposalId : String)

theorem votesFor_keeps (now : UtcTime) :
    Effect.Keeps invariant (fun _ => True) (votesFor store tenantId proposalId now) :=
  .get_bind fun _ _ => readRow_keeps fun _ _ => trivial

theorem approvedForProposal_keeps (now : UtcTime) :
    Effect.Keeps invariant (fun _ => True) (approvedForProposal store tenantId proposalId now) :=
  (listApprovals_keeps tenantId now).bind fun _ _ => .pure trivial

variable (proposal : Proposal)

theorem blockAction_keeps {Value : Type} {property : Value → Prop}
    (response : Cloud.PolicyCheckResponse) (default : String) :
    Effect.Keeps (Readable store) property (blockAction proposal response default) :=
  (append_keeps _ _ _).bind fun _ _ => .throw _

theorem recordOutcome_keeps (result : ConsensusResult) :
    Effect.Keeps (Readable store) (fun _ => True) (recordOutcome proposal result) := by
  apply Effect.Keeps.ite
  · exact fun _ => (append_keeps _ _ _).bind fun _ _ => .pure trivial
  · intro _
    apply Effect.Keeps.ite
    · exact fun _ => (append_keeps _ _ _).bind fun _ _ => .pure trivial
    · exact fun _ => .pure trivial

/-- An approval is read under its own id. -/
theorem getApproval_keeps (approvalId : String) (now : UtcTime) :
    Effect.Keeps (Readable store)
      (fun found => ∀ approval, found = some approval → approval.approvalId = approvalId)
      (getApproval store approvalId now) := by
  apply Effect.Keeps.get_bind
  intro service readable
  split
  · exact .pure (by simp)
  · rename_i row found
    obtain ⟨approval, keyed, same⟩ := readable.approvals approvalId row found
    apply Effect.Keeps.ite
    · intro _
      rw [HumanApproval.fromDict_of_same now approval row same]
      apply Effect.Keeps.pure_bind
      apply Effect.Keeps.pure
      rintro _ ⟨⟩
      exact keyed
    · exact fun _ => .pure (by simp)

section Lawful

variable (lawful : store.Lawful)

include lawful

variable (proposalId : String)

/-- A proposal is read under its own id. -/
theorem getProposal_keeps (readAt markedAt : UtcTime) :
    Effect.Keeps (Readable store) (fun proposal => proposal.proposalId = proposalId)
      (getProposal store proposalId readAt markedAt) := by
  apply Effect.Keeps.get_bind
  intro service readable
  split
  · exact .throw _
  · rename_i row found
    obtain ⟨proposal, keyed, same⟩ := readable.proposals proposalId row found
    obtain ⟨read, decoded, equal⟩ := proposal.fromDict_of_same readAt row same
    have id : read.proposalId = proposalId := equal.proposalId.trans keyed
    rw [decoded]
    apply Effect.Keeps.pure_bind
    apply Effect.Keeps.ofExcept_bind
    intro expired _
    apply Effect.Keeps.ite
    · intro _
      have written := putProposal_keeps lawful (read.withStatus "expired" none markedAt)
      exact (id ▸ written).bind fun _ _ => .pure id
    · exact fun _ => .pure id

variable (proposal : Proposal)

theorem requestApproval_keeps (assignedReviewer : String) (draw : ApprovalDraw) :
    Effect.Keeps (Readable store) (fun _ => True)
      (requestApproval store proposal assignedReviewer draw) :=
  (putApproval_keeps lawful _).bind fun _ _ => .pure trivial

theorem createProposal_keeps (assignedReviewer : Option String)
    (checkPolicy : Cloud.PolicyCheckRequest → Cloud.PolicyCheckResponse) (draw : ApprovalDraw) :
    Effect.Keeps (Readable store) (fun _ => True)
      (createProposal store proposal assignedReviewer checkPolicy draw) := by
  apply Effect.Keeps.ite
  · exact fun _ => blockAction_keeps _ _ _
  · intro _
    apply (putProposal_keeps lawful proposal).bind
    intro _ _
    apply (append_keeps _ _ _).bind
    intro _ _
    apply Effect.Keeps.ite
    · intro _
      apply (requestApproval_keeps lawful _ _ _).bind
      intro _ _
      exact (append_keeps _ _ _).bind fun _ _ => .pure trivial
    · exact fun _ => .pure trivial

variable {Threshold : Type} (quotients : Quotients Threshold)

theorem castVote_keeps (vote : Vote) (policy : ConsensusPolicy Threshold)
    (governancePolicy : GovernancePolicy) (clock : VoteClock) :
    Effect.Keeps (Readable store) (fun _ => True)
      (castVote store quotients vote policy governancePolicy clock) := by
  apply (getProposal_keeps lawful _ _ _).bind
  intro proposal _
  apply Effect.Keeps.ite
  · exact fun _ => .throw _
  intro _
  apply Effect.Keeps.ite
  · exact fun _ => .throw _
  intro _
  apply (putVote_keeps lawful vote).bind
  intro _ _
  apply (append_keeps _ _ _).bind
  intro _ _
  apply (votesFor_keeps _ _ _).bind
  intro cast _
  apply Effect.Keeps.ofExcept_bind
  intro result _
  apply (recordOutcome_keeps proposal result).bind
  intro status _
  exact (putProposal_keeps lawful (proposal.withStatus status none clock.updatedAt)).bind
    fun _ _ => .pure trivial

variable (actionPayload : List (String × Json))

theorem recordExecution_keeps (context : ExecuteContext) :
    Effect.Keeps (Readable store) (fun _ => True)
      (recordExecution store proposal actionPayload context) := by
  apply (append_keeps _ _ _).bind
  intro _ _
  apply (putProposal_keeps lawful
    (proposal.withStatus "executed" (some actionPayload) context.updatedAt)).bind
  intro _ _
  apply (votesFor_keeps _ _ _).bind
  intro cast _
  apply (listApprovals_keeps _ _).bind
  intro found _
  exact (putDecision_keeps lawful _ _).bind fun _ _ => .pure trivial

theorem execute_keeps (requireHuman : Bool) (context : ExecuteContext) :
    Effect.Keeps (Readable store) (fun _ => True)
      (execute store proposalId actionPayload requireHuman context) := by
  apply (getProposal_keeps lawful _ _ _).bind
  intro proposal _
  apply Effect.Keeps.ite
  · exact fun _ => .throw _
  intro _
  have human : Effect.Keeps (Readable store) (fun _ => True)
      (humanApproved store proposal.tenantId proposalId requireHuman context.readAt) :=
    .ite (fun _ => approvedForProposal_keeps _ _ _) fun _ => .pure trivial
  apply human.bind
  intro approved _
  apply Effect.Keeps.ite
  · exact fun _ => .throw _
  intro _
  apply Effect.Keeps.ite
  · exact fun _ => blockAction_keeps _ _ _
  · exact fun _ => recordExecution_keeps lawful proposal actionPayload context

theorem resolveRecord_keeps (approvalId status reason : String) (readAt resolvedAt : UtcTime) :
    Effect.Keeps (Readable store) (fun _ => True)
      (resolveRecord store approvalId status reason readAt resolvedAt) := by
  apply (getApproval_keeps approvalId readAt).bind
  intro found _
  cases found with
  | none => exact .throw _
  | some approval =>
    apply Effect.Keeps.ofExcept_bind
    intro expired _
    apply Effect.Keeps.ite
    · exact fun _ => .throw _
    intro _
    apply Effect.Keeps.ite
    · exact fun _ => .throw _
    intro _
    exact (putApproval_keeps lawful
      { approval with status, reason, resolvedAt := some resolvedAt.toDateTime }).bind
        fun _ _ => .pure trivial

theorem resolveGovernanceApproval_keeps (context : TenantContext)
    (approvalId status reason : String) (clock : VoteClock) :
    Effect.Keeps (Readable store) (fun _ => True)
      (resolveGovernanceApproval store context approvalId status reason clock) := by
  apply (getApproval_keeps approvalId clock.readAt).bind
  intro found _
  cases found with
  | none => exact .throw _
  | some approval =>
    have tenant : Effect.Keeps (Readable store) (fun _ => True)
        (assertTenant context approval.tenantId) :=
      .ite (fun _ => .throw _) fun _ => .pure trivial
    apply tenant.bind
    intro _ _
    apply (resolveRecord_keeps lawful _ _ _ _ _).bind
    intro resolved _
    apply Effect.Keeps.ofExcept_bind
    intro eventType _
    apply (append_keeps _ _ _).bind
    intro _ _
    apply (getProposal_keeps lawful _ _ _).bind
    intro proposal _
    exact (putProposal_keeps lawful (proposal.withStatus _ none clock.updatedAt)).bind
      fun _ _ => .pure trivial

/-- Every call keeps the rows readable. -/
theorem call_keeps (operation : GovernanceCall Threshold) :
    Effect.Keeps (Readable store) (fun _ => True) (call store quotients operation) := by
  cases operation with
  | createProposal proposal assignedReviewer checkPolicy draw =>
      exact (createProposal_keeps lawful proposal assignedReviewer checkPolicy draw).bind
        fun _ _ => .pure trivial
  | getProposal proposalId readAt markedAt =>
      exact (getProposal_keeps lawful proposalId readAt markedAt).bind fun _ _ => .pure trivial
  | castVote vote policy governancePolicy clock =>
      exact (castVote_keeps lawful quotients vote policy governancePolicy clock).bind
        fun _ _ => .pure trivial
  | execute proposalId actionPayload requireHuman context =>
      exact (execute_keeps lawful proposalId actionPayload requireHuman context).bind
        fun _ _ => .pure trivial
  | resolveApproval context approvalId status reason clock =>
      exact (resolveGovernanceApproval_keeps lawful context approvalId status reason clock).bind
        fun _ _ => .pure trivial

/-- In every reached state the rows read back as records. -/
theorem reached_readable (calls : List (GovernanceCall Threshold)) :
    Readable store (reached store quotients calls) :=
  run_invariant _ (Readable store)
    (fun service operation readable => (call_keeps lawful quotients operation service readable).1)
    _ calls (initial_readable lawful)

end Lawful

end GovernanceService

open Cloud

namespace GovernanceService

variable {State : Type} {store : PersistenceStore State}

section Listing

/-- The vote is recorded under its id. -/
def Recorded (store : PersistenceStore State) (service : GovernanceService State) (vote : Vote) :
    Prop :=
  ∃ row, store.get service.persistence votes vote.voteId = some row ∧ row.Same vote.asDict

variable {service : GovernanceService State}

/-- One id records one vote. -/
theorem Recorded.unique {first second : Vote}
    (one : Recorded store service first) (two : Recorded store service second)
    (same : first.voteId = second.voteId) : first = second := by
  obtain ⟨row, found, equal⟩ := one
  obtain ⟨other, otherFound, otherEqual⟩ := two
  rw [same, otherFound, Option.some.injEq] at found
  subst found
  have read := first.fromDict_of_same UtcTime.first other equal
  rw [second.fromDict_of_same UtcTime.first other otherEqual, Option.some.injEq] at read
  exact read.symm

/-- A stored vote replaces the one under its id and leaves the others. -/
theorem recorded_putVote_iff (lawful : store.Lawful) (service after : GovernanceService State)
    {vote : Vote}
    (written : store.put service.persistence votes vote.voteId vote.asDict =
      .ok after.persistence) (other : Vote) :
    Recorded store after other ↔
      other = vote ∨ (other.voteId ≠ vote.voteId ∧ Recorded store service other) := by
  obtain ⟨read, present, same⟩ := lawful.get_put_self _ _ _ _ _ written
  have stored : Recorded store after vote := ⟨read, present, same⟩
  by_cases sameId : other.voteId = vote.voteId
  · constructor
    · intro recorded
      exact .inl (recorded.unique stored sameId)
    · rintro (rfl | ⟨different, _⟩)
      · exact stored
      · exact absurd sameId different
  · have kept := lawful.get_put_of_ne _ _ _ _ _ votes other.voteId written (by simp [sameId])
    have notVote : other ≠ vote := fun equal => sameId (congrArg Vote.voteId equal)
    unfold Recorded
    rw [kept]
    simp [notVote, sameId]

/-- A row of another collection leaves the recorded votes. -/
theorem recorded_putOther_iff (lawful : store.Lawful) (service after : GovernanceService State)
    {collection key : String} {value : Json}
    (written : store.put service.persistence collection key value = .ok after.persistence)
    (different : votes ≠ collection) (vote : Vote) :
    Recorded store after vote ↔ Recorded store service vote := by
  unfold Recorded
  rw [lawful.get_put_of_ne _ _ _ _ _ votes vote.voteId written (by simp [different])]

/-- Every recorded vote is listed. -/
theorem Recorded.listed (lawful : store.Lawful) {vote : Vote}
    (recorded : Recorded store service vote) :
    ∃ row ∈ store.list service.persistence votes, row.Same vote.asDict := by
  obtain ⟨row, found, same⟩ := recorded
  obtain ⟨rows, list, _, exact⟩ := lawful.list_rows service.persistence votes
  refine ⟨row, ?_, same⟩
  rw [list]
  exact List.mem_map_of_mem (f := Prod.snd) ((exact (vote.voteId, row)).mpr found)

theorem hasText_iff (row : Json) (key text : String) :
    hasText row key text = true ↔ Json.textField row key none = some text := by
  unfold hasText Json.textField
  cases row.field? key with
  | none => simp
  | some value => cases value <;> simp

/-- The text of a field decides whether a row has it. -/
theorem hasText_of_same {row document : Json} (same : row.Same document) {key stored : String}
    (present : Json.textField document key none = some stored) (text : String) :
    hasText row key text = decide (stored = text) := by
  rw [Bool.eq_iff_iff, hasText_iff, Json.textField_of_same same, present, Option.some.injEq,
    decide_eq_true_eq]

/-- All recorded votes in the order of their ids. -/
structure Recordings (store : PersistenceStore State) (service : GovernanceService State)
    (cast : List Vote) : Prop where
  rows : List.Forall₂ (fun row vote => row.Same vote.asDict)
    (store.list service.persistence votes) cast
  increasing : (cast.map Vote.voteId).Pairwise (· < ·)
  members : ∀ vote, vote ∈ cast ↔ Recorded store service vote

theorem exists_recordings (lawful : store.Lawful)
    (readable : Readable store service) : ∃ cast, Recordings store service cast := by
  obtain ⟨rows, list, increasing, exact⟩ := lawful.list_rows service.persistence votes
  have held : ∀ row ∈ rows, ∃ vote : Vote, vote.voteId = row.1 ∧ row.2.Same vote.asDict := by
    intro row inside
    exact readable.votes row.1 row.2 ((exact row).mp inside)
  obtain ⟨cast, related⟩ := Aligned.exists_forall₂ held
  have ids : cast.map Vote.voteId = rows.map Prod.fst :=
    ((Aligned.map_eq_map_iff_forall₂ _ _ _ _).mpr (related.imp fun _ _ facts => facts.1.symm)).symm
  refine ⟨cast, ?_, ids ▸ increasing, ?_⟩
  · rw [list, List.forall₂_map_left_iff]
    exact related.imp fun _ _ facts => facts.2
  · intro vote
    constructor
    · intro inside
      obtain ⟨row, rowInside, keyed, same⟩ := Aligned.exists_related related vote inside
      exact ⟨row.2, keyed ▸ (exact row).mp rowInside, same⟩
    · intro recorded
      obtain ⟨row, found, same⟩ := recorded
      obtain ⟨other, inside, keyed, otherSame⟩ :=
        Aligned.exists_related related.flip (vote.voteId, row) ((exact _).mpr found)
      have equal : other = vote :=
        Recorded.unique ⟨row, keyed ▸ found, otherSame⟩ ⟨row, found, same⟩ keyed
      exact equal ▸ inside

/-- A filter of rows by a text is a filter of votes by a field. -/
theorem filter_hasText {rows : List Json} {cast : List Vote}
    (same : List.Forall₂ (fun row vote => row.Same vote.asDict) rows cast) (key text : String)
    (field : Vote → String)
    (present : ∀ vote, Json.textField vote.asDict key none = some (field vote)) :
    List.Forall₂ (fun row vote => row.Same vote.asDict)
      (rows.filter fun row => hasText row key text)
      (cast.filter fun vote => field vote = text) := by
  apply List.rel_filter _ same
  intro row vote equal
  show hasText row key text = true ↔ decide (field vote = text) = true
  rw [hasText_of_same equal (present vote)]

/-- The votes of one tenant on one proposal. -/
def votesOn (tenantId proposalId : String) (cast : List Vote) : List Vote :=
  (cast.filter fun vote => vote.tenantId = tenantId).filter fun vote => vote.proposalId = proposalId

/-- The votes on a proposal are the recorded ones of its tenant. -/
theorem perform_votesFor {cast : List Vote}
    (recordings : Recordings store service cast) (tenantId proposalId : String) (now : UtcTime) :
    (votesFor store tenantId proposalId now).perform service =
      (.ok (votesOn tenantId proposalId cast), service) := by
  have tenants := filter_hasText recordings.rows "tenant_id" tenantId Vote.tenantId fun _ => rfl
  have filtered := filter_hasText tenants "proposal_id" proposalId Vote.proposalId fun _ => rfl
  obtain ⟨read, found, equal⟩ := Aligned.mapM_forall₂ (Vote.fromDict now) Eq
    (fun row vote same => ⟨vote, vote.fromDict_of_same now row same, rfl⟩) filtered
  rw [List.forall₂_eq_eq_eq] at equal
  subst equal
  unfold votesFor
  rw [perform_bind_ok (perform_get service)]
  unfold listTenant
  rw [found]
  rfl

end Listing

section Read

/-- The proposal that the row of an id reads as. -/
def Reads (store : PersistenceStore State) (service : GovernanceService State) (proposalId : String)
    (now : UtcTime) (proposal : Proposal) : Prop :=
  ∃ row, store.get service.persistence proposals proposalId = some row ∧
    Proposal.fromDict now row = some proposal

variable {service : GovernanceService State} {now : UtcTime}

theorem Reads.unique {proposalId : String}
    {first second : Proposal} (one : Reads store service proposalId now first)
    (two : Reads store service proposalId now second) : first = second := by
  obtain ⟨row, found, read⟩ := one
  obtain ⟨other, otherFound, otherRead⟩ := two
  rw [found, Option.some.injEq] at otherFound
  subst otherFound
  rw [read, Option.some.injEq] at otherRead
  exact otherRead

variable {proposal : Proposal}

/-- A readable row reads as the proposal that was stored under the id. -/
theorem Reads.stored (readable : Readable store service)
    {proposalId : String}
    (reads : Reads store service proposalId now proposal) :
    ∃ row stored, store.get service.persistence proposals proposalId = some row ∧
      row.Same (Proposal.asDict stored) ∧ proposal.Same stored ∧ stored.proposalId = proposalId := by
  obtain ⟨row, found, decoded⟩ := reads
  obtain ⟨stored, keyed, same⟩ := readable.proposals proposalId row found
  obtain ⟨read, readDecoded, equal⟩ := stored.fromDict_of_same now row same
  rw [decoded, Option.some.injEq] at readDecoded
  subst readDecoded
  exact ⟨row, stored, found, same, equal, keyed⟩

theorem Reads.proposalId (readable : Readable store service)
    {proposalId : String}
    (reads : Reads store service proposalId now proposal) : proposal.proposalId = proposalId := by
  obtain ⟨_, stored, _, _, same, keyed⟩ := reads.stored readable
  exact same.proposalId.trans keyed

/-- An expired proposal that a read marks. -/
structure Lapses (store : PersistenceStore State) (service : GovernanceService State)
    (proposalId : String) (now : UtcTime) (proposal : Proposal) : Prop where
  reads : Reads store service proposalId now proposal
  expired : proposal.isExpired now = .ok true
  notDecided : proposal.status ∉ ["executed", "rejected"]

/-- A read fails without effect, returns the stored proposal or marks an expired one. -/
theorem getProposal_cases (lawful : store.Lawful)
    (readable : Readable store service) (proposalId : String) (readAt markedAt : UtcTime) :
    (∃ error, (getProposal store proposalId readAt markedAt).perform service =
        (.error error, service) ∧
      ∀ proposal expired, Reads store service proposalId readAt proposal →
        proposal.isExpired readAt ≠ .ok expired) ∨
    (∃ proposal expired, Reads store service proposalId readAt proposal ∧
      proposal.isExpired readAt = .ok expired ∧
      ¬ (expired = true ∧ proposal.status ∉ ["executed", "rejected"]) ∧
      (getProposal store proposalId readAt markedAt).perform service = (.ok proposal, service)) ∨
    ∃ proposal next, Lapses store service proposalId readAt proposal ∧
      store.put service.persistence proposals proposalId
        (proposal.withStatus "expired" none markedAt).asDict = .ok next ∧
      (getProposal store proposalId readAt markedAt).perform service =
        (.ok (proposal.withStatus "expired" none markedAt),
          { service with persistence := next }) := by
  unfold getProposal
  rw [perform_bind_ok (perform_get service)]
  cases found : store.get service.persistence proposals proposalId with
  | none =>
      refine .inl ⟨_, rfl, ?_⟩
      rintro proposal expired ⟨row, present, _⟩
      rw [found] at present
      cases present
  | some row =>
      obtain ⟨stored, _, same⟩ := readable.proposals proposalId row found
      obtain ⟨proposal, decoded, _⟩ := stored.fromDict_of_same readAt row same
      have reads : Reads store service proposalId readAt proposal := ⟨row, found, decoded⟩
      dsimp only
      rw [decoded, perform_bind_ok (perform_readRow service proposal)]
      cases compared : proposal.isExpired readAt with
      | error error =>
          rw [perform_bind_error (perform_ofExcept service _)]
          refine .inl ⟨error, rfl, ?_⟩
          rintro other expired ⟨otherRow, present, otherDecoded⟩ answered
          rw [found, Option.some.injEq] at present
          subst present
          rw [decoded, Option.some.injEq] at otherDecoded
          subst otherDecoded
          rw [compared] at answered
          cases answered
      | ok expired =>
          rw [perform_bind_ok (perform_ofExcept service _)]
          by_cases lapsed : expired = true ∧ proposal.status ∉ ["executed", "rejected"]
          · rw [if_pos lapsed]
            obtain ⟨next, written, performed⟩ := perform_put lawful service proposals proposalId
              (proposal.withStatus "expired" none markedAt).asDict
            rw [perform_bind_ok performed]
            exact .inr (.inr ⟨proposal, next, ⟨reads, lapsed.1 ▸ compared, lapsed.2⟩, written, rfl⟩)
          · rw [if_neg lapsed]
            exact .inr (.inl ⟨proposal, expired, reads, compared, lapsed, rfl⟩)

end Read

section Cast

variable {Threshold : Type} (quotients : Quotients Threshold)

/-- The open proposal that a vote is stored for. -/
structure Admits (store : PersistenceStore State) (service : GovernanceService State) (vote : Vote)
    (governancePolicy : GovernancePolicy) (clock : VoteClock) (proposal : Proposal) : Prop where
  reads : Reads store service vote.proposalId clock.readAt proposal
  notExpired : proposal.isExpired clock.readAt = .ok false
  notClosed : proposal.status ∉ ["executed", "rejected", "expired"]
  notSelf : ¬ selfApproval proposal vote governancePolicy

variable {service : GovernanceService State}

/-- A vote is refused without effect or with a marked proposal, or it is admitted and stored. -/
theorem castVote_cases (lawful : store.Lawful)
    (readable : Readable store service) (vote : Vote) (policy : ConsensusPolicy Threshold)
    (governancePolicy : GovernancePolicy) (clock : VoteClock) :
    (∃ error, (castVote store quotients vote policy governancePolicy clock).perform service =
        (.error error, service) ∧
      ∀ proposal, ¬ Admits store service vote governancePolicy clock proposal) ∨
    (∃ proposal next, Lapses store service vote.proposalId clock.readAt proposal ∧
      store.put service.persistence proposals vote.proposalId
        (proposal.withStatus "expired" none clock.markedAt).asDict = .ok next ∧
      (castVote store quotients vote policy governancePolicy clock).perform service =
        (.error (.conflictError "proposal is closed"), { service with persistence := next })) ∨
    ∃ proposal, Admits store service vote governancePolicy clock proposal ∧
      (castVote store quotients vote policy governancePolicy clock).perform service =
        (recordVote store quotients proposal vote policy governancePolicy clock).perform service := by
  unfold castVote
  rcases getProposal_cases lawful readable vote.proposalId clock.readAt clock.markedAt with
    ⟨error, failed, missing⟩ | ⟨proposal, expired, reads, compared, kept, returned⟩ |
      ⟨proposal, next, lapses, written, returned⟩
  · refine .inl ⟨error, perform_bind_error failed, ?_⟩
    exact fun proposal admits => missing proposal false admits.reads admits.notExpired
  · rw [perform_bind_ok returned]
    have same (other : Proposal) (admits : Admits store service vote governancePolicy clock other) :
        other = proposal := admits.reads.unique reads
    by_cases closed : proposal.status ∈ ["executed", "rejected", "expired"]
    · rw [if_pos closed]
      refine .inl ⟨_, rfl, ?_⟩
      intro other admits
      exact admits.notClosed (same other admits ▸ closed)
    rw [if_neg closed]
    by_cases self : selfApproval proposal vote governancePolicy
    · rw [if_pos self]
      refine .inl ⟨_, rfl, ?_⟩
      intro other admits
      exact admits.notSelf (same other admits ▸ self)
    rw [if_neg self]
    have live : expired = false := by
      rw [Bool.eq_false_iff]
      intro isExpired
      apply kept
      refine ⟨isExpired, ?_⟩
      intro decided
      apply closed
      simp only [List.mem_cons, List.not_mem_nil, or_false] at decided ⊢
      tauto
    exact .inr (.inr ⟨proposal, ⟨reads, live ▸ compared, closed, self⟩, rfl⟩)
  · rw [perform_bind_ok returned]
    refine .inr (.inl ⟨proposal, next, lapses, written, ?_⟩)
    rw [if_pos (by simp [Proposal.withStatus])]
    rfl

/-- The service after a vote is stored and announced. -/
def withVote (service : GovernanceService State) (persistence : State) (proposal : Proposal)
    (vote : Vote) : GovernanceService State where
  persistence := persistence
  events := service.events ++ [⟨"governance.vote.cast", proposal.proposalId, vote.asDict⟩]

variable (proposal : Proposal) (result : ConsensusResult)

/-- The status that a result gives to its proposal and the event that announces it. -/
def outcomeStatus : String :=
  if result.status = "approved" then "approved"
  else if result.status ∈ ["rejected", "blocked", "expired", "escalated"] then result.status
  else if result.status = "awaiting_human" then "awaiting_human" else proposal.status

def outcomeEvents : List EventAppend :=
  let payload := Json.obj (("tenant_id", .str proposal.tenantId) :: result.fields)
  if result.status = "approved" then
    [⟨"governance.consensus.reached", proposal.proposalId, payload⟩]
  else if result.status ∈ ["rejected", "blocked", "expired", "escalated"] then
    [⟨"governance.consensus.failed", proposal.proposalId, payload⟩]
  else []

theorem perform_recordOutcome (service : GovernanceService State) (proposal : Proposal)
    (result : ConsensusResult) :
    (recordOutcome proposal result).perform service =
      (.ok (outcomeStatus proposal result),
        { service with events := service.events ++ outcomeEvents proposal result }) := by
  unfold recordOutcome outcomeStatus outcomeEvents
  dsimp only
  split
  · rfl
  split
  · rfl
  · rw [List.append_nil]
    rfl

/-- An admitted vote is stored, and then the engine fails or its result is written. -/
theorem recordVote_cases (lawful : store.Lawful)
    (readable : Readable store service) (proposal : Proposal) (vote : Vote)
    (policy : ConsensusPolicy Threshold) (governancePolicy : GovernancePolicy) (clock : VoteClock) :
    ∃ next cast, store.put service.persistence votes vote.voteId vote.asDict = .ok next ∧
      Readable store (service.withVote next proposal vote) ∧
      Recordings store (service.withVote next proposal vote) cast ∧
      ((∃ error, ConsensusEngine.evaluate quotients proposal
            (votesOn proposal.tenantId proposal.proposalId cast) policy governancePolicy
            clock.evaluatedAt clock.reviewedAt = .error error ∧
          (recordVote store quotients proposal vote policy governancePolicy clock).perform service =
            (.error error, service.withVote next proposal vote)) ∨
        ∃ result final, ConsensusEngine.evaluate quotients proposal
            (votesOn proposal.tenantId proposal.proposalId cast) policy governancePolicy
            clock.evaluatedAt clock.reviewedAt = .ok result ∧
          store.put next proposals proposal.proposalId (proposal.withStatus
            (outcomeStatus proposal result) none clock.updatedAt).asDict = .ok final ∧
          (recordVote store quotients proposal vote policy governancePolicy clock).perform service =
            (.ok (vote, result, proposal.withStatus (outcomeStatus proposal result) none
                clock.updatedAt),
              ⟨final, (service.withVote next proposal vote).events ++
                outcomeEvents proposal result⟩)) := by
  obtain ⟨next, written, performed⟩ := perform_put lawful service votes vote.voteId vote.asDict
  have stored := (putVote_keeps lawful vote service readable).1
  rw [performed] at stored
  have readableNext : Readable store (service.withVote next proposal vote) :=
    ⟨stored.proposals, stored.votes, stored.approvals⟩
  obtain ⟨cast, recordings⟩ := exists_recordings lawful readableNext
  refine ⟨next, cast, written, readableNext, recordings, ?_⟩
  unfold recordVote
  rw [perform_bind_ok performed, perform_bind_ok (perform_append _ _ _ _)]
  have listed := perform_votesFor recordings proposal.tenantId proposal.proposalId clock.readAt
  change (votesFor store _ _ _).perform ⟨next, _⟩ = _ at listed
  rw [perform_bind_ok listed]
  cases evaluated : ConsensusEngine.evaluate quotients proposal
      (votesOn proposal.tenantId proposal.proposalId cast) policy governancePolicy
      clock.evaluatedAt clock.reviewedAt with
  | error error =>
      exact .inl ⟨error, rfl, perform_bind_error (perform_ofExcept _ _)⟩
  | ok result =>
      rw [perform_bind_ok (perform_ofExcept _ _), perform_bind_ok (perform_recordOutcome _ _ _)]
      obtain ⟨final, finalWritten, finalPerformed⟩ := perform_put lawful
        ⟨next, (service.withVote next proposal vote).events ++ outcomeEvents proposal result⟩
        proposals proposal.proposalId
        (proposal.withStatus (outcomeStatus proposal result) none clock.updatedAt).asDict
      exact .inr ⟨result, final, rfl, finalWritten, perform_bind_ok finalPerformed⟩

end Cast

end GovernanceService

end AgentFabric.Governance
