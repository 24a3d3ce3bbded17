import AgentFabric.Proof.Governance.ConsensusBounds
import AgentFabric.Proof.Governance.VoteSteps

namespace AgentFabric.Governance
open Persistence Transition ConsensusEngine MemoryPersistenceStore

/-- The calls that create proposals and cast votes. -/
def GovernanceCall.Voting {Threshold : Type} : GovernanceCall Threshold → Prop
  | .createProposal _ _ _ _ => True
  | .castVote _ _ _ _ => True
  | _ => False

namespace GovernanceService

variable {State Threshold : Type} {store : PersistenceStore State}

section Status

/-- The stored proposal has the status. -/
def HasStatus (store : PersistenceStore State) (service : GovernanceService State)
    (proposalId status : String) : Prop :=
  ∃ row, store.get service.persistence proposals proposalId = some row ∧
    Json.textField row "status" none = some status

instance (store : PersistenceStore State) (service : GovernanceService State)
    (proposalId status : String) : Decidable (HasStatus store service proposalId status) :=
  decidable_of_iff ((store.get service.persistence proposals proposalId).bind
    (fun row => Json.textField row "status" none) = some status) Option.bind_eq_some_iff

theorem Reads.hasStatus_iff {service : GovernanceService State} (readable : Readable store service)
    {proposalId : String} {now : UtcTime} {proposal : Proposal}
    (reads : Reads store service proposalId now proposal) (status : String) :
    HasStatus store service proposalId status ↔ proposal.status = status := by
  obtain ⟨row, stored, found, same, equal, _⟩ := reads.stored readable
  have text : Json.textField row "status" none = some stored.status :=
    (Json.textField_of_same same "status" none).trans rfl
  unfold HasStatus
  rw [found, equal.status]
  simp [text]

/-- After a proposal is stored its id has its status, and the other ids keep theirs. -/
theorem hasStatus_put_iff (lawful : store.Lawful) (service after : GovernanceService State)
    (proposal : Proposal)
    (written : store.put service.persistence proposals proposal.proposalId proposal.asDict =
      .ok after.persistence) (proposalId status : String) :
    HasStatus store after proposalId status ↔
      if proposalId = proposal.proposalId then proposal.status = status
      else HasStatus store service proposalId status := by
  unfold HasStatus
  split
  · rename_i sameId
    subst sameId
    obtain ⟨read, present, same⟩ := lawful.get_put_self _ _ _ _ _ written
    have text : Json.textField read "status" none = some proposal.status :=
      (Json.textField_of_same same "status" none).trans rfl
    rw [present]
    simp [text]
  · rename_i different
    rw [lawful.get_put_of_ne _ _ _ _ _ proposals proposalId written (by simp [different])]

theorem hasStatus_putOther_iff (lawful : store.Lawful) (service after : GovernanceService State)
    {collection key : String} {value : Json}
    (written : store.put service.persistence collection key value = .ok after.persistence)
    (different : proposals ≠ collection) (proposalId status : String) :
    HasStatus store after proposalId status ↔ HasStatus store service proposalId status := by
  unfold HasStatus
  rw [lawful.get_put_of_ne _ _ _ _ _ proposals proposalId written (by simp [different])]

end Status

section Once

/-- An approval of the same agent on the same proposal. -/
structure SameApproval (first second : Vote) : Prop where
  kinds : first.vote = "approve" ∧ second.vote = "approve"
  voter : first.voterAgentId = second.voterAgentId
  proposal : first.proposalId = second.proposalId
  tenant : first.tenantId = second.tenantId

/-- Every agent has at most one recorded approval of each proposal. -/
def ApprovesOnce (store : PersistenceStore State) (service : GovernanceService State) : Prop :=
  ∀ first second, Recorded store service first → Recorded store service second →
    SameApproval first second → first.voteId = second.voteId

/-- A proposal is not created as approved, and an approval repeats only under its own id. -/
def VotesOnce (store : PersistenceStore State) (service : GovernanceService State) :
    GovernanceCall Threshold → Prop
  | .createProposal proposal _ _ _ => proposal.status ≠ "approved"
  | .castVote vote _ _ _ => ∀ earlier, Recorded store service earlier →
      SameApproval earlier vote → earlier.voteId = vote.voteId
  | _ => True

variable {service after : GovernanceService State}

theorem ApprovesOnce.of_recorded (once : ApprovesOnce store service)
    (same : ∀ vote, Recorded store after vote ↔ Recorded store service vote) :
    ApprovesOnce store after := by
  intro first second recorded recordedSecond
  exact once first second ((same first).mp recorded) ((same second).mp recordedSecond)

/-- A vote that repeats no approval under another id keeps the approvals single. -/
theorem ApprovesOnce.putVote (lawful : store.Lawful)
    {vote : Vote} (once : ApprovesOnce store service)
    (written : store.put service.persistence votes vote.voteId vote.asDict = .ok after.persistence)
    (fresh : ∀ earlier, Recorded store service earlier → SameApproval earlier vote →
      earlier.voteId = vote.voteId) : ApprovesOnce store after := by
  intro first second recorded recordedSecond same
  have stored := recorded_putVote_iff lawful service after written
  rcases (stored first).mp recorded with rfl | ⟨_, before⟩
  · rcases (stored second).mp recordedSecond with rfl | ⟨_, earlier⟩
    · rfl
    · have reversed : SameApproval second first :=
        ⟨same.kinds.symm, same.voter.symm, same.proposal.symm, same.tenant.symm⟩
      exact (fresh second earlier reversed).symm
  · rcases (stored second).mp recordedSecond with rfl | ⟨_, earlier⟩
    · exact fresh first before same
    · exact once first second before earlier same

/-- So many different agents have a recorded approval of the proposal. -/
def DistinctApprovers (store : PersistenceStore State) (service : GovernanceService State)
    (proposalId : String) (required : Int) : Prop :=
  ∃ voters : List String, voters.Nodup ∧ required ≤ (voters.length : Int) ∧
    ∀ voter ∈ voters, ∃ vote, Recorded store service vote ∧ vote.proposalId = proposalId ∧
      vote.vote = "approve" ∧ vote.voterAgentId = voter

variable {proposalId : String}

theorem DistinctApprovers.mono {service : GovernanceService State}
    {required smaller : Int} (distinct : DistinctApprovers store service proposalId required)
    (less : smaller ≤ required) : DistinctApprovers store service proposalId smaller := by
  obtain ⟨voters, nodup, enough, approved⟩ := distinct
  exact ⟨voters, nodup, less.trans enough, approved⟩

theorem DistinctApprovers.of_recorded {required : Int}
    (distinct : DistinctApprovers store service proposalId required)
    (same : ∀ vote, Recorded store after vote ↔ Recorded store service vote) :
    DistinctApprovers store after proposalId required := by
  obtain ⟨voters, nodup, enough, approved⟩ := distinct
  refine ⟨voters, nodup, enough, ?_⟩
  intro voter listed
  obtain ⟨vote, recorded, facts⟩ := approved voter listed
  exact ⟨vote, (same vote).mpr recorded, facts⟩

theorem mem_votesOn {tenantId proposalId : String} {cast : List Vote} {vote : Vote}
    (listed : vote ∈ having "approve" (votesOn tenantId proposalId cast)) :
    vote ∈ cast ∧ vote.tenantId = tenantId ∧ vote.proposalId = proposalId ∧
      vote.vote = "approve" := by
  simp only [having, votesOn, List.mem_filter, decide_eq_true_eq] at listed
  exact ⟨listed.1.1.1, listed.1.1.2, listed.1.2, listed.2⟩

/-- Single approvals that are counted come from different agents. -/
theorem ApprovesOnce.distinctApprovers {service : GovernanceService State} {cast : List Vote}
    (once : ApprovesOnce store service) (recordings : Recordings store service cast)
    (tenantId proposalId : String) :
    DistinctApprovers store service proposalId
      (having "approve" (votesOn tenantId proposalId cast)).length := by
  refine ⟨(having "approve" (votesOn tenantId proposalId cast)).map Vote.voterAgentId, ?_, ?_, ?_⟩
  · have sublist : (having "approve" (votesOn tenantId proposalId cast)).Sublist cast :=
      List.filter_sublist.trans (List.filter_sublist.trans List.filter_sublist)
    have ids : (having "approve" (votesOn tenantId proposalId cast)).Pairwise
        fun first second => first.voteId < second.voteId :=
      (List.pairwise_map.mp recordings.increasing).sublist sublist
    apply List.pairwise_map.mpr
    apply List.Pairwise.imp_of_mem _ ids
    intro first second listed listedSecond less voter
    obtain ⟨inside, tenant, proposal, kind⟩ := mem_votesOn listed
    obtain ⟨insideSecond, tenantSecond, proposalSecond, kindSecond⟩ := mem_votesOn listedSecond
    have same : SameApproval first second := ⟨⟨kind, kindSecond⟩, voter,
      proposal.trans proposalSecond.symm, tenant.trans tenantSecond.symm⟩
    have sameId := once first second ((recordings.members first).mp inside)
      ((recordings.members second).mp insideSecond) same
    exact (ne_of_lt less) sameId
  · rw [List.length_map]
  · intro voter listed
    obtain ⟨vote, voteListed, rfl⟩ := List.mem_map.mp listed
    obtain ⟨inside, _, proposal, kind⟩ := mem_votesOn voteListed
    exact ⟨vote, (recordings.members vote).mp inside, proposal, kind, rfl⟩

end Once

section Steps

variable (lawful : store.Lawful)

include lawful

theorem perform_requestApproval (service : GovernanceService State) (proposal : Proposal)
    (assignedReviewer : String) (draw : ApprovalDraw) :
    ∃ approval next, HumanApproval.approvalId approval = draw.approvalId ∧
      approval.status = "pending" ∧
      store.put service.persistence approvals approval.approvalId approval.asDict = .ok next ∧
      (requestApproval store proposal assignedReviewer draw).perform service =
        (.ok approval, { service with persistence := next }) := by
  unfold requestApproval
  extract_lets approval
  obtain ⟨next, written, performed⟩ :=
    perform_put lawful service approvals approval.approvalId approval.asDict
  exact ⟨approval, next, rfl, rfl, written, Effect.perform_bind_ok performed⟩

/-- A creation stores nothing, or the proposal and perhaps the request of an approval. -/
theorem createProposal_cases (service : GovernanceService State) (proposal : Proposal)
    (assignedReviewer : Option String)
    (checkPolicy : Cloud.PolicyCheckRequest → Cloud.PolicyCheckResponse) (draw : ApprovalDraw) :
    ((createProposal store proposal assignedReviewer checkPolicy draw).perform
        service).2.persistence = service.persistence ∨
      ∃ next, store.put service.persistence proposals proposal.proposalId proposal.asDict =
          .ok next ∧
        (((createProposal store proposal assignedReviewer checkPolicy draw).perform
            service).2.persistence = next ∨
          ∃ key value, store.put next approvals key value =
            .ok ((createProposal store proposal assignedReviewer checkPolicy draw).perform
              service).2.persistence) := by
  unfold createProposal
  dsimp only
  split
  · exact .inl rfl
  · right
    obtain ⟨next, written, performed⟩ := perform_put lawful service proposals proposal.proposalId
      proposal.asDict
    refine ⟨next, written, ?_⟩
    rw [Effect.perform_bind_ok performed, Effect.perform_bind_ok (perform_append _ _ _ _)]
    split
    · right
      obtain ⟨approval, final, _, _, requested, returned⟩ := perform_requestApproval lawful
        ⟨next, service.events ++
          [⟨"governance.proposal.created", proposal.proposalId, proposal.asDict⟩]⟩ proposal
        ((assignedReviewer.filter fun reviewer => reviewer ≠ "").getD proposal.createdBy) draw
      refine ⟨approval.approvalId, approval.asDict, requested.trans ?_⟩
      rw [Effect.perform_bind_ok returned]
      rfl
    · exact .inl rfl

variable {service : GovernanceService State}

theorem createProposal_approvesOnce (once : ApprovesOnce store service) (proposal : Proposal)
    (assignedReviewer : Option String)
    (checkPolicy : Cloud.PolicyCheckRequest → Cloud.PolicyCheckResponse) (draw : ApprovalDraw) :
    ApprovesOnce store
      ((createProposal store proposal assignedReviewer checkPolicy draw).perform service).2 := by
  apply once.of_recorded
  intro vote
  rcases createProposal_cases lawful service proposal assignedReviewer checkPolicy draw with
    unchanged | ⟨next, written, stored | ⟨key, value, requested⟩⟩
  · unfold Recorded
    rw [unchanged]
  · exact recorded_putOther_iff lawful service _ (written.trans (congrArg _ stored.symm))
      (by decide) vote
  · have created := recorded_putOther_iff lawful service ⟨next, []⟩ written (by decide) vote
    exact (recorded_putOther_iff lawful ⟨next, []⟩ _ requested (by decide) vote).trans created

variable {proposal : Proposal} {proposalId : String}

/-- A creation gives no proposal the status of an approved one unless it is created with it. -/
theorem createProposal_hasStatus
    {status : String} (different : proposal.status ≠ status) (assignedReviewer : Option String)
    (checkPolicy : Cloud.PolicyCheckRequest → Cloud.PolicyCheckResponse) (draw : ApprovalDraw)
    (after : HasStatus store
      ((createProposal store proposal assignedReviewer checkPolicy draw).perform service).2
      proposalId status) :
    HasStatus store service proposalId status := by
  have created {next : State}
      (written : store.put service.persistence proposals proposal.proposalId proposal.asDict =
        .ok next) (has : HasStatus store ⟨next, []⟩ proposalId status) :
      HasStatus store service proposalId status := by
    rw [hasStatus_put_iff lawful service ⟨next, []⟩ proposal written] at has
    split at has
    · exact absurd has different
    · exact has
  rcases createProposal_cases lawful service proposal assignedReviewer checkPolicy draw with
    unchanged | ⟨next, written, stored | ⟨key, value, requested⟩⟩
  · unfold HasStatus at after
    rwa [unchanged] at after
  · apply created written
    unfold HasStatus at after ⊢
    rwa [stored] at after
  · apply created written
    exact (hasStatus_putOther_iff lawful ⟨next, []⟩ _ requested (by decide) _ _).mp after

variable (quotients : Quotients Threshold)

/-- The effect of a vote on the rows, with what the engine answered when it was stored. -/
theorem castVote_rows
    (readable : Readable store service) (vote : Vote) (policy : ConsensusPolicy Threshold)
    (governancePolicy : GovernancePolicy) (clock : VoteClock) {after : GovernanceService State}
    (performed : ((castVote store quotients vote policy governancePolicy clock).perform
      service).2 = after) :
    after = service ∨
    (∃ proposal : Proposal, proposal.proposalId = vote.proposalId ∧
      store.put service.persistence proposals vote.proposalId
        (proposal.withStatus "expired" none clock.markedAt).asDict = .ok after.persistence) ∨
    ∃ proposal next, Reads store service vote.proposalId clock.readAt proposal ∧
      proposal.proposalId = vote.proposalId ∧
      store.put service.persistence votes vote.voteId vote.asDict = .ok next ∧
      (after.persistence = next ∨ ∃ result cast,
        Recordings store (service.withVote next proposal vote) cast ∧
        evaluate quotients proposal (votesOn proposal.tenantId proposal.proposalId cast) policy
          governancePolicy clock.evaluatedAt clock.reviewedAt = .ok result ∧
        store.put next proposals vote.proposalId (proposal.withStatus
          (outcomeStatus proposal result) none clock.updatedAt).asDict = .ok after.persistence) := by
  subst performed
  have keyed {proposal : Proposal} (reads : Reads store service vote.proposalId clock.readAt
      proposal) : proposal.proposalId = vote.proposalId := reads.proposalId readable
  rcases castVote_cases quotients lawful readable vote policy governancePolicy clock with
    ⟨error, failed, _⟩ | ⟨proposal, next, lapses, written, failed⟩ |
      ⟨proposal, admits, recorded⟩
  · rw [failed]
    exact .inl rfl
  · rw [failed]
    exact .inr (.inl ⟨proposal, keyed lapses.reads, written⟩)
  · rw [recorded]
    obtain ⟨next, cast, written, _, recordings, outcome⟩ :=
      recordVote_cases quotients lawful readable proposal vote policy governancePolicy clock
    refine .inr (.inr ⟨proposal, next, admits.reads, keyed admits.reads, written, ?_⟩)
    rcases outcome with ⟨error, _, failed⟩ | ⟨result, final, evaluated, finalWritten, returned⟩
    · rw [failed]
      exact .inl rfl
    · rw [returned]
      exact .inr ⟨result, cast, recordings, evaluated, keyed admits.reads ▸ finalWritten⟩

theorem castVote_approvesOnce
    (readable : Readable store service) (once : ApprovesOnce store service) {vote : Vote}
    (fresh : ∀ earlier, Recorded store service earlier → SameApproval earlier vote →
      earlier.voteId = vote.voteId)
    (policy : ConsensusPolicy Threshold) (governancePolicy : GovernancePolicy) (clock : VoteClock) :
    ApprovesOnce store
      ((castVote store quotients vote policy governancePolicy clock).perform service).2 := by
  rcases castVote_rows lawful quotients readable vote policy governancePolicy clock rfl with
    unchanged | ⟨proposal, _, written⟩ | ⟨proposal, next, _, _, written, stored | ⟨_, _, _, _, final⟩⟩
  · rwa [unchanged]
  · exact once.of_recorded (recorded_putOther_iff lawful service _ written (by decide))
  · exact once.putVote lawful (written.trans (congrArg _ stored.symm)) fresh
  · have kept : ApprovesOnce store (⟨next, []⟩ : GovernanceService State) :=
      once.putVote lawful written fresh
    exact kept.of_recorded (recorded_putOther_iff lawful ⟨next, []⟩ _ final (by decide))

omit lawful in
theorem outcomeStatus_approved {result : ConsensusResult}
    (pending : proposal.status ≠ "approved") (approved : outcomeStatus proposal result = "approved") :
    result.status = "approved" := by
  unfold outcomeStatus at approved
  split at approved
  · assumption
  split at approved
  · exact approved
  split at approved
  · exact absurd approved (by decide)
  · exact absurd approved pending

/-- A vote that approves a proposal finds the required approvals of different agents. -/
theorem castVote_approved
    (readable : Readable store service) (once : ApprovesOnce store service) {vote : Vote}
    (fresh : ∀ earlier, Recorded store service earlier → SameApproval earlier vote →
      earlier.voteId = vote.voteId)
    (policy : ConsensusPolicy Threshold) (governancePolicy : GovernancePolicy) (clock : VoteClock) (before : ¬ HasStatus store service proposalId "approved")
    (after : HasStatus store
      ((castVote store quotients vote policy governancePolicy clock).perform service).2
      proposalId "approved") :
    vote.proposalId = proposalId ∧ ∃ proposal,
      Reads store service proposalId clock.readAt proposal ∧
      DistinctApprovers store
        ((castVote store quotients vote policy governancePolicy clock).perform service).2
        proposalId (requiredApprovals proposal policy) := by
  rcases castVote_rows lawful quotients readable vote policy governancePolicy clock rfl with
    unchanged | ⟨proposal, keyed, written⟩ |
      ⟨proposal, next, reads, keyed, written, stored | ⟨result, cast, recordings, evaluated, final⟩⟩
  · exact absurd (unchanged ▸ after) before
  · rw [← keyed] at written
    have has := (hasStatus_put_iff lawful service _
      (proposal.withStatus "expired" none clock.markedAt) written _ _).mp after
    split at has
    · exact absurd has (by simp [Proposal.withStatus])
    · exact absurd has before
  · have has := (hasStatus_putOther_iff lawful service _ (written.trans (congrArg _ stored.symm))
      (by decide) _ _).mp after
    exact absurd has before
  · have recordedBefore := hasStatus_putOther_iff lawful service (service.withVote next proposal vote)
      written (by decide) proposalId "approved"
    rw [← keyed] at final
    have has := (hasStatus_put_iff lawful (service.withVote next proposal vote) _
      (proposal.withStatus (outcomeStatus proposal result) none clock.updatedAt) final
      _ _).mp after
    split at has
    · rename_i sameId
      have id : vote.proposalId = proposalId := keyed.symm.trans sameId.symm
      subst id
      refine ⟨rfl, proposal, reads, ?_⟩
      have pending : proposal.status ≠ "approved" :=
        fun status => before ((reads.hasStatus_iff readable "approved").mpr status)
      have enough := evaluateWith_approved evaluated (outcomeStatus_approved pending has)
      have single : ApprovesOnce store (service.withVote next proposal vote) :=
        once.putVote lawful written fresh
      have distinct := single.distinctApprovers recordings proposal.tenantId proposal.proposalId
      rw [keyed] at enough distinct
      apply (distinct.mono enough).of_recorded
      exact recorded_putOther_iff lawful (service.withVote next proposal vote) _ final (by decide)
    · exact absurd (recordedBefore.mp has) before

end Steps

section Runs

variable (lawful : store.Lawful) (quotients : Quotients Threshold)
  (service : GovernanceService State)

theorem step_createProposal (proposal : Proposal) (assignedReviewer : Option String)
    (checkPolicy : Cloud.PolicyCheckRequest → Cloud.PolicyCheckResponse) (draw : ApprovalDraw) :
    (step store quotients service (.createProposal proposal assignedReviewer checkPolicy draw)).2 =
      ((createProposal store proposal assignedReviewer checkPolicy draw).perform service).2 :=
  Effect.perform_bind_snd (fun _ _ => rfl) service

theorem step_castVote (vote : Vote)
    (policy : ConsensusPolicy Threshold) (governancePolicy : GovernancePolicy) (clock : VoteClock) :
    (step store quotients service (.castVote vote policy governancePolicy clock)).2 =
      ((castVote store quotients vote policy governancePolicy clock).perform service).2 :=
  Effect.perform_bind_snd (fun _ _ => rfl) service

include lawful

/-- A call that votes once keeps the approvals single. -/
theorem step_approvesOnce {service : GovernanceService State} (readable : Readable store service)
    (once : ApprovesOnce store service) {operation : GovernanceCall Threshold}
    (voting : operation.Voting) (votesOnce : VotesOnce store service operation) :
    ApprovesOnce store (step store quotients service operation).2 := by
  cases operation with
  | createProposal proposal assignedReviewer checkPolicy draw =>
      rw [step_createProposal]
      exact createProposal_approvesOnce lawful once proposal assignedReviewer checkPolicy draw
  | castVote vote policy governancePolicy clock =>
      rw [step_castVote]
      exact castVote_approvesOnce lawful quotients readable once votesOnce policy governancePolicy
        clock
  | getProposal => exact voting.elim
  | execute => exact voting.elim
  | resolveApproval => exact voting.elim

/-- In every run that votes once the approvals are single. -/
theorem reached_approvesOnce (calls : List (GovernanceCall Threshold))
    (voting : ∀ operation ∈ calls, operation.Voting)
    (guarded : Guarded (step store quotients) (VotesOnce store) (initial store) calls) :
    ApprovesOnce store (reached store quotients calls) := by
  have both : Guarded (step store quotients)
      (fun service operation => operation.Voting ∧ VotesOnce store service operation)
      (initial store) calls :=
    (guarded_of_forall _ _ _ calls voting).and guarded
  have kept := run_invariant_of_guarded _ _
    (fun service => Readable store service ∧ ApprovesOnce store service)
    (fun service operation invariant condition =>
      ⟨(call_keeps lawful quotients operation service invariant.1).1,
        step_approvesOnce lawful quotients invariant.1 invariant.2 condition.1 condition.2⟩)
    _ calls ⟨initial_readable lawful, ?_⟩ both
  · exact kept.2
  · rintro first second ⟨row, found, _⟩
    rw [show store.get (initial store).persistence votes first.voteId = none from
      lawful.get_initial votes first.voteId] at found
    cases found

/-- When a call makes a proposal approved, it is a vote that finds the approvals of as many
different agents as the policy and the proposal require. -/
theorem approved_distinctVoters (calls : List (GovernanceCall Threshold))
    (operation : GovernanceCall Threshold)
    (voting : ∀ call ∈ calls ++ [operation], call.Voting)
    (guarded : Guarded (step store quotients) (VotesOnce store) (initial store)
      (calls ++ [operation]))
    (proposalId : String)
    (before : ¬ HasStatus store (reached store quotients calls) proposalId "approved")
    (after : HasStatus store (reached store quotients (calls ++ [operation])) proposalId
      "approved") :
    ∃ vote policy governancePolicy clock proposal,
      operation = .castVote vote policy governancePolicy clock ∧
      vote.proposalId = proposalId ∧
      Reads store (reached store quotients calls) proposalId clock.readAt proposal ∧
      DistinctApprovers store (reached store quotients (calls ++ [operation])) proposalId
        (max policy.requiredApprovals proposal.requiredApprovals) := by
  obtain ⟨guardedCalls, votesOnce, _⟩ := (guarded_append _ _ _ _ _).mp guarded
  have readable := reached_readable lawful quotients calls
  have once := reached_approvesOnce lawful quotients calls
    (fun call member => voting call (List.mem_append_left _ member)) guardedCalls
  have last : reached store quotients (calls ++ [operation]) =
      (step store quotients (reached store quotients calls) operation).2 :=
    run_append _ _ _ _
  have votes : operation.Voting := voting operation (by simp)
  rw [last] at after ⊢
  cases operation with
  | createProposal proposal assignedReviewer checkPolicy draw =>
      rw [step_createProposal] at after
      exact absurd (createProposal_hasStatus lawful votesOnce assignedReviewer checkPolicy draw
        after) before
  | castVote vote policy governancePolicy clock =>
      rw [step_castVote] at after ⊢
      obtain ⟨sameId, proposal, reads, distinct⟩ := castVote_approved lawful quotients readable once
        votesOnce policy governancePolicy clock before after
      exact ⟨vote, policy, governancePolicy, clock, proposal, rfl, sameId, reads, distinct⟩
  | getProposal => exact votes.elim
  | execute => exact votes.elim
  | resolveApproval => exact votes.elim

end Runs

section Example

/-- A pending proposal that asks for two approvals. -/
def twoApprovalsProposal : Proposal where
  tenantId := "tenant-a"
  organizationId := "org-a"
  proposingAgentId := "planner-agent"
  targetOrgId := "org-a"
  actionType := "workflow_execution"
  riskLevel := "low"
  requiredApprovals := 2
  createdBy := "planner-agent"
  targetTeamId := none
  veilTrustMetadataRef := none
  consensusMode := "majority"
  status := "pending"
  proposalId := "proposal-1"
  createdAt := UtcTime.first.toDateTime
  updatedAt := UtcTime.first.toDateTime
  expiresAt := UtcTime.first.toDateTime
  executedAction := none

variable (voteId voterAgentId vote : String)

/-- A vote of a reviewer on that proposal. -/
def reviewerVote : Vote where
  proposalId := "proposal-1"
  tenantId := "tenant-a"
  voterAgentId := voterAgentId
  voterRole := "reviewer"
  vote := vote
  weight := 1
  reason := ""
  voteId := voteId
  createdAt := UtcTime.first.toDateTime

def majorityPolicy : ConsensusPolicy Rat := ⟨"majority", 1 / 2, [], 1⟩

def openGovernancePolicy : GovernancePolicy :=
  ⟨"default", "tenant-a", "org-a", "medium", [], [], [], false⟩

def firstClock : VoteClock :=
  ⟨UtcTime.first, UtcTime.first, UtcTime.first, UtcTime.first, UtcTime.first⟩

def createTwoApprovals : GovernanceCall Rat :=
  .createProposal twoApprovalsProposal none (fun _ => ⟨true, ""⟩)
    ⟨"approval-1", UtcTime.first, UtcTime.first⟩

def castReview : GovernanceCall Rat :=
  .castVote (reviewerVote voteId voterAgentId vote) majorityPolicy openGovernancePolicy firstClock

def memoryReached (calls : List (GovernanceCall Rat)) : GovernanceService MemoryPersistenceStore :=
  reached backend exactQuotients calls

/-- The texts of one field in the rows of the votes. -/
def voteTexts (service : GovernanceService MemoryPersistenceStore) (key : String) :
    List (Option String) :=
  (backend.list service.persistence votes).map fun row =>
    Json.textField row key none

/-- The voter of a recorded vote stands in the rows. -/
theorem Recorded.voteTexts {service : GovernanceService MemoryPersistenceStore} {vote : Vote}
    (recorded : Recorded backend service vote) :
    some vote.voterAgentId ∈ voteTexts service "voter_agent_id" := by
  obtain ⟨row, listed, same⟩ := recorded.listed backend_lawful
  have text : Json.textField row "voter_agent_id" none = some vote.voterAgentId :=
    (Json.textField_of_same same "voter_agent_id" none).trans rfl
  exact List.mem_map.mpr ⟨row, listed, text⟩

/-- Two agents approve the proposal, and both are found. -/
theorem approved_distinctVoters_twoAgents :
    ∃ vote policy governancePolicy clock proposal,
      castReview "vote-2" "agent-2" "approve" = .castVote vote policy governancePolicy clock ∧
      vote.proposalId = "proposal-1" ∧
      Reads backend
        (memoryReached [createTwoApprovals, castReview "vote-1" "agent-1" "approve"]) "proposal-1"
        clock.readAt proposal ∧
      DistinctApprovers backend (memoryReached [createTwoApprovals,
          castReview "vote-1" "agent-1" "approve", castReview "vote-2" "agent-2" "approve"])
        "proposal-1" (max policy.requiredApprovals proposal.requiredApprovals) := by
  apply approved_distinctVoters backend_lawful exactQuotients
    [createTwoApprovals, castReview "vote-1" "agent-1" "approve"]
    (castReview "vote-2" "agent-2" "approve")
  · simp [createTwoApprovals, castReview, GovernanceCall.Voting]
  · refine ⟨?_, ?_, ?_, trivial⟩
    · show "pending" ≠ "approved"
      decide
    · intro earlier recorded _
      have listed : some earlier.voterAgentId ∈
          voteTexts (memoryReached [createTwoApprovals]) "voter_agent_id" := recorded.voteTexts
      rw [show voteTexts (memoryReached [createTwoApprovals]) "voter_agent_id" = [] by
        decide] at listed
      cases listed
    · intro earlier recorded same
      have listed : some earlier.voterAgentId ∈ voteTexts (memoryReached [createTwoApprovals,
          castReview "vote-1" "agent-1" "approve"]) "voter_agent_id" := recorded.voteTexts
      rw [show voteTexts (memoryReached [createTwoApprovals,
        castReview "vote-1" "agent-1" "approve"]) "voter_agent_id" = [some "agent-1"] by
          decide, same.voter] at listed
      exact absurd listed (by decide)
  · decide
  · decide

/-- One agent approves the proposal twice and is its only approver. -/
theorem approved_oneAgent :
    (∀ operation ∈ [createTwoApprovals, castReview "vote-1" "agent-1" "approve",
      castReview "vote-2" "agent-1" "approve"], operation.Voting) ∧
    ¬ HasStatus backend
      (memoryReached [createTwoApprovals, castReview "vote-1" "agent-1" "approve"]) "proposal-1"
      "approved" ∧
    HasStatus backend
      (memoryReached [createTwoApprovals, castReview "vote-1" "agent-1" "approve",
        castReview "vote-2" "agent-1" "approve"]) "proposal-1" "approved" ∧
    ¬ DistinctApprovers backend
      (memoryReached [createTwoApprovals, castReview "vote-1" "agent-1" "approve",
        castReview "vote-2" "agent-1" "approve"]) "proposal-1"
      (max majorityPolicy.requiredApprovals twoApprovalsProposal.requiredApprovals) := by
  refine ⟨by simp [createTwoApprovals, castReview, GovernanceCall.Voting], by decide, by decide, ?_⟩
  rintro ⟨voters, nodup, enough, approved⟩
  have inside : voters ⊆ ["agent-1"] := by
    intro voter listed
    obtain ⟨vote, recorded, _, _, rfl⟩ := approved voter listed
    have texts := recorded.voteTexts
    rw [show voteTexts (memoryReached [createTwoApprovals, castReview "vote-1" "agent-1" "approve",
      castReview "vote-2" "agent-1" "approve"]) "voter_agent_id" =
        [some "agent-1", some "agent-1"] by decide] at texts
    simpa using texts
  have short : voters.length ≤ 1 := (nodup.subperm inside).length_le
  have two : max majorityPolicy.requiredApprovals twoApprovalsProposal.requiredApprovals = 2 := rfl
  omega

end Example

end GovernanceService

end AgentFabric.Governance
