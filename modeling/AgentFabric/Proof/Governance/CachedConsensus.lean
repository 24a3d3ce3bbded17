import AgentFabric.Proof.Governance.FinalDecisions

namespace AgentFabric.Governance
open Persistence Transition Cloud ConsensusEngine MemoryPersistenceStore

theorem Proposal.Same.terms {first second : Proposal} (same : first.Same second) :
    first.SameTerms second where
  tenantId := same.congr Proposal.tenantId fun _ => rfl
  riskLevel := same.congr Proposal.riskLevel fun _ => rfl
  requiredApprovals := same.congr Proposal.requiredApprovals fun _ => rfl

theorem Proposal.SameTerms.trans {first second third : Proposal} (one : first.SameTerms second)
    (two : second.SameTerms third) : first.SameTerms third where
  tenantId := one.tenantId.trans two.tenantId
  riskLevel := one.riskLevel.trans two.riskLevel
  requiredApprovals := one.requiredApprovals.trans two.requiredApprovals

/-- Votes on one proposal under fixed policies, resolutions of approvals, reads and executions. -/
def GovernanceCall.OnProposal {Threshold : Type} (proposalId : String)
    (policy : ConsensusPolicy Threshold) (governancePolicy : GovernancePolicy) :
    GovernanceCall Threshold → Prop
  | .createProposal _ _ _ _ => False
  | .castVote vote castPolicy castGovernance _ =>
      vote.proposalId = proposalId ∧ castPolicy = policy ∧ castGovernance = governancePolicy
  | _ => True

namespace GovernanceService

variable {State Threshold : Type} {store : PersistenceStore State}

/-- The status that the engine gives to the recorded votes on the proposal at the given time. -/
def verdict (store : PersistenceStore State) (quotients : Quotients Threshold)
    (policy : ConsensusPolicy Threshold) (governancePolicy : GovernancePolicy) (proposalId : String)
    (service : GovernanceService State) (now : UtcTime) : Option String := do
  let row ← store.get service.persistence proposals proposalId
  let proposal ← Proposal.fromDict now row
  let cast ← ((votesFor store proposal.tenantId proposal.proposalId now).perform service).1.toOption
  let result ← (evaluate quotients proposal cast policy governancePolicy now now).toOption
  some result.status

/-- The recorded votes on the proposal evaluate to an approval at the given time. -/
def Endorsed (store : PersistenceStore State) (quotients : Quotients Threshold)
    (policy : ConsensusPolicy Threshold) (governancePolicy : GovernancePolicy) (proposalId : String)
    (service : GovernanceService State) (now : UtcTime) : Prop :=
  verdict store quotients policy governancePolicy proposalId service now = some "approved"

/-- A vote on an approved proposal leads to a verdict that is not pending, and an approval is
granted only when the recorded votes evaluate to an approval. -/
def KeepsVerdict (store : PersistenceStore State) (quotients : Quotients Threshold)
    (policy : ConsensusPolicy Threshold) (governancePolicy : GovernancePolicy) (proposalId : String)
    (service : GovernanceService State) : GovernanceCall Threshold → Prop
  | .castVote vote _ _ clock => ∀ proposal cast,
      Admits store service vote governancePolicy clock proposal → proposal.status = "approved" →
      VotesWith store service vote cast → ∃ result,
        evaluate quotients proposal (votesOn proposal.tenantId proposal.proposalId cast) policy
          governancePolicy clock.evaluatedAt clock.reviewedAt = .ok result ∧
        result.status ≠ "pending"
  | .resolveApproval context approvalId status _ clock => status = "approved" → ∀ approval,
      Resolvable store service context approvalId clock.readAt approval →
      approval.proposalId = proposalId →
        Endorsed store quotients policy governancePolicy proposalId service clock.evaluatedAt
  | _ => True

/-- Some evaluation of the votes on a proposal with these terms approved it. -/
def Approves (quotients : Quotients Threshold) (policy : ConsensusPolicy Threshold)
    (governancePolicy : GovernancePolicy) (proposal : Proposal) (cast : List Vote) : Prop :=
  ∃ judged evaluatedAt reviewedAt result, proposal.SameTerms judged ∧
    proposal.proposalId = judged.proposalId ∧
    evaluate quotients judged (votesOn judged.tenantId judged.proposalId cast) policy
      governancePolicy evaluatedAt reviewedAt = .ok result ∧ result.status = "approved"

/-- An approved status stands for an approval of the recorded votes. -/
def Sound (store : PersistenceStore State) (quotients : Quotients Threshold)
    (policy : ConsensusPolicy Threshold) (governancePolicy : GovernancePolicy) (proposalId : String)
    (service : GovernanceService State) : Prop :=
  ∀ proposal now cast, Reads store service proposalId now proposal →
    proposal.status = "approved" → Recordings store service cast →
      Approves quotients policy governancePolicy proposal cast

section Recordings

/-- The recorded votes have one order. -/
theorem Recordings.unique {service after : GovernanceService State} {cast other : List Vote}
    (recordings : Recordings store service cast) (otherRecordings : Recordings store after other)
    (same : ∀ vote, Recorded store after vote ↔ Recorded store service vote) : cast = other := by
  apply eq_of_increasing recordings.increasing otherRecordings.increasing
  intro vote
  rw [recordings.members, otherRecordings.members, same]

variable {quotients : Quotients Threshold} {policy : ConsensusPolicy Threshold}
  {governancePolicy : GovernancePolicy} {proposal : Proposal}

/-- The proposal and the votes that a verdict of approval is about. -/
theorem endorsed_iff {proposalId : String} {service : GovernanceService State}
    {now : UtcTime} {cast : List Vote}
    (reads : Reads store service proposalId now proposal)
    (recordings : Recordings store service cast) :
    Endorsed store quotients policy governancePolicy proposalId service now ↔
      ∃ result, evaluate quotients proposal (votesOn proposal.tenantId proposal.proposalId cast)
        policy governancePolicy now now = .ok result ∧ result.status = "approved" := by
  obtain ⟨row, found, decoded⟩ := reads
  unfold Endorsed verdict
  rw [found, Option.bind_eq_bind, Option.bind_some, decoded, Option.bind_eq_bind, Option.bind_some,
    perform_votesFor recordings proposal.tenantId proposal.proposalId now]
  cases evaluated : evaluate quotients proposal
      (votesOn proposal.tenantId proposal.proposalId cast) policy governancePolicy now now with
  | error error => simp [Except.toOption, evaluated]
  | ok result => simp [Except.toOption, evaluated]

/-- An approval holds at every time at which the proposal is live. -/
theorem Approves.evaluated {cast : List Vote}
    (approves : Approves quotients policy governancePolicy proposal cast) {now : UtcTime}
    (live : proposal.isExpired now = .ok false) :
    ∃ result, evaluate quotients proposal (votesOn proposal.tenantId proposal.proposalId cast)
      policy governancePolicy now now = .ok result ∧ result.status = "approved" := by
  obtain ⟨judged, evaluatedAt, reviewedAt, result, terms, sameId, evaluated, approved⟩ := approves
  rw [terms.tenantId, sameId]
  exact ⟨result, evaluate_live evaluated approved terms live, approved⟩

end Recordings

section Steps

variable (lawful : store.Lawful) {quotients : Quotients Threshold}
  {policy : ConsensusPolicy Threshold} {governancePolicy : GovernancePolicy} {proposalId : String}
  {service after : GovernanceService State} {writes : List Write} {proposal : Proposal}
  {result : ConsensusResult}

theorem approved_of_outcome
    (known : result.status ∈ resultStatuses) (decisive : result.status ≠ "pending")
    (approved : outcomeStatus proposal result = "approved") : result.status = "approved" := by
  unfold outcomeStatus at approved
  split at approved
  · assumption
  split at approved
  · exact approved
  split at approved
  · exact absurd approved (by decide)
  · rename_i notApproved notFailed notAwaiting
    simp only [resultStatuses, List.mem_cons, List.not_mem_nil, or_false] at known notFailed
    tauto

theorem resolutionStatus_ne {status : String} (different : status ≠ "approved") :
    resolutionStatus status ≠ "approved" := by
  unfold resolutionStatus
  rw [if_neg different]
  split <;> decide

theorem Sound.of_status (readable : Readable store after)
    (different : ¬ HasStatus store after proposalId "approved") :
    Sound store quotients policy governancePolicy proposalId after := by
  intro proposal now cast reads approved _
  exact absurd ((reads.hasStatus_iff readable "approved").mpr approved) different

include lawful

/-- Writes of other rows keep the status sound. -/
theorem Sound.kept (sound : Sound store quotients policy governancePolicy proposalId service)
    (readable : Readable store service)
    (wrote : Wrote store service.persistence writes after.persistence)
    (noVote : ∀ vote, .putVote vote ∉ writes)
    (noProposal : ∀ proposal, .putProposal proposal ∈ writes → proposalId ≠ proposal.proposalId) :
    Sound store quotients policy governancePolicy proposalId after := by
  intro proposal now cast reads approved recordings
  obtain ⟨before, beforeRecordings⟩ := exists_recordings lawful readable
  have sameVotes : before = cast :=
    beforeRecordings.unique recordings (wrote.recorded_kept_iff lawful noVote)
  have row := wrote.get_of_ne lawful proposals proposalId (by
    intro write listed same
    cases write with
    | putProposal other => exact noProposal other listed (Prod.mk.inj same).2
    | putVote _ | putApproval _ | putDecision _ _ =>
        simp [Write.collection, proposals, votes, approvals, decisionRecords] at same)
  have readsBefore : Reads store service proposalId now proposal := by
    obtain ⟨stored, found, decoded⟩ := reads
    exact ⟨stored, row.symm.trans found, decoded⟩
  exact sound proposal now cast readsBefore approved (sameVotes ▸ beforeRecordings)

/-- A vote keeps the status sound when its verdict on an approved proposal is not pending. -/
theorem Sound.voted (readable : Readable store service) {vote : Vote} {clock : VoteClock}
    {next : State} {cast : List Vote}
    (admits : Admits store service vote governancePolicy clock proposal)
    (written : store.put service.persistence votes vote.voteId vote.asDict = .ok next)
    (recordings : Recordings store (service.withVote next proposal vote) cast)
    (evaluated : evaluate quotients proposal (votesOn proposal.tenantId proposal.proposalId cast)
      policy governancePolicy clock.evaluatedAt clock.reviewedAt = .ok result)
    (decisive : proposal.status = "approved" → result.status ≠ "pending")
    (wrote : Wrote store service.persistence [.putVote vote, .putProposal (proposal.withStatus
      (outcomeStatus proposal result) none clock.updatedAt)] after.persistence) :
    Sound store quotients policy governancePolicy vote.proposalId after := by
  intro read now other reads approved otherRecordings
  have keyed := admits.reads.proposalId readable
  have same : read.Same (proposal.withStatus (outcomeStatus proposal result) none
      clock.updatedAt) := by
    rw [← keyed] at reads
    exact reads_last lawful [.putVote vote] wrote reads
  have status : outcomeStatus proposal result = "approved" := same.status.symm.trans approved
  have approves : result.status = "approved" := by
    by_cases stored : proposal.status = "approved"
    · exact approved_of_outcome (evaluate_status evaluated) (decisive stored) status
    · exact outcomeStatus_approved stored status
  have sameVotes : cast = other := by
    apply recordings.unique otherRecordings
    intro recorded
    obtain ⟨middle, first, final, second, last⟩ := wrote
    have sameState : next = middle := Except.ok.inj (written.symm.trans first)
    subst sameState
    exact recorded_putOther_iff lawful (service.withVote next proposal vote) after
      (second.trans (congrArg Except.ok last.symm)) (show votes ≠ proposals by decide) recorded
  exact ⟨proposal, clock.evaluatedAt, clock.reviewedAt, result, same.terms.trans ⟨rfl, rfl, rfl⟩,
    same.proposalId, sameVotes ▸ evaluated, approves⟩

/-- A granted approval keeps the status sound when the recorded votes approve. -/
theorem Sound.granted (readable : Readable store service) {now : UtcTime} {proposal updated : Proposal}
    {writes : List Write}
    (endorsed : Endorsed store quotients policy governancePolicy updated.proposalId service now)
    (reads : Reads store service updated.proposalId now proposal) (terms : updated.SameTerms proposal)
    (wrote : Wrote store service.persistence (writes ++ [.putProposal updated]) after.persistence)
    (noVote : ∀ vote, .putVote vote ∉ writes) :
    Sound store quotients policy governancePolicy updated.proposalId after := by
  intro read later cast readsAfter _ recordings
  obtain ⟨votes, votesRecordings⟩ := exists_recordings lawful readable
  obtain ⟨result, evaluated, approved⟩ := (endorsed_iff reads votesRecordings).mp endorsed
  have same := reads_last lawful writes wrote readsAfter
  have sameVotes : votes = cast := by
    apply votesRecordings.unique recordings
    apply wrote.recorded_kept_iff lawful
    intro vote listed
    rcases List.mem_append.mp listed with inside | last
    · exact noVote vote inside
    · simp at last
  rw [sameVotes] at evaluated
  have keyed := reads.proposalId readable
  exact ⟨proposal, now, now, result, same.terms.trans terms, same.proposalId.trans keyed.symm,
    evaluated, approved⟩

/-- A call that keeps the verdict keeps the status sound. -/
theorem CallEffect.sound {operation : GovernanceCall Threshold}
    {answer : Except PyError GovernanceAnswer} {events : List EventAppend}
    (effect : CallEffect store quotients service operation answer writes events)
    (readable : Readable store service) (readableAfter : Readable store after)
    (wrote : Wrote store service.persistence writes after.persistence)
    (onProposal : operation.OnProposal proposalId policy governancePolicy)
    (keeps : KeepsVerdict store quotients policy governancePolicy proposalId service operation)
    (sound : Sound store quotients policy governancePolicy proposalId service) :
    Sound store quotients policy governancePolicy proposalId after := by
  have hasStatus := wrote.hasStatus_iff lawful proposalId "approved"
  cases effect with
  | denied => exact onProposal.elim
  | created => exact onProposal.elim
  | requested => exact onProposal.elim
  | failed | read | blocked => exact sound.kept lawful readable wrote (by simp) (by simp)
  | unannounced | orphaned => exact sound.kept lawful readable wrote (by simp) (by simp)
  | lapsed operation id readAt markedAt proposal answer reads lapses =>
      by_cases sameId : proposalId = proposal.proposalId
      · apply Sound.of_status readableAfter
        rw [hasStatus, Write.status_putProposal]
        simp [Proposal.withStatus, sameId]
      · exact sound.kept lawful readable wrote (by simp) (by simpa [Proposal.withStatus] using sameId)
  | stranded vote castPolicy castGovernance clock proposal next cast error admits written
      recordings evaluated =>
      obtain ⟨rfl, rfl, rfl⟩ := onProposal
      apply Sound.of_status readableAfter
      rw [hasStatus]
      intro has
      have approved := (admits.reads.hasStatus_iff readable "approved").mp has
      obtain ⟨result, returned, _⟩ := keeps proposal cast admits approved
        (votesWith_of_recordings lawful written recordings)
      rw [evaluated] at returned
      cases returned
  | voted vote castPolicy castGovernance clock proposal next cast result answer admits written
      recordings evaluated =>
      obtain ⟨rfl, rfl, rfl⟩ := onProposal
      apply Sound.voted lawful readable admits written recordings evaluated _ wrote
      intro approved
      obtain ⟨other, returned, decisive⟩ := keeps proposal cast admits approved
        (votesWith_of_recordings lawful written recordings)
      rw [evaluated, Except.ok.injEq] at returned
      exact returned ▸ decisive
  | executed id actionPayload requireHuman context proposal record payload reads =>
      by_cases sameId : proposalId = proposal.proposalId
      · apply Sound.of_status readableAfter
        rw [hasStatus]
        show ¬ (Option.or none (if proposalId = proposal.proposalId then _ else _)).elim _ _
        rw [if_pos sameId]
        simp [Proposal.withStatus]
      · exact sound.kept lawful readable wrote (by simp) (by simpa [Proposal.withStatus] using sameId)
  | resolved context approvalId status reason clock approval eventType payload proposal marks
      updated resolvable known reads marked keyed terms decided =>
      by_cases sameId : proposalId = updated.proposalId
      · subst sameId
        by_cases granted : status = "approved"
        · have endorsed := keeps granted approval resolvable keyed.symm
          rw [← keyed] at reads
          rw [List.map_append, ← List.cons_append] at wrote
          exact Sound.granted lawful readable endorsed reads terms wrote (by simp)
        · apply Sound.of_status readableAfter
          rw [hasStatus]
          show ¬ (Write.status updated.proposalId ((marks ++ [updated]).map .putProposal)).elim _ _
          rw [Write.status_map_last, decided]
          exact resolutionStatus_ne granted
      · apply sound.kept lawful readable wrote (by simp)
        intro other listed
        have found : other ∈ marks ∨ other = updated := by simpa using listed
        rcases found with inside | last
        · rw [marked other inside, ← keyed]
          exact sameId
        · rw [last]
          exact sameId

end Steps

section Runs

variable (lawful : store.Lawful) (quotients : Quotients Threshold)
  (policy : ConsensusPolicy Threshold) (governancePolicy : GovernancePolicy)

include lawful

/-- Over every run on the proposal that keeps the verdict the status is sound. -/
theorem run_sound {service : GovernanceService State} (readable : Readable store service)
    {proposalId : String} (calls : List (GovernanceCall Threshold))
    (onProposal : ∀ operation ∈ calls, operation.OnProposal proposalId policy governancePolicy)
    (guarded : Guarded (step store quotients)
      (KeepsVerdict store quotients policy governancePolicy proposalId) service calls)
    (sound : Sound store quotients policy governancePolicy proposalId service) :
    Sound store quotients policy governancePolicy proposalId
      (run (step store quotients) service calls) := by
  have both := (guarded_of_forall (step store quotients) _ service calls onProposal).and guarded
  have kept := run_invariant_of_guarded (step store quotients) _
    (fun service => Readable store service ∧
      Sound store quotients policy governancePolicy proposalId service)
    (fun service operation invariant condition => by
      have readableAfter := (call_keeps lawful quotients operation service invariant.1).1
      obtain ⟨writes, events, effect, wrote, _⟩ :=
        step_explained lawful quotients invariant.1 operation
      exact ⟨readableAfter, effect.sound lawful invariant.1 readableAfter wrote condition.1
        condition.2 invariant.2⟩)
    service calls ⟨readable, sound⟩ both
  exact kept.2

/-- Over every run of votes under fixed policies, resolutions and executions that keeps the verdict,
a proposal that was not approved before is executed only when its recorded votes evaluate to an
approval. -/
theorem execute_endorsed (setup calls : List (GovernanceCall Threshold)) (proposalId : String)
    (unapproved : ¬ HasStatus store (reached store quotients setup) proposalId "approved")
    (onProposal : ∀ operation ∈ calls, operation.OnProposal proposalId policy governancePolicy)
    (guarded : Guarded (step store quotients)
      (KeepsVerdict store quotients policy governancePolicy proposalId)
      (reached store quotients setup) calls)
    (actionPayload : List (String × Json)) (requireHuman : Bool) (context : ExecuteContext)
    (answer : GovernanceAnswer)
    (executed : (step store quotients (reached store quotients (setup ++ calls))
      (.execute proposalId actionPayload requireHuman context)).1 = .ok answer) :
    Endorsed store quotients policy governancePolicy proposalId
      (reached store quotients (setup ++ calls)) context.readAt := by
  have readable := reached_readable lawful quotients setup
  have readableLast := reached_readable lawful quotients (setup ++ calls)
  have sound := run_sound lawful quotients policy governancePolicy readable calls onProposal guarded
    (Sound.of_status readable unapproved)
  have last : reached store quotients (setup ++ calls) =
      run (step store quotients) (reached store quotients setup) calls := run_append _ _ _ _
  rw [← last] at sound
  obtain ⟨proposal, reads, live, approved, _⟩ := execute_ok lawful quotients readableLast executed
  obtain ⟨cast, recordings⟩ := exists_recordings lawful readableLast
  have approves := sound proposal context.readAt cast reads approved recordings
  exact (endorsed_iff reads recordings).mpr (approves.evaluated live)

end Runs

section Example

/-- A pending proposal that asks for one approval. -/
def createOneApproval : GovernanceCall Rat :=
  .createProposal { twoApprovalsProposal with requiredApprovals := 1 } none (fun _ => ⟨true, ""⟩)
    ⟨"approval-1", UtcTime.first, UtcTime.first⟩

/-- One approval approves the proposal, and its execution finds the votes approving. -/
theorem execute_endorsed_oneApproval :
    memoryReturns [createOneApproval, castReview "vote-1" "agent-1" "approve"]
        (executeProposal false) = true ∧
      Endorsed backend exactQuotients majorityPolicy openGovernancePolicy
        "proposal-1" (memoryReached [createOneApproval, castReview "vote-1" "agent-1" "approve"])
        UtcTime.first := by
  have returned : memoryReturns [createOneApproval, castReview "vote-1" "agent-1" "approve"]
      (executeProposal false) = true := by
    decide
  obtain ⟨answer, executed⟩ := eq_ok_of_memoryReturns returned
  refine ⟨returned, ?_⟩
  apply execute_endorsed backend_lawful exactQuotients majorityPolicy
    openGovernancePolicy [createOneApproval] [castReview "vote-1" "agent-1" "approve"] "proposal-1"
    (by decide) _ _ [] false allowedContext answer executed
  · simp [castReview, GovernanceCall.OnProposal, reviewerVote]
  · refine ⟨?_, trivial⟩
    intro proposal cast admits approved
    have readable := reached_readable backend_lawful exactQuotients [createOneApproval]
    have pending : proposal.status = "pending" :=
      (admits.reads.hasStatus_iff readable "pending").mp (by decide)
    exact absurd (pending.symm.trans approved) (by decide)

/-- A rejection after the approval destroys the consensus, and a granted approval replaces it, but
both proposals are executed. -/
theorem execute_unendorsed :
    (memoryReturns [createOneApproval, castReview "vote-1" "agent-1" "approve",
        castReview "vote-2" "agent-2" "reject"] (executeProposal false) = true ∧
      ¬ Endorsed backend exactQuotients majorityPolicy openGovernancePolicy
        "proposal-1" (memoryReached [createOneApproval, castReview "vote-1" "agent-1" "approve",
          castReview "vote-2" "agent-2" "reject"]) UtcTime.first) ∧
    (memoryReturns [createHighRisk, approveRequest] (executeProposal true) = true ∧
      ¬ Endorsed backend exactQuotients majorityPolicy
        trustingGovernancePolicy "proposal-1" (memoryReached [createHighRisk, approveRequest])
        UtcTime.first) := by
  unfold Endorsed
  refine ⟨⟨by decide, by decide⟩, by decide, by decide⟩

end Example

end GovernanceService

end AgentFabric.Governance
