import AgentFabric.Proof.Governance.VoteAtomicity

namespace AgentFabric.Governance
open Persistence Transition Cloud ConsensusEngine GovernanceService Effect

/-- A row that a call writes. -/
inductive Write where
  | putProposal (proposal : Proposal)
  | putVote (vote : Vote)
  | putApproval (approval : HumanApproval)
  | putDecision (proposalId : String) (record : Json)

namespace Write

def collection : Write → String
  | .putProposal _ => proposals
  | .putVote _ => votes
  | .putApproval _ => approvals
  | .putDecision _ _ => decisionRecords

def key : Write → String
  | .putProposal proposal => proposal.proposalId
  | .putVote vote => vote.voteId
  | .putApproval approval => approval.approvalId
  | .putDecision proposalId _ => proposalId

def document : Write → Json
  | .putProposal proposal => proposal.asDict
  | .putVote vote => vote.asDict
  | .putApproval approval => approval.asDict
  | .putDecision _ record => record

/-- The status that the last of the writes gives to a proposal. -/
def status (proposalId : String) : List Write → Option String
  | [] => none
  | .putProposal proposal :: rest =>
      (status proposalId rest).or
        (if proposalId = proposal.proposalId then some proposal.status else none)
  | _ :: rest => status proposalId rest

/-- Proposals with other ids give no status. -/
theorem status_map_of_ne {proposalId : String} {written : List Proposal}
    (different : ∀ proposal ∈ written, proposalId ≠ proposal.proposalId) :
    status proposalId (written.map .putProposal) = none := by
  induction written with
  | nil => rfl
  | cons proposal rest ih =>
      show (status proposalId (rest.map .putProposal)).or _ = none
      rw [ih fun other listed => different other (List.mem_cons_of_mem _ listed),
        if_neg (different proposal (.head _))]
      rfl

/-- The last proposal gives its id the status. -/
theorem status_map_last (written : List Proposal) (last : Proposal) :
    status last.proposalId ((written ++ [last]).map .putProposal) = some last.status := by
  induction written with
  | nil =>
      show Option.or none (if last.proposalId = last.proposalId then _ else _) = _
      rw [if_pos rfl]
      rfl
  | cons proposal rest ih =>
      show (status last.proposalId ((rest ++ [last]).map .putProposal)).or _ = _
      rw [ih]
      rfl

/-- One proposal gives its own id the status and no other. -/
theorem status_putProposal (proposalId : String) (proposal : Proposal) :
    status proposalId [.putProposal proposal] =
      if proposalId = proposal.proposalId then some proposal.status else none := rfl

end Write

namespace GovernanceService

variable {State Threshold : Type} {store : PersistenceStore State}

/-- The writes lead from one content of the store to the next. -/
def Wrote (store : PersistenceStore State) : State → List Write → State → Prop
  | before, [], after => after = before
  | before, write :: rest, after => ∃ next,
      store.put before write.collection write.key write.document = .ok next ∧
      Wrote store next rest after

/-- The approval is stored under its id. -/
def Requested (store : PersistenceStore State) (service : GovernanceService State)
    (approval : HumanApproval) : Prop :=
  ∃ row, store.get service.persistence approvals approval.approvalId = some row ∧
    row.Same approval.asDict

/-- The number of events of a kind for a proposal. -/
def announced (eventType proposalId : String) (service : GovernanceService State) : Nat :=
  service.events.countP fun event =>
    event.eventType = eventType ∧ event.aggregateId = proposalId

section Writes

theorem Requested.unique {service : GovernanceService State} {first second : HumanApproval}
    (one : Requested store service first) (two : Requested store service second)
    (same : first.approvalId = second.approvalId) : first = second := by
  obtain ⟨row, found, equal⟩ := one
  obtain ⟨other, otherFound, otherEqual⟩ := two
  rw [same, otherFound, Option.some.injEq] at found
  subst found
  have read := HumanApproval.fromDict_of_same UtcTime.first first other equal
  rw [HumanApproval.fromDict_of_same UtcTime.first second other otherEqual,
    Option.some.injEq] at read
  exact read.symm

variable (lawful : store.Lawful)

include lawful

variable {writes : List Write} {service after : GovernanceService State}

section

variable (wrote : Wrote store service.persistence writes after.persistence)
include wrote

/-- After the writes a proposal has the status that they gave to it last, or its old one. -/
theorem Wrote.hasStatus_iff (proposalId status : String) :
    HasStatus store after proposalId status ↔
      (Write.status proposalId writes).elim (HasStatus store service proposalId status)
        (· = status) := by
  induction writes generalizing service with
  | nil =>
      unfold HasStatus
      rw [show after.persistence = service.persistence from wrote]
      rfl
  | cons write rest ih =>
      obtain ⟨next, written, later⟩ := wrote
      have tail := @ih ⟨next, []⟩ later
      cases write with
      | putProposal proposal =>
          have head := hasStatus_put_iff lawful service ⟨next, []⟩ proposal written proposalId status
          rw [tail]
          show _ ↔ ((Write.status proposalId rest).or _).elim _ _
          cases Write.status proposalId rest with
          | some _ => exact Iff.rfl
          | none =>
              rw [Option.none_or]
              refine head.trans ?_
              split <;> exact Iff.rfl
      | putVote _ | putApproval _ | putDecision _ _ =>
          have head := hasStatus_putOther_iff lawful service ⟨next, []⟩ written
            (by simp [Write.collection, proposals, votes, approvals, decisionRecords])
            proposalId status
          rw [tail, head]
          exact Iff.rfl

/-- A recorded vote was written or recorded before. -/
theorem Wrote.recorded {vote : Vote} (recorded : Recorded store after vote) :
    .putVote vote ∈ writes ∨ Recorded store service vote := by
  induction writes generalizing service with
  | nil =>
      unfold Recorded at recorded
      rw [show after.persistence = service.persistence from wrote] at recorded
      exact .inr recorded
  | cons write rest ih =>
      obtain ⟨next, written, later⟩ := wrote
      rcases @ih ⟨next, []⟩ later with listed | before
      · exact .inl (.tail _ listed)
      · cases write with
        | putVote other =>
            rcases (recorded_putVote_iff lawful service ⟨next, []⟩ written vote).mp before with
              same | ⟨_, earlier⟩
            · exact .inl (same ▸ List.mem_cons_self)
            · exact .inr earlier
        | putProposal _ | putApproval _ | putDecision _ _ =>
            exact .inr ((recorded_putOther_iff lawful service ⟨next, []⟩ written
              (by simp [Write.collection, proposals, votes, approvals, decisionRecords])
              vote).mp before)

end

/-- A row outside the writes stays as it was. -/
theorem Wrote.get_of_ne {before after : State}
    (wrote : Wrote store before writes after) (collection key : String)
    (different : ∀ write ∈ writes, (collection, key) ≠ (write.collection, write.key)) :
    store.get after collection key = store.get before collection key := by
  induction writes generalizing before with
  | nil => rw [show after = before from wrote]
  | cons write rest ih =>
      obtain ⟨next, written, later⟩ := wrote
      rw [ih later fun other listed => different other (List.mem_cons_of_mem _ listed)]
      exact lawful.get_put_of_ne _ _ _ _ _ _ _ written (different write (.head _))

omit lawful in
theorem wrote_append {first second : List Write} {before after : State} :
    Wrote store before (first ++ second) after ↔
      ∃ middle, Wrote store before first middle ∧ Wrote store middle second after := by
  induction first generalizing before with
  | nil =>
      constructor
      · exact fun wrote => ⟨before, rfl, wrote⟩
      · rintro ⟨_, rfl, wrote⟩
        exact wrote
  | cons write rest ih =>
      constructor
      · rintro ⟨next, written, later⟩
        obtain ⟨middle, one, two⟩ := ih.mp later
        exact ⟨middle, ⟨next, written, one⟩, two⟩
      · rintro ⟨middle, ⟨next, written, one⟩, two⟩
        exact ⟨next, written, ih.mpr ⟨middle, one, two⟩⟩

/-- The proposal that was written last is read. -/
theorem reads_last (writes : List Write) {before : State} {after : GovernanceService State}
    {updated : Proposal}
    (wrote : Wrote store before (writes ++ [.putProposal updated]) after.persistence)
    {now : UtcTime} {proposal : Proposal}
    (reads : Reads store after updated.proposalId now proposal) : proposal.Same updated := by
  obtain ⟨middle, _, next, written, same⟩ := wrote_append.mp wrote
  obtain ⟨row, found, decoded⟩ := reads
  obtain ⟨read, present, equal⟩ := lawful.get_put_self _ _ _ _ _ written
  obtain ⟨other, otherDecoded, otherSame⟩ := updated.fromDict_of_same now read equal
  rw [show after.persistence = next from same] at found
  have rows : some row = some read := found.symm.trans present
  rw [Option.some.inj rows, otherDecoded, Option.some.injEq] at decoded
  exact decoded ▸ otherSame

/-- Writes without a vote leave the recorded votes. -/
theorem Wrote.recorded_kept_iff (wrote : Wrote store service.persistence writes after.persistence)
    (none : ∀ vote, .putVote vote ∉ writes) (vote : Vote) :
    Recorded store after vote ↔ Recorded store service vote := by
  unfold Recorded
  rw [wrote.get_of_ne lawful votes vote.voteId]
  intro write listed same
  cases write with
  | putVote other => exact none other listed
  | putProposal _ | putApproval _ | putDecision _ _ =>
      simp [Write.collection, proposals, votes, approvals, decisionRecords] at same

variable {approval : HumanApproval}

section

variable (wrote : Wrote store service.persistence writes after.persistence)
include wrote

/-- A stored approval was written or stored before. -/
theorem Wrote.requested (requested : Requested store after approval) :
    .putApproval approval ∈ writes ∨ Requested store service approval := by
  induction writes generalizing service with
  | nil =>
      unfold Requested at requested
      rw [show after.persistence = service.persistence from wrote] at requested
      exact .inr requested
  | cons write rest ih =>
      obtain ⟨next, written, later⟩ := wrote
      rcases @ih ⟨next, []⟩ later with listed | before
      · exact .inl (.tail _ listed)
      by_cases same : (approvals, approval.approvalId) = (write.collection, write.key)
      · cases write with
        | putApproval other =>
            have sameId : approval.approvalId = other.approvalId := (Prod.mk.inj same).2
            obtain ⟨read, present, equal⟩ := lawful.get_put_self _ _ _ _ _ written
            have stored : Requested store (⟨next, []⟩ : GovernanceService State) other :=
              ⟨read, present, equal⟩
            exact .inl (before.unique stored sameId ▸ List.mem_cons_self)
        | putProposal _ | putVote _ | putDecision _ _ =>
            simp [Write.collection, proposals, votes, approvals, decisionRecords] at same
      · right
        unfold Requested at before ⊢
        rwa [lawful.get_put_of_ne _ _ _ _ _ _ _ written same] at before

/-- An approval is kept by writes that contain no other approval of its id. -/
theorem Requested.kept (requested : Requested store service approval)
    (different : ∀ other, .putApproval other ∈ writes → approval.approvalId ≠ other.approvalId) :
    Requested store after approval := by
  unfold Requested
  rw [wrote.get_of_ne lawful approvals approval.approvalId]
  · exact requested
  · intro write listed same
    cases write with
    | putApproval other => exact different other listed (Prod.mk.inj same).2
    | putProposal _ | putVote _ | putDecision _ _ =>
        simp [Write.collection, proposals, votes, approvals, decisionRecords] at same

end

end Writes

section Effects

/-- An open approval that the route of a tenant may resolve. -/
structure Resolvable (store : PersistenceStore State) (service : GovernanceService State)
    (context : TenantContext) (approvalId : String) (readAt : UtcTime) (approval : HumanApproval) :
    Prop where
  requested : Requested store service approval
  keyed : approval.approvalId = approvalId
  tenant : ¬ (approval.tenantId ≠ context.tenantId ∧ context.isGlobalAdmin = false)
  notExpired : approval.isExpired readAt = .ok false
  unresolved : approval.status ∈ ["pending", "escalated"]

/-- The approval after its resolution. -/
def resolution (approval : HumanApproval) (status reason : String) (resolvedAt : UtcTime) :
    HumanApproval :=
  { approval with status, reason, resolvedAt := some resolvedAt.toDateTime }

/-- The status that a resolution gives to the proposal. -/
def resolutionStatus (status : String) : String :=
  if status = "approved" then "approved" else if status = "rejected" then "rejected" else "escalated"

/-- The proposal that a call reads first, with its clock readings. -/
def reading : GovernanceCall Threshold → Option (String × UtcTime × UtcTime)
  | .getProposal proposalId readAt markedAt => some (proposalId, readAt, markedAt)
  | .castVote vote _ _ clock => some (vote.proposalId, clock.readAt, clock.markedAt)
  | .execute proposalId _ _ context => some (proposalId, context.readAt, context.markedAt)
  | _ => none

/-- The answer, the writes and the events of a call with the conditions that lead to them. -/
inductive CallEffect (store : PersistenceStore State) (quotients : Quotients Threshold)
    (service : GovernanceService State) :
    GovernanceCall Threshold → Except PyError GovernanceAnswer → List Write → List EventAppend →
      Prop where
  | failed (operation : GovernanceCall Threshold) (error : PyError) :
      CallEffect store quotients service operation (.error error) [] []
  | denied (proposal : Proposal) (assignedReviewer : Option String)
      (checkPolicy : PolicyCheckRequest → PolicyCheckResponse) (draw : ApprovalDraw)
      (error : PyError) (payload : Json) :
      CallEffect store quotients service
        (.createProposal proposal assignedReviewer checkPolicy draw) (.error error) []
        [⟨"governance.action.blocked", proposal.proposalId, payload⟩]
  | created (proposal : Proposal) (assignedReviewer : Option String)
      (checkPolicy : PolicyCheckRequest → PolicyCheckResponse) (draw : ApprovalDraw) :
      CallEffect store quotients service
        (.createProposal proposal assignedReviewer checkPolicy draw) (.ok (.proposal proposal))
        [.putProposal proposal]
        [⟨"governance.proposal.created", proposal.proposalId, proposal.asDict⟩]
  | requested (proposal : Proposal) (assignedReviewer : Option String)
      (checkPolicy : PolicyCheckRequest → PolicyCheckResponse) (draw : ApprovalDraw)
      (approval : HumanApproval) (drawn : approval.approvalId = draw.approvalId)
      (pending : approval.status = "pending") :
      CallEffect store quotients service
        (.createProposal proposal assignedReviewer checkPolicy draw) (.ok (.proposal proposal))
        [.putProposal proposal, .putApproval approval]
        [⟨"governance.proposal.created", proposal.proposalId, proposal.asDict⟩,
          ⟨"governance.human_approval.requested", approval.approvalId, approval.asDict⟩]
  | read (proposalId : String) (readAt markedAt : UtcTime) (proposal : Proposal) :
      CallEffect store quotients service (.getProposal proposalId readAt markedAt)
        (.ok (.proposal proposal)) [] []
  | lapsed (operation : GovernanceCall Threshold) (proposalId : String) (readAt markedAt : UtcTime)
      (proposal : Proposal) (answer : Except PyError GovernanceAnswer)
      (reads : reading operation = some (proposalId, readAt, markedAt))
      (lapses : Lapses store service proposalId readAt proposal)
      (answered : ∀ value, answer = .ok value → operation = .getProposal proposalId readAt markedAt) :
      CallEffect store quotients service operation answer
        [.putProposal (proposal.withStatus "expired" none markedAt)] []
  | stranded (vote : Vote) (policy : ConsensusPolicy Threshold)
      (governancePolicy : GovernancePolicy) (clock : VoteClock) (proposal : Proposal)
      (next : State) (cast : List Vote) (error : PyError)
      (admits : Admits store service vote governancePolicy clock proposal)
      (written : store.put service.persistence votes vote.voteId vote.asDict = .ok next)
      (recordings : Recordings store (service.withVote next proposal vote) cast)
      (evaluated : evaluate quotients proposal
        (votesOn proposal.tenantId proposal.proposalId cast) policy governancePolicy
        clock.evaluatedAt clock.reviewedAt = .error error) :
      CallEffect store quotients service (.castVote vote policy governancePolicy clock)
        (.error error) [.putVote vote]
        [⟨"governance.vote.cast", proposal.proposalId, vote.asDict⟩]
  | voted (vote : Vote) (policy : ConsensusPolicy Threshold)
      (governancePolicy : GovernancePolicy) (clock : VoteClock) (proposal : Proposal)
      (next : State) (cast : List Vote) (result : ConsensusResult) (answer : GovernanceAnswer)
      (admits : Admits store service vote governancePolicy clock proposal)
      (written : store.put service.persistence votes vote.voteId vote.asDict = .ok next)
      (recordings : Recordings store (service.withVote next proposal vote) cast)
      (evaluated : evaluate quotients proposal
        (votesOn proposal.tenantId proposal.proposalId cast) policy governancePolicy
        clock.evaluatedAt clock.reviewedAt = .ok result) :
      CallEffect store quotients service (.castVote vote policy governancePolicy clock) (.ok answer)
        [.putVote vote,
          .putProposal (proposal.withStatus (outcomeStatus proposal result) none clock.updatedAt)]
        (⟨"governance.vote.cast", proposal.proposalId, vote.asDict⟩ ::
          outcomeEvents proposal result)
  | blocked (proposalId : String) (actionPayload : List (String × Json)) (requireHuman : Bool)
      (context : ExecuteContext) (error : PyError) (aggregateId : String) (payload : Json) :
      CallEffect store quotients service (.execute proposalId actionPayload requireHuman context)
        (.error error) [] [⟨"governance.action.blocked", aggregateId, payload⟩]
  | executed (proposalId : String) (actionPayload : List (String × Json)) (requireHuman : Bool)
      (context : ExecuteContext) (proposal : Proposal) (record payload : Json)
      (reads : Reads store service proposalId context.readAt proposal)
      (notExpired : proposal.isExpired context.readAt = .ok false)
      (approved : proposal.status = "approved")
      (human : requireHuman = true → ∃ approval, Requested store service approval ∧
        approval.tenantId = proposal.tenantId ∧ approval.proposalId = proposalId ∧
        approval.status = "approved") :
      CallEffect store quotients service (.execute proposalId actionPayload requireHuman context)
        (.ok (.decision record))
        [.putProposal (proposal.withStatus "executed" (some actionPayload) context.updatedAt),
          .putDecision proposalId record]
        [⟨"governance.action.executed", proposalId, payload⟩]
  | unannounced (context : TenantContext) (approvalId status reason : String) (clock : VoteClock)
      (approval : HumanApproval) (error : PyError)
      (resolvable : Resolvable store service context approvalId clock.readAt approval)
      (unknown : resolutionEvent status = .error error) :
      CallEffect store quotients service
        (.resolveApproval context approvalId status reason clock) (.error error)
        [.putApproval (resolution approval status reason clock.markedAt)] []
  | orphaned (context : TenantContext) (approvalId status reason : String) (clock : VoteClock)
      (approval : HumanApproval) (eventType : String) (error : PyError) (payload : Json)
      (resolvable : Resolvable store service context approvalId clock.readAt approval)
      (known : resolutionEvent status = .ok eventType) :
      CallEffect store quotients service
        (.resolveApproval context approvalId status reason clock) (.error error)
        [.putApproval (resolution approval status reason clock.markedAt)]
        [⟨eventType, approval.proposalId, payload⟩]
  | resolved (context : TenantContext) (approvalId status reason : String) (clock : VoteClock)
      (approval : HumanApproval) (eventType : String) (payload : Json) (proposal : Proposal)
      (marks : List Proposal) (updated : Proposal)
      (resolvable : Resolvable store service context approvalId clock.readAt approval)
      (known : resolutionEvent status = .ok eventType)
      (reads : Reads store service approval.proposalId clock.evaluatedAt proposal)
      (marked : ∀ mark ∈ marks, mark.proposalId = approval.proposalId)
      (keyed : updated.proposalId = approval.proposalId) (terms : updated.SameTerms proposal)
      (decided : updated.status = resolutionStatus status) :
      CallEffect store quotients service (.resolveApproval context approvalId status reason clock)
        (.ok (.approval (resolution approval status reason clock.markedAt)))
        (.putApproval (resolution approval status reason clock.markedAt) ::
          (marks ++ [updated]).map .putProposal)
        [⟨eventType, approval.proposalId, payload⟩]

/-- The payload that announces an execution. -/
def executionPayload (proposal : Proposal) : Json := .obj [
  ("tenant_id", .str proposal.tenantId),
  ("proposal_id", .str proposal.proposalId),
  ("action_type", .str proposal.actionType)]

/-- The outcome of a call is one of its effects. -/
def Explains (store : PersistenceStore State) (quotients : Quotients Threshold)
    (service : GovernanceService State) (operation : GovernanceCall Threshold)
    (outcome : Except PyError GovernanceAnswer × GovernanceService State) : Prop :=
  ∃ writes events, CallEffect store quotients service operation outcome.1 writes events ∧
    Wrote store service.persistence writes outcome.2.persistence ∧
    outcome.2.events = service.events ++ events

theorem Explains.failed (quotients : Quotients Threshold) (service : GovernanceService State)
    (operation : GovernanceCall Threshold) (error : PyError) :
    Explains store quotients service operation (.error error, service) :=
  ⟨[], [], .failed operation error, rfl, (List.append_nil _).symm⟩

variable {service : GovernanceService State} {proposalId : String} {proposal : Proposal}
  {next : State}

theorem Explains.lapsed (quotients : Quotients Threshold)
    (readable : Readable store service) {operation : GovernanceCall Threshold}
    {readAt markedAt : UtcTime}
    {answer : Except PyError GovernanceAnswer}
    (reads : reading operation = some (proposalId, readAt, markedAt))
    (lapses : Lapses store service proposalId readAt proposal)
    (written : store.put service.persistence proposals proposalId
      (proposal.withStatus "expired" none markedAt).asDict = .ok next)
    (answered : ∀ value, answer = .ok value → operation = .getProposal proposalId readAt markedAt) :
    Explains store quotients service operation (answer, { service with persistence := next }) := by
  have keyed := lapses.reads.proposalId readable
  subst keyed
  exact ⟨_, [], .lapsed operation _ readAt markedAt proposal answer reads lapses answered,
    ⟨next, written, rfl⟩, (List.append_nil _).symm⟩

variable (lawful : store.Lawful) (quotients : Quotients Threshold)

include lawful

theorem getProposal_explained (readable : Readable store service) (proposalId : String)
    (readAt markedAt : UtcTime) :
    Explains store quotients service (.getProposal proposalId readAt markedAt)
      (step store quotients service (.getProposal proposalId readAt markedAt)) := by
  unfold step call
  rcases getProposal_cases lawful readable proposalId readAt markedAt with
    ⟨error, failed, _⟩ | ⟨proposal, expired, reads, _, _, returned⟩ |
      ⟨proposal, next, lapses, written, returned⟩
  · rw [perform_bind_error failed]
    exact .failed quotients service _ error
  · rw [perform_bind_ok returned]
    exact ⟨[], [], .read proposalId readAt markedAt proposal, rfl, (List.append_nil _).symm⟩
  · rw [perform_bind_ok returned]
    exact .lapsed quotients readable rfl lapses written (fun _ _ => rfl)

theorem createProposal_explained (service : GovernanceService State) (proposal : Proposal)
    (assignedReviewer : Option String) (checkPolicy : PolicyCheckRequest → PolicyCheckResponse)
    (draw : ApprovalDraw) :
    Explains store quotients service (.createProposal proposal assignedReviewer checkPolicy draw)
      (step store quotients service
        (.createProposal proposal assignedReviewer checkPolicy draw)) := by
  unfold step call createProposal
  dsimp only
  split
  · exact ⟨[], _, .denied proposal assignedReviewer checkPolicy draw _ _, rfl, rfl⟩
  · obtain ⟨next, written, performed⟩ := perform_put lawful service proposals proposal.proposalId
      proposal.asDict
    rw [bind_assoc, perform_bind_ok performed, bind_assoc, perform_bind_ok (perform_append _ _ _ _)]
    split
    · obtain ⟨approval, final, drawn, pending, requested, returned⟩ := perform_requestApproval lawful
        ⟨next, service.events ++
          [⟨"governance.proposal.created", proposal.proposalId, proposal.asDict⟩]⟩ proposal
        ((assignedReviewer.filter fun reviewer => reviewer ≠ "").getD proposal.createdBy) draw
      rw [bind_assoc, perform_bind_ok returned]
      refine ⟨_, _, .requested proposal assignedReviewer checkPolicy draw approval drawn pending,
        ⟨next, written, final, requested, rfl⟩, ?_⟩
      show service.events ++ [_] ++ [_] = service.events ++ [_, _]
      rw [List.append_assoc]
      rfl
    · exact ⟨_, _, .created proposal assignedReviewer checkPolicy draw, ⟨next, written, rfl⟩, rfl⟩

section

variable (readable : Readable store service)
include readable

theorem castVote_explained (vote : Vote) (policy : ConsensusPolicy Threshold)
    (governancePolicy : GovernancePolicy) (clock : VoteClock) :
    Explains store quotients service (.castVote vote policy governancePolicy clock)
      (step store quotients service (.castVote vote policy governancePolicy clock)) := by
  unfold step call
  rcases castVote_cases quotients lawful readable vote policy governancePolicy clock with
    ⟨error, failed, _⟩ | ⟨proposal, next, lapses, written, failed⟩ |
      ⟨proposal, admits, recorded⟩
  · rw [perform_bind_error failed]
    exact .failed quotients service _ error
  · rw [perform_bind_error failed]
    exact .lapsed quotients readable rfl lapses written (fun _ => by simp)
  · obtain ⟨next, cast, written, _, recordings, outcome⟩ :=
      recordVote_cases quotients lawful readable proposal vote policy governancePolicy clock
    rcases outcome with ⟨error, evaluated, failed⟩ | ⟨result, final, evaluated, stored, returned⟩
    · rw [perform_bind_error (recorded.trans failed)]
      exact ⟨_, _, .stranded vote policy governancePolicy clock proposal next cast error admits
        written recordings evaluated, ⟨next, written, rfl⟩, rfl⟩
    · rw [perform_bind_ok (recorded.trans returned)]
      refine ⟨_, _, .voted vote policy governancePolicy clock proposal next cast result _ admits
        written recordings evaluated, ⟨next, written, final, stored, rfl⟩, ?_⟩
      show service.events ++ [_] ++ _ = _
      rw [List.append_assoc]
      rfl

/-- The approvals of a tenant are read from the stored ones. -/
theorem perform_listApprovals (tenantId : String) (now : UtcTime) :
    ∃ found, (listApprovals store tenantId now).perform service = (.ok found, service) ∧
      ∀ approval ∈ found, Requested store service approval ∧ approval.tenantId = tenantId := by
  obtain ⟨rows, list, _, exact⟩ := lawful.list_rows service.persistence approvals
  have held : ∀ row ∈ store.listTenant service.persistence approvals tenantId,
      ∃ approval, row.Same (HumanApproval.asDict approval) ∧
        Requested store service approval ∧ approval.tenantId = tenantId := by
    intro row listed
    obtain ⟨inside, tenant⟩ := List.mem_filter.mp listed
    rw [list] at inside
    obtain ⟨entry, entryInside, rfl⟩ := List.mem_map.mp inside
    have present := (exact entry).mp entryInside
    obtain ⟨approval, keyed, same⟩ := readable.approvals entry.1 entry.2 present
    refine ⟨approval, same, ⟨entry.2, keyed ▸ present, same⟩, ?_⟩
    rw [hasText_of_same same (show Json.textField approval.asDict "tenant_id" none = _ from rfl)]
      at tenant
    exact of_decide_eq_true tenant
  obtain ⟨found, related⟩ := Aligned.exists_forall₂ held
  obtain ⟨read, decoded, equal⟩ := Aligned.mapM_forall₂ (HumanApproval.fromDict now) Eq
    (fun row approval facts => ⟨approval, approval.fromDict_of_same now row facts.1, rfl⟩) related
  rw [List.forall₂_eq_eq_eq] at equal
  subst equal
  refine ⟨read, ?_, ?_⟩
  · unfold listApprovals
    rw [perform_bind_ok (perform_get service), decoded]
    rfl
  · intro approval listed
    obtain ⟨_, _, _, facts⟩ := Aligned.exists_related related approval listed
    exact facts

/-- The rows stay readable when a proposal is stored. -/
theorem readable_putProposal
    (written : store.put service.persistence proposals proposal.proposalId proposal.asDict =
      .ok next) (events : List EventAppend) :
    Readable store (⟨next, events⟩ : GovernanceService State) where
  proposals := readable.proposals.put lawful written fun _ => ⟨proposal, rfl, rfl⟩
  votes := readable.votes.put lawful written fun same => absurd same (by decide)
  approvals := readable.approvals.put lawful written fun same => absurd same (by decide)

end

variable {approval : HumanApproval}

section

variable (readable : Readable store service)
include readable

theorem readable_putApproval
    (written : store.put service.persistence approvals approval.approvalId approval.asDict =
      .ok next) (events : List EventAppend) :
    Readable store (⟨next, events⟩ : GovernanceService State) where
  proposals := readable.proposals.put lawful written fun same => absurd same (by decide)
  votes := readable.votes.put lawful written fun same => absurd same (by decide)
  approvals := readable.approvals.put lawful written fun _ => ⟨approval, rfl, rfl⟩

/-- An execution announces the action, marks its proposal and stores the decision. -/
theorem perform_recordExecution (proposal : Proposal)
    (actionPayload : List (String × Json)) (context : ExecuteContext) :
    ∃ record after,
      (recordExecution store proposal actionPayload context).perform service = (.ok record, after) ∧
      Wrote store service.persistence
        [.putProposal (proposal.withStatus "executed" (some actionPayload) context.updatedAt),
          .putDecision proposal.proposalId record] after.persistence ∧
      after.events = service.events ++
        [⟨"governance.action.executed", proposal.proposalId, executionPayload proposal⟩] := by
  unfold recordExecution
  rw [perform_bind_ok (perform_append _ _ _ _)]
  extract_lets executed
  let events := service.events ++
    [⟨"governance.action.executed", proposal.proposalId, executionPayload proposal⟩]
  change ∃ record after, (put store proposals executed.proposalId executed.asDict >>= _).perform
    ⟨service.persistence, events⟩ = (.ok record, after) ∧ _
  obtain ⟨next, written, performed⟩ := perform_put lawful ⟨service.persistence, events⟩ proposals
    executed.proposalId executed.asDict
  have readableNext : Readable store ⟨next, events⟩ := readable_putProposal lawful readable written events
  rw [perform_bind_ok performed]
  obtain ⟨cast, recordings⟩ := exists_recordings lawful readableNext
  rw [perform_bind_ok (perform_votesFor recordings _ _ _)]
  obtain ⟨found, listed, _⟩ := perform_listApprovals lawful readableNext proposal.tenantId
    context.readAt
  rw [perform_bind_ok listed]
  extract_lets record
  obtain ⟨final, decided, returned⟩ := perform_put lawful ⟨next, events⟩ decisionRecords
    proposal.proposalId record
  exact ⟨record, _, perform_bind_ok returned, ⟨next, written, final, decided, rfl⟩, rfl⟩

/-- The human gate answers without effect, and lets through only with a stored approval. -/
theorem perform_humanApproved (tenantId proposalId : String) (requireHuman : Bool) (now : UtcTime) :
    ∃ approved, (humanApproved store tenantId proposalId requireHuman now).perform service =
        (.ok approved, service) ∧
      (approved = true → requireHuman = true → ∃ approval, Requested store service approval ∧
        approval.tenantId = tenantId ∧ approval.proposalId = proposalId ∧
        approval.status = "approved") := by
  unfold humanApproved
  split
  · obtain ⟨found, listed, stored⟩ := perform_listApprovals lawful readable tenantId now
    refine ⟨_, perform_bind_ok listed, ?_⟩
    intro approved _
    obtain ⟨approval, inside, facts⟩ := List.any_eq_true.mp approved
    have both := of_decide_eq_true facts
    exact ⟨approval, (stored approval inside).1, (stored approval inside).2, both.1, both.2⟩
  · rename_i open_
    exact ⟨true, rfl, fun _ required => absurd required open_⟩

theorem execute_explained (proposalId : String) (actionPayload : List (String × Json))
    (requireHuman : Bool) (context : ExecuteContext) :
    Explains store quotients service (.execute proposalId actionPayload requireHuman context)
      (step store quotients service (.execute proposalId actionPayload requireHuman context)) := by
  change Explains store quotients service _ ((execute store proposalId actionPayload requireHuman
    context >>= fun record => pure (.decision record)).perform service)
  unfold execute
  rcases getProposal_cases lawful readable proposalId context.readAt context.markedAt with
    ⟨error, failed, _⟩ | ⟨proposal, expired, reads, compared, kept, returned⟩ |
      ⟨proposal, next, lapses, written, returned⟩
  · rw [perform_bind_error (perform_bind_error failed)]
    exact .failed quotients service _ error
  · rw [bind_assoc, perform_bind_ok returned]
    have keyed := reads.proposalId readable
    by_cases approved : proposal.status ≠ "approved"
    · rw [if_pos approved]
      exact .failed quotients service _ _
    rw [if_neg approved, bind_assoc]
    rw [not_not] at approved
    obtain ⟨human, answered, found⟩ := perform_humanApproved lawful readable proposal.tenantId
      proposalId requireHuman context.readAt
    rw [perform_bind_ok answered]
    cases human with
    | false => exact .failed quotients service _ _
    | true =>
      rw [if_neg (by simp)]
      extract_lets response
      split
      · exact ⟨[], _, .blocked proposalId actionPayload requireHuman context _ _ _, rfl, rfl⟩
      · obtain ⟨record, after, performed, wrote, events⟩ := perform_recordExecution lawful readable
          proposal actionPayload context
        rw [perform_bind_ok performed]
        have live : expired = false := by
          rw [Bool.eq_false_iff]
          intro isExpired
          exact kept ⟨isExpired, by rw [approved]; decide⟩
        rw [keyed] at wrote events
        exact ⟨_, _, .executed proposalId actionPayload requireHuman context proposal record _ reads
          (live ▸ compared) approved (found rfl), wrote, events⟩
  · rw [bind_assoc, perform_bind_ok returned, if_pos (by simp [Proposal.withStatus])]
    exact .lapsed quotients readable rfl lapses written (fun _ => by simp)

end

omit lawful in
/-- An approval is found by its id exactly when it is stored. -/
theorem getApproval_cases (readable : Readable store service)
    (approvalId : String) (now : UtcTime) :
    (getApproval store approvalId now).perform service = (.ok none, service) ∨
      ∃ approval, Requested store service approval ∧ approval.approvalId = approvalId ∧
        (getApproval store approvalId now).perform service = (.ok (some approval), service) := by
  unfold getApproval
  rw [perform_bind_ok (perform_get service)]
  cases found : store.get service.persistence approvals approvalId with
  | none => exact .inl rfl
  | some row =>
      obtain ⟨approval, keyed, same⟩ := readable.approvals approvalId row found
      dsimp only
      split
      · rw [approval.fromDict_of_same now row same]
        exact .inr ⟨approval, ⟨row, keyed ▸ found, same⟩, keyed, rfl⟩
      · exact .inl rfl

/-- A resolution fails without effect or stores the resolved approval. -/
theorem resolveRecord_cases
    {approvalId : String} {readAt : UtcTime}
    (found : (getApproval store approvalId readAt).perform service = (.ok (some approval), service))
    (status reason : String) (resolvedAt : UtcTime) :
    (∃ error, (resolveRecord store approvalId status reason readAt resolvedAt).perform service =
        (.error error, service)) ∨
      ∃ next, approval.isExpired readAt = .ok false ∧ approval.status ∈ ["pending", "escalated"] ∧
        store.put service.persistence approvals
          (resolution approval status reason resolvedAt).approvalId
          (resolution approval status reason resolvedAt).asDict = .ok next ∧
        (resolveRecord store approvalId status reason readAt resolvedAt).perform service =
          (.ok (resolution approval status reason resolvedAt),
            { service with persistence := next }) := by
  unfold resolveRecord
  rw [perform_bind_ok found]
  cases compared : approval.isExpired readAt with
  | error error =>
      dsimp only
      rw [compared]
      exact .inl ⟨error, rfl⟩
  | ok expired =>
      dsimp only
      rw [compared, perform_bind_ok (perform_ofExcept service _)]
      cases expired with
      | true => exact .inl ⟨_, rfl⟩
      | false =>
          rw [if_neg (by simp)]
          split
          · exact .inl ⟨_, rfl⟩
          · rename_i unresolved
            obtain ⟨next, written, performed⟩ := perform_put lawful service approvals
              (resolution approval status reason resolvedAt).approvalId
              (resolution approval status reason resolvedAt).asDict
            exact .inr ⟨next, rfl, not_not.mp unresolved, written, perform_bind_ok performed⟩

/-- The rows of the proposals decide what is read of them. -/
theorem Reads.of_putApproval {events : List EventAppend}
    (written : store.put service.persistence approvals approval.approvalId approval.asDict =
      .ok next) {now : UtcTime}
    (reads : Reads store (⟨next, events⟩ : GovernanceService State) proposalId now proposal) :
    Reads store service proposalId now proposal := by
  obtain ⟨row, found, decoded⟩ := reads
  have kept := lawful.get_put_of_ne _ _ _ _ _ proposals proposalId written (by
    simp [proposals, approvals])
  exact ⟨row, kept.symm.trans found, decoded⟩

section

variable (readable : Readable store service)
include readable

theorem resolveApproval_explained (context : TenantContext)
    (approvalId status reason : String) (clock : VoteClock) :
    Explains store quotients service (.resolveApproval context approvalId status reason clock)
      (step store quotients service (.resolveApproval context approvalId status reason clock)) := by
  change Explains store quotients service _ ((resolveGovernanceApproval store context approvalId
    status reason clock >>= fun approval => pure (.approval approval)).perform service)
  unfold resolveGovernanceApproval
  rcases getApproval_cases readable approvalId clock.readAt with
    missing | ⟨approval, stored, keyed, found⟩
  · rw [bind_assoc, perform_bind_ok missing]
    exact .failed quotients service _ _
  rw [bind_assoc, perform_bind_ok found]
  dsimp only
  unfold assertTenant
  by_cases foreign : approval.tenantId ≠ context.tenantId ∧ context.isGlobalAdmin = false
  · rw [if_pos foreign]
    exact .failed quotients service _ _
  rw [if_neg foreign, bind_assoc, perform_bind_ok (perform_pure _ service)]
  rcases resolveRecord_cases lawful found status reason clock.markedAt with
    ⟨error, failed⟩ | ⟨next, live, unresolved, written, resolved⟩
  · rw [bind_assoc, perform_bind_error failed]
    exact .failed quotients service _ error
  have resolvable : Resolvable store service context approvalId clock.readAt approval :=
    ⟨stored, keyed, foreign, live, unresolved⟩
  rw [bind_assoc, perform_bind_ok resolved]
  cases known : resolutionEvent status with
  | error error =>
      exact ⟨_, [], .unannounced context approvalId status reason clock approval error resolvable
        known, ⟨next, written, rfl⟩, (List.append_nil _).symm⟩
  | ok eventType =>
      rw [bind_assoc, perform_bind_ok (perform_ofExcept _ _), bind_assoc,
        perform_bind_ok (perform_append _ _ _ _)]
      let events := service.events ++ [⟨eventType, approval.proposalId,
        (resolution approval status reason clock.markedAt).asDict⟩]
      have readableNext : Readable store ⟨next, events⟩ :=
        readable_putApproval lawful readable written events
      rcases getProposal_cases lawful readableNext approval.proposalId clock.evaluatedAt
          clock.reviewedAt with
        ⟨error, failed, _⟩ | ⟨proposal, expired, reads, _, _, returned⟩ |
          ⟨proposal, marked, lapses, marking, returned⟩
      · rw [bind_assoc, perform_bind_error failed]
        exact ⟨_, _, .orphaned context approvalId status reason clock approval eventType error _
          resolvable known, ⟨next, written, rfl⟩, rfl⟩
      · rw [bind_assoc, perform_bind_ok returned]
        let updated := proposal.withStatus (resolutionStatus status) none clock.updatedAt
        obtain ⟨final, updating, performed⟩ := perform_put lawful ⟨next, events⟩ proposals
          updated.proposalId updated.asDict
        rw [bind_assoc]
        change Explains store quotients service _
          ((put store proposals updated.proposalId updated.asDict >>= _).perform ⟨next, events⟩)
        rw [perform_bind_ok performed]
        exact ⟨_, _, .resolved context approvalId status reason clock approval eventType _ proposal
          [] updated resolvable known (reads.of_putApproval lawful written) (by simp)
          (reads.proposalId readableNext) ⟨rfl, rfl, rfl⟩ rfl,
            ⟨next, written, final, updating, rfl⟩, rfl⟩
      · rw [bind_assoc, perform_bind_ok returned]
        have keyed := lapses.reads.proposalId readableNext
        rw [← keyed] at marking
        let mark := proposal.withStatus "expired" none clock.reviewedAt
        let updated := mark.withStatus (resolutionStatus status) none clock.updatedAt
        obtain ⟨final, updating, performed⟩ := perform_put lawful ⟨marked, events⟩ proposals
          updated.proposalId updated.asDict
        rw [bind_assoc]
        change Explains store quotients service _
          ((put store proposals updated.proposalId updated.asDict >>= _).perform ⟨marked, events⟩)
        rw [perform_bind_ok performed]
        exact ⟨_, _, .resolved context approvalId status reason clock approval eventType _ proposal
          [mark] updated resolvable known (lapses.reads.of_putApproval lawful written)
          (by simp [mark, Proposal.withStatus, keyed]) keyed ⟨rfl, rfl, rfl⟩ rfl,
          ⟨next, written, marked, marking, final, updating, rfl⟩, rfl⟩

/-- Every call does what one of its effects says. -/
theorem step_explained (operation : GovernanceCall Threshold) :
    Explains store quotients service operation (step store quotients service operation) := by
  cases operation with
  | createProposal proposal assignedReviewer checkPolicy draw =>
      exact createProposal_explained lawful quotients service proposal assignedReviewer checkPolicy
        draw
  | getProposal proposalId readAt markedAt =>
      exact getProposal_explained lawful quotients readable proposalId readAt markedAt
  | castVote vote policy governancePolicy clock =>
      exact castVote_explained lawful quotients readable vote policy governancePolicy clock
  | execute proposalId actionPayload requireHuman context =>
      exact execute_explained lawful quotients readable proposalId actionPayload requireHuman context
  | resolveApproval context approvalId status reason clock =>
      exact resolveApproval_explained lawful quotients readable context approvalId status reason
        clock

/-- A successful execution finds a live proposal with an approved status, and where a human is
required also a granted approval of it. -/
theorem execute_ok {actionPayload : List (String × Json)} {requireHuman : Bool}
    {context : ExecuteContext} {answer : GovernanceAnswer}
    (executed : (step store quotients service
      (.execute proposalId actionPayload requireHuman context)).1 = .ok answer) :
    ∃ proposal, Reads store service proposalId context.readAt proposal ∧
      proposal.isExpired context.readAt = .ok false ∧ proposal.status = "approved" ∧
      (requireHuman = true → ∃ approval, Requested store service approval ∧
        approval.tenantId = proposal.tenantId ∧ approval.proposalId = proposalId ∧
        approval.status = "approved") := by
  obtain ⟨writes, events, effect, _, _⟩ := step_explained lawful quotients readable
    (.execute proposalId actionPayload requireHuman context)
  rw [executed] at effect
  cases effect with
  | lapsed operation id readAt markedAt other answer reading lapses answered =>
      exact absurd (answered _ rfl) nofun
  | executed _ _ _ _ proposal record payload reads notExpired approved human =>
      exact ⟨proposal, reads, notExpired, approved, human⟩

end

end Effects

end GovernanceService

end AgentFabric.Governance
