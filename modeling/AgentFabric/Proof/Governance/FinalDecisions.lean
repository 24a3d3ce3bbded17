import AgentFabric.Proof.Governance.CallEffects

namespace AgentFabric.Governance
open Persistence Transition Cloud MemoryPersistenceStore

/-- The calls on proposals that exist already. -/
def GovernanceCall.OnExisting {Threshold : Type} : GovernanceCall Threshold → Prop
  | .createProposal _ _ _ _ => False
  | _ => True

namespace GovernanceService

variable {State Threshold : Type} {store : PersistenceStore State}

/-- The statuses of a decided proposal. -/
def closedStatuses : List String := ["executed", "rejected", "expired"]

/-- An approval that can be resolved belongs to a proposal that is neither closed nor past its
expiry. -/
def ResolvesOpen (store : PersistenceStore State) (service : GovernanceService State) :
    GovernanceCall Threshold → Prop
  | .resolveApproval context approvalId _ _ clock => ∀ approval proposal,
      Resolvable store service context approvalId clock.readAt approval →
      Reads store service approval.proposalId clock.evaluatedAt proposal →
        proposal.status ∉ closedStatuses ∧ proposal.isExpired clock.evaluatedAt ≠ .ok true
  | _ => True

/-- The decision on a proposal is as it was: its status, its votes and its announcements. -/
structure Settled (store : PersistenceStore State) (proposalId status : String)
    (before after : GovernanceService State) : Prop where
  status : HasStatus store after proposalId status
  votes : ∀ vote, vote.proposalId = proposalId → Recorded store after vote →
    Recorded store before vote
  cast : announced "governance.vote.cast" proposalId after =
    announced "governance.vote.cast" proposalId before
  executed : announced "governance.action.executed" proposalId after =
    announced "governance.action.executed" proposalId before

/-- Writes and events that leave the decision on a proposal. -/
structure Leaves (proposalId status : String) (writes : List Write) (events : List EventAppend) :
    Prop where
  status : ∀ written, Write.status proposalId writes = some written → written = status
  votes : ∀ vote, .putVote vote ∈ writes → vote.proposalId ≠ proposalId
  events : ∀ event ∈ events,
    event.eventType ∈ ["governance.vote.cast", "governance.action.executed"] →
      event.aggregateId ≠ proposalId

section Steps

variable {proposalId status : String} {eventType : String}

theorem announced_append {service after : GovernanceService State}
    {events : List EventAppend} (logged : after.events = service.events ++ events) :
    announced eventType proposalId after = announced eventType proposalId service +
      events.countP fun event => event.eventType = eventType ∧ event.aggregateId = proposalId := by
  unfold announced
  rw [logged, List.countP_append]

theorem Leaves.announced {writes : List Write} {events : List EventAppend}
    (leaves : Leaves proposalId status writes events)
    (kind : eventType ∈ ["governance.vote.cast", "governance.action.executed"])
    {service after : GovernanceService State} (logged : after.events = service.events ++ events) :
    announced eventType proposalId after = announced eventType proposalId service := by
  rw [announced_append logged, List.countP_eq_zero.mpr, Nat.add_zero]
  intro event listed counted
  obtain ⟨same, aggregate⟩ := of_decide_eq_true counted
  exact leaves.events event listed (same ▸ kind) aggregate

/-- What the writes and the events leave is left by the call. -/
theorem Leaves.settled (lawful : store.Lawful) {writes : List Write} {events : List EventAppend}
    (leaves : Leaves proposalId status writes events) {service after : GovernanceService State}
    (has : HasStatus store service proposalId status)
    (wrote : Wrote store service.persistence writes after.persistence)
    (logged : after.events = service.events ++ events) :
    Settled store proposalId status service after where
  status := by
    rw [wrote.hasStatus_iff lawful]
    cases written : Write.status proposalId writes with
    | none => exact has
    | some other => exact leaves.status other written
  votes := by
    intro vote sameId recorded
    rcases wrote.recorded lawful recorded with listed | before
    · exact absurd sameId (leaves.votes vote listed)
    · exact before
  cast := leaves.announced (by decide) logged
  executed := leaves.announced (by decide) logged

theorem Leaves.nothing (proposalId status : String) : Leaves proposalId status [] [] :=
  ⟨nofun, nofun, nofun⟩

theorem eventType_outcomeEvents {proposal : Proposal} {result : ConsensusResult}
    {event : EventAppend} (listed : event ∈ outcomeEvents proposal result) :
    event.eventType ∉ ["governance.vote.cast", "governance.action.executed"] := by
  unfold outcomeEvents at listed
  dsimp only at listed
  split at listed
  · simp [List.mem_singleton.mp listed]
  split at listed
  · simp [List.mem_singleton.mp listed]
  · cases listed

theorem resolutionEvent_known {status eventType : String}
    (known : resolutionEvent status = .ok eventType) :
    eventType ∉ ["governance.vote.cast", "governance.action.executed"] := by
  unfold resolutionEvent at known
  split at known
  · cases known
    decide
  · cases known
    decide
  · cases known
    decide
  · cases known

variable {quotients : Quotients Threshold} {service : GovernanceService State}
  {operation : GovernanceCall Threshold} {answer : Except PyError GovernanceAnswer}
  {writes : List Write} {events : List EventAppend}

section

variable (effect : CallEffect store quotients service operation answer writes events)
include effect

/-- A call on existing proposals that resolves only for open ones leaves a closed proposal. -/
theorem CallEffect.leaves (readable : Readable store service) (existing : operation.OnExisting)
    (resolves : ResolvesOpen store service operation) (closed : status ∈ closedStatuses)
    (has : HasStatus store service proposalId status) :
    Leaves proposalId status writes events := by
  have other {id : String} {now : UtcTime} {proposal : Proposal}
      (reads : Reads store service id now proposal)
      (live : proposal.status ∉ closedStatuses) : proposalId ≠ id := by
    rintro rfl
    exact live ((reads.hasStatus_iff readable status).mp has ▸ closed)
  cases effect with
  | failed => exact .nothing proposalId status
  | read => exact .nothing proposalId status
  | denied => exact existing.elim
  | created => exact existing.elim
  | requested => exact existing.elim
  | lapsed operation id readAt markedAt proposal answer reading lapses =>
      refine ⟨?_, by simp, nofun⟩
      intro written gives
      rw [Write.status_putProposal] at gives
      split at gives
      · rename_i sameId
        have keyed := lapses.reads.proposalId readable
        have reads := lapses.reads
        rw [show id = proposalId from keyed.symm.trans sameId.symm] at reads
        have stored := (reads.hasStatus_iff readable status).mp has
        have notDecided := lapses.notDecided
        rw [stored] at notDecided
        cases gives
        simp only [closedStatuses, List.mem_cons, List.not_mem_nil, or_false] at closed notDecided
        tauto
      · cases gives
  | stranded vote policy governancePolicy clock proposal next cast error admits =>
      have different := other admits.reads admits.notClosed
      have keyed := admits.reads.proposalId readable
      refine ⟨nofun, ?_, ?_⟩
      · simp [different.symm]
      · simp [keyed, different.symm]
  | voted vote policy governancePolicy clock proposal next cast result answer admits =>
      have different := other admits.reads admits.notClosed
      have keyed := admits.reads.proposalId readable
      refine ⟨?_, ?_, ?_⟩
      · intro written gives
        have none : Write.status proposalId [.putProposal (proposal.withStatus
            (outcomeStatus proposal result) none clock.updatedAt)] = none := by
          rw [Write.status_putProposal, if_neg]
          exact keyed ▸ different
        exact absurd (none.symm.trans gives) nofun
      · simp [different.symm]
      · intro event listed kind
        rcases List.mem_cons.mp listed with rfl | later
        · exact keyed ▸ different.symm
        · exact absurd kind (eventType_outcomeEvents later)
  | blocked id actionPayload requireHuman context error aggregateId payload =>
      refine ⟨nofun, nofun, ?_⟩
      simp
  | executed id actionPayload requireHuman context proposal record payload reads live approved =>
      have different := other reads (by rw [approved]; decide)
      have keyed := reads.proposalId readable
      refine ⟨?_, by simp, by simp [different.symm]⟩
      intro written gives
      have none : Write.status proposalId [.putProposal (proposal.withStatus "executed"
          (some actionPayload) context.updatedAt), .putDecision id record] = none := by
        show Option.or none (if proposalId = proposal.proposalId then _ else _) = none
        rw [if_neg (keyed ▸ different)]
        rfl
      exact absurd (none.symm.trans gives) nofun
  | unannounced => exact ⟨nofun, by simp, nofun⟩
  | orphaned context approvalId decision reason clock approval eventType error payload resolvable
      known =>
      refine ⟨nofun, by simp, ?_⟩
      intro event listed kind
      rw [List.mem_singleton.mp listed] at kind
      exact absurd kind (resolutionEvent_known known)
  | resolved context approvalId decision reason clock approval eventType payload proposal marks
      updated resolvable known reads marked keyed =>
      have different := other reads (resolves approval proposal resolvable reads).1
      refine ⟨?_, by simp, ?_⟩
      · intro written gives
        have none : Write.status proposalId ((marks ++ [updated]).map .putProposal) = none := by
          apply Write.status_map_of_ne
          intro mark listed
          rcases List.mem_append.mp listed with inside | last
          · exact marked mark inside ▸ different
          · rw [List.mem_singleton.mp last, keyed]
            exact different
        exact absurd (none.symm.trans gives) nofun
      · intro event listed kind
        rw [List.mem_singleton.mp listed] at kind
        exact absurd kind (resolutionEvent_known known)

/-- Only an execution announces one, and it marks its proposal. -/
theorem CallEffect.executes (readable : Readable store service) (proposalId : String) :
    (∀ event ∈ events, event.eventType = "governance.action.executed" →
        event.aggregateId ≠ proposalId) ∨
      events.length = 1 ∧ Write.status proposalId writes = some "executed" := by
  cases effect with
  | failed | read | lapsed | unannounced => exact .inl nofun
  | denied | created | requested | stranded | blocked => exact .inl (by simp)
  | voted vote policy governancePolicy clock proposal next cast result =>
      left
      intro event listed kind
      rcases List.mem_cons.mp listed with rfl | later
      · exact absurd kind (by simp)
      · exact (eventType_outcomeEvents later (by simp [kind])).elim
  | executed id actionPayload requireHuman context proposal record payload reads =>
      by_cases sameId : proposalId = id
      · right
        refine ⟨rfl, ?_⟩
        have keyed : proposalId = proposal.proposalId := sameId.trans (reads.proposalId readable).symm
        show Option.or none (if proposalId = proposal.proposalId then _ else _) = _
        rw [if_pos keyed]
        rfl
      · left
        simpa using Ne.symm sameId
  | orphaned context approvalId decision reason clock approval eventType error payload resolvable
      known =>
      left
      intro event listed kind
      rw [List.mem_singleton.mp listed] at kind
      have same : eventType = "governance.action.executed" := kind
      exact (resolutionEvent_known known (by simp [same])).elim
  | resolved context approvalId decision reason clock approval eventType payload proposal marks
      updated resolvable known =>
      left
      intro event listed kind
      rw [List.mem_singleton.mp listed] at kind
      have same : eventType = "governance.action.executed" := kind
      exact (resolutionEvent_known known (by simp [same])).elim

end

end Steps

section Runs

variable (lawful : store.Lawful) (quotients : Quotients Threshold) {proposalId status : String}
  {service : GovernanceService State}

theorem Settled.refl (has : HasStatus store service proposalId status) :
    Settled store proposalId status service service :=
  ⟨has, fun _ _ recorded => recorded, rfl, rfl⟩

theorem Settled.trans {first second third : GovernanceService State}
    (one : Settled store proposalId status first second)
    (two : Settled store proposalId status second third) :
    Settled store proposalId status first third where
  status := two.status
  votes := fun vote sameId recorded => one.votes vote sameId (two.votes vote sameId recorded)
  cast := two.cast.trans one.cast
  executed := two.executed.trans one.executed

include lawful

section

variable (readable : Readable store service)
include readable

theorem step_settled {operation : GovernanceCall Threshold} (existing : operation.OnExisting)
    (resolves : ResolvesOpen store service operation) (closed : status ∈ closedStatuses)
    (has : HasStatus store service proposalId status) :
    Settled store proposalId status service (step store quotients service operation).2 := by
  obtain ⟨writes, events, effect, wrote, logged⟩ :=
    step_explained lawful quotients readable operation
  exact (effect.leaves readable existing resolves closed has).settled lawful has wrote logged

/-- A run on existing proposals leaves a closed one. -/
theorem run_settled (calls : List (GovernanceCall Threshold))
    (existing : ∀ operation ∈ calls, operation.OnExisting)
    (guarded : Guarded (step store quotients) (ResolvesOpen store) service calls)
    (closed : status ∈ closedStatuses) (has : HasStatus store service proposalId status) :
    Settled store proposalId status service (run (step store quotients) service calls) := by
  induction calls generalizing service with
  | nil => exact .refl has
  | cons operation rest ih =>
      have first := step_settled lawful quotients readable (existing operation (.head _))
        guarded.1 closed has
      have later := ih (call_keeps lawful quotients operation service readable).1
        (fun other listed => existing other (.tail _ listed)) guarded.2 first.status
      exact first.trans later

/-- A call announces no execution, or the first one and marks the proposal. -/
theorem step_executes (operation : GovernanceCall Threshold) (proposalId : String) :
    announced "governance.action.executed" proposalId (step store quotients service operation).2 =
        announced "governance.action.executed" proposalId service ∨
      announced "governance.action.executed" proposalId (step store quotients service operation).2 ≤
          announced "governance.action.executed" proposalId service + 1 ∧
        HasStatus store (step store quotients service operation).2 proposalId "executed" := by
  obtain ⟨writes, events, effect, wrote, logged⟩ :=
    step_explained lawful quotients readable operation
  rw [announced_append logged]
  rcases effect.executes readable proposalId with silent | ⟨single, marked⟩
  · left
    rw [List.countP_eq_zero.mpr, Nat.add_zero]
    intro event listed counted
    obtain ⟨kind, aggregate⟩ := of_decide_eq_true counted
    exact silent event listed kind aggregate
  · right
    refine ⟨?_, ?_⟩
    · apply Nat.add_le_add_left
      rw [← single]
      exact List.countP_le_length
    · rw [wrote.hasStatus_iff lawful, marked]
      rfl

/-- A run on existing proposals executes each of them at most once. -/
theorem run_executes (calls : List (GovernanceCall Threshold))
    (existing : ∀ operation ∈ calls, operation.OnExisting)
    (guarded : Guarded (step store quotients) (ResolvesOpen store) service calls)
    (proposalId : String) :
    announced "governance.action.executed" proposalId (run (step store quotients) service calls) ≤
      announced "governance.action.executed" proposalId service + 1 := by
  induction calls generalizing service with
  | nil => exact Nat.le_succ _
  | cons operation rest ih =>
      have readableNext := (call_keeps lawful quotients operation service readable).1
      have existingRest : ∀ other ∈ rest, other.OnExisting :=
        fun other listed => existing other (.tail _ listed)
      rcases step_executes lawful quotients readable operation proposalId with same | ⟨bound, marked⟩
      · exact same ▸ ih readableNext existingRest guarded.2
      · have settled := run_settled lawful quotients readableNext rest existingRest guarded.2
          (by decide) marked
        exact settled.executed.trans_le bound

end

/-- Over every run of calls on existing proposals in which approvals are resolved only for open
proposals, a closed proposal keeps its status, gets no vote and is not executed, and every proposal
is executed at most once. -/
theorem decisions_final (setup calls : List (GovernanceCall Threshold))
    (existing : ∀ operation ∈ calls, operation.OnExisting)
    (guarded : Guarded (step store quotients) (ResolvesOpen store)
      (reached store quotients setup) calls) (proposalId : String) :
    (∀ status ∈ closedStatuses, HasStatus store (reached store quotients setup) proposalId status →
      Settled store proposalId status (reached store quotients setup)
        (reached store quotients (setup ++ calls))) ∧
    announced "governance.action.executed" proposalId (reached store quotients (setup ++ calls)) ≤
      announced "governance.action.executed" proposalId (reached store quotients setup) + 1 := by
  have readable := reached_readable lawful quotients setup
  have last : reached store quotients (setup ++ calls) =
      run (step store quotients) (reached store quotients setup) calls := run_append _ _ _ _
  rw [last]
  constructor
  · intro status closed has
    exact run_settled lawful quotients readable calls existing guarded closed has
  · exact run_executes lawful quotients readable calls existing guarded proposalId

end Runs

section Example

/-- A proposal of high risk that asks for one approval. -/
def highRiskProposal : Proposal :=
  { twoApprovalsProposal with riskLevel := "high", requiredApprovals := 1 }

def createHighRisk : GovernanceCall Rat :=
  .createProposal highRiskProposal none (fun _ => ⟨true, ""⟩)
    ⟨"approval-1", UtcTime.first, UtcTime.first⟩

/-- The policy of a tenant whose agents may decide on every risk. -/
def trustingGovernancePolicy : GovernancePolicy :=
  { openGovernancePolicy with maxAgentAuthorityRisk := "critical" }

def castTrusted (voteId voterAgentId vote : String) : GovernanceCall Rat :=
  .castVote (reviewerVote voteId voterAgentId vote) majorityPolicy trustingGovernancePolicy firstClock

def allowedContext : ExecuteContext where
  readAt := UtcTime.first
  markedAt := UtcTime.first
  checkPolicy := fun _ => ⟨true, ""⟩
  auditEventId := "audit-1"
  eventId := "event-1"
  updatedAt := UtcTime.first
  decisionRecordId := "decision-1"
  createdAt := UtcTime.first

def executeProposal (requireHuman : Bool) : GovernanceCall Rat :=
  .execute "proposal-1" [] requireHuman allowedContext

def approveRequest : GovernanceCall Rat :=
  .resolveApproval ⟨"tenant-a", false⟩ "approval-1" "approved" "acceptable" firstClock

/-- The answer of a call on the store in memory is a value. -/
def memoryReturns (calls : List (GovernanceCall Rat)) (operation : GovernanceCall Rat) : Bool :=
  (step backend exactQuotients (memoryReached calls) operation).1.toOption.isSome

theorem eq_ok_of_memoryReturns {calls : List (GovernanceCall Rat)} {operation : GovernanceCall Rat}
    (returned : memoryReturns calls operation = true) :
    ∃ answer, (step backend exactQuotients (memoryReached calls) operation).1 = .ok answer := by
  unfold memoryReturns at returned
  cases performed : (step backend exactQuotients (memoryReached calls) operation).1 with
  | ok answer => exact ⟨answer, rfl⟩
  | error error =>
      rw [performed] at returned
      cases returned

/-- A rejected proposal stays rejected and is not executed. -/
theorem decisions_final_rejected :
    Settled backend "proposal-1" "rejected" (memoryReached [createTwoApprovals, castRejection])
        (memoryReached ([createTwoApprovals, castRejection] ++
            [castReview "vote-2" "agent-2" "approve", executeProposal false])) := by
  apply (decisions_final backend_lawful exactQuotients [createTwoApprovals, castRejection]
    [castReview "vote-2" "agent-2" "approve", executeProposal false] ?_ ?_ "proposal-1").1
    "rejected" (by decide)
  · decide
  · simp [castReview, executeProposal, GovernanceCall.OnExisting]
  · exact ⟨trivial, trivial, trivial⟩

/-- An executed proposal whose approval is granted afterwards is approved again and executed a
second time. -/
theorem executed_twice :
    HasStatus backend (memoryReached [createHighRisk,
      castTrusted "vote-1" "agent-1" "approve", executeProposal false]) "proposal-1" "executed" ∧
    ¬ HasStatus backend (memoryReached [createHighRisk,
      castTrusted "vote-1" "agent-1" "approve", executeProposal false, approveRequest])
      "proposal-1" "executed" ∧
    announced "governance.action.executed" "proposal-1" (memoryReached [createHighRisk,
      castTrusted "vote-1" "agent-1" "approve", executeProposal false, approveRequest,
      executeProposal true]) = 2 := by
  refine ⟨by decide, by decide, by decide⟩

end Example

end GovernanceService

namespace GovernanceService

variable {State Threshold : Type} {store : PersistenceStore State}

/-- The id that a creation draws for its approval is a new one. -/
def FreshDraw (store : PersistenceStore State) (service : GovernanceService State) :
    GovernanceCall Threshold → Prop
  | .createProposal _ _ _ draw => ∀ approval, Requested store service approval →
      approval.approvalId ≠ draw.approvalId
  | _ => True

/-- The call resolves an open approval in time. -/
def ResolvesTo (store : PersistenceStore State) (service : GovernanceService State)
    (operation : GovernanceCall Threshold) (approval : HumanApproval) : Prop :=
  ∃ context reason clock original, operation =
      .resolveApproval context approval.approvalId approval.status reason clock ∧
    Resolvable store service context approval.approvalId clock.readAt original ∧
    approval = resolution original approval.status reason clock.markedAt

section Steps

variable {quotients : Quotients Threshold} {service : GovernanceService State}
  {operation : GovernanceCall Threshold} {answer : Except PyError GovernanceAnswer}
  {writes : List Write} {events : List EventAppend} {approval : HumanApproval}

/-- An approval is written as a pending one of a new draw or as the resolution of an open one. -/
theorem CallEffect.writesApproval
    (effect : CallEffect store quotients service operation answer writes events)
    (listed : .putApproval approval ∈ writes) :
    (∃ proposal assignedReviewer checkPolicy draw,
        operation = .createProposal proposal assignedReviewer checkPolicy draw ∧
        approval.approvalId = draw.approvalId ∧ approval.status = "pending") ∨
      ResolvesTo store service operation approval := by
  have resolves (context : TenantContext) (approvalId status reason : String) (clock : VoteClock)
      (original : HumanApproval)
      (resolvable : Resolvable store service context approvalId clock.readAt original)
      (same : approval = resolution original status reason clock.markedAt) :
      ResolvesTo store service
        (.resolveApproval context approvalId status reason clock : GovernanceCall Threshold)
        approval := by
    have keyed : approval.approvalId = approvalId := by
      rw [same]
      exact resolvable.keyed
    have kind : approval.status = status := by
      rw [same]
      rfl
    rw [← keyed] at resolvable ⊢
    rw [← kind] at same ⊢
    exact ⟨context, reason, clock, original, rfl, resolvable, same⟩
  cases effect with
  | failed | denied | read | blocked => cases listed
  | created | lapsed | stranded | voted | executed => simp at listed
  | requested proposal assignedReviewer checkPolicy draw drawn keyed pending =>
      have same : approval = drawn := by simpa using listed
      subst same
      exact .inl ⟨proposal, assignedReviewer, checkPolicy, draw, rfl, keyed, pending⟩
  | unannounced context approvalId status reason clock original error resolvable =>
      exact .inr (resolves context approvalId status reason clock original resolvable
        (by simpa using listed))
  | orphaned context approvalId status reason clock original eventType error payload
      resolvable =>
      exact .inr (resolves context approvalId status reason clock original resolvable
        (by simpa using listed))
  | resolved context approvalId status reason clock original eventType payload proposal marks
      updated resolvable =>
      exact .inr (resolves context approvalId status reason clock original resolvable
        (by simpa using listed))

/-- An approval that was decided cannot be resolved. -/
theorem Requested.not_resolvable (requested : Requested store service approval)
    (decided : approval.status ∈ ["approved", "rejected"]) {context : TenantContext}
    {readAt : UtcTime} {original : HumanApproval} :
    ¬ Resolvable store service context approval.approvalId readAt original := by
  intro resolvable
  have same := resolvable.requested.unique requested resolvable.keyed
  have unresolved := resolvable.unresolved
  rw [same] at unresolved
  simp only [List.mem_cons, List.not_mem_nil, or_false] at decided unresolved
  rcases decided with approved | rejected
  · simp [approved] at unresolved
  · simp [rejected] at unresolved

end Steps

section Runs

variable (lawful : store.Lawful) (quotients : Quotients Threshold)

include lawful

variable {approval : HumanApproval} {service : GovernanceService State}

section

variable (readable : Readable store service)
include readable

/-- A decided approval stays as it is when the draws are new. -/
theorem step_decided {operation : GovernanceCall Threshold}
    (fresh : FreshDraw store service operation) (requested : Requested store service approval)
    (decided : approval.status ∈ ["approved", "rejected"]) :
    Requested store (step store quotients service operation).2 approval := by
  obtain ⟨writes, events, effect, wrote, _⟩ := step_explained lawful quotients readable operation
  apply requested.kept lawful wrote
  intro other listed sameId
  rcases effect.writesApproval listed with
    ⟨proposal, assignedReviewer, checkPolicy, draw, rfl, drawn, _⟩ |
      ⟨context, reason, clock, original, _, resolvable, _⟩
  · exact fresh approval requested (sameId.trans drawn)
  · rw [← sameId] at resolvable
    exact requested.not_resolvable decided resolvable

/-- A decided approval is resolved by no call. -/
theorem resolveApproval_refused (requested : Requested store service approval)
    (decided : approval.status ∈ ["approved", "rejected"]) (context : TenantContext)
    (status reason : String) (clock : VoteClock) :
    ∃ error, step store quotients service
        (.resolveApproval context approval.approvalId status reason clock) =
      (.error error, service) := by
  obtain ⟨writes, events, effect, wrote, logged⟩ := step_explained lawful quotients readable
    (.resolveApproval context approval.approvalId status reason clock)
  generalize step store quotients service
    (.resolveApproval context approval.approvalId status reason clock) = outcome at *
  obtain ⟨answer, after⟩ := outcome
  cases effect with
  | failed operation error =>
      have rows : after.persistence = service.persistence := wrote
      have log : after.events = service.events := logged.trans (List.append_nil _)
      have same : after = service := by
        cases after
        cases service
        simp_all
      exact ⟨error, by rw [same]⟩
  | lapsed operation id readAt markedAt proposal answer reading => cases reading
  | unannounced _ _ _ _ _ original _ resolvable =>
      exact (requested.not_resolvable decided resolvable).elim
  | orphaned _ _ _ _ _ original _ _ _ resolvable =>
      exact (requested.not_resolvable decided resolvable).elim
  | resolved _ _ _ _ _ original _ _ _ _ _ resolvable =>
      exact (requested.not_resolvable decided resolvable).elim

/-- A decided approval stays as it is over every run with new draws. -/
theorem run_decided (calls : List (GovernanceCall Threshold))
    (fresh : Guarded (step store quotients) (FreshDraw store) service calls)
    (requested : Requested store service approval)
    (decided : approval.status ∈ ["approved", "rejected"]) :
    Requested store (run (step store quotients) service calls) approval := by
  have kept := run_invariant_of_guarded (step store quotients) (FreshDraw store)
    (fun service => Readable store service ∧ Requested store service approval)
    (fun service operation invariant condition =>
      ⟨(call_keeps lawful quotients operation service invariant.1).1,
        step_decided lawful quotients invariant.1 condition invariant.2 decided⟩)
    service calls ⟨readable, requested⟩ fresh
  exact kept.2

end

/-- An approval that is not pending was resolved in time by one of the calls. -/
theorem reached_resolved (calls : List (GovernanceCall Threshold))
    (requested : Requested store (reached store quotients calls) approval)
    (resolved : approval.status ≠ "pending") :
    ∃ earlier operation rest, calls = earlier ++ operation :: rest ∧
      ResolvesTo store (reached store quotients earlier) operation approval := by
  induction calls using List.reverseRecOn with
  | nil =>
      obtain ⟨row, found, _⟩ := requested
      rw [show store.get (reached store quotients []).persistence approvals approval.approvalId =
        none from lawful.get_initial approvals approval.approvalId] at found
      cases found
  | append_singleton calls operation ih =>
      have readable := reached_readable lawful quotients calls
      have last : reached store quotients (calls ++ [operation]) =
          (step store quotients (reached store quotients calls) operation).2 := run_append _ _ _ _
      rw [last] at requested
      obtain ⟨writes, events, effect, wrote, _⟩ :=
        step_explained lawful quotients readable operation
      rcases wrote.requested lawful requested with listed | before
      · rcases effect.writesApproval listed with ⟨_, _, _, _, _, _, pending⟩ | resolves
        · exact absurd pending resolved
        · exact ⟨calls, operation, [], rfl, resolves⟩
      · obtain ⟨earlier, found, rest, rfl, resolves⟩ := ih before
        refine ⟨earlier, found, rest ++ [operation], ?_, resolves⟩
        rw [List.append_assoc]
        rfl

/-- An execution that asks for a human finds an approval that one of the earlier calls granted in
time and that stays granted over every later run, and no decided approval is resolved again. -/
theorem human_gate (before after : List (GovernanceCall Threshold))
    (fresh : Guarded (step store quotients) (FreshDraw store) (initial store) (before ++ after)) :
    (∀ proposalId actionPayload governancePolicy context proposal answer later,
      after = .execute proposalId actionPayload (routeRequiresHuman proposal governancePolicy)
        context :: later →
      Reads store (reached store quotients before) proposalId context.readAt proposal →
      routeRequiresHuman proposal governancePolicy = true →
      (step store quotients (reached store quotients before) (.execute proposalId actionPayload
        (routeRequiresHuman proposal governancePolicy) context)).1 = .ok answer →
      ∃ approval, approval.proposalId = proposalId ∧ approval.tenantId = proposal.tenantId ∧
        approval.status = "approved" ∧
        Requested store (reached store quotients before) approval ∧
        Requested store (reached store quotients (before ++ after)) approval ∧
        ∃ earlier rest tenant reason clock,
          before = earlier ++
            .resolveApproval tenant approval.approvalId "approved" reason clock :: rest ∧
          approval.resolvedAt = some clock.markedAt.toDateTime ∧
          approval.isExpired clock.readAt = .ok false) ∧
    ∀ approval, Requested store (reached store quotients before) approval →
      approval.status ∈ ["approved", "rejected"] →
      Requested store (reached store quotients (before ++ after)) approval ∧
      ∀ context status reason clock, ∃ error,
        step store quotients (reached store quotients (before ++ after))
            (.resolveApproval context approval.approvalId status reason clock) =
          (.error error, reached store quotients (before ++ after)) := by
  have readable := reached_readable lawful quotients before
  have freshAfter := ((guarded_append _ _ _ _ _).mp fresh).2
  have stays {approval : HumanApproval}
      (requested : Requested store (reached store quotients before) approval)
      (decided : approval.status ∈ ["approved", "rejected"]) :
      Requested store (reached store quotients (before ++ after)) approval := by
    have kept := run_decided lawful quotients readable after freshAfter requested decided
    rwa [show run (step store quotients) (reached store quotients before) after =
      reached store quotients (before ++ after) from (run_append _ _ _ _).symm] at kept
  constructor
  · intro proposalId actionPayload governancePolicy context proposal answer later _ reads required
      executed
    obtain ⟨found, foundReads, _, _, human⟩ := execute_ok lawful quotients readable executed
    obtain ⟨approval, requested, tenant, sameId, approved⟩ := human required
    rw [foundReads.unique reads] at tenant
    obtain ⟨earlier, operation, rest, split, resolves⟩ := reached_resolved lawful quotients before
      requested (by rw [approved]; decide)
    obtain ⟨resolver, reason, clock, original, rfl, resolvable, same⟩ := resolves
    refine ⟨approval, sameId, tenant, approved, requested,
      stays requested (by rw [approved]; decide), earlier, rest, resolver, reason, clock, ?_, ?_, ?_⟩
    · rw [split, approved]
    · rw [same]
      rfl
    · rw [same]
      exact resolvable.notExpired
  · intro approval requested decided
    refine ⟨stays requested decided, ?_⟩
    intro context status reason clock
    exact resolveApproval_refused lawful quotients
      (reached_readable lawful quotients (before ++ after)) (stays requested decided) decided context
      status reason clock

end Runs

section Example

/-- The policy of a tenant that asks for a human at high risk. -/
def humanGovernancePolicy : GovernancePolicy :=
  { openGovernancePolicy with humanRequiredRisks := ["high", "critical"] }

/-- The approval of a human lets the proposal be executed and stays granted. -/
theorem human_gate_granted :
    ∃ approval, approval.proposalId = "proposal-1" ∧ approval.status = "approved" ∧
      Requested backend (memoryReached ([createHighRisk, approveRequest] ++
        [executeProposal true])) approval := by
  have found : ((backend.get
      (memoryReached [createHighRisk, approveRequest]).persistence proposals "proposal-1").bind
        (Proposal.fromDict UtcTime.first)).map
        (fun proposal => routeRequiresHuman proposal humanGovernancePolicy) = some true := by
    decide
  obtain ⟨proposal, read, required⟩ := Option.map_eq_some_iff.mp found
  obtain ⟨row, present, decoded⟩ := Option.bind_eq_some_iff.mp read
  have returned : memoryReturns [createHighRisk, approveRequest] (executeProposal true) = true := by
    decide
  obtain ⟨answer, executed⟩ := eq_ok_of_memoryReturns returned
  have fresh : Guarded (step backend exactQuotients) (FreshDraw backend) (initial backend)
      ([createHighRisk, approveRequest] ++ [executeProposal true]) := by
    refine ⟨?_, trivial, trivial, trivial⟩
    rintro approval ⟨row, stored, _⟩
    cases stored
  obtain ⟨approval, sameId, _, approved, _, stays, _⟩ :=
    (human_gate backend_lawful exactQuotients
      [createHighRisk, approveRequest] [executeProposal true] fresh).1 "proposal-1" []
      humanGovernancePolicy allowedContext proposal answer [] (by rw [required]; rfl)
      ⟨row, present, decoded⟩ required (by rw [required]; exact executed)
  exact ⟨approval, sameId, approved, stays⟩

end Example

end GovernanceService

end AgentFabric.Governance
