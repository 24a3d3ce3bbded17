import AgentFabric.Construction.Governance.ConsensusEngine

namespace AgentFabric.Governance

/-- The terms of a proposal that its consensus depends on. -/
structure Proposal.SameTerms (first second : Proposal) : Prop where
  tenantId : first.tenantId = second.tenantId
  riskLevel : first.riskLevel = second.riskLevel
  requiredApprovals : first.requiredApprovals = second.requiredApprovals

namespace ConsensusEngine

variable {Threshold : Type} {quotients : Quotients Threshold}
  {review : ConsensusPolicy Threshold → Except PyError ConsensusResult} {proposal : Proposal}
  {votes : List Vote} {policy : ConsensusPolicy Threshold} {governancePolicy : GovernancePolicy}
  {now : UtcTime}

/-- A vote that the engine does not accept. -/
def Refuses (vote : Vote) : Prop :=
  vote.voterRole ∉ authorizedVotingRoles ∨ vote.vote ∉ supportedVotes

theorem checkVotes_ok_iff (votes : List Vote) :
    checkVotes votes = .ok () ↔ ∀ vote ∈ votes, ¬ Refuses vote := by
  induction votes with
  | nil => simp [checkVotes]
  | cons vote rest ih =>
      unfold checkVotes
      simp only [List.mem_cons, forall_eq_or_imp]
      split
      · rename_i role
        exact iff_of_false (by simp) fun accepted => accepted.1 (.inl role)
      · rename_i role
        split
        · rename_i kind
          exact iff_of_false (by simp) fun accepted => accepted.1 (.inr kind)
        · rename_i kind
          have accepted : ¬ Refuses vote := not_or.mpr ⟨role, kind⟩
          rw [ih, and_iff_right accepted]

/-- The modes that the engine knows. -/
def consensusModes : List String := [
  "single_approver", "majority", "supermajority", "unanimous", "weighted", "human_required",
  "security_required", "compliance_required"]

/-- The mode of the policy raises: it is unknown, or it divides by no votes. -/
def Undecidable (required : Int) (votes : List Vote) (policy : ConsensusPolicy Threshold) : Prop :=
  policy.mode ∉ consensusModes ∨ (policy.mode = "supermajority" ∧ required ≤ 0 ∧
    having "approve" votes = [] ∧ having "reject" votes = [])

variable {required : Int}

theorem not_undecidable {mode : String} (same : policy.mode = mode)
    (known : mode ∈ consensusModes) (different : mode ≠ "supermajority") :
    ¬ Undecidable required votes policy := by
  rintro (unknown | ⟨supermajority, _⟩)
  · exact unknown (same ▸ known)
  · exact different (same.symm.trans supermajority)

/-- The modes that evaluate once more. -/
def reviewModes : List String := ["security_required", "compliance_required"]

/-- The mode fails exactly when it is unknown or divides by no votes, if its review returns. -/
theorem decideMode_error_iff
    (reviewed : policy.mode ∈ reviewModes → ∀ role, ∃ result,
      review (reviewPolicy quotients role required) = .ok result) :
    (∃ error, decideMode quotients review required votes policy = .error error) ↔
      Undecidable required votes policy := by
  have returns {result : ConsensusResult} {mode : String} (same : policy.mode = mode)
      (known : mode ∈ consensusModes) (different : mode ≠ "supermajority") :
      (∃ error, (.ok result : Except PyError ConsensusResult) = .error error) ↔
        Undecidable required votes policy :=
    iff_of_false (by simp) (not_undecidable same known different)
  unfold decideMode
  dsimp only
  split
  · rename_i mode
    exact returns mode (by decide) (by decide)
  · rename_i mode
    exact returns mode (by decide) (by decide)
  · rename_i mode
    unfold Undecidable
    rw [mode]
    split
    · rename_i none
      refine iff_of_true ⟨_, rfl⟩ (.inr ⟨rfl, ?_, ?_, ?_⟩)
      · omega
      · rw [← List.length_eq_zero_iff]
        omega
      · rw [← List.length_eq_zero_iff]
        omega
    · rename_i some
      refine iff_of_false (by simp) ?_
      rintro (unknown | ⟨_, nonpositive, approvals, rejections⟩)
      · exact unknown (by decide)
      · rw [approvals, rejections] at some
        simp only [List.length_nil, Nat.add_zero, Nat.cast_zero] at some
        omega
  · rename_i mode
    exact returns mode (by decide) (by decide)
  · rename_i mode
    exact returns mode (by decide) (by decide)
  · rename_i mode
    exact returns mode (by decide) (by decide)
  · rename_i mode
    obtain ⟨result, returned⟩ := reviewed (mode ▸ by decide) "security_reviewer"
    rw [returned]
    exact returns mode (by decide) (by decide)
  · rename_i mode
    obtain ⟨result, returned⟩ := reviewed (mode ▸ by decide) "compliance_reviewer"
    rw [returned]
    exact returns mode (by decide) (by decide)
  · rename_i one two three four five six seven eight
    refine iff_of_true ⟨_, rfl⟩ (.inl ?_)
    simp only [consensusModes, List.mem_cons, List.not_mem_nil, or_false, not_or]
    exact ⟨one, two, three, four, five, six, seven, eight⟩

/-- The engine raises on these votes: one of them is refused, or the mode cannot be decided. -/
def Unevaluable (proposal : Proposal) (votes : List Vote) (policy : ConsensusPolicy Threshold)
    (governancePolicy : GovernancePolicy) (now : UtcTime) : Prop :=
  proposal.isExpired now = .ok false ∧
    (governancePolicy.riskWithinAgentAuthority proposal.riskLevel = true ∨
      policy.mode = "human_required") ∧ votes ≠ [] ∧
    ((∃ vote ∈ votes, Refuses vote) ∨
      (having "escalate" votes = [] ∧
        ¬ (having "reject" votes ≠ [] ∧ policy.mode ∈ ["single_approver", "unanimous"]) ∧
        missingRoles policy votes = [] ∧
        requiredApprovals proposal policy ≤ ((having "approve" votes).length : Int) ∧
        Undecidable (requiredApprovals proposal policy) votes policy))

/-- All checks that come before the mode pass. -/
structure Decides (proposal : Proposal) (votes : List Vote) (policy : ConsensusPolicy Threshold)
    (governancePolicy : GovernancePolicy) (now : UtcTime) : Prop where
  live : proposal.isExpired now = .ok false
  authority : governancePolicy.riskWithinAgentAuthority proposal.riskLevel = true ∨
    policy.mode = "human_required"
  cast : votes ≠ []
  accepted : ∀ vote ∈ votes, ¬ Refuses vote
  notEscalated : having "escalate" votes = []
  notRejected : ¬ (having "reject" votes ≠ [] ∧ policy.mode ∈ ["single_approver", "unanimous"])
  roles : missingRoles policy votes = []
  enough : requiredApprovals proposal policy ≤ ((having "approve" votes).length : Int)

/-- After the checks only the mode can make the votes unevaluable. -/
theorem Decides.unevaluable_iff (decides : Decides proposal votes policy governancePolicy now) :
    Unevaluable proposal votes policy governancePolicy now ↔
      Undecidable (requiredApprovals proposal policy) votes policy := by
  constructor
  · rintro ⟨_, _, _, ⟨vote, member, refuses⟩ | ⟨_, _, _, _, undecidable⟩⟩
    · exact absurd refuses (decides.accepted vote member)
    · exact undecidable
  · intro undecidable
    exact ⟨decides.live, decides.authority, decides.cast, .inr ⟨decides.notEscalated,
      decides.notRejected, decides.roles, decides.enough, undecidable⟩⟩

variable {expired : Bool}

/-- The evaluation ends at a check without an approval, raises on a refused vote or decides. -/
theorem evaluateWith_cases (compared : proposal.isExpired now = .ok expired) :
    (∃ result, evaluateWith quotients review proposal votes policy governancePolicy now =
        .ok result ∧ result.status ≠ "approved" ∧
      ¬ Unevaluable proposal votes policy governancePolicy now) ∨
    (∃ error, evaluateWith quotients review proposal votes policy governancePolicy now =
        .error error ∧ Unevaluable proposal votes policy governancePolicy now) ∨
    (Decides proposal votes policy governancePolicy now ∧
      evaluateWith quotients review proposal votes policy governancePolicy now =
        decideMode quotients review (requiredApprovals proposal policy) votes policy) := by
  unfold evaluateWith
  rw [compared]
  cases expired with
  | true =>
      refine .inl ⟨_, rfl, by decide, ?_⟩
      rintro ⟨live, _⟩
      rw [compared] at live
      cases live
  | false =>
      simp only [bind, Except.bind, Bool.false_eq_true, if_false]
      split
      · rename_i outside
        refine .inl ⟨_, rfl, by decide, ?_⟩
        rintro ⟨_, inside | human, _⟩
        · exact outside.1 inside
        · exact outside.2 human
      rename_i within
      have authority : governancePolicy.riskWithinAgentAuthority proposal.riskLevel = true ∨
          policy.mode = "human_required" := by
        tauto
      split
      · rename_i none
        exact .inl ⟨_, rfl, by decide, fun claim => claim.2.2.1 none⟩
      rename_i cast
      cases checked : checkVotes votes with
      | error error =>
          have refused : ∃ vote ∈ votes, Refuses vote := by
            by_contra accepted
            push Not at accepted
            rw [(checkVotes_ok_iff votes).mpr accepted] at checked
            cases checked
          exact .inr (.inl ⟨error, rfl, compared, authority, cast, .inl refused⟩)
      | ok done =>
          have accepted := (checkVotes_ok_iff votes).mp checked
          have stops {reached : Bool} {status reason : String} (different : status ≠ "approved")
              (fails : ¬ (having "escalate" votes = [] ∧
                ¬ (having "reject" votes ≠ [] ∧ policy.mode ∈ ["single_approver", "unanimous"]) ∧
                missingRoles policy votes = [] ∧
                requiredApprovals proposal policy ≤ ((having "approve" votes).length : Int))) :
              ∃ result, (.ok (counted votes reached status reason) :
                  Except PyError ConsensusResult) = .ok result ∧ result.status ≠ "approved" ∧
                ¬ Unevaluable proposal votes policy governancePolicy now := by
            refine ⟨_, rfl, different, ?_⟩
            rintro ⟨_, _, _, ⟨vote, member, refuses⟩ | ⟨one, two, three, four, _⟩⟩
            · exact accepted vote member refuses
            · exact fails ⟨one, two, three, four⟩
          dsimp only
          split
          · rename_i escalated
            exact .inl (stops (by decide) fun checks => escalated checks.1)
          rename_i notEscalated
          split
          · rename_i rejected
            exact .inl (stops (by decide) fun checks => checks.2.1 rejected)
          rename_i notRejected
          split
          · rename_i missing
            exact .inl (stops (by decide) fun checks => missing checks.2.2.1)
          rename_i roles
          split
          · rename_i short
            exact .inl (stops (by decide) fun checks => absurd checks.2.2.2 (not_le.mpr short))
          · rename_i enough
            exact .inr (.inr ⟨⟨compared, authority, cast, accepted, not_not.mp notEscalated,
              notRejected, not_not.mp roles, not_lt.mp enough⟩, rfl⟩)

/-- Where the checks pass, the mode decides. -/
theorem Decides.evaluated (decides : Decides proposal votes policy governancePolicy now) :
    evaluateWith quotients review proposal votes policy governancePolicy now =
      decideMode quotients review (requiredApprovals proposal policy) votes policy := by
  have authority : ¬ (¬ governancePolicy.riskWithinAgentAuthority proposal.riskLevel = true ∧
      policy.mode ≠ "human_required") := by
    have allowed := decides.authority
    tauto
  unfold evaluateWith
  rw [decides.live]
  simp only [bind, Except.bind, Bool.false_eq_true, if_false]
  rw [if_neg authority, if_neg decides.cast, (checkVotes_ok_iff votes).mpr decides.accepted]
  dsimp only
  rw [if_neg (not_not.mpr decides.notEscalated), if_neg decides.notRejected,
    if_neg (not_not.mpr decides.roles), if_neg (not_lt.mpr decides.enough)]

variable {result : ConsensusResult}

section

variable
  (returned : evaluateWith quotients review proposal votes policy governancePolicy now = .ok result)
include returned

/-- An approved result comes from the mode. -/
theorem evaluateWith_decides (approved : result.status = "approved") :
    Decides proposal votes policy governancePolicy now := by
  have compares : ∃ expired, proposal.isExpired now = .ok expired := by
    obtain ⟨expired, compared, _⟩ := bind_eq_ok_iff.mp returned
    exact ⟨expired, compared⟩
  obtain ⟨expired, compared⟩ := compares
  rcases evaluateWith_cases compared with
    ⟨other, stopped, different, _⟩ | ⟨error, failed, _⟩ | ⟨decides, _⟩
  · rw [returned, Except.ok.injEq] at stopped
    exact absurd (stopped ▸ approved) different
  · rw [returned] at failed
    cases failed
  · exact decides

/-- An approved result has at least the approvals that are required. -/
theorem evaluateWith_approved (approved : result.status = "approved") :
    requiredApprovals proposal policy ≤ ((having "approve" votes).length : Int) :=
  (evaluateWith_decides returned approved).enough

end

/-- With a comparable expiry the evaluation raises exactly on votes that it cannot evaluate. -/
theorem evaluateWith_error_iff (compared : proposal.isExpired now = .ok expired)
    (reviewed : (∀ vote ∈ votes, ¬ Refuses vote) → policy.mode ∈ reviewModes → ∀ role, ∃ result,
      review (reviewPolicy quotients role (requiredApprovals proposal policy)) = .ok result) :
    (∃ error, evaluateWith quotients review proposal votes policy governancePolicy now =
        .error error) ↔
      Unevaluable proposal votes policy governancePolicy now := by
  rcases evaluateWith_cases compared with
    ⟨result, returned, _, evaluable⟩ | ⟨error, failed, unevaluable⟩ | ⟨decides, decided⟩
  · rw [returned]
    exact iff_of_false (by simp) evaluable
  · exact iff_of_true ⟨error, failed⟩ unevaluable
  · rw [decided, decides.unevaluable_iff]
    exact decideMode_error_iff (reviewed decides.accepted)

/-- A review under a majority policy returns on accepted votes. -/
theorem evaluateReview_ok (compared : proposal.isExpired now = .ok expired)
    (accepted : ∀ vote ∈ votes, ¬ Refuses vote) (role : String) (required : Int) :
    ∃ result, evaluateReview quotients proposal votes governancePolicy now
      (reviewPolicy quotients role required) = .ok result := by
  cases evaluated : evaluateReview quotients proposal votes governancePolicy now
      (reviewPolicy quotients role required) with
  | ok result => exact ⟨result, rfl⟩
  | error error =>
      obtain ⟨_, _, _, ⟨vote, member, refuses⟩ | ⟨_, _, _, _, undecidable⟩⟩ :=
        (evaluateWith_error_iff compared fun _ reviews => absurd reviews (by
          show "majority" ∉ reviewModes
          decide)).mp ⟨error, evaluated⟩
      · exact absurd refuses (accepted vote member)
      · have mode : (reviewPolicy quotients role required).mode = "majority" := rfl
        exact absurd undecidable (not_undecidable mode (by decide) (by decide))

variable {evaluatedAt reviewedAt : UtcTime}

/-- The engine raises exactly on votes that it cannot evaluate. -/
theorem evaluate_error_iff {expired later : Bool}
    (compared : proposal.isExpired evaluatedAt = .ok expired)
    (comparedLater : proposal.isExpired reviewedAt = .ok later) :
    (∃ error, evaluate quotients proposal votes policy governancePolicy evaluatedAt reviewedAt =
        .error error) ↔
      Unevaluable proposal votes policy governancePolicy evaluatedAt :=
  evaluateWith_error_iff compared fun accepted _ role =>
    evaluateReview_ok comparedLater accepted role _

variable {other : ConsensusPolicy Threshold → Except PyError ConsensusResult}

/-- A mode that approves does so with every review that approves at least as much. -/
theorem decideMode_mono (more : ∀ policy, review policy = .ok result → other policy = .ok result)
    (returned : decideMode quotients review required votes policy = .ok result) :
    decideMode quotients other required votes policy = .ok result := by
  unfold decideMode at returned ⊢
  dsimp only at returned ⊢
  split at returned
  all_goals first
    | exact returned
    | exact more _ returned

variable {changed : Proposal}

/-- An approval holds at every time at which the proposal is live, whatever its status. -/
theorem evaluateWith_live {later : UtcTime}
    (returned : evaluateWith quotients review proposal votes policy governancePolicy now =
      .ok result) (approved : result.status = "approved") (terms : changed.SameTerms proposal)
    (live : changed.isExpired later = .ok false)
    (more : ∀ policy, review policy = .ok result → other policy = .ok result) :
    evaluateWith quotients other changed votes policy governancePolicy later = .ok result := by
  have decides := evaluateWith_decides returned approved
  have required : requiredApprovals changed policy = requiredApprovals proposal policy := by
    unfold requiredApprovals
    rw [terms.requiredApprovals]
  have decidesLater : Decides changed votes policy governancePolicy later :=
    ⟨live, terms.riskLevel ▸ decides.authority, decides.cast, decides.accepted,
      decides.notEscalated, decides.notRejected, decides.roles, required ▸ decides.enough⟩
  rw [decides.evaluated] at returned
  rw [decidesLater.evaluated, required]
  exact decideMode_mono more returned

/-- An approval of the engine holds at every time at which the proposal is live. -/
theorem evaluate_live {evaluatedAt reviewedAt later : UtcTime}
    (returned : evaluate quotients proposal votes policy governancePolicy evaluatedAt reviewedAt =
      .ok result) (approved : result.status = "approved") (terms : changed.SameTerms proposal)
    (live : changed.isExpired later = .ok false) :
    evaluate quotients changed votes policy governancePolicy later later = .ok result := by
  apply evaluateWith_live returned approved terms live
  intro policy reviewed
  exact evaluateWith_live reviewed approved terms live fun _ raised => raised

/-- The statuses that the engine returns. -/
def resultStatuses : List String := [
  "approved", "rejected", "blocked", "expired", "escalated", "awaiting_human", "pending"]

section

variable (reviewed : ∀ policy, review policy = .ok result → result.status ∈ resultStatuses)
include reviewed

theorem decideMode_status
    (returned : decideMode quotients review required votes policy = .ok result) :
    result.status ∈ resultStatuses := by
  have decision (reached : Bool) (reason : String) :
      (decided votes reached reason).status ∈ resultStatuses := by
    cases reached <;> simp [decided, counted, resultStatuses]
  unfold decideMode at returned
  dsimp only at returned
  split at returned
  · cases returned
    simp [counted, resultStatuses]
  · cases returned
    exact decision _ _
  · split at returned
    · cases returned
    · cases returned
      exact decision _ _
  · cases returned
    exact decision _ _
  · cases returned
    exact decision _ _
  · cases returned
    simp [counted, resultStatuses]
  · exact reviewed _ returned
  · exact reviewed _ returned
  · cases returned

theorem evaluateWith_status
    (returned : evaluateWith quotients review proposal votes policy governancePolicy now =
      .ok result) : result.status ∈ resultStatuses := by
  obtain ⟨expired, _, continued⟩ := bind_eq_ok_iff.mp returned
  split at continued
  · cases continued
    simp [resultStatuses]
  split at continued
  · cases continued
    simp [resultStatuses]
  split at continued
  · cases continued
    simp [resultStatuses]
  obtain ⟨_, _, checked⟩ := bind_eq_ok_iff.mp continued
  split at checked
  · cases checked
    simp [counted, resultStatuses]
  split at checked
  · cases checked
    simp [counted, resultStatuses]
  split at checked
  · cases checked
    simp [counted, resultStatuses]
  split at checked
  · cases checked
    simp [counted, resultStatuses]
  · exact decideMode_status reviewed checked

end

theorem evaluate_status
    (returned : evaluate quotients proposal votes policy governancePolicy evaluatedAt reviewedAt =
      .ok result) : result.status ∈ resultStatuses := by
  apply evaluateWith_status _ returned
  intro policy reviewed
  exact evaluateWith_status (fun _ raised => by cases raised) reviewed

end ConsensusEngine

end AgentFabric.Governance
