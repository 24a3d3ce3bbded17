import AgentFabric.Proof.Governance.ConsensusBounds

namespace AgentFabric.Governance.ConsensusEngine

/-- The counts and the weights of the votes for and against a proposal. -/
structure Tally where
  approvals : Nat
  rejections : Nat
  approvalWeight : Int
  rejectionWeight : Int

def tally (votes : List Vote) : Tally where
  approvals := (having "approve" votes).length
  rejections := (having "reject" votes).length
  approvalWeight := totalWeight (having "approve" votes)
  rejectionWeight := totalWeight (having "reject" votes)

/-- The votes that the counts are compared with. -/
def Tally.total (tally : Tally) (required : Int) : Int :=
  max ((tally.approvals + tally.rejections : Nat) : Int) required

def Tally.weight (tally : Tally) : Int := tally.approvalWeight + tally.rejectionWeight

/-- The modes that compare the approvals with one half of the votes. -/
def majorityModes : List String := ["majority", "security_required", "compliance_required"]

/-- The modes that one rejection ends. -/
def unopposedModes : List String := ["single_approver", "unanimous"]

/-- What the mode of a policy asks of the tally. -/
structure Carries (policy : ConsensusPolicy Rat) (required : Int) (tally : Tally) : Prop where
  majority : policy.mode ∈ majorityModes → tally.total required < 2 * tally.approvals
  supermajority : policy.mode = "supermajority" →
    max policy.threshold (2 / 3) ≤ (tally.approvals : Rat) / (tally.total required : Rat)
  weighted : policy.mode = "weighted" → 0 < tally.weight ∧
    policy.threshold ≤ (tally.approvalWeight : Rat) / (tally.weight : Rat)
  unopposed : policy.mode ∈ unopposedModes → tally.rejections = 0

section Modes

variable {policy : ConsensusPolicy Rat} {required : Int} {tally : Tally}

theorem carries_majority_iff (mode : policy.mode ∈ majorityModes) :
    Carries policy required tally ↔ tally.total required < 2 * tally.approvals := by
  constructor
  · intro carries
    exact carries.majority mode
  · intro reached
    constructor
    · exact fun _ => reached
    · intro same
      exact absurd (same ▸ mode) (by decide)
    · intro same
      exact absurd (same ▸ mode) (by decide)
    · intro other
      simp only [majorityModes, unopposedModes, List.mem_cons, List.not_mem_nil, or_false] at mode other
      rcases mode with same | same | same <;> simp [same] at other

theorem carries_supermajority_iff (mode : policy.mode = "supermajority") :
    Carries policy required tally ↔
      max policy.threshold (2 / 3) ≤ (tally.approvals : Rat) / (tally.total required : Rat) := by
  constructor
  · intro carries
    exact carries.supermajority mode
  · intro reached
    constructor
    · intro other
      exact absurd (mode ▸ other) (by decide)
    · exact fun _ => reached
    · intro other
      exact absurd (mode.symm.trans other) (by decide)
    · intro other
      exact absurd (mode ▸ other) (by decide)

theorem carries_weighted_iff (mode : policy.mode = "weighted") :
    Carries policy required tally ↔ 0 < tally.weight ∧
      policy.threshold ≤ (tally.approvalWeight : Rat) / (tally.weight : Rat) := by
  constructor
  · intro carries
    exact carries.weighted mode
  · intro reached
    constructor
    · intro other
      exact absurd (mode ▸ other) (by decide)
    · intro other
      exact absurd (mode.symm.trans other) (by decide)
    · exact fun _ => reached
    · intro other
      exact absurd (mode ▸ other) (by decide)

theorem carries_unopposed_iff (mode : policy.mode ∈ unopposedModes) :
    Carries policy required tally ↔ tally.rejections = 0 := by
  constructor
  · intro carries
    exact carries.unopposed mode
  · intro none
    constructor
    · intro other
      simp only [majorityModes, unopposedModes, List.mem_cons, List.not_mem_nil, or_false] at mode other
      rcases mode with same | same <;> simp [same] at other
    · intro same
      exact absurd (same ▸ mode) (by decide)
    · intro same
      exact absurd (same ▸ mode) (by decide)
    · exact fun _ => none

theorem carries_human (mode : policy.mode = "human_required") : Carries policy required tally := by
  constructor
  · intro other
    exact absurd (mode ▸ other) (by decide)
  · intro other
    exact absurd (mode.symm.trans other) (by decide)
  · intro other
    exact absurd (mode.symm.trans other) (by decide)
  · intro other
    exact absurd (mode ▸ other) (by decide)

end Modes

section Shares

/-- A part that grows with its total is no smaller share. -/
theorem share_le_of_grow {part total more : Rat} (positive : 0 < total) (inside : part ≤ total)
    (grows : 0 ≤ more) : part / total ≤ (part + more) / (total + more) := by
  have larger : 0 < total + more := by linarith
  rw [div_le_div_iff₀ positive larger]
  nlinarith [mul_nonneg grows (sub_nonneg.mpr inside)]

/-- A part of a larger total is no larger share. -/
theorem share_le_of_larger {part total other : Rat} (positive : 0 < total) (larger : total ≤ other)
    (part_nonneg : 0 ≤ part) : part / other ≤ part / total :=
  div_le_div_of_nonneg_left part_nonneg positive larger

variable {policy : ConsensusPolicy Rat} {required : Int} {before after : Tally}

/-- One more approval. -/
structure Approved (before after : Tally) : Prop where
  approvals : after.approvals = before.approvals + 1
  rejections : after.rejections = before.rejections
  approvalWeight : before.approvalWeight ≤ after.approvalWeight
  rejectionWeight : after.rejectionWeight = before.rejectionWeight

/-- One more rejection. -/
structure Rejected (before after : Tally) : Prop where
  approvals : after.approvals = before.approvals
  rejections : after.rejections = before.rejections + 1
  approvalWeight : after.approvalWeight = before.approvalWeight
  rejectionWeight : before.rejectionWeight ≤ after.rejectionWeight

/-- An approval keeps what the mode asks. -/
theorem Carries.approved (carries : Carries policy required before) (more : Approved before after)
    (positive : 1 ≤ required) (opposed : 0 ≤ before.rejectionWeight) :
    Carries policy required after := by
  obtain ⟨approvals, rejections, approvalWeight, rejectionWeight⟩ := more
  constructor
  · intro mode
    have reached := carries.majority mode
    unfold Tally.total at reached ⊢
    omega
  · intro mode
    have reached := carries.supermajority mode
    have below : before.total required ≤ after.total required := by
      unfold Tally.total
      omega
    have above : after.total required ≤ before.total required + 1 := by
      unfold Tally.total
      omega
    have total : 1 ≤ before.total required := by
      unfold Tally.total
      omega
    have inside : (before.approvals : Int) ≤ before.total required := by
      unfold Tally.total
      omega
    have totalRat : (0 : Rat) < before.total required := by exact_mod_cast total
    calc max policy.threshold (2 / 3)
        ≤ (before.approvals : Rat) / (before.total required : Rat) := reached
      _ ≤ ((before.approvals : Rat) + 1) / ((before.total required : Rat) + 1) :=
          share_le_of_grow totalRat (by exact_mod_cast inside) zero_le_one
      _ ≤ ((before.approvals : Rat) + 1) / (after.total required : Rat) := by
          apply share_le_of_larger
          · exact_mod_cast lt_of_lt_of_le total below
          · exact_mod_cast above
          · positivity
      _ = (after.approvals : Rat) / (after.total required : Rat) := by
          rw [approvals]
          push_cast
          rfl
  · intro mode
    obtain ⟨weighs, reached⟩ := carries.weighted mode
    have grown : after.weight = before.weight + (after.approvalWeight - before.approvalWeight) := by
      unfold Tally.weight
      omega
    have inside : before.approvalWeight ≤ before.weight := by
      unfold Tally.weight
      omega
    refine ⟨by omega, ?_⟩
    calc policy.threshold ≤ (before.approvalWeight : Rat) / (before.weight : Rat) := reached
      _ ≤ ((before.approvalWeight : Rat) + (after.approvalWeight - before.approvalWeight)) /
            ((before.weight : Rat) + (after.approvalWeight - before.approvalWeight)) := by
          apply share_le_of_grow
          · exact_mod_cast weighs
          · exact_mod_cast inside
          · exact_mod_cast sub_nonneg.mpr approvalWeight
      _ = (after.approvalWeight : Rat) / (after.weight : Rat) := by
          rw [grown]
          push_cast
          rw [add_sub_cancel]
  · intro mode
    rw [rejections]
    exact carries.unopposed mode

/-- What the mode asks after a rejection, it had before, where the votes before had a weight or the
threshold is positive. -/
theorem Carries.rejected (carries : Carries policy required after) (more : Rejected before after)
    (positive : 1 ≤ required) (supports : 0 ≤ before.approvalWeight)
    (opposes : 0 ≤ before.rejectionWeight)
    (weighty : policy.mode = "weighted" → policy.threshold ≤ 0 → before.weight ≠ 0) :
    Carries policy required before := by
  obtain ⟨approvals, rejections, approvalWeight, rejectionWeight⟩ := more
  constructor
  · intro mode
    have reached := carries.majority mode
    unfold Tally.total at reached ⊢
    omega
  · intro mode
    have reached := carries.supermajority mode
    have below : before.total required ≤ after.total required := by
      unfold Tally.total
      omega
    have total : 1 ≤ before.total required := by
      unfold Tally.total
      omega
    calc max policy.threshold (2 / 3)
        ≤ (after.approvals : Rat) / (after.total required : Rat) := reached
      _ = (before.approvals : Rat) / (after.total required : Rat) := by rw [approvals]
      _ ≤ (before.approvals : Rat) / (before.total required : Rat) := by
          apply share_le_of_larger
          · exact_mod_cast total
          · exact_mod_cast below
          · positivity
  · intro mode
    obtain ⟨weighs, reached⟩ := carries.weighted mode
    have heavier : before.weight ≤ after.weight := by
      unfold Tally.weight
      omega
    have weight : 0 < before.weight := by
      rcases lt_or_ge 0 policy.threshold with supported | unsupported
      · have part : (0 : Rat) < (after.approvalWeight : Rat) / (after.weight : Rat) :=
          lt_of_lt_of_le supported reached
        have numerator : 0 < after.approvalWeight := by
          by_contra none
          have zero : after.approvalWeight = 0 := by omega
          rw [zero] at part
          simp at part
        unfold Tally.weight
        omega
      · have some := weighty mode unsupported
        unfold Tally.weight at some ⊢
        omega
    refine ⟨weight, ?_⟩
    calc policy.threshold ≤ (after.approvalWeight : Rat) / (after.weight : Rat) := reached
      _ = (before.approvalWeight : Rat) / (after.weight : Rat) := by rw [approvalWeight]
      _ ≤ (before.approvalWeight : Rat) / (before.weight : Rat) := by
          apply share_le_of_larger
          · exact_mod_cast weight
          · exact_mod_cast heavier
          · exact_mod_cast supports
  · intro mode
    have none := carries.unopposed mode
    omega

end Shares

section Reached

variable {review : ConsensusPolicy Rat → Except PyError ConsensusResult} {proposal : Proposal}
  {votes : List Vote} {policy : ConsensusPolicy Rat} {governancePolicy : GovernancePolicy}
  {now : UtcTime}

/-- Where a check stops the evaluation, the consensus is not reached. -/
theorem evaluateWith_checked {Threshold : Type} (quotients : Quotients Threshold)
    (review : ConsensusPolicy Threshold → Except PyError ConsensusResult)
    (policy : ConsensusPolicy Threshold) (governancePolicy : GovernancePolicy)
    (live : proposal.isExpired now = .ok false) (accepted : ∀ vote ∈ votes, ¬ Refuses vote) :
    (Decides proposal votes policy governancePolicy now ∧
      evaluateWith quotients review proposal votes policy governancePolicy now =
        decideMode quotients review (requiredApprovals proposal policy) votes policy) ∨
    (¬ Decides proposal votes policy governancePolicy now ∧
      ∃ result, evaluateWith quotients review proposal votes policy governancePolicy now =
        .ok result ∧ result.reached = false ∧ result.status ≠ "approved") := by
  unfold evaluateWith
  rw [live]
  simp only [bind, Except.bind, Bool.false_eq_true, if_false]
  split
  · rename_i outside
    refine .inr ⟨?_, _, rfl, rfl, by decide⟩
    intro decides
    exact decides.authority.elim outside.1 outside.2
  rename_i within
  split
  · rename_i none
    exact .inr ⟨fun decides => decides.cast none, _, rfl, rfl, by decide⟩
  rename_i cast
  rw [(checkVotes_ok_iff votes).mpr accepted]
  dsimp only
  split
  · rename_i escalated
    exact .inr ⟨fun decides => escalated decides.notEscalated, _, rfl, rfl, by
      show "escalated" ≠ "approved"
      decide⟩
  rename_i notEscalated
  split
  · rename_i rejected
    exact .inr ⟨fun decides => decides.notRejected rejected, _, rfl, rfl, by
      show "rejected" ≠ "approved"
      decide⟩
  rename_i notRejected
  split
  · rename_i missing
    exact .inr ⟨fun decides => missing decides.roles, _, rfl, rfl, by
      show "pending" ≠ "approved"
      decide⟩
  rename_i roles
  split
  · rename_i short
    exact .inr ⟨fun decides => absurd decides.enough (not_le.mpr short), _, rfl, rfl, by
      show "pending" ≠ "approved"
      decide⟩
  · rename_i enough
    refine .inl ⟨⟨live, ?_, cast, accepted, not_not.mp notEscalated, notRejected,
      not_not.mp roles, not_lt.mp enough⟩, rfl⟩
    tauto

/-- The role that a review asks for. -/
def reviewerOf (mode : String) : Option String :=
  if mode = "security_required" then some "security_reviewer"
  else if mode = "compliance_required" then some "compliance_reviewer"
  else none

/-- An approving vote of the role. -/
def ApprovedByRole (votes : List Vote) (role : String) : Prop :=
  ∃ vote ∈ votes, vote.vote = "approve" ∧ vote.voterRole = role

theorem missingRoles_eq_nil_iff :
    missingRoles policy votes = [] ↔ ∀ role ∈ policy.requiredRoles, ApprovedByRole votes role := by
  unfold missingRoles having ApprovedByRole
  rw [List.filter_eq_nil_iff]
  apply forall₂_congr
  intro role _
  simp only [decide_eq_true_eq, not_not, List.mem_map, List.mem_filter]
  constructor
  · rintro ⟨vote, ⟨member, approves⟩, same⟩
    exact ⟨vote, member, approves, same⟩
  · rintro ⟨vote, member, approves, same⟩
    exact ⟨vote, ⟨member, approves⟩, same⟩

/-- The votes reach the consensus of a policy, at whatever time. -/
structure Reaches (proposal : Proposal) (votes : List Vote) (policy : ConsensusPolicy Rat)
    (governancePolicy : GovernancePolicy) : Prop where
  authority : governancePolicy.riskWithinAgentAuthority proposal.riskLevel = true ∨
    policy.mode = "human_required"
  cast : votes ≠ []
  notEscalated : having "escalate" votes = []
  roles : ∀ role ∈ policy.requiredRoles, ApprovedByRole votes role
  reviewer : ∀ role, reviewerOf policy.mode = some role → ApprovedByRole votes role
  enough : requiredApprovals proposal policy ≤ ((tally votes).approvals : Int)
  carries : Carries policy (requiredApprovals proposal policy) (tally votes)

theorem Reaches.decides (reaches : Reaches proposal votes policy governancePolicy)
    (live : proposal.isExpired now = .ok false) (accepted : ∀ vote ∈ votes, ¬ Refuses vote) :
    Decides proposal votes policy governancePolicy now where
  live := live
  authority := reaches.authority
  cast := reaches.cast
  accepted := accepted
  notEscalated := reaches.notEscalated
  notRejected := by
    rintro ⟨opposed, mode⟩
    exact opposed (List.length_eq_zero_iff.mp (reaches.carries.unopposed mode))
  roles := missingRoles_eq_nil_iff.mpr reaches.roles
  enough := reaches.enough

/-- What the checks leave to the mode. -/
theorem Decides.reaches_iff (decides : Decides proposal votes policy governancePolicy now) :
    Reaches proposal votes policy governancePolicy ↔
      (∀ role, reviewerOf policy.mode = some role → ApprovedByRole votes role) ∧
        Carries policy (requiredApprovals proposal policy) (tally votes) := by
  constructor
  · intro reaches
    exact ⟨reaches.reviewer, reaches.carries⟩
  · rintro ⟨reviewer, carries⟩
    exact ⟨decides.authority, decides.cast, decides.notEscalated,
      missingRoles_eq_nil_iff.mp decides.roles, reviewer, decides.enough, carries⟩

/-- A result that is reached exactly when the votes reach the consensus, and that is approved only
when it is reached. -/
structure Tells (result : ConsensusResult) (reached : Prop) : Prop where
  reached_iff : result.reached = true ↔ reached
  approved : result.status = "approved" → result.reached = true

theorem tells_decided {reached : Prop} [Decidable reached] {reason : String} :
    Tells (decided votes (decide reached) reason) reached := by
  constructor
  · exact decide_eq_true_iff
  · intro approved
    by_contra missed
    have fails : decide reached = false := Bool.eq_false_iff.mpr missed
    rw [fails] at approved
    exact absurd approved (by
      show "pending" ≠ "approved"
      decide)

theorem Tells.congr {result : ConsensusResult} {first second : Prop} (tells : Tells result first)
    (same : first ↔ second) : Tells result second :=
  ⟨tells.reached_iff.trans same, tells.approved⟩

/-- A mode without a review tells whether the votes carry the policy. -/
theorem decideMode_tells (decides : Decides proposal votes policy governancePolicy now)
    (known : policy.mode ∈ consensusModes) (direct : policy.mode ∉ reviewModes)
    (positive : 1 ≤ requiredApprovals proposal policy) :
    ∃ result, decideMode exactQuotients review (requiredApprovals proposal policy) votes policy =
      .ok result ∧
      Tells result (Carries policy (requiredApprovals proposal policy) (tally votes)) := by
  have unopposed (mode : policy.mode ∈ unopposedModes) : (tally votes).rejections = 0 := by
    by_contra opposed
    exact decides.notRejected ⟨fun none => opposed (List.length_eq_zero_iff.mpr none), mode⟩
  simp only [consensusModes, List.mem_cons, List.not_mem_nil, or_false] at known
  unfold decideMode
  dsimp only
  rcases known with mode | mode | mode | mode | mode | mode | mode | mode
  · have carries : Carries policy (requiredApprovals proposal policy) (tally votes) :=
      (carries_unopposed_iff (mode ▸ by decide)).mpr (unopposed (mode ▸ by decide))
    rw [mode]
    exact ⟨_, rfl, iff_of_true rfl carries, fun _ => rfl⟩
  · rw [carries_majority_iff (mode ▸ by decide), mode]
    exact ⟨_, rfl, tells_decided⟩
  · have total : max (((having "approve" votes).length + (having "reject" votes).length : Nat) : Int)
        (requiredApprovals proposal policy) ≠ 0 := by
      omega
    rw [carries_supermajority_iff mode, mode, if_neg total]
    exact ⟨_, rfl, tells_decided⟩
  · rw [carries_unopposed_iff (mode ▸ by decide)]
    have none := unopposed (mode ▸ by decide)
    have enough := decides.enough
    rw [mode]
    refine ⟨_, rfl, tells_decided.congr (iff_of_true ?_ none)⟩
    have length : (having "reject" votes).length = 0 := none
    omega
  · rw [carries_weighted_iff mode, mode]
    refine ⟨_, rfl, tells_decided.congr ?_⟩
    unfold totalWeight
    rw [List.map_append, List.sum_append]
    exact and_congr_right fun _ => decide_eq_true_iff
  · rw [mode]
    exact ⟨_, rfl, iff_of_true rfl (carries_human mode), fun approved => absurd approved (by
      show "awaiting_human" ≠ "approved"
      decide)⟩
  · exact absurd (mode ▸ by decide) direct
  · exact absurd (mode ▸ by decide) direct

theorem reviewerOf_direct (direct : policy.mode ∉ reviewModes) : reviewerOf policy.mode = none := by
  simp only [reviewModes, List.mem_cons, List.not_mem_nil, or_false, not_or] at direct
  unfold reviewerOf
  rw [if_neg direct.1, if_neg direct.2]

/-- A review asks for an approval of its role and for a majority. -/
theorem review_tells {role : String} (reviewed : proposal.isExpired now = .ok false)
    (decides : Decides proposal votes policy governancePolicy now)
    (mode : policy.mode ∈ majorityModes) (reviewer : reviewerOf policy.mode = some role)
    (positive : 1 ≤ requiredApprovals proposal policy) :
    ∃ result, evaluateReview exactQuotients proposal votes governancePolicy now
        (reviewPolicy exactQuotients role (requiredApprovals proposal policy)) = .ok result ∧
      Tells result (Reaches proposal votes policy governancePolicy) := by
  let asked := reviewPolicy exactQuotients role (requiredApprovals proposal policy)
  have required : requiredApprovals proposal asked = requiredApprovals proposal policy := by
    show max (max policy.requiredApprovals proposal.requiredApprovals) proposal.requiredApprovals = _
    unfold requiredApprovals
    omega
  have needs : Reaches proposal votes policy governancePolicy ↔ ApprovedByRole votes role ∧
      Carries policy (requiredApprovals proposal policy) (tally votes) := by
    rw [decides.reaches_iff, reviewer]
    simp
  have authority : governancePolicy.riskWithinAgentAuthority proposal.riskLevel = true := by
    rcases decides.authority with inside | human
    · exact inside
    · rw [human] at mode
      exact absurd mode (by decide)
  unfold evaluateReview
  rcases evaluateWith_checked exactQuotients _ asked governancePolicy reviewed decides.accepted with
    ⟨asks, evaluated⟩ | ⟨fails, result, returned, missed, status⟩
  · have role : ApprovedByRole votes role := missingRoles_eq_nil_iff.mp asks.roles role (.head _)
    obtain ⟨result, decided, tells⟩ := decideMode_tells asks (by
        show "majority" ∈ consensusModes
        decide) (by
        show "majority" ∉ reviewModes
        decide) (required.symm ▸ positive)
    refine ⟨result, evaluated.trans decided, tells.congr ?_⟩
    have askedMode : asked.mode ∈ majorityModes := by
      show "majority" ∈ majorityModes
      decide
    rw [needs, carries_majority_iff mode, carries_majority_iff askedMode, required,
      and_iff_right role]
  · refine ⟨result, returned, ?_, fun approved => absurd approved status⟩
    rw [needs, missed]
    refine iff_of_false Bool.false_ne_true ?_
    rintro ⟨approvedBy, _⟩
    apply fails
    refine ⟨reviewed, .inl authority, decides.cast, decides.accepted, decides.notEscalated, ?_,
      missingRoles_eq_nil_iff.mpr ?_, required.symm ▸ decides.enough⟩
    · rintro ⟨_, opposed⟩
      exact absurd opposed (by
        show "majority" ∉ ["single_approver", "unanimous"]
        decide)
    · intro other member
      rw [List.mem_singleton.mp member]
      exact approvedBy

/-- The evaluation of a live proposal tells whether its votes reach the consensus. -/
theorem evaluate_tells (governancePolicy : GovernancePolicy) {evaluatedAt reviewedAt : UtcTime}
    (live : proposal.isExpired evaluatedAt = .ok false)
    (reviewed : proposal.isExpired reviewedAt = .ok false)
    (known : policy.mode ∈ consensusModes) (accepted : ∀ vote ∈ votes, ¬ Refuses vote)
    (positive : 1 ≤ requiredApprovals proposal policy) :
    ∃ result, evaluate exactQuotients proposal votes policy governancePolicy evaluatedAt
        reviewedAt = .ok result ∧
      Tells result (Reaches proposal votes policy governancePolicy) := by
  unfold evaluate
  rcases evaluateWith_checked exactQuotients _ policy governancePolicy live accepted with
    ⟨decides, evaluated⟩ | ⟨fails, result, returned, missed, status⟩
  · rw [evaluated]
    by_cases direct : policy.mode ∈ reviewModes
    · have decidesLater : Decides proposal votes policy governancePolicy reviewedAt :=
        { decides with live := reviewed }
      simp only [reviewModes, List.mem_cons, List.not_mem_nil, or_false] at direct
      unfold decideMode
      rcases direct with mode | mode
      · have reviewer : reviewerOf policy.mode = some "security_reviewer" := mode ▸ rfl
        have tells := review_tells reviewed decidesLater (mode ▸ by decide) reviewer positive
        rw [mode]
        exact tells
      · have reviewer : reviewerOf policy.mode = some "compliance_reviewer" := mode ▸ rfl
        have tells := review_tells reviewed decidesLater (mode ▸ by decide) reviewer positive
        rw [mode]
        exact tells
    · obtain ⟨result, returned, tells⟩ := decideMode_tells decides known direct positive
      refine ⟨result, returned, tells.congr ?_⟩
      rw [decides.reaches_iff, reviewerOf_direct direct]
      simp
  · refine ⟨result, returned, ?_, fun approved => absurd approved status⟩
    rw [missed]
    exact iff_of_false Bool.false_ne_true fun reaches => fails (reaches.decides live accepted)

end Reached

section Votes

variable {votes others : List Vote}

section

variable (perm : votes.Perm others)
include perm

theorem having_perm (kind : String) : (having kind votes).Perm (having kind others) := perm.filter _

theorem counted_perm : counted votes = counted others := by
  funext reached status reason
  unfold counted
  rw [(having_perm perm "approve").length_eq, (having_perm perm "reject").length_eq,
    (having_perm perm "abstain").length_eq]

theorem having_eq_nil_perm (kind : String) : having kind votes = [] ↔ having kind others = [] := by
  rw [← List.length_eq_zero_iff, ← List.length_eq_zero_iff, (having_perm perm kind).length_eq]

end

variable {Threshold : Type} {quotients : Quotients Threshold}

theorem missingRoles_perm (perm : votes.Perm others) (policy : ConsensusPolicy Threshold) :
    missingRoles policy votes = missingRoles policy others := by
  unfold missingRoles
  congr 1
  funext role
  exact decide_eq_decide.mpr (not_congr ((having_perm perm "approve").map Vote.voterRole).mem_iff)

variable {review other : ConsensusPolicy Threshold → Except PyError ConsensusResult}

section

variable (perm : votes.Perm others)
include perm

theorem decideMode_perm (same : review = other) (required : Int)
    (policy : ConsensusPolicy Threshold) :
    decideMode quotients review required votes policy =
      decideMode quotients other required others policy := by
  have weights : totalWeight (having "approve" votes) = totalWeight (having "approve" others) :=
    ((having_perm perm "approve").map Vote.weight).sum_eq
  have total : totalWeight (having "approve" votes ++ having "reject" votes) =
      totalWeight (having "approve" others ++ having "reject" others) :=
    (((having_perm perm "approve").append (having_perm perm "reject")).map Vote.weight).sum_eq
  unfold decideMode decided
  rw [same, counted_perm perm, weights, total, (having_perm perm "approve").length_eq,
    (having_perm perm "reject").length_eq]

/-- The order of accepted votes does not matter. -/
theorem evaluateWith_perm (accepted : ∀ vote ∈ votes, ¬ Refuses vote)
    (same : review = other) (proposal : Proposal) (policy : ConsensusPolicy Threshold)
    (governancePolicy : GovernancePolicy) (now : UtcTime) :
    evaluateWith quotients review proposal votes policy governancePolicy now =
      evaluateWith quotients other proposal others policy governancePolicy now := by
  have acceptedToo : ∀ vote ∈ others, ¬ Refuses vote :=
    fun vote member => accepted vote (perm.mem_iff.mpr member)
  have empty : votes = [] ↔ others = [] := by
    rw [← List.length_eq_zero_iff, ← List.length_eq_zero_iff, perm.length_eq]
  unfold evaluateWith
  simp only [(checkVotes_ok_iff votes).mpr accepted, (checkVotes_ok_iff others).mpr acceptedToo,
    empty, ne_eq, having_eq_nil_perm perm, missingRoles_perm perm, counted_perm perm,
    (having_perm perm "approve").length_eq, decideMode_perm perm same]

theorem evaluate_perm (accepted : ∀ vote ∈ votes, ¬ Refuses vote)
    (proposal : Proposal) (policy : ConsensusPolicy Threshold)
    (governancePolicy : GovernancePolicy) (evaluatedAt reviewedAt : UtcTime) :
    evaluate quotients proposal votes policy governancePolicy evaluatedAt reviewedAt =
      evaluate quotients proposal others policy governancePolicy evaluatedAt reviewedAt := by
  apply evaluateWith_perm perm accepted
  funext asked
  exact evaluateWith_perm perm accepted rfl proposal asked governancePolicy reviewedAt

end

/-- One more vote is counted under its kind. -/
theorem having_cons (vote : Vote) (kind : String) :
    having kind (vote :: votes) =
      if vote.vote = kind then vote :: having kind votes else having kind votes := by
  unfold having
  rw [List.filter_cons]
  by_cases same : vote.vote = kind <;> simp [same]

theorem totalWeight_nonneg (weights : ∀ vote ∈ votes, 0 ≤ vote.weight) (kind : String) :
    0 ≤ totalWeight (having kind votes) := by
  apply List.sum_nonneg
  intro weight member
  obtain ⟨vote, inside, rfl⟩ := List.mem_map.mp member
  exact weights vote (List.mem_of_mem_filter inside)

variable {vote : Vote}

theorem tally_approve (approves : vote.vote = "approve") (weight : 0 ≤ vote.weight) :
    Approved (tally votes) (tally (vote :: votes)) := by
  have different : ¬ vote.vote = "reject" := by
    rw [approves]
    decide
  unfold tally
  rw [having_cons, having_cons, if_pos approves, if_neg different]
  refine ⟨rfl, rfl, ?_, rfl⟩
  show totalWeight (having "approve" votes) ≤ ((vote :: having "approve" votes).map Vote.weight).sum
  rw [List.map_cons, List.sum_cons]
  unfold totalWeight
  omega

theorem tally_reject (rejects : vote.vote = "reject") (weight : 0 ≤ vote.weight) :
    Rejected (tally votes) (tally (vote :: votes)) := by
  have different : ¬ vote.vote = "approve" := by
    rw [rejects]
    decide
  unfold tally
  rw [having_cons, having_cons, if_pos rejects, if_neg different]
  refine ⟨rfl, rfl, rfl, ?_⟩
  show totalWeight (having "reject" votes) ≤ ((vote :: having "reject" votes).map Vote.weight).sum
  rw [List.map_cons, List.sum_cons]
  unfold totalWeight
  omega

theorem ApprovedByRole.cons {role : String} (approved : ApprovedByRole votes role) (vote : Vote) :
    ApprovedByRole (vote :: votes) role := by
  obtain ⟨other, member, facts⟩ := approved
  exact ⟨other, List.mem_cons_of_mem _ member, facts⟩

theorem ApprovedByRole.of_reject {role : String} (rejects : vote.vote = "reject")
    (approved : ApprovedByRole (vote :: votes) role) : ApprovedByRole votes role := by
  obtain ⟨other, member, approves, same⟩ := approved
  rcases List.mem_cons.mp member with rfl | inside
  · rw [rejects] at approves
    exact absurd approves (by decide)
  · exact ⟨other, inside, approves, same⟩

variable {proposal : Proposal} {policy : ConsensusPolicy Rat} {governancePolicy : GovernancePolicy}

/-- A reached consensus stays reached with one more approval. -/
theorem Reaches.approve (reaches : Reaches proposal votes policy governancePolicy)
    (approves : vote.vote = "approve") (weight : 0 ≤ vote.weight)
    (weights : ∀ vote ∈ votes, 0 ≤ vote.weight)
    (positive : 1 ≤ requiredApprovals proposal policy) :
    Reaches proposal (vote :: votes) policy governancePolicy := by
  have more : Approved (tally votes) (tally (vote :: votes)) := tally_approve approves weight
  have counts := more.approvals
  have enough := reaches.enough
  have notEscalated : ¬ vote.vote = "escalate" := by
    rw [approves]
    decide
  constructor
  · exact reaches.authority
  · exact List.cons_ne_nil _ _
  · rw [having_cons, if_neg notEscalated]
    exact reaches.notEscalated
  · exact fun role member => (reaches.roles role member).cons vote
  · exact fun role asked => (reaches.reviewer role asked).cons vote
  · omega
  · exact reaches.carries.approved more positive (totalWeight_nonneg weights "reject")

/-- A consensus that is reached with one more rejection was reached before, where the votes before
had a weight or the threshold is positive. -/
theorem Reaches.of_reject (reaches : Reaches proposal (vote :: votes) policy governancePolicy)
    (rejects : vote.vote = "reject") (weight : 0 ≤ vote.weight)
    (weights : ∀ vote ∈ votes, 0 ≤ vote.weight)
    (positive : 1 ≤ requiredApprovals proposal policy)
    (weighty : policy.mode = "weighted" → policy.threshold ≤ 0 → (tally votes).weight ≠ 0) :
    Reaches proposal votes policy governancePolicy := by
  have more : Rejected (tally votes) (tally (vote :: votes)) := tally_reject rejects weight
  have counts := more.approvals
  have enough := reaches.enough
  have notEscalated : ¬ vote.vote = "escalate" := by
    rw [rejects]
    decide
  constructor
  · exact reaches.authority
  · intro none
    rw [none] at counts enough
    have zero : (tally []).approvals = 0 := rfl
    omega
  · have escalated := reaches.notEscalated
    rw [having_cons, if_neg notEscalated] at escalated
    exact escalated
  · exact fun role member => (reaches.roles role member).of_reject rejects
  · exact fun role asked => (reaches.reviewer role asked).of_reject rejects
  · omega
  · exact reaches.carries.rejected more positive (totalWeight_nonneg weights "approve")
      (totalWeight_nonneg weights "reject") weighty

end Votes

/-- What an approved result says about the votes. -/
structure ApprovedBy (proposal : Proposal) (votes : List Vote) (policy : ConsensusPolicy Rat) :
    Prop where
  enough : requiredApprovals proposal policy ≤ ((having "approve" votes).length : Int)
  roles : ∀ role ∈ policy.requiredRoles, ApprovedByRole votes role
  reviewer : ∀ role, reviewerOf policy.mode = some role → ApprovedByRole votes role
  majority : policy.mode ∈ majorityModes →
    (having "reject" votes).length < (having "approve" votes).length
  supermajority : policy.mode = "supermajority" →
    2 * (having "reject" votes).length ≤ (having "approve" votes).length
  unopposed : policy.mode ∈ unopposedModes → having "reject" votes = []

theorem Reaches.approvedBy {proposal : Proposal} {votes : List Vote} {policy : ConsensusPolicy Rat}
    {governancePolicy : GovernancePolicy}
    (reaches : Reaches proposal votes policy governancePolicy)
    (positive : 1 ≤ requiredApprovals proposal policy) : ApprovedBy proposal votes policy where
  enough := reaches.enough
  roles := reaches.roles
  reviewer := reaches.reviewer
  majority := by
    intro mode
    have reached := reaches.carries.majority mode
    unfold Tally.total tally at reached
    dsimp only at reached
    omega
  supermajority := by
    intro mode
    let approvals := (having "approve" votes).length
    let rejections := (having "reject" votes).length
    let total := max ((approvals + rejections : Nat) : Int) (requiredApprovals proposal policy)
    have reached : (2 / 3 : Rat) ≤ (approvals : Rat) / (total : Rat) :=
      le_trans (le_max_right _ _) (reaches.carries.supermajority mode)
    have filled : (0 : Rat) < (total : Rat) := by
      have some : 0 < total := lt_of_lt_of_le positive (le_max_right _ _)
      exact_mod_cast some
    rw [div_le_div_iff₀ (by norm_num) filled] at reached
    have whole : 2 * total ≤ (approvals : Int) * 3 := by exact_mod_cast reached
    have counted : ((approvals + rejections : Nat) : Int) ≤ total := le_max_left _ _
    show 2 * rejections ≤ approvals
    omega
  unopposed := fun mode => List.length_eq_zero_iff.mp (reaches.carries.unopposed mode)

/-- A vote that may be added: an authorised role casts it with a weight that is not negative. -/
structure Authorised (vote : Vote) : Prop where
  role : vote.voterRole ∈ authorizedVotingRoles
  weight : 0 ≤ vote.weight

theorem Authorised.accepted {vote : Vote} (authorised : Authorised vote)
    (kind : vote.vote ∈ supportedVotes) : ¬ Refuses vote := by
  rintro (role | unknown)
  · exact role authorised.role
  · exact unknown kind

/-- The evaluation of a live proposal returns, an approval keeps a reached consensus, a rejection
reaches none unless the votes of a weighted policy without a positive threshold have no weight yet,
the order of the votes does not matter, and an approved result has the votes that its policy asks
for. -/
theorem evaluate_laws (proposal : Proposal) (votes : List Vote) (policy : ConsensusPolicy Rat)
    (governancePolicy : GovernancePolicy) (evaluatedAt reviewedAt : UtcTime)
    (live : proposal.isExpired evaluatedAt = .ok false)
    (reviewed : proposal.isExpired reviewedAt = .ok false)
    (known : policy.mode ∈ consensusModes)
    (authorised : ∀ vote ∈ votes, Authorised vote ∧ vote.vote ∈ supportedVotes)
    (positive : 1 ≤ requiredApprovals proposal policy) :
    ∃ result, evaluate exactQuotients proposal votes policy governancePolicy evaluatedAt
        reviewedAt = .ok result ∧
      (∀ vote, vote.vote = "approve" → Authorised vote → ∃ later,
        evaluate exactQuotients proposal (vote :: votes) policy governancePolicy evaluatedAt
          reviewedAt = .ok later ∧ (result.reached = true → later.reached = true)) ∧
      (∀ vote, vote.vote = "reject" → Authorised vote → ∃ later,
        evaluate exactQuotients proposal (vote :: votes) policy governancePolicy evaluatedAt
          reviewedAt = .ok later ∧
        (¬ (policy.mode = "weighted" ∧ policy.threshold ≤ 0 ∧
            totalWeight (having "approve" votes) + totalWeight (having "reject" votes) = 0) →
          later.reached = true → result.reached = true)) ∧
      (∀ others, votes.Perm others →
        evaluate exactQuotients proposal others policy governancePolicy evaluatedAt reviewedAt =
          .ok result) ∧
      (result.status = "approved" → ApprovedBy proposal votes policy) := by
  have accepted : ∀ vote ∈ votes, ¬ Refuses vote :=
    fun vote member => (authorised vote member).1.accepted (authorised vote member).2
  have weights : ∀ vote ∈ votes, 0 ≤ vote.weight :=
    fun vote member => (authorised vote member).1.weight
  have more (vote : Vote) (kind : vote.vote ∈ supportedVotes) (allowed : Authorised vote) :
      ∀ other ∈ vote :: votes, ¬ Refuses other := by
    intro other member
    rcases List.mem_cons.mp member with rfl | inside
    · exact allowed.accepted kind
    · exact accepted other inside
  obtain ⟨result, returned, tells⟩ :=
    evaluate_tells governancePolicy live reviewed known accepted positive
  refine ⟨result, returned, ?_, ?_, ?_, ?_⟩
  · intro vote approves allowed
    obtain ⟨later, evaluated, tellsLater⟩ := evaluate_tells governancePolicy live reviewed known
      (more vote (approves ▸ by decide) allowed) positive
    refine ⟨later, evaluated, ?_⟩
    rw [tells.reached_iff, tellsLater.reached_iff]
    intro reaches
    exact reaches.approve approves allowed.weight weights positive
  · intro vote rejects allowed
    obtain ⟨later, evaluated, tellsLater⟩ := evaluate_tells governancePolicy live reviewed known
      (more vote (rejects ▸ by decide) allowed) positive
    refine ⟨later, evaluated, ?_⟩
    rw [tells.reached_iff, tellsLater.reached_iff]
    intro weighty reaches
    apply reaches.of_reject rejects allowed.weight weights positive
    intro mode threshold weightless
    exact weighty ⟨mode, threshold, weightless⟩
  · intro others perm
    rw [← evaluate_perm perm accepted]
    exact returned
  · intro approved
    exact (tells.reached_iff.mp (tells.approved approved)).approvedBy positive

section Example

/-- A proposal of low risk that one approval can carry. -/
def lowRiskProposal : Proposal where
  tenantId := "tenant-a"
  organizationId := "org-a"
  proposingAgentId := "agent-1"
  targetOrgId := "org-a"
  actionType := "tool_call"
  riskLevel := "low"
  requiredApprovals := 1
  createdBy := "user-1"
  targetTeamId := none
  veilTrustMetadataRef := none
  consensusMode := "weighted"
  status := "pending"
  proposalId := "proposal-1"
  createdAt := UtcTime.first.toDateTime
  updatedAt := UtcTime.first.toDateTime
  expiresAt := UtcTime.first.toDateTime
  executedAction := none

def lowRiskPolicy : GovernancePolicy where
  policyId := "policy-1"
  tenantId := "tenant-a"
  organizationId := "org-a"
  maxAgentAuthorityRisk := "medium"
  humanRequiredRisks := ["high", "critical"]
  securityRequiredActions := []
  complianceRequiredActions := []
  highRiskSelfApprovalAllowed := false

def reviewerVote (voteId kind : String) (weight : Int) : Vote where
  proposalId := "proposal-1"
  tenantId := "tenant-a"
  voterAgentId := voteId
  voterRole := "reviewer"
  vote := kind
  weight := weight
  reason := ""
  voteId := voteId
  createdAt := UtcTime.first.toDateTime

/-- A weighted policy that asks for no share. -/
def weightedPolicy : ConsensusPolicy Rat := ⟨"weighted", 0, [], 1⟩

def twoApprovals : List Vote := [reviewerVote "vote-1" "approve" 1, reviewerVote "vote-2" "approve" 1]

def supermajorityPolicy : ConsensusPolicy Rat := ⟨"supermajority", 2 / 3, [], 2⟩

/-- Two approvals carry a supermajority policy. -/
theorem evaluate_laws_supermajority :
    (∃ result, evaluate exactQuotients lowRiskProposal twoApprovals supermajorityPolicy
        lowRiskPolicy UtcTime.first UtcTime.first = .ok result ∧ result.status = "approved") ∧
      ApprovedBy lowRiskProposal twoApprovals supermajorityPolicy := by
  have authorised : ∀ vote ∈ twoApprovals, Authorised vote ∧ vote.vote ∈ supportedVotes := by
    intro vote member
    simp only [twoApprovals, List.mem_cons, List.not_mem_nil, or_false] at member
    rcases member with rfl | rfl
    · exact ⟨⟨by decide, by decide⟩, by decide⟩
    · exact ⟨⟨by decide, by decide⟩, by decide⟩
  obtain ⟨result, returned, _, _, _, approvedBy⟩ := evaluate_laws lowRiskProposal twoApprovals
    supermajorityPolicy lowRiskPolicy UtcTime.first UtcTime.first rfl rfl (by decide) authorised
    (by decide)
  have computed : (evaluate exactQuotients lowRiskProposal twoApprovals supermajorityPolicy
      lowRiskPolicy UtcTime.first UtcTime.first).toOption.map ConsensusResult.status =
        some "approved" := by
    decide +kernel
  rw [returned] at computed
  have approved : result.status = "approved" := Option.some.inj computed
  exact ⟨⟨result, returned, approved⟩, approvedBy approved⟩

/-- A rejection with a weight reaches what approvals without a weight do not. -/
theorem evaluate_rejection_reaches :
    ∃ missed reached, evaluate exactQuotients lowRiskProposal [reviewerVote "vote-1" "approve" 0]
        weightedPolicy lowRiskPolicy UtcTime.first UtcTime.first = .ok missed ∧
      evaluate exactQuotients lowRiskProposal
        [reviewerVote "vote-2" "reject" 1, reviewerVote "vote-1" "approve" 0]
        weightedPolicy lowRiskPolicy UtcTime.first UtcTime.first = .ok reached ∧
      missed.reached = false ∧ reached.reached = true ∧ reached.status = "approved" :=
  ⟨_, _, rfl, rfl, by decide +kernel, by decide +kernel, by decide +kernel⟩

end Example

end AgentFabric.Governance.ConsensusEngine
