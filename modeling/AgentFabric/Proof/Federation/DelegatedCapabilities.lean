import AgentFabric.Foundation.Comprehension
import AgentFabric.Proof.Federation.LifeCycles

namespace AgentFabric.Federation
open Cloud

namespace CapabilityExchange

variable {agreement : TrustAgreement} {policy : FederationPolicy}
  {checkPolicy : PolicyCheckRequest → Except PyError PolicyCheckResponse}

/-- A visible agent shows only capabilities that both rules permit. -/
theorem filterAgent_permits {agent shown : CatalogAgent}
    (visible : filterAgent agreement policy checkPolicy agent = .ok (some shown)) :
    ∀ capability ∈ shown.capabilities, permits agreement policy capability = true := by
  unfold filterAgent at visible
  by_cases excluded : policy.excludes agent = true
  · rw [if_pos excluded] at visible
    cases visible
  · rw [if_neg excluded] at visible
    by_cases empty : (agent.capabilities.filter (permits agreement policy)).isEmpty = true
    · rw [if_pos empty] at visible
      cases visible
    · rw [if_neg empty] at visible
      obtain ⟨response, _, answer⟩ := bind_eq_ok_iff.mp visible
      by_cases allowed : response.allowed = true
      · rw [if_pos allowed] at answer
        cases answer
        intro capability member
        exact (List.mem_filter.mp member).2
      · rw [if_neg allowed] at answer
        cases answer

theorem filterCatalog_permits {now : UtcTime} {agents visible : List CatalogAgent}
    (returned : filterCatalog agreement policy checkPolicy now agents = .ok visible) :
    ∀ shown ∈ visible, ∀ capability ∈ shown.capabilities,
      permits agreement policy capability = true := by
  obtain ⟨active, _, answer⟩ := bind_eq_ok_iff.mp returned
  cases active with
  | false => cases answer
  | true =>
      obtain ⟨filtered, converted, same⟩ := bind_eq_ok_iff.mp answer
      obtain rfl := Except.ok.inj same
      intro shown member
      obtain ⟨agent, _, answered⟩ :=
        Comprehension.exists_of_mem_mapM converted (List.reduceOption_mem_iff.mp member)
      exact filterAgent_permits answered

/-- Some catalog shows the capability to the tenant, under some policy and some policy service. -/
def Discoverable (agreement : TrustAgreement) (capability : String) : Prop :=
  ∃ policy checkPolicy now agents visible,
    filterCatalog agreement policy checkPolicy now agents = .ok visible ∧
      ∃ shown ∈ visible, ∃ offered ∈ shown.capabilities, offered.name = capability

/-- A policy without restrictions. -/
def openPolicy (tenantId organizationId : String) : FederationPolicy where
  tenantId := tenantId
  organizationId := organizationId
  allowedCapabilities := []
  deniedCapabilities := []
  permittedDataClasses := ["public", "internal"]
  allowedWorkflowTypes := []
  minReputationScore := 0
  blockedRemoteOrgs := []
  blockedRemoteAgents := []
  blockedPublishers := []
  compromisedKeys := []

/-- The agent of the remote organization that offers one capability. -/
def soleAgent (agreement : TrustAgreement) (capability : String) : CatalogAgent where
  tenantId := agreement.tenantId
  organizationId := agreement.organizationId
  remoteOrgId := agreement.remoteOrgId
  remoteAgentId := "remote-agent"
  name := "Remote agent"
  capabilities := [⟨capability, "1.0.0", [], [], true⟩]
  reputationScore := 1
  publisherId := ""
  blocked := false
  catalogId := "remote-agent-1"
  importedAt := agreement.createdAt

/-- Discovery under an active agreement is decided by its capability rule. -/
theorem discoverable_iff {now : UtcTime} (active : agreement.isActive now = .ok true)
    (capability : String) :
    Discoverable agreement capability ↔ agreement.allowsCapability capability = true := by
  constructor
  · rintro ⟨policy, checkPolicy, reading, agents, visible, returned, shown, member, offered,
      inside, rfl⟩
    have permitted := filterCatalog_permits returned shown member offered inside
    simp only [permits, Bool.and_eq_true] at permitted
    exact permitted.1.1.1.2
  · intro allowed
    have permitted : permits agreement (openPolicy "" "") ⟨capability, "1.0.0", [], [], true⟩ =
        true := by
      simp [permits, allowed, openPolicy, FederationPolicy.allowsCapability]
    have kept : (soleAgent agreement capability).capabilities.filter
        (permits agreement (openPolicy "" "")) = [⟨capability, "1.0.0", [], [], true⟩] := by
      rw [soleAgent, List.filter_cons_of_pos permitted, List.filter_nil]
    have included : (openPolicy "" "").excludes (soleAgent agreement capability) = false := by
      simp only [FederationPolicy.excludes, openPolicy, soleAgent, List.not_mem_nil,
        decide_false, Bool.false_or, Bool.and_false, Bool.or_false]
      exact decide_eq_false (not_lt.mpr zero_le_one)
    refine ⟨openPolicy "" "", fun _ => .ok ⟨true, ""⟩, now, [soleAgent agreement capability],
      [soleAgent agreement capability], ?_, soleAgent agreement capability, List.mem_singleton_self _,
      ⟨capability, "1.0.0", [], [], true⟩, List.mem_singleton_self _, rfl⟩
    have shown : filterAgent agreement (openPolicy "" "") (fun _ => .ok ⟨true, ""⟩)
        (soleAgent agreement capability) = .ok (some (soleAgent agreement capability)) := by
      rw [filterAgent, included, if_neg Bool.false_ne_true, kept]
      rfl
    unfold filterCatalog
    rw [active, List.mapM_cons, shown]
    rfl

end CapabilityExchange

namespace FederationState
open CapabilityExchange

variable (settings : FederationSettings) (now : Nat → UtcTime) (federation : FederationState)
  (delegation : RemoteDelegation)

/-- The refusal of the agreement check. -/
def notAllowed : PyError := .authorizationError "delegation capability is not allowed by agreement"

/-- In some circumstances the agreement check does not refuse the request. -/
def PassesAgreementCheck : Prop :=
  ∃ sending ids governanceApproved,
    (federation.requestDelegation settings now delegation sending ids governanceApproved).1 ≠
      .error notAllowed

variable {settings now federation delegation} {agreement : TrustAgreement}

section

variable (stored : federation.agreements.get? delegation.trustAgreementId = some agreement)
include stored

/-- The agreement check refuses the task types outside of the allow list. -/
theorem requestDelegation_refused
    (active : federation.assertActive now agreement = (.ok (), federation))
    (outside : delegation.taskType ∉ agreement.allowedCapabilities) (sending : Sending)
    (ids : MessageIds) (governanceApproved : Bool) :
    federation.requestDelegation settings now delegation sending ids governanceApproved =
      (.error notAllowed, federation) := by
  simp only [requestDelegation, stored, active]
  rw [checkDelegation, if_pos outside]
  rfl

theorem passesAgreementCheck_iff
    (active : federation.assertActive now agreement = (.ok (), federation)) :
    PassesAgreementCheck settings now federation delegation ↔
      delegation.taskType ∈ agreement.allowedCapabilities := by
  constructor
  · rintro ⟨sending, ids, governanceApproved, passed⟩
    by_contra outside
    rw [requestDelegation_refused stored active outside] at passed
    exact passed rfl
  · intro inside
    refine ⟨⟨"", fun _ => .error (.typeError ""), ""⟩, ⟨"", "", ""⟩, true, ?_⟩
    simp only [requestDelegation, stored, active]
    rw [checkDelegation, if_neg (not_not.mpr inside), if_neg (by simp)]
    by_cases sensitive : (delegation.payload.any fun field => sensitiveKey field.1) = true
    · rw [if_pos sensitive]
      simp [notAllowed]
    · rw [if_neg sensitive]
      simp [notAllowed, bind, Except.bind]

end

/-- The agreement of a request passes its check before any other check. -/
theorem assertActive_isActive
    (active : federation.assertActive now agreement = (.ok (), federation)) :
    agreement.isActive (now 1) = .ok true := by
  unfold assertActive at active
  cases expiry : agreement.isExpired (now 0) with
  | error error =>
      rw [expiry] at active
      cases active
  | ok expired =>
      rw [expiry] at active
      cases expired with
      | true => cases active
      | false =>
          cases answer : agreement.isActive (now 1) with
          | error error =>
              rw [answer] at active
              cases active
          | ok activity =>
              rw [answer] at active
              cases activity with
              | false => cases active
              | true => rfl

variable (settings now federation delegation)

/-- The request asks for the work of the organization that the agreement is about. -/
def SameParties (agreement : TrustAgreement) : Prop :=
  delegation.tenantId = agreement.tenantId ∧ delegation.remoteOrgId = agreement.remoteOrgId

/-- The agreement check decides as discovery does, and only for the parties of the agreement. -/
structure FollowsDiscovery (agreement : TrustAgreement) : Prop where
  check : PassesAgreementCheck settings now federation delegation ↔
    agreement.allowsCapability delegation.taskType = true ∧ SameParties delegation agreement
  hidden : ¬ Discoverable agreement delegation.taskType → ∀ sending ids governanceApproved,
    (federation.requestDelegation settings now delegation sending ids governanceApproved).1 ≠ .ok ()
  shown : Discoverable agreement delegation.taskType → SameParties delegation agreement →
    PassesAgreementCheck settings now federation delegation

/-- The allow list alone answers as the rule of discovery for this request. -/
def AllowListDecides (agreement : TrustAgreement) : Prop :=
  if delegation.taskType ∈ agreement.allowedCapabilities then
    delegation.taskType ∉ agreement.deniedCapabilities ∧ SameParties delegation agreement
  else
    agreement.allowedCapabilities ≠ [] ∨ delegation.taskType ∈ agreement.deniedCapabilities ∨
      ¬ SameParties delegation agreement

/-- A request under a stored and active agreement follows discovery exactly when the allow list
decides it. -/
theorem requestDelegation_followsDiscovery_iff :
    (∀ agreement, federation.agreements.get? delegation.trustAgreementId = some agreement →
      federation.assertActive now agreement = (.ok (), federation) →
      FollowsDiscovery settings now federation delegation agreement) ↔
    ∀ agreement, federation.agreements.get? delegation.trustAgreementId = some agreement →
      federation.assertActive now agreement = (.ok (), federation) →
      AllowListDecides delegation agreement := by
  refine forall_congr' fun agreement => forall_congr' fun stored => forall_congr' fun active => ?_
  have passes : PassesAgreementCheck settings now federation delegation ↔
      delegation.taskType ∈ agreement.allowedCapabilities := passesAgreementCheck_iff stored active
  have discovers := discoverable_iff (assertActive_isActive active) delegation.taskType
  constructor
  · intro follows
    have check := follows.check
    rw [passes, TrustAgreement.allowsCapability_iff] at check
    unfold AllowListDecides
    by_cases inside : delegation.taskType ∈ agreement.allowedCapabilities
    · rw [if_pos inside]
      obtain ⟨⟨permitted, _⟩, same⟩ := check.mp inside
      exact ⟨permitted, same⟩
    · rw [if_neg inside]
      by_contra undecided
      push Not at undecided
      obtain ⟨empty, permitted, same⟩ := undecided
      exact inside (check.mpr ⟨⟨permitted, .inl empty⟩, same⟩)
  · intro decides
    have check : PassesAgreementCheck settings now federation delegation ↔
        agreement.allowsCapability delegation.taskType = true ∧
          SameParties delegation agreement := by
      rw [passes, TrustAgreement.allowsCapability_iff]
      unfold AllowListDecides at decides
      by_cases inside : delegation.taskType ∈ agreement.allowedCapabilities
      · rw [if_pos inside] at decides
        exact iff_of_true inside ⟨⟨decides.1, .inr inside⟩, decides.2⟩
      · rw [if_neg inside] at decides
        refine iff_of_false inside ?_
        rintro ⟨⟨permitted, empty | member⟩, same⟩
        · obtain listed | denied | different := decides
          · exact listed empty
          · exact permitted denied
          · exact different same
        · exact inside member
    refine ⟨check, ?_, ?_⟩
    · intro hidden sending ids governanceApproved
      have outside : delegation.taskType ∉ agreement.allowedCapabilities := by
        intro inside
        exact hidden (discovers.mpr (check.mp (passes.mpr inside)).1)
      rw [requestDelegation_refused stored active outside]
      simp
    · intro shown same
      exact check.mpr ⟨discovers.mp shown, same⟩

section Example

/-- The agreement allows and denies one capability. -/
def contradictoryAgreement : TrustAgreement :=
  { RouterState.plainAgreement "active" with
    allowedCapabilities := ["research"], deniedCapabilities := ["research"] }

/-- The request of the capability under this agreement. -/
def researchRequest : RemoteDelegation where
  tenantId := "tenant-a"
  organizationId := "org-a"
  trustAgreementId := "fed-agree-1"
  remoteOrgId := "org-b"
  sourceAgentId := "agent-1"
  destinationAgentId := "remote-agent"
  taskType := "research"
  payload := []
  createdBy := "owner"
  status := "requested"
  delegationId := "fed-del-1"
  receiptId := none
  result := []
  rejectionReason := ""
  createdAt := UtcTime.first.toDateTime
  updatedAt := UtcTime.first.toDateTime

/-- The denied capability is hidden from discovery and passes the agreement check. -/
theorem deniedCapability_delegated :
    (initial.putAgreement contradictoryAgreement).agreements.get?
        researchRequest.trustAgreementId = some contradictoryAgreement ∧
      (initial.putAgreement contradictoryAgreement).assertActive (fun _ => .first)
        contradictoryAgreement = (.ok (), initial.putAgreement contradictoryAgreement) ∧
      ¬ FollowsDiscovery plainSettings (fun _ => .first)
        (initial.putAgreement contradictoryAgreement) researchRequest contradictoryAgreement := by
  have stored : (initial.putAgreement contradictoryAgreement).agreements.get?
      researchRequest.trustAgreementId = some contradictoryAgreement := rfl
  have active : (initial.putAgreement contradictoryAgreement).assertActive (fun _ => .first)
      contradictoryAgreement = (.ok (), initial.putAgreement contradictoryAgreement) := rfl
  refine ⟨stored, active, ?_⟩
  intro follows
  have passes : PassesAgreementCheck plainSettings (fun _ => .first)
      (initial.putAgreement contradictoryAgreement) researchRequest :=
    (passesAgreementCheck_iff stored active).mpr (List.mem_singleton_self _)
  have allowed := (follows.check.mp passes).1
  revert allowed
  decide

end Example

end FederationState

end AgentFabric.Federation
