import AgentFabric.Construction.Federation.FederationService
import AgentFabric.Proof.Federation.MessageReplay

namespace AgentFabric.Federation.FederationState

/-- What one call does to the agreements. -/
inductive AgreementChange (federation : FederationState) (call : FederationCall) :
    Dict String TrustAgreement → Prop
  | kept : AgreementChange federation call federation.agreements
  | created {agreement : TrustAgreement} (operation : call.operation = .createAgreement agreement) :
      AgreementChange federation call (federation.agreements.set agreement.agreementId agreement)
  | expired (agreement : TrustAgreement) (updatedAt : UtcTime) :
      AgreementChange federation call (federation.agreements.set agreement.agreementId
        (agreement.withStatus updatedAt "expired" ""))
  | activated {agreementId : String} {agreement : TrustAgreement}
      (operation : call.operation = .activateAgreement agreementId)
      (found : federation.agreements.get? agreementId = some agreement)
      (unexpired : agreement.isExpired (call.now 0) = .ok false) :
      AgreementChange federation call (federation.agreements.set agreement.agreementId
        (agreement.withStatus (call.now 1) "active" ""))
  | revoked {agreementId : String} (reason : String) {agreement : TrustAgreement}
      (found : federation.agreements.get? agreementId = some agreement) :
      AgreementChange federation call (federation.agreements.set agreement.agreementId
        (agreement.withStatus (call.now 0) "revoked" reason))

/-- What one call does to the delegations. -/
inductive DelegationChange (federation : FederationState) (call : FederationCall) :
    Dict String RemoteDelegation → Prop
  | kept : DelegationChange federation call federation.delegations
  | requested {delegation : RemoteDelegation} {sending : Sending} {ids : MessageIds}
      {governanceApproved : Bool} (receiptId : String) (updatedAt : UtcTime)
      (operation : call.operation = .requestDelegation delegation sending ids governanceApproved) :
      DelegationChange federation call (federation.delegations.set delegation.delegationId
        (withReceipt delegation receiptId updatedAt))
  | completed {delegationId : String} {result : List (String × PyValue)}
      {audit : Except PyError Unit} {delegation : RemoteDelegation}
      (operation : call.operation = .completeDelegation delegationId result audit)
      (found : federation.delegations.get? delegationId = some delegation) :
      DelegationChange federation call (federation.delegations.set delegationId
        { delegation with status := "completed", result, updatedAt := (call.now 0).toDateTime })
  | rejected {delegationId reason : String} {delegation : RemoteDelegation}
      (operation : call.operation = .rejectDelegation delegationId reason)
      (found : federation.delegations.get? delegationId = some delegation) :
      DelegationChange federation call (federation.delegations.set delegationId
        { delegation with
          status := "failed", rejectionReason := reason, updatedAt := (call.now 0).toDateTime })

section Parts

variable (settings : FederationSettings) (federation : FederationState) (call : FederationCall)

/-- An effect that at most marks an agreement as expired. -/
def AtMostExpires (after : FederationState) : Prop :=
  AgreementChange federation call after.agreements ∧ after.delegations = federation.delegations

variable (now : Nat → UtcTime)

theorem assertActive_changes (agreement : TrustAgreement) :
    AtMostExpires federation call (federation.assertActive now agreement).2 ∧
      ((federation.assertActive now agreement).1 = .ok () →
        (federation.assertActive now agreement).2 = federation) := by
  unfold assertActive
  split
  · exact ⟨⟨.kept, rfl⟩, fun passed => by cases passed⟩
  · exact ⟨⟨.expired agreement (now 1), rfl⟩, fun passed => by cases passed⟩
  · split
    · exact ⟨⟨.kept, rfl⟩, fun passed => by cases passed⟩
    · exact ⟨⟨.kept, rfl⟩, fun passed => by cases passed⟩
    · exact ⟨⟨.kept, rfl⟩, fun _ => rfl⟩

theorem offerCapability_changes (eventType : String) (agent : RemoteAgent)
    (agreement : TrustAgreement) :
    AtMostExpires federation call (federation.offerCapability now eventType agent agreement).2 := by
  obtain ⟨changes, passes⟩ := assertActive_changes federation call now agreement
  unfold offerCapability
  split
  · rename_i checked
    rw [checked] at changes
    exact changes
  · rename_i checked
    rw [checked] at changes
    exact changes

theorem discover_changes (agreementId : String) (search : TrustAgreement → Except PyError Unit) :
    AtMostExpires federation call (federation.discover now agreementId search).2 := by
  unfold discover
  split
  · exact ⟨.kept, rfl⟩
  · rename_i agreement found
    obtain ⟨changes, passes⟩ := assertActive_changes federation call now agreement
    split
    · rename_i checked
      rw [checked] at changes
      exact changes
    · rename_i checked
      rw [checked] at changes
      exact changes

theorem sendMessage_changes (message : FederatedMessage) (sending : Sending) :
    AtMostExpires federation call (federation.sendMessage settings now message sending).2 ∧
      ∀ receipt, (federation.sendMessage settings now message sending).1 = .ok receipt →
        (federation.sendMessage settings now message sending).2.agreements =
          federation.agreements := by
  unfold sendMessage
  split
  · exact ⟨⟨.kept, rfl⟩, fun receipt returned => by cases returned⟩
  · rename_i agreement found
    obtain ⟨changes, passes⟩ := assertActive_changes federation call now agreement
    split
    · rename_i checked
      rw [checked] at changes
      exact ⟨changes, fun receipt returned => by cases returned⟩
    · rename_i passed after checked
      rw [checked] at changes passes
      have same : after = federation := passes rfl
      subst same
      exact ⟨⟨.kept, rfl⟩, fun _ _ => rfl⟩

variable {delegation : RemoteDelegation}

theorem putDelegation_ok {key : String} {stored : FederationState}
    (put : federation.putDelegation settings key delegation = .ok stored) :
    stored.agreements = federation.agreements ∧
      stored.delegations = federation.delegations.set key delegation := by
  unfold putDelegation at put
  split at put
  · cases put
  · cases put
    exact ⟨rfl, rfl⟩

/-- The storing of a request sets at most its delegation. -/
theorem recordRequest_changes (delegation : RemoteDelegation) :
    (federation.recordRequest settings delegation).2.agreements = federation.agreements ∧
      ((federation.recordRequest settings delegation).2.delegations = federation.delegations ∨
        (federation.recordRequest settings delegation).2.delegations =
          federation.delegations.set delegation.delegationId delegation) := by
  unfold recordRequest
  split
  · exact ⟨rfl, .inl rfl⟩
  · rename_i stored put
    obtain ⟨agreements, delegations⟩ := putDelegation_ok settings federation put
    exact ⟨agreements, .inr delegations⟩

variable {sending : Sending} {governanceApproved : Bool}

theorem sendDelegation_changes (now : Nat → UtcTime) {ids : MessageIds}
    (operation : call.operation = .requestDelegation delegation sending ids governanceApproved) :
    let after := (federation.sendDelegation settings now delegation sending ids).2
    AgreementChange federation call after.agreements ∧
      DelegationChange federation call after.delegations := by
  intro after
  unfold after sendDelegation
  split
  · exact ⟨.kept, .kept⟩
  · rename_i message created
    obtain ⟨⟨agreementChange, delegations⟩, returns⟩ := sendMessage_changes settings
      federation call (fun reading => now (reading + 1)) message sending
    split
    · rename_i sent
      rw [sent] at agreementChange delegations
      exact ⟨agreementChange, delegations ▸ .kept⟩
    · rename_i receipt next sent
      rw [sent] at agreementChange delegations returns
      have agreements := returns receipt rfl
      obtain ⟨keptAgreements, recorded⟩ := recordRequest_changes settings next
        (withReceipt delegation receipt.receiptId (now 6))
      simp only at delegations agreements
      rw [delegations] at recorded
      refine ⟨?_, ?_⟩
      · rw [keptAgreements, agreements]
        exact .kept
      · rcases recorded with same | stored
        · rw [same]
          exact .kept
        · rw [stored]
          show DelegationChange federation call
            (federation.delegations.set delegation.delegationId _)
          exact .requested receipt.receiptId (now 6) operation

theorem requestDelegation_changes {ids : MessageIds}
    (operation : call.operation = .requestDelegation delegation sending ids governanceApproved) :
    let after := (federation.requestDelegation settings call.now delegation sending ids
      governanceApproved).2
    AgreementChange federation call after.agreements ∧
      DelegationChange federation call after.delegations := by
  intro after
  unfold after requestDelegation
  split
  · exact ⟨.kept, .kept⟩
  · rename_i agreement found
    obtain ⟨⟨agreementChange, delegations⟩, passes⟩ :=
      assertActive_changes federation call call.now agreement
    split
    · rename_i checked
      rw [checked] at agreementChange delegations
      exact ⟨agreementChange, delegations ▸ .kept⟩
    · rename_i passed next checked
      rw [checked] at passes
      have same : next = federation := passes rfl
      subst same
      split
      · exact ⟨.kept, .kept⟩
      · exact sendDelegation_changes settings next call _ operation

theorem updateDelegation_changes (delegationId eventType : String)
    (change : RemoteDelegation → RemoteDelegation) :
    let after := (federation.updateDelegation settings delegationId eventType change).2
    after.agreements = federation.agreements ∧
      (after.delegations = federation.delegations ∨
        ∃ delegation, federation.delegations.get? delegationId = some delegation ∧
          after.delegations = federation.delegations.set delegationId (change delegation)) := by
  intro after
  unfold after updateDelegation
  split
  · exact ⟨rfl, .inl rfl⟩
  · rename_i delegation found
    split
    · exact ⟨rfl, .inl rfl⟩
    · rename_i stored put
      obtain ⟨agreements, delegations⟩ := putDelegation_ok settings federation put
      exact ⟨agreements, .inr ⟨delegation, found, delegations⟩⟩

theorem completeDelegation_changes {delegationId : String} {result : List (String × PyValue)}
    {audit : Except PyError Unit}
    (operation : call.operation = .completeDelegation delegationId result audit) :
    let after := (federation.completeDelegation settings call.now delegationId result audit).2
    AgreementChange federation call after.agreements ∧
      DelegationChange federation call after.delegations := by
  intro after
  have updated := updateDelegation_changes settings federation delegationId
    "federation.delegation.completed" fun delegation =>
      { delegation with status := "completed", result, updatedAt := (call.now 0).toDateTime }
  have same : after = (federation.updateDelegation settings delegationId
      "federation.delegation.completed" fun delegation =>
        { delegation with
          status := "completed", result, updatedAt := (call.now 0).toDateTime }).2 := by
    unfold after completeDelegation
    split
    · rename_i returned
      rw [returned]
    · rename_i returned
      rw [returned]
  rw [same]
  refine ⟨updated.1 ▸ .kept, ?_⟩
  rcases updated.2 with unchanged | ⟨delegation, found, stored⟩
  · rw [unchanged]
    exact .kept
  · rw [stored]
    exact .completed operation found

theorem rejectDelegation_changes {delegationId reason : String}
    (operation : call.operation = .rejectDelegation delegationId reason) :
    let after := (federation.rejectDelegation settings call.now delegationId reason).2
    AgreementChange federation call after.agreements ∧
      DelegationChange federation call after.delegations := by
  intro after
  have updated := updateDelegation_changes settings federation delegationId
    "federation.delegation.failed" fun delegation =>
      { delegation with
        status := "failed", rejectionReason := reason, updatedAt := (call.now 0).toDateTime }
  refine ⟨updated.1 ▸ .kept, ?_⟩
  rcases updated.2 with unchanged | ⟨delegation, found, stored⟩
  · exact unchanged ▸ .kept
  · exact stored ▸ .rejected operation found

end Parts

/-- Every call changes the agreements and the delegations in one of the ways. -/
theorem step_changes (settings : FederationSettings) (federation : FederationState)
    (call : FederationCall) :
    AgreementChange federation call (step settings federation call).2.agreements ∧
      DelegationChange federation call (step settings federation call).2.delegations := by
  have lifted {after : FederationState} (changes : AtMostExpires federation call after) :
      AgreementChange federation call after.agreements ∧
        DelegationChange federation call after.delegations :=
    ⟨changes.1, changes.2 ▸ .kept⟩
  unfold step
  split
  · exact ⟨.kept, .kept⟩
  · rename_i agreement operation
    unfold createAgreement
    split
    · exact ⟨.kept, .kept⟩
    · exact ⟨.created operation, .kept⟩
  · rename_i agreementId operation
    unfold activateAgreement
    split
    · exact ⟨.kept, .kept⟩
    · rename_i agreement found
      split
      · exact ⟨.kept, .kept⟩
      · exact ⟨.expired agreement (call.now 1), .kept⟩
      · rename_i unexpired
        have changed := AgreementChange.activated operation found unexpired
        exact ⟨changed, .kept⟩
  · rename_i agreementId reason operation
    unfold revokeAgreement
    split
    · exact ⟨.kept, .kept⟩
    · rename_i agreement found
      have changed : AgreementChange federation call _ := .revoked reason found
      exact ⟨changed, .kept⟩
  · exact lifted (offerCapability_changes federation call _ _ _ _)
  · exact lifted (offerCapability_changes federation call _ _ _ _)
  · exact lifted (discover_changes federation call _ _ _)
  · exact lifted (sendMessage_changes settings federation call _ _ _).1
  · exact ⟨.kept, .kept⟩
  · rename_i operation
    exact requestDelegation_changes settings federation call operation
  · rename_i operation
    exact completeDelegation_changes settings federation call operation
  · rename_i operation
    exact rejectDelegation_changes settings federation call operation

end AgentFabric.Federation.FederationState

namespace AgentFabric.Federation
open Transition

namespace TrustAgreement

variable (agreement : TrustAgreement) (time : UtcTime)

/-- The expiry of an agreement is not after a time. -/
def Past : Prop :=
  agreement.expiresAt.offset.isSome ∧ agreement.expiresAt.instant ≤ time.toDateTime.instant

/-- An agreement was revoked or has expired. -/
def Ended : Prop :=
  agreement.status = "revoked" ∨ agreement.status = "expired" ∨ agreement.Past time

theorem isExpired_eq_false_iff :
    agreement.isExpired time = .ok false ↔
      agreement.expiresAt.offset.isSome ∧ ¬ agreement.Past time := by
  unfold isExpired Past DateTime.later?
  cases aware : agreement.expiresAt.offset.isSome with
  | false => simp [UtcTime.toDateTime]
  | true =>
      simp only [UtcTime.toDateTime, Option.isSome_some, if_true, Except.ok.injEq, true_and,
        Bool.not_eq_false', not_le]
      exact decide_eq_true_iff

theorem Ended.mono {agreement : TrustAgreement} {earlier later : UtcTime}
    (ended : agreement.Ended earlier)
    (order : earlier.toDateTime.instant ≤ later.toDateTime.instant) : agreement.Ended later := by
  rcases ended with revoked | expired | past
  · exact .inl revoked
  · exact .inr (.inl expired)
  · exact .inr (.inr ⟨past.1, past.2.trans order⟩)

theorem Ended.not_active {agreement : TrustAgreement} {time : UtcTime}
    (ended : agreement.Ended time) : ¬ agreement.Active time := by
  rintro ⟨active, _, before⟩
  rcases ended with revoked | expired | past
  · exact absurd (active.symm.trans revoked) (by decide)
  · exact absurd (active.symm.trans expired) (by decide)
  · exact absurd before (not_lt.mpr past.2)

end TrustAgreement

namespace RemoteDelegation

variable (delegation : RemoteDelegation)

/-- A delegation was completed or failed. -/
def Finished : Prop :=
  delegation.status = "completed" ∨ delegation.status = "failed"

/-- The status, the result and the rejection reason of a delegation. -/
def outcome : String × List (String × PyValue) × String :=
  (delegation.status, delegation.result, delegation.rejectionReason)

end RemoteDelegation

namespace FederationState

def initial : FederationState where
  orgs := Dict.empty
  agreements := Dict.empty
  capabilities := Dict.empty
  delegations := Dict.empty
  router := ⟨Dict.empty, Dict.empty, Dict.empty, []⟩

/-- The calls that leave ended agreements and finished delegations alone.
An agreement is not created under the id of an ended one and not activated while its status says that
it ended and its expiry is to come.
A finished delegation is not requested, completed or rejected again with another outcome. -/
def Respects (federation : FederationState) (call : FederationCall) : Prop :=
  match call.operation with
  | .createAgreement agreement =>
      ∀ stored, federation.agreements.get? agreement.agreementId = some stored →
        ¬ stored.Ended (call.now 0)
  | .activateAgreement agreementId =>
      ∀ stored, federation.agreements.get? agreementId = some stored →
        stored.status = "revoked" ∨ stored.status = "expired" →
          stored.isExpired (call.now 0) ≠ .ok false
  | .requestDelegation delegation _ _ _ =>
      ∀ stored, federation.delegations.get? delegation.delegationId = some stored →
        stored.Finished → delegation.outcome = stored.outcome
  | .completeDelegation delegationId result _ =>
      ∀ stored, federation.delegations.get? delegationId = some stored →
        stored.Finished → stored.status = "completed" ∧ stored.result = result
  | .rejectDelegation delegationId reason =>
      ∀ stored, federation.delegations.get? delegationId = some stored →
        stored.Finished → stored.status = "failed" ∧ stored.rejectionReason = reason
  | _ => True

section Agreements

variable (settings : FederationSettings)

/-- Every agreement stands under its own id. -/
def Named (federation : FederationState) : Prop :=
  Collection.All federation.agreements fun key agreement => agreement.agreementId = key

theorem step_named {federation : FederationState} (named : federation.Named)
    (call : FederationCall) : (step settings federation call).2.Named := by
  have change := (step_changes settings federation call).1
  unfold Named
  generalize (step settings federation call).2.agreements = agreements at change
  cases change with
  | kept => exact named
  | created operation => exact named.set rfl
  | expired agreement updatedAt => exact named.set rfl
  | activated operation found unexpired => exact named.set rfl
  | revoked reason found => exact named.set rfl

variable (agreementId : String) (time : UtcTime)

/-- The agreement under an id has ended at a time. -/
def HasEnded (federation : FederationState) : Prop :=
  ∃ agreement, federation.agreements.get? agreementId = some agreement ∧ agreement.Ended time

/-- A respectful call after a time leaves the agreement ended. -/
theorem step_hasEnded {federation : FederationState} {call : FederationCall}
    (named : federation.Named) (ended : federation.HasEnded agreementId time)
    (respects : federation.Respects call)
    (order : time.toDateTime.instant ≤ (call.now 0).toDateTime.instant) :
    (step settings federation call).2.HasEnded agreementId time := by
  obtain ⟨agreement, found, agreementEnded⟩ := ended
  have change := (step_changes settings federation call).1
  have other {key : String} {written : TrustAgreement} {agreements : Dict String TrustAgreement}
      (same : agreements = federation.agreements.set key written)
      (own : agreementId = key → written.Ended time) :
      ∃ stored, agreements.get? agreementId = some stored ∧ stored.Ended time := by
    rw [same, Dict.get?_set]
    split
    · rename_i isOwn
      exact ⟨written, rfl, own isOwn⟩
    · exact ⟨agreement, found, agreementEnded⟩
  unfold HasEnded
  generalize (step settings federation call).2.agreements = agreements at change
  cases change with
  | kept => exact ⟨agreement, found, agreementEnded⟩
  | @created written operation =>
      refine other rfl fun own => ?_
      rw [Respects, operation] at respects
      exact absurd (agreementEnded.mono order) (respects agreement (own ▸ found))
  | expired written updatedAt => exact other rfl fun _ => .inr (.inl rfl)
  | @activated id stored operation storedFound unexpired =>
      refine other rfl fun own => ?_
      rw [Respects, operation] at respects
      have storedId := named id stored storedFound
      have same : stored = agreement := by
        rw [← storedId, ← own, found] at storedFound
        exact (Option.some.inj storedFound).symm
      subst same
      have notPast := ((TrustAgreement.isExpired_eq_false_iff _ _).mp unexpired).2
      rcases agreementEnded.mono order with revoked | expired | past
      · exact absurd unexpired (respects stored storedFound (.inl revoked))
      · exact absurd unexpired (respects stored storedFound (.inr expired))
      · exact absurd past notPast
  | revoked reason storedFound => exact other rfl fun _ => .inl rfl

end Agreements

section Delegations

variable (settings : FederationSettings) (delegationId : String)
  (outcome : String × List (String × PyValue) × String)

/-- The delegation under an id is finished with an outcome. -/
def HasFinished (federation : FederationState) : Prop :=
  ∃ delegation, federation.delegations.get? delegationId = some delegation ∧
    delegation.Finished ∧ delegation.outcome = outcome

/-- A respectful call leaves the outcome of a finished delegation. -/
theorem step_hasFinished {federation : FederationState} {call : FederationCall}
    (finished : federation.HasFinished delegationId outcome)
    (respects : federation.Respects call) :
    (step settings federation call).2.HasFinished delegationId outcome := by
  obtain ⟨delegation, found, isFinished, same⟩ := finished
  have change := (step_changes settings federation call).2
  have other {key : String} {written : RemoteDelegation}
      {delegations : Dict String RemoteDelegation}
      (set : delegations = federation.delegations.set key written)
      (own : delegationId = key → written.outcome = delegation.outcome) :
      ∃ stored, delegations.get? delegationId = some stored ∧ stored.Finished ∧
        stored.outcome = outcome := by
    rw [set, Dict.get?_set]
    split
    · rename_i isOwn
      have written_outcome := own isOwn
      have status : written.status = delegation.status := congrArg Prod.fst written_outcome
      refine ⟨written, rfl, ?_, written_outcome.trans same⟩
      rw [RemoteDelegation.Finished, status]
      exact isFinished
    · exact ⟨delegation, found, isFinished, same⟩
  unfold HasFinished
  generalize (step settings federation call).2.delegations = delegations at change
  cases change with
  | kept => exact ⟨delegation, found, isFinished, same⟩
  | @requested requested sending ids governanceApproved receiptId updatedAt operation =>
      refine other rfl fun own => ?_
      rw [Respects, operation] at respects
      exact respects delegation (own ▸ found) isFinished
  | @completed id result audit stored operation storedFound =>
      refine other rfl fun own => ?_
      rw [Respects, operation] at respects
      rw [← own, found] at storedFound
      obtain rfl := Option.some.inj storedFound
      obtain ⟨status, sameResult⟩ := respects delegation (own ▸ found) isFinished
      rw [RemoteDelegation.outcome, RemoteDelegation.outcome, status, sameResult]
  | @rejected id reason stored operation storedFound =>
      refine other rfl fun own => ?_
      rw [Respects, operation] at respects
      rw [← own, found] at storedFound
      obtain rfl := Option.some.inj storedFound
      obtain ⟨status, sameReason⟩ := respects delegation (own ▸ found) isFinished
      rw [RemoteDelegation.outcome, RemoteDelegation.outcome, status, sameReason]

end Delegations

section Claims

variable (settings : FederationSettings) (calls : List FederationCall)

/-- An agreement that has ended at a time is not active at any later time, when the calls in between
read the clock after it. -/
def AgreementsStayEnded : Prop :=
  ∀ before middle rest, calls = before ++ middle ++ rest →
    ∀ agreementId agreement time later,
      (run (step settings) initial before).agreements.get? agreementId = some agreement →
      agreement.Ended time →
      (∀ call ∈ middle, ∀ reading,
        time.toDateTime.instant ≤ (call.now reading).toDateTime.instant) →
      time.toDateTime.instant ≤ later.toDateTime.instant →
        ∃ stored, (run (step settings) initial (before ++ middle)).agreements.get? agreementId =
          some stored ∧ ¬ stored.Active later

/-- A finished delegation keeps its status, its result and its rejection reason. -/
def DelegationsStayFinished : Prop :=
  ∀ before middle rest, calls = before ++ middle ++ rest →
    ∀ delegationId delegation,
      (run (step settings) initial before).delegations.get? delegationId = some delegation →
      delegation.Finished →
        ∃ stored, (run (step settings) initial (before ++ middle)).delegations.get? delegationId =
          some stored ∧ stored.outcome = delegation.outcome

end Claims

/-- The life cycles are one-way in every run of respectful calls. -/
theorem lifeCycles_oneWay (settings : FederationSettings) (calls : List FederationCall)
    (respects : Guarded (step settings) Respects initial calls) :
    AgreementsStayEnded settings calls ∧ DelegationsStayFinished settings calls := by
  have named (before : List FederationCall) : (run (step settings) initial before).Named :=
    run_invariant (step settings) Named (fun _ call named => step_named settings named call)
      initial before (Collection.all_empty _)
  refine ⟨?_, ?_⟩
  · intro before middle rest split agreementId agreement time later found ended readings order
    rw [split, guarded_append, guarded_append] at respects
    have guarded := respects.1.2.and (guarded_of_forall (step settings)
      (fun call => time.toDateTime.instant ≤ (call.now 0).toDateTime.instant) _ middle
      fun call listed => readings call listed 0)
    have kept := run_invariant_of_guarded (step settings) _
      (fun federation => federation.Named ∧ federation.HasEnded agreementId time)
      (fun federation call facts conditions =>
        ⟨step_named settings facts.1 call,
          step_hasEnded settings agreementId time facts.1 facts.2 conditions.1 conditions.2⟩)
      _ middle ⟨named before, agreement, found, ended⟩ guarded
    obtain ⟨stored, storedFound, storedEnded⟩ := kept.2
    refine ⟨stored, ?_, (storedEnded.mono order).not_active⟩
    rw [run_append]
    exact storedFound
  · intro before middle rest split delegationId delegation found finished
    rw [split, guarded_append, guarded_append] at respects
    have kept := run_invariant_of_guarded (step settings) Respects
      (HasFinished delegationId delegation.outcome)
      (fun federation call facts condition =>
        step_hasFinished settings delegationId delegation.outcome facts condition)
      _ middle ⟨delegation, found, finished, rfl⟩ respects.1.2
    obtain ⟨stored, storedFound, _, same⟩ := kept
    refine ⟨stored, ?_, same⟩
    rw [run_append]
    exact storedFound

section Example

def plainSettings : FederationSettings := ⟨RouterState.plainRouter, fun _ => ""⟩

/-- A call at the first moment. -/
def firstCall (operation : FederationOperation) : FederationCall := ⟨operation, fun _ => .first⟩

/-- The registration of an organization and a draft of an agreement that is revoked. -/
def revokedDraft : List FederationCall := [
  firstCall (.createOrg ⟨"fed-org-1", "tenant-a", "org-b"⟩),
  firstCall (.createAgreement (RouterState.plainAgreement "draft")),
  firstCall (.revokeAgreement "fed-agree-1" "incident")]

/-- A delegation of a survey that is finished before its agreement is revoked. -/
def survey : RemoteDelegation where
  tenantId := "tenant-a"
  organizationId := "org-a"
  trustAgreementId := "fed-agree-1"
  remoteOrgId := "org-b"
  sourceAgentId := "agent-a"
  destinationAgentId := "agent-b"
  taskType := "survey"
  payload := [("room", .str "kitchen")]
  createdBy := "admin"
  status := "requested"
  delegationId := "delegation-1"
  receiptId := none
  result := []
  rejectionReason := ""
  createdAt := UtcTime.first.toDateTime
  updatedAt := UtcTime.first.toDateTime

def surveySending : Sending := ⟨"secret", fun _ => .ok ⟨true, ""⟩, "receipt-1"⟩

def surveyAgreement : TrustAgreement :=
  { RouterState.plainAgreement "active" with allowedCapabilities := ["survey"] }

/-- The settings of the survey, whose texts all have one hash. -/
def surveySettings : FederationSettings := ⟨⟨fun _ => "sha256", .copy⟩, fun _ => ""⟩

def finishedSurvey : List FederationCall := [
  firstCall (.createOrg ⟨"fed-org-1", "tenant-a", "org-b"⟩),
  firstCall (.createAgreement surveyAgreement),
  firstCall (.requestDelegation survey surveySending ⟨"fed-msg-1", "fed-corr-1", "nonce-1"⟩ false),
  firstCall (.completeDelegation "delegation-1" [("rooms", .int 1)] (.ok ()))]

/-- The calls after the revocation: a search and an offer that are refused or not, and a rejection. -/
def afterRevocation : List FederationCall := [
  firstCall (.discover "fed-agree-1" fun _ => .ok ()),
  firstCall (.publishCapability ⟨"catalog-1", []⟩ surveyAgreement),
  firstCall (.rejectDelegation "delegation-2" "late")]

def revokedRun : List FederationCall :=
  finishedSurvey ++ firstCall (.revokeAgreement "fed-agree-1" "incident") :: afterRevocation

theorem revokedRun_respects : Guarded (step surveySettings) Respects initial revokedRun := by
  refine ⟨trivial, ?_, ?_, ?_, trivial, trivial, trivial, ?_, trivial⟩
  · intro stored found
    cases found
  · intro stored found
    cases found
  · intro stored found finished
    cases found
    rcases finished with completed | failed
    · exact absurd (show "requested" = "completed" from completed) (by decide)
    · exact absurd (show "requested" = "failed" from failed) (by decide)
  · intro stored found
    cases found

/-- A revoked agreement that is left alone stays revoked. -/
theorem lifeCycles_oneWay_revoked :
    (∃ stored, (run (step surveySettings) initial revokedRun).agreements.get? "fed-agree-1" =
        some stored ∧ ¬ stored.Active .first) ∧
      ∃ stored, (run (step surveySettings) initial revokedRun).delegations.get? "delegation-1" =
        some stored ∧ stored.outcome = ("completed", [("rooms", .int 1)], "") := by
  obtain ⟨ended, finished⟩ := lifeCycles_oneWay surveySettings revokedRun revokedRun_respects
  refine ⟨?_, ?_⟩
  · refine ended (finishedSurvey ++ [firstCall (.revokeAgreement "fed-agree-1" "incident")])
      afterRevocation [] rfl "fed-agree-1" _ .first .first rfl (.inl rfl) ?_ le_rfl
    intro call listed reading
    simp only [afterRevocation, List.mem_cons, List.not_mem_nil, or_false] at listed
    rcases listed with rfl | rfl | rfl
    all_goals exact le_rfl
  · exact finished finishedSurvey _ [] rfl "delegation-1" _ rfl (.inl rfl)

/-- A revoked agreement is activated again. -/
theorem revoked_active_again :
    ((run (step plainSettings) initial (revokedDraft ++
      [firstCall (.activateAgreement "fed-agree-1")])).agreements.get? "fed-agree-1").map
        TrustAgreement.status = some "active" ∧
    ¬ AgreementsStayEnded plainSettings (revokedDraft ++
      [firstCall (.activateAgreement "fed-agree-1")]) := by
  refine ⟨rfl, ?_⟩
  intro stays
  obtain ⟨stored, found, inactive⟩ := stays revokedDraft
    [firstCall (.activateAgreement "fed-agree-1")] [] rfl "fed-agree-1" _ .first .first rfl
    (.inl rfl) (by simp [firstCall]) le_rfl
  cases found
  exact inactive ⟨rfl, rfl, by decide⟩

end Example

end FederationState

end AgentFabric.Federation
