import AgentFabric.Proof.Governance.DistinctVoters

namespace AgentFabric.Governance
open Persistence Transition MemoryPersistenceStore

/-- The second reading of the clock is not before the first one. -/
def NotBefore (first second : UtcTime) : Prop :=
  first.toDateTime.later? second.toDateTime = some false

namespace Proposal

variable {first second : Proposal}

theorem Same.withStatus (same : first.Same second) (status : String)
    (now : UtcTime) : (first.withStatus status none now).Same (second.withStatus status none now) :=
  congrArg (fun proposal => Proposal.withStatus proposal status none now) same

/-- Only an aware expiry is compared, and then by its instant. -/
theorem isExpired_ok_iff (proposal : Proposal) (now : UtcTime) (expired : Bool) :
    proposal.isExpired now = .ok expired ↔ proposal.expiresAt.offset.isSome = true ∧
      decide (proposal.expiresAt.instant < now.toDateTime.instant) = expired := by
  unfold isExpired DateTime.later?
  by_cases aware : proposal.expiresAt.offset.isSome = true
  · simp [UtcTime.toDateTime, aware]
  · simp [UtcTime.toDateTime, aware]

variable {proposal : Proposal}

/-- What has expired stays expired. -/
theorem isExpired_later {now later : UtcTime}
    (expired : proposal.isExpired now = .ok true) (notBefore : NotBefore now later) :
    proposal.isExpired later = .ok true := by
  rw [isExpired_ok_iff, decide_eq_true_eq] at expired ⊢
  have ordered : decide (later.toDateTime.instant < now.toDateTime.instant) = false :=
    Option.some.inj notBefore
  exact ⟨expired.1, lt_of_lt_of_le expired.2 (not_lt.mp (of_decide_eq_false ordered))⟩

variable {now : UtcTime}

/-- An expiry that can be compared with one reading can be compared with every one. -/
theorem isExpired_compares {expired : Bool}
    (compared : proposal.isExpired now = .ok expired) (other : UtcTime) :
    ∃ later, proposal.isExpired other = .ok later := by
  obtain ⟨aware, _⟩ := (isExpired_ok_iff proposal now expired).mp compared
  exact ⟨_, (isExpired_ok_iff proposal other _).mpr ⟨aware, rfl⟩⟩

/-- An expired proposal that was neither executed nor rejected counts as expired. -/
def Lapsed (now : UtcTime) (proposal : Proposal) : Prop :=
  proposal.isExpired now = .ok true ∧ proposal.status ∉ ["executed", "rejected"]

/-- Two proposals are equal, or both have expired and are equal once they are marked. -/
def Alike (now : UtcTime) (first second : Proposal) : Prop :=
  first.Same second ∨ (Lapsed now first ∧ Lapsed now second ∧
    ∀ markedAt, (first.withStatus "expired" none markedAt).Same
      (second.withStatus "expired" none markedAt))

theorem Lapsed.of_same {proposal read : Proposal} (lapsed : Lapsed now proposal)
    (same : read.Same proposal) : Lapsed now read := by
  unfold Lapsed
  rw [same.congr (fun proposal => proposal.isExpired now) fun _ => rfl, same.status]
  exact lapsed

/-- Alike proposals are read as alike ones. -/
theorem Alike.of_same {first second read other : Proposal}
    (alike : first.Alike now second) (same : read.Same first) (otherSame : other.Same second) :
    read.Alike now other := by
  rcases alike with equal | ⟨lapsed, otherLapsed, marked⟩
  · exact .inl (same.trans (equal.trans otherSame.symm))
  · refine .inr ⟨lapsed.of_same same, otherLapsed.of_same otherSame, ?_⟩
    intro markedAt
    exact (same.withStatus "expired" markedAt).trans
      ((marked markedAt).trans (otherSame.withStatus "expired" markedAt).symm)

/-- Both of two alike proposals are marked by a later read, or neither is. -/
theorem Alike.marks_iff {now readAt : UtcTime}
    (alike : first.Alike now second) (later : NotBefore now readAt) :
    first.isExpired readAt = second.isExpired readAt ∧
      (first.status ∉ ["executed", "rejected"] ↔ second.status ∉ ["executed", "rejected"]) := by
  rcases alike with equal | ⟨lapsed, otherLapsed, _⟩
  · rw [equal.congr (fun proposal => proposal.isExpired readAt) fun _ => rfl, equal.status]
    exact ⟨rfl, Iff.rfl⟩
  · rw [isExpired_later lapsed.1 later, isExpired_later otherLapsed.1 later]
    exact ⟨rfl, iff_of_true lapsed.2 otherLapsed.2⟩

theorem Alike.marked (alike : first.Alike now second)
    (markedAt : UtcTime) : (first.withStatus "expired" none markedAt).Same
      (second.withStatus "expired" none markedAt) := by
  rcases alike with equal | ⟨_, _, marked⟩
  · exact equal.withStatus "expired" markedAt
  · exact marked markedAt

/-- Alike proposals that a later read does not mark are equal. -/
theorem Alike.same {now readAt : UtcTime} {expired : Bool}
    (alike : first.Alike now second) (later : NotBefore now readAt)
    (compared : first.isExpired readAt = .ok expired)
    (kept : ¬ (expired = true ∧ first.status ∉ ["executed", "rejected"])) :
    first.Same second := by
  rcases alike with equal | ⟨lapsed, _, _⟩
  · exact equal
  · rw [isExpired_later lapsed.1 later, Except.ok.injEq] at compared
    exact absurd ⟨compared.symm, lapsed.2⟩ kept

end Proposal

namespace GovernanceService

variable {State : Type} {store : PersistenceStore State} {now : UtcTime}

/-- Two rows are both missing or hold proposals that are alike. -/
def AlikeRows (now : UtcTime) : Option Json → Option Json → Prop
  | none, none => True
  | some row, some other => ∃ first second : Proposal,
      row.Same first.asDict ∧ other.Same second.asDict ∧ first.Alike now second
  | _, _ => False

/-- Two services that answer every later vote in the same way. -/
structure Alike (store : PersistenceStore State) (now : UtcTime)
    (first second : GovernanceService State) : Prop where
  readable : Readable store first
  readableOther : Readable store second
  recorded : ∀ vote, Recorded store first vote ↔ Recorded store second vote
  rows : ∀ proposalId, AlikeRows now (store.get first.persistence proposals proposalId)
    (store.get second.persistence proposals proposalId)

theorem Alike.refl {service : GovernanceService State} (readable : Readable store service)
    (now : UtcTime) : Alike store now service service := by
  refine ⟨readable, readable, fun _ => Iff.rfl, ?_⟩
  intro proposalId
  cases found : store.get service.persistence proposals proposalId with
  | none => trivial
  | some row =>
      obtain ⟨proposal, _, same⟩ := readable.proposals proposalId row found
      exact ⟨proposal, proposal, same, same, .inl rfl⟩

/-- The same votes have only one order by their ids. -/
theorem eq_of_increasing {cast other : List Vote}
    (increasing : (cast.map Vote.voteId).Pairwise (· < ·))
    (otherIncreasing : (other.map Vote.voteId).Pairwise (· < ·))
    (members : ∀ vote, vote ∈ cast ↔ vote ∈ other) : cast = other := by
  have distinct {votes : List Vote} (ordered : (votes.map Vote.voteId).Pairwise (· < ·)) :
      votes.Nodup :=
    (List.pairwise_map.mp ordered).imp fun less equal =>
      (ne_of_lt less) (congrArg Vote.voteId equal)
  have perm : cast.Perm other :=
    (List.perm_ext_iff_of_nodup (distinct increasing) (distinct otherIncreasing)).mpr members
  apply perm.eq_of_pairwise _ (List.pairwise_map.mp increasing) (List.pairwise_map.mp otherIncreasing)
  intro vote next _ _ less greater
  exact absurd less (lt_asymm greater)

section Effects

variable (lawful : store.Lawful)

theorem append_simulates (eventType aggregateId : String) (payload otherPayload : Json) :
    Effect.Simulates (Alike store now) (fun _ _ => True) (append eventType aggregateId payload)
      (append eventType aggregateId otherPayload) := by
  intro first second alike
  refine ⟨trivial, ?_⟩
  exact ⟨(append_keeps eventType aggregateId payload first alike.readable).1,
    (append_keeps eventType aggregateId otherPayload second alike.readableOther).1,
    alike.recorded, alike.rows⟩

include lawful

/-- The votes on a proposal are the same in both services. -/
theorem votesFor_simulates (tenantId proposalId : String) (readAt : UtcTime) :
    Effect.Simulates (Alike store now) Eq (votesFor store tenantId proposalId readAt)
      (votesFor store tenantId proposalId readAt) := by
  intro first second alike
  obtain ⟨cast, recordings⟩ := exists_recordings lawful alike.readable
  obtain ⟨other, otherRecordings⟩ := exists_recordings lawful alike.readableOther
  have equal : cast = other := by
    apply eq_of_increasing recordings.increasing otherRecordings.increasing
    intro vote
    rw [recordings.members, otherRecordings.members, alike.recorded]
  subst equal
  rw [perform_votesFor recordings, perform_votesFor otherRecordings]
  exact ⟨rfl, alike⟩

theorem putVote_simulates (vote : Vote) :
    Effect.Simulates (Alike store now) (fun _ _ => True)
      (put store votes vote.voteId vote.asDict) (put store votes vote.voteId vote.asDict) := by
  intro first second alike
  have readable := (putVote_keeps lawful vote first alike.readable).1
  have readableOther := (putVote_keeps lawful vote second alike.readableOther).1
  obtain ⟨next, written, performed⟩ := perform_put lawful first votes vote.voteId vote.asDict
  obtain ⟨other, otherWritten, otherPerformed⟩ :=
    perform_put lawful second votes vote.voteId vote.asDict
  rw [performed] at readable ⊢
  rw [otherPerformed] at readableOther ⊢
  refine ⟨trivial, readable, readableOther, ?_, ?_⟩
  · intro cast
    have stored := recorded_putVote_iff lawful first ⟨next, first.events⟩ written cast
    have otherStored := recorded_putVote_iff lawful second ⟨other, second.events⟩ otherWritten cast
    rw [stored, otherStored, alike.recorded]
  · intro proposalId
    dsimp only
    rw [lawful.get_put_of_ne _ _ _ _ _ proposals proposalId written (by simp [proposals, votes]),
      lawful.get_put_of_ne _ _ _ _ _ proposals proposalId otherWritten (by simp [proposals, votes])]
    exact alike.rows proposalId

variable {proposal other : Proposal}

theorem putProposal_simulates (same : proposal.Same other)
    {key otherKey : String} (keyed : proposal.proposalId = key)
    (otherKeyed : other.proposalId = otherKey) :
    Effect.Simulates (Alike store now) (fun _ _ => True) (put store proposals key proposal.asDict)
      (put store proposals otherKey other.asDict) := by
  subst keyed otherKeyed
  intro first second alike
  have readable := (putProposal_keeps lawful proposal first alike.readable).1
  have readableOther := (putProposal_keeps lawful other second alike.readableOther).1
  obtain ⟨next, written, performed⟩ :=
    perform_put lawful first proposals proposal.proposalId proposal.asDict
  obtain ⟨otherNext, otherWritten, otherPerformed⟩ :=
    perform_put lawful second proposals other.proposalId other.asDict
  rw [performed] at readable ⊢
  rw [otherPerformed] at readableOther ⊢
  refine ⟨trivial, readable, readableOther, ?_, ?_⟩
  · intro vote
    have kept := recorded_putOther_iff lawful first ⟨next, first.events⟩ written (by decide) vote
    have otherKept :=
      recorded_putOther_iff lawful second ⟨otherNext, second.events⟩ otherWritten (by decide) vote
    rw [kept, otherKept, alike.recorded]
  · intro proposalId
    dsimp only
    by_cases sameId : proposalId = proposal.proposalId
    · subst sameId
      obtain ⟨row, found, equal⟩ := lawful.get_put_self _ _ _ _ _ written
      obtain ⟨otherRow, otherFound, otherEqual⟩ := lawful.get_put_self _ _ _ _ _ otherWritten
      rw [found, same.proposalId, otherFound]
      exact ⟨proposal, other, equal, otherEqual, .inl same⟩
    · have otherId : proposalId ≠ other.proposalId := same.proposalId ▸ sameId
      rw [lawful.get_put_of_ne _ _ _ _ _ proposals proposalId written (by simp [sameId]),
        lawful.get_put_of_ne _ _ _ _ _ proposals proposalId otherWritten (by simp [otherId])]
      exact alike.rows proposalId

/-- A later read gives equal proposals. -/
theorem getProposal_simulates (proposalId : String) {readAt : UtcTime} (later : NotBefore now readAt)
    (markedAt : UtcTime) :
    Effect.Simulates (Alike store now) Proposal.Same (getProposal store proposalId readAt markedAt)
      (getProposal store proposalId readAt markedAt) := by
  apply Effect.Simulates.get_bind
  intro first second alike
  have rows := alike.rows proposalId
  cases found : store.get first.persistence proposals proposalId with
  | none =>
      cases otherFound : store.get second.persistence proposals proposalId with
      | none => exact .throw _
      | some other =>
          rw [found, otherFound] at rows
          exact rows.elim
  | some row =>
      cases otherFound : store.get second.persistence proposals proposalId with
      | none =>
          rw [found, otherFound] at rows
          exact rows.elim
      | some other =>
          rw [found, otherFound] at rows
          obtain ⟨stored, otherStored, same, otherSame, alikeStored⟩ := rows
          obtain ⟨read, decoded, equal⟩ := stored.fromDict_of_same readAt row same
          obtain ⟨otherRead, otherDecoded, otherEqual⟩ :=
            otherStored.fromDict_of_same readAt other otherSame
          have keyed : read.proposalId = proposalId :=
            Reads.proposalId alike.readable ⟨row, found, decoded⟩
          have otherKeyed : otherRead.proposalId = proposalId :=
            Reads.proposalId alike.readableOther ⟨other, otherFound, otherDecoded⟩
          dsimp only
          rw [decoded, otherDecoded]
          have alikeRead := alikeStored.of_same equal otherEqual
          obtain ⟨expiries, statuses⟩ := alikeRead.marks_iff later
          apply Effect.Simulates.pure_bind
          apply Effect.Simulates.ofExcept_bind expiries
          intro expired compared
          apply Effect.Simulates.ite (and_congr_right fun _ => statuses)
          · intro _
            apply (putProposal_simulates lawful (alikeRead.marked markedAt) keyed otherKeyed).bind
            intro _ _ _
            exact .pure (alikeRead.marked markedAt)
          · intro kept
            exact .pure (alikeRead.same later compared kept)

omit lawful in
theorem recordOutcome_simulates (same : proposal.Same other) (result : ConsensusResult) :
    Effect.Simulates (Alike store now) Eq (recordOutcome proposal result)
      (recordOutcome other result) := by
  unfold recordOutcome
  rw [same.proposalId, same.status]
  apply Effect.Simulates.ite Iff.rfl
  · intro _
    apply (append_simulates _ _ _ _).bind
    intro _ _ _
    exact .pure rfl
  · intro _
    apply Effect.Simulates.ite Iff.rfl
    · intro _
      apply (append_simulates _ _ _ _).bind
      intro _ _ _
      exact .pure rfl
    · intro _
      exact .pure rfl

section Cast

variable {Threshold : Type} (quotients : Quotients Threshold)

/-- The answers of two votes agree. -/
def SameVoted (first second : Vote × ConsensusResult × Proposal) : Prop :=
  first.1 = second.1 ∧ first.2.1 = second.2.1 ∧ first.2.2.Same second.2.2

theorem recordVote_simulates {proposal other : Proposal} (same : proposal.Same other) (vote : Vote)
    (policy : ConsensusPolicy Threshold) (governancePolicy : GovernancePolicy) (clock : VoteClock) :
    Effect.Simulates (Alike store now) SameVoted
      (recordVote store quotients proposal vote policy governancePolicy clock)
      (recordVote store quotients other vote policy governancePolicy clock) := by
  unfold recordVote
  have tenant := same.congr Proposal.tenantId fun _ => rfl
  rw [same.proposalId, tenant]
  apply (putVote_simulates lawful vote).bind
  intro _ _ _
  apply (append_simulates _ _ _ _).bind
  intro _ _ _
  apply (votesFor_simulates lawful _ _ _).bind
  rintro cast _ rfl
  apply Effect.Simulates.ofExcept_bind
  · exact same.congr (fun proposal => ConsensusEngine.evaluate quotients proposal cast policy
      governancePolicy clock.evaluatedAt clock.reviewedAt) fun _ => rfl
  intro result _
  apply (recordOutcome_simulates same result).bind
  rintro status _ rfl
  have updated := same.withStatus status clock.updatedAt
  apply (putProposal_simulates lawful updated rfl rfl).bind
  intro _ _ _
  exact .pure ⟨rfl, rfl, updated⟩

/-- A later vote has the same outcome in both services. -/
theorem castVote_simulates (vote : Vote) (policy : ConsensusPolicy Threshold)
    (governancePolicy : GovernancePolicy) (clock : VoteClock) (later : NotBefore now clock.readAt) :
    Effect.Simulates (Alike store now) SameVoted
      (castVote store quotients vote policy governancePolicy clock)
      (castVote store quotients vote policy governancePolicy clock) := by
  apply (getProposal_simulates lawful vote.proposalId later clock.markedAt).bind
  intro proposal other same
  have self := same.congr (fun proposal => selfApproval proposal vote governancePolicy) fun _ => rfl
  apply Effect.Simulates.ite (by rw [same.status])
  · intro _
    exact .throw _
  · intro _
    apply Effect.Simulates.ite (iff_of_eq self)
    · intro _
      exact .throw _
    · intro _
      exact recordVote_simulates lawful quotients same vote policy governancePolicy clock

end Cast

end Effects

end GovernanceService

open Cloud ConsensusEngine

/-- A vote that is cast not before the given time. -/
def GovernanceCall.LaterVote {Threshold : Type} (now : UtcTime) : GovernanceCall Threshold → Prop
  | .castVote _ _ _ clock => NotBefore now clock.readAt
  | _ => False

/-- Two answers are equal in Python. -/
def GovernanceAnswer.Same : GovernanceAnswer → GovernanceAnswer → Prop
  | .vote first result updated, .vote second other otherUpdated =>
      first = second ∧ result = other ∧ updated.Same otherUpdated
  | first, second => first = second

namespace GovernanceService

variable {State Threshold : Type} {store : PersistenceStore State}

/-- The status that `get_proposal` reports at the given time. -/
def statusAt (store : PersistenceStore State) (service : GovernanceService State) (now : UtcTime)
    (proposalId : String) : Except PyError String :=
  ((getProposal store proposalId now now).perform service).1.map Proposal.status

/-- The events that announce votes. -/
def voteRecords (service : GovernanceService State) : List EventAppend :=
  service.events.filter fun event => event.eventType = "governance.vote.cast"

/-- A vote left no trace in the votes, the statuses, the vote records and the later votes.
The statuses are those that `get_proposal` reports: the stored one, which `list_proposals` shows, may go
from pending to expired. -/
structure Untouched (store : PersistenceStore State) (quotients : Quotients Threshold)
    (now : UtcTime) (before after : GovernanceService State) : Prop where
  votes : ∀ voteId, store.get after.persistence votes voteId =
    store.get before.persistence votes voteId
  statuses : ∀ proposalId, statusAt store after now proposalId = statusAt store before now proposalId
  records : voteRecords after = voteRecords before
  later : ∀ calls : List (GovernanceCall Threshold), (∀ call ∈ calls, call.LaterVote now) →
    List.Forall₂ (Effect.Agree GovernanceAnswer.Same) (responses (step store quotients) after calls)
      (responses (step store quotients) before calls)

/-- The recorded votes together with a new one, in the order of their ids. -/
structure VotesWith (store : PersistenceStore State) (service : GovernanceService State)
    (vote : Vote) (cast : List Vote) : Prop where
  increasing : (cast.map Vote.voteId).Pairwise (· < ·)
  members : ∀ other, other ∈ cast ↔
    other = vote ∨ (other.voteId ≠ vote.voteId ∧ Recorded store service other)

variable {service : GovernanceService State} {proposal : Proposal}

/-- The votes that are recorded after a vote is stored. -/
theorem votesWith_of_recordings (lawful : store.Lawful)
    {vote : Vote} {next : State} {cast : List Vote}
    (written : store.put service.persistence votes vote.voteId vote.asDict = .ok next)
    (recordings : Recordings store (service.withVote next proposal vote) cast) :
    VotesWith store service vote cast := by
  refine ⟨recordings.increasing, ?_⟩
  intro other
  rw [recordings.members]
  exact recorded_putVote_iff lawful service (service.withVote next proposal vote) written other

/-- The vote is admitted, but the engine cannot evaluate it together with the recorded ones. -/
def Stranded (store : PersistenceStore State) (service : GovernanceService State) (vote : Vote)
    (policy : ConsensusPolicy Threshold) (governancePolicy : GovernancePolicy) (clock : VoteClock) :
    Prop :=
  ∃ proposal cast, Admits store service vote governancePolicy clock proposal ∧
    VotesWith store service vote cast ∧
    Unevaluable proposal (votesOn proposal.tenantId proposal.proposalId cast) policy governancePolicy
      clock.evaluatedAt

/-- The proposal and the votes of a stranded vote are determined. -/
theorem Stranded.unevaluable {vote : Vote}
    {policy : ConsensusPolicy Threshold} {governancePolicy : GovernancePolicy} {clock : VoteClock}
    {cast : List Vote}
    (stranded : Stranded store service vote policy governancePolicy clock)
    (admits : Admits store service vote governancePolicy clock proposal)
    (votesWith : VotesWith store service vote cast) :
    Unevaluable proposal (votesOn proposal.tenantId proposal.proposalId cast) policy
      governancePolicy clock.evaluatedAt := by
  obtain ⟨other, otherCast, otherAdmits, otherWith, unevaluable⟩ := stranded
  have sameCast : otherCast = cast := by
    apply eq_of_increasing otherWith.increasing votesWith.increasing
    intro vote
    rw [otherWith.members, votesWith.members]
  rwa [otherAdmits.reads.unique admits.reads, sameCast] at unevaluable

section Simulation

variable (lawful : store.Lawful) (quotients : Quotients Threshold)

include lawful

variable {now : UtcTime}

theorem call_simulates {operation : GovernanceCall Threshold} (later : operation.LaterVote now) :
    Effect.Simulates (Alike store now) GovernanceAnswer.Same (call store quotients operation)
      (call store quotients operation) := by
  cases operation with
  | castVote vote policy governancePolicy clock =>
      apply (castVote_simulates lawful quotients vote policy governancePolicy clock later).bind
      intro first second same
      exact .pure same
  | createProposal => exact later.elim
  | getProposal => exact later.elim
  | execute => exact later.elim
  | resolveApproval => exact later.elim

variable {first second : GovernanceService State}

/-- Alike services give the same answers to all later votes. -/
theorem responses_simulate (alike : Alike store now first second)
    (calls : List (GovernanceCall Threshold)) (later : ∀ call ∈ calls, call.LaterVote now) :
    List.Forall₂ (Effect.Agree GovernanceAnswer.Same) (responses (step store quotients) first calls)
      (responses (step store quotients) second calls) := by
  apply responses_related _ _ (fun _ operation => operation.LaterVote now) (Alike store now) _ _
    first second calls alike (guarded_of_forall _ _ _ calls later)
  intro state other operation related guard
  exact call_simulates lawful quotients guard state other related

/-- Alike services report the same statuses. -/
theorem statusAt_simulates (alike : Alike store now first second) (proposalId : String) :
    statusAt store first now proposalId = statusAt store second now proposalId := by
  have notBefore : NotBefore now now := by simp [NotBefore, DateTime.later?]
  have answers := (getProposal_simulates lawful proposalId notBefore now first second alike).1
  unfold statusAt
  revert answers
  cases ((getProposal store proposalId now now).perform first).1 with
  | error error =>
      cases ((getProposal store proposalId now now).perform second).1 with
      | error other =>
          intro same
          exact congrArg Except.error same
      | ok other => exact fun same => same.elim
  | ok proposal =>
      cases ((getProposal store proposalId now now).perform second).1 with
      | error other => exact fun same => same.elim
      | ok other =>
          intro same
          exact congrArg Except.ok (Proposal.Same.status same)

/-- A service with the same votes and vote records that is alike was left untouched. -/
theorem Alike.untouched {before after : GovernanceService State}
    (alike : Alike store now after before)
    (votes : ∀ voteId, store.get after.persistence votes voteId =
      store.get before.persistence votes voteId)
    (events : after.events = before.events) : Untouched store quotients now before after where
  votes := votes
  statuses := statusAt_simulates lawful alike
  records := by rw [voteRecords, voteRecords, events]
  later := responses_simulate lawful quotients alike

end Simulation

section Refused

variable (lawful : store.Lawful)

include lawful

/-- The mark of an expired proposal changes nothing for later votes. -/
theorem Lapses.alike {service : GovernanceService State} {proposalId : String}
    {now markedAt : UtcTime} {proposal : Proposal} {next : State}
    (readable : Readable store service) (lapses : Lapses store service proposalId now proposal)
    (written : store.put service.persistence proposals proposalId
      (proposal.withStatus "expired" none markedAt).asDict = .ok next) :
    Alike store now { service with persistence := next } service := by
  have keyed := lapses.reads.proposalId readable
  obtain ⟨row, stored, found, rowSame, same, _⟩ := lapses.reads.stored readable
  have fits : proposals = proposals → ∃ record : Proposal, record.proposalId = proposalId ∧
      (proposal.withStatus "expired" none markedAt).asDict = record.asDict :=
    fun _ => ⟨proposal.withStatus "expired" none markedAt, keyed, rfl⟩
  refine ⟨⟨readable.proposals.put lawful written fits,
    readable.votes.put lawful written fun equal => absurd equal (by decide),
    readable.approvals.put lawful written fun equal => absurd equal (by decide)⟩, readable, ?_, ?_⟩
  · exact recorded_putOther_iff lawful service ⟨next, service.events⟩ written (by decide)
  · intro query
    dsimp only
    by_cases sameId : query = proposalId
    · subst sameId
      obtain ⟨marked, present, markedSame⟩ := lawful.get_put_self _ _ _ _ _ written
      rw [present, found]
      refine ⟨_, stored, markedSame, rowSame, .inr ⟨⟨lapses.expired, ?_⟩, ?_, ?_⟩⟩
      · show "expired" ∉ ["executed", "rejected"]
        decide
      · have lapsed : proposal.Lapsed now := ⟨lapses.expired, lapses.notDecided⟩
        exact lapsed.of_same same.symm
      · intro later
        exact same.withStatus "expired" later
    · rw [lawful.get_put_of_ne _ _ _ _ _ proposals query written (by simp [sameId])]
      exact (Alike.refl readable now).rows query

end Refused

section Atomicity

variable (lawful : store.Lawful) (quotients : Quotients Threshold)

include lawful

/-- An admitted vote stays recorded and announced exactly when the engine cannot evaluate it. -/
theorem recordVote_evaluates {service : GovernanceService State} (readable : Readable store service)
    {vote : Vote} (policy : ConsensusPolicy Threshold) {governancePolicy : GovernancePolicy}
    {clock : VoteClock} {proposal : Proposal}
    (admits : Admits store service vote governancePolicy clock proposal) :
    (Stranded store service vote policy governancePolicy clock ∧ ∃ error next,
      (recordVote store quotients proposal vote policy governancePolicy clock).perform service =
        (.error error, service.withVote next proposal vote)) ∨
    (¬ Stranded store service vote policy governancePolicy clock ∧ ∃ answer after,
      (recordVote store quotients proposal vote policy governancePolicy clock).perform service =
        (.ok answer, after)) := by
  obtain ⟨next, cast, written, _, recordings, outcome⟩ :=
    recordVote_cases quotients lawful readable proposal vote policy governancePolicy clock
  have votesWith := votesWith_of_recordings lawful written recordings
  obtain ⟨expired, compared⟩ := Proposal.isExpired_compares admits.notExpired clock.evaluatedAt
  obtain ⟨later, comparedLater⟩ := Proposal.isExpired_compares admits.notExpired clock.reviewedAt
  have fails : (∃ error, evaluate quotients proposal
      (votesOn proposal.tenantId proposal.proposalId cast) policy governancePolicy
      clock.evaluatedAt clock.reviewedAt = .error error) ↔ _ :=
    evaluate_error_iff compared comparedLater
  rcases outcome with ⟨error, evaluated, failed⟩ | ⟨result, final, evaluated, _, returned⟩
  · have unevaluable := fails.mp ⟨error, evaluated⟩
    exact .inl ⟨⟨proposal, cast, admits, votesWith, unevaluable⟩, error, next, failed⟩
  · refine .inr ⟨?_, _, _, returned⟩
    intro stranded
    obtain ⟨error, raised⟩ := fails.mpr (stranded.unevaluable admits votesWith)
    rw [evaluated] at raised
    cases raised

/-- A vote that raises leaves no trace exactly when it is not stranded. -/
theorem castVote_untouched_iff (calls : List (GovernanceCall Threshold)) (vote : Vote)
    (policy : ConsensusPolicy Threshold) (governancePolicy : GovernancePolicy) (clock : VoteClock) :
    (∀ error after,
        (castVote store quotients vote policy governancePolicy clock).perform
          (reached store quotients calls) = (.error error, after) →
        Untouched store quotients clock.readAt (reached store quotients calls) after) ↔
      ¬ Stranded store (reached store quotients calls) vote policy governancePolicy clock := by
  have readable := reached_readable lawful quotients calls
  generalize reached store quotients calls = service at readable
  rcases castVote_cases quotients lawful readable vote policy governancePolicy clock with
    ⟨error, failed, refused⟩ | ⟨proposal, next, lapses, written, failed⟩ |
      ⟨proposal, admits, recorded⟩
  · apply iff_of_true
    · intro raised after performed
      rw [failed] at performed
      cases performed
      exact (Alike.refl readable clock.readAt).untouched lawful quotients (fun _ => rfl) rfl
    · rintro ⟨proposal, _, admits, _⟩
      exact refused proposal admits
  · apply iff_of_true
    · intro raised after performed
      rw [failed] at performed
      cases performed
      apply (lapses.alike lawful readable written).untouched lawful quotients _ rfl
      intro voteId
      exact lawful.get_put_of_ne _ _ _ _ _ votes voteId written (by simp [votes, proposals])
    · rintro ⟨other, _, admits, _⟩
      have live := admits.notExpired
      rw [admits.reads.unique lapses.reads, lapses.expired] at live
      cases live
  · rw [recorded]
    rcases recordVote_evaluates lawful quotients readable policy admits with
      ⟨stranded, error, next, failed⟩ | ⟨evaluable, answer, after, returned⟩
    · apply iff_of_false
      · intro untouched
        have records := (untouched error _ failed).records
        rw [voteRecords, withVote, List.filter_append] at records
        simp [voteRecords] at records
      · exact not_not.mpr stranded
    · apply iff_of_true
      · intro error other performed
        rw [returned] at performed
        cases performed
      · exact evaluable

end Atomicity

section Example

/-- The answer is the given exception. -/
def raises {Value : Type} (answer : Except PyError Value) (error : PyError) : Bool :=
  match answer with
  | .error raised => raised = error
  | .ok _ => false

theorem eq_error_of_raises {Value : Type} {answer : Except PyError Value} {error : PyError}
    (raised : raises answer error = true) : answer = .error error := by
  cases answer with
  | error other => exact congrArg Except.error (of_decide_eq_true raised)
  | ok value => cases raised

def unanimousPolicy : ConsensusPolicy Rat := ⟨"unanimous", 1 / 2, [], 1⟩

/-- One rejection closes the proposal. -/
def castRejection : GovernanceCall Rat :=
  .castVote (reviewerVote "vote-1" "agent-1" "reject") unanimousPolicy openGovernancePolicy firstClock

/-- A vote on a rejected proposal raises and leaves no trace. -/
theorem castVote_untouched_iff_closed :
    ∃ after, (castVote backend exactQuotients
        (reviewerVote "vote-2" "agent-2" "approve") majorityPolicy openGovernancePolicy
        firstClock).perform (memoryReached [createTwoApprovals, castRejection]) =
          (.error (.conflictError "proposal is closed"), after) ∧
      Untouched backend exactQuotients firstClock.readAt
        (memoryReached [createTwoApprovals, castRejection]) after := by
  have raised : ((castVote backend exactQuotients
      (reviewerVote "vote-2" "agent-2" "approve") majorityPolicy openGovernancePolicy
      firstClock).perform (memoryReached [createTwoApprovals, castRejection])).1 =
        .error (.conflictError "proposal is closed") :=
    eq_error_of_raises (by decide)
  refine ⟨_, Prod.ext raised rfl, ?_⟩
  apply (castVote_untouched_iff backend_lawful exactQuotients
    [createTwoApprovals, castRejection] (reviewerVote "vote-2" "agent-2" "approve") majorityPolicy
    openGovernancePolicy firstClock).mpr _ _ _ (Prod.ext raised rfl)
  rintro ⟨proposal, cast, admits, _⟩
  have readable := reached_readable backend_lawful exactQuotients
    [createTwoApprovals, castRejection]
  have status : proposal.status = "rejected" :=
    (admits.reads.hasStatus_iff readable "rejected").mp (by decide)
  apply admits.notClosed
  rw [status]
  decide

/-- A vote of a role that may not vote. -/
def observerVote : Vote :=
  { reviewerVote "vote-1" "agent-1" "approve" with voterRole := "observer" }

/-- The vote of an observer raises but stays recorded and makes a later vote raise. -/
theorem castVote_observer_recorded :
    ∃ after, (castVote backend exactQuotients observerVote majorityPolicy
        openGovernancePolicy firstClock).perform (memoryReached [createTwoApprovals]) =
          (.error (.authorizationError "agent cannot vote outside authorized role"), after) ∧
      voteTexts (memoryReached [createTwoApprovals]) "vote_id" = [] ∧
      voteTexts after "vote_id" = [some "vote-1"] ∧
      raises (step backend exactQuotients after (castReview "vote-2" "agent-2" "approve")).1
        (.authorizationError "agent cannot vote outside authorized role") = true ∧
      raises (step backend exactQuotients (memoryReached [createTwoApprovals])
        (castReview "vote-2" "agent-2" "approve")).1
        (.authorizationError "agent cannot vote outside authorized role") = false ∧
      ¬ Untouched backend exactQuotients firstClock.readAt
        (memoryReached [createTwoApprovals]) after := by
  have raised : ((castVote backend exactQuotients observerVote majorityPolicy
      openGovernancePolicy firstClock).perform (memoryReached [createTwoApprovals])).1 =
        .error (.authorizationError "agent cannot vote outside authorized role") :=
    eq_error_of_raises (by decide)
  refine ⟨_, Prod.ext raised rfl, by decide, by decide, by decide, by decide, ?_⟩
  intro untouched
  have row := congrArg Option.isSome (untouched.votes "vote-1")
  revert row
  decide

end Example

end GovernanceService

end AgentFabric.Governance
