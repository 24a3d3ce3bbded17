import AgentFabric.Construction.Reputation.ReputationService

namespace AgentFabric.Reputation
open Events Transition

section Keys

/-- The tenant that a key names. -/
def tenantName (tenantId : Option String) : String := tenantId.getD ""

theorem pairKey_eq (agentId : String) (tenantId : Option String) :
    pairKey agentId tenantId =
      if tenantName tenantId = "" then agentId else tenantName tenantId ++ ":" ++ agentId := by
  cases tenantId with
  | none => rfl
  | some tenant => rfl

/-- The keys of one agent tell its tenants apart. -/
theorem pairKey_tenant {agentId : String} {tenantId other : Option String}
    (same : pairKey agentId tenantId = pairKey agentId other) :
    tenantName tenantId = tenantName other := by
  rw [pairKey_eq, pairKey_eq] at same
  by_cases first : tenantName tenantId = ""
  · by_cases second : tenantName other = ""
    · rw [first, second]
    · rw [if_pos first, if_neg second] at same
      have lengths := congrArg String.length same
      simp only [String.length_append] at lengths
      have colon : ":".length = 1 := rfl
      omega
  · by_cases second : tenantName other = ""
    · rw [if_neg first, if_pos second] at same
      have lengths := congrArg String.length same
      simp only [String.length_append] at lengths
      have colon : ":".length = 1 := rfl
      omega
    · rw [if_neg first, if_neg second, String.append_assoc, String.append_assoc] at same
      exact (String.append_left_inj _).mp same

end Keys

namespace ReputationService

section Recording

/-- The record under the key of a pair belongs to its agent, if there is one. -/
def OwnOrNew (service : ReputationService) (agentId : String) (tenantId : Option String) : Prop :=
  ∀ record, service.records.get? (pairKey agentId tenantId) = some record → record.agentId = agentId

/-- The row of a key is what the live service holds under the key. -/
def Agrees (service : ReputationService) (key : String) : Prop :=
  match service.rows.get? key with
  | none => service.records.get? key = none ∧ service.timelineAt key = []
  | some row =>
      pairKey row.record.agentId row.tenantId = key ∧
        service.records.get? key = some row.record ∧ service.timelineAt key = row.timeline

/-- Two services hold the same under a key. -/
structure SameAt (first second : ReputationService) (key : String) : Prop where
  record : second.records.get? key = first.records.get? key
  timeline : second.timelineAt key = first.timelineAt key
  row : second.rows.get? key = first.rows.get? key

variable {key : String}

theorem SameAt.agrees {first second : ReputationService}
    (same : SameAt first second key) (agrees : first.Agrees key) : second.Agrees key := by
  unfold Agrees at agrees ⊢
  rw [same.row, same.record, same.timeline]
  exact agrees

variable (service : ReputationService) (agentId : String) (tenantId : Option String)
  {record : ReputationRecord}

/-- The persisted row of a live record agrees with it. -/
theorem persist_agrees (live : service.records.get? (pairKey agentId tenantId) = some record)
    (own : record.agentId = agentId) :
    (service.persist agentId tenantId).Agrees (pairKey agentId tenantId) := by
  unfold Agrees persist
  rw [live]
  simp only [Dict.get?_set_self]
  refine ⟨by rw [own], live, ?_⟩
  rfl

theorem persist_other (different : key ≠ pairKey agentId tenantId) :
    SameAt service (service.persist agentId tenantId) key := by
  unfold persist
  cases live : service.records.get? (pairKey agentId tenantId) with
  | none => exact ⟨rfl, rfl, rfl⟩
  | some record => exact ⟨rfl, rfl, Dict.get?_set_of_ne _ _ different⟩

theorem persist_records : (service.persist agentId tenantId).records = service.records := by
  unfold persist
  cases service.records.get? (pairKey agentId tenantId) <;> rfl

theorem persist_timelines : (service.persist agentId tenantId).timelines = service.timelines := by
  unfold persist
  cases service.records.get? (pairKey agentId tenantId) <;> rfl

theorem get_record : (service.get agentId tenantId).1 =
    (service.records.get? (pairKey agentId tenantId)).getD { agentId } := by
  unfold get
  cases service.records.get? (pairKey agentId tenantId) <;> rfl

theorem get_timelines : (service.get agentId tenantId).2.timelines = service.timelines := by
  unfold get
  cases service.records.get? (pairKey agentId tenantId) with
  | some record => rfl
  | none => exact persist_timelines _ _ _

theorem timeline_answer : (service.timeline agentId tenantId).1 =
    service.timelineAt (pairKey agentId tenantId) := by
  show (service.get agentId tenantId).2.timelineAt _ = _
  unfold timelineAt
  rw [get_timelines]

/-- A pair without a record gets one that is stored. -/
theorem get_agrees (agrees : service.Agrees (pairKey agentId tenantId)) :
    (service.get agentId tenantId).2.Agrees (pairKey agentId tenantId) := by
  unfold get
  cases live : service.records.get? (pairKey agentId tenantId) with
  | some record => exact agrees
  | none =>
      exact persist_agrees { service with records := service.records.set _ { agentId } } _ _
        (Dict.get?_set_self _ _ _) rfl

theorem get_other (different : key ≠ pairKey agentId tenantId) :
    SameAt service (service.get agentId tenantId).2 key := by
  unfold get
  cases live : service.records.get? (pairKey agentId tenantId) with
  | some record => exact ⟨rfl, rfl, rfl⟩
  | none =>
      have stored := persist_other
        { service with records := service.records.set (pairKey agentId tenantId) { agentId } }
        agentId tenantId different
      exact ⟨stored.record.trans (Dict.get?_set_of_ne _ _ different), stored.timeline, stored.row⟩

variable {change : ReputationRecord → ReputationRecord} (entry : TimelineEntry)

/-- A recording for a pair of its own leaves a row that agrees. -/
theorem record_agrees (own : service.OwnOrNew agentId tenantId)
    (keeps : ∀ record, (change record).agentId = record.agentId) :
    (service.record agentId tenantId change entry).2.Agrees (pairKey agentId tenantId) := by
  unfold record
  have own_id : (change (service.get agentId tenantId).1).agentId = agentId := ?_
  · exact persist_agrees _ _ _ (Dict.get?_set_self _ _ _) own_id
  rw [keeps, get_record]
  cases live : service.records.get? (pairKey agentId tenantId) with
  | none => rfl
  | some record => exact own record live

theorem record_other (different : key ≠ pairKey agentId tenantId) :
    SameAt service (service.record agentId tenantId change entry).2 key := by
  have read := get_other service agentId tenantId different
  unfold record
  have stored := persist_other { (service.get agentId tenantId).2 with
    records := (service.get agentId tenantId).2.records.set (pairKey agentId tenantId)
      (change (service.get agentId tenantId).1)
    timelines := (service.get agentId tenantId).2.timelines.set (pairKey agentId tenantId)
      ((service.get agentId tenantId).2.timelineAt (pairKey agentId tenantId) ++ [entry]) }
    agentId tenantId different
  refine ⟨?_, ?_, stored.row.trans read.row⟩
  · exact stored.record.trans ((Dict.get?_set_of_ne _ _ different).trans read.record)
  · refine stored.timeline.trans (Eq.trans ?_ read.timeline)
    unfold timelineAt
    rw [Dict.getD_set, if_neg different]

/-- The live record of a recording keeps its agent. -/
theorem record_agent (own : service.OwnOrNew agentId tenantId)
    (keeps : ∀ record, (change record).agentId = record.agentId)
    (live : (service.record agentId tenantId change entry).2.records.get?
      (pairKey agentId tenantId) = some record) : record.agentId = agentId := by
  have agrees := record_agrees service agentId tenantId entry own keeps
  have changed : (service.record agentId tenantId change entry).2.records.get?
      (pairKey agentId tenantId) = some (change (service.get agentId tenantId).1) := by
    show (persist _ agentId tenantId).records.get? _ = _
    rw [persist_records]
    exact Dict.get?_set_self _ _ _
  cases changed.symm.trans live
  rw [keeps, get_record]
  cases found : service.records.get? (pairKey agentId tenantId) with
  | none => rfl
  | some record => exact own record found

end Recording

section Replay

variable (settings : ReputationSettings)

def Recording.agentId : Recording → String
  | .task agentId _ _ _ => agentId
  | .rating agentId _ _ => agentId

def Recording.tenantId : Recording → Option String
  | .task _ tenantId _ _ => tenantId
  | .rating _ tenantId _ => tenantId

def Recording.key (recording : Recording) : String :=
  pairKey recording.agentId recording.tenantId

/-- What a replay records before an event that raises. -/
def recordings : List AgentFabricEvent → List Recording
  | [] => []
  | event :: rest =>
      match recordingOf settings event with
      | .error _ => []
      | .ok none => recordings rest
      | .ok (some recording) => recording :: recordings rest

theorem replay_eq (service : ReputationService) (events : List AgentFabricEvent) :
    (service.replay settings events).2 =
      (recordings settings events).foldl applyRecording service := by
  induction events generalizing service with
  | nil => rfl
  | cons event rest ih =>
      unfold replay recordings
      cases recordingOf settings event with
      | error error => rfl
      | ok found =>
          cases found with
          | none => exact ih service
          | some recording => exact ih (service.applyRecording recording)

variable {recording : Recording} {service : ReputationService}

section

variable (own : service.OwnOrNew recording.agentId recording.tenantId)
include own

theorem applyRecording_agrees : (service.applyRecording recording).Agrees recording.key := by
  cases recording with
  | task agentId tenantId success latencyMs =>
      exact record_agrees service agentId tenantId _ own fun _ => rfl
  | rating agentId tenantId rating =>
      exact record_agrees service agentId tenantId _ own fun _ => rfl

theorem applyRecording_agent {record : ReputationRecord}
    (live : (service.applyRecording recording).records.get? recording.key = some record) :
    record.agentId = recording.agentId := by
  cases recording with
  | task agentId tenantId success latencyMs =>
      refine record_agent service agentId tenantId _ own ?_ live
      exact fun _ => rfl
  | rating agentId tenantId rating =>
      refine record_agent service agentId tenantId _ own ?_ live
      exact fun _ => rfl

end

theorem applyRecording_other (service : ReputationService) (recording : Recording) {key : String}
    (different : key ≠ recording.key) : SameAt service (service.applyRecording recording) key := by
  cases recording with
  | task agentId tenantId success latencyMs =>
      exact record_other service agentId tenantId _ different
  | rating agentId tenantId rating => exact record_other service agentId tenantId _ different

/-- Recordings under one key are of one agent. -/
def Unambiguous (all : List Recording) : Prop :=
  ∀ first ∈ all, ∀ second ∈ all, first.key = second.key → first.agentId = second.agentId

/-- Part of a replay, whose remaining recordings include every row that is not renewed yet. -/
structure Replaying (all remaining : List Recording) (service : ReputationService) : Prop where
  renewed : ∀ key, service.Agrees key ∨
    service.records.get? key = none ∧ service.timelineAt key = [] ∧
      (service.rows.get? key ≠ none → ∃ recording ∈ remaining, recording.key = key)
  agents : ∀ key record, service.records.get? key = some record →
    ∃ recording ∈ all, recording.key = key ∧ recording.agentId = record.agentId

variable {all remaining : List Recording}

theorem Replaying.own (replaying : Replaying all remaining service) (unambiguous : Unambiguous all)
    (member : recording ∈ all) :
    service.OwnOrNew recording.agentId recording.tenantId := by
  intro record live
  obtain ⟨source, listed, same, agent⟩ := replaying.agents _ record live
  rw [← agent]
  exact unambiguous source listed recording member same

/-- One recording renews the row of its key. -/
theorem Replaying.next (replaying : Replaying all (recording :: remaining) service)
    (unambiguous : Unambiguous all) (member : recording ∈ all) :
    Replaying all remaining (service.applyRecording recording) := by
  have own := replaying.own unambiguous member
  constructor
  · intro key
    by_cases same : key = recording.key
    · subst same
      exact .inl (applyRecording_agrees own)
    · have kept := applyRecording_other service recording same
      obtain agrees | ⟨unrecorded, empty, later⟩ := replaying.renewed key
      · exact .inl (kept.agrees agrees)
      · refine .inr ⟨kept.record.trans unrecorded, kept.timeline.trans empty, ?_⟩
        intro stored
        rw [kept.row] at stored
        obtain ⟨source, listed, named⟩ := later stored
        obtain rfl | rest := List.mem_cons.mp listed
        · exact absurd named.symm same
        · exact ⟨source, rest, named⟩
  · intro key record live
    by_cases same : key = recording.key
    · subst same
      exact ⟨recording, member, rfl, (applyRecording_agent own live).symm⟩
    · rw [(applyRecording_other service recording same).record] at live
      exact replaying.agents key record live

theorem Replaying.foldl (replaying : Replaying all remaining service)
    (unambiguous : Unambiguous all) (listed : ∀ recording ∈ remaining, recording ∈ all) :
    Replaying all [] (remaining.foldl applyRecording service) := by
  induction remaining generalizing service with
  | nil => exact replaying
  | cons recording rest ih =>
      exact ih (replaying.next unambiguous (listed recording (.head _)))
        fun later member => listed later (.tail _ member)

/-- Every row of the persistence is what the live service holds. -/
def Consistent (service : ReputationService) : Prop := ∀ key, service.Agrees key

/-- A replay that is unambiguous and records every stored pair renews all rows. -/
theorem reconstruct_consistent {events : List AgentFabricEvent}
    (unambiguous : Unambiguous (recordings settings events))
    (covers : ∀ key, service.rows.get? key ≠ none →
      ∃ recording ∈ recordings settings events, recording.key = key) :
    (service.reconstructFromEvents settings events).2.Consistent := by
  have cleared : Replaying (recordings settings events) (recordings settings events)
      service.clear := by
    constructor
    · intro key
      exact .inr ⟨rfl, rfl, covers key⟩
    · intro key record live
      cases live
  have replayed := cleared.foldl unambiguous fun _ member => member
  rw [← replay_eq] at replayed
  intro key
  obtain agrees | ⟨unrecorded, empty, later⟩ := replayed.renewed key
  · exact agrees
  · have absent : (service.clear.replay settings events).2.rows.get? key = none := by
      by_contra stored
      obtain ⟨recording, member, _⟩ := later stored
      cases member
    unfold Agrees reconstructFromEvents
    rw [absent]
    exact ⟨unrecorded, empty⟩

end Replay

section Reopening

variable {service : ReputationService}

/-- The rows are listed once each, so the reopened service holds what they hold. -/
theorem reopened_holds (consistent : service.Consistent)
    {listing : List ReputationRow} (listed : listing.Perm service.rows.values) (key : String) :
    (service.reopened listing).records.get? key = service.records.get? key ∧
      (service.reopened listing).timelineAt key = service.timelineAt key := by
  have named (name : String) (row : ReputationRow) (stored : service.rows.get? name = some row) :
      pairKey row.record.agentId row.tenantId = name := by
    have agrees := consistent name
    unfold Agrees at agrees
    rw [stored] at agrees
    exact agrees.1
  have keys : service.rows.values.map (fun row => pairKey row.record.agentId row.tenantId) =
      service.rows.items.map Prod.fst := by
    rw [Dict.values, List.map_map]
    apply List.map_congr_left
    intro item member
    exact named item.1 item.2 ((Dict.get?_eq_some_iff _ _ _).mpr member)
  have distinct : (listing.map fun row => pairKey row.record.agentId row.tenantId).Nodup := by
    rw [(listed.map _).nodup_iff, keys]
    exact service.rows.distinct
  have agrees := consistent key
  unfold Agrees at agrees
  cases stored : service.rows.get? key with
  | none =>
      rw [stored] at agrees
      have absent : key ∉ listing.map fun row => pairKey row.record.agentId row.tenantId := by
        intro member
        obtain ⟨row, inside, rfl⟩ := List.mem_map.mp member
        obtain ⟨name, held⟩ := (Dict.mem_values_iff _ _).mp (listed.mem_iff.mp inside)
        rw [named name row held, held] at stored
        cases stored
      have records := Dict.get?_setAll_of_not_mem Dict.empty
        (Dict.itemsOf (fun row => pairKey row.record.agentId row.tenantId) ReputationRow.record
          listing) key (by rwa [Dict.itemsOf_keys])
      have timelines := Dict.get?_setAll_of_not_mem Dict.empty
        (Dict.itemsOf (fun row => pairKey row.record.agentId row.tenantId) ReputationRow.timeline
          listing) key (by rwa [Dict.itemsOf_keys])
      rw [agrees.1, agrees.2]
      refine ⟨records, ?_⟩
      unfold timelineAt Dict.getD reopened
      rw [timelines]
      rfl
  | some row =>
      rw [stored] at agrees
      obtain ⟨named, live, timeline⟩ := agrees
      have member : row ∈ listing :=
        listed.mem_iff.mpr ((Dict.mem_values_iff _ _).mpr ⟨key, stored⟩)
      have records := Dict.get?_setAll_of_mem Dict.empty
        (Dict.itemsOf (fun row => pairKey row.record.agentId row.tenantId) ReputationRow.record
          listing) (by rwa [Dict.itemsOf_keys]) (_, row.record) (List.mem_map.mpr ⟨row, member, rfl⟩)
      have timelines := Dict.get?_setAll_of_mem Dict.empty
        (Dict.itemsOf (fun row => pairKey row.record.agentId row.tenantId) ReputationRow.timeline
          listing) (by rwa [Dict.itemsOf_keys]) (_, row.timeline)
        (List.mem_map.mpr ⟨row, member, rfl⟩)
      simp only [named] at records timelines
      rw [live, timeline]
      refine ⟨records, ?_⟩
      unfold timelineAt Dict.getD reopened
      rw [timelines]
      rfl

/-- A service over the same rows reports the same record and timeline for every pair. -/
def Survives (service : ReputationService) : Prop :=
  ∀ listing : List ReputationRow, listing.Perm service.rows.values →
    ∀ (agentId : String) (tenantId : Option String),
      ((service.reopened listing).get agentId tenantId).1 = (service.get agentId tenantId).1 ∧
        ((service.reopened listing).timeline agentId tenantId).1 =
          (service.timeline agentId tenantId).1

theorem Consistent.survives (consistent : service.Consistent) : service.Survives := by
  intro listing listed agentId tenantId
  obtain ⟨record, timeline⟩ := reopened_holds consistent listed (pairKey agentId tenantId)
  constructor
  · rw [get_record, get_record, record]
  · rw [timeline_answer, timeline_answer, timeline]

end Reopening

section Runs

variable (settings : ReputationSettings)

/-- The pair that a call is for. -/
def pairOf : ReputationCall → Option (String × Option String)
  | .get agentId tenantId => some (agentId, tenantId)
  | .recordTask agentId tenantId _ _ => some (agentId, tenantId)
  | .recordRating agentId tenantId _ => some (agentId, tenantId)
  | .recordApproval agentId tenantId _ => some (agentId, tenantId)
  | .reconstructFromEvents _ => none

variable (service : ReputationService)

/-- A recording is for a pair whose key no other agent's record has, and a reconstruction is
unambiguous and records every stored pair again. A `get` is free: for a pair whose key another agent's
record has, it returns that record. -/
def Separate : ReputationCall → Prop
  | .get _ _ => True
  | .recordTask agentId tenantId _ _ => service.OwnOrNew agentId tenantId
  | .recordRating agentId tenantId _ => service.OwnOrNew agentId tenantId
  | .recordApproval agentId tenantId _ => service.OwnOrNew agentId tenantId
  | .reconstructFromEvents events => Unambiguous (recordings settings events) ∧
      ∀ key, service.rows.get? key ≠ none →
        ∃ recording ∈ recordings settings events, recording.key = key

variable (call : ReputationCall)

/-- A call for a pair leaves the record and the timeline of every other pair as they are. -/
def LeavesOthers : Prop :=
  ∀ agentId tenantId, pairOf call = some (agentId, tenantId) →
    ∀ (other : String) (otherTenant : Option String) (record : ReputationRecord),
      (other, tenantName otherTenant) ≠ (agentId, tenantName tenantId) →
      service.records.get? (pairKey other otherTenant) = some record → record.agentId = other →
      (service.step settings call).2.records.get? (pairKey other otherTenant) = some record ∧
        (service.step settings call).2.timelineAt (pairKey other otherTenant) =
          service.timelineAt (pairKey other otherTenant)

/-- A call reads a pair, records something for a pair, or reconstructs. -/
theorem step_cases :
    (∃ agentId tenantId, call = .get agentId tenantId) ∨
      (∃ agentId tenantId change entry, pairOf call = some (agentId, tenantId) ∧
        (Separate settings service call → service.OwnOrNew agentId tenantId) ∧
        (∀ record : ReputationRecord, (change record).agentId = record.agentId) ∧
        (service.step settings call).2 = (service.record agentId tenantId change entry).2) ∨
      ∃ events, call = .reconstructFromEvents events := by
  cases call with
  | get agentId tenantId => exact .inl ⟨agentId, tenantId, rfl⟩
  | recordTask agentId tenantId success latencyMs =>
      have after : (service.step settings (.recordTask agentId tenantId success latencyMs)).2 =
          (service.recordTask agentId tenantId success latencyMs).2 := rfl
      rw [recordTask] at after
      refine .inr (.inl ⟨agentId, tenantId, _, _, rfl, id, ?_, after⟩)
      exact fun _ => rfl
  | recordRating agentId tenantId rating =>
      have after : (service.step settings (.recordRating agentId tenantId rating)).2 =
          (service.recordRating agentId tenantId rating).2 := rfl
      rw [recordRating] at after
      refine .inr (.inl ⟨agentId, tenantId, _, _, rfl, id, ?_, after⟩)
      exact fun _ => rfl
  | recordApproval agentId tenantId approved =>
      have after : (service.step settings (.recordApproval agentId tenantId approved)).2 =
          (service.recordApproval agentId tenantId approved).2 := rfl
      rw [recordApproval] at after
      refine .inr (.inl ⟨agentId, tenantId, _, _, rfl, id, ?_, after⟩)
      exact fun _ => rfl
  | reconstructFromEvents events => exact .inr (.inr ⟨events, rfl⟩)

/-- A change under the key of one pair leaves the keys of the others. -/
theorem consistent_of_other {service after : ReputationService} {key : String}
    (consistent : service.Consistent) (own : after.Agrees key)
    (others : ∀ other, other ≠ key → SameAt service after other) : after.Consistent := by
  intro other
  by_cases same : other = key
  · subst same
    exact own
  · exact (others other same).agrees (consistent other)

theorem step_consistent (consistent : service.Consistent)
    (separate : Separate settings service call) :
    (service.step settings call).2.Consistent := by
  obtain ⟨agentId, tenantId, rfl⟩ | ⟨agentId, tenantId, change, entry, _, own, keeps, after⟩ |
    ⟨events, rfl⟩ := step_cases settings service call
  · exact consistent_of_other consistent (get_agrees service agentId tenantId (consistent _))
      fun _ different => get_other service agentId tenantId different
  · rw [after]
    exact consistent_of_other consistent
      (record_agrees service agentId tenantId entry (own separate) keeps)
      fun _ different => record_other service agentId tenantId entry different
  · exact reconstruct_consistent settings separate.1 separate.2

/-- The key of another pair with a record is another key. -/
theorem OwnOrNew.other_key {service : ReputationService} {agentId other : String}
    {tenantId otherTenant : Option String} (own : service.OwnOrNew agentId tenantId)
    {record : ReputationRecord}
    (different : (other, tenantName otherTenant) ≠ (agentId, tenantName tenantId))
    (live : service.records.get? (pairKey other otherTenant) = some record)
    (agent : record.agentId = other) : pairKey other otherTenant ≠ pairKey agentId tenantId := by
  intro same
  rw [same] at live
  obtain rfl : other = agentId := agent.symm.trans (own record live)
  exact different (by rw [pairKey_tenant same])

theorem step_leavesOthers
    (separate : Separate settings service call) : LeavesOthers settings service call := by
  intro agentId tenantId pair other otherTenant record different live agent
  obtain ⟨name, tenant, rfl⟩ | ⟨name, tenant, change, entry, named, own, keeps, after⟩ |
    ⟨events, rfl⟩ := step_cases settings service call
  · cases pair
    by_cases same : pairKey other otherTenant = pairKey agentId tenantId
    · have kept : (service.get agentId tenantId).2 = service := by
        rw [same] at live
        unfold get
        rw [live]
      show (service.get agentId tenantId).2.records.get? _ = _ ∧
        (service.get agentId tenantId).2.timelineAt _ = _
      rw [kept]
      exact ⟨live, rfl⟩
    · have kept := get_other service agentId tenantId same
      exact ⟨kept.record.trans live, kept.timeline⟩
  · cases named.symm.trans pair
    have kept : SameAt service (service.record agentId tenantId change entry).2
        (pairKey other otherTenant) :=
      record_other service agentId tenantId entry ((own separate).other_key different live agent)
    rw [after]
    exact ⟨kept.record.trans live, kept.timeline⟩
  · cases pair

/-- In a run of separate calls every state survives a restart, and no call changes the record of
another pair. -/
theorem restart_survives (calls : List ReputationCall)
    (separate : Guarded (step settings) (Separate settings) initial calls)
    (done rest : List ReputationCall)
    (split : calls = done ++ rest) :
    (run (step settings) initial done).Survives ∧
      ∀ call later, rest = call :: later →
        LeavesOthers settings (run (step settings) initial done) call := by
  rw [split, guarded_append] at separate
  have consistent : (run (step settings) initial done).Consistent := by
    refine run_invariant_of_guarded (step settings) (Separate settings) Consistent ?_ initial done
      ?_ separate.1
    · intro service call holds met
      exact step_consistent settings service call holds met
    · intro key
      exact ⟨rfl, rfl⟩
  refine ⟨consistent.survives, ?_⟩
  rintro call later rfl
  exact step_leavesOthers settings _ call separate.2.1

end Runs

section Example

/-- Texts and whole numbers are read as they are. -/
def plainSettings : ReputationSettings where
  str := fun value => match value with
    | .str text => text
    | _ => ""
  float := fun value => match value with
    | .int number => .ok number
    | _ => .error (.typeError "float() argument must be a string or a real number")

/-- A task of one agent of one tenant. -/
def completedTask : AgentFabricEvent where
  eventType := "task.completed"
  aggregateId := "task-1"
  payload := [("agent_id", .str "planner"), ("tenant_id", .str "acme"), ("latency_ms", .int 20)]
  eventId := "evt-1"
  timestamp := UtcTime.first.toDateTime
  sequence := 1
  previousHash := ""
  eventHash := "hash"

/-- A recorded task is replayed from its event. -/
theorem restart_survives_replay :
    (run (step plainSettings) initial [.recordTask "planner" (some "acme") true 20,
      .reconstructFromEvents [completedTask]]).Survives := by
  have separate : Guarded (step plainSettings) (Separate plainSettings) initial
      [.recordTask "planner" (some "acme") true 20, .reconstructFromEvents [completedTask]] := by
    refine ⟨?_, ⟨?_, ?_⟩, trivial⟩
    · intro record live
      cases live
    · intro first firstMember second secondMember _
      rw [List.mem_singleton.mp firstMember, List.mem_singleton.mp secondMember]
    · intro key stored
      refine ⟨_, List.mem_singleton_self _, ?_⟩
      by_contra other
      have different : key ≠ pairKey "planner" (some "acme") := Ne.symm other
      have after : (initial.step plainSettings (.recordTask "planner" (some "acme") true 20)).2 =
          (initial.recordTask "planner" (some "acme") true 20).2 := rfl
      rw [recordTask] at after
      rw [after] at stored
      exact stored (record_other initial "planner" (some "acme") _ different).row
  exact (restart_survives plainSettings _ separate _ [] (List.append_nil _).symm).1

/-- A reconstruction leaves the rows of agents without events, and one key names two pairs. -/
theorem restart_forgets :
    ¬ (run (step plainSettings) initial [.recordTask "planner" none true 20,
      .reconstructFromEvents []]).Survives ∧
    ¬ LeavesOthers plainSettings
      (run (step plainSettings) initial [.recordTask "c" (some "a:b") true 20])
      (.recordTask "b:c" (some "a") true 20) := by
  constructor
  · intro survives
    have same := (survives _ (List.Perm.refl _) "planner" none).1
    have counts := congrArg ReputationRecord.successfulTasks same
    revert counts
    decide
  · intro leaves
    have kept := (leaves "b:c" (some "a") rfl "c" (some "a:b") _ (by decide) rfl rfl).1
    have counts := congrArg (Option.map ReputationRecord.successfulTasks) kept
    revert counts
    decide

end Example

end ReputationService

end AgentFabric.Reputation
