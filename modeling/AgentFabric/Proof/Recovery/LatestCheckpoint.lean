import AgentFabric.Construction.Recovery.StateRebuilder
import AgentFabric.Proof.Collaboration.CompletedRuns

namespace AgentFabric.Recovery
open Collaboration Persistence PyData LastEntry Running

/-- A checkpoint that a run created. -/
structure CreatedCheckpoint where
  workflowId : String
  checkpointId : String
  snapshot : PyData

namespace CreatedCheckpoint

def key (checkpoint : CreatedCheckpoint) : String :=
  ContextStore.checkpointKey checkpoint.workflowId checkpoint.checkpointId

/-- The checkpoint that an event reports. -/
def ofEvent (event : WorkflowEvent) : Option CreatedCheckpoint :=
  match event.eventType, field? event.payload "checkpoint_id",
      field? event.payload "shared_context" with
  | .checkpointCreated, some (.str checkpointId), some snapshot =>
      some ⟨event.aggregateId, checkpointId, snapshot⟩
  | _, _, _ => none

end CreatedCheckpoint

variable (events : List WorkflowEvent)

/-- The checkpoints in the order of their creation. -/
def created : List CreatedCheckpoint :=
  events.filterMap CreatedCheckpoint.ofEvent

theorem created_append_other (event : WorkflowEvent)
    (other : event.eventType ≠ .checkpointCreated) : created (events ++ [event]) = created events := by
  have none : CreatedCheckpoint.ofEvent event = none := by
    unfold CreatedCheckpoint.ofEvent
    split
    · rename_i isCheckpoint _ _
      exact absurd isCheckpoint other
    · rfl
  simp [created, none]

theorem created_append_checkpoint (surroundings : Surroundings)
    (request : StartRequest) (workflowId checkpointId : String) (state : WorkflowState)
    (snapshot : PyData) (sequence : Int) :
    created (events ++ [⟨.checkpointCreated, workflowId,
        request.checkpointPayload surroundings checkpointId state snapshot, sequence⟩]) =
      created events ++ [⟨workflowId, checkpointId, snapshot⟩] := by
  rw [created, List.filterMap_append]
  rfl

section Frame

variable {State : Type} {store : PersistenceStore State} {before after : ContextStore State}
  (contextStore : ContextStore State)

/-- The checkpoints of a record, where a missing record has none. -/
def checkpointsOf (id : String) : List (String × PyData) :=
  ((contextStore.records.get? id).map ContextRecord.checkpoints).getD []

theorem current_checkpoints (id now : String) :
    (contextStore.current id now).checkpoints = checkpointsOf contextStore id := by
  unfold ContextStore.current checkpointsOf
  cases contextStore.records.get? id <;> rfl

/-- Every record stands under its own id. -/
def Owned : Prop :=
  ∀ id record, contextStore.records.get? id = some record → record.workflowId = id

theorem Owned.current (owned : Owned before) (id now : String) :
    (before.current id now).workflowId = id := by
  unfold ContextStore.current
  cases found : before.records.get? id with
  | none => rfl
  | some record => exact owned id record found

/-- Only other data than the checkpoints differs. -/
structure SameCheckpoints (store : PersistenceStore State) (before after : ContextStore State) :
    Prop where
  persistent : after.persistence.isSome = before.persistence.isSome
  rows : ∀ key, after.row store "checkpoints" key = before.row store "checkpoints" key
  records : ∀ id, checkpointsOf after id = checkpointsOf before id
  owned : Owned before → Owned after

variable {record : ContextRecord} {workflowId now : String}

/-- A record with the owner and the checkpoints of the current one leaves the checkpoints alone. -/
theorem sameCheckpoints_assigned (assigned : ContextStore.Assigned before after workflowId record)
    (persistent : after.persistence.isSome = before.persistence.isSome)
    (rows : ∀ key, after.row store "checkpoints" key = before.row store "checkpoints" key)
    (owner : record.workflowId = (before.current workflowId now).workflowId)
    (kept : record.checkpoints = (before.current workflowId now).checkpoints) :
    SameCheckpoints store before after := by
  refine ⟨persistent, rows, ?_, ?_⟩
  · intro id
    rw [checkpointsOf, assigned id]
    split
    · rename_i same
      rw [same, ← current_checkpoints before workflowId now, ← kept]
      rfl
    · rfl
  · intro owned
    refine assigned.forall ?_ fun id found _ => owned id found
    rw [owner]
    exact owned.current workflowId now

theorem sameCheckpoints_getOrCreate (workflowId now : String) :
    SameCheckpoints store contextStore (contextStore.getOrCreate workflowId now).2 := by
  have persistence := contextStore.getOrCreate_persistence workflowId now
  refine sameCheckpoints_assigned (contextStore.getOrCreate_assigned workflowId now)
    (congrArg Option.isSome persistence) ?_ rfl rfl
  intro key
  rw [ContextStore.row_getOrCreate]

theorem sameCheckpoints_changed
    (changed : ContextStore.Changed store before after workflowId record)
    (owner : record.workflowId = (before.current workflowId now).workflowId)
    (kept : record.checkpoints = (before.current workflowId now).checkpoints) :
    SameCheckpoints store before after := by
  refine sameCheckpoints_assigned changed.records changed.rows.persistent ?_ owner kept
  intro key
  exact changed.rows.others "checkpoints" key fun same => absurd (Prod.mk.inj same).1 (by decide)

theorem sameCheckpoints_edit (workflowId now : String) (data : ContextData) :
    SameCheckpoints store contextStore (contextStore.edit workflowId data now) := by
  have persistence := contextStore.edit_persistence workflowId data now
  refine sameCheckpoints_assigned (contextStore.edit_assigned workflowId data now)
    (congrArg Option.isSome persistence) ?_ rfl rfl
  intro key
  rw [ContextStore.row, ContextStore.row, persistence]

/-- The second store has one more checkpoint, in the record of its workflow and in its row. -/
structure Saves (store : PersistenceStore State) (before after : ContextStore State)
    (checkpoint : CreatedCheckpoint) : Prop where
  persistent : after.persistence.isSome = before.persistence.isSome
  owned : Owned before → Owned after
  records : ∀ id, checkpointsOf after id =
    if id = checkpoint.workflowId then
      Dict.setItems checkpoint.checkpointId checkpoint.snapshot (checkpointsOf before id)
    else checkpointsOf before id
  written : before.persistence.isSome → ∃ document,
    after.row store "checkpoints" checkpoint.key = some document ∧
      document.Same checkpoint.snapshot.toJson
  others : ∀ key, key ≠ checkpoint.key →
    after.row store "checkpoints" key = before.row store "checkpoints" key

/-- The record and the row of a checkpoint save the snapshot of the current record. -/
theorem saves_checkpoint {middle : ContextStore State} {workflowId checkpointId now : String}
    (changed : ContextStore.Changed store before middle workflowId record)
    (owner : record.workflowId = (before.current workflowId now).workflowId)
    (saved : record.checkpoints = Dict.setItems checkpointId
      (before.current workflowId now).snapshot (before.current workflowId now).checkpoints)
    (kept : after.records = middle.records)
    (written : ContextStore.Written store middle after "checkpoints"
      (ContextStore.checkpointKey workflowId checkpointId)
      (before.current workflowId now).snapshot) :
    Saves store before after
      ⟨workflowId, checkpointId, (before.current workflowId now).snapshot⟩ := by
  have assigned : ContextStore.Assigned before after workflowId record := by
    intro id
    rw [kept]
    exact changed.records id
  refine ⟨?_, ?_, ?_, ?_, ?_⟩
  · rw [written.persistent, changed.rows.persistent]
  · intro owned
    refine assigned.forall ?_ fun id found _ => owned id found
    rw [owner]
    exact owned.current workflowId now
  · intro id
    rw [checkpointsOf, assigned id]
    split
    · rename_i same
      rw [same, ← current_checkpoints before workflowId now, ← saved]
      rfl
    · rfl
  · intro persistent
    refine written.written ?_
    rw [changed.rows.persistent]
    exact persistent
  · intro key different
    rw [written.others "checkpoints" key fun same => different (Prod.mk.inj same).2]
    exact changed.rows.others "checkpoints" key fun same =>
      absurd (Prod.mk.inj same).1 (by decide)

end Frame

section Tracked

variable {State : Type} {store : PersistenceStore State} {before after : ContextStore State}
  {log : List CreatedCheckpoint}

/-- The last checkpoint of a workflow under one id. -/
def lastNamed (log : List CreatedCheckpoint) (workflowId checkpointId : String) :
    Option CreatedCheckpoint :=
  lastWhere (fun checkpoint => checkpoint.workflowId = workflowId ∧
    checkpoint.checkpointId = checkpointId) log

/-- The last checkpoint under a key of the persistence. -/
def lastUnder (log : List CreatedCheckpoint) (key : String) : Option CreatedCheckpoint :=
  lastWhere (fun checkpoint => checkpoint.key = key) log

/-- The last checkpoint of a workflow. -/
def lastOf (log : List CreatedCheckpoint) (workflowId : String) : Option CreatedCheckpoint :=
  lastWhere (fun checkpoint => checkpoint.workflowId = workflowId) log

theorem lastNamed_append (log : List CreatedCheckpoint) (checkpoint : CreatedCheckpoint)
    (workflowId checkpointId : String) :
    lastNamed (log ++ [checkpoint]) workflowId checkpointId =
      if checkpoint.workflowId = workflowId ∧ checkpoint.checkpointId = checkpointId then
        some checkpoint
      else lastNamed log workflowId checkpointId := by
  simp only [lastNamed, lastWhere_append, decide_eq_true_eq]

theorem lastUnder_append (log : List CreatedCheckpoint) (checkpoint : CreatedCheckpoint)
    (key : String) :
    lastUnder (log ++ [checkpoint]) key =
      if checkpoint.key = key then some checkpoint else lastUnder log key := by
  simp only [lastUnder, lastWhere_append, decide_eq_true_eq]

theorem lastOf_append (log : List CreatedCheckpoint) (checkpoint : CreatedCheckpoint)
    (workflowId : String) :
    lastOf (log ++ [checkpoint]) workflowId =
      if checkpoint.workflowId = workflowId then some checkpoint else lastOf log workflowId := by
  simp only [lastOf, lastWhere_append, decide_eq_true_eq]

theorem key_of_lastUnder {key : String} {checkpoint : CreatedCheckpoint}
    (found : lastUnder log key = some checkpoint) : checkpoint.key = key := by
  simpa using selects_of_lastWhere found

theorem workflowId_of_lastOf {workflowId : String} {last : CreatedCheckpoint}
    (found : lastOf log workflowId = some last) : last.workflowId = workflowId := by
  simpa using selects_of_lastWhere found

/-- The records and the rows hold the last checkpoints of a log, and the last snapshot of a workflow
holds the other checkpoints of its record. -/
structure Tracked (store : PersistenceStore State) (contextStore : ContextStore State)
    (log : List CreatedCheckpoint) : Prop where
  persistent : contextStore.persistence.isSome
  owned : Owned contextStore
  memory : ∀ id checkpointId, field? (checkpointsOf contextStore id) checkpointId =
    (lastNamed log id checkpointId).map CreatedCheckpoint.snapshot
  missing : ∀ key, lastUnder log key = none → contextStore.row store "checkpoints" key = none
  stored : ∀ key checkpoint, lastUnder log key = some checkpoint →
    ∃ document, contextStore.row store "checkpoints" key = some document ∧
      document.Same checkpoint.snapshot.toJson
  named : ∀ checkpoint ∈ log, ∃ record : ContextRecord,
    checkpoint.snapshot = record.snapshot ∧ record.workflowId = checkpoint.workflowId
  plain : ∀ checkpoint ∈ log, ':' ∉ checkpoint.checkpointId.toList
  nested : ∀ id last, lastOf log id = some last → ∃ record : ContextRecord,
    last.snapshot = record.snapshot ∧ ∀ checkpointId, checkpointId ≠ last.checkpointId →
      field? record.checkpoints checkpointId =
        (lastNamed log id checkpointId).map CreatedCheckpoint.snapshot

/-- A step that leaves the checkpoints alone keeps the log. -/
theorem Tracked.frame (tracked : Tracked store before log)
    (same : SameCheckpoints store before after) : Tracked store after log where
  persistent := by
    rw [same.persistent]
    exact tracked.persistent
  owned := same.owned tracked.owned
  memory := by
    intro id checkpointId
    rw [same.records]
    exact tracked.memory id checkpointId
  missing := by
    intro key none
    rw [same.rows]
    exact tracked.missing key none
  stored := by
    intro key checkpoint found
    rw [same.rows]
    exact tracked.stored key checkpoint found
  named := tracked.named
  plain := tracked.plain
  nested := tracked.nested

section Saves

variable {checkpoint : CreatedCheckpoint} (tracked : Tracked store before log)
  (saves : Saves store before after checkpoint)

include tracked saves

/-- The records hold the last checkpoints of the longer log. -/
theorem Tracked.memory_saves (id checkpointId : String) :
    field? (checkpointsOf after id) checkpointId =
      (lastNamed (log ++ [checkpoint]) id checkpointId).map CreatedCheckpoint.snapshot := by
  rw [lastNamed_append, saves.records]
  by_cases same : id = checkpoint.workflowId
  · rw [if_pos same, field?_setItems, tracked.memory id checkpointId]
    by_cases sameId : checkpointId = checkpoint.checkpointId
    · rw [if_pos sameId, if_pos ⟨same.symm, sameId.symm⟩]
      rfl
    · rw [if_neg sameId, if_neg fun facts => sameId facts.2.symm]
  · rw [if_neg same, if_neg fun facts => same facts.1.symm]
    exact tracked.memory id checkpointId

theorem Tracked.missing_saves (key : String) (absent : lastUnder (log ++ [checkpoint]) key = none) :
    after.row store "checkpoints" key = none := by
  rw [lastUnder_append] at absent
  split at absent
  · cases absent
  · rename_i different
    rw [saves.others key (Ne.symm different)]
    exact tracked.missing key absent

/-- The rows hold the last checkpoints of the longer log. -/
theorem Tracked.stored_saves (key : String) (last : CreatedCheckpoint)
    (found : lastUnder (log ++ [checkpoint]) key = some last) :
    ∃ document, after.row store "checkpoints" key = some document ∧
      document.Same last.snapshot.toJson := by
  rw [lastUnder_append] at found
  split at found
  · rename_i same
    obtain rfl := Option.some.inj found
    exact same ▸ saves.written tracked.persistent
  · rename_i different
    rw [saves.others key (Ne.symm different)]
    exact tracked.stored key last found

/-- A snapshot of the current record enters the log. -/
theorem Tracked.saved {record : ContextRecord} (isSnapshot : checkpoint.snapshot = record.snapshot)
    (owner : record.workflowId = checkpoint.workflowId)
    (inside : record.checkpoints = checkpointsOf before checkpoint.workflowId)
    (plain : ':' ∉ checkpoint.checkpointId.toList) :
    Tracked store after (log ++ [checkpoint]) := by
  refine ⟨?_, saves.owned tracked.owned, tracked.memory_saves saves, tracked.missing_saves saves,
    tracked.stored_saves saves, ?_, ?_, ?_⟩
  · rw [saves.persistent]
    exact tracked.persistent
  · rw [List.forall_mem_append, List.forall_mem_singleton]
    exact ⟨tracked.named, record, isSnapshot, owner⟩
  · rw [List.forall_mem_append, List.forall_mem_singleton]
    exact ⟨tracked.plain, plain⟩
  · intro id last found
    rw [lastOf_append] at found
    split at found
    · rename_i same
      subst same
      obtain rfl := Option.some.inj found
      refine ⟨record, isSnapshot, ?_⟩
      intro otherId different
      rw [lastNamed_append, if_neg fun facts => different facts.2.symm, inside]
      exact tracked.memory checkpoint.workflowId otherId
    · rename_i different
      obtain ⟨earlier, earlierSnapshot, earlierInside⟩ := tracked.nested id last found
      refine ⟨earlier, earlierSnapshot, ?_⟩
      intro otherId otherName
      rw [lastNamed_append, if_neg fun facts => different facts.1]
      exact earlierInside otherId otherName

end Saves

end Tracked

section Runs

variable {State : Type} {store : PersistenceStore State} {surroundings : Surroundings}
  {request : StartRequest}

/-- The log of a run is the log of its events. -/
def TrackedRun (store : PersistenceStore State) (run : Running State) : Prop :=
  Tracked store run.contextStore (created run.events)

variable {run : Running State}

/-- An event of another type leaves the log alone. -/
theorem TrackedRun.append (tracked : TrackedRun store run)
    (eventType : WorkflowEventType) (payload : List (String × PyData))
    (other : eventType ≠ .checkpointCreated) :
    TrackedRun store (run.append request eventType payload) := by
  unfold TrackedRun Running.append
  rw [created_append_other _ _ other]
  exact tracked

/-- Another context store with the same checkpoints keeps the log. -/
theorem TrackedRun.frame (tracked : TrackedRun store run)
    {contextStore : ContextStore State}
    (same : SameCheckpoints store run.contextStore contextStore) :
    TrackedRun store { run with contextStore } := Tracked.frame tracked same

/-- The id of a checkpoint has no colon. -/
theorem checkpointId_plain (run : Running State) : ':' ∉ run.checkpointId.toList := by
  rw [Running.checkpointId, String.toList_append, List.mem_append, not_or]
  refine ⟨by decide, ?_⟩
  show ':' ∉ (Nat.repr (run.state.checkpoints.length + 1)).toList
  rw [Nat.toList_repr]
  intro member
  have digit := Json.digit_of_mem_toDigits _ ':' member
  exact absurd digit (by decide)

/-- Every part of a run keeps the log. -/
theorem keptByRun_tracked (lawful : store.Lawful) :
    KeptByRun store surroundings request (TrackedRun store) where
  attempt := by
    intro run node attempts _ tracked
    have started : TrackedRun store (run.startAttempt surroundings request node attempts) :=
      tracked.append .taskStarted _ (by decide)
    have called : TrackedRun store (run.called surroundings request node attempts) :=
      started.frame (sameCheckpoints_getOrCreate _ _ _)
    rcases attempt_cases store surroundings request lawful run node attempts with
      ⟨_, _, returned⟩ | ⟨_, _, _, _, returned⟩ | ⟨result, contextStore, _, _, changed, returned⟩
    · rw [returned]
      exact called
    · rw [returned]
      exact called
    · rw [returned]
      have published := called.frame (sameCheckpoints_changed changed rfl rfl)
      exact (published.append .task _ (by decide)).append .taskCompleted _ (by decide)
  failAttempt := fun _ _ _ _ tracked =>
    (tracked.append .task _ (by decide)).append .taskFailed _ (by decide)
  giveUp := fun _ _ tracked => tracked
  awaitApproval := fun _ _ tracked => tracked.append .humanApprovalRequested _ (by decide)
  checkpoint := by
    intro run tracked
    obtain ⟨middle, after, returned, changed, kept, written⟩ :=
      ContextStore.checkpoint_written lawful run.contextStore request.taskGraph.graphId
        run.checkpointId (surroundings.updatedAt run.events.length)
    unfold Running.checkpoint
    rw [returned]
    unfold TrackedRun Running.append
    rw [created_append_checkpoint]
    have owned : Owned run.contextStore := tracked.owned
    exact Tracked.saved tracked (saves_checkpoint changed rfl rfl kept written) rfl
      (owned.current _ _) (current_checkpoints _ _ _) (checkpointId_plain run)
  finish := fun _ tracked =>
    (tracked.append .workflow _ (by decide)).append .workflowCompleted _ (by decide)

/-- Every sequence of runs over a new persistence keeps the log. -/
theorem reached_tracked (lawful : store.Lawful) (requests : List StartRequest) :
    Tracked store
      (MeshWorkflowEngine.reached store surroundings ⟨some store.initial, Dict.empty⟩
        requests).contextStore
      (created (MeshWorkflowEngine.reached store surroundings ⟨some store.initial, Dict.empty⟩
        requests).events) := by
  refine Transition.run_invariant _ (fun engine : MeshWorkflowEngine State =>
    Tracked store engine.contextStore (created engine.events)) ?_ _ requests ?_
  · intro engine request tracked
    have opened : Tracked store (engine.openContext surroundings request)
        (created engine.events) := by
      rw [MeshWorkflowEngine.openContext_eq_edit]
      exact tracked.frame (sameCheckpoints_edit _ _ _ _)
    have first : TrackedRun store (engine.initialRun surroundings request) := by
      show Tracked store (engine.openContext surroundings request) (created (engine.events ++ [_]))
      rw [created_append_other]
      · exact opened
      · exact fun same => by cases same
    rcases engine.start_keeps (keptByRun_tracked lawful) (fun _ => first) with
      ⟨_, raised⟩ | ⟨_, _, _, started, kept⟩
    · rw [raised]
      exact tracked
    · rw [started]
      exact kept
  · refine ⟨rfl, ?_, fun _ _ => rfl, ?_, ?_, ?_, ?_, ?_⟩
    · intro id record found
      cases found
    · intro key _
      exact lawful.get_initial "checkpoints" key
    · intro key checkpoint found
      cases found
    · intro checkpoint member
      cases member
    · intro checkpoint member
      cases member
    · intro id last found
      cases found

end Runs

open Sorting CheckpointLoader

section Keys

variable (workflowId checkpointId : String)

theorem checkpointKey_toList :
    (ContextStore.checkpointKey workflowId checkpointId).toList =
      workflowId.toList ++ ':' :: checkpointId.toList := by
  simp [ContextStore.checkpointKey, String.toList_append]

/-- The keys of a workflow start with it. -/
theorem matchesWorkflow_checkpointKey :
    matchesWorkflow workflowId (ContextStore.checkpointKey workflowId checkpointId) = true := by
  rw [matchesWorkflow, checkpointKey_toList, String.toList_append, List.isPrefixOf_iff_prefix]
  exact ⟨checkpointId.toList, by simp⟩

/-- A key without a colon in its checkpoint has one workflow and one checkpoint. -/
theorem checkpointKey_injective {workflowId otherWorkflow checkpointId otherId : String}
    (plain : ':' ∉ checkpointId.toList) (otherPlain : ':' ∉ otherId.toList)
    (same : ContextStore.checkpointKey workflowId checkpointId =
      ContextStore.checkpointKey otherWorkflow otherId) :
    workflowId = otherWorkflow ∧ checkpointId = otherId := by
  have texts := congrArg String.toList same
  rw [checkpointKey_toList, checkpointKey_toList] at texts
  have counts := congrArg (List.count ':') texts
  simp only [List.count_append, List.count_cons_self, List.count_eq_zero_of_not_mem plain,
    List.count_eq_zero_of_not_mem otherPlain] at counts
  obtain ⟨owners, ids⟩ := Delimited.split_cancel ':' _ _ _ _ (by omega) texts
  exact ⟨String.toList_inj.mp owners, String.toList_inj.mp ids⟩

end Keys

section Snapshots

variable {first second : ContextRecord}

/-- Equal snapshots have one workflow. -/
theorem workflowId_of_same (same : first.snapshot.toJson.Same second.snapshot.toJson) :
    first.workflowId = second.workflowId := by
  have fields := congrArg (fun document : Json => document.field? "workflow_id") same
  simp only [Json.field?_sortKeys, ContextRecord.snapshot, field?_toJson] at fields
  have texts : some (Json.str first.workflowId) = some (.str second.workflowId) := fields
  exact Json.str.inj (Option.some.inj texts)

/-- A snapshot is larger than each of its checkpoints. -/
theorem size_checkpoint_lt {record : ContextRecord} {checkpointId : String} {saved : PyData}
    (found : field? record.checkpoints checkpointId = some saved) :
    saved.toJson.size < record.snapshot.toJson.size := by
  have inner : (PyData.dict record.checkpoints).toJson.field? checkpointId = some saved.toJson := by
    rw [field?_toJson, found]
    rfl
  have outer : record.snapshot.toJson.field? "checkpoints" =
      some (PyData.dict record.checkpoints).toJson := by
    rw [ContextRecord.snapshot, field?_toJson]
    rfl
  exact (Json.size_lt_of_field? inner).trans (Json.size_lt_of_field? outer)

end Snapshots

/-- The answer is the document of the checkpoint, or None for none. -/
def Answers : Option Json → Option CreatedCheckpoint → Prop
  | none, none => True
  | some document, some checkpoint => document.Same checkpoint.snapshot.toJson
  | _, _ => False

/-- Every key that starts with the workflow is at most the key of its last checkpoint. -/
def LastIsGreatest (log : List CreatedCheckpoint) (workflowId : String) : Prop :=
  ∀ checkpoint ∈ log, matchesWorkflow workflowId checkpoint.key = true →
    ∃ last, lastOf log workflowId = some last ∧ checkpoint.key ≤ last.key

section Loader

variable {State : Type} {store : KeyedStore State} {contextStore : ContextStore State}
  {log : List CreatedCheckpoint} {state : State}

/-- The loader finds no key of the workflow, or the last checkpoint under its greatest key. -/
theorem latest_cases (lawful : store.Lawful)
    (tracked : Tracked store.toPersistenceStore contextStore log)
    (persistence : contextStore.persistence = some state) (workflowId : String) :
    (latest store state workflowId = none ∧
      ∀ checkpoint ∈ log, matchesWorkflow workflowId checkpoint.key = false) ∨
    ∃ greatest document, lastUnder log greatest.key = some greatest ∧
      matchesWorkflow workflowId greatest.key = true ∧
      (∀ checkpoint ∈ log, matchesWorkflow workflowId checkpoint.key = true →
        checkpoint.key ≤ greatest.key) ∧
      latest store state workflowId = some document ∧
      document.Same greatest.snapshot.toJson := by
  have row (key : String) : contextStore.row store.toPersistenceStore "checkpoints" key =
      store.get state "checkpoints" key := by
    rw [ContextStore.row, persistence]
    rfl
  have listed (checkpoint : CreatedCheckpoint) (member : checkpoint ∈ log)
      (matched : matchesWorkflow workflowId checkpoint.key = true) :
      checkpoint.key ∈ matching store state workflowId := by
    obtain ⟨last, found⟩ : ∃ last, lastUnder log checkpoint.key = some last :=
      exists_lastWhere member (by simp)
    obtain ⟨document, stored, _⟩ := tracked.stored checkpoint.key last found
    refine List.mem_filter.mpr ⟨(lawful.mem_keys state "checkpoints" _).mpr ⟨document, ?_⟩, matched⟩
    rw [← row]
    exact stored
  unfold latest
  cases found : (sortedBy id (matching store state workflowId)).getLast? with
  | none =>
      left
      refine ⟨rfl, ?_⟩
      intro checkpoint member
      by_contra matched
      rw [Bool.not_eq_false] at matched
      have inside := (mem_sortedBy id _ _).mpr (listed checkpoint member matched)
      rw [List.getLast?_eq_none_iff.mp found] at inside
      cases inside
  | some key =>
      right
      obtain ⟨inside, bound⟩ := sortedBy_getLast? id _ key found
      obtain ⟨known, matched⟩ := List.mem_filter.mp inside
      obtain ⟨document, stored⟩ := (lawful.mem_keys state "checkpoints" key).mp known
      cases last : lastUnder log key with
      | none =>
          have none := tracked.missing key last
          rw [row] at none
          cases none.symm.trans stored
      | some greatest =>
          have own := key_of_lastUnder last
          obtain ⟨read, present, same⟩ := tracked.stored key greatest last
          rw [row] at present
          refine ⟨greatest, read, own ▸ last, own ▸ matched, ?_, present, same⟩
          intro checkpoint member started
          rw [own]
          exact bound checkpoint.key (listed checkpoint member started)

/-- Equal snapshots of the last checkpoint of a workflow and the last one under a key have one
key. -/
theorem key_eq_of_same (tracked : Tracked store.toPersistenceStore contextStore log)
    {workflowId : String} {last greatest : CreatedCheckpoint}
    (isLast : lastOf log workflowId = some last)
    (isGreatest : lastUnder log greatest.key = some greatest)
    (same : greatest.snapshot.toJson.Same last.snapshot.toJson) : greatest.key = last.key := by
  obtain ⟨record, isSnapshot, inside⟩ := tracked.nested workflowId last isLast
  obtain ⟨other, otherSnapshot, otherOwner⟩ := tracked.named greatest (mem_of_lastWhere isGreatest)
  obtain ⟨own, ownSnapshot, ownOwner⟩ := tracked.named last (mem_of_lastWhere isLast)
  have lastOwner := workflowId_of_lastOf isLast
  have owner : greatest.workflowId = workflowId := by
    rw [otherSnapshot, ownSnapshot] at same
    rw [← otherOwner, workflowId_of_same same, ownOwner, lastOwner]
  by_contra different
  have otherId : greatest.checkpointId ≠ last.checkpointId := by
    intro sameId
    exact different (by rw [CreatedCheckpoint.key, CreatedCheckpoint.key, owner, lastOwner, sameId])
  have named : lastNamed log workflowId greatest.checkpointId = some greatest := by
    refine lastWhere_narrow ?_ isGreatest (by simp [owner])
    intro checkpoint facts
    simp only [decide_eq_true_eq] at facts ⊢
    rw [CreatedCheckpoint.key, CreatedCheckpoint.key, facts.1, facts.2, owner]
  have found := inside greatest.checkpointId otherId
  rw [named] at found
  have smaller := size_checkpoint_lt found
  rw [← isSnapshot, Json.size_of_same same] at smaller
  exact lt_irrefl _ smaller

/-- The loader answers with the last checkpoint exactly when its key is the greatest. -/
theorem latest_answers_iff (lawful : store.Lawful)
    (tracked : Tracked store.toPersistenceStore contextStore log)
    (persistence : contextStore.persistence = some state) (workflowId : String) :
    Answers (latest store state workflowId) (lastOf log workflowId) ↔
      LastIsGreatest log workflowId := by
  have own (last : CreatedCheckpoint) (isLast : lastOf log workflowId = some last) :
      matchesWorkflow workflowId last.key = true := by
    rw [CreatedCheckpoint.key, workflowId_of_lastOf isLast]
    exact matchesWorkflow_checkpointKey workflowId last.checkpointId
  rcases latest_cases lawful tracked persistence workflowId with
    ⟨answer, none⟩ | ⟨greatest, document, isGreatest, matched, bound, answer, same⟩
  · rw [answer]
    refine iff_of_true ?_ ?_
    · cases last : lastOf log workflowId with
      | none => trivial
      | some found =>
          cases (none found (mem_of_lastWhere last)).symm.trans (own found last)
    · intro checkpoint member matched
      cases (none checkpoint member).symm.trans matched
  · rw [answer]
    constructor
    · intro answers checkpoint member started
      cases last : lastOf log workflowId with
      | none =>
          rw [last] at answers
          exact answers.elim
      | some found =>
          rw [last] at answers
          have equal := key_eq_of_same tracked last isGreatest (same.symm.trans answers)
          exact ⟨found, rfl, equal ▸ bound checkpoint member started⟩
    · intro selected
      obtain ⟨last, isLast, upper⟩ := selected greatest (mem_of_lastWhere isGreatest) matched
      have lower := bound last (mem_of_lastWhere isLast) (own last isLast)
      have equal : greatest.key = last.key := le_antisymm upper lower
      have plain := tracked.plain greatest (mem_of_lastWhere isGreatest)
      have lastPlain := tracked.plain last (mem_of_lastWhere isLast)
      obtain ⟨owner, sameId⟩ := checkpointKey_injective plain lastPlain equal
      have first : lastNamed log workflowId last.checkpointId = some last := by
        refine lastWhere_narrow ?_ isLast (by simp [workflowId_of_lastOf isLast])
        intro checkpoint facts
        simp only [decide_eq_true_eq] at facts ⊢
        exact facts.1
      have second : lastNamed log workflowId last.checkpointId = some greatest := by
        refine lastWhere_narrow ?_ isGreatest (by simp [owner, sameId, workflowId_of_lastOf isLast])
        intro checkpoint facts
        simp only [decide_eq_true_eq] at facts ⊢
        rw [equal, CreatedCheckpoint.key, CreatedCheckpoint.key, facts.1, facts.2,
          workflowId_of_lastOf isLast]
      obtain rfl := Option.some.inj (first.symm.trans second)
      rw [isLast]
      exact same

/-- After any sequence of runs over a new persistence the loader returns the last checkpoint of exactly
the given workflow, or None for none, exactly when no key that starts with the workflow is greater than
the key of that checkpoint. -/
theorem latest_returns_last_iff (lawful : store.Lawful) (surroundings : Surroundings)
    (requests : List StartRequest) (workflowId : String) :
    let engine := MeshWorkflowEngine.reached store.toPersistenceStore surroundings
      ⟨some store.initial, Dict.empty⟩ requests
    ∃ state, engine.contextStore.persistence = some state ∧
      (Answers (latest store state workflowId) (lastOf (created engine.events) workflowId) ↔
        LastIsGreatest (created engine.events) workflowId) := by
  intro engine
  have tracked : Tracked store.toPersistenceStore engine.contextStore (created engine.events) :=
    reached_tracked lawful.toPersistenceStore requests
  obtain ⟨state, persistence⟩ := Option.isSome_iff_exists.mp tracked.persistent
  exact ⟨state, persistence, latest_answers_iff lawful tracked persistence workflowId⟩

end Loader

section Example

/-- A chain of tasks, each of them in a batch of its own. -/
def chainRequest (graphId : String) (length : Nat) : StartRequest where
  taskGraph := ⟨graphId, (List.range length).map fun index => {
    nodeId := toString index
    agentId := "agent"
    capability := none
    dependencies := if index = 0 then [] else [toString (index - 1)]
    maxRetries := 0
    requiresHumanApproval := false
    payload := [] }⟩
  initialPayload := []
  nodeRunner := fun _ _ _ => .ok .null
  approvedNodes := []

/-- An engine over a persistence in memory after a chain of tasks. -/
def afterChain (graphId : String) (length : Nat) : MeshWorkflowEngine MemoryPersistenceStore :=
  MeshWorkflowEngine.reached MemoryPersistenceStore.backend stillSurroundings
    ⟨some MemoryPersistenceStore.initial, Dict.empty⟩ [chainRequest graphId length]

/-- The loader returns the second checkpoint of two. -/
theorem latest_returns_second :
    ∃ state last, (afterChain "graph" 2).contextStore.persistence = some state ∧
      lastOf (created (afterChain "graph" 2).events) "graph" = some last ∧
      last.checkpointId = "batch-2" ∧
      Answers (latest MemoryPersistenceStore.keyed state "graph") (some last) := by
  obtain ⟨state, persistence, answers⟩ := latest_returns_last_iff
    MemoryPersistenceStore.keyed_lawful stillSurroundings [chainRequest "graph" 2] "graph"
  obtain ⟨last, isLast⟩ : ∃ last, lastOf (created (afterChain "graph" 2).events) "graph" =
    some last := ⟨_, rfl⟩
  have lastId : (lastOf (created (afterChain "graph" 2).events) "graph").map
      CreatedCheckpoint.checkpointId = some "batch-2" := by decide
  have known : ∀ checkpoint ∈ created (afterChain "graph" 2).events,
      checkpoint.key ≤ "graph:batch-2" := by decide
  rw [isLast] at lastId
  refine ⟨state, last, persistence, isLast, Option.some.inj lastId, ?_⟩
  rw [← isLast]
  have lastKey : last.key = "graph:batch-2" := by
    rw [CreatedCheckpoint.key, workflowId_of_lastOf isLast, Option.some.inj lastId]
    rfl
  refine answers.mpr fun checkpoint member _ => ⟨last, isLast, ?_⟩
  rw [lastKey]
  exact known checkpoint member

/-- The loader does not return the tenth checkpoint of ten, and it returns a checkpoint for a workflow
that has none. -/
theorem latest_returns_other :
    (∃ state last, (afterChain "graph" 10).contextStore.persistence = some state ∧
      lastOf (created (afterChain "graph" 10).events) "graph" = some last ∧
      last.checkpointId = "batch-10" ∧
      ¬ Answers (latest MemoryPersistenceStore.keyed state "graph") (some last)) ∧
    ∃ state document, (afterChain "graph:other" 1).contextStore.persistence = some state ∧
      lastOf (created (afterChain "graph:other" 1).events) "graph" = none ∧
      latest MemoryPersistenceStore.keyed state "graph" = some document := by
  refine ⟨?_, _, _, rfl, rfl, rfl⟩
  have tracked : Tracked MemoryPersistenceStore.backend (afterChain "graph" 10).contextStore
      (created (afterChain "graph" 10).events) :=
    reached_tracked MemoryPersistenceStore.backend_lawful _
  obtain ⟨state, persistence⟩ := Option.isSome_iff_exists.mp tracked.persistent
  obtain ⟨last, isLast⟩ : ∃ last, lastOf (created (afterChain "graph" 10).events) "graph" =
    some last := by
    rw [← Option.isSome_iff_exists]
    decide
  have lastId : (lastOf (created (afterChain "graph" 10).events) "graph").map
      CreatedCheckpoint.checkpointId = some "batch-10" := by decide
  have greater : ∃ checkpoint ∈ created (afterChain "graph" 10).events,
      matchesWorkflow "graph" checkpoint.key = true ∧ checkpoint.key = "graph:batch-9" := by
    decide
  rw [isLast] at lastId
  refine ⟨state, last, persistence, isLast, Option.some.inj lastId, ?_⟩
  rw [← isLast, latest_answers_iff MemoryPersistenceStore.keyed_lawful tracked persistence]
  intro selected
  obtain ⟨checkpoint, member, started, isNinth⟩ := greater
  obtain ⟨found, isFound, bound⟩ := selected checkpoint member started
  obtain rfl := Option.some.inj (isLast.symm.trans isFound)
  rw [isNinth, CreatedCheckpoint.key, workflowId_of_lastOf isLast, Option.some.inj lastId] at bound
  exact absurd bound (by decide)

end Example

end AgentFabric.Recovery
