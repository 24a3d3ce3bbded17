import AgentFabric.Construction.Recovery.StateRebuilder
import AgentFabric.Proof.Collaboration.CompletedRuns

namespace AgentFabric.Recovery.StateRebuilder
open Collaboration Running Persistence Sorting

variable {interpreter : Interpreter}

section Log

/-- The events are in the order of their sequence, which their number bounds. -/
structure Numbered (events : List WorkflowEvent) : Prop where
  increasing : events.Pairwise fun first second => first.sequence ≤ second.sequence
  bounded : ∀ event ∈ events, event.sequence ≤ events.length

variable {events : List WorkflowEvent}

/-- The next event has the next number. -/
theorem Numbered.append (numbered : Numbered events)
    (event : WorkflowEvent) (next : event.sequence = events.length + 1) :
    Numbered (events ++ [event]) where
  increasing := by
    refine List.pairwise_append.mpr ⟨numbered.increasing, List.pairwise_singleton _ _, ?_⟩
    intro earlier member last isLast
    obtain rfl := List.mem_singleton.mp isLast
    have bound := numbered.bounded earlier member
    omega
  bounded := by
    intro earlier member
    rw [List.length_append, List.length_singleton]
    rcases List.mem_append.mp member with old | last
    · have bound := numbered.bounded earlier old
      omega
    · obtain rfl := List.mem_singleton.mp last
      omega

/-- The events of a workflow are in order already. -/
theorem Numbered.sorted (numbered : Numbered events) (workflowId : String) :
    sortedBy WorkflowEvent.sequence (replay events workflowId) = replay events workflowId :=
  sortedBy_of_pairwise _ _ (numbered.increasing.filter _)

variable (interpreter) in
/-- The loop over the events of a workflow ends with some variables. -/
def Rebuilds (events : List WorkflowEvent) (workflowId : String) (current : Rebuilding) : Prop :=
  (replay events workflowId).foldlM (applyEvent interpreter) initial = .ok current

/-- One more event of the workflow. -/
theorem Rebuilds.append {workflowId : String}
    {current next : Rebuilding} (rebuilds : Rebuilds interpreter events workflowId current)
    {event : WorkflowEvent} (own : event.aggregateId = workflowId)
    (applied : applyEvent interpreter current event = .ok next) :
    Rebuilds interpreter (events ++ [event]) workflowId next := by
  have last : replay (events ++ [event]) workflowId = replay events workflowId ++ [event] := by
    simp [replay, own]
  rw [Rebuilds, last, List.foldlM_append]
  rw [Rebuilds] at rebuilds
  rw [rebuilds]
  show ([event].foldlM (applyEvent interpreter) current) = _
  rw [List.foldlM_cons, applied]
  rfl

end Log

section Events

variable (current : Rebuilding) (workflowId : String) (sequence : Int)
  (surroundings : Surroundings) (request : StartRequest) (node : TaskNode) (attempts : Int)

theorem applyEvent_taskStarted (owner : List (String × PyData)) :
    applyEvent interpreter current ⟨.taskStarted, workflowId, [
        ("node_id", .str node.nodeId),
        ("agent_id", .str node.agentId),
        ("attempt", .int attempts)] ++ owner, sequence⟩ =
      .ok { current with
        started := current.started.insert node.nodeId
        retryCounters := current.retryCounters.set node.nodeId attempts } := by
  rfl

theorem applyEvent_taskCompleted (count : Nat) (result : PyData) :
    applyEvent interpreter current ⟨.taskCompleted, workflowId,
        trace surroundings request node attempts .completed none count ++ [("result", result)],
        sequence⟩ =
      .ok { current with
        completed := current.completed.insert node.nodeId
        failed := current.failed.filter (· ≠ node.nodeId)
        nodeStatus := current.nodeStatus.set node.nodeId .completed
        nodeResults := current.nodeResults.set node.nodeId result
        traces := current.traces ++
          [trace surroundings request node attempts .completed none count ++
            [("result", result)]] } := by
  rfl

theorem applyEvent_taskFailed (count : Nat) (error : String)
    (incomplete : node.nodeId ∉ current.completed) :
    applyEvent interpreter current ⟨.taskFailed, workflowId,
        trace surroundings request node attempts .failed (some error) count, sequence⟩ =
      .ok { current with
        failed := current.failed.insert node.nodeId
        nodeStatus := current.nodeStatus.set node.nodeId .failed
        retryCounters := current.retryCounters.set node.nodeId attempts
        traces := current.traces ++
          [trace surroundings request node attempts .failed (some error) count] } := by
  have marked : markFailed current node.nodeId = { current with
      failed := current.failed.insert node.nodeId
      nodeStatus := current.nodeStatus.set node.nodeId .failed } := if_neg incomplete
  show Except.ok { markFailed current node.nodeId with
    retryCounters := (markFailed current node.nodeId).retryCounters.set node.nodeId attempts
    traces := (markFailed current node.nodeId).traces ++
      [trace surroundings request node attempts .failed (some error) count] } = _
  rw [marked]

theorem applyEvent_checkpointCreated (checkpointId : String) (state : WorkflowState)
    (snapshot : PyData) :
    applyEvent interpreter current ⟨.checkpointCreated, workflowId,
        request.checkpointPayload surroundings checkpointId state snapshot, sequence⟩ =
      .ok { current with checkpoints := current.checkpoints ++ [checkpointId] } := by
  rfl

variable (nodes : List TaskNode)

theorem applyEvent_humanApprovalRequested :
    applyEvent interpreter current ⟨.humanApprovalRequested, workflowId,
        request.requestedPayload surroundings nodes, sequence⟩ =
      .ok { current with
        status := .awaitingApproval
        nodeStatus := current.nodeStatus.setAll
          (nodes.map fun node => (node.nodeId, .awaitingApproval)) } := by
  have ids : nodeIds interpreter (request.requestedPayload surroundings nodes) =
      .ok (nodes.map TaskNode.nodeId) := by
    show Except.ok ((nodes.map fun node : TaskNode => PyData.str node.nodeId).map
      (PyData.text interpreter.isPrintable)) = _
    rw [List.map_map]
    rfl
  simp only [applyEvent, ids, bind, Except.bind, List.map_map]
  rfl

/-- The rebuilder reads the nodes that the started event lists. -/
theorem mapM_graphNode :
    (nodes.map fun node => PyData.dict (StartRequest.nodeFields node)).mapM (graphNode interpreter) =
      .ok (nodes.map fun node => (node.nodeId, node.agentId)) := by
  induction nodes with
  | nil => rfl
  | cons node rest ih =>
      rw [List.map_cons, List.mapM_cons, ih]
      rfl

theorem applyEvent_workflowStarted :
    applyEvent interpreter current ⟨.workflowStarted, workflowId,
        request.startedPayload surroundings, sequence⟩ =
      .ok { current with
        status := .running
        nodeStatus := current.nodeStatus.setAll
          (request.taskGraph.nodes.map fun node => (node.nodeId, .pending))
        delegatedAssignments := current.delegatedAssignments.setAll
          (request.taskGraph.nodes.map fun node => (node.nodeId, node.agentId)) } := by
  have nodes : graphNodes interpreter (request.startedPayload surroundings) =
      .ok (request.taskGraph.nodes.map fun node => (node.nodeId, node.agentId)) :=
    mapM_graphNode request.taskGraph.nodes
  simp only [applyEvent, nodes, bind, Except.bind, List.map_map]
  rfl

end Events

end AgentFabric.Recovery.StateRebuilder

namespace AgentFabric.Recovery.StateRebuilder
open Collaboration Running Persistence Sorting MeshWorkflowEngine

variable {State : Type} {store : PersistenceStore State} {surroundings : Surroundings}
  {request : StartRequest} {interpreter : Interpreter}

/-- The variables of the rebuilder mirror a run, except at the node that is being tried. -/
structure Mirrors (interpreter : Interpreter) (request : StartRequest) (current : Option String)
    (run : Running State) (rebuilt : Rebuilding) : Prop where
  rebuilds : Rebuilds interpreter run.events request.taskGraph.graphId rebuilt
  status : rebuilt.status = .running
  nodeStatus : ∀ id, current ≠ some id → rebuilt.nodeStatus.get? id = run.state.nodeStatus.get? id
  nodeResults : ∀ id, current ≠ some id →
    rebuilt.nodeResults.get? id = run.state.nodeResults.get? id
  retryCounters : ∀ id, rebuilt.retryCounters.get? id = run.state.retryCounters.get? id
  checkpoints : rebuilt.checkpoints = run.state.checkpoints
  delegatedAssignments : ∀ id,
    rebuilt.delegatedAssignments.get? id = run.state.delegatedAssignments.get? id
  completed : ∀ id, id ∈ rebuilt.completed ↔
    current ≠ some id ∧ run.state.nodeStatus.get? id = some .completed
  failed : ∀ id ∈ rebuilt.failed, current = some id
  steady : ∀ id status, current ≠ some id → run.state.nodeStatus.get? id = some status →
    status = .pending ∨ status = .completed

namespace Mirrors

variable {run : Running State} {rebuilt : Rebuilding} {node : TaskNode} {attempts : Int}

/-- The tries of a pending node begin. -/
theorem enter (mirrors : Mirrors interpreter request none run rebuilt) {nodeId : String}
    (pending : run.state.nodeStatus.get? nodeId = some .pending) :
    Mirrors interpreter request (some nodeId) run rebuilt where
  rebuilds := mirrors.rebuilds
  status := mirrors.status
  nodeStatus := fun id _ => mirrors.nodeStatus id (by simp)
  nodeResults := fun id _ => mirrors.nodeResults id (by simp)
  retryCounters := mirrors.retryCounters
  checkpoints := mirrors.checkpoints
  delegatedAssignments := mirrors.delegatedAssignments
  completed := by
    intro id
    rw [mirrors.completed id]
    refine ⟨fun facts => ⟨?_, facts.2⟩, fun facts => ⟨by simp, facts.2⟩⟩
    rintro same
    obtain rfl := Option.some.inj same
    cases pending.symm.trans facts.2
  failed := fun id member => by cases mirrors.failed id member
  steady := fun id status _ => mirrors.steady id status (by simp)

section

variable (mirrors : Mirrors interpreter request (some node.nodeId) run rebuilt)
include mirrors

variable (surroundings) in
/-- The started event sets the counter that the run sets. -/
theorem called (attempts : Int) :
    ∃ next, Mirrors interpreter request (some node.nodeId)
      (run.called surroundings request node attempts) next := by
  refine ⟨_, mirrors.rebuilds.append rfl (applyEvent_taskStarted rebuilt _ _ node attempts _),
    mirrors.status, mirrors.nodeStatus, mirrors.nodeResults, ?_, mirrors.checkpoints,
    mirrors.delegatedAssignments, mirrors.completed, mirrors.failed, mirrors.steady⟩
  intro id
  show (rebuilt.retryCounters.set node.nodeId attempts).get? id =
    (run.state.retryCounters.set node.nodeId attempts).get? id
  rw [Dict.get?_set, Dict.get?_set, mirrors.retryCounters]

/-- A completed state differs at the tried node only. -/
theorem complete (result : PyData) :
    Mirrors interpreter request (some node.nodeId)
      (run.complete surroundings request node attempts result) rebuilt := by
  have apart (id : String) (other : some node.nodeId ≠ some id) : id ≠ node.nodeId :=
    fun same => other (congrArg some same.symm)
  have statuses (id : String) (other : some node.nodeId ≠ some id) :
      (run.complete surroundings request node attempts result).state.nodeStatus.get? id =
        run.state.nodeStatus.get? id := Dict.get?_set_of_ne _ _ (apart id other)
  refine ⟨mirrors.rebuilds, mirrors.status, ?_, ?_, mirrors.retryCounters, mirrors.checkpoints,
    mirrors.delegatedAssignments, ?_, mirrors.failed, ?_⟩
  · intro id other
    rw [statuses id other]
    exact mirrors.nodeStatus id other
  · intro id other
    exact (mirrors.nodeResults id other).trans (Dict.get?_set_of_ne _ _ (apart id other)).symm
  · intro id
    rw [mirrors.completed id]
    exact and_congr_right fun other => by rw [statuses id other]
  · intro id status other
    rw [statuses id other]
    exact mirrors.steady id status other

/-- The failed event marks the tried node and sets its counter again. -/
theorem failAttempt (counted : run.state.retryCounters.get? node.nodeId = some attempts)
    (exception : PyError) :
    ∃ next, Mirrors interpreter request (some node.nodeId)
      (run.failAttempt surroundings request node attempts exception) next := by
  have incomplete : node.nodeId ∉ rebuilt.completed := fun member =>
    ((mirrors.completed node.nodeId).mp member).1 rfl
  have traced : Rebuilds interpreter (run.events ++ [⟨.task, request.taskGraph.graphId,
      trace surroundings request node attempts .failed
        (some (exception.text surroundings.isPrintable)) run.events.length,
      run.events.length + 1⟩]) request.taskGraph.graphId rebuilt := mirrors.rebuilds.append rfl rfl
  refine ⟨_, traced.append rfl (applyEvent_taskFailed rebuilt _ _ surroundings request node attempts
      _ _ incomplete), mirrors.status, ?_, mirrors.nodeResults, ?_, mirrors.checkpoints,
    mirrors.delegatedAssignments, mirrors.completed, ?_, mirrors.steady⟩
  · intro id other
    have apart : id ≠ node.nodeId := fun same => other (congrArg some same.symm)
    exact (Dict.get?_set_of_ne _ _ apart).trans (mirrors.nodeStatus id other)
  · intro id
    show (rebuilt.retryCounters.set node.nodeId attempts).get? id = run.state.retryCounters.get? id
    rw [Dict.get?_set]
    split
    · rename_i same
      rw [same, counted]
    · exact mirrors.retryCounters id
  · intro id member
    rcases List.mem_insert_iff.mp member with same | earlier
    · rw [same]
    · exact mirrors.failed id earlier

/-- The completed event ends the tries of the node. -/
theorem publish (result : PyData) (contextStore : ContextStore State) :
    ∃ next, Mirrors interpreter request none
      (run.publish surroundings request node attempts result contextStore) next := by
  have traced : Rebuilds interpreter (run.events ++ [⟨.task, request.taskGraph.graphId,
      trace surroundings request node attempts .completed none run.events.length,
      run.events.length + 1⟩]) request.taskGraph.graphId rebuilt := mirrors.rebuilds.append rfl rfl
  have apart (id : String) (different : id ≠ node.nodeId) : some node.nodeId ≠ some id :=
    fun same => different (Option.some.inj same).symm
  refine ⟨_, traced.append rfl (applyEvent_taskCompleted rebuilt _ _ surroundings request node
      attempts _ result), mirrors.status, ?_, ?_, mirrors.retryCounters, mirrors.checkpoints,
    mirrors.delegatedAssignments, ?_, ?_, ?_⟩
  · intro id _
    show (rebuilt.nodeStatus.set node.nodeId .completed).get? id =
      (run.state.nodeStatus.set node.nodeId .completed).get? id
    rw [Dict.get?_set, Dict.get?_set]
    split
    · rfl
    · rename_i different
      exact mirrors.nodeStatus id (apart id different)
  · intro id _
    show (rebuilt.nodeResults.set node.nodeId result).get? id =
      (run.state.nodeResults.set node.nodeId result).get? id
    rw [Dict.get?_set, Dict.get?_set]
    split
    · rfl
    · rename_i different
      exact mirrors.nodeResults id (apart id different)
  · intro id
    show id ∈ rebuilt.completed.insert node.nodeId ↔ none ≠ some id ∧
      (run.state.nodeStatus.set node.nodeId .completed).get? id = some .completed
    rw [List.mem_insert_iff, Dict.get?_set, mirrors.completed id]
    split
    · rename_i same
      simp [same]
    · rename_i different
      simp [different, apart id different]
  · intro id member
    simp only [List.mem_filter, decide_eq_true_eq] at member
    exact absurd (Option.some.inj (mirrors.failed id member.1)).symm member.2
  · intro id status _ found
    change (run.state.nodeStatus.set node.nodeId .completed).get? id = some status at found
    rw [Dict.get?_set] at found
    split at found
    · exact .inr (Option.some.inj found).symm
    · rename_i different
      exact mirrors.steady id status (apart id different) found

end

variable (surroundings) in
/-- The checkpoint event adds the id that the run adds. -/
theorem checkpoint (lawful : store.Lawful) (mirrors : Mirrors interpreter request none run rebuilt) :
    Outcome (fun after => ∃ next, Mirrors interpreter request none after next) (fun _ => False)
      (run.checkpoint store surroundings request) := by
  unfold Running.checkpoint
  obtain ⟨middle, after, returned, _⟩ := ContextStore.checkpoint_written lawful run.contextStore
    request.taskGraph.graphId run.checkpointId (surroundings.updatedAt run.events.length)
  rw [returned]
  refine ⟨_, mirrors.rebuilds.append rfl (applyEvent_checkpointCreated rebuilt _ _ surroundings
      request _ _ _), mirrors.status, mirrors.nodeStatus, mirrors.nodeResults,
    mirrors.retryCounters, ?_, mirrors.delegatedAssignments, mirrors.completed, mirrors.failed,
    mirrors.steady⟩
  show rebuilt.checkpoints ++ _ = run.state.checkpoints ++ _
  rw [mirrors.checkpoints]

end Mirrors

/-- The events of a run that gave up leave the rebuilt status as it was. -/
structure Unnoticed (interpreter : Interpreter) (request : StartRequest) (run : Running State) :
    Prop where
  status : run.state.status = .failed
  rebuilds : ∃ rebuilt, Rebuilds interpreter run.events request.taskGraph.graphId rebuilt ∧
    rebuilt.status = .running

variable {run : Running State} {rebuilt : Rebuilding}

variable (surroundings) in
/-- The attempts of a pending node are mirrored. -/
theorem runNodeWithRetries_mirrors (lawful : store.Lawful) {node : TaskNode}
    (pending : run.state.nodeStatus.get? node.nodeId = some .pending)
    (mirrors : Mirrors interpreter request none run rebuilt) :
    Outcome (fun after => ∃ next, Mirrors interpreter request none after next)
      (Unnoticed interpreter request) (run.runNodeWithRetries store surroundings request node) := by
  have counted (before : Running State) (attempts : Int) :
      (before.called surroundings request node attempts).state.retryCounters.get? node.nodeId =
        some attempts := Dict.get?_set_self _ _ _
  have loop := runNodeWithRetries_outcome store surroundings request node
    (fun _ after => ∃ next, Mirrors interpreter request (some node.nodeId) after next)
    (by
      rintro attempts before exception after ⟨middle, tried⟩ raised
      obtain ⟨next, called⟩ := tried.called surroundings (attempts + 1)
      rcases attempt_cases store surroundings request lawful before node (attempts + 1) with
        ⟨_, _, result⟩ | ⟨value, _, _, _, result⟩ | ⟨_, _, _, _, _, result⟩
      · obtain rfl := (Prod.mk.inj (result.symm.trans raised)).2
        exact called.failAttempt (counted before (attempts + 1)) exception
      · obtain rfl := (Prod.mk.inj (result.symm.trans raised)).2
        exact (called.complete value).failAttempt (counted before (attempts + 1)) exception
      · cases result.symm.trans raised)
    run ⟨rebuilt, mirrors.enter pending⟩
  revert loop
  rcases run.runNodeWithRetries store surroundings request node with ⟨answer, after⟩
  cases answer with
  | error exception =>
      rintro ⟨_, before, ⟨next, tried⟩, rfl⟩
      exact ⟨rfl, next, tried.rebuilds, tried.status⟩
  | ok _ =>
      rintro (⟨_, rfl⟩ | ⟨count, before, _, _, ⟨middle, tried⟩, succeeded⟩)
      · exact ⟨rebuilt, mirrors⟩
      · obtain ⟨next, called⟩ := tried.called surroundings (count + 1)
        rcases attempt_cases store surroundings request lawful before node (count + 1) with
          ⟨_, _, result⟩ | ⟨_, _, _, _, result⟩ | ⟨value, contextStore, _, _, _, result⟩
        · cases result.symm.trans succeeded
        · cases result.symm.trans succeeded
        · obtain rfl := (Prod.mk.inj (result.symm.trans succeeded)).2
          exact called.publish value contextStore

variable (surroundings interpreter) in
/-- The first event is mirrored. -/
theorem initialRun_mirrors (engine : MeshWorkflowEngine State)
    (fresh : ∀ event ∈ engine.events, event.aggregateId ≠ request.taskGraph.graphId) :
    ∃ rebuilt, Mirrors interpreter request none (engine.initialRun surroundings request) rebuilt := by
  have none : replay engine.events request.taskGraph.graphId = [] := by
    rw [replay, List.filter_eq_nil_iff]
    intro event member
    simpa using fresh event member
  have start : Rebuilds interpreter engine.events request.taskGraph.graphId initial := by
    rw [Rebuilds, none]
    rfl
  have statuses (id : String) (status : NodeStatus)
      (found : (MeshWorkflowEngine.initialState request.taskGraph).nodeStatus.get? id = some status) :
      status = .pending := by
    have member := Dict.mem_setAll _ _ _ ((Dict.get?_eq_some_iff _ _ _).mp found)
    rcases member with earlier | listed
    · cases earlier
    · obtain ⟨node, _, same⟩ := List.mem_map.mp listed
      exact (Prod.mk.inj same).2.symm
  refine ⟨_, start.append rfl (applyEvent_workflowStarted initial _ _ surroundings request), rfl,
    fun _ _ => rfl, fun _ _ => rfl, fun _ => rfl, rfl, fun _ => rfl, ?_, ?_, ?_⟩
  · intro id
    refine iff_of_false List.not_mem_nil fun facts => ?_
    cases statuses id .completed facts.2
  · intro id member
    cases member
  · intro id status _ found
    exact .inl (statuses id status found)

/-- The rebuilt state and the state of the engine agree, where the task ids are sets. -/
structure Agrees (rebuilt : RebuiltWorkflow) (state : WorkflowState) : Prop where
  status : rebuilt.status = state.status
  nodeStatus : ∀ id, rebuilt.nodeStatus.get? id = state.nodeStatus.get? id
  nodeResults : ∀ id, rebuilt.nodeResults.get? id = state.nodeResults.get? id
  retryCounters : ∀ id, rebuilt.retryCounters.get? id = state.retryCounters.get? id
  checkpoints : rebuilt.checkpoints = state.checkpoints
  delegatedAssignments : ∀ id,
    rebuilt.delegatedAssignments.get? id = state.delegatedAssignments.get? id
  completedTaskIds : ∀ id, id ∈ rebuilt.completedTaskIds ↔ id ∈ state.taskIds .completed
  pendingTaskIds : ∀ id, id ∈ rebuilt.pendingTaskIds ↔ id ∈ state.taskIds .pending
  failedTaskIds : ∀ id, id ∈ rebuilt.failedTaskIds ↔ id ∈ state.taskIds .failed

theorem mem_taskIds {state : WorkflowState} {status : NodeStatus} {id : String} :
    id ∈ state.taskIds status ↔ state.nodeStatus.get? id = some status := by
  rw [Dict.get?_eq_some_iff, WorkflowState.taskIds, List.mem_map]
  constructor
  · rintro ⟨⟨key, found⟩, member, rfl⟩
    simp only [List.mem_filter, decide_eq_true_eq] at member
    obtain ⟨listed, rfl⟩ := member
    exact listed
  · intro member
    exact ⟨(id, status), by simp [member], rfl⟩

theorem mem_pendingTaskIds {workflowId : String} {last : Rebuilding} {id : String} :
    id ∈ (finish workflowId last).pendingTaskIds ↔
      (∃ status, last.nodeStatus.get? id = some status) ∧ id ∉ last.completed ∧
        id ∉ last.failed := by
  simp only [finish, mem_sortedBy, List.mem_filter, List.mem_map, decide_eq_true_eq,
    Dict.get?_eq_some_iff]
  refine and_congr_left fun _ => ?_
  constructor
  · rintro ⟨⟨key, status⟩, member, rfl⟩
    exact ⟨status, member⟩
  · rintro ⟨status, member⟩
    exact ⟨(id, status), member, rfl⟩

/-- A mirrored run agrees with its rebuilt state when both get the same status. -/
theorem Mirrors.agrees (mirrors : Mirrors interpreter request none run rebuilt)
    (workflowId : String) (status : WorkflowStatus) (known : status ≠ .unknown) :
    Agrees (finish workflowId { rebuilt with status }) { run.state with status } where
  status := if_neg fun facts => known facts.1
  nodeStatus := fun id => mirrors.nodeStatus id (by simp)
  nodeResults := fun id => mirrors.nodeResults id (by simp)
  retryCounters := mirrors.retryCounters
  checkpoints := mirrors.checkpoints
  delegatedAssignments := mirrors.delegatedAssignments
  completedTaskIds := by
    intro id
    rw [mem_taskIds, finish, mem_sortedBy, mirrors.completed id]
    simp
  pendingTaskIds := by
    intro id
    rw [mem_taskIds, mem_pendingTaskIds]
    have same := mirrors.nodeStatus id (by simp)
    have finished := mirrors.completed id
    constructor
    · rintro ⟨⟨found, present⟩, incomplete, _⟩
      rcases mirrors.steady id found (by simp) (same.symm.trans present) with rfl | rfl
      · exact same.symm.trans present
      · exact absurd (finished.mpr ⟨by simp, same.symm.trans present⟩) incomplete
    · intro pending
      refine ⟨⟨.pending, same.trans pending⟩, ?_, ?_⟩
      · intro member
        cases pending.symm.trans (finished.mp member).2
      · intro member
        cases mirrors.failed id member
  failedTaskIds := by
    intro id
    rw [mem_taskIds]
    refine iff_of_false ?_ ?_
    · intro member
      simp only [finish, mem_sortedBy, List.mem_filter] at member
      cases mirrors.failed id member.1
    · intro failed
      rcases mirrors.steady id .failed (by simp) failed with pending | completed
      · cases pending
      · cases completed

/-- Every node is approved, and every node that may run has a call with an accepted result. -/
structure RunsThrough (request : StartRequest) (calls : List RunnerCall) : Prop where
  approved : ∀ node ∈ request.taskGraph.nodes, Approved request node
  accepted : ∀ node ∈ request.taskGraph.nodes, 0 ≤ node.maxRetries →
    ∃ call ∈ callsOf node.nodeId calls, ∃ result, CallAccepted call result

/-- A run with all nodes done ran through. -/
theorem runsThrough_of_progress {all : List TaskNode}
    (progress : Progress request all run) (placed : Placed request all) :
    RunsThrough request run.calls where
  approved := fun node member => progress.approved node (placed.perm.mem_iff.mpr member)
  accepted := by
    intro node member retries
    obtain ⟨failed, last, result, finished⟩ :=
      progress.finished node (placed.perm.mem_iff.mpr member) retries
    exact ⟨last, finished.calls ▸ List.mem_append_right _ (.head _), result, finished.accepted⟩

/-- A run that gave up did not run through. -/
theorem not_runsThrough_of_exhausted (exhausted : Exhausted request run) :
    ¬ RunsThrough request run.calls := by
  intro through
  obtain ⟨node, member, retries, failures⟩ := exhausted.node
  obtain ⟨call, listed, result, accepted⟩ := through.accepted node member retries
  have raw := failures call listed result accepted.1
  rw [accepted.2] at raw
  cases raw

variable {all done batch later : List TaskNode}

/-- A node that waits for an approval is pending for the rebuilder only. -/
theorem awaitApproval_not_agrees (placed : Placed request all) (split : all = done ++ batch ++ later)
    (progress : Progress request done run)
    (mirrors : Mirrors interpreter request none run rebuilt)
    (waits : pendingApproval request batch ≠ []) :
    ∃ next, Rebuilds interpreter
        (run.awaitApproval surroundings request (pendingApproval request batch)).events
        request.taskGraph.graphId next ∧
      ¬ Agrees (finish request.taskGraph.graphId next)
        (run.awaitApproval surroundings request (pendingApproval request batch)).state := by
  refine ⟨_, mirrors.rebuilds.append rfl (applyEvent_humanApprovalRequested rebuilt _ _ surroundings
    request _), fun agrees => ?_⟩
  obtain ⟨node, listed⟩ := List.exists_mem_of_ne_nil _ waits
  have inBatch : node ∈ batch := List.mem_of_mem_filter listed
  obtain ⟨first, rest, rfl⟩ := List.append_of_mem inBatch
  have place : all = (done ++ first) ++ node :: (rest ++ later) := by simpa using split
  have absent : node ∉ done := fun member =>
    (placed.next place).1 (List.mem_map_of_mem (List.mem_append_left _ member))
  have pending := (progress.fresh node (placed.perm.mem_iff.mp (by simp [place])) absent).status
  have distinct : (((pendingApproval request (first ++ node :: rest)).map fun node =>
      (node.nodeId, NodeStatus.awaitingApproval)).map Prod.fst).Nodup := by
    rw [List.map_map]
    have sublist : (pendingApproval request (first ++ node :: rest)).Sublist all := by
      rw [split, List.append_assoc]
      exact (List.filter_sublist).trans
        ((List.sublist_append_left _ later).trans (List.sublist_append_right done _))
    exact placed.distinct.sublist (sublist.map TaskNode.nodeId)
  have waiting (statuses : Dict String NodeStatus) : (statuses.setAll
      ((pendingApproval request (first ++ node :: rest)).map fun node =>
        (node.nodeId, NodeStatus.awaitingApproval))).get? node.nodeId = some .awaitingApproval :=
    Dict.get?_setAll_of_mem _ _ distinct _
      (List.mem_map_of_mem (f := fun node : TaskNode =>
        (node.nodeId, NodeStatus.awaitingApproval)) listed)
  have rebuiltPending : node.nodeId ∈ (finish request.taskGraph.graphId { rebuilt with
      status := .awaitingApproval
      nodeStatus := rebuilt.nodeStatus.setAll
        ((pendingApproval request (first ++ node :: rest)).map fun node =>
          (node.nodeId, NodeStatus.awaitingApproval)) }).pendingTaskIds := by
    refine mem_pendingTaskIds.mpr ⟨⟨_, waiting rebuilt.nodeStatus⟩, ?_, ?_⟩
    · intro member
      cases pending.symm.trans ((mirrors.completed node.nodeId).mp member).2
    · intro member
      cases mirrors.failed node.nodeId member
  have enginePending := mem_taskIds.mp ((agrees.pendingTaskIds node.nodeId).mp rebuiltPending)
  cases (waiting run.state.nodeStatus).symm.trans enginePending

/-- A run that is not approved did not run through. -/
theorem not_runsThrough_of_waiting {calls : List RunnerCall}
    (placed : Placed request all) (split : all = done ++ batch ++ later)
    (waits : pendingApproval request batch ≠ []) : ¬ RunsThrough request calls := by
  intro through
  apply waits
  rw [pendingApproval_eq_nil_iff]
  intro node member
  exact through.approved node (placed.perm.mem_iff.mp (by simp [split, member]))

variable (surroundings interpreter) in
/-- The run of a graph without cycles is rebuilt, and it agrees exactly when it ran through. -/
theorem runBatches_agrees_iff (lawful : store.Lawful) (engine : MeshWorkflowEngine State)
    (wellFormed : request.taskGraph.WellFormed)
    (fresh : ∀ event ∈ engine.events, event.aggregateId ≠ request.taskGraph.graphId)
    {batches : List (List TaskNode)}
    (batched : DependencyGraph.Batched request.taskGraph batches) :
    let after := (runBatches store surroundings request batches
      (engine.initialRun surroundings request)).2
    ∃ rebuilt, Rebuilds interpreter after.events request.taskGraph.graphId rebuilt ∧
      (Agrees (finish request.taskGraph.graphId rebuilt) after.state ↔
        RunsThrough request after.calls) := by
  have placed : Placed request batches.flatten :=
    ⟨batched.perm wellFormed, batched.ordered wellFormed⟩
  obtain ⟨first, mirrored⟩ := initialRun_mirrors surroundings interpreter engine fresh
  have outcome := runBatches_outcome
    (fun done run => Progress request done run ∧
      ∃ rebuilt, Mirrors interpreter request none run rebuilt)
    (fun run => Exhausted request run ∧ Unnoticed interpreter request run)
    (fun done node later run split approved holds =>
      (runNodeWithRetries_progress surroundings lawful placed split approved holds.1).and (by
        obtain ⟨rebuilt, mirrors⟩ := holds.2
        exact runNodeWithRetries_mirrors surroundings lawful
          (holds.1.untouched placed split).1.status mirrors))
    (fun done run holds => by
      obtain ⟨rebuilt, mirrors⟩ := holds.2
      have kept := (checkpoint_progress surroundings lawful holds.1).and
        (mirrors.checkpoint surroundings lawful)
      revert kept
      rcases run.checkpoint store surroundings request with ⟨answer, after⟩
      cases answer with
      | error exception => exact fun kept => kept.2.elim
      | ok _ => exact id)
    batches [] (engine.initialRun surroundings request) rfl
    ⟨engine.initialRun_progress wellFormed, first, mirrored⟩
  revert outcome
  rcases runBatches store surroundings request batches (engine.initialRun surroundings request) with
    ⟨answer, after⟩
  dsimp only
  cases answer with
  | error exception =>
      rintro ⟨exhausted, unnoticed⟩
      obtain ⟨rebuilt, rebuilds, running⟩ := unnoticed.rebuilds
      refine ⟨rebuilt, rebuilds, iff_of_false ?_ (not_runsThrough_of_exhausted exhausted)⟩
      intro agrees
      have status := agrees.status
      rw [unnoticed.status] at status
      simp [finish, running] at status
  | ok _ =>
      rintro (⟨last, ⟨progress, rebuilt, mirrors⟩, rfl⟩ |
        ⟨done, batch, later, last, split, ⟨progress, rebuilt, mirrors⟩, waits, rfl⟩)
      · have through : RunsThrough request last.calls := runsThrough_of_progress progress placed
        refine ⟨{ rebuilt with status := .completed }, ?_,
          iff_of_true (mirrors.agrees _ .completed (by decide)) through⟩
        have noted : Rebuilds interpreter (last.events ++ [⟨.workflow, request.taskGraph.graphId,
            ("status", .str "completed") :: request.ownerFields surroundings,
            last.events.length + 1⟩]) request.taskGraph.graphId
            { rebuilt with status := .completed } := mirrors.rebuilds.append rfl rfl
        exact noted.append rfl rfl
      · obtain ⟨next, rebuilds, disagrees⟩ := awaitApproval_not_agrees placed split progress mirrors
          waits
        exact ⟨next, rebuilds, iff_of_false disagrees
          (not_runsThrough_of_waiting placed split waits)⟩

section Reached

/-- Every part of a run numbers its events. -/
theorem keptByRun_numbered (lawful : store.Lawful) :
    KeptByRun store surroundings request fun run => Numbered run.events where
  attempt := by
    intro run node attempts _ numbered
    have called : Numbered (run.called surroundings request node attempts).events :=
      numbered.append _ rfl
    rcases attempt_cases store surroundings request lawful run node attempts with
      ⟨_, _, result⟩ | ⟨_, _, _, _, result⟩ | ⟨_, _, _, _, _, result⟩
    · rw [result]
      exact called
    · rw [result]
      exact called
    · rw [result]
      exact (called.append _ rfl).append _ rfl
  failAttempt := fun _ _ _ _ numbered => (numbered.append _ rfl).append _ rfl
  giveUp := fun _ _ numbered => numbered
  awaitApproval := fun _ _ numbered => numbered.append _ rfl
  checkpoint := by
    intro run numbered
    unfold Running.checkpoint
    obtain ⟨_, _, returned, _⟩ := ContextStore.checkpoint_written lawful run.contextStore
      request.taskGraph.graphId run.checkpointId (surroundings.updatedAt run.events.length)
    rw [returned]
    exact numbered.append _ rfl
  finish := fun _ numbered => (numbered.append _ rfl).append _ rfl

variable (surroundings) in
/-- The event store of every reached engine is numbered. -/
theorem reached_numbered (lawful : store.Lawful) (contextStore : ContextStore State)
    (requests : List StartRequest) :
    Numbered (reached store surroundings contextStore requests).events := by
  refine Transition.run_invariant _ (fun engine : MeshWorkflowEngine State =>
    Numbered engine.events) ?_ _ requests ⟨List.Pairwise.nil, fun _ member => by cases member⟩
  intro engine request numbered
  rcases engine.start_keeps (keptByRun_numbered lawful) (fun _ => numbered.append _ rfl) with
    ⟨_, raised⟩ | ⟨_, _, _, started, kept⟩
  · rw [raised]
    exact numbered
  · rw [started]
    exact kept

/-- The events of a run that are rebuilt in their order are rebuilt by `rebuild_workflow`. -/
theorem Rebuilds.rebuildWorkflow {events : List WorkflowEvent} {workflowId : String}
    {current : Rebuilding} (rebuilds : Rebuilds interpreter events workflowId current)
    (numbered : Numbered events) :
    rebuildWorkflow interpreter workflowId (replay events workflowId) =
      .ok (finish workflowId current) := by
  unfold StateRebuilder.rebuildWorkflow
  rw [numbered.sorted, rebuilds]
  rfl

variable (surroundings interpreter) in
/-- A run of a fresh graph has a state and is rebuilt. The two agree exactly when the graph has a
cycle, which stops the run at its first event, or the run goes through all nodes. -/
theorem rebuildWorkflow_agrees_iff (lawful : store.Lawful) (contextStore : ContextStore State)
    (requests : List StartRequest) (request : StartRequest)
    (wellFormed : request.taskGraph.WellFormed)
    (fresh : ∀ event ∈ (reached store surroundings contextStore requests).events,
      event.aggregateId ≠ request.taskGraph.graphId) :
    ∃ state rebuilt,
      (reached store surroundings contextStore (requests ++ [request])).states.get?
        request.taskGraph.graphId = some state ∧
      rebuildWorkflow interpreter request.taskGraph.graphId
          (replay (reached store surroundings contextStore (requests ++ [request])).events
            request.taskGraph.graphId) = .ok rebuilt ∧
      (Agrees rebuilt state ↔ request.taskGraph.Cyclic ∨
        RunsThrough request ((reached store surroundings contextStore requests).start store
          surroundings request).1.calls) := by
  have numbered := reached_numbered surroundings lawful contextStore (requests ++ [request])
  have last : reached store surroundings contextStore (requests ++ [request]) =
      ((reached store surroundings contextStore requests).start store surroundings request).2 :=
    Transition.run_append _ _ requests [request]
  rw [last] at numbered ⊢
  generalize reached store surroundings contextStore requests = engine at fresh numbered ⊢
  rcases engine.start_cases store surroundings request with
    ⟨malformed, _⟩ | ⟨_, answer, after, started, outcomes⟩
  · exact absurd wellFormed malformed
  · rw [started] at numbered ⊢
    dsimp only at numbered ⊢
    refine ⟨after.state, ?_⟩
    rcases outcomes with ⟨cyclic, _, rfl⟩ | ⟨acyclic, batches, batched, ran⟩
    · obtain ⟨rebuilt, mirrors⟩ := initialRun_mirrors surroundings interpreter engine fresh
      have running : { rebuilt with status := .running } = rebuilt := by rw [← mirrors.status]
      have agrees : Agrees (finish request.taskGraph.graphId { rebuilt with status := .running })
          (engine.initialRun surroundings request).state :=
        mirrors.agrees request.taskGraph.graphId .running (by decide)
      refine ⟨_, Dict.get?_set_self _ _ _, mirrors.rebuilds.rebuildWorkflow numbered,
        iff_of_true ?_ (.inl cyclic)⟩
      rwa [running] at agrees
    · have outcome := runBatches_agrees_iff surroundings interpreter lawful engine wellFormed fresh
        batched
      rw [ran] at outcome
      obtain ⟨rebuilt, rebuilds, agrees⟩ := outcome
      refine ⟨_, Dict.get?_set_self _ _ _, rebuilds.rebuildWorkflow numbered, agrees.trans ?_⟩
      rw [or_iff_right acyclic]

end Reached

section Example

/-- An interpreter without floats. -/
def integerInterpreter : Interpreter := ⟨fun _ => true, fun _ => 0, fun _ => true⟩

/-- An engine in memory after one run. -/
def afterRun (request : StartRequest) : MeshWorkflowEngine MemoryPersistenceStore :=
  reached MemoryPersistenceStore.backend stillSurroundings ⟨none, Dict.empty⟩ [request]

/-- A single task whose runner raises. -/
def failingRequest : StartRequest :=
  { singleRequest 0 fun _ => .null with nodeRunner := fun _ _ _ => .error (.valueError "no result") }

/-- A single task that waits for an approval. -/
def waitingRequest : StartRequest :=
  { singleRequest 0 fun _ => .null with
    taskGraph := ⟨"graph", [⟨"a", "a", none, [], 0, true, []⟩]⟩ }

/-- A single task with a clean result is rebuilt as it is in the engine. -/
theorem rebuildWorkflow_agrees_single :
    ∃ state rebuilt,
      (afterRun (singleRequest 0 fun _ => .null)).states.get? "graph" = some state ∧
      rebuildWorkflow integerInterpreter "graph"
        (replay (afterRun (singleRequest 0 fun _ => .null)).events "graph") = .ok rebuilt ∧
      Agrees rebuilt state := by
  obtain ⟨state, rebuilt, known, returned, agrees⟩ := rebuildWorkflow_agrees_iff
    stillSurroundings integerInterpreter MemoryPersistenceStore.backend_lawful ⟨none, Dict.empty⟩ []
    (singleRequest 0 fun _ => .null) ((DependencyGraph.create_eq_ok_iff _).mp rfl).1 (by
      intro event member
      cases member)
  refine ⟨state, rebuilt, known, returned, agrees.mpr (.inr ⟨?_, ?_⟩)⟩
  · intro node member
    obtain rfl := List.mem_singleton.mp member
    intro required
    cases required
  · intro node member _
    obtain rfl := List.mem_singleton.mp member
    exact ⟨_, List.mem_singleton.mpr rfl, .null, rfl, rfl⟩

/-- A workflow that gave up is rebuilt as running, and a task that waits for an approval is rebuilt as
pending. -/
theorem rebuildWorkflow_disagrees :
    (∃ state rebuilt, (afterRun failingRequest).states.get? "graph" = some state ∧
      rebuildWorkflow integerInterpreter "graph" (replay (afterRun failingRequest).events "graph") =
        .ok rebuilt ∧
      state.status = .failed ∧ rebuilt.status = .running ∧ ¬ Agrees rebuilt state) ∧
    ∃ state rebuilt, (afterRun waitingRequest).states.get? "graph" = some state ∧
      rebuildWorkflow integerInterpreter "graph" (replay (afterRun waitingRequest).events "graph") =
        .ok rebuilt ∧
      state.taskIds .pending = [] ∧ rebuilt.pendingTaskIds = ["a"] ∧ ¬ Agrees rebuilt state := by
  refine ⟨⟨_, _, rfl, rfl, rfl, rfl, ?_⟩, _, _, rfl, rfl, rfl, by decide, ?_⟩
  · intro agrees
    cases agrees.status
  · intro agrees
    have pending := (agrees.pendingTaskIds "a").mp (by decide)
    cases pending

end Example

end AgentFabric.Recovery.StateRebuilder
