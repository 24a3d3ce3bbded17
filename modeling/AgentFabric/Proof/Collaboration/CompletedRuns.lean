import AgentFabric.Proof.Phase3.CompletedWorkflow

namespace AgentFabric.Collaboration.Running
open Persistence ContextStore Precedence NamedGraph

variable {State : Type} {store : PersistenceStore State} {surroundings : Surroundings}
  {request : StartRequest} (call : RunnerCall)

/-- The runner raised or returned a value that the scan refuses. -/
def CallFailed : Prop :=
  ∀ result, call.answer = .ok result → isRawSensitive result = true

/-- The runner returned a value that the scan accepts. -/
def CallAccepted (result : PyData) : Prop :=
  call.answer = .ok result ∧ isRawSensitive result = false

/-- Only the results and the status of one node differ. -/
structure SameElsewhere (nodeId : String) (before after : WorkflowState) : Prop where
  results : ∀ id, id ≠ nodeId → after.nodeResults.get? id = before.nodeResults.get? id
  statuses : ∀ id, id ≠ nodeId → after.nodeStatus.get? id = before.nodeStatus.get? id
  status : after.status = before.status

variable {nodeId : String}

theorem SameElsewhere.trans {before middle after : WorkflowState}
    (first : SameElsewhere nodeId before middle) (second : SameElsewhere nodeId middle after) :
    SameElsewhere nodeId before after where
  results := fun id different => (second.results id different).trans (first.results id different)
  statuses := fun id different => (second.statuses id different).trans (first.statuses id different)
  status := second.status.trans first.status

variable (surroundings request) in
theorem called_calls (run : Running State) (node : TaskNode) (attempts : Int) :
    ∃ call, (run.called surroundings request node attempts).calls = run.calls ++ [call] ∧
      call.node = node ∧
      call.payload.dependencyResults = dependencyResults run.state node ∧
      call.answer = run.answered surroundings request node attempts :=
  ⟨_, rfl, rfl, rfl, rfl⟩

variable (surroundings request) in
theorem called_same (run : Running State) (node : TaskNode) (attempts : Int) :
    SameElsewhere node.nodeId run.state (run.called surroundings request node attempts).state :=
  ⟨fun _ _ => rfl, fun _ _ => rfl, rfl⟩

theorem complete_same (run : Running State) (node : TaskNode) (attempts : Int) (result : PyData) :
    SameElsewhere node.nodeId run.state
      (run.complete surroundings request node attempts result).state :=
  ⟨fun _ different => Dict.get?_set_of_ne _ _ different,
    fun _ different => Dict.get?_set_of_ne _ _ different, rfl⟩

section Attempt

variable (lawful : store.Lawful) {run after : Running State} {node : TaskNode} {attempts : Int}

include lawful

/-- A failed attempt makes one failed call. -/
theorem attempt_failed {error : PyError}
    (tried : run.attempt store surroundings request node attempts = (.error error, after)) :
    SameElsewhere node.nodeId run.state after.state ∧
      ∃ call, after.calls = run.calls ++ [call] ∧ call.node = node ∧ CallFailed call := by
  obtain ⟨call, calls, ofNode, _, answer⟩ := run.called_calls surroundings request node attempts
  have same := run.called_same surroundings request node attempts
  rcases attempt_cases store surroundings request lawful run node attempts with
    ⟨raised, answered, result⟩ | ⟨value, raised, answered, raw, result⟩ |
      ⟨value, contextStore, answered, clean, changed, result⟩
  · obtain rfl := (Prod.mk.inj (result.symm.trans tried)).2
    refine ⟨same, call, calls, ofNode, ?_⟩
    intro value returned
    cases (answer.symm.trans returned).symm.trans answered
  · obtain rfl := (Prod.mk.inj (result.symm.trans tried)).2
    refine ⟨same.trans (complete_same _ _ _ _), call, calls, ofNode, ?_⟩
    intro other returned
    obtain rfl := Except.ok.inj ((answer.symm.trans returned).symm.trans answered)
    exact raw
  · cases result.symm.trans tried

/-- A successful attempt makes one accepted call, which completes the node. -/
theorem attempt_succeeded
    (tried : run.attempt store surroundings request node attempts = (.ok (), after)) :
    SameElsewhere node.nodeId run.state after.state ∧
      ∃ call result, after.calls = run.calls ++ [call] ∧ call.node = node ∧
        call.payload.dependencyResults = dependencyResults run.state node ∧
        CallAccepted call result ∧
        after.state.nodeResults.get? node.nodeId = some result ∧
        after.state.nodeStatus.get? node.nodeId = some .completed := by
  obtain ⟨call, calls, ofNode, payload, answer⟩ :=
    run.called_calls surroundings request node attempts
  have same := run.called_same surroundings request node attempts
  rcases attempt_cases store surroundings request lawful run node attempts with
    ⟨raised, answered, result⟩ | ⟨value, raised, answered, raw, result⟩ |
      ⟨value, contextStore, answered, clean, changed, result⟩
  · cases result.symm.trans tried
  · cases result.symm.trans tried
  · obtain rfl := (Prod.mk.inj (result.symm.trans tried)).2
    refine ⟨same.trans (complete_same _ _ _ _), call, value, calls, ofNode, payload,
      ⟨answer.trans answered, clean⟩, ?_, ?_⟩
    · exact Dict.get?_set_self _ _ _
    · exact Dict.get?_set_self _ _ _

end Attempt

/-- The payload has the result of each dependency that has one. -/
theorem get?_dependencyResults (state : WorkflowState) (node : TaskNode) {dependency : String}
    (listed : dependency ∈ node.dependencies) :
    (dependencyResults state node).get? dependency = state.nodeResults.get? dependency := by
  rw [dependencyResults, Dict.get?_setAll_filterMap]
  cases found : state.nodeResults.get? dependency with
  | none => simp
  | some result => simp [listed]

/-- A node that is pending and has no result. -/
structure Untouched (nodeId : String) (run : Running State) : Prop where
  status : run.state.nodeStatus.get? nodeId = some .pending
  result : run.state.nodeResults.get? nodeId = none

/-- The calls of one node. -/
def callsOf (nodeId : String) (calls : List RunnerCall) : List RunnerCall :=
  calls.filter fun call => call.node.nodeId = nodeId

/-- A completed node with its calls, of which only the last one is accepted. -/
structure Finished (node : TaskNode) (run : Running State) (failed : List RunnerCall)
    (last : RunnerCall) (result : PyData) : Prop where
  calls : callsOf node.nodeId run.calls = failed ++ [last]
  ofNode : last.node = node
  failures : ∀ call ∈ failed, CallFailed call
  accepted : CallAccepted last result
  bound : (failed.length : Int) ≤ node.maxRetries
  result : run.state.nodeResults.get? node.nodeId = some result
  status : run.state.nodeStatus.get? node.nodeId = some .completed
  dependencies : ∀ dependency ∈ node.dependencies,
    last.payload.dependencyResults.get? dependency = run.state.nodeResults.get? dependency

/-- What the run has done after some nodes. -/
structure Progress (request : StartRequest) (done : List TaskNode) (run : Running State) : Prop where
  finished : ∀ node ∈ done, 0 ≤ node.maxRetries →
    ∃ failed last result, Finished node run failed last result
  skipped : ∀ node ∈ done, node.maxRetries < 0 → Untouched node.nodeId run
  approved : ∀ node ∈ done, Approved request node
  calls : ∀ call ∈ run.calls, call.node ∈ done
  fresh : ∀ node ∈ request.taskGraph.nodes, node ∉ done → Untouched node.nodeId run
  status : run.state.status = .running

/-- The places of the nodes in the order of the batches. -/
abbrev Placed (request : StartRequest) (all : List TaskNode) : Prop :=
  NamedGraph.Placed TaskNode.nodeId TaskNode.dependencies request.taskGraph.nodes all

variable {run after : Running State}

/-- Calls of another node and changes at another node keep what is untouched. -/
theorem Untouched.frame {nodeId other : String}
    (untouched : Untouched other run) (same : SameElsewhere nodeId run.state after.state)
    (different : other ≠ nodeId) : Untouched other after where
  status := (same.statuses other different).trans untouched.status
  result := (same.results other different).trans untouched.result

variable {calls added : List RunnerCall}

theorem callsOf_append_other {nodeId other : String}
    (ofNode : ∀ call ∈ added, call.node.nodeId = nodeId) (different : other ≠ nodeId) :
    callsOf other (calls ++ added) = callsOf other calls :=
  LastEntry.filter_append_other ofNode different

theorem callsOf_append_own (unnamed : ∀ call ∈ calls, call.node.nodeId ≠ nodeId)
    (ofNode : ∀ call ∈ added, call.node.nodeId = nodeId) :
    callsOf nodeId (calls ++ added) = added :=
  LastEntry.filter_append_own unnamed ofNode

/-- Calls of another node and changes at another node keep a finished node. -/
theorem Finished.frame {other : TaskNode}
    {failed added : List RunnerCall} {last : RunnerCall} {result : PyData}
    (finished : Finished other run failed last result)
    (same : SameElsewhere nodeId run.state after.state) (calls : after.calls = run.calls ++ added)
    (ofNode : ∀ call ∈ added, call.node.nodeId = nodeId) (different : other.nodeId ≠ nodeId)
    (apart : ∀ dependency ∈ other.dependencies, dependency ≠ nodeId) :
    Finished other after failed last result where
  calls := by
    rw [calls, callsOf_append_other ofNode different]
    exact finished.calls
  ofNode := finished.ofNode
  failures := finished.failures
  accepted := finished.accepted
  bound := finished.bound
  result := (same.results other.nodeId different).trans finished.result
  status := (same.statuses other.nodeId different).trans finished.status
  dependencies := by
    intro dependency listed
    rw [finished.dependencies dependency listed, same.results dependency (apart dependency listed)]

/-- The run gave up at a node whose calls all failed. -/
structure Exhausted (request : StartRequest) (run : Running State) : Prop where
  status : run.state.status = .failed
  node : ∃ node ∈ request.taskGraph.nodes, 0 ≤ node.maxRetries ∧
    ∀ call ∈ callsOf node.nodeId run.calls, CallFailed call

/-- What holds between the attempts of a node. -/
structure Tried (node : TaskNode) (before : Running State) (count : Int) (run : Running State)
    (failed : List RunnerCall) : Prop where
  same : SameElsewhere node.nodeId before.state run.state
  calls : run.calls = before.calls ++ failed
  length : (failed.length : Int) = count
  ofNode : ∀ call ∈ failed, call.node = node
  failures : ∀ call ∈ failed, CallFailed call

variable {all done later : List TaskNode} {node : TaskNode}

/-- The new node is untouched and no earlier call is one of its calls. -/
theorem Progress.untouched {run : Running State} (progress : Progress request done run)
    (placed : Placed request all) (split : all = done ++ node :: later) :
    Untouched node.nodeId run ∧ ∀ call ∈ run.calls, call.node.nodeId ≠ node.nodeId := by
  obtain ⟨absent, _⟩ := placed.next split
  constructor
  · apply progress.fresh node (placed.perm.mem_iff.mp (by simp [split]))
    exact fun member => absent (List.mem_map_of_mem member)
  · intro call member same
    exact absent (same ▸ List.mem_map_of_mem (progress.calls call member))

/-- What was done before stays done, and other nodes stay fresh. -/
theorem Progress.extend {added : List RunnerCall} (progress : Progress request done run)
    (placed : Placed request all) (split : all = done ++ node :: later)
    (approved : Approved request node) (same : SameElsewhere node.nodeId run.state after.state)
    (calls : after.calls = run.calls ++ added) (ofNode : ∀ call ∈ added, call.node = node)
    (finished : 0 ≤ node.maxRetries → ∃ failed last result, Finished node after failed last result)
    (skipped : node.maxRetries < 0 → Untouched node.nodeId after) :
    Progress request (done ++ [node]) after := by
  obtain ⟨absent, _⟩ := placed.next split
  have ids : ∀ call ∈ added, call.node.nodeId = node.nodeId := fun call member =>
    congrArg TaskNode.nodeId (ofNode call member)
  have apart (other : TaskNode) (member : other ∈ done) : other.nodeId ≠ node.nodeId :=
    fun equal => absent (equal ▸ List.mem_map_of_mem member)
  refine ⟨?_, ?_, ?_, ?_, ?_, same.status.trans progress.status⟩
  · intro other member retries
    rcases List.mem_append.mp member with earlier | last
    · obtain ⟨failed, call, result, facts⟩ := progress.finished other earlier retries
      refine ⟨failed, call, result, facts.frame same calls ids (apart other earlier) ?_⟩
      intro dependency listed equal
      exact absent (equal ▸ placed.closed split other earlier dependency listed)
    · obtain rfl := List.mem_singleton.mp last
      exact finished retries
  · intro other member negative
    rcases List.mem_append.mp member with earlier | last
    · exact (progress.skipped other earlier negative).frame same (apart other earlier)
    · obtain rfl := List.mem_singleton.mp last
      exact skipped negative
  · intro other member
    rcases List.mem_append.mp member with earlier | last
    · exact progress.approved other earlier
    · obtain rfl := List.mem_singleton.mp last
      exact approved
  · intro call member
    rw [calls] at member
    rcases List.mem_append.mp member with earlier | new
    · exact List.mem_append_left _ (progress.calls call earlier)
    · rw [ofNode call new]
      exact List.mem_append_right _ (List.mem_singleton.mpr rfl)
  · intro other known unfinished
    rw [List.mem_append, List.mem_singleton, not_or] at unfinished
    apply (progress.fresh other known unfinished.1).frame same
    intro equal
    apply unfinished.2
    apply placed.eq_of_id (placed.perm.mem_iff.mpr known) _ equal
    simp [split]

variable (surroundings) in
/-- One node of the order. -/
theorem runNodeWithRetries_progress (lawful : store.Lawful) {run : Running State}
    (placed : Placed request all)
    (split : all = done ++ node :: later) (approved : Approved request node)
    (progress : Progress request done run) :
    Outcome (Progress request (done ++ [node])) (Exhausted request)
      (run.runNodeWithRetries store surroundings request node) := by
  obtain ⟨untouched, none⟩ := progress.untouched placed split
  obtain ⟨absent, dependencies⟩ := placed.next split
  have loop := runNodeWithRetries_outcome store surroundings request node
    (fun count after => ∃ failed, Tried node run count after failed)
    (by
      rintro count middle error after ⟨failed, tried⟩ raised
      obtain ⟨same, call, calls, ofNode, failure⟩ := attempt_failed lawful raised
      refine ⟨failed ++ [call], ⟨(tried.same.trans same).trans ⟨fun _ _ => rfl, fun _ _ => rfl, rfl⟩,
        ?_, ?_, ?_, ?_⟩⟩
      · show after.calls = _
        rw [calls, tried.calls, List.append_assoc]
      · rw [List.length_append, ← tried.length]
        rfl
      · intro other member
        rcases List.mem_append.mp member with earlier | last
        · exact tried.ofNode other earlier
        · rw [List.mem_singleton.mp last, ofNode]
      · intro other member
        rcases List.mem_append.mp member with earlier | last
        · exact tried.failures other earlier
        · rw [List.mem_singleton.mp last]
          exact failure)
    run ⟨[], ⟨fun _ _ => rfl, fun _ _ => rfl, rfl⟩, (List.append_nil _).symm, rfl, by simp, by simp⟩
  revert loop
  rcases run.runNodeWithRetries store surroundings request node with ⟨answer, after⟩
  cases answer with
  | error error =>
      rintro ⟨retries, before, ⟨failed, tried⟩, rfl⟩
      refine ⟨rfl, node, placed.perm.mem_iff.mp (by simp [split]), retries, ?_⟩
      have own : callsOf node.nodeId (before.giveUp node).calls = failed := by
        show callsOf node.nodeId before.calls = failed
        rw [tried.calls]
        exact callsOf_append_own none fun call member =>
          congrArg TaskNode.nodeId (tried.ofNode call member)
      rw [own]
      exact tried.failures
  | ok _ =>
      rintro (⟨negative, rfl⟩ | ⟨count, before, lower, upper, ⟨failed, tried⟩, succeeded⟩)
      · exact progress.extend placed split approved ⟨fun _ _ => rfl, fun _ _ => rfl, rfl⟩
          (List.append_nil _).symm (by simp) (fun retries => by omega) fun _ => untouched
      · obtain ⟨same, call, result, calls, ofNode, payload, accepted, results, status⟩ :=
          attempt_succeeded lawful succeeded
        have added : after.calls = run.calls ++ (failed ++ [call]) := by
          rw [calls, tried.calls, List.append_assoc]
        have owned : ∀ other ∈ failed ++ [call], other.node = node := by
          intro other member
          rcases List.mem_append.mp member with earlier | last
          · exact tried.ofNode other earlier
          · rw [List.mem_singleton.mp last, ofNode]
        refine progress.extend placed split approved (tried.same.trans same) added owned ?_
          fun negative => by omega
        intro _
        refine ⟨failed, call, result, ⟨?_, ofNode, tried.failures, accepted, ?_, results, status, ?_⟩⟩
        · rw [added]
          exact callsOf_append_own none fun other member =>
            congrArg TaskNode.nodeId (owned other member)
        · rw [tried.length]
          exact upper
        · intro dependency listed
          have different : dependency ≠ node.nodeId := fun equal =>
            absent (equal ▸ dependencies dependency listed)
          rw [payload, get?_dependencyResults _ _ listed, same.results dependency different]

variable (surroundings) in
/-- A checkpoint keeps the progress. -/
theorem checkpoint_progress (lawful : store.Lawful) {done : List TaskNode} {run : Running State}
    (progress : Progress request done run) :
    Outcome (Progress request done) (Exhausted request)
      (run.checkpoint store surroundings request) := by
  unfold checkpoint
  obtain ⟨middle, after, returned, _⟩ := checkpoint_written lawful run.contextStore
    request.taskGraph.graphId run.checkpointId (surroundings.updatedAt run.events.length)
  rw [returned]
  exact ⟨fun node member retries => by
      obtain ⟨failed, last, result, facts⟩ := progress.finished node member retries
      exact ⟨failed, last, result, facts.calls, facts.ofNode, facts.failures, facts.accepted,
        facts.bound, facts.result, facts.status, facts.dependencies⟩,
    fun node member negative => ⟨(progress.skipped node member negative).status,
      (progress.skipped node member negative).result⟩,
    progress.approved, progress.calls,
    fun node known unfinished => ⟨(progress.fresh node known unfinished).status,
      (progress.fresh node known unfinished).result⟩, progress.status⟩

end AgentFabric.Collaboration.Running

namespace AgentFabric.Collaboration
open Persistence Running

variable {State : Type} {store : PersistenceStore State} {surroundings : Surroundings}
  {request : StartRequest}

namespace MeshWorkflowEngine

theorem initialState_nodeStatus (taskGraph : TaskGraph) (wellFormed : taskGraph.WellFormed)
    (node : TaskNode) (member : node ∈ taskGraph.nodes) :
    (initialState taskGraph).nodeStatus.get? node.nodeId = some .pending := by
  have listed : (node.nodeId, NodeStatus.pending) ∈
      taskGraph.nodes.map fun node => (node.nodeId, NodeStatus.pending) :=
    List.mem_map_of_mem member
  apply Dict.get?_setAll_of_mem _ _ _ _ listed
  rw [List.map_map]
  exact wellFormed.distinct

variable (surroundings request) in
/-- The opening of a run edits the live record of its workflow. -/
theorem openContext_eq_edit (engine : MeshWorkflowEngine State) :
    let now := surroundings.updatedAt engine.events.length
    let record := engine.contextStore.current request.taskGraph.graphId now
    engine.openContext surroundings request =
      engine.contextStore.edit request.taskGraph.graphId
        { record.toContextData with
          conversationState := PyData.update record.conversationState request.initialPayload }
        now := by
  intro now record
  have current : record = (engine.contextStore.getOrCreate request.taskGraph.graphId now).1 :=
    (ContextStore.getOrCreate_fst engine.contextStore request.taskGraph.graphId now).symm
  rw [current]
  rfl

variable (engine : MeshWorkflowEngine State)

/-- Before the first batch nothing is done. -/
theorem initialRun_progress (wellFormed : request.taskGraph.WellFormed) :
    Progress request [] (engine.initialRun surroundings request) where
  finished := by simp
  skipped := by simp
  approved := by simp
  calls := by
    intro call member
    cases member
  fresh := fun node member _ =>
    ⟨initialState_nodeStatus request.taskGraph wellFormed node member, rfl⟩
  status := rfl

/-- The state in which a run of a graph without cycles ends. -/
inductive Ended (surroundings : Surroundings) (request : StartRequest) (all : List TaskNode)
    (after : Running State) : Prop where
  | completed (last : Running State) (progress : Progress request all last)
      (finished : after = last.finish surroundings request)
  | waiting (done batch later : List TaskNode) (last : Running State)
      (split : all = done ++ batch ++ later) (progress : Progress request done last)
      (unapproved : pendingApproval request batch ≠ [])
      (stopped : after = last.awaitApproval surroundings request (pendingApproval request batch))

variable (surroundings) in
/-- A run over batches ends, waits or gives up. -/
theorem runBatches_ended (lawful : store.Lawful) (engine : MeshWorkflowEngine State)
    (wellFormed : request.taskGraph.WellFormed) {batches : List (List TaskNode)}
    (batched : DependencyGraph.Batched request.taskGraph batches) :
    Outcome (Ended surroundings request batches.flatten) (Exhausted request)
      (runBatches store surroundings request batches (engine.initialRun surroundings request)) := by
  have placed : Placed request batches.flatten :=
    ⟨batched.perm wellFormed, batched.ordered wellFormed⟩
  have outcome := runBatches_outcome (Progress request) (Exhausted request)
    (fun done node later run split approved progress =>
      runNodeWithRetries_progress surroundings lawful placed split approved progress)
    (fun done run progress => checkpoint_progress surroundings lawful progress)
    batches [] (engine.initialRun surroundings request) rfl (engine.initialRun_progress wellFormed)
  revert outcome
  rcases runBatches store surroundings request batches (engine.initialRun surroundings request) with
    ⟨answer, after⟩
  cases answer with
  | error error => exact id
  | ok _ =>
      rintro (⟨last, progress, finished⟩ | ⟨done, batch, later, last, split, progress, waits, stopped⟩)
      · exact .completed last progress finished
      · exact .waiting done batch later last split progress waits stopped

variable (store surroundings) in
/-- A run that starts has a well-formed graph. It raises for a cycle or runs the batches. -/
theorem start_cases (request : StartRequest) :
    (¬ request.taskGraph.WellFormed ∧ ∃ error,
      engine.start store surroundings request = (⟨.error error, []⟩, engine)) ∨
    (request.taskGraph.WellFormed ∧ ∃ answer after,
      engine.start store surroundings request =
        (⟨answer.map fun _ => after.state, after.calls⟩,
          ⟨after.contextStore, after.events,
            engine.states.set request.taskGraph.graphId after.state⟩) ∧
      ((request.taskGraph.Cyclic ∧ (∃ error, answer = .error error) ∧
          after = engine.initialRun surroundings request) ∨
        (¬ request.taskGraph.Cyclic ∧ ∃ batches,
          DependencyGraph.Batched request.taskGraph batches ∧
          runBatches store surroundings request batches
            (engine.initialRun surroundings request) = (answer, after)))) := by
  unfold start
  cases created : DependencyGraph.create request.taskGraph with
  | error error =>
      left
      refine ⟨?_, error, rfl⟩
      intro wellFormed
      cases created.symm.trans ((DependencyGraph.create_eq_ok_iff _).mpr ⟨wellFormed, rfl⟩)
  | ok graph =>
      right
      obtain ⟨wellFormed, rfl⟩ := (DependencyGraph.create_eq_ok_iff graph).mp created
      dsimp only
      rcases ran : engine.runGraph store surroundings request
        ⟨request.taskGraph, request.taskGraph.edges⟩ with ⟨answer, after⟩
      refine ⟨wellFormed, answer, after, rfl, ?_⟩
      unfold runGraph at ran
      rcases DependencyGraph.topologicalBatches_cases wellFormed with
        ⟨acyclic, batches, returned, batched⟩ | ⟨cyclic, raised⟩
      · rw [returned] at ran
        exact .inr ⟨acyclic, batches, batched, ran⟩
      · rw [raised] at ran
        obtain ⟨rfl, rfl⟩ := Prod.mk.inj ran
        exact .inl ⟨cyclic, ⟨_, rfl⟩, rfl⟩

variable (store surroundings) in
/-- The engine after a sequence of runs over a new event store. -/
def reached (contextStore : ContextStore State) (requests : List StartRequest) :
    MeshWorkflowEngine State :=
  Transition.run (start store surroundings) ⟨contextStore, [], Dict.empty⟩ requests

/-- A start raises at once, or it ends in a run that meets what its first event and every part of it
keep. -/
theorem start_keeps {holds : Running State → Prop}
    (kept : KeptByRun store surroundings request holds)
    (first : request.taskGraph.WellFormed → holds (engine.initialRun surroundings request)) :
    (∃ error, engine.start store surroundings request = (⟨.error error, []⟩, engine)) ∨
    (request.taskGraph.WellFormed ∧ ∃ answer after,
      engine.start store surroundings request =
        (⟨answer, after.calls⟩, ⟨after.contextStore, after.events,
          engine.states.set request.taskGraph.graphId after.state⟩) ∧
      holds after) := by
  rcases engine.start_cases store surroundings request with
    ⟨_, raised⟩ | ⟨wellFormed, answer, after, started, outcomes⟩
  · exact .inl raised
  · refine .inr ⟨wellFormed, _, after, started, ?_⟩
    rcases outcomes with ⟨_, _, rfl⟩ | ⟨_, batches, batched, ran⟩
    · exact first wellFormed
    · have last := kept.runBatches batches batched.inside (first wellFormed)
      rwa [ran] at last

end MeshWorkflowEngine

/-- Every node completed with the result of its only successful call, which had the final results of
its dependencies, and every node that ran is approved. -/
structure RanOnce (request : StartRequest) (state : WorkflowState) (calls : List RunnerCall) :
    Prop where
  completed : ∀ node ∈ request.taskGraph.nodes, state.nodeStatus.get? node.nodeId = some .completed
  result : ∀ node ∈ request.taskGraph.nodes, ∃ call ∈ calls, call.node = node ∧ ∃ result,
    call.answer = .ok result ∧ state.nodeResults.get? node.nodeId = some result ∧
    ∀ dependency ∈ node.dependencies, ∃ value, state.nodeResults.get? dependency = some value ∧
      call.payload.dependencyResults.get? dependency = some value
  once : ∀ node ∈ request.taskGraph.nodes,
    ((callsOf node.nodeId calls).filter fun call => call.answer.isOk).length = 1
  bound : ∀ node ∈ request.taskGraph.nodes,
    ((callsOf node.nodeId calls).length : Int) ≤ node.maxRetries + 1
  approved : ∀ call ∈ calls, Approved request call.node

/-- Every node may run and no result of a call holds a key of raw values, for which alone the publication
of plain data fails. -/
structure RunsCleanly (request : StartRequest) (calls : List RunnerCall) : Prop where
  retries : ∀ node ∈ request.taskGraph.nodes, 0 ≤ node.maxRetries
  results : ∀ call ∈ calls, ∀ result, call.answer = .ok result → isRawSensitive result = false

namespace Running

variable {all : List TaskNode} {run : Running State} {state : WorkflowState}

/-- The successful calls of a finished node. -/
theorem Finished.successes {node : TaskNode} {failed : List RunnerCall} {last : RunnerCall}
    {result : PyData} (finished : Finished node run failed last result) :
    ((callsOf node.nodeId run.calls).filter fun call => call.answer.isOk) =
      (failed.filter fun call => call.answer.isOk) ++ [last] := by
  have returned : last.answer.isOk = true := by
    rw [finished.accepted.1]
    rfl
  rw [finished.calls, List.filter_append, List.filter_singleton, returned]
  rfl

/-- A clean run with all nodes done runs each of them once. -/
theorem Progress.ranOnce (progress : Progress request all run) (placed : Placed request all)
    (clean : RunsCleanly request run.calls)
    (results : state.nodeResults = run.state.nodeResults)
    (statuses : state.nodeStatus = run.state.nodeStatus) : RanOnce request state run.calls := by
  have done (node : TaskNode) (member : node ∈ request.taskGraph.nodes) :
      ∃ failed last result, Finished node run failed last result :=
    progress.finished node (placed.perm.mem_iff.mpr member) (clean.retries node member)
  refine ⟨?_, ?_, ?_, ?_, fun call member => progress.approved _ (progress.calls call member)⟩
  · intro node member
    obtain ⟨failed, last, result, finished⟩ := done node member
    rw [statuses]
    exact finished.status
  · intro node member
    obtain ⟨failed, last, result, finished⟩ := done node member
    have called : last ∈ run.calls :=
      List.mem_of_mem_filter (finished.calls ▸ List.mem_append_right _ (.head _))
    refine ⟨last, called, finished.ofNode, result, finished.accepted.1, ?_, ?_⟩
    · rw [results]
      exact finished.result
    · intro dependency listed
      have known := placed.closed (List.append_nil all).symm node
        (placed.perm.mem_iff.mpr member) dependency listed
      obtain ⟨source, sourceMember, rfl⟩ := List.mem_map.mp known
      obtain ⟨_, _, value, sourceFinished⟩ := done source (placed.perm.mem_iff.mp sourceMember)
      refine ⟨value, results ▸ sourceFinished.result, ?_⟩
      rw [finished.dependencies _ listed]
      exact sourceFinished.result
  · intro node member
    obtain ⟨failed, last, result, finished⟩ := done node member
    have none : failed.filter (fun call => call.answer.isOk) = [] := by
      rw [List.filter_eq_nil_iff]
      intro call inside returned
      have called : call ∈ run.calls :=
        List.mem_of_mem_filter (finished.calls ▸ List.mem_append_left _ inside)
      cases answer : call.answer with
      | error error =>
          rw [answer] at returned
          cases returned
      | ok value =>
          have raw := finished.failures call inside value answer
          rw [clean.results call called value answer] at raw
          cases raw
    rw [finished.successes, none]
    rfl
  · intro node member
    obtain ⟨failed, last, result, finished⟩ := done node member
    have bound := finished.bound
    rw [finished.calls, List.length_append, List.length_singleton]
    omega

/-- A run that runs each node once is clean. -/
theorem Progress.runsCleanly (progress : Progress request all run) (placed : Placed request all)
    (statuses : state.nodeStatus = run.state.nodeStatus)
    (ranOnce : RanOnce request state run.calls) : RunsCleanly request run.calls := by
  have retries (node : TaskNode) (member : node ∈ request.taskGraph.nodes) :
      0 ≤ node.maxRetries := by
    by_contra negative
    have untouched := progress.skipped node (placed.perm.mem_iff.mpr member) (by omega)
    have completed := ranOnce.completed node member
    rw [statuses, untouched.status] at completed
    cases completed
  refine ⟨retries, ?_⟩
  intro call member value answer
  have finishedNode := progress.calls call member
  have known := placed.perm.mem_iff.mp finishedNode
  obtain ⟨failed, last, result, finished⟩ := progress.finished _ finishedNode (retries _ known)
  by_contra raw
  rw [Bool.not_eq_false] at raw
  have inside : call ∈ failed := by
    have own : call ∈ callsOf call.node.nodeId run.calls := by simp [callsOf, member]
    rw [finished.calls] at own
    rcases List.mem_append.mp own with earlier | isLast
    · exact earlier
    · obtain rfl := List.mem_singleton.mp isLast
      obtain rfl := Except.ok.inj (answer.symm.trans finished.accepted.1)
      cases raw.symm.trans finished.accepted.2
  have counted : call ∈ failed.filter fun call => call.answer.isOk := by
    rw [List.mem_filter, answer]
    exact ⟨inside, rfl⟩
  have once := ranOnce.once _ known
  rw [finished.successes, List.length_append, List.length_singleton] at once
  have positive := List.length_pos_of_mem counted
  omega

end Running

/-- A completed run ran each node once exactly when it was clean. -/
theorem MeshWorkflowEngine.start_ranOnce_iff (lawful : store.Lawful)
    (engine : MeshWorkflowEngine State) (state : WorkflowState)
    (returned : (engine.start store surroundings request).1.answer = .ok state)
    (completed : state.status = .completed) :
    RanOnce request state (engine.start store surroundings request).1.calls ↔
      RunsCleanly request (engine.start store surroundings request).1.calls := by
  rcases engine.start_cases store surroundings request with
    ⟨_, error, raised⟩ | ⟨wellFormed, answer, after, started, outcomes⟩
  · rw [raised] at returned
    cases returned
  · rw [started] at returned ⊢
    rcases outcomes with ⟨_, ⟨error, rfl⟩, _⟩ | ⟨_, batches, batched, ran⟩
    · cases returned
    · have outcome := runBatches_ended surroundings lawful engine wellFormed batched
      have placed : Placed request batches.flatten :=
        ⟨batched.perm wellFormed, batched.ordered wellFormed⟩
      rw [ran] at outcome
      cases answer with
      | error error => cases returned
      | ok _ =>
          obtain rfl : after.state = state := Except.ok.inj returned
          rcases outcome with ⟨last, progress, rfl⟩ | ⟨done, batch, later, last, _, _, _, rfl⟩
          · have statuses : (last.finish surroundings request).state.nodeStatus =
                last.state.nodeStatus := rfl
            exact ⟨progress.runsCleanly placed statuses,
              fun clean => progress.ranOnce placed clean rfl statuses⟩
          · cases completed

/-- Completed runs of both engines run each node once, exactly when every node may run and the scan
refuses no result. -/
theorem completed_ranOnce_iff {State Value : Type} [Inhabited Value]
    (store : PersistenceStore State) (surroundings : Surroundings)
    (engine : MeshWorkflowEngine State) (request : StartRequest) (state : WorkflowState)
    (isPrintable : Char → Bool) (phase3 : Phase3.WorkflowEngine Value)
    (phase3Request : Phase3.RunRequest Value) (output : Phase3.RunOutput Value) :
    (store.Lawful → (engine.start store surroundings request).1.answer = .ok state →
      state.status = .completed →
      (RanOnce request state (engine.start store surroundings request).1.calls ↔
        RunsCleanly request (engine.start store surroundings request).1.calls)) ∧
    (phase3.runCache.get? (Phase3.WorkflowEngine.cacheKey phase3Request) = none →
      (phase3.run isPrintable phase3Request).1.answer = .ok output →
      (Phase3.WorkflowEngine.RanOnce phase3Request output
          (Phase3.WorkflowEngine.execute isPrintable phase3Request).2.state
          (phase3.run isPrintable phase3Request).1.calls ↔
        ∀ node ∈ phase3Request.nodes, 0 ≤ node.maxRetries)) :=
  ⟨fun lawful returned completed => engine.start_ranOnce_iff lawful state returned completed,
    fun executed returned =>
      Phase3.WorkflowEngine.run_ranOnce_iff phase3 output executed returned⟩

section Example

/-- An engine in memory before its first run. -/
def emptyEngine : MeshWorkflowEngine MemoryPersistenceStore :=
  ⟨⟨none, Dict.empty⟩, [], Dict.empty⟩

/-- Surroundings in which no time passes. -/
def stillSurroundings : Surroundings where
  startedAt := fun _ => ""
  finishedAt := fun _ _ => ""
  updatedAt := fun _ => ""
  latencyMs := fun _ _ => ⟨"0.0", Eq.refl true⟩
  isPrintable := fun _ => true

/-- A graph of one task. -/
def singleRequest (maxRetries : Int) (nodeRunner : List RunnerCall → PyData) : StartRequest where
  taskGraph := ⟨"graph", [⟨"a", "a", none, [], maxRetries, false, []⟩]⟩
  initialPayload := []
  nodeRunner := fun calls _ _ => .ok (nodeRunner calls)
  approvedNodes := []

/-- A runner whose first result holds a token. -/
def leakOnce (calls : List RunnerCall) : PyData :=
  if calls.isEmpty then .dict [("token", .null)] else .null

/-- A single task with a clean result runs once. -/
theorem completed_ranOnce_single :
    ∃ state, (emptyEngine.start MemoryPersistenceStore.backend stillSurroundings
        (singleRequest 0 fun _ => .null)).1.answer = .ok state ∧
      state.status = .completed ∧
      RanOnce (singleRequest 0 fun _ => .null) state
        (emptyEngine.start MemoryPersistenceStore.backend stillSurroundings
          (singleRequest 0 fun _ => .null)).1.calls := by
  refine ⟨_, rfl, rfl, ((completed_ranOnce_iff _ _ _ _ _ (fun _ => true)
    (.new : Phase3.WorkflowEngine Unit)
    ⟨"", "", [], Dict.empty, fun _ _ _ => .ok (), fun _ => ("", "")⟩ ⟨"", "", .completed, [], []⟩).1
      MemoryPersistenceStore.backend_lawful rfl rfl).mpr ⟨?_, ?_⟩⟩
  · intro node member
    obtain rfl := List.mem_singleton.mp member
    decide
  · intro call member result answer
    obtain rfl := List.mem_singleton.mp member
    obtain rfl := Except.ok.inj answer
    rfl

/-- A task with negative retries is not run, and a task whose first result is refused runs twice,
but both workflows complete. -/
theorem completed_not_ranOnce :
    (∃ state, (emptyEngine.start MemoryPersistenceStore.backend stillSurroundings
        (singleRequest (-1) fun _ => .null)).1.answer = .ok state ∧
      state.status = .completed ∧
      ¬ RanOnce (singleRequest (-1) fun _ => .null) state
        (emptyEngine.start MemoryPersistenceStore.backend stillSurroundings
          (singleRequest (-1) fun _ => .null)).1.calls) ∧
    ∃ state, (emptyEngine.start MemoryPersistenceStore.backend stillSurroundings
        (singleRequest 1 leakOnce)).1.answer = .ok state ∧
      state.status = .completed ∧
      ¬ RanOnce (singleRequest 1 leakOnce) state
        (emptyEngine.start MemoryPersistenceStore.backend stillSurroundings
          (singleRequest 1 leakOnce)).1.calls := by
  refine ⟨⟨_, rfl, rfl, ?_⟩, _, rfl, rfl, ?_⟩
  · intro ranOnce
    have completed := ranOnce.completed _ (.head _)
    exact absurd completed (by decide)
  · intro ranOnce
    have once := ranOnce.once _ (.head _)
    exact absurd once (by decide)

end Example

end AgentFabric.Collaboration
