import AgentFabric.Construction.Collaboration.ContextStore
import AgentFabric.Construction.Events.EventStore
import AgentFabric.Foundation.KahnQueue

namespace AgentFabric.Collaboration

/-- A task of an agent with the ids of the tasks that come before it. -/
structure TaskNode where
  nodeId : String
  agentId : String
  capability : Option String
  dependencies : List String
  maxRetries : Int
  requiresHumanApproval : Bool
  payload : List (String × PyData)

structure TaskGraph where
  graphId : String
  nodes : List TaskNode

/-- A checked task graph with its children and indegrees as a list of edges. -/
structure DependencyGraph where
  taskGraph : TaskGraph
  edges : List (String × String)

namespace DependencyGraph

/-- The constructor refuses repeated ids and unknown dependencies. -/
def create (taskGraph : TaskGraph) : Except PyError DependencyGraph := do
  NamedGraph.checkNodes TaskNode.nodeId TaskNode.dependencies
    "task graph contains duplicate node_id values" taskGraph.nodes
  .ok ⟨taskGraph, NamedGraph.edges TaskNode.nodeId TaskNode.dependencies taskGraph.nodes⟩

variable (graph : DependencyGraph)

/-- The ids in the order of `indegree`. -/
def ids : List String := graph.taskGraph.nodes.map TaskNode.nodeId

/-- The loop takes all ready nodes as one batch and counts the visited nodes. -/
def topologicalBatches : Except PyError (List (List TaskNode)) := do
  let ids := Precedence.batches graph.edges graph.ids
  let batches ← ids.mapM fun batch =>
    batch.mapM (NamedGraph.byId TaskNode.nodeId graph.taskGraph.nodes)
  if ids.flatten.length ≠ graph.ids.length then
    .error (.validationError "task graph contains cycles")
  else .ok batches

end DependencyGraph

open Persistence

inductive NodeStatus where
  | pending | completed | failed | awaitingApproval
  deriving DecidableEq

def NodeStatus.text : NodeStatus → String
  | pending => "pending"
  | completed => "completed"
  | failed => "failed"
  | awaitingApproval => "awaiting_approval"

inductive WorkflowStatus where
  | unknown | pending | running | awaitingApproval | failed | completed
  deriving DecidableEq

def WorkflowStatus.text : WorkflowStatus → String
  | unknown => "unknown"
  | pending => "pending"
  | running => "running"
  | awaitingApproval => "awaiting_approval"
  | failed => "failed"
  | completed => "completed"

/-- The event types of a workflow. -/
inductive WorkflowEventType where
  | workflowStarted | taskStarted | task | taskCompleted | taskFailed | humanApprovalRequested
  | humanApprovalResolved | checkpointCreated | workflow | workflowCompleted
  deriving DecidableEq

/-- An event of a workflow in the event store, with the values as they are in memory. -/
structure WorkflowEvent where
  eventType : WorkflowEventType
  aggregateId : String
  payload : List (String × PyData)
  sequence : Int

structure WorkflowState where
  workflowId : String
  status : WorkflowStatus
  nodeResults : Dict String PyData
  nodeStatus : Dict String NodeStatus
  retryCounters : Dict String Int
  delegatedAssignments : Dict String String
  checkpoints : List String
  traces : List (List (String × PyData))

namespace WorkflowState

variable (state : WorkflowState)

/-- The nodes with one status. -/
def taskIds (status : NodeStatus) : List String :=
  (state.nodeStatus.items.filter fun item => item.2 = status).map Prod.fst

def asDict : List (String × PyData) := [
  ("workflow_id", .str state.workflowId),
  ("status", .str state.status.text),
  ("node_results", .dict state.nodeResults.items),
  ("node_status", .dict (state.nodeStatus.items.map fun item => (item.1, .str item.2.text))),
  ("retry_counters", .dict (state.retryCounters.items.map fun item => (item.1, .int item.2))),
  ("completed_task_ids", .list ((state.taskIds .completed).map .str)),
  ("pending_task_ids", .list ((state.taskIds .pending).map .str)),
  ("failed_task_ids", .list ((state.taskIds .failed).map .str)),
  ("delegated_assignments",
    .dict (state.delegatedAssignments.items.map fun item => (item.1, .str item.2))),
  ("checkpoints", .list (state.checkpoints.map .str)),
  ("traces", .list (state.traces.map .dict))]

end WorkflowState

/-- What a node runner receives. -/
structure NodePayload where
  workflowId : String
  nodeId : String
  initialPayload : List (String × PyData)
  nodePayload : List (String × PyData)
  dependencyResults : Dict String PyData
  sharedContext : PyData

/-- One call of the node runner with its answer. -/
structure RunnerCall where
  node : TaskNode
  payload : NodePayload
  answer : Except PyError PyData

/-- The arguments of a sequential run. The runner may remember its earlier calls.
It writes nothing into the dicts that it shares with the record of the run, and it returns plain data,
which `update_task_state` and `append` can copy, hash and write. -/
structure StartRequest where
  taskGraph : TaskGraph
  initialPayload : List (String × PyData)
  nodeRunner : List RunnerCall → TaskNode → NodePayload → Except PyError PyData
  approvedNodes : List String

/-- The times that a run reads after a number of events, and what is printable. -/
structure Surroundings where
  startedAt : Nat → String
  finishedAt : NodeStatus → Nat → String
  updatedAt : Nat → String
  latencyMs : NodeStatus → Nat → FloatRepr
  isPrintable : Char → Bool

/-- A run with its state, the stores of its engine and the calls that it made. -/
structure Running (State : Type) where
  state : WorkflowState
  contextStore : ContextStore State
  events : List WorkflowEvent
  calls : List RunnerCall

structure MeshWorkflowEngine (State : Type) where
  contextStore : ContextStore State
  events : List WorkflowEvent
  states : Dict String WorkflowState

namespace StartRequest

variable (request : StartRequest) (surroundings : Surroundings)

/-- A text of the initial payload, or None for an empty value. -/
def payloadText (key : String) : Option String :=
  match PyData.field? request.initialPayload key with
  | none => none
  | some value => if value.truthy then some (value.text surroundings.isPrintable) else none

/-- The two fields that most events carry. -/
def ownerFields : List (String × PyData) := [
  ("tenant_id", PyData.optionalText (request.payloadText surroundings "tenant_id")),
  ("organization_id", PyData.optionalText (request.payloadText surroundings "organization_id"))]

def nodeFields (node : TaskNode) : List (String × PyData) := [
  ("node_id", .str node.nodeId),
  ("agent_id", .str node.agentId),
  ("capability", PyData.optionalText node.capability),
  ("dependencies", .list (node.dependencies.map .str)),
  ("max_retries", .int node.maxRetries),
  ("requires_human_approval", .bool node.requiresHumanApproval),
  ("payload", .dict node.payload)]

def startedPayload : List (String × PyData) :=
  ("status", .str "started") :: request.ownerFields surroundings ++ [
    ("task_graph", .dict [
      ("graph_id", .str request.taskGraph.graphId),
      ("nodes", .list (request.taskGraph.nodes.map fun node => .dict (nodeFields node)))]),
    ("initial_payload", .dict request.initialPayload)]

def requestedPayload (nodes : List TaskNode) : List (String × PyData) :=
  ("status", .str "awaiting_approval") :: request.ownerFields surroundings ++
    [("nodes", .list (nodes.map fun node => .str node.nodeId))]

def checkpointPayload (checkpointId : String) (state : WorkflowState) (snapshot : PyData) :
    List (String × PyData) :=
  ("checkpoint_id", .str checkpointId) :: request.ownerFields surroundings ++ [
    ("workflow_state", .dict state.asDict),
    ("shared_context", snapshot)]

end StartRequest

namespace Running

variable {State : Type} (store : PersistenceStore State) (surroundings : Surroundings)
  (request : StartRequest) (run : Running State)

/-- The append of an event of the workflow. -/
def append (eventType : WorkflowEventType) (payload : List (String × PyData)) : Running State :=
  { run with
    events := run.events ++
      [⟨eventType, request.taskGraph.graphId, payload, run.events.length + 1⟩] }

/-- The start of an attempt sets the counter of the node. -/
def startAttempt (node : TaskNode) (attempts : Int) : Running State :=
  let counted := { run with
    state := { run.state with
      retryCounters := run.state.retryCounters.set node.nodeId attempts } }
  counted.append request .taskStarted ([
    ("node_id", .str node.nodeId),
    ("agent_id", .str node.agentId),
    ("attempt", .int attempts)] ++ request.ownerFields surroundings)

/-- The results of the dependencies that have one. -/
def dependencyResults (state : WorkflowState) (node : TaskNode) : Dict String PyData :=
  Dict.empty.setAll (node.dependencies.filterMap fun dependency =>
    (state.nodeResults.get? dependency).map fun result => (dependency, result))

/-- The call of the runner with the payload of the node. -/
def callRunner (node : TaskNode) : Except PyError PyData × Running State :=
  let (record, contextStore) := run.contextStore.getOrCreate request.taskGraph.graphId
    (surroundings.updatedAt run.events.length)
  let payload : NodePayload := {
    workflowId := request.taskGraph.graphId
    nodeId := node.nodeId
    initialPayload := request.initialPayload
    nodePayload := node.payload
    dependencyResults := dependencyResults run.state node
    sharedContext := record.snapshot }
  let answer := request.nodeRunner run.calls node payload
  (answer, { run with contextStore, calls := run.calls ++ [⟨node, payload, answer⟩] })

/-- The line of an attempt that ends after the given number of events. -/
def trace (node : TaskNode) (attempts : Int) (status : NodeStatus) (error : Option String)
    (count : Nat) : List (String × PyData) :=
  [("node_id", .str node.nodeId),
    ("agent_id", .str node.agentId),
    ("attempt", .int attempts),
    ("status", .str status.text)] ++
  (error.map fun text => ("error", .str text)).toList ++
  [("started_at", .str (surroundings.startedAt (count - 1))),
    ("finished_at", .str (surroundings.finishedAt status count)),
    ("latency_ms", .float (surroundings.latencyMs status count))] ++
  request.ownerFields surroundings

/-- A returned result completes the node in the state of the workflow. -/
def complete (node : TaskNode) (attempts : Int) (result : PyData) : Running State :=
  { run with
    state := { run.state with
      nodeResults := run.state.nodeResults.set node.nodeId result
      nodeStatus := run.state.nodeStatus.set node.nodeId .completed
      traces := run.state.traces ++
        [trace surroundings request node attempts .completed none run.events.length] } }

/-- The update of the shared context with a result. -/
def publishedValue (result : PyData) : List (String × PyData) :=
  [("status", .str "completed"), ("result", result)]

/-- The body of the `try` block publishes the result after the node is completed. -/
def attempt (node : TaskNode) (attempts : Int) : Except PyError Unit × Running State :=
  let started := run.startAttempt surroundings request node attempts
  match started.callRunner surroundings request node with
  | (.error exception, called) => (.error exception, called)
  | (.ok result, called) =>
      let completed := called.complete surroundings request node attempts result
      match completed.contextStore.updateTaskState store request.taskGraph.graphId node.nodeId
          (publishedValue result) (surroundings.updatedAt called.events.length) with
      | (.error exception, contextStore) => (.error exception, { completed with contextStore })
      | (.ok (), contextStore) =>
          let line := trace surroundings request node attempts .completed none called.events.length
          let published := { completed with contextStore }.append request .task line
          (.ok (), published.append request .taskCompleted (line ++ [("result", result)]))

/-- The `except` block leaves a trace and two events. -/
def failAttempt (node : TaskNode) (attempts : Int) (exception : PyError) : Running State :=
  let line := trace surroundings request node attempts .failed
    (some (exception.text surroundings.isPrintable)) run.events.length
  let traced := { run with state := { run.state with traces := run.state.traces ++ [line] } }
  (traced.append request .task line).append request .taskFailed line

/-- The last failed attempt fails the node and the workflow. -/
def giveUp (node : TaskNode) : Running State :=
  { run with
    state := { run.state with
      nodeStatus := run.state.nodeStatus.set node.nodeId .failed
      status := .failed } }

/-- The loop of the attempts of one node, which ends at the latest when the counter passes
`max_retries`. -/
def retry (node : TaskNode) : Nat → Int → Running State → Except PyError Unit × Running State
  | 0, _, run => (.ok (), run)
  | fuel + 1, attempts, run =>
      match run.attempt store surroundings request node (attempts + 1) with
      | (.ok (), after) => (.ok (), after)
      | (.error exception, after) =>
          let failed := after.failAttempt surroundings request node (attempts + 1) exception
          if attempts + 1 > node.maxRetries then
            (.error (.conflictError ("workflow failed at " ++ node.nodeId ++ ": " ++
              exception.text surroundings.isPrintable)), failed.giveUp node)
          else retry node fuel (attempts + 1) failed

def runNodeWithRetries (node : TaskNode) : Except PyError Unit × Running State :=
  retry store surroundings request node (node.maxRetries + 1).toNat 0 run

/-- The nodes of a batch run one after the other. -/
def runBatch : List TaskNode → Running State → Except PyError Unit × Running State
  | [], run => (.ok (), run)
  | node :: rest, run =>
      match run.runNodeWithRetries store surroundings request node with
      | (.error exception, after) => (.error exception, after)
      | (.ok (), after) => runBatch rest after

/-- The nodes of a batch that wait for an approval. -/
def pendingApproval (batch : List TaskNode) : List TaskNode :=
  batch.filter fun node => node.requiresHumanApproval && node.nodeId ∉ request.approvedNodes

/-- The run stops at nodes that are not approved. -/
def awaitApproval (nodes : List TaskNode) : Running State :=
  let state := { run.state with
    nodeStatus := run.state.nodeStatus.setAll
      (nodes.map fun node => (node.nodeId, NodeStatus.awaitingApproval))
    status := .awaitingApproval }
  { run with state }.append request .humanApprovalRequested
    (request.requestedPayload surroundings nodes)

/-- The id of the next checkpoint counts the checkpoints of the run. -/
def checkpointId : String :=
  "batch-" ++ toString (run.state.checkpoints.length + 1)

/-- The checkpoint after a batch. -/
def checkpoint : Except PyError Unit × Running State :=
  match run.contextStore.checkpoint store request.taskGraph.graphId run.checkpointId
      (surroundings.updatedAt run.events.length) with
  | (.error exception, contextStore) => (.error exception, { run with contextStore })
  | (.ok snapshot, contextStore) =>
      let state := { run.state with checkpoints := run.state.checkpoints ++ [run.checkpointId] }
      (.ok (), { run with state, contextStore }.append request .checkpointCreated
        (request.checkpointPayload surroundings run.checkpointId state snapshot))

/-- The end of a run with all batches. -/
def finish : Running State :=
  let completed := { run with state := { run.state with status := .completed } }
  let noted := completed.append request .workflow
    (("status", .str "completed") :: request.ownerFields surroundings)
  noted.append request .workflowCompleted
    (PyData.update completed.state.asDict (request.ownerFields surroundings))

/-- Each batch waits for its approvals, runs and makes a checkpoint. -/
def runBatches : List (List TaskNode) → Running State → Except PyError Unit × Running State
  | [], run => (.ok (), run.finish surroundings request)
  | batch :: rest, run =>
      if pendingApproval request batch ≠ [] then
        (.ok (), run.awaitApproval surroundings request (pendingApproval request batch))
      else
        match runBatch store surroundings request batch run with
        | (.error exception, after) => (.error exception, after)
        | (.ok (), after) =>
            match after.checkpoint store surroundings request with
            | (.error exception, written) => (.error exception, written)
            | (.ok (), written) => runBatches rest written

end Running

/-- What a caller sees of a run: the state that `as_dict` shows and the calls of the runner. -/
structure StartResponse where
  answer : Except PyError WorkflowState
  calls : List RunnerCall

namespace MeshWorkflowEngine

variable {State : Type} (store : PersistenceStore State) (surroundings : Surroundings)

/-- The state of a workflow before its first batch. -/
def initialState (taskGraph : TaskGraph) : WorkflowState where
  workflowId := taskGraph.graphId
  status := .running
  nodeResults := Dict.empty
  nodeStatus := Dict.empty.setAll (taskGraph.nodes.map fun node => (node.nodeId, .pending))
  retryCounters := Dict.empty
  delegatedAssignments :=
    Dict.empty.setAll (taskGraph.nodes.map fun node => (node.nodeId, node.agentId))
  checkpoints := []
  traces := []

variable (engine : MeshWorkflowEngine State) (request : StartRequest)

/-- The initial payload enters the conversation of the record in memory. -/
def openContext : ContextStore State :=
  let (record, created) := engine.contextStore.getOrCreate request.taskGraph.graphId
    (surroundings.updatedAt engine.events.length)
  { created with
    records := created.records.set request.taskGraph.graphId
      { record with
        conversationState := PyData.update record.conversationState request.initialPayload } }

/-- A run before its first batch. -/
def initialRun : Running State :=
  let run : Running State := {
    state := initialState request.taskGraph
    contextStore := engine.openContext surroundings request
    events := engine.events
    calls := [] }
  run.append request .workflowStarted (request.startedPayload surroundings)

/-- The run of a checked graph, which raises at a cycle after its first event. -/
def runGraph (graph : DependencyGraph) : Except PyError Unit × Running State :=
  match graph.topologicalBatches with
  | .error exception => (.error exception, engine.initialRun surroundings request)
  | .ok batches =>
      Running.runBatches store surroundings request batches (engine.initialRun surroundings request)

/-- The sequential run of a task graph. -/
def start : StartResponse × MeshWorkflowEngine State :=
  match DependencyGraph.create request.taskGraph with
  | .error exception => (⟨.error exception, []⟩, engine)
  | .ok graph =>
      let (answer, after) := engine.runGraph store surroundings request graph
      (⟨answer.map fun _ => after.state, after.calls⟩,
        ⟨after.contextStore, after.events, engine.states.set request.taskGraph.graphId after.state⟩)

end MeshWorkflowEngine

end AgentFabric.Collaboration
