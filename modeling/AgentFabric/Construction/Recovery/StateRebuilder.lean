import AgentFabric.Construction.Collaboration.Workflow

namespace AgentFabric.Recovery.CheckpointLoader
open Collaboration Persistence Sorting

variable {State : Type} (store : KeyedStore State) (persistence : State) (workflowId : String)

/-- The key starts with the workflow and a colon. -/
def matchesWorkflow (key : String) : Bool := (workflowId ++ ":").toList.isPrefixOf key.toList

/-- The keys of the workflow, as its loader selects them. -/
def matching : List String :=
  (store.keys persistence "checkpoints").filter (matchesWorkflow workflowId)

/-- The document under the last of the sorted keys. -/
def latest : Option Json :=
  match (sortedBy id (matching store persistence workflowId)).getLast? with
  | none => none
  | some key => store.get persistence "checkpoints" key

end AgentFabric.Recovery.CheckpointLoader

namespace AgentFabric.Recovery
open Collaboration Sorting

/-- The variables of the loop over the events. -/
structure Rebuilding where
  status : WorkflowStatus
  nodeResults : Dict String PyData
  nodeStatus : Dict String NodeStatus
  retryCounters : Dict String Int
  checkpoints : List String
  delegatedAssignments : Dict String String
  traces : List (List (String × PyData))
  completed : List String
  failed : List String
  started : List String

/-- The state that the rebuilder returns. -/
structure RebuiltWorkflow where
  workflowId : String
  status : WorkflowStatus
  nodeResults : Dict String PyData
  nodeStatus : Dict String NodeStatus
  retryCounters : Dict String Int
  completedTaskIds : List String
  pendingTaskIds : List String
  failedTaskIds : List String
  checkpoints : List String
  delegatedAssignments : Dict String String
  traces : List (List (String × PyData))

namespace StateRebuilder

/-- The variables before the first event. -/
def initial : Rebuilding where
  status := .unknown
  nodeResults := Dict.empty
  nodeStatus := Dict.empty
  retryCounters := Dict.empty
  checkpoints := []
  delegatedAssignments := Dict.empty
  traces := []
  completed := []
  failed := []
  started := []

section Payload

variable (interpreter : Interpreter) (payload : List (String × PyData))

/-- `str` of a required field. -/
def requiredText (key : String) : Except PyError String :=
  match PyData.field? payload key with
  | none => .error (.keyError key)
  | some value => .ok (value.text interpreter.isPrintable)

/-- `int` of the attempt, which is 1 when it is missing. -/
def attempt : Except PyError Int :=
  match PyData.field? payload "attempt" with
  | none => .ok 1
  | some value => interpreter.int value.toJson

/-- The ids of the field `nodes`. -/
def nodeIds : Except PyError (List String) := do
  let nodes ← PyData.listField payload "nodes" (.ok [])
  .ok (nodes.map (PyData.text interpreter.isPrintable))

/-- The id and the agent of a node of the started graph. -/
def graphNode : PyData → Except PyError (String × String)
  | .dict fields => do
      let nodeId ← requiredText interpreter fields "node_id"
      let agentId ← requiredText interpreter fields "agent_id"
      .ok (nodeId, agentId)
  | _ => .error (.typeError "a dict is required")

def graphNodes : Except PyError (List (String × String)) := do
  let graph ← PyData.dictField payload "task_graph" (.ok [])
  let nodes ← PyData.listField graph "nodes" (.ok [])
  nodes.mapM (graphNode interpreter)

end Payload

/-- A failed node is marked unless it completed before. -/
def markFailed (current : Rebuilding) (nodeId : String) : Rebuilding :=
  if nodeId ∈ current.completed then current
  else { current with
    failed := current.failed.insert nodeId
    nodeStatus := current.nodeStatus.set nodeId .failed }

variable (interpreter : Interpreter)

/-- One event of the loop. -/
def applyEvent (current : Rebuilding) (event : WorkflowEvent) : Except PyError Rebuilding :=
  let payload := event.payload
  match event.eventType with
  | .workflowStarted => do
      let nodes ← graphNodes interpreter payload
      .ok { current with
        status := .running
        nodeStatus := current.nodeStatus.setAll (nodes.map fun node => (node.1, .pending))
        delegatedAssignments := current.delegatedAssignments.setAll nodes }
  | .taskStarted => do
      let nodeId ← requiredText interpreter payload "node_id"
      let attempts ← attempt interpreter payload
      .ok { current with
        started := current.started.insert nodeId
        retryCounters := current.retryCounters.set nodeId attempts }
  | .taskCompleted => do
      let nodeId ← requiredText interpreter payload "node_id"
      .ok { current with
        completed := current.completed.insert nodeId
        failed := current.failed.filter (· ≠ nodeId)
        nodeStatus := current.nodeStatus.set nodeId .completed
        nodeResults :=
          match PyData.field? payload "result" with
          | none => current.nodeResults
          | some result => current.nodeResults.set nodeId result
        traces := current.traces ++ [payload] }
  | .taskFailed => do
      let nodeId ← requiredText interpreter payload "node_id"
      let attempts ← attempt interpreter payload
      let marked := markFailed current nodeId
      .ok { marked with
        retryCounters := marked.retryCounters.set nodeId attempts
        traces := marked.traces ++ [payload] }
  | .humanApprovalRequested => do
      let nodes ← nodeIds interpreter payload
      .ok { current with
        status := .awaitingApproval
        nodeStatus := current.nodeStatus.setAll (nodes.map fun node => (node, .awaitingApproval)) }
  | .humanApprovalResolved => do
      let nodes ← nodeIds interpreter payload
      .ok { current with
        nodeStatus := current.nodeStatus.setAll (nodes.map fun node => (node, .pending))
        status := .running }
  | .checkpointCreated => do
      let checkpointId ← requiredText interpreter payload "checkpoint_id"
      .ok { current with checkpoints := current.checkpoints ++ [checkpointId] }
  | .workflowCompleted => .ok { current with status := .completed }
  | .workflow =>
      match PyData.field? payload "status" with
      | some (.str "completed") => .ok { current with status := .completed }
      | _ => .ok current
  | .task => .ok current

variable (workflowId : String)

/-- The state after the last event. -/
def finish (last : Rebuilding) : RebuiltWorkflow where
  workflowId := workflowId
  status := if last.status = .unknown ∧ last.started ≠ [] then .running else last.status
  nodeResults := last.nodeResults
  nodeStatus := last.nodeStatus
  retryCounters := last.retryCounters
  completedTaskIds := sortedBy id last.completed
  pendingTaskIds := sortedBy id ((last.nodeStatus.items.map Prod.fst).filter fun nodeId =>
    nodeId ∉ last.completed ∧ nodeId ∉ last.failed)
  failedTaskIds := sortedBy id (last.failed.filter fun nodeId => nodeId ∉ last.completed)
  checkpoints := last.checkpoints
  delegatedAssignments := last.delegatedAssignments
  traces := last.traces

variable (events : List WorkflowEvent)

/-- The loop takes the events in the order of their sequence. -/
def rebuildWorkflow : Except PyError RebuiltWorkflow := do
  let last ← (sortedBy WorkflowEvent.sequence events).foldlM (applyEvent interpreter) initial
  .ok (finish workflowId last)

/-- The events of one workflow in the event store. -/
def replay (workflowId : String) : List WorkflowEvent :=
  events.filter fun event => event.aggregateId = workflowId

end StateRebuilder

end AgentFabric.Recovery
