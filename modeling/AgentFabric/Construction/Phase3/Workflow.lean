import AgentFabric.Foundation.KahnQueue
import AgentFabric.Foundation.PyData

namespace AgentFabric.Phase3

/-- A node of a workflow with the ids of the nodes that come before it. -/
structure WorkflowNode where
  nodeId : String
  agentName : String
  dependencies : List String
  maxRetries : Int

inductive NodeStatus where
  | pending | completed | failed
  deriving DecidableEq

/-- The state of one node, whose result is None until it completes. -/
structure NodeState (Value : Type) where
  attempts : Int
  status : NodeStatus
  result : Value
  error : Option String

/-- The line of one attempt. -/
structure Trace where
  nodeId : String
  agentName : String
  attempt : Int
  status : NodeStatus
  error : Option String
  startedAt : String
  finishedAt : String

structure NodeInput (Value : Type) where
  workflowId : String
  nodeId : String
  context : Dict String Value
  dependencyResults : Dict String Value

/-- One call of the node runner with its answer. -/
structure RunnerCall (Value : Type) where
  node : WorkflowNode
  input : NodeInput Value
  answer : Except PyError Value

/-- The arguments of a run. The runner may remember its earlier calls, and the clock gives the two
times of each attempt. -/
structure RunRequest (Value : Type) where
  workflowId : String
  idempotencyKey : String
  nodes : List WorkflowNode
  initialPayload : Dict String Value
  nodeRunner : List (RunnerCall Value) → WorkflowNode → NodeInput Value → Except PyError Value
  clock : Nat → String × String

structure RunOutput (Value : Type) where
  workflowId : String
  idempotencyKey : String
  status : NodeStatus
  nodeResults : List (String × Value)
  traces : List Trace

/-- The local variables of a run and the calls that it made. -/
structure RunState (Value : Type) where
  state : Dict String (NodeState Value)
  traces : List Trace
  context : Dict String Value
  calls : List (RunnerCall Value)

/-- The engine keeps the output of each completed run. -/
structure WorkflowEngine (Value : Type) where
  runCache : Dict String (RunOutput Value)

namespace WorkflowEngine

variable {Value : Type}

/-- An engine before its first run. -/
def new : WorkflowEngine Value := ⟨Dict.empty⟩

/-- The loop takes the node at the head of the queue. -/
def topologicalSort (nodes : List WorkflowNode) : Except PyError (List WorkflowNode) := do
  NamedGraph.checkNodes WorkflowNode.nodeId WorkflowNode.dependencies
    "workflow has duplicate node_id values" nodes
  let orderedIds := Precedence.queueOrder
    (NamedGraph.edges WorkflowNode.nodeId WorkflowNode.dependencies nodes)
    (nodes.map WorkflowNode.nodeId)
  if orderedIds.length ≠ nodes.length then
    .error (.validationError "workflow graph contains cycles")
  else orderedIds.mapM (NamedGraph.byId WorkflowNode.nodeId nodes)

section Run

variable (isPrintable : Char → Bool) (request : RunRequest Value) (run : RunState Value)

/-- The result of a dependency under its id. -/
def dependencyResult (dependency : String) : Except PyError (String × Value) :=
  match run.state.get? dependency with
  | none => .error (.keyError dependency)
  | some nodeState => .ok (dependency, nodeState.result)

/-- The input of an attempt reads the result of each dependency. -/
def nodeInput (node : WorkflowNode) : Except PyError (NodeInput Value) := do
  let results ← node.dependencies.mapM (dependencyResult run)
  .ok {
    workflowId := request.workflowId
    nodeId := node.nodeId
    context := run.context
    dependencyResults := Dict.empty.setAll results }

/-- The call of the runner with the input of the node. -/
def callRunner (node : WorkflowNode) : Except PyError Value × RunState Value :=
  match nodeInput request run node with
  | .error exception => (.error exception, run)
  | .ok input =>
      let answer := request.nodeRunner run.calls node input
      (answer, { run with calls := run.calls ++ [⟨node, input, answer⟩] })

/-- A new attempt raises the counter of the node. -/
def startAttempt (node : WorkflowNode) (nodeState : NodeState Value) : RunState Value :=
  { run with
    state := run.state.set node.nodeId { nodeState with attempts := nodeState.attempts + 1 } }

def trace (node : WorkflowNode) (attempt : Int) (status : NodeStatus)
    (error : Option String) : Trace :=
  let (startedAt, finishedAt) := request.clock run.traces.length
  { nodeId := node.nodeId, agentName := node.agentName, attempt, status, error, startedAt,
    finishedAt }

/-- A returned result completes the node and enters the context. -/
def complete (node : WorkflowNode) (nodeState : NodeState Value)
    (result : Value) : RunState Value :=
  let attempts := nodeState.attempts + 1
  { run with
    state := run.state.set node.nodeId
      { nodeState with attempts, result, status := .completed }
    context := run.context.set node.nodeId result
    traces := run.traces ++ [trace request run node attempts .completed none] }

/-- A raised exception leaves a trace. -/
def fail (node : WorkflowNode) (nodeState : NodeState Value) (error : String) : RunState Value :=
  { run with
    traces := run.traces ++ [trace request run node (nodeState.attempts + 1) .failed (some error)] }

/-- The last failed attempt fails the node. -/
def giveUp (node : WorkflowNode) (nodeState : NodeState Value) (error : String) : RunState Value :=
  { run with
    state := run.state.set node.nodeId
      { nodeState with attempts := nodeState.attempts + 1, status := .failed, error := some error } }

/-- The loop of the attempts of one node, which ends at the latest when the counter passes
`max_retries`. -/
def attempt (node : WorkflowNode) : Nat → NodeState Value → RunState Value →
    Except PyError Unit × RunState Value
  | 0, _, run => (.ok (), run)
  | fuel + 1, nodeState, run =>
      match callRunner request (startAttempt run node nodeState) node with
      | (.ok result, called) => (.ok (), complete request called node nodeState result)
      | (.error exception, called) =>
          let error := exception.text isPrintable
          let failed := fail request called node nodeState error
          if nodeState.attempts + 1 > node.maxRetries then
            (.error (.conflictError ("workflow failed at " ++ node.nodeId ++ ": " ++ error)),
              giveUp failed node nodeState error)
          else attempt node fuel { nodeState with attempts := nodeState.attempts + 1 } failed

/-- The nodes run one after the other. -/
def runNodes : List WorkflowNode → RunState Value → Except PyError Unit × RunState Value
  | [], run => (.ok (), run)
  | node :: rest, run =>
      match run.state.get? node.nodeId with
      | none => (.error (.keyError node.nodeId), run)
      | some nodeState =>
          match attempt isPrintable request node (node.maxRetries + 1).toNat nodeState run with
          | (.error exception, after) => (.error exception, after)
          | (.ok (), after) => runNodes rest after

/-- The variables before the first node. -/
def initialRun [Inhabited Value] (orderedNodes : List WorkflowNode) : RunState Value where
  state := Dict.empty.setAll
    (orderedNodes.map fun node => (node.nodeId, ⟨0, .pending, default, none⟩))
  traces := []
  context := request.initialPayload
  calls := []

def output : RunOutput Value where
  workflowId := request.workflowId
  idempotencyKey := request.idempotencyKey
  status := .completed
  nodeResults := run.state.items.map fun item => (item.1, item.2.result)
  traces := run.traces

/-- The run without the cache. -/
def execute [Inhabited Value] : Except PyError (RunOutput Value) × RunState Value :=
  match topologicalSort request.nodes with
  | .error exception => (.error exception, initialRun request [])
  | .ok orderedNodes =>
      match runNodes isPrintable request orderedNodes (initialRun request orderedNodes) with
      | (.error exception, after) => (.error exception, after)
      | (.ok (), after) => (.ok (output request after), after)

/-- The text under which the cache keeps a run. -/
def cacheKey : String := request.workflowId ++ ":" ++ request.idempotencyKey

end Run

/-- What a caller sees of a run. -/
structure RunResponse (Value : Type) where
  answer : Except PyError (RunOutput Value)
  calls : List (RunnerCall Value)

/-- A cached output is returned at once and a completed run is cached. -/
def run [Inhabited Value] (isPrintable : Char → Bool) (engine : WorkflowEngine Value)
    (request : RunRequest Value) : RunResponse Value × WorkflowEngine Value :=
  match engine.runCache.get? (cacheKey request) with
  | some output => (⟨.ok output, []⟩, engine)
  | none =>
      match execute isPrintable request with
      | (.error exception, after) => (⟨.error exception, after.calls⟩, engine)
      | (.ok output, after) =>
          (⟨.ok output, after.calls⟩, ⟨engine.runCache.set (cacheKey request) output⟩)

end WorkflowEngine

end AgentFabric.Phase3
