import AgentFabric.Construction.Collaboration.Workflow
import AgentFabric.Construction.Phase3.Workflow
import AgentFabric.Proof.Collaboration.ContextInvariants

namespace AgentFabric.Collaboration
open Precedence NamedGraph Phase3 WorkflowNode

variable (taskGraph : TaskGraph)

/-- The ids of a task graph are distinct and its dependencies are known. -/
def TaskGraph.WellFormed : Prop :=
  NamedGraph.WellFormed TaskNode.nodeId TaskNode.dependencies taskGraph.nodes

/-- The second task names the first one as a dependency. -/
def TaskGraph.DependsOn (dependency id : String) : Prop :=
  ∃ node ∈ taskGraph.nodes, node.nodeId = id ∧ dependency ∈ node.dependencies

def TaskGraph.Cyclic : Prop :=
  ∃ id, Relation.TransGen taskGraph.DependsOn id id

/-- The edges of the dependencies. -/
def TaskGraph.edges : List (String × String) :=
  NamedGraph.edges TaskNode.nodeId TaskNode.dependencies taskGraph.nodes

namespace DependencyGraph

variable {taskGraph : TaskGraph}

theorem cyclic_iff : taskGraph.Cyclic ↔ HasCycle taskGraph.edges := by
  have same : taskGraph.DependsOn = Edge taskGraph.edges := by
    funext dependency id
    exact propext edge_iff.symm
  rw [TaskGraph.Cyclic, same]
  rfl

theorem create_eq_ok_iff (graph : DependencyGraph) :
    create taskGraph = .ok graph ↔ taskGraph.WellFormed ∧ graph = ⟨taskGraph, taskGraph.edges⟩ := by
  rw [create, bind_eq_ok_iff]
  constructor
  · rintro ⟨⟨⟩, checked, returned⟩
    exact ⟨(checkNodes_eq_ok_iff _ _).mp checked, (Except.ok.inj returned).symm⟩
  · rintro ⟨wellFormed, rfl⟩
    exact ⟨(), (checkNodes_eq_ok_iff _ _).mpr wellFormed, rfl⟩

/-- The batches of nodes have the ids that the loop takes. -/
structure Batched (taskGraph : TaskGraph) (batches : List (List TaskNode)) : Prop where
  ids : batches.map (fun batch => batch.map TaskNode.nodeId) =
    Precedence.batches taskGraph.edges (taskGraph.nodes.map TaskNode.nodeId)
  inside : ∀ node ∈ batches.flatten, node ∈ taskGraph.nodes
  complete : batches.flatten.length = taskGraph.nodes.length

/-- The loop returns batches of all nodes or raises for a cycle. -/
theorem topologicalBatches_cases (wellFormed : taskGraph.WellFormed) :
    (¬ taskGraph.Cyclic ∧ ∃ batches,
        topologicalBatches ⟨taskGraph, taskGraph.edges⟩ = .ok batches ∧ Batched taskGraph batches) ∨
      (taskGraph.Cyclic ∧ topologicalBatches ⟨taskGraph, taskGraph.edges⟩ =
        .error (.validationError "task graph contains cycles")) := by
  have distinct := wellFormed.distinct
  have layered := batches_layered taskGraph.edges distinct edge_target
  obtain ⟨batches, returned, ids, inside⟩ := mapM_mapM_byId distinct _ layered.inside
  have complete := batches_complete taskGraph.edges distinct edge_target wellFormed.edge_source
  have lengths : batches.flatten.length =
      (Precedence.batches taskGraph.edges (taskGraph.nodes.map TaskNode.nodeId)).flatten.length := by
    rw [← ids, ← List.map_flatten, List.length_map]
  rw [topologicalBatches]
  simp only [DependencyGraph.ids, returned, bind, Except.bind]
  by_cases cyclic : taskGraph.Cyclic
  · right
    refine ⟨cyclic, if_pos fun same => ?_⟩
    exact complete.mp same (cyclic_iff.mp cyclic)
  · left
    have all := complete.mpr fun cycle => cyclic (cyclic_iff.mpr cycle)
    refine ⟨cyclic, batches, if_neg (not_not.mpr all), ids, inside, ?_⟩
    rw [lengths, all, List.length_map]

namespace Batched

variable {batches : List (List TaskNode)}

section

variable (batched : Batched taskGraph batches)
include batched

theorem flatten_ids :
    batches.flatten.map TaskNode.nodeId =
      (Precedence.batches taskGraph.edges (taskGraph.nodes.map TaskNode.nodeId)).flatten := by
  rw [← batched.ids, ← List.map_flatten]

section

variable (wellFormed : taskGraph.WellFormed)
include wellFormed

theorem layered :
    Layered taskGraph.edges (taskGraph.nodes.map TaskNode.nodeId) []
      (batches.map fun batch => batch.map TaskNode.nodeId) := by
  rw [batched.ids]
  exact batches_layered taskGraph.edges wellFormed.distinct edge_target

/-- The batches in turn have distinct ids behind their dependencies. -/
theorem ordered : Ordered taskGraph.edges [] (batches.flatten.map TaskNode.nodeId) := by
  have ordered := (batched.layered wellFormed).ordered
  rwa [← List.map_flatten] at ordered

/-- The batches have each node once. -/
theorem perm : batches.flatten.Perm taskGraph.nodes := by
  have distinct : batches.flatten.Nodup := (batched.ordered wellFormed).nodup.1.of_map
  exact (distinct.subperm batched.inside).perm_of_length_le (le_of_eq batched.complete.symm)

end

end

variable {batch : List TaskNode} {index : Nat}

/-- A batch has the ids of its place. -/
theorem getElem?_ids (found : batches[index]? = some batch) :
    (batches.map fun batch => batch.map TaskNode.nodeId)[index]? =
      some (batch.map TaskNode.nodeId) := by
  rw [List.getElem?_map, found, Option.map_some]

theorem dependency_earlier (batched : Batched taskGraph batches) (wellFormed : taskGraph.WellFormed)
    (found : batches[index]? = some batch) {node : TaskNode} (member : node ∈ batch)
    {dependency : String} (listed : dependency ∈ node.dependencies) :
    ∃ before < index, ∃ earlier, batches[before]? = some earlier ∧
      ∃ source ∈ earlier, source.nodeId = dependency := by
  have known := batched.inside node (List.mem_flatten.mpr ⟨batch, List.mem_of_getElem? found, member⟩)
  have edge : Edge taskGraph.edges dependency node.nodeId := edge_iff.mpr ⟨node, known, rfl, listed⟩
  rcases (batched.layered wellFormed).source_earlier (getElem?_ids found)
    (List.mem_map_of_mem member) edge with none | ⟨before, less, ids, place, inside⟩
  · cases none
  · rw [List.getElem?_map, Option.map_eq_some_iff] at place
    obtain ⟨earlier, earlierFound, rfl⟩ := place
    obtain ⟨source, sourceMember, same⟩ := List.mem_map.mp inside
    exact ⟨before, less, earlier, earlierFound, source, sourceMember, same⟩

/-- No numbering of the tasks that grows along the dependencies has a task before its batch. -/
theorem earliest (batched : Batched taskGraph batches) (wellFormed : taskGraph.WellFormed)
    (stage : String → Nat)
    (grows : ∀ node ∈ taskGraph.nodes, ∀ dependency ∈ node.dependencies,
      stage dependency < stage node.nodeId) (found : batches[index]? = some batch)
    {node : TaskNode} (member : node ∈ batch) : index ≤ stage node.nodeId := by
  have bound := (batched.layered wellFormed).earliest stage 0 ?_ wellFormed.edge_source (by simp)
    (getElem?_ids found) (List.mem_map_of_mem member)
  · omega
  · intro source target edge
    obtain ⟨other, known, rfl, listed⟩ := edge_iff.mp edge
    exact grows other known source listed

end Batched

end DependencyGraph

/-- Two lists of nodes with the same ids and dependencies. -/
def SameNodes (tasks : List TaskNode) (nodes : List WorkflowNode) : Prop :=
  nodes.map (fun node => (node.nodeId, node.dependencies)) =
    tasks.map fun task => (task.nodeId, task.dependencies)

variable {nodes : List WorkflowNode} {tasks : List TaskNode}

theorem SameNodes.ids (same : SameNodes tasks nodes) :
    nodes.map nodeId = tasks.map TaskNode.nodeId := by
  have firsts := congrArg (List.map Prod.fst) same
  rwa [List.map_map, List.map_map] at firsts

theorem SameNodes.edges (same : SameNodes tasks nodes) :
    NamedGraph.edges nodeId dependencies nodes =
      NamedGraph.edges TaskNode.nodeId TaskNode.dependencies tasks := by
  have mapped := congrArg (List.flatMap fun pair : String × List String =>
    pair.2.map fun dependency => (dependency, pair.1)) same
  rwa [List.flatMap_map, List.flatMap_map] at mapped

theorem SameNodes.wellFormed {taskGraph : TaskGraph}
    (same : SameNodes taskGraph.nodes nodes) (wellFormed : taskGraph.WellFormed) :
    NamedGraph.WellFormed nodeId dependencies nodes where
  distinct := by
    rw [same.ids]
    exact wellFormed.distinct
  known := by
    intro node member dependency listed
    have edge : Edge (NamedGraph.edges nodeId dependencies nodes)
        dependency node.nodeId := edge_iff.mpr ⟨node, member, rfl, listed⟩
    rw [same.edges] at edge
    rw [same.ids]
    exact wellFormed.edge_source dependency node.nodeId edge

/-- A sorted workflow has its ids in the order of the queue. -/
theorem topologicalSort_eq (nodes : List WorkflowNode)
    (wellFormed : NamedGraph.WellFormed nodeId dependencies nodes) :
    ∃ order, order.map nodeId = queueOrder (NamedGraph.edges nodeId dependencies nodes)
        (nodes.map nodeId) ∧
      (∀ node ∈ order, node ∈ nodes) ∧
      WorkflowEngine.topologicalSort nodes =
        if order.length ≠ nodes.length then
          .error (.validationError "workflow graph contains cycles")
        else .ok order := by
  have layered := batches_layered (NamedGraph.edges nodeId dependencies nodes) wellFormed.distinct
    edge_target
  have flatten := batches_flatten (NamedGraph.edges nodeId dependencies nodes) wellFormed.distinct
    edge_target
  obtain ⟨order, returned, ids, inside⟩ := mapM_byId wellFormed.distinct _ (flatten ▸ layered.inside)
  refine ⟨order, ids, inside, ?_⟩
  rw [WorkflowEngine.topologicalSort, (checkNodes_eq_ok_iff _ _).mpr wellFormed]
  have length := congrArg List.length ids
  rw [List.length_map] at length
  simp only [bind, Except.bind, returned, length]

/-- The batches exist exactly without a cycle. They have each task once, behind its dependencies and
as early as possible, and their tasks in turn have the order of the phase 3 sort. -/
theorem topologicalBatches_levels (taskGraph : TaskGraph) (wellFormed : taskGraph.WellFormed)
    (nodes : List WorkflowNode) (same : SameNodes taskGraph.nodes nodes) :
    ∃ graph, DependencyGraph.create taskGraph = .ok graph ∧
      ((∃ batches, graph.topologicalBatches = .ok batches) ↔ ¬ taskGraph.Cyclic) ∧
      (taskGraph.Cyclic → ∃ error, graph.topologicalBatches = .error error) ∧
      ∀ batches, graph.topologicalBatches = .ok batches → batches.flatten.Perm taskGraph.nodes ∧
        (∀ (index : Nat) (batch : List TaskNode), batches[index]? = some batch → ∀ node ∈ batch,
          ∀ dependency ∈ node.dependencies, ∃ before < index, ∃ earlier : List TaskNode,
            batches[before]? = some earlier ∧ ∃ source ∈ earlier, source.nodeId = dependency) ∧
        (∀ stage : String → Nat,
          (∀ node ∈ taskGraph.nodes, ∀ dependency ∈ node.dependencies,
            stage dependency < stage node.nodeId) →
          ∀ (index : Nat) (batch : List TaskNode), batches[index]? = some batch →
            ∀ node ∈ batch, index ≤ stage node.nodeId) ∧
        ∃ order, WorkflowEngine.topologicalSort nodes = .ok order ∧
          order.map nodeId = batches.flatten.map TaskNode.nodeId := by
  refine ⟨⟨taskGraph, taskGraph.edges⟩, (DependencyGraph.create_eq_ok_iff _).mpr ⟨wellFormed, rfl⟩, ?_⟩
  rcases DependencyGraph.topologicalBatches_cases wellFormed with
    ⟨acyclic, batches, returned, batched⟩ | ⟨cyclic, raised⟩
  · refine ⟨iff_of_true ⟨batches, returned⟩ acyclic, fun cyclic => absurd cyclic acyclic, ?_⟩
    intro others answer
    obtain rfl := Except.ok.inj (returned.symm.trans answer)
    refine ⟨batched.perm wellFormed,
      fun index batch found node member dependency =>
        batched.dependency_earlier wellFormed found member,
      fun stage grows index batch found node member =>
        batched.earliest wellFormed stage grows found member, ?_⟩
    obtain ⟨order, ids, _, sorted⟩ := topologicalSort_eq nodes (same.wellFormed wellFormed)
    have agree : order.map nodeId = batches.flatten.map TaskNode.nodeId := by
      rw [ids, same.edges, same.ids, batched.flatten_ids]
      exact (batches_flatten taskGraph.edges wellFormed.distinct edge_target).symm
    have all : order.length = nodes.length := by
      have lengths := congrArg List.length agree
      have count := congrArg List.length same.ids
      simp only [List.length_map] at lengths count
      rw [lengths, batched.complete, count]
    exact ⟨order, sorted.trans (if_neg (not_not.mpr all)), agree⟩
  · refine ⟨iff_of_false ?_ (not_not.mpr cyclic), fun _ => ⟨_, raised⟩, ?_⟩
    · rintro ⟨batches, answer⟩
      cases raised.symm.trans answer
    · intro batches answer
      cases raised.symm.trans answer

/-- A task without retries and approval. -/
def plainTask (nodeId : String) (dependencies : List String) : TaskNode :=
  ⟨nodeId, nodeId, none, dependencies, 0, false, []⟩

/-- Two tasks where the second one names the first one twice. -/
theorem topologicalBatches_levels_pair :
    ∃ graph, DependencyGraph.create ⟨"graph", [plainTask "b" ["a", "a"], plainTask "a" []]⟩ =
        .ok graph ∧
      ((∃ batches, graph.topologicalBatches = .ok batches) ↔
        ¬ TaskGraph.Cyclic ⟨"graph", [plainTask "b" ["a", "a"], plainTask "a" []]⟩) := by
  obtain ⟨graph, created, returns, _⟩ := topologicalBatches_levels
    ⟨"graph", [plainTask "b" ["a", "a"], plainTask "a" []]⟩
    ⟨by decide, by decide⟩ [⟨"b", "b", ["a", "a"], 0⟩, ⟨"a", "a", [], 0⟩] rfl
  exact ⟨graph, created, returns⟩

end AgentFabric.Collaboration

namespace AgentFabric.Collaboration.Running
open Persistence ContextStore

variable {State : Type} (store : PersistenceStore State) (surroundings : Surroundings)
  (request : StartRequest)

/-- What holds after a call that returns and after a call that raises. -/
def Outcome (returns raises : Running State → Prop) : Except PyError Unit × Running State → Prop
  | (.ok (), after) => returns after
  | (.error _, after) => raises after

variable (run : Running State) (node : TaskNode) (attempts : Int)

/-- The run after the call of the runner in an attempt. -/
def called : Running State :=
  ((run.startAttempt surroundings request node attempts).callRunner surroundings request node).2

/-- The answer of the runner in an attempt. -/
def answered : Except PyError PyData :=
  ((run.startAttempt surroundings request node attempts).callRunner surroundings request node).1

/-- The run after a result is published. -/
def publish (result : PyData) (contextStore : ContextStore State) : Running State :=
  let line := trace surroundings request node attempts .completed none run.events.length
  let completed := run.complete surroundings request node attempts result
  ({ completed with contextStore }.append request .task line).append request .taskCompleted
    (line ++ [("result", result)])

/-- A node that needs an approval has one. -/
def Approved : Prop :=
  node.requiresHumanApproval = true → node.nodeId ∈ request.approvedNodes

theorem pendingApproval_eq_nil_iff (batch : List TaskNode) :
    pendingApproval request batch = [] ↔ ∀ node ∈ batch, Approved request node := by
  simp [pendingApproval, Approved, List.filter_eq_nil_iff]

/-- The scan of a published value is the scan of its result. -/
theorem isRawSensitive_publishedValue (result : PyData) :
    isRawSensitive (.dict (publishedValue result)) = isRawSensitive result := by
  have status : isRawKey "status" = false := by decide
  have key : isRawKey "result" = false := by decide
  simp [publishedValue, isRawSensitive, fieldsRawSensitive, status, key]

/-- An attempt fails in the runner, fails at the scan of the result, or publishes the result. -/
theorem attempt_cases (lawful : store.Lawful) (run : Running State) (node : TaskNode)
    (attempts : Int) :
    (∃ error, run.answered surroundings request node attempts = .error error ∧
      run.attempt store surroundings request node attempts =
        (.error error, run.called surroundings request node attempts)) ∨
    (∃ result error, run.answered surroundings request node attempts = .ok result ∧
      isRawSensitive result = true ∧
      run.attempt store surroundings request node attempts =
        (.error error,
          (run.called surroundings request node attempts).complete surroundings request node
            attempts result)) ∨
    (∃ result contextStore, run.answered surroundings request node attempts = .ok result ∧
      isRawSensitive result = false ∧
      Changed store (run.called surroundings request node attempts).contextStore contextStore
        request.taskGraph.graphId
        (let now := surroundings.updatedAt
            (run.called surroundings request node attempts).events.length
        let record := (run.called surroundings request node attempts).contextStore.current
          request.taskGraph.graphId now
        { record with
          taskState := Dict.setItems node.nodeId (.dict (publishedValue result)) record.taskState
          updatedAt := now }) ∧
      run.attempt store surroundings request node attempts =
        (.ok (), (run.called surroundings request node attempts).publish surroundings request node
          attempts result contextStore)) := by
  rcases call : (run.startAttempt surroundings request node attempts).callRunner surroundings
    request node with ⟨answer, after⟩
  have answered : run.answered surroundings request node attempts = answer := congrArg Prod.fst call
  have called : run.called surroundings request node attempts = after := congrArg Prod.snd call
  rw [answered, called]
  unfold attempt
  dsimp only
  rw [call]
  cases answer with
  | error error => exact .inl ⟨error, rfl, rfl⟩
  | ok result =>
      right
      dsimp only
      rcases changeScanned_cases lawful
        (after.complete surroundings request node attempts result).contextStore
        (.dict (publishedValue result)) request.taskGraph.graphId
        (surroundings.updatedAt after.events.length)
        (fun record => { record with
          taskState := Dict.setItems node.nodeId (.dict (publishedValue result)) record.taskState })
        with ⟨raw, error, refused⟩ | ⟨clean, contextStore, accepted, changed⟩
      · left
        rw [isRawSensitive_publishedValue] at raw
        refine ⟨result, error, rfl, raw, ?_⟩
        rw [updateTaskState, refused]
      · right
        rw [isRawSensitive_publishedValue] at clean
        refine ⟨result, contextStore, rfl, clean, changed, ?_⟩
        rw [updateTaskState, accepted]
        rfl

theorem checkpoint_contextStore :
    (run.checkpoint store surroundings request).2.contextStore =
      (run.contextStore.checkpoint store request.taskGraph.graphId run.checkpointId
        (surroundings.updatedAt run.events.length)).2 := by
  unfold checkpoint
  rcases run.contextStore.checkpoint store request.taskGraph.graphId run.checkpointId
    (surroundings.updatedAt run.events.length) with ⟨answer, after⟩
  cases answer <;> rfl

theorem checkpoint_calls : (run.checkpoint store surroundings request).2.calls = run.calls := by
  unfold checkpoint
  rcases run.contextStore.checkpoint store request.taskGraph.graphId run.checkpointId
    (surroundings.updatedAt run.events.length) with ⟨answer, after⟩
  cases answer <;> rfl

section Rules

/-- What holds between the attempts of a node holds before its successful attempt or when it gives
up. -/
theorem retry_outcome (node : TaskNode) (between : Int → Running State → Prop)
    (fails : ∀ attempts run error after, between attempts run →
      run.attempt store surroundings request node (attempts + 1) = (.error error, after) →
        between (attempts + 1) (after.failAttempt surroundings request node (attempts + 1) error))
    (fuel : Nat) (attempts : Int) (run : Running State) (holds : between attempts run)
    (enough : fuel = (node.maxRetries + 1 - attempts).toNat) (positive : 0 < fuel) :
    Outcome
      (fun after => ∃ count before, attempts ≤ count ∧ count ≤ node.maxRetries ∧
        between count before ∧
        before.attempt store surroundings request node (count + 1) = (.ok (), after))
      (fun after => ∃ before, between (node.maxRetries + 1) before ∧ after = before.giveUp node)
      (retry store surroundings request node fuel attempts run) := by
  induction fuel generalizing attempts run with
  | zero => omega
  | succ fuel ih =>
      have bound : attempts ≤ node.maxRetries := by omega
      unfold retry
      rcases tried : run.attempt store surroundings request node (attempts + 1) with
        ⟨answer, after⟩
      cases answer with
      | ok _ => exact ⟨attempts, run, le_refl _, bound, holds, tried⟩
      | error error =>
          have next := fails attempts run error after holds tried
          dsimp only
          split
          · rename_i last
            have final : node.maxRetries + 1 = attempts + 1 := by omega
            exact ⟨_, final ▸ next, rfl⟩
          · rename_i more
            have later := ih (attempts + 1) _ next (by omega) (by omega)
            revert later
            rcases retry store surroundings request node fuel (attempts + 1)
              (after.failAttempt surroundings request node (attempts + 1) error) with
              ⟨answer, last⟩
            cases answer with
            | ok _ =>
                rintro ⟨count, before, lower, upper, facts⟩
                exact ⟨count, before, by omega, upper, facts⟩
            | error raised => exact id

/-- The attempts of one node. -/
theorem runNodeWithRetries_outcome (node : TaskNode) (between : Int → Running State → Prop)
    (fails : ∀ attempts run error after, between attempts run →
      run.attempt store surroundings request node (attempts + 1) = (.error error, after) →
        between (attempts + 1) (after.failAttempt surroundings request node (attempts + 1) error))
    (run : Running State) (holds : between 0 run) :
    Outcome
      (fun after => node.maxRetries < 0 ∧ after = run ∨
        ∃ count before, 0 ≤ count ∧ count ≤ node.maxRetries ∧ between count before ∧
          before.attempt store surroundings request node (count + 1) = (.ok (), after))
      (fun after => 0 ≤ node.maxRetries ∧
        ∃ before, between (node.maxRetries + 1) before ∧ after = before.giveUp node)
      (run.runNodeWithRetries store surroundings request node) := by
  unfold runNodeWithRetries
  by_cases negative : node.maxRetries < 0
  · rw [show (node.maxRetries + 1).toNat = 0 by omega]
    exact .inl ⟨negative, rfl⟩
  · have tried := retry_outcome store surroundings request node between fails
      (node.maxRetries + 1).toNat 0 run holds (by omega) (by omega)
    revert tried
    rcases retry store surroundings request node (node.maxRetries + 1).toNat 0 run with
      ⟨answer, after⟩
    cases answer with
    | ok _ => exact Or.inr
    | error error => exact fun facts => ⟨by omega, facts⟩

variable {store surroundings request} {all : List TaskNode}
  (invariant : List TaskNode → Running State → Prop) (raises : Running State → Prop)

section

variable (step : ∀ done node later run, all = done ++ node :: later → Approved request node →
  invariant done run → Outcome (invariant (done ++ [node])) raises
    (run.runNodeWithRetries store surroundings request node))
include step

/-- An invariant over the finished nodes goes through a batch of approved nodes. -/
theorem runBatch_outcome (batch later done : List TaskNode) (run : Running State)
    (split : all = done ++ batch ++ later) (approved : ∀ node ∈ batch, Approved request node)
    (holds : invariant done run) :
    Outcome (invariant (done ++ batch)) raises (runBatch store surroundings request batch run) := by
  induction batch generalizing done run with
  | nil =>
      rw [List.append_nil]
      exact holds
  | cons node rest ih =>
      have first := step done node (rest ++ later) run (by simpa using split)
        (approved node (.head _)) holds
      unfold runBatch
      revert first
      rcases run.runNodeWithRetries store surroundings request node with ⟨answer, after⟩
      cases answer with
      | error error => exact id
      | ok _ =>
          intro first
          have others := ih (done ++ [node]) after (by simpa using split)
            (fun other member => approved other (.tail _ member)) first
          rwa [List.append_assoc] at others

/-- An invariant over the finished nodes goes through all batches, and the run ends, waits for an
approval or raises. -/
theorem runBatches_outcome
    (checkpoints : ∀ done run, invariant done run →
      Outcome (invariant done) raises (run.checkpoint store surroundings request))
    (batches : List (List TaskNode)) (done : List TaskNode) (run : Running State)
    (split : all = done ++ batches.flatten) (holds : invariant done run) :
    Outcome
      (fun after => (∃ last, invariant all last ∧ after = last.finish surroundings request) ∨
        ∃ finished batch later last, all = finished ++ batch ++ later ∧ invariant finished last ∧
          pendingApproval request batch ≠ [] ∧
          after = last.awaitApproval surroundings request (pendingApproval request batch))
      raises (runBatches store surroundings request batches run) := by
  induction batches generalizing done run with
  | nil =>
      rw [List.flatten_nil, List.append_nil] at split
      exact .inl ⟨run, split ▸ holds, rfl⟩
  | cons batch rest ih =>
      rw [List.flatten_cons, ← List.append_assoc] at split
      unfold runBatches
      by_cases waiting : pendingApproval request batch = []
      · rw [if_neg (not_not.mpr waiting)]
        have ran := runBatch_outcome invariant raises step batch rest.flatten done run split
          ((pendingApproval_eq_nil_iff request batch).mp waiting) holds
        revert ran
        rcases runBatch store surroundings request batch run with ⟨answer, after⟩
        cases answer with
        | error error => exact id
        | ok _ =>
            intro ran
            have saved := checkpoints _ after ran
            revert saved
            dsimp only
            rcases after.checkpoint store surroundings request with ⟨answer, written⟩
            cases answer with
            | error error => exact id
            | ok _ => exact fun saved => ih (done ++ batch) written split saved
      · rw [if_pos waiting]
        exact .inr ⟨done, batch, rest.flatten, run, split, holds, waiting, rfl⟩

end

variable {answer : Except PyError Unit × Running State}

theorem Outcome.and {returns raises more others : Running State → Prop}
    (first : Outcome returns raises answer)
    (second : Outcome more others answer) :
    Outcome (fun after => returns after ∧ more after) (fun after => raises after ∧ others after)
      answer := by
  obtain ⟨result, after⟩ := answer
  cases result with
  | error error => exact ⟨first, second⟩
  | ok _ => exact ⟨first, second⟩

theorem outcome_of_snd {holds : Running State → Prop} (kept : holds answer.2) :
    Outcome holds holds answer := by
  obtain ⟨result, after⟩ := answer
  cases result with
  | error error => exact kept
  | ok _ => exact kept

variable (store surroundings request) in
/-- Every part of a run keeps an invariant. -/
structure KeptByRun (invariant : Running State → Prop) : Prop where
  attempt : ∀ run node attempts, node ∈ request.taskGraph.nodes → invariant run →
    invariant (run.attempt store surroundings request node attempts).2
  failAttempt : ∀ run node attempts error, invariant run →
    invariant (run.failAttempt surroundings request node attempts error)
  giveUp : ∀ run node, invariant run → invariant (run.giveUp node)
  awaitApproval : ∀ run nodes, invariant run →
    invariant (run.awaitApproval surroundings request nodes)
  checkpoint : ∀ run, invariant run → invariant (run.checkpoint store surroundings request).2
  finish : ∀ run, invariant run → invariant (run.finish surroundings request)

namespace KeptByRun

variable {invariant : Running State → Prop}

theorem runNodeWithRetries (kept : KeptByRun store surroundings request invariant)
    {node : TaskNode} (known : node ∈ request.taskGraph.nodes) {run : Running State}
    (holds : invariant run) :
    invariant (run.runNodeWithRetries store surroundings request node).2 := by
  have outcome := runNodeWithRetries_outcome store surroundings request node
    (fun _ => invariant) (by
      intro attempts middle error after before tried
      apply kept.failAttempt
      have next := kept.attempt middle node (attempts + 1) known before
      rwa [tried] at next) run holds
  revert outcome
  rcases run.runNodeWithRetries store surroundings request node with ⟨answer, after⟩
  cases answer with
  | error error =>
      rintro ⟨_, before, earlier, rfl⟩
      exact kept.giveUp before node earlier
  | ok _ =>
      rintro (⟨_, rfl⟩ | ⟨count, before, _, _, earlier, tried⟩)
      · exact holds
      · have next := kept.attempt before node (count + 1) known earlier
        rwa [tried] at next

/-- A run over batches of known nodes keeps the invariant. -/
theorem runBatches (kept : KeptByRun store surroundings request invariant)
    (batches : List (List TaskNode))
    (known : ∀ node ∈ batches.flatten, node ∈ request.taskGraph.nodes) {run : Running State}
    (holds : invariant run) :
    invariant (Running.runBatches store surroundings request batches run).2 := by
  have outcome := runBatches_outcome (fun _ => invariant) invariant
    (fun done node later run split _ holds => outcome_of_snd
      (kept.runNodeWithRetries (known node (by rw [← List.nil_append batches.flatten, split]; simp))
        holds))
    (fun _ run holds => outcome_of_snd (kept.checkpoint run holds)) batches [] run rfl holds
  revert outcome
  rcases Running.runBatches store surroundings request batches run with ⟨answer, after⟩
  cases answer with
  | error error => exact id
  | ok _ =>
      rintro (⟨last, before, rfl⟩ | ⟨_, _, _, last, _, before, _, rfl⟩)
      · exact kept.finish last before
      · exact kept.awaitApproval last _ before

end KeptByRun

end Rules

end AgentFabric.Collaboration.Running
