import AgentFabric.Proof.Collaboration.RunSteps

namespace AgentFabric.Phase3.WorkflowEngine
open Transition

variable {Value : Type} [Inhabited Value] (isPrintable : Char → Bool)
  (requests : List (RunRequest Value))

/-- The engine after a sequence of runs. -/
def reached : WorkflowEngine Value :=
  Transition.run (run isPrintable) new requests

/-- The runs with their responses, oldest first. -/
def history : List (RunRequest Value × RunResponse Value) :=
  requests.zip (responses (run isPrintable) new requests)

/-- What the next run after a sequence of runs returns. -/
def nextResponse (request : RunRequest Value) : RunResponse Value :=
  (run isPrintable (reached isPrintable requests) request).1

/-- The two runs name the same workflow and the same idempotency key. -/
def SamePair (first second : RunRequest Value) : Prop :=
  first.workflowId = second.workflowId ∧ first.idempotencyKey = second.idempotencyKey

variable (earlier : List (RunRequest Value))

/-- A run of a completed pair returns its output without a call of a runner, and a run of another pair
is the run of a fresh engine. -/
def IdempotentStep (request : RunRequest Value) : Prop :=
  (∀ past ∈ history isPrintable earlier, SamePair past.1 request → ∀ output,
    past.2.answer = .ok output → nextResponse isPrintable earlier request = ⟨.ok output, []⟩) ∧
  ((∀ past ∈ history isPrintable earlier, SamePair past.1 request → ∀ output,
    past.2.answer ≠ .ok output) →
      nextResponse isPrintable earlier request = nextResponse isPrintable [] request)

/-- Every run of a sequence is idempotent after the runs before it. -/
def Idempotent : Prop :=
  ∀ earlier request later, requests = earlier ++ request :: later →
    IdempotentStep isPrintable earlier request

/-- No run of a sequence shares its joined text with a completed run of another pair before it. -/
def Unambiguous : Prop :=
  ∀ earlier request later, requests = earlier ++ request :: later →
    ∀ past ∈ history isPrintable earlier, ∀ output, past.2.answer = .ok output →
      cacheKey past.1 = cacheKey request → SamePair past.1 request

section Steps

variable (engine : WorkflowEngine Value) (request : RunRequest Value)

/-- A run answers from the cache, raises, or completes and is cached. -/
theorem run_cases :
    (∃ output, engine.runCache.get? (cacheKey request) = some output ∧
      run isPrintable engine request = (⟨.ok output, []⟩, engine)) ∨
    (engine.runCache.get? (cacheKey request) = none ∧ ∃ error after,
      execute isPrintable request = (.error error, after) ∧
      run isPrintable engine request = (⟨.error error, after.calls⟩, engine)) ∨
    (engine.runCache.get? (cacheKey request) = none ∧ ∃ output after,
      execute isPrintable request = (.ok output, after) ∧
      run isPrintable engine request =
        (⟨.ok output, after.calls⟩, ⟨engine.runCache.set (cacheKey request) output⟩)) := by
  unfold run
  cases cached : engine.runCache.get? (cacheKey request) with
  | some output => exact .inl ⟨output, rfl, rfl⟩
  | none =>
      obtain ⟨answer, after⟩ := execute isPrintable request
      cases answer with
      | error error => exact .inr (.inl ⟨rfl, error, after, rfl, rfl⟩)
      | ok output => exact .inr (.inr ⟨rfl, output, after, rfl, rfl⟩)

variable {output : RunOutput Value}

theorem run_hit (cached : engine.runCache.get? (cacheKey request) = some output) :
    run isPrintable engine request = (⟨.ok output, []⟩, engine) := by
  rw [run, cached]

/-- A run that is not cached does not read the engine. -/
theorem run_miss (absent : engine.runCache.get? (cacheKey request) = none) :
    (run isPrintable engine request).1 =
      ⟨(execute isPrintable request).1, (execute isPrintable request).2.calls⟩ := by
  rcases run_cases isPrintable engine request with
    ⟨output, cached, _⟩ | ⟨_, error, after, executed, returned⟩ |
      ⟨_, output, after, executed, returned⟩
  · cases absent.symm.trans cached
  · rw [returned, executed]
  · rw [returned, executed]

/-- A cached output stays in the cache. -/
theorem run_keeps {text : String} (cached : engine.runCache.get? text = some output) :
    (run isPrintable engine request).2.runCache.get? text = some output := by
  rcases run_cases isPrintable engine request with
    ⟨_, _, returned⟩ | ⟨_, _, _, _, returned⟩ | ⟨absent, _, _, _, returned⟩
  · rw [returned, cached]
  · rw [returned, cached]
  · rw [returned, Dict.get?_set_of_ne, cached]
    rintro rfl
    cases absent.symm.trans cached

/-- A completed run is in the cache. -/
theorem run_caches (completed : (run isPrintable engine request).1.answer = .ok output) :
    (run isPrintable engine request).2.runCache.get? (cacheKey request) = some output := by
  rcases run_cases isPrintable engine request with
    ⟨_, cached, returned⟩ | ⟨_, _, _, _, returned⟩ | ⟨_, _, _, _, returned⟩
  · rw [returned] at completed ⊢
    obtain rfl := Except.ok.inj completed
    exact cached
  · rw [returned] at completed
    cases completed
  · rw [returned] at completed ⊢
    obtain rfl := Except.ok.inj completed
    exact Dict.get?_set_self _ _ _

/-- A new output in the cache is the answer of the run. -/
theorem run_caches_own {text : String} (absent : engine.runCache.get? text = none)
    (cached : (run isPrintable engine request).2.runCache.get? text = some output) :
    cacheKey request = text ∧ (run isPrintable engine request).1.answer = .ok output := by
  rcases run_cases isPrintable engine request with
    ⟨_, _, returned⟩ | ⟨_, _, _, _, returned⟩ | ⟨_, _, _, _, returned⟩
  · rw [returned, absent] at cached
    cases cached
  · rw [returned, absent] at cached
    cases cached
  · rw [returned, Dict.get?_set] at cached
    split at cached
    · rename_i same
      rw [returned]
      exact ⟨same.symm, congrArg Except.ok (Option.some.inj cached)⟩
    · rw [absent] at cached
      cases cached

/-- An executed run names the workflow and the key of its request. -/
theorem execute_ids (completed : (execute isPrintable request).1 = .ok output) :
    output.workflowId = request.workflowId ∧ output.idempotencyKey = request.idempotencyKey := by
  unfold execute at completed
  split at completed
  · cases completed
  · split at completed
    · cases completed
    · obtain rfl := Except.ok.inj completed
      exact ⟨rfl, rfl⟩

/-- The output of a fresh engine names the workflow and the key of its request. -/
theorem new_run_ids (completed : (run isPrintable new request).1.answer = .ok output) :
    output.workflowId = request.workflowId ∧ output.idempotencyKey = request.idempotencyKey := by
  rw [run_miss isPrintable new request rfl] at completed
  exact execute_ids isPrintable request completed

end Steps

theorem reached_append (request : RunRequest Value) :
    reached isPrintable (requests ++ [request]) =
      (run isPrintable (reached isPrintable requests) request).2 := by
  rw [reached, run_append]
  rfl

theorem history_append (request : RunRequest Value) :
    history isPrintable (requests ++ [request]) =
      history isPrintable requests ++ [(request, nextResponse isPrintable requests request)] := by
  have lengths : requests.length = (responses (run isPrintable) new requests).length := by
    have general (engine : WorkflowEngine Value) :
        requests.length = (responses (run isPrintable) engine requests).length := by
      induction requests generalizing engine with
      | nil => rfl
      | cons first rest ih => exact congrArg Nat.succ (ih _)
    exact general new
  rw [history, responses_append, List.zip_append lengths]
  rfl

/-- Every completed run of the history is in the cache with its output. -/
theorem history_cached :
    ∀ past ∈ history isPrintable requests, ∀ output, past.2.answer = .ok output →
      (reached isPrintable requests).runCache.get? (cacheKey past.1) = some output := by
  induction requests using List.reverseRecOn with
  | nil => simp [history]
  | append_singleton requests request ih =>
      intro past member output completed
      rw [history_append, List.mem_append, List.mem_singleton] at member
      rw [reached_append]
      rcases member with earlier | rfl
      · exact run_keeps isPrintable _ request (ih past earlier output completed)
      · exact run_caches isPrintable _ request completed

/-- Every cached output was returned under its text. -/
theorem cached_history (text : String) (output : RunOutput Value)
    (cached : (reached isPrintable requests).runCache.get? text = some output) :
    ∃ past ∈ history isPrintable requests, cacheKey past.1 = text ∧ past.2.answer = .ok output := by
  induction requests using List.reverseRecOn with
  | nil => cases cached
  | append_singleton requests request ih =>
      rw [reached_append] at cached
      rw [history_append]
      cases known : (reached isPrintable requests).runCache.get? text with
      | some stored =>
          rw [run_keeps isPrintable _ request known, Option.some.injEq] at cached
          obtain ⟨past, member, facts⟩ := ih (cached ▸ known)
          exact ⟨past, List.mem_append_left _ member, facts⟩
      | none =>
          refine ⟨_, List.mem_append_right _ (List.mem_singleton.mpr rfl), ?_⟩
          exact run_caches_own isPrintable _ request known cached

/-- A completed pair always returns its output. -/
theorem nextResponse_completed (request : RunRequest Value)
    (past : RunRequest Value × RunResponse Value) (member : past ∈ history isPrintable earlier)
    (same : cacheKey past.1 = cacheKey request) (output : RunOutput Value)
    (completed : past.2.answer = .ok output) :
    nextResponse isPrintable earlier request = ⟨.ok output, []⟩ := by
  have cached := history_cached isPrintable earlier past member output completed
  rw [same] at cached
  rw [nextResponse, run_hit isPrintable _ request cached]

omit [Inhabited Value] in
theorem SamePair.cacheKey_eq {first second : RunRequest Value} (same : SamePair first second) :
    cacheKey first = cacheKey second := by
  rw [cacheKey, cacheKey, same.1, same.2]

/-- An idempotent sequence returns outputs of its own pairs only. -/
theorem Idempotent.own_output {requests : List (RunRequest Value)}
    (idempotent : Idempotent isPrintable requests) :
    ∀ past ∈ history isPrintable requests, ∀ output, past.2.answer = .ok output →
      output.workflowId = past.1.workflowId ∧ output.idempotencyKey = past.1.idempotencyKey := by
  induction requests using List.reverseRecOn with
  | nil => simp [history]
  | append_singleton requests request ih =>
      have before : Idempotent isPrintable requests := by
        intro earlier middle later split
        exact idempotent earlier middle (later ++ [request]) (by simp [split])
      intro past member output completed
      rw [history_append, List.mem_append, List.mem_singleton] at member
      rcases member with earlier | rfl
      · exact ih before past earlier output completed
      · obtain ⟨again, fresh⟩ := idempotent requests request [] rfl
        by_cases known : ∃ past ∈ history isPrintable requests, SamePair past.1 request ∧
            ∃ output, past.2.answer = .ok output
        · obtain ⟨past, member, same, stored, returned⟩ := known
          have response := again past member same stored returned
          rw [response] at completed
          obtain rfl := Except.ok.inj completed
          obtain ⟨workflow, key⟩ := ih before past member stored returned
          exact ⟨workflow.trans same.1, key.trans same.2⟩
        · push Not at known
          rw [fresh known] at completed
          exact new_run_ids isPrintable request completed

/-- The runs of a sequence are idempotent exactly when no run shares its joined text with a completed
run of another pair before it. -/
theorem idempotent_iff_unambiguous (requests : List (RunRequest Value)) :
    Idempotent isPrintable requests ↔ Unambiguous isPrintable requests := by
  constructor
  · intro idempotent earlier request later split past member output completed same
    have before : Idempotent isPrintable earlier := by
      intro first middle rest inside
      exact idempotent first middle (rest ++ request :: later) (by simp [split, inside])
    have own := before.own_output isPrintable
    obtain ⟨again, fresh⟩ := idempotent earlier request later split
    have response := nextResponse_completed isPrintable earlier request past member same output
      completed
    obtain ⟨workflow, key⟩ := own past member output completed
    by_cases known : ∃ past ∈ history isPrintable earlier, SamePair past.1 request ∧
        ∃ output, past.2.answer = .ok output
    · obtain ⟨other, otherMember, pair, stored, returned⟩ := known
      rw [again other otherMember pair stored returned] at response
      obtain rfl := Except.ok.inj (congrArg RunResponse.answer response)
      obtain ⟨otherWorkflow, otherKey⟩ := own other otherMember stored returned
      exact ⟨workflow.symm.trans (otherWorkflow.trans pair.1),
        key.symm.trans (otherKey.trans pair.2)⟩
    · push Not at known
      rw [fresh known] at response
      obtain ⟨ownWorkflow, ownKey⟩ := new_run_ids isPrintable request
        (congrArg RunResponse.answer response)
      exact ⟨workflow.symm.trans ownWorkflow, key.symm.trans ownKey⟩
  · intro unambiguous earlier request later split
    constructor
    · intro past member same output completed
      exact nextResponse_completed isPrintable earlier request past member same.cacheKey_eq output
        completed
    · intro incomplete
      rw [nextResponse, nextResponse, run_miss, run_miss isPrintable (reached isPrintable []) _ rfl]
      by_contra hit
      obtain ⟨output, cached⟩ := Option.ne_none_iff_exists'.mp hit
      obtain ⟨past, member, same, completed⟩ := cached_history isPrintable earlier _ output cached
      exact incomplete past member
        (unambiguous earlier request later split past member output completed same) output completed

/-- A run without nodes. -/
def emptyRequest (workflowId idempotencyKey : String) : RunRequest PyData :=
  ⟨workflowId, idempotencyKey, [], Dict.empty, fun _ _ _ => .ok .null, fun _ => ("", "")⟩

/-- A workflow named `a` with the key `b:c` gets the output of the workflow `a:b` with the key `c`. -/
theorem run_returns_other_output :
    ¬ Idempotent (fun _ => true) [emptyRequest "a:b" "c", emptyRequest "a" "b:c"] := by
  intro idempotent
  have own := idempotent.own_output (fun _ => true)
  have member : (emptyRequest "a" "b:c",
      (⟨.ok ⟨"a:b", "c", .completed, [], []⟩, []⟩ : RunResponse PyData)) ∈
      history (fun _ => true) [emptyRequest "a:b" "c", emptyRequest "a" "b:c"] :=
    List.mem_cons_of_mem _ (.head _)
  have ids := own _ member _ rfl
  exact absurd ids.1 (by decide)

end AgentFabric.Phase3.WorkflowEngine

namespace AgentFabric.Phase3.WorkflowEngine
open Precedence NamedGraph

variable {Value : Type} {isPrintable : Char → Bool} {request : RunRequest Value}

/-- The calls of one node. -/
def callsOf (nodeId : String) (calls : List (RunnerCall Value)) : List (RunnerCall Value) :=
  calls.filter fun call => call.node.nodeId = nodeId

/-- Every node completed with the result of its only successful call, which had the final results of
its dependencies. -/
structure RanOnce (request : RunRequest Value) (output : RunOutput Value)
    (state : Dict String (NodeState Value)) (calls : List (RunnerCall Value)) : Prop where
  completed : ∀ node ∈ request.nodes, ∃ nodeState, state.get? node.nodeId = some nodeState ∧
    nodeState.status = .completed
  result : ∀ node ∈ request.nodes, ∃ call ∈ calls, call.node = node ∧ ∃ result,
    call.answer = .ok result ∧ (node.nodeId, result) ∈ output.nodeResults ∧
    ∀ dependency ∈ node.dependencies, ∃ value, (dependency, value) ∈ output.nodeResults ∧
      call.input.dependencyResults.get? dependency = some value
  once : ∀ node ∈ request.nodes,
    ((callsOf node.nodeId calls).filter fun call => call.answer.isOk).length = 1
  bound : ∀ node ∈ request.nodes, ((callsOf node.nodeId calls).length : Int) ≤ node.maxRetries + 1

section Attempts

/-- The dependencies of a node have states of other nodes. -/
def Ready (run : RunState Value) (node : WorkflowNode) : Prop :=
  ∀ dependency ∈ node.dependencies, dependency ≠ node.nodeId ∧
    ∃ nodeState, run.state.get? dependency = some nodeState

variable {run : RunState Value} {node : WorkflowNode}

variable (request) in
/-- The input of a ready node has the results of its dependencies. -/
theorem nodeInput_eq_ok
    (known : ∀ dependency ∈ node.dependencies, ∃ nodeState,
      run.state.get? dependency = some nodeState) :
    ∃ input, nodeInput request run node = .ok input ∧
      ∀ dependency ∈ node.dependencies, ∃ nodeState,
        run.state.get? dependency = some nodeState ∧
        input.dependencyResults.get? dependency = some nodeState.result := by
  have results (dependencies : List String) (listed : ∀ dependency ∈ dependencies, ∃ nodeState,
      run.state.get? dependency = some nodeState) :
      dependencies.mapM (dependencyResult run) = .ok (dependencies.filterMap fun dependency =>
        ((run.state.get? dependency).map NodeState.result).map fun found =>
          (dependency, found)) := by
    induction dependencies with
    | nil => rfl
    | cons first rest ih =>
        obtain ⟨nodeState, found⟩ := listed first (.head _)
        rw [List.mapM_cons, ih fun other member => listed other (List.mem_cons_of_mem _ member),
          List.filterMap_cons, dependencyResult, found]
        rfl
  refine ⟨_, by rw [nodeInput, results node.dependencies known]; rfl, ?_⟩
  intro dependency listed
  obtain ⟨nodeState, found⟩ := known dependency listed
  refine ⟨nodeState, found, ?_⟩
  rw [Dict.get?_setAll_filterMap, found]
  simp [listed]

/-- What the attempts of a node leave when one of them succeeds. -/
structure Succeeded (node : WorkflowNode) (before after : RunState Value)
    (failed : List (RunnerCall Value)) (last : RunnerCall Value) (result : Value) : Prop where
  calls : after.calls = before.calls ++ (failed ++ [last])
  ofNode : ∀ call ∈ failed ++ [last], call.node = node
  failures : ∀ call ∈ failed, call.answer.isOk = false
  answer : last.answer = .ok result
  state : ∃ nodeState, after.state.get? node.nodeId = some nodeState ∧
    nodeState.status = .completed ∧ nodeState.result = result
  elsewhere : ∀ id, id ≠ node.nodeId → after.state.get? id = before.state.get? id
  dependencies : ∀ dependency ∈ node.dependencies, ∃ nodeState,
    before.state.get? dependency = some nodeState ∧
    last.input.dependencyResults.get? dependency = some nodeState.result

variable (request) in
/-- An attempt of a ready node calls the runner once. -/
theorem callRunner_ready (ready : Ready run node) (nodeState : NodeState Value) :
    ∃ call, callRunner request (startAttempt run node nodeState) node =
        (call.answer, { startAttempt run node nodeState with calls := run.calls ++ [call] }) ∧
      call.node = node ∧
      ∀ dependency ∈ node.dependencies, ∃ found, run.state.get? dependency = some found ∧
        call.input.dependencyResults.get? dependency = some found.result := by
  have same (dependency : String) (listed : dependency ∈ node.dependencies) :
      (startAttempt run node nodeState).state.get? dependency = run.state.get? dependency :=
    Dict.get?_set_of_ne _ _ (ready dependency listed).1
  have known : ∀ dependency ∈ node.dependencies, ∃ found,
      (startAttempt run node nodeState).state.get? dependency = some found := by
    intro dependency listed
    rw [same dependency listed]
    exact (ready dependency listed).2
  obtain ⟨input, returned, results⟩ := nodeInput_eq_ok request known
  refine ⟨⟨node, input, _⟩, by rw [callRunner, returned]; rfl, rfl, ?_⟩
  intro dependency listed
  obtain ⟨found, present, result⟩ := results dependency listed
  exact ⟨found, (same dependency listed).symm.trans present, result⟩

/-- The attempts of a ready node that return leave one successful call behind the failed ones. -/
theorem attempt_succeeded (node : WorkflowNode) (fuel : Nat) (nodeState : NodeState Value)
    (run after : RunState Value) (ready : Ready run node)
    (enough : fuel = (node.maxRetries + 1 - nodeState.attempts).toNat) (positive : 0 < fuel)
    (returned : attempt isPrintable request node fuel nodeState run = (.ok (), after)) :
    ∃ failed last result, Succeeded node run after failed last result ∧
      nodeState.attempts + failed.length ≤ node.maxRetries := by
  induction fuel generalizing nodeState run with
  | zero => omega
  | succ fuel ih =>
      obtain ⟨call, called, ofNode, dependencies⟩ := callRunner_ready request ready nodeState
      unfold attempt at returned
      rw [called] at returned
      cases answer : call.answer with
      | ok result =>
          rw [answer] at returned
          obtain rfl := (Prod.mk.inj returned).2
          refine ⟨[], call, result, ⟨rfl, by simpa using ofNode, by simp, answer,
            ⟨_, Dict.get?_set_self _ _ _, rfl, rfl⟩, ?_, dependencies⟩, ?_⟩
          · intro id different
            exact (Dict.get?_set_of_ne _ _ different).trans (Dict.get?_set_of_ne _ _ different)
          · rw [List.length_nil]
            omega
      | error error =>
          rw [answer] at returned
          dsimp only at returned
          split at returned
          · cases returned
          · have elsewhere (id : String) (different : id ≠ node.nodeId) :
                (startAttempt run node nodeState).state.get? id = run.state.get? id :=
              Dict.get?_set_of_ne _ _ different
            have later : Ready (fail request
                { startAttempt run node nodeState with calls := run.calls ++ [call] } node nodeState
                (error.text isPrintable)) node := by
              intro dependency listed
              obtain ⟨different, found⟩ := ready dependency listed
              refine ⟨different, ?_⟩
              show ∃ found, (startAttempt run node nodeState).state.get? dependency = some found
              rwa [elsewhere dependency different]
            obtain ⟨failed, last, result, succeeded, bound⟩ := ih _ _ later (by
              show fuel = (node.maxRetries + 1 - (nodeState.attempts + 1)).toNat
              omega) (by omega) returned
            refine ⟨call :: failed, last, result, ⟨?_, ?_, ?_, succeeded.answer, succeeded.state,
              ?_, ?_⟩, ?_⟩
            · rw [succeeded.calls]
              exact List.append_assoc _ _ _
            · intro other member
              rcases List.mem_cons.mp member with rfl | inside
              · exact ofNode
              · exact succeeded.ofNode other inside
            · intro other member
              rcases List.mem_cons.mp member with rfl | inside
              · rw [answer]
                rfl
              · exact succeeded.failures other inside
            · intro id different
              exact (succeeded.elsewhere id different).trans (elsewhere id different)
            · intro dependency listed
              obtain ⟨found, present, result⟩ := succeeded.dependencies dependency listed
              refine ⟨found, ?_, result⟩
              exact (elsewhere dependency (ready dependency listed).1).symm.trans present
            · rw [List.length_cons]
              have shifted : nodeState.attempts + 1 + failed.length ≤ node.maxRetries := bound
              omega

end Attempts

section Nodes

variable {calls added : List (RunnerCall Value)}

theorem callsOf_append_other {nodeId other : String}
    (ofNode : ∀ call ∈ added, call.node.nodeId = nodeId) (different : other ≠ nodeId) :
    callsOf other (calls ++ added) = callsOf other calls :=
  LastEntry.filter_append_other ofNode different

theorem callsOf_append_own {nodeId : String} (unnamed : ∀ call ∈ calls, call.node.nodeId ≠ nodeId)
    (ofNode : ∀ call ∈ added, call.node.nodeId = nodeId) :
    callsOf nodeId (calls ++ added) = added :=
  LastEntry.filter_append_own unnamed ofNode

/-- A completed node with its calls, of which only the last one returned. -/
structure Finished (node : WorkflowNode) (run : RunState Value) (failed : List (RunnerCall Value))
    (last : RunnerCall Value) (result : Value) : Prop where
  calls : callsOf node.nodeId run.calls = failed ++ [last]
  ofNode : last.node = node
  failures : ∀ call ∈ failed, call.answer.isOk = false
  answer : last.answer = .ok result
  bound : (failed.length : Int) ≤ node.maxRetries
  state : ∃ nodeState, run.state.get? node.nodeId = some nodeState ∧
    nodeState.status = .completed ∧ nodeState.result = result
  dependencies : ∀ dependency ∈ node.dependencies, ∃ nodeState,
    run.state.get? dependency = some nodeState ∧
    last.input.dependencyResults.get? dependency = some nodeState.result

variable {run after : RunState Value}

/-- Calls of another node and changes at another node keep a finished node. -/
theorem Finished.frame {nodeId : String} {other : WorkflowNode}
    {failed added : List (RunnerCall Value)} {last : RunnerCall Value} {result : Value}
    (finished : Finished other run failed last result)
    (elsewhere : ∀ id, id ≠ nodeId → after.state.get? id = run.state.get? id)
    (calls : after.calls = run.calls ++ added)
    (ofNode : ∀ call ∈ added, call.node.nodeId = nodeId) (different : other.nodeId ≠ nodeId)
    (apart : ∀ dependency ∈ other.dependencies, dependency ≠ nodeId) :
    Finished other after failed last result where
  calls := by
    rw [calls, callsOf_append_other ofNode different]
    exact finished.calls
  ofNode := finished.ofNode
  failures := finished.failures
  answer := finished.answer
  bound := finished.bound
  state := by
    rw [elsewhere other.nodeId different]
    exact finished.state
  dependencies := by
    intro dependency listed
    rw [elsewhere dependency (apart dependency listed)]
    exact finished.dependencies dependency listed

variable [Inhabited Value]

/-- The state of a node before its first attempt. -/
def pendingNode : NodeState Value := ⟨0, .pending, default, none⟩

/-- What the run has done after some nodes. -/
structure Progress (request : RunRequest Value) (done : List WorkflowNode) (run : RunState Value) :
    Prop where
  finished : ∀ node ∈ done, 0 ≤ node.maxRetries →
    ∃ failed last result, Finished node run failed last result
  skipped : ∀ node ∈ done, node.maxRetries < 0 → run.state.get? node.nodeId = some pendingNode
  calls : ∀ call ∈ run.calls, call.node ∈ done
  fresh : ∀ node ∈ request.nodes, node ∉ done → run.state.get? node.nodeId = some pendingNode

/-- Every node of the workflow has a state. -/
theorem Progress.known {done : List WorkflowNode} {run : RunState Value}
    (progress : Progress request done run) (node : WorkflowNode) (member : node ∈ request.nodes) :
    ∃ nodeState, run.state.get? node.nodeId = some nodeState := by
  by_cases finished : node ∈ done
  · by_cases negative : node.maxRetries < 0
    · exact ⟨_, progress.skipped node finished negative⟩
    · obtain ⟨_, _, _, facts⟩ := progress.finished node finished (by omega)
      obtain ⟨nodeState, found, _⟩ := facts.state
      exact ⟨nodeState, found⟩
  · exact ⟨_, progress.fresh node member finished⟩

/-- The places of the nodes in the order of the sort. -/
abbrev Placed (request : RunRequest Value) (all : List WorkflowNode) : Prop :=
  NamedGraph.Placed WorkflowNode.nodeId WorkflowNode.dependencies request.nodes all

/-- What was done before stays done, and other nodes stay fresh. -/
theorem Progress.extend {all done later : List WorkflowNode} {node : WorkflowNode}
    {added : List (RunnerCall Value)}
    (progress : Progress request done run) (placed : Placed request all)
    (split : all = done ++ node :: later)
    (elsewhere : ∀ id, id ≠ node.nodeId → after.state.get? id = run.state.get? id)
    (calls : after.calls = run.calls ++ added) (ofNode : ∀ call ∈ added, call.node = node)
    (finished : 0 ≤ node.maxRetries → ∃ failed last result, Finished node after failed last result)
    (skipped : node.maxRetries < 0 → after.state.get? node.nodeId = some pendingNode) :
    Progress request (done ++ [node]) after := by
  obtain ⟨absent, _⟩ := placed.next split
  have ids : ∀ call ∈ added, call.node.nodeId = node.nodeId := fun call member =>
    congrArg WorkflowNode.nodeId (ofNode call member)
  have apart (other : WorkflowNode) (member : other ∈ done) : other.nodeId ≠ node.nodeId :=
    fun equal => absent (equal ▸ List.mem_map_of_mem member)
  refine ⟨?_, ?_, ?_, ?_⟩
  · intro other member retries
    rcases List.mem_append.mp member with earlier | last
    · obtain ⟨failed, call, result, facts⟩ := progress.finished other earlier retries
      refine ⟨failed, call, result, facts.frame elsewhere calls ids (apart other earlier) ?_⟩
      intro dependency listed equal
      exact absent (equal ▸ placed.closed split other earlier dependency listed)
    · obtain rfl := List.mem_singleton.mp last
      exact finished retries
  · intro other member negative
    rcases List.mem_append.mp member with earlier | last
    · rw [elsewhere _ (apart other earlier)]
      exact progress.skipped other earlier negative
    · obtain rfl := List.mem_singleton.mp last
      exact skipped negative
  · intro call member
    rw [calls] at member
    rcases List.mem_append.mp member with earlier | new
    · exact List.mem_append_left _ (progress.calls call earlier)
    · rw [ofNode call new]
      exact List.mem_append_right _ (List.mem_singleton.mpr rfl)
  · intro other known unfinished
    rw [List.mem_append, List.mem_singleton, not_or] at unfinished
    rw [elsewhere]
    · exact progress.fresh other known unfinished.1
    · intro equal
      apply unfinished.2
      apply placed.eq_of_id (placed.perm.mem_iff.mpr known) _ equal
      simp [split]

/-- The nodes of a sorted workflow run one after the other. -/
theorem runNodes_progress {all : List WorkflowNode} (placed : Placed request all)
    (nodes done : List WorkflowNode) (run after : RunState Value) (split : all = done ++ nodes)
    (progress : Progress request done run)
    (returned : runNodes isPrintable request nodes run = (.ok (), after)) :
    Progress request all after := by
  induction nodes generalizing done run with
  | nil =>
      obtain rfl := (Prod.mk.inj returned).2
      rw [split, List.append_nil]
      exact progress
  | cons node rest ih =>
      obtain ⟨absent, dependencies⟩ := placed.next split
      have member : node ∈ request.nodes := placed.perm.mem_iff.mp (by simp [split])
      have pending : run.state.get? node.nodeId = some pendingNode :=
        progress.fresh node member fun finished => absent (List.mem_map_of_mem finished)
      unfold runNodes at returned
      rw [pending] at returned
      dsimp only at returned
      rcases tried : attempt isPrintable request node (node.maxRetries + 1).toNat pendingNode run with
        ⟨answer, next⟩
      rw [tried] at returned
      cases answer with
      | error error => cases returned
      | ok _ =>
          refine ih (done ++ [node]) next (by simpa using split) ?_ returned
          by_cases negative : node.maxRetries < 0
          · rw [show (node.maxRetries + 1).toNat = 0 by omega] at tried
            obtain rfl := (Prod.mk.inj tried).2
            exact progress.extend placed split (fun _ _ => rfl) (List.append_nil _).symm (by simp)
              (fun retries => by omega) fun _ => pending
          · have ready : Ready run node := by
              intro dependency listed
              have finished := dependencies dependency listed
              refine ⟨fun equal => absent (equal ▸ finished), ?_⟩
              obtain ⟨source, sourceMember, rfl⟩ := List.mem_map.mp finished
              exact progress.known source (placed.perm.mem_iff.mp (by simp [split, sourceMember]))
            obtain ⟨failed, last, result, succeeded, bound⟩ := attempt_succeeded node _ pendingNode
              run next ready (by simp [pendingNode]) (by omega) tried
            refine progress.extend placed split succeeded.elsewhere succeeded.calls
              succeeded.ofNode ?_ fun less => absurd less negative
            intro _
            refine ⟨failed, last, result, ⟨?_, ?_, succeeded.failures, succeeded.answer, ?_,
              succeeded.state, ?_⟩⟩
            · rw [succeeded.calls]
              apply callsOf_append_own
              · intro call earlier same
                exact absent (same ▸ List.mem_map_of_mem (progress.calls call earlier))
              · intro call inside
                exact congrArg WorkflowNode.nodeId (succeeded.ofNode call inside)
            · exact succeeded.ofNode last (List.mem_append_right _ (.head _))
            · have limit : (0 : Int) + failed.length ≤ node.maxRetries := bound
              omega
            · intro dependency listed
              rw [succeeded.elsewhere dependency (ready dependency listed).1]
              exact succeeded.dependencies dependency listed

end Nodes

section Completed

/-- A sorted workflow is well formed and has its nodes behind their dependencies. -/
theorem topologicalSort_placed {nodes order : List WorkflowNode}
    (sorted : topologicalSort nodes = .ok order) :
    NamedGraph.WellFormed WorkflowNode.nodeId WorkflowNode.dependencies nodes ∧
      NamedGraph.Placed WorkflowNode.nodeId WorkflowNode.dependencies nodes order := by
  have checked := sorted
  rw [topologicalSort, bind_eq_ok_iff] at checked
  obtain ⟨⟨⟩, accepted, _⟩ := checked
  have wellFormed := (checkNodes_eq_ok_iff _ _).mp accepted
  obtain ⟨found, ids, inside, answer⟩ := Collaboration.topologicalSort_eq nodes wellFormed
  rw [answer] at sorted
  split at sorted
  · cases sorted
  · rename_i complete
    obtain rfl := Except.ok.inj sorted
    have ordered : Ordered (edges WorkflowNode.nodeId WorkflowNode.dependencies nodes) []
        (found.map WorkflowNode.nodeId) := by
      rw [ids, ← batches_flatten _ wellFormed.distinct edge_target]
      exact (batches_layered _ wellFormed.distinct edge_target).ordered
    refine ⟨wellFormed, ?_, ordered⟩
    exact (ordered.nodup.1.of_map.subperm inside).perm_of_length_le
      (le_of_eq (not_not.mp complete).symm)

variable [Inhabited Value]

theorem initialRun_progress {order : List WorkflowNode} (placed : Placed request order) :
    Progress request [] (initialRun request order) where
  finished := by simp
  skipped := by simp
  calls := by
    intro call member
    cases member
  fresh := by
    intro node member _
    have listed : (node.nodeId, (pendingNode : NodeState Value)) ∈
        order.map fun node => (node.nodeId, pendingNode) :=
      List.mem_map_of_mem (placed.perm.mem_iff.mpr member)
    apply Dict.get?_setAll_of_mem _ _ _ _ listed
    rw [List.map_map]
    exact placed.distinct

/-- An executed run did all nodes of its order. -/
theorem execute_progress {result : RunOutput Value} {after : RunState Value}
    (executed : execute isPrintable request = (.ok result, after)) :
    result = output request after ∧ ∃ all, Placed request all ∧ Progress request all after := by
  unfold execute at executed
  cases sorted : topologicalSort request.nodes with
  | error error =>
      rw [sorted] at executed
      cases executed
  | ok order =>
      rw [sorted] at executed
      dsimp only at executed
      rcases ran : runNodes isPrintable request order (initialRun request order) with
        ⟨answer, last⟩
      rw [ran] at executed
      cases answer with
      | error error => cases executed
      | ok _ =>
          obtain ⟨returned, rfl⟩ := Prod.mk.inj executed
          obtain ⟨_, placed⟩ := topologicalSort_placed sorted
          exact ⟨(Except.ok.inj returned).symm, order, placed,
            runNodes_progress placed order [] _ last rfl (initialRun_progress placed) ran⟩

omit [Inhabited Value] in
theorem mem_nodeResults {run : RunState Value} {id : String} {nodeState : NodeState Value}
    (found : run.state.get? id = some nodeState) :
    (id, nodeState.result) ∈ (output request run).nodeResults :=
  List.mem_map_of_mem ((Dict.get?_eq_some_iff _ _ _).mp found)

variable {all : List WorkflowNode} {run : RunState Value}

theorem Progress.ranOnce (progress : Progress request all run) (placed : Placed request all)
    (retries : ∀ node ∈ request.nodes, 0 ≤ node.maxRetries) :
    RanOnce request (output request run) run.state run.calls := by
  have done (node : WorkflowNode) (member : node ∈ request.nodes) :
      ∃ failed last result, Finished node run failed last result :=
    progress.finished node (placed.perm.mem_iff.mpr member) (retries node member)
  refine ⟨?_, ?_, ?_, ?_⟩
  · intro node member
    obtain ⟨failed, last, result, finished⟩ := done node member
    obtain ⟨nodeState, found, completed, _⟩ := finished.state
    exact ⟨nodeState, found, completed⟩
  · intro node member
    obtain ⟨failed, last, result, finished⟩ := done node member
    obtain ⟨nodeState, found, _, rfl⟩ := finished.state
    have called : last ∈ run.calls :=
      List.mem_of_mem_filter (finished.calls ▸ List.mem_append_right _ (.head _))
    refine ⟨last, called, finished.ofNode, _, finished.answer, mem_nodeResults found, ?_⟩
    intro dependency listed
    obtain ⟨source, present, value⟩ := finished.dependencies dependency listed
    exact ⟨_, mem_nodeResults present, value⟩
  · intro node member
    obtain ⟨failed, last, result, finished⟩ := done node member
    have none : failed.filter (fun call => call.answer.isOk) = [] := by
      rw [List.filter_eq_nil_iff]
      intro call inside
      simp [finished.failures call inside]
    have returned : last.answer.isOk = true := by
      rw [finished.answer]
      rfl
    rw [finished.calls, List.filter_append, none, List.filter_singleton, returned]
    rfl
  · intro node member
    obtain ⟨failed, last, result, finished⟩ := done node member
    have bound := finished.bound
    rw [finished.calls, List.length_append, List.length_singleton]
    omega

theorem Progress.retries (progress : Progress request all run) (placed : Placed request all)
    (ranOnce : RanOnce request (output request run) run.state run.calls) :
    ∀ node ∈ request.nodes, 0 ≤ node.maxRetries := by
  intro node member
  by_contra negative
  have pending := progress.skipped node (placed.perm.mem_iff.mpr member) (by omega)
  obtain ⟨nodeState, found, completed⟩ := ranOnce.completed node member
  obtain rfl := Option.some.inj (pending.symm.trans found)
  cases completed

/-- An executed run ran each node once exactly when every node may run. -/
theorem run_ranOnce_iff (engine : WorkflowEngine Value) (result : RunOutput Value)
    (executed : engine.runCache.get? (cacheKey request) = none)
    (returned : (engine.run isPrintable request).1.answer = .ok result) :
    RanOnce request result (execute isPrintable request).2.state
        (engine.run isPrintable request).1.calls ↔
      ∀ node ∈ request.nodes, 0 ≤ node.maxRetries := by
  rw [run_miss isPrintable engine request executed] at returned ⊢
  rcases ran : execute isPrintable request with ⟨answer, after⟩
  rw [ran] at returned
  obtain rfl : answer = .ok result := returned
  obtain ⟨rfl, all, placed, progress⟩ := execute_progress ran
  exact ⟨progress.retries placed, progress.ranOnce placed⟩

end Completed

end AgentFabric.Phase3.WorkflowEngine
