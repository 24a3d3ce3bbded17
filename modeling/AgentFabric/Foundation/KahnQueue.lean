import AgentFabric.Foundation.Precedence
import AgentFabric.Foundation.PyError
import Mathlib.Data.String.Basic

namespace AgentFabric.Precedence

variable {Node : Type*} [LinearOrder Node]

section Queue

variable (edges : List (Node × Node)) (frontier : Frontier Node)

/-- A finished source leaves its target, which goes to the end of the queue at the last one. -/
def enqueue (target : Node) : Frontier Node :=
  let incoming := Function.update frontier.incoming target (frontier.incoming target - 1)
  if incoming target = 0 then ⟨incoming, frontier.ready ++ [target]⟩
  else ⟨incoming, frontier.ready⟩

/-- A finished node releases its edges in their order. -/
def expand (node : Node) : Frontier Node :=
  (successors edges node).foldl enqueue frontier

variable (nodes : List Node)

/-- The queue before the first node. -/
def startQueue : Frontier Node :=
  let incoming := fun node => (edges.countP fun edge => edge.2 = node : Int)
  ⟨incoming, nodes.filter fun node => incoming node = 0⟩

/-- The loop takes the node at the head of the queue until the queue is empty. -/
def queueFrom : Nat → Frontier Node → List Node
  | 0, _ => []
  | fuel + 1, frontier =>
      match frontier.ready with
      | [] => []
      | node :: rest => node :: queueFrom fuel (expand edges ⟨frontier.incoming, rest⟩ node)

/-- The loop takes the whole queue at once and fills it again. -/
def batchesFrom : Nat → Frontier Node → List (List Node)
  | 0, _ => []
  | fuel + 1, frontier =>
      match frontier.ready with
      | [] => []
      | node :: rest => (node :: rest) ::
          batchesFrom fuel ((node :: rest).foldl (expand edges) ⟨frontier.incoming, []⟩)

/-- Kahn's order with one queue. -/
def queueOrder : List Node :=
  queueFrom edges nodes.length (startQueue edges nodes)

/-- Kahn's order level by level. -/
def batches : List (List Node) :=
  batchesFrom edges nodes.length (startQueue edges nodes)

end Queue

section Exact

variable {edges : List (Node × Node)} {incoming : Node → Int}

/-- The order of the ready nodes does not matter for the counts. -/
theorem Exact.of_ready {nodes done pending ready other : List Node}
    (exact : Exact edges nodes done pending ⟨incoming, ready⟩) (perm : other.Perm ready) :
    Exact edges nodes done pending ⟨incoming, other⟩ := by
  refine ⟨exact.incoming, ?_, perm.nodup_iff.mpr exact.distinct⟩
  intro node
  rw [perm.mem_iff]
  exact exact.ready node

variable {nodes done pending : List Node} {frontier : Frontier Node}

theorem enqueue_exact {target : Node}
    (exact : Exact edges nodes done (target :: pending) frontier) (known : target ∈ nodes)
    (unfinished : target ∉ done) :
    Exact edges nodes done pending (enqueue frontier target) := by
  have released : Exact edges nodes done pending (release id frontier target) :=
    release_exact exact known unfinished
  unfold release at released
  unfold enqueue
  dsimp only at released ⊢
  split
  · rename_i last
    rw [if_pos last] at released
    exact released.of_ready (Sorting.sortedBy_perm id _).symm
  · rename_i more
    rwa [if_neg more] at released

theorem foldl_enqueue_exact (exact : Exact edges nodes done pending frontier)
    (known : ∀ target ∈ pending, target ∈ nodes ∧ target ∉ done) :
    Exact edges nodes done [] (pending.foldl enqueue frontier) := by
  induction pending generalizing frontier with
  | nil => exact exact
  | cons target rest ih =>
      obtain ⟨inside, unfinished⟩ := known target (.head _)
      exact ih (enqueue_exact exact inside unfinished) fun other member =>
        known other (.tail _ member)

theorem expand_exact {nodes done rest : List Node} {node : Node}
    (exact : Exact edges nodes done [] ⟨incoming, node :: rest⟩) (closed : Closed edges done)
    (targets : ∀ source target, Edge edges source target → target ∈ nodes) :
    Exact edges nodes (node :: done) [] (expand edges ⟨incoming, rest⟩ node) := by
  obtain ⟨_, fresh, sources⟩ := exact.ready_node
  apply foldl_enqueue_exact (exact.take fresh)
  intro target member
  have edge := mem_successors.mp member
  exact ⟨targets node target edge, successor_unfinished fresh sources closed edge⟩

end Exact

section Levels

variable (edges : List (Node × Node))

/-- What stands in the queue before the new nodes does not matter for them. -/
theorem enqueue_append (incoming : Node → Int) (first queue : List Node) (target : Node) :
    enqueue ⟨incoming, first ++ queue⟩ target =
      ⟨(enqueue ⟨incoming, queue⟩ target).incoming,
        first ++ (enqueue ⟨incoming, queue⟩ target).ready⟩ := by
  unfold enqueue
  dsimp only
  split
  · rw [List.append_assoc]
  · rfl

theorem expand_append (incoming : Node → Int) (first queue : List Node) (node : Node) :
    expand edges ⟨incoming, first ++ queue⟩ node =
      ⟨(expand edges ⟨incoming, queue⟩ node).incoming,
        first ++ (expand edges ⟨incoming, queue⟩ node).ready⟩ := by
  unfold expand
  induction successors edges node generalizing incoming queue with
  | nil => rfl
  | cons target rest ih =>
      rw [List.foldl_cons, List.foldl_cons, enqueue_append]
      exact ih _ _

/-- The loop with one queue goes through a whole level before the next one. -/
theorem queueFrom_level (fuel : Nat) (incoming : Node → Int) (level queue : List Node) :
    queueFrom edges (level.length + fuel) ⟨incoming, level ++ queue⟩ =
      level ++ queueFrom edges fuel (level.foldl (expand edges) ⟨incoming, queue⟩) := by
  induction level generalizing incoming queue with
  | nil =>
      rw [List.length_nil, Nat.zero_add]
      rfl
  | cons node rest ih =>
      rw [List.length_cons, Nat.add_right_comm]
      show node :: queueFrom edges (rest.length + fuel)
        (expand edges ⟨incoming, rest ++ queue⟩ node) = _
      rw [expand_append, ih]
      rfl

/-- The finished nodes are distinct nodes with all their sources, and the counts are exact. -/
structure Progress (nodes done : List Node) (frontier : Frontier Node) : Prop where
  exact : Exact edges nodes done [] frontier
  closed : Closed edges done
  distinct : done.Nodup
  inside : ∀ node ∈ done, node ∈ nodes

variable {edges}

theorem startQueue_progress (nodes : List Node) (distinct : nodes.Nodup) :
    Progress edges nodes [] (startQueue edges nodes) where
  exact := by
    have exact : Exact edges nodes [] [] (start edges id nodes) := start_exact nodes distinct
    exact exact.of_ready (Sorting.sortedBy_perm id _).symm
  closed := by simp [Closed]
  distinct := List.nodup_nil
  inside := by simp

variable {incoming : Node → Int}

/-- One finished node keeps the counts. -/
theorem Progress.expand {nodes done rest : List Node} {node : Node}
    (progress : Progress edges nodes done ⟨incoming, node :: rest⟩)
    (targets : ∀ source target, Edge edges source target → target ∈ nodes) :
    Progress edges nodes (node :: done) (expand edges ⟨incoming, rest⟩ node) := by
  obtain ⟨member, fresh, sources⟩ := progress.exact.ready_node
  refine ⟨expand_exact progress.exact progress.closed targets, progress.closed.cons sources,
    List.nodup_cons.mpr ⟨fresh, progress.distinct⟩, ?_⟩
  intro other finished
  rcases List.mem_cons.mp finished with rfl | earlier
  · exact member
  · exact progress.inside other earlier

/-- A finished level keeps the counts. -/
theorem Progress.level {nodes done level queue : List Node}
    (progress : Progress edges nodes done ⟨incoming, level ++ queue⟩)
    (targets : ∀ source target, Edge edges source target → target ∈ nodes) :
    Progress edges nodes (level.reverse ++ done)
      (level.foldl (Precedence.expand edges) ⟨incoming, queue⟩) := by
  induction level generalizing done incoming queue with
  | nil => exact progress
  | cons node rest ih =>
      have next : Progress edges nodes (node :: done)
          (Precedence.expand edges ⟨incoming, rest ++ queue⟩ node) := progress.expand targets
      rw [expand_append] at next
      rw [List.reverse_cons, List.append_assoc]
      exact ih next

variable {nodes done ready : List Node}

section

variable (progress : Progress edges nodes done ⟨incoming, ready⟩)
include progress

/-- The unfinished nodes bound the queue. -/
theorem Progress.ready_length : done.length + ready.length ≤ nodes.length := by
  rw [Nat.add_comm, ← List.length_append]
  apply List.Subperm.length_le
  apply List.Nodup.subperm
  · refine List.nodup_append.mpr ⟨progress.exact.distinct, progress.distinct, ?_⟩
    rintro node listed _ finished rfl
    exact ((progress.exact.ready node).mp listed).2.1 finished
  · intro node member
    rcases List.mem_append.mp member with listed | finished
    · exact ((progress.exact.ready node).mp listed).1
    · exact progress.inside node finished

/-- The queue holds the unfinished nodes whose sources are finished. -/
theorem Progress.mem_ready (node : Node) :
    node ∈ ready ↔
      node ∈ nodes ∧ node ∉ done ∧ ∀ source, Edge edges source node → source ∈ done := by
  have count : incoming node = openEdges edges done node + (0 : Nat) := progress.exact.incoming node
  rw [progress.exact.ready node]
  show node ∈ nodes ∧ node ∉ done ∧ incoming node = 0 ↔ _
  refine and_congr_right fun _ => and_congr_right fun _ => ?_
  constructor
  · intro none source edge
    by_contra unfinished
    have positive := openEdges_pos edge unfinished
    omega
  · intro sources
    have none : ¬ 0 < openEdges edges done node := by
      intro positive
      obtain ⟨source, edge, unfinished⟩ := exists_edge_of_openEdges positive
      exact unfinished (sources source edge)
    omega

end

/-- Each batch holds exactly the nodes whose sources are done before it. -/
def Layered (edges : List (Node × Node)) (nodes : List Node) : List Node → List (List Node) → Prop
  | _, [] => True
  | done, batch :: rest =>
      batch.Nodup ∧
        (∀ node, node ∈ batch ↔
          node ∈ nodes ∧ node ∉ done ∧ ∀ source, Edge edges source node → source ∈ done) ∧
        Layered edges nodes (batch.reverse ++ done) rest

variable (edges) in
/-- The loop makes levels, each missed node has a missed source, and the loop with one queue takes
the same nodes in the same order. -/
structure Levels (nodes done : List Node) (frontier : Frontier Node)
    (batches : List (List Node)) : Prop where
  layered : Layered edges nodes done batches
  missed : ∀ node ∈ nodes, node ∉ done → node ∉ batches.flatten →
    ∃ source, Edge edges source node ∧ source ∉ done ∧ source ∉ batches.flatten
  same : ∀ steps, nodes.length ≤ done.length + steps →
    queueFrom edges steps frontier = batches.flatten

/-- Without a ready node the loops stop. -/
theorem Progress.stopped {nodes done : List Node}
    (progress : Progress edges nodes done ⟨incoming, []⟩) :
    Levels edges nodes done ⟨incoming, []⟩ [] where
  layered := trivial
  missed := by
    intro node member missed _
    obtain ⟨source, edge, unfinished⟩ := progress.exact.stuck member missed
    exact ⟨source, edge, unfinished, List.not_mem_nil⟩
  same := by
    intro steps _
    cases steps <;> rfl

/-- The levels after a level follow it. -/
theorem Levels.cons {nodes done level : List Node}
    {batches : List (List Node)} (progress : Progress edges nodes done ⟨incoming, level⟩)
    (levels : Levels edges nodes (level.reverse ++ done)
      (level.foldl (expand edges) ⟨incoming, []⟩) batches) :
    Levels edges nodes done ⟨incoming, level⟩ (level :: batches) where
  layered := ⟨progress.exact.distinct, progress.mem_ready, levels.layered⟩
  missed := by
    intro node member unfinished absent
    simp only [List.flatten_cons, List.mem_append, not_or] at absent ⊢
    have later : node ∉ level.reverse ++ done := by
      simp only [List.mem_append, List.mem_reverse, not_or]
      exact ⟨absent.1, unfinished⟩
    obtain ⟨source, edge, sourceLater, sourceAbsent⟩ := levels.missed node member later absent.2
    simp only [List.mem_append, List.mem_reverse, not_or] at sourceLater
    exact ⟨source, edge, sourceLater.2, sourceLater.1, sourceAbsent⟩
  same := by
    intro steps sufficient
    have bound := progress.ready_length
    obtain ⟨later, rfl⟩ := Nat.exists_eq_add_of_le (show level.length ≤ steps by omega)
    have first := queueFrom_level edges later incoming level []
    rw [List.append_nil] at first
    rw [first, levels.same later, List.flatten_cons]
    rw [List.length_append, List.length_reverse]
    omega

/-- The loop makes the levels of the unfinished nodes. -/
theorem batchesFrom_levels {nodes : List Node}
    (targets : ∀ source target, Edge edges source target → target ∈ nodes)
    (fuel : Nat) (frontier : Frontier Node) (done : List Node)
    (progress : Progress edges nodes done frontier)
    (enough : nodes.length ≤ done.length + fuel) :
    Levels edges nodes done frontier (batchesFrom edges fuel frontier) := by
  induction fuel generalizing frontier done with
  | zero =>
      obtain ⟨incoming, ready⟩ := frontier
      have bound := progress.ready_length
      obtain rfl : ready = [] := List.length_eq_zero_iff.mp (by omega)
      exact progress.stopped
  | succ fuel ih =>
      obtain ⟨incoming, ready⟩ := frontier
      cases ready with
      | nil => exact progress.stopped
      | cons first others =>
          have whole : Progress edges nodes done ⟨incoming, (first :: others) ++ []⟩ := by
            rwa [List.append_nil]
          apply Levels.cons progress
          apply ih _ _ (whole.level targets)
          rw [List.length_append, List.length_reverse, List.length_cons]
          omega

end Levels

section Spec

variable {edges : List (Node × Node)} {nodes : List Node}

omit [LinearOrder Node] in
theorem Ordered.append {done first rest : List Node} (distinct : first.Nodup)
    (ready : ∀ node ∈ first, node ∉ done ∧ ∀ source, Edge edges source node → source ∈ done)
    (later : Ordered edges (first.reverse ++ done) rest) : Ordered edges done (first ++ rest) := by
  induction first generalizing done with
  | nil => exact later
  | cons node others ih =>
      obtain ⟨apart, distinct⟩ := List.nodup_cons.mp distinct
      obtain ⟨fresh, sources⟩ := ready node (.head _)
      refine ⟨fresh, sources, ih distinct ?_ ?_⟩
      · intro other member
        obtain ⟨otherFresh, otherSources⟩ := ready other (.tail _ member)
        refine ⟨?_, fun source edge => .tail _ (otherSources source edge)⟩
        rw [List.mem_cons, not_or]
        refine ⟨?_, otherFresh⟩
        rintro rfl
        exact apart member
      · rwa [List.reverse_cons, List.append_assoc] at later

variable {done : List Node}

omit [LinearOrder Node] in
/-- The nodes of all batches in turn follow their sources. -/
theorem Layered.ordered {batches : List (List Node)}
    (layered : Layered edges nodes done batches) : Ordered edges done batches.flatten := by
  induction batches generalizing done with
  | nil => trivial
  | cons batch rest ih =>
      obtain ⟨distinct, exactly, later⟩ := layered
      rw [List.flatten_cons]
      apply Ordered.append distinct _ (ih later)
      intro node member
      exact ((exactly node).mp member).2

omit [LinearOrder Node] in
theorem Layered.inside {batches : List (List Node)}
    (layered : Layered edges nodes done batches) : ∀ node ∈ batches.flatten, node ∈ nodes := by
  induction batches generalizing done with
  | nil => simp
  | cons batch rest ih =>
      obtain ⟨_, exactly, later⟩ := layered
      intro node member
      rcases List.mem_append.mp member with first | behind
      · exact ((exactly node).mp first).1
      · exact ih later node behind

variable {batch : List Node}

section

variable {batches : List (List Node)} {index : Nat} (layered : Layered edges nodes done batches)
include layered

omit [LinearOrder Node] in
/-- A source of a node stands in an earlier batch or is done before all of them. -/
theorem Layered.source_earlier (found : batches[index]? = some batch) {source target : Node}
    (member : target ∈ batch) (edge : Edge edges source target) :
    source ∈ done ∨ ∃ before < index, ∃ other, batches[before]? = some other ∧ source ∈ other := by
  induction batches generalizing done index with
  | nil => simp at found
  | cons first rest ih =>
      obtain ⟨_, exactly, later⟩ := layered
      cases index with
      | zero =>
          rw [List.getElem?_cons_zero, Option.some.injEq] at found
          subst found
          exact .inl (((exactly target).mp member).2.2 source edge)
      | succ index =>
          rw [List.getElem?_cons_succ] at found
          rcases ih later found with finished | ⟨before, less, other, place, inside⟩
          · rcases List.mem_append.mp finished with level | earlier
            · exact .inr ⟨0, Nat.succ_pos _, first, rfl, List.mem_reverse.mp level⟩
            · exact .inl earlier
          · exact .inr ⟨before + 1, Nat.succ_lt_succ less, other, place, inside⟩

/-- No other numbering of the nodes with growing edges has a node before its batch. -/
theorem Layered.earliest (stage : Node → Nat) (base : Nat)
    (grows : ∀ source target, Edge edges source target → stage source < stage target)
    (sources : ∀ source target, Edge edges source target → source ∈ nodes)
    (finished : ∀ node ∈ nodes, stage node < base → node ∈ done)
    (found : batches[index]? = some batch) {node : Node}
    (member : node ∈ batch) : base + index ≤ stage node := by
  induction batches generalizing done index base with
  | nil => simp at found
  | cons first rest ih =>
      obtain ⟨_, exactly, later⟩ := layered
      cases index with
      | zero =>
          rw [List.getElem?_cons_zero, Option.some.injEq] at found
          subst found
          obtain ⟨known, unfinished, _⟩ := (exactly node).mp member
          by_contra early
          exact unfinished (finished node known (by omega))
      | succ index =>
          rw [List.getElem?_cons_succ] at found
          have bound := ih later (base + 1) ?_ found
          · omega
          · intro other known early
            rw [List.mem_append, List.mem_reverse]
            by_cases already : other ∈ done
            · exact .inr already
            · refine .inl ((exactly other).mpr ⟨known, already, ?_⟩)
              intro source edge
              have less := grows source other edge
              exact finished source (sources source other edge) (by omega)

end

variable (edges)

/-- The batches of distinct nodes are the levels of the graph. -/
theorem batches_layered (distinct : nodes.Nodup)
    (targets : ∀ source target, Edge edges source target → target ∈ nodes) :
    Layered edges nodes [] (batches edges nodes) :=
  (batchesFrom_levels targets nodes.length _ [] (startQueue_progress nodes distinct)
    (by simp)).layered

/-- Both loops take the nodes in the same order. -/
theorem batches_flatten (distinct : nodes.Nodup)
    (targets : ∀ source target, Edge edges source target → target ∈ nodes) :
    (batches edges nodes).flatten = queueOrder edges nodes :=
  ((batchesFrom_levels targets nodes.length _ [] (startQueue_progress nodes distinct)
    (by simp)).same nodes.length (by simp)).symm

/-- The loop takes all nodes exactly without a cycle. -/
theorem batches_complete (distinct : nodes.Nodup)
    (targets : ∀ source target, Edge edges source target → target ∈ nodes)
    (sources : ∀ source target, Edge edges source target → source ∈ nodes) :
    (batches edges nodes).flatten.length = nodes.length ↔ ¬ HasCycle edges := by
  have levels := batchesFrom_levels targets nodes.length _ [] (startQueue_progress nodes distinct)
    (by simp)
  have layered := batches_layered edges distinct targets
  exact layered.ordered.complete_iff distinct layered.inside targets sources
    fun node member absent => by
      obtain ⟨source, edge, _, unordered⟩ := levels.missed node member List.not_mem_nil absent
      exact ⟨source, edge, unordered⟩

end Spec

end AgentFabric.Precedence

namespace AgentFabric.NamedGraph
open Precedence

variable {Node : Type} (nodeId : Node → String) (dependencies : Node → List String)

/-- Each dependency leads to the node that names it, in the order of the declarations. -/
def edges (nodes : List Node) : List (String × String) :=
  nodes.flatMap fun node => (dependencies node).map fun dependency => (dependency, nodeId node)

/-- The subscript of the dict of all nodes. -/
def byId (nodes : List Node) (id : String) : Except PyError Node :=
  match nodes.find? fun node => nodeId node = id with
  | none => .error (.keyError id)
  | some node => .ok node

variable (duplicate : String)

/-- The ids are distinct and the first unknown dependency raises. -/
def checkNodes (nodes : List Node) : Except PyError Unit :=
  if ¬ (nodes.map nodeId).Nodup then .error (.validationError duplicate)
  else
    match (edges nodeId dependencies nodes).find? fun edge => edge.1 ∉ nodes.map nodeId with
    | some edge => .error (.validationError ("unknown dependency: " ++ edge.1))
    | none => .ok ()

/-- The ids are distinct and each dependency is one of them. -/
structure WellFormed (nodes : List Node) : Prop where
  distinct : (nodes.map nodeId).Nodup
  known : ∀ node ∈ nodes, ∀ dependency ∈ dependencies node, dependency ∈ nodes.map nodeId

variable {nodeId dependencies} {nodes : List Node}

theorem edge_iff {source target : String} :
    Edge (edges nodeId dependencies nodes) source target ↔
      ∃ node ∈ nodes, nodeId node = target ∧ source ∈ dependencies node := by
  simp only [Edge, edges, List.mem_flatMap, List.mem_map, Prod.mk.injEq]
  constructor
  · rintro ⟨node, member, dependency, listed, rfl, rfl⟩
    exact ⟨node, member, rfl, listed⟩
  · rintro ⟨node, member, rfl, listed⟩
    exact ⟨node, member, source, listed, rfl, rfl⟩

theorem edge_target (source target : String)
    (edge : Edge (edges nodeId dependencies nodes) source target) : target ∈ nodes.map nodeId := by
  obtain ⟨node, member, rfl, _⟩ := edge_iff.mp edge
  exact List.mem_map_of_mem member

theorem WellFormed.edge_source (wellFormed : WellFormed nodeId dependencies nodes)
    (source target : String) (edge : Edge (edges nodeId dependencies nodes) source target) :
    source ∈ nodes.map nodeId := by
  obtain ⟨node, member, _, listed⟩ := edge_iff.mp edge
  exact wellFormed.known node member source listed

/-- The check returns exactly for distinct ids and known dependencies. -/
theorem checkNodes_eq_ok_iff (nodes : List Node) :
    checkNodes nodeId dependencies duplicate nodes = .ok () ↔
      WellFormed nodeId dependencies nodes := by
  unfold checkNodes
  split
  · rename_i repeated
    exact iff_of_false (by simp) fun wellFormed => repeated wellFormed.distinct
  · rename_i single
    have distinct := not_not.mp single
    split
    · rename_i edge found
      refine iff_of_false (by simp) fun wellFormed => ?_
      have unknown := List.find?_some found
      have source := wellFormed.edge_source edge.1 edge.2 (List.mem_of_find?_eq_some found)
      simp [source] at unknown
    · rename_i none
      refine iff_of_true rfl ⟨distinct, ?_⟩
      intro node member dependency listed
      have checked := List.find?_eq_none.mp none (dependency, nodeId node)
        (edge_iff.mpr ⟨node, member, rfl, listed⟩)
      simpa using checked

section

variable (distinct : (nodes.map nodeId).Nodup)
include distinct

theorem byId_of_mem {node : Node}
    (member : node ∈ nodes) : byId nodeId nodes (nodeId node) = .ok node := by
  unfold byId
  cases found : nodes.find? fun other => nodeId other = nodeId node with
  | none =>
      have missed := List.find?_eq_none.mp found node member
      simp at missed
  | some other =>
      have same : nodeId other = nodeId node := by simpa using List.find?_some found
      have inside := List.mem_of_find?_eq_some found
      rw [List.inj_on_of_nodup_map distinct inside member same]

/-- The nodes of a list of known ids. -/
theorem mapM_byId (ids : List String) (known : ∀ id ∈ ids, id ∈ nodes.map nodeId) :
    ∃ found, ids.mapM (byId nodeId nodes) = .ok found ∧ found.map nodeId = ids ∧
      ∀ node ∈ found, node ∈ nodes := by
  induction ids with
  | nil => exact ⟨[], rfl, rfl, by simp⟩
  | cons id rest ih =>
      obtain ⟨node, member, rfl⟩ := List.mem_map.mp (known id (.head _))
      obtain ⟨found, returned, ids, inside⟩ := ih fun other listed =>
        known other (.tail _ listed)
      refine ⟨node :: found, ?_, by rw [List.map_cons, ids], ?_⟩
      · rw [List.mapM_cons, byId_of_mem distinct member, returned]
        rfl
      · rintro other listed
        rcases List.mem_cons.mp listed with rfl | later
        · exact member
        · exact inside other later

/-- The nodes of a list of batches of known ids. -/
theorem mapM_mapM_byId (batches : List (List String))
    (known : ∀ id ∈ batches.flatten, id ∈ nodes.map nodeId) :
    ∃ found, batches.mapM (fun batch => batch.mapM (byId nodeId nodes)) = .ok found ∧
      found.map (fun batch => batch.map nodeId) = batches ∧
      ∀ node ∈ found.flatten, node ∈ nodes := by
  induction batches with
  | nil => exact ⟨[], rfl, rfl, by simp⟩
  | cons batch rest ih =>
      simp only [List.flatten_cons, List.mem_append] at known
      obtain ⟨first, firstReturned, firstIds, firstInside⟩ := mapM_byId distinct batch
        fun id listed => known id (.inl listed)
      obtain ⟨found, returned, ids, inside⟩ := ih fun id listed => known id (.inr listed)
      refine ⟨first :: found, ?_, by rw [List.map_cons, firstIds, ids], ?_⟩
      · rw [List.mapM_cons, firstReturned, returned]
        rfl
      · intro node listed
        rw [List.flatten_cons, List.mem_append] at listed
        exact listed.elim (firstInside node) (inside node)

end

variable (nodeId dependencies) in
/-- An order of all nodes behind their dependencies. -/
structure Placed (nodes all : List Node) : Prop where
  perm : all.Perm nodes
  ordered : Ordered (edges nodeId dependencies nodes) [] (all.map nodeId)

namespace Placed

variable {nodes all done later : List Node} {node : Node}

section

variable (placed : Placed nodeId dependencies nodes all)
include placed

theorem distinct : (all.map nodeId).Nodup :=
  placed.ordered.nodup.1

/-- The next node is new and its dependencies are earlier nodes. -/
theorem next (split : all = done ++ node :: later) :
    nodeId node ∉ done.map nodeId ∧
      ∀ dependency ∈ dependencies node, dependency ∈ done.map nodeId := by
  have ordered := placed.ordered
  rw [split, List.map_append, List.map_cons] at ordered
  obtain ⟨_, absent, sources⟩ := ordered.split
  refine ⟨absent, ?_⟩
  intro dependency listed
  have known : node ∈ nodes := placed.perm.mem_iff.mp (by simp [split])
  exact (sources dependency (edge_iff.mpr ⟨node, known, rfl, listed⟩)).resolve_left List.not_mem_nil

/-- The dependencies of earlier nodes are earlier nodes. -/
theorem closed (split : all = done ++ later) :
    ∀ other ∈ done, ∀ dependency ∈ dependencies other, dependency ∈ done.map nodeId := by
  intro other member dependency listed
  obtain ⟨first, rest, rfl⟩ := List.append_of_mem member
  have place : all = first ++ other :: (rest ++ later) := by simpa using split
  rw [List.map_append]
  exact List.mem_append_left _ ((placed.next place).2 dependency listed)

/-- Two nodes of an order with one id are one node. -/
theorem eq_of_id {first second : Node} (firstMember : first ∈ all) (secondMember : second ∈ all)
    (same : nodeId first = nodeId second) : first = second :=
  List.inj_on_of_nodup_map placed.distinct firstMember secondMember same

end

end Placed

end AgentFabric.NamedGraph
