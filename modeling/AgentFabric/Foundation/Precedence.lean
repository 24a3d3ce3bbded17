import AgentFabric.Foundation.Lists
import Mathlib.Data.Fintype.Order

namespace AgentFabric.Precedence
open Sorting

variable {Node Key : Type*}

section Graph

variable (edges : List (Node × Node))

/-- An edge of the graph leads from its source to its target. -/
def Edge (source target : Node) : Prop := (source, target) ∈ edges

/-- A node that leads back to itself. -/
def HasCycle : Prop := ∃ node, Relation.TransGen (Edge edges) node node

/-- Each node follows all of its sources and stands in no earlier place. -/
def Ordered : List Node → List Node → Prop
  | _, [] => True
  | done, node :: rest =>
      node ∉ done ∧ (∀ source, Edge edges source node → source ∈ done) ∧ Ordered (node :: done) rest

variable {edges}

/-- The targets of a set of nodes lie with their sources. -/
def Closed (edges : List (Node × Node)) (done : List Node) : Prop :=
  ∀ source target, Edge edges source target → target ∈ done → source ∈ done

theorem Closed.cons {done : List Node} {node : Node} (closed : Closed edges done)
    (sources : ∀ source, Edge edges source node → source ∈ done) : Closed edges (node :: done) := by
  intro source target edge finished
  rcases List.mem_cons.mp finished with rfl | earlier
  · exact .tail _ (sources source edge)
  · exact .tail _ (closed source target edge earlier)

variable {done order : List Node}

theorem Ordered.nodup (ordered : Ordered edges done order) :
    order.Nodup ∧ ∀ node ∈ order, node ∉ done := by
  induction order generalizing done with
  | nil => simp
  | cons node rest ih =>
      obtain ⟨fresh, _, later⟩ := ordered
      obtain ⟨distinct, apart⟩ := ih later
      refine ⟨List.nodup_cons.mpr ⟨fun member => apart node member (.head _), distinct⟩, ?_⟩
      intro other member
      rcases List.mem_cons.mp member with rfl | inside
      · exact fresh
      · exact fun earlier => apart other inside (.tail _ earlier)

/-- A node of an order comes after its sources. -/
theorem Ordered.split {done first rest : List Node} {node : Node}
    (ordered : Ordered edges done (first ++ node :: rest)) :
    node ∉ done ∧ node ∉ first ∧
      ∀ source, Edge edges source node → source ∈ done ∨ source ∈ first := by
  induction first generalizing done with
  | nil =>
      obtain ⟨fresh, sources, _⟩ := ordered
      exact ⟨fresh, List.not_mem_nil, fun source edge => .inl (sources source edge)⟩
  | cons head others ih =>
      obtain ⟨_, _, later⟩ := ordered
      obtain ⟨fresh, absent, sources⟩ := ih later
      rw [List.mem_cons, not_or] at fresh
      refine ⟨fresh.2, ?_, ?_⟩
      · rw [List.mem_cons, not_or]
        exact ⟨fresh.1, absent⟩
      · intro source edge
        rcases sources source edge with earlier | inside
        · rcases List.mem_cons.mp earlier with rfl | before
          · exact .inr (.head _)
          · exact .inl before
        · exact .inr (.tail _ inside)

/-- The place of a source in an order is before the place of its target. -/
theorem Ordered.idxOf_lt [DecidableEq Node]
    (ordered : Ordered edges done order) {source target : Node} (edge : Edge edges source target)
    (sourceFresh : source ∉ done) (member : target ∈ order) :
    order.idxOf source < order.idxOf target := by
  induction order generalizing done with
  | nil => cases member
  | cons node rest ih =>
      obtain ⟨_, sources, later⟩ := ordered
      by_cases isTarget : node = target
      · subst isTarget
        exact absurd (sources source edge) sourceFresh
      · rw [List.idxOf_cons_ne _ isTarget]
        by_cases isSource : node = source
        · rw [List.idxOf_cons_eq _ isSource]
          exact Nat.succ_pos _
        · rw [List.idxOf_cons_ne _ isSource]
          have inside := (List.mem_cons.mp member).resolve_left (Ne.symm isTarget)
          apply Nat.succ_lt_succ
          apply ih later _ inside
          rw [List.mem_cons, not_or]
          exact ⟨Ne.symm isSource, sourceFresh⟩

/-- An order of all targets excludes every cycle. -/
theorem Ordered.acyclic [DecidableEq Node] {order : List Node} (ordered : Ordered edges [] order)
    (targets : ∀ source target, Edge edges source target → target ∈ order) :
    ¬ HasCycle edges := by
  have increases (source target : Node) (path : Relation.TransGen (Edge edges) source target) :
      order.idxOf source < order.idxOf target := by
    induction path with
    | single edge => exact ordered.idxOf_lt edge List.not_mem_nil (targets _ _ edge)
    | tail _ edge less => exact less.trans (ordered.idxOf_lt edge List.not_mem_nil (targets _ _ edge))
  rintro ⟨node, path⟩
  exact lt_irrefl _ (increases node node path)

/-- A finite set of nodes that each have a source inside it holds a cycle. -/
theorem hasCycle_of_sources (inside : List Node) (node : Node) (member : node ∈ inside)
    (sources : ∀ target ∈ inside, ∃ source ∈ inside, Edge edges source target) :
    HasCycle edges := by
  by_contra acyclic
  let before (first second : { other // other ∈ inside }) : Prop :=
    Relation.TransGen (Edge edges) first.1 second.1
  have finite : Finite { other // other ∈ inside } := List.finite_toSet inside
  have transitive : IsTrans _ before := ⟨fun _ _ _ first second => first.trans second⟩
  have irreflexive : Std.Irrefl before := ⟨fun other path => acyclic ⟨other.1, path⟩⟩
  have founded : WellFounded before := Finite.wellFounded_of_trans_of_irrefl before
  obtain ⟨least, _, minimal⟩ := founded.has_min Set.univ ⟨⟨node, member⟩, trivial⟩
  obtain ⟨source, known, edge⟩ := sources least.1 least.2
  exact minimal ⟨source, known⟩ trivial (.single edge)

/-- An order in which each missed node has a missed source has all nodes exactly without a cycle. -/
theorem Ordered.complete_iff [DecidableEq Node] {nodes order : List Node}
    (ordered : Ordered edges [] order) (distinct : nodes.Nodup)
    (inside : ∀ node ∈ order, node ∈ nodes)
    (targets : ∀ source target, Edge edges source target → target ∈ nodes)
    (sources : ∀ source target, Edge edges source target → source ∈ nodes)
    (missed : ∀ node ∈ nodes, node ∉ order → ∃ source, Edge edges source node ∧ source ∉ order) :
    order.length = nodes.length ↔ ¬ HasCycle edges := by
  have subperm := ordered.nodup.1.subperm inside
  constructor
  · intro complete
    have perm := subperm.perm_of_length_le (le_of_eq complete.symm)
    exact ordered.acyclic fun source target edge => perm.mem_iff.mpr (targets source target edge)
  · intro acyclic
    apply le_antisymm subperm.length_le
    by_contra short
    obtain ⟨node, member, absent⟩ : ∃ node ∈ nodes, node ∉ order := by
      by_contra covered
      push Not at covered
      exact short (distinct.subperm covered).length_le
    apply acyclic
    apply hasCycle_of_sources (nodes.filter fun other => other ∉ order) node
      (by simp [member, absent])
    intro target found
    simp only [List.mem_filter, decide_eq_true_eq] at found
    obtain ⟨source, edge, unordered⟩ := missed target found.1 found.2
    refine ⟨source, ?_, edge⟩
    simp only [List.mem_filter, decide_eq_true_eq]
    exact ⟨sources source target edge, unordered⟩

end Graph

section Kahn

variable [LinearOrder Node] [LinearOrder Key] (edges : List (Node × Node)) (key : Node → Key)

/-- The open sources of each node and the nodes that have none. -/
structure Frontier (Node : Type*) where
  incoming : Node → Int
  ready : List Node

variable (nodes : List Node)

/-- The frontier before the first node. -/
def start : Frontier Node :=
  let incoming := fun node => (edges.countP fun edge => edge.2 = node : Int)
  ⟨incoming, sortedBy key (nodes.filter fun node => incoming node = 0)⟩

/-- A finished source leaves its target, which becomes ready at the last one. -/
def release (frontier : Frontier Node) (target : Node) : Frontier Node :=
  let incoming := Function.update frontier.incoming target (frontier.incoming target - 1)
  if incoming target = 0 then ⟨incoming, sortedBy key (frontier.ready ++ [target])⟩
  else ⟨incoming, frontier.ready⟩

/-- The targets of the edges of one node. -/
def successors (node : Node) : List Node :=
  (edges.filter fun edge => edge.1 = node).map Prod.snd

/-- The loop takes the first ready node until none is left. -/
def orderFrom : Nat → Frontier Node → List Node
  | 0, _ => []
  | fuel + 1, frontier =>
      match frontier.ready with
      | [] => []
      | node :: rest =>
          node :: orderFrom fuel
            ((sortedBy id (successors edges node)).foldl (release key) ⟨frontier.incoming, rest⟩)

/-- Kahn's order of the nodes, which takes each node at most once. -/
def topologicalOrder : List Node :=
  orderFrom edges key nodes.length (start edges key nodes)

/-- The edges into a node whose source is not done. -/
def openEdges (done : List Node) (node : Node) : Nat :=
  edges.countP fun edge => edge.2 = node ∧ edge.1 ∉ done

/-- The frontier counts the open edges and some edges that are still to be released. -/
structure Exact (nodes done pending : List Node) (frontier : Frontier Node) : Prop where
  incoming : ∀ node, frontier.incoming node = openEdges edges done node + pending.count node
  ready : ∀ node, node ∈ frontier.ready ↔ node ∈ nodes ∧ node ∉ done ∧ frontier.incoming node = 0
  distinct : frontier.ready.Nodup

variable {edges key} {done : List Node}

theorem openEdges_pos {source target : Node} (edge : Edge edges source target)
    (unfinished : source ∉ done) : 0 < openEdges edges done target := by
  rw [openEdges, List.countP_pos_iff]
  exact ⟨(source, target), edge, by simp [unfinished]⟩

theorem exists_edge_of_openEdges {target : Node} (pending : 0 < openEdges edges done target) :
    ∃ source, Edge edges source target ∧ source ∉ done := by
  rw [openEdges, List.countP_pos_iff] at pending
  obtain ⟨⟨source, node⟩, member, facts⟩ := pending
  simp only [decide_eq_true_eq] at facts
  obtain ⟨rfl, unfinished⟩ := facts
  exact ⟨source, member, unfinished⟩

variable {node : Node}

/-- Finishing a node moves its edges from the open ones to the ones to release. -/
theorem openEdges_cons (fresh : node ∉ done) (target : Node) :
    openEdges edges done target =
      openEdges edges (node :: done) target + (successors edges node).count target := by
  unfold openEdges successors
  induction edges with
  | nil => rfl
  | cons edge rest ih =>
      obtain ⟨source, other⟩ := edge
      simp only [List.countP_cons, List.filter_cons, ih]
      by_cases isSource : source = node
      · subst isSource
        by_cases isTarget : other = target
        · simp [isTarget, fresh]
          omega
        · simp [isTarget]
      · by_cases isTarget : other = target
        · by_cases known : source ∈ done
          · simp [isSource, known]
          · simp [isSource, isTarget, known]
            omega
        · simp [isSource, isTarget]

variable {frontier : Frontier Node}

theorem release_exact {nodes done pending : List Node} {target : Node}
    (exact : Exact edges nodes done (target :: pending) frontier) (known : target ∈ nodes)
    (unfinished : target ∉ done) :
    Exact edges nodes done pending (release key frontier target) := by
  have before := exact.incoming target
  rw [List.count_cons_self] at before
  have counts : ∀ node, Function.update frontier.incoming target (frontier.incoming target - 1) node =
      openEdges edges done node + pending.count node := by
    intro node
    by_cases isTarget : node = target
    · subst isTarget
      rw [Function.update_self, before]
      omega
    · rw [Function.update_of_ne isTarget, exact.incoming node,
        List.count_cons_of_ne (Ne.symm isTarget)]
  have absent : target ∉ frontier.ready := by
    rw [exact.ready, before]
    omega
  have others (node : Node) (different : node ≠ target) : node ∈ frontier.ready ↔ node ∈ nodes ∧
      node ∉ done ∧ Function.update frontier.incoming target (frontier.incoming target - 1) node = 0 := by
    rw [Function.update_of_ne different]
    exact exact.ready node
  unfold release
  by_cases last : Function.update frontier.incoming target (frontier.incoming target - 1) target = 0
  · rw [if_pos last]
    refine ⟨counts, ?_, ?_⟩
    · intro node
      rw [mem_sortedBy, List.mem_append, List.mem_singleton]
      by_cases isTarget : node = target
      · subst isTarget
        simp only [or_true, true_iff]
        exact ⟨known, unfinished, last⟩
      · rw [others node isTarget]
        simp [isTarget]
    · rw [(sortedBy_perm key _).nodup_iff, ← List.concat_eq_append]
      exact exact.distinct.concat absent
  · rw [if_neg last]
    refine ⟨counts, ?_, exact.distinct⟩
    intro node
    by_cases isTarget : node = target
    · subst isTarget
      exact iff_of_false absent fun facts => last facts.2.2
    · exact others node isTarget

theorem foldl_release_exact {nodes done pending : List Node}
    (exact : Exact edges nodes done pending frontier)
    (known : ∀ target ∈ pending, target ∈ nodes ∧ target ∉ done) :
    Exact edges nodes done [] (pending.foldl (release key) frontier) := by
  induction pending generalizing frontier with
  | nil => exact exact
  | cons target rest ih =>
      obtain ⟨inside, unfinished⟩ := known target (.head _)
      exact ih (release_exact exact inside unfinished) fun other member =>
        known other (.tail _ member)

theorem mem_successors {node target : Node} :
    target ∈ successors edges node ↔ Edge edges node target := by
  simp only [successors, List.mem_map, List.mem_filter, decide_eq_true_eq, Edge]
  constructor
  · rintro ⟨⟨source, other⟩, ⟨member, rfl⟩, rfl⟩
    exact member
  · intro member
    exact ⟨(node, target), ⟨member, rfl⟩, rfl⟩

theorem start_exact (distinct : nodes.Nodup) : Exact edges nodes [] [] (start edges key nodes) where
  incoming := by
    intro node
    simp [start, openEdges]
  ready := by
    intro node
    simp [start, mem_sortedBy]
  distinct := (sortedBy_perm key _).nodup_iff.mpr (distinct.filter _)

omit [LinearOrder Node] in
/-- No target of a ready node is finished. -/
theorem successor_unfinished {node target : Node} (fresh : node ∉ done)
    (sources : ∀ source, Edge edges source node → source ∈ done)
    (closed : ∀ source target, Edge edges source target → target ∈ done → source ∈ done)
    (edge : Edge edges node target) : target ∉ node :: done := by
  rw [List.mem_cons, not_or]
  constructor
  · rintro rfl
    exact fresh (sources target edge)
  · exact fun finished => fresh (closed node target edge finished)

variable {incoming : Node → Int}

/-- A ready node is a fresh node whose sources are finished. -/
theorem Exact.ready_node {nodes done rest : List Node}
    (exact : Exact edges nodes done [] ⟨incoming, node :: rest⟩) :
    node ∈ nodes ∧ node ∉ done ∧ ∀ source, Edge edges source node → source ∈ done := by
  obtain ⟨member, fresh, none⟩ := (exact.ready node).mp (.head _)
  refine ⟨member, fresh, ?_⟩
  intro source edge
  by_contra unfinished
  have positive := openEdges_pos edge unfinished
  have count := exact.incoming node
  rw [none, List.count_nil] at count
  omega

/-- Without a ready node every unfinished node has an unfinished source. -/
theorem Exact.stuck {nodes done : List Node}
    (exact : Exact edges nodes done [] ⟨incoming, []⟩) (member : node ∈ nodes)
    (missed : node ∉ done) : ∃ source, Edge edges source node ∧ source ∉ done := by
  have waiting : incoming node ≠ 0 := fun none =>
    List.not_mem_nil ((exact.ready node).mpr ⟨member, missed, none⟩)
  have count : incoming node = openEdges edges done node + (0 : Nat) := exact.incoming node
  have positive : 0 < openEdges edges done node := by omega
  exact exists_edge_of_openEdges positive

/-- Taking the first ready node leaves the edges to its targets to be released. -/
theorem Exact.take {nodes done rest : List Node}
    (exact : Exact edges nodes done [] ⟨incoming, node :: rest⟩) (fresh : node ∉ done) :
    Exact edges nodes (node :: done) (successors edges node) ⟨incoming, rest⟩ := by
  obtain ⟨apart, distinct⟩ := List.nodup_cons.mp exact.distinct
  refine ⟨?_, ?_, distinct⟩
  · intro other
    have count : incoming other = openEdges edges done other + (0 : Nat) := exact.incoming other
    rw [openEdges_cons fresh] at count
    show incoming other = _
    rw [count]
    omega
  · intro other
    have listed := exact.ready other
    simp only [List.mem_cons, not_or] at listed ⊢
    by_cases isNode : other = node
    · subst isNode
      simp [apart]
    · simp only [isNode, false_or, not_false_eq_true, true_and] at listed ⊢
      exact listed

/-- The order of the edges to release does not matter. -/
theorem Exact.of_perm {nodes done pending other : List Node}
    (exact : Exact edges nodes done pending frontier) (perm : other.Perm pending) :
    Exact edges nodes done other frontier := by
  refine ⟨?_, exact.ready, exact.distinct⟩
  intro node
  rw [perm.count_eq]
  exact exact.incoming node

variable (key)

/-- The next frontier after the first ready node. -/
theorem next_exact {nodes done rest : List Node}
    (exact : Exact edges nodes done [] ⟨incoming, node :: rest⟩) (fresh : node ∉ done)
    (sources : ∀ source, Edge edges source node → source ∈ done)
    (closed : ∀ source target, Edge edges source target → target ∈ done → source ∈ done)
    (targets : ∀ source target, Edge edges source target → target ∈ nodes) :
    Exact edges nodes (node :: done) []
      ((sortedBy id (successors edges node)).foldl (release key) ⟨incoming, rest⟩) := by
  have sorted := sortedBy_perm id (successors edges node)
  apply foldl_release_exact ((exact.take fresh).of_perm sorted)
  intro target member
  have edge := mem_successors.mp (sorted.mem_iff.mp member)
  exact ⟨targets node target edge, successor_unfinished fresh sources closed edge⟩

/-- The loop orders nodes behind their sources, and each node that it misses has a missed source. -/
theorem orderFrom_spec {nodes : List Node}
    (targets : ∀ source target, Edge edges source target → target ∈ nodes)
    (fuel : Nat) (frontier : Frontier Node) (done : List Node)
    (exact : Exact edges nodes done [] frontier)
    (closed : ∀ source target, Edge edges source target → target ∈ done → source ∈ done)
    (doneDistinct : done.Nodup) (doneInside : ∀ node ∈ done, node ∈ nodes)
    (enough : done.length + fuel = nodes.length) :
    Ordered edges done (orderFrom edges key fuel frontier) ∧
      (∀ node ∈ orderFrom edges key fuel frontier, node ∈ nodes) ∧
      ∀ node ∈ nodes, node ∉ done → node ∉ orderFrom edges key fuel frontier →
        ∃ source, Edge edges source node ∧ source ∉ done ∧
          source ∉ orderFrom edges key fuel frontier := by
  induction fuel generalizing frontier done with
  | zero =>
      refine ⟨trivial, by simp [orderFrom], ?_⟩
      intro node member missed
      have perm : done.Perm nodes := (doneDistinct.subperm doneInside).perm_of_length_le (by omega)
      exact absurd (perm.mem_iff.mpr member) missed
  | succ fuel ih =>
      obtain ⟨incoming, ready⟩ := frontier
      cases ready with
      | nil =>
          refine ⟨trivial, by simp [orderFrom], ?_⟩
          intro node member missed _
          obtain ⟨source, edge, unfinished⟩ := exact.stuck member missed
          exact ⟨source, edge, unfinished, List.not_mem_nil⟩
      | cons node rest =>
          obtain ⟨member, fresh, sources⟩ := exact.ready_node
          obtain ⟨ordered, inside, missed⟩ := ih _ (node :: done)
            (next_exact key exact fresh sources closed targets) (Closed.cons closed sources)
            (List.nodup_cons.mpr ⟨fresh, doneDistinct⟩)
            (by
              intro other finished
              rcases List.mem_cons.mp finished with rfl | earlier
              · exact member
              · exact doneInside other earlier)
            (by
              rw [List.length_cons]
              omega)
          refine ⟨⟨fresh, sources, ordered⟩, ?_, ?_⟩
          · intro other found
            rcases List.mem_cons.mp found with rfl | later
            · exact member
            · exact inside other later
          · intro other known unfinished notOrdered
            simp only [orderFrom, List.mem_cons, not_or] at notOrdered ⊢
            obtain ⟨source, edge, sourceMissed, sourceUnordered⟩ := missed other known
              (by
                rw [List.mem_cons, not_or]
                exact ⟨notOrdered.1, unfinished⟩) notOrdered.2
            rw [List.mem_cons, not_or] at sourceMissed
            exact ⟨source, edge, sourceMissed.2, sourceMissed.1, sourceUnordered⟩

variable (edges)

/-- The order has every node behind its sources, and it has all nodes exactly without a cycle. -/
theorem topologicalOrder_spec (distinct : nodes.Nodup)
    (targets : ∀ source target, Edge edges source target → target ∈ nodes)
    (sources : ∀ source target, Edge edges source target → source ∈ nodes) :
    Ordered edges [] (topologicalOrder edges key nodes) ∧
      (∀ node ∈ topologicalOrder edges key nodes, node ∈ nodes) ∧
      ((topologicalOrder edges key nodes).length = nodes.length ↔ ¬ HasCycle edges) := by
  obtain ⟨ordered, inside, missed⟩ := orderFrom_spec key targets nodes.length
    (start edges key nodes) [] (start_exact nodes distinct) (by simp) List.nodup_nil (by simp)
    (by simp)
  refine ⟨ordered, inside, ordered.complete_iff distinct inside targets sources ?_⟩
  intro node member absent
  obtain ⟨source, edge, _, unordered⟩ := missed node member List.not_mem_nil absent
  exact ⟨source, edge, unordered⟩

section Least

variable {edges} {key} {nodes done : List Node} {frontier : Frontier Node}

variable (key) in
/-- The ready nodes stand in the order of their keys. -/
def ReadySorted (frontier : Frontier Node) : Prop :=
  frontier.ready.Pairwise fun first second => key first ≤ key second

theorem release_sorted (sorted : ReadySorted key frontier) (target : Node) :
    ReadySorted key (release key frontier target) := by
  unfold ReadySorted release
  dsimp only
  split
  · exact sortedBy_pairwise key _
  · exact sorted

theorem foldl_release_sorted (sorted : ReadySorted key frontier) (targets : List Node) :
    ReadySorted key (targets.foldl (release key) frontier) := by
  induction targets generalizing frontier with
  | nil => exact sorted
  | cons target rest ih => exact ih (release_sorted sorted target)

omit [LinearOrder Key] in
/-- An unfinished node whose sources are finished is ready. -/
theorem Exact.ready_of_sources (exact : Exact edges nodes done [] frontier) {node : Node}
    (member : node ∈ nodes) (fresh : node ∉ done)
    (sources : ∀ source, Edge edges source node → source ∈ done) : node ∈ frontier.ready := by
  have none : openEdges edges done node = 0 := by
    by_contra waiting
    obtain ⟨source, edge, unfinished⟩ := exists_edge_of_openEdges (Nat.pos_of_ne_zero waiting)
    exact unfinished (sources source edge)
  have count := exact.incoming node
  rw [none, List.count_nil] at count
  exact (exact.ready node).mpr ⟨member, fresh, count⟩

variable {other : List Node}

/-- No order of the unfinished nodes behind their sources has lesser keys than the loop. -/
theorem orderFrom_least (targets : ∀ source target, Edge edges source target → target ∈ nodes)
    (injective : Function.Injective key) (fuel : Nat)
    (exact : Exact edges nodes done [] frontier) (sorted : ReadySorted key frontier)
    (closed : Closed edges done) (ordered : Ordered edges done other)
    (inside : ∀ node ∈ other, node ∈ nodes)
    (complete : ∀ node ∈ nodes, node ∉ done → node ∈ other) :
    (orderFrom edges key fuel frontier).map key ≤ other.map key := by
  induction fuel generalizing frontier done other with
  | zero => exact not_lt.mp (List.not_lt_nil _)
  | succ fuel ih =>
      obtain ⟨incoming, ready⟩ := frontier
      cases ready with
      | nil => exact not_lt.mp (List.not_lt_nil _)
      | cons node rest =>
          obtain ⟨member, fresh, sources⟩ := exact.ready_node
          cases other with
          | nil => exact absurd (complete node member fresh) List.not_mem_nil
          | cons first later =>
              obtain ⟨firstFresh, firstSources, behind⟩ := ordered
              have waits : first ∈ node :: rest :=
                exact.ready_of_sources (inside first (.head _)) firstFresh firstSources
              have least : key node ≤ key first := by
                rcases List.mem_cons.mp waits with same | after
                · exact le_of_eq (congrArg key same.symm)
                · exact (List.pairwise_cons.mp sorted).1 first after
              rcases least.lt_or_eq with less | same
              · exact le_of_lt (List.Lex.rel less)
              · have equal : node = first := injective same
                subst equal
                apply List.cons_le_cons
                have others : ReadySorted key ⟨incoming, rest⟩ := (List.pairwise_cons.mp sorted).2
                apply ih (next_exact key exact fresh sources closed targets)
                  (foldl_release_sorted others _) (closed.cons sources) behind
                · exact fun other found => inside other (.tail _ found)
                · intro other known unfinished
                  rw [List.mem_cons, not_or] at unfinished
                  exact (List.mem_cons.mp (complete other known unfinished.2)).resolve_left
                    unfinished.1

/-- Kahn's order has the least keys of all orders of the nodes behind their sources. -/
theorem topologicalOrder_least (distinct : nodes.Nodup)
    (targets : ∀ source target, Edge edges source target → target ∈ nodes)
    (injective : Function.Injective key) (ordered : Ordered edges [] other)
    (perm : other.Perm nodes) :
    (topologicalOrder edges key nodes).map key ≤ other.map key :=
  orderFrom_least targets injective nodes.length (start_exact nodes distinct)
    (sortedBy_pairwise key _) (by simp [Closed]) ordered (fun _ member => perm.mem_iff.mp member)
    fun _ member _ => perm.mem_iff.mpr member

end Least

end Kahn

end AgentFabric.Precedence

namespace AgentFabric.CriticalPath
open Precedence

variable {Node : Type*}

/-- A target comes no earlier than its source and a gap. -/
structure Constraint (Node : Type*) where
  source : Node
  target : Node
  gap : Int

/-- The edges of the constraints. -/
def edgesOf (constraints : List (Constraint Node)) : List (Node × Node) :=
  constraints.map fun constraint => (constraint.source, constraint.target)

variable (order : List Node) (bound : Node → Int → Prop) (constraints : List (Constraint Node))

/-- Times that meet the bounds of each node and the gap of each constraint. -/
structure Feasible (times : Node → Int) : Prop where
  bounds : ∀ node ∈ order, ∀ time, bound node time → time ≤ times node
  gaps : ∀ constraint ∈ constraints,
    times constraint.source + constraint.gap ≤ times constraint.target

/-- Each time is forced by a bound or by a constraint. -/
def Tight (times : Node → Int) : Prop :=
  ∀ node ∈ order, bound node (times node) ∨
    ∃ constraint ∈ constraints, constraint.target = node ∧
      times node = times constraint.source + constraint.gap

variable {order bound constraints} {times other : Node → Int}

theorem least_after {done rest : List Node} (ordered : Ordered (edgesOf constraints) done rest)
    (tight : Tight rest bound constraints times)
    (bounds : ∀ node ∈ rest, ∀ time, bound node time → time ≤ other node)
    (gaps : ∀ constraint ∈ constraints,
      other constraint.source + constraint.gap ≤ other constraint.target)
    (earlier : ∀ node ∈ done, times node ≤ other node) :
    ∀ node ∈ rest, times node ≤ other node := by
  induction rest generalizing done with
  | nil => simp
  | cons node rest ih =>
      obtain ⟨_, sources, later⟩ := ordered
      have first : times node ≤ other node := by
        rcases tight node (.head _) with atBound | ⟨constraint, member, rfl, forced⟩
        · exact bounds node (.head _) _ atBound
        · have finished : constraint.source ∈ done :=
            sources constraint.source (List.mem_map.mpr ⟨constraint, member, rfl⟩)
          have before := earlier constraint.source finished
          have gap := gaps constraint member
          omega
      intro found member
      rcases List.mem_cons.mp member with rfl | inside
      · exact first
      · apply ih later _ _ _ found inside
        · exact fun next nextMember => tight next (.tail _ nextMember)
        · exact fun next nextMember => bounds next (.tail _ nextMember)
        · intro finished known
          rcases List.mem_cons.mp known with rfl | old
          · exact first
          · exact earlier finished old

/-- Tight times along an order are the least feasible ones. -/
theorem least_of_tight (ordered : Ordered (edgesOf constraints) [] order)
    (tight : Tight order bound constraints times)
    (feasible : Feasible order bound constraints other) :
    ∀ node ∈ order, times node ≤ other node :=
  least_after ordered tight feasible.bounds feasible.gaps (by simp)

end AgentFabric.CriticalPath
