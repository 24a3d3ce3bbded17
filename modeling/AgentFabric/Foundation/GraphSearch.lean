import Mathlib.Data.List.Chain

namespace AgentFabric.DepthFirst

variable {Node Report : Type*}

/-- The nodes on the current path, the nodes that are left and what the search has reported. -/
structure Search (Node Report : Type*) where
  visiting : List Node
  visited : List Node
  reports : List Report

def Search.start : Search Node Report := ⟨[], [], []⟩

def Search.report (search : Search Node Report) (report : Report) : Search Node Report :=
  { search with reports := search.reports ++ [report] }

def Search.enter (search : Search Node Report) (node : Node) : Search Node Report :=
  { search with visiting := node :: search.visiting }

def Search.leave [DecidableEq Node] (search : Search Node Report) (node : Node) : Search Node Report where
  visiting := search.visiting.filter fun other => other ≠ node
  visited := node :: search.visited
  reports := search.reports

variable (children : Node → List Node) (report : List Node → Node → Report)

/-- The second node is a child of the first one. -/
def Edge (source target : Node) : Prop := target ∈ children source

variable [DecidableEq Node]

/-- The search behind a path goes through some nodes: it reports a node of the path, passes a visited
node and enters any other one. -/
inductive Explores : List Node → List Node → Search Node Report → Search Node Report → Prop
  | nil (path : List Node) (search : Search Node Report) : Explores path [] search search
  | again {path rest : List Node} {node : Node} {search result : Search Node Report}
      (visiting : node ∈ search.visiting)
      (later : Explores path rest (search.report (report (path ++ [node]) node)) result) :
      Explores path (node :: rest) search result
  | known {path rest : List Node} {node : Node} {search result : Search Node Report}
      (left : node ∉ search.visiting) (visited : node ∈ search.visited)
      (later : Explores path rest search result) : Explores path (node :: rest) search result
  | enter {path rest : List Node} {node : Node} {search inside result : Search Node Report}
      (left : node ∉ search.visiting) (fresh : node ∉ search.visited)
      (below : Explores (path ++ [node]) (children node) (search.enter node) inside)
      (later : Explores path rest (inside.leave node) result) :
      Explores path (node :: rest) search result

variable {children report} {path nodes : List Node} {search result : Search Node Report}

theorem filter_ne_of_not_mem {node : Node} {nodes : List Node} (absent : node ∉ nodes) :
    (node :: nodes).filter (fun other => other ≠ node) = nodes := by
  rw [List.filter_cons_of_neg (by simp), List.filter_eq_self]
  intro other member
  rw [decide_eq_true_eq]
  rintro rfl
  exact absent member

/-- The search comes back to its path. -/
theorem Explores.visiting (explores : Explores children report path nodes search result) :
    result.visiting = search.visiting := by
  induction explores with
  | nil path search => rfl
  | again _ _ ih => exact ih
  | known _ _ _ ih => exact ih
  | @enter path rest node search inside result left fresh below later belowIh laterIh =>
      rw [laterIh]
      show inside.visiting.filter _ = _
      rw [belowIh]
      exact filter_ne_of_not_mem left

/-- Two parts of a search make one. -/
theorem Explores.append {others : List Node} {middle : Search Node Report}
    (first : Explores children report path nodes search middle)
    (second : Explores children report path others middle result) :
    Explores children report path (nodes ++ others) search result := by
  induction first with
  | nil path search => exact second
  | again visiting _ ih => exact .again visiting (ih second)
  | known left visited _ ih => exact .known left visited (ih second)
  | enter left fresh below _ _ ih => exact .enter left fresh below (ih second)

/-- Reports are only added. -/
theorem Explores.reports (explores : Explores children report path nodes search result) :
    search.reports <+: result.reports := by
  induction explores with
  | nil path search => exact List.prefix_refl _
  | again _ _ ih => exact (List.prefix_append _ _).trans ih
  | known _ _ _ ih => exact ih
  | enter _ _ _ _ belowIh laterIh => exact belowIh.trans laterIh

section Depth

/-- The nodes that are not on the current path. -/
def unentered (nodes visiting : List Node) : List Node :=
  nodes.filter fun node => node ∉ visiting

/-- Entering a node leaves fewer nodes to enter. -/
theorem unentered_lt {visiting : List Node} {node : Node} (known : node ∈ nodes)
    (left : node ∉ visiting) :
    (unentered nodes (node :: visiting)).length < (unentered nodes visiting).length := by
  unfold unentered
  have sub : (nodes.filter fun other => other ∉ node :: visiting).Sublist
      (nodes.filter fun other => other ∉ visiting) := by
    apply List.monotone_filter_right
    intro other outside
    rw [decide_eq_true_eq] at outside ⊢
    exact fun inside => outside (.tail _ inside)
  apply lt_of_le_of_ne sub.length_le
  intro same
  have equal := sub.eq_of_length same
  have member : node ∈ nodes.filter fun other => other ∉ visiting := by
    rw [List.mem_filter]
    exact ⟨known, decide_eq_true left⟩
  rw [← equal, List.mem_filter] at member
  simp at member

end Depth

section Sound

/-- A simple cycle that ends where it starts. -/
def SimpleCycle (children : Node → List Node) (cycle : List Node) : Prop :=
  ∃ node inner, cycle = node :: inner ++ [node] ∧ (node :: inner).Nodup ∧
    cycle.IsChain (Edge children)

/-- A report is about a path that comes back to its own node, along a simple cycle. -/
def Genuine (children : Node → List Node) (report : List Node → Node → Report) (found : Report) :
    Prop :=
  ∃ before node inner, found = report (before ++ node :: inner ++ [node]) node ∧ node ∉ before ∧
    SimpleCycle children (node :: inner ++ [node])

omit [DecidableEq Node] in
theorem isChain_concat {node child : Node}
    (chain : (path ++ [node]).IsChain (Edge children)) (edge : child ∈ children node) :
    (path ++ [node] ++ [child]).IsChain (Edge children) := by
  apply List.isChain_append.mpr
  refine ⟨chain, List.isChain_singleton child, ?_⟩
  intro last isLast next isNext
  rw [List.getLast?_concat, Option.mem_some_iff] at isLast
  rw [List.head?_cons, Option.mem_some_iff] at isNext
  subst isLast isNext
  exact edge

/-- Every report is genuine. -/
theorem Explores.genuine (explores : Explores children report path nodes search result)
    (stack : search.visiting = path.reverse) (distinct : path.Nodup)
    (walks : ∀ node ∈ nodes, (path ++ [node]).IsChain (Edge children))
    (earlier : ∀ found ∈ search.reports, Genuine children report found) :
    ∀ found ∈ result.reports, Genuine children report found := by
  induction explores with
  | nil path search => exact earlier
  | @again path rest node search result visiting later ih =>
      apply ih stack distinct fun other member => walks other (.tail _ member)
      intro found member
      rcases List.mem_append.mp member with old | new
      · exact earlier found old
      · rw [List.mem_singleton.mp new]
        rw [stack, List.mem_reverse] at visiting
        obtain ⟨before, inner, split⟩ := List.append_of_mem visiting
        have walk := walks node (.head _)
        rw [split] at walk distinct
        have parts := List.nodup_append.mp distinct
        refine ⟨before, node, inner, by rw [split], ?_, node, inner, rfl, parts.2.1, ?_⟩
        · intro inside
          exact parts.2.2 node inside node (.head _) rfl
        · rw [List.append_assoc] at walk
          exact (List.isChain_append.mp walk).2.1
  | known _ _ _ ih =>
      exact ih stack distinct (fun other member => walks other (.tail _ member))
        earlier
  | @enter path rest node search inside result left fresh below later belowIh laterIh =>
      have walk := walks node (.head _)
      have absent : node ∉ path := by
        rw [stack, List.mem_reverse] at left
        exact left
      apply laterIh
      · show inside.visiting.filter _ = _
        rw [below.visiting]
        show (node :: search.visiting).filter _ = _
        rw [filter_ne_of_not_mem left, stack]
      · exact distinct
      · exact fun other member => walks other (.tail _ member)
      · apply belowIh
        · show node :: search.visiting = _
          rw [stack, List.reverse_append]
          rfl
        · rw [List.nodup_append]
          refine ⟨distinct, by simp, ?_⟩
          rintro other member last isLast rfl
          rw [List.mem_singleton] at isLast
          exact absent (isLast ▸ member)
        · intro child member
          exact isChain_concat walk member
        · exact earlier

omit [DecidableEq Node] in
/-- The nodes of a simple cycle come back to themselves. -/
theorem SimpleCycle.transGen {cycle : List Node} (simple : SimpleCycle children cycle) :
    ∃ node, Relation.TransGen (Edge children) node node := by
  obtain ⟨node, inner, rfl, _, chain⟩ := simple
  refine ⟨node, ?_⟩
  suffices step : ∀ (first : Node) (inner : List Node),
      (first :: inner ++ [node]).IsChain (Edge children) →
        Relation.TransGen (Edge children) first node from step node inner chain
  intro first inner walk
  induction inner generalizing first with
  | nil => exact .single (List.isChain_pair.mp walk)
  | cons second rest ih =>
      obtain ⟨edge, later⟩ := List.isChain_cons_cons.mp walk
      exact .head edge (ih second later)

end Sound

section Complete

/-- Every child of a node was left before the node. -/
def Closed (children : Node → List Node) : List Node → Prop
  | [] => True
  | node :: rest => (∀ child ∈ children node, child ∈ rest) ∧ Closed children rest

/-- A search that reports nothing leaves all its nodes, and every child before its node. -/
theorem Explores.closed (explores : Explores children report path nodes search result)
    (closed : Closed children search.visited) (silent : result.reports = search.reports) :
    Closed children result.visited ∧ (∀ node ∈ nodes, node ∈ result.visited) ∧
      search.visited ⊆ result.visited := by
  induction explores with
  | nil path search => exact ⟨closed, by simp, List.Subset.refl _⟩
  | @again path rest node search result visiting later ih =>
      have longer := later.reports.length_le
      rw [silent] at longer
      have grown : (search.report (report (path ++ [node]) node)).reports.length =
          search.reports.length + 1 := List.length_append
      omega
  | @known path rest node search result left visited later ih =>
      obtain ⟨closedLater, all, kept⟩ := ih closed silent
      refine ⟨closedLater, ?_, kept⟩
      intro other member
      rcases List.mem_cons.mp member with rfl | inside
      · exact kept visited
      · exact all other inside
  | @enter path rest node search inside result left fresh below later belowIh laterIh =>
      have quiet : inside.reports = search.reports := by
        have first : search.reports <+: inside.reports := below.reports
        have second : inside.reports <+: result.reports := later.reports
        rw [silent] at second
        exact (first.eq_of_length_le second.length_le).symm
      obtain ⟨closedBelow, allBelow, keptBelow⟩ := belowIh closed quiet
      obtain ⟨closedLater, all, kept⟩ := laterIh ⟨allBelow, closedBelow⟩ (silent.trans quiet.symm)
      refine ⟨closedLater, ?_, ?_⟩
      · intro other member
        rcases List.mem_cons.mp member with rfl | inside
        · exact kept (.head _)
        · exact all other inside
      · intro other member
        exact kept (.tail _ (keptBelow member))

variable {source target : Node}

omit [DecidableEq Node] in
theorem Closed.edge {nodes : List Node} (closed : Closed children nodes)
    (member : source ∈ nodes) (edge : Edge children source target) : target ∈ nodes := by
  induction nodes with
  | nil => cases member
  | cons node rest ih =>
      rcases List.mem_cons.mp member with rfl | inside
      · exact .tail _ (closed.1 target edge)
      · exact .tail _ (ih closed.2 inside)

omit [DecidableEq Node] in
theorem Closed.reach {nodes : List Node} (closed : Closed children nodes)
    (member : source ∈ nodes) (reach : Relation.ReflTransGen (Edge children) source target) :
    target ∈ nodes := by
  induction reach with
  | refl => exact member
  | tail _ edge ih => exact closed.edge ih edge

omit [DecidableEq Node] in
/-- Nodes whose children were all left before them are on no cycle. -/
theorem Closed.acyclic {nodes : List Node} (closed : Closed children nodes) {node : Node}
    (member : node ∈ nodes) : ¬ Relation.TransGen (Edge children) node node := by
  induction nodes with
  | nil => cases member
  | cons first rest ih =>
      intro cycle
      by_cases inside : node ∈ rest
      · exact ih closed.2 inside cycle
      · have same : node = first := (List.mem_cons.mp member).resolve_right inside
        subst same
        obtain ⟨child, edge, back⟩ := Relation.TransGen.head'_iff.mp cycle
        exact inside (closed.2.reach (closed.1 child edge) back)

end Complete

/-- A search from every node that has a child reports nothing exactly without a cycle. -/
theorem Explores.reports_eq_nil_iff {roots : List Node}
    (explores : Explores children report [] roots Search.start result)
    (complete : ∀ node child, Edge children node child → node ∈ roots) :
    result.reports = [] ↔ ¬ ∃ node, Relation.TransGen (Edge children) node node := by
  constructor
  · rintro silent ⟨node, cycle⟩
    obtain ⟨closed, all, _⟩ := explores.closed trivial silent
    obtain ⟨child, edge, _⟩ := Relation.TransGen.head'_iff.mp cycle
    exact closed.acyclic (all node (complete node child edge)) cycle
  · intro acyclic
    by_contra reported
    obtain ⟨found, member⟩ := List.exists_mem_of_ne_nil _ reported
    have genuine : Genuine children report found := by
      apply explores.genuine rfl List.nodup_nil _ _ found member
      · exact fun node _ => List.isChain_singleton node
      · intro other none
        cases none
    obtain ⟨_, _, _, _, _, simple⟩ := genuine
    exact acyclic simple.transGen

end AgentFabric.DepthFirst

namespace AgentFabric.DepthFirst

variable {Node Failure : Type} [DecidableEq Node]

/-- The nodes of the open calls and the nodes that are left. -/
structure Walk (Node : Type) where
  visiting : List Node
  visited : List Node

def Walk.start : Walk Node := ⟨[], []⟩

/-- A walk is a search that has reported nothing. -/
def Walk.toSearch (walk : Walk Node) : Search Node Unit := ⟨walk.visiting, walk.visited, []⟩

variable (children : Node → List Node) (failure : Failure)

/-- The recursive walk from one node fails at a node of an open call. -/
def visit : Nat → Walk Node → Node → Except Failure (Walk Node)
  | 0, walk, _ => .ok walk
  | depth + 1, walk, node =>
      if node ∈ walk.visiting then .error failure
      else if node ∈ walk.visited then .ok walk
      else
        match (children node).foldlM (visit depth) { walk with visiting := node :: walk.visiting } with
        | .error failure => .error failure
        | .ok inside => .ok {
            visiting := inside.visiting.filter fun other => other ≠ node
            visited := node :: inside.visited }

/-- The walks from some roots, one after the other. -/
def visitAll (depth : Nat) (roots : List Node) : Except Failure (Walk Node) :=
  roots.foldlM (visit children failure depth) Walk.start

variable {children failure} {nodes : List Node}

/-- A node comes back to itself. -/
def Cyclic (children : Node → List Node) : Prop :=
  ∃ node, Relation.TransGen (Edge children) node node

/-- A walk through some nodes is a silent search, or it fails at a cycle. -/
def Decides (children : Node → List Node) (failure : Failure) (path others : List Node)
    (walk : Walk Node) (answer : Except Failure (Walk Node)) : Prop :=
  (∃ after, answer = .ok after ∧
    Explores children (fun _ _ => ()) path others walk.toSearch after.toSearch) ∨
  (answer = .error failure ∧ Cyclic children)

/-- Every node of an open call has a path to each of the nodes. -/
def Leads (children : Node → List Node) (visiting others : List Node) : Prop :=
  ∀ entered ∈ visiting, ∀ node ∈ others, Relation.TransGen (Edge children) entered node

omit [DecidableEq Node] in
theorem Leads.enter {walk : Walk Node} {node : Node} (leads : Leads children walk.visiting [node]) :
    Leads children (node :: walk.visiting) (children node) := by
  intro entered opened child edge
  rcases List.mem_cons.mp opened with rfl | earlier
  · exact .single edge
  · exact .tail (leads entered earlier node (.head _)) edge

/-- The walks from single nodes make the walk through a list of nodes. -/
theorem foldlM_decides {depth : Nat} {path : List Node} (others : List Node) (walk : Walk Node)
    (leads : Leads children walk.visiting others)
    (single : ∀ (current : Walk Node), current.visiting = walk.visiting → ∀ node ∈ others,
      Decides children failure path [node] current (visit children failure depth current node)) :
    Decides children failure path others walk
      (others.foldlM (visit children failure depth) walk) := by
  induction others generalizing walk with
  | nil => exact .inl ⟨walk, rfl, .nil _ _⟩
  | cons node rest ih =>
      rw [List.foldlM_cons]
      rcases single walk rfl node (.head _) with
        ⟨middle, answered, explored⟩ | ⟨failed, cyclic⟩
      · rw [answered]
        have kept : middle.visiting = walk.visiting := explored.visiting
        have later : Decides children failure path rest middle
            (rest.foldlM (visit children failure depth) middle) := by
          apply ih
          · intro entered opened other member
            exact leads entered (kept ▸ opened) other (.tail _ member)
          · intro current same other member
            exact single current (same.trans kept) other (.tail _ member)
        rcases later with ⟨after, returned, explores⟩ | failed
        · exact .inl ⟨after, returned, explored.append explores⟩
        · exact .inr failed
      · rw [failed]
        exact .inr ⟨rfl, cyclic⟩

section

variable (closed : ∀ node ∈ nodes, ∀ child ∈ children node, child ∈ nodes)
include closed

/-- With more depth than nodes to enter, the walk from a node is a silent search or fails at a
cycle. -/
theorem visit_decides (depth : Nat) (walk : Walk Node) (node : Node) (path : List Node)
    (known : node ∈ nodes) (leads : Leads children walk.visiting [node])
    (deep : (unentered nodes walk.visiting).length < depth) :
    Decides children failure path [node] walk (visit children failure depth walk node) := by
  induction depth generalizing walk node path with
  | zero => omega
  | succ depth ih =>
      unfold visit
      split
      · rename_i visiting
        exact .inr ⟨rfl, node, leads node visiting node (.head _)⟩
      rename_i left
      split
      · rename_i visited
        exact .inl ⟨walk, rfl, .known left visited (.nil _ _)⟩
      rename_i fresh
      have below : Decides children failure (path ++ [node]) (children node)
          { walk with visiting := node :: walk.visiting }
          ((children node).foldlM (visit children failure depth)
            { walk with visiting := node :: walk.visiting }) := by
        apply foldlM_decides _ _ leads.enter
        intro current stack child edge
        apply ih current child (path ++ [node]) (closed node known child edge)
        · intro entered opened other member
          rw [List.mem_singleton.mp member]
          rw [stack] at opened
          exact leads.enter entered opened child edge
        · have fewer := unentered_lt known left
          rw [stack]
          show (unentered nodes (node :: walk.visiting)).length < depth
          omega
      rcases below with ⟨inside, answered, explored⟩ | ⟨failed, cyclic⟩
      · rw [answered]
        exact .inl ⟨_, rfl, .enter left fresh explored (.nil _ _)⟩
      · rw [failed]
        exact .inr ⟨rfl, cyclic⟩

/-- The walks from every node that has a child fail with a cycle and return without one. -/
theorem visitAll_cases {depth : Nat} {roots : List Node}
    (known : ∀ node ∈ roots, node ∈ nodes) (deep : nodes.length < depth)
    (complete : ∀ node child, Edge children node child → node ∈ roots) :
    (Cyclic children ∧ visitAll children failure depth roots = .error failure) ∨
      (¬ Cyclic children ∧ ∃ after, visitAll children failure depth roots = .ok after) := by
  have decides : Decides children failure [] roots Walk.start
      (visitAll children failure depth roots) := by
    apply foldlM_decides
    · intro entered opened
      cases opened
    · intro current stack node member
      apply visit_decides closed depth current node [] (known node member)
      · intro entered opened
        rw [stack] at opened
        cases opened
      · exact lt_of_le_of_lt (List.length_filter_le _ _) deep
  rcases decides with ⟨after, answered, explores⟩ | ⟨failed, cyclic⟩
  · exact .inr ⟨(explores.reports_eq_nil_iff complete).mp rfl, after, answered⟩
  · exact .inl ⟨cyclic, failed⟩

end

section Change

omit [DecidableEq Node]

variable {changed : Node → List Node} {place : Node}

/-- A path along changed edges has old edges only, or it goes through the changed node. -/
theorem transGen_of_changed
    (old : ∀ source target, source ≠ place → target ≠ place → Edge changed source target →
      Edge children source target)
    {source target : Node} (path : Relation.TransGen (Edge changed) source target) :
    Relation.TransGen (Edge children) source target ∨
      (Relation.ReflTransGen (Edge changed) source place ∧
        Relation.ReflTransGen (Edge changed) place target) := by
  induction path with
  | @single target edge =>
      by_cases from_place : source = place
      · subst from_place
        exact .inr ⟨.refl, .single edge⟩
      by_cases to_place : target = place
      · subst to_place
        exact .inr ⟨.single edge, .refl⟩
      exact .inl (.single (old _ _ from_place to_place edge))
  | @tail middle target before edge ih =>
      by_cases to_place : target = place
      · subst to_place
        exact .inr ⟨(Relation.TransGen.tail before edge).to_reflTransGen, .refl⟩
      rcases ih with olds | ⟨first, second⟩
      · by_cases from_place : middle = place
        · subst from_place
          exact .inr ⟨before.to_reflTransGen, .single edge⟩
        · exact .inl (olds.tail (old _ _ from_place to_place edge))
      · exact .inr ⟨first, second.tail edge⟩

/-- When the old edges have no cycle, the changed edges have one exactly through the changed node. -/
theorem cyclic_changed_iff
    (old : ∀ source target, source ≠ place → target ≠ place → Edge changed source target →
      Edge children source target) (acyclic : ¬ Cyclic children) :
    Cyclic changed ↔ Relation.TransGen (Edge changed) place place := by
  constructor
  · rintro ⟨node, cycle⟩
    rcases transGen_of_changed old cycle with olds | ⟨first, second⟩
    · exact absurd ⟨node, olds⟩ acyclic
    · exact .trans_right second (.trans_left cycle first)
  · exact fun cycle => ⟨place, cycle⟩

end Change

end AgentFabric.DepthFirst

namespace AgentFabric.Worklist
open DepthFirst (unentered unentered_lt)

variable {Item Node : Type} [DecidableEq Node]

/-- The nodes that were reached, and those of them whose turn is still to come. -/
structure Frontier (Node : Type) where
  reached : List Node
  queue : List Node

variable (name : Item → Node) (points : Item → Node → Prop)
  [∀ item node, Decidable (points item node)]

/-- An item that points to the current node joins the queue once. -/
def meet (current : Node) (frontier : Frontier Node) (item : Item) : Frontier Node :=
  if points item current ∧ name item ∉ frontier.reached then
    ⟨name item :: frontier.reached, frontier.queue ++ [name item]⟩
  else frontier

/-- One round meets every item with the current node. -/
def turn (current : Node) (items : List Item) (frontier : Frontier Node) : Frontier Node :=
  items.foldl (meet name points current) frontier

/-- The nodes that are not reached yet with those of the queue. -/
def measure (items : List Item) (frontier : Frontier Node) : Nat :=
  (unentered (items.map name) frontier.reached).length + frontier.queue.length

variable {name points}

theorem measure_meet {items : List Item} {item : Item} (member : item ∈ items) (current : Node)
    (frontier : Frontier Node) :
    measure name items (meet name points current frontier item) ≤ measure name items frontier := by
  unfold meet
  split
  · rename_i fresh
    have fewer := unentered_lt (List.mem_map_of_mem (f := name) member) fresh.2
    unfold measure
    rw [List.length_append, List.length_singleton]
    show (unentered (items.map name) (name item :: frontier.reached)).length + _ ≤ _
    omega
  · exact le_refl _

theorem measure_turn {items others : List Item} (inside : ∀ item ∈ others, item ∈ items)
    (current : Node) (frontier : Frontier Node) :
    measure name items (turn name points current others frontier) ≤
      measure name items frontier := by
  induction others generalizing frontier with
  | nil => exact le_refl _
  | cons item rest ih =>
      apply le_trans (ih (fun other member => inside other (.tail _ member)) _)
      exact measure_meet (inside item (.head _)) current frontier

variable (name points)

/-- The loop takes the first node of the queue until none is left. A round takes one node away, and every
node joins once. -/
def closure (items : List Item) : Frontier Node → List Node
  | ⟨reached, []⟩ => reached
  | ⟨reached, current :: rest⟩ =>
      closure items (turn name points current items ⟨reached, rest⟩)
termination_by frontier => measure name items frontier
decreasing_by
  apply lt_of_le_of_lt (measure_turn (fun _ member => member) current ⟨reached, rest⟩)
  exact Nat.lt_succ_self (measure name items ⟨reached, rest⟩)

variable {name points}

/-- One round reaches the items that point to its node, and they join the queue. -/
structure Round (name : Item → Node) (points : Item → Node → Prop) (current : Node)
    (items : List Item) (before after : Frontier Node) : Prop where
  kept : ∀ node ∈ before.reached, node ∈ after.reached
  waits : ∀ node ∈ before.queue, node ∈ after.queue
  added : ∀ node ∈ after.reached, node ∈ before.reached ∨
    node ∈ after.queue ∧ ∃ item ∈ items, name item = node ∧ points item current
  met : ∀ item ∈ items, points item current → name item ∈ after.reached
  queued : ∀ node ∈ after.queue, node ∈ before.queue ∨ node ∈ after.reached
  distinct : before.reached.Nodup → after.reached.Nodup

theorem meet_round (current : Node) (frontier : Frontier Node) (item : Item) :
    Round name points current [item] frontier (meet name points current frontier item) := by
  unfold meet
  split
  · rename_i fresh
    constructor
    · exact fun node member => .tail _ member
    · exact fun node member => List.mem_append_left _ member
    · intro node member
      rcases List.mem_cons.mp member with rfl | old
      · exact .inr ⟨List.mem_append_right _ (.head _), item, .head _, rfl, fresh.1⟩
      · exact .inl old
    · intro other member _
      rw [List.mem_singleton.mp member]
      exact .head _
    · intro node member
      rcases List.mem_append.mp member with old | new
      · exact .inl old
      · rw [List.mem_singleton.mp new]
        exact .inr (.head _)
    · exact fun distinct => List.nodup_cons.mpr ⟨fresh.2, distinct⟩
  · rename_i stale
    constructor
    · exact fun node member => member
    · exact fun node member => member
    · exact fun node member => .inl member
    · intro other member pointing
      rw [List.mem_singleton.mp member] at pointing ⊢
      by_contra absent
      exact stale ⟨pointing, absent⟩
    · exact fun node member => .inl member
    · exact fun distinct => distinct

theorem turn_round (current : Node) (items : List Item) (frontier : Frontier Node) :
    Round name points current items frontier (turn name points current items frontier) := by
  induction items generalizing frontier with
  | nil =>
      refine ⟨fun _ member => member, fun _ member => member, fun _ member => .inl member, ?_,
        fun _ member => .inl member, fun distinct => distinct⟩
      intro item member
      cases member
  | cons item rest ih =>
      have first := @meet_round _ _ _ name points _ current frontier item
      have later := ih (meet name points current frontier item)
      constructor
      · exact fun node member => later.kept node (first.kept node member)
      · exact fun node member => later.waits node (first.waits node member)
      · intro node member
        rcases later.added node member with old | ⟨queued, other, listed, named⟩
        · rcases first.added node old with older | ⟨queued, other, listed, named⟩
          · exact .inl older
          · rw [List.mem_singleton.mp listed] at named
            exact .inr ⟨later.waits node queued, item, .head _, named⟩
        · exact .inr ⟨queued, other, List.mem_cons_of_mem _ listed, named⟩
      · intro other member pointing
        rcases List.mem_cons.mp member with rfl | inside
        · exact later.kept _ (first.met other (.head _) pointing)
        · exact later.met other inside pointing
      · intro node member
        rcases later.queued node member with old | reached
        · exact (first.queued node old).imp_right (later.kept node)
        · exact .inr reached
      · exact fun distinct => later.distinct (first.distinct distinct)

/-- A named item points to the target. -/
def Edge (name : Item → Node) (points : Item → Node → Prop) (items : List Item)
    (source target : Node) : Prop :=
  ∃ item ∈ items, name item = source ∧ points item target

/-- Every reached node leads to a start, and the items that point to a reached node are reached once its
turn is over. -/
structure Explored (name : Item → Node) (points : Item → Node → Prop) (items : List Item)
    (starts : List Node) (frontier : Frontier Node) : Prop where
  queued : ∀ node ∈ frontier.queue, node ∈ frontier.reached
  distinct : frontier.reached.Nodup
  started : ∀ node ∈ starts, node ∈ frontier.reached
  leads : ∀ node ∈ frontier.reached,
    ∃ start ∈ starts, Relation.ReflTransGen (Edge name points items) node start
  closed : ∀ node ∈ frontier.reached, node ∉ frontier.queue →
    ∀ source, Edge name points items source node → source ∈ frontier.reached

variable {items : List Item} {starts reached rest : List Node} {current : Node}

omit [DecidableEq Node] [∀ item node, Decidable (points item node)] in
theorem Explored.start (distinct : starts.Nodup) :
    Explored name points items starts ⟨starts, starts⟩ where
  queued := fun _ member => member
  distinct := distinct
  started := fun _ member => member
  leads := fun node member => ⟨node, member, .refl⟩
  closed := fun _ member waits => absurd member waits

/-- A round keeps the invariant. -/
theorem Explored.round (explored : Explored name points items starts ⟨reached, current :: rest⟩) :
    Explored name points items starts (turn name points current items ⟨reached, rest⟩) := by
  have round := @turn_round _ _ _ name points _ current items ⟨reached, rest⟩
  constructor
  · intro node member
    rcases round.queued node member with old | new
    · exact round.kept node (explored.queued node (.tail _ old))
    · exact new
  · exact round.distinct explored.distinct
  · exact fun node member => round.kept node (explored.started node member)
  · intro node member
    rcases round.added node member with old | ⟨_, item, listed, named, pointing⟩
    · exact explored.leads node old
    · obtain ⟨start, isStart, path⟩ := explored.leads current (explored.queued current (.head _))
      exact ⟨start, isStart, .head ⟨item, listed, named, pointing⟩ path⟩
  · intro node member closed source edge
    rcases round.added node member with old | ⟨queued, _⟩
    · obtain ⟨item, listed, named, pointing⟩ := edge
      by_cases isCurrent : node = current
      · rw [isCurrent] at pointing
        rw [← named]
        exact round.met item listed pointing
      · have waits : node ∉ current :: rest := by
          intro inside
          rcases List.mem_cons.mp inside with same | later
          · exact isCurrent same
          · exact closed (round.waits node later)
        exact round.kept source (explored.closed node old waits source
          ⟨item, listed, named, pointing⟩)
    · exact absurd queued closed

/-- The loop ends with an empty queue and keeps the invariant. -/
theorem closure_explored (frontier : Frontier Node)
    (explored : Explored name points items starts frontier) :
    Explored name points items starts ⟨closure name points items frontier, []⟩ := by
  fun_induction closure name points items frontier with
  | case1 reached => exact explored
  | case2 reached current rest ih => exact ih explored.round

/-- The loop reaches the nodes that lead to a start, each of them once. -/
theorem mem_closure_iff (distinct : starts.Nodup) (node : Node) :
    node ∈ closure name points items ⟨starts, starts⟩ ↔
      ∃ start ∈ starts, Relation.ReflTransGen (Edge name points items) node start := by
  have explored : Explored name points items starts
      ⟨closure name points items ⟨starts, starts⟩, []⟩ :=
    closure_explored _ (Explored.start distinct)
  constructor
  · exact explored.leads node
  · rintro ⟨start, isStart, path⟩
    induction path using Relation.ReflTransGen.head_induction_on with
    | refl => exact explored.started start isStart
    | head edge _ ih => exact explored.closed _ ih List.not_mem_nil _ edge

theorem closure_nodup (distinct : starts.Nodup) :
    (closure name points items ⟨starts, starts⟩).Nodup :=
  (closure_explored _ (Explored.start distinct)).distinct

end AgentFabric.Worklist
