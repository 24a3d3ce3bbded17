import AgentFabric.Construction.Foundry.RepositoryGraphs

namespace AgentFabric.Foundry.RepositoryDependencyGraph
open DepthFirst Sorting Transition

variable {order : SetOrder} {graph : RepositoryDependencyGraph} {call : AddDependencies}

/-- The stored dependencies among the added repositories have a cycle. -/
def HasCycle (graph : RepositoryDependencyGraph) : Prop := Cyclic graph.addedDependencies

/-- The new dependencies of a repository lead back to it. -/
def ClosesCycle (order : SetOrder) (graph : RepositoryDependencyGraph) (call : AddDependencies) :
    Prop :=
  Relation.TransGen (Edge (graph.store order call).addedDependencies) call.repositoryId
    call.repositoryId

variable {source target : String}

theorem edge_iff :
    Edge graph.addedDependencies source target ↔
      target ∈ graph.edges.getD source [] ∧ target ∈ graph.added := by
  unfold Edge addedDependencies
  rw [List.mem_filter, decide_eq_true_eq]

/-- An edge joins two added repositories. -/
theorem edge_added (edge : Edge graph.addedDependencies source target) :
    source ∈ graph.added ∧ target ∈ graph.added := by
  obtain ⟨listed, known⟩ := edge_iff.mp edge
  refine ⟨?_, known⟩
  apply (Dict.mem_keys_iff _ _).mpr
  cases stored : graph.edges.get? source with
  | none =>
      rw [Dict.getD, stored] at listed
      cases listed
  | some dependencies => exact ⟨dependencies, rfl⟩

/-- The validation raises exactly with a cycle. -/
theorem validate_cases (graph : RepositoryDependencyGraph) :
    (graph.HasCycle ∧ graph.validate =
      .error (.valueError "circular repository dependency detected")) ∨
        (¬ graph.HasCycle ∧ graph.validate = .ok ()) := by
  have ends : ∀ node ∈ graph.added, ∀ child ∈ graph.addedDependencies node, child ∈ graph.added :=
    fun node _ child edge => (edge_added edge).2
  have roots : ∀ node ∈ sortedBy id graph.added, node ∈ graph.added :=
    fun node member => (mem_sortedBy _ _ _).mp member
  have complete : ∀ node child, Edge graph.addedDependencies node child →
      node ∈ sortedBy id graph.added :=
    fun node child edge => (mem_sortedBy _ _ _).mpr (edge_added edge).1
  have cases := @visitAll_cases _ _ _ _ (PyError.valueError "circular repository dependency detected")
    _ ends _ _ roots (Nat.lt_succ_self _) complete
  unfold validate
  rcases cases with ⟨cyclic, failed⟩ | ⟨acyclic, after, answered⟩
  · rw [failed]
    exact .inl ⟨cyclic, rfl⟩
  · rw [answered]
    exact .inr ⟨acyclic, rfl⟩

theorem validate_eq_error_iff : (∃ error, graph.validate = .error error) ↔ graph.HasCycle := by
  rcases validate_cases graph with ⟨cyclic, failed⟩ | ⟨acyclic, answered⟩
  · exact iff_of_true ⟨_, failed⟩ cyclic
  · rw [answered]
    exact iff_of_false (by simp) acyclic

/-- The edges away from the stored repository are old edges. -/
theorem edge_of_store (fromOther : source ≠ call.repositoryId)
    (toOther : target ≠ call.repositoryId)
    (edge : Edge (graph.store order call).addedDependencies source target) :
    Edge graph.addedDependencies source target := by
  obtain ⟨listed, known⟩ := edge_iff.mp edge
  rw [store, Dict.getD_set, if_neg fromOther] at listed
  refine edge_iff.mpr ⟨listed, ?_⟩
  obtain ⟨dependencies, stored⟩ := (Dict.mem_keys_iff _ _).mp known
  rw [store, Dict.get?_set_of_ne _ _ toOther] at stored
  exact (Dict.mem_keys_iff _ _).mpr ⟨dependencies, stored⟩

/-- Without an old cycle, the new cycles go through the stored repository. -/
theorem hasCycle_store_iff (acyclic : ¬ graph.HasCycle) :
    (graph.store order call).HasCycle ↔ ClosesCycle order graph call :=
  cyclic_changed_iff (fun _ _ => edge_of_store) acyclic

/-- What one call keeps. -/
structure KeepsAcyclic (order : SetOrder) (graph : RepositoryDependencyGraph)
    (call : AddDependencies) : Prop where
  acyclic : ¬ (add order graph call).2.HasCycle
  raises : (∃ error, (add order graph call).1 = .error error) ↔ ClosesCycle order graph call
  unchanged : (∃ error, (add order graph call).1 = .error error) →
    (add order graph call).2 = graph

/-- In a graph without a cycle, a call keeps the graph acyclic exactly when it closes no cycle. -/
theorem keepsAcyclic_iff (acyclic : ¬ graph.HasCycle) :
    KeepsAcyclic order graph call ↔ ¬ ClosesCycle order graph call := by
  have cycles := @hasCycle_store_iff order graph call acyclic
  constructor
  · intro keeps closes
    exact keeps.acyclic (cycles.mpr closes)
  · intro opens
    have raises : (∃ error, (add order graph call).1 = .error error) ↔
        ClosesCycle order graph call := validate_eq_error_iff.trans cycles
    exact ⟨fun cyclic => opens (cycles.mp cyclic), raises,
      fun raised => absurd (raises.mp raised) opens⟩

theorem not_hasCycle_empty : ¬ empty.HasCycle := by
  rintro ⟨node, cycle⟩
  obtain ⟨child, edge, _⟩ := Relation.TransGen.head'_iff.mp cycle
  exact List.not_mem_nil (edge_added edge).1

/-- The calls of a run keep the graph acyclic exactly as long as none of them closes a cycle. -/
theorem guarded_keepsAcyclic_iff (order : SetOrder) (graph : RepositoryDependencyGraph)
    (acyclic : ¬ graph.HasCycle) (calls : List AddDependencies) :
    Guarded (add order) (KeepsAcyclic order) graph calls ↔
      Guarded (add order) (fun graph call => ¬ ClosesCycle order graph call) graph calls := by
  induction calls generalizing graph with
  | nil => rfl
  | cons call rest ih =>
      constructor
      · rintro ⟨keeps, later⟩
        exact ⟨(keepsAcyclic_iff acyclic).mp keeps, (ih _ keeps.acyclic).mp later⟩
      · rintro ⟨opens, later⟩
        have keeps := (keepsAcyclic_iff acyclic).mpr opens
        exact ⟨keeps, (ih _ keeps.acyclic).mpr later⟩

/-- A call raises exactly when the stored graph then has a cycle, and a run of calls keeps the graph
acyclic exactly when no call closes a cycle. -/
theorem add_keepsAcyclic_iff (order : SetOrder) (calls : List AddDependencies) :
    (∀ graph call, (∃ error, (add order graph call).1 = .error error) ↔
      (graph.store order call).HasCycle) ∧
    (Guarded (add order) (KeepsAcyclic order) empty calls ↔
      Guarded (add order) (fun graph call => ¬ ClosesCycle order graph call) empty calls) :=
  ⟨fun _ _ => validate_eq_error_iff, guarded_keepsAcyclic_iff order empty not_hasCycle_empty calls⟩

/-- Sets that are iterated in the order of their last occurrences. -/
def listedOrder : SetOrder where
  iterate := List.dedup
  mem_iterate := fun _ _ => List.mem_dedup
  nodup_iterate := List.nodup_dedup

/-- Two repositories, of which the second one depends on the first one. -/
def twoRepositories : RepositoryDependencyGraph :=
  run (add listedOrder) empty [⟨"repo-a", []⟩, ⟨"repo-b", ["repo-a"]⟩]

/-- The call that would make the first repository depend on the second one raises and keeps its cycle, so
that the call for an unrelated repository raises too. -/
theorem raising_add_keeps_its_cycle :
    ¬ ClosesCycle listedOrder twoRepositories ⟨"repo-c", []⟩ ∧
      (∃ error, (add listedOrder twoRepositories ⟨"repo-a", ["repo-b"]⟩).1 = .error error) ∧
      (add listedOrder twoRepositories ⟨"repo-a", ["repo-b"]⟩).2.HasCycle ∧
      ∃ error, (add listedOrder (add listedOrder twoRepositories ⟨"repo-a", ["repo-b"]⟩).2
        ⟨"repo-c", []⟩).1 = .error error := by
  have cyclic : (add listedOrder twoRepositories ⟨"repo-a", ["repo-b"]⟩).2.HasCycle := by
    have forth : Edge (add listedOrder twoRepositories ⟨"repo-a", ["repo-b"]⟩).2.addedDependencies
        "repo-a" "repo-b" := by unfold Edge; decide
    have back : Edge (add listedOrder twoRepositories ⟨"repo-a", ["repo-b"]⟩).2.addedDependencies
        "repo-b" "repo-a" := by unfold Edge; decide
    exact ⟨"repo-a", .head forth (.single back)⟩
  refine ⟨?_, validate_eq_error_iff.mpr cyclic, cyclic, ?_⟩
  · intro closes
    obtain ⟨child, edge, _⟩ := Relation.TransGen.head'_iff.mp closes
    have none : (twoRepositories.store listedOrder ⟨"repo-c", []⟩).addedDependencies "repo-c" = [] := by
      decide
    rw [Edge, none] at edge
    cases edge
  · exact ⟨.valueError "circular repository dependency detected", by decide⟩

end AgentFabric.Foundry.RepositoryDependencyGraph

namespace AgentFabric.Foundry.RepositoryGraph
open LastEntry Sorting

variable (records : List RepositoryRecord) (repositoryId : String)

/-- The record of a repository is the last one with its id. -/
def recordOf : Option RepositoryRecord :=
  lastWhere (fun item => item.repositoryId = repositoryId) records

def Listed : Prop :=
  repositoryId ∈ records.map RepositoryRecord.repositoryId

variable (source target : String)

/-- A repository depends on another one, which may be listed or not. -/
def DependsOn : Prop :=
  ∃ record, recordOf records source = some record ∧ target ∈ record.dependencies

/-- The graph holds the record of every repository. -/
theorem get?_ofRecords :
    (ofRecords records).repositories.get? repositoryId = recordOf records repositoryId := by
  induction records using List.reverseRecOn with
  | nil => rfl
  | append_singleton earlier added ih =>
      have last : (ofRecords (earlier ++ [added])).repositories =
          (ofRecords earlier).repositories.set added.repositoryId added := by
        unfold ofRecords Dict.setAll
        rw [List.map_append, List.foldl_append]
        rfl
      rw [last, Dict.get?_set, recordOf, lastWhere_append, ih]
      by_cases same : repositoryId = added.repositoryId
      · rw [if_pos same, if_pos (decide_eq_true same.symm)]
      · have other : ¬ added.repositoryId = repositoryId := fun equal => same equal.symm
        rw [if_neg same, if_neg (by simpa using other)]
        rfl

variable {records}

theorem recordOf_id {repositoryId : String} {record : RepositoryRecord}
    (found : recordOf records repositoryId = some record) : record.repositoryId = repositoryId := by
  unfold recordOf at found
  have selected := selects_of_lastWhere found
  exact of_decide_eq_true selected

/-- The records of the graph are those of the repositories. -/
theorem mem_values_iff (record : RepositoryRecord) :
    record ∈ (ofRecords records).repositories.values ↔
      recordOf records record.repositoryId = some record := by
  rw [Dict.mem_values_iff]
  simp only [get?_ofRecords]
  constructor
  · rintro ⟨key, found⟩
    rw [recordOf_id found]
    exact found
  · exact fun found => ⟨_, found⟩

theorem recordOf_eq_none_iff :
    recordOf records repositoryId = none ↔ ¬ Listed records repositoryId := by
  simp [recordOf, lastWhere_eq_none_iff, Listed]

/-- The keys of the graph are the listed repositories. -/
theorem mem_keys_ofRecords_iff :
    repositoryId ∈ (ofRecords records).repositories.items.map Prod.fst ↔
      Listed records repositoryId := by
  rw [Dict.mem_keys_iff]
  simp only [get?_ofRecords]
  rw [← Option.isSome_iff_exists, ← not_iff_not, ← recordOf_eq_none_iff,
    Option.not_isSome_iff_eq_none]

/-- The edges of the closure are the dependencies. -/
theorem edge_iff_dependsOn :
    Worklist.Edge RepositoryRecord.repositoryId (fun item current => current ∈ item.dependencies)
      (ofRecords records).repositories.values source target ↔ DependsOn records source target := by
  constructor
  · rintro ⟨item, member, rfl, listed⟩
    exact ⟨item, (mem_values_iff item).mp member, listed⟩
  · rintro ⟨record, found, listed⟩
    have named := recordOf_id found
    subst named
    exact ⟨record, (mem_values_iff record).mpr found, rfl, listed⟩

theorem mem_directDependents_iff (repositoryId dependent : String) :
    dependent ∈ (ofRecords records).directDependents repositoryId ↔
      DependsOn records dependent repositoryId := by
  rw [← edge_iff_dependsOn]
  simp only [directDependents, mem_sortedBy, List.mem_map, List.mem_filter, decide_eq_true_eq,
    Worklist.Edge]
  constructor
  · rintro ⟨item, ⟨member, listed⟩, rfl⟩
    exact ⟨item, member, rfl, listed⟩
  · rintro ⟨item, member, rfl, listed⟩
    exact ⟨item, ⟨member, listed⟩, rfl⟩

theorem directDependents_nodup : ((ofRecords records).directDependents repositoryId).Nodup := by
  have names : (ofRecords records).repositories.values.map RepositoryRecord.repositoryId =
      (ofRecords records).repositories.items.map Prod.fst := by
    rw [Dict.values, List.map_map]
    apply List.map_congr_left
    intro item member
    have found := (Dict.get?_eq_some_iff _ _ _).mpr member
    rw [get?_ofRecords] at found
    exact recordOf_id found
  have distinct : ((ofRecords records).repositories.values.map
      RepositoryRecord.repositoryId).Nodup := by
    rw [names]
    exact (ofRecords records).repositories.distinct
  exact (sortedBy_perm _ _).nodup_iff.mpr (distinct.sublist (List.filter_sublist.map _))

/-- The queue reaches the repositories with a path of dependencies to the start. -/
theorem mem_transitiveDependents_iff (repositoryId dependent : String) :
    dependent ∈ (ofRecords records).transitiveDependents repositoryId ↔
      Relation.TransGen (DependsOn records) dependent repositoryId := by
  have edges : Worklist.Edge RepositoryRecord.repositoryId
      (fun item current => current ∈ item.dependencies) (ofRecords records).repositories.values =
        DependsOn records := by
    funext source target
    exact propext (edge_iff_dependsOn source target)
  rw [transitiveDependents, Worklist.mem_closure_iff (directDependents_nodup repositoryId), edges,
    Relation.TransGen.tail'_iff]
  simp only [mem_directDependents_iff]
  exact exists_congr fun start => and_comm

theorem transitiveDependents_nodup :
    ((ofRecords records).transitiveDependents repositoryId).Nodup :=
  Worklist.closure_nodup (directDependents_nodup repositoryId)

/-- A sorted list without repetitions is strictly ordered. -/
theorem sortedBy_strict {items : List String} (distinct : items.Nodup) :
    (sortedBy id items).Pairwise (· < ·) := by
  have once : (sortedBy id items).Nodup := (sortedBy_perm id items).nodup_iff.mpr distinct
  exact ((sortedBy_pairwise id items).and once).imp fun both => lt_of_le_of_ne both.1 both.2

/-- What the analysis of a listed repository says. The two tuples of dependents name each of them once
and in order. -/
structure ImpactExact (records : List RepositoryRecord) (repositoryId : String)
    (analysis : ImpactAnalysis) : Prop where
  named : analysis.repositoryId = repositoryId
  direct : ∀ dependent, dependent ∈ analysis.directDependents ↔
    DependsOn records dependent repositoryId
  transitive : ∀ dependent, dependent ∈ analysis.transitiveDependents ↔
    Relation.TransGen (DependsOn records) dependent repositoryId
  drifted : ∀ dependency, dependency ∈ analysis.driftedDependencies ↔
    DependsOn records repositoryId dependency ∧ ¬ Listed records dependency
  directOrdered : analysis.directDependents.Pairwise (· < ·)
  transitiveOrdered : analysis.transitiveDependents.Pairwise (· < ·)
  driftedOrdered : analysis.driftedDependencies.Pairwise (· ≤ ·)

/-- The analysis returns for every listed repository and is exact. -/
theorem impact_exact (records : List RepositoryRecord) (repositoryId : String) :
    match (ofRecords records).impact repositoryId with
    | .ok analysis => Listed records repositoryId ∧ ImpactExact records repositoryId analysis
    | .error error => ¬ Listed records repositoryId ∧
        error = .keyError "repository not found" := by
  unfold impact
  rw [get?_ofRecords]
  cases found : recordOf records repositoryId with
  | none => exact ⟨(recordOf_eq_none_iff repositoryId).mp found, rfl⟩
  | some record =>
      have listed : Listed records repositoryId := by
        by_contra missing
        rw [(recordOf_eq_none_iff repositoryId).mpr missing] at found
        cases found
      refine ⟨listed, rfl, mem_directDependents_iff repositoryId, ?_, ?_, ?_, ?_,
        sortedBy_pairwise _ _⟩
      · intro dependent
        exact (mem_sortedBy _ _ _).trans (mem_transitiveDependents_iff repositoryId dependent)
      · intro dependency
        have dependencies : DependsOn records repositoryId dependency ↔
            dependency ∈ record.dependencies := by
          unfold DependsOn
          rw [found]
          simp
        rw [mem_sortedBy, List.mem_filter, decide_eq_true_eq, mem_keys_ofRecords_iff, dependencies]
      · have once := @directDependents_nodup records repositoryId
        have ordered : ((ofRecords records).directDependents repositoryId).Pairwise (· ≤ ·) :=
          sortedBy_pairwise _ _
        exact (ordered.and once).imp fun both => lt_of_le_of_ne both.1 both.2
      · exact sortedBy_strict (transitiveDependents_nodup repositoryId)

end AgentFabric.Foundry.RepositoryGraph
