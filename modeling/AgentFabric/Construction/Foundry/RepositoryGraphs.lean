import AgentFabric.Construction.Foundry.RepositoryLifecycle
import AgentFabric.Foundation.GraphSearch

namespace AgentFabric.Foundry
open Sorting

/-- The order in which a set of texts is iterated, which the language leaves open. -/
structure SetOrder where
  iterate : List String → List String
  mem_iterate : ∀ items item, item ∈ iterate items ↔ item ∈ items
  nodup_iterate : ∀ items, (iterate items).Nodup

/-- The stored sets of dependencies, each in its order. -/
structure RepositoryDependencyGraph where
  edges : Dict String (List String)

/-- The arguments of one call of `add`. -/
structure AddDependencies where
  repositoryId : String
  dependencies : List String

namespace RepositoryDependencyGraph

def empty : RepositoryDependencyGraph := ⟨.empty⟩

variable (graph : RepositoryDependencyGraph)

def added : List String := graph.edges.items.map Prod.fst

/-- The dependencies of a node that are added themselves. -/
def addedDependencies (node : String) : List String :=
  (graph.edges.getD node []).filter fun dependency => dependency ∈ graph.added

/-- The walk starts at every added repository in the order of their ids. No more than all of them are
open at once. -/
def validate : Except PyError Unit :=
  (DepthFirst.visitAll graph.addedDependencies
    (.valueError "circular repository dependency detected") (graph.added.length + 1)
    (sortedBy id graph.added)).map fun _ => ()

def store (order : SetOrder) (graph : RepositoryDependencyGraph) (call : AddDependencies) :
    RepositoryDependencyGraph :=
  ⟨graph.edges.set call.repositoryId (order.iterate call.dependencies)⟩

/-- The dependencies are stored before they are validated. -/
def add (order : SetOrder) (graph : RepositoryDependencyGraph) (call : AddDependencies) :
    Except PyError Unit × RepositoryDependencyGraph :=
  ((graph.store order call).validate, graph.store order call)

end RepositoryDependencyGraph

structure ImpactAnalysis where
  repositoryId : String
  directDependents : List String
  transitiveDependents : List String
  driftedDependencies : List String

structure RepositoryGraph where
  repositories : Dict String RepositoryRecord

namespace RepositoryGraph

/-- A later record replaces an earlier one with its id. -/
def ofRecords (records : List RepositoryRecord) : RepositoryGraph :=
  ⟨Dict.empty.setAll (records.map fun item => (item.repositoryId, item))⟩

variable (graph : RepositoryGraph) (repositoryId : String)

def directDependents : List String :=
  sortedBy id ((graph.repositories.values.filter fun item =>
    repositoryId ∈ item.dependencies).map RepositoryRecord.repositoryId)

/-- The queue starts with the direct dependents. -/
def transitiveDependents : List String :=
  let direct := graph.directDependents repositoryId
  Worklist.closure RepositoryRecord.repositoryId (fun item current => current ∈ item.dependencies)
    graph.repositories.values ⟨direct, direct⟩

/-- A missing repository raises after the dependents are collected. -/
def impact : Except PyError ImpactAnalysis :=
  match graph.repositories.get? repositoryId with
  | none => .error (.keyError "repository not found")
  | some record => .ok {
      repositoryId
      directDependents := graph.directDependents repositoryId
      transitiveDependents := sortedBy id (graph.transitiveDependents repositoryId)
      driftedDependencies := sortedBy id (record.dependencies.filter fun dependency =>
        dependency ∉ graph.repositories.items.map Prod.fst) }

end RepositoryGraph

end AgentFabric.Foundry
