import AgentFabric.Construction.Observability.OperationalIntelligence

namespace AgentFabric.Observability
open Sorting

inductive ComparisonResult where
  | better
  | worse
  | same
  deriving DecidableEq

structure VersionComparison where
  tenantId : String
  agentId : String
  baselineVersion : String
  candidateVersion : String
  result : ComparisonResult
  metricsDelta : Dict String ℚ
  scoreDelta : ℚ
  latencyDelta : ℚ
  costDelta : ℚ
  explanation : List String
  recommendation : String
  comparisonId : String
  timestamp : UtcTime

namespace VersionComparator

/-- The means of the metrics of a version under their names. -/
def aggregate (metrics : List AgentMetric) (version : String) : Except PyError (Dict String ℚ) :=
  let groups := grouped AgentMetric.metric AgentMetric.value
    (metrics.filter fun metric => metric.version = version)
  if groups.items.isEmpty then .error (.valueError ("no metrics for version " ++ version))
  else .ok (groups.mapValues mean)

variable (baseline candidate : Dict String ℚ)

/-- The names of either aggregate in their order. -/
def names : List String :=
  sortedBy id (baseline.items.map Prod.fst ++ candidate.items.map Prod.fst).dedup

theorem names_nodup : (names baseline candidate).Nodup :=
  (sortedBy_perm id _).nodup_iff.mpr (List.nodup_dedup _)

def deltas : Dict String ℚ where
  items := (names baseline candidate).map fun name =>
    (name, round4 (candidate.getD name 0 - baseline.getD name 0))
  distinct := by
    rw [List.map_map]
    exact (List.map_id _).symm ▸ names_nodup baseline candidate

/-- A change of a metric, which is positive for an improvement. -/
def impact (name : String) (delta : ℚ) : ℚ :=
  if name ∈ DriftDetector.lowerIsBetter then -delta else delta

def impacts : List ℚ :=
  (names baseline candidate).map fun name =>
    impact name ((deltas baseline candidate).getD name 0) / max |baseline.getD name 0| 1

/-- A number with its sign and four decimal places. -/
def signed (value : ℚ) : String :=
  let units := (Rounding.halfEven (value * 10000)).natAbs
  (if value < 0 then "-" else "+") ++ Nat.repr (units / 10000) ++ "." ++
    ((Nat.repr (units % 10000 + 10000)).drop 1).toString

def explanation : List String :=
  match (deltas baseline candidate).items.filter fun item => 1 / 10000 ≤ |item.2| with
  | [] => ["no material metric differences"]
  | changed => changed.map fun item => item.1 ++ " changed by " ++ signed item.2

def verdict (overall : ℚ) : ComparisonResult :=
  if 1 / 50 < overall then .better else if overall < -(1 / 50) then .worse else .same

def recommendation : ComparisonResult → String
  | .better => "publish"
  | .same => "hold"
  | .worse => "rollback"

variable (tenantId agentId baselineVersion candidateVersion comparisonId : String)
  (timestamp : UtcTime)

/-- The comparison of two aggregates. -/
def comparison (baseline candidate : Dict String ℚ) : VersionComparison :=
  let found := deltas baseline candidate
  let changes := impacts baseline candidate
  let overall := if changes.isEmpty then 0 else mean changes
  { tenantId
    agentId
    baselineVersion
    candidateVersion
    result := verdict overall
    metricsDelta := found
    scoreDelta := round4 (found.getD "evaluation_score" 0)
    latencyDelta := found.getD "latency" 0
    costDelta := found.getD "cost" 0
    explanation := explanation baseline candidate
    recommendation := recommendation (verdict overall)
    comparisonId
    timestamp }

def compare (metrics : List AgentMetric) : Except PyError VersionComparison := do
  let baseline ← aggregate metrics baselineVersion
  let candidate ← aggregate metrics candidateVersion
  .ok (comparison tenantId agentId baselineVersion candidateVersion comparisonId timestamp baseline
    candidate)

/-- A change is written with its sign. -/
example : signed (-1 / 2) = "-0.5000" := by decide +kernel

end VersionComparator

end AgentFabric.Observability
