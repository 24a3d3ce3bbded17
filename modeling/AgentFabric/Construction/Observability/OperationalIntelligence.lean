import AgentFabric.Construction.Connectors.ConnectorRegistry
import AgentFabric.Foundation.Money

namespace AgentFabric.Observability
open Connectors (TenantContext)
open Sorting

/-- The metrics that are supported. -/
def supportedMetrics : List String := [
  "latency", "token_usage", "cost", "tool_failures", "retries", "hallucination_rate",
  "evaluation_score", "user_rating", "correction_frequency", "reliability"]

/-- The metrics whose values are shares. -/
def shareMetrics : List String := [
  "hallucination_rate", "correction_frequency", "reliability", "evaluation_score"]

/-- A recorded metric, with its value as an exact number. -/
structure AgentMetric where
  tenantId : String
  agentId : String
  metric : String
  value : ℚ
  version : String
  metricId : String
  timestamp : UtcTime

namespace AgentMetric

def validate (metric : AgentMetric) : Except PyError Unit :=
  if metric.tenantId = "" ∨ metric.agentId = "" then
    .error (.valueError "tenant_id and agent_id are required")
  else if metric.metric ∉ supportedMetrics then
    .error (.valueError ("unsupported agent metric: " ++ metric.metric))
  else if metric.value < 0 then .error (.valueError "metric value cannot be negative")
  else if metric.metric ∈ shareMetrics ∧ metric.value > 1 then
    .error (.valueError (metric.metric ++ " must be between 0 and 1"))
  else if metric.metric = "user_rating" ∧ metric.value > 5 then
    .error (.valueError "user_rating must be between 0 and 5")
  else .ok ()

end AgentMetric

section Arithmetic

def mean (values : List ℚ) : ℚ := values.sum / values.length

/-- The nearest number with four decimal places. -/
def round4 (value : ℚ) : ℚ := Rounding.roundTo 10000 value

/-- The lists of values under their names, in the order of the first occurrences. -/
def grouped {Key Item Value : Type} [DecidableEq Key] (key : Item → Key) (value : Item → Value)
    (items : List Item) : Dict Key (List Value) :=
  items.foldl (fun groups item =>
    groups.set (key item) (groups.getD (key item) [] ++ [value item])) Dict.empty

end Arithmetic

inductive HealthStatus where
  | healthy
  | warning
  | degraded
  | critical
  deriving DecidableEq

def HealthStatus.text : HealthStatus → String
  | .healthy => "healthy"
  | .warning => "warning"
  | .degraded => "degraded"
  | .critical => "critical"

structure HealthDimensions where
  quality : ℚ
  latency : ℚ
  reliability : ℚ
  cost : ℚ
  feedback : ℚ

def HealthDimensions.values (dimensions : HealthDimensions) : List ℚ := [
  dimensions.quality, dimensions.latency, dimensions.reliability, dimensions.cost,
  dimensions.feedback]

/-- The number of metrics and the numbers of each. -/
structure HealthEvidence where
  metricCount : Nat
  metrics : List (String × Nat)

structure HealthSnapshot where
  tenantId : String
  agentId : String
  version : String
  status : HealthStatus
  score : ℚ
  dimensions : HealthDimensions
  evidence : HealthEvidence
  snapshotId : String
  timestamp : UtcTime

namespace HealthEngine

def average (values : Option (List ℚ)) (default : ℚ) : ℚ :=
  match values with
  | none => default
  | some [] => default
  | some values => mean values

def lowerIsBetterScore (value warning degraded critical : ℚ) : ℚ :=
  if value ≤ warning then 1
  else if value ≤ degraded then 3 / 4
  else if value ≤ critical then 1 / 2
  else 1 / 5

def healthStatus (score weakest : ℚ) : HealthStatus :=
  if score < 9 / 20 ∨ weakest < 1 / 4 then .critical
  else if score < 13 / 20 ∨ weakest < 3 / 5 then .degraded
  else if score < 17 / 20 ∨ weakest < 17 / 20 then .warning
  else .healthy

def dimensions (groups : Dict String (List ℚ)) : HealthDimensions :=
  let quality := average (groups.get? "evaluation_score") 1
  let latencyMs := average (groups.get? "latency") 0
  let latency := lowerIsBetterScore latencyMs 1000 2500 5000
  let failureRate := average (groups.get? "tool_failures") 0
  let retryRate := average (groups.get? "retries") 0
  let explicitReliability := average (groups.get? "reliability") 1
  let reliability := min explicitReliability
    (max 0 (1 - min 1 (failureRate * (1 / 5) + retryRate * (1 / 10))))
  let cost := lowerIsBetterScore (average (groups.get? "cost") 0) 1 5 20
  let rating := average (groups.get? "user_rating") 5 / 5
  let corrections := average (groups.get? "correction_frequency") 0
  let hallucinations := average (groups.get? "hallucination_rate") 0
  let feedback := max 0 (min rating (1 - corrections))
  { quality := round4 (max 0 (min quality (1 - hallucinations)))
    latency := round4 latency
    reliability := round4 reliability
    cost := round4 cost
    feedback := round4 feedback }

def score (dimensions : HealthDimensions) : ℚ :=
  round4 (dimensions.values.sum / dimensions.values.length)

def weakest (dimensions : HealthDimensions) : ℚ :=
  dimensions.values.foldl min dimensions.quality

def compute (tenantId agentId version : String) (metrics : List AgentMetric)
    (snapshotId : String) (timestamp : UtcTime) : HealthSnapshot :=
  let groups := grouped AgentMetric.metric AgentMetric.value metrics
  let found := dimensions groups
  { tenantId
    agentId
    version
    status := healthStatus (score found) (weakest found)
    score := score found
    dimensions := found
    evidence := ⟨metrics.length, groups.items.map fun group => (group.1, group.2.length)⟩
    snapshotId
    timestamp }

end HealthEngine

/-- The levels of a degradation, of which a drift has one of the last four. -/
inductive DegradationLevel where
  | none
  | minor
  | moderate
  | major
  | critical
  deriving DecidableEq

namespace DegradationLevel

def text : DegradationLevel → String
  | .none => "none"
  | .minor => "minor"
  | .moderate => "moderate"
  | .major => "major"
  | .critical => "critical"

def order : DegradationLevel → Nat
  | .none => 0
  | .minor => 1
  | .moderate => 2
  | .major => 3
  | .critical => 4

end DegradationLevel

structure DriftEvent where
  tenantId : String
  agentId : String
  version : String
  metric : String
  baseline : ℚ
  currentValue : ℚ
  severity : DegradationLevel
  changeRatio : ℚ

namespace DriftDetector

def lowerIsBetter : List String := [
  "latency", "cost", "tool_failures", "retries", "hallucination_rate", "correction_frequency",
  "token_usage"]

def deteriorationRatio (metric : String) (baseline current : ℚ) : ℚ :=
  let denominator := max |baseline| (1 / 100)
  if metric ∈ lowerIsBetter then (current - baseline) / denominator
  else (baseline - current) / denominator

def severity (ratio : ℚ) : Option DegradationLevel :=
  if 1 / 2 ≤ ratio then some .critical
  else if 3 / 10 ≤ ratio then some .major
  else if 1 / 5 ≤ ratio then some .moderate
  else if 1 / 10 ≤ ratio then some .minor
  else none

/-- A group of records drifts from its first records to its last ones. -/
def drift (baselineSize currentSize : Nat) (tenantId agentId version name : String)
    (records : List AgentMetric) : Option DriftEvent :=
  if records.length < baselineSize + currentSize then none
  else
    let baseline := mean ((records.take baselineSize).map AgentMetric.value)
    let current := mean ((records.drop (records.length - currentSize)).map AgentMetric.value)
    let ratio := deteriorationRatio name baseline current
    (severity ratio).map fun severity =>
      { tenantId
        agentId
        version
        metric := name
        baseline := round4 baseline
        currentValue := round4 current
        severity
        changeRatio := round4 ratio }

def detect (metrics : List AgentMetric) (baselineSize currentSize : Nat) : List DriftEvent :=
  (grouped (fun metric : AgentMetric =>
      (metric.tenantId, metric.agentId, metric.version, metric.metric)) id
    (sortedBy (fun metric : AgentMetric => metric.timestamp.wall.micros) metrics)).items.filterMap
    fun group => drift baselineSize currentSize group.1.1 group.1.2.1 group.1.2.2.1 group.1.2.2.2
      group.2

end DriftDetector

structure DegradationRecord where
  tenantId : String
  agentId : String
  version : String
  level : DegradationLevel
  reasons : List String
  degradationId : String
  timestamp : UtcTime

namespace DegradationMonitor

/-- The level of a health status. -/
def statusLevel : HealthStatus → DegradationLevel
  | .healthy => .none
  | .warning => .minor
  | .degraded => .major
  | .critical => .critical

/-- The drift events raise the level and give their reasons. -/
def assess (health : HealthSnapshot) (drift : List DriftEvent) (degradationId : String)
    (timestamp : UtcTime) : DegradationRecord where
  tenantId := health.tenantId
  agentId := health.agentId
  version := health.version
  level := drift.foldl (fun level event =>
    if level.order < event.severity.order then event.severity else level) (statusLevel health.status)
  reasons := ("health is " ++ health.status.text) ::
    drift.map fun event => event.metric ++ " drift is " ++ event.severity.text
  degradationId := degradationId
  timestamp := timestamp

end DegradationMonitor

/-- The collections that the marketplace gate depends on. -/
structure ObservabilityState where
  metrics : Dict String AgentMetric
  snapshots : Dict String HealthSnapshot
  degradations : Dict String DegradationRecord

/-- A metric with the ids that its recording draws and its readings of the clock. -/
structure MetricRecording where
  metric : AgentMetric
  snapshotId : String
  snapshotTime : UtcTime
  degradationId : String
  degradationTime : UtcTime

namespace ObservabilityState

def initial : ObservabilityState := ⟨Dict.empty, Dict.empty, Dict.empty⟩

variable (state : ObservabilityState)

def listMetrics (tenantId agentId version : String) : List AgentMetric :=
  (Collection.rows state.metrics).filter fun metric =>
    metric.tenantId = tenantId ∧ metric.agentId = agentId ∧ metric.version = version

/-- The key of a degradation. -/
def degradationKey (tenantId agentId version : String) : String :=
  tenantId ++ ":" ++ agentId ++ ":" ++ version

/-- A refresh stores the health and the degradation of the metrics that are listed. -/
def refresh (tenantId agentId version snapshotId : String)
    (snapshotTime : UtcTime) (degradationId : String) (degradationTime : UtcTime) :
    HealthSnapshot × ObservabilityState :=
  let metrics := state.listMetrics tenantId agentId version
  let health := HealthEngine.compute tenantId agentId version metrics snapshotId snapshotTime
  let degradation := DegradationMonitor.assess health (DriftDetector.detect metrics 3 1) degradationId
    degradationTime
  (health,
    { state with
      snapshots := state.snapshots.set health.snapshotId health
      degradations := state.degradations.set (degradationKey tenantId agentId version) degradation })

def recordMetric (recording : MetricRecording) : Except PyError AgentMetric × ObservabilityState :=
  match recording.metric.validate with
  | .error exception => (.error exception, state)
  | .ok _ =>
      let recorded :=
        { state with metrics := state.metrics.set recording.metric.metricId recording.metric }
      (.ok recording.metric,
        (recorded.refresh recording.metric.tenantId recording.metric.agentId recording.metric.version
          recording.snapshotId recording.snapshotTime recording.degradationId
          recording.degradationTime).2)

variable (ctx : TenantContext) (agentId version : String)

def healthHistory : List HealthSnapshot :=
  sortedBy (fun health => health.timestamp.wall.micros)
    ((Collection.rows state.snapshots).filter fun health =>
      health.tenantId = ctx.tenantId ∧ health.agentId = agentId ∧ health.version = version)

/-- The latest health, where none is required. -/
def latestHealth : Option HealthSnapshot :=
  (state.healthHistory ctx agentId version).getLast?

def latestDegradation : Option DegradationRecord :=
  (sortedBy (fun degradation => degradation.timestamp.wall.micros)
    ((Collection.rows state.degradations).filter fun degradation =>
      degradation.tenantId = ctx.tenantId ∧ degradation.agentId = agentId ∧
        degradation.version = version)).getLast?

/-- A degradation of one of the two highest levels. -/
def blocking (degradation : DegradationRecord) : Bool :=
  degradation.level ∈ [DegradationLevel.major, DegradationLevel.critical]

def enforceMarketplaceGate (minimumQuality : ℚ) : Except PyError Unit :=
  match state.latestHealth ctx agentId version with
  | none => .ok ()
  | some health =>
      if health.status = .critical then
        .error (.authorizationError "marketplace publication blocked: agent health is critical")
      else
        match (state.latestDegradation ctx agentId version).filter blocking with
        | some degradation =>
            .error (.authorizationError
              ("marketplace publication blocked: degradation is " ++ degradation.level.text))
        | none =>
            if health.dimensions.quality < minimumQuality then
              .error (.authorizationError
                "marketplace publication blocked: quality threshold not met")
            else .ok ()

/-- The recording of a metric as a step. -/
def step : Transition.Machine ObservabilityState MetricRecording (Except PyError AgentMetric) :=
  recordMetric

end ObservabilityState

end AgentFabric.Observability
