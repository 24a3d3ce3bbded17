import AgentFabric.Construction.Observability.OperationalIntelligence

namespace AgentFabric.Observability
open HealthEngine HealthDimensions DegradationMonitor

section Averages

variable (metrics : List AgentMetric)

/-- The values of the metrics with a name. -/
def valuesOf (name : String) : List ℚ :=
  (metrics.filter fun metric => metric.metric = name).map AgentMetric.value

/-- A group holds the values of its items in their order. -/
theorem getD_grouped {Key Item Value : Type} [DecidableEq Key] (key : Item → Key)
    (value : Item → Value) (items : List Item) (name : Key) :
    (grouped key value items).getD name [] =
      (items.filter fun item => key item = name).map value := by
  have folded (groups : Dict Key (List Value)) :
      (items.foldl (fun groups item =>
        groups.set (key item) (groups.getD (key item) [] ++ [value item])) groups).getD name [] =
          groups.getD name [] ++ (items.filter fun item => key item = name).map value := by
    induction items generalizing groups with
    | nil => simp
    | cons item rest ih =>
        rw [List.foldl_cons, ih, Dict.getD_set]
        by_cases own : key item = name
        · simp [own]
        · simp [own, Ne.symm own]
  exact folded Dict.empty

variable {values : List ℚ} {default bound : ℚ}

/-- A missing group and an empty one have the default as their average. -/
theorem average_grouped (name : String) (default : ℚ) :
    average ((grouped AgentMetric.metric AgentMetric.value metrics).get? name) default =
      average (some (valuesOf metrics name)) default := by
  have group := getD_grouped AgentMetric.metric AgentMetric.value metrics name
  rw [Dict.getD] at group
  rw [valuesOf, ← group]
  cases (grouped AgentMetric.metric AgentMetric.value metrics).get? name <;> rfl

theorem le_average (all : ∀ value ∈ values, bound ≤ value) (le : bound ≤ default) :
    bound ≤ average (some values) default := by
  cases values with
  | nil => exact le
  | cons value rest =>
      have positive : (0 : ℚ) < (value :: rest).length := by exact_mod_cast Nat.succ_pos rest.length
      have sum := List.card_nsmul_le_sum (value :: rest) bound all
      rw [nsmul_eq_mul] at sum
      exact (le_div_iff₀ positive).mpr (by linarith)

theorem average_le (all : ∀ value ∈ values, value ≤ bound) (le : default ≤ bound) :
    average (some values) default ≤ bound := by
  cases values with
  | nil => exact le
  | cons value rest =>
      have positive : (0 : ℚ) < (value :: rest).length := by exact_mod_cast Nat.succ_pos rest.length
      have sum := List.sum_le_card_nsmul (value :: rest) bound all
      rw [nsmul_eq_mul] at sum
      exact (div_le_iff₀ positive).mpr (by linarith)

theorem average_perm {other : List ℚ} (perm : values.Perm other) (default : ℚ) :
    average (some values) default = average (some other) default := by
  cases values with
  | nil => rw [List.nil_perm.mp perm]
  | cons value rest =>
      cases other with
      | nil => exact absurd perm.length_eq (Nat.succ_ne_zero _)
      | cons head tail =>
          show mean (value :: rest) = mean (head :: tail)
          rw [mean, mean, perm.sum_eq, perm.length_eq]

/-- An average grows with each of its values. -/
theorem average_mono (before after : List ℚ) {first second : ℚ} (le : first ≤ second)
    (default : ℚ) :
    average (some (before ++ first :: after)) default ≤
      average (some (before ++ second :: after)) default := by
  have unfolded (value : ℚ) : average (some (before ++ value :: after)) default =
      (before.sum + (value + after.sum)) / (before.length + (after.length + 1) : ℕ) := by
    have listed : average (some (before ++ value :: after)) default =
        mean (before ++ value :: after) := by
      cases before <;> rfl
    rw [listed, mean, List.sum_append, List.sum_cons, List.length_append, List.length_cons]
  rw [unfolded, unfolded]
  exact div_le_div_of_nonneg_right (by linarith) (Nat.cast_nonneg _)

end Averages

section Decline

/-- A value of a metric that is not better than another one. -/
def Worse (name : String) (value worse : ℚ) : Prop :=
  if name ∈ DriftDetector.lowerIsBetter then value ≤ worse else worse ≤ value

variable (before after : List AgentMetric)

/-- No average of a name gets better. -/
def Declines : Prop :=
  ∀ name default, Worse name (average (some (valuesOf before name)) default)
    (average (some (valuesOf after name)) default)

theorem Worse.refl (name : String) (value : ℚ) : Worse name value value := by
  unfold Worse
  split <;> exact le_refl value

/-- One worse value lets the averages decline. -/
theorem declines_of_worse (metric : AgentMetric) {value : ℚ}
    (worse : Worse metric.metric metric.value value) :
    Declines (before ++ metric :: after) (before ++ { metric with value } :: after) := by
  intro name default
  have split (middle : AgentMetric) : valuesOf (before ++ middle :: after) name =
      valuesOf before name ++ (valuesOf [middle] name ++ valuesOf after name) := by
    simp only [valuesOf, ← List.map_append, ← List.filter_append]
    rfl
  by_cases own : metric.metric = name
  · have single (other : ℚ) : valuesOf [{ metric with value := other }] name = [other] := by
      simp [valuesOf, own]
    rw [split, split, single value, show valuesOf [metric] name = [metric.value] from single _]
    subst own
    unfold Worse at worse ⊢
    split at worse <;> rename_i listed
    · rw [if_pos listed]
      exact average_mono _ _ worse default
    · rw [if_neg listed]
      exact average_mono _ _ worse default
  · have single (other : ℚ) : valuesOf [{ metric with value := other }] name = [] := by
      simp [valuesOf, own]
    rw [split, split, single value, show valuesOf [metric] name = [] from single _]
    exact Worse.refl _ _

end Decline

namespace HealthDimensions

/-- No dimension is greater than in other dimensions. -/
structure AtMost (first second : HealthDimensions) : Prop where
  quality : first.quality ≤ second.quality
  latency : first.latency ≤ second.latency
  reliability : first.reliability ≤ second.reliability
  cost : first.cost ≤ second.cost
  feedback : first.feedback ≤ second.feedback

/-- The dimensions are shares. -/
def Bounded (dimensions : HealthDimensions) : Prop :=
  ∀ value ∈ dimensions.values, 0 ≤ value ∧ value ≤ 1

end HealthDimensions

/-- The health statuses from the best to the worst. -/
def HealthStatus.rank : HealthStatus → Nat
  | .healthy => 0
  | .warning => 1
  | .degraded => 2
  | .critical => 3

namespace HealthEngine

section Monotonicity

variable {first second : HealthDimensions}

theorem lowerIsBetterScore_antitone (warning degraded critical : ℚ) {value worse : ℚ}
    (le : value ≤ worse) :
    lowerIsBetterScore worse warning degraded critical ≤
      lowerIsBetterScore value warning degraded critical := by
  unfold lowerIsBetterScore
  split_ifs <;> linarith

theorem lowerIsBetterScore_bounds (value warning degraded critical : ℚ) :
    0 ≤ lowerIsBetterScore value warning degraded critical ∧
      lowerIsBetterScore value warning degraded critical ≤ 1 := by
  unfold lowerIsBetterScore
  split_ifs <;> norm_num

theorem score_mono (atMost : first.AtMost second) : score first ≤ score second := by
  apply Rounding.roundTo_mono
  have sums : first.values.sum ≤ second.values.sum := by
    simp only [values, List.sum_cons, List.sum_nil]
    linarith [atMost.quality, atMost.latency, atMost.reliability, atMost.cost, atMost.feedback]
  exact div_le_div_of_nonneg_right sums (Nat.cast_nonneg _)

theorem weakest_mono (atMost : first.AtMost second) : weakest first ≤ weakest second := by
  simp only [weakest, values, List.foldl_cons, List.foldl_nil]
  exact min_le_min (min_le_min (min_le_min (min_le_min (min_le_min atMost.quality atMost.quality)
    atMost.latency) atMost.reliability) atMost.cost) atMost.feedback

/-- The status does not improve when the score and the weakest dimension fall. -/
theorem healthStatus_antitone {score weakest lower lowest : ℚ} (scores : lower ≤ score)
    (weak : lowest ≤ weakest) :
    (healthStatus score weakest).rank ≤ (healthStatus lower lowest).rank := by
  have critical : score < 9 / 20 ∨ weakest < 1 / 4 → lower < 9 / 20 ∨ lowest < 1 / 4 :=
    Or.imp (lt_of_le_of_lt scores) (lt_of_le_of_lt weak)
  have degraded : score < 13 / 20 ∨ weakest < 3 / 5 → lower < 13 / 20 ∨ lowest < 3 / 5 :=
    Or.imp (lt_of_le_of_lt scores) (lt_of_le_of_lt weak)
  have warning : score < 17 / 20 ∨ weakest < 17 / 20 → lower < 17 / 20 ∨ lowest < 17 / 20 :=
    Or.imp (lt_of_le_of_lt scores) (lt_of_le_of_lt weak)
  unfold healthStatus
  split_ifs <;> simp_all [HealthStatus.rank]

theorem score_bounds (bounded : first.Bounded) : 0 ≤ score first ∧ score first ≤ 1 := by
  have quality := bounded first.quality (by simp [values])
  have latency := bounded first.latency (by simp [values])
  have reliability := bounded first.reliability (by simp [values])
  have cost := bounded first.cost (by simp [values])
  have feedback := bounded first.feedback (by simp [values])
  have mean : first.values.sum / first.values.length =
      (first.quality + first.latency + first.reliability + first.cost + first.feedback) / 5 := by
    simp only [values, List.sum_cons, List.sum_nil, List.length_cons, List.length_nil]
    norm_num
    ring
  rw [score, mean]
  constructor
  · apply Rounding.roundTo_nonneg
    linarith [quality.1, latency.1, reliability.1, cost.1, feedback.1]
  · apply Rounding.roundTo_le_one (by norm_num)
    linarith [quality.2, latency.2, reliability.2, cost.2, feedback.2]

end Monotonicity

section Dimensions

/-- The dimensions of metrics. -/
def dimensionsOf (metrics : List AgentMetric) : HealthDimensions :=
  dimensions (grouped AgentMetric.metric AgentMetric.value metrics)

variable {metrics other : List AgentMetric}

/-- Metrics whose averages decline have no greater dimension. -/
theorem dimensionsOf_antitone (declines : Declines metrics other) :
    (dimensionsOf other).AtMost (dimensionsOf metrics) := by
  have lower (name : String) (default : ℚ) (listed : name ∈ DriftDetector.lowerIsBetter) :
      average (some (valuesOf metrics name)) default ≤ average (some (valuesOf other name)) default := by
    have worse := declines name default
    rwa [Worse, if_pos listed] at worse
  have higher (name : String) (default : ℚ) (free : name ∉ DriftDetector.lowerIsBetter) :
      average (some (valuesOf other name)) default ≤ average (some (valuesOf metrics name)) default := by
    have worse := declines name default
    rwa [Worse, if_neg free] at worse
  have evaluation := higher "evaluation_score" 1 (by decide)
  have latency := lower "latency" 0 (by decide)
  have failures := lower "tool_failures" 0 (by decide)
  have retries := lower "retries" 0 (by decide)
  have reliability := higher "reliability" 1 (by decide)
  have cost := lower "cost" 0 (by decide)
  have rating := higher "user_rating" 5 (by decide)
  have corrections := lower "correction_frequency" 0 (by decide)
  have hallucinations := lower "hallucination_rate" 0 (by decide)
  simp only [dimensionsOf, dimensions, average_grouped]
  refine ⟨Rounding.roundTo_mono ?_, Rounding.roundTo_mono ?_, Rounding.roundTo_mono ?_,
    Rounding.roundTo_mono ?_, Rounding.roundTo_mono ?_⟩
  · exact max_le_max le_rfl (min_le_min evaluation (by linarith))
  · exact lowerIsBetterScore_antitone _ _ _ latency
  · refine min_le_min reliability (max_le_max le_rfl ?_)
    have rates := min_le_min (le_refl (1 : ℚ)) (show
      average (some (valuesOf metrics "tool_failures")) 0 * (1 / 5) +
          average (some (valuesOf metrics "retries")) 0 * (1 / 10) ≤
        average (some (valuesOf other "tool_failures")) 0 * (1 / 5) +
          average (some (valuesOf other "retries")) 0 * (1 / 10) by linarith)
    linarith
  · exact lowerIsBetterScore_antitone _ _ _ cost
  · exact max_le_max le_rfl (min_le_min (by linarith) (by linarith))

theorem dimensionsOf_perm (perm : metrics.Perm other) : dimensionsOf metrics = dimensionsOf other := by
  have averages (name : String) (default : ℚ) :
      average (some (valuesOf metrics name)) default = average (some (valuesOf other name)) default :=
    average_perm ((perm.filter _).map _) default
  simp only [dimensionsOf, dimensions, average_grouped, averages]

theorem validate_bounds {metric : AgentMetric} (valid : metric.validate = .ok ()) :
    0 ≤ metric.value ∧ (metric.metric ∈ shareMetrics → metric.value ≤ 1) ∧
      (metric.metric = "user_rating" → metric.value ≤ 5) := by
  unfold AgentMetric.validate at valid
  split_ifs at valid with unnamed unsupported negative share rating
  refine ⟨by linarith, fun listed => ?_, fun rated => ?_⟩
  · exact not_lt.mp fun greater => share ⟨listed, greater⟩
  · exact not_lt.mp fun greater => rating ⟨rated, greater⟩

/-- The dimensions of valid metrics are shares. -/
theorem dimensionsOf_bounded (valid : ∀ metric ∈ metrics, metric.validate = .ok ()) :
    (dimensionsOf metrics).Bounded := by
  have bounds (name : String) : ∀ value ∈ valuesOf metrics name,
      0 ≤ value ∧ (name ∈ shareMetrics → value ≤ 1) ∧ (name = "user_rating" → value ≤ 5) := by
    intro value member
    obtain ⟨metric, inside, rfl⟩ := List.mem_map.mp member
    obtain ⟨own, named⟩ := List.mem_filter.mp inside
    exact of_decide_eq_true named ▸ validate_bounds (valid metric own)
  have share (name : String) (listed : name ∈ shareMetrics) :
      ∀ value ∈ valuesOf metrics name, value ≤ 1 :=
    fun value member => (bounds name value member).2.1 listed
  have evaluation := average_le (share "evaluation_score" (by decide)) (le_refl 1)
  have rating := average_le (fun value member => (bounds "user_rating" value member).2.2 rfl)
    (le_refl 5)
  have lowest := le_average (fun value member => (bounds "reliability" value member).1) zero_le_one
  have highest := average_le (share "reliability" (by decide)) (le_refl 1)
  intro value member
  simp only [dimensionsOf, dimensions, average_grouped, values, List.mem_cons,
    List.not_mem_nil, or_false] at member
  rcases member with rfl | rfl | rfl | rfl | rfl
  · exact ⟨Rounding.roundTo_nonneg (le_max_left _ _), Rounding.roundTo_le_one (by norm_num)
      (max_le zero_le_one ((min_le_left _ _).trans evaluation))⟩
  · have bounds := lowerIsBetterScore_bounds (average (some (valuesOf metrics "latency")) 0) 1000 2500
      5000
    exact ⟨Rounding.roundTo_nonneg bounds.1, Rounding.roundTo_le_one (by norm_num) bounds.2⟩
  · exact ⟨Rounding.roundTo_nonneg (le_min lowest (le_max_left _ _)),
      Rounding.roundTo_le_one (by norm_num) ((min_le_left _ _).trans highest)⟩
  · have bounds := lowerIsBetterScore_bounds (average (some (valuesOf metrics "cost")) 0) 1 5 20
    exact ⟨Rounding.roundTo_nonneg bounds.1, Rounding.roundTo_le_one (by norm_num) bounds.2⟩
  · exact ⟨Rounding.roundTo_nonneg (le_max_left _ _), Rounding.roundTo_le_one (by norm_num)
      (max_le zero_le_one ((min_le_left _ _).trans (by linarith)))⟩

end Dimensions

end HealthEngine

namespace DegradationMonitor

/-- The level is one of the listed levels, and none of them is higher. -/
def IsHighest (level : DegradationLevel) (levels : List DegradationLevel) : Prop :=
  level ∈ levels ∧ ∀ other ∈ levels, other.order ≤ level.order

theorem IsHighest.unique {first second : DegradationLevel} {levels : List DegradationLevel}
    (left : IsHighest first levels) (right : IsHighest second levels) : first = second := by
  have below := left.2 second right.1
  have above := right.2 first left.1
  cases first <;> cases second <;> simp [DegradationLevel.order] at below above ⊢

theorem raised_isHighest (drift : List DriftEvent) (level : DegradationLevel) :
    IsHighest (drift.foldl (fun level event =>
      if level.order < event.severity.order then event.severity else level) level)
        (level :: drift.map DriftEvent.severity) := by
  induction drift generalizing level with
  | nil => exact ⟨List.mem_cons_self, by simp⟩
  | cons event rest ih =>
      rw [List.foldl_cons, List.map_cons]
      have raised := ih (if level.order < event.severity.order then event.severity else level)
      split at raised <;> rename_i higher
      · rw [if_pos higher]
        refine ⟨.tail _ raised.1, fun other member => ?_⟩
        rcases List.mem_cons.mp member with rfl | later
        · exact higher.le.trans (raised.2 _ (.head _))
        · exact raised.2 other later
      · rw [if_neg higher]
        refine ⟨?_, fun other member => ?_⟩
        · rcases List.mem_cons.mp raised.1 with same | later
          · rw [same]
            exact .head _
          · exact .tail _ (.tail _ later)
        · rcases List.mem_cons.mp member with rfl | later
          · exact raised.2 _ (.head _)
          · rcases List.mem_cons.mp later with rfl | later
            · exact (not_lt.mp higher).trans (raised.2 _ (.head _))
            · exact raised.2 other (.tail _ later)

end DegradationMonitor

section Laws

variable (tenantId agentId version snapshotId degradationId : String) (timestamp : UtcTime)

/-- Metrics have a bounded health that does not depend on their order and does not improve when a
value gets worse. -/
structure HealthLaws (metrics : List AgentMetric) (health : List AgentMetric → HealthSnapshot) :
    Prop where
  bounded : (∀ metric ∈ metrics, metric.validate = .ok ()) →
    (health metrics).dimensions.Bounded ∧ 0 ≤ (health metrics).score ∧ (health metrics).score ≤ 1
  unordered : ∀ other, metrics.Perm other →
    (health other).dimensions = (health metrics).dimensions ∧
      (health other).score = (health metrics).score ∧
        (health other).status = (health metrics).status
  monotone : ∀ before metric after value, metrics = before ++ metric :: after →
    Worse metric.metric metric.value value →
      let worse := health (before ++ { metric with value } :: after)
      worse.dimensions.AtMost (health metrics).dimensions ∧ worse.score ≤ (health metrics).score ∧
        (health metrics).status.rank ≤ worse.status.rank

/-- The degradation has the highest level of the health and the drift events. -/
structure DegradationLaws (health : HealthSnapshot) (drift : List DriftEvent)
    (level : List DriftEvent → DegradationLevel) : Prop where
  highest : DegradationMonitor.IsHighest (level drift)
    (statusLevel health.status :: drift.map DriftEvent.severity)
  unordered : ∀ other, drift.Perm other → level other = level drift

theorem healthLaws_compute (metrics : List AgentMetric) :
    HealthLaws metrics fun metrics =>
      compute tenantId agentId version metrics snapshotId timestamp where
  bounded := by
    intro valid
    have bounded := dimensionsOf_bounded valid
    exact ⟨bounded, score_bounds bounded⟩
  unordered := by
    intro other perm
    have same : dimensionsOf other = dimensionsOf metrics := (dimensionsOf_perm perm).symm
    exact ⟨same, congrArg score same, congrArg (fun dimensions =>
      healthStatus (score dimensions) (weakest dimensions)) same⟩
  monotone := by
    intro before metric after value listed worse
    subst listed
    have atMost := dimensionsOf_antitone (declines_of_worse before after metric worse)
    exact ⟨atMost, score_mono atMost, healthStatus_antitone
      (score_mono atMost) (weakest_mono atMost)⟩

theorem degradationLaws_assess (health : HealthSnapshot) (drift : List DriftEvent) :
    DegradationLaws health drift fun drift =>
      (assess health drift degradationId timestamp).level where
  highest := raised_isHighest drift _
  unordered := by
    intro other perm
    have levels : (statusLevel health.status :: drift.map DriftEvent.severity).Perm
        (statusLevel health.status :: other.map DriftEvent.severity) :=
      (perm.map _).cons _
    have own := raised_isHighest drift (statusLevel health.status)
    have listed : DegradationMonitor.IsHighest _
        (statusLevel health.status :: other.map DriftEvent.severity) :=
      ⟨levels.mem_iff.mp own.1, fun level member => own.2 level (levels.mem_iff.mpr member)⟩
    exact (raised_isHighest other _).unique listed

/-- The health of all metrics and every degradation that is assessed from a health follow the
laws. -/
theorem health_degradation_monotone (metrics : List AgentMetric) (health : HealthSnapshot)
    (drift : List DriftEvent) :
    HealthLaws metrics (fun metrics =>
        compute tenantId agentId version metrics snapshotId timestamp) ∧
      DegradationLaws health drift fun drift =>
        (assess health drift degradationId timestamp).level :=
  ⟨healthLaws_compute tenantId agentId version snapshotId timestamp metrics,
    degradationLaws_assess degradationId timestamp health drift⟩

end Laws

end AgentFabric.Observability
