import AgentFabric.Construction.Observability.VersionComparison
import AgentFabric.Proof.Observability.HealthMonotonicity

namespace AgentFabric.Observability
open Sorting

/-- The result of the same changes in the other direction. -/
def ComparisonResult.opposite : ComparisonResult → ComparisonResult
  | .better => .worse
  | .worse => .better
  | .same => .same

variable (metrics : List AgentMetric) (version name : String)

/-- The mean of a metric of a version, which is zero without values. -/
def meanOf : ℚ :=
  mean (valuesOf (metrics.filter fun metric => metric.version = version) name)

/-- The number that divides the changes from a version. -/
def scale : ℚ :=
  max |meanOf metrics version name| 1

/-- Two directions of a comparison contradict each other nowhere. -/
structure Antisymmetric (forward backward : VersionComparison) : Prop where
  better : forward.result = .better ↔ backward.result = .worse
  worse : forward.result = .worse ↔ backward.result = .better
  same : forward.result = .same ↔ backward.result = .same

/-- The two directions recommend publishing both versions or rolling back both. -/
def Conflicting (forward backward : VersionComparison) : Prop :=
  (forward.recommendation = "publish" ∧ backward.recommendation = "publish") ∨
    (forward.recommendation = "rollback" ∧ backward.recommendation = "rollback")

namespace VersionComparator

section Aggregates

variable {metrics : List AgentMetric} {version : String} {found : Dict String ℚ}

/-- A version with metrics has an aggregate of their means. -/
theorem aggregate_returns (measured : ∃ metric ∈ metrics, metric.version = version) :
    ∃ found, aggregate metrics version = .ok found ∧
      ∀ name, found.getD name 0 = meanOf metrics version name := by
  let kept := metrics.filter fun metric => metric.version = version
  let groups := grouped AgentMetric.metric AgentMetric.value kept
  have group (name : String) : groups.getD name [] = valuesOf kept name := getD_grouped _ _ kept name
  have filled : groups.items.isEmpty = false := by
    obtain ⟨metric, member, own⟩ := measured
    have listed : metric.value ∈ groups.getD metric.metric [] := by
      rw [group]
      exact List.mem_map_of_mem (List.mem_filter.mpr
        ⟨List.mem_filter.mpr ⟨member, decide_eq_true own⟩, decide_eq_true rfl⟩)
    by_contra empty
    rw [Bool.not_eq_false, List.isEmpty_iff] at empty
    simp [Dict.getD, Dict.get?, empty] at listed
  refine ⟨groups.mapValues mean, ?_, fun name => ?_⟩
  · unfold aggregate
    exact if_neg (by rw [filled]; decide)
  · rw [meanOf, ← group, Dict.getD, Dict.get?_mapValues, Dict.getD]
    cases groups.get? name with
    | none => simp [mean]
    | some values => rfl

end Aggregates

section Swap

variable (baseline candidate : Dict String ℚ)

theorem names_comm : names candidate baseline = names baseline candidate := by
  refine sortedBy_eq_of_perm id _ _ (List.perm_append_comm.dedup) ?_
  rw [List.map_id]
  exact List.nodup_dedup _

variable (name : String)

theorem get?_deltas : (deltas baseline candidate).get? name =
    if name ∈ names baseline candidate then
      some (round4 (candidate.getD name 0 - baseline.getD name 0)) else none := by
  split <;> rename_i listed
  · exact (Dict.get?_eq_some_iff _ _ _).mpr (List.mem_map.mpr ⟨name, listed, rfl⟩)
  · rw [Option.eq_none_iff_forall_not_mem]
    intro value held
    obtain ⟨other, member, same⟩ := List.mem_map.mp ((Dict.get?_eq_some_iff _ _ _).mp held)
    have own : other = name := congrArg Prod.fst same
    exact listed (own ▸ member)

/-- The other direction has the negated changes. -/
theorem get?_deltas_swap : (deltas candidate baseline).get? name =
    ((deltas baseline candidate).get? name).map fun delta => -delta := by
  rw [get?_deltas, get?_deltas, names_comm]
  split
  · rw [Option.map_some, round4, round4, ← Rounding.roundTo_neg, neg_sub]
  · rfl

theorem getD_deltas_swap : (deltas candidate baseline).getD name 0 =
    -(deltas baseline candidate).getD name 0 := by
  rw [Dict.getD, get?_deltas_swap, Dict.getD]
  cases (deltas baseline candidate).get? name <;> simp

theorem impact_neg (delta : ℚ) : impact name (-delta) = -impact name delta := by
  unfold impact
  split <;> rfl

variable (found : Dict String ℚ)

/-- The mean of the changes, each divided by a number for its name. -/
def overall (divisor : String → ℚ) : ℚ :=
  mean (found.items.map fun item => impact item.1 item.2 / divisor item.1)

theorem deltas_items : (deltas baseline candidate).items =
    (names baseline candidate).map fun name => (name, (deltas baseline candidate).getD name 0) := by
  apply List.map_congr_left
  intro name listed
  show _ = (name, ((deltas baseline candidate).get? name).getD 0)
  rw [get?_deltas, if_pos listed]
  rfl

theorem result_comparison (tenantId agentId baselineVersion candidateVersion comparisonId : String)
    (timestamp : UtcTime) :
    (comparison tenantId agentId baselineVersion candidateVersion comparisonId timestamp baseline
      candidate).result = verdict (overall (deltas baseline candidate) fun name =>
        max |baseline.getD name 0| 1) := by
  have changes : (deltas baseline candidate).items.map (fun item =>
      impact item.1 item.2 / max |baseline.getD item.1 0| 1) = impacts baseline candidate := by
    rw [deltas_items, List.map_map]
    rfl
  show verdict _ = _
  rw [overall, changes]
  cases impacts baseline candidate with
  | nil => simp [mean]
  | cons change rest => rfl

theorem mean_neg (values : List ℚ) : mean (values.map fun value => -value) = -mean values := by
  rw [mean, mean, List.length_map, ← neg_div]
  congr 1
  induction values with
  | nil => simp
  | cons value rest ih =>
      rw [List.map_cons, List.sum_cons, ih, List.sum_cons]
      ring

/-- The changes of the other direction have the negated mean. -/
theorem overall_swap (divisor : String → ℚ) : overall (deltas candidate baseline) divisor =
    -overall (deltas baseline candidate) divisor := by
  rw [overall, overall, ← mean_neg, deltas_items, deltas_items, names_comm]
  rw [List.map_map, List.map_map, List.map_map]
  congr 1
  apply List.map_congr_left
  intro name listed
  show impact name ((deltas candidate baseline).getD name 0) / divisor name =
    -(impact name ((deltas baseline candidate).getD name 0) / divisor name)
  rw [getD_deltas_swap, impact_neg, neg_div]

theorem overall_congr {first second : String → ℚ}
    (same : ∀ name, found.getD name 0 ≠ 0 → first name = second name) :
    overall found first = overall found second := by
  rw [overall, overall]
  congr 1
  apply List.map_congr_left
  intro item member
  have held : found.getD item.1 0 = item.2 := by
    rw [Dict.getD, (Dict.get?_eq_some_iff _ _ _).mpr member]
    rfl
  by_cases unchanged : item.2 = 0
  · have none : impact item.1 item.2 = 0 := by
      rw [unchanged, impact]
      split <;> norm_num
    rw [none, zero_div, zero_div]
  · rw [same item.1 (held.trans_ne unchanged)]

variable {divisor : String → ℚ}

theorem overall_nonneg {found : Dict String ℚ} (positive : ∀ name, 0 ≤ divisor name)
    (improved : ∀ item ∈ found.items, 0 ≤ impact item.1 item.2) : 0 ≤ overall found divisor := by
  apply div_nonneg _ (Nat.cast_nonneg _)
  apply List.sum_nonneg
  intro change member
  obtain ⟨item, listed, rfl⟩ := List.mem_map.mp member
  exact div_nonneg (improved item listed) (positive item.1)

theorem overall_nonpos {found : Dict String ℚ} (positive : ∀ name, 0 ≤ divisor name)
    (declined : ∀ item ∈ found.items, impact item.1 item.2 ≤ 0) : overall found divisor ≤ 0 := by
  apply div_nonpos_of_nonpos_of_nonneg _ (Nat.cast_nonneg _)
  have none : ∀ change ∈ found.items.map fun item => impact item.1 item.2 / divisor item.1,
      change ≤ 0 := by
    intro change member
    obtain ⟨item, listed, rfl⟩ := List.mem_map.mp member
    exact div_nonpos_of_nonpos_of_nonneg (declined item listed) (positive item.1)
  exact (List.sum_le_card_nsmul _ 0 none).trans_eq (smul_zero _)

end Swap

section Verdicts

variable {forward backward : ℚ} (overall : ℚ)

theorem verdict_neg : verdict (-overall) = (verdict overall).opposite := by
  unfold verdict
  split_ifs <;> first | rfl | linarith

theorem verdict_better_iff : verdict overall = .better ↔ 1 / 50 < overall := by
  unfold verdict
  split_ifs <;> simp_all

theorem verdict_worse_iff : verdict overall = .worse ↔ overall < -(1 / 50) := by
  unfold verdict
  split_ifs with better worse
  · simp only [false_iff]
    linarith
  · exact ⟨fun _ => worse, fun _ => rfl⟩
  · simpa only [reduceCtorEq, false_iff] using worse

variable (result : ComparisonResult)

theorem recommendation_publish_iff : recommendation result = "publish" ↔ result = .better := by
  cases result <;> decide

theorem recommendation_rollback_iff : recommendation result = "rollback" ↔ result = .worse := by
  cases result <;> decide

end Verdicts

section Laws

/-- What the comparison of a baseline with a candidate says about the other direction. -/
structure SwapLaws (metrics : List AgentMetric) (baselineVersion candidateVersion : String)
    (forward backward : VersionComparison) : Prop where
  deltas : ∀ name, backward.metricsDelta.get? name =
    (forward.metricsDelta.get? name).map fun delta => -delta
  ahead : forward.result = verdict (overall forward.metricsDelta (scale metrics baselineVersion))
  back : backward.result =
    (verdict (overall forward.metricsDelta (scale metrics candidateVersion))).opposite
  scaled : (∀ name, forward.metricsDelta.getD name 0 ≠ 0 →
    scale metrics baselineVersion name = scale metrics candidateVersion name) →
      Antisymmetric forward backward
  aligned : (∀ item ∈ forward.metricsDelta.items, 0 ≤ impact item.1 item.2) ∨
    (∀ item ∈ forward.metricsDelta.items, impact item.1 item.2 ≤ 0) → ¬ Conflicting forward backward

theorem scale_nonneg (metrics : List AgentMetric) (version name : String) :
    0 ≤ scale metrics version name :=
  zero_le_one.trans (le_max_right _ _)

/-- The results of the two directions determine the other laws. -/
theorem swapLaws_of_results {metrics : List AgentMetric} {baselineVersion candidateVersion : String}
    {forward backward : VersionComparison}
    (deltas : ∀ name, backward.metricsDelta.get? name =
      (forward.metricsDelta.get? name).map fun delta => -delta)
    (ahead : forward.result =
      verdict (overall forward.metricsDelta (scale metrics baselineVersion)))
    (back : backward.result =
      (verdict (overall forward.metricsDelta (scale metrics candidateVersion))).opposite)
    (recommended : forward.recommendation = recommendation forward.result)
    (advised : backward.recommendation = recommendation backward.result) :
    SwapLaws metrics baselineVersion candidateVersion forward backward where
  deltas := deltas
  ahead := ahead
  back := back
  scaled := by
    intro same
    rw [← overall_congr _ same, ← ahead] at back
    constructor <;> rw [back] <;> cases forward.result <;> decide
  aligned := by
    intro aligned conflict
    rw [← verdict_neg] at back
    rw [Conflicting, recommended, advised, recommendation_publish_iff, recommendation_publish_iff,
      recommendation_rollback_iff, recommendation_rollback_iff, ahead, back, verdict_better_iff,
      verdict_better_iff, verdict_worse_iff, verdict_worse_iff] at conflict
    rcases aligned with improved | declined
    · have first := overall_nonneg (scale_nonneg metrics baselineVersion) improved
      have second := overall_nonneg (scale_nonneg metrics candidateVersion) improved
      rcases conflict with both | both <;> linarith
    · have first := overall_nonpos (scale_nonneg metrics baselineVersion) declined
      have second := overall_nonpos (scale_nonneg metrics candidateVersion) declined
      rcases conflict with both | both <;> linarith

variable (tenantId agentId comparisonId : String) (timestamp : UtcTime)

/-- Two versions with metrics are compared in both directions, and a version with itself is the
same. -/
theorem compare_swapped (metrics : List AgentMetric) (baselineVersion candidateVersion : String)
    (measured : ∃ metric ∈ metrics, metric.version = baselineVersion)
    (proposed : ∃ metric ∈ metrics, metric.version = candidateVersion) :
    (∃ forward backward,
      compare tenantId agentId baselineVersion candidateVersion comparisonId timestamp metrics =
        .ok forward ∧
      compare tenantId agentId candidateVersion baselineVersion comparisonId timestamp metrics =
        .ok backward ∧
      SwapLaws metrics baselineVersion candidateVersion forward backward) ∧
    ∃ own, compare tenantId agentId baselineVersion baselineVersion comparisonId timestamp metrics =
      .ok own ∧ own.result = .same := by
  obtain ⟨baseline, first, means⟩ := aggregate_returns measured
  obtain ⟨candidate, second, others⟩ := aggregate_returns proposed
  constructor
  · refine ⟨comparison tenantId agentId baselineVersion candidateVersion comparisonId timestamp
      baseline candidate, comparison tenantId agentId candidateVersion baselineVersion comparisonId
      timestamp candidate baseline, ?_, ?_, ?_⟩
    · rw [compare, first, second]
      rfl
    · rw [compare, first, second]
      rfl
    · refine swapLaws_of_results (get?_deltas_swap baseline candidate) ?_ ?_ rfl rfl
      · rw [result_comparison]
        simp only [means]
        rfl
      · rw [result_comparison, overall_swap, verdict_neg]
        simp only [others]
        rfl
  · refine ⟨comparison tenantId agentId baselineVersion baselineVersion comparisonId timestamp baseline
      baseline, ?_, ?_⟩
    · rw [compare, first]
      rfl
    · rw [result_comparison]
      have reversed := overall_swap baseline baseline fun name => max |baseline.getD name 0| 1
      have none : overall (deltas baseline baseline) (fun name => max |baseline.getD name 0| 1) = 0 := by
        linarith
      rw [none]
      decide +kernel

end Laws

section Conflict

/-- One metric of a version. -/
def exampleMetric (version name : String) (value : ℚ) : AgentMetric :=
  ⟨"a", "g", name, value, version, "", UtcTime.first⟩

/-- The rating grows fivefold, and two shares fall from one to zero. -/
def exampleMetrics : List AgentMetric := [
  exampleMetric "1" "user_rating" 1, exampleMetric "1" "evaluation_score" 1,
  exampleMetric "1" "reliability" 1, exampleMetric "2" "user_rating" 5,
  exampleMetric "2" "evaluation_score" 0, exampleMetric "2" "reliability" 0]

theorem compare_swapped_example :
    (∃ forward backward,
      compare "a" "g" "1" "2" "c" UtcTime.first exampleMetrics = .ok forward ∧
      compare "a" "g" "2" "1" "c" UtcTime.first exampleMetrics = .ok backward ∧
      SwapLaws exampleMetrics "1" "2" forward backward) ∧
    ∃ own, compare "a" "g" "1" "1" "c" UtcTime.first exampleMetrics = .ok own ∧
      own.result = .same :=
  compare_swapped "a" "g" "c" UtcTime.first exampleMetrics "1" "2"
    ⟨exampleMetric "1" "user_rating" 1, by simp [exampleMetrics], rfl⟩
    ⟨exampleMetric "2" "user_rating" 5, by simp [exampleMetrics], rfl⟩

/-- Each of two versions with valid metrics is better than the other one. -/
theorem compare_not_antisymmetric : (∀ metric ∈ exampleMetrics, metric.validate = .ok ()) ∧
    ∃ forward backward,
      compare "a" "g" "1" "2" "c" UtcTime.first exampleMetrics = .ok forward ∧
      compare "a" "g" "2" "1" "c" UtcTime.first exampleMetrics = .ok backward ∧
      ¬ Antisymmetric forward backward ∧ Conflicting forward backward := by
  have results : (compare "a" "g" "1" "2" "c" UtcTime.first exampleMetrics).toOption.map
        (fun found => (found.result, found.recommendation)) = some (.better, "publish") ∧
      (compare "a" "g" "2" "1" "c" UtcTime.first exampleMetrics).toOption.map
        (fun found => (found.result, found.recommendation)) = some (.better, "publish") := by
    decide +kernel
  constructor
  · decide +kernel
  · cases ahead : compare "a" "g" "1" "2" "c" UtcTime.first exampleMetrics with
    | error error => simp [ahead, Except.toOption] at results
    | ok forward =>
        cases back : compare "a" "g" "2" "1" "c" UtcTime.first exampleMetrics with
        | error error => simp [back, Except.toOption] at results
        | ok backward =>
            simp only [ahead, back, Except.toOption, Option.map_some, Option.some.injEq,
              Prod.mk.injEq] at results
            obtain ⟨⟨better, publish⟩, other, published⟩ := results
            refine ⟨forward, backward, rfl, rfl, fun antisymmetric => ?_, .inl ⟨publish, published⟩⟩
            have worse := antisymmetric.better.mp better
            cases worse.symm.trans other

end Conflict

end VersionComparator

end AgentFabric.Observability
