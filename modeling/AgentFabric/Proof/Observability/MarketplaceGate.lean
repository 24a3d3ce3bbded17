import AgentFabric.Construction.Observability.OperationalIntelligence

namespace AgentFabric.Observability
open MetricRecording
open Connectors (TenantContext)
open LastEntry Sorting Transition

/-- The tenant, the agent and the version that a metric, a snapshot or a degradation is about. -/
abbrev Target := String × String × String

def AgentMetric.target (metric : AgentMetric) : Target :=
  (metric.tenantId, metric.agentId, metric.version)

def HealthSnapshot.target (health : HealthSnapshot) : Target :=
  (health.tenantId, health.agentId, health.version)

def DegradationRecord.target (degradation : DegradationRecord) : Target :=
  (degradation.tenantId, degradation.agentId, degradation.version)

section Recomputation

variable (recordings : List MetricRecording)

/-- The recordings that are accepted. -/
def accepted : List MetricRecording :=
  recordings.filter fun recording => recording.metric.validate.isOk

/-- The metrics of a target in the order in which the store lists them. -/
def metricsOf (target : Target) : List AgentMetric :=
  sortedBy AgentMetric.metricId
    ((recordings.map metric).filter fun metric => metric.target = target)

variable (target : Target) (metrics : List AgentMetric)

/-- The health that the metrics of a target give, whose id and time do not matter. -/
def recomputedHealth : HealthSnapshot :=
  HealthEngine.compute target.1 target.2.1 target.2.2 metrics "" UtcTime.first

/-- The degradation that the metrics of a target give, whose id and time do not matter. -/
def recomputedDegradation : DegradationRecord :=
  DegradationMonitor.assess (recomputedHealth target metrics) (DriftDetector.detect metrics 3 1) ""
    UtcTime.first

/-- The gate that looks at all recorded metrics of a target. -/
def Blocks (target : Target) (minimumQuality : ℚ) : Prop :=
  let metrics := metricsOf (accepted recordings) target
  metrics ≠ [] ∧
    ((recomputedHealth target metrics).status = .critical ∨
      (recomputedHealth target metrics).dimensions.quality < minimumQuality ∨
        ObservabilityState.blocking (recomputedDegradation target metrics) = true)

/-- The health alone blocks a target, or its degradation does not. -/
def DecidedByHealth (target : Target) (minimumQuality : ℚ) : Prop :=
  let metrics := metricsOf (accepted recordings) target
  (recomputedHealth target metrics).status = .critical ∨
    (recomputedHealth target metrics).dimensions.quality < minimumQuality ∨
      ObservabilityState.blocking (recomputedDegradation target metrics) = false

def keyOf : String :=
  ObservabilityState.degradationKey target.1 target.2.1 target.2.2

/-- Of the recordings under the key of a target that has one, the last is about the target. -/
def Unshadowed (target : Target) : Prop :=
  ∀ recording ∈ accepted recordings, recording.metric.target = target →
    ∀ last, lastWhere (fun other => keyOf other.metric.target = keyOf target) (accepted recordings) =
      some last → last.metric.target = target

/-- The recordings draw new ids, and the times of their snapshots increase. -/
structure Drawn (recordings : List MetricRecording) : Prop where
  metrics : ((accepted recordings).map fun recording => recording.metric.metricId).Nodup
  snapshots : ((accepted recordings).map snapshotId).Nodup
  times : (accepted recordings).Pairwise fun first second =>
    first.snapshotTime.wall.micros < second.snapshotTime.wall.micros

theorem metricsOf_append_other {recording : MetricRecording}
    {target : Target} (different : recording.metric.target ≠ target) :
    metricsOf (recordings ++ [recording]) target = metricsOf recordings target := by
  have dropped : [recording.metric].filter (fun metric => metric.target = target) = [] := by
    simp [different]
  rw [metricsOf, List.map_append, List.filter_append, List.map_singleton, dropped, List.append_nil]
  rfl

theorem metricsOf_eq_nil_iff (target : Target) :
    metricsOf recordings target = [] ↔
      lastWhere (fun recording => recording.metric.target = target) recordings = none := by
  rw [lastWhere_eq_none_iff, ← List.isEmpty_iff, metricsOf, isEmpty_sortedBy, List.isEmpty_iff,
    List.filter_eq_nil_iff]
  simp

end Recomputation

namespace ObservabilityState

section Summary

/-- The collections summarize the accepted recordings: the metrics are stored in their order, every
target has the snapshot of its last recording, and every key has the degradation of its last one. -/
structure Summarized (recordings : List MetricRecording) (state : ObservabilityState) : Prop where
  metrics : state.metrics.items =
    recordings.map fun recording => (recording.metric.metricId, recording.metric)
  origins : ∀ id health, state.snapshots.get? id = some health → ∃ recording ∈ recordings,
    id = recording.snapshotId ∧ health.timestamp = recording.snapshotTime ∧
      health.target = recording.metric.target
  latest : ∀ target last,
    lastWhere (fun recording => recording.metric.target = target) recordings = some last →
      state.snapshots.get? last.snapshotId = some (HealthEngine.compute target.1 target.2.1 target.2.2
        (metricsOf recordings target) last.snapshotId last.snapshotTime)
  keys : ∀ key degradation, state.degradations.get? key = some degradation →
    key = keyOf degradation.target
  degradations : ∀ target last,
    lastWhere (fun recording => keyOf recording.metric.target = keyOf target) recordings = some last →
      ∃ degradation, state.degradations.get? (keyOf target) = some degradation ∧
        degradation.target = last.metric.target ∧
          degradation.level = (recomputedDegradation last.metric.target
            (metricsOf recordings last.metric.target)).level
  free : ∀ target,
    lastWhere (fun recording => keyOf recording.metric.target = keyOf target) recordings = none →
      state.degradations.get? (keyOf target) = none

variable {recordings : List MetricRecording} {state : ObservabilityState}

theorem initial_summarized : Summarized [] initial where
  metrics := rfl
  origins := fun _ _ stored => by cases stored
  latest := fun _ _ found => by cases found
  keys := fun _ _ stored => by cases stored
  degradations := fun _ _ found => by cases found
  free := fun _ _ => rfl

/-- The stored metrics of a target are listed in the order of their ids. -/
theorem listMetrics_eq
    (items : state.metrics.items =
      recordings.map fun recording => (recording.metric.metricId, recording.metric))
    (target : Target) :
    state.listMetrics target.1 target.2.1 target.2.2 = metricsOf recordings target := by
  have named : ∀ item ∈ state.metrics.items, item.2.metricId = item.1 := by
    rw [items]
    intro item member
    obtain ⟨recording, _, rfl⟩ := List.mem_map.mp member
    rfl
  have values : state.metrics.items.map Prod.snd = recordings.map metric := by
    rw [items, List.map_map]
    rfl
  have about (metric : AgentMetric) :
      (decide (metric.tenantId = target.1 ∧ metric.agentId = target.2.1 ∧
        metric.version = target.2.2)) = decide (metric.target = target) := by
    simp [AgentMetric.target, Prod.ext_iff]
  rw [listMetrics, Collection.rows, map_sortedBy Prod.fst AgentMetric.metricId Prod.snd _ named,
    values, filter_sortedBy, metricsOf]
  simp only [about]

/-- The health and the degradation that a recording stores. -/
def storedHealth (recordings : List MetricRecording) (recording : MetricRecording) :
    HealthSnapshot :=
  HealthEngine.compute recording.metric.tenantId recording.metric.agentId recording.metric.version
    (metricsOf recordings recording.metric.target) recording.snapshotId recording.snapshotTime

def storedDegradation (recordings : List MetricRecording) (recording : MetricRecording) :
    DegradationRecord :=
  DegradationMonitor.assess (storedHealth recordings recording)
    (DriftDetector.detect (metricsOf recordings recording.metric.target) 3 1) recording.degradationId
    recording.degradationTime

variable {recording : MetricRecording}

theorem recordMetric_rejected (rejected : recording.metric.validate.isOk = false) :
    (recordMetric state recording).2 = state := by
  cases valid : recording.metric.validate with
  | error error => rw [recordMetric, valid]
  | ok passed => cases (congrArg Except.isOk valid).symm.trans rejected

theorem recordMetric_accepted
    (items : state.metrics.items =
      recordings.map fun recording => (recording.metric.metricId, recording.metric))
    (valid : recording.metric.validate.isOk = true)
    (fresh : recording.metric.metricId ∉
      recordings.map fun recording => recording.metric.metricId) :
    (recordMetric state recording).2 =
      { metrics := state.metrics.set recording.metric.metricId recording.metric
        snapshots := state.snapshots.set recording.snapshotId
          (storedHealth (recordings ++ [recording]) recording)
        degradations := state.degradations.set (keyOf recording.metric.target)
          (storedDegradation (recordings ++ [recording]) recording) } ∧
      (state.metrics.set recording.metric.metricId recording.metric).items =
        (recordings ++ [recording]).map fun recording =>
          (recording.metric.metricId, recording.metric) := by
  have absent : recording.metric.metricId ∉ state.metrics.items.map Prod.fst := by
    rw [items, List.map_map]
    exact fresh
  have appended : (state.metrics.set recording.metric.metricId recording.metric).items =
      (recordings ++ [recording]).map fun recording =>
        (recording.metric.metricId, recording.metric) := by
    rw [state.metrics.set_items_of_absent _ _ absent, items, List.map_append]
    rfl
  refine ⟨?_, appended⟩
  have listed := @listMetrics_eq (recordings ++ [recording])
    { state with metrics := state.metrics.set recording.metric.metricId recording.metric } appended
    recording.metric.target
  cases passed : recording.metric.validate with
  | error error => cases (congrArg Except.isOk passed).symm.trans valid
  | ok nothing =>
      rw [recordMetric, passed]
      simp only [refresh]
      rw [show listMetrics _ recording.metric.tenantId recording.metric.agentId
        recording.metric.version = _ from listed]
      rfl

/-- An accepted recording with new ids keeps the summary. -/
theorem recordMetric_summarized (summarized : Summarized recordings state)
    (valid : recording.metric.validate.isOk = true)
    (newMetric : recording.metric.metricId ∉
      recordings.map fun recording => recording.metric.metricId)
    (newSnapshot : recording.snapshotId ∉ recordings.map snapshotId) :
    Summarized (recordings ++ [recording]) (recordMetric state recording).2 := by
  obtain ⟨after, items⟩ := recordMetric_accepted summarized.metrics valid newMetric
  rw [after]
  refine ⟨items, ?_, ?_, ?_, ?_, ?_⟩
  · intro id health stored
    by_cases same : id = recording.snapshotId
    · subst same
      cases (Dict.get?_set_self _ _ _).symm.trans stored
      exact ⟨recording, List.mem_append_right _ (.head _), rfl, rfl, rfl⟩
    · obtain ⟨earlier, member, about⟩ := summarized.origins id health
        ((Dict.get?_set_of_ne _ _ same).symm.trans stored)
      exact ⟨earlier, List.mem_append_left _ member, about⟩
  · intro target last found
    rw [lastWhere_append] at found
    by_cases own : recording.metric.target = target
    · rw [if_pos (decide_eq_true own)] at found
      obtain rfl := Option.some.inj found
      subst own
      exact Dict.get?_set_self _ _ _
    · rw [if_neg (by simpa using own)] at found
      have older : last.snapshotId ∈ recordings.map snapshotId :=
        List.mem_map_of_mem (mem_of_lastWhere found)
      have different : last.snapshotId ≠ recording.snapshotId := fun same => newSnapshot (same ▸ older)
      rw [metricsOf_append_other recordings own]
      exact (Dict.get?_set_of_ne _ _ different).trans (summarized.latest target last found)
  · intro key degradation stored
    by_cases same : key = keyOf recording.metric.target
    · subst same
      cases (Dict.get?_set_self _ _ _).symm.trans stored
      rfl
    · exact summarized.keys key degradation ((Dict.get?_set_of_ne _ _ same).symm.trans stored)
  · intro target last found
    rw [lastWhere_append] at found
    by_cases own : keyOf recording.metric.target = keyOf target
    · rw [if_pos (decide_eq_true own)] at found
      obtain rfl := Option.some.inj found
      refine ⟨storedDegradation (recordings ++ [recording]) recording, ?_, rfl, rfl⟩
      rw [← own]
      exact Dict.get?_set_self _ _ _
    · rw [if_neg (by simpa using own)] at found
      have chosen : keyOf last.metric.target = keyOf target := by
        simpa using selects_of_lastWhere found
      obtain ⟨degradation, stored, about, level⟩ := summarized.degradations target last found
      have different : recording.metric.target ≠ last.metric.target := by
        intro same
        exact own ((congrArg keyOf same).trans chosen)
      refine ⟨degradation, ?_, about, ?_⟩
      · exact (Dict.get?_set_of_ne _ _ (Ne.symm own)).trans stored
      · rw [metricsOf_append_other recordings different]
        exact level
  · intro target none
    rw [lastWhere_append] at none
    by_cases own : keyOf recording.metric.target = keyOf target
    · rw [if_pos (decide_eq_true own)] at none
      cases none
    · rw [if_neg (by simpa using own)] at none
      exact (Dict.get?_set_of_ne _ _ (Ne.symm own)).trans (summarized.free target none)

theorem accepted_append (recordings : List MetricRecording) (recording : MetricRecording) :
    accepted (recordings ++ [recording]) =
      if recording.metric.validate.isOk then accepted recordings ++ [recording]
      else accepted recordings := by
  rw [accepted, List.filter_append]
  cases valid : recording.metric.validate.isOk with
  | true => simp [accepted, valid]
  | false => simp [accepted, valid]

/-- After every run the collections summarize its accepted recordings. -/
theorem run_summarized (recordings : List MetricRecording)
    (newMetrics : ((accepted recordings).map fun recording => recording.metric.metricId).Nodup)
    (newSnapshots : ((accepted recordings).map snapshotId).Nodup) :
    Summarized (accepted recordings) (run step initial recordings) := by
  induction recordings using List.reverseRecOn with
  | nil => exact initial_summarized
  | append_singleton earlier recording ih =>
      rw [run_append, run_cons, run_nil]
      rw [accepted_append] at newMetrics newSnapshots ⊢
      cases valid : recording.metric.validate.isOk with
      | false =>
          rw [valid, if_neg Bool.false_ne_true] at newMetrics newSnapshots
          rw [if_neg Bool.false_ne_true, step, recordMetric_rejected valid]
          exact ih newMetrics newSnapshots
      | true =>
          rw [valid, if_pos rfl, List.map_append] at newMetrics newSnapshots
          rw [if_pos rfl]
          have summarized := ih newMetrics.of_append_left newSnapshots.of_append_left
          refine recordMetric_summarized summarized valid ?_ ?_
          · intro repeated
            exact (List.disjoint_of_nodup_append newMetrics) repeated (.head _)
          · intro repeated
            exact (List.disjoint_of_nodup_append newSnapshots) repeated (.head _)

end Summary

section Gate

variable {recordings : List MetricRecording} {state : ObservabilityState} {ctx : TenantContext}
  {agentId version : String}

section

variable (summarized : Summarized recordings state)
include summarized

/-- Nothing is listed as the latest health of a target without recordings. -/
theorem latestHealth_none
    (absent : lastWhere (fun recording => recording.metric.target = (ctx.tenantId, agentId, version))
      recordings = none) : state.latestHealth ctx agentId version = none := by
  rw [latestHealth, healthHistory, List.getLast?_eq_none_iff, ← List.isEmpty_iff, isEmpty_sortedBy,
    List.isEmpty_iff, List.filter_eq_nil_iff]
  intro health member about
  obtain ⟨id, stored⟩ := (Collection.mem_rows_iff _ _).mp member
  obtain ⟨recording, listed, _, _, same⟩ := summarized.origins id health stored
  have target : recording.metric.target = (ctx.tenantId, agentId, version) := by
    rw [← same]
    simpa [HealthSnapshot.target, Prod.ext_iff] using about
  have unselected := lastWhere_eq_none_iff.mp absent recording listed
  simp [target] at unselected

/-- The latest health is the one of the last recording, because the times increase. -/
theorem latestHealth_some
    (times : recordings.Pairwise fun first second =>
      first.snapshotTime.wall.micros < second.snapshotTime.wall.micros) {last : MetricRecording}
    (found : lastWhere (fun recording =>
      recording.metric.target = (ctx.tenantId, agentId, version)) recordings = some last) :
    state.latestHealth ctx agentId version =
      some (HealthEngine.compute ctx.tenantId agentId version
        (metricsOf recordings (ctx.tenantId, agentId, version)) last.snapshotId last.snapshotTime) := by
  have stored := summarized.latest _ last found
  refine getLast?_sortedBy _ ?_ ?_
  · refine List.mem_filter.mpr ⟨(Collection.mem_rows_iff _ _).mpr ⟨_, stored⟩, ?_⟩
    exact decide_eq_true ⟨rfl, rfl, rfl⟩
  · intro other member
    obtain ⟨listed, about⟩ := List.mem_filter.mp member
    obtain ⟨id, held⟩ := (Collection.mem_rows_iff _ _).mp listed
    obtain ⟨recording, inside, rfl, time, same⟩ := summarized.origins id other held
    have target : recording.metric.target = (ctx.tenantId, agentId, version) := by
      rw [← same]
      simpa [HealthSnapshot.target, Prod.ext_iff] using about
    rcases eq_or_before_lastWhere times found inside (decide_eq_true target) with rfl | earlier
    · exact .inl (Option.some.inj (held.symm.trans stored))
    · rw [← time] at earlier
      exact .inr earlier

/-- A degradation of the target is stored under its key only. -/
theorem mem_degradations_iff (degradation : DegradationRecord) :
    degradation ∈ (Collection.rows state.degradations).filter (fun degradation =>
        degradation.tenantId = ctx.tenantId ∧ degradation.agentId = agentId ∧
          degradation.version = version) ↔
      state.degradations.get? (keyOf (ctx.tenantId, agentId, version)) = some degradation ∧
        degradation.target = (ctx.tenantId, agentId, version) := by
  rw [List.mem_filter, Collection.mem_rows_iff]
  have about : decide (degradation.tenantId = ctx.tenantId ∧ degradation.agentId = agentId ∧
      degradation.version = version) = true ↔
        degradation.target = (ctx.tenantId, agentId, version) := by
    simp [DegradationRecord.target, Prod.ext_iff]
  rw [about]
  constructor
  · rintro ⟨⟨key, stored⟩, target⟩
    have named := summarized.keys key degradation stored
    rw [target] at named
    exact ⟨named ▸ stored, target⟩
  · rintro ⟨stored, target⟩
    exact ⟨⟨_, stored⟩, target⟩

/-- The latest degradation of a target is the one that its key holds, if this is about the target. -/
theorem latestDegradation_eq_some_iff (degradation : DegradationRecord) :
    state.latestDegradation ctx agentId version = some degradation ↔
      state.degradations.get? (keyOf (ctx.tenantId, agentId, version)) = some degradation ∧
        degradation.target = (ctx.tenantId, agentId, version) := by
  rw [← mem_degradations_iff summarized]
  constructor
  · intro found
    exact (sortedBy_getLast? _ _ _ found).1
  · intro member
    refine getLast?_sortedBy _ member ?_
    intro other listed
    have held := ((mem_degradations_iff summarized other).mp listed).1
    have stored := ((mem_degradations_iff summarized degradation).mp member).1
    exact .inl (Option.some.inj (held.symm.trans stored))

end

/-- The gate raises for a critical health, a blocking degradation or a low quality. -/
theorem enforceMarketplaceGate_raises_iff {health : HealthSnapshot}
    (latest : state.latestHealth ctx agentId version = some health) (minimumQuality : ℚ) :
    (∃ error, state.enforceMarketplaceGate ctx agentId version minimumQuality =
        .error error) ↔
      health.status = .critical ∨ health.dimensions.quality < minimumQuality ∨
        ∃ degradation, state.latestDegradation ctx agentId version = some degradation ∧
          blocking degradation = true := by
  rw [enforceMarketplaceGate, latest]
  by_cases critical : health.status = .critical
  · simp [critical]
  · by_cases low : health.dimensions.quality < minimumQuality
    · cases blocked : (state.latestDegradation ctx agentId version).filter blocking <;>
        simp [critical, low]
    · cases blocked : (state.latestDegradation ctx agentId version).filter blocking with
      | none =>
          have free := Option.filter_eq_none_iff.mp blocked
          simpa [critical, low] using free
      | some degradation =>
          have found := Option.filter_eq_some_iff.mp blocked
          simpa [critical, low] using ⟨degradation, found⟩

/-- The last recording under the key of a target decides whether a blocking degradation is found. -/
theorem latestDegradation_blocks_iff (summarized : Summarized recordings state)
    {shadow : MetricRecording}
    (found : lastWhere (fun recording =>
      keyOf recording.metric.target = keyOf (ctx.tenantId, agentId, version)) recordings =
        some shadow) :
    (∃ degradation, state.latestDegradation ctx agentId version = some degradation ∧
        blocking degradation = true) ↔
      shadow.metric.target = (ctx.tenantId, agentId, version) ∧
        blocking (recomputedDegradation (ctx.tenantId, agentId, version)
          (metricsOf recordings (ctx.tenantId, agentId, version))) = true := by
  obtain ⟨stored, held, about, level⟩ := summarized.degradations _ shadow found
  constructor
  · rintro ⟨degradation, latest, blocks⟩
    obtain ⟨same, target⟩ := (latestDegradation_eq_some_iff summarized degradation).mp latest
    obtain rfl := Option.some.inj (held.symm.trans same)
    have own := about.symm.trans target
    rw [own] at level
    rw [blocking, level] at blocks
    exact ⟨own, blocks⟩
  · rintro ⟨own, blocks⟩
    rw [own] at about level
    refine ⟨stored, (latestDegradation_eq_some_iff summarized stored).mpr ⟨held, about⟩, ?_⟩
    rw [blocking, level]
    exact blocks

/-- The gate decides by all metrics that are recorded for exactly its target if and only if the last
recording under the joined key is about the target, or the degradation does not matter. -/
theorem enforceMarketplaceGate_recomputes_iff (recordings : List MetricRecording)
    (drawn : Drawn recordings) (ctx : TenantContext) (agentId version : String)
    (minimumQuality : ℚ) :
    ((∃ error, (run step initial recordings).enforceMarketplaceGate ctx agentId version
        minimumQuality = .error error) ↔
      Blocks recordings (ctx.tenantId, agentId, version) minimumQuality) ↔
    (Unshadowed recordings (ctx.tenantId, agentId, version) ∨
      DecidedByHealth recordings (ctx.tenantId, agentId, version) minimumQuality) := by
  have summarized := run_summarized recordings drawn.metrics drawn.snapshots
  generalize run step initial recordings = state at summarized ⊢
  cases found : lastWhere (fun recording =>
      recording.metric.target = (ctx.tenantId, agentId, version)) (accepted recordings) with
  | none =>
      have passes : state.enforceMarketplaceGate ctx agentId version minimumQuality = .ok () := by
        rw [enforceMarketplaceGate, latestHealth_none summarized found]
      have unblocked : ¬ Blocks recordings (ctx.tenantId, agentId, version) minimumQuality :=
        fun blocks => blocks.1 ((metricsOf_eq_nil_iff _ _).mpr found)
      refine iff_of_true (iff_of_false ?_ unblocked) (.inl ?_)
      · rintro ⟨error, raised⟩
        cases passes.symm.trans raised
      · intro recording member target
        have unselected := lastWhere_eq_none_iff.mp found recording member
        simp [target] at unselected
  | some last =>
      have own : last.metric.target = (ctx.tenantId, agentId, version) := by
        simpa using selects_of_lastWhere found
      have inside := mem_of_lastWhere found
      obtain ⟨shadow, covers⟩ := @exists_lastWhere _ (fun recording : MetricRecording =>
        decide (keyOf recording.metric.target = keyOf (ctx.tenantId, agentId, version))) _ _ inside
          (decide_eq_true (congrArg keyOf own))
      have unshadowed : Unshadowed recordings (ctx.tenantId, agentId, version) ↔
          shadow.metric.target = (ctx.tenantId, agentId, version) := by
        constructor
        · intro free
          exact free last inside own shadow covers
        · intro about recording _ _ other latest
          obtain rfl := Option.some.inj (covers.symm.trans latest)
          exact about
      have listed : metricsOf (accepted recordings) (ctx.tenantId, agentId, version) ≠ [] := by
        intro empty
        cases found.symm.trans ((metricsOf_eq_nil_iff _ _).mp empty)
      have blocks : Blocks recordings (ctx.tenantId, agentId, version) minimumQuality ↔
          ((recomputedHealth (ctx.tenantId, agentId, version) (metricsOf (accepted recordings)
              (ctx.tenantId, agentId, version))).status = .critical ∨
            (recomputedHealth (ctx.tenantId, agentId, version) (metricsOf (accepted recordings)
              (ctx.tenantId, agentId, version))).dimensions.quality < minimumQuality ∨
            blocking (recomputedDegradation (ctx.tenantId, agentId, version)
              (metricsOf (accepted recordings) (ctx.tenantId, agentId, version))) = true) :=
        and_iff_right listed
      rw [enforceMarketplaceGate_raises_iff (latestHealth_some summarized drawn.times found),
        latestDegradation_blocks_iff summarized covers, blocks, unshadowed, DecidedByHealth,
        ← Bool.not_eq_true]
      generalize blocking _ = blocked
      constructor
      · intro agrees
        by_contra neither
        push Not at neither
        obtain ⟨foreign, sound, enough, blocksIt⟩ := neither
        rcases agrees.mpr (.inr (.inr blocksIt)) with critical | low | ⟨about, _⟩
        · exact sound critical
        · exact absurd low (not_lt.mpr enough)
        · exact foreign about
      · rintro (about | critical | low | free)
        · simp only [about, true_and]
          rfl
        · exact iff_of_true (.inl critical) (.inl critical)
        · exact iff_of_true (.inr (.inl low)) (.inr (.inl low))
        · simp only [free, Bool.false_eq_true, and_false]
          rfl

end Gate

section Example

/-- A recording of a latency at a number of microseconds. -/
def latencyRecording (agentId version name : String) (value : ℚ) (time : UtcTime) :
    MetricRecording where
  metric := ⟨"tenant", agentId, "latency", value, version, "agent-metric-" ++ name, time⟩
  snapshotId := "health-" ++ name
  snapshotTime := time
  degradationId := "degradation-" ++ name
  degradationTime := time

/-- The moment after the first one. -/
def secondMoment : UtcTime := ⟨⟨1, by decide⟩⟩

/-- A slow agent, and another agent whose name and version join to the same key. -/
def shadowing : List MetricRecording := [
  latencyRecording "agent:one" "1" "a" 4000 UtcTime.first,
  latencyRecording "agent" "one:1" "b" 10 secondMoment]

def gateContext : TenantContext := ⟨"tenant", "org", "owner", false⟩

def thirdMoment : UtcTime := ⟨⟨2, by decide⟩⟩

/-- A slow version of an agent, and fast recordings of another version and of another agent. -/
def slowVersion : List MetricRecording := [
  latencyRecording "agent:one" "1" "a" 4000 UtcTime.first,
  latencyRecording "agent:one" "2" "b" 10 secondMoment,
  latencyRecording "agent" "1" "c" 10 thirdMoment]

theorem slowVersion_unshadowed : Unshadowed slowVersion ("tenant", "agent:one", "1") := by
  intro recording _ _ last found
  have member := mem_of_lastWhere found
  have own := selects_of_lastWhere found
  rw [show accepted slowVersion = slowVersion by rfl] at member
  simp only [slowVersion, List.mem_cons, List.not_mem_nil, or_false] at member
  rcases member with rfl | rfl | rfl
  · rfl
  · exact absurd (of_decide_eq_true own) (by decide)
  · exact absurd (of_decide_eq_true own) (by decide)

/-- The fast recordings do not open the gate of the slow version. -/
theorem enforceMarketplaceGate_recomputes_slow :
    ((∃ error, (run step initial slowVersion).enforceMarketplaceGate gateContext
        "agent:one" "1" (4 / 5) = .error error) ↔
      Blocks slowVersion ("tenant", "agent:one", "1") (4 / 5)) :=
  (enforceMarketplaceGate_recomputes_iff slowVersion
    ⟨by decide +kernel, by decide +kernel, by decide +kernel⟩ gateContext "agent:one" "1"
    (4 / 5)).mpr (.inl slowVersion_unshadowed)

/-- The other agent's recording opens the gate of the slow agent. -/
theorem shadowing_passes :
    ¬ ((∃ error, (run step initial shadowing).enforceMarketplaceGate gateContext "agent:one" "1"
        (4 / 5) = .error error) ↔
      Blocks shadowing ("tenant", "agent:one", "1") (4 / 5)) := by
  have passes : ((run step initial shadowing).enforceMarketplaceGate gateContext "agent:one" "1"
      (4 / 5)).isOk = true := by decide +kernel
  have blocks : Blocks shadowing ("tenant", "agent:one", "1") (4 / 5) := by
    refine ⟨List.ne_nil_of_length_pos (by decide +kernel), .inr (.inr ?_)⟩
    decide +kernel
  intro agrees
  obtain ⟨error, raised⟩ := agrees.mpr blocks
  rw [raised] at passes
  cases passes

end Example

end ObservabilityState

end AgentFabric.Observability
