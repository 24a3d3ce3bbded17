import AgentFabric.Proof.Renovation.CreatedSchedule

namespace AgentFabric.Renovation
open Sorting Precedence

/-- What every revision of a schedule keeps of a phase. -/
structure PhaseCore where
  phaseId : String
  name : String
  sequence : Int
  durationDays : Int

def SchedulePhase.core (phase : SchedulePhase) : PhaseCore :=
  ⟨phase.phaseId, phase.name, phase.sequence, phase.durationDays⟩

section Deliveries

/-- A delivery that blocks its phase. -/
def IsLate (delivery : MaterialDelivery) : Prop :=
  delivery.status ∈ ["delayed", "cancelled"] ∨ ∃ effective required,
    deliveryEffectiveDate delivery = .ok effective ∧
      Date.fromisoformat delivery.requiredDate = .ok required ∧ required < effective

variable {delivery : MaterialDelivery}

/-- One delivery moves the start to its effective date and blocks the phase when it is late. -/
theorem applyDelivery_ok {state next : DeliveryState}
    (returned : applyDelivery state delivery = .ok next) :
    ∃ effective, deliveryEffectiveDate delivery = .ok effective ∧
      next.start = max state.start effective ∧
      (next.blocked ≠ [] ↔ state.blocked ≠ [] ∨ IsLate delivery) := by
  unfold applyDelivery at returned
  obtain ⟨effective, read, returned⟩ := bind_eq_ok_iff.mp returned
  obtain ⟨required, requiredRead, returned⟩ := bind_eq_ok_iff.mp returned
  have late : IsLate delivery ↔ delivery.status ∈ ["delayed", "cancelled"] ∨
      max 0 (effective.daysSince required) ≠ 0 := by
    unfold IsLate
    apply or_congr_right
    simp only [read, requiredRead, Except.ok.injEq]
    constructor
    · rintro ⟨_, _, rfl, rfl, less⟩
      have days := (Date.lt_iff _ _).mp less
      unfold Date.daysSince
      omega
    · intro positive
      refine ⟨effective, required, rfl, rfl, (Date.lt_iff _ _).mpr ?_⟩
      unfold Date.daysSince at positive
      omega
  refine ⟨effective, read, ?_⟩
  rw [late]
  dsimp only at returned
  split at returned
  · rename_i isLate
    cases returned
    exact ⟨rfl, iff_of_true (by simp) (.inr isLate)⟩
  · rename_i onTime
    cases returned
    exact ⟨rfl, by rw [or_iff_left onTime]⟩

/-- The start is the least date behind the given one and behind every delivery. -/
structure Delivered (deliveries : List MaterialDelivery) (start result : Date) : Prop where
  notBefore : start ≤ result
  behind : ∀ delivery ∈ deliveries, ∃ effective,
    deliveryEffectiveDate delivery = .ok effective ∧ effective ≤ result
  forced : result = start ∨ ∃ delivery ∈ deliveries, deliveryEffectiveDate delivery = .ok result

variable {deliveries : List MaterialDelivery}

/-- The loop over the deliveries of a phase. -/
theorem applyDeliveries_ok {state final : DeliveryState}
    (returned : deliveries.foldlM applyDelivery state = .ok final) :
    Delivered deliveries state.start final.start ∧
      (final.blocked ≠ [] ↔ state.blocked ≠ [] ∨ ∃ delivery ∈ deliveries, IsLate delivery) := by
  induction deliveries generalizing state with
  | nil =>
      cases returned
      exact ⟨⟨le_rfl, by simp, .inl rfl⟩, by simp⟩
  | cons delivery rest ih =>
      rw [List.foldlM_cons] at returned
      obtain ⟨next, applied, returned⟩ := bind_eq_ok_iff.mp returned
      obtain ⟨effective, read, moved, blocked⟩ := applyDelivery_ok applied
      obtain ⟨later, laterBlocked⟩ := ih returned
      have above := later.notBefore
      rw [moved] at above
      refine ⟨⟨le_trans (le_max_left _ _) above, ?_, ?_⟩, ?_⟩
      · intro other member
        rcases List.mem_cons.mp member with rfl | inside
        · exact ⟨effective, read, le_trans (le_max_right _ _) above⟩
        · exact later.behind other inside
      · rcases later.forced with same | ⟨other, member, equal⟩
        · rcases max_cases state.start effective with ⟨isStart, _⟩ | ⟨isEffective, _⟩
          · exact .inl (by rw [same, moved, isStart])
          · exact .inr ⟨delivery, List.mem_cons_self, by rw [same, moved, isEffective, read]⟩
        · exact .inr ⟨other, List.mem_cons_of_mem _ member, equal⟩
      · rw [laterBlocked, blocked, or_assoc]
        simp only [List.mem_cons, exists_eq_or_imp]

theorem mem_phaseDeliveries {phaseId : String} :
    delivery ∈ phaseDeliveries deliveries phaseId ↔
      delivery ∈ deliveries ∧ delivery.phaseId = phaseId := by
  rw [phaseDeliveries, mem_sortedBy, List.mem_filter, decide_eq_true_eq]

end Deliveries

variable (result : PhaseResult)

/-- The key and the dates that a result adds to the projection. -/
def PhaseResult.phaseId : String := result.phase.phaseId

def PhaseResult.dates : Date × Date := result.phase.dates

namespace RecalculationContext

variable {sha256 : String → String} {context : RecalculationContext}

theorem afterConflicts_ok {start result : Date} {conflicts : List ScheduleConflict}
    (returned : afterConflicts start conflicts = .ok result) :
    (result.day : Int) = start.day + conflicts.length := by
  unfold afterConflicts at returned
  split at returned
  · exact Date.addDays_eq_ok returned
  · rename_i none
    cases returned
    rw [not_not.mp none]
    simp

variable {phase : SchedulePhase}

/-- A delay is reported exactly for a phase that ends after its baseline. -/
theorem phaseImpact_ok {delay : Int} {baselineEnd phaseEnd : Date}
    {impact : Option DelayImpact}
    (returned : context.phaseImpact sha256 phase delay baselineEnd phaseEnd = .ok impact) :
    impact.map (fun impact => (impact.phaseId, impact.delayDays)) =
      if baselineEnd < phaseEnd then some (phase.phaseId, phaseEnd.daysSince baselineEnd)
      else none := by
  unfold phaseImpact at returned
  dsimp only at returned
  split at returned
  · rename_i delayed
    obtain ⟨source, _, returned⟩ := bind_eq_ok_iff.mp returned
    cases returned
    have positive : baselineEnd < phaseEnd := by
      rw [Date.lt_iff]
      unfold Date.daysSince at delayed
      omega
    rw [if_pos positive]
    have days : max 0 (phaseEnd.daysSince baselineEnd) = phaseEnd.daysSince baselineEnd := by
      rw [Date.lt_iff] at positive
      unfold Date.daysSince
      omega
    simp [delayImpact, days]
  · rename_i onTime
    cases returned
    rw [if_neg]
    · rfl
    · rw [Date.lt_iff]
      unfold Date.daysSince at onTime
      omega

/-- The steps of the loop body for one phase. -/
structure PhaseSteps (sha256 : String → String) (context : RecalculationContext)
    (baseline dates : PhaseDates) (phase : SchedulePhase) (result : PhaseResult) : Prop where
  baselineStart : FollowsFrom baseline context.schedule.startDate
    (predecessors context.schedule.dependencies phase.phaseId) result.baseline.1
  baselineEnd : (result.baseline.2.day : Int) = result.baseline.1.day + (phase.durationDays - 1)
  projected : ∃ start delivered,
    FollowsFrom dates result.baseline.1
        (predecessors context.schedule.dependencies phase.phaseId) start ∧
      (phaseDeliveries context.inputs.deliveries phase.phaseId).foldlM applyDelivery
        ⟨[], 0, start⟩ = .ok delivered ∧
      (result.phase.plannedStart.day : Int) =
        delivered.start.day + (context.phaseConflicts phase.phaseId).length ∧
      result.phase = context.recalculatedPhase phase result.phase.plannedStart
        result.phase.plannedEnd (delivered.blocked ++
          (context.phaseConflicts phase.phaseId).map ScheduleConflict.description)
  ends : (result.phase.plannedEnd.day : Int) =
    result.phase.plannedStart.day + (phase.durationDays - 1)
  impact : result.impact.map (fun impact => (impact.phaseId, impact.delayDays)) =
    if result.baseline.2 < result.phase.plannedEnd then
      some (phase.phaseId, result.phase.plannedEnd.daysSince result.baseline.2)
    else none

variable {result : PhaseResult}

theorem recalculatePhase_ok {baseline dates : PhaseDates}
    (returned : context.recalculatePhase sha256 baseline dates phase = .ok result) :
    PhaseSteps sha256 context baseline dates phase result := by
  unfold recalculatePhase at returned
  obtain ⟨baselineStart, baselineFollows, returned⟩ := bind_eq_ok_iff.mp returned
  obtain ⟨baselineEnd, baselineEnds, returned⟩ := bind_eq_ok_iff.mp returned
  obtain ⟨start, follows, returned⟩ := bind_eq_ok_iff.mp returned
  obtain ⟨delivered, applied, returned⟩ := bind_eq_ok_iff.mp returned
  obtain ⟨phaseStart, moved, returned⟩ := bind_eq_ok_iff.mp returned
  obtain ⟨phaseEnd, ends, returned⟩ := bind_eq_ok_iff.mp returned
  obtain ⟨impact, reported, returned⟩ := bind_eq_ok_iff.mp returned
  cases returned
  exact {
    baselineStart := afterPredecessors_ok baselineFollows
    baselineEnd := Date.addDays_eq_ok baselineEnds
    projected := ⟨start, delivered, afterPredecessors_ok follows, applied,
      afterConflicts_ok moved, rfl⟩
    ends := Date.addDays_eq_ok ends
    impact := phaseImpact_ok reported }

/-- A phase stands at the least date behind its planned start, its predecessors and its deliveries,
moved by its conflicts. -/
structure Moved (context : RecalculationContext) (dates : PhaseDates) (result : PhaseResult) :
    Prop where
  notBefore : result.baseline.1.day + (context.phaseConflicts result.phase.phaseId).length ≤
    result.phase.plannedStart.day
  behind : ∀ dependency ∈ predecessors context.schedule.dependencies result.phase.phaseId,
    ∃ predecessor, dates.get? dependency.predecessorPhaseId = some predecessor ∧
      (predecessor.2.day : Int) + 1 + dependency.lagDays +
        (context.phaseConflicts result.phase.phaseId).length ≤ result.phase.plannedStart.day
  delivered : ∀ delivery ∈ phaseDeliveries context.inputs.deliveries result.phase.phaseId,
    ∃ effective, deliveryEffectiveDate delivery = .ok effective ∧
      effective.day + (context.phaseConflicts result.phase.phaseId).length ≤
        result.phase.plannedStart.day
  forced : result.phase.plannedStart.day =
      result.baseline.1.day + (context.phaseConflicts result.phase.phaseId).length ∨
    (∃ dependency ∈ predecessors context.schedule.dependencies result.phase.phaseId,
      ∃ predecessor, dates.get? dependency.predecessorPhaseId = some predecessor ∧
        (result.phase.plannedStart.day : Int) = predecessor.2.day + 1 + dependency.lagDays +
          (context.phaseConflicts result.phase.phaseId).length) ∨
    ∃ delivery ∈ phaseDeliveries context.inputs.deliveries result.phase.phaseId,
      ∃ effective, deliveryEffectiveDate delivery = .ok effective ∧
        result.phase.plannedStart.day =
          effective.day + (context.phaseConflicts result.phase.phaseId).length

/-- What a recalculation says about a phase of the original plan. -/
structure Projects (planned : SchedulePhase) (result : PhaseResult) : Prop where
  core : result.phase.core = planned.core
  baseline : result.baseline = planned.dates
  plannedLasts : Lasts planned.plannedStart planned.plannedEnd planned.durationDays
  lasts : Lasts result.phase.plannedStart result.phase.plannedEnd planned.durationDays
  impact : result.impact.map (fun impact => (impact.phaseId, impact.delayDays)) =
    if planned.plannedEnd < result.phase.plannedEnd then
      some (planned.phaseId, result.phase.plannedEnd.daysSince planned.plannedEnd)
    else none

theorem followsFrom_unique {dates : PhaseDates} {start first second : Date}
    {waits : List PhaseDependency} (one : FollowsFrom dates start waits first)
    (two : FollowsFrom dates start waits second) : first ≤ second := by
  rcases one.forced with same | ⟨dependency, member, predecessor, found, equal⟩
  · exact same ▸ two.notBefore
  · obtain ⟨other, otherFound, later⟩ := two.behind dependency member
    rw [found, Option.some.injEq] at otherFound
    rw [Date.le_iff]
    subst otherFound
    omega

theorem moved_of_steps {baseline dates : PhaseDates}
    (steps : PhaseSteps sha256 context baseline dates phase result) :
    context.Moved dates result := by
  obtain ⟨start, delivered, follows, applied, moved, record⟩ := steps.projected
  have same : result.phase.phaseId = phase.phaseId := by
    rw [record]
    rfl
  obtain ⟨⟨above, behind, forced⟩, _⟩ := applyDeliveries_ok applied
  have notBefore := (Date.le_iff _ _).mp follows.notBefore
  have started := (Date.le_iff _ _).mp above
  dsimp only at started
  constructor
  · rw [same]
    omega
  · rw [same]
    intro dependency member
    obtain ⟨predecessor, found, later⟩ := follows.behind dependency member
    exact ⟨predecessor, found, by omega⟩
  · rw [same]
    intro delivery member
    obtain ⟨effective, read, later⟩ := behind delivery member
    rw [Date.le_iff] at later
    exact ⟨effective, read, by omega⟩
  · rw [same]
    rcases forced with atStart | ⟨delivery, member, read⟩
    · dsimp only at atStart
      rw [atStart] at moved
      rcases follows.forced with atBaseline | ⟨dependency, member, predecessor, found, equal⟩
      · rw [atBaseline] at moved
        exact .inl (by omega)
      · exact .inr (.inl ⟨dependency, member, predecessor, found, by omega⟩)
    · exact .inr (.inr ⟨delivery, member, delivered.start, read, by omega⟩)

theorem projects_of_steps {baseline dates : PhaseDates} {planned phase : SchedulePhase}
    (placed : Placed context.schedule.startDate context.schedule.dependencies baseline planned)
    (same : phase.core = planned.core)
    (steps : PhaseSteps sha256 context baseline dates phase result) : Projects planned result := by
  have ids : phase.phaseId = planned.phaseId := congrArg PhaseCore.phaseId same
  have durations : phase.durationDays = planned.durationDays := congrArg PhaseCore.durationDays same
  obtain ⟨start, delivered, follows, applied, moved, record⟩ := steps.projected
  have first : result.baseline.1 = planned.plannedStart := by
    have found := steps.baselineStart
    rw [ids] at found
    exact le_antisymm (followsFrom_unique found placed.follows)
      (followsFrom_unique placed.follows found)
  have last : result.baseline.2 = planned.plannedEnd := by
    apply Date.ext_day
    have ends := steps.baselineEnd
    have lasts := placed.lasts.ends
    rw [first, durations] at ends
    omega
  constructor
  · rw [← same, record]
    rfl
  · exact Prod.ext first last
  · exact placed.lasts
  · exact ⟨placed.lasts.positive, durations ▸ steps.ends⟩
  · rw [steps.impact, last, ids]

variable {baseline dates : PhaseDates} {current planned : List SchedulePhase}
  {results : List PhaseResult}

/-- The loop over the phases of any revision places them against the original plan. -/
theorem recalculatePhases_ok
    (stepwise : Dict.Stepwise SchedulePhase.phaseId SchedulePhase.dates
      (Placed context.schedule.startDate context.schedule.dependencies) baseline planned)
    (cores : current.map SchedulePhase.core = planned.map SchedulePhase.core)
    (returned : context.recalculatePhases sha256 current baseline dates = .ok results) :
    List.Forall₂ Projects planned results ∧
      Dict.Stepwise PhaseResult.phaseId PhaseResult.dates context.Moved dates results := by
  induction planned generalizing current baseline dates results with
  | nil =>
      rw [List.map_nil, List.map_eq_nil_iff] at cores
      subst cores
      cases returned
      exact ⟨.nil, trivial⟩
  | cons first rest ih =>
      obtain ⟨phase, remaining, rfl, same, others⟩ := List.map_eq_cons_iff.mp cores
      obtain ⟨placed, later⟩ := stepwise
      unfold recalculatePhases at returned
      obtain ⟨result, step, returned⟩ := bind_eq_ok_iff.mp returned
      obtain ⟨tail, loop, returned⟩ := bind_eq_ok_iff.mp returned
      cases returned
      have steps := recalculatePhase_ok step
      have projects := projects_of_steps placed same steps
      have ids : phase.phaseId = first.phaseId := congrArg PhaseCore.phaseId same
      have resultIds : result.phase.phaseId = first.phaseId :=
        congrArg PhaseCore.phaseId projects.core
      rw [ids, projects.baseline] at loop
      obtain ⟨related, moved⟩ := ih later others loop
      refine ⟨.cons projects related, moved_of_steps steps, ?_⟩
      show Dict.Stepwise _ _ _ (dates.set result.phase.phaseId result.dates) tail
      rw [resultIds]
      exact moved

theorem Moved.grow {first second : PhaseDates} (moved : context.Moved first result)
    (grows : ∀ query found, first.get? query = some found → second.get? query = some found) :
    context.Moved second result where
  notBefore := moved.notBefore
  behind := by
    intro dependency member
    obtain ⟨predecessor, found, later⟩ := moved.behind dependency member
    exact ⟨predecessor, grows _ _ found, later⟩
  delivered := moved.delivered
  forced := by
    rcases moved.forced with same | ⟨dependency, member, predecessor, found, equal⟩ | delivered
    · exact .inl same
    · exact .inr (.inl ⟨dependency, member, predecessor, grows _ _ found, equal⟩)
    · exact .inr (.inr delivered)

/-- A phase of a revision is not before the planned phase. -/
structure NotEarlier (planned phase : SchedulePhase) : Prop where
  phaseId : planned.phaseId = phase.phaseId
  start : planned.plannedStart ≤ phase.plannedStart
  finish : planned.plannedEnd ≤ phase.plannedEnd

theorem Moved.notEarlier {first : SchedulePhase}
    (moved : context.Moved dates result) (projects : Projects first result) :
    NotEarlier first result.phase := by
  have bound := moved.notBefore
  have ends := projects.lasts.ends
  have plannedEnds := projects.plannedLasts.ends
  rw [projects.baseline] at bound
  dsimp only [SchedulePhase.dates] at bound
  refine ⟨(congrArg PhaseCore.phaseId projects.core).symm, ?_, ?_⟩
  · rw [Date.le_iff]
    omega
  · rw [Date.le_iff]
    omega

theorem projects_notEarlier (related : List.Forall₂ Projects planned results)
    (moved : ∀ result ∈ results, ∃ dates, context.Moved dates result) :
    List.Forall₂ NotEarlier planned (results.map PhaseResult.phase) := by
  rw [List.forall₂_map_right_iff]
  induction related with
  | nil => exact .nil
  | cons projects _ ih =>
      obtain ⟨_, first⟩ := moved _ (.head _)
      exact .cons (first.notEarlier projects)
        (ih fun result inside => moved result (.tail _ inside))

theorem projects_cores (related : List.Forall₂ Projects planned results) :
    (results.map PhaseResult.phase).map SchedulePhase.core = planned.map SchedulePhase.core := by
  rw [List.map_map]
  exact ((Aligned.map_eq_map_iff_forall₂ _ _ _ _).mpr
    (related.imp fun _ _ projects => projects.core.symm)).symm

theorem cores_phaseIds {first second : List SchedulePhase}
    (cores : first.map SchedulePhase.core = second.map SchedulePhase.core) :
    first.map SchedulePhase.phaseId = second.map SchedulePhase.phaseId := by
  have ids := congrArg (List.map PhaseCore.phaseId) cores
  rw [List.map_map, List.map_map] at ids
  exact ids

/-- In the dates of all phases every phase stands behind its predecessors and deliveries. -/
theorem moved_final (related : List.Forall₂ Projects planned results)
    (distinct : (planned.map SchedulePhase.phaseId).Nodup)
    (stepwise : Dict.Stepwise PhaseResult.phaseId PhaseResult.dates context.Moved Dict.empty
      results) :
    ∀ result ∈ results, context.Moved (planDates (results.map PhaseResult.phase)) result := by
  have ids := cores_phaseIds (projects_cores related)
  rw [List.map_map] at ids
  have items : planDates (results.map PhaseResult.phase) =
      Dict.empty.setAll (Dict.itemsOf PhaseResult.phaseId PhaseResult.dates results) := by
    rw [planDates, Dict.itemsOf, List.map_map]
    rfl
  rw [items]
  apply stepwise.final
  · exact fun _ _ _ moved grows => moved.grow grows
  · exact ids ▸ distinct
  · exact fun _ _ => rfl

end RecalculationContext

section Unique

variable (job : Job)

/-- A job with the last phase under each id, which is what the order of the phases reads. -/
def Job.unique : Job := { job with phases := (phasesById job).values }

theorem phasesById_setAll :
    phasesById job = Dict.empty.setAll (job.phases.map fun phase => (phase.phaseId, phase)) := by
  rw [Dict.setAll, List.foldl_map]
  rfl

theorem phasesById_key (item : String × JobPhase)
    (member : item ∈ (phasesById job).items) : item.2.phaseId = item.1 := by
  rw [phasesById_setAll] at member
  rcases Dict.mem_setAll _ _ _ member with old | inside
  · cases old
  · obtain ⟨phase, _, rfl⟩ := List.mem_map.mp inside
    rfl

theorem unique_ids :
    job.unique.phases.map JobPhase.phaseId = (phasesById job).items.map Prod.fst := by
  show ((phasesById job).items.map Prod.snd).map JobPhase.phaseId = _
  rw [List.map_map]
  exact List.map_congr_left fun item member => phasesById_key job item member

theorem unique_nodup : (job.unique.phases.map JobPhase.phaseId).Nodup := by
  rw [unique_ids]
  exact (phasesById job).distinct

theorem mem_unique_ids (phaseId : String) :
    phaseId ∈ job.unique.phases.map JobPhase.phaseId ↔
      phaseId ∈ job.phases.map JobPhase.phaseId := by
  rw [unique_ids, phasesById_setAll, Dict.keys_setAll, List.map_map]
  exact or_iff_right List.not_mem_nil

theorem phasesById_unique : phasesById job.unique = phasesById job := by
  apply Dict.ext_items
  rw [phasesById_items (unique_nodup job)]
  show ((phasesById job).items.map Prod.snd).map (fun phase => (phase.phaseId, phase)) = _
  rw [List.map_map]
  conv_rhs => rw [← List.map_id (phasesById job).items]
  exact List.map_congr_left fun item member => Prod.ext (phasesById_key job item member) rfl

theorem orderedPhases_unique (dependencies : List PhaseDependency) :
    orderedPhases job.unique dependencies = orderedPhases job dependencies := by
  unfold orderedPhases
  rw [phasesById_unique]

/-- Every schedule that create returns is a plan, also for a job that repeats an id. -/
theorem create_planned {interpreter : Interpreter} {sha256 : String → String} {tenantId : String}
    {job : Job} {payload : List (String × Json)} {schedule : Schedule}
    (created : create interpreter sha256 tenantId job payload = .ok schedule) :
    PlannedSchedule schedule ∧ schedule.status ∈ scheduleStatuses := by
  unfold create at created
  obtain ⟨inputs, checked, created⟩ := bind_eq_ok_iff.mp created
  obtain ⟨ordered, sorted, created⟩ := bind_eq_ok_iff.mp created
  obtain ⟨phases, planned, created⟩ := bind_eq_ok_iff.mp created
  cases created
  obtain ⟨known, valid⟩ := createInputs_valid checked
  have unique (dependency : PhaseDependency) (member : dependency ∈ inputs.dependencies) :
      ValidDependency (job.unique.phases.map JobPhase.phaseId) dependency :=
    (valid dependency member).mono fun phaseId => (mem_unique_ids job phaseId).mpr
  rw [← orderedPhases_unique] at sorted
  rcases orderedPhases_cases (unique_nodup job) unique with ⟨_, failed⟩ |
      ⟨_, found, returned, perm, order⟩
  · rw [failed] at sorted
    cases sorted
  · rw [returned] at sorted
    cases sorted
    refine ⟨createdSchedule_planned sha256 order ?_ planned, known⟩
    exact fun dependency member =>
      (unique dependency member).mono fun _ => (perm.map JobPhase.phaseId).mem_iff.mpr

end Unique

/-- What every revision keeps of the created schedule. -/
structure Revises (created current : Schedule) : Prop where
  scheduleId : current.scheduleId = created.scheduleId
  startDate : current.startDate = created.startDate
  dependencies : current.dependencies = created.dependencies
  original : current.originalCompletionDate = created.originalCompletionDate
  cores : current.phases.map SchedulePhase.core = created.phases.map SchedulePhase.core

theorem Revises.refl (schedule : Schedule) : Revises schedule schedule := ⟨rfl, rfl, rfl, rfl, rfl⟩

/-- What the latest inputs project onto the plan of the created schedule. -/
structure Projection (created : Schedule) (inputs : RecalculationInputs) (result : Schedule) :
    Prop where
  revises : Revises created result
  lasts : ∀ phase ∈ result.phases, Lasts phase.plannedStart phase.plannedEnd phase.durationDays
  behind : ∀ dependency ∈ created.dependencies, ∀ predecessor ∈ result.phases,
    ∀ successor ∈ result.phases, predecessor.phaseId = dependency.predecessorPhaseId →
      successor.phaseId = dependency.successorPhaseId →
        (predecessor.plannedEnd.day : Int) + 1 + dependency.lagDays ≤ successor.plannedStart.day
  notBefore : List.Forall₂ RecalculationContext.NotEarlier created.phases result.phases
  delivered : ∀ phase ∈ result.phases, ∀ delivery ∈ inputs.deliveries,
    delivery.phaseId = phase.phaseId →
      ∃ effective, deliveryEffectiveDate delivery = .ok effective ∧ effective ≤ phase.plannedStart
  impacts : ∀ phaseId delayDays,
    (∃ impact ∈ result.delayImpacts, impact.phaseId = phaseId ∧ impact.delayDays = delayDays) ↔
      ∃ planned ∈ created.phases, ∃ phase ∈ result.phases,
        planned.phaseId = phaseId ∧ phase.phaseId = phaseId ∧
          planned.plannedEnd < phase.plannedEnd ∧
          delayDays = phase.plannedEnd.daysSince planned.plannedEnd
  completion : IsLatestEnd result.phases result.startDate result.projectedCompletionDate
  notEarlier : created.originalCompletionDate ≤ result.projectedCompletionDate

section Recalculate

variable {sha256 : String → String} {interpreter : Interpreter} {created current result : Schedule}
  {inputs : RecalculationInputs} {payload : List (String × Json)}

/-- The conflicts and the results of the loop behind a revision of a plan. -/
structure Recalculated (sha256 : String → String) (created : Schedule)
    (context : RecalculationContext) (status : String) (results : List PhaseResult)
    (result : Schedule) : Prop where
  conflicts : crewConflicts sha256 context.schedule.scheduleId context.inputs.assignments
    context.inputs.availability = .ok context.conflicts
  loop : context.recalculatePhases sha256 context.schedule.phases Dict.empty Dict.empty =
    .ok results
  projects : List.Forall₂ RecalculationContext.Projects created.phases results
  moved : ∀ phase ∈ results, context.Moved (planDates (results.map PhaseResult.phase)) phase
  result : result = context.recalculatedSchedule sha256 status results

theorem recalculate_ok (planned : PlannedSchedule created) (revises : Revises created current)
    (returned : recalculate sha256 interpreter current inputs payload = .ok result) :
    ∃ conflicts results, Recalculated sha256 created ⟨current, inputs, conflicts⟩
      (interpreter.str (payloadGet payload "status" (.str current.status))) results result := by
  unfold recalculate at returned
  dsimp only at returned
  split at returned
  · cases returned
  obtain ⟨conflicts, found, returned⟩ := bind_eq_ok_iff.mp returned
  obtain ⟨results, loop, returned⟩ := bind_eq_ok_iff.mp returned
  cases returned
  have stepwise := planned.stepwise
  rw [← revises.startDate, ← revises.dependencies] at stepwise
  obtain ⟨projects, moved⟩ := RecalculationContext.recalculatePhases_ok stepwise revises.cores loop
  exact ⟨conflicts, results, found, loop, projects,
    RecalculationContext.moved_final projects planned.distinct moved, rfl⟩

/-- The reported delays are those of the loop. -/
theorem mem_delayImpacts {context : RecalculationContext} {status : String}
    {results : List PhaseResult} (phaseId : String) (delayDays : Int) :
    (∃ impact ∈ (context.recalculatedSchedule sha256 status results).delayImpacts,
        impact.phaseId = phaseId ∧ impact.delayDays = delayDays) ↔
      ∃ result ∈ results,
        result.impact.map (fun impact => (impact.phaseId, impact.delayDays)) =
          some (phaseId, delayDays) := by
  show (∃ impact ∈ (results.filterMap PhaseResult.impact).map _, _) ↔ _
  constructor
  · rintro ⟨_, member, rfl, rfl⟩
    obtain ⟨impact, inside, rfl⟩ := List.mem_map.mp member
    obtain ⟨result, found, reported⟩ := List.mem_filterMap.mp inside
    exact ⟨result, found, by rw [reported]; rfl⟩
  · rintro ⟨result, found, reported⟩
    obtain ⟨impact, same, pair⟩ := Option.map_eq_some_iff.mp reported
    obtain ⟨rfl, rfl⟩ := Prod.mk.inj pair
    exact ⟨_, List.mem_map.mpr ⟨impact, List.mem_filterMap.mpr ⟨result, found, same⟩, rfl⟩, rfl,
      rfl⟩

section Parts

variable {plan : List SchedulePhase} {results : List PhaseResult}

section

variable (projects : List.Forall₂ RecalculationContext.Projects plan results)
include projects

theorem recalculated_lasts :
    ∀ phase ∈ results.map PhaseResult.phase,
      Lasts phase.plannedStart phase.plannedEnd phase.durationDays := by
  intro phase member
  obtain ⟨result, inside, rfl⟩ := List.mem_map.mp member
  obtain ⟨planned, _, projected⟩ := Aligned.exists_related projects result inside
  have durations : result.phase.durationDays = planned.durationDays :=
    congrArg PhaseCore.durationDays projected.core
  rw [durations]
  exact projected.lasts

/-- The delays are those of the phases that end later than planned. -/
theorem recalculated_impacts (distinct : (plan.map SchedulePhase.phaseId).Nodup) (phaseId : String)
    (delayDays : Int) :
    (∃ result ∈ results, result.impact.map (fun impact => (impact.phaseId, impact.delayDays)) =
        some (phaseId, delayDays)) ↔
      ∃ planned ∈ plan, ∃ phase ∈ results.map PhaseResult.phase,
        planned.phaseId = phaseId ∧ phase.phaseId = phaseId ∧
          planned.plannedEnd < phase.plannedEnd ∧
          delayDays = phase.plannedEnd.daysSince planned.plannedEnd := by
  constructor
  · rintro ⟨result, inside, reported⟩
    obtain ⟨planned, member, projected⟩ := Aligned.exists_related projects result inside
    have ids : result.phase.phaseId = planned.phaseId := congrArg PhaseCore.phaseId projected.core
    rw [projected.impact] at reported
    split at reported
    · rename_i later
      obtain ⟨rfl, rfl⟩ := Prod.mk.inj (Option.some.inj reported)
      exact ⟨planned, member, _, List.mem_map_of_mem inside, rfl, ids, later, rfl⟩
    · cases reported
  · rintro ⟨planned, member, _, phaseMember, rfl, same, later, rfl⟩
    obtain ⟨result, inside, rfl⟩ := List.mem_map.mp phaseMember
    obtain ⟨other, otherMember, projected⟩ := Aligned.exists_related projects result inside
    have ids : result.phase.phaseId = other.phaseId := congrArg PhaseCore.phaseId projected.core
    have equal : other = planned :=
      List.inj_on_of_nodup_map distinct otherMember member (ids.symm.trans same)
    subst equal
    exact ⟨result, inside, by rw [projected.impact, if_pos later]⟩

end

/-- The latest end of later phases is later. -/
theorem latestEnd_mono {first second : List SchedulePhase}
    (notEarlier : List.Forall₂ RecalculationContext.NotEarlier first second) (default : Date) :
    latestEnd first default ≤ latestEnd second default := by
  by_cases empty : first = []
  · subst empty
    rw [List.forall₂_nil_left_iff.mp notEarlier]
  · obtain ⟨planned, member, last⟩ := (latestEnd_isLatestEnd first default).reached empty
    obtain ⟨phase, inside, moved⟩ := Aligned.exists_related notEarlier.flip planned member
    calc latestEnd first default = planned.plannedEnd := last.symm
      _ ≤ phase.plannedEnd := moved.finish
      _ ≤ latestEnd second default := (latestEnd_isLatestEnd second default).above phase inside

end Parts

/-- A revision of a plan keeps what is fixed and stands behind the predecessors and the deliveries. -/
theorem recalculate_projection (planned : PlannedSchedule created)
    (revises : Revises created current)
    (returned : recalculate sha256 interpreter current inputs payload = .ok result) :
    Projection created inputs result := by
  obtain ⟨conflicts, results, _, _, projects, moved, rfl⟩ := recalculate_ok planned revises returned
  have cores := RecalculationContext.projects_cores projects
  have distinct : ((results.map PhaseResult.phase).map SchedulePhase.phaseId).Nodup := by
    rw [RecalculationContext.cores_phaseIds cores]
    exact planned.distinct
  have notEarlier := RecalculationContext.projects_notEarlier projects
    fun result inside => ⟨_, moved result inside⟩
  constructor
  · exact ⟨revises.scheduleId, revises.startDate, revises.dependencies, revises.original, cores⟩
  · exact recalculated_lasts projects
  · intro dependency member predecessor predecessorMember successor successorMember source target
    obtain ⟨result, inside, rfl⟩ := List.mem_map.mp successorMember
    have waits : dependency ∈ predecessors current.dependencies result.phase.phaseId :=
      mem_predecessors.mpr ⟨revises.dependencies ▸ member, target.symm⟩
    obtain ⟨dates, found, later⟩ := (moved result inside).behind dependency waits
    rw [← source, planDates_get? distinct predecessor predecessorMember, Option.some.injEq] at found
    rw [← found] at later
    dsimp only [SchedulePhase.dates] at later
    omega
  · exact notEarlier
  · intro phase member delivery listed same
    obtain ⟨result, inside, rfl⟩ := List.mem_map.mp member
    obtain ⟨effective, read, later⟩ :=
      (moved result inside).delivered delivery (mem_phaseDeliveries.mpr ⟨listed, same⟩)
    refine ⟨effective, read, ?_⟩
    rw [Date.le_iff]
    omega
  · intro phaseId delayDays
    rw [mem_delayImpacts]
    exact recalculated_impacts projects planned.distinct phaseId delayDays
  · exact latestEnd_isLatestEnd _ _
  · rw [planned.completion, ← revises.startDate]
    exact latestEnd_mono notEarlier _

/-- A chain of recalculations, each with its own inputs and payload. -/
def recalculateAll (sha256 : String → String) (interpreter : Interpreter) (schedule : Schedule)
    (calls : List (RecalculationInputs × List (String × Json))) : Except PyError Schedule :=
  calls.foldlM (fun schedule call => recalculate sha256 interpreter schedule call.1 call.2) schedule

/-- A chain of recalculations keeps what is fixed. -/
theorem recalculateAll_revises (planned : PlannedSchedule created)
    (calls : List (RecalculationInputs × List (String × Json))) (revises : Revises created current)
    (returned : recalculateAll sha256 interpreter current calls = .ok result) :
    Revises created result := by
  induction calls generalizing current with
  | nil =>
      cases returned
      exact revises
  | cons call rest ih =>
      unfold recalculateAll at returned
      rw [List.foldlM_cons] at returned
      obtain ⟨next, first, returned⟩ := bind_eq_ok_iff.mp returned
      exact ih (recalculate_projection planned revises first).revises returned

end Recalculate

/-- After create and any chain of recalculations the last one projects its inputs onto the plan that
create gave. -/
theorem recalculateAll_projection (sha256 : String → String) (interpreter : Interpreter)
    (tenantId : String) (job : Job) (createPayload : List (String × Json)) (created : Schedule)
    (calls : List (RecalculationInputs × List (String × Json))) (inputs : RecalculationInputs)
    (payload : List (String × Json)) (result : Schedule)
    (creates : create interpreter sha256 tenantId job createPayload = .ok created)
    (returned : recalculateAll sha256 interpreter created (calls ++ [(inputs, payload)]) =
      .ok result) :
    Projection created inputs result := by
  have planned := (create_planned creates).1
  unfold recalculateAll at returned
  rw [List.foldlM_append] at returned
  obtain ⟨current, chain, last⟩ := bind_eq_ok_iff.mp returned
  rw [List.foldlM_cons] at last
  obtain ⟨final, last, done⟩ := bind_eq_ok_iff.mp last
  cases done
  exact recalculate_projection planned
    (recalculateAll_revises planned calls (Revises.refl created) chain) last

section Example

/-- A delivery that arrives three days late for the second phase. -/
def lateInputs : RecalculationInputs where
  assignments := []
  availability := []
  deliveries := [⟨"delivery-1", "phase-02", "2026-01-08", "2026-01-11", "", "delayed"⟩]

def noInputs : RecalculationInputs := ⟨[], [], []⟩

/-- A late delivery moves the second phase, after a recalculation without inputs. -/
theorem recalculateAll_projection_late :
    ∃ created result, create plainInterpreter id "tenant-1" twoPhaseJob [] = .ok created ∧
      recalculateAll id plainInterpreter created ([(noInputs, [])] ++ [(lateInputs, [])]) =
        .ok result ∧
      result.projectedCompletionDate.isoformat = "2026-01-12" ∧
      result.delayImpacts.map DelayImpact.delayDays = [3] ∧
      Projection created lateInputs result := by
  refine ⟨_, _, rfl, rfl, by decide, by decide, ?_⟩
  exact recalculateAll_projection id plainInterpreter "tenant-1" twoPhaseJob [] _
    [(noInputs, [])] lateInputs [] _ rfl rfl

end Example

end AgentFabric.Renovation
