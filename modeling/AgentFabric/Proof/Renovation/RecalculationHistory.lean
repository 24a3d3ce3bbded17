import AgentFabric.Proof.Renovation.RecalculatedSchedule

namespace AgentFabric.Renovation
open Sorting Precedence SchedulePhase

/-- The days that the crew conflicts of a phase cost. -/
def conflictDays (conflicts : List ScheduleConflict) (phaseId : String) : Nat :=
  (conflicts.filter fun conflict => conflict.phaseId = phaseId).length

/-- Starts of the phases that respect the plan, the deliveries, the dependencies and the conflicts,
and that still end by the original completion date. -/
structure InTime (schedule : Schedule) (inputs : RecalculationInputs)
    (conflicts : List ScheduleConflict) (starts : String → Int) : Prop where
  planned : ∀ phase ∈ schedule.phases,
    (phase.plannedStart.day : Int) + conflictDays conflicts phase.phaseId ≤ starts phase.phaseId
  delivered : ∀ phase ∈ schedule.phases, ∀ delivery ∈ inputs.deliveries,
    delivery.phaseId = phase.phaseId → ∀ effective, deliveryEffectiveDate delivery = .ok effective →
      (effective.day : Int) + conflictDays conflicts phase.phaseId ≤ starts phase.phaseId
  behind : ∀ dependency ∈ schedule.dependencies, ∀ predecessor ∈ schedule.phases,
    predecessor.phaseId = dependency.predecessorPhaseId →
      starts dependency.predecessorPhaseId + predecessor.durationDays + dependency.lagDays +
        conflictDays conflicts dependency.successorPhaseId ≤ starts dependency.successorPhaseId
  finish : ∀ phase ∈ schedule.phases,
    starts phase.phaseId + (phase.durationDays - 1) ≤ schedule.originalCompletionDate.day

/-- The inputs leave room to end by the original completion date. -/
def CanFinish (sha256 : String → String) (schedule : Schedule) (inputs : RecalculationInputs) :
    Prop :=
  ∃ conflicts, crewConflicts sha256 schedule.scheduleId inputs.assignments inputs.availability =
    .ok conflicts ∧ ∃ starts, InTime schedule inputs conflicts starts

section Starts

variable {created : Schedule} {context : RecalculationContext} {results : List PhaseResult}
  (planned : PlannedSchedule created)
  (dependencies : context.schedule.dependencies = created.dependencies)
  (projects : List.Forall₂ RecalculationContext.Projects created.phases results)
  (moved : ∀ phase ∈ results, context.Moved (planDates (results.map PhaseResult.phase)) phase)

/-- The start days of the projected phases. -/
def projectedStarts (results : List PhaseResult) (phaseId : String) : Int :=
  ((planDates (results.map PhaseResult.phase)).get? phaseId).elim 0 fun dates => dates.1.day

include planned projects

variable (result : PhaseResult)

theorem projected_get? (inside : result ∈ results) :
    (planDates (results.map PhaseResult.phase)).get? result.phase.phaseId =
      some result.phase.dates := by
  apply planDates_get?
  · rw [RecalculationContext.cores_phaseIds (RecalculationContext.projects_cores projects)]
    exact planned.distinct
  · exact List.mem_map_of_mem inside

theorem projectedStarts_eq (inside : result ∈ results) :
    projectedStarts results result.phase.phaseId = result.phase.plannedStart.day := by
  rw [projectedStarts, projected_get? planned projects result inside]
  rfl

omit planned in
/-- Every planned phase has its projection. -/
theorem exists_projection (phase : SchedulePhase) (member : phase ∈ created.phases) :
    ∃ result ∈ results, RecalculationContext.Projects phase result ∧
      result.phase.phaseId = phase.phaseId := by
  obtain ⟨result, inside, projected⟩ := Aligned.exists_related projects.flip phase member
  exact ⟨result, inside, projected, congrArg PhaseCore.phaseId projected.core⟩

include dependencies moved

/-- The projected starts are in time when the projection ends in time. -/
theorem projectedStarts_inTime
    (ends : ∀ result ∈ results, result.phase.plannedEnd ≤ created.originalCompletionDate) :
    InTime created context.inputs context.conflicts (projectedStarts results) := by
  constructor
  · intro phase member
    obtain ⟨result, inside, projected, same⟩ := exists_projection projects phase member
    have bound := (moved result inside).notBefore
    rw [projected.baseline] at bound
    rw [← same, projectedStarts_eq planned projects result inside]
    exact_mod_cast bound
  · intro phase member delivery listed ofPhase effective read
    obtain ⟨result, inside, projected, same⟩ := exists_projection projects phase member
    obtain ⟨other, otherRead, bound⟩ := (moved result inside).delivered delivery
      (mem_phaseDeliveries.mpr ⟨listed, ofPhase.trans same.symm⟩)
    rw [read, Except.ok.injEq] at otherRead
    subst otherRead
    rw [← same, projectedStarts_eq planned projects result inside]
    exact_mod_cast bound
  · intro dependency member predecessor predecessorMember source
    obtain ⟨successor, successorMember, target⟩ :=
      List.mem_map.mp (planned.known dependency member).successor
    obtain ⟨first, firstInside, firstProjected, firstSame⟩ :=
      exists_projection projects predecessor predecessorMember
    obtain ⟨second, secondInside, _, secondSame⟩ :=
      exists_projection projects successor successorMember
    have waits : dependency ∈ predecessors context.schedule.dependencies second.phase.phaseId :=
      mem_predecessors.mpr ⟨dependencies ▸ member, (secondSame.trans target).symm⟩
    obtain ⟨dates, found, bound⟩ := (moved second secondInside).behind dependency waits
    rw [← source, ← firstSame, projected_get? planned projects first firstInside,
      Option.some.injEq] at found
    have lasts := firstProjected.lasts.ends
    rw [← source, ← target, ← firstSame, ← secondSame,
      projectedStarts_eq planned projects first firstInside,
      projectedStarts_eq planned projects second secondInside]
    rw [← found] at bound
    dsimp only [SchedulePhase.dates] at bound
    show _ + _ + _ + ((context.phaseConflicts second.phase.phaseId).length : Int) ≤ _
    omega
  · intro phase member
    obtain ⟨result, inside, projected, same⟩ := exists_projection projects phase member
    have bound := (Date.le_iff _ _).mp (ends result inside)
    have lasts := projected.lasts.ends
    rw [← same, projectedStarts_eq planned projects result inside]
    omega

end Starts

section Constraints

variable (created : Schedule) (context : RecalculationContext) (results : List PhaseResult)

/-- The days from the start of a predecessor to the start of its successor in the projection. -/
def dependencyGap (dependency : PhaseDependency) : Int :=
  ((planDates (results.map PhaseResult.phase)).get? dependency.predecessorPhaseId).elim 0
      (fun dates => (dates.2.day : Int) - dates.1.day + 1) + dependency.lagDays +
    conflictDays context.conflicts dependency.successorPhaseId

/-- The dependencies as constraints between the starts. -/
def startConstraints : List (CriticalPath.Constraint String) :=
  created.dependencies.map fun dependency =>
    ⟨dependency.predecessorPhaseId, dependency.successorPhaseId,
      dependencyGap context results dependency⟩

/-- The plan and each delivery bound the start of a phase. -/
def startBound (phaseId : String) (time : Int) : Prop :=
  (∃ phase ∈ created.phases, phase.phaseId = phaseId ∧
    time = phase.plannedStart.day + conflictDays context.conflicts phaseId) ∨
  ∃ delivery ∈ context.inputs.deliveries, delivery.phaseId = phaseId ∧ ∃ effective,
    deliveryEffectiveDate delivery = .ok effective ∧
      time = effective.day + conflictDays context.conflicts phaseId

theorem edgesOf_startConstraints :
    CriticalPath.edgesOf (startConstraints created context results) =
      dependencyEdges created.dependencies := by
  simp only [CriticalPath.edgesOf, startConstraints, dependencyEdges, List.map_map]
  rfl

variable {created context results}
variable (planned : PlannedSchedule created)
  (projects : List.Forall₂ RecalculationContext.Projects created.phases results)

include planned projects

/-- Every projected start is forced by the plan, a delivery or a dependency. -/
theorem projectedStarts_tight (dependencies : context.schedule.dependencies = created.dependencies)
    (moved : ∀ phase ∈ results, context.Moved (planDates (results.map PhaseResult.phase)) phase) :
    CriticalPath.Tight (created.phases.map SchedulePhase.phaseId) (startBound created context)
      (startConstraints created context results) (projectedStarts results) := by
  intro phaseId listed
  obtain ⟨phase, member, rfl⟩ := List.mem_map.mp listed
  obtain ⟨result, inside, projected, same⟩ := exists_projection projects phase member
  rw [← same, projectedStarts_eq planned projects result inside]
  rcases (moved result inside).forced with atPlan |
      ⟨dependency, waits, predecessor, found, equal⟩ | ⟨delivery, listed, effective, read, equal⟩
  · rw [projected.baseline] at atPlan
    exact .inl (.inl ⟨phase, member, same.symm, by exact_mod_cast atPlan⟩)
  · obtain ⟨inside, target⟩ := mem_predecessors.mp waits
    refine .inr ⟨_, List.mem_map.mpr ⟨dependency, dependencies ▸ inside, rfl⟩, target, ?_⟩
    simp only [projectedStarts, dependencyGap, found, Option.elim_some, target]
    show _ = (predecessor.1.day : Int) + (_ + _ +
      ((context.phaseConflicts result.phase.phaseId).length : Int))
    omega
  · obtain ⟨inside, ofPhase⟩ := mem_phaseDeliveries.mp listed
    exact .inl (.inr ⟨delivery, inside, ofPhase, effective, read, by exact_mod_cast equal⟩)

variable {starts : String → Int}

/-- Starts that are in time meet the constraints of the projection. -/
theorem InTime.feasible (inTime : InTime created context.inputs context.conflicts starts) :
    CriticalPath.Feasible (created.phases.map SchedulePhase.phaseId) (startBound created context)
      (startConstraints created context results) starts := by
  constructor
  · rintro phaseId listed time (⟨phase, member, rfl, rfl⟩ |
      ⟨delivery, inside, ofPhase, effective, read, rfl⟩)
    · exact inTime.planned phase member
    · obtain ⟨phase, member, rfl⟩ := List.mem_map.mp listed
      exact inTime.delivered phase member delivery inside ofPhase effective read
  · intro constraint listed
    obtain ⟨dependency, inside, rfl⟩ := List.mem_map.mp listed
    obtain ⟨predecessor, member, source⟩ :=
      List.mem_map.mp (planned.known dependency inside).predecessor
    obtain ⟨result, resultInside, projected, same⟩ := exists_projection projects predecessor member
    have behind := inTime.behind dependency inside predecessor member source
    have lasts := projected.lasts.ends
    have found := projected_get? planned projects result resultInside
    rw [same, source] at found
    simp only [dependencyGap, found, Option.elim_some, SchedulePhase.dates]
    omega

/-- No starts that are in time are earlier than the projected ones. -/
theorem projectedStarts_least (dependencies : context.schedule.dependencies = created.dependencies)
    (moved : ∀ phase ∈ results, context.Moved (planDates (results.map PhaseResult.phase)) phase)
    (inTime : InTime created context.inputs context.conflicts starts) :
    ∀ result ∈ results, (result.phase.plannedStart.day : Int) ≤ starts result.phase.phaseId := by
  intro result inside
  obtain ⟨phase, member, projected⟩ := Aligned.exists_related projects result inside
  have same : result.phase.phaseId = phase.phaseId := congrArg PhaseCore.phaseId projected.core
  have ordered := planned.order
  rw [← edgesOf_startConstraints created context results] at ordered
  rw [← projectedStarts_eq planned projects result inside]
  apply CriticalPath.least_of_tight ordered
    (projectedStarts_tight planned projects dependencies moved) (inTime.feasible planned projects)
  rw [same]
  exact List.mem_map_of_mem member

end Constraints

/-- A revision ends by the original completion date exactly when its inputs leave room to. -/
theorem completion_le_iff {sha256 : String → String} {created : Schedule}
    {context : RecalculationContext} {status : String} {results : List PhaseResult}
    {result : Schedule} (planned : PlannedSchedule created)
    (revises : Revises created context.schedule)
    (recalculated : Recalculated sha256 created context status results result) :
    latestEnd (results.map PhaseResult.phase) context.schedule.startDate ≤
        created.originalCompletionDate ↔ CanFinish sha256 created context.inputs := by
  have last := latestEnd_isLatestEnd (results.map PhaseResult.phase) context.schedule.startDate
  have conflicts := recalculated.conflicts
  rw [revises.scheduleId] at conflicts
  constructor
  · intro inTime
    refine ⟨context.conflicts, conflicts, projectedStarts results,
      projectedStarts_inTime planned revises.dependencies recalculated.projects recalculated.moved ?_⟩
    exact fun result inside => le_trans (last.above _ (List.mem_map_of_mem inside)) inTime
  · rintro ⟨found, foundConflicts, starts, inTime⟩
    rw [conflicts, Except.ok.injEq] at foundConflicts
    subst foundConflicts
    by_cases empty : results.map PhaseResult.phase = []
    · have none : created.phases = [] := by
        rw [List.map_eq_nil_iff] at empty
        exact List.forall₂_nil_right_iff.mp (empty ▸ recalculated.projects)
      rw [last.none empty, planned.completion, none, revises.startDate]
      exact le_rfl
    · obtain ⟨phase, member, ends⟩ := last.reached empty
      obtain ⟨result, inside, rfl⟩ := List.mem_map.mp member
      obtain ⟨original, originalMember, projected⟩ :=
        Aligned.exists_related recalculated.projects result inside
      have same : result.phase.phaseId = original.phaseId :=
        congrArg PhaseCore.phaseId projected.core
      have least := projectedStarts_least planned recalculated.projects revises.dependencies
        recalculated.moved inTime result inside
      have finish := inTime.finish original originalMember
      have lasts := projected.lasts.ends
      rw [same] at least
      rw [← ends, Date.le_iff]
      omega

section Override

open Classical in
/-- A value that replaces another one under a condition. -/
noncomputable def overridden (condition : Prop) (value other : String) : String :=
  if condition then value else other

theorem overridden_eq_ite {condition decided : Prop} [Decidable decided]
    (same : condition ↔ decided) (value other : String) :
    (if decided then value else other) = overridden condition value other := by
  unfold overridden
  by_cases holds : condition
  · rw [if_pos holds, if_pos (same.mp holds)]
  · rw [if_neg holds, if_neg fun found => holds (same.mpr found)]

/-- An earlier override is not seen exactly when the later one covers it or it changed nothing. -/
theorem overridden_twice_iff (first second : Prop) (value other : String) :
    overridden second value (overridden first value other) = overridden second value other ↔
      (first → second ∨ other = value) := by
  unfold overridden
  by_cases later : second
  · simp [later]
  · by_cases earlier : first
    · rw [if_neg later, if_neg later, if_pos earlier]
      simp [earlier, later, eq_comm]
    · rw [if_neg later, if_neg later, if_neg earlier]
      simp [earlier]

end Override

/-- A phase but for its status, which is all that a revision hands to the next. -/
def SchedulePhase.withoutStatus (phase : SchedulePhase) : SchedulePhase :=
  { phase with status := "" }

namespace RecalculationContext

variable (sha256 : String → String) {first second : RecalculationContext}

/-- Two contexts that differ only in the history of their schedule. -/
structure SameInputs (first second : RecalculationContext) : Prop where
  scheduleId : first.schedule.scheduleId = second.schedule.scheduleId
  startDate : first.schedule.startDate = second.schedule.startDate
  dependencies : first.schedule.dependencies = second.schedule.dependencies
  inputs : first.inputs = second.inputs
  conflicts : first.conflicts = second.conflicts

/-- The part of a result that does not depend on the history. -/
def view (result : PhaseResult) : (Date × Date) × SchedulePhase :=
  (result.baseline, result.phase.withoutStatus)

theorem SameInputs.phaseConflicts (same : SameInputs first second) (phaseId : String) :
    first.phaseConflicts phaseId = second.phaseConflicts phaseId := by
  unfold RecalculationContext.phaseConflicts
  rw [same.conflicts]

theorem SameInputs.delaySource (same : SameInputs first second) (phaseId : String) (delay : Int) :
    first.delaySource phaseId delay = second.delaySource phaseId delay := by
  unfold RecalculationContext.delaySource
  rw [same.inputs, same.phaseConflicts, same.dependencies]

variable {one two : SchedulePhase}

section

variable (same : SameInputs first second)
include same

/-- A delay is reported or fails in both contexts alike. -/
theorem SameInputs.phaseImpact_bind (ids : one.phaseId = two.phaseId) (delay : Int)
    (baselineEnd phaseEnd : Date) {Result : Type} (result : Result) :
    (first.phaseImpact sha256 one delay baselineEnd phaseEnd >>= fun _ => .ok result) =
      (second.phaseImpact sha256 two delay baselineEnd phaseEnd >>= fun _ => .ok result) := by
  unfold RecalculationContext.phaseImpact
  dsimp only
  split
  · rw [bind_assoc, bind_assoc, same.delaySource, ids]
    apply bind_congr
    intro source
    show (Except.ok result : Except PyError Result) = .ok result
    rfl
  · rfl

theorem SameInputs.recalculatedPhase (cores : one.core = two.core) (phaseStart phaseEnd : Date)
    (blocked : List String) :
    (first.recalculatedPhase one phaseStart phaseEnd blocked).withoutStatus =
      (second.recalculatedPhase two phaseStart phaseEnd blocked).withoutStatus := by
  unfold RecalculationContext.recalculatedPhase SchedulePhase.withoutStatus
  rw [same.inputs, same.scheduleId]
  obtain ⟨id, name, sequence, duration⟩ := PhaseCore.mk.inj cores
  rw [id, name, sequence, duration]

/-- One phase is placed in both contexts alike. -/
theorem SameInputs.recalculatePhase (cores : one.core = two.core) (baseline dates : PhaseDates) :
    view <$> first.recalculatePhase sha256 baseline dates one =
      view <$> second.recalculatePhase sha256 baseline dates two := by
  have ids : one.phaseId = two.phaseId := congrArg PhaseCore.phaseId cores
  have durations : one.durationDays = two.durationDays := congrArg PhaseCore.durationDays cores
  unfold RecalculationContext.recalculatePhase
  simp only [map_bind]
  rw [same.startDate, same.dependencies, same.inputs, ids, durations]
  simp only [same.phaseConflicts]
  refine bind_congr fun baselineStart => ?_
  refine bind_congr fun baselineEnd => ?_
  refine bind_congr fun start => ?_
  refine bind_congr fun delivered => ?_
  refine bind_congr fun phaseStart => ?_
  refine bind_congr fun phaseEnd => ?_
  generalize delivered.blocked ++
    (second.phaseConflicts two.phaseId).map ScheduleConflict.description = blocked
  show (first.phaseImpact sha256 one delivered.delay baselineEnd phaseEnd >>= fun _ =>
      .ok ((baselineStart, baselineEnd),
        (first.recalculatedPhase one phaseStart phaseEnd blocked).withoutStatus)) =
    (second.phaseImpact sha256 two delivered.delay baselineEnd phaseEnd >>= fun _ =>
      .ok ((baselineStart, baselineEnd),
        (second.recalculatedPhase two phaseStart phaseEnd blocked).withoutStatus))
  rw [same.recalculatedPhase cores]
  exact same.phaseImpact_bind sha256 ids delivered.delay baselineEnd phaseEnd _

/-- The loop over phases of one core gives both contexts the same results. -/
theorem SameInputs.recalculatePhases {one two : List SchedulePhase}
    (cores : one.map SchedulePhase.core = two.map SchedulePhase.core) (baseline dates : PhaseDates) :
    List.map view <$> first.recalculatePhases sha256 one baseline dates =
      List.map view <$> second.recalculatePhases sha256 two baseline dates := by
  induction one generalizing two baseline dates with
  | nil =>
      rw [List.map_nil, eq_comm, List.map_eq_nil_iff] at cores
      subst cores
      rfl
  | cons phase rest ih =>
      obtain ⟨other, others, rfl, core, cores⟩ := List.map_eq_cons_iff.mp cores.symm
      have ids : other.phaseId = phase.phaseId := congrArg PhaseCore.phaseId core
      unfold RecalculationContext.recalculatePhases
      apply map_bind_congr view (List.map view)
        (same.recalculatePhase sha256 core.symm baseline dates)
      intro result otherResult seen
      have baselines : result.baseline = otherResult.baseline := congrArg Prod.fst seen
      have starts : result.phase.plannedStart = otherResult.phase.plannedStart :=
        congrArg (fun found => found.2.plannedStart) seen
      have ends : result.phase.plannedEnd = otherResult.phase.plannedEnd :=
        congrArg (fun found => found.2.plannedEnd) seen
      rw [ids, ← baselines, ← starts, ← ends]
      apply map_bind_congr (List.map view) (List.map view) (ih cores.symm _ _)
      intro later otherLater rests
      show Except.ok (view result :: later.map view) =
        Except.ok (view otherResult :: otherLater.map view)
      rw [seen, rests]

end

section Status

variable {sha256} {context : RecalculationContext}

/-- A late delivery or a crew conflict blocks the phase. -/
def Blocks (context : RecalculationContext) (phaseId : String) : Prop :=
  (∃ delivery ∈ context.inputs.deliveries, delivery.phaseId = phaseId ∧ IsLate delivery) ∨
    ∃ conflict ∈ context.conflicts, conflict.phaseId = phaseId

variable {baseline dates : PhaseDates}

/-- A phase becomes blocked or keeps the status of the last revision. -/
theorem status_of_steps {phase : SchedulePhase}
    {result : PhaseResult} (steps : PhaseSteps sha256 context baseline dates phase result) :
    (result.phase.phaseId, result.phase.status) =
      (phase.phaseId, overridden (context.Blocks phase.phaseId) "blocked" phase.status) := by
  obtain ⟨start, delivered, _, applied, _, record⟩ := steps.projected
  have late := (applyDeliveries_ok applied).2
  have reasons : delivered.blocked ++
      (context.phaseConflicts phase.phaseId).map ScheduleConflict.description ≠ [] ↔
        context.Blocks phase.phaseId := by
    rw [ne_eq, List.append_eq_nil_iff, not_and_or, ← ne_eq, late, List.map_eq_nil_iff, phaseConflicts,
      List.filter_eq_nil_iff]
    simp only [ne_eq, not_true_eq_false, false_or, mem_phaseDeliveries, and_assoc, not_forall,
      decide_eq_true_eq, not_not, exists_prop, Blocks]
  have status : result.phase.status = if delivered.blocked ++
      (context.phaseConflicts phase.phaseId).map ScheduleConflict.description ≠ []
        then "blocked" else phase.status := by
    rw [record]
    rfl
  rw [status, overridden_eq_ite reasons.symm, record]
  rfl

theorem recalculatePhases_statuses {current : List SchedulePhase}
    {results : List PhaseResult}
    (returned : context.recalculatePhases sha256 current baseline dates = .ok results) :
    (results.map PhaseResult.phase).map (fun phase => (phase.phaseId, phase.status)) =
      current.map fun phase =>
        (phase.phaseId, overridden (context.Blocks phase.phaseId) "blocked" phase.status) := by
  induction current generalizing baseline dates results with
  | nil =>
      cases returned
      rfl
  | cons phase rest ih =>
      unfold RecalculationContext.recalculatePhases at returned
      obtain ⟨result, step, returned⟩ := bind_eq_ok_iff.mp returned
      obtain ⟨tail, loop, returned⟩ := bind_eq_ok_iff.mp returned
      cases returned
      rw [List.map_cons, List.map_cons, List.map_cons, ih loop,
        status_of_steps (recalculatePhase_ok step)]

end Status

end RecalculationContext

section History

variable {sha256 : String → String} {interpreter : Interpreter} {created current : Schedule}

/-- What a recalculation shows besides its statuses. -/
def outcome (schedule : Schedule) : List SchedulePhase × List ScheduleConflict × Date :=
  (schedule.phases.map SchedulePhase.withoutStatus, schedule.conflicts,
    schedule.projectedCompletionDate)

theorem recalculate_eq (known : current.status ∈ scheduleStatuses) (inputs : RecalculationInputs) :
    recalculate sha256 interpreter current inputs [] =
      (crewConflicts sha256 current.scheduleId inputs.assignments inputs.availability >>=
        fun conflicts =>
          RecalculationContext.recalculatePhases sha256 ⟨current, inputs, conflicts⟩ current.phases
            Dict.empty Dict.empty >>= fun results =>
              .ok (RecalculationContext.recalculatedSchedule sha256 ⟨current, inputs, conflicts⟩
                current.status results)) := by
  unfold recalculate
  exact if_neg (not_not.mpr known)

theorem latestEnd_congr {first second : List SchedulePhase} (default : Date)
    (same : first.map SchedulePhase.withoutStatus = second.map SchedulePhase.withoutStatus) :
    latestEnd first default = latestEnd second default := by
  have ends := congrArg (List.map plannedEnd) same
  rw [List.map_map, List.map_map] at ends
  have plannedEnds : first.map plannedEnd = second.map plannedEnd := ends
  unfold latestEnd
  rw [plannedEnds]

variable (sha256 interpreter) in
/-- Besides the statuses a recalculation of a revision is one of the created schedule. -/
theorem recalculate_outcome (revises : Revises created current)
    (known : created.status ∈ scheduleStatuses) (currentKnown : current.status ∈ scheduleStatuses)
    (inputs : RecalculationInputs) :
    outcome <$> recalculate sha256 interpreter current inputs [] =
      outcome <$> recalculate sha256 interpreter created inputs [] := by
  rw [recalculate_eq known, recalculate_eq currentKnown, revises.scheduleId]
  apply map_bind_congr id outcome rfl
  rintro conflicts _ rfl
  have same : RecalculationContext.SameInputs ⟨current, inputs, conflicts⟩
      ⟨created, inputs, conflicts⟩ :=
    ⟨revises.scheduleId, revises.startDate, revises.dependencies, rfl, rfl⟩
  apply map_bind_congr (List.map RecalculationContext.view) outcome
    (same.recalculatePhases sha256 revises.cores Dict.empty Dict.empty)
  intro results others seen
  have phases : (results.map PhaseResult.phase).map SchedulePhase.withoutStatus =
      (others.map PhaseResult.phase).map SchedulePhase.withoutStatus := by
    have shown := congrArg (List.map Prod.snd) seen
    rw [List.map_map, List.map_map] at shown
    rw [List.map_map, List.map_map]
    exact shown
  show Except.ok ((results.map PhaseResult.phase).map SchedulePhase.withoutStatus, conflicts,
      latestEnd (results.map PhaseResult.phase) current.startDate) =
    Except.ok ((others.map PhaseResult.phase).map SchedulePhase.withoutStatus, conflicts,
      latestEnd (others.map PhaseResult.phase) created.startDate)
  rw [phases, revises.startDate, latestEnd_congr _ phases]

/-- The inputs block a phase by a late delivery or by a crew conflict. -/
def IsBlocked (sha256 : String → String) (schedule : Schedule) (inputs : RecalculationInputs)
    (phaseId : String) : Prop :=
  (∃ delivery ∈ inputs.deliveries, delivery.phaseId = phaseId ∧ IsLate delivery) ∨
    ∃ conflicts, crewConflicts sha256 schedule.scheduleId inputs.assignments inputs.availability =
      .ok conflicts ∧ ∃ conflict ∈ conflicts, conflict.phaseId = phaseId

/-- The statuses of a revision override those of the schedule before it. -/
theorem recalculate_statuses {result : Schedule} {inputs : RecalculationInputs}
    (planned : PlannedSchedule created) (revises : Revises created current)
    (returned : recalculate sha256 interpreter current inputs [] = .ok result) :
    result.phases.map (fun phase => (phase.phaseId, phase.status)) =
        current.phases.map (fun phase => (phase.phaseId,
          overridden (IsBlocked sha256 created inputs phase.phaseId) "blocked" phase.status)) ∧
      result.status = overridden (¬ CanFinish sha256 created inputs) "delayed" current.status := by
  obtain ⟨conflicts, results, recalculated⟩ := recalculate_ok planned revises returned
  have found := recalculated.conflicts
  dsimp only at found
  rw [revises.scheduleId] at found
  have blocks (phaseId : String) :
      RecalculationContext.Blocks ⟨current, inputs, conflicts⟩ phaseId =
        IsBlocked sha256 created inputs phaseId := by
    simp [RecalculationContext.Blocks, IsBlocked, found]
  have late := (completion_le_iff planned revises recalculated).not
  rw [not_le] at late
  constructor
  · rw [recalculated.result]
    simp only [← blocks]
    exact RecalculationContext.recalculatePhases_statuses recalculated.loop
  · rw [recalculated.result, ← overridden_eq_ite late.symm, ← revises.original]
    rfl

theorem overridden_known {condition : Prop} {status : String} (known : status ∈ scheduleStatuses) :
    overridden condition "delayed" status ∈ scheduleStatuses := by
  unfold overridden
  split
  · decide
  · exact known

/-- The part of a phase that two recalculations are compared on. -/
def SchedulePhase.compared (phase : SchedulePhase) : String × Date × Date × String × List String :=
  (phase.phaseId, phase.plannedStart, phase.plannedEnd, phase.status, phase.blockedReasons)

/-- Two schedules agree on what does not name their revision. -/
structure Agrees (first second : Schedule) : Prop where
  phases : first.phases.map compared = second.phases.map compared
  status : first.status = second.status
  conflicts : first.conflicts = second.conflicts
  completion : first.projectedCompletionDate = second.projectedCompletionDate

/-- Schedules with one outcome agree exactly when their statuses do. -/
theorem agrees_iff {first second : Schedule} (same : outcome first = outcome second) :
    Agrees first second ↔
      first.phases.map (fun phase => (phase.phaseId, phase.status)) =
          second.phases.map (fun phase => (phase.phaseId, phase.status)) ∧
        first.status = second.status := by
  obtain ⟨phases, rest⟩ := Prod.mk.inj same
  obtain ⟨conflicts, completion⟩ := Prod.mk.inj rest
  constructor
  · intro agrees
    have pairs := congrArg (List.map fun found : String × Date × Date × String × List String =>
      (found.1, found.2.2.2.1)) agrees.phases
    rw [List.map_map, List.map_map] at pairs
    exact ⟨pairs, agrees.status⟩
  · rintro ⟨pairs, status⟩
    refine ⟨?_, status, conflicts, completion⟩
    have both := congrArg₂ (List.zipWith fun (phase : SchedulePhase) (pair : String × String) =>
      (phase.phaseId, phase.plannedStart, phase.plannedEnd, pair.2, phase.blockedReasons))
      phases pairs
    rw [List.zipWith_map, List.zipWith_map, List.zipWith_self, List.zipWith_self] at both
    exact both

end History

/-- A recalculation after another one fails like a recalculation of the created schedule, and it agrees
with it exactly when the earlier inputs block no phase and delay no completion that the later ones
leave alone. -/
theorem recalculate_historyFree_iff (sha256 : String → String) (interpreter : Interpreter)
    (tenantId : String) (job : Job) (payload : List (String × Json)) (created revised : Schedule)
    (first second : RecalculationInputs)
    (creates : create interpreter sha256 tenantId job payload = .ok created)
    (revises : recalculate sha256 interpreter created first [] = .ok revised) :
    (∀ error, recalculate sha256 interpreter revised second [] = .error error ↔
        recalculate sha256 interpreter created second [] = .error error) ∧
      ∀ again direct, recalculate sha256 interpreter revised second [] = .ok again →
        recalculate sha256 interpreter created second [] = .ok direct →
          (Agrees again direct ↔
            (∀ phase ∈ created.phases, IsBlocked sha256 created first phase.phaseId →
              IsBlocked sha256 created second phase.phaseId ∨ phase.status = "blocked") ∧
            (¬ CanFinish sha256 created first →
              ¬ CanFinish sha256 created second ∨ created.status = "delayed")) := by
  obtain ⟨planned, known⟩ := create_planned creates
  have keeps := (recalculate_projection planned (Revises.refl created) revises).revises
  obtain ⟨phases, status⟩ := recalculate_statuses planned (Revises.refl created) revises
  have revisedKnown : revised.status ∈ scheduleStatuses := by
    rw [status]
    exact overridden_known known
  have outcomes := recalculate_outcome sha256 interpreter keeps known revisedKnown second
  constructor
  · exact eq_error_iff_of_map_eq outcome outcomes
  · intro again direct returned directReturned
    rw [returned, directReturned] at outcomes
    rw [agrees_iff (Except.ok.inj outcomes)]
    obtain ⟨againPhases, againStatus⟩ := recalculate_statuses planned keeps returned
    obtain ⟨directPhases, directStatus⟩ :=
      recalculate_statuses planned (Revises.refl created) directReturned
    have carried : again.phases.map (fun phase => (phase.phaseId, phase.status)) =
        created.phases.map fun phase => (phase.phaseId,
          overridden (IsBlocked sha256 created second phase.phaseId) "blocked"
            (overridden (IsBlocked sha256 created first phase.phaseId) "blocked" phase.status)) := by
      have pairs := congrArg (List.map fun pair : String × String => (pair.1,
        overridden (IsBlocked sha256 created second pair.1) "blocked" pair.2)) phases
      rw [List.map_map, List.map_map] at pairs
      exact againPhases.trans pairs
    rw [carried, directPhases, againStatus, directStatus, status, overridden_twice_iff,
      List.map_inj_left]
    simp only [Prod.mk.injEq, true_and, overridden_twice_iff]

section Example

/-- The late delivery and another one that arrives two days late for the first phase. -/
def bothLateInputs : RecalculationInputs := { lateInputs with
  deliveries := lateInputs.deliveries ++
    [⟨"delivery-2", "phase-01", "2026-01-05", "2026-01-07", "", "delayed"⟩] }

/-- What blocks a phase in the first recalculation blocks it in the second one too. -/
theorem recalculate_historyFree_iff_late :
    ∃ created revised again direct,
      create plainInterpreter id "tenant-1" twoPhaseJob [] = .ok created ∧
      recalculate id plainInterpreter created lateInputs [] = .ok revised ∧
      recalculate id plainInterpreter revised bothLateInputs [] = .ok again ∧
      recalculate id plainInterpreter created bothLateInputs [] = .ok direct ∧
      revised.phases.map SchedulePhase.status = ["active", "blocked"] ∧
      direct.phases.map SchedulePhase.status = ["blocked", "blocked"] ∧ Agrees again direct := by
  refine ⟨_, _, _, _, rfl, rfl, rfl, rfl, by decide, by decide, ?_⟩
  apply ((recalculate_historyFree_iff id plainInterpreter "tenant-1" twoPhaseJob [] _ _ lateInputs
    bothLateInputs rfl rfl).2 _ _ rfl rfl).mpr
  constructor
  · rintro phase member (⟨delivery, listed, late⟩ | crews)
    · exact .inl (.inl ⟨delivery, List.mem_append_left _ listed, late⟩)
    · exact .inl (.inr crews)
  · intro late
    left
    rintro ⟨conflicts, found, starts, inTime⟩
    exact late ⟨conflicts, found, starts, { inTime with
      delivered := fun phase member delivery listed =>
        inTime.delivered phase member delivery (List.mem_append_left _ listed) }⟩

/-- After the late delivery is withdrawn the phase stays blocked and the schedule delayed. -/
theorem recalculate_keeps_blocked :
    ∃ created revised again direct,
      create plainInterpreter id "tenant-1" twoPhaseJob [] = .ok created ∧
      recalculate id plainInterpreter created lateInputs [] = .ok revised ∧
      recalculate id plainInterpreter revised noInputs [] = .ok again ∧
      recalculate id plainInterpreter created noInputs [] = .ok direct ∧
      again.phases.map SchedulePhase.status = ["active", "blocked"] ∧
      direct.phases.map SchedulePhase.status = ["active", "pending"] ∧
      again.status = "delayed" ∧ direct.status = "planned" ∧ ¬ Agrees again direct := by
  refine ⟨_, _, _, _, rfl, rfl, rfl, rfl, by decide, by decide, by decide, by decide, ?_⟩
  intro agrees
  have same := agrees.status
  revert same
  decide

end Example

end AgentFabric.Renovation
