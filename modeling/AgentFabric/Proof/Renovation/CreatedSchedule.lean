import AgentFabric.Construction.Renovation.SchedulingService
import AgentFabric.Foundation.Comprehension

namespace AgentFabric.Renovation
open Sorting Precedence

theorem datesOf_eq_ok_iff (dates : PhaseDates) (phaseId : String) (found : Date × Date) :
    datesOf dates phaseId = .ok found ↔ dates.get? phaseId = some found := by
  unfold datesOf
  cases dates.get? phaseId <;> simp

/-- The start is the least date behind the given one and behind each predecessor. -/
structure FollowsFrom (dates : PhaseDates) (start : Date) (waits : List PhaseDependency)
    (result : Date) : Prop where
  notBefore : start ≤ result
  behind : ∀ dependency ∈ waits, ∃ predecessor,
    dates.get? dependency.predecessorPhaseId = some predecessor ∧
      (predecessor.2.day : Int) + 1 + dependency.lagDays ≤ result.day
  forced : result = start ∨ ∃ dependency ∈ waits, ∃ predecessor,
    dates.get? dependency.predecessorPhaseId = some predecessor ∧
      (result.day : Int) = predecessor.2.day + 1 + dependency.lagDays

variable {waits : List PhaseDependency}

theorem FollowsFrom.grow {first second : PhaseDates} {start result : Date}
    (follows : FollowsFrom first start waits result)
    (grows : ∀ query found, first.get? query = some found → second.get? query = some found) :
    FollowsFrom second start waits result where
  notBefore := follows.notBefore
  behind := by
    intro dependency member
    obtain ⟨predecessor, found, later⟩ := follows.behind dependency member
    exact ⟨predecessor, grows _ _ found, later⟩
  forced := by
    rcases follows.forced with same | ⟨dependency, member, predecessor, found, equal⟩
    · exact .inl same
    · exact .inr ⟨dependency, member, predecessor, grows _ _ found, equal⟩

theorem max_cases (first second : Date) :
    (max first second = first ∧ second ≤ first) ∨ (max first second = second ∧ first ≤ second) := by
  rcases le_total first second with less | less
  · exact .inr ⟨max_eq_right less, less⟩
  · exact .inl ⟨max_eq_left less, less⟩

/-- The loop over the predecessors returns the least date behind all of them. -/
theorem afterPredecessors_ok {dates : PhaseDates} {start result : Date}
    (returned : afterPredecessors dates start waits = .ok result) :
    FollowsFrom dates start waits result := by
  induction waits generalizing start with
  | nil =>
      cases returned
      exact ⟨le_rfl, by simp, .inl rfl⟩
  | cons dependency rest ih =>
      unfold afterPredecessors at returned
      obtain ⟨predecessor, found, returned⟩ := bind_eq_ok_iff.mp returned
      obtain ⟨earliest, added, returned⟩ := bind_eq_ok_iff.mp returned
      rw [datesOf_eq_ok_iff] at found
      have behind := ih returned
      have day := Date.addDays_eq_ok added
      have later := (Date.le_iff _ _).mp behind.notBefore
      rw [Date.max_day] at later
      refine ⟨le_trans (le_max_left _ _) behind.notBefore, ?_, ?_⟩
      · intro wait member
        rcases List.mem_cons.mp member with rfl | inside
        · exact ⟨predecessor, found, by omega⟩
        · exact behind.behind wait inside
      · rcases behind.forced with same | ⟨wait, member, facts⟩
        · rcases max_cases start earliest with ⟨isStart, _⟩ | ⟨isEarliest, _⟩
          · exact .inl (same.trans isStart)
          · refine .inr ⟨dependency, .head _, predecessor, found, ?_⟩
            rw [same, isEarliest, day]
            omega
        · exact .inr ⟨wait, List.mem_cons_of_mem _ member, facts⟩

variable {error : PyError}

/-- With all predecessors planned only the calendar can fail. -/
theorem afterPredecessors_error {dates : PhaseDates} {start : Date}
    (known : ∀ dependency ∈ waits, (dates.get? dependency.predecessorPhaseId).isSome = true)
    (raised : afterPredecessors dates start waits = .error error) :
    error = .overflowError "date value out of range" := by
  induction waits generalizing start with
  | nil => cases raised
  | cons dependency rest ih =>
      obtain ⟨predecessor, found⟩ := Option.isSome_iff_exists.mp (known dependency (.head _))
      unfold afterPredecessors at raised
      rw [bind_eq_error_iff, (datesOf_eq_ok_iff _ _ _).mpr found] at raised
      rcases raised with missing | ⟨_, same, raised⟩
      · cases missing
      cases same
      rcases bind_eq_error_iff.mp raised with overflow | ⟨earliest, _, raised⟩
      · exact Date.addDays_error overflow
      · exact ih (fun wait member => known wait (.tail _ member)) raised

/-- A phase lasts its duration from its start on. -/
structure Lasts (first last : Date) (duration : Int) : Prop where
  positive : 0 < duration
  ends : (last.day : Int) = first.day + (duration - 1)

/-- What a schedule keeps of a phase of its job. -/
structure PhaseOutline where
  phaseId : String
  name : String
  sequence : Int
  durationDays : Int
  status : String

variable (phase : SchedulePhase)

def SchedulePhase.outline : PhaseOutline :=
  ⟨phase.phaseId, phase.name, phase.sequence, phase.durationDays, phase.status⟩

/-- The outline of a job phase under the duration overrides. -/
def JobPhase.outline (durations : Dict String Int) (phase : JobPhase) : PhaseOutline :=
  ⟨phase.phaseId, phase.name, phase.sequence, durations.getD phase.phaseId phase.durationDays,
    phase.status⟩

def SchedulePhase.dates : Date × Date :=
  (phase.plannedStart, phase.plannedEnd)

/-- A phase stands at the least date behind its predecessors and lasts its duration. -/
structure Placed (start : Date) (dependencies : List PhaseDependency) (dates : PhaseDates)
    (phase : SchedulePhase) : Prop where
  follows : FollowsFrom dates start (predecessors dependencies phase.phaseId) phase.plannedStart
  lasts : Lasts phase.plannedStart phase.plannedEnd phase.durationDays

variable {start : Date} {durations : Dict String Int} {dependencies : List PhaseDependency}
  {ordered : List JobPhase} {phases : List SchedulePhase}

/-- The loop places every phase behind the phases before it. -/
theorem planPhases_ok {dates : PhaseDates}
    (returned : planPhases start durations dependencies ordered dates = .ok phases) :
    Dict.Stepwise SchedulePhase.phaseId SchedulePhase.dates (Placed start dependencies) dates phases ∧
      phases.map SchedulePhase.outline = ordered.map (JobPhase.outline durations) := by
  induction ordered generalizing dates phases with
  | nil =>
      cases returned
      exact ⟨trivial, rfl⟩
  | cons phase rest ih =>
      unfold planPhases at returned
      dsimp only at returned
      split at returned
      · cases returned
      · rename_i positive
        obtain ⟨phaseStart, followed, returned⟩ := bind_eq_ok_iff.mp returned
        obtain ⟨phaseEnd, ended, returned⟩ := bind_eq_ok_iff.mp returned
        obtain ⟨later, planned, returned⟩ := bind_eq_ok_iff.mp returned
        cases returned
        obtain ⟨stepwise, outlines⟩ := ih planned
        have placed : Placed start dependencies dates {
            phaseId := phase.phaseId
            name := phase.name
            sequence := phase.sequence
            durationDays := durations.getD phase.phaseId phase.durationDays
            plannedStart := phaseStart
            plannedEnd := phaseEnd
            status := phase.status
            crewAssignmentIds := []
            deliveryIds := []
            blockedReasons := [] } :=
          ⟨afterPredecessors_ok followed, not_le.mp positive, Date.addDays_eq_ok ended⟩
        refine ⟨⟨placed, stepwise⟩, ?_⟩
        rw [List.map_cons, List.map_cons, outlines]
        rfl

/-- Along an order of the dependencies only a duration or the calendar raises, and no lookup of a
predecessor fails. -/
theorem planPhases_error {dates : PhaseDates} {done : List String}
    (order : Ordered (dependencyEdges dependencies) done (ordered.map JobPhase.phaseId))
    (known : ∀ phaseId ∈ done, (dates.get? phaseId).isSome = true)
    (raised : planPhases start durations dependencies ordered dates = .error error) :
    (error = .valueError "schedule phase duration must be positive" ∧
        ∃ phase ∈ ordered, durations.getD phase.phaseId phase.durationDays ≤ 0) ∨
      error = .overflowError "date value out of range" := by
  induction ordered generalizing dates done with
  | nil => cases raised
  | cons phase rest ih =>
      obtain ⟨_, sources, later⟩ := order
      have planned : ∀ dependency ∈ predecessors dependencies phase.phaseId,
          (dates.get? dependency.predecessorPhaseId).isSome = true := by
        intro dependency member
        rw [predecessors, List.mem_filter, decide_eq_true_eq] at member
        exact known _ (sources _ (List.mem_map.mpr ⟨dependency, member.1, by rw [member.2]⟩))
      unfold planPhases at raised
      dsimp only at raised
      split at raised
      · rename_i nonpositive
        cases raised
        exact .inl ⟨rfl, phase, .head _, nonpositive⟩
      · rcases bind_eq_error_iff.mp raised with failed | ⟨phaseStart, _, raised⟩
        · exact .inr (afterPredecessors_error planned failed)
        rcases bind_eq_error_iff.mp raised with failed | ⟨phaseEnd, _, raised⟩
        · exact .inr (Date.addDays_error failed)
        rcases bind_eq_error_iff.mp raised with failed | ⟨_, _, raised⟩
        · have laterKnown : ∀ phaseId ∈ phase.phaseId :: done,
              ((dates.set phase.phaseId (phaseStart, phaseEnd)).get? phaseId).isSome = true := by
            intro phaseId member
            rw [Dict.get?_set]
            split
            · rfl
            · rename_i different
              exact known phaseId ((List.mem_cons.mp member).resolve_left different)
          rcases ih later laterKnown failed with ⟨same, other, inside, nonpositive⟩ | same
          · exact .inl ⟨same, other, List.mem_cons_of_mem _ inside, nonpositive⟩
          · exact .inr same
        · cases raised

section Plan

/-- The dates of all phases of a plan. -/
def planDates (phases : List SchedulePhase) : PhaseDates :=
  Dict.empty.setAll (Dict.itemsOf SchedulePhase.phaseId SchedulePhase.dates phases)

/-- A plan that starts every phase as early as the start date and the dependencies allow. -/
structure EarliestPlan (start : Date) (dependencies : List PhaseDependency)
    (phases : List SchedulePhase) : Prop where
  lasts : ∀ phase ∈ phases, Lasts phase.plannedStart phase.plannedEnd phase.durationDays
  notBefore : ∀ phase ∈ phases, start ≤ phase.plannedStart
  behind : ∀ dependency ∈ dependencies, ∀ predecessor ∈ phases, ∀ successor ∈ phases,
    predecessor.phaseId = dependency.predecessorPhaseId →
    successor.phaseId = dependency.successorPhaseId →
      (predecessor.plannedEnd.day : Int) + 1 + dependency.lagDays ≤ successor.plannedStart.day
  earliest : ∀ other : String → Int,
    (∀ phase ∈ phases, (start.day : Int) ≤ other phase.phaseId) →
    (∀ dependency ∈ dependencies, ∀ predecessor ∈ phases,
      predecessor.phaseId = dependency.predecessorPhaseId →
        other dependency.predecessorPhaseId + predecessor.durationDays + dependency.lagDays ≤
          other dependency.successorPhaseId) →
    ∀ phase ∈ phases, (phase.plannedStart.day : Int) ≤ other phase.phaseId

variable {phases : List SchedulePhase} (distinct : (phases.map SchedulePhase.phaseId).Nodup)

include distinct

theorem planDates_get? (phase : SchedulePhase) (member : phase ∈ phases) :
    (planDates phases).get? phase.phaseId = some phase.dates := by
  apply Dict.get?_setAll_of_mem _ _ _ (phase.phaseId, phase.dates)
  · exact List.mem_map.mpr ⟨phase, member, rfl⟩
  · rw [Dict.itemsOf_keys]
    exact distinct

omit distinct in
theorem mem_predecessors {dependency : PhaseDependency} {phaseId : String} :
    dependency ∈ predecessors dependencies phaseId ↔
      dependency ∈ dependencies ∧ dependency.successorPhaseId = phaseId := by
  rw [predecessors, List.mem_filter, decide_eq_true_eq]

section

variable (placed : ∀ phase ∈ phases, Placed start dependencies (planDates phases) phase)
include placed

section

variable (order : Ordered (dependencyEdges dependencies) [] (phases.map SchedulePhase.phaseId))
include order

/-- Placed phases are never earlier than any other plan allows. -/
theorem placed_least
    (known : ∀ dependency ∈ dependencies,
      dependency.predecessorPhaseId ∈ phases.map SchedulePhase.phaseId)
    (other : String → Int) (bounds : ∀ phase ∈ phases, (start.day : Int) ≤ other phase.phaseId)
    (gaps : ∀ dependency ∈ dependencies, ∀ predecessor ∈ phases,
      predecessor.phaseId = dependency.predecessorPhaseId →
        other dependency.predecessorPhaseId + predecessor.durationDays + dependency.lagDays ≤
          other dependency.successorPhaseId)
    (phase : SchedulePhase) (member : phase ∈ phases) :
    (phase.plannedStart.day : Int) ≤ other phase.phaseId := by
  let times (phaseId : String) : Int :=
    ((planDates phases).get? phaseId).elim 0 fun dates => dates.1.day
  let span (phaseId : String) : Int :=
    ((planDates phases).get? phaseId).elim 0 fun dates => dates.2.day - dates.1.day + 1
  let constraints := dependencies.map fun dependency =>
    (⟨dependency.predecessorPhaseId, dependency.successorPhaseId,
      span dependency.predecessorPhaseId + dependency.lagDays⟩ : CriticalPath.Constraint String)
  have edges : CriticalPath.edgesOf constraints = dependencyEdges dependencies := by
    simp only [CriticalPath.edgesOf, constraints, dependencyEdges, List.map_map]
    rfl
  have timed (phase : SchedulePhase) (member : phase ∈ phases) :
      times phase.phaseId = phase.plannedStart.day := by
    simp only [times, planDates_get? distinct phase member]
    rfl
  have tight : CriticalPath.Tight (phases.map SchedulePhase.phaseId)
      (fun _ time => time = (start.day : Int)) constraints times := by
    intro phaseId listed
    obtain ⟨phase, member, rfl⟩ := List.mem_map.mp listed
    rw [timed phase member]
    rcases (placed phase member).follows.forced with same |
        ⟨dependency, waits, predecessor, found, equal⟩
    · exact .inl (by rw [same])
    · obtain ⟨inside, target⟩ := mem_predecessors.mp waits
      refine .inr ⟨_, List.mem_map.mpr ⟨dependency, inside, rfl⟩, target, ?_⟩
      simp only [times, span, found, Option.elim_some]
      omega
  have feasible : CriticalPath.Feasible (phases.map SchedulePhase.phaseId)
      (fun _ time => time = (start.day : Int)) constraints other := by
    constructor
    · intro phaseId listed
      obtain ⟨phase, member, rfl⟩ := List.mem_map.mp listed
      rintro time rfl
      exact bounds phase member
    · intro constraint listed
      obtain ⟨dependency, inside, rfl⟩ := List.mem_map.mp listed
      obtain ⟨predecessor, predecessorMember, same⟩ := List.mem_map.mp (known dependency inside)
      have gap := gaps dependency inside predecessor predecessorMember same
      have lasts := (placed predecessor predecessorMember).lasts.ends
      have spanned : span dependency.predecessorPhaseId = predecessor.durationDays := by
        simp only [span, ← same, planDates_get? distinct predecessor predecessorMember,
          Option.elim_some, SchedulePhase.dates]
        omega
      show other dependency.predecessorPhaseId +
        (span dependency.predecessorPhaseId + dependency.lagDays) ≤ other dependency.successorPhaseId
      rw [spanned]
      omega
  rw [← timed phase member]
  exact CriticalPath.least_of_tight (edges ▸ order) tight feasible phase.phaseId
    (List.mem_map_of_mem member)

/-- Stepwise placed phases form the earliest plan. -/
theorem earliestPlan_of_placed
    (known : ∀ dependency ∈ dependencies,
      dependency.predecessorPhaseId ∈ phases.map SchedulePhase.phaseId) :
    EarliestPlan start dependencies phases where
  lasts := fun phase member => (placed phase member).lasts
  notBefore := fun phase member => (placed phase member).follows.notBefore
  behind := by
    intro dependency inside predecessor predecessorMember successor successorMember source target
    obtain ⟨dates, found, later⟩ := (placed successor successorMember).follows.behind dependency
      (mem_predecessors.mpr ⟨inside, target.symm⟩)
    rw [← source, planDates_get? distinct predecessor predecessorMember, Option.some.injEq] at found
    rw [← found] at later
    exact later
  earliest := placed_least distinct placed order known

end

end

end Plan

theorem placed_final
    (stepwise : Dict.Stepwise SchedulePhase.phaseId SchedulePhase.dates (Placed start dependencies)
      Dict.empty phases) (distinct : (phases.map SchedulePhase.phaseId).Nodup) :
    ∀ phase ∈ phases, Placed start dependencies (planDates phases) phase := by
  apply stepwise.final _ distinct
  · exact fun _ _ => rfl
  · intro first second phase placed grows
    exact ⟨placed.follows.grow grows, placed.lasts⟩

end AgentFabric.Renovation

namespace AgentFabric.Renovation
open Sorting Precedence

/-- A dependency between two phases of the job with a lag that is not negative. -/
structure ValidDependency (phaseIds : List String) (dependency : PhaseDependency) : Prop where
  predecessor : dependency.predecessorPhaseId ∈ phaseIds
  successor : dependency.successorPhaseId ∈ phaseIds
  different : dependency.predecessorPhaseId ≠ dependency.successorPhaseId
  lag : 0 ≤ dependency.lagDays

theorem checkDependency_ok {phaseIds : List String} {dependency : PhaseDependency}
    (passed : checkDependency phaseIds dependency = .ok ()) :
    ValidDependency phaseIds dependency := by
  unfold checkDependency at passed
  split at passed
  · cases passed
  split at passed
  · cases passed
  split at passed
  · cases passed
  · rename_i known different valid
    push Not at known valid
    exact ⟨known.1, known.2, different, valid.2⟩

section Inputs

variable {interpreter : Interpreter} {tenantId : String} {job : Job}
  {payload : List (String × Json)} {inputs : CreateInputs}

theorem dependencies_valid {found : List PhaseDependency}
    (returned : dependencies interpreter job payload = .ok found) :
    ∀ dependency ∈ found, ValidDependency (job.phases.map JobPhase.phaseId) dependency := by
  unfold dependencies at returned
  obtain ⟨given, _, returned⟩ := bind_eq_ok_iff.mp returned
  obtain ⟨_, checked, returned⟩ := bind_eq_ok_iff.mp returned
  cases returned
  intro dependency member
  exact checkDependency_ok ((forM_eq_ok_iff _ _).mp checked dependency ((mem_sortedBy _ _ _).mp member))

/-- The checked inputs hold a known status and only valid dependencies. -/
theorem createInputs_valid (returned : createInputs interpreter tenantId job payload = .ok inputs) :
    inputs.status ∈ scheduleStatuses ∧ ∀ dependency ∈ inputs.dependencies,
      ValidDependency (job.phases.map JobPhase.phaseId) dependency := by
  unfold createInputs at returned
  split at returned
  · cases returned
  obtain ⟨start, _, returned⟩ := bind_eq_ok_iff.mp returned
  dsimp only at returned
  split at returned
  · cases returned
  rename_i known
  obtain ⟨durations, _, returned⟩ := bind_eq_ok_iff.mp returned
  split at returned
  · cases returned
  obtain ⟨found, read, returned⟩ := bind_eq_ok_iff.mp returned
  cases returned
  exact ⟨not_not.mp known, dependencies_valid read⟩

end Inputs

section Order

variable {job : Job} (distinct : (job.phases.map JobPhase.phaseId).Nodup)

include distinct

/-- Distinct ids keep every phase under its own id. -/
theorem phasesById_items :
    (phasesById job).items = job.phases.map fun phase => (phase.phaseId, phase) := by
  have all : phasesById job =
      Dict.empty.setAll (job.phases.map fun phase => (phase.phaseId, phase)) := by
    rw [Dict.setAll, List.foldl_map]
    rfl
  rw [all, Dict.setAll_items]
  · rfl
  · show (List.map Prod.fst ([] ++ job.phases.map fun phase => (phase.phaseId, phase))).Nodup
    rw [List.nil_append, List.map_map]
    exact distinct

theorem phasesById_get? (phaseId : String) (phase : JobPhase) :
    (phasesById job).get? phaseId = some phase ↔ phase ∈ job.phases ∧ phase.phaseId = phaseId := by
  rw [Dict.get?_eq_some_iff, phasesById_items distinct, List.mem_map]
  constructor
  · rintro ⟨other, member, same⟩
    obtain ⟨rfl, rfl⟩ := Prod.mk.inj same
    exact ⟨member, rfl⟩
  · rintro ⟨member, rfl⟩
    exact ⟨phase, member, rfl⟩

/-- Ids of the job read back as its phases. -/
theorem filterMap_phasesById (order : List String)
    (known : ∀ phaseId ∈ order, phaseId ∈ job.phases.map JobPhase.phaseId) :
    (order.filterMap (phasesById job).get?).map JobPhase.phaseId = order := by
  induction order with
  | nil => rfl
  | cons phaseId rest ih =>
      obtain ⟨phase, member, same⟩ := List.mem_map.mp (known phaseId (.head _))
      have found : (phasesById job).get? phaseId = some phase :=
        (phasesById_get? distinct phaseId phase).mpr ⟨member, same⟩
      rw [List.filterMap_cons_some found, List.map_cons, same,
        ih fun other later => known other (.tail _ later)]

variable {dependencies : List PhaseDependency}
  (valid : ∀ dependency ∈ dependencies,
    ValidDependency (job.phases.map JobPhase.phaseId) dependency)

include valid

omit distinct in
theorem dependency_endpoints {source target : String}
    (edge : Edge (dependencyEdges dependencies) source target) :
    source ∈ job.phases.map JobPhase.phaseId ∧ target ∈ job.phases.map JobPhase.phaseId := by
  obtain ⟨dependency, member, same⟩ := List.mem_map.mp edge
  obtain ⟨rfl, rfl⟩ := Prod.mk.inj same
  exact ⟨(valid dependency member).predecessor, (valid dependency member).successor⟩

/-- The order of the phases follows the dependencies, and it fails exactly on a cycle. -/
theorem orderedPhases_cases :
    (HasCycle (dependencyEdges dependencies) ∧ orderedPhases job dependencies = .error cycleError) ∨
      (¬ HasCycle (dependencyEdges dependencies) ∧ ∃ ordered,
        orderedPhases job dependencies = .ok ordered ∧ ordered.Perm job.phases ∧
          Ordered (dependencyEdges dependencies) [] (ordered.map JobPhase.phaseId)) := by
  have ids : (phasesById job).items.map Prod.fst = job.phases.map JobPhase.phaseId := by
    rw [phasesById_items distinct, List.map_map]
    rfl
  have size : (phasesById job).items.length = (job.phases.map JobPhase.phaseId).length := by
    rw [← ids, List.length_map]
  unfold orderedPhases
  simp only [ids]
  generalize (fun phaseId : String =>
    toLex (((phasesById job).get? phaseId |>.map JobPhase.sequence).getD 0, phaseId)) = key
  obtain ⟨order, inside, complete⟩ := topologicalOrder_spec (dependencyEdges dependencies) key
    (job.phases.map JobPhase.phaseId) distinct
    (fun source target edge => (dependency_endpoints valid edge).2)
    (fun source target edge => (dependency_endpoints valid edge).1)
  have read := filterMap_phasesById distinct _ inside
  have length := congrArg List.length read
  rw [List.length_map] at length
  rw [size, length]
  by_cases cyclic : HasCycle (dependencyEdges dependencies)
  · exact .inl ⟨cyclic, if_pos fun same => (complete.mp same) cyclic⟩
  · refine .inr ⟨cyclic, _, if_neg (not_not.mpr (complete.mpr cyclic)), ?_, read.symm ▸ order⟩
    have perm : (topologicalOrder (dependencyEdges dependencies) key
        (job.phases.map JobPhase.phaseId)).Perm (job.phases.map JobPhase.phaseId) :=
      (order.nodup.1.subperm inside).perm_of_length_le (le_of_eq (complete.mpr cyclic).symm)
    have listed : (job.phases.map JobPhase.phaseId).filterMap (phasesById job).get? = job.phases := by
      rw [List.filterMap_map]
      apply (List.filterMap_congr fun phase member => _).trans List.filterMap_some
      exact fun phase member => (phasesById_get? distinct _ phase).mpr ⟨member, rfl⟩
    have phases := perm.filterMap (phasesById job).get?
    rwa [listed] at phases

/-- The key that the loop reads for an id. -/
def idKey (job : Job) (phaseId : String) : Int ×ₗ String :=
  toLex ((((phasesById job).get? phaseId).map JobPhase.sequence).getD 0, phaseId)

omit distinct valid in
theorem idKey_injective : Function.Injective (idKey job) := fun _ _ same =>
  (Prod.mk.inj (toLex.injective same)).2

omit valid in
theorem map_phaseKey {phases : List JobPhase} (perm : phases.Perm job.phases) :
    phases.map phaseKey = (phases.map JobPhase.phaseId).map (idKey job) := by
  rw [List.map_map]
  apply List.map_congr_left
  intro phase member
  have found : (phasesById job).get? phase.phaseId = some phase :=
    (phasesById_get? distinct _ _).mpr ⟨perm.mem_iff.mp member, rfl⟩
  rw [Function.comp_apply, idKey, found]
  rfl

theorem orderedPhases_ids {ordered : List JobPhase}
    (sorted : orderedPhases job dependencies = .ok ordered) :
    ordered.map JobPhase.phaseId = topologicalOrder (dependencyEdges dependencies) (idKey job)
      (job.phases.map JobPhase.phaseId) := by
  have ids : (phasesById job).items.map Prod.fst = job.phases.map JobPhase.phaseId := by
    rw [phasesById_items distinct, List.map_map]
    rfl
  obtain ⟨_, inside, _⟩ := topologicalOrder_spec (dependencyEdges dependencies) (idKey job)
    (job.phases.map JobPhase.phaseId) distinct
    (fun source target edge => (dependency_endpoints valid edge).2)
    (fun source target edge => (dependency_endpoints valid edge).1)
  unfold orderedPhases at sorted
  simp only [ids] at sorted
  split at sorted
  · cases sorted
  · rw [← Except.ok.inj sorted]
    exact filterMap_phasesById distinct _ inside

omit distinct valid in
/-- An order of the phases of a job in which each phase follows its predecessors. -/
structure TopologicalOrder (job : Job) (dependencies : List PhaseDependency)
    (order : List JobPhase) : Prop where
  perm : order.Perm job.phases
  ordered : Ordered (dependencyEdges dependencies) [] (order.map JobPhase.phaseId)

/-- Without a cycle the phases are put in the topological order whose sequences and ids come first. -/
theorem orderedPhases_least (acyclic : ¬ HasCycle (dependencyEdges dependencies)) :
    ∃ ordered, orderedPhases job dependencies = .ok ordered ∧
      TopologicalOrder job dependencies ordered ∧
        ∀ other, TopologicalOrder job dependencies other →
          ordered.map phaseKey ≤ other.map phaseKey := by
  rcases orderedPhases_cases distinct valid with ⟨cyclic, _⟩ | ⟨_, ordered, sorted, perm, follows⟩
  · exact absurd cyclic acyclic
  · refine ⟨ordered, sorted, ⟨perm, follows⟩, ?_⟩
    intro other topological
    rw [map_phaseKey distinct perm, map_phaseKey distinct topological.perm,
      orderedPhases_ids distinct valid sorted]
    exact topologicalOrder_least distinct
      (fun source target edge => (dependency_endpoints valid edge).2) idKey_injective
      topological.ordered (topological.perm.map JobPhase.phaseId)

end Order

section Completion

theorem foldl_max_spec (first : Date) (rest : List Date) :
    first ≤ rest.foldl max first ∧ (∀ date ∈ rest, date ≤ rest.foldl max first) ∧
      (rest.foldl max first = first ∨ rest.foldl max first ∈ rest) := by
  induction rest generalizing first with
  | nil => simp
  | cons date rest ih =>
      obtain ⟨above, all, reached⟩ := ih (max first date)
      rw [List.foldl_cons]
      refine ⟨le_trans (le_max_left _ _) above, ?_, ?_⟩
      · intro other member
        rcases List.mem_cons.mp member with rfl | inside
        · exact le_trans (le_max_right _ _) above
        · exact all other inside
      · rcases reached with same | inside
        · rcases max_cases first date with ⟨isFirst, _⟩ | ⟨isDate, _⟩
          · exact .inl (same.trans isFirst)
          · exact .inr (List.mem_cons.mpr (.inl (same.trans isDate)))
        · exact .inr (.tail _ inside)

/-- The date is the latest end of the phases, or the default without a phase. -/
structure IsLatestEnd (phases : List SchedulePhase) (default date : Date) : Prop where
  none : phases = [] → date = default
  above : ∀ phase ∈ phases, phase.plannedEnd ≤ date
  reached : phases ≠ [] → ∃ phase ∈ phases, phase.plannedEnd = date

theorem latestEnd_isLatestEnd (phases : List SchedulePhase) (default : Date) :
    IsLatestEnd phases default (latestEnd phases default) := by
  cases phases with
  | nil =>
      exact ⟨fun _ => rfl, fun _ member => absurd member List.not_mem_nil,
        fun nonempty => absurd rfl nonempty⟩
  | cons phase rest =>
      obtain ⟨above, all, reached⟩ :=
        foldl_max_spec phase.plannedEnd (rest.map SchedulePhase.plannedEnd)
      refine ⟨fun empty => absurd empty (List.cons_ne_nil _ _), ?_, fun _ => ?_⟩
      · intro other member
        rcases List.mem_cons.mp member with rfl | inside
        · exact above
        · exact all _ (List.mem_map_of_mem inside)
      · rcases reached with same | inside
        · exact ⟨phase, .head _, same.symm⟩
        · obtain ⟨other, member, equal⟩ := List.mem_map.mp inside
          exact ⟨other, List.mem_cons_of_mem _ member, equal⟩

end Completion

/-- A schedule whose phases stand at their earliest dates. -/
structure PlannedSchedule (schedule : Schedule) : Prop where
  stepwise : Dict.Stepwise SchedulePhase.phaseId SchedulePhase.dates
    (Placed schedule.startDate schedule.dependencies) Dict.empty schedule.phases
  distinct : (schedule.phases.map SchedulePhase.phaseId).Nodup
  order : Ordered (dependencyEdges schedule.dependencies) []
    (schedule.phases.map SchedulePhase.phaseId)
  known : ∀ dependency ∈ schedule.dependencies,
    ValidDependency (schedule.phases.map SchedulePhase.phaseId) dependency
  completion : schedule.originalCompletionDate = latestEnd schedule.phases schedule.startDate

section Create

variable {interpreter : Interpreter} (sha256 : String → String) {tenantId : String} {job : Job}
  {payload : List (String × Json)} {inputs : CreateInputs}

/-- What create returns for checked inputs. -/
structure CreatedFrom (job : Job) (inputs : CreateInputs) (schedule : Schedule) : Prop where
  acyclic : ¬ HasCycle (dependencyEdges inputs.dependencies)
  planned : PlannedSchedule schedule
  outlines : (schedule.phases.map SchedulePhase.outline).Perm
    (job.phases.map (JobPhase.outline inputs.durations))
  startDate : schedule.startDate = inputs.start
  dependencies : schedule.dependencies = inputs.dependencies
  projected : schedule.projectedCompletionDate = schedule.originalCompletionDate

variable {phases : List SchedulePhase} {ordered : List JobPhase}

theorem outlines_phaseIds {durations : Dict String Int}
    (outlines : phases.map SchedulePhase.outline = ordered.map (JobPhase.outline durations)) :
    phases.map SchedulePhase.phaseId = ordered.map JobPhase.phaseId := by
  have ids := congrArg (List.map PhaseOutline.phaseId) outlines
  rw [List.map_map, List.map_map] at ids
  exact ids

/-- Phases that are planned along their order form a planned schedule. -/
theorem createdSchedule_planned
    {tenantId jobId : String}
    (order : Ordered (dependencyEdges inputs.dependencies) [] (ordered.map JobPhase.phaseId))
    (valid : ∀ dependency ∈ inputs.dependencies,
      ValidDependency (ordered.map JobPhase.phaseId) dependency)
    (planned : planPhases inputs.start inputs.durations inputs.dependencies ordered Dict.empty =
      .ok phases) :
    PlannedSchedule (createdSchedule sha256 tenantId jobId inputs phases) := by
  obtain ⟨stepwise, outlines⟩ := planPhases_ok planned
  have ids := outlines_phaseIds outlines
  refine ⟨stepwise, ?_, ?_, ?_, rfl⟩
  · show (phases.map SchedulePhase.phaseId).Nodup
    rw [ids]
    exact order.nodup.1
  · show Ordered _ [] (phases.map SchedulePhase.phaseId)
    rw [ids]
    exact order
  · show ∀ dependency ∈ inputs.dependencies,
      ValidDependency (phases.map SchedulePhase.phaseId) dependency
    rw [ids]
    exact valid

theorem ValidDependency.mono {first second : List String} {dependency : PhaseDependency}
    (valid : ValidDependency first dependency) (subset : ∀ phaseId ∈ first, phaseId ∈ second) :
    ValidDependency second dependency where
  predecessor := subset _ valid.predecessor
  successor := subset _ valid.successor
  different := valid.different
  lag := valid.lag

/-- After the checks create fails on a cycle, a duration or the calendar, or it plans the job. -/
theorem create_cases (distinct : (job.phases.map JobPhase.phaseId).Nodup)
    (checked : createInputs interpreter tenantId job payload = .ok inputs) :
    (HasCycle (dependencyEdges inputs.dependencies) ∧
        create interpreter sha256 tenantId job payload = .error cycleError) ∨
      (¬ HasCycle (dependencyEdges inputs.dependencies) ∧
        ((create interpreter sha256 tenantId job payload =
              .error (.valueError "schedule phase duration must be positive") ∧
            ∃ phase ∈ job.phases, inputs.durations.getD phase.phaseId phase.durationDays ≤ 0) ∨
          create interpreter sha256 tenantId job payload =
            .error (.overflowError "date value out of range") ∨
          ∃ schedule, create interpreter sha256 tenantId job payload = .ok schedule ∧
            CreatedFrom job inputs schedule)) := by
  have valid := (createInputs_valid checked).2
  rcases orderedPhases_cases distinct valid with ⟨cyclic, failed⟩ |
      ⟨acyclic, ordered, returned, perm, order⟩
  · refine .inl ⟨cyclic, ?_⟩
    rw [create, checked]
    show (orderedPhases job inputs.dependencies >>= _) = _
    rw [failed]
    rfl
  · refine .inr ⟨acyclic, ?_⟩
    have unfolded : create interpreter sha256 tenantId job payload =
        (planPhases inputs.start inputs.durations inputs.dependencies ordered Dict.empty >>=
          fun phases => .ok (createdSchedule sha256 tenantId job.jobId inputs phases)) := by
      rw [create, checked]
      show (orderedPhases job inputs.dependencies >>= _) = _
      rw [returned]
      rfl
    rw [unfolded]
    cases planned : planPhases inputs.start inputs.durations inputs.dependencies ordered
        Dict.empty with
    | error error =>
        rcases planPhases_error order (by simp) planned with ⟨same, phase, inside, nonpositive⟩ | same
        · exact .inl ⟨congrArg Except.error same, phase, perm.mem_iff.mp inside, nonpositive⟩
        · exact .inr (.inl (congrArg Except.error same))
    | ok phases =>
        have outlines := (planPhases_ok planned).2
        have ids := perm.map JobPhase.phaseId
        refine .inr (.inr ⟨createdSchedule sha256 tenantId job.jobId inputs phases, rfl, acyclic,
          createdSchedule_planned sha256 order (fun dependency member => ?_) planned, ?_, rfl, rfl,
          rfl⟩)
        · exact (valid dependency member).mono fun _ => ids.mem_iff.mpr
        · show (phases.map SchedulePhase.outline).Perm _
          rw [outlines]
          exact perm.map _

end Create

/-- Create raises the cycle error exactly on a cycle of the checked dependencies, never misses the
dates of a predecessor, and otherwise returns the earliest plan and its latest end unless a duration
is not positive or a date leaves the calendar. -/
theorem create_earliestPlan (interpreter : Interpreter) (sha256 : String → String)
    (tenantId : String) (job : Job) (payload : List (String × Json)) (inputs : CreateInputs)
    (distinct : (job.phases.map JobPhase.phaseId).Nodup)
    (checked : createInputs interpreter tenantId job payload = .ok inputs) :
    (create interpreter sha256 tenantId job payload = .error cycleError ↔
        HasCycle (dependencyEdges inputs.dependencies)) ∧
      (∀ key, create interpreter sha256 tenantId job payload ≠ .error (.keyError key)) ∧
      (¬ HasCycle (dependencyEdges inputs.dependencies) →
        (∀ phase ∈ job.phases, 0 < inputs.durations.getD phase.phaseId phase.durationDays) →
        (∃ schedule, create interpreter sha256 tenantId job payload = .ok schedule) ∨
          create interpreter sha256 tenantId job payload =
            .error (.overflowError "date value out of range")) ∧
      ∀ schedule, create interpreter sha256 tenantId job payload = .ok schedule →
        (schedule.phases.map SchedulePhase.outline).Perm
            (job.phases.map (JobPhase.outline inputs.durations)) ∧
          EarliestPlan inputs.start inputs.dependencies schedule.phases ∧
          IsLatestEnd schedule.phases inputs.start schedule.originalCompletionDate ∧
          schedule.projectedCompletionDate = schedule.originalCompletionDate := by
  rcases create_cases sha256 distinct checked with ⟨cyclic, failed⟩ |
      ⟨acyclic, ⟨failed, phase, inside, nonpositive⟩ | failed | ⟨schedule, returned, created⟩⟩
  · simp [failed, cyclic, cycleError]
  · rw [failed]
    refine ⟨iff_of_false (by simp [cycleError]) acyclic, by simp, ?_, by simp⟩
    intro _ positive
    exact absurd (positive phase inside) (not_lt.mpr nonpositive)
  · simp [failed, acyclic, cycleError]
  · rw [returned]
    refine ⟨iff_of_false (by simp) acyclic, by simp, fun _ _ => .inl ⟨schedule, rfl⟩, ?_⟩
    intro other same
    cases same
    have planned := created.planned
    have plan := earliestPlan_of_placed planned.distinct
      (placed_final planned.stepwise planned.distinct) planned.order
      fun dependency member => (planned.known dependency member).predecessor
    rw [created.startDate, created.dependencies] at plan
    refine ⟨created.outlines, plan, ?_, created.projected⟩
    rw [planned.completion, created.startDate]
    exact latestEnd_isLatestEnd _ _

section Example

def plainInterpreter : Interpreter := ⟨fun _ => true, fun _ => 0, fun _ => true⟩

/-- A job of two phases. -/
def twoPhaseJob : Job where
  jobId := "job-1"
  tenantId := "tenant-1"
  acceptedDate := "2026-01-05"
  phases := [⟨"phase-01", "Demolition", 1, 3, "active"⟩, ⟨"phase-02", "Cabinets", 2, 2, "pending"⟩]

def twoPhaseInputs : CreateInputs where
  start := ⟨739620, by decide⟩
  status := "planned"
  durations := Dict.empty
  dependencies := [⟨"phase-01", "phase-02", "finish_to_start", 0⟩]

/-- The two phases are put in the only order that the dependency allows. -/
theorem orderedPhases_least_twoPhases :
    ∃ ordered, orderedPhases twoPhaseJob twoPhaseInputs.dependencies = .ok ordered ∧
      TopologicalOrder twoPhaseJob twoPhaseInputs.dependencies ordered ∧
        ∀ other, TopologicalOrder twoPhaseJob twoPhaseInputs.dependencies other →
          ordered.map phaseKey ≤ other.map phaseKey := by
  apply orderedPhases_least (by decide)
  · intro dependency member
    obtain rfl := List.mem_singleton.mp member
    exact ⟨by decide, by decide, by decide, by decide⟩
  · have ordered : Ordered (dependencyEdges twoPhaseInputs.dependencies) [] ["phase-01", "phase-02"] := by
      simp [Ordered, Edge, dependencyEdges, twoPhaseInputs]
    apply ordered.acyclic
    intro source target edge
    rw [Edge, dependencyEdges, twoPhaseInputs, List.map_singleton, List.mem_singleton] at edge
    obtain ⟨rfl, rfl⟩ := Prod.mk.inj edge
    decide

/-- The second phase starts on the day after the first one ends. -/
theorem create_earliestPlan_twoPhases :
    ∃ schedule, create plainInterpreter id "tenant-1" twoPhaseJob [] = .ok schedule ∧
      schedule.phases.map (fun phase => (phase.plannedStart.isoformat, phase.plannedEnd.isoformat)) =
        [("2026-01-05", "2026-01-07"), ("2026-01-08", "2026-01-09")] ∧
      EarliestPlan twoPhaseInputs.start twoPhaseInputs.dependencies schedule.phases := by
  refine ⟨_, rfl, by decide, ?_⟩
  exact ((create_earliestPlan plainInterpreter id "tenant-1" twoPhaseJob [] twoPhaseInputs
    (by decide) rfl).2.2.2 _ rfl).2.1

end Example

end AgentFabric.Renovation
