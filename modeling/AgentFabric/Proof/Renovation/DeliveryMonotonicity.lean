import AgentFabric.Proof.Renovation.RecalculatedSchedule

namespace AgentFabric.Renovation

/-- A delivery of the same phase that never takes effect earlier. -/
structure Postponed (early late : MaterialDelivery) : Prop where
  phaseId : late.phaseId = early.phaseId
  later : ∀ before after, deliveryEffectiveDate early = .ok before →
    deliveryEffectiveDate late = .ok after → before ≤ after

/-- Every delivery of the first list stands in the second one, moved or not, which may have more. -/
def Delays (first second : List MaterialDelivery) : Prop :=
  ∀ early ∈ first, ∃ late ∈ second, Postponed early late

/-- The second plan ends no phase earlier than the first one. -/
def NeverEarlier (first second : PhaseDates) : Prop :=
  ∀ phaseId early late, first.get? phaseId = some early → second.get? phaseId = some late →
    early.2 ≤ late.2

/-- A start that follows later predecessors is not earlier. -/
theorem FollowsFrom.mono {firstDates secondDates : PhaseDates} {firstStart secondStart : Date}
    {waits : List PhaseDependency} {first second : Date}
    (one : FollowsFrom firstDates firstStart waits first)
    (two : FollowsFrom secondDates secondStart waits second)
    (dates : NeverEarlier firstDates secondDates) (start : firstStart ≤ secondStart) :
    first ≤ second := by
  rcases one.forced with atStart | ⟨dependency, member, early, found, equal⟩
  · rw [atStart]
    exact le_trans start two.notBefore
  · obtain ⟨late, present, behind⟩ := two.behind dependency member
    have later := dates _ _ _ found present
    rw [Date.le_iff] at later ⊢
    omega

/-- A start that waits for later deliveries is not earlier. -/
theorem Delivered.mono {firstDeliveries secondDeliveries : List MaterialDelivery}
    {firstStart secondStart first second : Date} (one : Delivered firstDeliveries firstStart first)
    (two : Delivered secondDeliveries secondStart second)
    (delays : Delays firstDeliveries secondDeliveries) (start : firstStart ≤ secondStart) :
    first ≤ second := by
  rcases one.forced with atStart | ⟨early, member, read⟩
  · rw [atStart]
    exact le_trans start two.notBefore
  · obtain ⟨late, inside, postponed⟩ := delays early member
    obtain ⟨effective, found, behind⟩ := two.behind late inside
    exact le_trans (postponed.later first effective read found) behind

theorem Delays.phaseDeliveries {first second : List MaterialDelivery}
    (delays : Delays first second) (phaseId : String) :
    Delays (phaseDeliveries first phaseId) (phaseDeliveries second phaseId) := by
  intro early member
  obtain ⟨listed, same⟩ := mem_phaseDeliveries.mp member
  obtain ⟨late, inside, postponed⟩ := delays early listed
  exact ⟨late, mem_phaseDeliveries.mpr ⟨inside, postponed.phaseId.trans same⟩, postponed⟩

namespace RecalculationContext

variable {sha256 : String → String} {schedule : Schedule} {first second : RecalculationInputs}
  {conflicts : List ScheduleConflict} {baseline firstDates secondDates : PhaseDates}
  {phase : SchedulePhase}

theorem phaseId_of_steps {context : RecalculationContext} {baseline dates : PhaseDates}
    {result : PhaseResult}
    (steps : PhaseSteps sha256 context baseline dates phase result) :
    result.phase.phaseId = phase.phaseId := by
  obtain ⟨_, _, _, _, _, record⟩ := steps.projected
  rw [record]
  rfl

/-- One phase is placed no earlier behind later dates and later deliveries, in the same baseline. -/
theorem recalculatePhase_mono {early late : PhaseResult}
    (delays : Delays first.deliveries second.deliveries)
    (dates : NeverEarlier firstDates secondDates)
    (one : recalculatePhase sha256 ⟨schedule, first, conflicts⟩ baseline firstDates phase =
      .ok early)
    (two : recalculatePhase sha256 ⟨schedule, second, conflicts⟩ baseline secondDates phase =
      .ok late) :
    early.baseline = late.baseline ∧ NotEarlier early.phase late.phase := by
  have firstSteps := recalculatePhase_ok one
  have secondSteps := recalculatePhase_ok two
  have starts : early.baseline.1 = late.baseline.1 :=
    le_antisymm (followsFrom_unique firstSteps.baselineStart secondSteps.baselineStart)
      (followsFrom_unique secondSteps.baselineStart firstSteps.baselineStart)
  have ends : early.baseline.2 = late.baseline.2 := by
    apply Date.ext_day
    have firstEnd := firstSteps.baselineEnd
    have secondEnd := secondSteps.baselineEnd
    rw [starts] at firstEnd
    omega
  obtain ⟨firstStart, firstDelivered, firstFollows, firstApplied, firstMoved, _⟩ :=
    firstSteps.projected
  obtain ⟨secondStart, secondDelivered, secondFollows, secondApplied, secondMoved, _⟩ :=
    secondSteps.projected
  have followed : firstStart ≤ secondStart :=
    firstFollows.mono secondFollows dates (le_of_eq starts)
  have delivered : firstDelivered.start ≤ secondDelivered.start :=
    (applyDeliveries_ok firstApplied).1.mono (applyDeliveries_ok secondApplied).1
      (delays.phaseDeliveries phase.phaseId) followed
  have firstEnds := firstSteps.ends
  have secondEnds := secondSteps.ends
  have sameConflicts : phaseConflicts ⟨schedule, first, conflicts⟩ phase.phaseId =
      phaseConflicts ⟨schedule, second, conflicts⟩ phase.phaseId := rfl
  rw [sameConflicts] at firstMoved
  rw [Date.le_iff] at delivered
  refine ⟨Prod.ext starts ends, ?_, ?_, ?_⟩
  · rw [phaseId_of_steps firstSteps, phaseId_of_steps secondSteps]
  · rw [Date.le_iff]
    omega
  · rw [Date.le_iff]
    omega

theorem NeverEarlier.set {phaseId : String} {early late : Date × Date}
    (dates : NeverEarlier firstDates secondDates) (later : early.2 ≤ late.2) :
    NeverEarlier (firstDates.set phaseId early) (secondDates.set phaseId late) := by
  intro other before after found present
  rw [Dict.get?_set] at found present
  split at found
  · rename_i own
    rw [if_pos own] at present
    cases found
    cases present
    exact later
  · rename_i different
    rw [if_neg different] at present
    exact dates other before after found present

/-- The loop places no phase earlier behind later deliveries. -/
theorem recalculatePhases_mono {phases : List SchedulePhase} {early late : List PhaseResult}
    (delays : Delays first.deliveries second.deliveries)
    (dates : NeverEarlier firstDates secondDates)
    (one : recalculatePhases sha256 ⟨schedule, first, conflicts⟩ phases baseline firstDates =
      .ok early)
    (two : recalculatePhases sha256 ⟨schedule, second, conflicts⟩ phases baseline secondDates =
      .ok late) :
    List.Forall₂ NotEarlier (early.map PhaseResult.phase) (late.map PhaseResult.phase) := by
  induction phases generalizing baseline firstDates secondDates early late with
  | nil =>
      cases one
      cases two
      exact .nil
  | cons phase rest ih =>
      unfold recalculatePhases at one two
      obtain ⟨firstResult, firstStep, one⟩ := bind_eq_ok_iff.mp one
      obtain ⟨firstRest, firstLoop, one⟩ := bind_eq_ok_iff.mp one
      obtain ⟨secondResult, secondStep, two⟩ := bind_eq_ok_iff.mp two
      obtain ⟨secondRest, secondLoop, two⟩ := bind_eq_ok_iff.mp two
      cases one
      cases two
      obtain ⟨same, notEarlier⟩ := recalculatePhase_mono delays dates firstStep secondStep
      rw [same] at firstLoop
      exact .cons notEarlier (ih (NeverEarlier.set dates notEarlier.finish) firstLoop secondLoop)

end RecalculationContext

/-- With more or later deliveries no phase and not the completion of a recalculation is earlier. -/
theorem recalculate_monotone (sha256 : String → String) (interpreter : Interpreter)
    (schedule : Schedule) (assignments : List CrewAssignment) (availability : List CrewAvailability)
    (first second : List MaterialDelivery) (payload : List (String × Json)) (early late : Schedule)
    (delays : Delays first second)
    (one : recalculate sha256 interpreter schedule ⟨assignments, availability, first⟩ payload =
      .ok early)
    (two : recalculate sha256 interpreter schedule ⟨assignments, availability, second⟩ payload =
      .ok late) :
    List.Forall₂ RecalculationContext.NotEarlier early.phases late.phases ∧
      early.projectedCompletionDate ≤ late.projectedCompletionDate := by
  unfold recalculate at one two
  dsimp only at one two
  split at one
  · cases one
  rename_i valid
  rw [if_neg valid] at two
  obtain ⟨conflicts, found, one⟩ := bind_eq_ok_iff.mp one
  obtain ⟨others, again, two⟩ := bind_eq_ok_iff.mp two
  rw [found, Except.ok.injEq] at again
  subst again
  obtain ⟨firstResults, firstLoop, one⟩ := bind_eq_ok_iff.mp one
  obtain ⟨secondResults, secondLoop, two⟩ := bind_eq_ok_iff.mp two
  cases one
  cases two
  have same : NeverEarlier Dict.empty Dict.empty := by
    intro phaseId before after present
    cases present
  have notEarlier := RecalculationContext.recalculatePhases_mono delays same firstLoop secondLoop
  exact ⟨notEarlier, latestEnd_mono notEarlier schedule.startDate⟩

/-- Quantities that are floats already. -/
def plainQuantities : Quantities where
  read
    | .float value => .ok value
    | _ => .error (.typeError "float() argument must be a string or a real number")
  isPositive value := value.text.toList.head? ≠ some '-' ∧ value.text ≠ "0.0"

/-- Cabinets that are required and expected on the same day. -/
def punctualPayload : List (String × Json) := [
  ("material", .str "cabinets"),
  ("quantity", .float ⟨"4.0", Eq.refl true⟩),
  ("unit", .str "pieces"),
  ("required_date", .str "2026-01-20")]

def punctualDelivery (phaseId : String) : Except PyError MaterialDelivery :=
  DeliveryService.create plainInterpreter plainQuantities id "tenant-1" "job-1" "schedule-1" phaseId
    punctualPayload

/-- A delivery for the second phase moves its plan without deliveries. -/
theorem recalculate_monotone_second :
    ∃ created delivery early late,
      create plainInterpreter id "tenant-1" twoPhaseJob [] = .ok created ∧
      punctualDelivery "phase-02" = .ok delivery ∧
      recalculate id plainInterpreter created ⟨[], [], []⟩ [] = .ok early ∧
      recalculate id plainInterpreter created ⟨[], [], [delivery]⟩ [] = .ok late ∧
      List.Forall₂ RecalculationContext.NotEarlier early.phases late.phases ∧
      early.projectedCompletionDate ≤ late.projectedCompletionDate := by
  have none (second : List MaterialDelivery) : Delays [] second := by
    intro early member
    cases member
  obtain ⟨created, delivery, early, late, creates, accepted, one, two⟩ :
      ∃ created delivery early late,
        create plainInterpreter id "tenant-1" twoPhaseJob [] = .ok created ∧
        punctualDelivery "phase-02" = .ok delivery ∧
        recalculate id plainInterpreter created ⟨[], [], []⟩ [] = .ok early ∧
        recalculate id plainInterpreter created ⟨[], [], [delivery]⟩ [] = .ok late :=
    ⟨_, _, _, _, rfl, rfl, rfl, rfl⟩
  exact ⟨created, delivery, early, late, creates, accepted, one, two,
    recalculate_monotone id plainInterpreter created [] [] [] [delivery] [] early late (none _) one
      two⟩

open Sorting

/-- The same records in another order, where equal ids are equal records. -/
structure Reordered (first second : RecalculationInputs) : Prop where
  assignments : first.assignments.Perm second.assignments
  availability : first.availability.Perm second.availability
  deliveries : first.deliveries.Perm second.deliveries
  assignmentIds : (first.assignments.map CrewAssignment.assignmentId).Nodup
  availabilityIds : (first.availability.map CrewAvailability.availabilityId).Nodup
  deliveryIds : (first.deliveries.map MaterialDelivery.deliveryId).Nodup

variable {first second : RecalculationInputs}

theorem Reordered.symm (reordered : Reordered first second) : Reordered second first where
  assignments := reordered.assignments.symm
  availability := reordered.availability.symm
  deliveries := reordered.deliveries.symm
  assignmentIds := (reordered.assignments.map _).nodup_iff.mp reordered.assignmentIds
  availabilityIds := (reordered.availability.map _).nodup_iff.mp reordered.availabilityIds
  deliveryIds := (reordered.deliveries.map _).nodup_iff.mp reordered.deliveryIds

/-- Selected items with distinct keys have one sorted list. -/
theorem sortedBy_filter_perm {Item Key : Type} [LinearOrder Key] (key : Item → Key)
    (keep : Item → Bool) {first second : List Item} (perm : first.Perm second)
    (distinct : (first.map key).Nodup) :
    sortedBy key (first.filter keep) = sortedBy key (second.filter keep) := by
  apply sortedBy_eq_of_perm key _ _ (perm.filter keep)
  exact distinct.sublist (List.filter_sublist.map key)

section Conflicts

variable {sha256 : String → String} {scheduleId : String} {assignment : CrewAssignment}

/-- The records that take a crew away are records of the availability. -/
theorem unavailable_sublist {availability : List CrewAvailability}
    {found : List (Option CrewAvailability)}
    (returned : availability.mapM (isUnavailable assignment) = .ok found) :
    (found.filterMap id).Sublist availability := by
  induction availability generalizing found with
  | nil =>
      cases returned
      exact .slnil
  | cons record rest ih =>
      rw [List.mapM_cons] at returned
      obtain ⟨head, listed, returned⟩ := bind_eq_ok_iff.mp returned
      obtain ⟨tail, later, returned⟩ := bind_eq_ok_iff.mp returned
      cases returned
      have own : head = none ∨ head = some record := by
        unfold isUnavailable at listed
        split at listed
        · obtain ⟨meets, _, listed⟩ := bind_eq_ok_iff.mp listed
          cases listed
          cases meets
          · exact .inl rfl
          · exact .inr rfl
        · cases listed
          exact .inl rfl
      rcases own with rfl | rfl
      · exact (ih later).cons record
      · exact (ih later).cons_cons record

variable {conflicts : List ScheduleConflict}

/-- The conflicts of an assignment do not depend on the order of the availability. -/
theorem unavailableConflicts_perm {first second : List CrewAvailability} (perm : first.Perm second)
    (distinct : (first.map CrewAvailability.availabilityId).Nodup)
    (returned : unavailableConflicts sha256 scheduleId first assignment = .ok conflicts) :
    unavailableConflicts sha256 scheduleId second assignment = .ok conflicts := by
  unfold unavailableConflicts at returned ⊢
  split at returned
  · rename_i other
    rw [if_pos other]
    exact returned
  · rename_i own
    rw [if_neg own]
    obtain ⟨found, listed, returned⟩ := bind_eq_ok_iff.mp returned
    obtain ⟨moved, again, same⟩ := Comprehension.mapM_perm perm listed
    have sorted : sortedBy CrewAvailability.availabilityId (found.filterMap id) =
        sortedBy CrewAvailability.availabilityId (moved.filterMap id) := by
      apply sortedBy_eq_of_perm _ _ _ (same.filterMap id)
      exact distinct.sublist ((unavailable_sublist listed).map _)
    rw [again]
    rw [sorted] at returned
    exact returned

/-- The conflicts of a schedule do not depend on the order of the records. -/
theorem crewConflicts_reordered {first second : RecalculationInputs}
    (reordered : Reordered first second)
    (returned : crewConflicts sha256 scheduleId first.assignments first.availability =
      .ok conflicts) :
    crewConflicts sha256 scheduleId second.assignments second.availability = .ok conflicts := by
  unfold crewConflicts at returned ⊢
  dsimp only at returned ⊢
  rw [sortedBy_filter_perm CrewAssignment.assignmentId _ reordered.assignments
    reordered.assignmentIds] at returned
  obtain ⟨overlapping, overlapped, returned⟩ := bind_eq_ok_iff.mp returned
  obtain ⟨unavailable, found, returned⟩ := bind_eq_ok_iff.mp returned
  have again := Comprehension.mapM_of_returns (fun assignment _ conflicts listed =>
    unavailableConflicts_perm reordered.availability reordered.availabilityIds listed) found
  rw [overlapped, again]
  exact returned

end Conflicts

namespace RecalculationContext

variable {sha256 : String → String} {schedule : Schedule} {first second : RecalculationInputs}
  {conflicts : List ScheduleConflict}

section

variable (reordered : Reordered first second)
include reordered

theorem phaseDeliveries_reordered :
    phaseDeliveries first.deliveries = phaseDeliveries second.deliveries := by
  funext phaseId
  exact sortedBy_filter_perm MaterialDelivery.deliveryId _ reordered.deliveries
    reordered.deliveryIds

theorem recalculatedPhase_reordered :
    recalculatedPhase ⟨schedule, first, conflicts⟩ =
      recalculatedPhase ⟨schedule, second, conflicts⟩ := by
  funext phase phaseStart phaseEnd blocked
  unfold recalculatedPhase
  dsimp only
  rw [phaseDeliveries_reordered reordered, sortedBy_filter_perm CrewAssignment.assignmentId _
    reordered.assignments reordered.assignmentIds]

theorem recalculatePhase_reordered :
    recalculatePhase sha256 ⟨schedule, first, conflicts⟩ =
      recalculatePhase sha256 ⟨schedule, second, conflicts⟩ := by
  have impacts : phaseImpact sha256 ⟨schedule, first, conflicts⟩ =
      phaseImpact sha256 ⟨schedule, second, conflicts⟩ := by
    funext phase delay baselineEnd phaseEnd
    unfold phaseImpact delaySource
    dsimp only
    rw [phaseDeliveries_reordered reordered]
    rfl
  funext baseline dates phase
  unfold recalculatePhase
  dsimp only
  rw [phaseDeliveries_reordered reordered, recalculatedPhase_reordered reordered, impacts]
  rfl

theorem recalculatePhases_reordered (phases : List SchedulePhase) (baseline dates : PhaseDates) :
    recalculatePhases sha256 ⟨schedule, first, conflicts⟩ phases baseline dates =
      recalculatePhases sha256 ⟨schedule, second, conflicts⟩ phases baseline dates := by
  induction phases generalizing baseline dates with
  | nil => rfl
  | cons phase rest ih =>
      unfold recalculatePhases
      rw [recalculatePhase_reordered reordered]
      congr 1
      funext result
      rw [ih]

end

end RecalculationContext

/-- A recalculation that returns, returns the same schedule for reordered records. -/
theorem recalculate_of_reordered {sha256 : String → String} {interpreter : Interpreter}
    {schedule result : Schedule}
    {payload : List (String × Json)} (reordered : Reordered first second)
    (returned : recalculate sha256 interpreter schedule first payload = .ok result) :
    recalculate sha256 interpreter schedule second payload = .ok result := by
  unfold recalculate at returned ⊢
  dsimp only at returned ⊢
  split at returned
  · cases returned
  rename_i valid
  rw [if_neg valid]
  obtain ⟨conflicts, found, returned⟩ := bind_eq_ok_iff.mp returned
  rw [RecalculationContext.recalculatePhases_reordered reordered] at returned
  rw [crewConflicts_reordered reordered found]
  exact returned

/-- The order of the assignments, the availability and the deliveries does not matter. -/
theorem recalculate_reordered (sha256 : String → String) (interpreter : Interpreter)
    (schedule : Schedule) (first second : RecalculationInputs) (payload : List (String × Json))
    (reordered : Reordered first second) (result : Schedule) :
    recalculate sha256 interpreter schedule first payload = .ok result ↔
      recalculate sha256 interpreter schedule second payload = .ok result :=
  ⟨recalculate_of_reordered reordered, recalculate_of_reordered reordered.symm⟩

section Example

/-- Two assignments of one crew that meet and two deliveries. -/
def crowdedInputs (scheduleId : String) : RecalculationInputs where
  assignments := [⟨"assignment-1", "crew-1", scheduleId, "phase-01", "2026-01-05", "2026-01-07",
      "assigned"⟩,
    ⟨"assignment-2", "crew-1", scheduleId, "phase-02", "2026-01-07", "2026-01-09", "assigned"⟩]
  availability := []
  deliveries := [⟨"delivery-1", "phase-02", "2026-01-08", "2026-01-11", "", "delayed"⟩,
    ⟨"delivery-2", "phase-02", "2026-01-08", "2026-01-12", "", "delayed"⟩]

/-- The same records from the last to the first. -/
def reversedInputs (inputs : RecalculationInputs) : RecalculationInputs :=
  ⟨inputs.assignments.reverse, inputs.availability.reverse, inputs.deliveries.reverse⟩

/-- The records of a schedule can be read from the last to the first. -/
theorem recalculate_reordered_reversed :
    ∃ created result, create plainInterpreter id "tenant-1" twoPhaseJob [] = .ok created ∧
      recalculate id plainInterpreter created (crowdedInputs created.scheduleId) [] = .ok result ∧
      recalculate id plainInterpreter created
        (reversedInputs (crowdedInputs created.scheduleId)) [] = .ok result := by
  have reordered (scheduleId : String) :
      Reordered (crowdedInputs scheduleId) (reversedInputs (crowdedInputs scheduleId)) := by
    constructor
    · exact (List.reverse_perm _).symm
    · exact (List.reverse_perm _).symm
    · exact (List.reverse_perm _).symm
    · show ["assignment-1", "assignment-2"].Nodup
      decide
    · exact List.nodup_nil
    · show ["delivery-1", "delivery-2"].Nodup
      decide
  have returns : ((create plainInterpreter id "tenant-1" twoPhaseJob []).toOption.bind
      fun created => (recalculate id plainInterpreter created
        (crowdedInputs created.scheduleId) []).toOption).isSome = true := by
    simp only [create, createdSchedule, recalculate, crewConflicts, overlapConflict, newConflict,
      digestPrefix_id]
    decide +kernel
  obtain ⟨result, found⟩ := Option.isSome_iff_exists.mp returns
  obtain ⟨created, creates, returned⟩ := Option.bind_eq_some_iff.mp found
  rw [toOption_eq_some_iff] at creates returned
  exact ⟨created, result, creates, returned,
    (recalculate_reordered id plainInterpreter created _ _ [] (reordered _) result).mp returned⟩

end Example

end AgentFabric.Renovation
