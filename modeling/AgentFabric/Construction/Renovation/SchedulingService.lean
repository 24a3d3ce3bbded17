import AgentFabric.Construction.Renovation.Schedule
import AgentFabric.Foundation.Precedence
import AgentFabric.Foundation.PyCoercion

namespace AgentFabric.Renovation
open Sorting Precedence

def dependencyTypes : List String := ["finish_to_start"]

def scheduleStatuses : List String := ["planned", "active", "delayed", "completed", "cancelled"]

/-- The value of a payload key or its default. -/
def payloadGet (payload : List (String × Json)) (key : String) (default : Json) : Json :=
  ((Json.obj payload).field? key).getD default

section Dependencies

variable (interpreter : Interpreter)

/-- One dependency of a payload, whose type and lag have defaults. -/
def readDependency (item : Json) : Except PyError PhaseDependency := do
  let predecessor ← Interpreter.subscript item "predecessor_phase_id"
  let successor ← Interpreter.subscript item "successor_phase_id"
  let dependencyType := (item.field? "dependency_type").getD (.str "finish_to_start")
  let lagDays ← interpreter.int ((item.field? "lag_days").getD (.int 0))
  .ok {
    predecessorPhaseId := interpreter.str predecessor
    successorPhaseId := interpreter.str successor
    dependencyType := interpreter.str dependencyType
    lagDays := lagDays }

/-- Phases are ordered by their sequence and then by their id. -/
def phaseKey (phase : JobPhase) : Int ×ₗ String := toLex (phase.sequence, phase.phaseId)

variable (job : Job)

/-- Without explicit dependencies each phase follows the one before it. -/
def chainedDependencies : List PhaseDependency :=
  let ordered := sortedBy phaseKey job.phases
  (ordered.zip ordered.tail).map fun (first, second) => {
    predecessorPhaseId := first.phaseId
    successorPhaseId := second.phaseId
    dependencyType := "finish_to_start"
    lagDays := 0 }

def checkDependency (phaseIds : List String) (dependency : PhaseDependency) : Except PyError Unit :=
  if dependency.predecessorPhaseId ∉ phaseIds ∨ dependency.successorPhaseId ∉ phaseIds then
    .error (.valueError "schedule dependency references an unknown phase")
  else if dependency.predecessorPhaseId = dependency.successorPhaseId then
    .error (.valueError "schedule phase cannot depend on itself")
  else if dependency.dependencyType ∉ dependencyTypes ∨ dependency.lagDays < 0 then
    .error (.valueError "invalid schedule dependency")
  else .ok ()

def dependencyKey (dependency : PhaseDependency) : String ×ₗ (String ×ₗ Int) :=
  toLex (dependency.successorPhaseId, toLex (dependency.predecessorPhaseId, dependency.lagDays))

variable (payload : List (String × Json))

/-- The dependencies of the payload or, without the key, of the job. -/
def givenDependencies : Except PyError (List PhaseDependency) :=
  match (Json.obj payload).field? "dependencies" with
  | some value => do (← Interpreter.iterate value).mapM (readDependency interpreter)
  | none => .ok (chainedDependencies job)

/-- The validated dependencies in the order of their key. -/
def dependencies : Except PyError (List PhaseDependency) := do
  let dependencies ← givenDependencies interpreter job payload
  dependencies.forM (checkDependency (job.phases.map JobPhase.phaseId))
  .ok (sortedBy dependencyKey dependencies)

/-- The duration overrides of a payload. -/
def phaseDurations : Except PyError (Dict String Int) := do
  let items ← interpreter.dict (payloadGet payload "phase_durations" (.obj []))
  items.foldlM (fun durations item => do
    .ok (durations.set (interpreter.str item.1) (← interpreter.int item.2))) Dict.empty

end Dependencies

section Order

/-- The phases under their ids. -/
def phasesById (job : Job) : Dict String JobPhase :=
  job.phases.foldl (fun phases phase => phases.set phase.phaseId phase) Dict.empty

def dependencyEdges (dependencies : List PhaseDependency) : List (String × String) :=
  dependencies.map fun dependency => (dependency.predecessorPhaseId, dependency.successorPhaseId)

def cycleError : PyError := .valueError "schedule dependency graph contains a cycle"

/-- The phases in an order that follows the dependencies. -/
def orderedPhases (job : Job) (dependencies : List PhaseDependency) :
    Except PyError (List JobPhase) :=
  let phases := phasesById job
  let key := fun phaseId : String =>
    toLex (((phases.get? phaseId).map JobPhase.sequence).getD 0, phaseId)
  let ordered := (topologicalOrder (dependencyEdges dependencies) key
    (phases.items.map Prod.fst)).filterMap phases.get?
  if ordered.length ≠ phases.items.length then .error cycleError else .ok ordered

end Order

section Plan

/-- The first and last day of the phases that are planned so far. -/
abbrev PhaseDates := Dict String (Date × Date)

def predecessors (dependencies : List PhaseDependency) (phaseId : String) : List PhaseDependency :=
  dependencies.filter fun dependency => dependency.successorPhaseId = phaseId

/-- The dates of a phase that has to be planned. -/
def datesOf (dates : PhaseDates) (phaseId : String) : Except PyError (Date × Date) :=
  match dates.get? phaseId with
  | none => .error (.keyError phaseId)
  | some found => .ok found

/-- The start moves behind the end of each predecessor and its lag. -/
def afterPredecessors (dates : PhaseDates) (start : Date) :
    List PhaseDependency → Except PyError Date
  | [] => .ok start
  | dependency :: rest => do
      let predecessor ← datesOf dates dependency.predecessorPhaseId
      let earliest ← predecessor.2.addDays (1 + dependency.lagDays)
      afterPredecessors dates (max start earliest) rest

/-- The loop plans each phase behind the phases before it. -/
def planPhases (start : Date) (durations : Dict String Int) (dependencies : List PhaseDependency) :
    List JobPhase → PhaseDates → Except PyError (List SchedulePhase)
  | [], _ => .ok []
  | phase :: rest, dates => do
      let duration := durations.getD phase.phaseId phase.durationDays
      if duration ≤ 0 then .error (.valueError "schedule phase duration must be positive")
      else do
        let phaseStart ← afterPredecessors dates start (predecessors dependencies phase.phaseId)
        let phaseEnd ← phaseStart.addDays (duration - 1)
        let later ← planPhases start durations dependencies rest
          (dates.set phase.phaseId (phaseStart, phaseEnd))
        .ok ({
          phaseId := phase.phaseId
          name := phase.name
          sequence := phase.sequence
          durationDays := duration
          plannedStart := phaseStart
          plannedEnd := phaseEnd
          status := phase.status
          crewAssignmentIds := []
          deliveryIds := []
          blockedReasons := [] } :: later)

/-- The latest end of the phases, or the default without a phase. -/
def latestEnd (phases : List SchedulePhase) (default : Date) : Date :=
  match phases.map SchedulePhase.plannedEnd with
  | [] => default
  | first :: rest => rest.foldl max first

end Plan

section Create

variable (interpreter : Interpreter) (sha256 : String → String)

/-- The checked inputs of a schedule. -/
structure CreateInputs where
  start : Date
  status : String
  durations : Dict String Int
  dependencies : List PhaseDependency

/-- The checks of a payload up to the order of the phases. -/
def createInputs (tenantId : String) (job : Job) (payload : List (String × Json)) :
    Except PyError CreateInputs :=
  if job.tenantId ≠ tenantId then .error (.permissionError "cross-tenant job access denied")
  else do
    let start ← Date.fromisoformat
      (interpreter.str (payloadGet payload "start_date" (.str job.acceptedDate)))
    let status := interpreter.str (payloadGet payload "status" (.str "planned"))
    if status ∉ scheduleStatuses then .error (.valueError "invalid schedule status")
    else do
      let durations ← phaseDurations interpreter payload
      if ∃ phaseId ∈ durations.items.map Prod.fst, phaseId ∉ job.phases.map JobPhase.phaseId then
        .error (.valueError "schedule duration override references an unknown phase")
      else do
        let dependencies ← dependencies interpreter job payload
        .ok ⟨start, status, durations, dependencies⟩

variable (tenantId jobId : String)

/-- The identity of a schedule names its inputs. -/
def scheduleIdentity (start : Date) (phases : List SchedulePhase)
    (dependencies : List PhaseDependency) : Json := .obj [
  ("tenant_id", .str tenantId),
  ("job_id", .str jobId),
  ("start_date", .str start.isoformat),
  ("phases", .arr (phases.map fun phase => .obj [
    ("phase_id", .str phase.phaseId),
    ("duration_days", .int phase.durationDays)])),
  ("dependencies", .arr (dependencies.map PhaseDependency.asDict))]

def createdSchedule (inputs : CreateInputs) (phases : List SchedulePhase) : Schedule :=
  let completion := latestEnd phases inputs.start
  sealed sha256 {
    scheduleId := "schedule-" ++ digestPrefix sha256 20
      (scheduleIdentity tenantId jobId inputs.start phases inputs.dependencies)
    tenantId := tenantId
    jobId := jobId
    startDate := inputs.start
    originalCompletionDate := completion
    projectedCompletionDate := completion
    status := inputs.status
    revision := 1
    phases := phases
    dependencies := inputs.dependencies
    conflicts := []
    delayImpacts := []
    scheduleHash := "" }

def create (tenantId : String) (job : Job) (payload : List (String × Json)) :
    Except PyError Schedule := do
  let inputs ← createInputs interpreter tenantId job payload
  let ordered ← orderedPhases job inputs.dependencies
  let phases ← planPhases inputs.start inputs.durations inputs.dependencies ordered Dict.empty
  .ok (createdSchedule sha256 tenantId job.jobId inputs phases)

end Create

/-- Two closed date ranges meet, where the second comparison is only made after the first. -/
def overlaps (firstStart firstEnd secondStart secondEnd : String) : Except PyError Bool := do
  let start ← Date.fromisoformat firstStart
  let finish ← Date.fromisoformat secondEnd
  if start ≤ finish then do
    let start ← Date.fromisoformat secondStart
    let finish ← Date.fromisoformat firstEnd
    .ok (decide (start ≤ finish))
  else .ok false

variable (sha256 : String → String)

/-- The id of a conflict covers its other fields. -/
def newConflict (conflictType phaseId referenceId description : String) : ScheduleConflict where
  conflictId := "conflict-" ++ digestPrefix sha256 20 (.obj [
    ("conflict_type", .str conflictType),
    ("phase_id", .str phaseId),
    ("reference_id", .str referenceId),
    ("description", .str description)])
  conflictType := conflictType
  severity := "high"
  phaseId := phaseId
  referenceId := referenceId
  description := description

/-- Every item with each item after it. -/
def laterPairs {Item : Type} : List Item → List (Item × Item)
  | [] => []
  | first :: rest => rest.map (fun second => (first, second)) ++ laterPairs rest

variable (scheduleId : String)

/-- Two assignments of one crew that meet, of which one belongs to the schedule. -/
def overlapConflict (first second : CrewAssignment) : Except PyError (Option ScheduleConflict) :=
  if first.crewId = second.crewId ∧ first.assignmentId ≠ second.assignmentId ∧
      (scheduleId = first.scheduleId ∨ scheduleId = second.scheduleId) then do
    let meets ← overlaps first.startDate first.endDate second.startDate second.endDate
    .ok (if meets then some (newConflict sha256 "crew_overlap"
        (if first.scheduleId = scheduleId then first.phaseId else second.phaseId)
        (if first.scheduleId = scheduleId then second.assignmentId else first.assignmentId)
        ("Crew " ++ first.crewId ++ " has overlapping assignments."))
      else none)
  else .ok none

/-- A record that takes the crew of an assignment away during the assignment. -/
def isUnavailable (assignment : CrewAssignment) (record : CrewAvailability) :
    Except PyError (Option CrewAvailability) :=
  if record.crewId = assignment.crewId ∧ record.status ∈ ["unavailable", "limited"] then do
    let meets ← overlaps assignment.startDate assignment.endDate record.startDate record.endDate
    .ok (if meets then some record else none)
  else .ok none

def unavailableConflicts (availability : List CrewAvailability)
    (assignment : CrewAssignment) : Except PyError (List ScheduleConflict) :=
  if assignment.scheduleId ≠ scheduleId then .ok []
  else do
    let unavailable ← availability.mapM (isUnavailable assignment)
    .ok ((sortedBy CrewAvailability.availabilityId (unavailable.filterMap id)).map fun record =>
      newConflict sha256 "crew_unavailable" assignment.phaseId record.availabilityId
        ("Crew " ++ assignment.crewId ++ " is " ++ record.status ++ " during the assignment."))

/-- The conflicts of a schedule under their ids, in the order of the ids. -/
def crewConflicts (assignments : List CrewAssignment)
    (availability : List CrewAvailability) : Except PyError (List ScheduleConflict) := do
  let active := sortedBy CrewAssignment.assignmentId
    (assignments.filter fun assignment => assignment.status ≠ "cancelled")
  let overlapping ← (laterPairs active).mapM fun pair =>
    overlapConflict sha256 scheduleId pair.1 pair.2
  let unavailable ← active.mapM (unavailableConflicts sha256 scheduleId availability)
  let unique := (overlapping.filterMap id ++ unavailable.flatten).foldl
    (fun unique conflict => unique.set conflict.conflictId conflict) Dict.empty
  .ok ((sortedBy Prod.fst unique.items).map Prod.snd)

end AgentFabric.Renovation

namespace AgentFabric.Renovation
open Sorting

/-- The records that a recalculation reads. -/
structure RecalculationInputs where
  assignments : List CrewAssignment
  availability : List CrewAvailability
  deliveries : List MaterialDelivery

section Deliveries

/-- The actual date of a delivery or, without one, the expected date. -/
def deliveryEffectiveDate (delivery : MaterialDelivery) : Except PyError Date :=
  Date.fromisoformat
    (if delivery.actualDate ≠ "" then delivery.actualDate else delivery.expectedDate)

/-- The reasons, the delay and the start of a phase while its deliveries are read. -/
structure DeliveryState where
  blocked : List String
  delay : Int
  start : Date

def applyDelivery (state : DeliveryState) (delivery : MaterialDelivery) :
    Except PyError DeliveryState := do
  let effective ← deliveryEffectiveDate delivery
  let required ← Date.fromisoformat delivery.requiredDate
  let lateDays := max 0 (effective.daysSince required)
  if delivery.status ∈ ["delayed", "cancelled"] ∨ lateDays ≠ 0 then
    .ok {
      blocked := state.blocked ++
        ["material delivery " ++ delivery.deliveryId ++ " is " ++ delivery.status]
      delay := max state.delay (if lateDays ≠ 0 then lateDays else 1)
      start := max state.start effective }
  else .ok { state with start := max state.start effective }

/-- The deliveries of a phase in the order of their ids. -/
def phaseDeliveries (deliveries : List MaterialDelivery) (phaseId : String) :
    List MaterialDelivery :=
  sortedBy MaterialDelivery.deliveryId
    (deliveries.filter fun delivery => delivery.phaseId = phaseId)

end Deliveries

variable (sha256 : String → String)

/-- What the loop reads besides the phases. -/
structure RecalculationContext where
  schedule : Schedule
  inputs : RecalculationInputs
  conflicts : List ScheduleConflict

/-- The dates of a phase in both plans, its new record and its delay. -/
structure PhaseResult where
  baseline : Date × Date
  phase : SchedulePhase
  impact : Option DelayImpact

namespace RecalculationContext

variable (context : RecalculationContext)

def phaseConflicts (phaseId : String) : List ScheduleConflict :=
  context.conflicts.filter fun conflict => conflict.phaseId = phaseId

/-- The kind and the id of what delays a phase. -/
def delaySource (phaseId : String) (delay : Int) : Except PyError (String × String) :=
  if delay ≠ 0 then
    match phaseDeliveries context.inputs.deliveries phaseId with
    | [] => .error (.keyError phaseId)
    | delivery :: _ => .ok ("delivery", delivery.deliveryId)
  else
    match sortedBy ScheduleConflict.conflictId (context.phaseConflicts phaseId) with
    | conflict :: _ => .ok ("crew", conflict.referenceId)
    | [] =>
        match sortedBy PhaseDependency.predecessorPhaseId
            (predecessors context.schedule.dependencies phaseId) with
        | [] => .error (.indexError "list index out of range")
        | dependency :: _ => .ok ("dependency", dependency.predecessorPhaseId)

variable (phase : SchedulePhase)

def delayImpact (source : String × String) (delayDays : Int) (phaseEnd : Date) : DelayImpact where
  delayId := "delay-" ++ digestPrefix sha256 20 (.obj [
    ("schedule_id", .str context.schedule.scheduleId),
    ("phase_id", .str phase.phaseId),
    ("source_type", .str source.1),
    ("source_id", .str source.2),
    ("delay_days", .int delayDays),
    ("revision", .int (context.schedule.revision + 1))])
  scheduleId := context.schedule.scheduleId
  sourceType := source.1
  sourceId := source.2
  phaseId := phase.phaseId
  delayDays := delayDays
  originalCompletionDate := context.schedule.originalCompletionDate
  projectedCompletionDate := phaseEnd
  summary := phase.name ++ " is projected " ++ toString delayDays ++
    " day(s) later because of " ++ source.1 ++ " constraints."

/-- The delay of a phase is reported when it ends later than in the baseline. -/
def phaseImpact (delay : Int) (baselineEnd phaseEnd : Date) : Except PyError (Option DelayImpact) :=
  let delayDays := max 0 (phaseEnd.daysSince baselineEnd)
  if delayDays ≠ 0 then do
    let source ← context.delaySource phase.phaseId delay
    .ok (some (context.delayImpact sha256 phase source delayDays phaseEnd))
  else .ok none

/-- Each conflict of a phase moves it by one day. -/
def afterConflicts (start : Date) (conflicts : List ScheduleConflict) : Except PyError Date :=
  if conflicts ≠ [] then start.addDays conflicts.length else .ok start

/-- The new record of a phase. -/
def recalculatedPhase (phaseStart phaseEnd : Date) (blocked : List String) : SchedulePhase :=
  { phase with
    plannedStart := phaseStart
    plannedEnd := phaseEnd
    status := if blocked ≠ [] then "blocked" else phase.status
    crewAssignmentIds := (sortedBy CrewAssignment.assignmentId
      (context.inputs.assignments.filter fun assignment =>
        assignment.scheduleId = context.schedule.scheduleId ∧
          assignment.phaseId = phase.phaseId)).map CrewAssignment.assignmentId
    deliveryIds := (phaseDeliveries context.inputs.deliveries phase.phaseId).map
      MaterialDelivery.deliveryId
    blockedReasons := sortedBy id blocked.dedup }

/-- One phase is placed in the baseline and in the projection. -/
def recalculatePhase (baseline dates : PhaseDates) (phase : SchedulePhase) :
    Except PyError PhaseResult := do
  let waits := predecessors context.schedule.dependencies phase.phaseId
  let baselineStart ← afterPredecessors baseline context.schedule.startDate waits
  let baselineEnd ← baselineStart.addDays (phase.durationDays - 1)
  let phaseStart ← afterPredecessors dates baselineStart waits
  let delivered ← (phaseDeliveries context.inputs.deliveries phase.phaseId).foldlM applyDelivery
    ⟨[], 0, phaseStart⟩
  let conflicts := context.phaseConflicts phase.phaseId
  let phaseStart ← afterConflicts delivered.start conflicts
  let blocked := delivered.blocked ++ conflicts.map ScheduleConflict.description
  let phaseEnd ← phaseStart.addDays (phase.durationDays - 1)
  let impact ← context.phaseImpact sha256 phase delivered.delay baselineEnd phaseEnd
  .ok {
    baseline := (baselineStart, baselineEnd)
    phase := context.recalculatedPhase phase phaseStart phaseEnd blocked
    impact := impact }

/-- The loop carries the dates of both plans. -/
def recalculatePhases : List SchedulePhase → PhaseDates → PhaseDates →
    Except PyError (List PhaseResult)
  | [], _, _ => .ok []
  | phase :: rest, baseline, dates => do
      let result ← context.recalculatePhase sha256 baseline dates phase
      let later ← recalculatePhases rest (baseline.set phase.phaseId result.baseline)
        (dates.set phase.phaseId (result.phase.plannedStart, result.phase.plannedEnd))
      .ok (result :: later)

/-- The next revision of the schedule. -/
def recalculatedSchedule (status : String) (results : List PhaseResult) : Schedule :=
  let phases := results.map PhaseResult.phase
  let completion := latestEnd phases context.schedule.startDate
  sealed sha256 { context.schedule with
    projectedCompletionDate := completion
    status := if completion > context.schedule.originalCompletionDate then "delayed" else status
    revision := context.schedule.revision + 1
    phases := phases
    conflicts := context.conflicts
    delayImpacts := (results.filterMap PhaseResult.impact).map fun impact =>
      { impact with projectedCompletionDate := completion }
    scheduleHash := "" }

end RecalculationContext

def recalculate (interpreter : Interpreter) (schedule : Schedule) (inputs : RecalculationInputs)
    (payload : List (String × Json)) : Except PyError Schedule :=
  let status := interpreter.str (payloadGet payload "status" (.str schedule.status))
  if status ∉ scheduleStatuses then .error (.valueError "invalid schedule status")
  else do
    let conflicts ← crewConflicts sha256 schedule.scheduleId inputs.assignments inputs.availability
    let context : RecalculationContext := ⟨schedule, inputs, conflicts⟩
    let results ← context.recalculatePhases sha256 schedule.phases Dict.empty Dict.empty
    .ok (context.recalculatedSchedule sha256 status results)

end AgentFabric.Renovation

namespace AgentFabric.Renovation

variable (interpreter : Interpreter) (payload : List (String × Json))

/-- The text of a payload value that the payload has to have. -/
def payloadText (key : String) :
    Except PyError String := do
  .ok (interpreter.str (← Interpreter.subscript (.obj payload) key))

/-- The text of a payload value or its default. -/
def payloadTextOr (key default : String) : String :=
  interpreter.str (payloadGet payload key (.str default))

/-- What `float` reads from a payload value and whether the float is positive. -/
structure Quantities where
  read : Json → Except PyError FloatRepr
  isPositive : FloatRepr → Bool

namespace DeliveryService

def deliveryStatuses : List String :=
  ["planned", "ordered", "in_transit", "delivered", "delayed", "cancelled"]

/-- An actual date is empty or a date. -/
def checkActual (actual : String) : Except PyError Unit :=
  if actual ≠ "" then do
    let _ ← Date.fromisoformat actual
    .ok ()
  else .ok ()

variable (interpreter : Interpreter) (quantities : Quantities) (sha256 : String → String)

/-- The text of a payload value without the spaces at its ends. -/
def stripped (text : String) : String := String.ofList (PyText.strip text.toList)

/-- The material, the quantity and the unit of a delivery. -/
def goods (payload : List (String × Json)) : Except PyError (String × FloatRepr × String) := do
  let material := stripped (← payloadText interpreter payload "material")
  let quantity ← quantities.read (← Interpreter.subscript (.obj payload) "quantity")
  let unit := stripped (← payloadText interpreter payload "unit")
  .ok (material, quantity, unit)

def create (tenantId jobId scheduleId phaseId : String) (payload : List (String × Json)) :
    Except PyError MaterialDelivery := do
  let (material, quantity, unit) ← goods interpreter quantities payload
  let requiredText ← payloadText interpreter payload "required_date"
  let required ← Date.fromisoformat requiredText
  let expected ← Date.fromisoformat
    (interpreter.str (payloadGet payload "expected_date" (.str requiredText)))
  let actual := stripped (payloadTextOr interpreter payload "actual_date" "")
  checkActual actual
  let status := payloadTextOr interpreter payload "status" "planned"
  if material = "" ∨ unit = "" ∨ quantities.isPositive quantity = false then
    .error (.valueError "delivery material, positive quantity, and unit are required")
  else if status ∉ deliveryStatuses then
    .error (.valueError "invalid material delivery status")
  else .ok {
    deliveryId := "delivery-" ++ digestPrefix sha256 20 (.obj [
      ("tenant_id", .str tenantId),
      ("job_id", .str jobId),
      ("schedule_id", .str scheduleId),
      ("phase_id", .str phaseId),
      ("material", .str material),
      ("quantity", .float quantity),
      ("unit", .str unit),
      ("required_date", .str required.isoformat),
      ("supplier_reference", .str (payloadTextOr interpreter payload "supplier_reference" ""))])
    phaseId := phaseId
    requiredDate := required.isoformat
    expectedDate := expected.isoformat
    actualDate := actual
    status := status }

end DeliveryService

end AgentFabric.Renovation
