import AgentFabric.Foundation.DateTime
import AgentFabric.Foundation.Json

namespace AgentFabric.Renovation

/-- A phase of an accepted job. -/
structure JobPhase where
  phaseId : String
  name : String
  sequence : Int
  durationDays : Int
  status : String

/-- The part of a job that scheduling reads. -/
structure Job where
  jobId : String
  tenantId : String
  acceptedDate : String
  phases : List JobPhase

/-- The successor starts after the end of the predecessor and the lag. -/
structure PhaseDependency where
  predecessorPhaseId : String
  successorPhaseId : String
  dependencyType : String
  lagDays : Int

/-- A planned phase, whose date texts are the isoformat of its dates. -/
structure SchedulePhase where
  phaseId : String
  name : String
  sequence : Int
  durationDays : Int
  plannedStart : Date
  plannedEnd : Date
  status : String
  crewAssignmentIds : List String
  deliveryIds : List String
  blockedReasons : List String

structure ScheduleConflict where
  conflictId : String
  conflictType : String
  severity : String
  phaseId : String
  referenceId : String
  description : String

structure DelayImpact where
  delayId : String
  scheduleId : String
  sourceType : String
  sourceId : String
  phaseId : String
  delayDays : Int
  originalCompletionDate : Date
  projectedCompletionDate : Date
  summary : String

structure Schedule where
  scheduleId : String
  tenantId : String
  jobId : String
  startDate : Date
  originalCompletionDate : Date
  projectedCompletionDate : Date
  status : String
  revision : Int
  phases : List SchedulePhase
  dependencies : List PhaseDependency
  conflicts : List ScheduleConflict
  delayImpacts : List DelayImpact
  scheduleHash : String

/-- A crew assignment with the date texts that its service stored. -/
structure CrewAssignment where
  assignmentId : String
  crewId : String
  scheduleId : String
  phaseId : String
  startDate : String
  endDate : String
  status : String

structure CrewAvailability where
  availabilityId : String
  crewId : String
  startDate : String
  endDate : String
  status : String

structure MaterialDelivery where
  deliveryId : String
  phaseId : String
  requiredDate : String
  expectedDate : String
  actualDate : String
  status : String

def texts (items : List String) : Json := .arr (items.map .str)

namespace PhaseDependency

def asDict (dependency : PhaseDependency) : Json := .obj [
  ("predecessor_phase_id", .str dependency.predecessorPhaseId),
  ("successor_phase_id", .str dependency.successorPhaseId),
  ("dependency_type", .str dependency.dependencyType),
  ("lag_days", .int dependency.lagDays)]

end PhaseDependency

namespace SchedulePhase

def asDict (phase : SchedulePhase) : Json := .obj [
  ("phase_id", .str phase.phaseId),
  ("name", .str phase.name),
  ("sequence", .int phase.sequence),
  ("duration_days", .int phase.durationDays),
  ("planned_start", .str phase.plannedStart.isoformat),
  ("planned_end", .str phase.plannedEnd.isoformat),
  ("status", .str phase.status),
  ("crew_assignment_ids", texts phase.crewAssignmentIds),
  ("delivery_ids", texts phase.deliveryIds),
  ("blocked_reasons", texts phase.blockedReasons)]

end SchedulePhase

namespace ScheduleConflict

def asDict (conflict : ScheduleConflict) : Json := .obj [
  ("conflict_id", .str conflict.conflictId),
  ("conflict_type", .str conflict.conflictType),
  ("severity", .str conflict.severity),
  ("phase_id", .str conflict.phaseId),
  ("reference_id", .str conflict.referenceId),
  ("description", .str conflict.description)]

end ScheduleConflict

namespace DelayImpact

def asDict (impact : DelayImpact) : Json := .obj [
  ("delay_id", .str impact.delayId),
  ("schedule_id", .str impact.scheduleId),
  ("source_type", .str impact.sourceType),
  ("source_id", .str impact.sourceId),
  ("phase_id", .str impact.phaseId),
  ("delay_days", .int impact.delayDays),
  ("original_completion_date", .str impact.originalCompletionDate.isoformat),
  ("projected_completion_date", .str impact.projectedCompletionDate.isoformat),
  ("summary", .str impact.summary)]

end DelayImpact

namespace Schedule

def asDict (schedule : Schedule) : Json := .obj [
  ("schedule_id", .str schedule.scheduleId),
  ("tenant_id", .str schedule.tenantId),
  ("job_id", .str schedule.jobId),
  ("start_date", .str schedule.startDate.isoformat),
  ("original_completion_date", .str schedule.originalCompletionDate.isoformat),
  ("projected_completion_date", .str schedule.projectedCompletionDate.isoformat),
  ("status", .str schedule.status),
  ("revision", .int schedule.revision),
  ("phases", .arr (schedule.phases.map SchedulePhase.asDict)),
  ("dependencies", .arr (schedule.dependencies.map PhaseDependency.asDict)),
  ("conflicts", .arr (schedule.conflicts.map ScheduleConflict.asDict)),
  ("delay_impacts", .arr (schedule.delayImpacts.map DelayImpact.asDict)),
  ("schedule_hash", .str schedule.scheduleHash)]

end Schedule

section Digest

variable (sha256 : String → String)

def digest (value : Json) : String := sha256 value.dumps

/-- The first characters of a digest. -/
def digestPrefix (length : Nat) (value : Json) : String :=
  String.ofList ((digest sha256 value).toList.take length)

theorem digestPrefix_id (length : Nat) (value : Json) :
    digestPrefix id length value = String.ofList (value.sortKeys.render.take length) := by
  rw [digestPrefix, digest, Json.dumps, id, String.toList_ofList]

/-- The hash of a schedule covers its dict with an empty hash. -/
def sealed (schedule : Schedule) : Schedule :=
  { schedule with scheduleHash := digest sha256 { schedule with scheduleHash := "" }.asDict }

end Digest

end AgentFabric.Renovation
