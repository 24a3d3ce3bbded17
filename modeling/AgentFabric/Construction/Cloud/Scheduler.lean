import AgentFabric.Construction.Cloud.Runtime
import AgentFabric.Construction.Cloud.ScheduledJob
import AgentFabric.Construction.Persistence.Store

namespace AgentFabric.Cloud
open Transition Persistence

/-- The scheduler keeps its schedules in the store and submits jobs to the runtime. -/
structure SchedulerService (State : Type) where
  persistence : State
  runtime : CloudRuntime

/-- The generated ids and the clock readings of one trigger call. -/
structure TriggerContext where
  now : DateTime
  jobId : String → String
  createdAt : String → UtcTime
  updatedAt : String → UtcTime
  queuedAt : String → UtcTime
  readAt : UtcTime

/-- The submissions name their schedules, also when the call raises after them. -/
structure TriggerReport where
  submitted : List (String × RuntimeJob)
  outcome : Except PyError Unit

namespace SchedulerService

variable {State : Type} (store : PersistenceStore State)

def initial : SchedulerService State := ⟨store.initial, Dispatcher.initial⟩

/-- The collection of the schedules. -/
def collection : String := "runtime_schedules"

/-- A malformed row raises. -/
def invalidRow : PyError := .valueError "invalid schedule document"

variable (service : SchedulerService State)

def appendEvent (eventType aggregateId : String) (payload : Json) : SchedulerService State :=
  { service with runtime := { service.runtime with
    events := service.runtime.events ++ [⟨eventType, aggregateId, payload⟩] } }

/-- A schedule is written under its id and announced in the event log. -/
def save (eventType scheduleId : String)
    (schedule : ScheduledJob) : Except PyError (SchedulerService State) := do
  let persistence ← store.put service.persistence collection scheduleId schedule.asDict
  .ok (appendEvent { service with persistence } eventType scheduleId schedule.asDict)

def create (schedule : ScheduledJob) (now : UtcTime) :
    Except PyError (ScheduledJob × SchedulerService State) := do
  let prepared ← schedule.prepareSchedule now.toDateTime
  let service ← service.save store "runtime.schedule.created" prepared.scheduleId prepared
  .ok (prepared, service)

variable (scheduleId : String)

def get (readAt : UtcTime) : Except PyError (Option ScheduledJob) :=
  match store.get service.persistence collection scheduleId with
  | none => .ok none
  | some row =>
      if row.truthy then
        match ScheduledJob.fromDict readAt row with
        | none => .error invalidRow
        | some schedule => .ok (some schedule)
      else .ok none

def setEnabled (enabled : Bool)
    (readAt : UtcTime) : Except PyError (ScheduledJob × SchedulerService State) := do
  match ← service.get store scheduleId readAt with
  | none => .error (.keyError scheduleId)
  | some schedule =>
      let updated := { schedule with enabled }
      let service ← service.save store
        (if enabled then "runtime.schedule.enabled" else "runtime.schedule.disabled") scheduleId
        updated
      .ok (updated, service)

variable (tenantId : Option String)

/-- The rows of one tenant, or all rows when the tenant is None or empty. -/
def rows : List Json :=
  match tenantId.filter fun tenant => tenant ≠ "" with
  | none => store.list service.persistence collection
  | some tenant => store.listTenant service.persistence collection tenant

/-- The schedules that a trigger call goes through. -/
def schedules (readAt : UtcTime) : Option (List ScheduledJob) :=
  (service.rows store tenantId).mapM (ScheduledJob.fromDict readAt)

/-- The job of a schedule carries the id of the schedule in its payload. -/
def newJob (context : TriggerContext) (schedule : ScheduledJob) : RuntimeJob :=
  RuntimeJob.new schedule.tenantId schedule.organizationId schedule.createdBy schedule.jobType
    (Dict.setItems "schedule_id" (.str schedule.scheduleId) schedule.payload)
    (context.jobId schedule.scheduleId) (context.createdAt schedule.scheduleId)
    (context.updatedAt schedule.scheduleId)

/-- The record of one round after its submission. -/
def advance (context : TriggerContext) (schedule : ScheduledJob)
    (job : RuntimeJob) : Except PyError (SchedulerService State) := do
  let next ← schedule.nextRun context.now
  let persistence ← store.put service.persistence collection schedule.scheduleId
    (schedule.triggeredForm context.now next).asDict
  .ok (appendEvent { service with persistence } "runtime.schedule.triggered" schedule.scheduleId
    (.obj [("tenant_id", .str schedule.tenantId), ("job_id", .str job.jobId)]))

/-- One round skips the schedule, or submits its job and then writes its next run. -/
def trigger (context : TriggerContext)
    (schedule : ScheduledJob) : TriggerReport × SchedulerService State :=
  match schedule.isDue context.now with
  | .error exception => (⟨[], .error exception⟩, service)
  | .ok false => (⟨[], .ok ()⟩, service)
  | .ok true =>
      match service.runtime.submit (newJob context schedule)
        (context.queuedAt schedule.scheduleId) with
      | (.error exception, runtime) => (⟨[], .error exception⟩, { service with runtime })
      | (.ok job, runtime) =>
          match advance store { service with runtime } context schedule job with
          | .error exception =>
              (⟨[(schedule.scheduleId, job)], .error exception⟩, { service with runtime })
          | .ok service => (⟨[(schedule.scheduleId, job)], .ok ()⟩, service)

/-- The first exception ends the loop. -/
def triggerLoop (context : TriggerContext) :
    SchedulerService State → List ScheduledJob → TriggerReport × SchedulerService State
  | service, [] => (⟨[], .ok ()⟩, service)
  | service, schedule :: rest =>
      match service.trigger store context schedule with
      | (⟨submitted, .error exception⟩, service) => (⟨submitted, .error exception⟩, service)
      | (⟨submitted, .ok ()⟩, service) =>
          let (report, service) := triggerLoop context service rest
          (⟨submitted ++ report.submitted, report.outcome⟩, service)

def triggerDue (context : TriggerContext) : TriggerReport × SchedulerService State :=
  match service.schedules store tenantId context.readAt with
  | none => (⟨[], .error invalidRow⟩, service)
  | some schedules => triggerLoop store context service schedules

end SchedulerService

/-- The calls of the scheduler. -/
inductive SchedulerCall where
  | create (schedule : ScheduledJob) (now : UtcTime)
  | setEnabled (scheduleId : String) (enabled : Bool) (readAt : UtcTime)
  | triggerDue (tenantId : Option String) (context : TriggerContext)

namespace SchedulerService

variable {State : Type} (store : PersistenceStore State)

/-- A failed create or change leaves the service as it was. -/
def step (service : SchedulerService State) : SchedulerCall → TriggerReport × SchedulerService State
  | .create schedule now =>
      match service.create store schedule now with
      | .error exception => (⟨[], .error exception⟩, service)
      | .ok (_, next) => (⟨[], .ok ()⟩, next)
  | .setEnabled scheduleId enabled readAt =>
      match service.setEnabled store scheduleId enabled readAt with
      | .error exception => (⟨[], .error exception⟩, service)
      | .ok (_, next) => (⟨[], .ok ()⟩, next)
  | .triggerDue tenantId context => service.triggerDue store tenantId context

def reached (calls : List SchedulerCall) : SchedulerService State :=
  run (step store) (initial store) calls

end SchedulerService

end AgentFabric.Cloud
