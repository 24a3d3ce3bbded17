import AgentFabric.Construction.Cloud.JobQueue

namespace AgentFabric.Quotas

/-- The counters that a quota policy limits. -/
inductive QuotaCounter where
  | agentsPerTenant
  | workflowRunsPerDay
  | concurrentWorkflows
  | meshMessagesPerMinute
  | memoryRecords
  | eventRetention
  | marketplaceInstalls
  | apiCalls
  | storageBytes
  | computeSeconds
  deriving DecidableEq

def QuotaCounter.name : QuotaCounter → String
  | .agentsPerTenant => "agents_per_tenant"
  | .workflowRunsPerDay => "workflow_runs_per_day"
  | .concurrentWorkflows => "concurrent_workflows"
  | .meshMessagesPerMinute => "mesh_messages_per_minute"
  | .memoryRecords => "memory_records"
  | .eventRetention => "event_retention"
  | .marketplaceInstalls => "marketplace_installs"
  | .apiCalls => "api_calls"
  | .storageBytes => "storage_bytes"
  | .computeSeconds => "compute_seconds"

/-- A policy gives one limit to each counter. -/
structure QuotaPolicy where
  limit : QuotaCounter → Int

/-- The tracker keeps the counters of each tenant. -/
structure QuotaTracker where
  usage : Dict String (Dict QuotaCounter Int)

namespace QuotaTracker

def empty : QuotaTracker := ⟨Dict.empty⟩

variable (tracker : QuotaTracker) (tenantId : String)

/-- A missing counter is zero. -/
def get (counter : QuotaCounter) : Int :=
  (tracker.usage.getD tenantId Dict.empty).getD counter 0

def increment (counter : QuotaCounter) (amount : Int) : QuotaTracker :=
  ⟨tracker.usage.set tenantId ((tracker.usage.getD tenantId Dict.empty).set counter
    (tracker.get tenantId counter + amount))⟩

variable (policy : QuotaPolicy)

/-- The hard limit admits a use that stays within the policy. -/
def check (counter : QuotaCounter) (amount : Int) : Except PyError Unit :=
  if tracker.get tenantId counter + amount > policy.limit counter then
    .error (.conflictError ("quota exceeded: " ++ counter.name))
  else .ok ()

def consume (counter : QuotaCounter) (amount : Int) : Except PyError QuotaTracker := do
  tracker.check tenantId policy counter amount
  .ok (tracker.increment tenantId counter amount)

/-- A consumption succeeds exactly within the limit. -/
theorem consume_eq (counter : QuotaCounter) (amount : Int) :
    tracker.consume tenantId policy counter amount =
      if tracker.get tenantId counter + amount ≤ policy.limit counter then
        .ok (tracker.increment tenantId counter amount)
      else .error (.conflictError ("quota exceeded: " ++ counter.name)) := by
  unfold consume check
  by_cases within : tracker.get tenantId counter + amount ≤ policy.limit counter
  · rw [if_pos within, if_neg (not_lt.mpr within)]
    rfl
  · rw [if_neg within, if_pos (not_le.mp within)]
    rfl

/-- An increment counts for its tenant alone. -/
theorem get_increment (tenantId query : String) (counter : QuotaCounter)
    (amount : Int) : (tracker.increment tenantId counter amount).get query counter =
      tracker.get query counter + if tenantId = query then amount else 0 := by
  rw [QuotaTracker.get, QuotaTracker.increment, Dict.getD_set]
  by_cases same : query = tenantId
  · subst same
    simp [Dict.getD_set]
  · rw [if_neg same, if_neg (Ne.symm same), Int.add_zero]
    rfl

end QuotaTracker

end AgentFabric.Quotas

namespace AgentFabric.Cloud
open Transition Quotas

/-- A handler returns the fields of its result or the text of its exception.
It raises nothing but an `Exception` and does not modify the job that it gets. -/
abbrev JobHandler := RuntimeJob → Except String (List (String × Json))

/-- The request keeps the agent value that `str` renders. -/
structure PolicyCheckRequest where
  agentId : Json
  action : String
  payload : Json

structure PolicyCheckResponse where
  allowed : Bool
  reason : String

/-- One dispatch reads its clock, its checks, and its handlers from this context. -/
structure DispatchContext where
  now : Nat → UtcTime
  quotaPolicy : Option (String → Except PyError QuotaPolicy)
  spendCheck : Option (RuntimeJob → Except PyError Unit)
  governanceCheck : Option (RuntimeJob → Except PyError Unit)
  entitlementCheck : Option (RuntimeJob → Except PyError Unit)
  federationCheck : Option (RuntimeJob → Except PyError Unit)
  checkPolicy : PolicyCheckRequest → Except PyError PolicyCheckResponse
  handlers : Dict String JobHandler

namespace DispatchContext

/-- The job types that need an entitlement. -/
def entitledTypes : List String := ["agent_run", "marketplace_package"]

/-- The job types that need a federation check. -/
def federatedTypes : List String := [
  "remote_discovery_sync", "federated_message_send", "federated_message_receipt",
  "remote_delegation", "revocation_propagation", "federation_reputation_recalculation"]

/-- An absent check passes. -/
def runCheck (check : Option (RuntimeJob → Except PyError Unit)) (job : RuntimeJob) :
    Except PyError Unit :=
  match check with
  | none => .ok ()
  | some check => check job

/-- A check of other job types passes. -/
def runCheckWhen (applies : Bool) (check : Option (RuntimeJob → Except PyError Unit))
    (job : RuntimeJob) : Except PyError Unit :=
  if applies then runCheck check job else .ok ()

variable (context : DispatchContext) (tracker : QuotaTracker)

/-- The quota step consumes one unit when a policy is configured. -/
def consumeQuota (tenantId : String) : Except PyError QuotaTracker :=
  match context.quotaPolicy with
  | none => .ok tracker
  | some policy => do tracker.consume tenantId (← policy tenantId) .computeSeconds 1

variable (job : RuntimeJob)

def policyRequest : PolicyCheckRequest where
  agentId := ((Json.obj job.payload).field? "agent_id").getD (.str job.createdBy)
  action := "runtime.execute." ++ job.jobType
  payload := job.asDict

/-- A denial without a reason gets the default text. -/
def checkVeil : Except PyError Unit := do
  let response ← context.checkPolicy (policyRequest job)
  if response.allowed then .ok ()
  else .error (.authorizationError
    (if response.reason = "" then "VEIL policy denied job execution" else response.reason))

/-- These checks follow the quota step in the order of the source. -/
def checkJob : Except PyError Unit := do
  runCheck context.spendCheck job
  runCheckWhen (job.jobType = "governance_action") context.governanceCheck job
  runCheckWhen (job.jobType ∈ entitledTypes) context.entitlementCheck job
  runCheckWhen (job.jobType ∈ federatedTypes) context.federationCheck job
  context.checkVeil job

/-- A later denial keeps the consumed quota. -/
def enforce (job : RuntimeJob) : Except PyError Unit × QuotaTracker :=
  if job.tenantId = "" then
    (.error (.authorizationError "job execution requires tenant context"), tracker)
  else
    match context.consumeQuota tracker job.tenantId with
    | .error exception => (.error exception, tracker)
    | .ok consumed => (context.checkJob job, consumed)

def defaultHandler : JobHandler := fun job =>
  if ((Json.obj job.payload).field? "force_fail").any Json.truthy then
    .error "forced job failure"
  else .ok [("job_id", .str job.jobId), ("job_type", .str job.jobType), ("status", .str "ok")]

/-- An unregistered type uses the default handler. -/
def handle : Except String (List (String × Json)) :=
  context.handlers.getD job.jobType defaultHandler job

end DispatchContext

/-- One append call of the event store. -/
structure EventAppend where
  eventType : String
  aggregateId : String
  payload : Json

/-- The dispatcher shares its queue, quota counters, and event log with the runtime. -/
structure Dispatcher where
  queue : MemoryJobQueue
  tracker : QuotaTracker
  events : List EventAppend

namespace Dispatcher

def initial : Dispatcher := ⟨MemoryJobQueue.empty, QuotaTracker.empty, []⟩

variable (dispatcher : Dispatcher)

/-- An event of a job carries its dict form. -/
def append (eventType : String) (job : RuntimeJob) : Dispatcher :=
  { dispatcher with events := dispatcher.events ++ [⟨eventType, job.jobId, job.asDict⟩] }

def put (job : RuntimeJob) : Dispatcher :=
  { dispatcher with queue := (dispatcher.queue.put job).2 }

variable (context : DispatchContext)

/-- The worker id of the dispatch goes into the leased job. -/
def assignedForm (workerId : String) (job : RuntimeJob) : RuntimeJob :=
  job.withUpdate (context.now 1) fun job => { job with assignedWorkerId := some workerId }

/-- The started job records its start time. -/
def runningForm (job : RuntimeJob) : RuntimeJob :=
  job.withUpdate (context.now 3) fun job =>
    { job with status := .running, startedAt := some (context.now 2) }

variable (running : RuntimeJob)

def completedForm (result : List (String × Json)) : RuntimeJob :=
  running.withUpdate (context.now 5) fun job =>
    { job with
      status := .completed
      completedAt := some (context.now 4)
      payload := Dict.setItems "result" (.obj result) running.payload
      lastError := "" }

def failedForm (message : String) : RuntimeJob :=
  running.withUpdate (context.now 4) fun job =>
    { job with status := .failed, lastError := message }

/-- The first part of an execution stops before the handler. -/
def start (context : DispatchContext) (job : RuntimeJob) : Except PyError RuntimeJob × Dispatcher :=
  match job.validate with
  | .error exception => (.error exception, dispatcher)
  | .ok () =>
      match context.enforce dispatcher.tracker job with
      | (.error exception, tracker) => (.error exception, { dispatcher with tracker })
      | (.ok (), tracker) =>
          let running := runningForm context job
          (.ok running, (put { dispatcher with tracker } running).append "runtime.job.started" running)

/-- The second part of an execution calls the handler and files its outcome. -/
def finish (context : DispatchContext) (running : RuntimeJob) : RuntimeJob × Dispatcher :=
  match context.handle running with
  | .ok result =>
      let completed := completedForm context running result
      (completed, (dispatcher.put completed).append "runtime.job.completed" completed)
  | .error message =>
      let failed := failedForm context running message
      let dispatcher := dispatcher.append "runtime.job.failed" failed
      if failed.attempts ≥ failed.maxAttempts then
        let (dead, queue) := dispatcher.queue.deadLetter failed (context.now 5)
        (dead, append { dispatcher with queue } "runtime.job.dead_lettered" dead)
      else
        let queued := failed.withUpdate (context.now 5) fun job => { job with status := .queued }
        (failed, (dispatcher.put queued).append "runtime.job.retried" failed)

def execute (context : DispatchContext) (job : RuntimeJob) :
    Except PyError RuntimeJob × Dispatcher :=
  match dispatcher.start context job with
  | (.error exception, dispatcher) => (.error exception, dispatcher)
  | (.ok running, dispatcher) =>
      let (job, dispatcher) := dispatcher.finish context running
      (.ok job, dispatcher)

/-- The leased job runs to the end of its attempt, and every event append succeeds. -/
def dispatchOne (context : DispatchContext) (tenantId : Option String)
    (queueName workerId : String) : Except PyError (Option RuntimeJob) × Dispatcher :=
  match dispatcher.queue.dequeue tenantId queueName (context.now 0) with
  | (none, queue) => (.ok none, { dispatcher with queue })
  | (some job, queue) =>
      let assigned := assignedForm context workerId job
      let dispatcher :=
        (put { dispatcher with queue } assigned).append "runtime.job.assigned" assigned
      let (executed, dispatcher) := dispatcher.execute context assigned
      (executed.map some, dispatcher)

/-- A dispatch begins with the lease and stops before the handler. -/
def beginOne (context : DispatchContext) (tenantId : Option String)
    (queueName workerId : String) : Except PyError (Option RuntimeJob) × Dispatcher :=
  match dispatcher.queue.dequeue tenantId queueName (context.now 0) with
  | (none, queue) => (.ok none, { dispatcher with queue })
  | (some job, queue) =>
      let assigned := assignedForm context workerId job
      let dispatcher :=
        (put { dispatcher with queue } assigned).append "runtime.job.assigned" assigned
      let (started, dispatcher) := dispatcher.start context assigned
      (started.map some, dispatcher)

end Dispatcher

/-- The runtime facade works on the parts that it shares with its dispatcher. -/
abbrev CloudRuntime := Dispatcher

namespace CloudRuntime

variable (runtime : CloudRuntime)

def submit (job : RuntimeJob) (now : UtcTime) : Except PyError RuntimeJob × CloudRuntime :=
  match job.validate with
  | .error exception => (.error exception, runtime)
  | .ok () =>
      match runtime.queue.enqueue job now with
      | .error exception => (.error exception, runtime)
      | .ok (queued, queue) =>
          (.ok queued, Dispatcher.append { runtime with queue } "runtime.job.created" queued)

variable (jobId : String)

def cancel (now : UtcTime) : Except PyError RuntimeJob × CloudRuntime :=
  match runtime.queue.get jobId with
  | none => (.error (.keyError jobId), runtime)
  | some job =>
      let cancelled := job.withUpdate now fun job => { job with status := .cancelled }
      (.ok cancelled,
        Dispatcher.append (Dispatcher.put runtime cancelled) "runtime.job.cancelled" cancelled)

/-- A retry and a requeue clear the last error. -/
def requeuedForm (job : RuntimeJob) (now : UtcTime) : RuntimeJob :=
  job.withUpdate now fun job => { job with status := .queued, lastError := "" }

def retry (now : UtcTime) : Except PyError RuntimeJob × CloudRuntime :=
  match runtime.queue.get jobId with
  | none => (.error (.keyError jobId), runtime)
  | some job =>
      let retried := requeuedForm job now
      (.ok retried,
        Dispatcher.append (Dispatcher.put runtime retried) "runtime.job.retried" retried)

def requeueDeadLetter (now later : UtcTime) : Except PyError RuntimeJob × CloudRuntime :=
  match runtime.queue.get jobId with
  | none => (.error (.keyError jobId), runtime)
  | some job =>
      let requeued := requeuedForm job now
      match runtime.queue.enqueue requeued later with
      | .error exception => (.error exception, runtime)
      | .ok (_, queue) =>
          (.ok requeued, Dispatcher.append { runtime with queue } "runtime.job.retried" requeued)

end CloudRuntime

/-- The calls of the runtime that change jobs. -/
inductive RuntimeCall where
  | submit (job : RuntimeJob) (now : UtcTime)
  | cancel (jobId : String) (now : UtcTime)
  | retry (jobId : String) (now : UtcTime)
  | requeueDeadLetter (jobId : String) (now later : UtcTime)
  | dispatchOne (context : DispatchContext) (tenantId : Option String) (queueName workerId : String)

namespace CloudRuntime

def step (runtime : CloudRuntime) : RuntimeCall → Except PyError (Option RuntimeJob) × CloudRuntime
  | .submit job now => ((runtime.submit job now).1.map some, (runtime.submit job now).2)
  | .cancel jobId now => ((runtime.cancel jobId now).1.map some, (runtime.cancel jobId now).2)
  | .retry jobId now => ((runtime.retry jobId now).1.map some, (runtime.retry jobId now).2)
  | .requeueDeadLetter jobId now later =>
      ((runtime.requeueDeadLetter jobId now later).1.map some,
        (runtime.requeueDeadLetter jobId now later).2)
  | .dispatchOne context tenantId queueName workerId =>
      Dispatcher.dispatchOne runtime context tenantId queueName workerId

/-- A run of calls starts from an empty queue. -/
def reached (calls : List RuntimeCall) : CloudRuntime := run step Dispatcher.initial calls

end CloudRuntime

end AgentFabric.Cloud
