import AgentFabric.Foundation.DateTime
import AgentFabric.Foundation.Dict
import AgentFabric.Foundation.Json
import AgentFabric.Foundation.Transition

namespace AgentFabric

namespace Cloud

/-- The seven states of a runtime job. -/
inductive JobStatus where
  | queued
  | assigned
  | running
  | completed
  | failed
  | cancelled
  | deadLettered
  deriving DecidableEq

def JobStatus.value : JobStatus → String
  | .queued => "queued"
  | .assigned => "assigned"
  | .running => "running"
  | .completed => "completed"
  | .failed => "failed"
  | .cancelled => "cancelled"
  | .deadLettered => "dead_lettered"

def JobStatus.ofValue? (text : String) : Option JobStatus :=
  [queued, assigned, running, completed, failed, cancelled, deadLettered].find?
    fun status => status.value = text

/-- The set `RUNTIME_JOB_TYPES`. -/
def runtimeJobTypes : List String := [
  "agent_run", "workflow_step", "mesh_message_delivery", "governance_action",
  "marketplace_package", "recovery", "memory_retention", "audit_export",
  "reputation_recalculation", "remote_discovery_sync", "federated_message_send",
  "federated_message_receipt", "remote_delegation", "revocation_propagation",
  "federation_reputation_recalculation", "connector_sync", "connector_search",
  "connector_document_fetch", "connector_event_ingestion", "connector_webhook_handling",
  "connector_credential_rotation_check", "tool_execution", "tool_retry", "tool_approval_pause",
  "tool_result_persistence", "tool_audit_export", "tool_reputation_update", "evaluation_run",
  "evaluation_gate_check", "feedback_ingestion", "quality_score_recalculation"]

/-- A tenant-scoped job holds its payload as an ordered field list. -/
structure RuntimeJob where
  tenantId : String
  organizationId : String
  createdBy : String
  jobType : String
  payload : List (String × Json)
  queueName : String
  maxAttempts : Int
  jobId : String
  status : JobStatus
  attempts : Int
  assignedWorkerId : Option String
  lastError : String
  createdAt : UtcTime
  updatedAt : UtcTime
  startedAt : Option UtcTime
  completedAt : Option UtcTime

/-- The Kelvin sign is the only character outside ASCII whose lower case is one ASCII letter. -/
def lowerChar (char : Char) : Char := if char.toNat = 8490 then 'k' else char.toLower

/-- The payload keys that `validate` rejects in any case. -/
def sensitiveKey (key : String) : Bool :=
  haveI := lawfulBEq_chars
  (key.toList.map lowerChar) ∈
    ["secret".toList, "raw".toList, "password".toList, "token_value".toList]

namespace RuntimeJob

/-- A new job takes the defaults of the dataclass. -/
def new (tenantId organizationId createdBy jobType : String) (payload : List (String × Json))
    (jobId : String) (createdAt updatedAt : UtcTime) : RuntimeJob where
  tenantId := tenantId
  organizationId := organizationId
  createdBy := createdBy
  jobType := jobType
  payload := payload
  queueName := "default"
  maxAttempts := 3
  jobId := jobId
  status := .queued
  attempts := 0
  assignedWorkerId := none
  lastError := ""
  createdAt := createdAt
  updatedAt := updatedAt
  startedAt := none
  completedAt := none

variable (job : RuntimeJob)

/-- The checks run in the order of the source. -/
def validate : Except PyError Unit :=
  if job.tenantId = "" ∨ job.organizationId = "" then
    .error (.valueError "tenant context is required")
  else if job.jobType ∉ runtimeJobTypes then
    .error (.valueError ("unsupported job type: " ++ job.jobType))
  else if job.payload.any fun field => sensitiveKey field.1 then
    .error (.valueError "raw sensitive job payload values are not allowed")
  else .ok ()

def asDict : Json := .obj [
  ("job_id", .str job.jobId),
  ("tenant_id", .str job.tenantId),
  ("organization_id", .str job.organizationId),
  ("created_by", .str job.createdBy),
  ("job_type", .str job.jobType),
  ("payload", .obj job.payload),
  ("queue_name", .str job.queueName),
  ("max_attempts", .int job.maxAttempts),
  ("status", .str job.status.value),
  ("attempts", .int job.attempts),
  ("assigned_worker_id", Json.optionalText job.assignedWorkerId),
  ("last_error", .str job.lastError),
  ("created_at", .str job.createdAt.isoformat),
  ("updated_at", .str job.updatedAt.isoformat),
  ("started_at", Json.optionalText (job.startedAt.map UtcTime.isoformat)),
  ("completed_at", Json.optionalText (job.completedAt.map UtcTime.isoformat))]

def timeField (document : Json) (key : String) : Option (Option UtcTime) := do
  match ← Json.optionalField document key with
  | none => some none
  | some text => (UtcTime.fromisoformat text).map some

/-- The dict form reads back with the defaults of the source and the current time. -/
def fromDict (now : UtcTime) (document : Json) : Option RuntimeJob := do
  let jobId ← Json.textField document "job_id" none
  let tenantId ← Json.textField document "tenant_id" none
  let organizationId ← Json.textField document "organization_id" none
  let createdBy ← Json.textField document "created_by" (some "")
  let jobType ← Json.textField document "job_type" none
  let payload ← Json.objectField document "payload"
  let queueName ← Json.textField document "queue_name" (some "default")
  let maxAttempts ← Json.intField document "max_attempts" 3
  let status ← (← Json.textField document "status" (some "queued")) |> JobStatus.ofValue?
  let attempts ← Json.intField document "attempts" 0
  let assignedWorkerId ← Json.optionalField document "assigned_worker_id"
  let lastError ← Json.textField document "last_error" (some "")
  let createdAt ← timeField document "created_at"
  let updatedAt ← timeField document "updated_at"
  let startedAt ← timeField document "started_at"
  let completedAt ← timeField document "completed_at"
  some {
    tenantId, organizationId, createdBy, jobType, payload, queueName, maxAttempts, jobId, status,
    attempts, assignedWorkerId, lastError,
    createdAt := createdAt.getD now, updatedAt := updatedAt.getD now, startedAt, completedAt }

/-- The dict form forgets only an empty worker id. -/
def reread : RuntimeJob :=
  { job with assignedWorkerId := job.assignedWorkerId.filter fun worker => worker ≠ "" }

/-- The edited fields pass through the dict form with a new update time. -/
def withUpdate (now : UtcTime) (updates : RuntimeJob → RuntimeJob) : RuntimeJob :=
  { (updates job) with updatedAt := now }.reread

/-- A job that JSON text restores has its payload in key order. -/
def canonical : RuntimeJob :=
  { job with payload := Json.sortObject job.payload }

end RuntimeJob

theorem JobStatus.ofValue?_value (status : JobStatus) :
    JobStatus.ofValue? status.value = some status := by
  cases status <;> decide

namespace RuntimeJob

theorem timeField_time (document : Json) (key : String) (value : Option UtcTime)
    (present : document.field? key = some (Json.optionalText (value.map UtcTime.isoformat))) :
    timeField document key = some value := by
  unfold timeField
  rw [Json.optionalField_text document key _ present]
  cases value with
  | none => rfl
  | some value => simp [Option.filter, UtcTime.isoformat_ne_empty]

/-- A document with the fields of a job reads as that job with the payload of the document. -/
theorem fromDict_of_fields (now : UtcTime) (job : RuntimeJob) (document : Json)
    (payload : List (String × Json))
    (text : ∀ key default, Json.textField document key default = Json.textField job.asDict key default)
    (int : ∀ key default, Json.intField document key default = Json.intField job.asDict key default)
    (optional : ∀ key, Json.optionalField document key = Json.optionalField job.asDict key)
    (object : Json.objectField document "payload" = some payload) :
    fromDict now document = some { job.reread with payload } := by
  have time (key : String) : timeField document key = timeField job.asDict key := by
    simp only [timeField, optional]
  have jobId : Json.textField job.asDict "job_id" none = some job.jobId := rfl
  have tenantId : Json.textField job.asDict "tenant_id" none = some job.tenantId := rfl
  have organizationId : Json.textField job.asDict "organization_id" none = some job.organizationId := rfl
  have createdBy : Json.textField job.asDict "created_by" (some "") = some job.createdBy := rfl
  have jobType : Json.textField job.asDict "job_type" none = some job.jobType := rfl
  have queueName : Json.textField job.asDict "queue_name" (some "default") = some job.queueName := rfl
  have maxAttempts : Json.intField job.asDict "max_attempts" 3 = some job.maxAttempts := rfl
  have status : Json.textField job.asDict "status" (some "queued") = some job.status.value := rfl
  have attempts : Json.intField job.asDict "attempts" 0 = some job.attempts := rfl
  have worker := Json.optionalField_text job.asDict "assigned_worker_id" job.assignedWorkerId rfl
  have lastError : Json.textField job.asDict "last_error" (some "") = some job.lastError := rfl
  have createdAt := timeField_time job.asDict "created_at" (some job.createdAt) rfl
  have updatedAt := timeField_time job.asDict "updated_at" (some job.updatedAt) rfl
  have startedAt := timeField_time job.asDict "started_at" job.startedAt rfl
  have completedAt := timeField_time job.asDict "completed_at" job.completedAt rfl
  simp only [fromDict, text, int, optional, time, object, jobId, tenantId, organizationId,
    createdBy, jobType, queueName, maxAttempts, status, JobStatus.ofValue?_value, attempts, worker,
    lastError, createdAt, updatedAt, startedAt, completedAt, Option.bind_eq_bind,
    Option.bind_some, Option.getD_some]
  rfl

/-- A stored JSON row reads back as the job with a sorted payload and no empty worker id. -/
theorem fromDict_row (now : UtcTime) (job : RuntimeJob) :
    fromDict now job.asDict.sortKeys = some job.reread.canonical := by
  have payload : Json.objectField job.asDict "payload" = some job.payload := rfl
  exact fromDict_of_fields now job _ _ (Json.textField_sortKeys _) (Json.intField_sortKeys _)
    (Json.optionalField_sortKeys _) (by rw [Json.objectField_sortKeys, payload, Option.map_some]; rfl)

section Updates

variable (job : RuntimeJob) (now : UtcTime) (updates : RuntimeJob → RuntimeJob)

@[simp] theorem withUpdate_jobId : (job.withUpdate now updates).jobId = (updates job).jobId := rfl

@[simp] theorem withUpdate_maxAttempts : (job.withUpdate now updates).maxAttempts =
    (updates job).maxAttempts := rfl

@[simp] theorem withUpdate_attempts : (job.withUpdate now updates).attempts = (updates job).attempts := rfl

@[simp] theorem withUpdate_status : (job.withUpdate now updates).status = (updates job).status := rfl

@[simp] theorem withUpdate_validate :
    (job.withUpdate now updates).validate = (updates job).validate := rfl

end Updates

@[simp] theorem reread_reread (job : RuntimeJob) : job.reread.reread = job.reread := by
  simp [reread, Option.filter_filter]

end RuntimeJob

end Cloud

end AgentFabric

namespace AgentFabric.Cloud
open Sorting Transition

/-- The in-memory queue keeps the job table, one deque for each queue name, and the dead jobs. -/
structure MemoryJobQueue where
  jobs : Dict String RuntimeJob
  queues : Dict String (List String)
  dead : Dict String RuntimeJob

namespace MemoryJobQueue

def empty : MemoryJobQueue := ⟨Dict.empty, Dict.empty, Dict.empty⟩

variable (queue : MemoryJobQueue)

/-- A missing deque is an empty deque. -/
def deque (queueName : String) : List String :=
  queue.queues.getD queueName []

variable (job : RuntimeJob) (now : UtcTime)

def enqueue : Except PyError (RuntimeJob × MemoryJobQueue) := do
  job.validate
  let queued := job.withUpdate now fun job => { job with status := .queued }
  .ok (queued, { queue with
    jobs := queue.jobs.set queued.jobId queued
    queues := queue.queues.set queued.queueName (queue.deque queued.queueName ++ [queued.jobId]) })

/-- A lease raises the attempts of a queued job by one. -/
def lease : RuntimeJob :=
  job.withUpdate now fun job => { job with status := .assigned, attempts := job.attempts + 1 }

/-- The loop pops one id per round, drops stale ids, and rotates the jobs of other tenants. -/
def dequeueLoop (jobs : Dict String RuntimeJob) (tenantId : Option String) :
    Nat → List String → Option (String × RuntimeJob) × List String
  | 0, deque => (none, deque)
  | _ + 1, [] => (none, [])
  | rounds + 1, jobId :: rest =>
      match jobs.get? jobId with
      | none => dequeueLoop jobs tenantId rounds rest
      | some job =>
          if job.status ≠ .queued then dequeueLoop jobs tenantId rounds rest
          else if tenantId.isSome ∧ some job.tenantId ≠ tenantId then
            dequeueLoop jobs tenantId rounds (rest ++ [jobId])
          else (some (jobId, job), rest)

variable (tenantId : Option String)

def dequeue (queueName : String) (now : UtcTime) : Option RuntimeJob × MemoryJobQueue :=
  let deque := queue.deque queueName
  match dequeueLoop queue.jobs tenantId deque.length deque with
  | (none, rest) => (none, { queue with queues := queue.queues.set queueName rest })
  | (some (jobId, job), rest) =>
      (some (lease job now), { queue with
        jobs := queue.jobs.set jobId (lease job now)
        queues := queue.queues.set queueName rest })

/-- A put stores any job and files a queued id that its deque does not hold. -/
def put : RuntimeJob × MemoryJobQueue :=
  let stored := { queue with jobs := queue.jobs.set job.jobId job }
  if job.status = .queued then
    let deque := queue.deque job.queueName
    let filed := if job.jobId ∈ deque then deque else deque ++ [job.jobId]
    (job, { stored with queues := queue.queues.set job.queueName filed })
  else (job, stored)

def get (jobId : String) : Option RuntimeJob :=
  (queue.jobs.get? jobId).or (queue.dead.get? jobId)

/-- The tenant filter keeps every job when it is absent. -/
def tenantFilter (jobs : List RuntimeJob) : List RuntimeJob :=
  match tenantId with
  | none => jobs
  | some tenant => jobs.filter fun job => job.tenantId = tenant

def list : List RuntimeJob :=
  tenantFilter tenantId (sortedBy (fun job => job.createdAt.wall.micros) queue.jobs.values)

def deadLetter : RuntimeJob × MemoryJobQueue :=
  let dead := job.withUpdate now fun job => { job with status := .deadLettered }
  (dead, { queue with
    jobs := queue.jobs.set dead.jobId dead
    dead := queue.dead.set dead.jobId dead })

def deadLetters : List RuntimeJob :=
  tenantFilter tenantId (sortedBy (fun job => job.updatedAt.wall.micros) queue.dead.values)

end MemoryJobQueue

/-- The health report of a queue backend. -/
structure QueueHealth where
  status : String
  backend : String
  queuedJobs : Nat
  deadLetterJobs : Nat

def MemoryJobQueue.health (queue : MemoryJobQueue) : QueueHealth where
  status := "ok"
  backend := "memory"
  queuedJobs := queue.jobs.values.countP fun job => job.status = .queued
  deadLetterJobs := queue.dead.items.length

/-- The calls that change a queue carry their clock reading. -/
inductive QueueCall where
  | enqueue (job : RuntimeJob) (now : UtcTime)
  | dequeue (tenantId : Option String) (queueName : String) (now : UtcTime)
  | put (job : RuntimeJob)
  | deadLetter (job : RuntimeJob) (now : UtcTime)

namespace MemoryJobQueue

/-- A failed call leaves the queue as it was. -/
def step (queue : MemoryJobQueue) : QueueCall → Except PyError (Option RuntimeJob) × MemoryJobQueue
  | .enqueue job now =>
      match queue.enqueue job now with
      | .ok (queued, next) => (.ok (some queued), next)
      | .error exception => (.error exception, queue)
  | .dequeue tenantId queueName now =>
      let result := queue.dequeue tenantId queueName now
      (.ok result.1, result.2)
  | .put job => (.ok (some (queue.put job).1), (queue.put job).2)
  | .deadLetter job now => (.ok (some (queue.deadLetter job now).1), (queue.deadLetter job now).2)

/-- A run of calls starts from the empty queue. -/
def reached (calls : List QueueCall) : MemoryJobQueue := run step empty calls

end MemoryJobQueue

end AgentFabric.Cloud
