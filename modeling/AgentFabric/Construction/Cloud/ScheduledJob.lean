import AgentFabric.Construction.Cloud.JobQueue
import AgentFabric.Foundation.PyCoercion

namespace AgentFabric.Cloud.CronParser

/-- `int` raises ValueError for other texts. -/
def int (text : String) : Except PyError Int :=
  match PyText.int text with
  | some value => .ok value
  | none => .error (.valueError ("invalid literal for int() with base 10: '" ++ text ++ "'"))

/-- The units of an `every N unit` expression. -/
def unitSeconds : String → Except PyError Int
  | "second" => .ok 1
  | "seconds" => .ok 1
  | "minute" => .ok 60
  | "minutes" => .ok 60
  | "hour" => .ok 3600
  | "hours" => .ok 3600
  | unit => .error (.keyError unit)

/-- A timedelta spans at most 999999999 days. -/
def timedelta (seconds : Int) : Except PyError Int :=
  let days := seconds.fdiv 86400
  if days < -2147483648 ∨ 2147483647 < days then
    .error (.overflowError "Python int too large to convert to C int")
  else if days < -999999999 ∨ 999999999 < days then
    .error (.overflowError ("days=" ++ toString days ++ "; must have magnitude <= 999999999"))
  else .ok (seconds * 1000000)

/-- The sum of a datetime and a timedelta keeps the offset. -/
def add (value : DateTime) (micros : Int) : Except PyError DateTime :=
  match value.wall.add? micros with
  | some wall => .ok { value with wall }
  | none => .error (.overflowError "date value out of range")

/-- One field is a star, a step, or a number. -/
def fieldMatches (field : String) (value : Nat) : Except PyError Bool :=
  match field.toList with
  | ['*'] => .ok true
  | '*' :: '/' :: step => do
      let step ← int (String.ofList step)
      if step = 0 then .error (.zeroDivisionError "integer division or modulo by zero")
      else .ok ((value : Int).fmod step = 0)
  | _ => do .ok ((← int field) = value)

/-- The hour field is read only at a matching minute. -/
def candidateMatches (minute hour : String) (candidate : DateTime) : Except PyError Bool := do
  if ← fieldMatches minute candidate.wall.minute then fieldMatches hour candidate.wall.hour
  else .ok false

/-- The search walks minute by minute. -/
def search (minute hour : String) : Nat → DateTime → Except PyError DateTime
  | 0, _ => .error (.valueError "could not find next cron run")
  | rounds + 1, candidate => do
      if ← candidateMatches minute hour candidate then .ok candidate
      else search minute hour rounds (← add candidate 60000000)

variable (expression : String)

/-- The expression `every N unit` adds a fixed span. -/
def nextEvery (after : DateTime) : Except PyError DateTime :=
  match PyText.split expression with
  | _ :: amount :: unit :: _ => do
      let amount ← int amount
      let unit ← unitSeconds unit
      add after (← timedelta (amount * unit))
  | words => .error (.valueError
      ("not enough values to unpack (expected 2, got " ++ toString (words.length - 1) ++ ")"))

def nextAfter (after : DateTime) : Except PyError DateTime :=
  if "every ".toList.isPrefixOf expression.toList then nextEvery expression after
  else
    match PyText.split expression with
    | [minute, hour, _, _, _] => do
        search minute hour 527040 (← add { after with wall := after.wall.floorMinute } 60000000)
    | _ => .error (.valueError "cron expression must have five fields or use 'every N unit'")

end AgentFabric.Cloud.CronParser

namespace AgentFabric.Cloud

/-- A schedule may carry naive or aware times. -/
structure ScheduledJob where
  tenantId : String
  organizationId : String
  createdBy : String
  jobType : String
  payload : List (String × Json)
  scheduleType : String
  cron : Option String
  runAt : Option DateTime
  enabled : Bool
  scheduleId : String
  lastRunAt : Option DateTime
  nextRunAt : Option DateTime
  createdAt : DateTime

namespace ScheduledJob

/-- A new schedule takes the defaults of the dataclass. -/
def new (tenantId organizationId createdBy jobType : String) (payload : List (String × Json))
    (scheduleId : String) (createdAt : UtcTime) : ScheduledJob where
  tenantId := tenantId
  organizationId := organizationId
  createdBy := createdBy
  jobType := jobType
  payload := payload
  scheduleType := "one_time"
  cron := none
  runAt := none
  enabled := true
  scheduleId := scheduleId
  lastRunAt := none
  nextRunAt := none
  createdAt := createdAt.toDateTime

variable (schedule : ScheduledJob)

def asDict : Json := .obj [
  ("schedule_id", .str schedule.scheduleId),
  ("tenant_id", .str schedule.tenantId),
  ("organization_id", .str schedule.organizationId),
  ("created_by", .str schedule.createdBy),
  ("job_type", .str schedule.jobType),
  ("payload", .obj schedule.payload),
  ("schedule_type", .str schedule.scheduleType),
  ("cron", Json.optionalText schedule.cron),
  ("run_at", Json.optionalText (schedule.runAt.map DateTime.isoformat)),
  ("enabled", .bool schedule.enabled),
  ("last_run_at", Json.optionalText (schedule.lastRunAt.map DateTime.isoformat)),
  ("next_run_at", Json.optionalText (schedule.nextRunAt.map DateTime.isoformat)),
  ("created_at", .str schedule.createdAt.isoformat)]

variable (document : Json) (key : String)

/-- An empty or missing time is None. -/
def dateField : Option (Option DateTime) := do
  match ← Json.optionalField document key with
  | none => some none
  | some text => (DateTime.fromisoformat text).map some

/-- A missing flag is true and another value counts by its truth. -/
def flagField : Bool :=
  ((document.field? key).map Json.truthy).getD true

def fromDict (now : UtcTime) (document : Json) : Option ScheduledJob := do
  let scheduleId ← Json.textField document "schedule_id" none
  let tenantId ← Json.textField document "tenant_id" none
  let organizationId ← Json.textField document "organization_id" none
  let createdBy ← Json.textField document "created_by" (some "")
  let jobType ← Json.textField document "job_type" none
  let payload ← Json.objectField document "payload"
  let scheduleType ← Json.textField document "schedule_type" (some "one_time")
  let cron ← Json.optionalField document "cron"
  let runAt ← dateField document "run_at"
  let lastRunAt ← dateField document "last_run_at"
  let nextRunAt ← dateField document "next_run_at"
  let createdAt ← dateField document "created_at"
  some {
    tenantId, organizationId, createdBy, jobType, payload, scheduleType, cron, runAt,
    enabled := flagField document "enabled", scheduleId, lastRunAt, nextRunAt,
    createdAt := createdAt.getD now.toDateTime }

variable (now : DateTime)

/-- The next run of a recurring schedule comes from its cron text. -/
def prepareSchedule : Except PyError ScheduledJob :=
  if schedule.scheduleType = "recurring" then
    match schedule.cron.filter fun cron => cron ≠ "" with
    | none => .error (.valueError "recurring schedule requires cron")
    | some cron => do .ok { schedule with nextRunAt := some (← CronParser.nextAfter cron now) }
  else .ok { schedule with nextRunAt := schedule.runAt }

/-- An enabled schedule is due when its next run is not later than the given time. -/
def isDue : Except PyError Bool :=
  if schedule.enabled then
    match schedule.nextRunAt with
    | none => .ok false
    | some nextRunAt =>
        match nextRunAt.later? now with
        | none => .error (.typeError "can't compare offset-naive and offset-aware datetimes")
        | some later => .ok (!later)
  else .ok false

/-- A triggered schedule without a cron text has no next run. -/
def nextRun : Except PyError (Option DateTime) :=
  if schedule.scheduleType = "recurring" then
    match schedule.cron.filter fun cron => cron ≠ "" with
    | none => .ok none
    | some cron => (CronParser.nextAfter cron now).map some
  else .ok none

/-- A triggered schedule without a next run is disabled. -/
def triggeredForm (nextRun : Option DateTime) : ScheduledJob :=
  { schedule with
    enabled := if nextRun.isSome then schedule.enabled else false
    lastRunAt := some now
    nextRunAt := nextRun }

/-- The preparation keeps the id. -/
theorem prepareSchedule_scheduleId (prepared : ScheduledJob)
    (accepted : schedule.prepareSchedule now = .ok prepared) :
    prepared.scheduleId = schedule.scheduleId := by
  unfold prepareSchedule at accepted
  split at accepted
  · split at accepted
    · cases accepted
    · rename_i cron _
      cases computed : CronParser.nextAfter cron now with
      | error exception =>
          rw [computed] at accepted
          cases accepted
      | ok nextRunAt =>
          rw [computed] at accepted
          cases accepted
          rfl
  · cases accepted
    rfl

section Readers

variable (document : Json) (key : String)

theorem dateField_sortKeys : dateField document.sortKeys key = dateField document key := by
  simp only [dateField, Json.optionalField_sortKeys]

theorem flagField_sortKeys : flagField document.sortKeys key = flagField document key := by
  simp only [flagField, Json.field?_sortKeys, Option.map_map]
  congr 2
  funext value
  exact value.truthy_sortKeys

end Readers

/-- The row form forgets only an empty cron text. -/
def reread : ScheduledJob :=
  { schedule with cron := schedule.cron.filter fun cron => cron ≠ "" }

theorem dateField_time (value : Option DateTime)
    (present : document.field? key = some (Json.optionalText (value.map DateTime.isoformat))) :
    dateField document key = some value := by
  unfold dateField
  rw [Json.optionalField_text document key _ present]
  cases value with
  | none => rfl
  | some value =>
      simp [Option.filter, DateTime.isoformat_ne_empty, DateTime.fromisoformat_isoformat]

/-- A row that equals the dict form up to field order reads as the schedule. -/
theorem fromDict_of_same (now : UtcTime) (schedule : ScheduledJob) (row : Json)
    (same : row.Same schedule.asDict) :
    ∃ payload, Json.sortObject payload = Json.sortObject schedule.payload ∧
      fromDict now row = some { schedule.reread with payload } := by
  have text := Json.textField_of_same same
  have optional := Json.optionalField_of_same same
  have date (key : String) : dateField row key = dateField schedule.asDict key := by
    rw [← dateField_sortKeys, same, dateField_sortKeys]
  have flag (key : String) : flagField row key = flagField schedule.asDict key := by
    rw [← flagField_sortKeys, same, flagField_sortKeys]
  obtain ⟨payload, present, sorted⟩ := Json.objectField_of_same same "payload" schedule.payload rfl
  refine ⟨payload, sorted, ?_⟩
  have scheduleId : Json.textField schedule.asDict "schedule_id" none =
    some schedule.scheduleId := rfl
  have tenantId : Json.textField schedule.asDict "tenant_id" none = some schedule.tenantId := rfl
  have organizationId : Json.textField schedule.asDict "organization_id" none =
    some schedule.organizationId := rfl
  have createdBy : Json.textField schedule.asDict "created_by" (some "") =
    some schedule.createdBy := rfl
  have jobType : Json.textField schedule.asDict "job_type" none = some schedule.jobType := rfl
  have scheduleType : Json.textField schedule.asDict "schedule_type" (some "one_time") =
    some schedule.scheduleType := rfl
  have cron := Json.optionalField_text schedule.asDict "cron" schedule.cron rfl
  have runAt := dateField_time schedule.asDict "run_at" schedule.runAt rfl
  have lastRunAt := dateField_time schedule.asDict "last_run_at" schedule.lastRunAt rfl
  have nextRunAt := dateField_time schedule.asDict "next_run_at" schedule.nextRunAt rfl
  have createdAt := dateField_time schedule.asDict "created_at" (some schedule.createdAt) rfl
  have enabled : flagField schedule.asDict "enabled" = schedule.enabled := rfl
  simp only [fromDict, text, optional, date, flag, present, scheduleId, tenantId, organizationId,
    createdBy, jobType, scheduleType, cron, runAt, lastRunAt, nextRunAt, createdAt, enabled,
    Option.bind_eq_bind, Option.bind_some, Option.getD_some]
  rfl

end ScheduledJob

end AgentFabric.Cloud
