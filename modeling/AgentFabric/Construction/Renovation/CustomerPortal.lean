import AgentFabric.Construction.Persistence.Store
import AgentFabric.Construction.Renovation.MvpWorkflow
import AgentFabric.Construction.Renovation.SchedulingService
import AgentFabric.Foundation.Comprehension
import AgentFabric.Foundation.Effect

namespace AgentFabric.Renovation.StoredArtifacts
open MvpWorkflow

/-- The conversion of stored values: `float` of a value is a parameter and is finite. -/
structure Reader where
  interpreter : Interpreter
  toFloat : Json → Except PyError FloatRepr

section Fields

variable (reader : Reader) (value : Json)

/-- `dict` of a value. -/
def dict : Except PyError Json := do
  .ok (.obj (← fieldsOf reader.interpreter value))

def text (key : String) : Except PyError String := do
  .ok (reader.interpreter.str (← Interpreter.subscript value key))

def textOr (key default : String) : String :=
  reader.interpreter.str ((value.field? key).getD (.str default))

variable (keys : List String)

def texts : Except PyError (List String) := keys.mapM (text reader value)

def integer (key : String) : Except PyError Int := do
  reader.interpreter.int (← Interpreter.subscript value key)

def integerOr (key : String) (default : Int) : Except PyError Int :=
  reader.interpreter.int ((value.field? key).getD (.int default))

def number (key : String) : Except PyError FloatRepr := do
  reader.toFloat (← Interpreter.subscript value key)

def numbers : Except PyError (List FloatRepr) :=
  keys.mapM (number reader value)

variable {Value : Type} (read : Json → Except PyError Value)

/-- A tuple of converted items. -/
def items (key : String) : Except PyError (List Value) := do
  (← Interpreter.iterate (← Interpreter.subscript value key)).mapM read

def itemsOr (key : String) : Except PyError (List Value) := do
  (← Interpreter.iterate ((value.field? key).getD (.arr []))).mapM read

def str (item : Json) : Except PyError String := .ok (reader.interpreter.str item)

end Fields

/-- A data class takes its fields from a dict, whose keys are its required fields and some of its
optional ones. -/
def dataClass (required optional : List String) : Json → Except PyError Json
  | .obj fields =>
      if fields.any fun field => field.1 ∉ required ++ optional then
        .error (.typeError "got an unexpected keyword argument")
      else if required.any fun key => (fields.lookup key).isNone then
        .error (.typeError "missing a required positional argument")
      else .ok (.obj fields)
  | _ => .error (.typeError "argument after ** must be a mapping")

/-- The parts of the stored artifacts that the portal shows or selects by. -/
structure Proposal where
  customerId : Json
  scopeOfWork : List String

structure JobPhase where
  phaseId : Json
  name : Json

structure Job where
  jobId : String
  proposalId : String
  title : String
  status : String
  phases : List JobPhase
  currentPhase : String

structure SchedulePhase where
  name : String
  plannedStart : String
  plannedEnd : String
  status : String

structure Schedule where
  scheduleId : String
  startDate : String
  projectedCompletionDate : String
  revision : Int
  phases : List SchedulePhase

structure PhotoRecord where
  photoRecordId : String
  capturedDate : String
  storageReference : String
  caption : String
  phaseId : String

structure ChangeOrder where
  changeOrderId : String
  title : String
  description : String
  status : String
  totalAdjustment : FloatRepr
  scheduleDeltaDays : Int

structure Invoice where
  invoiceId : String
  description : String
  dueDate : String
  total : FloatRepr
  paidAmount : FloatRepr
  outstandingBalance : FloatRepr
  status : String

structure CustomerMessage where
  messageId : String
  jobId : String
  channel : String
  direction : String
  messageDate : String
  subject : String
  body : String

section Artifacts

variable (reader : Reader) (value : Json)

/-- Every field of an estimate is converted, and none of them is shown. -/
def estimateFromDict : Except PyError Unit := do
  let _ ← texts reader value ["estimate_id", "tenant_id", "project_id", "scope_description"]
  let _ ← items value (dataClass ["description", "category", "quantity", "unit"] ["room", "notes"])
    "scope_items"
  let _ ← items value (dataClass
    ["description", "category", "quantity", "unit", "unit_rate", "total"] []) "material_lines"
  let _ ← items value (dataClass ["description", "hours", "hourly_rate", "total"] []) "labor_lines"
  let _ ← numbers reader value ["material_total", "labor_total", "subtotal",
    "contingency_percentage", "contingency", "taxable_amount", "tax_percentage", "tax", "total"]
  let _ ← text reader value "notes"
  .ok ()

def proposalFromDict : Except PyError Proposal := do
  let _ ← texts reader value ["proposal_id", "tenant_id"]
  let customer ← dataClass ["customer_id", "name"] ["email", "phone", "address"]
    (← dict reader (← Interpreter.subscript value "customer"))
  let _ ← dataClass ["project_id", "title", "property_address"] ["notes"]
    (← dict reader (← Interpreter.subscript value "project"))
  estimateFromDict reader (← dict reader (← Interpreter.subscript value "estimate"))
  let _ ← texts reader value ["template_id", "template_version", "style"]
  let scopeOfWork ← items value (str reader) "scope_of_work"
  let _ ← items value (dataClass ["label", "percentage", "amount"] []) "payment_schedule"
  let _ ← items value (dataClass ["phase", "duration_days", "sequence"] []) "timeline"
  let _ ← text reader value "warranty"
  let _ ← items value (str reader) "terms_and_conditions"
  let _ ← text reader value "rendered_text"
  .ok ⟨← Interpreter.subscript customer "customer_id", scopeOfWork⟩

def jobPhase : Except PyError JobPhase := do
  let phase ← dataClass ["phase_id", "name", "sequence", "duration_days"] ["status"] value
  .ok ⟨← Interpreter.subscript phase "phase_id", ← Interpreter.subscript phase "name"⟩

def jobFromDict : Except PyError Job := do
  let jobId ← text reader value "job_id"
  let _ ← text reader value "tenant_id"
  let proposalId ← text reader value "proposal_id"
  let _ ← text reader value "project_id"
  let title ← text reader value "title"
  let status ← text reader value "status"
  let _ ← texts reader value ["accepted_date", "acceptance_reference"]
  let phases ← items value jobPhase "phases"
  let currentPhase ← text reader value "current_phase"
  let _ ← text reader value "template_id"
  .ok ⟨jobId, proposalId, title, status, phases, currentPhase⟩

def schedulePhaseFromDict : Except PyError SchedulePhase := do
  let _ ← text reader value "phase_id"
  let name ← text reader value "name"
  let _ ← integer reader value "sequence"
  let _ ← integer reader value "duration_days"
  let plannedStart ← text reader value "planned_start"
  let plannedEnd ← text reader value "planned_end"
  let status ← text reader value "status"
  let _ ← itemsOr value (str reader) "crew_assignment_ids"
  let _ ← itemsOr value (str reader) "delivery_ids"
  let _ ← itemsOr value (str reader) "blocked_reasons"
  .ok ⟨name, plannedStart, plannedEnd, status⟩

def phaseDependencyFromDict : Except PyError Unit := do
  let _ ← texts reader value ["predecessor_phase_id", "successor_phase_id"]
  let _ ← integerOr reader value "lag_days" 0
  .ok ()

def scheduleConflictFromDict : Except PyError Unit := do
  let _ ← texts reader value
    ["conflict_id", "conflict_type", "severity", "phase_id", "reference_id", "description"]
  .ok ()

def delayImpactFromDict : Except PyError Unit := do
  let _ ← texts reader value ["delay_id", "schedule_id", "source_type", "source_id", "phase_id"]
  let _ ← integer reader value "delay_days"
  let _ ← texts reader value ["original_completion_date", "projected_completion_date", "summary"]
  .ok ()

/-- An item of a tuple is converted after `dict`. -/
def viaDict {Value : Type} (read : Json → Except PyError Value) (item : Json) :
    Except PyError Value := do
  read (← dict reader item)

def scheduleFromDict : Except PyError Schedule := do
  let scheduleId ← text reader value "schedule_id"
  let _ ← texts reader value ["tenant_id", "job_id"]
  let startDate ← text reader value "start_date"
  let _ ← text reader value "original_completion_date"
  let projectedCompletionDate ← text reader value "projected_completion_date"
  let _ ← text reader value "status"
  let revision ← integer reader value "revision"
  let phases ← itemsOr value (viaDict reader (schedulePhaseFromDict reader)) "phases"
  let _ ← itemsOr value (viaDict reader (phaseDependencyFromDict reader)) "dependencies"
  let _ ← itemsOr value (viaDict reader (scheduleConflictFromDict reader)) "conflicts"
  let _ ← itemsOr value (viaDict reader (delayImpactFromDict reader)) "delay_impacts"
  let _ ← text reader value "schedule_hash"
  .ok ⟨scheduleId, startDate, projectedCompletionDate, revision, phases⟩

def photoFromDict : Except PyError PhotoRecord := do
  let photoRecordId ← text reader value "photo_record_id"
  let _ ← texts reader value ["tenant_id", "job_id"]
  let capturedDate ← text reader value "captured_date"
  let _ ← text reader value "file_name"
  let storageReference ← text reader value "storage_reference"
  let _ ← text reader value "sha256"
  .ok ⟨photoRecordId, capturedDate, storageReference, textOr reader value "caption" "",
    textOr reader value "phase_id" ""⟩

def changeOrderApprovalFromDict : Except PyError Unit := do
  let _ ← texts reader value
    ["approval_id", "change_order_id", "decision", "decision_date", "decided_by"]
  .ok ()

def changeOrderFromDict : Except PyError ChangeOrder := do
  let changeOrderId ← text reader value "change_order_id"
  let _ ← texts reader value
    ["tenant_id", "job_id", "proposal_id", "source_type", "source_reference"]
  let title ← text reader value "title"
  let description ← text reader value "description"
  let status ← text reader value "status"
  let _ ← items value (dataClass ["description", "category", "quantity", "unit", "material_cost",
    "labor_hours", "labor_cost", "total"] []) "lines"
  let _ ← numbers reader value ["material_total", "labor_total", "subtotal",
    "contingency_percentage", "contingency", "tax_percentage", "tax"]
  let totalAdjustment ← number reader value "total_adjustment"
  let scheduleDeltaDays ← integer reader value "schedule_delta_days"
  let _ ← texts reader value ["template_id", "template_version"]
  let _ ← items value (viaDict reader (changeOrderApprovalFromDict reader)) "approval_history"
  let _ ← text reader value "rendered_text"
  .ok ⟨changeOrderId, title, description, status, totalAdjustment, scheduleDeltaDays⟩

def paymentFromDict : Except PyError Unit := do
  let _ ← texts reader value ["payment_id", "tenant_id", "target_type", "target_id", "payment_date"]
  let _ ← number reader value "amount"
  let _ ← text reader value "method"
  .ok ()

def invoiceFromDict : Except PyError Invoice := do
  let invoiceId ← text reader value "invoice_id"
  let _ ← texts reader value ["tenant_id", "job_id", "customer_id", "invoice_date"]
  let dueDate ← text reader value "due_date"
  let description ← text reader value "description"
  let _ ← numbers reader value ["amount", "tax"]
  let total ← number reader value "total"
  let paidAmount ← number reader value "paid_amount"
  let outstandingBalance ← number reader value "outstanding_balance"
  let status ← text reader value "status"
  let _ ← itemsOr value (viaDict reader (paymentFromDict reader)) "payment_records"
  .ok ⟨invoiceId, description, dueDate, total, paidAmount, outstandingBalance, status⟩

def customerMessageFromDict : Except PyError CustomerMessage := do
  let messageId ← text reader value "message_id"
  let _ ← texts reader value ["tenant_id", "customer_id"]
  let channel ← text reader value "channel"
  let direction ← text reader value "direction"
  let messageDate ← text reader value "message_date"
  let body ← text reader value "body"
  let _ ← text reader value "visibility"
  .ok ⟨messageId, textOr reader value "job_id" "", channel, direction, messageDate,
    textOr reader value "subject" "", body⟩

end Artifacts

end AgentFabric.Renovation.StoredArtifacts

namespace AgentFabric.Renovation.CustomerPortal
open Cloud Persistence PersistenceStore Sorting Comprehension StoredArtifacts

structure CustomerVisibilityPolicy where
  policyId : String
  version : String
  allowedSections : List String
  requirePhotoApproval : Bool
  excludeInternalNotes : Bool
  excludeInternalFinancials : Bool

def CustomerVisibilityPolicy.asDict (policy : CustomerVisibilityPolicy) : Json := .obj [
  ("policy_id", .str policy.policyId),
  ("version", .str policy.version),
  ("allowed_sections", .arr (policy.allowedSections.map .str)),
  ("require_photo_approval", .bool policy.requirePhotoApproval),
  ("exclude_internal_notes", .bool policy.excludeInternalNotes),
  ("exclude_internal_financials", .bool policy.excludeInternalFinancials)]

structure CustomerPortalView where
  portalViewId : String
  tenantId : String
  customerId : String
  generatedDate : String
  policyId : String
  projects : List Json
  communications : List Json
  viewHash : String

def CustomerPortalView.asDict (view : CustomerPortalView) : Json := .obj [
  ("portal_view_id", .str view.portalViewId),
  ("tenant_id", .str view.tenantId),
  ("customer_id", .str view.customerId),
  ("generated_date", .str view.generatedDate),
  ("policy_id", .str view.policyId),
  ("projects", .arr view.projects),
  ("communications", .arr view.communications),
  ("view_hash", .str view.viewHash)]

def defaultVisibilityPolicy : CustomerVisibilityPolicy where
  policyId := "renovation-customer-visibility-v1"
  version := "1.0.0"
  allowedSections := ["project", "scope", "timeline", "progress", "photos", "change_orders",
    "invoices", "communications"]
  requirePhotoApproval := true
  excludeInternalNotes := true
  excludeInternalFinancials := true

section Validation

def forbiddenKeys : List String := ["financial_hash", "history_hash", "schedule_hash",
  "artifact_hash", "margin", "profitability", "vendor", "payable", "cost_overrun", "risk", "rbac",
  "created_by", "organization_id"]

/-- The lower case of a key contains a forbidden word. -/
def isForbidden (key : String) : Bool :=
  forbiddenKeys.any fun forbidden => forbidden.toList <:+: LowerText.lower key

mutual

def validate : Json → Except PyError Unit
  | .obj fields => validateFields fields
  | .arr items => validateItems items
  | .null => .ok ()
  | .bool _ => .ok ()
  | .int _ => .ok ()
  | .float _ => .ok ()
  | .str _ => .ok ()

def validateItems : List Json → Except PyError Unit
  | [] => .ok ()
  | item :: rest => do
      validate item
      validateItems rest

def validateFields : List (String × Json) → Except PyError Unit
  | [] => .ok ()
  | (key, item) :: rest =>
      if isForbidden key then
        .error (.valueError ("customer portal contains forbidden field: " ++ key))
      else do
        validate item
        validateFields rest

end

/-- The fields of a view before it has an id. -/
def viewValue (tenantId customerId generatedDate policyId : String)
    (projects communications : List Json) : Fields := [
  ("tenant_id", .str tenantId),
  ("customer_id", .str customerId),
  ("generated_date", .str generatedDate),
  ("policy_id", .str policyId),
  ("projects", .arr projects),
  ("communications", .arr communications)]

def view (sha256 : String → String) (tenantId customerId generatedDate : String)
    (projects communications : List Json) (policy : CustomerVisibilityPolicy) :
    Except PyError CustomerPortalView := do
  let value := viewValue tenantId customerId generatedDate policy.policyId projects communications
  validate (.obj value)
  let viewId := "portal-" ++ digestPrefix sha256 20 (.obj value)
  .ok {
    portalViewId := viewId
    tenantId := tenantId
    customerId := customerId
    generatedDate := generatedDate
    policyId := policy.policyId
    projects := projects
    communications := communications
    viewHash := digest sha256 (.obj (value ++ [("portal_view_id", .str viewId)])) }

end Validation

section Selection

variable (reader : Reader)

def artifactOf (row : Json) : Except PyError Json := do
  dict reader (← Interpreter.subscript row "artifact")

def inputOf (row : Json) : Except PyError Json := dict reader ((row.field? "input").getD (.obj []))

variable (jobId : String)

/-- The artifact of a row names the job. -/
def ofJob (row : Json) : Except PyError Bool := do
  .ok (hasText (← artifactOf reader row) "job_id" jobId)

/-- A daily log is shown unless its input marks it as internal. -/
def isCustomerLog (row : Json) : Except PyError Bool := do
  if ← ofJob reader jobId row then do
    let input ← inputOf reader row
    if ((input.field? "internal").getD (.bool false)).truthy then .ok false
    else .ok (!hasText (← inputOf reader row) "visibility" "internal")
  else .ok false

/-- A photo is shown when its input approves it, or else makes it visible. -/
def isApprovedPhoto (row : Json) : Except PyError Bool := do
  if ← ofJob reader jobId row then do
    let visible := ((← inputOf reader row).field? "customer_visible").getD (.bool false)
    .ok (((← inputOf reader row).field? "approved_for_customer").getD visible).truthy
  else .ok false

def isApprovedChangeOrder (row : Json) : Except PyError Bool := do
  if ← ofJob reader jobId row then
    .ok (hasText (← artifactOf reader row) "status" "approved")
  else .ok false

def isCustomerMessage (customerId : String) (row : Json) : Except PyError Bool := do
  if hasText (← artifactOf reader row) "customer_id" customerId then
    .ok (hasText (← artifactOf reader row) "visibility" "customer")
  else .ok false

/-- The artifact of a row is converted after `dict`. -/
def artifact {Value : Type} (fromDict : Json → Except PyError Value) (row : Json) :
    Except PyError Value := do
  fromDict (← artifactOf reader row)

end Selection

section Projection

variable (reader : Reader) {State : Type} (store : PersistenceStore State) (state : State)
  (context : TenantContext)

def tenantRecord (collection key label : String) : Except PyError Json := do
  context.require
  match store.get state collection key with
  | none => .error (.notFoundError ("renovation " ++ label ++ " not found"))
  | some record =>
      if hasText record "tenant_id" context.tenantId then .ok record
      else .error (.authorizationError ("cross-tenant renovation " ++ label ++ " access denied"))

def getJob (jobId : String) : Except PyError StoredArtifacts.Job := do
  artifact reader (jobFromDict reader) (← tenantRecord store state context "renovation_jobs" jobId
    "job")

def getProposal (proposalId : String) : Except PyError StoredArtifacts.Proposal := do
  artifact reader (proposalFromDict reader) (← tenantRecord store state context
    "renovation_proposals" proposalId "proposal")

/-- The first proposal of any tenant that names the customer. -/
def customerOfProposals (customerId : String) : List Json → Except PyError Json
  | [] => .error (.notFoundError "renovation customer not found")
  | row :: rest => do
      let customer ← dict reader (← Interpreter.subscript (← artifactOf reader row) "customer")
      if hasText customer "customer_id" customerId then
        if hasText row "tenant_id" context.tenantId then
          .ok (.obj [("tenant_id", .str context.tenantId), ("artifact", customer)])
        else .error (.authorizationError "cross-tenant renovation customer access denied")
      else customerOfProposals customerId rest

def customerRecord (customerId : String) : Except PyError Json :=
  match store.get state "renovation_customers" customerId with
  | some record =>
      if hasText record "tenant_id" context.tenantId then .ok record
      else .error (.authorizationError "cross-tenant renovation customer access denied")
  | none => customerOfProposals reader context customerId (store.list state "renovation_proposals")

def jobCustomerId (jobId : String) : Except PyError Json := do
  let job ← getJob reader store state context jobId
  .ok (← getProposal reader store state context job.proposalId).customerId

/-- A job belongs to the customer of its proposal. -/
def isCustomerJob (customerId : String) (row : Json) : Except PyError Bool := do
  let jobId ← text reader (← artifactOf reader row) "job_id"
  match ← jobCustomerId reader store state context jobId with
  | .str owner => .ok (owner = customerId)
  | _ => .ok false

variable (job : StoredArtifacts.Job)

/-- The name of the current phase of a job. -/
def currentPhase : Json :=
  ((job.phases.find? fun phase => match phase.phaseId with
    | .str phaseId => phaseId = job.currentPhase
    | _ => false).map StoredArtifacts.JobPhase.name).getD (.str "")

def approvedTimeline (schedules : List StoredArtifacts.Schedule) : Json :=
  match (sortedBy
      (fun schedule : StoredArtifacts.Schedule => toLex (schedule.revision, schedule.scheduleId))
      schedules).getLast? with
  | none => .null
  | some schedule => .obj [
      ("start_date", .str schedule.startDate),
      ("projected_completion_date", .str schedule.projectedCompletionDate),
      ("phases", .arr (schedule.phases.map fun phase => .obj [
        ("name", .str phase.name),
        ("start_date", .str phase.plannedStart),
        ("end_date", .str phase.plannedEnd),
        ("status", .str phase.status)]))]

/-- The date and the id that order the daily logs. -/
def logKey (row : Json) : Except PyError (String ×ₗ String) := do
  let workDate ← text reader (← artifactOf reader row) "work_date"
  .ok (toLex (workDate, ← text reader (← artifactOf reader row) "daily_log_id"))

def progressItem (row : Json) : Except PyError Json := do
  let log ← artifactOf reader row
  let workDate ← text reader log "work_date"
  let summary ← text reader log "summary"
  let completedWork ← Interpreter.iterate ((log.field? "completed_work").getD (.arr []))
  let nextSteps ← Interpreter.iterate ((log.field? "next_steps").getD (.arr []))
  .ok (.obj [
    ("work_date", .str workDate),
    ("summary", .str summary),
    ("completed_work", .arr completedWork),
    ("next_steps", .arr nextSteps)])

/-- The five latest logs, where logs with equal keys stay in the order of their rows. -/
def recentProgress (logs : List Json) : Except PyError Json := do
  let keyed ← logs.mapM fun row => do .ok (← logKey reader row, row)
  let latest := (sortedBy Prod.fst keyed.reverse).reverse.take 5
  .ok (.arr (← latest.mapM fun item => progressItem reader item.2))

def approvedPhoto (photo : PhotoRecord) : Json := .obj [
  ("photo_record_id", .str photo.photoRecordId),
  ("captured_date", .str photo.capturedDate),
  ("storage_reference", .str photo.storageReference),
  ("caption", .str photo.caption),
  ("phase_id", .str photo.phaseId)]

def approvedChangeOrder (changeOrder : StoredArtifacts.ChangeOrder) : Json := .obj [
  ("change_order_id", .str changeOrder.changeOrderId),
  ("title", .str changeOrder.title),
  ("description", .str changeOrder.description),
  ("status", .str changeOrder.status),
  ("total_adjustment", .float changeOrder.totalAdjustment),
  ("schedule_delta_days", .int changeOrder.scheduleDeltaDays)]

def invoiceStatus (invoice : StoredArtifacts.Invoice) : Json := .obj [
  ("invoice_id", .str invoice.invoiceId),
  ("description", .str invoice.description),
  ("due_date", .str invoice.dueDate),
  ("total", .float invoice.total),
  ("paid_amount", .float invoice.paidAmount),
  ("outstanding_balance", .float invoice.outstandingBalance),
  ("status", .str invoice.status)]

def communication (message : CustomerMessage) : Json := .obj [
  ("message_id", .str message.messageId),
  ("job_id", .str message.jobId),
  ("channel", .str message.channel),
  ("direction", .str message.direction),
  ("message_date", .str message.messageDate),
  ("subject", .str message.subject),
  ("body", .str message.body)]

def customerProjectProjection : Except PyError Json := do
  let proposal ← getProposal reader store state context job.proposalId
  let rows := store.listTenant state
  let schedules ← comprehension (ofJob reader job.jobId) (artifact reader (scheduleFromDict reader))
    (rows "renovation_schedules" context.tenantId)
  let dailyLogs ← comprehension (isCustomerLog reader job.jobId) Except.ok
    (rows "renovation_daily_logs" context.tenantId)
  let photos ← comprehension (isApprovedPhoto reader job.jobId)
    (artifact reader (photoFromDict reader)) (rows "renovation_photo_records" context.tenantId)
  let changeOrders ← comprehension (isApprovedChangeOrder reader job.jobId)
    (artifact reader (changeOrderFromDict reader)) (rows "renovation_change_orders" context.tenantId)
  let invoices ← comprehension (ofJob reader job.jobId) (artifact reader (invoiceFromDict reader))
    (rows "renovation_invoices" context.tenantId)
  let progress ← recentProgress reader dailyLogs
  .ok (.obj [
    ("job_id", .str job.jobId),
    ("project_title", .str job.title),
    ("project_status", .str job.status),
    ("scope_summary", .arr (proposal.scopeOfWork.map .str)),
    ("current_phase", currentPhase job),
    ("approved_timeline", approvedTimeline schedules),
    ("recent_progress", progress),
    ("approved_photos", .arr ((sortedBy PhotoRecord.photoRecordId photos).map approvedPhoto)),
    ("approved_change_orders", .arr ((sortedBy StoredArtifacts.ChangeOrder.changeOrderId changeOrders).map
      approvedChangeOrder)),
    ("invoice_status", .arr ((sortedBy StoredArtifacts.Invoice.invoiceId invoices).map invoiceStatus))])

def projects (customerId : String) : Except PyError (List Json) := do
  let jobs ← comprehension (isCustomerJob reader store state context customerId)
    (artifact reader (jobFromDict reader))
    (store.listTenant state "renovation_jobs" context.tenantId)
  (sortedBy StoredArtifacts.Job.jobId jobs).mapM (customerProjectProjection reader store state context)

def communications (customerId : String) : Except PyError (List Json) := do
  let messages ← comprehension (isCustomerMessage reader customerId)
    (artifact reader (customerMessageFromDict reader))
    (store.listTenant state "renovation_customer_messages" context.tenantId)
  .ok ((sortedBy (fun message : CustomerMessage => toLex (message.messageDate, message.messageId))
    messages).map communication)

end Projection

/-- The renovation service keeps its store and appends events. -/
structure RenovationService (State : Type) where
  persistence : State
  events : List EventAppend

section Portal

variable (reader : Reader) (sha256 : String → String) {State : Type}
  (store : PersistenceStore State) (context : TenantContext) (customerId generatedDate : String)

/-- The view as it is computed from a store. -/
def computedView (state : State) : Except PyError (CustomerPortalView × List Json × List Json) := do
  let _ ← customerRecord reader store state context customerId
  let projects ← projects reader store state context customerId
  let communications ← communications reader store state context customerId
  let view ← view sha256 context.tenantId customerId generatedDate projects communications
    defaultVisibilityPolicy
  .ok (view, projects, communications)

def portalRecord (view : CustomerPortalView) (projects communications : List Json) : Json := .obj [
  ("tenant_id", .str context.tenantId),
  ("organization_id", .str context.organizationId),
  ("created_by", .str context.principalId),
  ("customer_id", .str customerId),
  ("generated_date", .str generatedDate),
  ("policy", defaultVisibilityPolicy.asDict),
  ("projects", .arr projects),
  ("communications", .arr communications),
  ("artifact", view.asDict)]

/-- The view is stored and announced before it is returned. -/
def customerPortalView : Effect (RenovationService State) CustomerPortalView := do
  let service : RenovationService State ← get
  let (view, projects, communications) ← Effect.ofExcept
    (computedView reader sha256 store context customerId generatedDate service.persistence)
  let persistence ← Effect.ofExcept (store.put service.persistence "renovation_portal_views"
    view.portalViewId (portalRecord context customerId generatedDate view projects communications))
  let event : EventAppend := ⟨"renovation.customer_portal_view_generated", view.portalViewId, .obj [
    ("tenant_id", .str context.tenantId),
    ("organization_id", .str context.organizationId),
    ("customer_id", .str customerId),
    ("portal_view_id", .str view.portalViewId),
    ("policy_id", .str view.policyId),
    ("view_hash", .str view.viewHash)]⟩
  set { service with persistence, events := service.events ++ [event] }
  pure view

end Portal

end AgentFabric.Renovation.CustomerPortal
