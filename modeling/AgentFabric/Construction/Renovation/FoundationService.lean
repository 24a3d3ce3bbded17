import AgentFabric.Construction.Cloud.Runtime
import AgentFabric.Construction.Renovation.ChangeOrderService
import AgentFabric.Construction.Renovation.JobService
import AgentFabric.Construction.Renovation.SchedulingService
import AgentFabric.Construction.Renovation.TenantRecord

namespace AgentFabric.Renovation
open Cloud

/-- The record of a job keeps its payload and its last update. -/
structure JobInputs where
  payload : JobPayload
  lastUpdate : Option JobUpdate

/-- The record of a lead keeps its payload, its updates and its conversion. -/
structure LeadInputs where
  payload : LeadPayload
  updates : List LeadUpdate
  conversion : Option LeadConversion

abbrev SchedulePayload := List (String × Json)

/-- The row of an artifact that another artifact brings along. -/
structure RelatedRow (Artifact : Type) where
  tenantId : String
  organizationId : String
  createdBy : String
  relatedId : String
  artifact : Artifact

def RelatedRow.new {Artifact : Type} (context : TenantContext) (relatedId : String)
    (artifact : Artifact) : RelatedRow Artifact where
  tenantId := context.tenantId
  organizationId := context.organizationId
  createdBy := context.principalId
  relatedId := relatedId
  artifact := artifact

/-- What a recalculation of a schedule read and made. -/
structure Recalculation where
  revision : Int
  input : SchedulePayload
  inputs : RecalculationInputs
  scheduleHash : String

/-- The collections that the calls on jobs, change orders, schedules and leads only read, and the
code that they run on. -/
structure FoundationSources where
  proposals : Dict String (Record Json Proposal)
  estimates : Dict String (Record Json Json)
  noteJobs : Dict String (Record Json String)
  tools : ChangeOrderTools
  interpreter : Interpreter
  sha256 : String → String

/-- The collections that these calls write. -/
structure FoundationState where
  jobs : Dict String (Record JobInputs AcceptedJob)
  changeOrders : Dict String (Record ChangeOrderPayload ChangeOrder)
  approvals : Dict String (RelatedRow ChangeOrderApproval)
  schedules : Dict String (Record SchedulePayload Schedule)
  recalculations : Dict String (RelatedRow Recalculation)
  delayImpacts : Dict String (RelatedRow DelayImpact)
  leads : Dict String (Record LeadInputs Lead)
  customers : Dict String (RelatedRow Customer)
  events : List EventAppend

namespace FoundationState

def initial : FoundationState := ⟨Dict.empty, Dict.empty, Dict.empty, Dict.empty, Dict.empty,
  Dict.empty, Dict.empty, Dict.empty, []⟩

def append (state : FoundationState) (context : TenantContext) (eventType aggregateId : String)
    (values : List (String × Json)) : FoundationState :=
  { state with events := state.events ++ [⟨eventType, aggregateId,
      .obj (("tenant_id", .str context.tenantId) ::
        ("organization_id", .str context.organizationId) :: values)⟩] }

variable (sources : FoundationSources) (state : FoundationState) (context : TenantContext)

section Jobs

variable (jobId : String)

def getJob : Except PyError AcceptedJob := do
  let record ← tenantRecord context state.jobs jobId "job"
  .ok record.artifact

def getProposal (proposalId : String) : Except PyError Proposal := do
  let record ← tenantRecord context sources.proposals proposalId "proposal"
  .ok record.artifact

variable (payload : JobPayload)

/-- The job that a payload makes of its proposal. -/
def newJob : Except PyError AcceptedJob := do
  let proposal ← getProposal sources context payload.proposalId
  JobService.create sources.sha256 context.tenantId proposal payload

def createJob : Except PyError AcceptedJob × FoundationState :=
  match newJob sources context payload with
  | .error exception => (.error exception, state)
  | .ok job =>
      let stored := { state with
        jobs := state.jobs.set job.jobId (.new context ⟨payload, none⟩ job) }
      (.ok job, stored.append context "renovation.job_created" job.jobId [
        ("job_id", .str job.jobId),
        ("proposal_id", .str job.proposalId),
        ("artifact_hash", .str (sources.sha256 job.exportJson))])

/-- The record of a job after an update. -/
def updatedJob (payload : JobUpdate) : Except PyError (Record JobInputs AcceptedJob) := do
  let record ← tenantRecord context state.jobs jobId "job"
  let updated ← JobService.update record.artifact payload
  .ok { record with
    artifact := updated
    input := { record.input with lastUpdate := some payload } }

def updateJob (payload : JobUpdate) : Except PyError AcceptedJob × FoundationState :=
  match updatedJob state context jobId payload with
  | .error exception => (.error exception, state)
  | .ok record =>
      let updated := record.artifact
      let stored := { state with jobs := state.jobs.set jobId record }
      (.ok updated, stored.append context "renovation.job_updated" jobId [
        ("job_id", .str jobId),
        ("status", .str updated.status),
        ("current_phase", .str updated.currentPhase),
        ("artifact_hash", .str (sources.sha256 updated.exportJson))])

/-- The last update of a record is submitted again if it is not empty. -/
def repeatUpdate (created : AcceptedJob) : Option JobUpdate → Except PyError AcceptedJob
  | none => .ok created
  | some payload => if payload.isEmpty then .ok created else JobService.update created payload

/-- The stored payload is submitted again, and then the last update. -/
def replayJob : Except PyError AcceptedJob := do
  let record ← tenantRecord context state.jobs jobId "job"
  let created ← newJob sources context record.input.payload
  let replayed ← repeatUpdate created record.input.lastUpdate
  if replayed.exportJson ≠ record.artifact.exportJson then
    .error (.valueError "renovation job replay diverged")
  else .ok replayed

end Jobs

section ChangeOrders

/-- A change order that a field note asks for belongs to the job of the note. -/
def checkNote (jobId : String) (payload : ChangeOrderPayload) : Except PyError Unit :=
  if payload.source = "field_note" then do
    let note ← tenantRecord context sources.noteJobs payload.sourceReference "field note"
    if note.artifact ≠ jobId then
      .error (.authorizationError "field note belongs to a different renovation job")
    else .ok ()
  else .ok ()

variable (payload : ChangeOrderPayload)

/-- The change order that a payload makes of the proposal of its job. -/
def newChangeOrder : Except PyError ChangeOrder := do
  let job ← getJob state context payload.jobId
  checkNote sources context job.jobId payload
  let proposal ← getProposal sources context job.proposalId
  let estimate ← tenantRecord context sources.estimates proposal.estimateId "estimate"
  ChangeOrderService.create sources.tools sources.sha256 context.tenantId job.jobId
    proposal.proposalId proposal.estimate estimate.input payload

def createChangeOrder : Except PyError ChangeOrder × FoundationState :=
  match newChangeOrder sources state context payload with
  | .error exception => (.error exception, state)
  | .ok order =>
      let stored := { state with
        changeOrders := state.changeOrders.set order.changeOrderId (.new context payload order) }
      (.ok order, stored.append context "renovation.change_order_created" order.changeOrderId [
        ("job_id", .str order.jobId),
        ("change_order_id", .str order.changeOrderId),
        ("status", .str order.status),
        ("template_id", .str order.templateId),
        ("artifact_hash", .str (sources.sha256 order.exportJson))])

/-- The payload of a decision, whose reason and author may be missing. -/
structure DecisionPayload where
  decisionDate : String
  decidedBy : Option String
  reason : Option String

variable (changeOrderId decision : String)

/-- The record of a change order after a decision. -/
def decidedChangeOrder (payload : DecisionPayload) :
    Except PyError (Record ChangeOrderPayload ChangeOrder) := do
  let record ← tenantRecord context state.changeOrders changeOrderId "change order"
  let updated ← ChangeOrderService.decide sources.tools sources.sha256 record.artifact decision
    payload.decisionDate (payload.decidedBy.getD context.principalId) (payload.reason.getD "")
  .ok { record with artifact := updated }

def decideChangeOrder (payload : DecisionPayload) : Except PyError ChangeOrder × FoundationState :=
  match decidedChangeOrder sources state context changeOrderId decision payload with
  | .error exception => (.error exception, state)
  | .ok record =>
      let updated := record.artifact
      let stored := { state with changeOrders := state.changeOrders.set changeOrderId record }
      match updated.approvalHistory.getLast? with
      | none => (.error (.indexError "tuple index out of range"), stored)
      | some approval =>
          let approved := { stored with
            approvals := stored.approvals.set approval.approvalId
              (.new context updated.jobId approval) }
          let eventType := if decision = "approved" then "renovation.change_order_approved"
            else "renovation.change_order_rejected"
          (.ok updated, approved.append context eventType changeOrderId [
            ("job_id", .str updated.jobId),
            ("change_order_id", .str changeOrderId),
            ("approval_id", .str approval.approvalId),
            ("status", .str updated.status),
            ("artifact_hash", .str (sources.sha256 updated.exportJson))])

end ChangeOrders

section Schedules

/-- The schedule that a payload makes of its job. -/
def newSchedule (payload : SchedulePayload) : Except PyError Schedule := do
  let jobId ← Interpreter.subscript (.obj payload) "job_id"
  let job ← getJob state context (sources.interpreter.str jobId)
  create sources.interpreter sources.sha256 context.tenantId job.toJob payload

def createSchedule (payload : SchedulePayload) : Except PyError Schedule × FoundationState :=
  match newSchedule sources state context payload with
  | .error exception => (.error exception, state)
  | .ok schedule =>
      let stored := { state with
        schedules := state.schedules.set schedule.scheduleId (.new context payload schedule) }
      (.ok schedule, stored.append context "renovation.schedule_created" schedule.scheduleId [
        ("job_id", .str schedule.jobId),
        ("schedule_id", .str schedule.scheduleId),
        ("schedule_hash", .str schedule.scheduleHash)])

variable (scheduleId : String) (inputs : RecalculationInputs)

/-- The record of a schedule after a recalculation. -/
def recalculatedSchedule
    (payload : SchedulePayload) : Except PyError (Record SchedulePayload Schedule) := do
  let record ← tenantRecord context state.schedules scheduleId "schedule"
  let recalculated ← recalculate sources.sha256 sources.interpreter record.artifact inputs payload
  .ok { record with artifact := recalculated }

/-- A revision is written with six digits. -/
def revisionKey (revision : Int) : String :=
  let digits := toString revision
  scheduleId ++ ":" ++ String.ofList (List.replicate (6 - digits.length) '0') ++ digits

/-- The delay of a phase is stored and announced. -/
def storeImpact (schedule : Schedule) (state : FoundationState) (impact : DelayImpact) :
    FoundationState :=
  let stored := { state with
    delayImpacts := state.delayImpacts.set impact.delayId (.new context schedule.jobId impact) }
  stored.append context "renovation.delay_detected" impact.delayId [
    ("job_id", .str schedule.jobId),
    ("schedule_id", .str schedule.scheduleId),
    ("delay_id", .str impact.delayId),
    ("delay_days", .int impact.delayDays)]

def recalculateSchedule (payload : SchedulePayload) : Except PyError Schedule × FoundationState :=
  match recalculatedSchedule sources state context scheduleId inputs payload with
  | .error exception => (.error exception, state)
  | .ok record =>
      let schedule := record.artifact
      let stored := { state with
        schedules := state.schedules.set scheduleId record
        recalculations := state.recalculations.set (revisionKey scheduleId schedule.revision)
          (.new context scheduleId {
            revision := schedule.revision
            input := payload
            inputs
            scheduleHash := schedule.scheduleHash }) }
      let impacted := schedule.delayImpacts.foldl (storeImpact context schedule) stored
      let announced := impacted.append context "renovation.schedule_recalculated" scheduleId [
        ("job_id", .str schedule.jobId),
        ("schedule_id", .str scheduleId),
        ("revision", .int schedule.revision),
        ("projected_completion_date", .str schedule.projectedCompletionDate.isoformat),
        ("schedule_hash", .str schedule.scheduleHash)]
      (.ok schedule, announced.append context "renovation.schedule_updated" scheduleId [
        ("job_id", .str schedule.jobId),
        ("schedule_id", .str scheduleId),
        ("update_type", .str "recalculation")])

end Schedules

section Leads

def createLead (payload : LeadPayload) : Except PyError Lead × FoundationState :=
  match LeadService.create sources.sha256 context.tenantId payload with
  | .error exception => (.error exception, state)
  | .ok lead =>
      let stored := { state with
        leads := state.leads.set lead.leadId (.new context ⟨payload, [], none⟩ lead) }
      (.ok lead, stored.append context "renovation.lead_created" lead.leadId [
        ("lead_id", .str lead.leadId),
        ("status", .str lead.status),
        ("source_type", .str lead.source.sourceType),
        ("artifact_hash", .str (sources.sha256 lead.exportJson))])

variable (leadId : String)

/-- The record of a lead before and after an update. -/
def updatedLead (payload : LeadUpdate) : Except PyError (Lead × Record LeadInputs Lead) := do
  let record ← tenantRecord context state.leads leadId "lead"
  let updated ← LeadService.update record.artifact payload
  .ok (record.artifact, { record with
    artifact := updated
    input := { record.input with updates := record.input.updates ++ [payload] } })

def updateLead (payload : LeadUpdate) : Except PyError Lead × FoundationState :=
  match updatedLead state context leadId payload with
  | .error exception => (.error exception, state)
  | .ok (lead, record) =>
      let updated := record.artifact
      let stored := { state with leads := state.leads.set leadId record }
      (.ok updated, stored.append context "renovation.lead_updated" leadId [
        ("lead_id", .str leadId),
        ("previous_status", .str lead.status),
        ("status", .str updated.status),
        ("artifact_hash", .str (sources.sha256 updated.exportJson))])

variable (payload : LeadConversion)

/-- The customer and the record of a lead after its conversion. -/
def convertedLead : Except PyError (Customer × Record LeadInputs Lead) := do
  let record ← tenantRecord context state.leads leadId "lead"
  let customer := LeadService.customer sources.sha256 context.tenantId record.artifact leadId payload
  let updated ← LeadService.convert record.artifact customer.customerId
  .ok (customer, { record with
    artifact := updated
    input := { record.input with conversion := some payload } })

def convertLead : Except PyError Customer × FoundationState :=
  match convertedLead sources state context leadId payload with
  | .error exception => (.error exception, state)
  | .ok (customer, record) =>
      let stored := { state with
        leads := state.leads.set leadId record
        customers := state.customers.set customer.customerId (.new context leadId customer) }
      (.ok customer, stored.append context "renovation.lead_converted" leadId [
        ("lead_id", .str leadId),
        ("customer_id", .str customer.customerId)])

end Leads

end FoundationState

/-- The calls on jobs, change orders, schedules and leads. -/
inductive FoundationCall where
  | createJob (context : TenantContext) (payload : JobPayload)
  | updateJob (context : TenantContext) (jobId : String) (payload : JobUpdate)
  | createChangeOrder (context : TenantContext) (payload : ChangeOrderPayload)
  | decideChangeOrder (context : TenantContext) (changeOrderId decision : String)
      (payload : FoundationState.DecisionPayload)
  | createSchedule (context : TenantContext) (payload : SchedulePayload)
  | recalculateSchedule (context : TenantContext) (scheduleId : String)
      (inputs : RecalculationInputs) (payload : SchedulePayload)
  | createLead (context : TenantContext) (payload : LeadPayload)
  | updateLead (context : TenantContext) (leadId : String) (payload : LeadUpdate)
  | convertLead (context : TenantContext) (leadId : String) (payload : LeadConversion)

/-- The artifact that a call returns. -/
inductive FoundationAnswer where
  | job (job : AcceptedJob)
  | changeOrder (order : ChangeOrder)
  | schedule (schedule : Schedule)
  | lead (lead : Lead)
  | customer (customer : Customer)

/-- One call on jobs, change orders, schedules and leads. -/
def FoundationState.step (sources : FoundationSources) (state : FoundationState) :
    FoundationCall → Except PyError FoundationAnswer × FoundationState
  | .createJob context payload =>
      let (answer, after) := state.createJob sources context payload
      (answer.map .job, after)
  | .updateJob context jobId payload =>
      let (answer, after) := state.updateJob sources context jobId payload
      (answer.map .job, after)
  | .createChangeOrder context payload =>
      let (answer, after) := state.createChangeOrder sources context payload
      (answer.map .changeOrder, after)
  | .decideChangeOrder context changeOrderId decision payload =>
      let (answer, after) := state.decideChangeOrder sources context changeOrderId decision payload
      (answer.map .changeOrder, after)
  | .createSchedule context payload =>
      let (answer, after) := state.createSchedule sources context payload
      (answer.map .schedule, after)
  | .recalculateSchedule context scheduleId inputs payload =>
      let (answer, after) := state.recalculateSchedule sources context scheduleId inputs payload
      (answer.map .schedule, after)
  | .createLead context payload =>
      let (answer, after) := state.createLead sources context payload
      (answer.map .lead, after)
  | .updateLead context leadId payload =>
      let (answer, after) := state.updateLead sources context leadId payload
      (answer.map .lead, after)
  | .convertLead context leadId payload =>
      let (answer, after) := state.convertLead sources context leadId payload
      (answer.map .customer, after)

end AgentFabric.Renovation
