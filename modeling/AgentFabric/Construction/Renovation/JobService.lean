import AgentFabric.Construction.Renovation.InvoiceService

namespace AgentFabric.Renovation

structure LeadSource where
  sourceType : String
  sourceName : String
  campaign : String
  referralName : String

structure Lead where
  leadId : String
  tenantId : String
  name : String
  email : String
  phone : String
  propertyAddress : String
  projectType : String
  description : String
  status : String
  source : LeadSource
  createdDate : String
  lastContactDate : String
  lostReason : String
  customerId : String

/-- The keys of the source of a lead, which may be missing. -/
structure LeadSourcePayload where
  sourceType : Option String
  sourceName : Option String
  campaign : Option String
  referralName : Option String

structure LeadPayload where
  name : String
  projectType : String
  createdDate : String
  source : Option LeadSourcePayload
  sourceType : Option String
  email : Option String
  phone : Option String
  propertyAddress : Option String
  description : Option String

structure LeadUpdate where
  status : Option String
  lastContactDate : Option String
  lostReason : Option String

/-- What a conversion changes in the customer of a lead. -/
structure LeadConversion where
  name : Option String
  email : Option String
  phone : Option String
  address : Option String

structure Customer where
  customerId : String
  name : String
  email : String
  phone : String
  address : String

def LeadSource.asDict (source : LeadSource) : Json := .obj [
  ("source_type", .str source.sourceType),
  ("source_name", .str source.sourceName),
  ("campaign", .str source.campaign),
  ("referral_name", .str source.referralName)]

namespace Lead

variable (lead : Lead)

/-- The fields that identify a lead. -/
def identity : List (String × Json) := [
  ("tenant_id", .str lead.tenantId),
  ("name", .str lead.name),
  ("email", .str lead.email),
  ("phone", .str lead.phone),
  ("property_address", .str lead.propertyAddress),
  ("project_type", .str lead.projectType),
  ("description", .str lead.description),
  ("source", lead.source.asDict),
  ("created_date", .str lead.createdDate)]

def asDict : Json :=
  .obj (("lead_id", .str lead.leadId) :: lead.identity ++ [
    ("status", .str lead.status),
    ("last_contact_date", .str lead.lastContactDate),
    ("lost_reason", .str lead.lostReason),
    ("customer_id", .str lead.customerId)])

def exportJson : String := lead.asDict.dumps

end Lead

namespace LeadService
open InvoiceService (strip)

def leadStatuses : List String := ["new", "contacted", "appointment_requested",
  "estimate_scheduled", "proposal_sent", "won", "lost"]

def sourceTypes : List String := ["manual", "website", "referral", "phone"]

def allowedTransitions : List (String × List String) := [
  ("new", ["contacted", "appointment_requested", "lost"]),
  ("contacted", ["appointment_requested", "estimate_scheduled", "lost"]),
  ("appointment_requested", ["contacted", "estimate_scheduled", "lost"]),
  ("estimate_scheduled", ["proposal_sent", "lost"]),
  ("proposal_sent", ["won", "lost"]),
  ("won", []),
  ("lost", [])]

/-- The statuses that may follow a status. -/
def transitionsOf (status : String) : Except PyError (List String) :=
  match allowedTransitions.lookup status with
  | none => .error (.keyError status)
  | some next => .ok next

/-- The source of a payload with its defaults. -/
def leadSource (payload : LeadPayload) : LeadSource :=
  let given := payload.source.getD ⟨none, none, none, none⟩
  let sourceType := given.sourceType.getD (payload.sourceType.getD "manual")
  { sourceType
    sourceName := given.sourceName.getD sourceType
    campaign := given.campaign.getD ""
    referralName := given.referralName.getD "" }

variable (sha256 : String → String) (tenantId : String)

def create (payload : LeadPayload) : Except PyError Lead := do
  let createdDate ← Date.fromisoformat payload.createdDate
  let source := leadSource payload
  if source.sourceType ∉ sourceTypes then .error (.valueError "invalid renovation lead source")
  else if strip payload.name = "" ∨ strip payload.projectType = "" then
    .error (.valueError "lead name and project type are required")
  else
    let unnamed : Lead := {
      leadId := ""
      tenantId
      name := strip payload.name
      email := strip (payload.email.getD "")
      phone := strip (payload.phone.getD "")
      propertyAddress := strip (payload.propertyAddress.getD "")
      projectType := strip payload.projectType
      description := strip (payload.description.getD "")
      status := "new"
      source
      createdDate := createdDate.isoformat
      lastContactDate := ""
      lostReason := ""
      customerId := "" }
    .ok { unnamed with
      leadId := "lead-" ++ digestPrefix sha256 20 (.obj unnamed.identity) }

/-- A status is kept or follows an allowed transition. -/
def checkTransition (current status : String) : Except PyError Unit :=
  if status ∉ leadStatuses then .error (.valueError "invalid renovation lead status")
  else if status = current then .ok ()
  else do
    let next ← transitionsOf current
    if status ∈ next then .ok ()
    else .error (.valueError ("invalid lead transition: " ++ current ++ " -> " ++ status))

/-- A contact date is empty or readable. -/
def checkContactDate (text : String) : Except PyError Unit :=
  if text = "" then .ok ()
  else do
    let _ ← Date.fromisoformat text
    .ok ()

variable (lead : Lead)

def update (payload : LeadUpdate) : Except PyError Lead := do
  let status := payload.status.getD lead.status
  checkTransition lead.status status
  let lastContactDate := payload.lastContactDate.getD lead.lastContactDate
  checkContactDate lastContactDate
  let lostReason := payload.lostReason.getD lead.lostReason
  if status = "lost" ∧ strip lostReason = "" then
    .error (.valueError "lost lead requires a reason")
  else .ok { lead with status, lastContactDate, lostReason }

def convert (customerId : String) : Except PyError Lead :=
  if lead.status ≠ "won" then .error (.valueError "only won leads may be converted")
  else if lead.customerId ≠ "" then .error (.valueError "lead is already converted")
  else .ok { lead with customerId }

/-- The customer of a lead, whose id digests all that the conversion gives. -/
def customer (leadId : String) (payload : LeadConversion) : Customer :=
  let name := payload.name.getD lead.name
  let email := payload.email.getD lead.email
  let phone := payload.phone.getD lead.phone
  let address := payload.address.getD lead.propertyAddress
  { customerId := "customer-" ++ digestPrefix sha256 20 (.obj [
      ("tenant_id", .str tenantId),
      ("lead_id", .str leadId),
      ("name", .str name),
      ("email", .str email),
      ("phone", .str phone),
      ("address", .str address)])
    name, email, phone, address }

end LeadService

/-- A phase of the timeline of a proposal. -/
structure Timeline where
  phase : String
  durationDays : Int
  sequence : Int

/-- The part of a proposal that the jobs and the change orders read. -/
structure Proposal where
  proposalId : String
  tenantId : String
  projectId : String
  title : String
  estimateId : String
  estimate : Json
  timeline : List Timeline
  templateId : String

/-- A job with all its fields. -/
structure AcceptedJob extends Job where
  proposalId : String
  projectId : String
  title : String
  status : String
  acceptanceReference : String
  currentPhase : String
  templateId : String

/-- The payload of a job, whose status may be missing. -/
structure JobPayload where
  proposalId : String
  accepted : Bool
  acceptedDate : String
  acceptanceReference : String
  status : Option String

/-- The payload of an update, each of whose keys may be missing, with its unread keys. -/
structure JobUpdate where
  status : Option String
  currentPhase : Option String
  phaseStatuses : Option (Dict String String)
  unread : List (String × Json)

namespace JobUpdate

/-- The status that an update gives to a phase. -/
def phaseStatus (phaseId : String) (update : JobUpdate) : Option String :=
  update.phaseStatuses.bind fun statuses => statuses.get? phaseId

/-- An empty dict counts as no update. -/
def isEmpty (update : JobUpdate) : Bool :=
  update.status.isNone && update.currentPhase.isNone && update.phaseStatuses.isNone &&
    update.unread.isEmpty

theorem none_of_isEmpty {update : JobUpdate} (empty : update.isEmpty = true) :
    update.status = none ∧ update.currentPhase = none ∧
      ∀ phaseId, update.phaseStatus phaseId = none := by
  simp only [isEmpty, Bool.and_eq_true, Option.isNone_iff_eq_none] at empty
  obtain ⟨⟨⟨status, currentPhase⟩, phaseStatuses⟩, _⟩ := empty
  refine ⟨status, currentPhase, fun phaseId => ?_⟩
  rw [phaseStatus, phaseStatuses]
  rfl

end JobUpdate

def JobPhase.asDict (phase : JobPhase) : Json := .obj [
  ("phase_id", .str phase.phaseId),
  ("name", .str phase.name),
  ("sequence", .int phase.sequence),
  ("duration_days", .int phase.durationDays),
  ("status", .str phase.status)]

namespace AcceptedJob

variable (job : AcceptedJob)

def asDict : Json := .obj [
  ("job_id", .str job.jobId),
  ("tenant_id", .str job.tenantId),
  ("proposal_id", .str job.proposalId),
  ("project_id", .str job.projectId),
  ("title", .str job.title),
  ("status", .str job.status),
  ("accepted_date", .str job.acceptedDate),
  ("acceptance_reference", .str job.acceptanceReference),
  ("phases", .arr (job.phases.map JobPhase.asDict)),
  ("current_phase", .str job.currentPhase),
  ("template_id", .str job.templateId)]

def exportJson : String := job.asDict.dumps

end AcceptedJob

namespace JobService
open InvoiceService (strip)

def jobStatuses : List String := ["planned", "active", "on_hold", "completed", "cancelled"]

def phaseStatuses : List String := ["pending", "active", "completed", "skipped"]

/-- The index of a phase is written with two digits. -/
def phaseName (index : Nat) : String :=
  if index < 10 then "phase-0" ++ toString index else "phase-" ++ toString index

/-- The phases of a new job, the first of which is active. -/
def openingPhases (timeline : List Timeline) : List JobPhase :=
  (timeline.zipIdx 1).map fun (item, index) => {
    phaseId := phaseName index
    name := item.phase
    sequence := item.sequence
    durationDays := item.durationDays
    status := if index = 1 then "active" else "pending" }

def firstPhase (phases : List JobPhase) : String :=
  (phases.head?.map JobPhase.phaseId).getD ""

def create (sha256 : String → String) (tenantId : String) (proposal : Proposal)
    (payload : JobPayload) : Except PyError AcceptedJob :=
  let acceptedDate := strip payload.acceptedDate
  let reference := strip payload.acceptanceReference
  let phases := openingPhases proposal.timeline
  if proposal.tenantId ≠ tenantId then
    .error (.permissionError "cross-tenant proposal access denied")
  else if ¬ payload.accepted then
    .error (.valueError "accepted proposal is required to create a job")
  else if acceptedDate = "" ∨ reference = "" then
    .error (.valueError "acceptance date and reference are required")
  else .ok {
    jobId := "job-" ++ digestPrefix sha256 20 (.obj [
      ("tenant_id", .str tenantId),
      ("proposal_id", .str proposal.proposalId),
      ("accepted_date", .str acceptedDate),
      ("acceptance_reference", .str reference)])
    tenantId
    proposalId := proposal.proposalId
    projectId := proposal.projectId
    title := proposal.title
    status := payload.status.getD "active"
    acceptedDate
    acceptanceReference := reference
    phases
    currentPhase := firstPhase phases
    templateId := proposal.templateId }

/-- A phase takes the status that the update gives it. -/
def updatePhase (update : JobUpdate) (phase : JobPhase) : Except PyError JobPhase :=
  let status := (update.phaseStatus phase.phaseId).getD phase.status
  if status ∉ phaseStatuses then .error (.valueError "invalid job phase status")
  else .ok { phase with status }

def update (job : AcceptedJob) (payload : JobUpdate) : Except PyError AcceptedJob :=
  let status := payload.status.getD job.status
  let currentPhase := payload.currentPhase.getD job.currentPhase
  if status ∉ jobStatuses then .error (.valueError "invalid renovation job status")
  else if currentPhase ≠ "" ∧ currentPhase ∉ job.phases.map JobPhase.phaseId then
    .error (.valueError "current job phase does not exist")
  else do
    let phases ← job.phases.mapM (updatePhase payload)
    .ok { job with status, currentPhase, phases }

end JobService

end AgentFabric.Renovation
