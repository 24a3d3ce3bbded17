import AgentFabric.Construction.Cloud.Runtime
import AgentFabric.Construction.Renovation.InvoiceService
import AgentFabric.Construction.Renovation.TenantRecord

namespace AgentFabric.Renovation
open Cloud Transition

inductive WorkflowStep where
  | lead
  | estimate
  | proposal
  | job
  | schedule
  | costProfitability
  | invoicePayment
  | portalStatus
  deriving DecidableEq

def WorkflowStep.name : WorkflowStep → String
  | lead => "lead"
  | estimate => "estimate"
  | proposal => "proposal"
  | job => "job"
  | schedule => "schedule"
  | costProfitability => "cost_profitability"
  | invoicePayment => "invoice_payment"
  | portalStatus => "portal_status"

def workflowSteps : List WorkflowStep :=
  [.lead, .estimate, .proposal, .job, .schedule, .costProfitability, .invoicePayment, .portalStatus]

inductive StepStatus where
  | pending
  | running
  | completed
  | failed
  deriving DecidableEq

inductive RunStatus where
  | running
  | completed
  | failed
  deriving DecidableEq

/-- The fields of a JSON object. -/
abbrev Fields := List (String × Json)

structure StepRecord where
  status : StepStatus
  output : Fields
  error : String

/-- What the handlers of the steps add to a run besides their outputs. -/
structure RunSummaries where
  financialSummary : Json
  portal : Json
  customerStatus : Json

/-- A run has a record for each step, and an absent failed step is an empty text. -/
structure MvpRun where
  runId : String
  tenantId : String
  organizationId : String
  createdBy : String
  idempotencyKey : String
  status : RunStatus
  payload : Fields
  steps : WorkflowStep → StepRecord
  entityIds : Dict String String
  summaries : RunSummaries
  error : String
  failedStep : Option WorkflowStep
  replayCount : Int
  resumeCount : Int

/-- The part of a run that a caller gets. -/
structure PublicRun where
  runId : String
  tenantId : String
  status : RunStatus
  idempotencyKey : String
  steps : WorkflowStep → StepRecord
  entityIds : Dict String String
  summaries : RunSummaries
  error : String
  failedStep : Option WorkflowStep
  replayCount : Int
  resumeCount : Int

structure IdempotencyEntry where
  tenantId : String
  idempotencyKey : String
  runId : String

/-- The collections of the runs and of their idempotency keys. -/
structure MvpStore where
  runs : Dict String MvpRun
  idempotency : Dict String IdempotencyEntry

/-- What a call does in order: it persists a record, calls the handler of a step or appends an
event. -/
inductive MvpEffect where
  | putRun (run : MvpRun)
  | putIdempotency (key : String) (entry : IdempotencyEntry)
  | called (runId : String) (step : WorkflowStep)
  | event (event : EventAppend)

namespace MvpStore

def initial : MvpStore := ⟨Dict.empty, Dict.empty⟩

def apply (store : MvpStore) : MvpEffect → MvpStore
  | .putRun run => { store with runs := store.runs.set run.runId run }
  | .putIdempotency key entry => { store with idempotency := store.idempotency.set key entry }
  | .called _ _ => store
  | .event _ => store

def step : Machine MvpStore MvpEffect Unit := fun store effect => ((), store.apply effect)

/-- The store after some effects. -/
def after (store : MvpStore) (effects : List MvpEffect) : MvpStore := run step store effects

end MvpStore

/-- What the handler of a step does: it returns an output or raises, and it may change the
summaries of the run. -/
structure StepOutcome where
  result : Except String Fields
  summaries : RunSummaries

namespace MvpRun

variable (run : MvpRun)

def publicRun : PublicRun where
  runId := run.runId
  tenantId := run.tenantId
  status := run.status
  idempotencyKey := run.idempotencyKey
  steps := run.steps
  entityIds := run.entityIds
  summaries := run.summaries
  error := run.error
  failedStep := run.failedStep
  replayCount := run.replayCount
  resumeCount := run.resumeCount

def setStep (step : WorkflowStep) (record : StepRecord) : MvpRun :=
  { run with steps := fun query => if query = step then record else run.steps query }

/-- The texts of an output under keys that end in `_id` are ids of entities. -/
def mergeEntityIds (output : Fields) : MvpRun :=
  { run with entityIds := output.foldl (fun ids field =>
      match field.2 with
      | .str value => if "_id".toList.isSuffixOf field.1.toList then ids.set field.1 value else ids
      | _ => ids) run.entityIds }

end MvpRun

namespace MvpWorkflow

/-- The default payload of a run. -/
def defaultMvpPayload : Fields := [
  ("lead", .obj [
    ("name", .str "Morgan Homeowner"),
    ("email", .str "morgan@example.com"),
    ("phone", .str "555-0140"),
    ("property_address", .str "200 Oak Street"),
    ("project_type", .str "kitchen_remodel"),
    ("description", .str "Replace cabinets, counters, and flooring."),
    ("created_date", .str "2026-08-01"),
    ("source", .obj [
      ("source_type", .str "website"),
      ("source_name", .str "renovationos-demo"),
      ("campaign", .str "mvp-demo")])]),
  ("estimate", .obj [
    ("project_id", .str "project-mvp-kitchen"),
    ("scope_description", .str "Cabinet replacement\nFlooring replacement"),
    ("rooms", .arr [.obj [
      ("name", .str "Kitchen"),
      ("length_ft", .int 20),
      ("width_ft", .int 15),
      ("quantity", .int 1),
      ("notes", .str "Main floor")]]),
    ("quantities", .obj [("cabinetry", .int 10), ("flooring", .int 300)]),
    ("labor_rate", .int 65),
    ("contingency_percentage", .int 10),
    ("tax_percentage", .int 6),
    ("notes", .str "MVP deterministic estimate")]),
  ("proposal", .obj [
    ("project", .obj [
      ("project_id", .str "project-mvp-kitchen"),
      ("title", .str "Kitchen Remodel"),
      ("property_address", .str "200 Oak Street"),
      ("notes", .str "Occupied residence")]),
    ("template_id", .str "standard_proposal")]),
  ("job", .obj [
    ("accepted", .bool true),
    ("accepted_date", .str "2026-08-03"),
    ("acceptance_reference", .str "mvp-signed-proposal")]),
  ("schedule", .obj [("start_date", .str "2026-08-10")]),
  ("daily_log", .obj [
    ("work_date", .str "2026-08-10"),
    ("summary", .str "Completed site protection and cabinet field verification."),
    ("weather", .str "Clear"),
    ("crew_hours", .int 12),
    ("completed_work", .arr [.str "Site protection", .str "Cabinet measurement"]),
    ("next_steps", .arr [.str "Begin demolition", .str "Confirm flooring delivery"])]),
  ("cost", .obj [
    ("cost_date", .str "2026-08-11"),
    ("category", .str "material"),
    ("description", .str "Cabinet package"),
    ("quantity", .int 10),
    ("unit", .str "cabinet"),
    ("unit_cost", .int 900),
    ("source_reference", .str "vendor-invoice-mvp")]),
  ("invoice", .obj [
    ("invoice_date", .str "2026-08-03"),
    ("due_date", .str "2026-08-17"),
    ("description", .str "Project deposit"),
    ("amount", .int 5000),
    ("tax", .int 0)]),
  ("payment", .obj [
    ("payment_date", .str "2026-08-05"),
    ("amount", .int 1000),
    ("method", .str "ach")]),
  ("message", .obj [
    ("channel", .str "portal"),
    ("message_date", .str "2026-08-10"),
    ("body", .str "Site protection is complete and the project is on schedule.")]),
  ("generated_date", .str "2026-08-10")]

mutual

/-- An override merges into an object and replaces any other value. -/
def mergeValue : Option Json → Json → Json
  | some (.obj base), .obj fields => .obj (deepMerge base fields)
  | _, value => value

def deepMerge (merged : Fields) : Fields → Fields
  | [] => merged
  | (key, value) :: rest =>
      deepMerge (Dict.setItems key (mergeValue (merged.lookup key) value) merged) rest

end

section Requests

variable (interpreter : Interpreter)

/-- `dict` of a JSON value whose keys are texts. -/
def fieldsOf (value : Json) : Except PyError Fields := do
  (← interpreter.dict value).mapM fun item =>
    match item.1 with
    | .str key => .ok (key, item.2)
    | _ => .error (.typeError "keys must be str")

/-- A field that a caller gives beside the proposal moves into it. -/
def moveIntoProposal (key : String) (overrides : Fields) : Except PyError Fields :=
  match overrides.lookup key with
  | none => .ok overrides
  | some value => do
      let proposal ← fieldsOf interpreter ((overrides.lookup "proposal").getD (.obj []))
      let remaining := overrides.filter fun field => field.1 ≠ key
      .ok (Dict.setItems "proposal" (.obj (Dict.setItems key value proposal)) remaining)

def normalizedPayload (request : Fields) : Except PyError Fields := do
  let given ← fieldsOf interpreter ((request.lookup "payload").getD (.obj request))
  let overrides := given.filter fun field => field.1 ∉ ["run_id", "idempotency_key"]
  let overrides ← moveIntoProposal interpreter "project" overrides
  let overrides ← moveIntoProposal interpreter "customer" overrides
  .ok (deepMerge defaultMvpPayload overrides)

def idempotencyKey (request : Fields) : String :=
  InvoiceService.strip (interpreter.str ((request.lookup "idempotency_key").getD (.str "")))

variable (sha256 : String → String) (context : TenantContext)

/-- Without a key the id is drawn. -/
def stableRunId (idempotencyKey : String) (payload : Fields) (drawn : String) : String :=
  if idempotencyKey = "" then "mvp-run-" ++ drawn
  else "mvp-run-" ++ digestPrefix sha256 24 (.obj [
    ("tenant_id", .str context.tenantId),
    ("idempotency_key", .str idempotencyKey),
    ("payload", .obj payload)])

/-- The id that a caller gives, or else the stable one. -/
def requestedRunId (request : Fields)
    (idempotencyKey : String) (payload : Fields) (drawn : String) : String :=
  match request.lookup "run_id" with
  | none => stableRunId sha256 context idempotencyKey payload drawn
  | some value =>
      if value.truthy then interpreter.str value
      else stableRunId sha256 context idempotencyKey payload drawn

end Requests

variable (store : MvpStore) (context : TenantContext)

def event (eventType subjectId : String) (values : Fields) : MvpEffect :=
  .event ⟨eventType, subjectId, .obj ([
    ("tenant_id", .str context.tenantId),
    ("organization_id", .str context.organizationId),
    ("actor_id", .str context.principalId)] ++ values)⟩

variable (runId : String)

def tenantRun : Except PyError MvpRun :=
  match store.runs.get? runId with
  | none => .error (.keyError "MVP run not found")
  | some run =>
      if run.tenantId ≠ context.tenantId then .error (.keyError "MVP run not found") else .ok run

def idempotencyIndexKey (idempotencyKey : String) : String :=
  context.tenantId ++ ":" ++ idempotencyKey

/-- The run of an idempotency key that was used before. -/
def getIdempotent (idempotencyKey : String) : Option PublicRun := do
  let index ← store.idempotency.get? (idempotencyIndexKey context idempotencyKey)
  let run ← store.runs.get? index.runId
  some run.publicRun

/-- The steps run in their order until one fails, and a completed step is passed over. -/
def execute (outcomes : WorkflowStep → StepOutcome) :
    List WorkflowStep → MvpRun → List MvpEffect × MvpRun
  | [], run =>
      let completed := { run with status := .completed, error := "", failedStep := none }
      ([.putRun completed,
        event context "renovation.mvp.run.completed" run.runId [
          ("entity_ids", .obj (run.entityIds.items.map fun item => (item.1, .str item.2)))]],
        completed)
  | step :: rest, run =>
      let record := run.steps step
      if record.status = .completed then execute outcomes rest run
      else
        let started := run.setStep step { record with status := .running, error := "" }
        let begun := [.putRun started,
          event context "renovation.mvp.step.started" run.runId [("step", .str step.name)],
          .called run.runId step]
        let handled := { started with summaries := (outcomes step).summaries }
        match (outcomes step).result with
        | .error error =>
            let failed := { handled.setStep step { record with status := .failed, error } with
              status := .failed, error, failedStep := some step }
            (begun ++ [.putRun failed,
              event context "renovation.mvp.step.failed" run.runId [
                ("step", .str step.name), ("error", .str error)],
              event context "renovation.mvp.run.failed" run.runId [("failed_step", .str step.name)]],
              failed)
        | .ok output =>
            let done := (handled.setStep step ⟨.completed, output, ""⟩).mergeEntityIds output
            let (effects, last) := execute outcomes rest done
            (begun ++ [.putRun done,
              event context "renovation.mvp.step.completed" run.runId [("step", .str step.name)]] ++
                effects, last)

/-- A run before its first step. -/
def newRun (runId idempotencyKey : String) (payload : Fields) : MvpRun where
  runId := runId
  tenantId := context.tenantId
  organizationId := context.organizationId
  createdBy := context.principalId
  idempotencyKey := idempotencyKey
  status := .running
  payload := payload
  steps := fun _ => ⟨.pending, [], ""⟩
  entityIds := Dict.empty
  summaries := ⟨.obj [], .obj [], .obj []⟩
  error := ""
  failedStep := none
  replayCount := 0
  resumeCount := 0

variable (interpreter : Interpreter) (sha256 : String → String)

/-- The new run of a request, or the run that its idempotency key had before. -/
def requestedRun (request : Fields) (drawn : String) : Except PyError (PublicRun ⊕ MvpRun) := do
  let payload ← normalizedPayload interpreter request
  let key := idempotencyKey interpreter request
  match (if key = "" then none else getIdempotent store context key) with
  | some existing => .ok (.inl existing)
  | none =>
      let runId := requestedRunId interpreter sha256 context request key payload drawn
      .ok (.inr (newRun context runId key payload))

/-- A new run is persisted before its key, and then it is executed. -/
def started (outcomes : WorkflowStep → StepOutcome) (run : MvpRun) : List MvpEffect × MvpRun :=
  let index := if run.idempotencyKey = "" then [] else
    [.putIdempotency (idempotencyIndexKey context run.idempotencyKey)
      ⟨context.tenantId, run.idempotencyKey, run.runId⟩]
  let (effects, last) := execute context outcomes workflowSteps run
  ([.putRun run] ++ index ++ [event context "renovation.mvp.run.created" run.runId [
    ("idempotency_key", .str run.idempotencyKey)]] ++ effects, last)

def createRun (request : Fields) (drawn : String) (outcomes : WorkflowStep → StepOutcome) :
    Except PyError PublicRun × List MvpEffect :=
  match requestedRun store context interpreter sha256 request drawn with
  | .error exception => (.error exception, [])
  | .ok (.inl existing) => (.ok existing, [])
  | .ok (.inr run) =>
      let (effects, last) := started context outcomes run
      (.ok last.publicRun, effects)

def getRun : Except PyError MvpRun := tenantRun store context runId

/-- A run that was counted as replayed once more. -/
def replayed (run : MvpRun) : MvpRun := { run with replayCount := run.replayCount + 1 }

def replayRun : Except PyError PublicRun × List MvpEffect :=
  match tenantRun store context runId with
  | .error exception => (.error exception, [])
  | .ok run =>
      (.ok (replayed run).publicRun, [.putRun (replayed run),
        event context "renovation.mvp.run.replayed" runId [
          ("replay_count", .int (replayed run).replayCount)]])

/-- A run whose failed steps are pending again. -/
def resumed (run : MvpRun) : MvpRun :=
  { run with
    status := .running
    error := ""
    failedStep := none
    resumeCount := run.resumeCount + 1
    steps := fun step =>
      let record := run.steps step
      if record.status = .failed then { record with status := .pending, error := "" } else record }

def resumeRun (outcomes : WorkflowStep → StepOutcome) : Except PyError PublicRun × List MvpEffect :=
  match tenantRun store context runId with
  | .error exception => (.error exception, [])
  | .ok run =>
      if run.status = .completed then (.ok run.publicRun, [])
      else
        let (effects, last) := execute context outcomes workflowSteps (resumed run)
        (.ok last.publicRun, [.putRun (resumed run),
          event context "renovation.mvp.run.resumed" runId [
            ("resume_count", .int (resumed run).resumeCount)]] ++ effects)

end MvpWorkflow

end AgentFabric.Renovation
