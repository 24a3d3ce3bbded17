import AgentFabric.Construction.Marketplace.Registry
import AgentFabric.Construction.Renovation.JobService
import AgentFabric.Construction.Renovation.MvpWorkflow
import AgentFabric.Foundation.Ownership
import AgentFabric.Foundation.Segments

namespace AgentFabric.Renovation
open Cloud Transition MvpWorkflow

/-- A stored artifact of a tenant. -/
structure OperatorRecord where
  tenantId : String
  organizationId : String
  createdBy : String
  createdAt : String
  updatedAt : String
  artifact : Json

/-- The runs of the workflow, and the records of the other collections under the names of their
collections and their keys. -/
structure OperatorState where
  mvp : MvpStore
  records : Dict (String × String) OperatorRecord
  events : List EventAppend

/-- A record that the handler of a step writes for its tenant. -/
structure HandlerWrite where
  collection : String
  key : String
  now : String
  artifact : Json

def OperatorRecord.new (context : TenantContext) (now : String) (artifact : Json) : OperatorRecord where
  tenantId := context.tenantId
  organizationId := context.organizationId
  createdBy := context.principalId
  createdAt := now
  updatedAt := now
  artifact := artifact

def Customer.asDict (customer : Customer) : Json := .obj [
  ("customer_id", .str customer.customerId),
  ("name", .str customer.name),
  ("email", .str customer.email),
  ("phone", .str customer.phone),
  ("address", .str customer.address)]

namespace OperatorState

def initial : OperatorState := ⟨.initial, Dict.empty, []⟩

variable (state : OperatorState) (context : TenantContext)

section Customers

variable (interpreter : Interpreter) (sha256 : String → String)

def stableId (kind tenantId : String) (payload : Fields) : String :=
  kind ++ "-" ++ String.ofList ((sha256 (String.ofList ((Json.obj [
    ("tenant_id", .str tenantId),
    ("payload", .obj payload)]).sortKeys.write Marketplace.PackageManifest.spaced))).toList.take 20)

variable (payload : Fields)

/-- The id that a caller gives, or else a digest of the payload. -/
def customerId : String :=
  match payload.lookup "customer_id" with
  | none => stableId sha256 "customer" context.tenantId payload
  | some value =>
      if value.truthy then interpreter.str value
      else stableId sha256 "customer" context.tenantId payload

def newCustomer : Except PyError Customer :=
  let text (key : String) (default : Json) := interpreter.str ((payload.lookup key).getD default)
  match payload.lookup "name" with
  | none => .error (.keyError "name")
  | some name => .ok {
      customerId := customerId context interpreter sha256 payload
      name := interpreter.str name
      email := text "email" (.str "")
      phone := text "phone" (.str "")
      address := text "address" ((payload.lookup "property_address").getD (.str "")) }

/-- An artifact is put under its key whatever is there. -/
def putArtifact (collection key now : String) (artifact : Json) (event : String) :
    OperatorRecord × OperatorState :=
  let record := OperatorRecord.new context now artifact
  (record, { state with
    records := state.records.set (collection, key) record
    events := state.events ++ [⟨"renovation.operator." ++ event, key, .obj [
      ("tenant_id", .str context.tenantId),
      ("organization_id", .str context.organizationId),
      ("actor_id", .str context.principalId),
      ("record_id", .str key)]⟩] })

def createCustomer (now : String) : Except PyError OperatorRecord × OperatorState :=
  match newCustomer context interpreter sha256 payload with
  | .error exception => (.error exception, state)
  | .ok customer =>
      let (record, after) := putArtifact state context "renovation_customers" customer.customerId now
        customer.asDict "customer.created"
      (.ok record, after)

end Customers

def getRecord (collection key : String) : Except PyError OperatorRecord :=
  match state.records.get? (collection, key) with
  | none => .error (.keyError (key ++ " not found"))
  | some record =>
      if record.tenantId ≠ context.tenantId then .error (.keyError (key ++ " not found"))
      else .ok record

/-- The filters and the page of a list. -/
structure PageRequest where
  keeps : OperatorRecord → Bool
  offset : Nat
  limit : Nat

variable (collection : String)

/-- The records of a tenant in the order of their keys. -/
def listTenant : List OperatorRecord :=
  let rows := state.records.items.filter fun item => item.1.1 = collection
  ((Sorting.sortedBy (fun item => item.1.2) rows).map Prod.snd).filter fun record =>
    record.tenantId = context.tenantId

def listRecords (page : PageRequest) : List OperatorRecord :=
  (((listTenant state context collection).filter page.keeps).drop page.offset).take page.limit

section Runs

variable (writes : WorkflowStep → List HandlerWrite)

/-- The handlers of the steps write while the effects of a call take place. -/
def perform (state : OperatorState) : MvpEffect → OperatorState
  | .called _ step =>
      { state with records := Ownership.write state.records ((writes step).map fun entry =>
        ((entry.collection, entry.key), .new context entry.now entry.artifact)) }
  | .event event => { state with events := state.events ++ [event] }
  | effect => { state with mvp := state.mvp.apply effect }

def performAll (effects : List MvpEffect) :
    OperatorState := effects.foldl (perform context writes) state

def listRuns : List PublicRun :=
  ((Collection.rows state.mvp.runs).filter fun run => run.tenantId = context.tenantId).map
    MvpRun.publicRun

end Runs

end OperatorState

/-- The calls of the operator and of the workflow on runs and customers, with the times that they
read and what the handlers do in them. The keys that a handler writes are left open, so the results hold
for the ones that the workflow computes. -/
inductive OperatorCall where
  | createCustomer (context : TenantContext) (payload : Fields) (now : String)
  | getCustomer (context : TenantContext) (customerId : String)
  | listCustomers (context : TenantContext) (page : OperatorState.PageRequest)
  | createRun (context : TenantContext) (request : Fields) (drawn : String)
      (outcomes : WorkflowStep → StepOutcome) (writes : WorkflowStep → List HandlerWrite)
  | resumeRun (context : TenantContext) (runId : String) (outcomes : WorkflowStep → StepOutcome)
      (writes : WorkflowStep → List HandlerWrite)
  | replayRun (context : TenantContext) (runId : String)
  | getRun (context : TenantContext) (runId : String)
  | listRuns (context : TenantContext)

inductive OperatorAnswer where
  | record (record : OperatorRecord)
  | records (records : List OperatorRecord)
  | publicRun (run : PublicRun)
  | publicRuns (runs : List PublicRun)
  | run (run : MvpRun)

def OperatorState.step (interpreter : Interpreter) (sha256 : String → String) :
    Machine OperatorState OperatorCall (Except PyError OperatorAnswer) := fun state call =>
  match call with
  | .createCustomer context payload now =>
      let (answer, after) := state.createCustomer context interpreter sha256 payload now
      (answer.map .record, after)
  | .getCustomer context customerId =>
      ((state.getRecord context "renovation_customers" customerId).map .record, state)
  | .listCustomers context page =>
      (.ok (.records (state.listRecords context "renovation_customers" page)), state)
  | .createRun context request drawn outcomes writes =>
      let (answer, effects) := MvpWorkflow.createRun state.mvp context interpreter sha256 request drawn
        outcomes
      (answer.map .publicRun, state.performAll context writes effects)
  | .resumeRun context runId outcomes writes =>
      let (answer, effects) := MvpWorkflow.resumeRun state.mvp context runId outcomes
      (answer.map .publicRun, state.performAll context writes effects)
  | .replayRun context runId =>
      let (answer, effects) := MvpWorkflow.replayRun state.mvp context runId
      (answer.map .publicRun, state.performAll context (fun _ => []) effects)
  | .getRun context runId => ((MvpWorkflow.getRun state.mvp context runId).map .run, state)
  | .listRuns context => (.ok (.publicRuns (state.listRuns context)), state)

open Pagination

/-- The texts by which a list is filtered. -/
structure AppliedFilters where
  search : String
  status : String
  customerId : String
  dateFrom : String
  dateTo : String

/-- A page of records with the filters that were applied. -/
structure RecordPage extends Page Fields where
  applied : AppliedFilters

namespace RecordPages

variable (interpreter : Interpreter) (lower : String → String) (filters : Fields)

/-- A filter that is missing or empty gives way to the default. -/
def given (key : String) (default : Json) : Json :=
  match filters.lookup key with
  | none => default
  | some value => if value.truthy then value else default

/-- The text of a filter without the spaces at its ends. -/
def filterText (key : String) : String :=
  String.ofList (PyText.strip (interpreter.str (given filters key (.str ""))).toList)

def appliedFilters : AppliedFilters where
  search := lower (filterText interpreter filters "search")
  status := lower (filterText interpreter filters "status")
  customerId := filterText interpreter filters "customer_id"
  dateFrom := filterText interpreter filters "date_from"
  dateTo := filterText interpreter filters "date_to"

section Records

/-- `dict` of the artifact of a record. -/
def artifactOf (record : Fields) : Except PyError (List (Json × Json)) :=
  interpreter.dict ((record.lookup "artifact").getD (.obj []))

/-- The value of a dict under a text. -/
def entryOf? (entries : List (Json × Json)) (key : String) : Option Json :=
  entries.findSome? fun item =>
    match item.1 with
    | .str name => if name = key then some item.2 else none
    | _ => none

def containsText (search : String) (record : Fields) : Bool :=
  search.toList <:+: (lower (String.ofList
    ((Json.obj record).sortKeys.write Marketplace.PackageManifest.spaced))).toList

/-- The status of a record goes before the one of its artifact. -/
def recordStatus (record : Fields) : Except PyError Json := do
  let own := (record.lookup "status").getD .null
  if own.truthy then .ok own
  else do
    let artifact ← artifactOf interpreter record
    let inner := (entryOf? artifact "status").getD .null
    .ok (if inner.truthy then inner else .str "")

def hasStatus (status : String) (record : Fields) : Except PyError Bool := do
  let value ← recordStatus interpreter record
  .ok (lower (interpreter.str value) = status)

def hasCustomer (customerId : String) (record : Fields) : Except PyError Bool := do
  let artifact ← artifactOf interpreter record
  .ok (interpreter.str ((entryOf? artifact "customer_id").getD (.str "")) = customerId)

/-- Some date of a record or of its artifact lies between two dates, where an empty one is none. -/
def recordInDateRange (dateFrom dateTo : String) (record : Fields) : Except PyError Bool := do
  let artifact ← artifactOf interpreter record
  let candidates := ["created_at", "updated_at"].map (fun key => (record.lookup key).getD .null) ++
    ["created_date", "invoice_date", "due_date", "start_date", "cost_date", "payment_date"].map
      fun key => (entryOf? artifact key).getD .null
  let values := (candidates.filter Json.truthy).map fun value =>
    String.ofList ((interpreter.str value).toList.take 10)
  .ok (values.any fun value =>
    (dateFrom = "" ∨ dateFrom ≤ value) ∧ (dateTo = "" ∨ value ≤ dateTo))

/-- Every filter that is not empty keeps the records that meet it. -/
def filterItems (filters : AppliedFilters) (items : List Fields) : Except PyError (List Fields) := do
  let found := if filters.search = "" then items
    else items.filter (containsText lower filters.search)
  let withStatus ← if filters.status = "" then .ok found
    else found.filterM (hasStatus interpreter lower filters.status)
  let ofCustomer ← if filters.customerId = "" then .ok withStatus
    else withStatus.filterM (hasCustomer interpreter filters.customerId)
  if filters.dateFrom = "" ∧ filters.dateTo = "" then .ok ofCustomer
  else ofCustomer.filterM (recordInDateRange interpreter filters.dateFrom filters.dateTo)

end Records

/-- A limit is between one and two hundred. -/
def limitOf : Except PyError Nat := do
  let limit ← interpreter.int (given filters "limit" (.int 50))
  .ok (max 1 (min limit 200)).toNat

def offsetOf : Except PyError Nat := do
  let offset ← interpreter.int (given filters "offset" (.int 0))
  .ok (max 0 offset).toNat

def filterPage (items : List Fields) (filters : Fields) : Except PyError RecordPage := do
  let kept ← filterItems interpreter lower (appliedFilters interpreter lower filters) items
  let limit ← limitOf interpreter filters
  let offset ← offsetOf interpreter filters
  .ok { page kept limit offset with applied := appliedFilters interpreter lower filters }

end RecordPages

end AgentFabric.Renovation
