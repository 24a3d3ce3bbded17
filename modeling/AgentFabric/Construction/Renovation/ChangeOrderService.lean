import AgentFabric.Construction.Renovation.Schedule
import AgentFabric.Foundation.Dict

namespace AgentFabric.Renovation

/-- A priced line of a change order. -/
structure ChangeOrderLine where
  description : String
  category : String
  quantity : FloatRepr
  unit : String
  materialCost : FloatRepr
  laborHours : FloatRepr
  laborCost : FloatRepr
  total : FloatRepr

structure ChangeOrderApproval where
  approvalId : String
  changeOrderId : String
  decision : String
  decisionDate : String
  decidedBy : String
  reason : String

/-- The priced lines of a change order with their totals. -/
structure ChangeOrderPrice where
  lines : List ChangeOrderLine
  materialTotal : FloatRepr
  laborTotal : FloatRepr
  subtotal : FloatRepr
  contingencyPercentage : FloatRepr
  contingency : FloatRepr
  taxPercentage : FloatRepr
  tax : FloatRepr
  totalAdjustment : FloatRepr

structure ChangeOrder extends ChangeOrderPrice where
  changeOrderId : String
  tenantId : String
  jobId : String
  proposalId : String
  sourceType : String
  sourceReference : String
  title : String
  description : String
  status : String
  scheduleDeltaDays : Int
  templateId : String
  templateVersion : String
  approvalHistory : List ChangeOrderApproval
  renderedText : String

/-- The payload of a change order, most of whose keys may be missing. -/
structure ChangeOrderPayload where
  jobId : String
  sourceType : Option String
  sourceReference : String
  status : Option String
  title : String
  description : Option String
  lines : List Json
  contingencyPercentage : Option FloatRepr
  taxPercentage : Option FloatRepr
  scheduleDeltaDays : Option Int
  templateId : Option String

variable (payload : ChangeOrderPayload)

/-- The source type of a payload or its default. -/
def ChangeOrderPayload.source : String :=
  payload.sourceType.getD "scope_change"

/-- The first status of a payload or its default. -/
def ChangeOrderPayload.opening : String :=
  payload.status.getD "sent"

structure ChangeOrderTemplate where
  templateId : String
  version : String
  clauses : List String

/-- The float arithmetic of the estimators, the template files and the text of an order. -/
structure ChangeOrderTools where
  price : Json → Json → ChangeOrderPayload → Except PyError ChangeOrderPrice
  loadTemplate : String → Except PyError ChangeOrderTemplate
  render : ChangeOrder → List String → String

def ChangeOrderLine.asDict (line : ChangeOrderLine) : Json := .obj [
  ("description", .str line.description),
  ("category", .str line.category),
  ("quantity", .float line.quantity),
  ("unit", .str line.unit),
  ("material_cost", .float line.materialCost),
  ("labor_hours", .float line.laborHours),
  ("labor_cost", .float line.laborCost),
  ("total", .float line.total)]

namespace ChangeOrderApproval

variable (approval : ChangeOrderApproval)

/-- The fields that identify an approval. -/
def identity : List (String × Json) := [
  ("change_order_id", .str approval.changeOrderId),
  ("decision", .str approval.decision),
  ("decision_date", .str approval.decisionDate),
  ("decided_by", .str approval.decidedBy),
  ("reason", .str approval.reason)]

def asDict : Json :=
  .obj (("approval_id", .str approval.approvalId) :: approval.identity)

end ChangeOrderApproval

namespace ChangeOrder

variable (order : ChangeOrder)

/-- The fields that identify an order, which leave out its status. -/
def identity : List (String × Json) := [
  ("tenant_id", .str order.tenantId),
  ("job_id", .str order.jobId),
  ("proposal_id", .str order.proposalId),
  ("source_type", .str order.sourceType),
  ("source_reference", .str order.sourceReference),
  ("title", .str order.title),
  ("description", .str order.description),
  ("lines", .arr (order.lines.map ChangeOrderLine.asDict)),
  ("schedule_delta_days", .int order.scheduleDeltaDays),
  ("template_id", .str order.templateId),
  ("template_version", .str order.templateVersion)]

def asDict : Json :=
  .obj (("change_order_id", .str order.changeOrderId) :: order.identity ++ [
    ("status", .str order.status),
    ("material_total", .float order.materialTotal),
    ("labor_total", .float order.laborTotal),
    ("subtotal", .float order.subtotal),
    ("contingency_percentage", .float order.contingencyPercentage),
    ("contingency", .float order.contingency),
    ("tax_percentage", .float order.taxPercentage),
    ("tax", .float order.tax),
    ("total_adjustment", .float order.totalAdjustment),
    ("approval_history", .arr (order.approvalHistory.map ChangeOrderApproval.asDict)),
    ("rendered_text", .str order.renderedText)])

def exportJson : String := order.asDict.dumps

end ChangeOrder

namespace ChangeOrderService

def sourceTypes : List String := ["customer_request", "field_note", "scope_change"]

/-- The statuses of an order that is not decided. -/
def openingStatuses : List String := ["draft", "sent"]

def decisions : List String := ["approved", "rejected"]

variable (tools : ChangeOrderTools) (sha256 : String → String)

def create (tenantId jobId proposalId : String) (estimate estimateInput : Json)
    (payload : ChangeOrderPayload) : Except PyError ChangeOrder :=
  if payload.source ∉ sourceTypes then .error (.valueError "invalid change order source type")
  else if payload.opening ∉ openingStatuses then
    .error (.valueError "new change orders must be draft or sent")
  else if payload.lines = [] then .error (.valueError "change order lines are required")
  else do
    let price ← tools.price estimate estimateInput payload
    let template ← tools.loadTemplate (payload.templateId.getD "change_order_standard")
    let unnamed : ChangeOrder := {
      price with
      changeOrderId := ""
      tenantId, jobId, proposalId
      sourceType := payload.source
      sourceReference := payload.sourceReference
      title := payload.title
      description := payload.description.getD ""
      status := payload.opening
      scheduleDeltaDays := payload.scheduleDeltaDays.getD 0
      templateId := template.templateId
      templateVersion := template.version
      approvalHistory := []
      renderedText := "" }
    let order : ChangeOrder := { unnamed with
      changeOrderId := "change-" ++ digestPrefix sha256 20 (.obj unnamed.identity) }
    .ok { order with renderedText := tools.render order template.clauses }

def decide (order : ChangeOrder) (decision decisionDate decidedBy reason : String) :
    Except PyError ChangeOrder :=
  if order.status ≠ "sent" then
    .error (.valueError "only sent change orders may be approved or rejected")
  else if decision ∉ decisions then
    .error (.valueError "change order decision must be approved or rejected")
  else do
    let unnamed : ChangeOrderApproval := {
      approvalId := ""
      changeOrderId := order.changeOrderId
      decision, decisionDate, decidedBy, reason }
    let approval : ChangeOrderApproval := { unnamed with
      approvalId := "approval-" ++ digestPrefix sha256 20 (.obj unnamed.identity) }
    let updated : ChangeOrder := { order with
      status := decision
      approvalHistory := order.approvalHistory ++ [approval] }
    let template ← tools.loadTemplate order.templateId
    .ok { updated with renderedText := tools.render updated template.clauses }

end ChangeOrderService

/-- The conversions and the float arithmetic of Python. -/
structure FloatLibrary where
  str : Json → String
  float : Json → Except PyError FloatRepr
  entries : Json → Except PyError (List (String × Json))
  add : FloatRepr → FloatRepr → FloatRepr
  mul : FloatRepr → FloatRepr → FloatRepr
  div : FloatRepr → FloatRepr → FloatRepr
  sum : List FloatRepr → FloatRepr
  round2 : FloatRepr → FloatRepr
  atMost : FloatRepr → FloatRepr → Bool

namespace FloatLibrary

def zero : FloatRepr := ⟨"0.0", by decide⟩

def hundred : FloatRepr := ⟨"100.0", by decide⟩

end FloatLibrary

structure ScopeItem where
  description : String
  category : String
  quantity : FloatRepr
  unit : String
  room : String
  notes : String

structure MaterialLine where
  description : String
  category : String
  quantity : FloatRepr
  unit : String
  unitRate : FloatRepr
  total : FloatRepr

structure LaborLine where
  description : String
  hours : FloatRepr
  hourlyRate : FloatRepr
  total : FloatRepr

structure CostTotals where
  subtotal : FloatRepr
  contingency : FloatRepr
  taxableAmount : FloatRepr
  tax : FloatRepr
  total : FloatRepr

namespace ChangeOrderPricing

def defaultMaterialRates : List (String × FloatRepr) := [
  ("cabinetry", ⟨"350.0", by decide⟩),
  ("flooring", ⟨"8.5", by decide⟩),
  ("painting", ⟨"2.25", by decide⟩),
  ("drywall", ⟨"3.5", by decide⟩),
  ("tile", ⟨"12.0", by decide⟩),
  ("fixtures", ⟨"225.0", by decide⟩),
  ("demolition", ⟨"4.0", by decide⟩),
  ("general", ⟨"75.0", by decide⟩)]

def defaultLaborHours : List (String × FloatRepr) := [
  ("cabinetry", ⟨"6.0", by decide⟩),
  ("flooring", ⟨"0.08", by decide⟩),
  ("painting", ⟨"0.04", by decide⟩),
  ("drywall", ⟨"0.06", by decide⟩),
  ("tile", ⟨"0.12", by decide⟩),
  ("fixtures", ⟨"2.0", by decide⟩),
  ("demolition", ⟨"0.05", by decide⟩),
  ("general", ⟨"1.0", by decide⟩)]

variable (library : FloatLibrary) (document : Json)

/-- The field that an item must have. -/
def item (key : String) : Except PyError Json :=
  match document.field? key with
  | none => .error (.keyError key)
  | some value => .ok value

/-- A field with a default. -/
def itemOr (key : String) (default : Json) : Json :=
  (document.field? key).getD default

def scopeItem : Except PyError ScopeItem := do
  let description ← item document "description"
  let category ← item document "category"
  let quantity ← item document "quantity"
  let quantity ← library.float quantity
  .ok {
    description := library.str description
    category := library.str category
    quantity
    unit := library.str (itemOr document "unit" (.str "item"))
    room := library.str (itemOr document "room" (.str ""))
    notes := library.str (itemOr document "notes" (.str "")) }

/-- The rates of an estimate input over the default ones. -/
def rates (defaults : List (String × FloatRepr)) (given : Json) :
    Except PyError (Dict String FloatRepr) := do
  let entries ← library.entries given
  let converted ← entries.mapM fun entry => do
    let value ← library.float entry.2
    .ok (entry.1, value)
  .ok ((Dict.empty.setAll defaults).setAll converted)

variable (table : Dict String FloatRepr)

/-- The rate of a category, which is not negative. -/
def rateOf (category message : String) : Except PyError FloatRepr :=
  match table.get? category with
  | none => .error (.valueError (message ++ category))
  | some rate =>
      if library.atMost FloatLibrary.zero rate then .ok rate
      else .error (.valueError (message ++ category))

variable (scope : ScopeItem)

def materialLine :
    Except PyError MaterialLine := do
  let found ← rateOf library table scope.category "material rate unavailable for "
  let rate := library.round2 found
  .ok {
    description := scope.description
    category := scope.category
    quantity := scope.quantity
    unit := scope.unit
    unitRate := rate
    total := library.round2 (library.mul scope.quantity rate) }

variable (hourlyRate : FloatRepr)

def laborLine (table : Dict String FloatRepr) (scope : ScopeItem) :
    Except PyError LaborLine := do
  let found ← rateOf library table scope.category "labor assumption unavailable for "
  let calculatedHours := library.round2 (library.mul scope.quantity found)
  .ok {
    description := scope.description
    hours := calculatedHours
    hourlyRate := library.round2 hourlyRate
    total := library.round2 (library.mul calculatedHours hourlyRate) }

def laborLines (table : Dict String FloatRepr) (scopes : List ScopeItem) :
    Except PyError (List LaborLine) :=
  if library.atMost hourlyRate FloatLibrary.zero then
    .error (.valueError "labor rate must be positive")
  else scopes.mapM (laborLine library hourlyRate table)

/-- The priced line of a scope item with its material and its labor. -/
def orderLine (material : MaterialLine) (labor : LaborLine) : ChangeOrderLine where
  description := scope.description
  category := scope.category
  quantity := scope.quantity
  unit := scope.unit
  materialCost := material.total
  laborHours := labor.hours
  laborCost := labor.total
  total := library.round2 (library.add material.total labor.total)

/-- The priced lines of a payload. -/
def priceLines (estimateInput : Json) (rawLines : List Json) :
    Except PyError (List ChangeOrderLine) := do
  let scopes ← rawLines.mapM (scopeItem library)
  let materialRates ← rates library defaultMaterialRates (itemOr estimateInput "material_rates" (.obj []))
  let materials ← scopes.mapM (materialLine library materialRates)
  let laborRate ← library.float (itemOr estimateInput "labor_rate" (.float ⟨"65.0", by decide⟩))
  let laborHours ← rates library defaultLaborHours (itemOr estimateInput "labor_hours" (.obj []))
  let labors ← laborLines library laborRate laborHours scopes
  .ok ((scopes.zip (materials.zip labors)).map fun parts =>
    orderLine library parts.1 parts.2.1 parts.2.2)

variable (lines : List ChangeOrderLine)

def materialTotal : FloatRepr :=
  library.round2 (library.sum (lines.map ChangeOrderLine.materialCost))

def laborTotal : FloatRepr :=
  library.round2 (library.sum (lines.map ChangeOrderLine.laborCost))

/-- A percentage lies between zero and a hundred. -/
def validPercentage (percentage : FloatRepr) : Bool :=
  library.atMost FloatLibrary.zero percentage && library.atMost percentage FloatLibrary.hundred

/-- The amounts that the percentages give on the totals. -/
def amounts (materialTotal laborTotal contingencyPercentage taxPercentage : FloatRepr) :
    CostTotals :=
  let percent (amount percentage : FloatRepr) : FloatRepr :=
    library.round2 (library.div (library.mul amount percentage) FloatLibrary.hundred)
  let subtotal := library.round2 (library.add materialTotal laborTotal)
  let contingency := percent subtotal contingencyPercentage
  let taxableAmount := library.round2 (library.add materialTotal contingency)
  let tax := percent taxableAmount taxPercentage
  { subtotal
    contingency
    taxableAmount
    tax
    total := library.round2 (library.add (library.add subtotal contingency) tax) }

def calculate (materialTotal laborTotal contingencyPercentage taxPercentage : FloatRepr) :
    Except PyError CostTotals :=
  if validPercentage library contingencyPercentage = false then
    .error (.valueError "contingency percentage must be between 0 and 100")
  else if validPercentage library taxPercentage = false then
    .error (.valueError "tax percentage must be between 0 and 100")
  else .ok (amounts library materialTotal laborTotal contingencyPercentage taxPercentage)

/-- The percentage of a payload, or else the one of the estimate. -/
def percentage (given : Option FloatRepr) (estimate : Json) (key : String) :
    Except PyError FloatRepr :=
  match given with
  | some value => .ok value
  | none => library.float (itemOr estimate key .null)

/-- The price of a change order, which the service computes before it names the order. -/
def price (estimate estimateInput : Json) (payload : ChangeOrderPayload) :
    Except PyError ChangeOrderPrice := do
  let lines ← priceLines library estimateInput payload.lines
  let contingencyPercentage ←
    percentage library payload.contingencyPercentage estimate "contingency_percentage"
  let taxPercentage ← percentage library payload.taxPercentage estimate "tax_percentage"
  let totals ← calculate library (materialTotal library lines) (laborTotal library lines)
    contingencyPercentage taxPercentage
  .ok {
    lines
    materialTotal := materialTotal library lines
    laborTotal := laborTotal library lines
    subtotal := totals.subtotal
    contingencyPercentage
    contingency := totals.contingency
    taxPercentage
    tax := totals.tax
    totalAdjustment := totals.total }

/-- The tools of the service with the pricing of the estimators. -/
def tools (loadTemplate : String → Except PyError ChangeOrderTemplate)
    (render : ChangeOrder → List String → String) : ChangeOrderTools where
  price := price library
  loadTemplate := loadTemplate
  render := render

end ChangeOrderPricing

end AgentFabric.Renovation
