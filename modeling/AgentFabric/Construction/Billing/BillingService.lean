import AgentFabric.Foundation.FirstWrite
import AgentFabric.Foundation.Money
import AgentFabric.Foundation.PyCoercion

namespace AgentFabric.Billing
open Sorting

/-- A row of the table `billing_events`, which is also a meter event. -/
structure BillingEvent where
  idempotencyKey : String
  tenantId : String
  actorId : String
  eventType : String
  packageFqid : String

/-- The table of the events has the idempotency key as its primary key. -/
abbrev EventTable := Dict String BillingEvent

/-- An event is recorded unless its key is taken. -/
def recordRow : EventTable → BillingEvent → Bool × EventTable :=
  FirstWrite.insert BillingEvent.idempotencyKey

/-- The event types of a tenant with the numbers of its events, in the order of the types. -/
def usageCounts (events : EventTable) (tenantId : String) : List (String × Nat) :=
  let own := events.values.filter fun event => event.tenantId = tenantId
  (sortedBy id (own.map BillingEvent.eventType).dedup).map fun eventType =>
    (eventType, own.countP fun event => event.eventType = eventType)

/-- A line of an invoice or of a ledger, with amounts in cents. -/
structure PricedLine where
  eventType : String
  quantity : Nat
  unitPrice : Int
  subtotal : Int
  deriving DecidableEq

structure Invoice where
  tenantId : String
  lines : List PricedLine
  total : Int
  deriving DecidableEq

variable (prices : List (String × Int))

/-- An unknown event type has no price. -/
def priceOf (eventType : String) : Int :=
  (prices.lookup eventType).getD 0

def pricedLine (usage : String × Nat) : PricedLine where
  eventType := usage.1
  quantity := usage.2
  unitPrice := priceOf prices usage.1
  subtotal := usage.2 * priceOf prices usage.1

/-- The invoice of a tenant prices its usage. -/
def invoiceOf (events : EventTable) (tenantId : String) : Invoice where
  tenantId := tenantId
  lines := (usageCounts events tenantId).map (pricedLine prices)
  total := ((usageCounts events tenantId).map fun usage => (pricedLine prices usage).subtotal).sum

/-- What a provider charged to a tenant. -/
structure Charge (Result : Type) where
  tenantId : String
  amount : Int
  result : Result

/-- A payment provider keeps its charges under their idempotency keys. -/
structure Provider (Result : Type) where
  charges : Dict String (Charge Result)

namespace Provider

variable {Result : Type}

/-- A provider without charges. -/
def new : Provider Result := ⟨Dict.empty⟩

/-- A key is charged once, and a repeated key returns the first charge. -/
def charge (provider : Provider Result) (tenantId : String) (amount : Int) (idempotencyKey : String)
    (answer : Except PyError Result) : Except PyError (Charge Result) × Provider Result :=
  if amount < 0 then (.error (.validationError "amount cannot be negative"), provider)
  else match provider.charges.get? idempotencyKey with
    | some charged => (.ok charged, provider)
    | none =>
        match answer with
        | .error exception => (.error exception, provider)
        | .ok result =>
            let charged := ⟨tenantId, amount, result⟩
            (.ok charged, ⟨provider.charges.set idempotencyKey charged⟩)

end Provider

end AgentFabric.Billing

namespace AgentFabric.Billing.BillingService

/-- A row of the table `invoice_lines`. -/
structure InvoiceLine where
  tenantId : String
  line : PricedLine

/-- A row of the table `payment_records`. -/
structure PaymentRecord where
  tenantId : String
  provider : String
  providerTxnId : String
  amount : Int
  currency : String
  idempotencyKey : String
  status : String

/-- What a payment processor answers to a charge. -/
structure ProcessorAnswer where
  provider : String
  providerTxnId : String
  currency : String
  status : String

structure PaymentResult where
  provider : String
  providerTxnId : String
  amount : Int
  currency : String
  status : String

/-- The tables of the service, where a transaction id is unique, and the payment processor. -/
structure State where
  events : EventTable
  invoiceLines : List InvoiceLine
  payments : Dict String PaymentRecord
  processor : Provider ProcessorAnswer

def initial : State := ⟨Dict.empty, [], Dict.empty, .new⟩

def pricing : List (String × Int) := [("install", 5), ("run", 1), ("subscription_month", 2900)]

variable (state : State)

def recordEvent (event : BillingEvent) : Bool × State :=
  let (recorded, events) := recordRow state.events event
  (recorded, { state with events })

variable (tenantId : String)

def buildInvoice : Invoice :=
  invoiceOf pricing state.events tenantId

/-- The result of a charge shows the charged amount. -/
def paymentResult (charged : Charge ProcessorAnswer) : PaymentResult where
  provider := charged.result.provider
  providerTxnId := charged.result.providerTxnId
  amount := charged.amount
  currency := charged.result.currency
  status := charged.result.status

/-- The line of a settled amount. -/
def settlementLine (amount : Int) : InvoiceLine :=
  ⟨tenantId, ⟨"settlement", 1, amount, amount⟩⟩

/-- The payment is charged first, and its record fails on a transaction id that is taken. -/
def settleInvoice (tenantId idempotencyKey : String)
    (answer : Except PyError ProcessorAnswer) : Except PyError (Invoice × PaymentResult) × State :=
  let invoice := buildInvoice state tenantId
  match state.processor.charge tenantId invoice.total idempotencyKey answer with
  | (.error exception, processor) => (.error exception, { state with processor })
  | (.ok charged, processor) =>
      let payment := paymentResult charged
      match state.payments.get? payment.providerTxnId with
      | some _ =>
          (.error (.integrityError "UNIQUE constraint failed: payment_records.provider_txn_id"),
            { state with processor })
      | none =>
          let record : PaymentRecord := {
            tenantId
            provider := payment.provider
            providerTxnId := payment.providerTxnId
            amount := payment.amount
            currency := payment.currency
            idempotencyKey
            status := payment.status }
          (.ok (invoice, payment), { state with
            processor
            payments := state.payments.set payment.providerTxnId record
            invoiceLines := state.invoiceLines ++
              if payment.status = "succeeded" then [settlementLine tenantId payment.amount] else [] })

/-- The name of the type of a JSON value. -/
def typeName : Json → String
  | .null => "NoneType"
  | .bool _ => "bool"
  | .int _ => "int"
  | .float _ => "float"
  | .str _ => "str"
  | .arr _ => "list"
  | .obj _ => "dict"

/-- The method `get` of a JSON value, which only a dict has. -/
def get (value : Json) (key : String) : Except PyError (Option Json) :=
  match value with
  | .obj fields => .ok ((Json.obj fields).field? key)
  | value => .error (.attributeError ("'" ++ typeName value ++ "' object has no attribute 'get'"))

/-- A missing or empty value is replaced by an empty dict. -/
def orEmpty (value : Option Json) : Json :=
  match value with
  | some present => if present.truthy then present else .obj []
  | none => .obj []

/-- What a webhook event says about a payment. -/
structure WebhookEvent where
  eventType : String
  paymentIntentId : String
  status : Option String

variable (interpreter : Interpreter)

/-- The reads of a webhook event. -/
def readWebhook (event : List (String × Json)) :
    Except PyError WebhookEvent := do
  let eventType := (((Json.obj event).field? "type").map interpreter.str).getD ""
  let data := orEmpty ((Json.obj event).field? "data")
  let object := orEmpty (← get data "object")
  let paymentIntentId := ((← get object "id").map interpreter.str).getD ""
  let status := (← get object "status").map interpreter.str
  if paymentIntentId = "" then
    .error (.validationError "stripe webhook missing payment intent id")
  else .ok ⟨eventType, paymentIntentId, status⟩

variable (event : WebhookEvent)

/-- The status that an event gives to a payment. -/
def webhookStatus (status : String) : String :=
  if event.eventType = "payment_intent.succeeded" then "succeeded"
  else if event.eventType ∈ ["payment_intent.payment_failed", "payment_intent.canceled"] then "failed"
  else event.status.getD status

/-- An event of a stripe payment changes its status, and a success writes a settlement line. -/
def applyWebhook : Except PyError (String × String) × State :=
  match state.payments.get? event.paymentIntentId with
  | none => (.error (.notFoundError "payment not found for webhook"), state)
  | some row =>
      if row.provider ≠ "stripe" then
        (.error (.notFoundError "payment not found for webhook"), state)
      else
        let updated := { row with status := webhookStatus event row.status }
        (.ok (updated.providerTxnId, updated.status), { state with
          payments := state.payments.set event.paymentIntentId updated
          invoiceLines := state.invoiceLines ++
            if event.eventType = "payment_intent.succeeded" then
              [settlementLine row.tenantId row.amount] else [] })

def handleStripeWebhook (state : State) (event : List (String × Json)) :
    Except PyError (String × String) × State :=
  match readWebhook interpreter event with
  | .error exception => (.error exception, state)
  | .ok event => applyWebhook state event

/-- The calls that record and settle the events of tenants. -/
inductive Call where
  | recordEvent (event : BillingEvent)
  | settleInvoice (tenantId idempotencyKey : String) (answer : Except PyError ProcessorAnswer)

inductive Answer where
  | recorded (isNew : Bool)
  | settled (answer : Except PyError (Invoice × PaymentResult))

def step : Call → Answer × State
  | .recordEvent event =>
      let (isNew, after) := recordEvent state event
      (.recorded isNew, after)
  | .settleInvoice tenantId idempotencyKey answer =>
      let (settled, after) := settleInvoice state tenantId idempotencyKey answer
      (.settled settled, after)

/-- The calls of the service and the deliveries of webhook events. -/
inductive ServiceCall where
  | call (call : Call)
  | webhook (event : List (String × Json))

inductive ServiceAnswer where
  | answer (answer : Answer)
  | webhook (answer : Except PyError (String × String))

def serve (state : State) : ServiceCall → ServiceAnswer × State
  | .call call =>
      let (answer, after) := step state call
      (.answer answer, after)
  | .webhook event =>
      let (answer, after) := handleStripeWebhook interpreter state event
      (.webhook answer, after)

end AgentFabric.Billing.BillingService

namespace AgentFabric.Billing.ControlPlane

/-- A row of the table `billing_ledger`. -/
structure LedgerLine where
  tenantId : String
  line : PricedLine

/-- The billing tables of the production store and the payment gateway. -/
structure State where
  events : EventTable
  ledger : List LedgerLine
  gateway : Provider String

def initial : State := ⟨Dict.empty, [], .new⟩

def billingPrices : List (String × Int) := [("install", 5), ("run", 1), ("subscription_month", 2900)]

variable (state : State)

def recordBillingEvent (event : BillingEvent) : Bool × State :=
  let (recorded, events) := recordRow state.events event
  (recorded, { state with events })

variable (tenantId : String)

def buildInvoice : Invoice :=
  invoiceOf billingPrices state.events tenantId

/-- A ledger line has its quantity times its price. -/
def addBillingLedgerLine (tenantId eventType : String) (quantity : Nat) (unitPrice : Int) : State :=
  { state with
    ledger := state.ledger ++ [⟨tenantId, ⟨eventType, quantity, unitPrice, quantity * unitPrice⟩⟩] }

/-- The gateway is charged, and then the settlement is written to the ledger. -/
def settle (total : Int) (idempotencyKey : String)
    (answer : Except PyError String) : Except PyError String × State :=
  match state.gateway.charge tenantId total idempotencyKey answer with
  | (.error exception, gateway) => (.error exception, { state with gateway })
  | (.ok charged, gateway) =>
      (.ok charged.result, addBillingLedgerLine { state with gateway } tenantId "settlement" 1 total)

/-- The key of a settlement is made of the tenant and the total. -/
def settlementKey (total : Int) : String :=
  "settle:" ++ tenantId ++ ":" ++ (Money.repr total).text

def settleInvoice (answer : Except PyError String) : Except PyError (Invoice × String) × State :=
  let invoice := buildInvoice state tenantId
  match settle state tenantId invoice.total (settlementKey tenantId invoice.total) answer with
  | (.error exception, after) => (.error exception, after)
  | (.ok transactionId, after) => (.ok (invoice, transactionId), after)

/-- The calls that record and settle the events of tenants. -/
inductive Call where
  | recordBillingEvent (event : BillingEvent)
  | settleInvoice (tenantId : String) (answer : Except PyError String)

inductive Answer where
  | recorded (isNew : Bool)
  | settled (answer : Except PyError (Invoice × String))

def step : Call → Answer × State
  | .recordBillingEvent event =>
      let (isNew, after) := recordBillingEvent state event
      (.recorded isNew, after)
  | .settleInvoice tenantId answer =>
      let (settled, after) := settleInvoice state tenantId answer
      (.settled settled, after)

end AgentFabric.Billing.ControlPlane
