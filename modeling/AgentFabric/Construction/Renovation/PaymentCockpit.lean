import AgentFabric.Construction.Renovation.Accounts
import AgentFabric.Construction.Renovation.MvpWorkflow

namespace AgentFabric.Renovation
open Cloud Transition

/-- The answer of a payment provider. -/
structure ProviderResult (Payload : Type) where
  provider : String
  status : String
  referenceId : String
  payload : Payload

/-- The payload of a payment link. -/
structure LinkPayload where
  invoiceId : String
  idempotencyKey : String
  providerReferenceId : String
  paymentUrl : String
  invoiceAssociation : String
  webhookSignatureValidation : String

/-- The payload of a payment status. -/
structure StatusPayload where
  invoiceId : String
  paymentStatus : String
  providerReferenceId : String
  idempotencyKey : String
  receivedAt : String

/-- A stored answer of a provider. -/
structure StubRecord (Payload : Type) where
  tenantId : String
  organizationId : String
  createdBy : String
  createdAt : String
  updatedAt : String
  recordType : String
  artifact : ProviderResult Payload

def StubRecord.new {Payload : Type} (context : TenantContext) (recordType now : String)
    (artifact : ProviderResult Payload) : StubRecord Payload where
  tenantId := context.tenantId
  organizationId := context.organizationId
  createdBy := context.principalId
  createdAt := now
  updatedAt := now
  recordType := recordType
  artifact := artifact

/-- A text that is missing or empty gives way to the other one. -/
def textOrElse (text : Option String) (other : String) : String :=
  match text with
  | none => other
  | some given => if given = "" then other else given

/-- A text that is not empty. -/
def presentText (text : String) : Option String := if text = "" then none else some text

namespace LocalPaymentProvider

def validStatuses : List String :=
  ["pending", "authorized", "paid", "failed", "refunded", "partial"]

def providerStatusMap : List (String × String) := [
  ("checkout.session.completed", "paid"),
  ("payment_intent.succeeded", "paid"),
  ("payment_intent.payment_failed", "failed"),
  ("charge.refunded", "refunded"),
  ("invoice.payment_succeeded", "paid"),
  ("invoice.payment_failed", "failed")]

section Requests

variable (sha256 : String → String)

/-- The parts are joined with a bar before they are hashed. -/
def stableId (kind : String) (parts : List String) : String :=
  kind ++ "-" ++ String.ofList ((sha256 ("|".intercalate parts)).toList.take 20)

variable (tenantId invoiceId : String)

/-- The reference that the provider gives to an invoice. -/
def providerReference : String :=
  stableId sha256 "provider-payment" [tenantId, invoiceId]

def paymentUrl (baseUrl tenantId invoiceId : String) : String :=
  baseUrl ++ "/" ++ tenantId ++ "/" ++ invoiceId ++ "?ref=" ++
    providerReference sha256 tenantId invoiceId

variable (idempotencyKey : Option String)

/-- The reference id of a link is made of the key and not of the invoice. -/
def linkReference : String :=
  stableId sha256 "payment-link" [tenantId, textOrElse idempotencyKey invoiceId]

def link (provider : String) : ProviderResult LinkPayload where
  provider := if provider = "stripe" then "stripe-shell" else "local-payment"
  status := "created"
  referenceId := linkReference sha256 tenantId invoiceId idempotencyKey
  payload := {
    invoiceId
    idempotencyKey := textOrElse idempotencyKey invoiceId
    providerReferenceId := providerReference sha256 tenantId invoiceId
    paymentUrl := paymentUrl sha256
      (if provider = "stripe" then "https://pay.stripe.local" else "https://payments.local")
      tenantId invoiceId
    invoiceAssociation := invoiceId
    webhookSignatureValidation := "placeholder" }

/-- A status without a key of the client is known by its invoice, its status and its reference. -/
def statusKey (invoiceId status : String) (providerReferenceId idempotencyKey : Option String) :
    String :=
  textOrElse idempotencyKey
    (invoiceId ++ ":" ++ status ++ ":" ++ textOrElse providerReferenceId "local")

def statusReference (tenantId invoiceId status : String)
    (providerReferenceId idempotencyKey : Option String) : String :=
  stableId sha256 "payment-status"
    [tenantId, statusKey invoiceId status providerReferenceId idempotencyKey]

def status (tenantId invoiceId status : String)
    (providerReferenceId idempotencyKey : Option String) (receivedAt : String) :
    Except PyError (ProviderResult StatusPayload) :=
  if status ∉ validStatuses then .error (.valueError "unsupported payment status")
  else .ok {
    provider := "local-payment"
    status := "updated"
    referenceId := statusReference sha256 tenantId invoiceId status providerReferenceId
      idempotencyKey
    payload := {
      invoiceId
      paymentStatus := status
      providerReferenceId := textOrElse providerReferenceId
        (providerReference sha256 tenantId invoiceId)
      idempotencyKey := statusKey invoiceId status providerReferenceId idempotencyKey
      receivedAt } }

end Requests

section Webhooks

variable (interpreter : Interpreter) (payload : Fields)

/-- The text of an entry, whose default is the empty text. -/
def textOf (key : String) : String :=
  interpreter.str ((payload.lookup key).getD (.str ""))

/-- The status that the payload names, where an empty value names none. -/
def explicitStatus : String :=
  match payload.lookup "status" with
  | none => ""
  | some value => if value.truthy then interpreter.str value else ""

/-- The type of event under its first name or else under its second. -/
def eventType : String :=
  match payload.lookup "event_type" with
  | none => textOf interpreter payload "type"
  | some value =>
      if value.truthy then interpreter.str value else textOf interpreter payload "type"

/-- A status of the payload goes before its type of event. -/
def mapWebhookStatus : String :=
  if explicitStatus interpreter payload ∈ validStatuses then explicitStatus interpreter payload
  else (providerStatusMap.lookup (eventType interpreter payload)).getD "pending"

/-- Only a signature that is marked as invalid is refused. -/
def webhookIsValid : Bool :=
  match payload.lookup "signature_valid" with
  | some (.bool false) => false
  | _ => true

end Webhooks

end LocalPaymentProvider

/-- The books with the answers of the payment provider, whose events join the log of the books. -/
structure PaymentCockpit where
  books : Books
  links : Dict String (StubRecord LinkPayload)
  statuses : Dict String (StubRecord StatusPayload)

namespace PaymentCockpit
open LocalPaymentProvider MvpWorkflow

def initial : PaymentCockpit := ⟨.initial, Dict.empty, Dict.empty⟩

variable (cockpit : PaymentCockpit) (context : TenantContext)

def announce (event aggregateId : String) (payload : Fields) : PaymentCockpit :=
  { cockpit with books := { cockpit.books with
      events := cockpit.books.events ++ [⟨"renovation.operator." ++ event, aggregateId, .obj ([
        ("tenant_id", .str context.tenantId),
        ("organization_id", .str context.organizationId),
        ("actor_id", .str context.principalId)] ++ payload)⟩] } }

/-- The stored answer under a reference id, if it belongs to the tenant. -/
def existing {Payload : Type}
    (collection : Dict String (StubRecord Payload)) (referenceId : String) :
    Option (StubRecord Payload) :=
  (collection.get? referenceId).filter fun record => record.tenantId = context.tenantId

/-- The invoice of the tenant under an id. -/
def tenantInvoice (invoiceId : String) : Except PyError Invoice :=
  match cockpit.books.invoices.get? invoiceId with
  | none => .error (.keyError (invoiceId ++ " not found"))
  | some record =>
      if record.tenantId ≠ context.tenantId then .error (.keyError (invoiceId ++ " not found"))
      else .ok record.artifact

section Calls

variable (interpreter : Interpreter) (sha256 : String → String) (cockpit : PaymentCockpit)
  (context : TenantContext)

def keepLink (invoiceId now : String) (result : ProviderResult LinkPayload) :
    StubRecord LinkPayload × PaymentCockpit :=
  match existing context cockpit.links result.referenceId with
  | some record => (record, cockpit)
  | none =>
      let record := StubRecord.new context "payment_link" now result
      let stored := { cockpit with links := cockpit.links.set result.referenceId record }
      (record, stored.announce context "payment_link.created" invoiceId [
        ("invoice_id", .str invoiceId),
        ("payment_link_id", .str result.referenceId)])

variable (payload : Fields)

/-- The key of the client, where an empty or a missing one is none. -/
def linkKey : Option String :=
  match payload.lookup "idempotency_key" with
  | none => none
  | some value => if value.truthy then presentText (interpreter.str value) else none

variable (invoiceId : String)

def paymentLink (payload : Fields) (now : String) :
    Except PyError (StubRecord LinkPayload) × PaymentCockpit :=
  match cockpit.tenantInvoice context invoiceId with
  | .error exception => (.error exception, cockpit)
  | .ok invoice =>
      let (record, after) := cockpit.keepLink context invoiceId now
        (link sha256 context.tenantId invoice.invoiceId (linkKey interpreter payload)
          (interpreter.str ((payload.lookup "provider").getD (.str "local"))))
      (.ok record, after)

def keepStatus (invoiceId status now : String) (result : ProviderResult StatusPayload) :
    StubRecord StatusPayload × PaymentCockpit :=
  match existing context cockpit.statuses result.referenceId with
  | some record => (record, cockpit)
  | none =>
      let record := StubRecord.new context "payment_status" now result
      let stored := { cockpit with statuses := cockpit.statuses.set result.referenceId record }
      (record, stored.announce context "payment_status.updated" invoiceId [
        ("invoice_id", .str invoiceId),
        ("payment_status", .str status)])

def paymentStatus (invoiceId status : String) (providerReferenceId idempotencyKey : Option String)
    (receivedAt now : String) : Except PyError (StubRecord StatusPayload) × PaymentCockpit :=
  match cockpit.tenantInvoice context invoiceId with
  | .error exception => (.error exception, cockpit)
  | .ok _ =>
      match LocalPaymentProvider.status sha256 context.tenantId invoiceId status providerReferenceId
          idempotencyKey receivedAt with
      | .error exception => (.error exception, cockpit)
      | .ok result =>
          let (record, after) := cockpit.keepStatus context invoiceId status now result
          (.ok record, after)

/-- A refused notification is announced twice. -/
def rejectWebhook : PaymentCockpit :=
  let invoiceId := interpreter.str ((payload.lookup "invoice_id").getD (.str "unknown"))
  let reason := Json.str "payment webhook signature rejected"
  (cockpit.announce context "payment_webhook.rejected" invoiceId [
    ("invoice_id", .str invoiceId),
    ("failure_reason", reason)]).announce context "provider.failed" invoiceId [
      ("provider_type", .str "payment"),
      ("failure_reason", reason)]

/-- The type of event that the announcement of a notification shows. -/
def webhookEventType : Json :=
  let eventType := (payload.lookup "event_type").getD .null
  if eventType.truthy then eventType else (payload.lookup "type").getD .null

def paymentWebhook (receivedAt now : String) :
    Except PyError (StubRecord StatusPayload) × PaymentCockpit :=
  if webhookIsValid payload = false then
    (.error (.valueError "payment webhook signature rejected"),
      cockpit.rejectWebhook interpreter context payload)
  else
    match payload.lookup "invoice_id" with
    | none => (.error (.keyError "invoice_id"), cockpit)
    | some value =>
        match cockpit.paymentStatus sha256 context (interpreter.str value)
            (mapWebhookStatus interpreter payload)
            (presentText (textOf interpreter payload "provider_reference_id"))
            (presentText (textOf interpreter payload "idempotency_key")) receivedAt now with
        | (.error exception, after) => (.error exception, after)
        | (.ok record, after) =>
            (.ok record, after.announce context "payment_webhook.received" (interpreter.str value) [
              ("invoice_id", .str (interpreter.str value)),
              ("status", .str (mapWebhookStatus interpreter payload)),
              ("provider_event_type", webhookEventType payload)])

/-- The payment is recorded and announced, and the record of the invoice is read again. -/
def payInvoice (payload : PaymentPayload) :
    Except PyError (Record InvoicePayload Invoice) × PaymentCockpit :=
  match cockpit.books.payInvoice sha256 context invoiceId payload with
  | (.error exception, books) => (.error exception, { cockpit with books })
  | (.ok _, books) =>
      match books.invoices.get? invoiceId with
      | none => (.error (.keyError (invoiceId ++ " not found")), { cockpit with books })
      | some record =>
          (.ok record, { cockpit with books }.announce context "payment.recorded" invoiceId [
            ("invoice_id", .str invoiceId),
            ("paid_amount", money record.artifact.paidAmount)])

/-- The status that a payment gives to its invoice. -/
def settlementStatus (invoice : Invoice) : String :=
  if invoice.outstandingBalance ≤ 0 then "paid" else "partial"

def recordPayment (payload : PaymentPayload) (receivedAt now : String) :
    Except PyError (Record InvoicePayload Invoice) × PaymentCockpit :=
  match cockpit.payInvoice sha256 context invoiceId payload with
  | (.error exception, after) => (.error exception, after)
  | (.ok record, after) =>
      match after.paymentStatus sha256 context invoiceId (settlementStatus record.artifact) none none
          receivedAt now with
      | (.error exception, settled) => (.error exception, settled)
      | (.ok _, settled) => (.ok record, settled)

end Calls

end PaymentCockpit

/-- The calls on the payments of invoices with the times that they read, and the creation of the
invoices. -/
inductive PaymentCall where
  | createInvoice (context : TenantContext) (job : Except PyError (String × String))
      (payload : InvoicePayload)
  | paymentLink (context : TenantContext) (invoiceId : String) (payload : Fields) (now : String)
  | paymentStatus (context : TenantContext) (invoiceId status : String)
      (providerReferenceId idempotencyKey : Option String) (receivedAt now : String)
  | paymentWebhook (context : TenantContext) (payload : Fields) (receivedAt now : String)
  | recordPayment (context : TenantContext) (invoiceId : String) (payload : PaymentPayload)
      (receivedAt now : String)

inductive PaymentAnswer where
  | created (invoice : Invoice)
  | link (record : StubRecord LinkPayload)
  | status (record : StubRecord StatusPayload)
  | invoice (record : Record InvoicePayload Invoice)

def PaymentCockpit.step (interpreter : Interpreter) (sha256 : String → String) :
    Machine PaymentCockpit PaymentCall (Except PyError PaymentAnswer) := fun cockpit call =>
  match call with
  | .createInvoice context job payload =>
      let (answer, books) := cockpit.books.createInvoice sha256 context job payload
      (answer.map .created, { cockpit with books })
  | .paymentLink context invoiceId payload now =>
      let (answer, after) := cockpit.paymentLink interpreter sha256 context invoiceId payload now
      (answer.map .link, after)
  | .paymentStatus context invoiceId status providerReferenceId idempotencyKey receivedAt now =>
      let (answer, after) := cockpit.paymentStatus sha256 context invoiceId status
        providerReferenceId idempotencyKey receivedAt now
      (answer.map .status, after)
  | .paymentWebhook context payload receivedAt now =>
      let (answer, after) := cockpit.paymentWebhook interpreter sha256 context payload receivedAt now
      (answer.map .status, after)
  | .recordPayment context invoiceId payload receivedAt now =>
      let (answer, after) := cockpit.recordPayment sha256 context invoiceId payload receivedAt now
      (answer.map .invoice, after)

end AgentFabric.Renovation
