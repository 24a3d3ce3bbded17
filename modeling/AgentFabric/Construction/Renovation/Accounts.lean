import AgentFabric.Construction.Cloud.Runtime
import AgentFabric.Construction.Renovation.InvoiceService
import AgentFabric.Construction.Renovation.TenantRecord

namespace AgentFabric.Renovation
open Cloud InvoiceService VendorPayable

/-- What the invoices and the payables have in common. -/
structure AccountKind (Input Artifact : Type) where
  label : String
  idField : String
  paidEvent : String
  id : Artifact → String
  tenantId : Artifact → String
  jobId : Artifact → String
  due : Artifact → Int
  balance : Artifact → Balance
  withBalance : Artifact → Balance → Artifact
  apply : Artifact → PaymentPayload → Except PyError Artifact
  recreate : String → Artifact → Input → Except PyError Artifact
  exportJson : Artifact → String

/-- The payload with which a replay repeats a payment. -/
def PaymentRecord.replayPayload (record : PaymentRecord) : PaymentPayload where
  paymentDate := record.paymentDate
  amount := record.amount
  method := some record.method
  reference := some record.reference

namespace AccountKind

variable {Input Artifact : Type} (kind : AccountKind Input Artifact) (context : TenantContext)
  (collection : Dict String (Record Input Artifact))

/-- The payment is applied to the stored artifact. -/
def pay (id : String) (payload : PaymentPayload) :
    Except PyError (Artifact × Dict String (Record Input Artifact)) := do
  let record ← tenantRecord context collection id kind.label
  let updated ← kind.apply record.artifact payload
  .ok (updated, collection.set id { record with artifact := updated })

/-- The stored payload is submitted again, and then every payment. -/
def replay (id : String) : Except PyError Artifact := do
  let record ← tenantRecord context collection id kind.label
  let created ← kind.recreate context.tenantId record.artifact record.input
  let replayed ← (kind.balance record.artifact).paymentRecords.foldlM
    (fun artifact payment => kind.apply artifact payment.replayPayload) created
  if kind.exportJson replayed ≠ kind.exportJson record.artifact then
    .error (.valueError ("renovation " ++ kind.label ++ " replay diverged"))
  else .ok replayed

end AccountKind

section Kinds

variable (sha256 : String → String)

def invoiceKind : AccountKind InvoicePayload Invoice where
  label := "invoice"
  idField := "invoice_id"
  paidEvent := "renovation.invoice_paid"
  id := Invoice.invoiceId
  tenantId := Invoice.tenantId
  jobId := Invoice.jobId
  due := Invoice.total
  balance := Invoice.toBalance
  withBalance := fun invoice balance => { invoice with toBalance := balance }
  apply := applyInvoicePayment sha256
  recreate := fun tenantId original input =>
    createInvoice sha256 tenantId original.jobId original.customerId input
  exportJson := Invoice.exportJson

def payableKind : AccountKind PayablePayload VendorPayable where
  label := "payable"
  idField := "payable_id"
  paidEvent := "renovation.payable_paid"
  id := payableId
  tenantId := tenantId
  jobId := jobId
  due := amount
  balance := toBalance
  withBalance := fun payable balance => { payable with toBalance := balance }
  apply := applyPayablePayment sha256
  recreate := fun tenantId original input => createPayable sha256 tenantId original.jobId input
  exportJson := exportJson

end Kinds

/-- The row of a payment. -/
structure PaymentRow where
  tenantId : String
  organizationId : String
  createdBy : String
  jobId : String
  artifact : PaymentRecord

/-- The collections of the receivables, the payables and the payments, and the event log. -/
structure Books where
  invoices : Dict String (Record InvoicePayload Invoice)
  payables : Dict String (Record PayablePayload VendorPayable)
  payments : Dict String PaymentRow
  events : List EventAppend

namespace Books

variable (sha256 : String → String)

def initial : Books := ⟨Dict.empty, Dict.empty, Dict.empty, []⟩

variable (books : Books) (context : TenantContext)

def append (eventType aggregateId : String) (values : List (String × Json)) : Books :=
  { books with events := books.events ++ [⟨eventType, aggregateId,
      .obj (("tenant_id", .str context.tenantId) ::
        ("organization_id", .str context.organizationId) :: values)⟩] }

/-- The job and the customer of its proposal are read before the invoice is made. -/
def createInvoice (job : Except PyError (String × String)) (payload : InvoicePayload) :
    Except PyError Invoice × Books :=
  match job.bind fun (jobId, customerId) =>
      InvoiceService.createInvoice sha256 context.tenantId jobId customerId payload with
  | .error exception => (.error exception, books)
  | .ok invoice =>
      let stored := { books with
        invoices := books.invoices.set invoice.invoiceId (.new context payload invoice) }
      (.ok invoice, stored.append context "renovation.invoice_created" invoice.invoiceId [
        ("job_id", .str invoice.jobId),
        ("invoice_id", .str invoice.invoiceId),
        ("total", money invoice.total),
        ("due_date", .str invoice.dueDate)])

def createPayable (job : Except PyError String)
    (payload : PayablePayload) : Except PyError VendorPayable × Books :=
  match job.bind fun jobId =>
      InvoiceService.createPayable sha256 context.tenantId jobId payload with
  | .error exception => (.error exception, books)
  | .ok payable =>
      let stored := { books with
        payables := books.payables.set payable.payableId (.new context payload payable) }
      (.ok payable, stored.append context "renovation.payable_created" payable.payableId [
        ("job_id", .str payable.jobId),
        ("payable_id", .str payable.payableId),
        ("amount", money payable.amount),
        ("due_date", .str payable.dueDate)])

/-- The last payment of an updated artifact is stored and announced. -/
def settle {Input Artifact : Type} (kind : AccountKind Input Artifact) (books : Books)
    (context : TenantContext) (id : String) (updated : Artifact) :
    Except PyError PaymentRecord × Books :=
  match (kind.balance updated).paymentRecords.getLast? with
  | none => (.error (.indexError "tuple index out of range"), books)
  | some payment =>
      let stored := { books with
        payments := books.payments.set payment.paymentId {
          tenantId := context.tenantId
          organizationId := context.organizationId
          createdBy := context.principalId
          jobId := kind.jobId updated
          artifact := payment } }
      (.ok payment, stored.append context kind.paidEvent id [
        ("job_id", .str (kind.jobId updated)),
        (kind.idField, .str id),
        ("payment_id", .str payment.paymentId),
        ("amount", money payment.amount),
        ("outstanding_balance", money (kind.balance updated).outstandingBalance)])

variable (invoiceId : String)

def payInvoice (payload : PaymentPayload) : Except PyError PaymentRecord × Books :=
  match (invoiceKind sha256).pay context books.invoices invoiceId payload with
  | .error exception => (.error exception, books)
  | .ok (updated, invoices) =>
      settle (invoiceKind sha256) { books with invoices } context invoiceId updated

variable (payableId : String)

def payPayable (payload : PaymentPayload) : Except PyError PaymentRecord × Books :=
  match (payableKind sha256).pay context books.payables payableId payload with
  | .error exception => (.error exception, books)
  | .ok (updated, payables) =>
      settle (payableKind sha256) { books with payables } context payableId updated

def replayInvoice : Except PyError Invoice :=
  (invoiceKind sha256).replay context books.invoices invoiceId

def replayPayable : Except PyError VendorPayable :=
  (payableKind sha256).replay context books.payables payableId

end Books

/-- The calls that change the books. -/
inductive BooksCall where
  | createInvoice (context : TenantContext) (job : Except PyError (String × String))
      (payload : InvoicePayload)
  | createPayable (context : TenantContext) (job : Except PyError String) (payload : PayablePayload)
  | payInvoice (context : TenantContext) (invoiceId : String) (payload : PaymentPayload)
  | payPayable (context : TenantContext) (payableId : String) (payload : PaymentPayload)

/-- One call, which answers with the payment that it accepts. -/
def Books.step (sha256 : String → String) (books : Books) :
    BooksCall → Except PyError (Option PaymentRecord) × Books
  | .createInvoice context job payload =>
      let (answer, after) := books.createInvoice sha256 context job payload
      (answer.map fun _ => none, after)
  | .createPayable context job payload =>
      let (answer, after) := books.createPayable sha256 context job payload
      (answer.map fun _ => none, after)
  | .payInvoice context invoiceId payload =>
      let (answer, after) := books.payInvoice sha256 context invoiceId payload
      (answer.map some, after)
  | .payPayable context payableId payload =>
      let (answer, after) := books.payPayable sha256 context payableId payload
      (answer.map some, after)

end AgentFabric.Renovation
