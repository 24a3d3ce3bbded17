import AgentFabric.Construction.Renovation.Schedule
import AgentFabric.Foundation.Money
import AgentFabric.Foundation.PyCoercion

namespace AgentFabric.Renovation

/-- An accepted payment with its amount in cents. -/
structure PaymentRecord where
  paymentId : String
  tenantId : String
  targetType : String
  targetId : String
  paymentDate : String
  amount : Int
  method : String
  reference : String

/-- The derived fields that the payments of an invoice or a payable change. -/
structure Balance where
  paidAmount : Int
  outstandingBalance : Int
  status : String
  paymentRecords : List PaymentRecord

structure Invoice extends Balance where
  invoiceId : String
  tenantId : String
  jobId : String
  customerId : String
  invoiceDate : String
  dueDate : String
  description : String
  amount : Int
  tax : Int
  total : Int

structure VendorPayable extends Balance where
  payableId : String
  tenantId : String
  jobId : String
  vendor : String
  payableDate : String
  dueDate : String
  description : String
  amount : Int

/-- The payload of an invoice, whose tax may be missing. -/
structure InvoicePayload where
  invoiceDate : String
  dueDate : String
  amount : Int
  tax : Option Int
  description : String

structure PayablePayload where
  payableDate : String
  dueDate : String
  amount : Int
  vendor : String
  description : String

/-- The payload of a payment, whose method and reference may be missing. -/
structure PaymentPayload where
  paymentDate : String
  amount : Int
  method : Option String
  reference : Option String

section Export

def money (cents : Int) : Json := .float (Money.repr cents)

namespace PaymentRecord

variable (record : PaymentRecord)

/-- The fields that identify a payment. -/
def identity : List (String × Json) := [
  ("tenant_id", .str record.tenantId),
  ("target_type", .str record.targetType),
  ("target_id", .str record.targetId),
  ("payment_date", .str record.paymentDate),
  ("amount", money record.amount),
  ("method", .str record.method),
  ("reference", .str record.reference)]

def asDict : Json :=
  .obj (("payment_id", .str record.paymentId) :: record.identity)

end PaymentRecord

def Balance.fields (balance : Balance) : List (String × Json) := [
  ("paid_amount", money balance.paidAmount),
  ("outstanding_balance", money balance.outstandingBalance),
  ("status", .str balance.status),
  ("payment_records", .arr (balance.paymentRecords.map PaymentRecord.asDict))]

namespace Invoice

variable (invoice : Invoice)

/-- The fields that identify an invoice. -/
def identity : List (String × Json) := [
  ("tenant_id", .str invoice.tenantId),
  ("job_id", .str invoice.jobId),
  ("customer_id", .str invoice.customerId),
  ("invoice_date", .str invoice.invoiceDate),
  ("due_date", .str invoice.dueDate),
  ("description", .str invoice.description),
  ("amount", money invoice.amount),
  ("tax", money invoice.tax)]

def asDict : Json :=
  .obj (("invoice_id", .str invoice.invoiceId) :: invoice.identity ++
    ("total", money invoice.total) :: invoice.toBalance.fields)

def exportJson : String := invoice.asDict.dumps

end Invoice

namespace VendorPayable

variable (payable : VendorPayable)

/-- The fields that identify a payable. -/
def identity : List (String × Json) := [
  ("tenant_id", .str payable.tenantId),
  ("job_id", .str payable.jobId),
  ("vendor", .str payable.vendor),
  ("payable_date", .str payable.payableDate),
  ("due_date", .str payable.dueDate),
  ("description", .str payable.description),
  ("amount", money payable.amount)]

def asDict : Json :=
  .obj (("payable_id", .str payable.payableId) :: payable.identity ++ payable.toBalance.fields)

def exportJson : String := payable.asDict.dumps

end VendorPayable

end Export

namespace InvoiceService

variable (sha256 : String → String)

/-- The text without the spaces at its ends. -/
def strip (text : String) : String := String.ofList (PyText.strip text.toList)

/-- An account without payments. -/
def opened (total : Int) : Balance where
  paidAmount := 0
  outstandingBalance := total
  status := "open"
  paymentRecords := []

def positiveMoney (cents : Int) (label : String) : Except PyError Int :=
  if cents ≤ 0 then .error (.valueError (label ++ " must be positive")) else .ok cents

def nonNegativeMoney (cents : Int) (label : String) : Except PyError Int :=
  if cents < 0 then .error (.valueError (label ++ " cannot be negative")) else .ok cents

def createInvoice (tenantId jobId customerId : String) (payload : InvoicePayload) :
    Except PyError Invoice := do
  let invoiceDate ← Date.fromisoformat payload.invoiceDate
  let dueDate ← Date.fromisoformat payload.dueDate
  if dueDate.day < invoiceDate.day then
    .error (.valueError "invoice due date precedes invoice date")
  else do
    let amount ← positiveMoney payload.amount "invoice amount"
    let tax ← nonNegativeMoney (payload.tax.getD 0) "invoice tax"
    let unnamed : Invoice := {
      opened (amount + tax) with
      invoiceId := ""
      tenantId, jobId, customerId
      invoiceDate := invoiceDate.isoformat
      dueDate := dueDate.isoformat
      description := strip payload.description
      amount, tax
      total := amount + tax }
    if unnamed.description = "" then .error (.valueError "invoice description is required")
    else .ok { unnamed with
      invoiceId := "invoice-" ++ digestPrefix sha256 20 (.obj unnamed.identity) }

def createPayable (tenantId jobId : String) (payload : PayablePayload) :
    Except PyError VendorPayable := do
  let payableDate ← Date.fromisoformat payload.payableDate
  let dueDate ← Date.fromisoformat payload.dueDate
  if dueDate.day < payableDate.day then
    .error (.valueError "payable due date precedes payable date")
  else do
    let amount ← positiveMoney payload.amount "payable amount"
    let unnamed : VendorPayable := {
      opened amount with
      payableId := ""
      tenantId, jobId
      vendor := strip payload.vendor
      payableDate := payableDate.isoformat
      dueDate := dueDate.isoformat
      description := strip payload.description
      amount }
    if unnamed.vendor = "" ∨ unnamed.description = "" then
      .error (.valueError "payable vendor and description are required")
    else .ok { unnamed with
      payableId := "payable-" ++ digestPrefix sha256 20 (.obj unnamed.identity) }

def payment (tenantId targetType targetId : String) (outstanding : Int)
    (payload : PaymentPayload) : Except PyError PaymentRecord := do
  if outstanding ≤ 0 then .error (.valueError (targetType ++ " is already paid"))
  else do
    let amount ← positiveMoney payload.amount "payment amount"
    if outstanding < amount then .error (.valueError "payment exceeds outstanding balance")
    else do
      let paymentDate ← Date.fromisoformat payload.paymentDate
      let unnamed : PaymentRecord := {
        paymentId := ""
        tenantId, targetType, targetId
        paymentDate := paymentDate.isoformat
        amount
        method := payload.method.getD "other"
        reference := payload.reference.getD "" }
      .ok { unnamed with
        paymentId := "payment-" ++ digestPrefix sha256 20 (.obj unnamed.identity) }

/-- The account after one more payment. -/
def paid (due : Int) (balance : Balance) (record : PaymentRecord) : Balance where
  paidAmount := balance.paidAmount + record.amount
  outstandingBalance := due - (balance.paidAmount + record.amount)
  status := if due - (balance.paidAmount + record.amount) = 0 then "paid" else "partial"
  paymentRecords := balance.paymentRecords ++ [record]

def applyInvoicePayment (invoice : Invoice) (payload : PaymentPayload) : Except PyError Invoice := do
  let record ← payment sha256 invoice.tenantId "invoice" invoice.invoiceId
    invoice.outstandingBalance payload
  .ok { invoice with toBalance := paid invoice.total invoice.toBalance record }

def applyPayablePayment (payable : VendorPayable) (payload : PaymentPayload) :
    Except PyError VendorPayable := do
  let record ← payment sha256 payable.tenantId "payable" payable.payableId
    payable.outstandingBalance payload
  .ok { payable with toBalance := paid payable.amount payable.toBalance record }

end InvoiceService

end AgentFabric.Renovation
