import AgentFabric.Construction.Renovation.Accounts

namespace AgentFabric.Renovation
open InvoiceService

/-- The derived fields agree with the payments and with the amount that is due. -/
structure Balanced (due : Int) (balance : Balance) : Prop where
  due_pos : 0 < due
  amounts_pos : ∀ record ∈ balance.paymentRecords, 0 < record.amount
  paid_eq : balance.paidAmount = (balance.paymentRecords.map PaymentRecord.amount).sum
  outstanding_eq : balance.outstandingBalance = due - balance.paidAmount
  outstanding_nonneg : 0 ≤ balance.outstandingBalance
  open_iff : balance.status = "open" ↔ balance.paidAmount = 0
  paid_iff : balance.status = "paid" ↔ balance.outstandingBalance = 0
  partial_iff : balance.status = "partial" ↔ balance.paidAmount ≠ 0 ∧ balance.outstandingBalance ≠ 0

variable {due : Int}

theorem balanced_opened (positive : 0 < due) : Balanced due (opened due) where
  due_pos := positive
  amounts_pos := fun record listed => by cases listed
  paid_eq := rfl
  outstanding_eq := (sub_zero due).symm
  outstanding_nonneg := positive.le
  open_iff := iff_of_true rfl rfl
  paid_iff := iff_of_false (by simp [opened]) positive.ne'
  partial_iff := iff_of_false (by simp [opened]) fun facts => facts.1 rfl

variable {balance : Balance}

section

variable (balanced : Balanced due balance)
include balanced

theorem Balanced.paidAmount_nonneg : 0 ≤ balance.paidAmount := by
  rw [balanced.paid_eq]
  refine List.sum_nonneg ?_
  intro amount listed
  obtain ⟨record, member, rfl⟩ := List.mem_map.mp listed
  exact (balanced.amounts_pos record member).le

theorem Balanced.paidAmount_eq_zero_iff : balance.paidAmount = 0 ↔ balance.paymentRecords = [] := by
  rw [balanced.paid_eq]
  constructor
  · intro nothing
    cases records : balance.paymentRecords with
    | nil => rfl
    | cons record rest =>
        have first := balanced.amounts_pos record (by rw [records]; exact List.mem_cons_self)
        have others : 0 ≤ (rest.map PaymentRecord.amount).sum := by
          refine List.sum_nonneg ?_
          intro amount listed
          obtain ⟨later, member, rfl⟩ := List.mem_map.mp listed
          refine (balanced.amounts_pos later ?_).le
          rw [records]
          exact .tail _ member
        rw [records, List.map_cons, List.sum_cons] at nothing
        omega
  · intro records
    rw [records]
    rfl

/-- An admissible payment keeps the account balanced. -/
theorem Balanced.pay {record : PaymentRecord} (positive : 0 < record.amount)
    (within : record.amount ≤ balance.outstandingBalance) :
    Balanced due (paid due balance record) := by
  have paidNonneg := balanced.paidAmount_nonneg
  have left : balance.outstandingBalance = due - balance.paidAmount := balanced.outstanding_eq
  have paidPos : balance.paidAmount + record.amount ≠ 0 := by omega
  refine {
    due_pos := balanced.due_pos
    amounts_pos := ?_
    paid_eq := ?_
    outstanding_eq := rfl
    outstanding_nonneg := ?_
    open_iff := ?_
    paid_iff := ?_
    partial_iff := ?_ }
  · intro other listed
    rcases List.mem_append.mp listed with before | added
    · exact balanced.amounts_pos other before
    · rw [List.mem_singleton.mp added]
      exact positive
  · simp [paid, balanced.paid_eq]
  · show 0 ≤ due - (balance.paidAmount + record.amount)
    omega
  · unfold paid
    split
    · exact iff_of_false (by simp) paidPos
    · exact iff_of_false (by simp) paidPos
  · unfold paid
    split
    · rename_i nothing
      exact iff_of_true rfl nothing
    · rename_i something
      exact iff_of_false (by simp) something
  · unfold paid
    split
    · rename_i nothing
      exact iff_of_false (by simp) fun facts => facts.2 nothing
    · rename_i something
      exact iff_of_true rfl ⟨paidPos, something⟩

end

section Payments

variable {sha256 : String → String} {tenantId targetType targetId : String} {outstanding : Int}
  {payload : PaymentPayload} {record : PaymentRecord}

/-- The record of a payment on a date. -/
def paymentOn (sha256 : String → String) (tenantId targetType targetId : String)
    (payload : PaymentPayload) (date : Date) : PaymentRecord :=
  let unnamed : PaymentRecord := {
    paymentId := ""
    tenantId, targetType, targetId
    paymentDate := date.isoformat
    amount := payload.amount
    method := payload.method.getD "other"
    reference := payload.reference.getD "" }
  { unnamed with paymentId := "payment-" ++ digestPrefix sha256 20 (.obj unnamed.identity) }

/-- A payment is refused when it is not positive, exceeds the balance, meets a paid account or has no
readable date. -/
def Refused (outstanding : Int) (payload : PaymentPayload) : Prop :=
  payload.amount ≤ 0 ∨ outstanding < payload.amount ∨ outstanding ≤ 0 ∨
    Date.fromisoformat? payload.paymentDate = none

theorem payment_eq_ok_iff :
    payment sha256 tenantId targetType targetId outstanding payload = .ok record ↔
      0 < outstanding ∧ 0 < payload.amount ∧ payload.amount ≤ outstanding ∧
        ∃ date, Date.fromisoformat? payload.paymentDate = some date ∧
          record = paymentOn sha256 tenantId targetType targetId payload date := by
  unfold payment positiveMoney Date.fromisoformat
  by_cases settled : outstanding ≤ 0
  · simp [settled, not_lt.mpr settled]
  · by_cases nothing : payload.amount ≤ 0
    · simp [settled, nothing, not_lt.mpr nothing, bind, Except.bind]
    · by_cases exceeds : outstanding < payload.amount
      · simp [settled, nothing, exceeds, not_le.mpr exceeds, bind, Except.bind]
      · cases read : Date.fromisoformat? payload.paymentDate with
        | none => simp [settled, nothing, exceeds, bind, Except.bind]
        | some date =>
            simp only [settled, nothing, exceeds, bind, Except.bind, if_false, Except.ok.injEq,
              not_le.mp settled, not_le.mp nothing, not_lt.mp exceeds, true_and,
              Option.some.injEq, exists_eq_left']
            exact eq_comm

theorem payment_refused_iff :
    (∃ error, payment sha256 tenantId targetType targetId outstanding payload =
      .error error) ↔ Refused outstanding payload := by
  cases answer : payment sha256 tenantId targetType targetId outstanding payload with
  | error error =>
      refine iff_of_true ⟨error, rfl⟩ ?_
      by_contra accepted
      simp only [Refused, not_or, not_le, not_lt] at accepted
      obtain ⟨positive, within, unsettled, readable⟩ := accepted
      obtain ⟨date, read⟩ := Option.ne_none_iff_exists'.mp readable
      have returned : payment sha256 tenantId targetType targetId outstanding payload =
          .ok (paymentOn sha256 tenantId targetType targetId payload date) :=
        payment_eq_ok_iff.mpr ⟨unsettled, positive, within, date, read, rfl⟩
      rw [answer] at returned
      cases returned
  | ok made =>
      obtain ⟨unsettled, positive, within, date, read, _⟩ := payment_eq_ok_iff.mp answer
      refine iff_of_false (by simp) ?_
      rintro (nothing | exceeds | settled | unreadable)
      · omega
      · omega
      · omega
      · rw [read] at unreadable
        cases unreadable

/-- A payment that is repeated from its record is the same payment. -/
theorem payment_replay
    (made : payment sha256 tenantId targetType targetId outstanding payload = .ok record) :
    payment sha256 tenantId targetType targetId outstanding record.replayPayload = .ok record := by
  obtain ⟨unsettled, positive, within, date, _, rfl⟩ := payment_eq_ok_iff.mp made
  refine payment_eq_ok_iff.mpr ⟨unsettled, positive, within, date, ?_, rfl⟩
  exact Date.fromisoformat?_isoformat date

end Payments

open Collection

section Answers

variable {Value : Type} {answer : Except PyError Value} {condition : Value → Prop}

/-- A condition on what is returned is one on the returned value. -/
theorem forall_returned_iff {value : Value} (returned : answer = .ok value) :
    (∀ made, answer = .ok made → condition made) ↔ condition value := by
  constructor
  · exact fun all => all value returned
  · intro holds made same
    cases returned.symm.trans same
    exact holds

/-- A refusal meets every condition on what is returned. -/
theorem forall_returned_of_error {error : PyError} (refused : answer = .error error) :
    ∀ made, answer = .ok made → condition made := by
  intro made returned
  rw [refused] at returned
  cases returned

end Answers

namespace AccountKind

variable {Input Artifact : Type}

/-- A payment changes only the balance of an artifact, and a new artifact is recreated from its
payload whatever its balance is. -/
structure Lawful (sha256 : String → String) (kind : AccountKind Input Artifact) : Prop where
  apply_eq : ∀ artifact payload, kind.apply artifact payload =
    payment sha256 (kind.tenantId artifact) kind.label (kind.id artifact)
      (kind.balance artifact).outstandingBalance payload >>= fun record =>
        .ok (kind.withBalance artifact (paid (kind.due artifact) (kind.balance artifact) record))
  balance_withBalance : ∀ artifact balance,
    kind.balance (kind.withBalance artifact balance) = balance
  id_withBalance : ∀ artifact balance, kind.id (kind.withBalance artifact balance) = kind.id artifact
  tenantId_withBalance : ∀ artifact balance,
    kind.tenantId (kind.withBalance artifact balance) = kind.tenantId artifact
  due_withBalance : ∀ artifact balance,
    kind.due (kind.withBalance artifact balance) = kind.due artifact
  recreate_withBalance : ∀ tenantId artifact balance input,
    kind.recreate tenantId (kind.withBalance artifact balance) input =
      kind.recreate tenantId artifact input

/-- A new artifact that its payload creates again. -/
structure Created (kind : AccountKind Input Artifact) (tenantId : String) (input : Input)
    (artifact : Artifact) : Prop where
  recreate : kind.recreate tenantId artifact input = .ok artifact
  tenant : kind.tenantId artifact = tenantId
  due_pos : 0 < kind.due artifact
  balance : kind.balance artifact = opened (kind.due artifact)

/-- The account under an id has no payment yet. -/
def WithoutPayments (kind : AccountKind Input Artifact)
    (accounts : Dict String (Record Input Artifact)) (id : String) : Prop :=
  ∀ stored, accounts.get? id = some stored → (kind.balance stored.artifact).paymentRecords = []

/-- The payment that an account makes of a payload. -/
def paymentOf (sha256 : String → String) (kind : AccountKind Input Artifact)
    (context : TenantContext) (accounts : Dict String (Record Input Artifact)) (id : String)
    (payload : PaymentPayload) : Except PyError PaymentRecord := do
  let stored ← tenantRecord context accounts id kind.label
  payment sha256 (kind.tenantId stored.artifact) kind.label (kind.id stored.artifact)
    (kind.balance stored.artifact).outstandingBalance payload

/-- What one call does to the accounts of a kind and to the payments, with the payment that it
accepts and with what it needs to overwrite nothing. -/
inductive Change (sha256 : String → String) (kind : AccountKind Input Artifact)
    (accounts : Dict String (Record Input Artifact)) (payments : Dict String PaymentRow)
    (fresh : Prop) :
    Option PaymentRecord → Dict String (Record Input Artifact) → Dict String PaymentRow → Prop
  | kept (unwritten : fresh) : Change sha256 kind accounts payments fresh none accounts payments
  | created {context : TenantContext} {input : Input} {artifact : Artifact}
      (made : Created kind context.tenantId input artifact)
      (fresh_iff : fresh ↔ kind.WithoutPayments accounts (kind.id artifact)) :
      Change sha256 kind accounts payments fresh none
        (accounts.set (kind.id artifact) (.new context input artifact)) payments
  | paid {id : String} {stored : Record Input Artifact} {payload : PaymentPayload}
      {record : PaymentRecord} {row : PaymentRow} (found : accounts.get? id = some stored)
      (accepted : payment sha256 (kind.tenantId stored.artifact) kind.label
        (kind.id stored.artifact) (kind.balance stored.artifact).outstandingBalance payload =
          .ok record)
      (listed : row.artifact = record)
      (fresh_iff : fresh ↔ payments.get? record.paymentId = none) :
      Change sha256 kind accounts payments fresh (some record)
        (accounts.set id { stored with
          artifact := kind.withBalance stored.artifact
            (InvoiceService.paid (kind.due stored.artifact) (kind.balance stored.artifact) record) })
        (payments.set record.paymentId row)

variable {kind : AccountKind Input Artifact} {context : TenantContext} {sha256 : String → String}
  {id : String} {payload : PaymentPayload}

theorem pay_eq_ok_iff (lawful : kind.Lawful sha256)
    {accounts after : Dict String (Record Input Artifact)} {updated : Artifact} :
    kind.pay context accounts id payload = .ok (updated, after) ↔
      ∃ stored record, tenantRecord context accounts id kind.label = .ok stored ∧
        payment sha256 (kind.tenantId stored.artifact) kind.label (kind.id stored.artifact)
          (kind.balance stored.artifact).outstandingBalance payload = .ok record ∧
        updated = kind.withBalance stored.artifact
          (paid (kind.due stored.artifact) (kind.balance stored.artifact) record) ∧
        after = accounts.set id { stored with artifact := updated } := by
  unfold pay
  rw [bind_eq_ok_iff]
  refine exists_congr fun stored => ?_
  rw [bind_eq_ok_iff, lawful.apply_eq]
  constructor
  · rintro ⟨found, made, applied, returned⟩
    obtain ⟨record, accepted, same⟩ := bind_eq_ok_iff.mp applied
    cases same
    cases returned
    exact ⟨record, found, accepted, rfl, rfl⟩
  · rintro ⟨record, found, accepted, rfl, rfl⟩
    exact ⟨found, _, bind_eq_ok_iff.mpr ⟨record, accepted, rfl⟩, rfl⟩

variable {accounts : Dict String (Record Input Artifact)}

/-- An account that is not paid makes no payment. -/
theorem paymentOf_of_refused (lawful : kind.Lawful sha256)
    {error : PyError} (refused : kind.pay context accounts id payload = .error error) :
    ∃ other, kind.paymentOf sha256 context accounts id payload = .error other := by
  cases made : kind.paymentOf sha256 context accounts id payload with
  | error other => exact ⟨other, rfl⟩
  | ok record =>
      obtain ⟨stored, read, accepted⟩ := bind_eq_ok_iff.mp made
      have paid := (pay_eq_ok_iff lawful).mpr ⟨stored, record, read, accepted, rfl, rfl⟩
      rw [refused] at paid
      cases paid

/-- A payment is refused exactly when its record is refused. -/
theorem pay_refused_iff (lawful : kind.Lawful sha256)
    {stored : Record Input Artifact}
    (found : tenantRecord context accounts id kind.label = .ok stored) (payload : PaymentPayload) :
    (∃ error, kind.pay context accounts id payload = .error error) ↔
      Refused (kind.balance stored.artifact).outstandingBalance payload := by
  rw [← @payment_refused_iff sha256 (kind.tenantId stored.artifact) kind.label
    (kind.id stored.artifact)]
  unfold pay
  rw [found]
  show (∃ error, (kind.apply stored.artifact payload >>= fun updated => _) = _) ↔ _
  rw [lawful.apply_eq]
  cases payment sha256 (kind.tenantId stored.artifact) kind.label (kind.id stored.artifact)
      (kind.balance stored.artifact).outstandingBalance payload with
  | error error => simp [bind, Except.bind]
  | ok record => simp [bind, Except.bind]

end AccountKind

section Kinds

variable (sha256 : String → String)

theorem invoiceKind_lawful : (invoiceKind sha256).Lawful sha256 where
  apply_eq := fun _ _ => rfl
  balance_withBalance := fun _ _ => rfl
  id_withBalance := fun _ _ => rfl
  tenantId_withBalance := fun _ _ => rfl
  due_withBalance := fun _ _ => rfl
  recreate_withBalance := fun _ _ _ _ => rfl

theorem payableKind_lawful : (payableKind sha256).Lawful sha256 where
  apply_eq := fun _ _ => rfl
  balance_withBalance := fun _ _ => rfl
  id_withBalance := fun _ _ => rfl
  tenantId_withBalance := fun _ _ => rfl
  due_withBalance := fun _ _ => rfl
  recreate_withBalance := fun _ _ _ _ => rfl

variable {cents amount : Int}

theorem positiveMoney_ok {label : String}
    (passed : positiveMoney cents label = .ok amount) : 0 < amount := by
  unfold positiveMoney at passed
  split at passed
  · cases passed
  · cases passed
    omega

theorem nonNegativeMoney_ok {label : String}
    (passed : nonNegativeMoney cents label = .ok amount) : 0 ≤ amount := by
  unfold nonNegativeMoney at passed
  split at passed
  · cases passed
  · cases passed
    omega

theorem createInvoice_created {tenantId jobId customerId : String} {payload : InvoicePayload}
    {invoice : Invoice}
    (made : createInvoice sha256 tenantId jobId customerId payload = .ok invoice) :
    (invoiceKind sha256).Created tenantId payload invoice := by
  have whole := made
  unfold createInvoice at made
  obtain ⟨invoiceDate, _, made⟩ := bind_eq_ok_iff.mp made
  obtain ⟨dueDate, _, made⟩ := bind_eq_ok_iff.mp made
  split at made
  · cases made
  · obtain ⟨amount, amountRead, made⟩ := bind_eq_ok_iff.mp made
    obtain ⟨tax, taxRead, made⟩ := bind_eq_ok_iff.mp made
    simp only at made
    split at made
    · cases made
    · have positive := positiveMoney_ok amountRead
      have nonnegative := nonNegativeMoney_ok taxRead
      cases made
      exact ⟨whole, rfl, by show 0 < amount + tax; omega, rfl⟩

theorem createPayable_created {tenantId jobId : String} {payload : PayablePayload}
    {payable : VendorPayable}
    (made : createPayable sha256 tenantId jobId payload = .ok payable) :
    (payableKind sha256).Created tenantId payload payable := by
  have whole := made
  unfold createPayable at made
  obtain ⟨payableDate, _, made⟩ := bind_eq_ok_iff.mp made
  obtain ⟨dueDate, _, made⟩ := bind_eq_ok_iff.mp made
  split at made
  · cases made
  · obtain ⟨amount, amountRead, made⟩ := bind_eq_ok_iff.mp made
    simp only at made
    split at made
    · cases made
    · have positive := positiveMoney_ok amountRead
      cases made
      exact ⟨whole, rfl, positive, rfl⟩

end Kinds

namespace Books

variable (sha256 : String → String) (books : Books)

/-- The payment of an answer. -/
def accepted? (answer : Except PyError (Option PaymentRecord)) : Option PaymentRecord :=
  answer.toOption.join

variable {Input Artifact : Type} {kind : AccountKind Input Artifact}

/-- A paid artifact stores its last payment. -/
theorem settle_paid (lawful : kind.Lawful sha256) (context : TenantContext) (id : String)
    (artifact : Artifact) (record : PaymentRecord) :
    let updated := kind.withBalance artifact (paid (kind.due artifact) (kind.balance artifact) record)
    ∃ row after, settle kind books context id updated = (.ok record, after) ∧
      row.artifact = record ∧ after.invoices = books.invoices ∧
      after.payables = books.payables ∧
      after.payments = books.payments.set record.paymentId row := by
  intro updated
  have records : (kind.balance updated).paymentRecords =
      (kind.balance artifact).paymentRecords ++ [record] := by
    rw [lawful.balance_withBalance]
    rfl
  unfold settle
  rw [records, List.getLast?_concat]
  exact ⟨_, _, rfl, rfl, rfl, rfl, rfl⟩

/-- A call overwrites no payment: the account that it creates has none yet, and the payment that it
accepts has a new id. -/
def Fresh : BooksCall → Prop
  | .createInvoice context job payload => ∀ invoice,
      (job.bind fun (jobId, customerId) =>
        InvoiceService.createInvoice sha256 context.tenantId jobId customerId payload) = .ok invoice →
      (invoiceKind sha256).WithoutPayments books.invoices invoice.invoiceId
  | .createPayable context job payload => ∀ payable,
      (job.bind fun jobId =>
        InvoiceService.createPayable sha256 context.tenantId jobId payload) = .ok payable →
      (payableKind sha256).WithoutPayments books.payables payable.payableId
  | .payInvoice context invoiceId payload => ∀ record,
      (invoiceKind sha256).paymentOf sha256 context books.invoices invoiceId payload = .ok record →
      books.payments.get? record.paymentId = none
  | .payPayable context payableId payload => ∀ record,
      (payableKind sha256).paymentOf sha256 context books.payables payableId payload = .ok record →
      books.payments.get? record.paymentId = none

/-- A paid account is changed by the payment that it makes. -/
theorem settle_changes (lawful : kind.Lawful sha256) {context : TenantContext}
    {accounts accountsAfter : Dict String (Record Input Artifact)} {id : String}
    {payload : PaymentPayload} {updated : Artifact}
    (returned : kind.pay context accounts id payload = .ok (updated, accountsAfter)) :
    ∃ record after, settle kind books context id updated = (.ok record, after) ∧
      after.invoices = books.invoices ∧ after.payables = books.payables ∧
      kind.Change sha256 accounts books.payments
        (∀ made, kind.paymentOf sha256 context accounts id payload = .ok made →
          books.payments.get? made.paymentId = none)
        (some record) accountsAfter after.payments := by
  obtain ⟨stored, record, read, accepted, rfl, rfl⟩ := (AccountKind.pay_eq_ok_iff lawful).mp returned
  obtain ⟨_, found, _⟩ := tenantRecord_eq_ok_iff.mp read
  have made : kind.paymentOf sha256 context accounts id payload = .ok record :=
    bind_eq_ok_iff.mpr ⟨stored, read, accepted⟩
  obtain ⟨row, after, settled, listed, invoices, payables, payments⟩ :=
    settle_paid sha256 books lawful context id stored.artifact record
  refine ⟨record, after, settled, invoices, payables, ?_⟩
  rw [payments]
  exact .paid found accepted listed (forall_returned_iff made)

/-- Every call changes the accounts of one kind and leaves the others. -/
theorem step_changes (call : BooksCall) :
    let after := (step sha256 books call).2
    let accepted := accepted? (step sha256 books call).1
    ((invoiceKind sha256).Change sha256 books.invoices books.payments (Fresh sha256 books call)
        accepted after.invoices after.payments ∧ after.payables = books.payables) ∨
      ((payableKind sha256).Change sha256 books.payables books.payments (Fresh sha256 books call)
        accepted after.payables after.payments ∧ after.invoices = books.invoices) := by
  cases call with
  | createInvoice context job payload =>
      simp only [step, createInvoice, Fresh]
      split
      · rename_i error refused
        exact .inl ⟨.kept (forall_returned_of_error refused), rfl⟩
      · rename_i invoice returned
        obtain ⟨⟨jobId, customerId⟩, _, made⟩ := bind_eq_ok_iff.mp returned
        exact .inl ⟨.created (createInvoice_created sha256 made) (forall_returned_iff returned), rfl⟩
  | createPayable context job payload =>
      simp only [step, createPayable, Fresh]
      split
      · rename_i error refused
        exact .inr ⟨.kept (forall_returned_of_error refused), rfl⟩
      · rename_i payable returned
        obtain ⟨jobId, _, made⟩ := bind_eq_ok_iff.mp returned
        exact .inr ⟨.created (createPayable_created sha256 made) (forall_returned_iff returned), rfl⟩
  | payInvoice context invoiceId payload =>
      simp only [step, payInvoice, Fresh]
      split
      · rename_i error refused
        obtain ⟨other, unmade⟩ :=
          AccountKind.paymentOf_of_refused (invoiceKind_lawful sha256) refused
        exact .inl ⟨.kept (forall_returned_of_error unmade), rfl⟩
      · rename_i updated invoices returned
        obtain ⟨record, next, settled, sameInvoices, samePayables, changed⟩ :=
          settle_changes sha256 { books with invoices } (invoiceKind_lawful sha256) returned
        rw [settled, sameInvoices, samePayables]
        exact .inl ⟨changed, rfl⟩
  | payPayable context payableId payload =>
      simp only [step, payPayable, Fresh]
      split
      · rename_i error refused
        obtain ⟨other, unmade⟩ :=
          AccountKind.paymentOf_of_refused (payableKind_lawful sha256) refused
        exact .inr ⟨.kept (forall_returned_of_error unmade), rfl⟩
      · rename_i updated payables returned
        obtain ⟨record, next, settled, sameInvoices, samePayables, changed⟩ :=
          settle_changes sha256 { books with payables } (payableKind_lawful sha256) returned
        rw [settled, sameInvoices, samePayables]
        exact .inr ⟨changed, rfl⟩

end Books

end AgentFabric.Renovation
