import AgentFabric.Construction.Renovation.PaymentCockpit
import AgentFabric.Foundation.Comprehension
import AgentFabric.Proof.Renovation.PaymentLedger

namespace AgentFabric.Renovation
open Transition
open LocalPaymentProvider hiding status link

/-- The payload of a link names one invoice in its id, its association and its address. -/
structure LinkPayload.About (sha256 : String → String) (tenantId invoiceId : String)
    (payload : LinkPayload) : Prop where
  invoice : payload.invoiceId = invoiceId
  association : payload.invoiceAssociation = invoiceId
  address : ∃ baseUrl, payload.paymentUrl =
    LocalPaymentProvider.paymentUrl sha256 baseUrl tenantId invoiceId

/-- The payload of a status names one invoice and one status. -/
structure StatusPayload.About (invoiceId status : String) (payload : StatusPayload) : Prop where
  invoice : payload.invoiceId = invoiceId
  status : payload.paymentStatus = status

/-- A record that was stored before answers only for its own invoice. -/
def ReusedFor {Payload : Type} (invoiceOf : Payload → String) (invoiceId : String)
    (collection : Dict String (StubRecord Payload)) (record : StubRecord Payload) : Prop :=
  ∀ key stored, collection.get? key = some stored → record = stored →
    invoiceOf stored.artifact.payload = invoiceId

theorem reusedFor_of_own {Payload : Type} {invoiceOf : Payload → String} {invoiceId : String}
    (collection : Dict String (StubRecord Payload)) {record : StubRecord Payload}
    (own : invoiceOf record.artifact.payload = invoiceId) :
    ReusedFor invoiceOf invoiceId collection record := by
  intro key stored _ same
  rw [← same]
  exact own

namespace PaymentCockpit

section Claims

variable (interpreter : Interpreter) (sha256 : String → String) (cockpit : PaymentCockpit)
  (context : TenantContext) (invoiceId status : String)
  (providerReferenceId idempotencyKey : Option String)

/-- A status that is asked for an invoice is answered by a record about them. -/
def StatusFaithful (receivedAt now : String) : Prop :=
  ∀ record, (cockpit.paymentStatus sha256 context invoiceId status providerReferenceId
      idempotencyKey receivedAt now).1 = .ok record →
    record.artifact.payload.About invoiceId status ∧
      ReusedFor StatusPayload.invoiceId invoiceId cockpit.statuses record

/-- The record that answers a call is about the invoice and carries the status of the call, also
where a payment asks for a status and drops the answer. -/
def Faithful : PaymentCall → Prop
  | .createInvoice _ _ _ => True
  | .paymentLink context invoiceId payload now =>
      ∀ record, (cockpit.paymentLink interpreter sha256 context invoiceId payload now).1 =
          .ok record →
        record.artifact.payload.About sha256 context.tenantId invoiceId ∧
          record.artifact.status = "created" ∧
            ReusedFor LinkPayload.invoiceId invoiceId cockpit.links record
  | .paymentStatus context invoiceId status providerReferenceId idempotencyKey receivedAt now =>
      StatusFaithful sha256 cockpit context invoiceId status providerReferenceId idempotencyKey
        receivedAt now
  | .paymentWebhook context payload receivedAt now =>
      ∀ record, (cockpit.paymentWebhook interpreter sha256 context payload receivedAt now).1 =
          .ok record →
        ∃ invoice, payload.lookup "invoice_id" = some invoice ∧
          record.artifact.payload.About (interpreter.str invoice)
              (mapWebhookStatus interpreter payload) ∧
            ReusedFor StatusPayload.invoiceId (interpreter.str invoice) cockpit.statuses record
  | .recordPayment context invoiceId payload receivedAt now =>
      (∀ record, (cockpit.recordPayment sha256 context invoiceId payload receivedAt now).1 =
          .ok record →
        record.artifact.invoiceId = invoiceId ∧
          record.artifact.status = settlementStatus record.artifact) ∧
      ∀ record after, cockpit.payInvoice sha256 context invoiceId payload = (.ok record, after) →
        StatusFaithful sha256 after context invoiceId (settlementStatus record.artifact) none none
          receivedAt now

/-- The tenant has stored no status under the reference id that is about something else. -/
def StatusClear : Prop :=
  ∀ stored, existing context cockpit.statuses
      (statusReference sha256 context.tenantId invoiceId status providerReferenceId
        idempotencyKey) = some stored →
    stored.artifact.payload.About invoiceId status

/-- The tenant holds the invoice, and the status is one of the provider's. -/
def Serves : Prop :=
  (∃ invoice, cockpit.tenantInvoice context invoiceId = .ok invoice) ∧ status ∈ validStatuses

/-- No record that the tenant has stored under the reference id of a served call is about another
invoice or carries another status. -/
def Clear : PaymentCall → Prop
  | .createInvoice _ _ _ => True
  | .paymentLink context invoiceId payload _ =>
      (∃ invoice, cockpit.tenantInvoice context invoiceId = .ok invoice) →
        ∀ stored, existing context cockpit.links
            (linkReference sha256 context.tenantId invoiceId (linkKey interpreter payload)) =
              some stored →
          stored.artifact.payload.invoiceId = invoiceId
  | .paymentStatus context invoiceId status providerReferenceId idempotencyKey _ _ =>
      cockpit.Serves context invoiceId status →
        cockpit.StatusClear sha256 context invoiceId status providerReferenceId idempotencyKey
  | .paymentWebhook context payload _ _ =>
      webhookIsValid payload = true → ∀ invoice, payload.lookup "invoice_id" = some invoice →
        cockpit.Serves context (interpreter.str invoice) (mapWebhookStatus interpreter payload) →
          cockpit.StatusClear sha256 context (interpreter.str invoice)
            (mapWebhookStatus interpreter payload)
            (presentText (textOf interpreter payload "provider_reference_id"))
            (presentText (textOf interpreter payload "idempotency_key"))
  | .recordPayment context invoiceId payload _ _ =>
      ∀ updated invoices, (invoiceKind sha256).pay context cockpit.books.invoices invoiceId payload =
          .ok (updated, invoices) →
        cockpit.StatusClear sha256 context invoiceId (settlementStatus updated) none none

end Claims

section Lookup

variable {Payload : Type} {context : TenantContext} {collection : Dict String (StubRecord Payload)}
  {referenceId : String} {stored : StubRecord Payload}

theorem existing_eq_some_iff : existing context collection referenceId = some stored ↔
    collection.get? referenceId = some stored ∧ stored.tenantId = context.tenantId := by
  simp [existing, Option.filter_eq_some_iff]

end Lookup

variable {interpreter : Interpreter} {sha256 : String → String} {cockpit : PaymentCockpit}
  {context : TenantContext} {invoiceId : String} {invoice : Invoice}

/-- The tenant of a stored invoice reads it. -/
theorem tenantInvoice_eq_ok_iff :
    cockpit.tenantInvoice context invoiceId = .ok invoice ↔
      ∃ record, cockpit.books.invoices.get? invoiceId = some record ∧
        record.tenantId = context.tenantId ∧ record.artifact = invoice := by
  unfold tenantInvoice
  cases found : cockpit.books.invoices.get? invoiceId with
  | none => simp
  | some record =>
      by_cases own : record.tenantId = context.tenantId
      · simp [own]
      · simp [own]

/-- The invoices are kept, and every link is about its own invoice. -/
structure Sound (sha256 : String → String) (cockpit : PaymentCockpit) : Prop where
  books : Books.Kept sha256 cockpit.books
  links : ∀ key stored, cockpit.links.get? key = some stored →
    stored.artifact.payload.About sha256 stored.tenantId stored.artifact.payload.invoiceId ∧
      stored.artifact.status = "created"

theorem Sound.invoiceId_eq (sound : Sound sha256 cockpit)
    (read : cockpit.tenantInvoice context invoiceId = .ok invoice) :
    invoice.invoiceId = invoiceId := by
  obtain ⟨record, found, _, rfl⟩ := tenantInvoice_eq_ok_iff.mp read
  exact (sound.books.invoices invoiceId record found).id_eq

section Links

variable {invoiceId now : String} {payload : Fields}

theorem paymentLink_of_error {error : PyError}
    (refused : cockpit.tenantInvoice context invoiceId = .error error) :
    cockpit.paymentLink interpreter sha256 context invoiceId payload now =
      (.error error, cockpit) := by
  rw [paymentLink, refused]

/-- The answer of the provider on a link that the call asks for. -/
def linkResult (interpreter : Interpreter) (sha256 : String → String) (context : TenantContext)
    (invoiceId : String) (payload : Fields) : ProviderResult LinkPayload :=
  LocalPaymentProvider.link sha256 context.tenantId invoiceId (linkKey interpreter payload)
    (interpreter.str ((payload.lookup "provider").getD (.str "local")))

theorem paymentLink_of_ok (sound : Sound sha256 cockpit) {invoice : Invoice}
    (read : cockpit.tenantInvoice context invoiceId = .ok invoice) :
    cockpit.paymentLink interpreter sha256 context invoiceId payload now =
      (.ok (cockpit.keepLink context invoiceId now
          (linkResult interpreter sha256 context invoiceId payload)).1,
        (cockpit.keepLink context invoiceId now
          (linkResult interpreter sha256 context invoiceId payload)).2) := by
  rw [paymentLink, read]
  simp only [sound.invoiceId_eq read]
  rfl

theorem linkResult_about :
    (linkResult interpreter sha256 context invoiceId payload).payload.About sha256 context.tenantId
      invoiceId :=
  ⟨rfl, rfl, _, rfl⟩

/-- A link is faithful exactly when no link under its reference id is about another invoice. -/
theorem paymentLink_faithful_iff (sound : Sound sha256 cockpit) :
    Faithful interpreter sha256 cockpit (.paymentLink context invoiceId payload now) ↔
      Clear interpreter sha256 cockpit (.paymentLink context invoiceId payload now) := by
  simp only [Faithful, Clear]
  cases read : cockpit.tenantInvoice context invoiceId with
  | error error =>
      rw [paymentLink_of_error read]
      simp
  | ok invoice =>
      rw [paymentLink_of_ok sound read]
      simp only [Except.ok.injEq, exists_eq', forall_const, forall_eq']
      unfold keepLink
      change _ ↔ ∀ stored, existing context cockpit.links
        (linkResult interpreter sha256 context invoiceId payload).referenceId = some stored → _
      cases answered : existing context cockpit.links
          (linkResult interpreter sha256 context invoiceId payload).referenceId with
      | none =>
          refine iff_of_true ⟨linkResult_about, rfl, reusedFor_of_own _ rfl⟩ ?_
          intro stored found
          cases found
      | some stored =>
          obtain ⟨found, own⟩ := existing_eq_some_iff.mp answered
          obtain ⟨about, created⟩ := sound.links _ stored found
          rw [own] at about
          simp only [Option.some.injEq, forall_eq']
          constructor
          · rintro ⟨named, -, -⟩
            exact named.invoice
          · intro named
            exact ⟨named ▸ about, created, reusedFor_of_own _ named⟩

end Links

section Statuses

variable {invoiceId status receivedAt now : String}
  {providerReferenceId idempotencyKey : Option String}

/-- The answer of the provider on a status that it supports. -/
def statusResult (sha256 : String → String) (context : TenantContext) (invoiceId status : String)
    (providerReferenceId idempotencyKey : Option String) (receivedAt : String) :
    ProviderResult StatusPayload where
  provider := "local-payment"
  status := "updated"
  referenceId := statusReference sha256 context.tenantId invoiceId status providerReferenceId
    idempotencyKey
  payload := {
    invoiceId
    paymentStatus := status
    providerReferenceId := textOrElse providerReferenceId
      (providerReference sha256 context.tenantId invoiceId)
    idempotencyKey := statusKey invoiceId status providerReferenceId idempotencyKey
    receivedAt }

theorem paymentStatus_of_serves (serves : cockpit.Serves context invoiceId status) :
    cockpit.paymentStatus sha256 context invoiceId status providerReferenceId idempotencyKey
        receivedAt now =
      (.ok (cockpit.keepStatus context invoiceId status now (statusResult sha256 context invoiceId
          status providerReferenceId idempotencyKey receivedAt)).1,
        (cockpit.keepStatus context invoiceId status now (statusResult sha256 context invoiceId
          status providerReferenceId idempotencyKey receivedAt)).2) := by
  obtain ⟨⟨invoice, read⟩, valid⟩ := serves
  rw [paymentStatus, read]
  simp only [LocalPaymentProvider.status, if_neg (not_not.mpr valid)]
  rfl

theorem paymentStatus_of_not_serves (refused : ¬ cockpit.Serves context invoiceId status) :
    ∃ error, cockpit.paymentStatus sha256 context invoiceId status providerReferenceId
      idempotencyKey receivedAt now = (.error error, cockpit) := by
  unfold paymentStatus
  cases read : cockpit.tenantInvoice context invoiceId with
  | error error => exact ⟨error, rfl⟩
  | ok invoice =>
      have invalid : status ∉ validStatuses := fun valid => refused ⟨⟨invoice, read⟩, valid⟩
      refine ⟨.valueError "unsupported payment status", ?_⟩
      simp only [LocalPaymentProvider.status, if_pos invalid]

/-- A status is faithful exactly when no status under its reference id is about something else. -/
theorem statusFaithful_iff :
    cockpit.StatusFaithful sha256 context invoiceId status providerReferenceId idempotencyKey
        receivedAt now ↔
      (cockpit.Serves context invoiceId status →
        cockpit.StatusClear sha256 context invoiceId status providerReferenceId
          idempotencyKey) := by
  unfold StatusFaithful
  by_cases serves : cockpit.Serves context invoiceId status
  · rw [paymentStatus_of_serves serves]
    simp only [Except.ok.injEq, forall_eq', serves, true_implies]
    unfold keepStatus StatusClear
    change _ ↔ ∀ stored, existing context cockpit.statuses (statusResult sha256 context invoiceId
      status providerReferenceId idempotencyKey receivedAt).referenceId = some stored → _
    cases answered : existing context cockpit.statuses (statusResult sha256 context invoiceId
        status providerReferenceId idempotencyKey receivedAt).referenceId with
    | none =>
        refine iff_of_true ⟨⟨rfl, rfl⟩, reusedFor_of_own _ rfl⟩ ?_
        intro stored found
        cases found
    | some stored =>
        simp only [Option.some.injEq, forall_eq']
        exact ⟨fun facts => facts.1, fun about => ⟨about, reusedFor_of_own _ about.invoice⟩⟩
  · obtain ⟨error, refused⟩ : ∃ error, cockpit.paymentStatus sha256 context invoiceId status
        providerReferenceId idempotencyKey receivedAt now = (.error error, cockpit) :=
      paymentStatus_of_not_serves serves
    rw [refused]
    simp [serves]

/-- A webhook is faithful exactly when the status that it asks for is. -/
theorem paymentWebhook_faithful_iff {payload : Fields} :
    Faithful interpreter sha256 cockpit (.paymentWebhook context payload receivedAt now) ↔
      Clear interpreter sha256 cockpit (.paymentWebhook context payload receivedAt now) := by
  simp only [Faithful, Clear]
  unfold paymentWebhook
  cases valid : webhookIsValid payload with
  | false => simp
  | true =>
      cases named : payload.lookup "invoice_id" with
      | none => simp
      | some invoice =>
          simp only [Bool.true_eq_false, if_false, Option.some.injEq, true_implies,
            exists_eq_left', forall_eq']
          refine Iff.trans ?_ (@statusFaithful_iff sha256 cockpit context (interpreter.str invoice)
            (mapWebhookStatus interpreter payload) receivedAt now
            (presentText (textOf interpreter payload "provider_reference_id"))
            (presentText (textOf interpreter payload "idempotency_key")))
          unfold StatusFaithful
          rcases cockpit.paymentStatus sha256 context (interpreter.str invoice)
            (mapWebhookStatus interpreter payload)
            (presentText (textOf interpreter payload "provider_reference_id"))
            (presentText (textOf interpreter payload "idempotency_key")) receivedAt now with
            ⟨error | record, after⟩
          · rfl
          · rfl

end Statuses

section Payments

variable {invoiceId receivedAt now : String} {payload : PaymentPayload}

theorem settlementStatus_valid (invoice : Invoice) : settlementStatus invoice ∈ validStatuses := by
  unfold settlementStatus
  split
  · decide
  · decide

/-- An accepted payment leaves its invoice under its id with the status of its balance. -/
structure Paid (sha256 : String → String) (cockpit : PaymentCockpit) (context : TenantContext)
    (invoiceId : String) (updated : Invoice) (record : Record InvoicePayload Invoice)
    (after : PaymentCockpit) : Prop where
  artifact : record.artifact = updated
  tenant : record.tenantId = context.tenantId
  invoice : record.artifact.invoiceId = invoiceId
  status : record.artifact.status = settlementStatus record.artifact
  stored : after.books.invoices.get? invoiceId = some record
  links : after.links = cockpit.links
  statuses : after.statuses = cockpit.statuses
  sound : Sound sha256 after

/-- A paid account is settled or partly paid. -/
theorem status_of_paid {due total : Int} {before : Balance} {record : PaymentRecord}
    {invoice : Invoice} (balance : invoice.toBalance = InvoiceService.paid total before record)
    (balanced : Balanced due invoice.toBalance) : invoice.status = settlementStatus invoice := by
  have settled_iff := balanced.settled_iff
  unfold settlementStatus
  split
  · rename_i nothing
    exact settled_iff.mp nothing
  · rename_i something
    have paid : invoice.paidAmount ≠ 0 := by
      intro nothing
      have records := balanced.paidAmount_eq_zero_iff.mp nothing
      rw [balance] at records
      exact List.append_ne_nil_of_right_ne_nil _ (List.cons_ne_nil record []) records
    refine balanced.partial_iff.mpr ⟨paid, ?_⟩
    omega

variable {updated : Invoice}

theorem payInvoice_of_ok (sound : Sound sha256 cockpit)
    {invoices : Dict String (Record InvoicePayload Invoice)}
    (accepted : (invoiceKind sha256).pay context cockpit.books.invoices invoiceId payload =
      .ok (updated, invoices)) :
    ∃ record after, cockpit.payInvoice sha256 context invoiceId payload = (.ok record, after) ∧
      Paid sha256 cockpit context invoiceId updated record after := by
  have keptAfter := Books.kept_step sound.books (.payInvoice context invoiceId payload)
  obtain ⟨stored, payment, read, made, updated_eq, rfl⟩ :=
    (AccountKind.pay_eq_ok_iff (invoiceKind_lawful sha256)).mp accepted
  obtain ⟨_, found, own⟩ := tenantRecord_eq_ok_iff.mp read
  have kept := (sound.books.invoices invoiceId stored found).pay (invoiceKind_lawful sha256) made
  rw [← updated_eq] at kept
  obtain ⟨row, books, settled, _, sameInvoices, _, _⟩ := Books.settle_paid sha256
    { cockpit.books with
      invoices := (cockpit.books.invoices.set invoiceId { stored with artifact := updated }) }
    (invoiceKind_lawful sha256) context invoiceId stored.artifact payment
  rw [← updated_eq] at settled
  have returned : cockpit.books.payInvoice sha256 context invoiceId payload =
      (.ok payment, books) := by
    rw [Books.payInvoice, accepted]
    exact settled
  have reread : books.invoices.get? invoiceId = some { stored with artifact := updated } := by
    rw [sameInvoices, Dict.get?_set_self]
  have booksKept : Books.Kept sha256 books := by simpa only [Books.step, returned] using keptAfter
  have answered : cockpit.payInvoice sha256 context invoiceId payload =
      (.ok { stored with artifact := updated },
        { cockpit with books }.announce context "payment.recorded" invoiceId [
          ("invoice_id", .str invoiceId),
          ("paid_amount", money updated.paidAmount)]) := by
    rw [payInvoice, returned]
    simp only [reread]
  exact ⟨_, _, answered, {
    artifact := rfl
    tenant := own
    invoice := kept.id_eq
    status := status_of_paid (congrArg Invoice.toBalance updated_eq) kept.balanced
    stored := reread
    links := rfl
    statuses := rfl
    sound := ⟨⟨booksKept.invoices, booksKept.payables⟩, sound.links⟩ }⟩

/-- A refused payment changes nothing. -/
theorem payInvoice_of_error {error : PyError}
    (refused : (invoiceKind sha256).pay context cockpit.books.invoices invoiceId payload =
      .error error) :
    cockpit.payInvoice sha256 context invoiceId payload = (.error error, cockpit) := by
  rw [payInvoice, Books.payInvoice, refused]

variable {record : Record InvoicePayload Invoice} {after : PaymentCockpit}

theorem Paid.serves (paid : Paid sha256 cockpit context invoiceId updated record after) :
    after.Serves context invoiceId (settlementStatus record.artifact) :=
  ⟨⟨record.artifact, tenantInvoice_eq_ok_iff.mpr ⟨record, paid.stored, paid.tenant, rfl⟩⟩,
    settlementStatus_valid record.artifact⟩

/-- A recorded payment answers with the record of its invoice. -/
theorem recordPayment_of_ok
    (answered : cockpit.payInvoice sha256 context invoiceId payload = (.ok record, after))
    (paid : Paid sha256 cockpit context invoiceId updated record after) :
    cockpit.recordPayment sha256 context invoiceId payload receivedAt now =
      (.ok record, (after.keepStatus context invoiceId (settlementStatus record.artifact) now
        (statusResult sha256 context invoiceId (settlementStatus record.artifact) none none
          receivedAt)).2) := by
  rw [recordPayment, answered]
  simp only [paymentStatus_of_serves paid.serves]

/-- A payment is faithful exactly when the status that it asks for is. -/
theorem recordPayment_faithful_iff (sound : Sound sha256 cockpit) :
    Faithful interpreter sha256 cockpit (.recordPayment context invoiceId payload receivedAt now) ↔
      Clear interpreter sha256 cockpit
        (.recordPayment context invoiceId payload receivedAt now) := by
  simp only [Faithful, Clear]
  cases accepted : (invoiceKind sha256).pay context cockpit.books.invoices invoiceId payload with
  | error error =>
      rw [recordPayment, payInvoice_of_error accepted]
      simp
  | ok settled =>
      obtain ⟨updated, invoices⟩ := settled
      obtain ⟨record, after, answered, paid⟩ := payInvoice_of_ok sound accepted
      rw [recordPayment_of_ok answered paid, answered]
      have clear : cockpit.StatusClear sha256 context invoiceId (settlementStatus record.artifact)
            none none ↔
          after.StatusClear sha256 context invoiceId (settlementStatus record.artifact) none none := by
        rw [StatusClear, StatusClear, paid.statuses]
      constructor
      · rintro ⟨-, faithful⟩ _ _ returned
        cases returned
        have inner := statusFaithful_iff.mp (faithful record after rfl) paid.serves
        rw [← paid.artifact]
        exact clear.mpr inner
      · intro met
        constructor
        · rintro _ returned
          cases returned
          exact ⟨paid.invoice, paid.status⟩
        · rintro _ _ returned
          cases returned
          have outer := met updated invoices rfl
          rw [← paid.artifact] at outer
          exact statusFaithful_iff.mpr fun _ => clear.mp outer

end Payments

section Runs

/-- What keeps the accounts and the links is sound. -/
structure KeepsLinks (before after : PaymentCockpit) : Prop where
  invoices : after.books.invoices = before.books.invoices
  payables : after.books.payables = before.books.payables
  links : after.links = before.links

theorem Sound.keep {after : PaymentCockpit} (sound : Sound sha256 cockpit)
    (keeps : KeepsLinks cockpit after) : Sound sha256 after where
  books := ⟨keeps.invoices ▸ sound.books.invoices, keeps.payables ▸ sound.books.payables⟩
  links := keeps.links ▸ sound.links

theorem keepStatus_keeps (invoiceId status now : String) (result : ProviderResult StatusPayload) :
    KeepsLinks cockpit (cockpit.keepStatus context invoiceId status now result).2 := by
  unfold keepStatus
  split
  · exact ⟨rfl, rfl, rfl⟩
  · exact ⟨rfl, rfl, rfl⟩

theorem paymentStatus_keeps (invoiceId status : String)
    (providerReferenceId idempotencyKey : Option String) (receivedAt now : String) :
    KeepsLinks cockpit (cockpit.paymentStatus sha256 context invoiceId status providerReferenceId
      idempotencyKey receivedAt now).2 := by
  by_cases serves : cockpit.Serves context invoiceId status
  · rw [paymentStatus_of_serves serves]
    exact keepStatus_keeps _ _ _ _
  · obtain ⟨error, refused⟩ : ∃ error, cockpit.paymentStatus sha256 context invoiceId status
        providerReferenceId idempotencyKey receivedAt now = (.error error, cockpit) :=
      paymentStatus_of_not_serves serves
    rw [refused]
    exact ⟨rfl, rfl, rfl⟩

theorem paymentWebhook_keeps (payload : Fields) (receivedAt now : String) :
    KeepsLinks cockpit
      (cockpit.paymentWebhook interpreter sha256 context payload receivedAt now).2 := by
  unfold paymentWebhook
  split
  · exact ⟨rfl, rfl, rfl⟩
  · cases payload.lookup "invoice_id" with
    | none => exact ⟨rfl, rfl, rfl⟩
    | some invoice =>
        have keeps := @paymentStatus_keeps sha256 cockpit context (interpreter.str invoice)
          (mapWebhookStatus interpreter payload)
          (presentText (textOf interpreter payload "provider_reference_id"))
          (presentText (textOf interpreter payload "idempotency_key")) receivedAt now
        dsimp only
        split
        · rename_i error after answered
          rw [answered] at keeps
          exact keeps
        · rename_i record after answered
          rw [answered] at keeps
          exact ⟨keeps.invoices, keeps.payables, keeps.links⟩

section

variable (sound : Sound sha256 cockpit)
include sound

theorem keepLink_sound (invoiceId now : String) (payload : Fields) :
    Sound sha256 (cockpit.keepLink context invoiceId now
      (linkResult interpreter sha256 context invoiceId payload)).2 := by
  unfold keepLink
  split
  · exact sound
  · refine ⟨⟨sound.books.invoices, sound.books.payables⟩, ?_⟩
    intro key stored found
    change (cockpit.links.set _ _).get? key = some stored at found
    rw [Dict.get?_set] at found
    split at found
    · cases found
      exact ⟨linkResult_about, rfl⟩
    · exact sound.links key stored found

theorem recordPayment_sound (invoiceId : String)
    (payload : PaymentPayload) (receivedAt now : String) :
    Sound sha256 (cockpit.recordPayment sha256 context invoiceId payload receivedAt now).2 := by
  cases accepted : (invoiceKind sha256).pay context cockpit.books.invoices invoiceId payload with
  | error error =>
      rw [recordPayment, payInvoice_of_error accepted]
      exact sound
  | ok settled =>
      obtain ⟨updated, invoices⟩ := settled
      obtain ⟨record, after, answered, paid⟩ := payInvoice_of_ok sound accepted
      rw [recordPayment_of_ok answered paid]
      exact paid.sound.keep (keepStatus_keeps _ _ _ _)

theorem sound_step (call : PaymentCall) :
    Sound sha256 (step interpreter sha256 cockpit call).2 := by
  cases call with
  | createInvoice context job payload =>
      exact ⟨Books.kept_step sound.books (.createInvoice context job payload), sound.links⟩
  | paymentLink context invoiceId payload now =>
      cases read : cockpit.tenantInvoice context invoiceId with
      | error error =>
          simp only [step, paymentLink_of_error read]
          exact sound
      | ok invoice =>
          simp only [step, paymentLink_of_ok sound read]
          exact keepLink_sound sound invoiceId now payload
  | paymentStatus context invoiceId status providerReferenceId idempotencyKey receivedAt now =>
      exact sound.keep (paymentStatus_keeps _ _ _ _ _ _)
  | paymentWebhook context payload receivedAt now =>
      exact sound.keep (paymentWebhook_keeps _ _ _)
  | recordPayment context invoiceId payload receivedAt now =>
      exact recordPayment_sound sound _ _ _ _

end

theorem sound_run (calls : List PaymentCall) :
    Sound sha256 (run (step interpreter sha256) initial calls) :=
  run_invariant (step interpreter sha256) (Sound sha256) (fun _ call sound => sound_step sound call)
    initial calls ⟨Books.kept_run sha256 [], fun _ _ found => by cases found⟩

/-- A call is faithful exactly when it is clear. -/
theorem faithful_iff_clear (sound : Sound sha256 cockpit) (call : PaymentCall) :
    Faithful interpreter sha256 cockpit call ↔ Clear interpreter sha256 cockpit call := by
  cases call with
  | createInvoice context job payload => exact Iff.rfl
  | paymentLink context invoiceId payload now => exact paymentLink_faithful_iff sound
  | paymentStatus context invoiceId status providerReferenceId idempotencyKey receivedAt now =>
      exact statusFaithful_iff
  | paymentWebhook context payload receivedAt now => exact paymentWebhook_faithful_iff
  | recordPayment context invoiceId payload receivedAt now => exact recordPayment_faithful_iff sound

/-- Every call of a run is answered by a record about its invoice and with its status exactly when
no record under a reference id of the run is about something else. -/
theorem payments_faithful_iff (interpreter : Interpreter) (sha256 : String → String)
    (calls : List PaymentCall) :
    (∀ done call rest, calls = done ++ call :: rest →
      Faithful interpreter sha256 (run (step interpreter sha256) initial done) call) ↔
        Guarded (step interpreter sha256) (Clear interpreter sha256) initial calls := by
  rw [← forall_steps_iff_guarded]
  refine forall_congr' fun done => forall_congr' fun call => forall_congr' fun rest => ?_
  rw [faithful_iff_clear (sound_run done)]

section Crossing

def crossingInterpreter : Interpreter := ⟨fun _ => true, fun _ => 0, fun _ => true⟩

def ownerContext : TenantContext := ⟨"tenant", "organization", "owner"⟩

def kitchenInvoice : InvoicePayload := ⟨"2026-01-01", "2026-01-31", 10000, none, "Kitchen"⟩

def bathInvoice : InvoicePayload := ⟨"2026-01-01", "2026-01-31", 20000, none, "Bath"⟩

/-- Two invoices of one job, and a link to the first of them. -/
def linkedOnce : List PaymentCall := [
  .createInvoice ownerContext (.ok ("job", "customer")) kitchenInvoice,
  .createInvoice ownerContext (.ok ("job", "customer")) bathInvoice,
  .paymentLink ownerContext "invoice-\x7b\"amount\":100.0,\"cus"
    [("idempotency_key", .str "link-1")] "2026-01-02"]

/-- A link to the second invoice under the same key. -/
def linkAgain : PaymentCall :=
  .paymentLink ownerContext "invoice-\x7b\"amount\":200.0,\"cus"
    [("idempotency_key", .str "link-1")] "2026-01-03"

/-- The second link is answered by the record of the first one. -/
theorem reused_key_crosses :
    ¬ ∀ (interpreter : Interpreter) (sha256 : String → String) (calls done : List PaymentCall)
      (call : PaymentCall) (rest : List PaymentCall), calls = done ++ call :: rest →
        Faithful interpreter sha256 (run (step interpreter sha256) initial done) call := by
  intro faithful
  have again := faithful crossingInterpreter id (linkedOnce ++ [linkAgain]) linkedOnce linkAgain []
    rfl
  have shown : ((run (step crossingInterpreter id) initial linkedOnce).paymentLink
        crossingInterpreter id ownerContext "invoice-\x7b\"amount\":200.0,\"cus"
        [("idempotency_key", .str "link-1")] "2026-01-03").1.toOption.map
          (fun record => record.artifact.payload.invoiceId) =
      some "invoice-\x7b\"amount\":100.0,\"cus" := by
    decide +kernel
  obtain ⟨record, returned, named⟩ := Option.map_eq_some_iff.mp shown
  have about := (again record ((toOption_eq_some_iff _ _).mp returned)).1.invoice
  rw [named] at about
  exact absurd about (by decide)

end Crossing

end Runs

end PaymentCockpit

end AgentFabric.Renovation
