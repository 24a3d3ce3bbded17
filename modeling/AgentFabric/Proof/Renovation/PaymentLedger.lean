import AgentFabric.Proof.Renovation.AccountSteps

namespace AgentFabric.Renovation
open InvoiceService Collection Transition

namespace AccountKind

variable {Input Artifact : Type} {sha256 : String → String} {kind : AccountKind Input Artifact}

/-- A stored account balances, and its payload and its payments make it again. -/
structure Kept (kind : AccountKind Input Artifact) (key : String)
    (stored : Record Input Artifact) : Prop where
  id_eq : kind.id stored.artifact = key
  tenant_eq : kind.tenantId stored.artifact = stored.tenantId
  balanced : Balanced (kind.due stored.artifact) (kind.balance stored.artifact)
  remade : ∃ created, kind.recreate stored.tenantId stored.artifact stored.input = .ok created ∧
    (kind.balance stored.artifact).paymentRecords.foldlM
      (fun artifact payment => kind.apply artifact payment.replayPayload) created =
        .ok stored.artifact

variable {context : TenantContext}

theorem Created.kept {input : Input} {artifact : Artifact}
    (made : Created kind context.tenantId input artifact) :
    kind.Kept (kind.id artifact) (.new context input artifact) where
  id_eq := rfl
  tenant_eq := made.tenant
  balanced := by
    show Balanced (kind.due artifact) (kind.balance artifact)
    rw [made.balance]
    exact balanced_opened made.due_pos
  remade := by
    refine ⟨artifact, made.recreate, ?_⟩
    show (kind.balance artifact).paymentRecords.foldlM _ artifact = _
    rw [made.balance]
    rfl

variable {stored : Record Input Artifact}

/-- An accepted payment is applied again from its record. -/
theorem Kept.pay (lawful : kind.Lawful sha256) {key : String}
    (kept : kind.Kept key stored) {payload : PaymentPayload} {record : PaymentRecord}
    (accepted : payment sha256 (kind.tenantId stored.artifact) kind.label
      (kind.id stored.artifact) (kind.balance stored.artifact).outstandingBalance payload =
        .ok record) :
    kind.Kept key { stored with
      artifact := kind.withBalance stored.artifact
        (paid (kind.due stored.artifact) (kind.balance stored.artifact) record) } := by
  obtain ⟨_, positive, within, date, _, named⟩ := payment_eq_ok_iff.mp accepted
  have amount : record.amount = payload.amount := by rw [named]; rfl
  obtain ⟨created, recreated, replayed⟩ := kept.remade
  refine ⟨?_, ?_, ?_, created, ?_, ?_⟩
  · exact (lawful.id_withBalance _ _).trans kept.id_eq
  · exact (lawful.tenantId_withBalance _ _).trans kept.tenant_eq
  · simp only [lawful.due_withBalance, lawful.balance_withBalance]
    exact kept.balanced.pay (amount ▸ positive) (amount ▸ within)
  · exact (lawful.recreate_withBalance _ _ _ _).trans recreated
  · have again : kind.apply stored.artifact record.replayPayload =
        .ok (kind.withBalance stored.artifact
          (paid (kind.due stored.artifact) (kind.balance stored.artifact) record)) := by
      rw [lawful.apply_eq, payment_replay accepted]
      rfl
    simp only [lawful.balance_withBalance, paid, List.foldlM_append]
    rw [replayed]
    show (kind.apply stored.artifact record.replayPayload >>= fun artifact => pure artifact) = _
    rw [again]
    rfl

theorem Change.all_kept (lawful : kind.Lawful sha256)
    {accounts accountsAfter : Dict String (Record Input Artifact)}
    {payments paymentsAfter : Dict String PaymentRow} {fresh : Prop}
    {accepted : Option PaymentRecord}
    (changed : kind.Change sha256 accounts payments fresh accepted accountsAfter paymentsAfter)
    (all : All accounts kind.Kept) : All accountsAfter kind.Kept := by
  cases changed with
  | kept unwritten => exact all
  | created made fresh_iff => exact all.set made.kept
  | paid found accepted listed fresh_iff => exact all.set ((all _ _ found).pay lawful accepted)

theorem Kept.replay_eq {key : String} (kept : kind.Kept key stored)
    {accounts : Dict String (Record Input Artifact)}
    (read : tenantRecord context accounts key kind.label = .ok stored) :
    kind.replay context accounts key = .ok stored.artifact := by
  obtain ⟨created, recreated, replayed⟩ := kept.remade
  obtain ⟨_, _, own⟩ := tenantRecord_eq_ok_iff.mp read
  rw [own] at recreated
  unfold replay
  simp only [read, bind, Except.bind, recreated]
  simp only [replayed, ne_eq, not_true_eq_false, if_false]

end AccountKind

theorem Balanced.settled_iff {due : Int} {balance : Balance} (balanced : Balanced due balance) :
    balance.outstandingBalance ≤ 0 ↔ balance.status = "paid" := by
  have nonnegative := balanced.outstanding_nonneg
  rw [balanced.paid_iff]
  constructor
  · intro nothing
    omega
  · intro nothing
    omega

/-- What the tenant of an account meets when it pays the account or replays it. -/
structure Governed {Artifact : Type} (books : Books) (balance : Balance) (artifact : Artifact)
    (pay : PaymentPayload → Except PyError PaymentRecord × Books)
    (replay : Except PyError Artifact) : Prop where
  refused_iff : ∀ payload, (∃ error, (pay payload).1 = .error error) ↔
    payload.amount ≤ 0 ∨ balance.outstandingBalance < payload.amount ∨ balance.status = "paid" ∨
      Date.fromisoformat? payload.paymentDate = none
  unchanged : ∀ payload error, (pay payload).1 = .error error → (pay payload).2 = books
  replayed : replay = .ok artifact

namespace Books

variable {sha256 : String → String}

/-- Every account of the books is kept. -/
structure Kept (sha256 : String → String) (books : Books) : Prop where
  invoices : All books.invoices (invoiceKind sha256).Kept
  payables : All books.payables (payableKind sha256).Kept

variable {books : Books}

theorem kept_step (kept : Kept sha256 books) (call : BooksCall) :
    Kept sha256 (step sha256 books call).2 := by
  rcases step_changes sha256 books call with ⟨changed, same⟩ | ⟨changed, same⟩
  · exact ⟨changed.all_kept (invoiceKind_lawful sha256) kept.invoices, same ▸ kept.payables⟩
  · exact ⟨same ▸ kept.invoices, changed.all_kept (payableKind_lawful sha256) kept.payables⟩

theorem kept_run (sha256 : String → String) (calls : List BooksCall) :
    Kept sha256 (run (step sha256) initial calls) :=
  run_invariant (step sha256) (Kept sha256) (fun _ call kept => kept_step kept call) initial calls
    ⟨all_empty _, all_empty _⟩

/-- A call that pays an account of a kind and settles the payment. -/
structure Pays {Input Artifact : Type} (kind : AccountKind Input Artifact) (books : Books)
    (context : TenantContext) (accounts : Dict String (Record Input Artifact)) (key : String)
    (pay : PaymentPayload → Except PyError PaymentRecord × Books) : Prop where
  refused : ∀ payload error, kind.pay context accounts key payload = .error error →
    pay payload = (.error error, books)
  settled : ∀ payload updated after, kind.pay context accounts key payload = .ok (updated, after) →
    ∃ placed, pay payload = settle kind placed context key updated

theorem payInvoice_pays (books : Books) (context : TenantContext) (invoiceId : String) :
    Pays (invoiceKind sha256) books context books.invoices invoiceId
      (books.payInvoice sha256 context invoiceId) where
  refused := fun payload error answer => by rw [payInvoice, answer]
  settled := fun payload updated after answer => ⟨_, by rw [payInvoice, answer]⟩

theorem payPayable_pays (books : Books) (context : TenantContext) (payableId : String) :
    Pays (payableKind sha256) books context books.payables payableId
      (books.payPayable sha256 context payableId) where
  refused := fun payload error answer => by rw [payPayable, answer]
  settled := fun payload updated after answer => ⟨_, by rw [payPayable, answer]⟩

variable {pay : PaymentPayload → Except PyError PaymentRecord × Books} {Input Artifact : Type}
  {kind : AccountKind Input Artifact} {context : TenantContext}
  {accounts : Dict String (Record Input Artifact)}

/-- A call raises exactly when the account refuses the payment. -/
theorem Pays.raises_iff (lawful : kind.Lawful sha256) {key : String}
    (pays : Pays kind books context accounts key pay) (payload : PaymentPayload)
    (error : PyError) :
    (pay payload).1 = .error error ↔
      kind.pay context accounts key payload = .error error := by
  cases answer : kind.pay context accounts key payload with
  | error other =>
      rw [pays.refused payload other answer]
      simp
  | ok pair =>
      obtain ⟨updated, after⟩ := pair
      obtain ⟨placed, answered⟩ := pays.settled payload updated after answer
      obtain ⟨record, next, settled, _⟩ := settle_changes sha256 placed lawful answer
      rw [answered, settled]
      simp

theorem Pays.governed (lawful : kind.Lawful sha256) {key : String}
    (pays : Pays kind books context accounts key pay) {stored : Record Input Artifact}
    (kept : kind.Kept key stored)
    (read : tenantRecord context accounts key kind.label = .ok stored) :
    Governed books (kind.balance stored.artifact) stored.artifact pay
      (kind.replay context accounts key) := by
  refine ⟨fun payload => ?_, fun payload error raised => ?_, kept.replay_eq read⟩
  · rw [← kept.balanced.settled_iff]
    refine Iff.trans ?_ (AccountKind.pay_refused_iff lawful read payload)
    exact exists_congr fun error => pays.raises_iff lawful payload error
  · rw [pays.refused payload error ((pays.raises_iff lawful payload error).mp raised)]

/-- After every run of calls, each account balances, refuses the payments that it cannot take and
is replayed. -/
theorem accounts_governed (sha256 : String → String) (calls : List BooksCall) :
    let books := run (step sha256) initial calls
    (∀ invoiceId stored, books.invoices.get? invoiceId = some stored →
      Balanced stored.artifact.total stored.artifact.toBalance ∧
      ∀ context, context.require = .ok () → context.tenantId = stored.tenantId →
        Governed books stored.artifact.toBalance stored.artifact
          (books.payInvoice sha256 context invoiceId)
          (books.replayInvoice sha256 context invoiceId)) ∧
    (∀ payableId stored, books.payables.get? payableId = some stored →
      Balanced stored.artifact.amount stored.artifact.toBalance ∧
      ∀ context, context.require = .ok () → context.tenantId = stored.tenantId →
        Governed books stored.artifact.toBalance stored.artifact
          (books.payPayable sha256 context payableId)
          (books.replayPayable sha256 context payableId)) := by
  intro books
  have kept := kept_run sha256 calls
  constructor
  · intro invoiceId stored found
    refine ⟨(kept.invoices invoiceId stored found).balanced, fun context required own => ?_⟩
    exact (payInvoice_pays books context invoiceId).governed (invoiceKind_lawful sha256)
      (kept.invoices invoiceId stored found)
      (tenantRecord_eq_ok_iff.mpr ⟨required, found, own.symm⟩)
  · intro payableId stored found
    refine ⟨(kept.payables payableId stored found).balanced, fun context required own => ?_⟩
    exact (payPayable_pays books context payableId).governed (payableKind_lawful sha256)
      (kept.payables payableId stored found)
      (tenantRecord_eq_ok_iff.mpr ⟨required, found, own.symm⟩)

section Example

/-- The office of the first tenant. -/
def office : TenantContext := ⟨"tenant-a", "org-a", "clerk"⟩

/-- An invoice of one hundred units for the framing. -/
def framingInvoice : BooksCall :=
  .createInvoice office (.ok ("job-1", "customer-1")) {
    invoiceDate := "2026-03-01"
    dueDate := "2026-03-31"
    amount := 10000
    tax := none
    description := "Framing" }

/-- The text that hashes to itself names the invoice by its amount. -/
def framingInvoiceId : String := "invoice-\x7b\"amount\":100.0,\"cus"

/-- A half of the framing is paid. -/
def halfPaid : PaymentPayload := ⟨"2026-03-05", 5000, none, none⟩

theorem accounts_governed_half :
    let books := run (step id) initial [framingInvoice, .payInvoice office framingInvoiceId halfPaid]
    ∃ stored, books.invoices.get? framingInvoiceId = some stored ∧
      stored.artifact.paidAmount = 5000 ∧ stored.artifact.status = "partial" ∧
      books.replayInvoice id office framingInvoiceId = .ok stored.artifact := by
  intro books
  have shown : (books.invoices.get? framingInvoiceId).map (fun stored =>
      (stored.tenantId, stored.artifact.paidAmount, stored.artifact.status)) =
        some ("tenant-a", 5000, "partial") := by decide +kernel
  obtain ⟨stored, found, fields⟩ := Option.map_eq_some_iff.mp shown
  simp only [Prod.mk.injEq] at fields
  obtain ⟨tenantId, paidAmount, status⟩ := fields
  have governed := (accounts_governed id
    [framingInvoice, .payInvoice office framingInvoiceId halfPaid]).1 framingInvoiceId stored found
  exact ⟨stored, found, paidAmount, status, (governed.2 office rfl tenantId.symm).replayed⟩

/-- An admissible payment is refused because of its date. -/
theorem payment_refused_for_date :
    let books := run (step id) initial [framingInvoice]
    let payload : PaymentPayload := ⟨"soon", 5000, none, none⟩
    (books.invoices.get? framingInvoiceId).map (fun stored =>
      (stored.artifact.outstandingBalance, stored.artifact.status)) = some (10000, "open") ∧
    (books.payInvoice id office framingInvoiceId payload).1.isOk = false := by
  decide +kernel

end Example

end Books

section Sums

variable (label id : String) (record : PaymentRecord)

/-- The amount of a payment if it is made toward a target. -/
def share : Int :=
  if record.targetType = label ∧ record.targetId = id then record.amount else 0

/-- The sum of the payments toward a target. -/
def toward (records : List PaymentRecord) : Int := (records.map (share label id)).sum

variable (payments : Dict String PaymentRow)

/-- The sum of the stored payments toward a target. -/
def storedToward : Int :=
  toward label id (payments.values.map PaymentRow.artifact)

variable {label id}

theorem share_of_other_label {record : PaymentRecord} (other : record.targetType ≠ label) :
    share label id record = 0 := if_neg fun facts => other facts.1

theorem share_of_other_id {record : PaymentRecord} (other : record.targetId ≠ id) :
    share label id record = 0 := if_neg fun facts => other facts.2

theorem toward_append (first second : List PaymentRecord) :
    toward label id (first ++ second) = toward label id first + toward label id second := by
  simp [toward]

@[simp] theorem toward_singleton : toward label id [record] = share label id record := by
  simp [toward]

theorem toward_eq_zero {records : List PaymentRecord}
    (others : ∀ record ∈ records, ¬ (record.targetType = label ∧ record.targetId = id)) :
    toward label id records = 0 := by
  refine List.sum_eq_zero ?_
  intro amount listed
  obtain ⟨record, member, rfl⟩ := List.mem_map.mp listed
  exact if_neg (others record member)

theorem storedToward_set (key : String) (row : PaymentRow) :
    storedToward label id (payments.set key row) =
      storedToward label id payments -
        ((payments.get? key).map fun old => share label id old.artifact).getD 0 +
          share label id row.artifact := by
  simp only [storedToward, toward, List.map_map]
  exact sum_values_set payments key row (share label id ∘ PaymentRow.artifact)

end Sums

namespace AccountKind

variable {Input Artifact : Type} {sha256 : String → String} {kind : AccountKind Input Artifact}
  {accounts accountsAfter : Dict String (Record Input Artifact)}
  {payments paymentsAfter : Dict String PaymentRow} {accepted : List PaymentRecord}
  {fresh : Prop} {made : Option PaymentRecord}

/-- Every account shows the sum of its accepted and of its stored payments. -/
def NoneLost (kind : AccountKind Input Artifact) (accounts : Dict String (Record Input Artifact))
    (payments : Dict String PaymentRow) (accepted : List PaymentRecord) : Prop :=
  ∀ id stored, accounts.get? id = some stored →
    (kind.balance stored.artifact).paidAmount = toward kind.label id accepted ∧
      (kind.balance stored.artifact).paidAmount = storedToward kind.label id payments

/-- The payments of a kind are made toward its accounts. -/
structure Traced (kind : AccountKind Input Artifact)
    (accounts : Dict String (Record Input Artifact)) (payments : Dict String PaymentRow)
    (accepted : List PaymentRecord) : Prop where
  accepted : ∀ record ∈ accepted, record.targetType = kind.label →
    ∃ stored, accounts.get? record.targetId = some stored
  stored : All payments fun _ row => row.artifact.targetType = kind.label →
    ∃ stored, accounts.get? row.artifact.targetId = some stored

theorem Traced.toward_absent (traced : kind.Traced accounts payments accepted) {id : String}
    (absent : accounts.get? id = none) :
    toward kind.label id accepted = 0 ∧ storedToward kind.label id payments = 0 := by
  constructor
  · refine toward_eq_zero ?_
    rintro record member ⟨own, rfl⟩
    obtain ⟨stored, found⟩ := traced.accepted record member own
    rw [absent] at found
    cases found
  · refine toward_eq_zero ?_
    rintro record member ⟨own, rfl⟩
    obtain ⟨row, listed, rfl⟩ := List.mem_map.mp member
    obtain ⟨key, present⟩ := (payments.mem_values_iff row).mp listed
    obtain ⟨stored, found⟩ := traced.stored key row present own
    rw [absent] at found
    cases found

/-- The record of an accepted payment names its account and has a positive amount. -/
theorem payment_target {tenantId label id : String} {outstanding : Int} {payload : PaymentPayload}
    {record : PaymentRecord}
    (accepted : payment sha256 tenantId label id outstanding payload = .ok record) :
    record.targetType = label ∧ record.targetId = id ∧ 0 < record.amount := by
  obtain ⟨_, positive, _, date, _, rfl⟩ := payment_eq_ok_iff.mp accepted
  exact ⟨rfl, rfl, positive⟩

theorem get?_set_exists {id other : String} {record stored : Record Input Artifact}
    (found : accounts.get? other = some stored) :
    ∃ later, (accounts.set id record).get? other = some later := by
  rw [Dict.get?_set]
  split
  · exact ⟨record, rfl⟩
  · exact ⟨stored, found⟩

theorem Change.traced (changed : kind.Change sha256 accounts payments fresh made accountsAfter
      paymentsAfter) (all : All accounts kind.Kept)
    (traced : kind.Traced accounts payments accepted) :
    kind.Traced accountsAfter paymentsAfter (accepted ++ made.toList) := by
  cases changed with
  | kept unwritten => simpa using traced
  | created new fresh_iff =>
      constructor
      · intro record member own
        rw [Option.toList_none, List.append_nil] at member
        obtain ⟨stored, found⟩ := traced.accepted record member own
        exact get?_set_exists found
      · intro key row present own
        obtain ⟨stored, found⟩ := traced.stored key row present own
        exact get?_set_exists found
  | paid found paid listed fresh_iff =>
      rename_i id stored payload record row
      obtain ⟨_, target, _⟩ := payment_target paid
      rw [(all _ _ found).id_eq] at target
      constructor
      · intro other member own
        rcases List.mem_append.mp member with before | added
        · obtain ⟨old, present⟩ := traced.accepted other before own
          exact get?_set_exists present
        · obtain rfl := List.mem_singleton.mp added
          rw [target]
          exact ⟨_, Dict.get?_set_self _ _ _⟩
      · refine All.set ?_ ?_
        · intro key old present own
          obtain ⟨account, there⟩ := traced.stored key old present own
          exact get?_set_exists there
        · intro _
          rw [listed, target]
          exact ⟨_, Dict.get?_set_self _ _ _⟩

/-- The payments of another kind are not made toward the accounts of this kind. -/
theorem Change.traced_other {OtherInput OtherArtifact : Type}
    {other : AccountKind OtherInput OtherArtifact}
    {others : Dict String (Record OtherInput OtherArtifact)} (differs : kind.label ≠ other.label)
    (changed : kind.Change sha256 accounts payments fresh made accountsAfter paymentsAfter)
    (traced : other.Traced others payments accepted) :
    other.Traced others paymentsAfter (accepted ++ made.toList) := by
  cases changed with
  | kept unwritten => simpa using traced
  | created new fresh_iff => simpa using traced
  | paid found paid listed fresh_iff =>
      obtain ⟨label, _, _⟩ := payment_target paid
      constructor
      · intro record member own
        rcases List.mem_append.mp member with before | added
        · exact traced.accepted record before own
        · obtain rfl := List.mem_singleton.mp added
          exact absurd (label.symm.trans own) differs
      · refine traced.stored.set ?_
        intro own
        rw [listed] at own
        exact absurd (label.symm.trans own) differs

/-- A call that overwrites nothing loses no payment of its kind. -/
theorem Change.noneLost (lawful : kind.Lawful sha256)
    (changed : kind.Change sha256 accounts payments fresh made accountsAfter paymentsAfter)
    (all : All accounts kind.Kept) (traced : kind.Traced accounts payments accepted)
    (noneLost : kind.NoneLost accounts payments accepted) (isFresh : fresh) :
    kind.NoneLost accountsAfter paymentsAfter (accepted ++ made.toList) := by
  cases changed with
  | kept unwritten => simpa using noneLost
  | created new fresh_iff =>
      rename_i context input artifact
      rw [Option.toList_none, List.append_nil]
      intro id stored found
      rw [Dict.get?_set] at found
      split at found
      · rename_i same
        subst same
        obtain rfl := Option.some.inj found
        show (kind.balance artifact).paidAmount = _ ∧ (kind.balance artifact).paidAmount = _
        rw [new.balance]
        show 0 = _ ∧ 0 = _
        cases before : accounts.get? (kind.id artifact) with
        | none =>
            obtain ⟨nothing, nothingStored⟩ := traced.toward_absent before
            exact ⟨nothing.symm, nothingStored.symm⟩
        | some old =>
            have unpaid := (all _ _ before).balanced.paidAmount_eq_zero_iff.mpr
              (fresh_iff.mp isFresh old before)
            obtain ⟨sum, storedSum⟩ := noneLost _ old before
            rw [unpaid] at sum storedSum
            exact ⟨sum, storedSum⟩
      · exact noneLost id stored found
  | paid found paid listed fresh_iff =>
      rename_i id stored payload record row
      obtain ⟨label, target, _⟩ := payment_target paid
      rw [(all _ _ found).id_eq] at target
      intro other later present
      rw [toward_append, storedToward_set, fresh_iff.mp isFresh, listed]
      rw [Dict.get?_set] at present
      split at present
      · rename_i same
        subst same
        obtain rfl := Option.some.inj present
        obtain ⟨sum, storedSum⟩ := noneLost _ stored found
        have own : share kind.label other record = record.amount := if_pos ⟨label, target⟩
        simp only [lawful.balance_withBalance, InvoiceService.paid, Option.toList_some,
          toward_singleton, own, Option.map_none, Option.getD_none, sub_zero]
        exact ⟨congrArg (· + record.amount) sum, congrArg (· + record.amount) storedSum⟩
      · rename_i different
        obtain ⟨sum, storedSum⟩ := noneLost _ later present
        have none : share kind.label other record = 0 :=
          share_of_other_id fun same => different (same.symm.trans target)
        simp only [Option.toList_some, toward_singleton, none, Option.map_none, Option.getD_none,
          sub_zero, add_zero]
        exact ⟨sum, storedSum⟩

section Others

variable {OtherInput OtherArtifact : Type} {other : AccountKind OtherInput OtherArtifact}
  {others : Dict String (Record OtherInput OtherArtifact)}

/-- A call that overwrites nothing loses no payment of another kind. -/
theorem Change.noneLost_other (differs : kind.label ≠ other.label)
    (changed : kind.Change sha256 accounts payments fresh made accountsAfter paymentsAfter)
    (noneLost : other.NoneLost others payments accepted) (isFresh : fresh) :
    other.NoneLost others paymentsAfter (accepted ++ made.toList) := by
  cases changed with
  | kept unwritten => simpa using noneLost
  | created new fresh_iff => simpa using noneLost
  | paid found paid listed fresh_iff =>
      rename_i id stored payload record row
      obtain ⟨label, _, _⟩ := payment_target paid
      intro id account present
      obtain ⟨sum, storedSum⟩ := noneLost id account present
      have none : share other.label id record = 0 :=
        share_of_other_label fun same => differs (label.symm.trans same)
      rw [toward_append, storedToward_set, fresh_iff.mp isFresh, listed]
      simp only [Option.toList_some, toward_singleton, none, Option.map_none, Option.getD_none,
        sub_zero, add_zero]
      exact ⟨sum, storedSum⟩

/-- Two lossless books agree that the overwritten payment was not made toward a stored account. -/
theorem NoneLost.share_overwritten (noneLost : kind.NoneLost accounts payments accepted)
    {key : String} {row old : PaymentRow}
    (after : kind.NoneLost accountsAfter (payments.set key row) (accepted ++ [row.artifact]))
    {id : String} {stored later : Record Input Artifact} (found : accounts.get? id = some stored)
    (foundLater : accountsAfter.get? id = some later) (present : payments.get? key = some old) :
    share kind.label id old.artifact = 0 := by
  obtain ⟨sum, storedSum⟩ := noneLost id stored found
  obtain ⟨sumAfter, storedAfter⟩ := after id later foundLater
  rw [toward_append, toward_singleton] at sumAfter
  rw [storedToward_set, present, Option.map_some, Option.getD_some] at storedAfter
  omega

/-- The stored payments are positive and made toward the accounts of the two kinds. -/
def Known (first second : String) (payments : Dict String PaymentRow) : Prop :=
  All payments fun _ row => 0 < row.artifact.amount ∧
    (row.artifact.targetType = first ∨ row.artifact.targetType = second)

variable {first second : String}

theorem Known.swap (known : Known first second payments) : Known second first payments := by
  intro key row present
  obtain ⟨positive, label⟩ := known key row present
  exact ⟨positive, label.symm⟩

theorem Change.known (own : kind.label = first ∨ kind.label = second)
    (changed : kind.Change sha256 accounts payments fresh made accountsAfter paymentsAfter)
    (known : Known first second payments) : Known first second paymentsAfter := by
  cases changed with
  | kept unwritten => exact known
  | created new fresh_iff => exact known
  | paid found paid listed fresh_iff =>
      obtain ⟨label, _, positive⟩ := payment_target paid
      refine known.set ?_
      rw [listed, label]
      exact ⟨positive, own⟩

/-- A call that loses no payment overwrites nothing. -/
theorem Change.fresh_of_noneLost
    (changed : kind.Change sha256 accounts payments fresh made accountsAfter paymentsAfter)
    (all : All accounts kind.Kept) (known : Known kind.label other.label payments)
    (traced : kind.Traced accounts payments accepted)
    (tracedOther : other.Traced others payments accepted)
    (noneLost : kind.NoneLost accounts payments accepted)
    (noneLostOther : other.NoneLost others payments accepted)
    (after : kind.NoneLost accountsAfter paymentsAfter (accepted ++ made.toList))
    (afterOther : other.NoneLost others paymentsAfter (accepted ++ made.toList)) : fresh := by
  cases changed with
  | kept unwritten => exact unwritten
  | created new fresh_iff =>
      rename_i context input artifact
      refine fresh_iff.mpr fun stored found => ?_
      rw [Option.toList_none, List.append_nil] at after
      obtain ⟨sumAfter, _⟩ := after _ _ (Dict.get?_set_self _ _ _)
      change (kind.balance artifact).paidAmount = _ at sumAfter
      rw [new.balance] at sumAfter
      obtain ⟨sum, _⟩ := noneLost _ stored found
      exact (all _ _ found).balanced.paidAmount_eq_zero_iff.mp (sum.trans sumAfter.symm)
  | paid found paid listed fresh_iff =>
      rename_i id stored payload record row
      refine fresh_iff.mpr ?_
      cases present : payments.get? record.paymentId with
      | none => rfl
      | some old =>
          obtain ⟨positive, label⟩ := known _ old present
          subst listed
          rw [Option.toList_some] at after afterOther
          rcases label with own | others
          · obtain ⟨account, target⟩ := traced.stored _ old present own
            obtain ⟨later, targetLater⟩ := get?_set_exists target
            have nothing := noneLost.share_overwritten after target targetLater present
            rw [share, if_pos ⟨own, rfl⟩] at nothing
            omega
          · obtain ⟨account, target⟩ := tracedOther.stored _ old present others
            have nothing := noneLostOther.share_overwritten afterOther target target present
            rw [share, if_pos ⟨others, rfl⟩] at nothing
            omega

end Others

end AccountKind

namespace Books

variable {sha256 : String → String}

/-- Each invoice and each payable shows all payments that were accepted for it, and they are all
stored. -/
structure NoPaymentLost (sha256 : String → String) (books : Books)
    (accepted : List PaymentRecord) : Prop where
  invoices : (invoiceKind sha256).NoneLost books.invoices books.payments accepted
  payables : (payableKind sha256).NoneLost books.payables books.payments accepted

/-- The books list their payments by the accounts that they hold. -/
structure Ledger (sha256 : String → String) (books : Books)
    (accepted : List PaymentRecord) : Prop where
  kept : Kept sha256 books
  known : AccountKind.Known "invoice" "payable" books.payments
  invoices : (invoiceKind sha256).Traced books.invoices books.payments accepted
  payables : (payableKind sha256).Traced books.payables books.payments accepted

/-- A call keeps every payment exactly when it overwrites nothing. -/
theorem noPaymentLost_step {books : Books} {accepted : List PaymentRecord}
    (ledger : Ledger sha256 books accepted) (noneLost : NoPaymentLost sha256 books accepted)
    (call : BooksCall) :
    let after := (step sha256 books call).2
    let later := accepted ++ (accepted? (step sha256 books call).1).toList
    Ledger sha256 after later ∧ (NoPaymentLost sha256 after later ↔ Fresh sha256 books call) := by
  intro after later
  have keptAfter := kept_step ledger.kept call
  have differs : (invoiceKind sha256).label ≠ (payableKind sha256).label := by
    simp [invoiceKind, payableKind]
  have known : AccountKind.Known (invoiceKind sha256).label (payableKind sha256).label
    books.payments := ledger.known
  rcases step_changes sha256 books call with ⟨changed, same⟩ | ⟨changed, same⟩
  · refine ⟨⟨keptAfter, changed.known (.inl rfl) known,
      changed.traced ledger.kept.invoices ledger.invoices,
      same ▸ changed.traced_other differs ledger.payables⟩, ?_⟩
    constructor
    · intro lossless
      exact changed.fresh_of_noneLost ledger.kept.invoices known ledger.invoices ledger.payables
        noneLost.invoices noneLost.payables lossless.invoices (same ▸ lossless.payables)
    · intro fresh
      exact ⟨changed.noneLost (invoiceKind_lawful sha256) ledger.kept.invoices ledger.invoices
        noneLost.invoices fresh, same ▸ changed.noneLost_other differs noneLost.payables fresh⟩
  · refine ⟨⟨keptAfter, changed.known (.inr rfl) known,
      same ▸ changed.traced_other differs.symm ledger.invoices,
      changed.traced ledger.kept.payables ledger.payables⟩, ?_⟩
    constructor
    · intro lossless
      exact changed.fresh_of_noneLost ledger.kept.payables known.swap ledger.payables
        ledger.invoices noneLost.payables noneLost.invoices lossless.payables
        (same ▸ lossless.invoices)
    · intro fresh
      exact ⟨same ▸ changed.noneLost_other differs.symm noneLost.invoices fresh,
        changed.noneLost (payableKind_lawful sha256) ledger.kept.payables ledger.payables
          noneLost.payables fresh⟩

/-- The payments that a run of calls accepts. -/
def acceptedPayments (sha256 : String → String) (calls : List BooksCall) : List PaymentRecord :=
  (responses (step sha256) initial calls).filterMap accepted?

variable {Input Artifact : Type} (kind : AccountKind Input Artifact)

theorem noneLost_initial : kind.NoneLost Dict.empty Dict.empty [] := by
  intro id stored found
  cases found

theorem traced_initial : kind.Traced Dict.empty Dict.empty [] where
  accepted := fun record member => by cases member
  stored := all_empty _

/-- No payment is lost at any point of a run exactly when no call of the run overwrites one. -/
theorem noPaymentLost_iff (sha256 : String → String) (calls : List BooksCall) :
    (∀ done rest, calls = done ++ rest →
      NoPaymentLost sha256 (run (step sha256) initial done) (acceptedPayments sha256 done)) ↔
        Guarded (step sha256) (Fresh sha256) initial calls := by
  refine forall_parts_iff_guarded (step sha256) (Fresh sha256)
    (fun books answers => Ledger sha256 books (answers.filterMap accepted?))
    (fun books answers => NoPaymentLost sha256 books (answers.filterMap accepted?))
    ?_ initial [] calls ?_ ?_
  · intro books answers call ledger noneLost
    have single : [(step sha256 books call).1].filterMap accepted? =
        (accepted? (step sha256 books call).1).toList := by
      cases made : accepted? (step sha256 books call).1 with
      | none => simp [made]
      | some record => simp [made]
    rw [List.filterMap_append, single]
    exact noPaymentLost_step ledger noneLost call
  · exact ⟨⟨all_empty _, all_empty _⟩, all_empty _, traced_initial _, traced_initial _⟩
  · exact ⟨noneLost_initial _, noneLost_initial _⟩

section Example

/-- The half of the framing is paid. -/
def halfPayment : BooksCall := .payInvoice office framingInvoiceId halfPaid

/-- The same invoice is submitted again after its payment, or the same payment is made twice. -/
theorem payments_lost :
    let resubmitted := [framingInvoice, halfPayment, framingInvoice]
    let repeated := [framingInvoice, halfPayment, halfPayment]
    ((run (step id) initial resubmitted).invoices.get? framingInvoiceId).map (fun stored =>
        stored.artifact.paidAmount) = some 0 ∧
    toward "invoice" framingInvoiceId (acceptedPayments id resubmitted) = 5000 ∧
    ((run (step id) initial repeated).invoices.get? framingInvoiceId).map (fun stored =>
        stored.artifact.paidAmount) = some 10000 ∧
    storedToward "invoice" framingInvoiceId (run (step id) initial repeated).payments = 5000 ∧
    ¬ NoPaymentLost id (run (step id) initial resubmitted) (acceptedPayments id resubmitted) ∧
    ¬ NoPaymentLost id (run (step id) initial repeated) (acceptedPayments id repeated) := by
  intro resubmitted repeated
  have evaluated :
      ((run (step id) initial resubmitted).invoices.get? framingInvoiceId).map (fun stored =>
        stored.artifact.paidAmount) = some 0 ∧
      toward "invoice" framingInvoiceId (acceptedPayments id resubmitted) = 5000 ∧
      ((run (step id) initial repeated).invoices.get? framingInvoiceId).map (fun stored =>
        stored.artifact.paidAmount) = some 10000 ∧
      storedToward "invoice" framingInvoiceId (run (step id) initial repeated).payments = 5000 := by
    simp only [resubmitted, repeated, acceptedPayments, responses, run, framingInvoice, halfPayment,
      step, Books.createInvoice, InvoiceService.createInvoice, Books.payInvoice, AccountKind.pay,
      invoiceKind, applyInvoicePayment, payment, digestPrefix_id]
    decide +kernel
  obtain ⟨unpaid, acceptedSum, paidTwice, storedSum⟩ := evaluated
  refine ⟨unpaid, acceptedSum, paidTwice, storedSum, ?_, ?_⟩
  · intro noneLost
    obtain ⟨stored, found, shown⟩ := Option.map_eq_some_iff.mp unpaid
    have sum : stored.artifact.paidAmount = 5000 :=
      (noneLost.invoices framingInvoiceId stored found).1.trans acceptedSum
    omega
  · intro noneLost
    obtain ⟨stored, found, shown⟩ := Option.map_eq_some_iff.mp paidTwice
    have sum : stored.artifact.paidAmount = 5000 :=
      (noneLost.invoices framingInvoiceId stored found).2.trans storedSum
    omega

end Example

end Books

end AgentFabric.Renovation
