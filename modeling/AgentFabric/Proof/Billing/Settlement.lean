import AgentFabric.Construction.Billing.BillingService

namespace AgentFabric.Billing
open FirstWrite Sorting Transition BillingService ControlPlane BillingEvent

section Usage

variable {events other : EventTable} {tenantId : String}

/-- The counts of a tenant add up to the number of its events. -/
theorem usageCounts_sum (events : EventTable) (tenantId : String) :
    ((usageCounts events tenantId).map Prod.snd).sum =
      (events.values.filter fun event => event.tenantId = tenantId).length := by
  unfold usageCounts
  rw [List.map_map, ((sortedBy_perm id _).map _).sum_eq,
    ← List.length_map eventType,
    ← List.sum_map_count_dedup_eq_length]
  congr 1
  apply List.map_congr_left
  intro eventType _
  simp [List.count, List.countP_map, Function.comp_def, beq_eq_decide]

/-- The counts depend only on which events the tenant has. -/
theorem usageCounts_of_perm
    (perm : (events.values.filter fun event => event.tenantId = tenantId).Perm
      (other.values.filter fun event => event.tenantId = tenantId)) :
    usageCounts events tenantId = usageCounts other tenantId := by
  have types := sortedBy_eq_of_perm id _ _ ((perm.map eventType).dedup)
    (by rw [List.map_id]; exact List.nodup_dedup _)
  simp only [usageCounts, types, perm.countP_eq]

end Usage

/-- The key of an event of the tenant is not taken by an event of another tenant. -/
abbrev KeyUnclaimed (tenantId : String) (events : EventTable) (event : BillingEvent) : Prop :=
  Unclaimed idempotencyKey (fun event => event.tenantId = tenantId) events event

section Isolation

variable {State : Type} (record : Machine State BillingEvent Bool)
  (usage : State → String → List (String × Nat)) (invoice : State → String → Invoice)

/-- The tenant sees after the calls what it would see if only its own calls had been made. -/
structure Isolated (start : State) (tenantId : String) (calls : List BillingEvent) : Prop where
  usage : usage (run record start calls) tenantId =
    usage (run record start (calls.filter fun event => event.tenantId = tenantId)) tenantId
  invoice : invoice (run record start calls) tenantId =
    invoice (run record start (calls.filter fun event => event.tenantId = tenantId)) tenantId
  answers : answersTo (fun event => event.tenantId = tenantId) record start calls =
    responses record start (calls.filter fun event => event.tenantId = tenantId)

variable {record usage invoice} (events : State → EventTable)
  (records : ∀ state event, (record state event).1 = (recordRow (events state) event).1 ∧
    events (record state event).2 = (recordRow (events state) event).2)

include records

/-- The table of a service runs as the table of the events. -/
theorem events_run (state : State) (calls : List BillingEvent) :
    events (run record state calls) = run recordRow (events state) calls := by
  induction calls generalizing state with
  | nil => rfl
  | cons event rest ih => rw [run_cons, ih, (records state event).2, run_cons]

theorem responses_record (state : State) (calls : List BillingEvent) :
    responses record state calls = responses recordRow (events state) calls := by
  induction calls generalizing state with
  | nil => rfl
  | cons event rest ih =>
      rw [responses, ih, (records state event).1, (records state event).2, responses]

theorem answersTo_record (own : BillingEvent → Prop) [DecidablePred own] (state : State)
    (calls : List BillingEvent) :
    answersTo own record state calls = answersTo own recordRow (events state) calls := by
  induction calls generalizing state with
  | nil => rfl
  | cons event rest ih =>
      simp only [answersTo, ih, (records state event).1, (records state event).2]

/-- A tenant is isolated exactly when no other tenant takes its keys first. -/
theorem isolated_iff (prices : List (String × Int)) (start : State) (tenantId : String)
    (calls : List BillingEvent) (empty : events start = Dict.empty)
    (usages : ∀ state, usage state tenantId = usageCounts (events state) tenantId)
    (invoices : ∀ state, invoice state tenantId = invoiceOf prices (events state) tenantId) :
    Isolated record usage invoice start tenantId calls ↔
      Guarded recordRow (KeyUnclaimed tenantId) Dict.empty calls := by
  obtain ⟨lost, misses, guarded_iff⟩ := run_misses idempotencyKey
    (fun event => event.tenantId = tenantId) Dict.empty Dict.empty [] calls misses_empty
  rw [List.nil_append] at misses
  have rows := misses.rows.filter fun event => decide (event.tenantId = tenantId)
  rw [List.filter_append, List.filter_filter, List.filter_eq_self.mpr fun event member =>
    decide_eq_true (misses.owned event member)] at rows
  simp only [Bool.and_self] at rows
  constructor
  · intro isolated
    have same := isolated.usage
    rw [usages, usages, events_run events records, events_run events records, empty] at same
    have sums := congrArg (fun usage => (usage.map Prod.snd).sum) same
    simp only [usageCounts_sum] at sums
    have lengths := rows.length_eq
    rw [List.length_append] at lengths
    have none : lost.length = 0 := by
      change (List.filter _ (run recordRow _ _).values).length = _ at sums
      unfold recordRow at sums
      omega
    exact (guarded_iff rfl).mpr (List.eq_nil_of_length_eq_zero none)
  · intro guarded
    obtain rfl := (guarded_iff rfl).mp guarded
    rw [List.append_nil] at rows
    have same := usageCounts_of_perm rows.symm
    refine ⟨?_, ?_, ?_⟩
    · rw [usages, usages, events_run events records, events_run events records, empty]
      exact same
    · rw [invoices, invoices, events_run events records, events_run events records, empty]
      simp only [invoiceOf, recordRow, same]
    · rw [answersTo_record events records, responses_record events records, empty]
      exact answersTo_eq_responses _ _ _ _ _ misses_empty guarded

end Isolation

/-- A tenant of either service is isolated from the metering calls of the other tenants exactly when
none of its calls uses a key that an event of another tenant already has. -/
theorem metering_isolated_iff (tenantId : String) (calls : List BillingEvent) :
    (Isolated recordEvent (fun state => usageCounts state.events)
        buildInvoice BillingService.initial tenantId calls ∧
      Isolated recordBillingEvent (fun state => usageCounts state.events)
        buildInvoice ControlPlane.initial tenantId calls) ↔
      Guarded recordRow (KeyUnclaimed tenantId) Dict.empty calls := by
  have service : Isolated recordEvent _ buildInvoice _ _ _ ↔ _ :=
    isolated_iff BillingService.State.events (fun _ _ => ⟨rfl, rfl⟩) pricing
      BillingService.initial tenantId calls rfl (fun _ => rfl) (fun _ => rfl)
  have store : Isolated recordBillingEvent _ buildInvoice _ _ _ ↔ _ :=
    isolated_iff ControlPlane.State.events (fun _ _ => ⟨rfl, rfl⟩) billingPrices
      ControlPlane.initial tenantId calls rfl (fun _ => rfl) (fun _ => rfl)
  rw [service, store, and_self]

/-- A tenant takes the key of a subscription of another tenant, which is then never billed. -/
theorem metering_not_isolated :
    ¬ Isolated recordEvent (fun state => usageCounts state.events)
        buildInvoice BillingService.initial "tenant-b"
        [⟨"month-1", "tenant-a", "alice", "run", "a/b:1"⟩,
          ⟨"month-1", "tenant-b", "bob", "subscription_month", "a/b:1"⟩] ∧
      ¬ Isolated recordBillingEvent (fun state => usageCounts state.events)
        buildInvoice ControlPlane.initial "tenant-b"
        [⟨"month-1", "tenant-a", "alice", "run", "a/b:1"⟩,
          ⟨"month-1", "tenant-b", "bob", "subscription_month", "a/b:1"⟩] := by
  constructor
  · intro isolated
    exact absurd isolated.usage (by decide)
  · intro isolated
    exact absurd isolated.usage (by decide)

open Settlement

section Totals

/-- The price of all events of a tenant. -/
def pricedTotal (prices : List (String × Int)) (events : EventTable) (tenantId : String) : Int :=
  ((events.values.filter fun event => event.tenantId = tenantId).map fun event =>
    priceOf prices event.eventType).sum

/-- An invoice adds up the prices of the events. -/
theorem invoiceOf_total (prices : List (String × Int)) (events : EventTable) (tenantId : String) :
    (invoiceOf prices events tenantId).total = pricedTotal prices events tenantId := by
  have types := Finset.sum_list_map_count
    ((events.values.filter fun event => event.tenantId = tenantId).map eventType)
    (priceOf prices)
  have distinct : ∀ names : List String, names.toFinset = names.dedup.toFinset := by
    intro names
    ext name
    simp
  rw [List.map_map, distinct, List.sum_toFinset _ (List.nodup_dedup _)] at types
  simp only [invoiceOf, usageCounts, pricedLine, pricedTotal, List.map_map,
    ((Sorting.sortedBy_perm id _).map _).sum_eq]
  refine Eq.trans ?_ types.symm
  congr 1
  apply List.map_congr_left
  intro eventType _
  simp [List.count, List.countP_map, Function.comp_def, beq_eq_decide]

variable {prices : List (String × Int)} (nonneg : ∀ eventType, 0 ≤ priceOf prices eventType)

include nonneg

variable (events : EventTable)

theorem pricedTotal_nonneg (tenantId : String) : 0 ≤ pricedTotal prices events tenantId := by
  apply List.sum_nonneg
  intro price member
  obtain ⟨event, _, rfl⟩ := List.mem_map.mp member
  exact nonneg event.eventType

/-- A recorded event never lowers the price. -/
theorem pricedTotal_recordRow (event : BillingEvent) (tenantId : String) :
    pricedTotal prices events tenantId ≤ pricedTotal prices (recordRow events event).2 tenantId := by
  unfold recordRow FirstWrite.insert
  split
  · exact le_refl _
  · rename_i free
    unfold pricedTotal
    rw [values_set_of_free free, List.filter_append, List.map_append, List.sum_append]
    have last := pricedTotal_nonneg nonneg
      (⟨[(event.idempotencyKey, event)], List.nodup_singleton _⟩) tenantId
    exact le_add_of_nonneg_right last

end Totals

/-- An entry that does not count changes no filtered list. -/
theorem filter_append_of_not {Item : Type} (condition : Item → Prop) [DecidablePred condition]
    (items : List Item) (last : Item) (other : ¬ condition last) :
    (items ++ [last]).filter (fun item => condition item) =
      items.filter fun item => condition item := by
  rw [List.filter_append, List.filter_cons_of_neg (by simpa using other), List.filter_nil,
    List.append_nil]

theorem filter_append_of {Item : Type} (condition : Item → Prop) [DecidablePred condition]
    (items : List Item) (last : Item) (own : condition last) :
    (items ++ [last]).filter (fun item => condition item) =
      (items.filter fun item => condition item) ++ [last] := by
  rw [List.filter_append, List.filter_cons_of_pos (by simpa using own), List.filter_nil]

section Provider

variable {Result : Type} (counts : Charge Result → Prop) [DecidablePred counts]

/-- The sum of the charges that count. -/
def chargedTotal (provider : Provider Result) : Int :=
  ((provider.charges.values.filter fun charge => counts charge).map Charge.amount).sum

/-- No charge has a negative amount. -/
def Charged (provider : Provider Result) : Prop :=
  ∀ charge ∈ provider.charges.values, 0 ≤ charge.amount

variable {counts} {provider : Provider Result} {tenantId idempotencyKey : String} {amount : Int}
  {answer : Except PyError Result}

theorem chargedTotal_nonneg (charged : Charged provider) : 0 ≤ chargedTotal counts provider := by
  apply List.sum_nonneg
  intro amount member
  obtain ⟨charge, listed, rfl⟩ := List.mem_map.mp member
  exact charged charge (List.mem_of_mem_filter listed)

/-- A repeated key returns its charge and changes nothing. -/
theorem charge_repeated (nonneg : 0 ≤ amount) {charged : Charge Result}
    (present : provider.charges.get? idempotencyKey = some charged) :
    provider.charge tenantId amount idempotencyKey answer = (.ok charged, provider) := by
  unfold Provider.charge
  rw [if_neg (not_lt.mpr nonneg), present]

theorem charge_refused (nonneg : 0 ≤ amount) {error : PyError}
    (absent : provider.charges.get? idempotencyKey = none) :
    provider.charge tenantId amount idempotencyKey (.error error) = (.error error, provider) := by
  unfold Provider.charge
  rw [if_neg (not_lt.mpr nonneg), absent]

/-- A new key is charged. -/
theorem charge_new (nonneg : 0 ≤ amount) {result : Result}
    (absent : provider.charges.get? idempotencyKey = none) :
    provider.charge tenantId amount idempotencyKey (.ok result) =
      (.ok ⟨tenantId, amount, result⟩,
        ⟨provider.charges.set idempotencyKey ⟨tenantId, amount, result⟩⟩) := by
  unfold Provider.charge
  rw [if_neg (not_lt.mpr nonneg), absent]

end Provider

namespace BillingService

variable {state : State} {tenantId idempotencyKey : String}
  {answer : Except PyError ProcessorAnswer}

theorem pricing_nonneg (eventType : String) : 0 ≤ priceOf pricing eventType := by
  simp only [priceOf, pricing, List.lookup_cons, List.lookup_nil]
  split
  · decide
  · split
    · decide
    · split
      · decide
      · decide

/-- A charge of the tenant that succeeded. -/
def Paid (tenantId : String) (charge : Charge ProcessorAnswer) : Prop :=
  charge.tenantId = tenantId ∧ charge.result.status = "succeeded"

instance (tenantId : String) : DecidablePred (Paid tenantId) :=
  fun charge => inferInstanceAs (Decidable (charge.tenantId = tenantId ∧ _))

/-- The amounts are not negative, and every charge has a payment under its transaction id. -/
structure Valid (state : State) : Prop where
  charged : Charged state.processor
  paid : ∀ charge ∈ state.processor.charges.values,
    ∃ record, state.payments.get? charge.result.providerTxnId = some record

/-- The settlement charges a new key, and the payment succeeds. -/
inductive Settles (tenantId : String) (state : State) : Call → Prop where
  | intro (idempotencyKey : String) (answer : ProcessorAnswer)
      (absent : state.processor.charges.get? idempotencyKey = none)
      (succeeded : answer.status = "succeeded") :
      Settles tenantId state (.settleInvoice tenantId idempotencyKey (.ok answer))

theorem buildInvoice_nonneg (state : State) (tenantId : String) :
    0 ≤ (buildInvoice state tenantId).total := by
  rw [buildInvoice, invoiceOf_total]
  exact pricedTotal_nonneg pricing_nonneg _ _

/-- What a settlement under a new key leaves. -/
structure ChargedUnder (state after : State) (tenantId idempotencyKey : String)
    (result : ProcessorAnswer) : Prop where
  events : after.events = state.events
  processor : after.processor = ⟨state.processor.charges.set idempotencyKey
    ⟨tenantId, (buildInvoice state tenantId).total, result⟩⟩
  paid : ∃ record, after.payments.get? result.providerTxnId = some record
  kept : ∀ key record, state.payments.get? key = some record →
    ∃ later, after.payments.get? key = some later
  lines : after.invoiceLines = state.invoiceLines ∨ result.status = "succeeded" ∧
    after.invoiceLines =
      state.invoiceLines ++ [settlementLine tenantId (buildInvoice state tenantId).total]

theorem settleInvoice_new {result : ProcessorAnswer}
    (absent : state.processor.charges.get? idempotencyKey = none) :
    ChargedUnder state (settleInvoice state tenantId idempotencyKey (.ok result)).2 tenantId
      idempotencyKey result := by
  simp only [settleInvoice, charge_new (buildInvoice_nonneg state tenantId) absent, paymentResult]
  cases taken : state.payments.get? result.providerTxnId with
  | some record =>
      exact ⟨rfl, rfl, ⟨record, taken⟩, fun _ later present => ⟨later, present⟩, .inl rfl⟩
  | none =>
      refine ⟨rfl, rfl, ⟨_, Dict.get?_set_self _ _ _⟩, ?_, ?_⟩
      · intro key record present
        simp only [Dict.get?_set]
        split
        · exact ⟨_, rfl⟩
        · exact ⟨record, present⟩
      · by_cases succeeded : result.status = "succeeded"
        · exact .inr ⟨succeeded, by simp only [succeeded, if_true]⟩
        · exact .inl (by simp only [succeeded, if_false, List.append_nil])

/-- A settlement charges a new key or leaves the service as it is. -/
theorem settleInvoice_cases (valid : Valid state) (tenantId idempotencyKey : String)
    (answer : Except PyError ProcessorAnswer) :
    (settleInvoice state tenantId idempotencyKey answer).2 = state ∨
    ∃ result, answer = .ok result ∧ state.processor.charges.get? idempotencyKey = none ∧
      ChargedUnder state (settleInvoice state tenantId idempotencyKey answer).2 tenantId
        idempotencyKey result := by
  have nonneg := buildInvoice_nonneg state tenantId
  cases found : state.processor.charges.get? idempotencyKey with
  | some charged =>
      left
      obtain ⟨record, taken⟩ := valid.paid charged
        ((Dict.mem_values_iff _ _).mpr ⟨idempotencyKey, found⟩)
      simp only [settleInvoice, charge_repeated nonneg found, paymentResult, taken]
  | none =>
      cases answer with
      | error error => left; simp only [settleInvoice, charge_refused nonneg found]
      | ok result => exact .inr ⟨result, rfl, rfl, settleInvoice_new found⟩

theorem initial_valid : Valid initial where
  charged := by intro charge member; cases member
  paid := by intro charge member; cases member

theorem step_valid (valid : Valid state) (call : Call) : Valid (step state call).2 := by
  cases call with
  | recordEvent event => exact ⟨valid.charged, valid.paid⟩
  | settleInvoice tenantId idempotencyKey answer =>
      simp only [step]
      rcases settleInvoice_cases valid tenantId idempotencyKey answer with same | ⟨result, rfl,
        absent, charged⟩
      · rw [same]
        exact valid
      · refine ⟨?_, ?_⟩
        · intro charge member
          rw [charged.processor, values_set_of_free absent, List.mem_append, List.mem_singleton] at member
          rcases member with earlier | rfl
          · exact valid.charged charge earlier
          · exact buildInvoice_nonneg state tenantId
        · intro charge member
          rw [charged.processor, values_set_of_free absent, List.mem_append,
            List.mem_singleton] at member
          rcases member with earlier | rfl
          · obtain ⟨record, present⟩ := valid.paid charge earlier
            exact charged.kept _ record present
          · exact charged.paid

/-- The successful charges and the settlement lines of a tenant. -/
def books (tenantId : String) (state : State) : List (Charge ProcessorAnswer) × List InvoiceLine :=
  (state.processor.charges.values.filter fun charge => Paid tenantId charge,
    state.invoiceLines.filter fun line => line.tenantId = tenantId)

/-- The events of a tenant. -/
def tenantEvents (tenantId : String) (state : State) : List BillingEvent :=
  state.events.values.filter fun event => event.tenantId = tenantId

/-- A call that does not settle the events of the tenant keeps its books. -/
theorem step_quiet (valid : Valid state) {call : Call} (quiet : ¬ Settles tenantId state call) :
    books tenantId (step state call).2 = books tenantId state ∧
      chargedTotal (Paid tenantId) (step state call).2.processor =
        chargedTotal (Paid tenantId) state.processor ∧
      pricedTotal pricing state.events tenantId ≤
        pricedTotal pricing (step state call).2.events tenantId := by
  cases call with
  | recordEvent event => exact ⟨rfl, rfl, pricedTotal_recordRow pricing_nonneg _ _ _⟩
  | settleInvoice payer idempotencyKey answer =>
      simp only [step]
      rcases settleInvoice_cases valid payer idempotencyKey answer with same | ⟨result, rfl,
        absent, charged⟩
      · rw [same]
        exact ⟨rfl, rfl, le_refl _⟩
      · have unpaid : ¬ Paid tenantId ⟨payer, (buildInvoice state payer).total, result⟩ := by
          rintro ⟨rfl, succeeded⟩
          exact quiet (.intro idempotencyKey result absent succeeded)
        have charges := filter_append_of_not (Paid tenantId) state.processor.charges.values _ unpaid
        simp only [books, chargedTotal, charged.processor, values_set_of_free absent, charges,
          charged.events, le_refl, and_true, Prod.mk.injEq, true_and]
        rcases charged.lines with same | ⟨succeeded, added⟩
        · rw [same]
        · have other : (settlementLine payer (buildInvoice state payer).total).tenantId ≠ tenantId :=
            fun own => unpaid ⟨own, succeeded⟩
          rw [added]
          exact filter_append_of_not (fun line : InvoiceLine => line.tenantId = tenantId) _ _ other

/-- A settlement charges the price of all events of the tenant. -/
theorem step_settles {call : Call} (settles : Settles tenantId state call) :
    books tenantId (step state call).2 ≠ books tenantId state ∧
      pricedTotal pricing (step state call).2.events tenantId =
        pricedTotal pricing state.events tenantId ∧
      chargedTotal (Paid tenantId) (step state call).2.processor =
        chargedTotal (Paid tenantId) state.processor +
          pricedTotal pricing state.events tenantId := by
  cases settles with
  | intro idempotencyKey result absent succeeded =>
      simp only [step]
      have charged : ChargedUnder state (settleInvoice state tenantId idempotencyKey (.ok result)).2
        tenantId idempotencyKey result := settleInvoice_new absent
      have paid : Paid tenantId ⟨tenantId, (buildInvoice state tenantId).total, result⟩ :=
        ⟨rfl, succeeded⟩
      have charges := filter_append_of (Paid tenantId) state.processor.charges.values _ paid
      refine ⟨?_, by rw [charged.events], ?_⟩
      · intro same
        have lengths := congrArg (fun books => books.1.length) same
        simp only [books, charged.processor, values_set_of_free absent, charges, List.length_append,
          List.length_singleton] at lengths
        omega
      · simp only [chargedTotal, charged.processor, values_set_of_free absent, charges, List.map_append,
          List.sum_append, List.map_cons, List.map_nil, List.sum_singleton]
        rw [buildInvoice, invoiceOf_total]

/-- The account of a tenant with the service. -/
def account (tenantId : String) : Account step (List BillingEvent)
    (List (Charge ProcessorAnswer) × List InvoiceLine) where
  priced := fun state => pricedTotal pricing state.events tenantId
  charged := fun state => chargedTotal (Paid tenantId) state.processor
  events := tenantEvents tenantId
  books := books tenantId
  settles := Settles tenantId
  charges := fun _ _ => True
  valid := Valid
  valid_step := fun _ call valid => step_valid valid call
  charged_nonneg := fun _ valid => chargedTotal_nonneg valid.charged
  quiet := fun _ _ valid quiet => step_quiet valid quiet
  booked := fun _ _ _ settles => ⟨(step_settles settles).1, (step_settles settles).2.1⟩
  uncharged := fun _ _ _ _ uncharged => absurd trivial uncharged
  charged_all := fun _ _ _ settles _ => (step_settles settles).2.2

end BillingService

namespace ControlPlane

variable {state : State} {tenantId : String} {answer : Except PyError String}

theorem billingPrices_nonneg (eventType : String) : 0 ≤ priceOf billingPrices eventType :=
  pricing_nonneg eventType

theorem buildInvoice_nonneg (state : State) (tenantId : String) :
    0 ≤ (buildInvoice state tenantId).total := by
  rw [buildInvoice, invoiceOf_total]
  exact pricedTotal_nonneg billingPrices_nonneg _ _

/-- The charge under the key of the present total. -/
def presentCharge (tenantId : String) (state : State) : Option (Charge String) :=
  state.gateway.charges.get? (settlementKey tenantId (buildInvoice state tenantId).total)

/-- The gateway returns a charge for the present total. -/
inductive Settles (tenantId : String) (state : State) : Call → Prop where
  | again (answer : Except PyError String) (charge : Charge String)
      (present : presentCharge tenantId state = some charge) :
      Settles tenantId state (.settleInvoice tenantId answer)
  | new (transactionId : String) (absent : presentCharge tenantId state = none) :
      Settles tenantId state (.settleInvoice tenantId (.ok transactionId))

/-- The line that a settlement writes. -/
def settlementLine (tenantId : String) (total : Int) : LedgerLine :=
  ⟨tenantId, ⟨"settlement", 1, total, 1 * total⟩⟩

theorem settleInvoice_again {charge : Charge String}
    (present : presentCharge tenantId state = some charge) :
    (settleInvoice state tenantId answer).2 = { state with
      ledger := state.ledger ++ [settlementLine tenantId (buildInvoice state tenantId).total] } := by
  have repeated : state.gateway.charge tenantId (buildInvoice state tenantId).total
      (settlementKey tenantId (buildInvoice state tenantId).total) answer =
      (.ok charge, state.gateway) := charge_repeated (buildInvoice_nonneg state tenantId) present
  simp only [settleInvoice, settle, repeated]
  rfl

theorem settleInvoice_new {transactionId : String} (absent : presentCharge tenantId state = none) :
    (settleInvoice state tenantId (.ok transactionId)).2 = { state with
      gateway := ⟨state.gateway.charges.set
        (settlementKey tenantId (buildInvoice state tenantId).total)
        ⟨tenantId, (buildInvoice state tenantId).total, transactionId⟩⟩
      ledger := state.ledger ++ [settlementLine tenantId (buildInvoice state tenantId).total] } := by
  simp only [settleInvoice, settle,
    charge_new (buildInvoice_nonneg state tenantId) (show _ = none from absent)]
  rfl

theorem settleInvoice_refused {error : PyError} (absent : presentCharge tenantId state = none) :
    (settleInvoice state tenantId (.error error)).2 = state := by
  simp only [settleInvoice, settle,
    charge_refused (buildInvoice_nonneg state tenantId) (show _ = none from absent)]

theorem step_charged (charged : Charged state.gateway) (call : Call) :
    Charged (step state call).2.gateway := by
  cases call with
  | recordBillingEvent event => exact charged
  | settleInvoice tenantId answer =>
      simp only [step]
      cases found : presentCharge tenantId state with
      | some charge =>
          rw [settleInvoice_again found]
          exact charged
      | none =>
          cases answer with
          | error error =>
              rw [settleInvoice_refused found]
              exact charged
          | ok transactionId =>
              rw [settleInvoice_new found]
              intro charge member
              rw [values_set_of_free found, List.mem_append, List.mem_singleton] at member
              rcases member with earlier | rfl
              · exact charged charge earlier
              · exact buildInvoice_nonneg state tenantId

/-- The charges and the ledger lines of a tenant. -/
def books (tenantId : String) (state : State) : List (Charge String) × List LedgerLine :=
  (state.gateway.charges.values.filter fun charge => charge.tenantId = tenantId,
    state.ledger.filter fun line => line.tenantId = tenantId)

def tenantEvents (tenantId : String) (state : State) : List BillingEvent :=
  state.events.values.filter fun event => event.tenantId = tenantId

/-- The sum of the charges of a tenant. -/
def charged (tenantId : String) (state : State) : Int :=
  chargedTotal (fun charge : Charge String => charge.tenantId = tenantId) state.gateway

/-- A call that does not settle the events of the tenant keeps its books. -/
theorem step_quiet {call : Call} (quiet : ¬ Settles tenantId state call) :
    books tenantId (step state call).2 = books tenantId state ∧
      charged tenantId (step state call).2 = charged tenantId state ∧
      pricedTotal billingPrices state.events tenantId ≤
        pricedTotal billingPrices (step state call).2.events tenantId := by
  cases call with
  | recordBillingEvent event =>
      exact ⟨rfl, rfl, pricedTotal_recordRow billingPrices_nonneg _ _ _⟩
  | settleInvoice payer answer =>
      simp only [step]
      cases found : presentCharge payer state with
      | some charge =>
          have other : payer ≠ tenantId := by
            rintro rfl
            exact quiet (.again answer charge found)
          have lines := filter_append_of_not (fun line : LedgerLine => line.tenantId = tenantId)
            state.ledger (settlementLine payer (buildInvoice state payer).total) other
          rw [settleInvoice_again found]
          exact ⟨Prod.ext rfl lines, rfl, le_refl _⟩
      | none =>
          cases answer with
          | error error =>
              rw [settleInvoice_refused found]
              exact ⟨rfl, rfl, le_refl _⟩
          | ok transactionId =>
              have other : payer ≠ tenantId := by
                rintro rfl
                exact quiet (.new transactionId found)
              have lines := filter_append_of_not (fun line : LedgerLine => line.tenantId = tenantId)
                state.ledger (settlementLine payer (buildInvoice state payer).total) other
              have charges := filter_append_of_not
                (fun charge : Charge String => charge.tenantId = tenantId)
                state.gateway.charges.values
                ⟨payer, (buildInvoice state payer).total, transactionId⟩ other
              rw [← values_set_of_free found] at charges
              rw [settleInvoice_new found]
              exact ⟨Prod.ext charges lines, by simp only [charged, chargedTotal, charges], le_refl _⟩

/-- A settlement writes a line and charges at most the price of all events of the tenant. -/
theorem step_settles {call : Call} (settles : Settles tenantId state call) :
    (books tenantId (step state call).2 ≠ books tenantId state ∧
      pricedTotal billingPrices (step state call).2.events tenantId =
        pricedTotal billingPrices state.events tenantId) ∧
      (presentCharge tenantId state ≠ none →
        charged tenantId (step state call).2 = charged tenantId state) ∧
      (presentCharge tenantId state = none →
        charged tenantId (step state call).2 =
          charged tenantId state + pricedTotal billingPrices state.events tenantId) := by
  have lines := filter_append_of (fun line : LedgerLine => line.tenantId = tenantId)
    state.ledger (settlementLine tenantId (buildInvoice state tenantId).total) rfl
  cases settles with
  | again answer charge present =>
      simp only [step]
      rw [settleInvoice_again present]
      refine ⟨⟨?_, rfl⟩, fun _ => rfl, fun absent => ?_⟩
      · intro same
        have lengths := congrArg (fun books => books.2.length) same
        simp only [books, lines, List.length_append, List.length_singleton] at lengths
        omega
      · rw [present] at absent
        cases absent
  | new transactionId absent =>
      have charges := filter_append_of (fun charge : Charge String => charge.tenantId = tenantId)
        state.gateway.charges.values
        ⟨tenantId, (buildInvoice state tenantId).total, transactionId⟩ rfl
      rw [← values_set_of_free absent] at charges
      simp only [step]
      rw [settleInvoice_new absent]
      refine ⟨⟨?_, rfl⟩, fun present => absurd absent present, fun _ => ?_⟩
      · intro same
        have lengths := congrArg (fun books => books.2.length) same
        simp only [books, lines, List.length_append, List.length_singleton] at lengths
        omega
      · simp only [charged, chargedTotal, charges, List.map_append, List.sum_append, List.map_cons,
          List.map_nil, List.sum_singleton]
        rw [buildInvoice, invoiceOf_total]

/-- The account of a tenant with the control plane. -/
def account (tenantId : String) : Account step (List BillingEvent)
    (List (Charge String) × List LedgerLine) where
  priced := fun state => pricedTotal billingPrices state.events tenantId
  charged := charged tenantId
  events := tenantEvents tenantId
  books := books tenantId
  settles := Settles tenantId
  charges := fun state _ => presentCharge tenantId state = none
  valid := fun state => Charged state.gateway
  valid_step := fun _ call charged => step_charged charged call
  charged_nonneg := fun _ charged => chargedTotal_nonneg charged
  quiet := fun _ _ _ quiet => step_quiet quiet
  booked := fun _ _ _ settles => (step_settles settles).1
  uncharged := fun _ _ _ settles present => (step_settles settles).2.1 present
  charged_all := fun _ _ _ settles absent => (step_settles settles).2.2 absent

end ControlPlane

/-- No event of a tenant is charged twice and no settlement is repeated by either service exactly
when every settlement of the tenant makes its first charge, unless it has the key of an earlier
charge, and follows new events. -/
theorem chargedOnce_iff (tenantId : String) (calls : List BillingService.Call)
    (planeCalls : List ControlPlane.Call) :
    ((BillingService.account tenantId).ChargedOnce BillingService.initial calls ↔
      ∀ done call rest, calls = done ++ call :: rest →
        (BillingService.account tenantId).Allowed BillingService.initial done call) ∧
    ((ControlPlane.account tenantId).ChargedOnce ControlPlane.initial planeCalls ↔
      ∀ done call rest, planeCalls = done ++ call :: rest →
        (ControlPlane.account tenantId).Allowed ControlPlane.initial done call) :=
  ⟨Account.ChargedOnce.iff_allowed BillingService.initial_valid (le_refl _) calls,
    Account.ChargedOnce.iff_allowed (by intro charge member; cases member) (le_refl _) planeCalls⟩

/-- The event of a run of a tenant. -/
def runEvent (idempotencyKey : String) : BillingEvent :=
  ⟨idempotencyKey, "tenant-a", "alice", "run", "a/b:1"⟩

/-- The service charges one run under two keys, and the control plane charges the first of two runs
twice and writes a line for every repeated settlement. -/
theorem charged_twice :
    ¬ (BillingService.account "tenant-a").ChargedOnce BillingService.initial
        [.recordEvent (runEvent "run-1"),
          .settleInvoice "tenant-a" "settle-1" (.ok ⟨"stripe", "pi_1", "USD", "succeeded"⟩),
          .settleInvoice "tenant-a" "settle-2" (.ok ⟨"stripe", "pi_2", "USD", "succeeded"⟩)] ∧
      ¬ (ControlPlane.account "tenant-a").ChargedOnce ControlPlane.initial
        [.recordBillingEvent (runEvent "run-1"), .settleInvoice "tenant-a" (.ok "tx-1"),
          .recordBillingEvent (runEvent "run-2"), .settleInvoice "tenant-a" (.ok "tx-2")] ∧
      ¬ (ControlPlane.account "tenant-a").ChargedOnce ControlPlane.initial
        [.recordBillingEvent (runEvent "run-1"), .settleInvoice "tenant-a" (.ok "tx-1"),
          .settleInvoice "tenant-a" (.ok "tx-2")] := by
  refine ⟨?_, ?_, ?_⟩
  · intro once
    exact absurd (once.within _ [] (List.append_nil _).symm) (by decide)
  · intro once
    exact absurd (once.within _ [] (List.append_nil _).symm) (by decide)
  · intro once
    have since : (ControlPlane.account "tenant-a").SettledSince ControlPlane.initial
        [.recordBillingEvent (runEvent "run-1"), .settleInvoice "tenant-a" (.ok "tx-1")] :=
      ⟨[.recordBillingEvent (runEvent "run-1")], _, [], rfl, .new "tx-1" (by decide), rfl⟩
    have same := congrArg (fun books => books.2.length)
      (once.repeated _ (.settleInvoice "tenant-a" (.ok "tx-2")) [] rfl since)
    exact absurd same (by decide)

end AgentFabric.Billing
