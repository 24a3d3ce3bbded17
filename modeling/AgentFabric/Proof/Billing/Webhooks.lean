import AgentFabric.Construction.Billing.BillingService

namespace AgentFabric.Billing.BillingService
open Transition

variable (interpreter : Interpreter) (paymentId : String) (state : State)

/-- The status of a stored payment. -/
def status? : Option String :=
  (state.payments.get? paymentId).map PaymentRecord.status

/-- The call delivers an event of the payment or stores the payment. -/
def isAbout : ServiceCall → Bool
  | .call call =>
      (status? paymentId state).isNone && (status? paymentId (step state call).2).isSome
  | .webhook event =>
      match readWebhook interpreter event with
      | .ok read => read.paymentIntentId = paymentId
      | .error _ => false

/-- The lines that a call writes for the payment, and the status that it leaves. -/
structure Observation where
  lines : Nat
  status : Option String
  deriving DecidableEq

/-- The service with what a call does to one payment. -/
def observe : Machine State ServiceCall Observation := fun state call =>
  let after := (serve interpreter state call).2
  (⟨if isAbout interpreter paymentId state call then
      after.invoiceLines.length - state.invoiceLines.length else 0, status? paymentId after⟩, after)

variable (past : List Observation)

/-- The settlement lines of the payment. -/
def linesOf : Nat := (past.map Observation.lines).sum

/-- The payment succeeded in the past. -/
def Succeeded : Prop :=
  ∃ observation ∈ past, observation.status = some "succeeded"

/-- The payment has at most one settlement line, and a payment that succeeded once has one and is
still succeeded. -/
structure Safe (state : State) (past : List Observation) : Prop where
  atMostOne : linesOf past ≤ 1
  succeeded : Succeeded past → linesOf past = 1 ∧ status? paymentId state = some "succeeded"

/-- A decisive event reaches a payment that has not succeeded, and another event names the status
of success only for a payment that has. -/
def InOrder (event : WebhookEvent) (status : String) : Prop :=
  if event.eventType ∈ ["payment_intent.succeeded", "payment_intent.payment_failed",
      "payment_intent.canceled"] then status ≠ "succeeded"
  else ∀ given, event.status = some given → (given = "succeeded" ↔ status = "succeeded")

/-- A delivery for the stored payment is in order. -/
def Orderly : ServiceCall → Prop
  | .call _ => True
  | .webhook event => ∀ read row, readWebhook interpreter event = .ok read →
      read.paymentIntentId = paymentId → state.payments.get? paymentId = some row →
      row.provider = "stripe" → InOrder read row.status

section Observe

variable {interpreter paymentId} {state : State}

/-- What one call does to the payment. -/
inductive Effect (interpreter : Interpreter) (paymentId : String) (state : State)
    (call : ServiceCall) : Observation → Prop where
  | keep (orderly : Orderly interpreter paymentId state call) :
      Effect interpreter paymentId state call ⟨0, status? paymentId state⟩
  | create (status : String) (absent : status? paymentId state = none)
      (orderly : Orderly interpreter paymentId state call) :
      Effect interpreter paymentId state call ⟨if status = "succeeded" then 1 else 0, some status⟩
  | deliver (event : WebhookEvent) (status : String)
      (present : status? paymentId state = some status)
      (orderly : Orderly interpreter paymentId state call ↔ InOrder event status) :
      Effect interpreter paymentId state call
        ⟨if event.eventType = "payment_intent.succeeded" then 1 else 0,
          some (webhookStatus event status)⟩

/-- A settlement stores one new payment or none. -/
theorem settleInvoice_stores (state : State) (payer idempotencyKey : String)
    (answer : Except PyError ProcessorAnswer) :
    let after := (settleInvoice state payer idempotencyKey answer).2
    (after.payments = state.payments ∧ after.invoiceLines = state.invoiceLines) ∨
      ∃ record : PaymentRecord, state.payments.get? record.providerTxnId = none ∧
        after.payments = state.payments.set record.providerTxnId record ∧
        after.invoiceLines = state.invoiceLines ++
          if record.status = "succeeded" then [settlementLine record.tenantId record.amount] else [] := by
  simp only [settleInvoice]
  split
  · exact .inl ⟨rfl, rfl⟩
  · split
    · exact .inl ⟨rfl, rfl⟩
    · rename_i absent
      rename_i charged _ _ _
      exact .inr ⟨⟨payer, (paymentResult charged).provider, (paymentResult charged).providerTxnId,
        (paymentResult charged).amount, (paymentResult charged).currency, idempotencyKey,
        (paymentResult charged).status⟩, absent, rfl, rfl⟩

/-- A webhook event changes a stored stripe payment or nothing. -/
theorem applyWebhook_changes (state : State) (event : WebhookEvent) :
    ((applyWebhook state event).2 = state ∧ ∀ row,
      state.payments.get? event.paymentIntentId = some row → row.provider ≠ "stripe") ∨
    ∃ row, state.payments.get? event.paymentIntentId = some row ∧ row.provider = "stripe" ∧
      (applyWebhook state event).2.payments = state.payments.set event.paymentIntentId
        { row with status := webhookStatus event row.status } ∧
      (applyWebhook state event).2.invoiceLines = state.invoiceLines ++
        if event.eventType = "payment_intent.succeeded" then
          [settlementLine row.tenantId row.amount] else [] := by
  unfold applyWebhook
  cases found : state.payments.get? event.paymentIntentId with
  | none => exact .inl ⟨rfl, fun row present => by cases present⟩
  | some row =>
      by_cases stripe : row.provider = "stripe"
      · right
        refine ⟨row, rfl, stripe, ?_⟩
        simp only [stripe, ne_eq, not_true_eq_false, if_false, and_self]
      · left
        refine ⟨by simp only [ne_eq, stripe, not_false_eq_true, if_true], ?_⟩
        intro other present
        obtain rfl := Option.some.inj present
        exact stripe

theorem status?_set (payments : Dict String PaymentRecord) (key : String) (row : PaymentRecord) :
    ((payments.set key row).get? paymentId).map PaymentRecord.status =
      if paymentId = key then some row.status
      else (payments.get? paymentId).map PaymentRecord.status := by
  rw [Dict.get?_set]
  split <;> rfl

theorem observe_unrelated {call : ServiceCall}
    (unrelated : isAbout interpreter paymentId state call = false)
    (same : status? paymentId (serve interpreter state call).2 = status? paymentId state) :
    (observe interpreter paymentId state call).1 = ⟨0, status? paymentId state⟩ := by
  simp only [observe, unrelated, same]
  rfl

/-- A call that stores no payment under the id keeps its status. -/
theorem call_effect {call : Call}
    (same : status? paymentId (step state call).2 = status? paymentId state) :
    Effect interpreter paymentId state (.call call)
      (observe interpreter paymentId state (.call call)).1 := by
  rw [observe_unrelated ?_ same]
  · exact .keep trivial
  · simp only [isAbout, same]
    cases status? paymentId state <;> rfl

theorem settle_effect (payer idempotencyKey : String) (answer : Except PyError ProcessorAnswer) :
    Effect interpreter paymentId state (.call (.settleInvoice payer idempotencyKey answer))
      (observe interpreter paymentId state (.call (.settleInvoice payer idempotencyKey answer))).1 := by
  rcases settleInvoice_stores state payer idempotencyKey answer with ⟨payments, _⟩ | ⟨record, absent,
    payments, lines⟩
  · apply call_effect
    simp only [step, status?, payments]
  · have status : status? paymentId (step state (.settleInvoice payer idempotencyKey answer)).2 =
        if paymentId = record.providerTxnId then some record.status else status? paymentId state := by
      simp only [step, status?, payments, status?_set]
    by_cases same : paymentId = record.providerTxnId
    · rw [if_pos same] at status
      have none : status? paymentId state = none := by rw [status?, same, absent, Option.map_none]
      have observed : (observe interpreter paymentId state
          (.call (.settleInvoice payer idempotencyKey answer))).1 =
          ⟨if record.status = "succeeded" then 1 else 0, some record.status⟩ := by
        simp only [observe, isAbout, serve, status, none, Option.isNone_none, Option.isSome_some,
          Bool.and_self, if_true]
        simp only [step, lines, List.length_append, Nat.add_sub_cancel_left]
        split <;> rfl
      rw [observed]
      exact .create record.status none trivial
    · apply call_effect
      rw [status, if_neg same]

/-- A delivery that changes no payment is in order. -/
theorem webhook_keep {event : List (String × Json)}
    (same : (serve interpreter state (.webhook event)).2 = state)
    (orderly : Orderly interpreter paymentId state (.webhook event)) :
    Effect interpreter paymentId state (.webhook event)
      (observe interpreter paymentId state (.webhook event)).1 := by
  have observed : (observe interpreter paymentId state (.webhook event)).1 =
      ⟨0, status? paymentId state⟩ := by
    simp only [observe, same, Nat.sub_self, ite_self]
  rw [observed]
  exact .keep orderly

theorem webhook_effect (event : List (String × Json)) :
    Effect interpreter paymentId state (.webhook event)
      (observe interpreter paymentId state (.webhook event)).1 := by
  cases reads : readWebhook interpreter event with
  | error error =>
      apply webhook_keep
      · simp only [serve, handleStripeWebhook, reads]
      · intro found row other
        rw [reads] at other
        cases other
  | ok found =>
      have after : (serve interpreter state (.webhook event)).2 = (applyWebhook state found).2 := by
        simp only [serve, handleStripeWebhook, reads]
      rcases applyWebhook_changes state found with ⟨same, other⟩ | ⟨row, present, stripe, payments,
        lines⟩
      · apply webhook_keep (after.trans same)
        intro read row again own present stripe
        obtain rfl := Except.ok.inj (reads.symm.trans again)
        exact absurd stripe (other row (own ▸ present))
      · have status : status? paymentId (applyWebhook state found).2 =
            if paymentId = found.paymentIntentId then some (webhookStatus found row.status)
            else status? paymentId state := by
          rw [status?, payments, status?_set, status?]
        by_cases own : paymentId = found.paymentIntentId
        · subst own
          rw [if_pos rfl] at status
          have observed : (observe interpreter found.paymentIntentId state (.webhook event)).1 =
              ⟨if found.eventType = "payment_intent.succeeded" then 1 else 0,
                some (webhookStatus found row.status)⟩ := by
            simp only [observe, isAbout, reads, after, status, lines, decide_true, if_true,
              List.length_append, Nat.add_sub_cancel_left]
            split <;> rfl
          rw [observed]
          refine .deliver found row.status (by rw [status?, present, Option.map_some]) ?_
          constructor
          · intro orderly
            exact orderly found row reads rfl present stripe
          · intro inOrder read other again _ stored _
            obtain rfl := Except.ok.inj (reads.symm.trans again)
            obtain rfl := Option.some.inj (present.symm.trans stored)
            exact inOrder
        · rw [if_neg own] at status
          have unrelated : isAbout interpreter paymentId state (.webhook event) = false := by
            simp only [isAbout, reads, decide_eq_false_iff_not]
            exact fun same => own same.symm
          rw [observe_unrelated unrelated (by rw [after, status])]
          refine .keep ?_
          intro read other again same
          obtain rfl := Except.ok.inj (reads.symm.trans again)
          exact absurd same.symm own

theorem observe_effect (call : ServiceCall) :
    Effect interpreter paymentId state call (observe interpreter paymentId state call).1 := by
  cases call with
  | webhook event => exact webhook_effect event
  | call call =>
      cases call with
      | recordEvent event => exact call_effect rfl
      | settleInvoice payer idempotencyKey answer => exact settle_effect payer idempotencyKey answer

end Observe

section Safety

variable {interpreter paymentId} {state : State} {past : List Observation}
  (observation : Observation)

theorem linesOf_append : linesOf (past ++ [observation]) = linesOf past + observation.lines := by
  simp [linesOf]

theorem succeeded_append :
    Succeeded (past ++ [observation]) ↔ Succeeded past ∨ observation.status = some "succeeded" := by
  simp [Succeeded, or_and_right, exists_or]

/-- A present success and a written line come from the past. -/
structure Recorded (paymentId : String) (state : State) (past : List Observation) : Prop where
  status : status? paymentId state = some "succeeded" → Succeeded past
  lines : 1 ≤ linesOf past → Succeeded past

/-- A decisive event decides the status, and another event keeps or names it. -/
theorem inOrder_iff (event : WebhookEvent) (status : String) :
    InOrder event status ↔
      if event.eventType = "payment_intent.succeeded" then status ≠ "succeeded"
      else webhookStatus event status = "succeeded" ↔ status = "succeeded" := by
  by_cases success : event.eventType = "payment_intent.succeeded"
  · simp [InOrder, success]
  · by_cases failure : event.eventType ∈ ["payment_intent.payment_failed", "payment_intent.canceled"]
    · rw [InOrder, if_pos (List.mem_cons_of_mem _ failure), if_neg success, webhookStatus,
        if_neg success, if_pos failure]
      simp
    · rw [InOrder, if_neg (by simpa [success] using failure), if_neg success, webhookStatus,
        if_neg success, if_neg failure]
      cases event.status <;> simp

/-- A safe payment that has not succeeded has no line. -/
theorem Safe.none_of_not (safe : Safe paymentId state past) (recorded : Recorded paymentId state past)
    (other : status? paymentId state ≠ some "succeeded") :
    ¬ Succeeded past ∧ linesOf past = 0 := by
  have never : ¬ Succeeded past := fun succeeded => other (safe.succeeded succeeded).2
  refine ⟨never, ?_⟩
  by_contra some
  exact never (recorded.lines (by omega))

/-- A call keeps the payment safe exactly when it is in order. -/
theorem safe_step (call : ServiceCall) (recorded : Recorded paymentId state past)
    (safe : Safe paymentId state past) :
    Recorded paymentId (observe interpreter paymentId state call).2
        (past ++ [(observe interpreter paymentId state call).1]) ∧
      (Safe paymentId (observe interpreter paymentId state call).2
          (past ++ [(observe interpreter paymentId state call).1]) ↔
        Orderly interpreter paymentId state call) := by
  have after : status? paymentId (observe interpreter paymentId state call).2 =
      (observe interpreter paymentId state call).1.status := rfl
  have effect : Effect interpreter paymentId state call
      (observe interpreter paymentId state call).1 := observe_effect call
  generalize (observe interpreter paymentId state call).1 = observation at after effect
  have status : status? paymentId (observe interpreter paymentId state call).2 = some "succeeded" →
      Succeeded (past ++ [observation]) :=
    fun now => (succeeded_append observation).mpr (.inr (after ▸ now))
  cases effect with
  | keep orderly =>
      refine ⟨⟨status, ?_⟩, iff_of_true ⟨?_, ?_⟩ orderly⟩
      · intro written
        rw [linesOf_append] at written
        exact (succeeded_append _).mpr (.inl (recorded.lines written))
      · rw [linesOf_append]
        exact safe.atMostOne
      · intro succeeded
        rw [linesOf_append, after]
        rcases (succeeded_append _).mp succeeded with earlier | now
        · exact safe.succeeded earlier
        · exact safe.succeeded (recorded.status now)
  | create created absent orderly =>
      obtain ⟨never, none⟩ := safe.none_of_not recorded (by rw [absent]; exact nofun)
      refine ⟨⟨status, ?_⟩, iff_of_true ⟨?_, ?_⟩ orderly⟩
      · intro written
        rw [linesOf_append, none] at written
        refine (succeeded_append _).mpr (.inr ?_)
        by_contra other
        rw [Option.some.injEq] at other
        simp [other] at written
      · rw [linesOf_append, none]
        dsimp only
        split <;> omega
      · intro succeeded
        have now := ((succeeded_append _).mp succeeded).resolve_left never
        rw [linesOf_append, none, after]
        simp only [Option.some.injEq] at now
        simp [now]
  | deliver event before present orderly =>
      rw [orderly, inOrder_iff]
      by_cases success : event.eventType = "payment_intent.succeeded"
      · have decided : webhookStatus event before = "succeeded" := by simp [webhookStatus, success]
        simp only [success, if_true, decided] at after status ⊢
        have now := status after
        have next : linesOf (past ++ [⟨1, some "succeeded"⟩]) = linesOf past + 1 := linesOf_append _
        refine ⟨⟨status, fun _ => now⟩, ?_, ?_⟩
        · intro safeAfter again
          have once := (safe.succeeded (recorded.status (by rw [present, again]))).1
          have bound := safeAfter.atMostOne
          omega
        · intro first
          obtain ⟨_, none⟩ := safe.none_of_not recorded (by rw [present]; simpa using first)
          exact ⟨by omega, fun _ => ⟨by omega, after⟩⟩
      · simp only [success, if_false] at after status ⊢
        have same : linesOf (past ++ [⟨0, some (webhookStatus event before)⟩]) = linesOf past := by
          rw [linesOf_append, Nat.add_zero]
        refine ⟨⟨status, fun written => (succeeded_append _).mpr
          (.inl (recorded.lines (same ▸ written)))⟩,
          ?_⟩
        by_cases won : before = "succeeded"
        · have earlier := recorded.status (by rw [present, won])
          have once := (safe.succeeded earlier).1
          simp only [won, iff_true]
          constructor
          · intro safeAfter
            have now := (safeAfter.succeeded ((succeeded_append _).mpr (.inl earlier))).2
            rw [after, won] at now
            exact Option.some.inj now
          · intro kept
            refine ⟨by rw [← won, same]; exact safe.atMostOne, fun _ => ⟨by rw [← won, same, once], ?_⟩⟩
            rw [after, won, kept]
        · obtain ⟨never, none⟩ := safe.none_of_not recorded (by rw [present]; simpa using won)
          simp only [won, iff_false]
          constructor
          · intro safeAfter now
            have once := (safeAfter.succeeded (status (by rw [after, now]))).1
            rw [same, none] at once
            omega
          · intro other
            refine ⟨by rw [same]; exact safe.atMostOne, fun succeeded => ?_⟩
            have now := ((succeeded_append _).mp succeeded).resolve_left never
            exact absurd (Option.some.inj now) other

variable (interpreter paymentId) in
/-- A payment has one settlement line once it has succeeded, and stays succeeded, throughout a run
exactly when every delivery for it is in order. -/
theorem webhooks_safe_iff (calls : List ServiceCall) :
    (∀ done rest, calls = done ++ rest →
      Safe paymentId (run (observe interpreter paymentId) initial done)
        (responses (observe interpreter paymentId) initial done)) ↔
      Guarded (observe interpreter paymentId) (Orderly interpreter paymentId) initial calls := by
  have none : ¬ Succeeded [] := by
    rintro ⟨observation, member, _⟩
    cases member
  refine forall_parts_iff_guarded (observe interpreter paymentId) (Orderly interpreter paymentId)
    (Recorded paymentId) (Safe paymentId) ?_ initial [] calls ?_ ?_
  · intro state past call recorded safe
    exact safe_step call recorded safe
  · refine ⟨fun status => ?_, fun written => ?_⟩
    · cases status
    · exact absurd written (by decide)
  · exact ⟨by decide, fun succeeded => absurd succeeded none⟩

end Safety

section Example

/-- An interpreter that reads no float. -/
def plainInterpreter : Interpreter := ⟨fun _ => true, fun _ => 0, fun _ => false⟩

/-- The delivery of an event of one payment. -/
def delivery (eventType : String) : ServiceCall :=
  .webhook [("type", .str eventType), ("data", .obj [("object", .obj [("id", .str "pi_1")])])]

/-- A success that is delivered twice writes two lines, and a failure that comes late takes a
success back. -/
theorem webhooks_unsafe :
    ¬ (∀ done rest, [.call (.settleInvoice "tenant-a" "settle-1" (.ok ⟨"stripe", "pi_1", "USD",
          "requires_payment_method"⟩)), delivery "payment_intent.succeeded",
          delivery "payment_intent.succeeded"] = done ++ rest →
        Safe "pi_1" (run (observe plainInterpreter "pi_1") initial done)
          (responses (observe plainInterpreter "pi_1") initial done)) ∧
      ¬ (∀ done rest, [.call (.settleInvoice "tenant-a" "settle-1" (.ok ⟨"stripe", "pi_1", "USD",
          "requires_payment_method"⟩)), delivery "payment_intent.succeeded",
          delivery "payment_intent.payment_failed"] = done ++ rest →
        Safe "pi_1" (run (observe plainInterpreter "pi_1") initial done)
          (responses (observe plainInterpreter "pi_1") initial done)) := by
  constructor
  · intro safe
    exact absurd (safe _ [] (List.append_nil _).symm).atMostOne (by decide)
  · intro safe
    have last := (safe _ [] (List.append_nil _).symm).succeeded
      ⟨⟨1, some "succeeded"⟩, by decide, rfl⟩
    exact absurd last.2 (by decide)

end Example

end AgentFabric.Billing.BillingService
