import AgentFabric.Construction.Persistence.Store
import AgentFabric.Foundation.DateTime
import AgentFabric.Foundation.HashChain
import AgentFabric.Foundation.KeyedValue
import AgentFabric.Foundation.Transition

namespace AgentFabric.Events

/-- The kinds of events. -/
inductive EventType where
  | agent | task | message | workflow | audit | checkpoint | humanApproval | reputation | memory
  deriving DecidableEq

namespace EventType

def value : EventType → String
  | agent => "agent"
  | task => "task"
  | message => "message"
  | workflow => "workflow"
  | audit => "audit"
  | checkpoint => "checkpoint"
  | humanApproval => "human_approval"
  | reputation => "reputation"
  | memory => "memory"

/-- The kinds in the order of their declaration. -/
def members : List EventType := [
  .agent, .task, .message, .workflow, .audit, .checkpoint, .humanApproval, .reputation, .memory]

end EventType

/-- The texts that the registry names one by one. -/
def registeredNames : List String := [
  "agent.registered", "message.sent", "message.received", "workflow.started", "workflow.completed",
  "workflow.awaiting_approval", "task.started", "task.completed", "task.failed",
  "checkpoint.created", "human_approval.requested", "human_approval.resolved", "reputation.updated",
  "memory.recorded", "memory.deleted", "tenant.created", "team.created", "member.added",
  "quota.updated", "billing.plan_updated", "usage.recorded", "marketplace.package.published",
  "marketplace.package.signed", "marketplace.package.verified", "marketplace.package.rejected",
  "marketplace.package.installed", "marketplace.package.uninstalled",
  "marketplace.package.upgraded", "marketplace.package.rolled_back",
  "marketplace.entitlement.granted", "marketplace.entitlement.revoked",
  "marketplace.review.submitted", "marketplace.abuse_report.submitted",
  "governance.agent_org.created", "governance.charter.updated", "governance.proposal.created",
  "governance.vote.cast", "governance.consensus.reached", "governance.consensus.failed",
  "governance.human_approval.requested", "governance.human_approval.granted",
  "governance.human_approval.rejected", "governance.human_approval.escalated",
  "governance.action.executed", "governance.action.blocked", "runtime.job.created",
  "runtime.job.assigned", "runtime.job.started", "runtime.job.completed", "runtime.job.failed",
  "runtime.job.cancelled", "runtime.job.retried", "runtime.job.dead_lettered",
  "runtime.worker.registered", "runtime.worker.heartbeat_missed", "runtime.schedule.created",
  "runtime.schedule.triggered", "runtime.schedule.disabled", "runtime.schedule.enabled",
  "runtime.health.degraded", "runtime.health.recovered", "federation.agreement.created",
  "federation.agreement.activated", "federation.agreement.expired", "federation.agreement.revoked",
  "federation.capability.published", "federation.capability.imported", "federation.message.sent",
  "federation.message.received", "federation.message.rejected", "federation.delegation.requested",
  "federation.delegation.completed", "federation.delegation.failed",
  "federation.remote_org.blocked", "federation.remote_key.rejected", "connector.registered",
  "connector.enabled", "connector.disabled", "connector.execution.requested",
  "connector.execution.allowed", "connector.execution.denied", "connector.execution.completed",
  "connector.execution.failed", "credential.created", "credential.rotated", "credential.revoked",
  "connector.job.created", "connector.operation.completed", "connector.policy.denied",
  "renovation.mvp.run.created", "renovation.mvp.step.started", "renovation.mvp.step.completed",
  "renovation.mvp.step.failed", "renovation.mvp.run.completed", "renovation.mvp.run.failed",
  "renovation.mvp.run.replayed", "renovation.mvp.run.resumed",
  "renovation.mvp.invoice_payment.generated", "renovation.mvp.portal_status.viewed",
  "renovation.operator.customer.created", "renovation.operator.lead.created",
  "renovation.operator.lead.converted", "renovation.operator.estimate.created",
  "renovation.operator.estimate.approved", "renovation.operator.proposal.created",
  "renovation.operator.proposal.accepted", "renovation.operator.job.created",
  "renovation.operator.job.status_changed", "renovation.operator.schedule_item.created",
  "renovation.operator.cost_item.created", "renovation.operator.invoice.created",
  "renovation.operator.payment.recorded", "renovation.operator.portal.viewed",
  "renovation.operator.metrics.viewed", "renovation.operator.account.role_assigned",
  "renovation.operator.settings.updated", "renovation.operator.proposal.pdf_exported",
  "renovation.operator.invoice.pdf_exported", "renovation.operator.attachment.created",
  "renovation.operator.attachment.downloaded", "renovation.operator.attachment.archived",
  "renovation.operator.notification.send_attempted", "renovation.operator.notification.queued",
  "renovation.operator.notification.failed", "renovation.operator.provider.validated",
  "renovation.operator.provider.failed", "renovation.operator.calendar.sync_attempted",
  "renovation.operator.schedule.synced", "renovation.operator.payment_link.created",
  "renovation.operator.payment_status.updated", "renovation.operator.payment_webhook.received",
  "renovation.operator.payment_webhook.rejected", "connector.sync.started",
  "connector.sync.completed", "connector.webhook.received", "tool.registered", "tool.executed",
  "tool.policy.denied", "tool.approval.required", "tool.job.created", "tool.result.persisted",
  "evaluation.dataset.created", "evaluation.run.completed", "evaluation.gate.failed",
  "evaluation.gate.passed", "feedback.created", "economics.cost.recorded",
  "economics.revenue.recorded", "economics.spend_limit.updated", "economics.spend_limit.exceeded",
  "agent.metric.recorded", "agent.health.changed", "agent.drift.detected", "agent.anomaly.detected",
  "agent.degradation.detected", "agent.recommendation.created", "agent.version.compared",
  "factory.idea.created", "factory.platform.registered", "factory.repository.created",
  "factory.repository.updated", "factory.repository.deprecated", "factory.repository.archived",
  "factory.repository.restored", "factory.repository.cloned", "factory.repository.forked",
  "factory.artifact.generated", "factory.repository.packaged", "factory.quality.passed",
  "factory.quality.failed", "factory.team.task.assigned", "factory.execution.planned",
  "factory.execution.dry_run.completed", "factory.execution.approval.recorded",
  "factory.execution.step.started", "factory.execution.step.completed",
  "factory.execution.step.failed", "factory.execution.completed", "factory.execution.rolled_back",
  "factory.execution.replayed", "factory.build.planned", "factory.build.dry_run.completed",
  "factory.build.approval.recorded", "factory.build.worker.started",
  "factory.build.worker.completed", "factory.build.failed", "factory.build.completed",
  "factory.build.review.completed", "factory.build.rolled_back", "factory.build.replayed",
  "renovation.estimate_created", "renovation.estimate_updated", "renovation.proposal_generated",
  "renovation.proposal_exported", "renovation.job_created", "renovation.job_updated",
  "renovation.daily_log_created", "renovation.field_note_added", "renovation.photo_record_added",
  "renovation.issue_record_added", "renovation.change_order_created",
  "renovation.change_order_approved", "renovation.change_order_rejected",
  "renovation.change_order_exported", "renovation.schedule_created", "renovation.schedule_updated",
  "renovation.crew_created", "renovation.crew_assigned", "renovation.crew_unassigned",
  "renovation.crew_availability_updated", "renovation.material_delivery_created",
  "renovation.material_delivery_updated", "renovation.delay_detected",
  "renovation.schedule_recalculated", "renovation.job_cost_recorded", "renovation.invoice_created",
  "renovation.invoice_paid", "renovation.payable_created", "renovation.payable_paid",
  "renovation.margin_variance_detected", "renovation.cost_overrun_detected",
  "renovation.cash_flow_forecast_generated", "renovation.profitability_scorecard_generated",
  "renovation.lead_created", "renovation.lead_updated", "renovation.lead_converted",
  "renovation.opportunity_created", "renovation.opportunity_stage_changed",
  "renovation.follow_up_task_created", "renovation.appointment_requested",
  "renovation.site_visit_recorded", "renovation.customer_message_recorded",
  "renovation.customer_portal_view_generated"]

/-- The registry holds the named texts and the values of all kinds. -/
def eventTypeRegistry : List String :=
  registeredNames ++ EventType.members.map EventType.value

open Sorting Transition Persistence

/-- An event names its place in the chain and the hash of the event before it. -/
structure AgentFabricEvent where
  eventType : String
  aggregateId : String
  payload : List (String × Json)
  eventId : String
  timestamp : DateTime
  sequence : Int
  previousHash : String
  eventHash : String

namespace AgentFabricEvent

variable (event : AgentFabricEvent)

def asDict : Json := .obj [
  ("event_id", .str event.eventId),
  ("sequence", .int event.sequence),
  ("event_type", .str event.eventType),
  ("aggregate_id", .str event.aggregateId),
  ("payload", .obj event.payload),
  ("timestamp", .str event.timestamp.isoformat),
  ("previous_hash", .str event.previousHash),
  ("event_hash", .str event.eventHash)]

def fromDict (value : Json) : Option AgentFabricEvent := do
  let timestamp ← DateTime.fromisoformat (← Json.textField value "timestamp" none)
  let eventId ← Json.textField value "event_id" none
  let sequence ← Json.intField value "sequence" 0
  let eventType ← Json.textField value "event_type" none
  let aggregateId ← Json.textField value "aggregate_id" none
  let payload ← Json.objectField value "payload"
  let previousHash ← Json.textField value "previous_hash" (some "")
  let eventHash ← Json.textField value "event_hash" (some "")
  some { eventType, aggregateId, payload, eventId, timestamp, sequence, previousHash, eventHash }

/-- The fields of an event that its hash covers. -/
def hashed : Json := .obj [
  ("event_id", .str event.eventId),
  ("sequence", .int event.sequence),
  ("event_type", .str event.eventType),
  ("aggregate_id", .str event.aggregateId),
  ("payload", .obj event.payload),
  ("timestamp", .str event.timestamp.isoformat),
  ("previous_hash", .str event.previousHash)]

end AgentFabricEvent

variable (sha256 : String → String)

/-- The digest of the canonical text. -/
def hashEvent (value : Json) : String := sha256 value.dumps

/-- The chain of events under a digest. -/
def eventChain : HashChain AgentFabricEvent String where
  sequence := AgentFabricEvent.sequence
  previous := AgentFabricEvent.previousHash
  stored := AgentFabricEvent.eventHash
  digest := fun event => hashEvent sha256 event.hashed

/-- The arguments of an append with the id and the time that it draws. -/
structure AppendRequest where
  eventType : String
  aggregateId : String
  payload : List (String × Json)
  eventId : String
  timestamp : UtcTime

/-- The store keeps its events in append order and may write them through. -/
structure EventStore (State : Type) where
  persistence : Option State
  events : List AgentFabricEvent

namespace EventStore

variable {State : Type} (sha256 : String → String) (store : PersistenceStore State)

/-- The collection of the events. -/
def collection : String := "events"

/-- A malformed row raises. -/
def invalidRow : PyError := .valueError "invalid event document"

/-- The rows of the collection in the order of their sequence. -/
def loadEvents (rows : List Json) : Option (List AgentFabricEvent) := do
  let numbered ← rows.mapM fun row => (Json.intField row "sequence" 0).map fun number => (number, row)
  (sortedBy Prod.fst numbered).mapM fun row => AgentFabricEvent.fromDict row.2

/-- A new store reads the events of its persistence. -/
def new (persistence : Option State) : Except PyError (EventStore State) :=
  match persistence with
  | none => .ok ⟨none, []⟩
  | some state =>
      match loadEvents (store.list state collection) with
      | none => .error invalidRow
      | some events => .ok ⟨some state, events⟩

/-- The next event continues the chain of the events in memory. -/
def nextEvent (events : List AgentFabricEvent) (request : AppendRequest) : AgentFabricEvent :=
  let event : AgentFabricEvent := {
    eventType := request.eventType
    aggregateId := request.aggregateId
    payload := request.payload
    eventId := request.eventId
    timestamp := request.timestamp.toDateTime
    sequence := events.length + 1
    previousHash := (events.getLast?.map AgentFabricEvent.eventHash).getD ""
    eventHash := "" }
  { event with eventHash := hashEvent sha256 event.hashed }

variable (eventStore : EventStore State)

/-- The event is in memory before the write, and a failed write leaves it there.
What the payload holds is not changed after the call. -/
def append (request : AppendRequest) : Except PyError AgentFabricEvent × EventStore State :=
  if request.eventType ∉ eventTypeRegistry then
    (.error (.valueError ("unregistered event type: " ++ request.eventType)), eventStore)
  else
    let event := nextEvent sha256 eventStore.events request
    let events := eventStore.events ++ [event]
    match eventStore.persistence with
    | none => (.ok event, ⟨none, events⟩)
    | some state =>
        match store.put state collection event.eventId event.asDict with
        | .error exception => (.error exception, ⟨some state, events⟩)
        | .ok next => (.ok event, ⟨some next, events⟩)

/-- The events of one aggregate, or all events without an aggregate. -/
def replay : Option String → List AgentFabricEvent
  | none => eventStore.events
  | some aggregateId => eventStore.events.filter fun event => event.aggregateId = aggregateId

def timeline : List Json :=
  (sortedBy AgentFabricEvent.sequence eventStore.events).map AgentFabricEvent.asDict

/-- The check goes through the events in the order of their sequence. -/
def validateIntegrity : Bool :=
  (eventChain sha256).validFrom "" 1 (sortedBy AgentFabricEvent.sequence eventStore.events)

end EventStore

/-- The calls of an event store and the restart over its persistence. -/
inductive EventCall where
  | append (request : AppendRequest)
  | reload

namespace EventStore

variable {State : Type} (sha256 : String → String) (store : PersistenceStore State)

/-- A restart that raises leaves the old store in use. -/
def step (eventStore : EventStore State) : EventCall → Except PyError Unit × EventStore State
  | .append request =>
      let (answer, next) := eventStore.append sha256 store request
      (answer.map fun _ => (), next)
  | .reload =>
      match new store eventStore.persistence with
      | .error exception => (.error exception, eventStore)
      | .ok next => (.ok (), next)

variable (persistent : Bool)

/-- A first store has no event. -/
def initial : EventStore State :=
  ⟨if persistent then some store.initial else none, []⟩

def reached (calls : List EventCall) : EventStore State :=
  run (step sha256 store) (initial store persistent) calls

end EventStore

/-- The instances over one persistence, each with its own list of events. -/
structure SharedStore (Writer State : Type) where
  persistence : State
  instances : Writer → List AgentFabricEvent

/-- An instance is opened anew or appends an event, each as one atomic step. -/
inductive SharedCall (Writer : Type) where
  | open (writer : Writer)
  | append (writer : Writer) (request : AppendRequest)

namespace SharedStore

variable {Writer State : Type} [DecidableEq Writer] (sha256 : String → String)
  (store : PersistenceStore State)

/-- Every instance is opened over an empty persistence. -/
def initial : SharedStore Writer State := ⟨store.initial, fun _ => []⟩

variable (shared : SharedStore Writer State)

/-- An instance sees the shared persistence and its own events. -/
def view (writer : Writer) : EventStore State :=
  ⟨some shared.persistence, shared.instances writer⟩

/-- A call changes the shared persistence and the list of its own instance.
An append answers with its event. -/
def step : SharedCall Writer → Except PyError (Option AgentFabricEvent) × SharedStore Writer State
  | .open writer =>
      match EventStore.new store (some shared.persistence) with
      | .error exception => (.error exception, shared)
      | .ok opened =>
          (.ok none, { shared with instances := Function.update shared.instances writer opened.events })
  | .append writer request =>
      let (answer, next) := (shared.view writer).append sha256 store request
      (answer.map some, {
        persistence := next.persistence.getD shared.persistence
        instances := Function.update shared.instances writer next.events })

variable (calls : List (SharedCall Writer))

def reached : SharedStore Writer State :=
  run (step sha256 store) (initial store) calls

/-- The event that a call returned. -/
def answered? : Except PyError (Option AgentFabricEvent) → Option AgentFabricEvent
  | .ok event => event
  | .error _ => none

/-- The events that the appends of a run returned. -/
def returned : List AgentFabricEvent :=
  (responses (step sha256 store) (initial store) calls).filterMap answered?

end SharedStore

/-- The in-memory backend keeps a copy of a value and the durable backends keep its JSON text. -/
inductive Encoding where
  | copy
  | text
  deriving DecidableEq

/-- The arguments of an append with a payload of Python values.
The fault is an exception of the write itself, such as that of a locked database or of `deepcopy`. -/
structure ValueRequest where
  eventType : String
  aggregateId : String
  payload : List (ValueKey × KeyedValue)
  eventId : String
  timestamp : UtcTime
  fault : Option PyError

/-- The request with the document that the hash writes of its payload. -/
def ValueRequest.image? (request : ValueRequest) : Option AppendRequest :=
  (KeyedValue.writtenDict? true request.payload).map fun payload => {
    eventType := request.eventType
    aggregateId := request.aggregateId
    payload
    eventId := request.eventId
    timestamp := request.timestamp }

variable (encoding : Encoding)

/-- The document that a backend keeps of a payload. The durable backends write without
`default=str`, and of a copy the document is all that a hash reads. -/
def Encoding.document? (payload : List (ValueKey × KeyedValue)) : Option (List (String × Json)) :=
  KeyedValue.writtenDict? (encoding = .copy) payload

/-- The hashed fields in the order in which `json.dumps` writes them around a written payload. -/
def AgentFabricEvent.written (event : AgentFabricEvent) : Json := .obj [
  ("aggregate_id", .str event.aggregateId),
  ("event_id", .str event.eventId),
  ("event_type", .str event.eventType),
  ("payload", .obj event.payload),
  ("previous_hash", .str event.previousHash),
  ("sequence", .int event.sequence),
  ("timestamp", .str event.timestamp.isoformat)]

/-- The fields that a hash writes of a reloaded event.
A JSON text gives back keys that are texts, and a copy gives back the keys of the payload. -/
def Encoding.written : Encoding → AgentFabricEvent → Json
  | .copy, event => event.written
  | .text, event => event.hashed.sortKeys

/-- The chain that a reloaded store checks. -/
def writtenChain : HashChain AgentFabricEvent String :=
  { eventChain sha256 with
    digest := fun event => sha256 (String.ofList (encoding.written event).render) }

namespace EventStore

variable {State : Type} (sha256 : String → String) (store : PersistenceStore State)

/-- The event keeps the document of its payload in the order in which its hash writes it. -/
def nextWritten (events : List AgentFabricEvent) (request : AppendRequest) : AgentFabricEvent :=
  let event := nextEvent sha256 events request
  { event with eventHash := sha256 (String.ofList event.written.render) }

variable (encoding : Encoding)

/-- The write encodes the payload of the event before it reaches the rows. -/
def putValue (request : ValueRequest) (state : State) (event : AgentFabricEvent) :
    Except PyError State :=
  match request.fault, encoding.document? request.payload with
  | some exception, _ => .error exception
  | none, none => .error (.typeError "Object is not JSON serializable")
  | none, some payload => store.put state collection event.eventId { event with payload }.asDict

variable (eventStore : EventStore State)

/-- The hash of the payload raises before the event is in memory, and the write after it. -/
def appendValue (request : ValueRequest) : Except PyError AgentFabricEvent × EventStore State :=
  if request.eventType ∉ eventTypeRegistry then
    (.error (.valueError ("unregistered event type: " ++ request.eventType)), eventStore)
  else
    match request.image? with
    | none => (.error (.typeError "'<' not supported, or keys must be str, int, float, bool or None"),
        eventStore)
    | some image =>
        let event := nextWritten sha256 eventStore.events image
        let events := eventStore.events ++ [event]
        match eventStore.persistence with
        | none => (.ok event, ⟨none, events⟩)
        | some state =>
            match putValue store encoding request state event with
            | .error exception => (.error exception, ⟨some state, events⟩)
            | .ok next => (.ok event, ⟨some next, events⟩)

/-- The check of a store that was reloaded from a backend. -/
def validateWritten : Bool :=
  (writtenChain sha256 encoding).validFrom "" 1
    (sortedBy AgentFabricEvent.sequence eventStore.events)

/-- Over JSON texts it is the check of the store. -/
theorem validateWritten_text :
    eventStore.validateWritten sha256 .text = eventStore.validateIntegrity sha256 := rfl

end EventStore

end AgentFabric.Events
