import AgentFabric.Construction.Events.EventStore
import AgentFabric.Foundation.JsonMasking
import AgentFabric.Foundation.PyCoercion

namespace AgentFabric.Audit

def sensitiveKeys : List String := ["secret", "raw", "password", "token_value", "private_key"]

/-- The comparison ignores the case of the key. -/
def isSensitive (key : String) : Bool :=
  sensitiveKeys.any fun word => LowerText.lower key = word.toList

def redactedText : String := "[REDACTED]"

def redact (value : Json) : Json := value.mask isSensitive redactedText

def containsRawSensitive (value : Json) : Bool := value.exposes isSensitive redactedText

structure AuditBundleManifest where
  tenantId : String
  bundleId : String
  createdAt : UtcTime
  schemaVersion : String := "software-foundry-generation-17"

def AuditBundleManifest.asDict (manifest : AuditBundleManifest) : Json := .obj [
  ("bundle_id", .str manifest.bundleId),
  ("tenant_id", .str manifest.tenantId),
  ("created_at", .str manifest.createdAt.isoformat),
  ("schema_version", .str manifest.schemaVersion)]

/-- A bundle keeps its first fields by name and the other collections in the order of the source. -/
structure AuditBundle where
  manifest : AuditBundleManifest
  tenantSummary : Json
  workflowTimeline : List Json
  decisionRecords : List Json
  packageInstalls : List Json
  eventHashChain : Json
  veilAuditReferences : List String
  reputationSummary : Json
  sections : List (String × List Json)

namespace AuditBundle

variable (bundle : AuditBundle)

/-- The fields of a bundle after its manifest. -/
def contents : List (String × Json) := [
  ("tenant_summary", bundle.tenantSummary),
  ("workflow_timeline", .arr bundle.workflowTimeline),
  ("decision_records", .arr bundle.decisionRecords),
  ("package_installs", .arr bundle.packageInstalls),
  ("event_hash_chain", bundle.eventHashChain),
  ("veil_audit_references", .arr (bundle.veilAuditReferences.map .str)),
  ("reputation_summary", bundle.reputationSummary)] ++
  bundle.sections.map fun entry => (entry.1, .arr entry.2)

def asDict : Except PyError Json :=
  let value := .obj (("manifest", bundle.manifest.asDict) :: bundle.contents)
  let redacted := redact value
  if containsRawSensitive redacted then
    .error (.valueError "audit bundle contains raw sensitive values")
  else .ok redacted

end AuditBundle

open Persistence Events

/-- The ways in which a field of the bundle reads its collection. -/
inductive Reading where
  | rows
  | plans
  | artifacts
  deriving DecidableEq

/-- The collections of the bundle, each under its field and with the way in which it is read. -/
def sectionTable : List (String × Reading × String) := [
  ("runtime_jobs", .rows, "runtime_jobs"),
  ("connectors", .rows, "connectors"),
  ("connector_results", .rows, "connector_results"),
  ("tools", .rows, "tools"),
  ("tool_results", .rows, "tool_results"),
  ("evaluation_results", .rows, "evaluation_results"),
  ("feedback", .rows, "feedback"),
  ("cost_events", .rows, "cost_events"),
  ("revenue_events", .rows, "revenue_events"),
  ("health_snapshots", .rows, "agent_health_snapshots"),
  ("drift_events", .rows, "agent_drift_events"),
  ("anomaly_events", .rows, "agent_anomaly_records"),
  ("recommendations", .rows, "agent_recommendations"),
  ("version_comparisons", .rows, "agent_version_comparisons"),
  ("connector_manifests", .rows, "enterprise_connector_manifests"),
  ("connector_enablement", .rows, "enterprise_connector_enablement"),
  ("connector_executions", .rows, "enterprise_connector_executions"),
  ("connector_denials", .rows, "enterprise_connector_denials"),
  ("credential_lifecycle", .rows, "connector_credentials"),
  ("connector_policies", .rows, "enterprise_connector_policies"),
  ("factory_ideas", .rows, "factory_ideas"),
  ("factory_repositories", .rows, "factory_repositories"),
  ("factory_platforms", .rows, "factory_platforms"),
  ("factory_artifacts", .rows, "factory_artifacts"),
  ("factory_packages", .rows, "factory_repository_packages"),
  ("factory_quality", .rows, "factory_quality_scores"),
  ("factory_tasks", .rows, "factory_software_tasks"),
  ("factory_execution_plans", .plans, "factory_execution_plans"),
  ("factory_execution_approvals", .rows, "factory_execution_approvals"),
  ("factory_execution_results", .rows, "factory_execution_results"),
  ("factory_execution_artifacts", .rows, "factory_execution_artifacts"),
  ("factory_execution_rollbacks", .rows, "factory_execution_rollbacks"),
  ("factory_build_plans", .plans, "factory_build_plans"),
  ("factory_build_approvals", .rows, "factory_build_approvals"),
  ("factory_build_results", .rows, "factory_build_results"),
  ("factory_build_artifacts", .rows, "factory_build_artifacts"),
  ("factory_build_reviews", .rows, "factory_build_reviews"),
  ("factory_build_rollbacks", .rows, "factory_build_rollbacks"),
  ("renovation_estimates", .artifacts, "renovation_estimates"),
  ("renovation_proposals", .artifacts, "renovation_proposals"),
  ("renovation_proposal_exports", .rows, "renovation_proposal_exports"),
  ("renovation_jobs", .artifacts, "renovation_jobs"),
  ("renovation_daily_logs", .artifacts, "renovation_daily_logs"),
  ("renovation_field_notes", .artifacts, "renovation_field_notes"),
  ("renovation_photo_records", .artifacts, "renovation_photo_records"),
  ("renovation_issue_records", .artifacts, "renovation_issue_records"),
  ("renovation_daily_summaries", .rows, "renovation_daily_summaries"),
  ("renovation_change_orders", .artifacts, "renovation_change_orders"),
  ("renovation_change_order_approvals", .artifacts, "renovation_change_order_approvals"),
  ("renovation_change_order_exports", .rows, "renovation_change_order_exports"),
  ("renovation_schedules", .artifacts, "renovation_schedules"),
  ("renovation_schedule_recalculations", .rows, "renovation_schedule_recalculations"),
  ("renovation_schedule_summaries", .rows, "renovation_schedule_summaries"),
  ("renovation_crews", .artifacts, "renovation_crews"),
  ("renovation_crew_assignments", .artifacts, "renovation_crew_assignments"),
  ("renovation_crew_availability", .artifacts, "renovation_crew_availability"),
  ("renovation_material_deliveries", .artifacts, "renovation_material_deliveries"),
  ("renovation_delay_impacts", .artifacts, "renovation_delay_impacts"),
  ("renovation_job_costs", .artifacts, "renovation_job_costs"),
  ("renovation_invoices", .artifacts, "renovation_invoices"),
  ("renovation_payments", .artifacts, "renovation_payments"),
  ("renovation_payables", .artifacts, "renovation_payables"),
  ("renovation_profitability_scorecards", .artifacts, "renovation_profitability_scorecards"),
  ("renovation_margin_variances", .artifacts, "renovation_margin_variances"),
  ("renovation_cost_overrun_alerts", .artifacts, "renovation_cost_overrun_alerts"),
  ("renovation_cash_flow_forecasts", .artifacts, "renovation_cash_flow_forecasts"),
  ("renovation_owner_summaries", .rows, "renovation_owner_summaries"),
  ("renovation_leads", .artifacts, "renovation_leads"),
  ("renovation_customers", .artifacts, "renovation_customers"),
  ("renovation_opportunities", .artifacts, "renovation_opportunities"),
  ("renovation_follow_ups", .artifacts, "renovation_follow_ups"),
  ("renovation_appointments", .artifacts, "renovation_appointments"),
  ("renovation_site_visits", .artifacts, "renovation_site_visits"),
  ("renovation_customer_messages", .artifacts, "renovation_customer_messages"),
  ("renovation_communications", .artifacts, "renovation_communications"),
  ("renovation_portal_views", .artifacts, "renovation_portal_views")]

/-- A plan loses the contents of its artifacts. -/
def planWithoutContents : Json → Json
  | .obj fields => .obj (fields.filter fun field => field.1 ≠ "artifact_contents")
  | value => value

/-- An artifact record shows only its owner and the artifact. -/
def renovationArtifact (item : Json) : Except PyError Json := do
  let tenantId ← Interpreter.subscript item "tenant_id"
  let organizationId ← Interpreter.subscript item "organization_id"
  let createdBy ← Interpreter.subscript item "created_by"
  let artifact ← Interpreter.subscript item "artifact"
  .ok (.obj [
    ("tenant_id", tenantId),
    ("organization_id", organizationId),
    ("created_by", createdBy),
    ("artifact", artifact)])

variable (interpreter : Interpreter)

/-- The references of one decision record. -/
def recordRefs (record : Json) : Except PyError (List String) :=
  match record.field? "veil_audit_refs" with
  | none => .ok []
  | some value => (Interpreter.iterate value).map fun items => items.map interpreter.str

def veilRefs (records : List Json) : Except PyError (List String) :=
  (records.mapM (recordRefs interpreter)).map List.flatten

/-- The kinds of events that belong to the timeline. -/
def timelineKinds : List String := ["workflow", "task", "checkpoint", "human_approval"]

def onTimeline (event : AgentFabricEvent) : Bool :=
  timelineKinds.any fun kind => kind.toList.isPrefixOf event.eventType.toList

section Exporter

variable {State : Type} (interpreter : Interpreter) (sha256 : String → String)
  (store : PersistenceStore State) (eventStore : EventStore State)

/-- The events whose payload names the tenant. -/
def tenantEvents (tenantId : String) : List AgentFabricEvent :=
  (eventStore.replay none).filter fun event =>
    PersistenceStore.hasText (.obj event.payload) "tenant_id" tenantId

variable (state : State)

def readSection (tenantId : String) (reading : Reading) (collection : String) :
    Except PyError (List Json) :=
  let items := store.listTenant state collection tenantId
  match reading with
  | .rows => .ok items
  | .plans => .ok (items.map planWithoutContents)
  | .artifacts => items.mapM renovationArtifact

def readSections (tenantId : String) : Except PyError (List (String × List Json)) :=
  sectionTable.mapM fun entry =>
    (readSection store state tenantId entry.2.1 entry.2.2).map fun items => (entry.1, items)

def eventHashChain (events : List AgentFabricEvent) : Json := .obj [
  ("valid", .bool (eventStore.validateIntegrity sha256)),
  ("first_event_id", Json.optionalText (events.head?.map AgentFabricEvent.eventId)),
  ("last_event_id", Json.optionalText (events.getLast?.map AgentFabricEvent.eventId)),
  ("event_count", .int events.length)]

/-- The export draws the id and the time of the manifest. -/
def exportBundle (eventStore : EventStore State) (tenantId bundleId : String)
    (createdAt : UtcTime) : Except PyError AuditBundle := do
  let events := tenantEvents eventStore tenantId
  let decisionRecords := store.listTenant state "governance_decision_records" tenantId
  let veilAuditReferences ← veilRefs interpreter decisionRecords
  let sections ← readSections store state tenantId
  .ok {
    manifest := { tenantId, bundleId, createdAt }
    tenantSummary := .obj [("tenant_id", .str tenantId), ("event_count", .int events.length)]
    workflowTimeline := (events.filter onTimeline).map AgentFabricEvent.asDict
    decisionRecords
    packageInstalls := store.listTenant state "marketplace_installs" tenantId
    eventHashChain := eventHashChain sha256 eventStore events
    veilAuditReferences
    reputationSummary := .obj [("records", .arr (store.listTenant state "reputation" tenantId))]
    sections }

/-- The exported document of a tenant. -/
def exportDict (eventStore : EventStore State) (tenantId bundleId : String)
    (createdAt : UtcTime) : Except PyError Json := do
  let bundle ← exportBundle interpreter sha256 store state eventStore tenantId bundleId createdAt
  bundle.asDict

end Exporter

end AgentFabric.Audit
