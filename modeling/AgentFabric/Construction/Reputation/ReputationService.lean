import AgentFabric.Construction.Events.EventStore

namespace AgentFabric.Reputation
open Events

structure ReputationRecord where
  agentId : String
  successfulTasks : Nat := 0
  failures : Nat := 0
  totalLatencyMs : ℚ := 0
  humanRatingsTotal : ℚ := 0
  humanRatingsCount : Nat := 0
  approvals : Nat := 0
  approvalRequests : Nat := 0

inductive TimelineEntry where
  | task (success : Bool) (latencyMs : ℚ)
  | rating (rating : ℚ)
  | approval (approved : Bool)

/-- The stored form of a record, without the scores that no reader takes back. -/
structure ReputationRow where
  record : ReputationRecord
  tenantId : Option String
  timeline : List TimelineEntry

/-- The `str` and the `float` of a payload value. -/
structure ReputationSettings where
  str : Json → String
  float : Json → Except PyError ℚ

/-- An empty tenant stands for none. -/
def pairKey (agentId : String) (tenantId : Option String) : String :=
  match tenantId with
  | none => agentId
  | some tenant => if tenant = "" then agentId else tenant ++ ":" ++ agentId

/-- The live records and timelines over the rows of the persistence. -/
structure ReputationService where
  records : Dict String ReputationRecord
  timelines : Dict String (List TimelineEntry)
  rows : Dict String ReputationRow

namespace ReputationService

def initial : ReputationService := ⟨Dict.empty, Dict.empty, Dict.empty⟩

variable (service : ReputationService)

/-- The service that starts from the rows in the order in which the persistence lists them. -/
def reopened (listing : List ReputationRow) : ReputationService where
  records := Dict.empty.setAll
    (Dict.itemsOf (fun row => pairKey row.record.agentId row.tenantId) ReputationRow.record listing)
  timelines := Dict.empty.setAll
    (Dict.itemsOf (fun row => pairKey row.record.agentId row.tenantId) ReputationRow.timeline listing)
  rows := service.rows

/-- The timeline of a key without entries is empty. -/
def timelineAt (key : String) : List TimelineEntry :=
  service.timelines.getD key []

variable (agentId : String) (tenantId : Option String)

def persist : ReputationService :=
  match service.records.get? (pairKey agentId tenantId) with
  | none => service
  | some record =>
      { service with
        rows := service.rows.set (pairKey agentId tenantId)
          ⟨record, tenantId, service.timelineAt (pairKey agentId tenantId)⟩ }

def get : ReputationRecord × ReputationService :=
  match service.records.get? (pairKey agentId tenantId) with
  | some record => (record, service)
  | none =>
      ({ agentId },
        { service with
          records := service.records.set (pairKey agentId tenantId) { agentId } }.persist agentId
            tenantId)

def timeline : List TimelineEntry × ReputationService :=
  let after := (service.get agentId tenantId).2
  (after.timelineAt (pairKey agentId tenantId), after)

/-- The three recordings differ in their change of the record and in their entry. -/
def record (change : ReputationRecord → ReputationRecord) (entry : TimelineEntry) :
    ReputationRecord × ReputationService :=
  let key := pairKey agentId tenantId
  let (record, after) := service.get agentId tenantId
  (change record,
    { after with
      records := after.records.set key (change record)
      timelines := after.timelines.set key (after.timelineAt key ++ [entry]) }.persist agentId
        tenantId)

def recordTask (success : Bool) (latencyMs : ℚ) : ReputationRecord × ReputationService :=
  service.record agentId tenantId
    (fun record =>
      { record with
        successfulTasks := record.successfulTasks + (if success then 1 else 0)
        failures := record.failures + (if success then 0 else 1)
        totalLatencyMs := record.totalLatencyMs + latencyMs })
    (.task success latencyMs)

def recordRating (rating : ℚ) : ReputationRecord × ReputationService :=
  service.record agentId tenantId
    (fun record =>
      { record with
        humanRatingsTotal := record.humanRatingsTotal + rating
        humanRatingsCount := record.humanRatingsCount + 1 })
    (.rating rating)

def recordApproval (approved : Bool) : ReputationRecord × ReputationService :=
  service.record agentId tenantId
    (fun record =>
      { record with
        approvals := record.approvals + (if approved then 1 else 0)
        approvalRequests := record.approvalRequests + 1 })
    (.approval approved)

section Reconstruction

variable (settings : ReputationSettings)

/-- What an event records. -/
inductive Recording where
  | task (agentId : String) (tenantId : Option String) (success : Bool) (latencyMs : ℚ)
  | rating (agentId : String) (tenantId : Option String) (rating : ℚ)

variable (event : AgentFabricEvent)

def eventAgent : String :=
  match (Json.obj event.payload).field? "agent_id" with
  | none => ""
  | some value => settings.str value

def eventTenant : Option String :=
  match (Json.obj event.payload).field? "tenant_id" with
  | none => none
  | some value => if value.truthy then some (settings.str value) else none

def eventLatency : Except PyError ℚ :=
  match (Json.obj event.payload).field? "latency_ms" with
  | none => .ok 0
  | some value => settings.float value

/-- Events of other types and without an agent record nothing. -/
def recordingOf : Except PyError (Option Recording) :=
  let agentId := eventAgent settings event
  if event.eventType = "task.completed" ∨ event.eventType = "task.failed" then
    if agentId = "" then .ok none
    else do
      let latencyMs ← eventLatency settings event
      .ok (some (.task agentId (eventTenant settings event)
        (event.eventType = "task.completed") latencyMs))
  else if event.eventType = "reputation.updated" then
    match (Json.obj event.payload).field? "rating" with
    | none => .ok none
    | some value =>
        if agentId = "" then .ok none
        else do
          let rating ← settings.float value
          .ok (some (.rating agentId (eventTenant settings event) rating))
  else .ok none

def applyRecording (service : ReputationService) : Recording → ReputationService
  | .task agentId tenantId success latencyMs =>
      (service.recordTask agentId tenantId success latencyMs).2
  | .rating agentId tenantId rating => (service.recordRating agentId tenantId rating).2

/-- The replay keeps what it recorded before an event that raises. -/
def replay (service : ReputationService) :
    List AgentFabricEvent → Except PyError Unit × ReputationService
  | [] => (.ok (), service)
  | event :: rest =>
      match recordingOf settings event with
      | .error exception => (.error exception, service)
      | .ok none => replay service rest
      | .ok (some recording) => replay (service.applyRecording recording) rest

/-- The live records start anew, and the rows stay. -/
def clear (service : ReputationService) : ReputationService :=
  { service with records := Dict.empty, timelines := Dict.empty }

def reconstructFromEvents (service : ReputationService) (events : List AgentFabricEvent) :
    Except PyError Unit × ReputationService :=
  service.clear.replay settings events

end Reconstruction

end ReputationService

inductive ReputationCall where
  | get (agentId : String) (tenantId : Option String)
  | recordTask (agentId : String) (tenantId : Option String) (success : Bool) (latencyMs : ℚ)
  | recordRating (agentId : String) (tenantId : Option String) (rating : ℚ)
  | recordApproval (agentId : String) (tenantId : Option String) (approved : Bool)
  | reconstructFromEvents (events : List AgentFabricEvent)

/-- The answer is the record of the pair, and a reconstruction answers nothing. -/
def ReputationService.step (settings : ReputationSettings) :
    Transition.Machine ReputationService ReputationCall (Except PyError (Option ReputationRecord))
  | service, .get agentId tenantId =>
      let (record, after) := service.get agentId tenantId
      (.ok (some record), after)
  | service, .recordTask agentId tenantId success latencyMs =>
      let (record, after) := service.recordTask agentId tenantId success latencyMs
      (.ok (some record), after)
  | service, .recordRating agentId tenantId rating =>
      let (record, after) := service.recordRating agentId tenantId rating
      (.ok (some record), after)
  | service, .recordApproval agentId tenantId approved =>
      let (record, after) := service.recordApproval agentId tenantId approved
      (.ok (some record), after)
  | service, .reconstructFromEvents events =>
      let (answer, after) := service.reconstructFromEvents settings events
      (answer.map fun _ => none, after)

end AgentFabric.Reputation
