import AgentFabric.Construction.Persistence.Store
import AgentFabric.Foundation.PyData

namespace AgentFabric.Collaboration
open Persistence

/-- The fields of a record that a restore brings back. -/
structure ContextData where
  conversationState : List (String × PyData)
  taskState : List (String × PyData)
  artifacts : List (String × PyData)
  structuredOutputs : List (String × PyData)
  sanitizedPayloads : List (String × PyData)
  veilTokenRefs : List PyData
  approvalState : List (String × PyData)
  agentVisibleContext : List (String × PyData)
  summaries : List PyData

/-- The shared context of one workflow, with the isoformat of its last update. -/
structure ContextRecord extends ContextData where
  workflowId : String
  checkpoints : List (String × PyData)
  updatedAt : String

namespace ContextRecord

/-- A record before its first update. -/
def new (workflowId now : String) : ContextRecord where
  conversationState := []
  taskState := []
  artifacts := []
  structuredOutputs := []
  sanitizedPayloads := []
  veilTokenRefs := []
  approvalState := []
  agentVisibleContext := []
  summaries := []
  workflowId := workflowId
  checkpoints := []
  updatedAt := now

variable (record : ContextRecord)

def snapshotFields : List (String × PyData) := [
  ("workflow_id", .str record.workflowId),
  ("conversation_state", .dict record.conversationState),
  ("task_state", .dict record.taskState),
  ("artifacts", .dict record.artifacts),
  ("structured_outputs", .dict record.structuredOutputs),
  ("sanitized_payloads", .dict record.sanitizedPayloads),
  ("veil_token_refs", .list record.veilTokenRefs),
  ("approval_state", .dict record.approvalState),
  ("agent_visible_context", .dict record.agentVisibleContext),
  ("summaries", .list record.summaries),
  ("checkpoints", .dict record.checkpoints),
  ("updated_at", .str record.updatedAt)]

def snapshot : PyData := .dict record.snapshotFields

end ContextRecord

/-- The Kelvin sign is the only character outside ASCII whose lower case is one ASCII letter. -/
def lowerChar (char : Char) : Char := if char.toNat = 8490 then 'k' else char.toLower

/-- The keys of raw values in any case. -/
def isRawKey (key : String) : Bool :=
  let lowered := key.toList.map lowerChar
  lowered ∈ ["raw".toList, "secret".toList, "password".toList, "token".toList] ||
    "raw_".toList.isPrefixOf lowered

mutual

/-- The scan goes through the dicts and the lists of a value. -/
def isRawSensitive : PyData → Bool
  | .dict fields => fieldsRawSensitive fields
  | .list items => itemsRawSensitive items
  | _ => false

def itemsRawSensitive : List PyData → Bool
  | [] => false
  | item :: rest => isRawSensitive item || itemsRawSensitive rest

def fieldsRawSensitive : List (String × PyData) → Bool
  | [] => false
  | (key, value) :: rest => isRawKey key || isRawSensitive value || fieldsRawSensitive rest

end

def rejectRawSensitive (value : PyData) : Except PyError Unit :=
  if isRawSensitive value then
    .error (.valueError "raw sensitive values must remain behind VEIL/Aegis references")
  else .ok ()

/-- The fields that a restore reads from a snapshot. -/
def restoredData (snapshot : List (String × PyData)) : Except PyError ContextData := do
  let conversationState ← PyData.dictField snapshot "conversation_state"
    (.error (.keyError "conversation_state"))
  let taskState ← PyData.dictField snapshot "task_state" (.error (.keyError "task_state"))
  let artifacts ← PyData.dictField snapshot "artifacts" (.error (.keyError "artifacts"))
  let structuredOutputs ← PyData.dictField snapshot "structured_outputs" (.ok [])
  let sanitizedPayloads ← PyData.dictField snapshot "sanitized_payloads" (.ok [])
  let veilTokenRefs ← PyData.listField snapshot "veil_token_refs" (.ok [])
  let approvalState ← PyData.dictField snapshot "approval_state" (.ok [])
  let agentVisibleContext ← PyData.dictField snapshot "agent_visible_context" (.ok [])
  let summaries ← PyData.listField snapshot "summaries" (.error (.keyError "summaries"))
  .ok { conversationState, taskState, artifacts, structuredOutputs, sanitizedPayloads,
        veilTokenRefs, approvalState, agentVisibleContext, summaries }

/-- The record that a restart makes of a row. -/
def recordFromSnapshot (isPrintable : Char → Bool) (now : String)
    (snapshot : List (String × PyData)) : Except PyError ContextRecord := do
  let some workflowId := PyData.field? snapshot "workflow_id"
    | .error (.keyError "workflow_id")
  let conversationState ← PyData.dictField snapshot "conversation_state" (.ok [])
  let taskState ← PyData.dictField snapshot "task_state" (.ok [])
  let artifacts ← PyData.dictField snapshot "artifacts" (.ok [])
  let structuredOutputs ← PyData.dictField snapshot "structured_outputs" (.ok [])
  let sanitizedPayloads ← PyData.dictField snapshot "sanitized_payloads" (.ok [])
  let veilTokenRefs ← PyData.listField snapshot "veil_token_refs" (.ok [])
  let approvalState ← PyData.dictField snapshot "approval_state" (.ok [])
  let agentVisibleContext ← PyData.dictField snapshot "agent_visible_context" (.ok [])
  let summaries ← PyData.listField snapshot "summaries" (.ok [])
  let checkpoints ← PyData.dictField snapshot "checkpoints" (.ok [])
  .ok { conversationState, taskState, artifacts, structuredOutputs, sanitizedPayloads,
        veilTokenRefs, approvalState, agentVisibleContext, summaries,
        workflowId := workflowId.text isPrintable, checkpoints, updatedAt := now }

/-- The store keeps one record for each workflow and may write it through. -/
structure ContextStore (State : Type) where
  persistence : Option State
  records : Dict String ContextRecord

namespace ContextStore

variable {State : Type} (store : PersistenceStore State)

/-- The fields of a row. -/
def rowFields (row : Json) : Except PyError (List (String × PyData)) :=
  match PyData.ofJson row with
  | .dict fields => .ok fields
  | _ => .error (.typeError "a dict is required")

/-- A restart reads the records of its persistence. -/
def new (isPrintable : Char → Bool) (now : String) (persistence : Option State) :
    Except PyError (ContextStore State) :=
  match persistence with
  | none => .ok ⟨none, Dict.empty⟩
  | some state => do
      let records ← (store.list state "shared_context").mapM fun row => do
        recordFromSnapshot isPrintable now (← rowFields row)
      .ok ⟨some state, Dict.empty.setAll (records.map fun record => (record.workflowId, record))⟩

variable (contextStore : ContextStore State)

/-- A missing record is created in memory. -/
def getOrCreate (workflowId now : String) : ContextRecord × ContextStore State :=
  match contextStore.records.get? workflowId with
  | some record => (record, contextStore)
  | none =>
      let record := ContextRecord.new workflowId now
      (record, { contextStore with records := contextStore.records.set workflowId record })

/-- The write of a document, which a store without persistence skips. -/
def put (collection key : String) (value : PyData) : Except PyError Unit × ContextStore State :=
  match contextStore.persistence with
  | none => (.ok (), contextStore)
  | some state =>
      match store.put state collection key value.toJson with
      | .error exception => (.error exception, contextStore)
      | .ok next => (.ok (), { contextStore with persistence := some next })

def persist (record : ContextRecord) : Except PyError Unit × ContextStore State :=
  contextStore.put store "shared_context" record.workflowId record.snapshot

/-- An update changes the record in memory and writes it. -/
def change (workflowId now : String)
    (edit : ContextRecord → ContextRecord) : Except PyError Unit × ContextStore State :=
  let (record, created) := contextStore.getOrCreate workflowId now
  let changed := { edit record with updatedAt := now }
  { created with records := created.records.set workflowId changed }.persist store changed

/-- An update of a value that the scan accepts. -/
def changeScanned (value : PyData) (workflowId now : String)
    (edit : ContextRecord → ContextRecord) : Except PyError Unit × ContextStore State :=
  match rejectRawSensitive value with
  | .error exception => (.error exception, contextStore)
  | .ok () => contextStore.change store workflowId now edit

def updateTaskState (workflowId nodeId : String)
    (value : List (String × PyData)) (now : String) : Except PyError Unit × ContextStore State :=
  contextStore.changeScanned store (.dict value) workflowId now fun record =>
    { record with taskState := Dict.setItems nodeId (.dict value) record.taskState }

variable (workflowId key : String)

/-- The scan of an artifact covers its key. -/
def putArtifact (value : PyData) (now : String) : Except PyError Unit × ContextStore State :=
  contextStore.changeScanned store (.dict [(key, value)]) workflowId now fun record =>
    { record with artifacts := Dict.setItems key value record.artifacts }

def addSummary (workflowId summary now : String) : Except PyError Unit × ContextStore State :=
  contextStore.change store workflowId now fun record =>
    { record with summaries := record.summaries ++ [.str summary] }

variable (value : List (String × PyData))

def putSanitizedPayload (now : String) : Except PyError Unit × ContextStore State :=
  contextStore.changeScanned store (.dict value) workflowId now fun record =>
    { record with sanitizedPayloads := Dict.setItems key (.dict value) record.sanitizedPayloads }

def putStructuredOutput (now : String) : Except PyError Unit × ContextStore State :=
  contextStore.changeScanned store (.dict value) workflowId now fun record =>
    { record with structuredOutputs := Dict.setItems key (.dict value) record.structuredOutputs }

def addVeilTokenRef (workflowId tokenRef now : String) : Except PyError Unit × ContextStore State :=
  contextStore.change store workflowId now fun record =>
    { record with veilTokenRefs := record.veilTokenRefs ++ [.str tokenRef] }

def updateApprovalState (workflowId : String)
    (values : List (String × PyData)) (now : String) : Except PyError Unit × ContextStore State :=
  contextStore.changeScanned store (.dict values) workflowId now fun record =>
    { record with approvalState := PyData.update record.approvalState values }

/-- The key of a checkpoint in the persistence. -/
def checkpointKey (workflowId checkpointId : String) : String := workflowId ++ ":" ++ checkpointId

/-- A checkpoint keeps the snapshot in the record and in a row of its own. -/
def checkpoint (workflowId checkpointId now : String) :
    Except PyError PyData × ContextStore State :=
  let snapshot := (contextStore.getOrCreate workflowId now).1.snapshot
  match contextStore.change store workflowId now fun record =>
      { record with checkpoints := Dict.setItems checkpointId snapshot record.checkpoints } with
  | (.error exception, after) => (.error exception, after)
  | (.ok (), after) =>
      match after.put store "checkpoints" (checkpointKey workflowId checkpointId) snapshot with
      | (.error exception, written) => (.error exception, written)
      | (.ok (), written) => (.ok snapshot, written)

/-- A restore takes the data of the checkpoint and keeps the checkpoints of the record. -/
def restore (workflowId checkpointId now : String) : Except PyError PyData × ContextStore State :=
  let (record, created) := contextStore.getOrCreate workflowId now
  match PyData.dictField record.checkpoints checkpointId (.error (.keyError checkpointId)) >>=
      restoredData with
  | .error exception => (.error exception, created)
  | .ok data =>
      let restored := { record with toContextData := data, updatedAt := now }
      match created.change store workflowId now fun record =>
          { record with toContextData := data } with
      | (.error exception, after) => (.error exception, after)
      | (.ok (), after) => (.ok restored.snapshot, after)

end ContextStore

/-- The calls of the methods of a context store. -/
inductive ContextCall where
  | getOrCreate (workflowId : String)
  | updateTaskState (workflowId nodeId : String) (value : List (String × PyData))
  | putArtifact (workflowId key : String) (value : PyData)
  | addSummary (workflowId summary : String)
  | putSanitizedPayload (workflowId key : String) (value : List (String × PyData))
  | putStructuredOutput (workflowId key : String) (value : List (String × PyData))
  | addVeilTokenRef (workflowId tokenRef : String)
  | updateApprovalState (workflowId : String) (values : List (String × PyData))
  | checkpoint (workflowId checkpointId : String)
  | restore (workflowId checkpointId : String)

/-- What a context store goes through: method calls, changes that a caller makes to a live record, and
restarts over its persistence. -/
inductive ContextEvent where
  | call (call : ContextCall)
  | edit (workflowId : String) (data : ContextData)
  | reload

namespace ContextStore

variable {State : Type} (store : PersistenceStore State) (isPrintable : Char → Bool)
  (contextStore : ContextStore State)

/-- A method call, of which only the exception is kept. -/
def call (now : String) : ContextCall → Except PyError Unit × ContextStore State
  | .getOrCreate workflowId => (.ok (), (contextStore.getOrCreate workflowId now).2)
  | .updateTaskState workflowId nodeId value =>
      contextStore.updateTaskState store workflowId nodeId value now
  | .putArtifact workflowId key value => contextStore.putArtifact store workflowId key value now
  | .addSummary workflowId summary => contextStore.addSummary store workflowId summary now
  | .putSanitizedPayload workflowId key value =>
      contextStore.putSanitizedPayload store workflowId key value now
  | .putStructuredOutput workflowId key value =>
      contextStore.putStructuredOutput store workflowId key value now
  | .addVeilTokenRef workflowId tokenRef =>
      contextStore.addVeilTokenRef store workflowId tokenRef now
  | .updateApprovalState workflowId values =>
      contextStore.updateApprovalState store workflowId values now
  | .checkpoint workflowId checkpointId =>
      let (answer, after) := contextStore.checkpoint store workflowId checkpointId now
      (answer.map fun _ => (), after)
  | .restore workflowId checkpointId =>
      let (answer, after) := contextStore.restore store workflowId checkpointId now
      (answer.map fun _ => (), after)

/-- A caller assigns the fields of the record that `get_or_create` returns. -/
def edit (workflowId : String) (data : ContextData) (now : String) : ContextStore State :=
  let (record, created) := contextStore.getOrCreate workflowId now
  { created with
    records := created.records.set workflowId { record with toContextData := data } }

/-- A new store over the same persistence replaces a store that has one. -/
def reload (now : String) : Except PyError Unit × ContextStore State :=
  match contextStore.persistence with
  | none => (.ok (), contextStore)
  | some state =>
      match new store isPrintable now (some state) with
      | .error exception => (.error exception, contextStore)
      | .ok next => (.ok (), next)

/-- One event with the time at which it happens. -/
def step : ContextEvent × String → Except PyError Unit × ContextStore State
  | (.call call, now) => contextStore.call store now call
  | (.edit workflowId data, now) => (.ok (), contextStore.edit workflowId data now)
  | (.reload, now) => contextStore.reload store isPrintable now

/-- A store without records, with a new persistence or without one. -/
def initial (persistent : Bool) : ContextStore State :=
  ⟨if persistent then some store.initial else none, Dict.empty⟩

end ContextStore

end AgentFabric.Collaboration
