import AgentFabric.Construction.Collaboration.ContextStore

namespace AgentFabric.Collaboration.ContextStore
open Persistence

variable {State : Type} {store : PersistenceStore State}

section Observation

variable (store) (contextStore : ContextStore State)

/-- The document of a row, or none without persistence. -/
def row (collection key : String) : Option Json :=
  contextStore.persistence.bind fun state => store.get state collection key

/-- The record that an operation works on. -/
def current (workflowId now : String) : ContextRecord :=
  (contextStore.records.get? workflowId).getD (ContextRecord.new workflowId now)

/-- The second store has one row written and is otherwise the first one. -/
structure Written (before after : ContextStore State) (collection key : String)
    (value : PyData) : Prop where
  persistent : after.persistence.isSome = before.persistence.isSome
  written : before.persistence.isSome →
    ∃ read, row store after collection key = some read ∧ read.Same value.toJson
  others : ∀ otherCollection other, (otherCollection, other) ≠ (collection, key) →
    row store after otherCollection other = row store before otherCollection other

/-- The second store holds a new record of one workflow, in memory and in its row. -/
structure Changed (before after : ContextStore State) (workflowId : String)
    (record : ContextRecord) : Prop where
  records : ∀ id, after.records.get? id =
    if id = workflowId then some record else before.records.get? id
  rows : Written store before after "shared_context" record.workflowId record.snapshot

end Observation

/-- The second store has one record assigned in memory. -/
def Assigned (before after : ContextStore State) (workflowId : String) (record : ContextRecord) :
    Prop :=
  ∀ id, after.records.get? id = if id = workflowId then some record else before.records.get? id

variable {before after : ContextStore State} {record : ContextRecord}

section

variable {workflowId : String} (assigned : Assigned before after workflowId record)
include assigned

/-- A property of the assigned record and of the other ones holds of every record. -/
theorem Assigned.forall
    {property : String → ContextRecord → Prop} (own : property workflowId record)
    (others : ∀ id found, id ≠ workflowId → before.records.get? id = some found →
      property id found) :
    ∀ id found, after.records.get? id = some found → property id found := by
  intro id found present
  rw [assigned id] at present
  split at present
  · rename_i same
    obtain rfl := Option.some.inj present
    exact same ▸ own
  · rename_i different
    exact others id found different present

/-- A record that was there before the assignment is there after it. -/
theorem Assigned.exists {id : String} (known : ∃ found, before.records.get? id = some found) :
    ∃ found, after.records.get? id = some found := by
  rw [assigned id]
  split
  · exact ⟨record, rfl⟩
  · exact known

end

variable (contextStore : ContextStore State) (workflowId now : String)

theorem getOrCreate_fst :
    (contextStore.getOrCreate workflowId now).1 = contextStore.current workflowId now := by
  unfold getOrCreate current
  cases contextStore.records.get? workflowId <;> rfl

theorem getOrCreate_persistence :
    (contextStore.getOrCreate workflowId now).2.persistence = contextStore.persistence := by
  unfold getOrCreate
  cases contextStore.records.get? workflowId <;> rfl

/-- The creation of a record assigns the current one. -/
theorem getOrCreate_assigned :
    Assigned contextStore (contextStore.getOrCreate workflowId now).2 workflowId
      (contextStore.current workflowId now) := by
  intro id
  unfold getOrCreate current
  cases known : contextStore.records.get? workflowId with
  | some record =>
      dsimp only [Option.getD_some]
      split
      · rename_i same
        rw [same, known]
      · rfl
  | none => exact Dict.get?_set _ _ _ _

/-- The current record stays the current one when it is created. -/
theorem current_getOrCreate :
    (contextStore.getOrCreate workflowId now).2.current workflowId now =
      contextStore.current workflowId now := by
  rw [current, getOrCreate_assigned contextStore workflowId now workflowId, if_pos rfl,
    Option.getD_some]

theorem row_getOrCreate (workflowId now collection key : String) :
    row store (contextStore.getOrCreate workflowId now).2 collection key =
      row store contextStore collection key := by
  rw [row, row, getOrCreate_persistence]

/-- An assignment to the fields of a record assigns the record. -/
theorem edit_assigned (workflowId : String) (data : ContextData) (now : String) :
    Assigned contextStore (contextStore.edit workflowId data now) workflowId
      { contextStore.current workflowId now with toContextData := data } := by
  intro id
  show ((contextStore.getOrCreate workflowId now).2.records.set workflowId
    { (contextStore.getOrCreate workflowId now).1 with toContextData := data }).get? id = _
  rw [Dict.get?_set, getOrCreate_fst, getOrCreate_assigned contextStore workflowId now id]
  split <;> rfl

theorem edit_persistence (workflowId : String) (data : ContextData) (now : String) :
    (contextStore.edit workflowId data now).persistence = contextStore.persistence :=
  getOrCreate_persistence contextStore workflowId now

/-- The creation of the record is part of the change. -/
theorem Changed.of_getOrCreate {contextStore after : ContextStore State} {workflowId now : String}
    (changed : Changed store (contextStore.getOrCreate workflowId now).2 after workflowId record) :
    Changed store contextStore after workflowId record := by
  have persistence := getOrCreate_persistence contextStore workflowId now
  refine ⟨?_, ?_, ?_, ?_⟩
  · intro id
    rw [changed.records id, getOrCreate_assigned contextStore workflowId now id]
    split <;> rfl
  · rw [changed.rows.persistent, persistence]
  · intro present
    exact changed.rows.written (by rwa [persistence])
  · intro otherCollection other different
    rw [changed.rows.others otherCollection other different, row_getOrCreate]

section Lawful

variable (lawful : store.Lawful)

include lawful

variable (contextStore : ContextStore State)

/-- A write over a lawful backend never raises. -/
theorem put_written (collection key : String) (value : PyData) :
    ∃ after, contextStore.put store collection key value = (.ok (), after) ∧
      after.records = contextStore.records ∧
      Written store contextStore after collection key value := by
  unfold put
  cases persistence : contextStore.persistence with
  | none =>
      refine ⟨contextStore, rfl, rfl, rfl, ?_, fun _ _ _ => rfl⟩
      simp [persistence]
  | some state =>
      obtain ⟨next, written⟩ := lawful.put_succeeds state collection key value.toJson
      refine ⟨{ contextStore with persistence := some next }, ?_, rfl, ?_, ?_, ?_⟩
      · dsimp only
        rw [written]
      · rw [persistence]
        rfl
      · intro _
        exact lawful.get_put_self state collection key value.toJson next written
      · intro otherCollection other different
        rw [row, row, persistence]
        exact lawful.get_put_of_ne state collection key value.toJson next otherCollection other
          written different

/-- An update over a lawful backend changes the record and its row. -/
theorem change_changed (workflowId now : String) (edit : ContextRecord → ContextRecord) :
    ∃ after, contextStore.change store workflowId now edit = (.ok (), after) ∧
      Changed store contextStore after workflowId
        { edit (contextStore.current workflowId now) with updatedAt := now } := by
  have record := getOrCreate_fst contextStore workflowId now
  have persistence := getOrCreate_persistence contextStore workflowId now
  have records := getOrCreate_assigned contextStore workflowId now
  unfold change
  rcases made : contextStore.getOrCreate workflowId now with ⟨current, created⟩
  rw [made] at record persistence records
  obtain rfl : current = contextStore.current workflowId now := record
  dsimp only at persistence records ⊢
  obtain ⟨after, returned, kept, written⟩ := put_written lawful
    { created with
      records := created.records.set workflowId
        { edit (contextStore.current workflowId now) with updatedAt := now } }
    "shared_context" (edit (contextStore.current workflowId now)).workflowId
    { edit (contextStore.current workflowId now) with updatedAt := now }.snapshot
  refine ⟨after, returned, ?_, ?_⟩
  · intro id
    rw [kept, Dict.get?_set]
    split
    · rfl
    · rename_i different
      rw [records, if_neg different]
  · refine ⟨written.persistent.trans (congrArg Option.isSome persistence), ?_, ?_⟩
    · intro present
      exact written.written (by simpa [persistence] using present)
    · intro otherCollection other different
      rw [written.others otherCollection other different, row, row, persistence]

/-- A scanned update raises for a raw value and changes nothing, or it changes the record. -/
theorem changeScanned_cases (value : PyData)
    (workflowId now : String) (edit : ContextRecord → ContextRecord) :
    (isRawSensitive value = true ∧ ∃ error,
      contextStore.changeScanned store value workflowId now edit =
        (.error error, contextStore)) ∨
    (isRawSensitive value = false ∧ ∃ after,
      contextStore.changeScanned store value workflowId now edit = (.ok (), after) ∧
      Changed store contextStore after workflowId
        { edit (contextStore.current workflowId now) with updatedAt := now }) := by
  unfold changeScanned rejectRawSensitive
  cases scanned : isRawSensitive value with
  | true => exact .inl ⟨rfl, _, rfl⟩
  | false => exact .inr ⟨rfl, change_changed lawful contextStore workflowId now edit⟩

/-- A checkpoint over a lawful backend writes the record and then the row of the checkpoint. -/
theorem checkpoint_written (workflowId checkpointId now : String) :
    ∃ middle after, contextStore.checkpoint store workflowId checkpointId now =
        (.ok (contextStore.current workflowId now).snapshot, after) ∧
      Changed store contextStore middle workflowId
        { contextStore.current workflowId now with
          checkpoints := Dict.setItems checkpointId (contextStore.current workflowId now).snapshot
            (contextStore.current workflowId now).checkpoints
          updatedAt := now } ∧
      after.records = middle.records ∧
      Written store middle after "checkpoints" (checkpointKey workflowId checkpointId)
        (contextStore.current workflowId now).snapshot := by
  unfold checkpoint
  rw [getOrCreate_fst]
  obtain ⟨middle, changed, facts⟩ := change_changed lawful contextStore workflowId now
    fun record => { record with
      checkpoints := Dict.setItems checkpointId (contextStore.current workflowId now).snapshot
        record.checkpoints }
  obtain ⟨after, returned, kept, written⟩ := put_written lawful middle "checkpoints"
    (checkpointKey workflowId checkpointId) (contextStore.current workflowId now).snapshot
  refine ⟨middle, after, ?_, facts, kept, written⟩
  dsimp only
  rw [changed]
  dsimp only
  rw [returned]

/-- A restore raises after it created the record, or it changes the data of the record. -/
theorem restore_cases (contextStore : ContextStore State) (workflowId checkpointId now : String) :
    let current := contextStore.current workflowId now
    let read := PyData.dictField current.checkpoints checkpointId
      (.error (.keyError checkpointId)) >>= restoredData
    (∃ error, read = .error error ∧
      contextStore.restore store workflowId checkpointId now =
        (.error error, (contextStore.getOrCreate workflowId now).2)) ∨
    ∃ data after, read = .ok data ∧
      contextStore.restore store workflowId checkpointId now =
        (.ok { current with toContextData := data, updatedAt := now }.snapshot, after) ∧
      Changed store contextStore after workflowId
        { current with toContextData := data, updatedAt := now } := by
  intro current read
  have record := getOrCreate_fst contextStore workflowId now
  have same := current_getOrCreate contextStore workflowId now
  have transport (after : ContextStore State) (record : ContextRecord) :
      Changed store (contextStore.getOrCreate workflowId now).2 after workflowId record →
        Changed store contextStore after workflowId record := Changed.of_getOrCreate
  unfold restore
  revert record same transport
  rcases contextStore.getOrCreate workflowId now with ⟨found, created⟩
  dsimp only
  rintro rfl same transport
  cases answer : read with
  | error error =>
      left
      refine ⟨error, rfl, ?_⟩
      rw [show (PyData.dictField (contextStore.current workflowId now).checkpoints checkpointId
        (.error (.keyError checkpointId)) >>= restoredData) = .error error from answer]
  | ok data =>
      right
      obtain ⟨after, returned, changed⟩ := change_changed lawful created workflowId now
        fun record => { record with toContextData := data }
      rw [same] at changed
      refine ⟨data, after, rfl, ?_, transport after _ changed⟩
      rw [show (PyData.dictField (contextStore.current workflowId now).checkpoints checkpointId
        (.error (.keyError checkpointId)) >>= restoredData) = .ok data from answer]
      dsimp only
      rw [returned]

end Lawful

end AgentFabric.Collaboration.ContextStore

namespace AgentFabric.Collaboration
open Persistence PyData

namespace ContextCall

def workflowId : ContextCall → String
  | .getOrCreate workflowId | .updateTaskState workflowId _ _ | .putArtifact workflowId _ _
  | .addSummary workflowId _ | .putSanitizedPayload workflowId _ _
  | .putStructuredOutput workflowId _ _ | .addVeilTokenRef workflowId _
  | .updateApprovalState workflowId _ | .checkpoint workflowId _ | .restore workflowId _ =>
      workflowId

/-- The value that the scan of a call goes through. -/
def scanned : ContextCall → Option PyData
  | .updateTaskState _ _ value => some (.dict value)
  | .putArtifact _ key value => some (.dict [(key, value)])
  | .putSanitizedPayload _ _ value => some (.dict value)
  | .putStructuredOutput _ _ value => some (.dict value)
  | .updateApprovalState _ values => some (.dict values)
  | _ => none

/-- The data of a record after an update. -/
def edited : ContextCall → ContextData → ContextData
  | .updateTaskState _ nodeId value, data =>
      { data with taskState := Dict.setItems nodeId (.dict value) data.taskState }
  | .putArtifact _ key value, data =>
      { data with artifacts := Dict.setItems key value data.artifacts }
  | .addSummary _ summary, data => { data with summaries := data.summaries ++ [.str summary] }
  | .putSanitizedPayload _ key value, data =>
      { data with sanitizedPayloads := Dict.setItems key (.dict value) data.sanitizedPayloads }
  | .putStructuredOutput _ key value, data =>
      { data with structuredOutputs := Dict.setItems key (.dict value) data.structuredOutputs }
  | .addVeilTokenRef _ tokenRef, data =>
      { data with veilTokenRefs := data.veilTokenRefs ++ [.str tokenRef] }
  | .updateApprovalState _ values, data =>
      { data with approvalState := PyData.update data.approvalState values }
  | _, data => data

/-- The scan accepts the call. -/
def Accepted (call : ContextCall) : Prop := ∀ value ∈ call.scanned, isRawSensitive value = false

/-- The values and the keys that an accepted call writes have a property. -/
def Admits (value : PyData → Prop) (key : String → Prop) (call : ContextCall) : Prop :=
  call.Accepted → match call with
    | .updateTaskState _ name written => key name ∧ value (.dict written)
    | .putArtifact _ name written => key name ∧ value written
    | .putSanitizedPayload _ name written => key name ∧ value (.dict written)
    | .putStructuredOutput _ name written => key name ∧ value (.dict written)
    | .updateApprovalState _ written => value (.dict written)
    | .checkpoint _ name => key name
    | _ => True

end ContextCall

namespace ContextStore

variable {State : Type} {store : PersistenceStore State}

/-- What a method call does to the store. -/
inductive CallEffect (store : PersistenceStore State) (now : String) (call : ContextCall)
    (before after : ContextStore State) : Prop where
  | refused (same : after = before)
  | created (same : after = (before.getOrCreate call.workflowId now).2)
  | updated (accepted : call.Accepted)
      (changed : Changed store before after call.workflowId
        { before.current call.workflowId now with
          toContextData := call.edited (before.current call.workflowId now).toContextData
          updatedAt := now })
  | restored (checkpointId : String) (snapshot : List (String × PyData)) (data : ContextData)
      (found : field? (before.current call.workflowId now).checkpoints checkpointId =
        some (.dict snapshot))
      (read : restoredData snapshot = .ok data)
      (changed : Changed store before after call.workflowId
        { before.current call.workflowId now with toContextData := data, updatedAt := now })
  | checkpointed (checkpointId : String) (middle : ContextStore State)
      (isCheckpoint : call = .checkpoint call.workflowId checkpointId)
      (changed : Changed store before middle call.workflowId
        { before.current call.workflowId now with
          checkpoints := Dict.setItems checkpointId (before.current call.workflowId now).snapshot
            (before.current call.workflowId now).checkpoints
          updatedAt := now })
      (kept : after.records = middle.records)
      (written : Written store middle after "checkpoints" (checkpointKey call.workflowId checkpointId)
        (before.current call.workflowId now).snapshot)

section Lawful

variable (lawful : store.Lawful) (contextStore : ContextStore State) (now : String)

include lawful

variable (call : ContextCall)

/-- An update without a scan. -/
theorem change_effect (unscanned : call.scanned = none) :
    CallEffect store now call contextStore
      (contextStore.change store call.workflowId now fun record =>
        { record with toContextData := call.edited record.toContextData }).2 := by
  obtain ⟨after, returned, changed⟩ := change_changed lawful contextStore call.workflowId now
    fun record => { record with toContextData := call.edited record.toContextData }
  rw [returned]
  refine .updated ?_ changed
  intro value member
  rw [unscanned] at member
  cases member

/-- An update with a scan. -/
theorem changeScanned_effect (value : PyData) (scanned : call.scanned = some value) :
    CallEffect store now call contextStore
      (contextStore.changeScanned store value call.workflowId now fun record =>
        { record with toContextData := call.edited record.toContextData }).2 := by
  rcases changeScanned_cases lawful contextStore value call.workflowId now
    (fun record => { record with toContextData := call.edited record.toContextData })
    with ⟨_, error, refused⟩ | ⟨clean, after, accepted, changed⟩
  · rw [refused]
    exact .refused rfl
  · rw [accepted]
    refine .updated ?_ changed
    intro other member
    rw [scanned] at member
    obtain rfl := Option.some.inj member
    exact clean

/-- Every method call has one of these effects. -/
theorem call_effect :
    CallEffect store now call contextStore (contextStore.call store now call).2 := by
  cases call with
  | getOrCreate workflowId => exact .created rfl
  | updateTaskState workflowId nodeId value =>
      exact changeScanned_effect lawful contextStore now
        (.updateTaskState workflowId nodeId value) _ rfl
  | putArtifact workflowId key value =>
      exact changeScanned_effect lawful contextStore now (.putArtifact workflowId key value) _ rfl
  | addSummary workflowId summary =>
      exact change_effect lawful contextStore now (.addSummary workflowId summary) rfl
  | putSanitizedPayload workflowId key value =>
      exact changeScanned_effect lawful contextStore now
        (.putSanitizedPayload workflowId key value) _ rfl
  | putStructuredOutput workflowId key value =>
      exact changeScanned_effect lawful contextStore now
        (.putStructuredOutput workflowId key value) _ rfl
  | addVeilTokenRef workflowId tokenRef =>
      exact change_effect lawful contextStore now (.addVeilTokenRef workflowId tokenRef) rfl
  | updateApprovalState workflowId values =>
      exact changeScanned_effect lawful contextStore now (.updateApprovalState workflowId values) _
        rfl
  | checkpoint workflowId checkpointId =>
      obtain ⟨middle, after, returned, changed, kept, written⟩ :=
        checkpoint_written lawful contextStore workflowId checkpointId now
      simp only [ContextStore.call, returned]
      exact .checkpointed checkpointId middle rfl changed kept written
  | restore workflowId checkpointId =>
      rcases restore_cases lawful contextStore workflowId checkpointId now with
        ⟨error, _, raised⟩ | ⟨data, after, read, returned, changed⟩
      · simp only [ContextStore.call, raised]
        exact .created rfl
      · simp only [ContextStore.call, returned]
        obtain ⟨snapshot, found, restored⟩ := bind_eq_ok_iff.mp read
        refine .restored checkpointId snapshot data ?_ restored changed
        unfold dictField at found
        split at found
        · cases found
        · rename_i inner present
          obtain rfl := Except.ok.inj found
          exact present
        · cases found

end Lawful

end ContextStore

/-- All data of a record has a property. -/
structure ContextData.Holds (value : PyData → Prop) (data : ContextData) : Prop where
  conversationState : value (.dict data.conversationState)
  taskState : value (.dict data.taskState)
  artifacts : value (.dict data.artifacts)
  structuredOutputs : value (.dict data.structuredOutputs)
  sanitizedPayloads : value (.dict data.sanitizedPayloads)
  veilTokenRefs : value (.list data.veilTokenRefs)
  approvalState : value (.dict data.approvalState)
  agentVisibleContext : value (.dict data.agentVisibleContext)
  summaries : value (.list data.summaries)

section Holds

variable {value : PyData → Prop} {key : String → Prop} (hereditary : Hereditary value key)

/-- The fields of a snapshot. -/
def snapshotNames : List String := [
  "workflow_id", "conversation_state", "task_state", "artifacts", "structured_outputs",
  "sanitized_payloads", "veil_token_refs", "approval_state", "agent_visible_context", "summaries",
  "checkpoints", "updated_at"]

include hereditary

/-- A snapshot has the property exactly when the data and the checkpoints have it. -/
theorem ContextRecord.snapshot_holds_iff (named : ∀ name ∈ snapshotNames, key name)
    (record : ContextRecord) :
    value record.snapshot ↔
      record.toContextData.Holds value ∧ value (.dict record.checkpoints) := by
  rw [ContextRecord.snapshot, hereditary.dict]
  constructor
  · intro all
    have part (name : String) (found : PyData) (member : (name, found) ∈ record.snapshotFields) :
        value found := (all (name, found) member).2
    exact ⟨⟨part "conversation_state" _ (by simp [snapshotFields]),
      part "task_state" _ (by simp [snapshotFields]),
      part "artifacts" _ (by simp [snapshotFields]),
      part "structured_outputs" _ (by simp [snapshotFields]),
      part "sanitized_payloads" _ (by simp [snapshotFields]),
      part "veil_token_refs" _ (by simp [snapshotFields]),
      part "approval_state" _ (by simp [snapshotFields]),
      part "agent_visible_context" _ (by simp [snapshotFields]),
      part "summaries" _ (by simp [snapshotFields])⟩,
      part "checkpoints" _ (by simp [snapshotFields])⟩
  · rintro ⟨data, checkpoints⟩ field member
    refine ⟨named field.1 (List.mem_map_of_mem (f := Prod.fst) member), ?_⟩
    simp only [snapshotFields, List.mem_cons, List.not_mem_nil, or_false] at member
    rcases member with rfl | rfl | rfl | rfl | rfl | rfl | rfl | rfl | rfl | rfl | rfl | rfl
    · exact hereditary.str _
    · exact data.conversationState
    · exact data.taskState
    · exact data.artifacts
    · exact data.structuredOutputs
    · exact data.sanitizedPayloads
    · exact data.veilTokenRefs
    · exact data.approvalState
    · exact data.agentVisibleContext
    · exact data.summaries
    · exact checkpoints
    · exact hereditary.str _

/-- A new record is empty. -/
theorem ContextRecord.new_holds (workflowId now : String) :
    (ContextRecord.new workflowId now).toContextData.Holds value :=
  ⟨hereditary.dict_nil, hereditary.dict_nil, hereditary.dict_nil, hereditary.dict_nil,
    hereditary.dict_nil, hereditary.list_nil, hereditary.dict_nil, hereditary.dict_nil,
    hereditary.list_nil⟩

variable {data : ContextData}

/-- An accepted update keeps the property. -/
theorem ContextCall.edited_holds (call : ContextCall) (accepted : call.Accepted)
    (admits : call.Admits value key) (holds : data.Holds value) :
    (call.edited data).Holds value := by
  have written := admits accepted
  cases call with
  | updateTaskState workflowId nodeId assigned =>
      exact { holds with taskState := hereditary.setItems holds.taskState written.1 written.2 }
  | putArtifact workflowId name assigned =>
      exact { holds with artifacts := hereditary.setItems holds.artifacts written.1 written.2 }
  | addSummary workflowId summary =>
      exact { holds with summaries := hereditary.append holds.summaries (hereditary.str _) }
  | putSanitizedPayload workflowId name assigned =>
      exact { holds with
        sanitizedPayloads := hereditary.setItems holds.sanitizedPayloads written.1 written.2 }
  | putStructuredOutput workflowId name assigned =>
      exact { holds with
        structuredOutputs := hereditary.setItems holds.structuredOutputs written.1 written.2 }
  | addVeilTokenRef workflowId tokenRef =>
      exact { holds with veilTokenRefs := hereditary.append holds.veilTokenRefs (hereditary.str _) }
  | updateApprovalState workflowId values =>
      exact { holds with approvalState := hereditary.update holds.approvalState written }
  | getOrCreate workflowId => exact holds
  | checkpoint workflowId checkpointId => exact holds
  | restore workflowId checkpointId => exact holds

/-- The data of a restore has the property of the snapshot. -/
theorem restoredData_holds {snapshot : List (String × PyData)} (holds : value (.dict snapshot))
    (read : restoredData snapshot = .ok data) : data.Holds value := by
  have dict (name : String) (default : Except PyError (List (String × PyData)))
      (fallback : ∀ inner, default = .ok inner → inner = []) (inner : List (String × PyData))
      (found : dictField snapshot name default = .ok inner) : value (.dict inner) :=
    hereditary.dictField holds (fun given => fallback inner given ▸ hereditary.dict_nil) found
  have list (name : String) (default : Except PyError (List PyData))
      (fallback : ∀ inner, default = .ok inner → inner = []) (inner : List PyData)
      (found : listField snapshot name default = .ok inner) : value (.list inner) :=
    hereditary.listField holds (fun given => fallback inner given ▸ hereditary.list_nil) found
  unfold restoredData at read
  obtain ⟨_, conversationState, read⟩ := bind_eq_ok_iff.mp read
  obtain ⟨_, taskState, read⟩ := bind_eq_ok_iff.mp read
  obtain ⟨_, artifacts, read⟩ := bind_eq_ok_iff.mp read
  obtain ⟨_, structuredOutputs, read⟩ := bind_eq_ok_iff.mp read
  obtain ⟨_, sanitizedPayloads, read⟩ := bind_eq_ok_iff.mp read
  obtain ⟨_, veilTokenRefs, read⟩ := bind_eq_ok_iff.mp read
  obtain ⟨_, approvalState, read⟩ := bind_eq_ok_iff.mp read
  obtain ⟨_, agentVisibleContext, read⟩ := bind_eq_ok_iff.mp read
  obtain ⟨_, summaries, read⟩ := bind_eq_ok_iff.mp read
  obtain rfl := Except.ok.inj read
  have required {Value : Type} {error : PyError} (inner : List Value)
      (given : (.error error : Except PyError (List Value)) = .ok inner) : inner = [] := by
    cases given
  have optional {Value : Type} (inner : List Value)
      (given : (.ok [] : Except PyError (List Value)) = .ok inner) : inner = [] :=
    (Except.ok.inj given).symm
  exact ⟨dict _ _ required _ conversationState, dict _ _ required _ taskState,
    dict _ _ required _ artifacts, dict _ _ optional _ structuredOutputs,
    dict _ _ optional _ sanitizedPayloads, list _ _ optional _ veilTokenRefs,
    dict _ _ optional _ approvalState, dict _ _ optional _ agentVisibleContext,
    list _ _ required _ summaries⟩

end Holds

section Sound

variable {State : Type} {store : PersistenceStore State} {value : PyData → Prop}
  {key : String → Prop} {kept : String → List (String × PyData) → Prop}
  {before after : ContextStore State} {workflowId now : String} {record : ContextRecord}

/-- A record of its workflow, whose values and whose checkpoints have a property. -/
structure Good (value : PyData → Prop) (kept : String → List (String × PyData) → Prop)
    (id : String) (record : ContextRecord) : Prop where
  workflowId : record.workflowId = id
  data : record.toContextData.Holds value
  checkpoints : value (.dict record.checkpoints)
  kept : kept id record.checkpoints

/-- Every record is good, and so is every record that was written. -/
structure Sound (store : PersistenceStore State) (value : PyData → Prop)
    (kept : String → List (String × PyData) → Prop) (contextStore : ContextStore State) : Prop where
  records : ∀ id record, contextStore.records.get? id = some record → Good value kept id record
  rows : ∀ collection id document, contextStore.row store collection id = some document →
    ∃ written : PyData, document.Same written.toJson ∧ value written ∧
      (collection = "shared_context" → ∃ record : ContextRecord,
        written = record.snapshot ∧ Good value kept id record)

theorem Good.imp {earlier : String → List (String × PyData) → Prop} {id : String}
    (good : Good value earlier id record)
    (implies : earlier id record.checkpoints → kept id record.checkpoints) :
    Good value kept id record :=
  ⟨good.workflowId, good.data, good.checkpoints, implies good.kept⟩

/-- A new store has no records and no rows. -/
theorem initial_sound (lawful : store.Lawful) (persistent : Bool) :
    Sound store value kept (ContextStore.initial store persistent) := by
  refine ⟨?_, ?_⟩
  · intro id record found
    cases found
  · intro collection id document found
    cases persistent with
    | false => cases found
    | true => cases (lawful.get_initial collection id).symm.trans found

namespace Sound

section

variable (sound : Sound store value kept before)
include sound

/-- A new record may stand for a missing one. -/
theorem current (hereditary : Hereditary value key)
    (fresh : before.records.get? workflowId = none → kept workflowId []) (now : String) :
    Good value kept workflowId (before.current workflowId now) := by
  unfold ContextStore.current
  cases found : before.records.get? workflowId with
  | some record => exact sound.records workflowId record found
  | none =>
      exact ⟨rfl, ContextRecord.new_holds hereditary workflowId now, hereditary.dict_nil,
        fresh found⟩

/-- A good record in memory keeps the store sound. -/
theorem assigned (assigned : ContextStore.Assigned before after workflowId record)
    (persistence : after.persistence = before.persistence)
    (good : Good value kept workflowId record) : Sound store value kept after := by
  refine ⟨assigned.forall good fun id found _ => sound.records id found, ?_⟩
  intro collection id document found
  rw [ContextStore.row, persistence] at found
  exact sound.rows collection id document found

theorem created (good : Good value kept workflowId (before.current workflowId now)) :
    Sound store value kept (before.getOrCreate workflowId now).2 :=
  sound.assigned (before.getOrCreate_assigned workflowId now)
    (before.getOrCreate_persistence workflowId now) good

end

variable {earlier : String → List (String × PyData) → Prop}

/-- A written row keeps the rows sound, also when the others have another property. -/
theorem rows_written
    (sound : Sound store value earlier before) {collection name : String} {document : PyData}
    (written : ContextStore.Written store before after collection name document)
    (holds : value document)
    (good : collection = "shared_context" → ∃ record : ContextRecord,
      document = record.snapshot ∧ Good value kept name record)
    (others : ∀ id checkpoints, ("shared_context", id) ≠ (collection, name) →
      earlier id checkpoints → kept id checkpoints) :
    ∀ collection id document, after.row store collection id = some document →
      ∃ written : PyData, document.Same written.toJson ∧ value written ∧
        (collection = "shared_context" → ∃ record : ContextRecord,
          written = record.snapshot ∧ Good value kept id record) := by
  intro otherCollection id found stored
  by_cases same : (otherCollection, id) = (collection, name)
  · obtain ⟨rfl, rfl⟩ := Prod.mk.inj same
    have persistent : before.persistence.isSome := by
      rw [← written.persistent]
      obtain ⟨state, present, _⟩ := Option.bind_eq_some_iff.mp stored
      rw [present]
      rfl
    obtain ⟨read, present, document⟩ := written.written persistent
    obtain rfl := Option.some.inj (present.symm.trans stored)
    exact ⟨_, document, holds, good⟩
  · rw [written.others otherCollection id same] at stored
    obtain ⟨value, document, facts, owned⟩ := sound.rows otherCollection id found stored
    refine ⟨value, document, facts, ?_⟩
    rintro rfl
    obtain ⟨record, isSnapshot, old⟩ := owned rfl
    exact ⟨record, isSnapshot, old.imp (others id _ same)⟩

/-- A change to a good record makes the store sound when the other records are. -/
theorem replaced (sound : Sound store value earlier before) (hereditary : Hereditary value key)
    (named : ∀ name ∈ snapshotNames, key name)
    (others : ∀ id checkpoints, id ≠ workflowId → earlier id checkpoints → kept id checkpoints)
    (changed : ContextStore.Changed store before after workflowId record)
    (good : Good value kept workflowId record) : Sound store value kept after := by
  have owner := good.workflowId
  refine ⟨?_, sound.rows_written changed.rows
    ((record.snapshot_holds_iff hereditary named).mpr ⟨good.data, good.checkpoints⟩) ?_ ?_⟩
  · refine ContextStore.Assigned.forall changed.records good ?_
    intro id found different present
    exact (sound.records id found present).imp (others id _ different)
  · intro _
    exact ⟨record, rfl, owner.symm ▸ good⟩
  · intro id checkpoints different
    refine others id checkpoints fun same => different ?_
    rw [same, owner]

section

variable (sound : Sound store value kept before)
include sound

/-- A change to a good record keeps the store sound. -/
theorem changed (hereditary : Hereditary value key) (named : ∀ name ∈ snapshotNames, key name)
    (changed : ContextStore.Changed store before after workflowId record)
    (good : Good value kept workflowId record) : Sound store value kept after :=
  sound.replaced hereditary named (fun _ _ _ holds => holds) changed good

/-- The row of a checkpoint keeps the store sound. -/
theorem checkpointed {name : String} {snapshot : PyData} (records : after.records = before.records)
    (written : ContextStore.Written store before after "checkpoints" name snapshot)
    (holds : value snapshot) : Sound store value kept after := by
  refine ⟨?_, sound.rows_written written holds (fun same => absurd same (by decide))
    fun _ _ _ holds => holds⟩
  intro id record found
  rw [records] at found
  exact sound.records id record found

/-- A change to a live record with good data keeps the store sound. -/
theorem edit {data : ContextData}
    (good : Good value kept workflowId (before.current workflowId now)) (holds : data.Holds value) :
    Sound store value kept (before.edit workflowId data now) :=
  sound.assigned (before.edit_assigned workflowId data now)
    (before.edit_persistence workflowId data now)
    ⟨good.workflowId, holds, good.checkpoints, good.kept⟩

end

variable (lawful : store.Lawful) (hereditary : Hereditary value key)
  (named : ∀ name ∈ snapshotNames, key name)

include lawful hereditary named

/-- Every method call that writes admitted values keeps the store sound. -/
theorem call (sound : Sound store value kept before) (call : ContextCall)
    (admits : call.Admits value key)
    (fresh : before.records.get? call.workflowId = none → kept call.workflowId [])
    (adds : ∀ checkpointId snapshot checkpoints,
      call = .checkpoint call.workflowId checkpointId → kept call.workflowId checkpoints →
        kept call.workflowId (Dict.setItems checkpointId snapshot checkpoints)) :
    Sound store value kept (before.call store now call).2 := by
  have good := sound.current hereditary fresh now
  have effect := ContextStore.call_effect lawful before now call
  generalize (before.call store now call).2 = after at effect
  cases effect with
  | refused same => exact same ▸ sound
  | created same => exact same ▸ sound.created good
  | updated accepted changed =>
      exact sound.changed hereditary named changed ⟨good.workflowId,
        call.edited_holds hereditary accepted admits good.data, good.checkpoints, good.kept⟩
  | restored checkpointId snapshot data found read changed =>
      have holds : value (.dict snapshot) := hereditary.field? good.checkpoints found
      exact sound.changed hereditary named changed ⟨good.workflowId,
        restoredData_holds hereditary holds read, good.checkpoints, good.kept⟩
  | checkpointed checkpointId middle isCheckpoint changed records written =>
      have holds := ((before.current call.workflowId now).snapshot_holds_iff hereditary named).mpr
        ⟨good.data, good.checkpoints⟩
      have ownName : key checkpointId := by
        rw [isCheckpoint] at admits
        exact admits (fun _ member => by cases member)
      exact (sound.changed hereditary named changed ⟨good.workflowId, good.data,
        hereditary.setItems good.checkpoints ownName holds,
        adds _ _ _ isCheckpoint good.kept⟩).checkpointed records written holds

end Sound

end Sound

end AgentFabric.Collaboration
