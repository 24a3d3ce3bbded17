import AgentFabric.Foundation.Transition
import AgentFabric.Proof.Collaboration.ContextInvariants

namespace AgentFabric.Collaboration
open Persistence PyData ContextStore MemoryPersistenceStore

/-- The data of two records is equal, where the order of dict keys does not count. -/
structure ContextData.Equal (first second : ContextData) : Prop where
  conversationState : (PyData.dict first.conversationState).Equal (.dict second.conversationState)
  taskState : (PyData.dict first.taskState).Equal (.dict second.taskState)
  artifacts : (PyData.dict first.artifacts).Equal (.dict second.artifacts)
  structuredOutputs : (PyData.dict first.structuredOutputs).Equal (.dict second.structuredOutputs)
  sanitizedPayloads : (PyData.dict first.sanitizedPayloads).Equal (.dict second.sanitizedPayloads)
  veilTokenRefs : (PyData.list first.veilTokenRefs).Equal (.list second.veilTokenRefs)
  approvalState : (PyData.dict first.approvalState).Equal (.dict second.approvalState)
  agentVisibleContext :
    (PyData.dict first.agentVisibleContext).Equal (.dict second.agentVisibleContext)
  summaries : (PyData.list first.summaries).Equal (.list second.summaries)

/-- Equal data has the property of JSON values. -/
theorem ContextData.Equal.holds {first second : ContextData} (equal : first.Equal second) :
    first.Holds IsJson :=
  ⟨equal.conversationState.left, equal.taskState.left, equal.artifacts.left,
    equal.structuredOutputs.left, equal.sanitizedPayloads.left, equal.veilTokenRefs.left,
    equal.approvalState.left, equal.agentVisibleContext.left, equal.summaries.left⟩

/-- The data stands under its names in the fields of a snapshot. -/
structure ContextData.Stored (data : ContextData) (fields : List (String × PyData)) : Prop where
  conversationState : field? fields "conversation_state" = some (.dict data.conversationState)
  taskState : field? fields "task_state" = some (.dict data.taskState)
  artifacts : field? fields "artifacts" = some (.dict data.artifacts)
  structuredOutputs : field? fields "structured_outputs" = some (.dict data.structuredOutputs)
  sanitizedPayloads : field? fields "sanitized_payloads" = some (.dict data.sanitizedPayloads)
  veilTokenRefs : field? fields "veil_token_refs" = some (.list data.veilTokenRefs)
  approvalState : field? fields "approval_state" = some (.dict data.approvalState)
  agentVisibleContext : field? fields "agent_visible_context" = some (.dict data.agentVisibleContext)
  summaries : field? fields "summaries" = some (.list data.summaries)

section Readers

variable {record : ContextRecord} {fields : List (String × PyData)}

/-- An equal snapshot stores equal data. -/
theorem stored_of_equal (equal : (PyData.dict fields).Equal record.snapshot) :
    ∃ data : ContextData, data.Stored fields ∧ data.Equal record.toContextData := by
  obtain ⟨conversationState, foundConversation, equalConversation⟩ :=
    equal.dict "conversation_state" rfl
  obtain ⟨taskState, foundTask, equalTask⟩ := equal.dict "task_state" rfl
  obtain ⟨artifacts, foundArtifacts, equalArtifacts⟩ := equal.dict "artifacts" rfl
  obtain ⟨structuredOutputs, foundOutputs, equalOutputs⟩ := equal.dict "structured_outputs" rfl
  obtain ⟨sanitizedPayloads, foundPayloads, equalPayloads⟩ := equal.dict "sanitized_payloads" rfl
  obtain ⟨veilTokenRefs, foundRefs, equalRefs⟩ := equal.list "veil_token_refs" rfl
  obtain ⟨approvalState, foundApproval, equalApproval⟩ := equal.dict "approval_state" rfl
  obtain ⟨agentVisibleContext, foundVisible, equalVisible⟩ := equal.dict "agent_visible_context" rfl
  obtain ⟨summaries, foundSummaries, equalSummaries⟩ := equal.list "summaries" rfl
  exact ⟨{ conversationState, taskState, artifacts, structuredOutputs, sanitizedPayloads,
           veilTokenRefs, approvalState, agentVisibleContext, summaries },
    ⟨foundConversation, foundTask, foundArtifacts, foundOutputs, foundPayloads, foundRefs,
      foundApproval, foundVisible, foundSummaries⟩,
    ⟨equalConversation, equalTask, equalArtifacts, equalOutputs, equalPayloads, equalRefs,
      equalApproval, equalVisible, equalSummaries⟩⟩

variable {data : ContextData}

/-- A restore reads the stored data. -/
theorem ContextData.Stored.restoredData (stored : data.Stored fields) :
    Collaboration.restoredData fields = .ok data := by
  simp [Collaboration.restoredData, dictField, listField, stored.conversationState,
    stored.taskState, stored.artifacts, stored.structuredOutputs, stored.sanitizedPayloads,
    stored.veilTokenRefs, stored.approvalState, stored.agentVisibleContext, stored.summaries, bind,
    Except.bind]

/-- A restart reads the stored data and the checkpoints. -/
theorem ContextData.Stored.recordFromSnapshot (stored : data.Stored fields)
    {workflowId : String} {checkpoints : List (String × PyData)}
    (owner : field? fields "workflow_id" = some (.str workflowId))
    (saved : field? fields "checkpoints" = some (.dict checkpoints)) (isPrintable : Char → Bool)
    (now : String) :
    Collaboration.recordFromSnapshot isPrintable now fields =
      .ok { data with workflowId, checkpoints, updatedAt := now } := by
  simp [Collaboration.recordFromSnapshot, dictField, listField, stored.conversationState,
    stored.taskState, stored.artifacts, stored.structuredOutputs, stored.sanitizedPayloads,
    stored.veilTokenRefs, stored.approvalState, stored.agentVisibleContext, stored.summaries, owner,
    saved, PyData.text, bind, Except.bind]

end Readers

section Reload

variable {State : Type} {store : PersistenceStore State}
  {kept : String → List (String × PyData) → Prop} {before : ContextStore State}

/-- The property of checkpoints does not depend on the order of keys. -/
def Stable (kept : String → List (String × PyData) → Prop) : Prop :=
  ∀ id checkpoints others, (PyData.dict others).Equal (.dict checkpoints) → kept id checkpoints →
    kept id others

theorem snapshot_isJson_iff (record : ContextRecord) :
    record.snapshot.IsJson ↔
      record.toContextData.Holds IsJson ∧ (PyData.dict record.checkpoints).IsJson :=
  record.snapshot_holds_iff hereditary_isJson fun _ _ => trivial

/-- A restart reads a good record from the row of a good record. -/
theorem Good.read {id : String} {record : ContextRecord} (good : Good IsJson kept id record)
    (stable : Stable kept) {document : Json} (same : document.Same record.snapshot.toJson)
    (isPrintable : Char → Bool) (now : String) :
    ∃ read, (rowFields document >>= recordFromSnapshot isPrintable now) = .ok read ∧
      Good IsJson kept id read := by
  have equal := equal_ofJson ((snapshot_isJson_iff record).mpr ⟨good.data, good.checkpoints⟩) same
  obtain ⟨fields, isDict⟩ := equal.eq_dict
  rw [isDict] at equal
  obtain ⟨data, stored, dataEqual⟩ := stored_of_equal equal
  obtain ⟨checkpoints, saved, checkpointsEqual⟩ := equal.dict "checkpoints" rfl
  have read := stored.recordFromSnapshot (equal.str "workflow_id" rfl) saved isPrintable now
  have fieldsRead : rowFields document = .ok fields := by rw [rowFields, isDict]
  refine ⟨{ data with workflowId := record.workflowId, checkpoints, updatedAt := now }, ?_,
    good.workflowId, dataEqual.holds, checkpointsEqual.left,
    stable id _ _ checkpointsEqual good.kept⟩
  rw [fieldsRead]
  exact read

/-- A restart has the records that it reads from the rows. -/
theorem new_reads {state : State} {rows : List (String × Json)}
    (listed : store.list state "shared_context" = rows.map Prod.snd)
    (distinct : (rows.map Prod.fst).Nodup) (isPrintable : Char → Bool) (now : String)
    (good : ∀ row ∈ rows, ∃ read,
      (rowFields row.2 >>= recordFromSnapshot isPrintable now) = .ok read ∧
        Good IsJson kept row.1 read) :
    ∃ records, ContextStore.new store isPrintable now (some state) = .ok ⟨some state, records⟩ ∧
      (∀ id record, records.get? id = some record → Good IsJson kept id record) ∧
      ∀ row ∈ rows, ∃ record, records.get? row.1 = some record := by
  have aligned : List.Forall₂ (fun (document : Json) (row : String × Json) =>
      document = row.2 ∧ row ∈ rows) (rows.map Prod.snd) rows := by
    rw [List.forall₂_map_left_iff, List.forall₂_same]
    exact fun row member => ⟨rfl, member⟩
  obtain ⟨records, read, owned⟩ := Aligned.mapM_forall₂
    (fun document => rowFields document >>= recordFromSnapshot isPrintable now)
    (fun record row => Good IsJson kept row.1 record)
    (by
      rintro _ row ⟨rfl, member⟩
      exact good row member) aligned
  have ids : records.map ContextRecord.workflowId = rows.map Prod.fst :=
    (Aligned.map_eq_map_iff_forall₂ _ _ _ _).mpr (owned.imp fun _ _ facts => facts.workflowId)
  have keys : (records.map fun record => (record.workflowId, record)).map Prod.fst =
      records.map ContextRecord.workflowId := by
    rw [List.map_map]
    rfl
  refine ⟨Dict.empty.setAll (records.map fun record => (record.workflowId, record)), ?_, ?_, ?_⟩
  · simp only [ContextStore.new, listed]
    rw [read]
    rfl
  · intro id record found
    rcases Dict.mem_setAll _ _ _ ((Dict.get?_eq_some_iff _ _ _).mp found) with old | assigned
    · cases old
    · obtain ⟨source, member, same⟩ := List.mem_map.mp assigned
      obtain ⟨rfl, rfl⟩ := Prod.mk.inj same
      obtain ⟨row, _, facts⟩ := Aligned.exists_related owned.flip source member
      exact facts.workflowId.symm ▸ facts
  · intro row member
    obtain ⟨record, inside, facts⟩ := Aligned.exists_related owned row member
    refine ⟨record, ?_⟩
    rw [← facts.workflowId]
    refine Dict.get?_setAll_of_mem _ _ ?_ _ (List.mem_map_of_mem inside)
    rw [keys, ids]
    exact distinct

/-- A restart returns, keeps the rows and has a record for each row. -/
theorem Sound.reload (lawful : store.Lawful) (sound : Sound store IsJson kept before)
    (stable : Stable kept) (isPrintable : Char → Bool) (now : String) :
    ∃ after, before.reload store isPrintable now = (.ok (), after) ∧
      after.persistence = before.persistence ∧ Sound store IsJson kept after ∧
      ∀ id, (∃ document, before.row store "shared_context" id = some document) ∨
        (before.persistence = none ∧ ∃ record, before.records.get? id = some record) →
          ∃ record, after.records.get? id = some record := by
  unfold ContextStore.reload
  cases persistence : before.persistence with
  | none =>
      refine ⟨before, rfl, persistence, sound, ?_⟩
      rintro id (⟨document, found⟩ | ⟨_, known⟩)
      · simp [ContextStore.row, persistence] at found
      · exact known
  | some state =>
      obtain ⟨rows, listed, increasing, exact⟩ := lawful.list_rows state "shared_context"
      have stored (row : String × Json) :
          row ∈ rows ↔ before.row store "shared_context" row.1 = some row.2 := by
        rw [exact, ContextStore.row, persistence]
        rfl
      have readable (row : String × Json) (member : row ∈ rows) : ∃ read,
          (rowFields row.2 >>= recordFromSnapshot isPrintable now) = .ok read ∧
            Good IsJson kept row.1 read := by
        obtain ⟨written, same, _, owned⟩ := sound.rows _ _ _ ((stored row).mp member)
        obtain ⟨record, rfl, good⟩ := owned rfl
        exact good.read stable same isPrintable now
      obtain ⟨records, read, good, present⟩ := new_reads listed (increasing.imp ne_of_lt) isPrintable
        now readable
      refine ⟨⟨some state, records⟩, ?_, rfl, ⟨good, ?_⟩, ?_⟩
      · dsimp only
        rw [read]
      · intro collection id document found
        refine sound.rows collection id document ?_
        rw [ContextStore.row, persistence]
        exact found
      · rintro id (⟨document, found⟩ | ⟨impossible, _⟩)
        · exact present (id, document) ((stored (id, document)).mpr found)
        · cases impossible

end Reload

/-- The values of an event are JSON values. -/
def ContextEvent.IsJson : ContextEvent → Prop
  | .call made => ∀ value ∈ made.scanned, value.IsJson
  | .edit _ data => data.Holds PyData.IsJson
  | .reload => True

/-- A call with JSON values writes JSON values. -/
theorem ContextCall.admits_isJson (call : ContextCall)
    (json : ∀ value ∈ call.scanned, value.IsJson) : call.Admits PyData.IsJson fun _ => True := by
  intro _
  cases call with
  | updateTaskState workflowId nodeId value => exact ⟨trivial, json _ rfl⟩
  | putArtifact workflowId key value =>
      exact ⟨trivial, ((isJson_dict_iff _).mp (json _ rfl) (key, value) (.head _))⟩
  | putSanitizedPayload workflowId key value => exact ⟨trivial, json _ rfl⟩
  | putStructuredOutput workflowId key value => exact ⟨trivial, json _ rfl⟩
  | updateApprovalState workflowId values => exact json _ rfl
  | _ => trivial

section Events

variable {State : Type} {store : PersistenceStore State}
  {kept : String → List (String × PyData) → Prop} {before after : ContextStore State}

/-- Every event with JSON values keeps a sound store sound. -/
theorem Sound.step (lawful : store.Lawful) (sound : Sound store IsJson kept before)
    (stable : Stable kept) (isPrintable : Char → Bool) (event : ContextEvent × String)
    (json : event.1.IsJson)
    (fresh : ∀ id, before.records.get? id = none → kept id [])
    (adds : ∀ id checkpointId snapshot checkpoints,
      event.1 = .call (.checkpoint id checkpointId) → kept id checkpoints →
        kept id (Dict.setItems checkpointId snapshot checkpoints)) :
    Sound store IsJson kept (before.step store isPrintable event).2 := by
  obtain ⟨kind, now⟩ := event
  cases kind with
  | call call =>
      refine sound.call lawful hereditary_isJson (fun _ _ => trivial) call (call.admits_isJson json)
        (fresh _) ?_
      intro checkpointId snapshot checkpoints isCheckpoint
      exact adds _ _ _ _ (congrArg ContextEvent.call isCheckpoint)
  | edit workflowId data =>
      exact sound.edit (sound.current hereditary_isJson (fresh workflowId) now) json
  | reload =>
      obtain ⟨next, returned, _, reloaded, _⟩ := sound.reload lawful stable isPrintable now
      simp only [ContextStore.step, returned]
      exact reloaded

/-- The record of a workflow is in memory, and in its row when the store has a persistence. -/
structure Present (store : PersistenceStore State) (workflowId : String)
    (contextStore : ContextStore State) : Prop where
  record : ∃ record, contextStore.records.get? workflowId = some record
  stored : contextStore.persistence.isSome →
    ∃ document, contextStore.row store "shared_context" workflowId = some document

namespace Present

variable {workflowId : String}

theorem of_written (present : Present store workflowId before) {collection name : String}
    {document : PyData} (written : ContextStore.Written store before after collection name document)
    (record : ∃ record, after.records.get? workflowId = some record) :
    Present store workflowId after := by
  refine ⟨record, ?_⟩
  intro persistent
  rw [written.persistent] at persistent
  by_cases same : ("shared_context", workflowId) = (collection, name)
  · obtain ⟨rfl, rfl⟩ := Prod.mk.inj same
    obtain ⟨read, found, _⟩ := written.written persistent
    exact ⟨read, found⟩
  · rw [written.others _ _ same]
    exact present.stored persistent

variable {record : ContextRecord}

/-- A record in memory keeps the record present. -/
theorem assigned (present : Present store workflowId before) {id : String}
    (assigned : ContextStore.Assigned before after id record)
    (persistence : after.persistence = before.persistence) : Present store workflowId after := by
  refine ⟨assigned.exists present.record, ?_⟩
  rw [ContextStore.row, persistence]
  exact present.stored

theorem changed (present : Present store workflowId before) {id : String}
    (changed : ContextStore.Changed store before after id record) :
    Present store workflowId after :=
  present.of_written changed.rows (ContextStore.Assigned.exists changed.records present.record)

/-- A method call keeps the record present. -/
theorem call (lawful : store.Lawful) (present : Present store workflowId before) (now : String)
    (call : ContextCall) : Present store workflowId (before.call store now call).2 := by
  have effect := call_effect lawful before now call
  generalize (before.call store now call).2 = after at effect
  cases effect with
  | refused same => exact same ▸ present
  | created same =>
      exact same ▸ present.assigned (before.getOrCreate_assigned call.workflowId now)
        (before.getOrCreate_persistence call.workflowId now)
  | updated accepted changed => exact present.changed changed
  | restored checkpointId snapshot data found read changed => exact present.changed changed
  | checkpointed checkpointId middle isCheckpoint changed records written =>
      have between := present.changed changed
      exact between.of_written written (records ▸ between.record)

/-- Every event keeps the record present in a sound store. -/
theorem step (lawful : store.Lawful) (present : Present store workflowId before)
    (sound : Sound store IsJson kept before) (stable : Stable kept) (isPrintable : Char → Bool)
    (event : ContextEvent × String) :
    Present store workflowId (before.step store isPrintable event).2 := by
  obtain ⟨kind, now⟩ := event
  cases kind with
  | call call => exact present.call lawful now call
  | edit id data =>
      exact present.assigned (before.edit_assigned id data now) (before.edit_persistence id data now)
  | reload =>
      obtain ⟨next, returned, persistence, _, records⟩ := sound.reload lawful stable isPrintable now
      simp only [ContextStore.step, returned]
      refine ⟨records workflowId ?_, ?_⟩
      · cases none : before.persistence with
        | none => exact .inr ⟨rfl, present.record⟩
        | some state => exact .inl (present.stored (by rw [none]; rfl))
      · rw [ContextStore.row, persistence]
        exact present.stored

end Present

end Events

section Restore

variable {State : Type} {store : PersistenceStore State} (isPrintable : Char → Bool)

variable (store) in
/-- The store after a sequence of events. -/
def ContextStore.after (contextStore : ContextStore State) (events : List (ContextEvent × String)) :
    ContextStore State :=
  Transition.run (ContextStore.step store isPrintable) contextStore events

/-- Every store that JSON values reach is sound. -/
theorem after_sound (lawful : store.Lawful) (persistent : Bool)
    (events : List (ContextEvent × String)) (json : ∀ event ∈ events, event.1.IsJson) :
    Sound store IsJson (fun _ _ => True)
      ((ContextStore.initial store persistent).after store isPrintable events) := by
  refine Transition.run_invariant_of_guarded _ (fun _ event => event.1.IsJson) _ ?_ _ events
    (initial_sound lawful persistent) (Transition.guarded_of_forall _ _ _ _ json)
  intro contextStore event sound json
  exact sound.step lawful (fun _ _ _ _ _ => trivial) isPrintable event json (fun _ _ => trivial)
    fun _ _ _ _ _ _ => trivial

variable (workflowId checkpointId : String) (snapshot : PyData)

/-- The checkpoints of a workflow hold a value that is equal to its snapshot. -/
def KeepsCheckpoint (id : String) (checkpoints : List (String × PyData)) : Prop :=
  id = workflowId → ∃ saved, field? checkpoints checkpointId = some saved ∧ saved.Equal snapshot

theorem keepsCheckpoint_stable : Stable (KeepsCheckpoint workflowId checkpointId snapshot) := by
  intro id checkpoints others equal keeps own
  obtain ⟨saved, found, same⟩ := keeps own
  obtain ⟨read, present, readSame⟩ := equal.field? checkpointId found
  exact ⟨read, present, readSame.trans same⟩

variable {before : ContextStore State}

/-- After a checkpoint every event with JSON values keeps it, unless it makes it again. -/
theorem after_keepsCheckpoint (lawful : store.Lawful)
    (workflowId checkpointId : String) (snapshot : PyData)
    (sound : Sound store IsJson (KeepsCheckpoint workflowId checkpointId snapshot) before)
    (present : Present store workflowId before) (events : List (ContextEvent × String))
    (json : ∀ event ∈ events, event.1.IsJson)
    (others : ∀ event ∈ events, event.1 ≠ .call (.checkpoint workflowId checkpointId)) :
    Sound store IsJson (KeepsCheckpoint workflowId checkpointId snapshot)
        (before.after store isPrintable events) ∧
      Present store workflowId (before.after store isPrintable events) := by
  refine Transition.run_invariant_of_guarded _ (fun _ event => event.1.IsJson ∧
      event.1 ≠ .call (.checkpoint workflowId checkpointId))
    (fun contextStore => Sound store IsJson (KeepsCheckpoint workflowId checkpointId snapshot)
      contextStore ∧ Present store workflowId contextStore) ?_ _ events ⟨sound, present⟩
    (Transition.guarded_of_forall _ _ _ _ fun event member => ⟨json event member, others event member⟩)
  rintro contextStore event ⟨sound, present⟩ ⟨json, other⟩
  have stable := keepsCheckpoint_stable workflowId checkpointId snapshot
  refine ⟨sound.step lawful stable isPrintable event json ?_ ?_,
    present.step lawful sound stable isPrintable event⟩
  · rintro id missing rfl
    obtain ⟨record, known⟩ := present.record
    cases missing.symm.trans known
  · rintro id otherId value checkpoints isCheckpoint keeps rfl
    obtain ⟨saved, found, same⟩ := keeps rfl
    refine ⟨saved, ?_, same⟩
    rw [field?_setItems, if_neg]
    · exact found
    · rintro rfl
      exact other isCheckpoint

/-- A checkpoint keeps itself. -/
theorem checkpoint_keepsCheckpoint (lawful : store.Lawful)
    (sound : Sound store IsJson (fun _ _ => True) before) (workflowId checkpointId now : String) :
    let after := (before.checkpoint store workflowId checkpointId now).2
    let snapshot := (before.current workflowId now).snapshot
    Sound store IsJson (KeepsCheckpoint workflowId checkpointId snapshot) after ∧
      Present store workflowId after := by
  have good : Good IsJson (fun _ _ => True) workflowId (before.current workflowId now) :=
    sound.current hereditary_isJson (fun _ => trivial) now
  have json := (snapshot_isJson_iff (before.current workflowId now)).mpr
    ⟨good.data, good.checkpoints⟩
  obtain ⟨middle, after, returned, changed, kept, written⟩ :=
    checkpoint_written lawful before workflowId checkpointId now
  rw [returned]
  dsimp only
  have replaced : Sound store IsJson
      (KeepsCheckpoint workflowId checkpointId (before.current workflowId now).snapshot) middle :=
    sound.replaced hereditary_isJson (fun _ _ => trivial)
    (fun id _ different _ own => absurd own different) changed
    ⟨good.workflowId, good.data, hereditary_isJson.setItems good.checkpoints trivial json,
      fun _ => ⟨_, by rw [field?_setItems, if_pos rfl], Equal.refl json⟩⟩
  have present : Present store workflowId middle := by
    refine ⟨⟨_, (changed.records workflowId).trans (if_pos rfl)⟩, ?_⟩
    intro persistent
    rw [changed.rows.persistent] at persistent
    obtain ⟨read, found, _⟩ := changed.rows.written persistent
    exact ⟨read, good.workflowId ▸ found⟩
  exact ⟨replaced.checkpointed kept written json,
    present.of_written written (kept ▸ present.record)⟩

/-- A checkpoint is restored with its data after any events, as long as it is not made again, and the
restore leaves the other records alone. -/
theorem restore_returns_checkpoint (lawful : store.Lawful) (persistent : Bool)
    (earlier later : List (ContextEvent × String))
    (workflowId checkpointId savedAt restoredAt : String)
    (json : ∀ event ∈ earlier ++ later, event.1.IsJson)
    (others : ∀ event ∈ later, event.1 ≠ .call (.checkpoint workflowId checkpointId)) :
    let before := (ContextStore.initial store persistent).after store isPrintable earlier
    let saved := (before.checkpoint store workflowId checkpointId savedAt).2
    let last := saved.after store isPrintable later
    ∃ record after, last.restore store workflowId checkpointId restoredAt =
        (.ok record.snapshot, after) ∧
      after.records.get? workflowId = some record ∧
      record.toContextData.Equal (before.current workflowId savedAt).toContextData ∧
      (∀ id, id ≠ workflowId → after.records.get? id = last.records.get? id) ∧
      ∀ collection id, (collection, id) ≠ ("shared_context", workflowId) →
        after.row store collection id = last.row store collection id := by
  intro before saved last
  have sound := after_sound isPrintable lawful persistent earlier fun event member =>
    json event (List.mem_append_left _ member)
  obtain ⟨savedSound, savedPresent⟩ :=
    checkpoint_keepsCheckpoint lawful sound workflowId checkpointId savedAt
  obtain ⟨lastSound, lastPresent⟩ := after_keepsCheckpoint isPrintable lawful workflowId checkpointId
    _ savedSound savedPresent later (fun event member => json event (List.mem_append_right _ member))
    others
  obtain ⟨known, found⟩ := lastPresent.record
  have current : last.current workflowId restoredAt = known := by
    rw [current, found, Option.getD_some]
  have good := lastSound.records workflowId known found
  obtain ⟨value, present, equal⟩ := good.kept rfl
  obtain ⟨fields, rfl⟩ := equal.eq_dict
  obtain ⟨data, stored, dataEqual⟩ := stored_of_equal equal
  rcases restore_cases lawful last workflowId checkpointId restoredAt with
    ⟨error, raised, _⟩ | ⟨restored, after, read, returned, changed⟩
  · rw [current, dictField, present] at raised
    cases raised.symm.trans stored.restoredData
  · rw [current, dictField, present] at read
    obtain rfl := Except.ok.inj (stored.restoredData.symm.trans read)
    refine ⟨_, after, returned, ?_, dataEqual, ?_, ?_⟩
    · rw [changed.records, if_pos rfl]
    · intro id different
      rw [changed.records, if_neg different]
    · intro collection id different
      refine changed.rows.others collection id ?_
      have owner : (last.current workflowId restoredAt).workflowId = workflowId := by
        rw [current]
        exact good.workflowId
      rwa [← owner] at different

end Restore

section Example

/-- A task state before the checkpoint. -/
def earlierEvents : List (ContextEvent × String) :=
  [(.call (.updateTaskState "workflow" "task" [("done", .bool true)]), "")]

/-- A change, a checkpoint of another name and a restart. -/
def laterEvents : List (ContextEvent × String) := [
  (.call (.updateTaskState "workflow" "task" []), ""),
  (.call (.checkpoint "workflow" "second"), ""),
  (.reload, "")]

/-- A task state comes back after a change and a restart. -/
theorem restore_returns_first :
    let before := (ContextStore.initial backend true).after backend (fun _ => true) earlierEvents
    let saved := (before.checkpoint backend "workflow" "first" "").2
    let last := saved.after backend (fun _ => true) laterEvents
    (before.current "workflow" "").taskState = [("task", .dict [("done", .bool true)])] ∧
    (last.current "workflow" "").taskState = [("task", .dict [])] ∧
    ∃ (record : ContextRecord) (after : ContextStore MemoryPersistenceStore),
      last.restore backend "workflow" "first" "" = (.ok record.snapshot, after) ∧
      record.toContextData.Equal (before.current "workflow" "").toContextData := by
  refine ⟨rfl, rfl, ?_⟩
  obtain ⟨record, after, returned, _, equal, _⟩ := restore_returns_checkpoint (fun _ => true)
    backend_lawful true earlierEvents laterEvents "workflow" "first" "" ""
    (by simp [earlierEvents, laterEvents, ContextEvent.IsJson, ContextCall.scanned, IsJson, toJson,
      toJsonFields, ofJson, ofJsonFields]) (by simp [laterEvents])
  exact ⟨record, after, returned, equal⟩

end Example

end AgentFabric.Collaboration
