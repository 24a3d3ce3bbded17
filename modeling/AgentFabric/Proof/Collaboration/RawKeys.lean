import AgentFabric.Proof.Collaboration.CompletedRuns

namespace AgentFabric.Collaboration
open Persistence PyData Running Sorting MemoryPersistenceStore

section Values

mutual

/-- A dict at any depth of a value has a key of raw values. -/
def holdsRawKey : PyData → Bool
  | .dict fields => fieldsHoldRawKey fields
  | .list items => itemsHoldRawKey items
  | .tuple items => itemsHoldRawKey items
  | _ => false

def itemsHoldRawKey : List PyData → Bool
  | [] => false
  | item :: rest => holdsRawKey item || itemsHoldRawKey rest

def fieldsHoldRawKey : List (String × PyData) → Bool
  | [] => false
  | (key, value) :: rest => isRawKey key || holdsRawKey value || fieldsHoldRawKey rest

end

/-- No dict of a value has a key of raw values. -/
def RawFree (value : PyData) : Prop := holdsRawKey value = false

instance (value : PyData) : Decidable (RawFree value) := inferInstanceAs (Decidable (_ = _))

theorem itemsHoldRawKey_eq_false_iff (items : List PyData) :
    itemsHoldRawKey items = false ↔ ∀ item ∈ items, RawFree item := by
  induction items with
  | nil => simp [itemsHoldRawKey]
  | cons item rest ih => simp [itemsHoldRawKey, ih, RawFree]

theorem fieldsHoldRawKey_eq_false_iff (fields : List (String × PyData)) :
    fieldsHoldRawKey fields = false ↔
      ∀ field ∈ fields, isRawKey field.1 = false ∧ RawFree field.2 := by
  induction fields with
  | nil => simp [fieldsHoldRawKey]
  | cons field rest ih => simp [fieldsHoldRawKey, ih, RawFree]

/-- A value is free of raw keys exactly when its keys and its parts are. -/
theorem hereditary_rawFree : Hereditary RawFree fun key => isRawKey key = false where
  str := fun _ => by simp [RawFree, holdsRawKey]
  list := fun items => by
    rw [RawFree, holdsRawKey]
    exact itemsHoldRawKey_eq_false_iff items
  tuple := fun items free => by
    simp only [RawFree, holdsRawKey] at free ⊢
    exact free
  dict := fun fields => by
    rw [RawFree, holdsRawKey]
    exact fieldsHoldRawKey_eq_false_iff fields

mutual

/-- The writing of a document keeps the keys. -/
theorem holdsRawKey_ofJson_toJson : ∀ value : PyData,
    holdsRawKey (ofJson value.toJson) = holdsRawKey value
  | .null | .bool _ | .int _ | .float _ | .str _ => by simp only [toJson, ofJson]
  | .list items => by simp only [toJson, ofJson, holdsRawKey, itemsHoldRawKey_ofJson_toJson items]
  | .tuple items => by simp only [toJson, ofJson, holdsRawKey, itemsHoldRawKey_ofJson_toJson items]
  | .dict fields => by
      simp only [toJson, ofJson, holdsRawKey, fieldsHoldRawKey_ofJson_toJson fields]

theorem itemsHoldRawKey_ofJson_toJson : ∀ items : List PyData,
    itemsHoldRawKey (ofJsonItems (toJsonItems items)) = itemsHoldRawKey items
  | [] => rfl
  | item :: rest => by
      simp only [toJsonItems, ofJsonItems, itemsHoldRawKey, holdsRawKey_ofJson_toJson item,
        itemsHoldRawKey_ofJson_toJson rest]

theorem fieldsHoldRawKey_ofJson_toJson : ∀ fields : List (String × PyData),
    fieldsHoldRawKey (ofJsonFields (toJsonFields fields)) = fieldsHoldRawKey fields
  | [] => rfl
  | (_, value) :: rest => by
      simp only [toJsonFields, ofJsonFields, fieldsHoldRawKey, holdsRawKey_ofJson_toJson value,
        fieldsHoldRawKey_ofJson_toJson rest]

end

/-- The order of the fields does not matter. -/
theorem fieldsHoldRawKey_sortedBy (fields : List (String × Json)) :
    fieldsHoldRawKey (ofJsonFields (sortedBy Prod.fst fields)) =
      fieldsHoldRawKey (ofJsonFields fields) := by
  rw [Bool.eq_iff_iff, ← not_iff_not, Bool.not_eq_true, Bool.not_eq_true,
    fieldsHoldRawKey_eq_false_iff, fieldsHoldRawKey_eq_false_iff, ofJsonFields_eq_map,
    ofJsonFields_eq_map, List.forall_mem_map, List.forall_mem_map]
  simp only [mem_sortedBy]

mutual

/-- The sorting of a document keeps the keys. -/
theorem holdsRawKey_sortKeys : ∀ document : Json,
    holdsRawKey (ofJson document.sortKeys) = holdsRawKey (ofJson document)
  | .null | .bool _ | .int _ | .float _ | .str _ => by simp only [Json.sortKeys]
  | .arr items => by simp only [Json.sortKeys, ofJson, holdsRawKey, itemsHoldRawKey_sortItems items]
  | .obj fields => by
      simp only [Json.sortKeys, ofJson, holdsRawKey, fieldsHoldRawKey_sortedBy,
        fieldsHoldRawKey_sortFields fields]

theorem itemsHoldRawKey_sortItems : ∀ items : List Json,
    itemsHoldRawKey (ofJsonItems (Json.sortItems items)) = itemsHoldRawKey (ofJsonItems items)
  | [] => rfl
  | item :: rest => by
      simp only [Json.sortItems, ofJsonItems, itemsHoldRawKey, holdsRawKey_sortKeys item,
        itemsHoldRawKey_sortItems rest]

theorem fieldsHoldRawKey_sortFields : ∀ fields : List (String × Json),
    fieldsHoldRawKey (ofJsonFields (Json.sortFields fields)) =
      fieldsHoldRawKey (ofJsonFields fields)
  | [] => rfl
  | (_, value) :: rest => by
      simp only [Json.sortFields, ofJsonFields, fieldsHoldRawKey, holdsRawKey_sortKeys value,
        fieldsHoldRawKey_sortFields rest]

end

/-- A row is free of raw keys when the written value is. -/
theorem rawFree_of_same {document : Json} {written : PyData}
    (same : document.Same written.toJson) (free : RawFree written) : RawFree (ofJson document) := by
  have sorted : holdsRawKey (ofJson document.sortKeys) =
      holdsRawKey (ofJson written.toJson.sortKeys) := by rw [same]
  rw [holdsRawKey_sortKeys, holdsRawKey_sortKeys, holdsRawKey_ofJson_toJson] at sorted
  exact sorted.trans free

end Values

/-- A call of the store of an engine, or a run of the engine. -/
inductive EngineCall where
  | context (call : ContextCall) (now : String)
  | start (request : StartRequest)

section Engine

variable {State : Type} (store : PersistenceStore State) (surroundings : Surroundings)
  (engine : MeshWorkflowEngine State)

/-- One call on an engine. -/
def MeshWorkflowEngine.step : EngineCall → Except PyError Unit × MeshWorkflowEngine State
  | .context call now =>
      let (answer, contextStore) := engine.contextStore.call store now call
      (answer, { engine with contextStore })
  | .start request =>
      let (response, after) := engine.start store surroundings request
      (response.answer.map fun _ => (), after)

/-- The engine after calls from a new store. -/
def MeshWorkflowEngine.after (persistent : Bool) (calls : List EngineCall) :
    MeshWorkflowEngine State :=
  Transition.run (step store surroundings)
    ⟨ContextStore.initial store persistent, [], Dict.empty⟩ calls

/-- A result that is published, and its key, are free of raw keys. -/
def PublishesRawFree (call : RunnerCall) : Prop :=
  ∀ result, CallAccepted call result → isRawKey call.node.nodeId = false ∧ RawFree result

/-- The keys and the values that a call writes past the scan are free of raw keys. -/
def WritesRawFree : EngineCall → Prop
  | .context call _ => call.Admits RawFree fun key => isRawKey key = false
  | .start request => request.taskGraph.WellFormed → RawFree (.dict request.initialPayload) ∧
      ∀ call ∈ (engine.start store surroundings request).1.calls, PublishesRawFree call

end Engine

section Runs

variable {State : Type} {store : PersistenceStore State} {surroundings : Surroundings}
  {request : StartRequest}

theorem snapshotNames_rawFree : ∀ name ∈ snapshotNames, isRawKey name = false := by decide

/-- The names of the checkpoints of a run are no raw keys. -/
theorem isRawKey_batch (rest : String) : isRawKey ("batch-" ++ rest) = false := by
  have first : ("batch-" ++ rest).toList.map lowerChar =
      'b' :: ("atch-".toList ++ rest.toList).map lowerChar := by
    rw [String.toList_append]
    rfl
  rw [isRawKey]
  simp only [first]
  simp [List.isPrefixOf]

/-- The records of a run are free of raw keys when its calls publish no raw keys. -/
def RawFreeRun (store : PersistenceStore State) (run : Running State) : Prop :=
  (∀ call ∈ run.calls, PublishesRawFree call) →
    Sound store RawFree (fun _ _ => True) run.contextStore

theorem rawFree_publishedValue {result : PyData} (free : RawFree result) :
    RawFree (.dict (publishedValue result)) := by
  rw [hereditary_rawFree.dict]
  intro field member
  simp only [publishedValue, List.mem_cons, List.not_mem_nil, or_false] at member
  rcases member with rfl | rfl
  · exact ⟨show isRawKey "status" = false by decide, hereditary_rawFree.str _⟩
  · exact ⟨show isRawKey "result" = false by decide, free⟩

/-- The record that the call of the runner creates is free of raw keys. -/
theorem called_rawFree {run : Running State}
    (sound : Sound store RawFree (fun _ _ => True) run.contextStore) (node : TaskNode)
    (attempts : Int) :
    Sound store RawFree (fun _ _ => True)
      (run.called surroundings request node attempts).contextStore :=
  sound.created (sound.current hereditary_rawFree (fun _ => trivial) _)

/-- Every part of a run keeps the records free of raw keys. -/
theorem keptByRun_rawFree (lawful : store.Lawful) :
    KeptByRun store surroundings request (RawFreeRun store) where
  attempt := by
    intro run node attempts _ before
    obtain ⟨call, calls, ofNode, _, answer⟩ := run.called_calls surroundings request node attempts
    have called (published : ∀ call ∈ (run.called surroundings request node attempts).calls,
        PublishesRawFree call) : Sound store RawFree (fun _ _ => True)
          (run.called surroundings request node attempts).contextStore := by
      refine called_rawFree (before fun earlier member => published earlier ?_) node attempts
      rw [calls]
      exact List.mem_append_left _ member
    rcases attempt_cases store surroundings request lawful run node attempts with
      ⟨_, _, returned⟩ | ⟨_, _, _, _, returned⟩ |
        ⟨result, contextStore, answered, clean, changed, returned⟩
    · rw [returned]
      exact called
    · rw [returned]
      exact called
    · rw [returned]
      intro published
      have free := published call (calls ▸ List.mem_append_right _ (.head _)) result
        ⟨answer.trans answered, clean⟩
      rw [ofNode] at free
      have sound := called published
      have good : Good RawFree (fun _ _ => True) request.taskGraph.graphId _ :=
        sound.current hereditary_rawFree (fun _ => trivial) (surroundings.updatedAt
          (run.called surroundings request node attempts).events.length)
      exact sound.changed hereditary_rawFree snapshotNames_rawFree changed ⟨good.workflowId,
        { good.data with
          taskState := hereditary_rawFree.setItems good.data.taskState free.1
            (rawFree_publishedValue free.2) },
        good.checkpoints, trivial⟩
  failAttempt := fun _ _ _ _ before => before
  giveUp := fun _ _ before => before
  awaitApproval := fun _ _ before => before
  checkpoint := by
    intro run before published
    rw [checkpoint_calls] at published
    rw [checkpoint_contextStore]
    exact (before published).call lawful hereditary_rawFree snapshotNames_rawFree
      (.checkpoint request.taskGraph.graphId run.checkpointId) (fun _ => isRawKey_batch _)
      (fun _ => trivial) (fun _ _ _ _ _ => trivial)
  finish := fun _ before => before

variable (surroundings) in
/-- The initial payload enters the record in memory. -/
theorem initialRun_rawFree (engine : MeshWorkflowEngine State)
    (sound : Sound store RawFree (fun _ _ => True) engine.contextStore)
    (free : RawFree (.dict request.initialPayload)) :
    Sound store RawFree (fun _ _ => True)
      (engine.initialRun surroundings request).contextStore := by
  have good : Good RawFree (fun _ _ => True) request.taskGraph.graphId _ :=
    sound.current hereditary_rawFree (fun _ => trivial)
      (surroundings.updatedAt engine.events.length)
  show Sound store RawFree _ (engine.openContext surroundings request)
  rw [MeshWorkflowEngine.openContext_eq_edit]
  exact sound.edit good { good.data with
    conversationState := hereditary_rawFree.update good.data.conversationState free }

/-- A run whose payload and published results are free of raw keys keeps the records free of them. -/
theorem start_rawFree (lawful : store.Lawful) (engine : MeshWorkflowEngine State)
    (sound : Sound store RawFree (fun _ _ => True) engine.contextStore)
    (writes : WritesRawFree store surroundings engine (.start request)) :
    Sound store RawFree (fun _ _ => True)
      (engine.start store surroundings request).2.contextStore := by
  have first (wellFormed : request.taskGraph.WellFormed) :
      RawFreeRun store (engine.initialRun surroundings request) := fun _ =>
    initialRun_rawFree surroundings engine sound (writes wellFormed).1
  rcases engine.start_keeps (keptByRun_rawFree lawful) first with
    ⟨_, raised⟩ | ⟨wellFormed, _, _, started, kept⟩
  · rw [raised]
    exact sound
  · have published := (writes wellFormed).2
    rw [started] at published ⊢
    exact kept published

/-- In every run whose calls write no raw keys past the scan, no record in memory and no row of the
persistence holds a raw key. -/
theorem records_rawFree (lawful : store.Lawful) (persistent : Bool) (calls : List EngineCall)
    (writes : Transition.Guarded (MeshWorkflowEngine.step store surroundings)
      (WritesRawFree store surroundings)
      ⟨ContextStore.initial store persistent, [], Dict.empty⟩ calls) :
    let contextStore :=
      (MeshWorkflowEngine.after store surroundings persistent calls).contextStore
    (∀ id record, contextStore.records.get? id = some record → RawFree record.snapshot) ∧
    ∀ collection key document, contextStore.row store collection key = some document →
      RawFree (ofJson document) := by
  intro contextStore
  have sound : Sound store RawFree (fun _ _ => True) contextStore := by
    refine Transition.run_invariant_of_guarded _ (WritesRawFree store surroundings)
      (fun engine => Sound store RawFree (fun _ _ => True) engine.contextStore) ?_ _ calls ?_ writes
    · intro engine call before free
      cases call with
      | context call now =>
          exact before.call lawful hereditary_rawFree snapshotNames_rawFree call free
            (fun _ => trivial) (fun _ _ _ _ _ => trivial)
      | start request => exact start_rawFree lawful engine before free
    · exact initial_sound lawful persistent
  refine ⟨?_, ?_⟩
  · intro id record found
    have good := sound.records id record found
    exact (record.snapshot_holds_iff hereditary_rawFree snapshotNames_rawFree).mpr
      ⟨good.data, good.checkpoints⟩
  · intro collection key document found
    obtain ⟨written, same, free, _⟩ := sound.rows collection key document found
    exact rawFree_of_same same free

end Runs

section Example

/-- An engine over a persistence in memory after calls at one time. -/
def storeAfter (calls : List EngineCall) : ContextStore MemoryPersistenceStore :=
  (MeshWorkflowEngine.after backend stillSurroundings true calls).contextStore

/-- A task state without raw keys, and a run with a clean result. -/
def cleanCalls : List EngineCall := [
  .context (.updateTaskState "workflow" "task" [("done", .bool true)]) "",
  .start (singleRequest 0 fun _ => .null)]

/-- Clean calls leave clean records. -/
theorem records_rawFree_clean :
    (∃ record, (storeAfter cleanCalls).records.get? "workflow" = some record) ∧
    (∀ id record, (storeAfter cleanCalls).records.get? id = some record → RawFree record.snapshot) ∧
    ∀ collection key document,
      (storeAfter cleanCalls).row backend collection key = some document →
        RawFree (ofJson document) := by
  refine ⟨⟨_, rfl⟩, records_rawFree backend_lawful true cleanCalls ⟨?_, ?_, trivial⟩⟩
  · intro _
    exact ⟨by decide, by decide⟩
  · intro _
    refine ⟨by decide, ?_⟩
    intro call member result accepted
    obtain rfl := List.mem_singleton.mp member
    obtain rfl := Except.ok.inj accepted.1
    exact ⟨by decide, by decide⟩

/-- A task state with a dict in a tuple. -/
def tupleCall : EngineCall :=
  .context (.updateTaskState "workflow" "task" [("items", .tuple [.dict [("token", .null)]])]) ""

/-- A payload under a name of raw values. -/
def namedCall : EngineCall := .context (.putSanitizedPayload "workflow" "token" []) ""

/-- A run with a token in its initial payload. -/
def payloadCall : EngineCall :=
  .start { singleRequest 0 fun _ => .null with initialPayload := [("token", .null)] }

/-- A dict in a tuple, a name of a payload and an initial payload pass the scan. -/
theorem records_hold_rawKey :
    (∃ record, (storeAfter [tupleCall]).records.get? "workflow" = some record ∧
      holdsRawKey record.snapshot = true) ∧
    (∃ record, (storeAfter [namedCall]).records.get? "workflow" = some record ∧
      holdsRawKey record.snapshot = true) ∧
    (∃ record, (storeAfter [payloadCall]).records.get? "graph" = some record ∧
      holdsRawKey record.snapshot = true) ∧
    ∃ document, (storeAfter [tupleCall]).row backend "shared_context" "workflow" = some document ∧
      holdsRawKey (ofJson document) = true :=
  ⟨⟨_, rfl, by decide⟩, ⟨_, rfl, by decide⟩, ⟨_, rfl, by decide⟩, ⟨_, rfl, by decide⟩⟩

end Example

end AgentFabric.Collaboration
