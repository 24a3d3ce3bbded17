import AgentFabric.Construction.Tools.ToolRegistry
import AgentFabric.Proof.Connectors.ConnectorGate

namespace AgentFabric.Tools
open Persistence Transition Effect MemoryPersistenceStore Connectors
open Connectors (TenantContext ConnectorState record emit perform_record)

variable {Number : Type} {library : Library Number}

/-- A tool belongs to the tenant of its record. -/
theorem Tool.tenant_of_fromDict {now : UtcTime}
    {document : Json} {tool : Tool} (read : Tool.fromDict library now document = .ok tool) :
    library.textItem document "tenant_id" = .ok tool.tenantId := by
  rw [Tool.fromDict] at read
  obtain ⟨_, _, read⟩ := bind_eq_ok_iff.mp read
  obtain ⟨tenantId, named, read⟩ := bind_eq_ok_iff.mp read
  iterate 7 obtain ⟨_, _, read⟩ := bind_eq_ok_iff.mp read
  obtain rfl := Except.ok.inj read
  exact named

/-- A connector belongs to the tenant of its record. -/
theorem connector_tenant_of_fromDict {now : UtcTime}
    {document : Json} {connector : TenantConnectors.Connector}
    (read : TenantConnectors.Connector.fromDict library now document = .ok connector) :
    library.textItem document "tenant_id" = .ok connector.tenantId := by
  rw [TenantConnectors.Connector.fromDict] at read
  obtain ⟨_, _, read⟩ := bind_eq_ok_iff.mp read
  obtain ⟨tenantId, named, read⟩ := bind_eq_ok_iff.mp read
  iterate 9 obtain ⟨_, _, read⟩ := bind_eq_ok_iff.mp read
  obtain rfl := Except.ok.inj read
  exact named

/-- The registrations of the three registries. -/
inductive Registration (Number : Type) where
  | tool (context : TenantContext) (manifest : ToolManifest) (permission : ToolPermission)
      (toolId : Option String) (newId : String) (now : UtcTime)
  | connector (context : TenantContext) (manifest : TenantConnectors.ConnectorManifest)
      (credentials : TenantConnectors.ConnectorCredentials)
      (policy : Option TenantConnectors.ConnectorPolicy) (connectorId : Option String)
      (newId : String) (now : UtcTime)
  | manifest (manifest : Connectors.ConnectorManifest Number) (tenantId createdBy : String)

/-- The tenant that registers. -/
def Registration.tenantId : Registration Number → String
  | .tool context .. => context.tenantId
  | .connector context .. => context.tenantId
  | .manifest _ tenantId _ => tenantId

/-- What a tenant looks up in the three registries. -/
inductive Lookup where
  | tool (toolId : String)
  | connector (connectorId : String)
  | manifest (connectorId : String) (version : Option String)

/-- A tenant with a time looks something up. -/
structure Reader where
  context : TenantContext
  now : UtcTime
  lookup : Lookup

section Registries

variable {State Number : Type} (store : PersistenceStore State) (library : Library Number)

def register : Registration Number → Effect (ConnectorState State Number) Unit
  | .tool context manifest permission toolId newId now => do
      let _ ← ToolRegistry.register store context manifest permission toolId newId now
      pure ()
  | .connector context manifest credentials policy connectorId newId now => do
      let _ ← TenantConnectors.ConnectorRegistry.register store context manifest credentials policy
        connectorId newId now
      pure ()
  | .manifest manifest tenantId createdBy => do
      let _ ← Connectors.ConnectorRegistry.register store library manifest tenantId createdBy
      pure ()

/-- The registries answer a registration. -/
def registrationMachine :
    Machine (ConnectorState State Number) (Registration Number) (Except PyError Unit) :=
  fun state registration => (register store library registration).perform state

/-- The record that a lookup reads. -/
def recordOf (persistence : State) : Lookup → Option Json
  | .tool toolId => store.get persistence "tools" toolId
  | .connector connectorId => store.get persistence "connectors" connectorId
  | .manifest connectorId version =>
      match version.filter fun version => version ≠ "" with
      | some version =>
          store.get persistence "enterprise_connector_manifests" (connectorId ++ ":" ++ version)
      | none => store.get persistence "enterprise_connector_latest" connectorId

variable (state : ConnectorState State Number)

/-- The lookup returns a tool or a connector of the tenant itself. -/
def ReturnsOwn (reader : Reader) : Prop :=
  match reader.lookup with
  | .tool toolId => ∃ tool, ToolRegistry.get store library state.persistence reader.context toolId
      reader.now = .ok tool ∧ tool.tenantId = reader.context.tenantId
  | .connector connectorId => ∃ connector, TenantConnectors.ConnectorRegistry.get store library
      state.persistence reader.context connectorId reader.now = .ok connector ∧
        connector.tenantId = reader.context.tenantId
  | .manifest connectorId version => ∃ manifest row, Connectors.ConnectorRegistry.get store library
      state.persistence reader.context connectorId version = .ok manifest ∧
        recordOf store state.persistence reader.lookup = some row ∧
          PersistenceStore.hasText row "tenant_id" reader.context.tenantId = true

/-- The registration is not refused: it is valid and its version has no other manifest yet. -/
def Accepted : Registration Number → Prop
  | .tool context manifest permission toolId newId now =>
      (ToolRegistry.newTool context manifest permission toolId newId now).validate = .ok ()
  | .connector context manifest credentials policy connectorId newId now =>
      (TenantConnectors.ConnectorRegistry.newConnector context manifest credentials policy
        connectorId newId now).validate = .ok ()
  | .manifest manifest _ _ => manifest.validate library = .ok () ∧
      ((store.get state.persistence "enterprise_connector_manifests"
        (manifest.connectorId ++ ":" ++ manifest.version)).any fun document =>
          document.truthy &&
            !library.interpreter.equal document (.obj (manifest.asDict library))) = false

/-- What a registration replaces. -/
def replaced : Registration Number → Lookup
  | .tool context manifest permission toolId newId now =>
      .tool (ToolRegistry.newTool context manifest permission toolId newId now).toolId
  | .connector context manifest credentials policy connectorId newId now =>
      .connector (TenantConnectors.ConnectorRegistry.newConnector context manifest credentials
        policy connectorId newId now).connectorId
  | .manifest manifest _ _ => .manifest manifest.connectorId none

/-- A registration that is not refused replaces nothing of another tenant. -/
def KeepsOwners (registration : Registration Number) : Prop :=
  Accepted store library state registration → ∀ context now,
    registration.tenantId ≠ context.tenantId →
      ¬ ReturnsOwn store library state ⟨context, now, replaced registration⟩

section Lookup

variable {store library} {state after : ConnectorState State Number}

/-- What a lookup returns depends on its record alone. -/
theorem ReturnsOwn.of_record {reader : Reader} (own : ReturnsOwn store library state reader)
    (same : recordOf store after.persistence reader.lookup =
      recordOf store state.persistence reader.lookup) : ReturnsOwn store library after reader := by
  obtain ⟨context, now, lookup⟩ := reader
  cases lookup with
  | tool toolId =>
      obtain ⟨tool, found, owned⟩ := own
      refine ⟨tool, ?_, owned⟩
      rw [ToolRegistry.get, show store.get after.persistence "tools" toolId = _ from same]
      exact found
  | connector connectorId =>
      obtain ⟨connector, found, owned⟩ := own
      refine ⟨connector, ?_, owned⟩
      rw [TenantConnectors.ConnectorRegistry.get,
        show store.get after.persistence "connectors" connectorId = _ from same]
      exact found
  | manifest connectorId version =>
      obtain ⟨manifest, row, found, present, owned⟩ := own
      refine ⟨manifest, row, ?_, same.trans present, owned⟩
      simp only [recordOf] at same
      simp only [Connectors.ConnectorRegistry.get] at found ⊢
      cases filtered : version.filter fun version => version ≠ "" with
      | none =>
          simp only [filtered] at same found ⊢
          rw [same]
          exact found
      | some number =>
          simp only [filtered] at same found ⊢
          rw [same]
          exact found

variable {tenantId : String}

/-- A record of another tenant is not returned as the tenant's own. -/
theorem not_returnsOwn_of_record {state : ConnectorState State Number} {reader : Reader}
    {row : Json}
    (present : recordOf store state.persistence reader.lookup = some row)
    (owner : row.field? "tenant_id" = some (.str tenantId))
    (foreign : tenantId ≠ reader.context.tenantId) : ¬ ReturnsOwn store library state reader := by
  obtain ⟨context, now, lookup⟩ := reader
  have named : library.textItem row "tenant_id" = .ok tenantId := by
    rw [Library.textItem, owner]
    rfl
  cases lookup with
  | tool toolId =>
      rintro ⟨tool, found, owned⟩
      rw [ToolRegistry.get, show store.get state.persistence "tools" toolId = _ from present]
        at found
      obtain ⟨stored, converted, checked⟩ := bind_eq_ok_iff.mp found
      split at checked
      · cases checked
      · obtain rfl := Except.ok.inj checked
        have same := named.symm.trans (Tool.tenant_of_fromDict converted)
        exact foreign ((Except.ok.inj same).trans owned)
  | connector connectorId =>
      rintro ⟨connector, found, owned⟩
      rw [TenantConnectors.ConnectorRegistry.get,
        show store.get state.persistence "connectors" connectorId = _ from present] at found
      obtain ⟨stored, converted, checked⟩ := bind_eq_ok_iff.mp found
      split at checked
      · cases checked
      · obtain rfl := Except.ok.inj checked
        have same := named.symm.trans (connector_tenant_of_fromDict converted)
        exact foreign ((Except.ok.inj same).trans owned)
  | manifest connectorId version =>
      rintro ⟨manifest, stored, _, found, owned⟩
      obtain rfl := Option.some.inj (present.symm.trans found)
      rw [PersistenceStore.hasText, owner] at owned
      exact foreign (of_decide_eq_true owned)

/-- A manifest has no tenant. -/
theorem asDict_tenant (manifest : Connectors.ConnectorManifest Number) :
    (Json.obj (manifest.asDict library)).field? "tenant_id" = none := rfl

/-- Equal dicts have the same keys. -/
theorem field?_of_equalFields {interpreter : Interpreter} {fields others : List (String × Json)}
    (equal : interpreter.equalFields fields others = true) {key : String} {value : Json}
    (present : (Json.obj fields).field? key = some value) :
    (Json.obj others).field? key ≠ none := by
  induction fields with
  | nil => cases present
  | cons field rest ih =>
      obtain ⟨name, stored⟩ := field
      rw [Interpreter.equalFields, Bool.and_eq_true] at equal
      by_cases same : name = key
      · subst same
        intro absent
        rw [absent] at equal
        cases equal.1
      · apply ih equal.2
        simpa [Json.field?, same] using present

/-- A record of a tenant differs from every manifest. -/
theorem not_equal_of_tenant {row : Json}
    (owned : PersistenceStore.hasText row "tenant_id" tenantId = true)
    (manifest : Connectors.ConnectorManifest Number) :
    (row.truthy && !library.interpreter.equal row (.obj (manifest.asDict library))) = true := by
  unfold PersistenceStore.hasText at owned
  split at owned
  · rename_i stored present
    cases row with
    | obj fields =>
        have filled : fields ≠ [] := by
          rintro rfl
          cases present
        have different : library.interpreter.equal (.obj fields) (.obj (manifest.asDict library)) =
            false := by
          rw [Interpreter.equal, Bool.and_eq_false_iff]
          right
          by_contra equal
          exact field?_of_equalFields ((Bool.not_eq_false _).mp equal) present
            (asDict_tenant manifest)
        rw [different]
        simpa [Json.truthy] using filled
    | null | bool | int | float | str | arr => cases present
  · cases owned

variable (store library) in
/-- A refused registration changes nothing, and every other one changes its own records, which name
its tenant afterwards. -/
def Registers (state : ConnectorState State Number) (registration : Registration Number) : Prop :=
  let after := (registrationMachine store library state registration).2
  (¬ Accepted store library state registration ∧ after = state) ∨
    (Accepted store library state registration ∧
      (∃ row, recordOf store after.persistence (replaced registration) = some row ∧
        row.field? "tenant_id" = some (.str registration.tenantId)) ∧
      ∀ reader, ReturnsOwn store library state reader →
        recordOf store after.persistence reader.lookup =
            recordOf store state.persistence reader.lookup ∨
          ReturnsOwn store library state ⟨reader.context, reader.now, replaced registration⟩)

theorem exists_error_of_ne_ok {answer : Except PyError Unit} (refused : ¬ answer = .ok ()) :
    ∃ error, answer = .error error := by
  cases answer with
  | error error => exact ⟨error, rfl⟩
  | ok _ => exact absurd rfl refused

variable {validity : Except PyError Unit}

/-- A valid value is recorded under its key and announced. -/
theorem perform_validated {Value : Type} (lawful : store.Lawful)
    (valid : validity = .ok ()) (collection key eventType : String) (document : Json)
    (value : Value) (state : ConnectorState State Number) :
    ∃ next, store.put state.persistence collection key document = .ok next ∧
      (do
        Effect.ofExcept validity
        record store collection key document
        emit eventType key document
        pure value : Effect (ConnectorState State Number) Value).perform state =
          (.ok value, { state with
            persistence := next, events := state.events ++ [⟨eventType, key, document⟩] }) := by
  obtain ⟨next, written, recorded⟩ := perform_record lawful collection key document state
  have passed : (Effect.ofExcept validity : Effect (ConnectorState State Number) Unit).perform
      state = (.ok (), state) := by
    rw [perform_ofExcept, valid]
  exact ⟨next, written, (perform_bind_ok passed).trans (perform_bind_ok recorded)⟩

theorem perform_invalid {Value Next : Type} {error : PyError}
    (invalid : validity = .error error)
    (rest : Unit → Effect (ConnectorState State Number) Value)
    (last : Value → Effect (ConnectorState State Number) Next)
    (state : ConnectorState State Number) :
    ((Effect.ofExcept validity >>= rest) >>= last).perform state = (.error error, state) := by
  have raised : (Effect.ofExcept validity : Effect (ConnectorState State Number) Unit).perform
      state = (.error error, state) := by
    rw [perform_ofExcept, invalid]
  exact perform_bind_error (perform_bind_error raised)

/-- A call without its value leaves the persistence of the call. -/
theorem persistence_of_bind {Value : Type} {effect : Effect (ConnectorState State Number) Value}
    {value : Value}
    (performed : effect.perform state = (.ok value, after)) :
    ((do
      let _ ← effect
      pure () : Effect (ConnectorState State Number) Unit).perform state).2.persistence =
        after.persistence := by
  rw [perform_bind_ok performed, perform_pure]

/-- A write to a collection of its own leaves the records of the other lookups. -/
theorem recordOf_put (lawful : store.Lawful) {persistence next : State} {collection key : String}
    {document : Json} (written : store.put persistence collection key document = .ok next)
    (lookup : Lookup)
    (tools : ∀ toolId, lookup = .tool toolId → ("tools", toolId) ≠ (collection, key))
    (connectors : ∀ connectorId, lookup = .connector connectorId →
      ("connectors", connectorId) ≠ (collection, key))
    (manifests : collection ≠ "enterprise_connector_manifests" ∧
      collection ≠ "enterprise_connector_latest") :
    recordOf store next lookup = recordOf store persistence lookup := by
  cases lookup with
  | tool toolId => exact lawful.get_put_of_ne _ _ _ _ _ _ _ written (tools toolId rfl)
  | connector connectorId =>
      exact lawful.get_put_of_ne _ _ _ _ _ _ _ written (connectors connectorId rfl)
  | manifest connectorId version =>
      have other (query name : String) (known : query = "enterprise_connector_manifests" ∨
          query = "enterprise_connector_latest") :
          store.get next query name = store.get persistence query name := by
        refine lawful.get_put_of_ne _ _ _ _ _ _ _ written fun equal => ?_
        rcases known with rfl | rfl
        · exact manifests.1 (Prod.mk.inj equal).1.symm
        · exact manifests.2 (Prod.mk.inj equal).1.symm
      unfold recordOf
      dsimp only
      split
      · exact other _ _ (.inl rfl)
      · exact other _ _ (.inr rfl)

theorem tool_registers (lawful : store.Lawful) (state : ConnectorState State Number)
    (context : TenantContext) (manifest : ToolManifest) (permission : ToolPermission)
    (toolId : Option String) (newId : String) (now : UtcTime) :
    Registers store library state (.tool context manifest permission toolId newId now) := by
  let tool := ToolRegistry.newTool context manifest permission toolId newId now
  by_cases valid : tool.validate = .ok ()
  · obtain ⟨next, written, performed⟩ := perform_validated lawful valid "tools" tool.toolId
      "tool.registered" tool.asDict tool state
    obtain ⟨read, present, same⟩ := lawful.get_put_self _ _ _ _ _ written
    have after : (registrationMachine store library state
        (.tool context manifest permission toolId newId now)).2.persistence = next :=
      persistence_of_bind performed
    refine .inr ⟨valid, ⟨read, ?_, Json.field?_of_same same rfl trivial⟩, ?_⟩
    · rw [after]
      exact present
    · rintro ⟨reader, time, lookup⟩ own
      rw [after]
      by_cases hit : lookup = .tool tool.toolId
      · exact .inr (hit ▸ own)
      · refine .inl (recordOf_put lawful written lookup ?_ (by simp) (by simp))
        rintro query rfl equal
        exact hit (congrArg Lookup.tool (Prod.mk.inj equal).2)
  · obtain ⟨error, invalid⟩ := exists_error_of_ne_ok valid
    exact .inl ⟨valid, congrArg Prod.snd (perform_invalid invalid _ _ state)⟩

theorem connector_registers (lawful : store.Lawful) (state : ConnectorState State Number)
    (context : TenantContext) (manifest : TenantConnectors.ConnectorManifest)
    (credentials : TenantConnectors.ConnectorCredentials)
    (policy : Option TenantConnectors.ConnectorPolicy) (connectorId : Option String)
    (newId : String) (now : UtcTime) :
    Registers store library state
      (.connector context manifest credentials policy connectorId newId now) := by
  let connector := TenantConnectors.ConnectorRegistry.newConnector context manifest credentials
    policy connectorId newId now
  by_cases valid : connector.validate = .ok ()
  · obtain ⟨next, written, performed⟩ := perform_validated lawful valid "connectors"
      connector.connectorId "connector.registered" connector.asDict connector state
    obtain ⟨read, present, same⟩ := lawful.get_put_self _ _ _ _ _ written
    have after : (registrationMachine store library state
        (.connector context manifest credentials policy connectorId newId now)).2.persistence =
          next :=
      persistence_of_bind performed
    refine .inr ⟨valid, ⟨read, ?_, Json.field?_of_same same rfl trivial⟩, ?_⟩
    · rw [after]
      exact present
    · rintro ⟨reader, time, lookup⟩ own
      rw [after]
      by_cases hit : lookup = .connector connector.connectorId
      · exact .inr (hit ▸ own)
      · refine .inl (recordOf_put lawful written lookup (by simp) ?_ (by simp))
        rintro query rfl equal
        exact hit (congrArg Lookup.connector (Prod.mk.inj equal).2)
  · obtain ⟨error, invalid⟩ := exists_error_of_ne_ok valid
    exact .inl ⟨valid, congrArg Prod.snd (perform_invalid invalid _ _ state)⟩

/-- A refused version changes nothing. -/
theorem manifest_conflict (state : ConnectorState State Number)
    (manifest : Connectors.ConnectorManifest Number) (tenantId createdBy : String)
    (valid : manifest.validate library = .ok ())
    (conflict : ((store.get state.persistence "enterprise_connector_manifests"
      (manifest.connectorId ++ ":" ++ manifest.version)).any fun stored => stored.truthy &&
        !library.interpreter.equal stored (.obj (manifest.asDict library))) = true) :
    (registrationMachine store library state (.manifest manifest tenantId createdBy)).2 = state := by
  have passed : (Effect.ofExcept (manifest.validate library) : Effect
      (ConnectorState State Number) Unit).perform state = (.ok (), state) := by
    rw [perform_ofExcept, valid]
  have refused : (Connectors.ConnectorRegistry.register store library manifest tenantId
      createdBy).perform state = (.error (.conflictError
        "connector version already exists with different manifest"), state) := by
    refine (perform_bind_ok passed).trans ?_
    rw [perform_bind_ok (perform_get state)]
    dsimp only
    rw [if_pos conflict]
    rfl
  exact congrArg Prod.snd (perform_bind_error refused)

theorem manifest_registers (lawful : store.Lawful) (state : ConnectorState State Number)
    (manifest : Connectors.ConnectorManifest Number) (tenantId createdBy : String) :
    Registers store library state (.manifest manifest tenantId createdBy) := by
  let key := manifest.connectorId ++ ":" ++ manifest.version
  let document : Json := .obj (manifest.asDict library ++
    [("tenant_id", .str tenantId), ("created_by", .str createdBy)])
  by_cases valid : manifest.validate library = .ok ()
  · cases conflict : (store.get state.persistence "enterprise_connector_manifests" key).any
        fun stored => stored.truthy &&
          !library.interpreter.equal stored (.obj (manifest.asDict library)) with
    | true =>
        refine .inl ⟨fun accepted => ?_,
          manifest_conflict state manifest tenantId createdBy valid conflict⟩
        cases conflict.symm.trans accepted.2
    | false =>
        obtain ⟨first, firstWritten, firstRecorded⟩ := perform_record lawful
          "enterprise_connector_manifests" key document state
        obtain ⟨next, written, recorded⟩ := perform_record lawful "enterprise_connector_latest"
          manifest.connectorId document { state with persistence := first }
        have passed : (Effect.ofExcept (manifest.validate library) : Effect
            (ConnectorState State Number) Unit).perform state = (.ok (), state) := by
          rw [perform_ofExcept, valid]
        have performed : (Connectors.ConnectorRegistry.register store library manifest tenantId
            createdBy).perform state = (.ok manifest, { state with
              persistence := next
              events := state.events ++
                [⟨"connector.registered", manifest.connectorId, document⟩] }) := by
          refine (perform_bind_ok passed).trans ?_
          rw [perform_bind_ok (perform_get state)]
          dsimp only
          rw [if_neg (fun found => by cases conflict.symm.trans found)]
          exact (perform_bind_ok firstRecorded).trans (perform_bind_ok recorded)
        have after : (registrationMachine store library state
            (.manifest manifest tenantId createdBy)).2.persistence = next :=
          persistence_of_bind performed
        obtain ⟨read, present, same⟩ := lawful.get_put_self _ _ _ _ _ written
        have elsewhere (collection query : String)
            (other : (collection, query) ≠ ("enterprise_connector_latest", manifest.connectorId))
            (different : (collection, query) ≠ ("enterprise_connector_manifests", key)) :
            store.get next collection query = store.get state.persistence collection query :=
          (lawful.get_put_of_ne _ _ _ _ _ _ _ written other).trans
            (lawful.get_put_of_ne _ _ _ _ _ _ _ firstWritten different)
        refine .inr ⟨⟨valid, conflict⟩, ⟨read, ?_, Json.field?_of_same same rfl trivial⟩, ?_⟩
        · rw [after]
          exact present
        · rintro ⟨reader, time, lookup⟩ own
          rw [after]
          cases lookup with
          | tool query => exact .inl (elsewhere _ _ (by simp) (by simp))
          | connector query => exact .inl (elsewhere _ _ (by simp) (by simp))
          | manifest query version =>
              obtain ⟨found, row, returned, stored, owned⟩ := own
              unfold recordOf at stored ⊢
              dsimp only at stored ⊢
              cases chosen : version.filter fun version => version ≠ "" with
              | some version =>
                  left
                  rw [chosen] at stored
                  refine elsewhere _ _ (by simp) fun hit => ?_
                  dsimp only at stored
                  rw [(Prod.mk.inj hit).2] at stored
                  rw [stored, Option.any_some, not_equal_of_tenant owned] at conflict
                  cases conflict
              | none =>
                  by_cases hit : query = manifest.connectorId
                  · right
                    subst hit
                    rw [chosen] at stored
                    refine ⟨found, row, ?_, stored, owned⟩
                    unfold Connectors.ConnectorRegistry.get at returned ⊢
                    rw [chosen] at returned
                    exact returned
                  · exact .inl (elsewhere _ _ (fun equal => hit (Prod.mk.inj equal).2) (by simp))
  · obtain ⟨error, invalid⟩ := exists_error_of_ne_ok valid
    exact .inl ⟨fun accepted => valid accepted.1,
      congrArg Prod.snd (perform_invalid invalid _ _ state)⟩

theorem registers (lawful : store.Lawful) (state : ConnectorState State Number)
    (registration : Registration Number) : Registers store library state registration := by
  cases registration with
  | tool context manifest permission toolId newId now =>
      exact tool_registers lawful state context manifest permission toolId newId now
  | connector context manifest credentials policy connectorId newId now =>
      exact connector_registers lawful state context manifest credentials policy connectorId newId
        now
  | manifest manifest tenantId createdBy =>
      exact manifest_registers lawful state manifest tenantId createdBy

/-- A registration keeps what the other tenants own exactly when it replaces nothing of them. -/
theorem registration_step (lawful : store.Lawful) (state : ConnectorState State Number)
    (registration : Registration Number) :
    (∀ reader : Reader, registration.tenantId ≠ reader.context.tenantId →
      ReturnsOwn store library state reader →
        ReturnsOwn store library (registrationMachine store library state registration).2 reader) ↔
      KeepsOwners store library state registration := by
  rcases registers lawful state registration with
    ⟨refused, same⟩ | ⟨accepted, ⟨row, present, owner⟩, others⟩
  · rw [same]
    exact iff_of_true (fun _ _ own => own) fun accepted => absurd accepted refused
  · constructor
    · intro kept _ context now foreign own
      exact not_returnsOwn_of_record present owner foreign (kept _ foreign own)
    · intro keeps reader foreign own
      rcases others reader own with same | replacedOwn
      · exact own.of_record same
      · exact absurd replacedOwn (keeps accepted reader.context reader.now foreign)

/-- In every run of registrations, each tenant keeps getting its own tools and connectors after the
registrations of others exactly when no registration replaces what another tenant owns. -/
theorem registrations_stable_iff (lawful : store.Lawful) (state : ConnectorState State Number)
    (registrations : List (Registration Number)) :
    Stable (registrationMachine store library)
      (fun registration (reader : Reader) => registration.tenantId ≠ reader.context.tenantId)
      (ReturnsOwn store library) state registrations ↔
    Guarded (registrationMachine store library) (KeepsOwners store library) state
      registrations :=
  stable_iff_guarded _ _ _ _ (registration_step lawful) state registrations

end Lookup

end Registries

/-- A tenant registers a summary tool under an id. -/
def summaryTool (tenantId toolId : String) : Registration Nat :=
  .tool ⟨tenantId, "org-a", "owner-a", false⟩ ⟨"Summary", "document_summary", "", "1.0.0", none, []⟩
    ⟨"tools.execute", true, true, true, false, true, ["public", "internal"]⟩ (some toolId)
    "tool-generated" .first

/-- Another tenant takes over the id of a registered tool. -/
theorem registrations_not_stable :
    ¬ Stable (registrationMachine backend tenths)
      (fun registration (reader : Reader) => registration.tenantId ≠ reader.context.tenantId)
      (ReturnsOwn backend tenths)
      (ConnectorState.initial backend)
      [summaryTool "tenant-a" "tool-1", summaryTool "tenant-b" "tool-1"] := by
  intro stable
  let reader : Reader := ⟨⟨"tenant-a", "org-a", "owner-a", false⟩, .first, .tool "tool-1"⟩
  have foreign : ∀ registration ∈ [summaryTool "tenant-b" "tool-1"],
      registration.tenantId ≠ reader.context.tenantId := by
    intro registration member
    rw [List.mem_singleton.mp member]
    decide
  obtain ⟨tool, found, _⟩ := stable [summaryTool "tenant-a" "tool-1"]
    [summaryTool "tenant-b" "tool-1"] [] rfl reader foreign ⟨_, rfl, rfl⟩
  have refused : ToolRegistry.get backend tenths
      (run (registrationMachine backend tenths) (ConnectorState.initial backend)
        [summaryTool "tenant-a" "tool-1", summaryTool "tenant-b" "tool-1"]).persistence
      reader.context "tool-1" .first =
        .error (.authorizationError "cross-tenant tool access denied") := rfl
  cases refused.symm.trans found

/-- Two tenants register tools under two ids. -/
theorem registrations_stable_two :
    Stable (registrationMachine backend tenths)
      (fun registration (reader : Reader) => registration.tenantId ≠ reader.context.tenantId)
      (ReturnsOwn backend tenths)
      (ConnectorState.initial backend)
      [summaryTool "tenant-a" "tool-1", summaryTool "tenant-b" "tool-2"] ↔
    Guarded (registrationMachine backend tenths) (KeepsOwners backend tenths)
      (ConnectorState.initial backend)
      [summaryTool "tenant-a" "tool-1", summaryTool "tenant-b" "tool-2"] :=
  registrations_stable_iff backend_lawful _ _

end AgentFabric.Tools
