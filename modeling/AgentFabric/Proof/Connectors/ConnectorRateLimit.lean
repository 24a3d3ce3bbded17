import AgentFabric.Foundation.Comprehension
import AgentFabric.Proof.Connectors.ConnectorGate
import AgentFabric.Proof.Persistence.AtomicUnits

namespace AgentFabric.Connectors
open Persistence Transition Cloud Comprehension

/-- An execution with its service and the time at which it calls the adapter. -/
structure TimedExecution (Number : Type) where
  service : ConnectorExecutionService Number
  request : ConnectorRequest Number
  invokedAt : UtcTime

/-- The clock of an execution never goes back. -/
def TimedExecution.Timely {Number : Type} (call : TimedExecution Number) : Prop :=
  call.request.limitedAt.wall.micros ≤ call.invokedAt.wall.micros ∧
    call.invokedAt.wall.micros ≤ call.request.executedAt.wall.micros

/-- A call of an adapter for an execution. -/
structure AdapterCall (Number : Type) where
  execution : TimedExecution Number
  manifest : ConnectorManifest Number

/-- The call is made for the tenant and the connector in the minute after the start. -/
def AdapterCall.within {Number : Type} (tenantId connectorId : String) (start : Nat)
    (call : AdapterCall Number) : Bool :=
  call.execution.request.context.tenantId = tenantId &&
    call.execution.request.connectorId = connectorId &&
    start ≤ call.execution.invokedAt.wall.micros &&
    call.execution.invokedAt.wall.micros ≤ start + 60000000

section Limit

variable {State Number : Type} (store : PersistenceStore State) (library : Library Number)

/-- An execution is answered with the calls of adapters that it makes. -/
def limitedMachine :
    Machine (ConnectorState State Number) (TimedExecution Number) (List (AdapterCall Number)) :=
  fun state call =>
    let operation := ConnectorCall.execute call.service call.request
    ((ConnectorState.invoked store library state operation).map
        fun invocation => ⟨call, invocation.manifest⟩,
      (ConnectorState.answer store library state operation).2)

variable (state : ConnectorState State Number)

/-- The calls of adapters in a run of executions. -/
def adapterCalls (calls : List (TimedExecution Number)) : List (AdapterCall Number) :=
  (responses (limitedMachine store library) state calls).flatten

/-- An execution that reaches the adapter is recorded: the adapter answers, the sandbox accepts the
response and VEIL records the call. -/
def Recorded (call : TimedExecution Number) : Prop :=
  ∀ prepared, call.service.prepare store library state call.request = .ok prepared →
    call.service.delivers call.request prepared = true

/-- In every minute a tenant has at most as many calls of an adapter as the limit of the manifest
allows. -/
def Limited (calls : List (AdapterCall Number)) : Prop :=
  ∀ tenantId connectorId start, ∀ call ∈ calls.filter (AdapterCall.within tenantId connectorId start),
    ∃ limit, call.manifest.rateLimits.get? "requests_per_minute" = some limit ∧
      ((calls.filter (AdapterCall.within tenantId connectorId start)).length : Int) ≤ limit

/-- A row of an execution of the tenant and the connector that is not before the cutoff. -/
structure Recent (tenantId connectorId : String) (now : UtcTime) (row : Json) : Prop where
  tenant : PersistenceStore.hasText row "tenant_id" tenantId = true
  connector : PersistenceStore.hasText row "connector_id" connectorId = true
  timestamp : ∃ executedAt : UtcTime, row.field? "timestamp" = some (.str executedAt.isoformat) ∧
    now.wall.micros ≤ executedAt.wall.micros + 60000000

namespace ConnectorExecutionService

/-- A moved wall clock reads the sum. -/
theorem micros_of_add? {value moved : WallClock} {micros : Int}
    (added : value.add? micros = some moved) : (moved.micros : Int) = value.micros + micros := by
  unfold WallClock.add? WallClock.ofMicros? at added
  split at added
  · split at added
    · obtain rfl := Option.some.inj added
      dsimp only
      omega
    · cases added
  · cases added

variable {now : UtcTime} {cutoff : DateTime}

/-- A span of minus one minute moves the wall clock back. -/
theorem micros_of_add (added : CronParser.add now.toDateTime (-60000000) = .ok cutoff) :
    cutoff.offset = some .utc ∧ now.wall.micros = cutoff.wall.micros + 60000000 := by
  unfold CronParser.add at added
  split at added
  · rename_i wall moved
    obtain rfl := Except.ok.inj added
    have total := micros_of_add? moved
    refine ⟨rfl, ?_⟩
    change (wall.micros : Int) = now.wall.micros + -60000000 at total
    dsimp only
    omega
  · cases added

variable {tenantId connectorId : String}

/-- A recent row passes the filter of the rate limit. -/
theorem passes_of_recent (added : CronParser.add now.toDateTime (-60000000) = .ok cutoff)
    {row : Json} (recent : Recent tenantId connectorId now row) :
    passes (isRecent library connectorId cutoff) row = true := by
  obtain ⟨aware, earlier⟩ := micros_of_add added
  obtain ⟨executedAt, stored, late⟩ := recent.timestamp
  have read : isRecent library connectorId cutoff row = .ok true := by
    rw [isRecent, if_pos recent.connector, Library.textItem, stored]
    simp only [bind, Except.bind, Interpreter.str, Library.readTime, UtcTime.isoformat,
      DateTime.fromisoformat_isoformat, DateTime.later?, aware, UtcTime.toDateTime]
    simp only [if_true, DateTime.instant, Except.ok.injEq, Bool.not_eq_true',
      decide_eq_false_iff_not, not_lt, aware, Option.elim]
    omega
  rw [passes, read]

/-- A passed rate limit leaves room for one more recent execution. -/
theorem room_of_enforceRateLimit (lawful : store.Lawful) {persistence : State}
    {manifest : ConnectorManifest Number}
    (passed : enforceRateLimit store library persistence tenantId connectorId manifest now = .ok ())
    {rows : List (String × Json)} (distinct : (rows.map Prod.fst).Nodup)
    (stored : ∀ row ∈ rows, store.Row persistence "enterprise_connector_executions" row)
    (recent : ∀ row ∈ rows, Recent tenantId connectorId now row.2) :
    ∃ limit, manifest.rateLimits.get? "requests_per_minute" = some limit ∧
      (rows.length : Int) < limit := by
  unfold enforceRateLimit at passed
  obtain ⟨cutoff, added, passed⟩ := bind_eq_ok_iff.mp passed
  obtain ⟨kept, answered, passed⟩ := bind_eq_ok_iff.mp passed
  cases named : manifest.rateLimits.get? "requests_per_minute" with
  | none =>
      rw [named] at passed
      cases passed
  | some limit =>
      rw [named] at passed
      simp only [refuseWhen_eq_ok_iff, decide_eq_false_iff_not, not_le] at passed
      refine ⟨limit, rfl, lt_of_le_of_lt ?_ passed⟩
      rw [countP_mapM answered]
      have inside := (lawful.subperm_list distinct stored).filter
        fun row => PersistenceStore.hasText row "tenant_id" tenantId
      have counted := inside.countP_le (passes (isRecent library connectorId cutoff))
      have own : (rows.map Prod.snd).filter
          (fun row => PersistenceStore.hasText row "tenant_id" tenantId) = rows.map Prod.snd := by
        apply List.filter_eq_self.mpr
        intro row member
        obtain ⟨source, listed, rfl⟩ := List.mem_map.mp member
        exact (recent source listed).tenant
      have all : (rows.map Prod.snd).countP (passes (isRecent library connectorId cutoff)) =
          rows.length := by
        rw [List.countP_eq_length.mpr, List.length_map]
        intro row member
        obtain ⟨source, listed, rfl⟩ := List.mem_map.mp member
        exact passes_of_recent library added (recent source listed)
      rw [own, all] at counted
      exact Int.ofNat_le.mpr counted

end ConnectorExecutionService

/-- The manifest of the call is the one of the connector that is enabled for the tenant. -/
def Enabled (persistence : State) (call : AdapterCall Number) : Prop :=
  let request := call.execution.request
  ∃ connector, ConnectorRegistry.state store library persistence request.context
      request.connectorId request.readAt = .ok connector ∧
    ConnectorRegistry.get store library persistence request.context request.connectorId
      (some connector.version) = .ok call.manifest

/-- Stores with the same registry enable the same manifests. -/
theorem Enabled.of_get {persistence after : State} {call : AdapterCall Number}
    (enabled : Enabled store library persistence call)
    (same : ∀ collection key, collection ≠ "enterprise_connector_executions" →
      collection ≠ "enterprise_connector_denials" →
        store.get after collection key = store.get persistence collection key) :
    Enabled store library after call := by
  obtain ⟨connector, found, read⟩ := enabled
  refine ⟨connector, ?_, ?_⟩
  · rw [ConnectorRegistry.state, same _ _ (by decide) (by decide)]
    exact found
  · unfold ConnectorRegistry.get at read ⊢
    simp only [same "enterprise_connector_manifests" _ (by decide) (by decide),
      same "enterprise_connector_latest" _ (by decide) (by decide)]
    exact read

variable {persistence : State} {context other : TenantContext} {connectorId : String}

/-- The enablement of a connector has one version. -/
theorem version_unique
    {now later : UtcTime} {first second : TenantConnector}
    (tenant : context.tenantId = other.tenantId)
    (found : ConnectorRegistry.state store library persistence context connectorId now = .ok first)
    (again : ConnectorRegistry.state store library persistence other connectorId later =
      .ok second) : first.version = second.version := by
  have read {document : Json} {context : TenantContext} {now : UtcTime}
      {connector : TenantConnector}
      (returned : (do
        let connector ← TenantConnector.fromDict library now document
        if connector.tenantId ≠ context.tenantId then
          .error (.authorizationError "cross-tenant connector state denied")
        else .ok connector) = (.ok connector : Except PyError TenantConnector)) :
      library.textItem document "version" = .ok connector.version := by
    obtain ⟨stored, converted, checked⟩ := bind_eq_ok_iff.mp returned
    split at checked
    · cases checked
    · obtain rfl := Except.ok.inj checked
      unfold TenantConnector.fromDict at converted
      obtain ⟨_, _, converted⟩ := bind_eq_ok_iff.mp converted
      obtain ⟨_, _, converted⟩ := bind_eq_ok_iff.mp converted
      obtain ⟨version, present, converted⟩ := bind_eq_ok_iff.mp converted
      obtain ⟨_, _, converted⟩ := bind_eq_ok_iff.mp converted
      obtain ⟨_, _, converted⟩ := bind_eq_ok_iff.mp converted
      obtain rfl := Except.ok.inj converted
      exact present
  unfold ConnectorRegistry.state at found again
  rw [tenant] at found
  cases held : store.get persistence "enterprise_connector_enablement"
      (other.tenantId ++ ":" ++ connectorId) with
  | none =>
      rw [held] at found
      cases found
  | some document =>
      rw [held] at found again
      rw [← tenant] at found
      exact Except.ok.inj ((read found).symm.trans (read again))

/-- A version of a connector has one manifest. -/
theorem manifest_unique {version : Option String} {first second : ConnectorManifest Number}
    (found : ConnectorRegistry.get store library persistence context connectorId version =
      .ok first)
    (again : ConnectorRegistry.get store library persistence other connectorId version =
      .ok second) : first = second := by
  unfold ConnectorRegistry.get at found again
  dsimp only at found again
  split at found
  · cases found
  · rename_i document held
    rw [held] at again
    dsimp only at again
    split at found
    · cases found
    · split at again
      · cases again
      · exact Except.ok.inj (found.symm.trans again)

theorem Enabled.unique {first second : AdapterCall Number}
    (enabled : Enabled store library persistence first)
    (other : Enabled store library persistence second)
    (tenant : first.execution.request.context.tenantId = second.execution.request.context.tenantId)
    (same : first.execution.request.connectorId = second.execution.request.connectorId) :
    first.manifest = second.manifest := by
  obtain ⟨connector, found, read⟩ := enabled
  obtain ⟨otherConnector, otherFound, otherRead⟩ := other
  rw [← same] at otherFound otherRead
  rw [version_unique store library tenant found otherFound] at read
  exact manifest_unique store library read otherRead

/-- The row of a call in the collection of executions. -/
def executionRow (persistence : State) (call : AdapterCall Number) : String × Json :=
  (call.execution.request.executionId,
    (store.get persistence "enterprise_connector_executions"
      call.execution.request.executionId).getD .null)

/-- The call is stored with its tenant, its connector and its time. -/
structure Stored (persistence : State) (call : AdapterCall Number) : Prop where
  row : store.Row persistence "enterprise_connector_executions"
    (executionRow store persistence call)
  tenant : PersistenceStore.hasText (executionRow store persistence call).2 "tenant_id"
    call.execution.request.context.tenantId = true
  connector : PersistenceStore.hasText (executionRow store persistence call).2 "connector_id"
    call.execution.request.connectorId = true
  timestamp : (executionRow store persistence call).2.field? "timestamp" =
    some (.str call.execution.request.executedAt.isoformat)

/-- Every past call is stored and its manifest is the enabled one. -/
structure PastKept (persistence : State) (past : List (AdapterCall Number)) : Prop where
  stored : ∀ call ∈ past, Stored store persistence call
  enabled : ∀ call ∈ past, Enabled store library persistence call
  distinct : (past.map fun call => call.execution.request.executionId).Nodup
  timely : ∀ call ∈ past, call.execution.Timely

section Step

variable {store}

/-- An execution writes at most its own record and a denial. -/
theorem execute_frame (lawful : store.Lawful) (state : ConnectorState State Number)
    (call : TimedExecution Number) {collection key : String}
    (other : collection ≠ "enterprise_connector_denials")
    (different : (collection, key) ≠
      ("enterprise_connector_executions", call.request.executionId)) :
    store.get (limitedMachine store library state call).2.persistence collection key =
      store.get state.persistence collection key := by
  have after : (limitedMachine store library state call).2 =
      ((call.service.execute store library call.request).perform state).2 :=
    Effect.perform_bind_snd (fun _ _ => rfl) state
  rw [after]
  rcases call.service.execute_cases library call.request lawful state with
    ⟨error, _, returned⟩ | ⟨_, _, _, _, _, next, _, written, returned⟩ |
    ⟨_, _, _, _, next, written, returned⟩
  · rw [returned]
  · rw [returned]
    exact lawful.get_put_of_ne _ _ _ _ _ _ _ written different
  · rw [returned]
    exact lawful.get_put_of_ne _ _ _ _ _ _ _ written fun same => other (Prod.mk.inj same).1

variable {state : ConnectorState State Number} {past : List (AdapterCall Number)}

/-- An execution with a new id keeps the past calls. -/
theorem PastKept.machine (lawful : store.Lawful) (kept : PastKept store library state.persistence past)
    (call : TimedExecution Number)
    (fresh : ∀ earlier ∈ past, earlier.execution.request.executionId ≠ call.request.executionId) :
    PastKept store library (limitedMachine store library state call).2.persistence past := by
  have same (earlier : AdapterCall Number) (member : earlier ∈ past) :
      executionRow store (limitedMachine store library state call).2.persistence earlier =
        executionRow store state.persistence earlier := by
    rw [executionRow, execute_frame library lawful state call (by decide)
      (fun equal => fresh earlier member (Prod.mk.inj equal).2)]
    rfl
  refine ⟨?_, ?_, kept.distinct, kept.timely⟩
  · intro earlier member
    have stored := kept.stored earlier member
    refine ⟨?_, ?_, ?_, ?_⟩
    · rw [same earlier member, PersistenceStore.Row]
      exact (execute_frame library lawful state call (by decide)
        (fun equal => fresh earlier member (Prod.mk.inj equal).2)).trans stored.row
    · rw [same earlier member]
      exact stored.tenant
    · rw [same earlier member]
      exact stored.connector
    · rw [same earlier member]
      exact stored.timestamp
  · intro earlier member
    apply (kept.enabled earlier member).of_get
    intro collection key different other
    exact execute_frame library lawful state call other fun equal => different (Prod.mk.inj equal).1

/-- An execution calls no adapter, or it is prepared and calls its adapter once. -/
theorem limitedMachine_cases (state : ConnectorState State Number) (call : TimedExecution Number) :
    (limitedMachine store library state call).1 = [] ∨
      ∃ prepared, call.request.context.require = .ok () ∧
        call.service.prepare store library state call.request = .ok prepared ∧
          (limitedMachine store library state call).1 = [⟨call, prepared.manifest⟩] := by
  have after : (limitedMachine store library state call).2.invocations =
      ((call.service.execute store library call.request).perform state).2.invocations :=
    congrArg ConnectorState.invocations (Effect.perform_bind_snd (fun _ _ => rfl) state)
  have made : (limitedMachine store library state call).1 =
      ((limitedMachine store library state call).2.invocations.drop state.invocations.length).map
        fun invocation => ⟨call, invocation.manifest⟩ := rfl
  rw [made, after]
  cases required : call.request.context.require with
  | error error =>
      left
      rw [ConnectorExecutionService.execute, Effect.perform_bind, Effect.perform_ofExcept, required]
      simp
  | ok _ =>
      rcases call.service.execute_invocations store library call.request state with same | called
      · left
        rw [same]
        simp
      · rw [called, List.drop_left, ConnectorExecutionService.preparedInvocations]
        cases prepared : call.service.prepare store library state call.request with
        | error error => exact .inl rfl
        | ok ready => exact .inr ⟨ready, rfl, rfl, rfl⟩

variable {call : TimedExecution Number} {prepared : PreparedRequest Number}

/-- A prepared request has passed the rate limit of the enabled manifest. -/
theorem prepare_limited
    (passed : call.service.prepare store library state call.request = .ok prepared) :
    Enabled store library state.persistence ⟨call, prepared.manifest⟩ ∧
      ConnectorExecutionService.enforceRateLimit store library state.persistence
        call.request.context.tenantId call.request.connectorId prepared.manifest
          call.request.limitedAt = .ok () := by
  unfold ConnectorExecutionService.prepare at passed
  dsimp only at passed
  obtain ⟨connector, connectorStored, passed⟩ := bind_eq_ok_iff.mp passed
  obtain ⟨_, _, passed⟩ := bind_eq_ok_iff.mp passed
  obtain ⟨manifest, manifestStored, passed⟩ := bind_eq_ok_iff.mp passed
  iterate 10 obtain ⟨_, _, passed⟩ := bind_eq_ok_iff.mp passed
  obtain ⟨_, limited, passed⟩ := bind_eq_ok_iff.mp passed
  iterate 3 obtain ⟨_, _, passed⟩ := bind_eq_ok_iff.mp passed
  obtain rfl := Except.ok.inj passed
  exact ⟨⟨connector, connectorStored, manifestStored⟩, limited⟩

/-- A field with a text holds that text. -/
theorem field?_of_textField {document : Json} {key text : String}
    (present : Json.textField document key none = some text) :
    document.field? key = some (.str text) := by
  unfold Json.textField at present
  split at present
  · cases present
  · obtain rfl := Option.some.inj present
    assumption
  · cases present

/-- A recorded execution is stored. -/
theorem stored_of_put (lawful : store.Lawful) {persistence after : State}
    {call : AdapterCall Number} {response : Json}
    {veilAuditRef : Option String}
    (written : store.put persistence "enterprise_connector_executions"
      call.execution.request.executionId (ConnectorExecutionService.completed
        call.execution.request prepared response veilAuditRef).asDict = .ok after) :
    Stored store after call := by
  obtain ⟨read, present, same⟩ := lawful.get_put_self _ _ _ _ _ written
  have row : executionRow store after call = (call.execution.request.executionId, read) := by
    rw [executionRow, present]
    rfl
  refine ⟨?_, ?_, ?_, ?_⟩
  · rw [row]
    exact present
  · rw [row]
    exact (DocumentStore.hasText_same same _ _).trans
      (ConnectorExecutionService.completed_tenant _ prepared response veilAuditRef)
  · rw [row]
    exact (DocumentStore.hasText_same same _ _).trans (decide_eq_true rfl)
  · rw [row]
    exact field?_of_textField ((Json.textField_of_same same _ _).trans rfl)

/-- An execution that succeeds is recorded. -/
theorem recorded_of_succeeds
    (succeeded : call.service.succeeds store library call.request state = true) :
    Recorded store library state call := by
  intro prepared passed
  rw [ConnectorExecutionService.succeeds, passed] at succeeded
  exact succeeded

/-- The window of a new call leaves room below its limit. -/
theorem room_of_prepared (lawful : store.Lawful)
    (kept : PastKept store library state.persistence past) (timely : call.Timely)
    (passed : call.service.prepare store library state call.request = .ok prepared)
    {tenantId connectorId : String} {start : Nat}
    (inside : (⟨call, prepared.manifest⟩ : AdapterCall Number).within tenantId connectorId start =
      true) :
    ∃ limit, prepared.manifest.rateLimits.get? "requests_per_minute" = some limit ∧
      ((past.filter (AdapterCall.within tenantId connectorId start)).length : Int) < limit := by
  obtain ⟨_, limited⟩ := prepare_limited library passed
  simp only [AdapterCall.within, Bool.and_eq_true, decide_eq_true_eq] at inside
  obtain ⟨⟨⟨tenant, connector⟩, started⟩, ended⟩ := inside
  rw [tenant, connector] at limited
  let window := past.filter (AdapterCall.within tenantId connectorId start)
  have member (earlier : AdapterCall Number) (listed : earlier ∈ window) :
      earlier ∈ past ∧ earlier.execution.request.context.tenantId = tenantId ∧
        earlier.execution.request.connectorId = connectorId ∧
          start ≤ earlier.execution.invokedAt.wall.micros := by
    obtain ⟨old, within⟩ := List.mem_filter.mp listed
    simp only [AdapterCall.within, Bool.and_eq_true, decide_eq_true_eq] at within
    exact ⟨old, within.1.1.1, within.1.1.2, within.1.2⟩
  have distinct : ((window.map (executionRow store state.persistence)).map Prod.fst).Nodup := by
    rw [List.map_map]
    exact kept.distinct.sublist (List.filter_sublist.map _)
  have stored : ∀ row ∈ window.map (executionRow store state.persistence),
      store.Row state.persistence "enterprise_connector_executions" row := by
    intro row listed
    obtain ⟨earlier, found, rfl⟩ := List.mem_map.mp listed
    exact (kept.stored earlier (member earlier found).1).row
  have recent : ∀ row ∈ window.map (executionRow store state.persistence),
      Recent tenantId connectorId call.request.limitedAt row.2 := by
    intro row listed
    obtain ⟨earlier, found, rfl⟩ := List.mem_map.mp listed
    obtain ⟨old, sameTenant, sameConnector, late⟩ := member earlier found
    have held := kept.stored earlier old
    have ordered := (kept.timely earlier old).2
    have early := timely.1
    refine ⟨?_, ?_, _, held.timestamp, ?_⟩
    · rw [← sameTenant]
      exact held.tenant
    · rw [← sameConnector]
      exact held.connector
    · omega
  have room := ConnectorExecutionService.room_of_enforceRateLimit store library lawful limited
    distinct stored recent
  rw [List.length_map] at room
  exact room

/-- One execution keeps the past calls and the limit. -/
theorem limitedMachine_step (lawful : store.Lawful)
    (kept : PastKept store library state.persistence past)
    (limited : Limited past) (call : TimedExecution Number) (timely : call.Timely)
    (fresh : ∀ earlier ∈ past, earlier.execution.request.executionId ≠ call.request.executionId)
    (recorded : Recorded store library state call) :
    let answer := limitedMachine store library state call
    PastKept store library answer.2.persistence (past ++ answer.1) ∧
      Limited (past ++ answer.1) := by
  have later := kept.machine library lawful call fresh
  dsimp only
  rcases limitedMachine_cases library state call with
    none | ⟨prepared, required, passed, made⟩
  · rw [none, List.append_nil]
    exact ⟨later, limited⟩
  · have delivered := recorded prepared passed
    have succeeded : call.service.succeeds store library call.request state = true := by
      rw [ConnectorExecutionService.succeeds, passed]
      exact delivered
    have enabled := (prepare_limited library passed).1
    rw [made]
    refine ⟨⟨?_, ?_, ?_, ?_⟩, ?_⟩
    · intro other member
      rcases List.mem_append.mp member with old | new
      · exact later.stored other old
      · obtain rfl := List.mem_singleton.mp new
        have after : (limitedMachine store library state call).2 =
            ((call.service.execute store library call.request).perform state).2 :=
          Effect.perform_bind_snd (fun _ _ => rfl) state
        rcases call.service.execute_cases library call.request lawful state with
          ⟨error, refused, _⟩ | ⟨_, _, _, _, _, next, _, written, returned⟩ |
          ⟨_, failed, _⟩
        · cases required.symm.trans refused
        · rw [after, returned]
          exact stored_of_put lawful written
        · cases succeeded.symm.trans failed
    · intro other member
      rcases List.mem_append.mp member with old | new
      · exact later.enabled other old
      · obtain rfl := List.mem_singleton.mp new
        apply enabled.of_get
        intro collection key different unlike
        exact execute_frame library lawful state call unlike
          fun equal => different (Prod.mk.inj equal).1
    · rw [List.map_append]
      apply List.Nodup.append kept.distinct (List.nodup_singleton _)
      intro id old new
      obtain ⟨earlier, member, rfl⟩ := List.mem_map.mp old
      exact fresh earlier member (List.mem_singleton.mp new)
    · intro other member
      rcases List.mem_append.mp member with old | new
      · exact kept.timely other old
      · obtain rfl := List.mem_singleton.mp new
        exact timely
    · intro tenantId connectorId start other listed
      rw [List.filter_append] at listed ⊢
      cases inside : (⟨call, prepared.manifest⟩ : AdapterCall Number).within tenantId connectorId
          start with
      | false =>
          rw [List.filter_singleton, inside, cond_false, List.append_nil] at listed ⊢
          exact limited tenantId connectorId start other listed
      | true =>
          rw [List.filter_singleton, inside, cond_true] at listed ⊢
          obtain ⟨limit, named, room⟩ := room_of_prepared library lawful kept timely passed inside
          have same : other.manifest = prepared.manifest := by
            rcases List.mem_append.mp listed with old | new
            · obtain ⟨member, within⟩ := List.mem_filter.mp old
              simp only [AdapterCall.within, Bool.and_eq_true, decide_eq_true_eq] at inside within
              exact (kept.enabled other member).unique store library enabled
                (within.1.1.1.trans inside.1.1.1.symm) (within.1.1.2.trans inside.1.1.2.symm)
            · obtain rfl := List.mem_singleton.mp new
              rfl
          refine ⟨limit, same ▸ named, ?_⟩
          rw [List.length_append, List.length_singleton]
          omega

/-- A run keeps the limit of the calls before it. -/
theorem limited_append_adapterCalls (lawful : store.Lawful) (state : ConnectorState State Number)
    (calls : List (TimedExecution Number)) (past : List (AdapterCall Number))
    (kept : PastKept store library state.persistence past) (limited : Limited past)
    (timely : ∀ call ∈ calls, call.Timely)
    (distinct : (calls.map fun call => call.request.executionId).Nodup)
    (fresh : ∀ earlier ∈ past, ∀ call ∈ calls,
      earlier.execution.request.executionId ≠ call.request.executionId)
    (recorded : Guarded (limitedMachine store library) (Recorded store library) state calls) :
    Limited (past ++ adapterCalls store library state calls) := by
  induction calls generalizing state past with
  | nil =>
      rw [adapterCalls, responses, List.flatten_nil, List.append_nil]
      exact limited
  | cons call rest ih =>
      rw [List.map_cons, List.nodup_cons] at distinct
      obtain ⟨next, stillLimited⟩ := limitedMachine_step library lawful kept limited call
        (timely call (.head _))
        (fun earlier member => fresh earlier member call (.head _)) recorded.1
      rw [adapterCalls, responses, List.flatten_cons, ← List.append_assoc]
      apply ih _ _ next stillLimited (fun later member => timely later (.tail _ member))
        distinct.2 _ recorded.2
      intro earlier member later listed
      rcases List.mem_append.mp member with old | new
      · exact fresh earlier old later (.tail _ listed)
      · have own : earlier.execution = call := by
          rcases limitedMachine_cases library state call with none | ⟨_, _, _, made⟩
          · rw [none] at new
            cases new
          · rw [made] at new
            rw [List.mem_singleton.mp new]
        rw [own]
        exact fun same => distinct.1 (List.mem_map.mpr ⟨later, listed, same.symm⟩)

/-- In every run of executions whose calls of adapters are all recorded, a tenant has in every minute
at most as many calls of an adapter as the limit of the manifest allows. -/
theorem adapterCalls_limited (lawful : store.Lawful) (state : ConnectorState State Number)
    (calls : List (TimedExecution Number)) (timely : ∀ call ∈ calls, call.Timely)
    (distinct : (calls.map fun call => call.request.executionId).Nodup)
    (recorded : Guarded (limitedMachine store library) (Recorded store library) state calls) :
    Limited (adapterCalls store library state calls) := by
  have initial : PastKept store library state.persistence [] := by
    refine ⟨?_, ?_, List.nodup_nil, ?_⟩ <;> simp
  have empty : Limited ([] : List (AdapterCall Number)) := by
    intro tenantId connectorId start call member
    cases member
  exact limited_append_adapterCalls library lawful state calls [] initial empty timely distinct
    (by simp) recorded

end Step

end Limit

/-- The connector is enabled and has been called by nobody. -/
def limitedState : ConnectorState MemoryPersistenceStore Nat :=
  run (ConnectorState.answer MemoryPersistenceStore.backend tenths)
    (ConnectorState.initial MemoryPersistenceStore.backend) enabledConnector

/-- An execution of the allowed request one minute after the first reading. -/
def timedExecution (service : ConnectorExecutionService Nat) (executionId : String) :
    TimedExecution Nat :=
  ⟨service, { readRequest with executionId }, readRequest.executedAt⟩

/-- A service whose adapter always raises. -/
def unreachable : ConnectorExecutionService Nat :=
  { allowing with adapter := fun _ _ _ _ => .error (.valueError "connection reset") }

/-- A connector that allows two requests in a minute is called three times in one moment. -/
theorem adapterCalls_not_limited :
    ¬ Limited (adapterCalls MemoryPersistenceStore.backend tenths limitedState
      [timedExecution unreachable "connector-exec-1", timedExecution unreachable "connector-exec-2",
        timedExecution unreachable "connector-exec-3"]) := by
  intro limited
  let window := (adapterCalls MemoryPersistenceStore.backend tenths limitedState
    [timedExecution unreachable "connector-exec-1", timedExecution unreachable "connector-exec-2",
      timedExecution unreachable "connector-exec-3"]).filter
        (AdapterCall.within "tenant-a" "github" 60000000)
  have three : window.length = 3 := by decide +kernel
  have two : (window.any fun call =>
      call.manifest.rateLimits.get? "requests_per_minute" = some 2) = true := by
    decide +kernel
  obtain ⟨call, member, allowed⟩ := List.any_eq_true.mp two
  obtain ⟨limit, named, few⟩ := limited "tenant-a" "github" 60000000 call member
  obtain rfl := Option.some.inj ((of_decide_eq_true allowed).symm.trans named)
  change (window.length : Int) ≤ 2 at few
  rw [three] at few
  exact absurd few (by decide)

/-- Two recorded executions of one moment stay within the limit. -/
theorem adapterCalls_limited_two :
    Limited (adapterCalls MemoryPersistenceStore.backend tenths limitedState
      [timedExecution allowing "connector-exec-1", timedExecution allowing "connector-exec-2"]) := by
  apply adapterCalls_limited tenths MemoryPersistenceStore.backend_lawful
  · simp [timedExecution, TimedExecution.Timely, readRequest]
  · decide
  · refine ⟨recorded_of_succeeds tenths ?_, recorded_of_succeeds tenths ?_, trivial⟩ <;>
      decide +kernel

end AgentFabric.Connectors
