import AgentFabric.Construction.Production.ControlPlane

namespace AgentFabric.Phase1

variable {Number : Type} (interpreter : Interpreter) (float : Json → Except PyError Number)

/-- The manifest that is loaded from the reloaded fields. -/
def AgentManifest.reloaded (manifest : AgentManifest Number) : AgentManifest Number :=
  { manifest with
    name := manifest.name.sortKeys
    description := manifest.description.sortKeys
    entrypoint := manifest.entrypoint.sortKeys
    capabilities := manifest.capabilities.map Json.sortKeys
    permissions := manifest.permissions.map Json.sortKeys
    sandbox := Json.sortObject manifest.sandbox }

namespace ManifestLoader

variable (payload : ManifestPayload)

theorem missing_reloaded : missing payload.reloaded = missing payload := by
  simp only [missing, ManifestPayload.get?_reloaded, Option.isNone_map]

theorem checkFields_reloaded : checkFields payload.reloaded = checkFields payload := by
  rw [checkFields, checkFields, missing_reloaded]

theorem checkVersion_reloaded : checkVersion payload.reloaded = checkVersion payload := by
  rw [checkVersion, checkVersion, ManifestPayload.get?_reloaded]
  cases payload.get? "manifest_version" with
  | none => rfl
  | some value => cases value <;> simp only [Option.map_some, Json.sortKeys]

theorem listField_reloaded (key : String) :
    listField payload.reloaded key = (listField payload key).map (List.map Json.sortKeys) := by
  rw [listField, listField, ManifestPayload.get?_reloaded]
  cases payload.get? key with
  | none => rfl
  | some value =>
      cases value <;> simp only [Option.map_some, Json.sortKeys, Json.sortItems_eq_map] <;> rfl

theorem sandboxField_reloaded :
    sandboxField payload.reloaded = (sandboxField payload).map Json.sortObject := by
  rw [sandboxField, sandboxField, ManifestPayload.get?_reloaded]
  cases payload.get? "sandbox" with
  | none => rfl
  | some value => cases value <;> simp only [Option.map_some, Json.sortKeys] <;> rfl

theorem item_reloaded (key : String) :
    item payload.reloaded key = (item payload key).map Json.sortKeys := by
  rw [item, item, ManifestPayload.get?_reloaded]
  cases payload.get? key <;> rfl

theorem maxRunSeconds_reloaded :
    maxRunSeconds float payload.reloaded = maxRunSeconds float payload := by
  rw [maxRunSeconds, maxRunSeconds, ManifestPayload.get?_reloaded]
  cases payload.get? "max_run_seconds" with
  | none => rfl
  | some value => cases value <;> simp only [Option.map_some, Json.sortKeys, readFloat]

theorem maxToolCalls_reloaded :
    maxToolCalls interpreter payload.reloaded = maxToolCalls interpreter payload := by
  rw [maxToolCalls, maxToolCalls, ManifestPayload.get?_reloaded]
  cases payload.get? "max_tool_calls" with
  | none => rfl
  | some value => cases value <;> simp only [Option.map_some, Json.sortKeys, Interpreter.int]

variable (manifest : AgentManifest Number)

section

variable (loads : fromDict interpreter float payload = .ok manifest)
include loads

/-- The loader accepts the reloaded fields and reads the same manifest up to the field order. -/
theorem fromDict_reloaded :
    fromDict interpreter float payload.reloaded = .ok manifest.reloaded := by
  simp only [fromDict, bind_eq_ok_iff, Except.ok.injEq] at loads
  obtain ⟨_, complete, _, version, capabilities, listed, permissions, granted, sandbox, object,
    agentId, identified, name, named, description, described, versionText, versioned, entrypoint,
    entered, seconds, limited, calls, counted, rfl⟩ := loads
  simp only [fromDict, checkFields_reloaded, checkVersion_reloaded, listField_reloaded,
    sandboxField_reloaded, ManifestPayload.text_reloaded, item_reloaded, maxRunSeconds_reloaded,
    maxToolCalls_reloaded, complete, version, listed, granted, object, identified, named, described,
    versioned, entered, limited, counted]
  rfl

/-- The loaded manifest has the id of the fields. -/
theorem text_of_fromDict : payload.text "agent_id" = .ok manifest.agentId := by
  simp only [fromDict, bind_eq_ok_iff, Except.ok.injEq] at loads
  obtain ⟨_, _, _, _, _, _, _, _, _, _, agentId, identified, _, _, _, _, _, _, _, _, _, _, _, _, rfl⟩ :=
    loads
  exact identified

end

end ManifestLoader

/-- The verifier only reads the key of the signer. -/
theorem verify_of_key (sha256 : ByteArray → String) {first second : Dict String String}
    {signerId : String} (same : first.get? signerId = second.get? signerId) (payload : ByteArray)
    (signature : String) :
    PackageIntegrityVerifier.verify sha256 first signerId payload signature =
      PackageIntegrityVerifier.verify sha256 second signerId payload signature := by
  rw [PackageIntegrityVerifier.verify, PackageIntegrityVerifier.verify, same]

theorem setState_of_installed {runtime : AgentOrchestrator Number} {agentId : String}
    {agent : InstalledAgent Number} (installed : runtime.agents.get? agentId = some agent)
    (state : AgentState) :
    runtime.setState agentId state =
      .ok { runtime with agents := runtime.agents.set agentId { agent with state } } := by
  rw [AgentOrchestrator.setState, installed]

end AgentFabric.Phase1

namespace AgentFabric.Production.ControlPlane
open Phase1 Transition

variable {Number : Type} (sha256 : ByteArray → String) (interpreter : Interpreter)
  (float : Json → Except PyError Number) (isAgent : String → String → Except PyError Bool)

theorem factoryFromEntrypoint_sortKeys (value : Json) :
    factoryFromEntrypoint isAgent value.sortKeys = factoryFromEntrypoint isAgent value := by
  cases value <;> simp only [Json.sortKeys, factoryFromEntrypoint, Billing.BillingService.typeName]

theorem entrypoint_reloaded (manifest : ManifestPayload) :
    entrypoint manifest.reloaded = (entrypoint manifest).sortKeys := by
  rw [entrypoint, entrypoint, ManifestPayload.get?_reloaded]
  cases manifest.get? "entrypoint" with
  | none => simp only [Option.map_none, Option.getD_none, Json.sortKeys]
  | some value => rfl

/-- The agent that the bootstrap makes of a row. -/
def restoredAgent (row : RuntimeRow) : Except PyError (InstalledAgent Number) := do
  factoryFromEntrypoint isAgent (entrypoint row.manifest)
  let manifest ← ManifestLoader.fromDict interpreter float row.manifest
  let digest ← PackageIntegrityVerifier.verify sha256 (Dict.empty.set row.signerId row.signerKey)
    row.signerId row.payload row.signature
  .ok ⟨manifest, digest, row.state⟩

/-- The bootstrap restores the row to an agent with the id of the row. -/
def Restores (agentId : String) (row : RuntimeRow) (agent : InstalledAgent Number) : Prop :=
  restoredAgent sha256 interpreter float isAgent row = .ok agent ∧ agent.manifest.agentId = agentId

section Restore

variable {sha256 interpreter float isAgent} {agentId : String} {row : RuntimeRow}
  {agent : InstalledAgent Number}

section

variable (restores : Restores sha256 interpreter float isAgent agentId row agent)
include restores

theorem Restores.state : agent.state = row.state := by
  obtain ⟨restored, _⟩ := restores
  simp only [restoredAgent, bind_eq_ok_iff, Except.ok.injEq] at restored
  obtain ⟨_, _, manifest, _, digest, _, rfl⟩ := restored
  rfl

/-- A change of the stored state changes the state of the restored agent. -/
theorem Restores.withState (state : AgentState) :
    Restores sha256 interpreter float isAgent agentId { row with state } { agent with state } := by
  obtain ⟨restored, named⟩ := restores
  simp only [restoredAgent, bind_eq_ok_iff, Except.ok.injEq] at restored
  obtain ⟨_, entered, manifest, loads, digest, verified, rfl⟩ := restored
  refine ⟨?_, named⟩
  rw [restoredAgent, entered, loads, verified]
  rfl

end

/-- An agent that is only installed goes to its stored state. -/
theorem restoreState_ok (state : AgentState) {runtime : AgentOrchestrator Number}
    (found : runtime.agents.get? agentId = some agent) (installed : agent.state = .installed) :
    ∃ next, restoreState runtime agentId state = .ok next ∧
      ∀ query, next.agents.get? query =
        if query = agentId then some { agent with state } else runtime.agents.get? query := by
  cases state with
  | installed =>
      refine ⟨runtime, rfl, ?_⟩
      intro query
      split
      · rename_i same
        rw [same, found, ← installed]
      · rfl
  | loaded =>
      refine ⟨_, setState_of_installed found .loaded, ?_⟩
      intro query
      exact Dict.get?_set _ _ _ _
  | suspended =>
      have loaded := setState_of_installed found .loaded
      have kept : ({ runtime with
          agents := runtime.agents.set agentId { agent with state := .loaded } } :
          AgentOrchestrator Number).agents.get? agentId = some { agent with state := .loaded } :=
        Dict.get?_set_self _ _ _
      have suspended := setState_of_installed kept .suspended
      refine ⟨_, bind_eq_ok_iff.mpr ⟨_, loaded, suspended⟩, ?_⟩
      intro query
      simp only [Dict.get?_set]
      split <;> rfl

/-- One step of the bootstrap adds the restored agent. -/
theorem restore_ok (restores : Restores sha256 interpreter float isAgent agentId row agent)
    (runtime : AgentOrchestrator Number) :
    ∃ next, restore sha256 interpreter float isAgent runtime row = .ok next ∧
      ∀ query, next.agents.get? query =
        if query = agentId then some agent else runtime.agents.get? query := by
  obtain ⟨restored, rfl⟩ := restores
  simp only [restoredAgent, bind_eq_ok_iff, Except.ok.injEq] at restored
  obtain ⟨_, entered, manifest, loads, digest, verified, rfl⟩ := restored
  have keys : ((runtime.signerKeys.set row.signerId row.signerKey).get? row.signerId) =
      (Dict.empty.set row.signerId row.signerKey).get? row.signerId := by
    rw [Dict.get?_set_self, Dict.get?_set_self]
  have installed : (runtime.registerSignerKey row.signerId row.signerKey).install sha256 interpreter
      float row.manifest row.payload row.signature row.signerId =
        .ok (manifest, {
          signerKeys := runtime.signerKeys.set row.signerId row.signerKey
          agents := runtime.agents.set manifest.agentId ⟨manifest, digest, .installed⟩ }) := by
    rw [AgentOrchestrator.install, AgentOrchestrator.registerSignerKey, loads]
    simp only [verify_of_key sha256 keys, verified]
    rfl
  rw [restore, entered, installed]
  simp only [ManifestLoader.text_of_fromDict interpreter float row.manifest manifest loads]
  have found : (⟨runtime.signerKeys.set row.signerId row.signerKey,
      runtime.agents.set manifest.agentId ⟨manifest, digest, .installed⟩⟩ :
        AgentOrchestrator Number).agents.get? manifest.agentId = some ⟨manifest, digest, .installed⟩ :=
    Dict.get?_set_self _ _ _
  obtain ⟨next, stated, lookup⟩ := restoreState_ok row.state found rfl
  refine ⟨next, stated, ?_⟩
  intro query
  rw [lookup, Dict.get?_set]
  split <;> rfl

/-- The bootstrap restores every row of a list with distinct ids. -/
theorem restores_ok (items : List (String × RuntimeRow)) (distinct : (items.map Prod.fst).Nodup)
    (restorable : ∀ item ∈ items, ∃ agent,
      Restores sha256 interpreter float isAgent item.1 item.2 agent)
    (runtime : AgentOrchestrator Number) :
    ∃ next, (items.map Prod.snd).foldlM (restore sha256 interpreter float isAgent) runtime =
        .ok next ∧
      (∀ query, query ∉ items.map Prod.fst → next.agents.get? query = runtime.agents.get? query) ∧
      ∀ item ∈ items, ∀ agent, Restores sha256 interpreter float isAgent item.1 item.2 agent →
        next.agents.get? item.1 = some agent := by
  induction items generalizing runtime with
  | nil => exact ⟨runtime, rfl, fun _ _ => rfl, by simp⟩
  | cons head rest ih =>
      rw [List.map_cons, List.nodup_cons] at distinct
      obtain ⟨agent, restores⟩ := restorable head (.head _)
      obtain ⟨middle, restored, lookup⟩ := restore_ok restores runtime
      obtain ⟨next, rested, others, found⟩ := ih distinct.2
        (fun item member => restorable item (.tail _ member)) middle
      refine ⟨next, ?_, ?_, ?_⟩
      · rw [List.map_cons, List.foldlM_cons]
        exact bind_eq_ok_iff.mpr ⟨middle, restored, rested⟩
      · intro query absent
        rw [List.map_cons, List.mem_cons, not_or] at absent
        rw [others query absent.2, lookup, if_neg absent.1]
      · intro item member other otherRestores
        rcases List.mem_cons.mp member with rfl | inside
        · rw [others item.1 distinct.1, lookup, if_pos rfl]
          exact congrArg some (Except.ok.inj (restores.1.symm.trans otherRestores.1))
        · exact found item inside other otherRestores

end Restore

/-- The memory and the database hold the same version of an agent, or both hold nothing. -/
def Matches (agentId : String) : Option (InstalledAgent Number) → Option RuntimeRow → Prop
  | none, none => True
  | some held, some row => held.manifest.agentId = agentId ∧
      ∃ agent, Restores sha256 interpreter float isAgent agentId row agent ∧
        agent.manifest.version = held.manifest.version
  | _, _ => False

variable (plane : ControlPlane Number)

/-- Every agent of a control plane matches its row. -/
def Consistent : Prop :=
  ∀ agentId, Matches sha256 interpreter float isAgent agentId
    (plane.runtime.agents.get? agentId) (plane.rows.get? agentId)

/-- Every agent of a control plane is in the state of its row. -/
def StatesAgree : Prop :=
  ∀ agentId held row, plane.runtime.agents.get? agentId = some held →
    plane.rows.get? agentId = some row → held.state = row.state

/-- A new control plane on the same database reports the same agents, versions and states. -/
def RestartEquivalent : Prop :=
  ∃ fresh, opened sha256 interpreter float isAgent plane.rows = .ok fresh ∧
    fresh.runtimeAgents.Perm plane.runtimeAgents

/-- The call does not run an agent that the memory holds as only installed. -/
def RunsLoaded : RuntimeCall → Prop
  | .run agentId _ => ∀ held, plane.runtime.agents.get? agentId = some held → held.state ≠ .installed
  | _ => True

section Consistency

variable {sha256 interpreter float isAgent} {plane : ControlPlane Number} {agentId : String}

theorem Consistent.row (consistent : Consistent sha256 interpreter float isAgent plane)
    {held : InstalledAgent Number}
    (installed : plane.runtime.agents.get? agentId = some held) :
    held.manifest.agentId = agentId ∧ ∃ row agent, plane.rows.get? agentId = some row ∧
      Restores sha256 interpreter float isAgent agentId row agent ∧
        agent.manifest.version = held.manifest.version := by
  have paired := consistent agentId
  rw [installed] at paired
  cases stored : plane.rows.get? agentId with
  | none =>
      rw [stored] at paired
      exact paired.elim
  | some row =>
      rw [stored] at paired
      obtain ⟨named, agent, restores, version⟩ := paired
      exact ⟨named, row, agent, rfl, restores, version⟩

variable {row : RuntimeRow}

section

variable (consistent : Consistent sha256 interpreter float isAgent plane)
include consistent

theorem Consistent.held (stored : plane.rows.get? agentId = some row) :
    ∃ held, plane.runtime.agents.get? agentId = some held := by
  have paired := consistent agentId
  rw [stored] at paired
  cases installed : plane.runtime.agents.get? agentId with
  | none =>
      rw [installed] at paired
      exact paired.elim
  | some held => exact ⟨held, rfl⟩

/-- The new control plane holds exactly the restored agents. -/
theorem opened_ok :
    ∃ fresh, opened sha256 interpreter float isAgent plane.rows = .ok fresh ∧
      Consistent sha256 interpreter float isAgent fresh ∧ StatesAgree fresh ∧
      ∀ agentId, (fresh.runtime.agents.get? agentId).map (fun agent => agent.manifest.version) =
        (plane.runtime.agents.get? agentId).map fun agent => agent.manifest.version := by
  have restorable : ∀ item ∈ plane.rows.sorted.items, ∃ agent,
      Restores sha256 interpreter float isAgent item.1 item.2 agent := by
    intro item member
    have stored : plane.rows.get? item.1 = some item.2 := by
      rwa [← Dict.get?_sorted, Dict.get?_eq_some_iff]
    obtain ⟨held, installed⟩ := consistent.held stored
    obtain ⟨_, row, agent, found, restores, _⟩ := consistent.row installed
    obtain rfl := Option.some.inj (found.symm.trans stored)
    exact ⟨agent, restores⟩
  obtain ⟨runtime, folded, others, restored⟩ :=
    restores_ok plane.rows.sorted.items plane.rows.sorted.distinct restorable
      AgentOrchestrator.initial
  have absent : ∀ agentId, plane.rows.get? agentId = none → runtime.agents.get? agentId = none := by
    intro agentId missing
    rw [others agentId]
    · rfl
    · rw [Dict.mem_keys_iff, Dict.get?_sorted, missing]
      simp
  have present : ∀ agentId row agent, plane.rows.get? agentId = some row →
      Restores sha256 interpreter float isAgent agentId row agent →
        runtime.agents.get? agentId = some agent := by
    intro agentId row agent stored restores
    rw [← Dict.get?_sorted, Dict.get?_eq_some_iff] at stored
    exact restored (agentId, row) stored agent restores
  have pointwise : ∀ agentId,
      (runtime.agents.get? agentId = none ∧ plane.rows.get? agentId = none ∧
        plane.runtime.agents.get? agentId = none) ∨
      ∃ row agent held, plane.rows.get? agentId = some row ∧
        Restores sha256 interpreter float isAgent agentId row agent ∧
          runtime.agents.get? agentId = some agent ∧
            plane.runtime.agents.get? agentId = some held ∧
              agent.manifest.version = held.manifest.version := by
    intro agentId
    cases installed : plane.runtime.agents.get? agentId with
    | some held =>
        obtain ⟨_, row, agent, stored, restores, version⟩ := consistent.row installed
        exact .inr ⟨row, agent, held, stored, restores, present agentId row agent stored restores,
          rfl, version⟩
    | none =>
        cases stored : plane.rows.get? agentId with
        | none => exact .inl ⟨absent agentId stored, rfl, rfl⟩
        | some row =>
            obtain ⟨held, found⟩ := consistent.held stored
            cases installed.symm.trans found
  refine ⟨⟨runtime, plane.rows⟩, ?_, ?_, ?_, ?_⟩
  · rw [opened]
    exact bind_eq_ok_iff.mpr ⟨runtime, folded, rfl⟩
  · intro agentId
    rcases pointwise agentId with ⟨none, missing, _⟩ | ⟨row, agent, _, stored, restores, found, _, _⟩
    · dsimp only
      rw [none, missing]
      trivial
    · dsimp only
      rw [found, stored]
      exact ⟨restores.2, agent, restores, rfl⟩
  · intro agentId held row installed stored
    rcases pointwise agentId with ⟨none, _, _⟩ | ⟨other, agent, _, kept, restores, found, _, _⟩
    · cases none.symm.trans installed
    · obtain rfl := Option.some.inj (kept.symm.trans stored)
      obtain rfl := Option.some.inj (found.symm.trans installed)
      exact restores.state
  · intro agentId
    rcases pointwise agentId with ⟨none, _, gone⟩ | ⟨_, agent, held, _, _, found, installed, version⟩
    · dsimp only
      rw [none, gone]
    · dsimp only
      rw [found, installed, Option.map_some, Option.map_some, version]

/-- A restart is equivalent exactly when every agent is in the state of its row. -/
theorem restartEquivalent_iff :
    RestartEquivalent sha256 interpreter float isAgent plane ↔ StatesAgree plane := by
  obtain ⟨fresh, reopened, freshConsistent, freshAgree, versions⟩ := opened_ok consistent
  have rows : fresh.rows = plane.rows := by
    rw [opened, bind_eq_ok_iff] at reopened
    obtain ⟨runtime, _, same⟩ := reopened
    obtain rfl := Except.ok.inj same
    rfl
  have unique : RestartEquivalent sha256 interpreter float isAgent plane ↔
      fresh.runtimeAgents.Perm plane.runtimeAgents := by
    constructor
    · rintro ⟨other, reopenedOther, same⟩
      obtain rfl := Except.ok.inj (reopened.symm.trans reopenedOther)
      exact same
    · intro same
      exact ⟨fresh, reopened, same⟩
  have named : ∀ other : ControlPlane Number, Consistent sha256 interpreter float isAgent other →
      ∀ key report, (other.runtime.agents.mapValues InstalledAgent.report).get? key = some report →
        report.agentId = key := by
    intro other otherConsistent key report found
    rw [Dict.get?_mapValues, Option.map_eq_some_iff] at found
    obtain ⟨held, installed, rfl⟩ := found
    exact (otherConsistent.row installed).1
  rw [unique, runtimeAgents, runtimeAgents, AgentOrchestrator.listAgents,
    AgentOrchestrator.listAgents, ← Dict.values_mapValues, ← Dict.values_mapValues,
    Dict.values_perm_iff AgentReport.agentId _ _ (named fresh freshConsistent)
      (named plane consistent)]
  simp only [Dict.get?_mapValues]
  constructor
  · intro same agentId held row installed stored
    have reported := same agentId
    rw [installed, Option.map_some, Option.map_eq_some_iff] at reported
    obtain ⟨agent, found, equal⟩ := reported
    have agree := freshAgree agentId agent row found (rows ▸ stored)
    rw [← agree]
    exact (congrArg AgentReport.state equal).symm
  · intro agree agentId
    have version := versions agentId
    cases installed : plane.runtime.agents.get? agentId with
    | none =>
        rw [installed, Option.map_none, Option.map_eq_none_iff] at version
        rw [version]
    | some held =>
        rw [installed, Option.map_some, Option.map_eq_some_iff] at version
        obtain ⟨agent, found, same⟩ := version
        obtain ⟨heldNamed, row, _, stored, _, _⟩ := consistent.row installed
        obtain ⟨agentNamed, _⟩ := freshConsistent.row found
        have state : agent.state = held.state :=
          (freshAgree agentId agent row found (rows ▸ stored)).trans
            (agree agentId held row installed stored).symm
        rw [found, Option.map_some, Option.map_some, InstalledAgent.report, InstalledAgent.report,
          agentNamed, heldNamed, same, state]

/-- A new agent and a new row that match keep a control plane consistent. -/
theorem Consistent.set {held agent : InstalledAgent Number}
    (named : held.manifest.agentId = agentId)
    (restores : Restores sha256 interpreter float isAgent agentId row agent)
    (version : agent.manifest.version = held.manifest.version) (signerKeys : Dict String String) :
    Consistent sha256 interpreter float isAgent
      ⟨⟨signerKeys, plane.runtime.agents.set agentId held⟩, plane.rows.set agentId row⟩ := by
  intro query
  dsimp only
  rw [Dict.get?_set, Dict.get?_set]
  by_cases same : query = agentId
  · rw [if_pos same, if_pos same, same]
    exact ⟨named, agent, restores, version⟩
  · rw [if_neg same, if_neg same]
    exact consistent query

theorem Consistent.erase (agentId : String) :
    Consistent sha256 interpreter float isAgent
      ⟨⟨plane.runtime.signerKeys, plane.runtime.agents.erase agentId⟩, plane.rows.erase agentId⟩ := by
  intro query
  dsimp only
  rw [Dict.get?_erase, Dict.get?_erase]
  by_cases same : query = agentId
  · rw [if_pos same, if_pos same]
    trivial
  · rw [if_neg same, if_neg same]
    exact consistent query

end

theorem StatesAgree.set (agree : StatesAgree plane)
    {held : InstalledAgent Number} (state : held.state = row.state)
    (signerKeys : Dict String String) :
    StatesAgree (⟨⟨signerKeys, plane.runtime.agents.set agentId held⟩,
      plane.rows.set agentId row⟩ : ControlPlane Number) := by
  intro query other otherRow installed stored
  dsimp only at installed stored
  rw [Dict.get?_set] at installed stored
  by_cases same : query = agentId
  · rw [if_pos same, Option.some.injEq] at installed stored
    rw [← installed, ← stored, state]
  · rw [if_neg same] at installed stored
    exact agree query other otherRow installed stored

theorem StatesAgree.erase (agree : StatesAgree plane) (agentId : String) :
    StatesAgree (⟨⟨plane.runtime.signerKeys, plane.runtime.agents.erase agentId⟩,
      plane.rows.erase agentId⟩ : ControlPlane Number) := by
  intro query held row installed stored
  dsimp only at installed stored
  rw [Dict.get?_erase] at installed stored
  by_cases same : query = agentId
  · rw [if_pos same] at installed
    cases installed
  · rw [if_neg same] at installed stored
    exact agree query held row installed stored

section

variable (consistent : Consistent sha256 interpreter float isAgent plane)
include consistent

section

variable (agree : StatesAgree plane)
include agree

/-- An installation writes the agent and its row. -/
theorem installRuntimeAgent_step (manifest : ManifestPayload) (payload : ByteArray)
    (signerId signerKey signature : String) :
    let next := (plane.installRuntimeAgent sha256 interpreter float isAgent manifest payload signerId
      signerKey signature).2
    Consistent sha256 interpreter float isAgent next ∧ StatesAgree next := by
  unfold installRuntimeAgent
  dsimp only
  cases entered : factoryFromEntrypoint isAgent (entrypoint manifest) with
  | error error => exact ⟨consistent, agree⟩
  | ok _ =>
      dsimp only
      cases installed : (plane.runtime.registerSignerKey signerId signerKey).install sha256
          interpreter float manifest payload signature signerId with
      | error error => exact ⟨consistent, agree⟩
      | ok result =>
          simp only [AgentOrchestrator.install, bind_eq_ok_iff, Except.ok.injEq] at installed
          obtain ⟨loaded, loads, digest, verified, rfl⟩ := installed
          have restores : Restores sha256 interpreter float isAgent loaded.agentId
              ⟨manifest.reloaded, payload, signature, signerId, signerKey, .installed⟩
              ⟨loaded.reloaded, digest, .installed⟩ := by
            have key : (plane.runtime.registerSignerKey signerId signerKey).signerKeys.get? signerId =
                (Dict.empty.set signerId signerKey).get? signerId := by
              rw [AgentOrchestrator.registerSignerKey, Dict.get?_set_self, Dict.get?_set_self]
            rw [verify_of_key sha256 key] at verified
            refine ⟨?_, rfl⟩
            rw [restoredAgent, entrypoint_reloaded, factoryFromEntrypoint_sortKeys, entered]
            simp only [ManifestLoader.fromDict_reloaded interpreter float manifest loaded loads,
              verified]
            rfl
          have named : (⟨loaded, digest, .installed⟩ : InstalledAgent Number).manifest.agentId =
              loaded.agentId := rfl
          exact ⟨consistent.set named restores rfl _, agree.set rfl _⟩

/-- A transition that is written to the runtime and to the row keeps both in agreement. -/
theorem inBoth_setState (agentId : String) (state : AgentState) :
    let next := (plane.inBoth (plane.runtime.setState agentId state)
      (ProductionStore.updateRuntimeAgentState plane.rows agentId state)).2
    Consistent sha256 interpreter float isAgent next ∧ StatesAgree next := by
  dsimp only
  cases installed : plane.runtime.agents.get? agentId with
  | none =>
      simp only [AgentOrchestrator.setState, installed, inBoth]
      exact ⟨consistent, agree⟩
  | some held =>
      obtain ⟨named, row, agent, stored, restores, version⟩ := consistent.row installed
      simp only [setState_of_installed installed, ProductionStore.updateRuntimeAgentState, stored,
        inBoth]
      have kept : ({ held with state } : InstalledAgent Number).manifest.agentId = agentId := named
      exact ⟨consistent.set kept (restores.withState state) version _, agree.set rfl _⟩

theorem runtimeUninstall_step (agentId : String) :
    let next := (plane.runtimeUninstall agentId).2
    Consistent sha256 interpreter float isAgent next ∧ StatesAgree next := by
  dsimp only
  rw [runtimeUninstall, AgentOrchestrator.uninstall]
  cases installed : plane.runtime.agents.get? agentId with
  | none =>
      simp only [inBoth]
      exact ⟨consistent, agree⟩
  | some held =>
      obtain ⟨_, row, _, stored, _, _⟩ := consistent.row installed
      simp only [ProductionStore.deleteRuntimeAgent, stored, inBoth]
      exact ⟨consistent.erase agentId, agree.erase agentId⟩

/-- A run keeps the agents, and it keeps their states exactly when it loads no agent. -/
theorem runtimeRun_step (agentId : String) (outcome : Except PyError Json) :
    let next := (plane.runtimeRun agentId outcome).2
    Consistent sha256 interpreter float isAgent next ∧
      (StatesAgree next ↔ RunsLoaded plane (.run agentId outcome)) := by
  dsimp only
  rw [runtimeRun, AgentOrchestrator.run, RunsLoaded]
  cases installed : plane.runtime.agents.get? agentId with
  | none =>
      refine ⟨consistent, iff_of_true agree ?_⟩
      intro held found
      cases found
  | some held =>
      dsimp only
      cases state : held.state with
      | suspended =>
          refine ⟨consistent, iff_of_true agree ?_⟩
          intro other found
          obtain rfl := Option.some.inj found
          rw [state]
          decide
      | loaded =>
          refine ⟨consistent, iff_of_true agree ?_⟩
          intro other found
          obtain rfl := Option.some.inj found
          rw [state]
          decide
      | installed =>
          obtain ⟨named, row, agent, stored, restores, version⟩ := consistent.row installed
          dsimp only
          rw [AgentOrchestrator.load, setState_of_installed installed]
          constructor
          · intro query
            dsimp only
            rw [Dict.get?_set]
            split
            · rename_i same
              rw [same, stored]
              exact ⟨named, agent, restores, version⟩
            · exact consistent query
          · refine iff_of_false ?_ ?_
            · intro later
              have loaded := later agentId { held with state := .loaded } row
                (Dict.get?_set_self _ _ _) stored
              rw [← agree agentId held row installed stored, state] at loaded
              cases loaded
            · intro running
              exact running held rfl state

/-- One call keeps the agents consistent, and it keeps their states exactly when it runs no agent
that is only installed. -/
theorem machine_step (call : RuntimeCall) :
    let next := (machine sha256 interpreter float isAgent plane call).2
    Consistent sha256 interpreter float isAgent next ∧ (StatesAgree next ↔ RunsLoaded plane call) := by
  cases call with
  | install manifest payload signerId signerKey signature =>
      obtain ⟨kept, states⟩ := installRuntimeAgent_step consistent agree manifest payload signerId
        signerKey signature
      exact ⟨kept, iff_of_true states trivial⟩
  | load agentId =>
      obtain ⟨kept, states⟩ := inBoth_setState consistent agree agentId .loaded
      exact ⟨kept, iff_of_true states trivial⟩
  | suspend agentId =>
      obtain ⟨kept, states⟩ := inBoth_setState consistent agree agentId .suspended
      exact ⟨kept, iff_of_true states trivial⟩
  | uninstall agentId =>
      obtain ⟨kept, states⟩ := runtimeUninstall_step consistent agree agentId
      exact ⟨kept, iff_of_true states trivial⟩
  | run agentId outcome => exact runtimeRun_step consistent agree agentId outcome
  | reopen =>
      obtain ⟨fresh, reopened, kept, states, _⟩ := opened_ok consistent
      simp only [machine, reopened]
      exact ⟨kept, iff_of_true states trivial⟩

end

end

end Consistency

/-- A run keeps every restart equivalent exactly when it runs no agent that is only installed. -/
theorem controlPlaneRun_restart_iff (calls : List RuntimeCall) :
    (∀ done rest, calls = done ++ rest → RestartEquivalent sha256 interpreter float isAgent
      (run (machine sha256 interpreter float isAgent) initial done)) ↔
    Guarded (machine sha256 interpreter float isAgent) RunsLoaded initial calls := by
  have parts := forall_parts_iff_guarded (machine sha256 interpreter float isAgent) RunsLoaded
    (fun plane _ => Consistent sha256 interpreter float isAgent plane)
    (fun plane _ => RestartEquivalent sha256 interpreter float isAgent plane)
    (by
      intro plane past call consistent equivalent
      rw [restartEquivalent_iff consistent] at equivalent
      obtain ⟨kept, states⟩ := machine_step consistent equivalent call
      exact ⟨kept, (restartEquivalent_iff kept).trans states⟩)
    initial [] calls (fun _ => trivial) ⟨initial, rfl, List.Perm.nil⟩
  exact parts

/-- The manifest of the echo agent with the required fields. -/
def echoManifest : ManifestPayload where
  fields := [("manifest_version", .str "v1"), ("agent_id", .str "echo"), ("name", .str "Echo"),
    ("description", .str "Echoes"), ("version", .str "1.0.0"),
    ("entrypoint", .str "agentfabric.cli:EchoAgent"), ("capabilities", .arr []),
    ("permissions", .arr []), ("sandbox", .obj [])]
  texts := by
    intro key member value present
    simp only [List.mem_cons, List.not_mem_nil, or_false] at member
    rcases member with rfl | rfl
    · exact ⟨"echo", (Option.some.inj present).symm⟩
    · exact ⟨"1.0.0", (Option.some.inj present).symm⟩

/-- The digests of the empty payload and of the text that its signer signs. -/
def emptyPayloadSha256 (bytes : ByteArray) : String :=
  if bytes.toList = [] then "e3b0c44298fc1c149afbf4c8996fb92427ae41e4649b934ca495991b7852b855"
  else "48e605400b6c4c6766531fe2ec38f17f72ef6904e429287076e4cf9d64e11b80"

def echoInterpreter : Interpreter := ⟨fun _ => true, fun _ => 0, fun _ => false⟩

/-- The echo agent is installed and then runs without an explicit load. -/
def installedAndRun : ControlPlane Json :=
  run (machine emptyPayloadSha256 echoInterpreter .ok fun _ _ => .ok true) initial
    [.install echoManifest ByteArray.empty "signer" "key"
        "48e605400b6c4c6766531fe2ec38f17f72ef6904e429287076e4cf9d64e11b80",
      .run "echo" (.ok (.obj []))]

/-- The old control plane reports a loaded agent and the new one an installed agent. -/
theorem controlPlaneRun_not_restart :
    ¬ RestartEquivalent emptyPayloadSha256 echoInterpreter .ok (fun _ _ => .ok true)
      installedAndRun := by
  have reported : installedAndRun.runtimeAgents = [⟨"echo", "1.0.0", .loaded⟩] := by decide +kernel
  have restored : (opened emptyPayloadSha256 echoInterpreter .ok (fun _ _ => .ok true)
      installedAndRun.rows).map runtimeAgents = .ok [⟨"echo", "1.0.0", .installed⟩] := by
    decide +kernel
  rintro ⟨fresh, reopened, same⟩
  rw [reopened] at restored
  rw [reported, Except.ok.inj restored] at same
  exact absurd same (by decide)

end AgentFabric.Production.ControlPlane
