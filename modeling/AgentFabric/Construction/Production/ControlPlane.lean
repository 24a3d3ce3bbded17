import AgentFabric.Construction.Billing.BillingService
import AgentFabric.Construction.Phase1.Runtime

namespace AgentFabric.Production
open Phase1

/-- A row of the table `runtime_agents`, with its payload and its manifest as a reading returns
them. -/
structure RuntimeRow where
  manifest : ManifestPayload
  payload : ByteArray
  signature : String
  signerId : String
  signerKey : String
  state : AgentState

/-- The table holds one row for each agent id. -/
abbrev RuntimeRows := Dict String RuntimeRow

namespace ProductionStore

variable (rows : RuntimeRows) (agentId : String)

/-- An agent id that has a row gets the new values. -/
def upsertRuntimeAgent (manifest : ManifestPayload)
    (payload : ByteArray) (signature signerId signerKey : String) (state : AgentState) :
    RuntimeRows :=
  rows.set agentId {
    manifest := manifest.reloaded
    payload
    signature
    signerId
    signerKey
    state }

/-- The rows are listed in the order of their agent ids. -/
def listRuntimeAgents : List RuntimeRow := rows.sorted.values

def updateRuntimeAgentState (state : AgentState) : Except PyError RuntimeRows :=
  match rows.get? agentId with
  | none => .error (.notFoundError "runtime agent not found")
  | some row => .ok (rows.set agentId { row with state })

def deleteRuntimeAgent : Except PyError RuntimeRows :=
  match rows.get? agentId with
  | none => .error (.notFoundError "runtime agent not found")
  | some _ => .ok (rows.erase agentId)

end ProductionStore

/-- A control plane has a runtime in memory and rows in its database. -/
structure ControlPlane (Number : Type) where
  runtime : AgentOrchestrator Number
  rows : RuntimeRows

/-- One call of the runtime operations. A run brings the outcome that its agent decides, and a
reopening puts a new control plane on the same database. -/
inductive RuntimeCall where
  | install (manifest : ManifestPayload) (payload : ByteArray) (signerId signerKey signature : String)
  | load (agentId : String)
  | run (agentId : String) (outcome : Except PyError Json)
  | suspend (agentId : String)
  | uninstall (agentId : String)
  | reopen

namespace ControlPlane

variable {Number : Type} (sha256 : ByteArray → String) (interpreter : Interpreter)
  (float : Json → Except PyError Number) (isAgent : String → String → Except PyError Bool)

/-- The texts around the first colon. -/
def splitEntrypoint (entrypoint : String) : Option (String × String) :=
  match entrypoint.toList.span fun char => char ≠ ':' with
  | (_, []) => none
  | (moduleName, _ :: symbolName) =>
      some (String.ofList moduleName, String.ofList symbolName)

/-- An entrypoint names a module and an agent class in it. -/
def factoryFromEntrypoint : Json → Except PyError Unit
  | .str entrypoint =>
      match splitEntrypoint entrypoint with
      | none => .error (.valueError "not enough values to unpack (expected 2, got 1)")
      | some (moduleName, symbolName) => do
          if ← isAgent moduleName symbolName then .ok ()
          else .error (.validationError (entrypoint ++ " is not an Agent subclass"))
  | value => .error (.attributeError
      ("'" ++ Billing.BillingService.typeName value ++ "' object has no attribute 'split'"))

def entrypoint (manifest : ManifestPayload) : Json :=
  (manifest.get? "entrypoint").getD (.str "agentfabric.cli:EchoAgent")

variable (plane : ControlPlane Number)

/-- The installation registers the key of the signer even when it fails later. -/
def installRuntimeAgent (manifest : ManifestPayload)
    (payload : ByteArray) (signerId signerKey signature : String) :
    Except PyError String × ControlPlane Number :=
  let registered := plane.runtime.registerSignerKey signerId signerKey
  match factoryFromEntrypoint isAgent (entrypoint manifest) with
  | .error exception => (.error exception, { plane with runtime := registered })
  | .ok _ =>
      match registered.install sha256 interpreter float manifest payload signature signerId with
      | .error exception => (.error exception, { plane with runtime := registered })
      | .ok (installed, runtime) =>
          (.ok installed.agentId, {
            runtime
            rows := ProductionStore.upsertRuntimeAgent plane.rows installed.agentId manifest
              payload signature signerId signerKey .installed })

/-- A call that changes the runtime first and then the rows. -/
def inBoth (runtime : Except PyError (AgentOrchestrator Number))
    (rows : Except PyError RuntimeRows) : Except PyError Unit × ControlPlane Number :=
  match runtime with
  | .error exception => (.error exception, plane)
  | .ok runtime =>
      match rows with
      | .error exception => (.error exception, { plane with runtime })
      | .ok rows => (.ok (), { runtime, rows })

def runtimeLoad (agentId : String) : Except PyError Unit × ControlPlane Number :=
  plane.inBoth (plane.runtime.load agentId)
    (ProductionStore.updateRuntimeAgentState plane.rows agentId .loaded)

/-- A run changes nothing in the rows of the runtime agents. -/
def runtimeRun (agentId : String) (outcome : Except PyError Json) :
    Except PyError Json × ControlPlane Number :=
  let ran := plane.runtime.run agentId outcome
  (ran.1, { plane with runtime := ran.2 })

def runtimeSuspend (agentId : String) : Except PyError Unit × ControlPlane Number :=
  plane.inBoth (plane.runtime.suspend agentId)
    (ProductionStore.updateRuntimeAgentState plane.rows agentId .suspended)

def runtimeUninstall (agentId : String) : Except PyError Unit × ControlPlane Number :=
  plane.inBoth (plane.runtime.uninstall agentId)
    (ProductionStore.deleteRuntimeAgent plane.rows agentId)

def runtimeAgents : List AgentReport := plane.runtime.listAgents

variable (runtime : AgentOrchestrator Number)

/-- A restored agent goes through the calls that lead to its stored state. -/
def restoreState (agentId : String) (state : AgentState) :
    Except PyError (AgentOrchestrator Number) :=
  match state with
  | .installed => .ok runtime
  | .loaded => runtime.load agentId
  | .suspended => do
      let loaded ← runtime.load agentId
      loaded.suspend agentId

/-- One step of the bootstrap installs the agent of one row. -/
def restore (row : RuntimeRow) : Except PyError (AgentOrchestrator Number) := do
  factoryFromEntrypoint isAgent (entrypoint row.manifest)
  let (_, installed) ← (runtime.registerSignerKey row.signerId row.signerKey).install sha256
    interpreter float row.manifest row.payload row.signature row.signerId
  let agentId ← row.manifest.text "agent_id"
  restoreState installed agentId row.state

/-- A new control plane installs the agents of its database in a new runtime. -/
def opened (rows : RuntimeRows) : Except PyError (ControlPlane Number) := do
  let runtime ← (ProductionStore.listRuntimeAgents rows).foldlM
    (restore sha256 interpreter float isAgent) AgentOrchestrator.initial
  .ok { runtime, rows }

/-- What a caller learns from a call. -/
inductive Answer where
  | agent (agentId : Except PyError String)
  | done (answer : Except PyError Unit)
  | envelope (answer : Except PyError Json)

/-- The machine answers one call. A database that cannot be opened leaves the old control plane. -/
def machine : Transition.Machine (ControlPlane Number) RuntimeCall Answer
  | plane, .install manifest payload signerId signerKey signature =>
      let (answer, next) := plane.installRuntimeAgent sha256 interpreter float isAgent manifest
        payload signerId signerKey signature
      (.agent answer, next)
  | plane, .load agentId =>
      let (answer, next) := plane.runtimeLoad agentId
      (.done answer, next)
  | plane, .run agentId outcome =>
      let (answer, next) := plane.runtimeRun agentId outcome
      (.envelope answer, next)
  | plane, .suspend agentId =>
      let (answer, next) := plane.runtimeSuspend agentId
      (.done answer, next)
  | plane, .uninstall agentId =>
      let (answer, next) := plane.runtimeUninstall agentId
      (.done answer, next)
  | plane, .reopen =>
      match opened sha256 interpreter float isAgent plane.rows with
      | .error exception => (.done (.error exception), plane)
      | .ok next => (.done (.ok ()), next)

/-- The control plane of an empty database. -/
def initial : ControlPlane Number := ⟨AgentOrchestrator.initial, Dict.empty⟩

end ControlPlane

end AgentFabric.Production
