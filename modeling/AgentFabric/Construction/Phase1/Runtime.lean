import AgentFabric.Foundation.PyCoercion

namespace AgentFabric.Phase1

/-- The fields of a manifest, whose agent id and version are texts where they are present. -/
structure ManifestPayload where
  fields : List (String × Json)
  texts : ∀ key ∈ ["agent_id", "version"], ∀ value, (Json.obj fields).field? key = some value →
    ∃ text, value = .str text

namespace ManifestPayload

variable (payload : ManifestPayload) (key : String)

def get? : Option Json :=
  (Json.obj payload.fields).field? key

/-- The subscript of the payload with the key of a text. -/
def text : Except PyError String :=
  match Json.textField (.obj payload.fields) key none with
  | none => .error (.keyError key)
  | some text => .ok text

/-- The payload that `json.loads` reads from the text of `json.dumps` with `sort_keys`. -/
def reloaded : ManifestPayload where
  fields := Json.sortObject payload.fields
  texts := by
    intro key member value present
    rw [← Json.sortKeys_obj, Json.field?_sortKeys, Option.map_eq_some_iff] at present
    obtain ⟨stored, found, rfl⟩ := present
    obtain ⟨text, rfl⟩ := payload.texts key member stored found
    exact ⟨text, by simp only [Json.sortKeys]⟩

theorem get?_reloaded : payload.reloaded.get? key = (payload.get? key).map Json.sortKeys := by
  rw [get?, reloaded, ← Json.sortKeys_obj, Json.field?_sortKeys]
  rfl

theorem text_reloaded : payload.reloaded.text key = payload.text key := by
  rw [text, reloaded, ← Json.sortKeys_obj, Json.textField_sortKeys]
  rfl

end ManifestPayload

/-- A loaded manifest keeps the fields that the loader does not read as they are. -/
structure AgentManifest (Number : Type) where
  manifestVersion : String
  agentId : String
  name : Json
  description : Json
  version : String
  entrypoint : Json
  capabilities : List Json
  permissions : List Json
  sandbox : List (String × Json)
  maxRunSeconds : Number
  maxToolCalls : Int

namespace ManifestLoader

variable {Number : Type} (interpreter : Interpreter) (float : Json → Except PyError Number)

/-- The required fields in the order of `sorted`. -/
def requiredFields : List String :=
  ["agent_id", "capabilities", "description", "entrypoint", "manifest_version", "name",
    "permissions", "sandbox", "version"]

variable (payload : ManifestPayload)

def missing : List String :=
  requiredFields.filter fun key => (payload.get? key).isNone

/-- A list or a dict is not a number, and the library reads every other value. -/
def readFloat : Json → Except PyError Number
  | .arr _ => .error (.typeError "float() argument must be a string or a real number, not 'list'")
  | .obj _ => .error (.typeError "float() argument must be a string or a real number, not 'dict'")
  | value => float value

/-- A missing limit has the default 60.0. -/
def maxRunSeconds : Except PyError Number :=
  match payload.get? "max_run_seconds" with
  | none => float (.float ⟨"60.0", by decide⟩)
  | some value => readFloat float value

def maxToolCalls : Except PyError Int :=
  match payload.get? "max_tool_calls" with
  | none => .ok 16
  | some value => interpreter.int value

/-- The items of a field that has to be a list. -/
def listField (key : String) : Except PyError (List Json) :=
  match payload.get? key with
  | some (.arr items) => .ok items
  | _ => .error (.validationError ("manifest." ++ key ++ " must be a list"))

def sandboxField : Except PyError (List (String × Json)) :=
  match payload.get? "sandbox" with
  | some (.obj fields) => .ok fields
  | _ => .error (.validationError "manifest.sandbox must be an object")

def checkVersion : Except PyError Unit :=
  match payload.get? "manifest_version" with
  | some (.str "v1") => .ok ()
  | _ => .error (.validationError "manifest_version must be v1")

def checkFields : Except PyError Unit :=
  if missing payload = [] then .ok ()
  else .error (.validationError ("manifest missing fields: " ++ ", ".intercalate (missing payload)))

/-- The value of a required field after the check of the fields. -/
def item (key : String) : Except PyError Json :=
  match payload.get? key with
  | none => .error (.keyError key)
  | some value => .ok value

def fromDict : Except PyError (AgentManifest Number) := do
  checkFields payload
  checkVersion payload
  let capabilities ← listField payload "capabilities"
  let permissions ← listField payload "permissions"
  let sandbox ← sandboxField payload
  let agentId ← payload.text "agent_id"
  let name ← item payload "name"
  let description ← item payload "description"
  let version ← payload.text "version"
  let entrypoint ← item payload "entrypoint"
  let maxRunSeconds ← maxRunSeconds float payload
  let maxToolCalls ← maxToolCalls interpreter payload
  .ok {
    manifestVersion := "v1"
    agentId
    name
    description
    version
    entrypoint
    capabilities
    permissions
    sandbox
    maxRunSeconds
    maxToolCalls }

end ManifestLoader

namespace PackageIntegrityVerifier

variable (sha256 : ByteArray → String)

/-- The digest of a payload that was signed with the key of the signer. -/
def verify (signerKeys : Dict String String) (signerId : String) (payload : ByteArray)
    (signature : String) : Except PyError String :=
  match signerKeys.get? signerId with
  | none => .error (.validationError "unknown signer")
  | some key =>
      let digest := sha256 payload
      let expected := sha256 (signerId ++ ":" ++ digest ++ ":" ++ key).toUTF8
      if expected ≠ signature then
        .error (.validationError "package integrity verification failed")
      else .ok digest

end PackageIntegrityVerifier

/-- The states of the life cycle of an agent. -/
inductive AgentState where
  | installed
  | loaded
  | suspended
  deriving DecidableEq

structure InstalledAgent (Number : Type) where
  manifest : AgentManifest Number
  packageDigest : String
  state : AgentState

/-- What the runtime reports about an agent. -/
structure AgentReport where
  agentId : String
  version : String
  state : AgentState
  deriving DecidableEq

def InstalledAgent.report {Number : Type} (agent : InstalledAgent Number) : AgentReport :=
  ⟨agent.manifest.agentId, agent.manifest.version, agent.state⟩

/-- The runtime keeps the keys of the signers and the installed agents in memory. -/
structure AgentOrchestrator (Number : Type) where
  signerKeys : Dict String String
  agents : Dict String (InstalledAgent Number)

namespace AgentOrchestrator

variable {Number : Type} (sha256 : ByteArray → String) (interpreter : Interpreter)
  (float : Json → Except PyError Number)

/-- A new runtime knows no signer and no agent. -/
def initial : AgentOrchestrator Number := ⟨Dict.empty, Dict.empty⟩

variable (runtime : AgentOrchestrator Number)

def registerSignerKey (signerId key : String) : AgentOrchestrator Number :=
  { runtime with signerKeys := runtime.signerKeys.set signerId key }

/-- An installation replaces the agent with the same id. -/
def install (manifestPayload : ManifestPayload)
    (packagePayload : ByteArray) (signature signerId : String) :
    Except PyError (AgentManifest Number × AgentOrchestrator Number) := do
  let manifest ← ManifestLoader.fromDict interpreter float manifestPayload
  let digest ← PackageIntegrityVerifier.verify sha256 runtime.signerKeys signerId packagePayload
    signature
  .ok (manifest, { runtime with
    agents := runtime.agents.set manifest.agentId ⟨manifest, digest, .installed⟩ })

variable (agentId : String)

/-- A transition of the life cycle is only defined for an installed agent. -/
def setState (state : AgentState) : Except PyError (AgentOrchestrator Number) :=
  match runtime.agents.get? agentId with
  | none => .error (.notFoundError "agent is not installed")
  | some agent => .ok { runtime with agents := runtime.agents.set agentId { agent with state } }

def load : Except PyError (AgentOrchestrator Number) :=
  runtime.setState agentId .loaded

def suspend : Except PyError (AgentOrchestrator Number) :=
  runtime.setState agentId .suspended

def uninstall : Except PyError (AgentOrchestrator Number) :=
  match runtime.agents.get? agentId with
  | none => .error (.notFoundError "agent is not installed")
  | some _ => .ok { runtime with agents := runtime.agents.erase agentId }

def listAgents : List AgentReport :=
  runtime.agents.values.map InstalledAgent.report

/-- A run loads an agent that is only installed, and the agent decides its outcome. -/
def run (outcome : Except PyError Json) : Except PyError Json × AgentOrchestrator Number :=
  match runtime.agents.get? agentId with
  | none => (.error (.notFoundError "agent is not installed"), runtime)
  | some agent =>
      match agent.state with
      | .suspended => (.error (.conflictError "agent is suspended"), runtime)
      | .loaded => (outcome, runtime)
      | .installed =>
          match runtime.load agentId with
          | .error exception => (.error exception, runtime)
          | .ok loaded => (outcome, loaded)

end AgentOrchestrator

end AgentFabric.Phase1
