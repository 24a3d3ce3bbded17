import AgentFabric.Construction.Marketplace.Registry
import AgentFabric.Foundation.Transition

namespace AgentFabric.Mesh
open Transition

def agentCapabilities : List String := [
  "research", "coding", "analysis", "review", "retrieval", "planning", "execution"]

/-- The text in lower case. -/
def lower (text : String) : String := String.ofList (LowerText.lower text)

/-- The capabilities of an agent are known and distinct. -/
structure CapabilityManifest where
  capabilities : List String
  distinct : capabilities.Nodup
  known : ∀ capability ∈ capabilities, capability ∈ agentCapabilities

namespace CapabilityManifest

/-- The manifest of listed capabilities in any letter case. -/
def ofItems (items : List String) : Except PyError CapabilityManifest :=
  let normalized := Sorting.sortedBy id (items.map lower).dedup
  if known : ∀ capability ∈ normalized, capability ∈ agentCapabilities then
    .ok ⟨normalized, (Sorting.sortedBy_perm id _).nodup_iff.mpr (List.nodup_dedup _), known⟩
  else
    .error (.valueError ("unsupported capabilities: " ++
      ", ".intercalate (normalized.filter fun capability => capability ∉ agentCapabilities)))

def supports (manifest : CapabilityManifest) (capability : String) : Prop :=
  lower capability ∈ manifest.capabilities

instance (manifest : CapabilityManifest) (capability : String) :
    Decidable (manifest.supports capability) :=
  inferInstanceAs (Decidable (_ ∈ _))

end CapabilityManifest

/-- The identity of an agent and the parts of its certificate that are validated. -/
structure AgentPassport where
  agentId : String
  version : String
  capabilities : CapabilityManifest
  signingFingerprint : String
  certificateAgentId : String
  certificateFingerprint : String
  expiresAt : Option UtcTime

def AgentPassport.validate (passport : AgentPassport) (now : UtcTime) : Bool :=
  passport.agentId = passport.certificateAgentId &&
    passport.signingFingerprint = passport.certificateFingerprint &&
      passport.expiresAt.all fun expiresAt => now.wall.micros < expiresAt.wall.micros

structure AgentDirectoryEntry where
  passport : AgentPassport
  healthStatus : String
  lastSeenAt : UtcTime

structure AgentDirectory where
  entries : Dict String AgentDirectoryEntry
  capabilityIndex : Dict String (List String)

inductive DirectoryCall where
  | register (passport : AgentPassport) (healthStatus : String) (now : UtcTime)
  | updateHealth (agentId healthStatus : String) (now : UtcTime)

/-- A version is compatible with itself and with its major version followed by `.x`. -/
def versionCompatible (candidate requested : String) : Bool :=
  if Marketplace.endsWith requested ".x" then
    Marketplace.beforeDot candidate = Marketplace.beforeDot requested
  else candidate = requested

namespace AgentDirectory

def initial : AgentDirectory := ⟨Dict.empty, Dict.empty⟩

/-- An agent is indexed once under a capability. -/
def index (agentId : String) (indexed : Dict String (List String)) (capability : String) :
    Dict String (List String) :=
  let agents := indexed.getD capability []
  indexed.set capability (if agentId ∈ agents then agents else agents ++ [agentId])

variable (directory : AgentDirectory)

def register (passport : AgentPassport) (healthStatus : String)
    (now : UtcTime) : Except PyError Unit × AgentDirectory :=
  if passport.validate now then
    (.ok (), {
      entries := directory.entries.set passport.agentId ⟨passport, healthStatus, now⟩
      capabilityIndex := passport.capabilities.capabilities.foldl (index passport.agentId)
        directory.capabilityIndex })
  else (.error (.valueError "agent passport is not valid"), directory)

def updateHealth (agentId healthStatus : String) (now : UtcTime) :
    Except PyError Unit × AgentDirectory :=
  match directory.entries.get? agentId with
  | none => (.error (.keyError agentId), directory)
  | some entry =>
      (.ok (), { directory with
        entries := directory.entries.set agentId { entry with healthStatus, lastSeenAt := now } })

def entry (agentId : String) : Except PyError AgentDirectoryEntry :=
  match directory.entries.get? agentId with
  | none => .error (.keyError agentId)
  | some entry => .ok entry

def findByCapability (capability : String) (version : Option String)
    (healthyOnly : Bool) : Except PyError (List AgentDirectoryEntry) := do
  let entries ← (directory.capabilityIndex.getD (lower capability) []).mapM directory.entry
  .ok ((entries.filter fun entry => version.all (versionCompatible entry.passport.version)).filter
    fun entry => !healthyOnly || entry.healthStatus = "healthy")

/-- The agent that `start_workflow` gives to a node: its own one, or the first healthy one for its
capability, where a missing field is empty. -/
def resolve (agentId capability : String) : Except PyError String :=
  if agentId = "" ∧ capability ≠ "" then do
    match ← directory.findByCapability capability none true with
    | [] => .error (.valueError ("no healthy agent found for capability: " ++ capability))
    | first :: _ => .ok first.passport.agentId
  else .ok agentId

def step : Machine AgentDirectory DirectoryCall (Except PyError Unit)
  | directory, .register passport healthStatus now => directory.register passport healthStatus now
  | directory, .updateHealth agentId healthStatus now =>
      directory.updateHealth agentId healthStatus now

end AgentDirectory

end AgentFabric.Mesh
