import AgentFabric.Construction.Connectors.ConnectorRegistry

namespace AgentFabric.Foundry
open Connectors (TenantContext)
open Sorting

/-- The SHA-256 digest of a text in hexadecimal digits, and the first sixteen of them. -/
structure Digests where
  sha256 : String → String
  short : String → String

structure RepositoryManifest where
  name : String
  domain : String
  purpose : String
  architecture : String
  repositoryType : String
  dependencies : List String
  apis : List String
  rbacScopes : List String
  events : List String
  observability : List String
  tests : List String
  documentationRequirements : List String
  packageStructure : List String
  metadata : List (String × Json)

namespace RepositoryManifest

variable (manifest : RepositoryManifest)

/-- The dictionary of a manifest lists its collections in order, except for the package structure. -/
def sorted : RepositoryManifest :=
  { manifest with
    dependencies := sortedBy id manifest.dependencies
    apis := sortedBy id manifest.apis
    rbacScopes := sortedBy id manifest.rbacScopes
    events := sortedBy id manifest.events
    observability := sortedBy id manifest.observability
    tests := sortedBy id manifest.tests
    documentationRequirements := sortedBy id manifest.documentationRequirements
    metadata := sortedBy Prod.fst manifest.metadata }

def texts (items : List String) : Json := .arr (items.map .str)

def asDict : Json :=
  let listed := manifest.sorted
  .obj [
    ("name", .str listed.name),
    ("domain", .str listed.domain),
    ("purpose", .str listed.purpose),
    ("architecture", .str listed.architecture),
    ("repository_type", .str listed.repositoryType),
    ("dependencies", texts listed.dependencies),
    ("apis", texts listed.apis),
    ("rbac_scopes", texts listed.rbacScopes),
    ("events", texts listed.events),
    ("observability", texts listed.observability),
    ("tests", texts listed.tests),
    ("documentation_requirements", texts listed.documentationRequirements),
    ("package_structure", texts listed.packageStructure),
    ("metadata", .obj listed.metadata)]

def exportJson : String := manifest.asDict.dumps

def repositoryId (digests : Digests) (manifest : RepositoryManifest) : String :=
  "repo-" ++ digests.short manifest.exportJson

end RepositoryManifest

structure RepositoryBlueprint where
  blueprintId : String
  manifest : RepositoryManifest
  files : Dict String String

namespace RepositoryBlueprint

def asDict (blueprint : RepositoryBlueprint) : Json := .obj [
  ("blueprint_id", .str blueprint.blueprintId),
  ("manifest", blueprint.manifest.asDict),
  ("files", .obj ((sortedBy Prod.fst blueprint.files.items).map fun file => (file.1, .str file.2)))]

def digest (digests : Digests) (blueprint : RepositoryBlueprint) : String :=
  digests.sha256 blueprint.asDict.dumps

end RepositoryBlueprint

/-- A stored repository, whose manifest and dependencies are listed in order. -/
structure RepositoryRecord where
  repositoryId : String
  tenantId : String
  organizationId : String
  name : String
  version : String
  status : String
  manifest : RepositoryManifest
  blueprintDigest : String
  owner : String
  dependencies : List String
  parentRepositoryId : Option String
  lineageAction : String
  releaseHistory : List String
  createdAt : UtcTime
  updatedAt : UtcTime

structure RepositoryEvent where
  eventType : String
  record : RepositoryRecord

/-- The collection of the repositories with the events of their changes. -/
structure LifecycleState where
  records : Dict String RepositoryRecord
  events : List RepositoryEvent

/-- The two ways to derive a repository. -/
inductive Derivation where
  | clone
  | fork
  deriving DecidableEq

def Derivation.action : Derivation → String
  | .clone => "clone"
  | .fork => "fork"

def Derivation.eventType : Derivation → String
  | .clone => "factory.repository.cloned"
  | .fork => "factory.repository.forked"

variable (digests : Digests)

/-- The id of a repository that is derived under a name. -/
def derivedId (parentId : String) (derivation : Derivation) (name : String) : String :=
  "repo-" ++ digests.short (parentId ++ ":" ++ derivation.action ++ ":" ++ name)

namespace LifecycleState

variable (digests : Digests) (now : Nat → UtcTime)

def initial : LifecycleState := ⟨Dict.empty, []⟩

variable (state : LifecycleState)

/-- The stored dictionary lists the dependencies in order. -/
def save (record : RepositoryRecord) (eventType : String) : LifecycleState where
  records := state.records.set record.repositoryId
    { record with dependencies := sortedBy id record.dependencies }
  events := state.events ++ [⟨eventType, record⟩]

variable (ctx : TenantContext) (blueprint : RepositoryBlueprint)

/-- The record of a new repository. -/
def created : RepositoryRecord where
  repositoryId := blueprint.manifest.repositoryId digests
  tenantId := ctx.tenantId
  organizationId := ctx.organizationId
  name := blueprint.manifest.name
  version := "1.0.0"
  status := "active"
  manifest := blueprint.manifest.sorted
  blueprintDigest := blueprint.digest digests
  owner := ctx.principalId
  dependencies := blueprint.manifest.dependencies
  parentRepositoryId := none
  lineageAction := "create"
  releaseHistory := ["1.0.0"]
  createdAt := now 0
  updatedAt := now 1

def create : RepositoryRecord × LifecycleState :=
  let record := created digests now ctx blueprint
  (record, state.save record "factory.repository.created")

variable (repositoryId : String)

def get : Except PyError RepositoryRecord :=
  match state.records.get? repositoryId with
  | none => .error (.notFoundError "repository not found")
  | some record =>
      if record.tenantId ≠ ctx.tenantId ∧ ctx.isGlobalAdmin = false then
        .error (.authorizationError "cross-tenant repository access denied")
      else .ok record

def list : List RepositoryRecord :=
  (Collection.rows state.records).filter fun record => record.tenantId = ctx.tenantId

/-- A change of a stored repository that the caller may read. -/
def change (repositoryId eventType : String) (changed : RepositoryRecord → RepositoryRecord) :
    Except PyError RepositoryRecord × LifecycleState :=
  match state.get ctx repositoryId with
  | .error exception => (.error exception, state)
  | .ok current => (.ok (changed current), state.save (changed current) eventType)

def update (manifest : RepositoryManifest) (version : String) :
    Except PyError RepositoryRecord × LifecycleState :=
  state.change ctx repositoryId "factory.repository.updated" fun current =>
    { current with
      version
      manifest := manifest.sorted
      dependencies := manifest.dependencies
      releaseHistory := current.releaseHistory ++ [version]
      updatedAt := now 0 }

def setStatus
    (repositoryId status eventType : String) : Except PyError RepositoryRecord × LifecycleState :=
  state.change ctx repositoryId eventType fun current => { current with status, updatedAt := now 0 }

def deprecateRepository : Except PyError RepositoryRecord × LifecycleState :=
  state.setStatus now ctx repositoryId "deprecated" "factory.repository.deprecated"

def archive : Except PyError RepositoryRecord × LifecycleState :=
  state.setStatus now ctx repositoryId "archived" "factory.repository.archived"

def restore : Except PyError RepositoryRecord × LifecycleState :=
  state.setStatus now ctx repositoryId "active" "factory.repository.restored"

/-- The derived record keeps what it does not replace, as the version and the history. -/
def derived (parent : RepositoryRecord) (name : String)
    (derivation : Derivation) : RepositoryRecord :=
  { parent with
    repositoryId := derivedId digests parent.repositoryId derivation name
    name
    manifest := { parent.manifest with name }.sorted
    parentRepositoryId := some parent.repositoryId
    lineageAction := derivation.action
    owner := ctx.principalId
    createdAt := now 0
    updatedAt := now 1 }

def derive (repositoryId name : String)
    (derivation : Derivation) : Except PyError RepositoryRecord × LifecycleState :=
  state.change ctx repositoryId derivation.eventType fun parent =>
    derived digests now ctx parent name derivation

def clone (repositoryId name : String) : Except PyError RepositoryRecord × LifecycleState :=
  state.derive digests now ctx repositoryId name .clone

def fork (repositoryId name : String) : Except PyError RepositoryRecord × LifecycleState :=
  state.derive digests now ctx repositoryId name .fork

end LifecycleState

inductive LifecycleOperation where
  | create (blueprint : RepositoryBlueprint)
  | get (repositoryId : String)
  | list
  | update (repositoryId : String) (manifest : RepositoryManifest) (version : String)
  | clone (repositoryId name : String)
  | fork (repositoryId name : String)
  | deprecateRepository (repositoryId : String)
  | archive (repositoryId : String)
  | restore (repositoryId : String)

/-- An operation with the context of its caller and its clock readings. -/
structure LifecycleCall where
  ctx : TenantContext
  operation : LifecycleOperation
  now : Nat → UtcTime

inductive LifecycleAnswer where
  | record (record : RepositoryRecord)
  | records (records : List RepositoryRecord)

def LifecycleState.step :
    Transition.Machine LifecycleState LifecycleCall (Except PyError LifecycleAnswer) :=
  fun state call =>
    let answered (result : Except PyError RepositoryRecord × LifecycleState) :
        Except PyError LifecycleAnswer × LifecycleState := (result.1.map .record, result.2)
    match call.operation with
    | .create blueprint =>
        let (record, after) := state.create digests call.now call.ctx blueprint
        (.ok (.record record), after)
    | .get repositoryId => answered (state.get call.ctx repositoryId, state)
    | .list => (.ok (.records (state.list call.ctx)), state)
    | .update repositoryId manifest version =>
        answered (state.update call.now call.ctx repositoryId manifest version)
    | .clone repositoryId name => answered (state.clone digests call.now call.ctx repositoryId name)
    | .fork repositoryId name => answered (state.fork digests call.now call.ctx repositoryId name)
    | .deprecateRepository repositoryId =>
        answered (state.deprecateRepository call.now call.ctx repositoryId)
    | .archive repositoryId => answered (state.archive call.now call.ctx repositoryId)
    | .restore repositoryId => answered (state.restore call.now call.ctx repositoryId)

end AgentFabric.Foundry
