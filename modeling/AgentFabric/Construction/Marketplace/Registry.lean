import AgentFabric.Foundation.DateTime
import AgentFabric.Foundation.Dict
import AgentFabric.Foundation.JsonText

namespace AgentFabric.Marketplace

/-- The declaration of another package that a package needs. -/
structure PackageDependency where
  packageId : String
  versionConstraint : String
  required : Bool
  deprecated : Bool

def PackageDependency.asDict (dependency : PackageDependency) : Json := .obj [
  ("package_id", .str dependency.packageId),
  ("version_constraint", .str dependency.versionConstraint),
  ("required", .bool dependency.required),
  ("deprecated", .bool dependency.deprecated)]

/-- The part of a package that its publisher signs. -/
structure PackageManifest where
  packageId : String
  name : String
  version : String
  publisherTenantId : String
  agentIdentityId : String
  runtimeRequirements : List (String × Json)
  toolPermissions : List String
  connectorRequirements : List String
  connectorPermissions : List String
  dependencies : List PackageDependency
  licenseType : String
  pricingModel : String

def industryPackageCategories : List String :=
  ["general", "construction", "treasury", "trust", "energy", "manufacturing", "aerospace"]

/-- The connectors whose permissions a manifest declares twice. -/
def connectorNames : List String := [
  "gmail", "calendar", "github", "jira", "slack", "servicenow", "s3", "custom_http", "teams",
  "salesforce", "sharepoint"]

variable (text start : String)

/-- The text starts with another text. -/
def startsWith : Bool := start.toList.isPrefixOf text.toList

/-- The text in lower case starts with another text. -/
def lowerStartsWith : Bool :=
  start.toList.isPrefixOf (text.toList.map Char.toLower)

/-- The text ends with another text. -/
def endsWith (text finish : String) : Bool := finish.toList.isSuffixOf text.toList

/-- The text before the first dot. -/
def beforeDot (text : String) : String := String.ofList (text.toList.takeWhile fun char => char ≠ '.')

namespace PackageManifest

/-- A permission that belongs to a connector. -/
def isConnectorLike (permission : String) : Bool :=
  '.' ∈ permission.toList ∧ beforeDot permission ∈ connectorNames

variable (manifest : PackageManifest)

def validate : Except PyError Unit :=
  if "" ∈ [manifest.packageId, manifest.name, manifest.version, manifest.publisherTenantId,
      manifest.agentIdentityId] then
    .error (.valueError "package manifest is missing required fields")
  else if manifest.toolPermissions.any fun permission => startsWith permission "raw." then
    .error (.valueError "package cannot request raw sensitive persistence")
  else if (manifest.toolPermissions.filter isConnectorLike).any fun permission =>
      permission ∉ manifest.connectorPermissions then
    .error (.valueError "connector permissions must be explicitly declared")
  else .ok ()

def fields : List (String × Json) := [
  ("package_id", .str manifest.packageId),
  ("name", .str manifest.name),
  ("version", .str manifest.version),
  ("publisher_tenant_id", .str manifest.publisherTenantId),
  ("agent_identity_id", .str manifest.agentIdentityId),
  ("runtime_requirements", .obj manifest.runtimeRequirements),
  ("tool_permissions", .arr (manifest.toolPermissions.map .str)),
  ("connector_requirements", .arr (manifest.connectorRequirements.map .str)),
  ("connector_permissions", .arr (manifest.connectorPermissions.map .str)),
  ("dependencies", .arr (manifest.dependencies.map PackageDependency.asDict)),
  ("license_type", .str manifest.licenseType),
  ("pricing_model", .str manifest.pricingModel)]

def asDict : Json := .obj manifest.fields

/-- The words of `json.dumps` with its default separators. -/
def spaced : Json.Dialect := { Json.compact with comma := [',', ' '], colon := [':', ' '] }

def manifestHash (sha256 : String → String) (manifest : PackageManifest) : String :=
  sha256 (String.ofList (manifest.asDict.sortKeys.write spaced))

end PackageManifest

/-- The flags and notes that accompany a published version. -/
structure PackageMetadata where
  description : String
  tags : List String
  isPrivate : Bool
  enterpriseOnly : Bool
  deprecated : Bool
  revoked : Bool
  highRiskApproved : Bool
  approvalNotes : String
  category : String
  bundleId : Option String
  compatibility : List (String × String)
  qualityScore : Option FloatRepr
  extra : List (String × Json)

/-- The defaults of the dataclass. -/
def PackageMetadata.default : PackageMetadata where
  description := ""
  tags := []
  isPrivate := false
  enterpriseOnly := false
  deprecated := false
  revoked := false
  highRiskApproved := false
  approvalNotes := ""
  category := "general"
  bundleId := none
  compatibility := []
  qualityScore := none
  extra := []

/-- A published version of a package. -/
structure PackageVersion where
  manifest : PackageManifest
  manifestHash : String
  signature : String
  publisherFingerprint : String
  metadata : PackageMetadata
  createdAt : UtcTime
  publishedAt : UtcTime

namespace PackageVersion

variable (package : PackageVersion)

def packageId : String := package.manifest.packageId

def version : String := package.manifest.version

/-- The key of the version in the registry. -/
def key : String := package.packageId ++ ":" ++ package.version

end PackageVersion

/-- The right of a tenant to use a package. -/
structure Entitlement where
  tenantId : String
  packageId : String
  version : String
  licenseType : String
  active : Bool
  expiresAt : Option DateTime
  entitlementId : String
  createdAt : UtcTime

namespace Entitlement

def fields (entitlement : Entitlement) : List (String × Json) := [
  ("entitlement_id", .str entitlement.entitlementId),
  ("tenant_id", .str entitlement.tenantId),
  ("package_id", .str entitlement.packageId),
  ("version", .str entitlement.version),
  ("license_type", .str entitlement.licenseType),
  ("active", .bool entitlement.active),
  ("expires_at", Json.optionalText (entitlement.expiresAt.map DateTime.isoformat)),
  ("created_at", .str entitlement.createdAt.isoformat)]

end Entitlement

/-- The installation of a package by a tenant.
The two last times are keys that an upgrade and a rollback add. -/
structure Install where
  installId : String
  tenantId : String
  packageId : String
  publisherTenantId : String
  version : String
  installedAt : UtcTime
  active : Bool
  upgradedAt : Option UtcTime
  rolledBackAt : Option UtcTime

namespace Install

def fields (install : Install) : List (String × Json) := [
  ("install_id", .str install.installId),
  ("tenant_id", .str install.tenantId),
  ("package_id", .str install.packageId),
  ("publisher_tenant_id", .str install.publisherTenantId),
  ("version", .str install.version),
  ("installed_at", .str install.installedAt.isoformat),
  ("active", .bool install.active)]

end Install

open Sorting

/-- A constraint names every version, one version, a major version or a least version, where the
least version is compared as a text. -/
def compatibleText (version constraint : String) : Bool :=
  if constraint ∈ ["*", version] then true
  else if endsWith constraint ".x" then beforeDot version = beforeDot constraint
  else if startsWith constraint ">=" then String.ofList (constraint.toList.drop 2) ≤ version
  else false

namespace VersionResolver

/-- The check of the resolver. -/
def isCompatible (version constraint : String) : Bool := compatibleText version constraint

variable (versions : List PackageVersion)

/-- The last version in the order of the version texts. -/
def latest : Except PyError PackageVersion :=
  match (sortedBy PackageVersion.version versions).getLast? with
  | none => .error (.keyError "no package versions available")
  | some package => .ok package

def compatible (constraint : Option String) : Except PyError PackageVersion :=
  match constraint with
  | none => latest versions
  | some constraint =>
      if constraint = "" then latest versions
      else latest (versions.filter fun package => isCompatible package.version constraint)

end VersionResolver

/-- The collection of the published versions under their keys. -/
abbrev MarketplaceRegistryService := Dict String PackageVersion

namespace MarketplaceRegistryService

variable (registry : MarketplaceRegistryService)

def saveVersion (package : PackageVersion) : MarketplaceRegistryService :=
  registry.set package.key package

/-- A tenant sees its own packages and those that are not private. -/
def listPackages (tenantId : Option String) : List PackageVersion :=
  match tenantId with
  | none => Collection.rows registry
  | some tenantId => (Collection.rows registry).filter fun package =>
      package.manifest.publisherTenantId = tenantId ∨ package.metadata.isPrivate = false

variable (packageId : String)

/-- The published versions of one package. -/
def versionsOf : List PackageVersion :=
  (registry.listPackages none).filter fun package => package.packageId = packageId

def get (version : Option String) : Except PyError PackageVersion :=
  let versions := registry.versionsOf packageId
  if versions = [] then .error (.notFoundError "package not found")
  else
    match version.filter fun version => version ≠ "" with
    | none => VersionResolver.latest versions
    | some version =>
        match versions.find? fun package => package.version = version with
        | none => .error (.notFoundError "package version not found")
        | some package => .ok package

/-- A later listed version replaces an earlier one with a smaller version text. -/
def keepLatest (latest : Dict String PackageVersion) (package : PackageVersion) :
    Dict String PackageVersion :=
  match latest.get? package.packageId with
  | none => latest.set package.packageId package
  | some existing =>
      if existing.version < package.version then latest.set package.packageId package else latest

def availableById : Dict String PackageVersion :=
  (registry.listPackages none).foldl keepLatest Dict.empty

end MarketplaceRegistryService

section Scanning

/-- The permissions that a tenant approves. -/
def highRiskPermissions : List String := [
  "network.unbounded", "tenant.data.all", "memory.unbounded", "events.write", "marketplace.admin",
  "veil.restore", "gmail.send", "calendar.write", "github.write", "jira.write", "slack.write",
  "servicenow.write", "s3.write", "custom_http.execute"]

structure PermissionScan where
  requestedPermissions : List String
  highRiskPermissions : List String
  requiresApproval : Bool
  summary : String

def PermissionScanner.scan (package : PackageVersion) : PermissionScan :=
  let requested := sortedBy id (package.manifest.toolPermissions ++
    package.manifest.connectorPermissions).dedup
  let highRisk := requested.filter fun permission => permission ∈ highRiskPermissions
  { requestedPermissions := requested
    highRiskPermissions := highRisk
    requiresApproval := !highRisk.isEmpty
    summary := if highRisk.isEmpty then "no high-risk permissions"
      else "high-risk permissions require tenant approval" }

structure DependencyScan where
  missing : List String
  deprecated : List String
  unsigned : List String
  ok : Bool

def DependencyScanner.scan (package : PackageVersion) (available : Dict String PackageVersion) :
    DependencyScan :=
  let dependencies := package.manifest.dependencies
  let missing := (dependencies.filter fun dependency =>
    dependency.required ∧ (available.get? dependency.packageId).isNone).map
      PackageDependency.packageId
  let deprecated := (dependencies.filter PackageDependency.deprecated).map
    PackageDependency.packageId
  let unsigned := (dependencies.filter fun dependency =>
    (available.get? dependency.packageId).any fun resolved => resolved.signature = "").map
      PackageDependency.packageId
  { missing, deprecated, unsigned
    ok := missing.isEmpty && deprecated.isEmpty && unsigned.isEmpty }

structure PolicyScan where
  findings : List String
  ok : Bool

/-- What the marketplace does not decide itself: the hash, the mode of the verifier and the comparison
of a quality score with 0.8. -/
structure MarketplaceSettings where
  sha256 : String → String
  allowUnsignedLocal : Bool
  isBelowQuality : FloatRepr → Bool

variable (settings : MarketplaceSettings)

def PolicyScanner.scan (package : PackageVersion) : PolicyScan :=
  let findings := [
    ("suspicious raw manifest field", package.manifest.fields.any fun field =>
      lowerStartsWith field.1 "raw_"),
    ("package version is revoked", package.metadata.revoked),
    ("package version is deprecated", package.metadata.deprecated),
    ("unsupported industry package category",
      decide (package.metadata.category ∉ industryPackageCategories)),
    ("industry package quality score is below threshold",
      package.metadata.qualityScore.any settings.isBelowQuality)].filter Prod.snd
  { findings := findings.map Prod.fst, ok := findings.isEmpty }

structure ScanResult where
  ok : Bool
  permission : PermissionScan
  dependency : DependencyScan
  policy : PolicyScan

namespace MarketplaceScanner

variable (package : PackageVersion) (available : Dict String PackageVersion)

def scan : ScanResult :=
  let permission := PermissionScanner.scan package
  let dependency := DependencyScanner.scan package available
  let policy := PolicyScanner.scan settings package
  { ok := dependency.ok && policy.ok && !permission.requiresApproval
    permission, dependency, policy }

/-- An approval of the publisher's metadata passes every finding. -/
def enforce : Except PyError ScanResult :=
  let result := scan settings package available
  if !result.ok && !package.metadata.highRiskApproved then
    .error (.validationError "package failed marketplace scan")
  else .ok result

end MarketplaceScanner

end Scanning

section Dependencies

namespace ConflictDetector

/-- The check of the detector. -/
def isCompatible (version constraint : String) : Bool := compatibleText version constraint

def checkDependency (available : Dict String PackageVersion) (dependency : PackageDependency) :
    Except PyError Unit :=
  let resolved := available.get? dependency.packageId
  if dependency.required ∧ resolved.isNone then
    .error (.validationError ("missing dependency: " ++ dependency.packageId))
  else if dependency.deprecated then
    .error (.validationError ("deprecated dependency: " ++ dependency.packageId))
  else if resolved.any fun package =>
      !isCompatible package.version dependency.versionConstraint then
    .error (.validationError ("incompatible dependency: " ++ dependency.packageId))
  else .ok ()

def validate (package : PackageVersion) (available : Dict String PackageVersion) :
    Except PyError Unit :=
  package.manifest.dependencies.forM (checkDependency available)

end ConflictDetector

/-- The sets and the list of a search for cycles. -/
structure CycleSearch where
  visiting : List String
  visited : List String
  cycles : List (List String)

namespace DependencyGraph

variable (packages : List PackageVersion)

/-- The dependencies of all listed versions of a package id. -/
def edges (node : String) : List String :=
  (packages.filter fun package => package.packageId = node).flatMap fun package =>
    package.manifest.dependencies.map PackageDependency.packageId

/-- The depth-first search from one node, whose open calls all stand at different nodes. -/
def visit (children : String → List String) : Nat → CycleSearch → String → List String → CycleSearch
  | 0, search, _, _ => search
  | depth + 1, search, node, path =>
      if node ∈ search.visiting then
        { search with
          cycles := search.cycles ++ [path.dropWhile (fun earlier => earlier ≠ node) ++ [node]] }
      else if node ∈ search.visited then search
      else
        let entered := { search with visiting := node :: search.visiting }
        let left := (children node).foldl
          (fun search child => visit children depth search child (path ++ [child])) entered
        { left with
          visiting := left.visiting.filter fun other => other ≠ node
          visited := node :: left.visited }

/-- The listed packages under their ids, in the order of the first version of each. -/
def byId : Dict String PackageVersion :=
  packages.foldl (fun listed package => listed.set package.packageId package) Dict.empty

/-- The ids of the packages and of their dependencies bound the depth of the search.
Python's recursion limit is not modelled. -/
def detectCycles : List (List String) :=
  let roots := (byId packages).items.map Prod.fst
  let nodes := roots ++ roots.flatMap (edges packages)
  (roots.foldl (fun search root => visit (edges packages) (nodes.length + 1) search root [root])
    ⟨[], [], []⟩).cycles

end DependencyGraph

/-- The permissions that no dependency may have. -/
def unsafeDependencyPermissions : List String :=
  ["tenant.data.all", "network.unbounded", "veil.restore"]

def DependencyResolver.resolve (package : PackageVersion) (available : Dict String PackageVersion) :
    Except PyError (List PackageVersion) := do
  ConflictDetector.validate package available
  let dependencies := package.manifest.dependencies.filterMap fun dependency =>
    available.get? dependency.packageId
  if DependencyGraph.detectCycles (package :: dependencies) ≠ [] then
    .error (.validationError "circular dependency detected")
  else
    let unsafePermissions := (dependencies.flatMap fun dependency =>
      dependency.manifest.toolPermissions.filter fun permission =>
        permission ∈ unsafeDependencyPermissions).dedup
    if unsafePermissions ≠ [] then
      .error (.validationError ("unsafe transitive permissions: " ++
        String.intercalate ", " (sortedBy id unsafePermissions)))
    else .ok (package :: dependencies)

end Dependencies

end AgentFabric.Marketplace
