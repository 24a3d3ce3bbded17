import AgentFabric.Construction.Cloud.Runtime
import AgentFabric.Construction.Marketplace.Registry

namespace AgentFabric.Marketplace
open Cloud

/-- The collections of the marketplace, the trusted fingerprints and the event log. -/
structure MarketplaceState where
  packages : MarketplaceRegistryService
  entitlements : Dict String Entitlement
  installs : Dict String Install
  trusted : Dict String String
  events : List EventAppend

/-- The key of a publisher. -/
structure SigningKey where
  publisherId : String
  secret : String

/-- The arguments of a publication with the times that it draws. -/
structure PublishRequest where
  manifest : PackageManifest
  metadata : PackageMetadata
  signature : String
  signingKey : SigningKey
  createdAt : UtcTime
  publishedAt : UtcTime

/-- The ids and the times that an installation draws. -/
structure InstallDraw where
  entitlementId : String
  grantedAt : UtcTime
  installId : String
  installedAt : UtcTime

namespace MarketplaceState

variable (settings : MarketplaceSettings)

def initial : MarketplaceState := ⟨Dict.empty, Dict.empty, Dict.empty, Dict.empty, []⟩

def append (marketplace : MarketplaceState) (eventType aggregateId : String)
    (payload : List (String × Json)) : MarketplaceState :=
  { marketplace with
    events := marketplace.events ++ [⟨eventType, aggregateId, .obj payload⟩] }

section Publish

def fingerprint (key : SigningKey) : String :=
  settings.sha256 (key.publisherId ++ ":" ++ key.secret)

def sign (manifestHash : String) (key : SigningKey) : String :=
  settings.sha256 (manifestHash ++ ":" ++ key.secret)

variable (marketplace : MarketplaceState)

/-- An unsigned package passes only in the local mode. -/
def verify (publisherId manifestHash signature : String)
    (key : SigningKey) : Except PyError String :=
  if signature = "" then
    if settings.allowUnsignedLocal then .ok "unsigned-local"
    else .error (.validationError "unsigned packages are not allowed")
  else
    match marketplace.trusted.get? publisherId with
    | none => .error (.validationError "publisher is not trusted")
    | some trusted =>
        if fingerprint settings key ≠ trusted ∨ sign settings manifestHash key ≠ signature then
          .error (.validationError "package signature verification failed")
        else .ok (fingerprint settings key)

variable (request : PublishRequest)

/-- The version that a publication saves. -/
def publishedVersion :
    Except PyError PackageVersion := do
  request.manifest.validate
  let manifestHash := request.manifest.manifestHash settings.sha256
  let publisherFingerprint ← verify settings marketplace request.manifest.publisherTenantId
    manifestHash request.signature request.signingKey
  let package : PackageVersion := {
    manifest := request.manifest
    manifestHash
    signature := request.signature
    publisherFingerprint
    metadata := request.metadata
    createdAt := request.createdAt
    publishedAt := request.publishedAt }
  let _ ← MarketplaceScanner.enforce settings package marketplace.packages.availableById
  .ok package

def publish : Except PyError PackageVersion × MarketplaceState :=
  match publishedVersion settings marketplace request with
  | .error exception => (.error exception, marketplace)
  | .ok package =>
      let saved := { marketplace with packages := marketplace.packages.saveVersion package }
      let announced := saved.append "marketplace.package.published" package.packageId [
        ("tenant_id", .str request.manifest.publisherTenantId),
        ("package_id", .str package.packageId),
        ("version", .str package.version),
        ("manifest_hash", .str package.manifestHash)]
      (.ok package, announced.append "marketplace.package.signed" package.packageId [
        ("tenant_id", .str request.manifest.publisherTenantId),
        ("package_id", .str package.packageId),
        ("version", .str package.version),
        ("publisher_fingerprint", .str package.publisherFingerprint)])

end Publish

section Install

variable (marketplace : MarketplaceState)

/-- The gate of an installation. -/
def validateInstall (tenantId : String) (package : PackageVersion)
    (approvedPermissions : Bool) : Except PyError Unit := do
  if package.metadata.isPrivate ∧ package.manifest.publisherTenantId ≠ tenantId then
    .error (.authorizationError "tenant cannot install private package")
  else
    let available := marketplace.packages.availableById
    let scan := MarketplaceScanner.scan settings package available
    if scan.permission.requiresApproval ∧
        ¬ (approvedPermissions ∨ package.metadata.highRiskApproved) then
      .error (.authorizationError "high-risk package permissions require approval")
    else if ¬ scan.dependency.ok ∨ ¬ scan.policy.ok then
      .error (.validationError "package failed install scan")
    else do
      let _ ← DependencyResolver.resolve package available
      .ok ()

variable (tenantId packageId : String)

/-- The first active installation of a package by a tenant in the order of the ids. -/
def activeInstall : Except PyError Install :=
  match ((Collection.rows marketplace.installs).filter fun install =>
      install.tenantId = tenantId).find? fun install =>
        install.packageId = packageId ∧ install.active with
  | none => .error (.validationError "package is not installed")
  | some install => .ok install

def putInstall (install : Install) : MarketplaceState :=
  { marketplace with installs := marketplace.installs.set install.installId install }

variable (version : Option String) (approvedPermissions : Bool)

/-- The version that an installation takes. -/
def installable : Except PyError PackageVersion := do
  let package ← marketplace.packages.get packageId version
  validateInstall settings marketplace tenantId package approvedPermissions
  .ok package

def newEntitlement (tenantId : String) (package : PackageVersion) (draw : InstallDraw) :
    Entitlement where
  tenantId := tenantId
  packageId := package.packageId
  version := package.version
  licenseType := package.manifest.licenseType
  active := true
  expiresAt := none
  entitlementId := draw.entitlementId
  createdAt := draw.grantedAt

def newInstall (tenantId : String) (package : PackageVersion) (draw : InstallDraw) : Install where
  installId := draw.installId
  tenantId := tenantId
  packageId := package.packageId
  publisherTenantId := package.manifest.publisherTenantId
  version := package.version
  installedAt := draw.installedAt
  active := true
  upgradedAt := none
  rolledBackAt := none

def install (draw : InstallDraw) : Except PyError Install × MarketplaceState :=
  match installable settings marketplace tenantId packageId version approvedPermissions with
  | .error exception => (.error exception, marketplace)
  | .ok package =>
      let entitlement := newEntitlement tenantId package draw
      let install := newInstall tenantId package draw
      let granted := { marketplace with
        entitlements := marketplace.entitlements.set entitlement.entitlementId entitlement }
      let announced := (granted.putInstall install).append "marketplace.entitlement.granted"
        package.packageId (("tenant_id", .str tenantId) :: entitlement.fields.filter fun field =>
          field.1 ≠ "tenant_id")
      (.ok install, announced.append "marketplace.package.installed" package.packageId
        install.fields)

def uninstall : Except PyError Install × MarketplaceState :=
  match activeInstall marketplace tenantId packageId with
  | .error exception => (.error exception, marketplace)
  | .ok install =>
      let removed := { install with active := false }
      (.ok removed, (marketplace.putInstall removed).append "marketplace.package.uninstalled"
        packageId [("tenant_id", .str tenantId), ("package_id", .str packageId)])

/-- The payload of a change of version. -/
def movedFields (tenantId packageId version : String) : List (String × Json) := [
  ("tenant_id", .str tenantId), ("package_id", .str packageId), ("version", .str version)]

/-- The version and the installation of an upgrade, which counts every permission as approved. -/
def upgradable : Except PyError (PackageVersion × Install) := do
  let package ← installable settings marketplace tenantId packageId version true
  let current ← activeInstall marketplace tenantId packageId
  .ok (package, current)

def upgrade (now : UtcTime) : Except PyError Install × MarketplaceState :=
  match upgradable settings marketplace tenantId packageId version with
  | .error exception => (.error exception, marketplace)
  | .ok (package, current) =>
      let moved := { current with version := package.version, upgradedAt := some now }
      (.ok moved, (marketplace.putInstall moved).append "marketplace.package.upgraded" packageId
        (movedFields tenantId packageId package.version))

/-- The version and the installation of a rollback, which only refuses a revoked version. -/
def restorable (tenantId packageId version : String)
    (adminOverride : Bool) : Except PyError (PackageVersion × Install) := do
  let package ← marketplace.packages.get packageId (some version)
  if package.metadata.revoked ∧ adminOverride = false then
    .error (.validationError "cannot rollback to revoked package version")
  else do
    let current ← activeInstall marketplace tenantId packageId
    .ok (package, current)

def rollback (tenantId packageId version : String)
    (adminOverride : Bool) (now : UtcTime) : Except PyError Install × MarketplaceState :=
  match restorable marketplace tenantId packageId version adminOverride with
  | .error exception => (.error exception, marketplace)
  | .ok (package, current) =>
      let moved := { current with version := package.version, rolledBackAt := some now }
      (.ok moved, (marketplace.putInstall moved).append "marketplace.package.rolled_back" packageId
        (movedFields tenantId packageId package.version))

end Install

section Entitlements

/-- The check of an entitlement, where a naive expiry cannot be compared. -/
def checkEntitlement (entitlement : Option Entitlement) (now : UtcTime) : Except PyError Unit :=
  match entitlement with
  | none => .error (.authorizationError "package entitlement is required")
  | some entitlement =>
      if entitlement.active = false then
        .error (.authorizationError "package entitlement is required")
      else
        match entitlement.expiresAt with
        | none => .ok ()
        | some expiresAt =>
            match expiresAt.later? now.toDateTime with
            | none => .error (.typeError "can't compare offset-naive and offset-aware datetimes")
            | some true => .ok ()
            | some false => .error (.authorizationError "package entitlement has expired")

/-- The first active entitlement of a tenant for a package is checked. -/
def verifyRuntimeEntitlement (marketplace : MarketplaceState) (tenantId packageId : String)
    (now : UtcTime) : Except PyError Unit :=
  checkEntitlement (((Collection.rows marketplace.entitlements).filter fun entitlement =>
    entitlement.tenantId = tenantId).find? fun entitlement =>
      entitlement.packageId = packageId ∧ entitlement.active) now

end Entitlements

end MarketplaceState

/-- The calls that change the marketplace. -/
inductive MarketplaceCall where
  | trust (publisherId fingerprint : String)
  | publish (request : PublishRequest)
  | install (tenantId packageId : String) (version : Option String) (approvedPermissions : Bool)
      (draw : InstallDraw)
  | uninstall (tenantId packageId : String)
  | upgrade (tenantId packageId : String) (version : Option String) (now : UtcTime)
  | rollback (tenantId packageId version : String) (adminOverride : Bool) (now : UtcTime)

namespace MarketplaceState

variable (settings : MarketplaceSettings)

/-- One call, of which only the exception is kept. -/
def step (marketplace : MarketplaceState) : MarketplaceCall → Except PyError Unit × MarketplaceState
  | .trust publisherId fingerprint =>
      (.ok (), { marketplace with trusted := marketplace.trusted.set publisherId fingerprint })
  | .publish request =>
      let (answer, after) := marketplace.publish settings request
      (answer.map fun _ => (), after)
  | .install tenantId packageId version approvedPermissions draw =>
      let (answer, after) :=
        marketplace.install settings tenantId packageId version approvedPermissions draw
      (answer.map fun _ => (), after)
  | .uninstall tenantId packageId =>
      let (answer, after) := marketplace.uninstall tenantId packageId
      (answer.map fun _ => (), after)
  | .upgrade tenantId packageId version now =>
      let (answer, after) := marketplace.upgrade settings tenantId packageId version now
      (answer.map fun _ => (), after)
  | .rollback tenantId packageId version adminOverride now =>
      let (answer, after) := marketplace.rollback tenantId packageId version adminOverride now
      (answer.map fun _ => (), after)

/-- The marketplace after a sequence of calls. -/
def after (calls : List MarketplaceCall) : MarketplaceState :=
  Transition.run (step settings) initial calls

end MarketplaceState

end AgentFabric.Marketplace
