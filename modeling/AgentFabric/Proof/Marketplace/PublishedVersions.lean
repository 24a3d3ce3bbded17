import AgentFabric.Construction.Marketplace.Services
import AgentFabric.Proof.Marketplace.VersionSelection

namespace AgentFabric.Marketplace.MarketplaceState
open Transition MarketplaceRegistryService

variable (settings : MarketplaceSettings)

/-- The installation whose version a call selects. -/
def selection (marketplace : MarketplaceState) : MarketplaceCall → Option Install
  | .install tenantId packageId version approvedPermissions draw =>
      (install settings marketplace tenantId packageId version approvedPermissions draw).1.toOption
  | .upgrade tenantId packageId version now =>
      (upgrade settings marketplace tenantId packageId version now).1.toOption
  | .rollback tenantId packageId version adminOverride now =>
      (rollback marketplace tenantId packageId version adminOverride now).1.toOption
  | _ => none

/-- What one call selects and does to the installations and the entitlements. -/
inductive Changes (marketplace : MarketplaceState) :
    MarketplaceCall → Option Install → MarketplaceState → Prop
  | quiet {call : MarketplaceCall} {after : MarketplaceState}
      (installs : after.installs = marketplace.installs)
      (entitlements : after.entitlements = marketplace.entitlements) :
      Changes marketplace call none after
  | installed {tenantId packageId : String} {version : Option String} {approvedPermissions : Bool}
      {draw : InstallDraw} {after : MarketplaceState} {package : PackageVersion}
      (selected : installable settings marketplace tenantId packageId version approvedPermissions =
        .ok package)
      (installs : after.installs =
        marketplace.installs.set draw.installId (newInstall tenantId package draw))
      (entitlements : after.entitlements =
        marketplace.entitlements.set draw.entitlementId (newEntitlement tenantId package draw)) :
      Changes marketplace (.install tenantId packageId version approvedPermissions draw)
        (some (newInstall tenantId package draw)) after
  | upgraded {tenantId packageId : String} {version : Option String} {now : UtcTime}
      {after : MarketplaceState} {package : PackageVersion} {current moved : Install}
      (selected : installable settings marketplace tenantId packageId version true = .ok package)
      (active : activeInstall marketplace tenantId packageId = .ok current)
      (made : moved = { current with version := package.version, upgradedAt := some now })
      (installs : after.installs = marketplace.installs.set current.installId moved)
      (entitlements : after.entitlements = marketplace.entitlements) :
      Changes marketplace (.upgrade tenantId packageId version now) (some moved) after
  | rolledBack {tenantId packageId version : String} {adminOverride : Bool} {now : UtcTime}
      {after : MarketplaceState} {package : PackageVersion} {current moved : Install}
      (selected : marketplace.packages.get packageId (some version) = .ok package)
      (kept : package.metadata.revoked = true → adminOverride = true)
      (active : activeInstall marketplace tenantId packageId = .ok current)
      (made : moved = { current with version := package.version, rolledBackAt := some now })
      (installs : after.installs = marketplace.installs.set current.installId moved)
      (entitlements : after.entitlements = marketplace.entitlements) :
      Changes marketplace (.rollback tenantId packageId version adminOverride now) (some moved)
        after
  | removed {tenantId packageId : String} {after : MarketplaceState} {current : Install}
      (active : activeInstall marketplace tenantId packageId = .ok current)
      (installs : after.installs =
        marketplace.installs.set current.installId { current with active := false })
      (entitlements : after.entitlements = marketplace.entitlements) :
      Changes marketplace (.uninstall tenantId packageId) none after

variable {settings} {marketplace : MarketplaceState} {package : PackageVersion} {current : Install}

theorem upgradable_ok {tenantId packageId : String} {version : Option String}
    (found : upgradable settings marketplace tenantId packageId version = .ok (package, current)) :
    installable settings marketplace tenantId packageId version true = .ok package ∧
      activeInstall marketplace tenantId packageId = .ok current := by
  unfold upgradable at found
  obtain ⟨chosen, selected, rest⟩ := bind_eq_ok_iff.mp found
  obtain ⟨install, active, same⟩ := bind_eq_ok_iff.mp rest
  cases same
  exact ⟨selected, active⟩

theorem restorable_ok {tenantId packageId version : String} {adminOverride : Bool}
    (found : restorable marketplace tenantId packageId version adminOverride =
      .ok (package, current)) :
    marketplace.packages.get packageId (some version) = .ok package ∧
      (package.metadata.revoked = true → adminOverride = true) ∧
      activeInstall marketplace tenantId packageId = .ok current := by
  unfold restorable at found
  obtain ⟨chosen, selected, rest⟩ := bind_eq_ok_iff.mp found
  split at rest
  · cases rest
  · rename_i allowed
    obtain ⟨install, active, same⟩ := bind_eq_ok_iff.mp rest
    cases same
    exact ⟨selected, by simpa using allowed, active⟩

/-- Every call changes the installations and the entitlements in one of the five ways. -/
theorem step_changes (settings : MarketplaceSettings) (marketplace : MarketplaceState)
    (call : MarketplaceCall) :
    Changes settings marketplace call (selection settings marketplace call)
      (step settings marketplace call).2 := by
  cases call with
  | trust publisherId fingerprint => exact .quiet rfl rfl
  | publish request =>
      show Changes _ _ _ none (publish settings marketplace request).2
      unfold publish
      split
      · exact .quiet rfl rfl
      · exact .quiet rfl rfl
  | install tenantId packageId version approvedPermissions draw =>
      let call := install settings marketplace tenantId packageId version approvedPermissions draw
      show Changes _ _ _ call.1.toOption call.2
      unfold call install
      split
      · exact .quiet rfl rfl
      · rename_i package selected
        exact .installed selected rfl rfl
  | uninstall tenantId packageId =>
      show Changes _ _ _ none (uninstall marketplace tenantId packageId).2
      unfold uninstall
      split
      · exact .quiet rfl rfl
      · rename_i current active
        exact .removed active rfl rfl
  | upgrade tenantId packageId version now =>
      let call := upgrade settings marketplace tenantId packageId version now
      show Changes _ _ _ call.1.toOption call.2
      unfold call upgrade
      split
      · exact .quiet rfl rfl
      · rename_i package current found
        exact .upgraded (upgradable_ok found).1 (upgradable_ok found).2 rfl rfl rfl
  | rollback tenantId packageId version adminOverride now =>
      let call := rollback marketplace tenantId packageId version adminOverride now
      show Changes _ _ _ call.1.toOption call.2
      unfold call rollback
      split
      · exact .quiet rfl rfl
      · rename_i package current found
        obtain ⟨selected, kept, active⟩ := restorable_ok found
        exact .rolledBack selected kept active rfl rfl rfl

/-- A publication is the only call that changes the registry. -/
theorem step_packages (settings : MarketplaceSettings) (marketplace : MarketplaceState)
    (call : MarketplaceCall) :
    (step settings marketplace call).2.packages = marketplace.packages ∨
    ∃ request package, call = .publish request ∧
      publishedVersion settings marketplace request = .ok package ∧
      (step settings marketplace call).2.packages = marketplace.packages.saveVersion package := by
  cases call with
  | trust publisherId fingerprint => exact .inl rfl
  | publish request =>
      let call := publish settings marketplace request
      show call.2.packages = _ ∨ ∃ other package, _ ∧ _ ∧ call.2.packages = _
      unfold call publish
      split
      · exact .inl rfl
      · rename_i package accepted
        exact .inr ⟨request, package, rfl, accepted, rfl⟩
  | install tenantId packageId version approvedPermissions draw =>
      let call := install settings marketplace tenantId packageId version approvedPermissions draw
      refine .inl (show call.2.packages = _ from ?_)
      unfold call install
      split
      · rfl
      · rfl
  | uninstall tenantId packageId =>
      refine .inl (show (uninstall marketplace tenantId packageId).2.packages = _ from ?_)
      unfold uninstall
      split
      · rfl
      · rfl
  | upgrade tenantId packageId version now =>
      let call := upgrade settings marketplace tenantId packageId version now
      refine .inl (show call.2.packages = _ from ?_)
      unfold call upgrade
      split
      · rfl
      · rfl
  | rollback tenantId packageId version adminOverride now =>
      let call := rollback marketplace tenantId packageId version adminOverride now
      refine .inl (show call.2.packages = _ from ?_)
      unfold call rollback
      split
      · rfl
      · rfl

theorem after_append_singleton (calls : List MarketplaceCall) (call : MarketplaceCall) :
    after settings (calls ++ [call]) = (step settings (after settings calls) call).2 := by
  rw [after, run_append]
  rfl

end AgentFabric.Marketplace.MarketplaceState

namespace AgentFabric.Marketplace
open Collection

/-- What a published version promises to every tenant, with the manifest up to the order of its
keys. -/
structure VersionIdentity where
  packageId : String
  version : String
  publisherTenantId : String
  manifest : Json
  manifestHash : String
  signature : String
  publisherFingerprint : String

def PackageVersion.identity (package : PackageVersion) : VersionIdentity where
  packageId := package.packageId
  version := package.version
  publisherTenantId := package.manifest.publisherTenantId
  manifest := package.manifest.asDict.sortKeys
  manifestHash := package.manifestHash
  signature := package.signature
  publisherFingerprint := package.publisherFingerprint

namespace PublishRequest

variable (settings : MarketplaceSettings) (request : PublishRequest)

/-- The key under which a publication is saved. -/
def key : String := request.manifest.packageId ++ ":" ++ request.manifest.version

/-- The identity that a publication gives to its version. -/
def identity : VersionIdentity where
  packageId := request.manifest.packageId
  version := request.manifest.version
  publisherTenantId := request.manifest.publisherTenantId
  manifest := request.manifest.asDict.sortKeys
  manifestHash := request.manifest.manifestHash settings.sha256
  signature := request.signature
  publisherFingerprint :=
    if request.signature = "" then "unsigned-local"
    else MarketplaceState.fingerprint settings request.signingKey

end PublishRequest

/-- What every publication checks of its version once and for all. -/
structure Accepted (package : PackageVersion) : Prop where
  version : package.version ≠ ""
  approved : (PermissionScanner.scan package).requiresApproval = true →
    package.metadata.highRiskApproved = true

namespace MarketplaceRegistryService

variable {registry : MarketplaceRegistryService}

/-- Every version stands under its own key and was accepted. -/
def Registered (registry : MarketplaceRegistryService) : Prop :=
  All registry fun key package => package.key = key ∧ Accepted package

theorem Registered.named (registered : registry.Registered) : registry.Named :=
  fun key package found => (registered key package found).1

variable {package : PackageVersion}

theorem Registered.saveVersion (registered : registry.Registered)
    (accepted : Accepted package) : (registry.saveVersion package).Registered :=
  All.set registered ⟨rfl, accepted⟩

/-- A lookup of a version returns a listed version with that text. -/
theorem get_ok {packageId version : String} (named : version ≠ "")
    (found : registry.get packageId (some version) = .ok package) :
    package ∈ registry.versionsOf packageId ∧ package.version = version := by
  unfold MarketplaceRegistryService.get at found
  simp only [Option.filter_some, named, ne_eq, not_false_eq_true, decide_true, if_true] at found
  split at found
  · cases found
  · split at found
    · cases found
    · rename_i searched
      cases found
      exact ⟨List.mem_of_find?_eq_some searched, by simpa using List.find?_some searched⟩

/-- Every lookup of a package returns one of its versions. -/
theorem get_mem {packageId : String} {version : Option String}
    (found : registry.get packageId version = .ok package) :
    package ∈ registry.versionsOf packageId := by
  unfold MarketplaceRegistryService.get at found
  simp only at found
  split at found
  · cases found
  · rename_i present
    split at found
    · obtain ⟨other, latest, greatest⟩ := latest_returns _ present
      rw [latest] at found
      cases found
      exact greatest.1
    · split at found
      · cases found
      · rename_i searched
        cases found
        exact List.mem_of_find?_eq_some searched

/-- A stored version is found by its id and text. -/
theorem Registered.get_stored (registered : registry.Registered) {key : String}
    (stored : registry.get? key = some package) :
    registry.get package.packageId (some package.version) = .ok package := by
  have listed : package ∈ registry.versionsOf package.packageId :=
    mem_versionsOf_iff.mpr ⟨⟨key, stored⟩, rfl⟩
  have named := (registered key package stored).2.version
  unfold MarketplaceRegistryService.get
  simp only [Option.filter_some, named, ne_eq, not_false_eq_true, decide_true, if_true,
    if_neg (List.ne_nil_of_mem listed)]
  cases searched : (registry.versionsOf package.packageId).find?
      fun other => other.version = package.version with
  | none =>
      have absent := List.find?_eq_none.mp searched package listed
      exact absurd (decide_eq_true rfl) absent
  | some other =>
      have same := registered.named.eq_of_version (List.mem_of_find?_eq_some searched) listed
        (by simpa using List.find?_some searched)
      rw [same]

end MarketplaceRegistryService

open MarketplaceRegistryService

namespace MarketplaceState

variable {settings : MarketplaceSettings} {marketplace : MarketplaceState}

/-- A verified signature gives the fingerprint of the identity. -/
theorem verify_ok {publisherId manifestHash signature found : String} {key : SigningKey}
    (verified : verify settings marketplace publisherId manifestHash signature key = .ok found) :
    found = if signature = "" then "unsigned-local" else fingerprint settings key := by
  unfold verify at verified
  split at verified
  · rename_i unsigned
    rw [if_pos unsigned]
    split at verified
    · cases verified
      rfl
    · cases verified
  · rename_i signed
    rw [if_neg signed]
    split at verified
    · cases verified
    · split at verified
      · cases verified
      · cases verified
        rfl

theorem validate_version {manifest : PackageManifest} (valid : manifest.validate = .ok ()) :
    manifest.version ≠ "" := by
  unfold PackageManifest.validate at valid
  split at valid
  · cases valid
  · rename_i present
    simp only [List.mem_cons, not_or] at present
    exact Ne.symm present.2.2.1

variable {package : PackageVersion}

/-- A package that passes the scan with high-risk permissions has the approval of its publisher. -/
theorem enforce_ok {available : Dict String PackageVersion}
    {result : ScanResult}
    (enforced : MarketplaceScanner.enforce settings package available = .ok result)
    (requires : (PermissionScanner.scan package).requiresApproval = true) :
    package.metadata.highRiskApproved = true := by
  unfold MarketplaceScanner.enforce at enforced
  simp only at enforced
  split at enforced
  · cases enforced
  · rename_i passed
    by_contra unapproved
    simp [MarketplaceScanner.scan, requires, unapproved] at passed

variable {request : PublishRequest}

/-- An accepted publication saves the version that the request describes. -/
theorem publishedVersion_ok (accepted : publishedVersion settings marketplace request = .ok package) :
    package.identity = request.identity settings ∧ package.key = request.key ∧
      Accepted package := by
  unfold publishedVersion at accepted
  obtain ⟨_, valid, rest⟩ := bind_eq_ok_iff.mp accepted
  obtain ⟨found, verified, rest⟩ := bind_eq_ok_iff.mp rest
  obtain ⟨result, enforced, made⟩ := bind_eq_ok_iff.mp rest
  cases made
  refine ⟨?_, rfl, ?_, ?_⟩
  · rw [PackageVersion.identity, PublishRequest.identity, ← verify_ok verified]
    rfl
  · exact validate_version valid
  · exact enforce_ok enforced

/-- The registry of every run holds accepted versions under their keys. -/
theorem after_registered (settings : MarketplaceSettings) (calls : List MarketplaceCall) :
    (after settings calls).packages.Registered := by
  induction calls using List.reverseRecOn with
  | nil => exact all_empty _
  | append_singleton calls call ih =>
      rw [after_append_singleton]
      rcases step_packages settings (after settings calls) call with
        same | ⟨request, package, _, accepted, saved⟩
      · rw [same]
        exact ih
      · rw [saved]
        exact ih.saveVersion (publishedVersion_ok accepted).2.2

/-- Every stored version was returned by a publication of the run. -/
theorem stored_published (calls : List MarketplaceCall) {key : String}
    (stored : (after settings calls).packages.get? key = some package) :
    ∃ ran request later, calls = ran ++ .publish request :: later ∧
      publishedVersion settings (after settings ran) request = .ok package := by
  induction calls using List.reverseRecOn with
  | nil => cases stored
  | append_singleton calls call ih =>
      have earlier (before : (after settings calls).packages.get? key = some package) :
          ∃ ran request later, calls ++ [call] = ran ++ .publish request :: later ∧
            publishedVersion settings (after settings ran) request = .ok package := by
        obtain ⟨ran, request, later, same, accepted⟩ := ih before
        exact ⟨ran, request, later ++ [call], by rw [same, List.append_assoc, List.cons_append],
          accepted⟩
      rw [after_append_singleton] at stored
      rcases step_packages settings (after settings calls) call with
        same | ⟨request, other, published, accepted, saved⟩
      · rw [same] at stored
        exact earlier stored
      · rw [saved, saveVersion, Dict.get?_set] at stored
        split at stored
        · cases stored
          exact ⟨calls, request, [], by rw [published], accepted⟩
        · exact earlier stored

section Claims

variable (settings) (calls : List MarketplaceCall)

/-- Every accepted publication is found unchanged at every later point of the calls. -/
def Immutable : Prop :=
  ∀ ran request later, calls = ran ++ .publish request :: later →
    ∀ package, ((after settings ran).publish settings request).1 = .ok package →
      ∀ middle rest, later = middle ++ rest →
        ∃ found, (after settings (ran ++ .publish request :: middle)).packages.get
            package.packageId (some package.version) = .ok found ∧
          found.identity = package.identity

/-- A publication that passes its checks under a taken key repeats the identity that stands there. -/
def RepeatsIdentities : Prop :=
  ∀ ran request later, calls = ran ++ .publish request :: later →
    (∃ package, publishedVersion settings (after settings ran) request = .ok package) →
      ∀ stored, (after settings ran).packages.get? request.key = some stored →
        stored.identity = request.identity settings

end Claims

theorem publish_eq_ok_iff :
    (publish settings marketplace request).1 = .ok package ↔
      publishedVersion settings marketplace request = .ok package := by
  unfold publish
  split
  · rename_i raised
    rw [raised]
  · rename_i returned
    rw [returned]

theorem step_publish_packages
    (accepted : publishedVersion settings marketplace request = .ok package) :
    (step settings marketplace (.publish request)).2.packages =
      marketplace.packages.saveVersion package := by
  show (publish settings marketplace request).2.packages = _
  unfold publish
  rw [accepted]
  rfl

/-- The key of an accepted publication keeps its identity in a run that repeats identities. -/
theorem identity_kept {calls : List MarketplaceCall} (repeats : RepeatsIdentities settings calls)
    {ran later : List MarketplaceCall}
    (split : calls = ran ++ .publish request :: later)
    (accepted : publishedVersion settings (after settings ran) request = .ok package)
    (middle rest : List MarketplaceCall) (laterSplit : later = middle ++ rest) :
    ∃ found, (after settings (ran ++ .publish request :: middle)).packages.get? package.key =
      some found ∧ found.identity = package.identity := by
  induction middle using List.reverseRecOn generalizing rest with
  | nil =>
      refine ⟨package, ?_, rfl⟩
      rw [after_append_singleton, step_publish_packages accepted]
      exact Dict.get?_set_self _ _ _
  | append_singleton middle call ih =>
      obtain ⟨found, stored, same⟩ := ih (call :: rest) (by rw [laterSplit]; simp)
      have appended : ran ++ .publish request :: (middle ++ [call]) =
          (ran ++ .publish request :: middle) ++ [call] := by simp
      rw [appended, after_append_singleton]
      rcases step_packages settings (after settings (ran ++ .publish request :: middle)) call with
        unchanged | ⟨other, republished, published, otherAccepted, saved⟩
      · rw [unchanged]
        exact ⟨found, stored, same⟩
      · rw [saved, saveVersion, Dict.get?_set]
        split
        · rename_i own
          obtain ⟨identity, key, _⟩ := publishedVersion_ok otherAccepted
          have repeated := repeats (ran ++ .publish request :: middle) other rest
            (by rw [split, laterSplit, published]; simp) ⟨republished, otherAccepted⟩ found
            (by rw [← key, ← own]; exact stored)
          exact ⟨republished, rfl, identity.trans (repeated.symm.trans same)⟩
        · exact ⟨found, stored, same⟩

/-- Published versions are immutable exactly in the runs whose publications repeat the identity of the
version that stands under their key. -/
theorem immutable_iff_repeatsIdentities (settings : MarketplaceSettings)
    (calls : List MarketplaceCall) :
    Immutable settings calls ↔ RepeatsIdentities settings calls := by
  constructor
  · rintro immutable ran request later split ⟨package, accepted⟩ stored present
    obtain ⟨earlier, first, between, ranSplit, firstAccepted⟩ := stored_published ran present
    have whole : calls = earlier ++ .publish first :: (between ++ .publish request :: later) := by
      rw [split, ranSplit, List.append_assoc, List.cons_append]
    obtain ⟨found, got, same⟩ := immutable earlier first _ whole stored
      (publish_eq_ok_iff.mpr firstAccepted) (between ++ [.publish request]) later (by simp)
    obtain ⟨identity, key, _⟩ := publishedVersion_ok accepted
    have ended : earlier ++ .publish first :: (between ++ [.publish request]) =
        ran ++ [.publish request] := by
      rw [ranSplit, List.append_assoc, List.cons_append]
    rw [ended] at got
    have registered := after_registered settings (ran ++ [.publish request])
    have storedKey := ((after_registered settings ran) _ _ present).1
    have storedVersion := ((after_registered settings ran) _ _ present).2.version
    obtain ⟨listed, version⟩ := get_ok storedVersion got
    obtain ⟨⟨foundKey, foundStored⟩, packageId⟩ := mem_versionsOf_iff.mp listed
    have own : foundKey = package.key := by
      rw [← registered.named _ _ foundStored, PackageVersion.key, packageId, version, key]
      exact storedKey
    rw [after_append_singleton, step_publish_packages accepted,
      saveVersion, own, Dict.get?_set_self] at foundStored
    obtain rfl := Option.some.inj foundStored
    exact same.symm.trans identity
  · intro repeats ran request later split package returned middle rest laterSplit
    obtain ⟨found, stored, same⟩ :=
      identity_kept repeats split (publish_eq_ok_iff.mp returned) middle rest laterSplit
    have got := (after_registered settings _).get_stored stored
    have packageId : found.packageId = package.packageId := congrArg VersionIdentity.packageId same
    have version : found.version = package.version := congrArg VersionIdentity.version same
    rw [packageId, version] at got
    exact ⟨found, got, same⟩

section Example

/-- A verifier in the local mode. -/
def localSettings : MarketplaceSettings where
  sha256 := id
  allowUnsignedLocal := true
  isBelowQuality := fun _ => false

/-- The publication of an unsigned package without dependencies. -/
def plainRequest (packageId version : String) : PublishRequest where
  manifest := (plainVersion packageId version).manifest
  metadata := .default
  signature := ""
  signingKey := ⟨"tenant-a", "secret"⟩
  createdAt := .first
  publishedAt := .first

/-- A verifier that takes signed packages of trusted publishers only. -/
def strictSettings : MarketplaceSettings := { localSettings with allowUnsignedLocal := false }

variable (tenantId : String)

def publisherKey : SigningKey := ⟨tenantId, "secret of " ++ tenantId⟩

/-- The version of a tenant with its signature. -/
def signedVersion : PackageVersion :=
  let manifest := { (plainVersion "pack" "1.0.0").manifest with publisherTenantId := tenantId }
  { plainVersion "pack" "1.0.0" with
    manifest
    manifestHash := manifest.manifestHash id
    signature := sign strictSettings (manifest.manifestHash id) (publisherKey tenantId)
    publisherFingerprint := fingerprint strictSettings (publisherKey tenantId)
    metadata := .default
    createdAt := .first
    publishedAt := .first }

def signedRequest : PublishRequest where
  manifest := (signedVersion tenantId).manifest
  metadata := .default
  signature := (signedVersion tenantId).signature
  signingKey := publisherKey tenantId
  createdAt := .first
  publishedAt := .first

theorem publishedVersion_signed {marketplace : MarketplaceState} {tenantId : String}
    (trusted : marketplace.trusted.get? tenantId =
      some (fingerprint strictSettings (publisherKey tenantId)))
    (valid : (signedVersion tenantId).manifest.validate = .ok ())
    (passes : (MarketplaceScanner.enforce strictSettings (signedVersion tenantId)
      marketplace.packages.availableById).toOption.isSome = true) :
    publishedVersion strictSettings marketplace (signedRequest tenantId) =
      .ok (signedVersion tenantId) := by
  have nonempty : (signedVersion tenantId).signature ≠ "" := by
    simp [signedVersion, sign, strictSettings, localSettings, publisherKey]
  have verified : verify strictSettings marketplace tenantId (signedVersion tenantId).manifestHash
      (signedVersion tenantId).signature (publisherKey tenantId) =
        .ok (fingerprint strictSettings (publisherKey tenantId)) := by
    rw [verify, if_neg nonempty, trusted]
    exact if_neg (by simp [signedVersion])
  obtain ⟨result, enforced⟩ := Option.isSome_iff_exists.mp passes
  have enforced : MarketplaceScanner.enforce strictSettings (signedVersion tenantId)
      marketplace.packages.availableById = .ok result := by
    revert enforced
    cases MarketplaceScanner.enforce strictSettings (signedVersion tenantId)
      marketplace.packages.availableById <;> intro enforced <;> cases enforced
    rfl
  refine bind_eq_ok_iff.mpr ⟨(), valid, bind_eq_ok_iff.mpr ⟨_, verified, ?_⟩⟩
  exact bind_eq_ok_iff.mpr ⟨result, enforced, rfl⟩

/-- Two tenants are trusted with their keys. -/
def trustedTenants : List MarketplaceCall := [
  .trust "tenant-a" (fingerprint strictSettings (publisherKey "tenant-a")),
  .trust "tenant-b" (fingerprint strictSettings (publisherKey "tenant-b"))]

/-- Both tenants publish one version. -/
def takeover : List MarketplaceCall :=
  (trustedTenants ++ [.publish (signedRequest "tenant-a")]) ++ [.publish (signedRequest "tenant-b")]

/-- The publication of the second tenant replaces that of the first one. -/
theorem published_replaced :
    ((after strictSettings takeover).packages.get "pack" (some "1.0.0")).toOption.map
        (fun found => found.manifest.publisherTenantId) = some "tenant-b" ∧
      ¬ Immutable strictSettings takeover := by
  have first : publishedVersion strictSettings (after strictSettings trustedTenants)
      (signedRequest "tenant-a") = .ok (signedVersion "tenant-a") :=
    publishedVersion_signed (by rfl) (by rfl) (by decide)
  have saved := step_publish_packages first
  rw [← after_append_singleton] at saved
  have trusted : (after strictSettings
      (trustedTenants ++ [.publish (signedRequest "tenant-a")])).trusted =
        (after strictSettings trustedTenants).trusted := by
    rw [after_append_singleton, step, publish, first]
    rfl
  have second : publishedVersion strictSettings (after strictSettings
      (trustedTenants ++ [.publish (signedRequest "tenant-a")])) (signedRequest "tenant-b") =
        .ok (signedVersion "tenant-b") :=
    publishedVersion_signed (by rw [trusted]; rfl) (by rfl) (by rw [saved]; decide)
  have replaced := step_publish_packages second
  rw [← after_append_singleton, saved] at replaced
  have got : ((after strictSettings takeover).packages.get "pack" (some "1.0.0")).toOption.map
      (fun found => found.manifest.publisherTenantId) = some "tenant-b" := by
    rw [takeover, replaced]
    decide
  refine ⟨got, ?_⟩
  intro immutable
  obtain ⟨found, stands, same⟩ := immutable trustedTenants _ [.publish (signedRequest "tenant-b")] rfl
    _ (publish_eq_ok_iff.mpr first) [.publish (signedRequest "tenant-b")] [] rfl
  have kept : found.manifest.publisherTenantId = "tenant-a" :=
    congrArg VersionIdentity.publisherTenantId same
  change (after strictSettings takeover).packages.get "pack" (some "1.0.0") = .ok found at stands
  rw [stands] at got
  exact absurd (kept.symm.trans (Option.some.inj got)) (by decide)

end Example

end MarketplaceState

end AgentFabric.Marketplace
