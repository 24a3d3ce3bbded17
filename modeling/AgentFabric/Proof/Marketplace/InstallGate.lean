import AgentFabric.Proof.Marketplace.PublishedVersions

namespace AgentFabric.Marketplace
open Collection InstallDraw MarketplaceRegistryService

/-- The ids and times that a call draws. -/
def MarketplaceCall.draw? : MarketplaceCall → Option InstallDraw
  | .install _ _ _ _ draw => some draw
  | _ => none

namespace MarketplaceState

variable {settings : MarketplaceSettings} (marketplace : MarketplaceState)
  (tenantId packageId : String)

/-- A tenant has an active installation of a package. -/
def Installed : Prop :=
  Holds marketplace.installs fun install =>
    install.tenantId = tenantId ∧ install.packageId = packageId ∧ install.active = true

/-- A tenant has an active entitlement for a package. -/
def Entitled : Prop :=
  Holds marketplace.entitlements fun entitlement =>
    entitlement.tenantId = tenantId ∧ entitlement.packageId = packageId ∧ entitlement.active = true

theorem activeInstall_cases :
    (activeInstall marketplace tenantId packageId =
        .error (.validationError "package is not installed") ∧
      ¬ Installed marketplace tenantId packageId) ∨
    ∃ key install, activeInstall marketplace tenantId packageId = .ok install ∧
      marketplace.installs.get? key = some install ∧ install.tenantId = tenantId ∧
        install.packageId = packageId ∧ install.active = true := by
  unfold activeInstall
  rcases search_cases marketplace.installs (fun install => install.tenantId = tenantId)
      (fun install => install.packageId = packageId ∧ install.active = true) with
    ⟨nothing, absent⟩ | ⟨key, install, found, present, tenant, sought⟩
  · rw [nothing]
    exact .inl ⟨rfl, absent⟩
  · rw [found]
    exact .inr ⟨key, install, rfl, present, tenant, sought⟩

theorem activeInstall_ok {marketplace : MarketplaceState} {tenantId packageId : String}
    {install : Install} (found : activeInstall marketplace tenantId packageId = .ok install) :
    ∃ key, marketplace.installs.get? key = some install ∧
      install.tenantId = tenantId ∧ install.packageId = packageId ∧ install.active = true := by
  rcases activeInstall_cases marketplace tenantId packageId with
    ⟨raised, _⟩ | ⟨key, other, returned, facts⟩
  · rw [raised] at found
    cases found
  · rw [returned] at found
    cases found
    exact ⟨key, facts⟩

theorem activeInstall_returns_iff :
    (∃ install, activeInstall marketplace tenantId packageId = .ok install) ↔
      Installed marketplace tenantId packageId := by
  constructor
  · rintro ⟨install, found⟩
    obtain ⟨key, present, sought⟩ := activeInstall_ok found
    exact ⟨key, install, present, sought⟩
  · intro installed
    rcases activeInstall_cases marketplace tenantId packageId with ⟨_, absent⟩ | ⟨_, install, found, _⟩
    · exact absurd installed absent
    · exact ⟨install, found⟩

/-- No entitlement has an expiry. -/
def Unexpired : Prop :=
  All marketplace.entitlements fun _ entitlement => entitlement.expiresAt = none

/-- The verification succeeds exactly when the tenant is entitled. -/
theorem verifies_iff {marketplace : MarketplaceState} (unexpired : marketplace.Unexpired)
    (tenantId packageId : String) (now : UtcTime) :
    verifyRuntimeEntitlement marketplace tenantId packageId now = .ok () ↔
      Entitled marketplace tenantId packageId := by
  unfold verifyRuntimeEntitlement
  rcases search_cases marketplace.entitlements (fun entitlement => entitlement.tenantId = tenantId)
      (fun entitlement => entitlement.packageId = packageId ∧ entitlement.active = true) with
    ⟨nothing, absent⟩ | ⟨key, entitlement, found, present, sought⟩
  · rw [nothing]
    exact iff_of_false (by simp [checkEntitlement]) absent
  · rw [found]
    refine iff_of_true ?_ ⟨key, entitlement, present, sought⟩
    simp [checkEntitlement, sought.2.2, unexpired key entitlement present]

section Runs

variable (calls : List MarketplaceCall)

/-- The ids and times that the calls draw. -/
def drawn : List InstallDraw := calls.filterMap MarketplaceCall.draw?

/-- No id is drawn twice. -/
def Fresh : Prop :=
  ((drawn calls).map installId).Nodup ∧ ((drawn calls).map entitlementId).Nodup

/-- The installations and the entitlements stand under drawn ids and give the tenants the same
packages. -/
structure Paired (draws : List InstallDraw) (marketplace : MarketplaceState) : Prop where
  installs : All marketplace.installs fun key install =>
    install.installId = key ∧ key ∈ draws.map installId
  entitlements : All marketplace.entitlements fun key _ =>
    key ∈ draws.map entitlementId
  unexpired : marketplace.Unexpired
  inStep : ∀ tenantId packageId,
    Entitled marketplace tenantId packageId ↔ Installed marketplace tenantId packageId

theorem initial_paired : Paired [] initial where
  installs := all_empty _
  entitlements := all_empty _
  unexpired := all_empty _
  inStep := by
    intro tenantId packageId
    constructor
    · rintro ⟨key, entitlement, found, _⟩
      cases found
    · rintro ⟨key, install, found, _⟩
      cases found

variable {draws : List InstallDraw} {marketplace after : MarketplaceState}

section

variable (paired : Paired draws marketplace)
include paired

theorem Paired.mono (more : List InstallDraw) : Paired (draws ++ more) marketplace where
  installs := by
    intro key install found
    refine ⟨(paired.installs key install found).1, ?_⟩
    rw [List.map_append]
    exact List.mem_append_left _ (paired.installs key install found).2
  entitlements := by
    intro key entitlement found
    rw [List.map_append]
    exact List.mem_append_left _ (paired.entitlements key entitlement found)
  unexpired := paired.unexpired
  inStep := paired.inStep

/-- The same two collections stay paired. -/
theorem Paired.congr (installs : after.installs = marketplace.installs)
    (entitlements : after.entitlements = marketplace.entitlements) : Paired draws after where
  installs := installs ▸ paired.installs
  entitlements := entitlements ▸ paired.entitlements
  unexpired := by
    rw [Unexpired, entitlements]
    exact paired.unexpired
  inStep := by
    intro tenantId packageId
    rw [Entitled, Installed, entitlements, installs]
    exact paired.inStep tenantId packageId

/-- A change of the version of an active installation keeps the two in step. -/
theorem Paired.moved {tenantId packageId : String}
    {current moved : Install}
    (active : activeInstall marketplace tenantId packageId = .ok current)
    (installs : after.installs = marketplace.installs.set current.installId moved)
    (entitlements : after.entitlements = marketplace.entitlements)
    (same : (moved.installId, moved.tenantId, moved.packageId, moved.active) =
      (current.installId, current.tenantId, current.packageId, current.active)) :
    Paired draws after := by
  obtain ⟨key, present, _⟩ := activeInstall_ok active
  obtain ⟨own, listed⟩ := paired.installs key current present
  simp only [Prod.mk.injEq] at same
  obtain ⟨sameId, sameTenant, samePackage, sameActive⟩ := same
  refine ⟨?_, ?_, ?_, ?_⟩
  · rw [installs]
    exact paired.installs.set ⟨sameId, own ▸ listed⟩
  · rw [entitlements]
    exact paired.entitlements
  · rw [Unexpired, entitlements]
    exact paired.unexpired
  · intro otherTenant otherPackage
    rw [Entitled, entitlements, Installed, installs]
    rw [holds_set_of_same (own ▸ present) (by rw [sameTenant, samePackage, sameActive])]
    exact paired.inStep otherTenant otherPackage

/-- An installation under new ids grants the package in both collections. -/
theorem Paired.installed {tenantId : String}
    {package : PackageVersion} {draw : InstallDraw}
    (newInstallId : draw.installId ∉ draws.map installId)
    (newEntitlementId : draw.entitlementId ∉ draws.map entitlementId)
    (installs : after.installs =
      marketplace.installs.set draw.installId (newInstall tenantId package draw))
    (entitlements : after.entitlements =
      marketplace.entitlements.set draw.entitlementId (newEntitlement tenantId package draw)) :
    Paired (draws ++ [draw]) after := by
  have more := paired.mono [draw]
  have noInstall : marketplace.installs.get? draw.installId = none :=
    Option.eq_none_iff_forall_ne_some.mpr fun install found =>
      newInstallId (paired.installs _ install found).2
  have noEntitlement : marketplace.entitlements.get? draw.entitlementId = none :=
    Option.eq_none_iff_forall_ne_some.mpr fun entitlement found =>
      newEntitlementId (paired.entitlements _ entitlement found)
  refine ⟨?_, ?_, ?_, ?_⟩
  · rw [installs]
    exact more.installs.set ⟨rfl, List.mem_map_of_mem (List.mem_append_right _ (.head _))⟩
  · rw [entitlements]
    exact more.entitlements.set (List.mem_map_of_mem (List.mem_append_right _ (.head _)))
  · rw [Unexpired, entitlements]
    exact All.set more.unexpired rfl
  · intro otherTenant otherPackage
    rw [Entitled, entitlements, holds_set_of_absent noEntitlement, Installed, installs,
      holds_set_of_absent noInstall]
    exact or_congr (paired.inStep otherTenant otherPackage) Iff.rfl

/-- A call that removes no active installation keeps the two collections paired. -/
theorem Paired.step {call : MarketplaceCall}
    (fresh : ∀ draw ∈ call.draw?, draw.installId ∉ draws.map installId ∧
      draw.entitlementId ∉ draws.map entitlementId)
    (kept : ∀ tenantId packageId, call = .uninstall tenantId packageId →
      ¬ Installed marketplace tenantId packageId)
    {chosen : Option Install} (changes : Changes settings marketplace call chosen after) :
    Paired (draws ++ call.draw?.toList) after := by
  cases changes with
  | quiet installs entitlements => exact (paired.mono _).congr installs entitlements
  | installed selected installs entitlements =>
      obtain ⟨newInstallId, newEntitlementId⟩ := fresh _ rfl
      exact paired.installed newInstallId newEntitlementId installs entitlements
  | upgraded selected active made installs entitlements =>
      exact (paired.moved active installs entitlements (by rw [made])).mono _
  | rolledBack selected allowed active made installs entitlements =>
      exact (paired.moved active installs entitlements (by rw [made])).mono _
  | removed active installs entitlements =>
      exact absurd ((activeInstall_returns_iff _ _ _).mp ⟨_, active⟩) (kept _ _ rfl)

end

/-- No uninstallation of the calls meets an active installation. -/
def NeverUninstalls (settings : MarketplaceSettings) (calls : List MarketplaceCall) : Prop :=
  ∀ ran tenantId packageId later, calls = ran ++ .uninstall tenantId packageId :: later →
    ¬ Installed (MarketplaceState.after settings ran) tenantId packageId

theorem after_paired (settings : MarketplaceSettings) (calls : List MarketplaceCall)
    (fresh : Fresh calls)
    (never : NeverUninstalls settings calls) :
    Paired (drawn calls) (MarketplaceState.after settings calls) := by
  induction calls using List.reverseRecOn with
  | nil => exact initial_paired
  | append_singleton calls call ih =>
      have split : drawn (calls ++ [call]) = drawn calls ++ call.draw?.toList := by
        rw [drawn, List.filterMap_append]
        cases drawing : call.draw? with
        | none => simp [drawn, drawing]
        | some draw => simp [drawn, drawing]
      rw [Fresh, split, List.map_append, List.map_append, List.nodup_append, List.nodup_append]
        at fresh
      obtain ⟨⟨installIds, _, newInstallIds⟩, entitlementIds, _, newEntitlementIds⟩ := fresh
      have before := ih ⟨installIds, entitlementIds⟩ (by
        intro ran tenantId packageId later same
        refine never ran tenantId packageId (later ++ [call]) ?_
        rw [same, List.append_assoc, List.cons_append])
      rw [split, after_append_singleton]
      refine before.step ?_ ?_ (step_changes settings _ call)
      · intro draw drawing
        have listed : draw ∈ call.draw?.toList := Option.mem_toList.mpr drawing
        exact ⟨fun old => newInstallIds _ old _ (List.mem_map_of_mem listed) rfl,
          fun old => newEntitlementIds _ old _ (List.mem_map_of_mem listed) rfl⟩
      · intro tenantId packageId same
        exact never calls tenantId packageId [] (by rw [same])

end Runs

section Claims

/-- The verification succeeds exactly for the tenants with an active installation. -/
def VerifiesInstalled (marketplace : MarketplaceState) : Prop :=
  ∀ tenantId packageId now,
    verifyRuntimeEntitlement marketplace tenantId packageId now = .ok () ↔
      Installed marketplace tenantId packageId

/-- At every point of the calls the entitlements follow the installations, and every successful
uninstallation takes both from the tenant. -/
def EntitlementsFollow (settings : MarketplaceSettings) (calls : List MarketplaceCall) : Prop :=
  (∀ ran later, calls = ran ++ later → VerifiesInstalled (after settings ran)) ∧
  ∀ ran tenantId packageId later, calls = ran ++ .uninstall tenantId packageId :: later →
    ∀ removed, ((after settings ran).uninstall tenantId packageId).1 = .ok removed →
      ¬ Installed ((after settings ran).uninstall tenantId packageId).2 tenantId packageId ∧
        ∀ now, verifyRuntimeEntitlement ((after settings ran).uninstall tenantId packageId).2
          tenantId packageId now ≠ .ok ()

theorem uninstall_of_active {marketplace : MarketplaceState} {tenantId packageId : String}
    {current : Install} (active : activeInstall marketplace tenantId packageId = .ok current) :
    (uninstall marketplace tenantId packageId).1 = .ok { current with active := false } ∧
      (uninstall marketplace tenantId packageId).2.entitlements = marketplace.entitlements := by
  unfold uninstall
  rw [active]
  exact ⟨rfl, rfl⟩

/-- The entitlements follow the installations exactly in the runs without a successful
uninstallation. -/
theorem entitlements_follow_iff (settings : MarketplaceSettings) (calls : List MarketplaceCall)
    (fresh : Fresh calls) :
    EntitlementsFollow settings calls ↔ NeverUninstalls settings calls := by
  constructor
  · rintro ⟨follows, removes⟩ ran tenantId packageId later same installed
    obtain ⟨current, active⟩ := (activeInstall_returns_iff _ _ _).mpr installed
    obtain ⟨returned, entitlements⟩ := uninstall_of_active active
    have verified := (follows ran _ same tenantId packageId UtcTime.first).mpr installed
    refine (removes ran tenantId packageId later same _ returned).2 UtcTime.first ?_
    rw [verifyRuntimeEntitlement, entitlements]
    exact verified
  · intro never
    refine ⟨?_, ?_⟩
    · intro ran later same tenantId packageId now
      have freshRan : Fresh ran := by
        rw [Fresh, same, drawn, List.filterMap_append, List.map_append, List.map_append] at fresh
        exact ⟨(List.nodup_append.mp fresh.1).1, (List.nodup_append.mp fresh.2).1⟩
      have paired := after_paired settings ran freshRan (by
        intro earlier tenantId packageId rest split
        refine never earlier tenantId packageId (rest ++ later) ?_
        rw [same, split, List.append_assoc, List.cons_append])
      rw [verifies_iff paired.unexpired]
      exact paired.inStep tenantId packageId
    · intro ran tenantId packageId later same removed returned
      refine absurd ?_ (never ran tenantId packageId later same)
      rw [← activeInstall_returns_iff]
      unfold uninstall at returned
      split at returned
      · cases returned
      · rename_i current active
        exact ⟨current, active⟩

end Claims

section Example

def firstDraw : InstallDraw := ⟨"ent-1", .first, "inst-1", .first⟩

/-- An installed package is upgraded and rolled back, and another tenant cannot uninstall it. -/
def installedOnce : List MarketplaceCall := [
  .publish (plainRequest "pack" "1.0.0"),
  .publish (plainRequest "pack" "1.1.0"),
  .install "tenant-b" "pack" (some "1.0.0") false firstDraw,
  .upgrade "tenant-b" "pack" none .first,
  .rollback "tenant-b" "pack" "1.0.0" false .first,
  .uninstall "tenant-c" "pack"]

/-- The package stays usable for the tenant that has installed it. -/
theorem entitlements_follow_installedOnce :
    EntitlementsFollow localSettings installedOnce ∧
      verifyRuntimeEntitlement (after localSettings installedOnce) "tenant-b" "pack" .first =
        .ok () ∧
      verifyRuntimeEntitlement (after localSettings installedOnce) "tenant-c" "pack" .first ≠
        .ok () := by
  have fresh : Fresh installedOnce := ⟨by decide, by decide⟩
  refine ⟨(entitlements_follow_iff _ _ fresh).mpr ?_, by decide, by decide⟩
  intro ran tenantId packageId later same installed
  obtain ⟨current, active⟩ := (activeInstall_returns_iff _ _ _).mpr installed
  have refused : (activeInstall (after localSettings (installedOnce.take 5)) "tenant-c"
      "pack").toOption.isNone = true := by decide
  -- The only uninstallation is the last call.
  rcases ran with _ | ⟨_, _ | ⟨_, _ | ⟨_, _ | ⟨_, _ | ⟨_, _ | ⟨_, rest⟩⟩⟩⟩⟩⟩ <;>
    simp [installedOnce] at same
  obtain ⟨rfl, rfl, rfl, rfl, rfl, ⟨rfl, rfl⟩, rfl⟩ := same
  rw [show [_, _, _, _, _] = installedOnce.take 5 from rfl] at active
  rw [active] at refused
  cases refused

/-- The entitlement outlives the uninstallation. -/
theorem entitlement_outlives_uninstall :
    let removed := after localSettings (installedOnce ++ [.uninstall "tenant-b" "pack"])
    verifyRuntimeEntitlement removed "tenant-b" "pack" .first = .ok () ∧
      removed.installs.items.any (fun item => item.2.active) = false ∧
      ¬ EntitlementsFollow localSettings (installedOnce ++ [.uninstall "tenant-b" "pack"]) := by
  intro removed
  have verified : verifyRuntimeEntitlement removed "tenant-b" "pack" .first = .ok () := by decide
  have inactive : removed.installs.items.any (fun item => item.2.active) = false := by decide
  refine ⟨verified, inactive, ?_⟩
  rintro ⟨follows, _⟩
  obtain ⟨key, install, found, _, _, active⟩ :=
    (follows _ [] (List.append_nil _).symm "tenant-b" "pack" .first).mp verified
  have member := (Dict.get?_eq_some_iff _ _ _).mp found
  rw [List.any_eq_false] at inactive
  exact inactive _ member active

end Example

end MarketplaceState

/-- The approval that a call gives to high-risk permissions. -/
def MarketplaceCall.approval : MarketplaceCall → Bool
  | .install _ _ _ approvedPermissions _ => approvedPermissions
  | _ => false

namespace MarketplaceState

variable {settings : MarketplaceSettings}

/-- A tenant may install a version with the given approval. -/
structure Allowed (settings : MarketplaceSettings) (marketplace : MarketplaceState)
    (tenantId : String) (package : PackageVersion) (approvedPermissions : Bool) : Prop where
  visible : package.metadata.isPrivate = true → package.manifest.publisherTenantId = tenantId
  approved : (PermissionScanner.scan package).requiresApproval = true →
    approvedPermissions = true ∨ package.metadata.highRiskApproved = true
  dependencies : (DependencyScanner.scan package marketplace.packages.availableById).ok = true
  policy : (PolicyScanner.scan settings package).ok = true
  notRevoked : package.metadata.revoked = false
  resolved : ∃ resolution,
    DependencyResolver.resolve package marketplace.packages.availableById = .ok resolution

variable {package : PackageVersion}

theorem policy_notRevoked (passed : (PolicyScanner.scan settings package).ok = true) :
    package.metadata.revoked = false := by
  by_contra revoked
  rw [Bool.not_eq_false] at revoked
  rw [PolicyScanner.scan] at passed
  simp [List.isEmpty_iff, List.filter_eq_nil_iff, revoked] at passed

/-- The gate of an installation lets exactly the allowed versions pass. -/
theorem validateInstall_iff (marketplace : MarketplaceState) (tenantId : String)
    (package : PackageVersion) (approvedPermissions : Bool) :
    validateInstall settings marketplace tenantId package approvedPermissions = .ok () ↔
      Allowed settings marketplace tenantId package approvedPermissions := by
  unfold validateInstall
  simp only
  constructor
  · intro passed
    split at passed
    · cases passed
    · rename_i visible
      split at passed
      · cases passed
      · rename_i approved
        split at passed
        · cases passed
        · rename_i scanned
          obtain ⟨resolution, resolved, _⟩ := bind_eq_ok_iff.mp passed
          rw [not_and_not_right] at visible approved
          rw [not_or, not_not, not_not] at scanned
          exact ⟨visible, approved, scanned.1, scanned.2, policy_notRevoked scanned.2, resolution,
            resolved⟩
  · rintro ⟨visible, approved, dependencies, policy, _, resolution, resolved⟩
    have invisible : ¬ (package.metadata.isPrivate = true ∧
        package.manifest.publisherTenantId ≠ tenantId) := fun hidden => hidden.2 (visible hidden.1)
    have unapproved : ¬ ((MarketplaceScanner.scan settings package
        marketplace.packages.availableById).permission.requiresApproval = true ∧
          ¬ (approvedPermissions = true ∨ package.metadata.highRiskApproved = true)) :=
      fun refused => refused.2 (approved refused.1)
    have scanned : ¬ (¬ (MarketplaceScanner.scan settings package
        marketplace.packages.availableById).dependency.ok = true ∨
          ¬ (MarketplaceScanner.scan settings package
            marketplace.packages.availableById).policy.ok = true) := by
      rintro (missing | found)
      · exact missing dependencies
      · exact found policy
    rw [if_neg invisible, if_neg unapproved, if_neg scanned, resolved]
    rfl

variable {marketplace : MarketplaceState} {approvedPermissions : Bool}

/-- The publisher approved every accepted version that needs it, so no further approval counts. -/
theorem Allowed.without_approval {tenantId : String}
    (allowed : Allowed settings marketplace tenantId package approvedPermissions)
    (accepted : Accepted package) : Allowed settings marketplace tenantId package false :=
  { allowed with approved := fun requires => .inr (accepted.approved requires) }

theorem installable_ok {tenantId packageId : String}
    {version : Option String}
    (found : installable settings marketplace tenantId packageId version approvedPermissions =
      .ok package) :
    package ∈ marketplace.packages.versionsOf packageId ∧
      Allowed settings marketplace tenantId package approvedPermissions := by
  unfold installable at found
  obtain ⟨chosen, selected, rest⟩ := bind_eq_ok_iff.mp found
  obtain ⟨_, validated, same⟩ := bind_eq_ok_iff.mp rest
  cases same
  exact ⟨get_mem selected,
    (validateInstall_iff marketplace tenantId package approvedPermissions).mp validated⟩

section Selections

/-- The last call of a run that selects the version of an installation. -/
structure LastSelection (settings : MarketplaceSettings) (calls : List MarketplaceCall)
    (installId : String) (before : List MarketplaceCall) (selecting : MarketplaceCall) :
    Prop where
  selects : ∃ chosen, selection settings (after settings before) selecting = some chosen ∧
    chosen.installId = installId
  last : ∃ later, calls = before ++ selecting :: later ∧
    ∀ middle call rest, later = middle ++ call :: rest →
      ∀ chosen, selection settings (after settings (before ++ selecting :: middle)) call =
        some chosen → chosen.installId ≠ installId

variable {calls before : List MarketplaceCall} {call selecting : MarketplaceCall}
  {installId : String} {chosen : Install}

theorem lastSelection_new (selected : selection settings (after settings calls) call = some chosen) :
    LastSelection settings (calls ++ [call]) chosen.installId calls call where
  selects := ⟨chosen, selected, rfl⟩
  last := by
    refine ⟨[], rfl, ?_⟩
    intro middle other rest split
    exact absurd split.symm (by simp)

theorem LastSelection.keep (last : LastSelection settings calls installId before selecting)
    (other : ∀ chosen, selection settings (after settings calls) call = some chosen →
      chosen.installId ≠ installId) :
    LastSelection settings (calls ++ [call]) installId before selecting where
  selects := last.selects
  last := by
    obtain ⟨later, split, none⟩ := last.last
    refine ⟨later ++ [call], by rw [split]; simp, ?_⟩
    intro middle next rest parted chosen selected
    rcases List.eq_nil_or_concat' rest with empty | ⟨front, final, ended⟩
    · subst empty
      obtain ⟨same, nextSame⟩ := List.append_inj' parted rfl
      cases nextSame
      subst same
      rw [← split] at selected
      exact other chosen selected
    · subst ended
      have shorter : later = middle ++ next :: front := by
        have whole : later ++ [call] = (middle ++ next :: front) ++ [final] := by
          rw [parted]
          simp
        exact (List.append_inj' whole rfl).1
      exact none middle next front shorter chosen selected

/-- The selection of the last call is the last selection. -/
theorem LastSelection.eq_of_selected
    (last : LastSelection settings (calls ++ [call]) chosen.installId before selecting)
    (selected : selection settings (after settings calls) call = some chosen) :
    before = calls ∧ selecting = call := by
  obtain ⟨later, split, none⟩ := last.last
  rcases List.eq_nil_or_concat' later with empty | ⟨front, final, ended⟩
  · subst empty
    obtain ⟨same, callSame⟩ := List.append_inj' split rfl
    cases callSame
    exact ⟨same.symm, rfl⟩
  · subst ended
    have whole : calls ++ [call] = (before ++ selecting :: front) ++ [final] := by
      rw [split]
      simp
    obtain ⟨same, callSame⟩ := List.append_inj' whole rfl
    cases callSame
    rw [same] at selected
    exact absurd rfl (none front call [] rfl chosen selected)

end Selections

section Claims

/-- The version of an installation was published and allowed when it was selected. -/
def SelectedAllowed (settings : MarketplaceSettings) (calls : List MarketplaceCall)
    (install : Install) : Prop :=
  ∃ before selecting, LastSelection settings calls install.installId before selecting ∧
    ∃ package ∈ (after settings before).packages.versionsOf install.packageId,
      package.version = install.version ∧
        Allowed settings (after settings before) install.tenantId package selecting.approval

/-- At every point of the calls every active installation has a version that was allowed. -/
def ActiveAllowed (settings : MarketplaceSettings) (calls : List MarketplaceCall) : Prop :=
  ∀ ran later, calls = ran ++ later →
    All (after settings ran).installs fun _ install =>
      install.active = true → SelectedAllowed settings ran install

/-- Every rollback of an active installation to a version that is not revoked goes to one that the
tenant may install. -/
def RollbacksAllowed (settings : MarketplaceSettings) (calls : List MarketplaceCall) : Prop :=
  ∀ ran tenantId packageId version adminOverride now later,
    calls = ran ++ .rollback tenantId packageId version adminOverride now :: later →
      Installed (after settings ran) tenantId packageId →
        ∀ package, (after settings ran).packages.get packageId (some version) = .ok package →
          package.metadata.revoked = false →
            Allowed settings (after settings ran) tenantId package false

/-- No rollback of the calls overrides a revocation. -/
def WithoutOverride (calls : List MarketplaceCall) : Prop :=
  ∀ tenantId packageId version adminOverride now,
    .rollback tenantId packageId version adminOverride now ∈ calls → adminOverride = false

end Claims

/-- Every installation stands under its id and has a version that was allowed. -/
def Gated (settings : MarketplaceSettings) (calls : List MarketplaceCall) : Prop :=
  All (after settings calls).installs fun key install =>
    install.installId = key ∧ SelectedAllowed settings calls install

section Step

variable {calls : List MarketplaceCall} {call : MarketplaceCall}

theorem SelectedAllowed.keep {install : Install} (allowed : SelectedAllowed settings calls install)
    (other : ∀ chosen, selection settings (after settings calls) call = some chosen →
      chosen.installId ≠ install.installId) :
    SelectedAllowed settings (calls ++ [call]) install := by
  obtain ⟨before, selecting, last, facts⟩ := allowed
  exact ⟨before, selecting, last.keep other, facts⟩

section

variable (gated : Gated settings calls)
include gated

/-- A call that selects nothing keeps the records that agree in the ids and the version. -/
theorem Gated.keep (quiet : selection settings (after settings calls) call = none) :
    All (after settings calls).installs fun key install =>
      install.installId = key ∧ SelectedAllowed settings (calls ++ [call]) install := by
  intro key install found
  refine ⟨(gated key install found).1, (gated key install found).2.keep ?_⟩
  intro chosen selected
  rw [quiet] at selected
  cases selected

/-- A call that selects an allowed version for one installation keeps the others. -/
theorem Gated.select {chosen : Install}
    (selected : selection settings (after settings calls) call = some chosen)
    {package : PackageVersion}
    (listed : package ∈ (after settings calls).packages.versionsOf chosen.packageId)
    (version : package.version = chosen.version)
    (allowed : Allowed settings (after settings calls) chosen.tenantId package call.approval)
    {installId : String} (own : chosen.installId = installId) :
    All ((after settings calls).installs.set installId chosen) fun key install =>
      install.installId = key ∧ SelectedAllowed settings (calls ++ [call]) install := by
  intro key install found
  rw [Dict.get?_set] at found
  split at found
  · rename_i same
    cases found
    exact ⟨own.trans same.symm, calls, call, lastSelection_new selected, package, listed, version,
      allowed⟩
  · rename_i different
    obtain ⟨named, before⟩ := gated key install found
    refine ⟨named, before.keep ?_⟩
    intro other otherSelected
    rw [selected] at otherSelected
    cases otherSelected
    rw [own, named]
    exact Ne.symm different

/-- A call whose rollback is allowed keeps every installation allowed. -/
theorem Gated.step
    (override : ∀ tenantId packageId version adminOverride now,
      call = .rollback tenantId packageId version adminOverride now → adminOverride = false)
    (rollbacks : ∀ tenantId packageId version adminOverride now,
      call = .rollback tenantId packageId version adminOverride now →
        Installed (after settings calls) tenantId packageId →
          ∀ package, (after settings calls).packages.get packageId (some version) = .ok package →
            package.metadata.revoked = false →
              Allowed settings (after settings calls) tenantId package false) :
    Gated settings (calls ++ [call]) := by
  rw [Gated, after_append_singleton]
  have registered := after_registered settings calls
  have accepted {packageId : String} {package : PackageVersion}
      (listed : package ∈ (after settings calls).packages.versionsOf packageId) :
      Accepted package := by
    obtain ⟨⟨key, stored⟩, _⟩ := mem_versionsOf_iff.mp listed
    exact (registered key package stored).2
  have changes := step_changes settings (after settings calls) call
  generalize nextIs : (MarketplaceState.step settings (after settings calls) call).2 = next at changes
  generalize chosenIs : selection settings (after settings calls) call = chosen at changes
  cases changes with
  | quiet installs entitlements =>
      rw [installs]
      exact gated.keep chosenIs
  | installed selected installs entitlements =>
      obtain ⟨listed, allowed⟩ := installable_ok selected
      rw [installs]
      have named := (mem_versionsOf_iff.mp listed).2
      subst named
      exact gated.select chosenIs listed rfl allowed rfl
  | upgraded selected active made installs entitlements =>
      obtain ⟨listed, allowed⟩ := installable_ok selected
      obtain ⟨key, _, tenant, packageSame, _⟩ := activeInstall_ok active
      rw [installs]
      subst made
      refine gated.select chosenIs (packageSame ▸ listed) rfl ?_ rfl
      exact tenant ▸ allowed.without_approval (accepted listed)
  | rolledBack selected kept active made installs entitlements =>
      obtain ⟨key, _, tenant, packageSame, _⟩ := activeInstall_ok active
      have listed := get_mem selected
      rw [installs]
      subst made
      refine gated.select chosenIs (packageSame ▸ listed) rfl ?_ rfl
      have notRevoked := override _ _ _ _ _ rfl
      subst notRevoked
      exact tenant ▸ rollbacks _ _ _ _ _ rfl ((activeInstall_returns_iff _ _ _).mp ⟨_, active⟩) _
        selected (by simpa using kept)
  | removed active installs entitlements =>
      obtain ⟨key, present, _⟩ := activeInstall_ok active
      obtain ⟨own, allowed⟩ := gated.keep chosenIs key _ present
      rw [installs]
      exact (gated.keep chosenIs).set ⟨rfl, allowed⟩

end

end Step

theorem after_gated (calls : List MarketplaceCall) (override : WithoutOverride calls)
    (rollbacks : RollbacksAllowed settings calls) : Gated settings calls := by
  induction calls using List.reverseRecOn with
  | nil => exact all_empty _
  | append_singleton calls call ih =>
      have before : Gated settings calls := by
        refine ih ?_ ?_
        · intro tenantId packageId version adminOverride now member
          exact override _ _ _ _ _ (List.mem_append_left _ member)
        · intro ran tenantId packageId version adminOverride now later split
          exact rollbacks ran tenantId packageId version adminOverride now (later ++ [call])
            (by rw [split]; simp)
      refine before.step ?_ ?_
      · intro tenantId packageId version adminOverride now same
        exact override tenantId packageId version adminOverride now (by rw [same]; simp)
      · intro tenantId packageId version adminOverride now same
        exact rollbacks calls tenantId packageId version adminOverride now [] (by rw [same])

/-- A rollback of an active installation to a version that is not revoked selects it. -/
theorem rollback_selects (settings : MarketplaceSettings)
    {tenantId packageId version : String} (adminOverride : Bool) (now : UtcTime) {current : Install}
    (selected : marketplace.packages.get packageId (some version) = .ok package)
    (notRevoked : package.metadata.revoked = false)
    (active : activeInstall marketplace tenantId packageId = .ok current) :
    let call : MarketplaceCall := .rollback tenantId packageId version adminOverride now
    let moved := { current with version := package.version, rolledBackAt := some now }
    selection settings marketplace call = some moved ∧
      (step settings marketplace call).2.installs =
        marketplace.installs.set current.installId moved := by
  intro call moved
  have found : restorable marketplace tenantId packageId version adminOverride =
      .ok (package, current) := by
    rw [restorable, selected, active]
    simp [bind, Except.bind, notRevoked]
  have rolled : rollback marketplace tenantId packageId version adminOverride now =
      (.ok moved, (marketplace.putInstall moved).append "marketplace.package.rolled_back" packageId
        (movedFields tenantId packageId package.version)) := by
    rw [rollback, found]
  constructor
  · show (rollback marketplace tenantId packageId version adminOverride now).1.toOption = _
    rw [rolled]
    rfl
  · show (rollback marketplace tenantId packageId version adminOverride now).2.installs = _
    rw [rolled]
    rfl

/-- Without overrides, every active installation has an allowed version exactly when every rollback goes
to a version that the tenant may install. -/
theorem active_allowed_iff (settings : MarketplaceSettings) (calls : List MarketplaceCall)
    (override : WithoutOverride calls) :
    ActiveAllowed settings calls ↔ RollbacksAllowed settings calls := by
  constructor
  · intro allowed ran tenantId packageId version adminOverride now later split installed package
      selected notRevoked
    obtain ⟨current, active⟩ := (activeInstall_returns_iff _ _ _).mpr installed
    obtain ⟨chosen, installs⟩ :=
      rollback_selects settings adminOverride now selected notRevoked active
    obtain ⟨key, _, tenant, packageSame, isActive⟩ := activeInstall_ok active
    have every := allowed (ran ++ [.rollback tenantId packageId version adminOverride now]) later
      (by rw [split]; simp)
    rw [after_append_singleton, installs] at every
    obtain ⟨before, selecting, last, other, listed, sameVersion, passed⟩ :=
      every current.installId _ (Dict.get?_set_self _ _ _) isActive
    obtain ⟨beforeSame, selectingSame⟩ := last.eq_of_selected chosen
    subst beforeSame selectingSame
    have same : other = package :=
      (after_registered settings _).named.eq_of_version (packageSame ▸ listed)
        (get_mem selected) sameVersion
    subst same
    exact tenant ▸ passed
  · intro rollbacks ran later split key install found _
    have gated : Gated settings ran := by
      refine after_gated ran ?_ ?_
      · intro tenantId packageId version adminOverride now member
        exact override _ _ _ _ _ (split ▸ List.mem_append_left _ member)
      · intro earlier tenantId packageId version adminOverride now rest ranSplit
        exact rollbacks earlier tenantId packageId version adminOverride now (rest ++ later)
          (by rw [split, ranSplit]; simp)
    exact (gated key install found).2

section Example

/-- Two versions of a package, of which a second tenant installs the latest. -/
def twoVersions (metadata : PackageMetadata) : List MarketplaceCall := [
  .publish { plainRequest "pack" "1.0.0" with metadata },
  .publish (plainRequest "pack" "2.0.0"),
  .install "tenant-b" "pack" none false firstDraw]

def backToFirst : MarketplaceCall := .rollback "tenant-b" "pack" "1.0.0" false .first

/-- The second tenant may go back to a public version. -/
theorem active_allowed_public :
    ActiveAllowed localSettings (twoVersions .default ++ [backToFirst]) := by
  refine (active_allowed_iff _ _ ?_).mpr ?_
  · simp [WithoutOverride, twoVersions, backToFirst]
  · intro ran tenantId packageId version adminOverride now later split installed package found _
    rcases List.eq_nil_or_concat' later with empty | ⟨front, final, ended⟩
    · subst empty
      obtain ⟨same, callSame⟩ := List.append_inj' split rfl
      cases callSame
      subst same
      have passes : ((after localSettings (twoVersions .default)).packages.get "pack"
          (some "1.0.0")).toOption.map (fun package => (validateInstall localSettings
            (after localSettings (twoVersions .default)) "tenant-b" package false).toOption) =
          some (some ()) := by decide
      rw [found] at passes
      refine (validateInstall_iff _ _ _ _).mp ?_
      cases answer : validateInstall localSettings (after localSettings (twoVersions .default))
          "tenant-b" package false with
      | ok nothing => rfl
      | error error =>
          rw [Except.toOption, Option.map_some, answer] at passes
          cases passes
    · subst ended
      have whole : twoVersions .default ++ [backToFirst] =
          (ran ++ .rollback tenantId packageId version adminOverride now :: front) ++ [final] := by
        rw [split]
        simp
      have member : .rollback tenantId packageId version adminOverride now ∈
          twoVersions .default := by
        rw [(List.append_inj' whole rfl).1]
        simp
      simp [twoVersions] at member

/-- A rollback gives the second tenant a version that is private to the first one. -/
theorem rollback_private :
    let calls := twoVersions { PackageMetadata.default with isPrivate := true }
    let rolledBack := after localSettings (calls ++ [backToFirst])
    (rolledBack.installs.get? "inst-1").map (fun install =>
        (install.tenantId, install.packageId, install.version, install.active)) =
      some ("tenant-b", "pack", "1.0.0", true) ∧
    WithoutOverride (calls ++ [backToFirst]) ∧
    ¬ ActiveAllowed localSettings (calls ++ [backToFirst]) := by
  intro calls rolledBack
  have stored : (rolledBack.installs.get? "inst-1").map (fun install =>
      (install.installId, install.tenantId, install.packageId, install.version, install.active)) =
        some ("inst-1", "tenant-b", "pack", "1.0.0", true) := by decide
  have selected : (selection localSettings (after localSettings calls) backToFirst).map
      Install.installId = some "inst-1" := by decide
  have hidden : ∀ package ∈ (after localSettings calls).packages.versionsOf "pack",
      package.version = "1.0.0" → package.metadata.isPrivate = true ∧
        package.manifest.publisherTenantId = "tenant-a" := by decide
  obtain ⟨install, found, shown⟩ := Option.map_eq_some_iff.mp stored
  simp only [Prod.mk.injEq] at shown
  obtain ⟨installId, tenantId, packageId, version, active⟩ := shown
  refine ⟨by rw [found, Option.map_some, tenantId, packageId, version, active], ?_, ?_⟩
  · simp [WithoutOverride, calls, twoVersions, backToFirst]
  · intro allowed
    obtain ⟨before, selecting, last, package, listed, sameVersion, passed⟩ :=
      allowed (calls ++ [backToFirst]) [] (by simp) "inst-1" install found active
    obtain ⟨chosen, chose, chosenId⟩ := Option.map_eq_some_iff.mp selected
    rw [installId, ← chosenId] at last
    obtain ⟨beforeSame, _⟩ := last.eq_of_selected chose
    rw [beforeSame, packageId] at listed
    obtain ⟨isPrivate, publisher⟩ := hidden package listed (sameVersion.trans version)
    have visible := passed.visible isPrivate
    rw [publisher, tenantId] at visible
    exact absurd visible (by decide)

end Example

end MarketplaceState

end AgentFabric.Marketplace
