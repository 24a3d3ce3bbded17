import AgentFabric.Construction.Mesh.AgentDirectory

namespace AgentFabric.Mesh.AgentDirectory
open Transition

variable (capability : String)

/-- The current entries that a query asks for. -/
def Matches (version : Option String) (healthyOnly : Bool) (entry : AgentDirectoryEntry) : Bool :=
  entry.passport.capabilities.supports capability &&
    (version.all (versionCompatible entry.passport.version) &&
      (!healthyOnly || entry.healthStatus = "healthy"))

/-- Every query finds the matching entries once, and a node is resolved to an agent that offers its
capability. -/
structure Exact (directory : AgentDirectory) : Prop where
  found : ∀ capability version healthyOnly, ∃ listed,
    directory.findByCapability capability version healthyOnly = .ok listed ∧
      listed.Perm (directory.entries.values.filter (Matches capability version healthyOnly))
  resolved : ∀ capability agentId, capability ≠ "" →
    directory.resolve "" capability = .ok agentId →
      ∃ entry, directory.entries.get? agentId = some entry ∧
        entry.passport.capabilities.supports capability

variable (directory : AgentDirectory)

/-- A valid registration declares every capability of the entry that it replaces. -/
def KeepsCapabilities : DirectoryCall → Prop
  | .register passport _ now => passport.validate now = true →
      ∀ entry, directory.entries.get? passport.agentId = some entry →
        ∀ capability ∈ entry.passport.capabilities.capabilities,
          capability ∈ passport.capabilities.capabilities
  | .updateHealth _ _ _ => True

/-- The current passport of an agent. -/
def passport? (agentId : String) : Option AgentPassport :=
  (directory.entries.get? agentId).map AgentDirectoryEntry.passport

/-- Every agent that is indexed has an entry, and every entry is indexed under its capabilities. -/
structure Covered (directory : AgentDirectory) : Prop where
  keyed : ∀ agentId passport, directory.passport? agentId = some passport → passport.agentId = agentId
  distinct : ∀ capability, (directory.capabilityIndex.getD capability []).Nodup
  entered : ∀ capability agentId, agentId ∈ directory.capabilityIndex.getD capability [] →
    capability ∈ agentCapabilities ∧ ∃ passport, directory.passport? agentId = some passport
  indexed : ∀ agentId passport, directory.passport? agentId = some passport →
    ∀ capability ∈ passport.capabilities.capabilities,
      agentId ∈ directory.capabilityIndex.getD capability []

/-- Every agent offers the capabilities under which it is indexed. -/
def Sound : Prop :=
  ∀ capability agentId passport, agentId ∈ directory.capabilityIndex.getD capability [] →
    directory.passport? agentId = some passport → capability ∈ passport.capabilities.capabilities

section Queries

variable {directory : AgentDirectory}

theorem passport?_of_entry {agentId : String} {entry : AgentDirectoryEntry}
    (held : directory.entries.get? agentId = some entry) :
    directory.passport? agentId = some entry.passport := congrArg (Option.map _) held

/-- The entries of the agents that are indexed under a capability. -/
theorem mapM_entry (agents : List String)
    (entered : ∀ agentId ∈ agents, ∃ entry, directory.entries.get? agentId = some entry) :
    agents.mapM directory.entry = .ok (agents.filterMap directory.entries.get?) := by
  induction agents with
  | nil => rfl
  | cons agentId rest ih =>
      obtain ⟨entry, present⟩ := entered agentId (.head _)
      have read : directory.entry agentId = .ok entry := by rw [AgentDirectory.entry, present]
      rw [List.mapM_cons, read, ih fun other member => entered other (List.mem_cons_of_mem _ member),
        List.filterMap_cons, present]
      rfl

theorem lower_known {capability : String} (known : capability ∈ agentCapabilities) :
    lower capability = capability := by
  revert capability
  decide

section

variable (covered : Covered directory)
include covered

/-- The entries that the index gives are the entries that support the capability. -/
theorem indexed_perm (sound : Sound directory) (capability : String) :
    ((directory.capabilityIndex.getD (lower capability) []).filterMap directory.entries.get?).Perm
      (directory.entries.values.filter fun entry =>
        entry.passport.capabilities.supports capability) := by
  have named : directory.entries.values.map (fun entry => entry.passport.agentId) =
      directory.entries.items.map Prod.fst := by
    rw [Dict.values, List.map_map]
    apply List.map_congr_left
    intro item member
    exact covered.keyed item.1 _
      (passport?_of_entry ((directory.entries.get?_eq_some_iff _ _).mpr member))
  have once : directory.entries.values.Nodup :=
    List.Nodup.of_map (fun entry => entry.passport.agentId) (named ▸ directory.entries.distinct)
  have listedOnce : ((directory.capabilityIndex.getD (lower capability) []).filterMap
      directory.entries.get?).Nodup := by
    refine (covered.distinct _).filterMap ?_
    intro first second entry firstHeld secondHeld
    rw [← covered.keyed first _ (passport?_of_entry firstHeld),
      covered.keyed second _ (passport?_of_entry secondHeld)]
  refine (List.perm_ext_iff_of_nodup listedOnce (once.filter _)).mpr fun entry => ?_
  rw [List.mem_filterMap, List.mem_filter, Dict.mem_values_iff]
  constructor
  · rintro ⟨agentId, member, held⟩
    exact ⟨⟨agentId, held⟩, decide_eq_true (sound _ agentId _ member (passport?_of_entry held))⟩
  · rintro ⟨⟨agentId, held⟩, supports⟩
    exact ⟨agentId, covered.indexed agentId _ (passport?_of_entry held) _
      (of_decide_eq_true supports), held⟩

theorem findByCapability_eq (capability : String) (version : Option String) (healthyOnly : Bool) :
    directory.findByCapability capability version healthyOnly =
      .ok ((((directory.capabilityIndex.getD (lower capability) []).filterMap
        directory.entries.get?).filter fun entry =>
          version.all (versionCompatible entry.passport.version)).filter
            fun entry => !healthyOnly || entry.healthStatus = "healthy") := by
  rw [findByCapability, mapM_entry _ fun agentId member => ?_]
  · rfl
  · obtain ⟨passport, held⟩ := (covered.entered _ agentId member).2
    obtain ⟨entry, present, _⟩ := Option.map_eq_some_iff.mp held
    exact ⟨entry, present⟩

/-- Queries are exact exactly when the index is sound. -/
theorem exact_iff_sound : directory.Exact ↔ directory.Sound := by
  constructor
  · intro exact capability agentId passport member current
    obtain ⟨entry, held, rfl⟩ := Option.map_eq_some_iff.mp current
    obtain ⟨listed, found, perm⟩ := exact.found capability none false
    have known := (covered.entered capability agentId member).1
    rw [findByCapability_eq covered, lower_known known] at found
    have inside : entry ∈ listed := by
      rw [← Except.ok.inj found]
      simpa using ⟨agentId, member, held⟩
    have matched := (List.mem_filter.mp (perm.mem_iff.mp inside)).2
    simp only [Matches, Bool.and_eq_true, decide_eq_true_eq] at matched
    have supported := matched.1
    rwa [CapabilityManifest.supports, lower_known known] at supported
  · intro sound
    have found (capability : String) (version : Option String) (healthyOnly : Bool) : ∃ listed,
        directory.findByCapability capability version healthyOnly = .ok listed ∧
          listed.Perm (directory.entries.values.filter (Matches capability version healthyOnly)) := by
      refine ⟨_, findByCapability_eq covered capability version healthyOnly, ?_⟩
      refine (((indexed_perm covered sound capability).filter _).filter _).trans (List.Perm.of_eq ?_)
      rw [List.filter_filter, List.filter_filter]
      congr 1
      funext entry
      simp only [Matches]
      ac_rfl
    refine ⟨found, fun capability agentId filled resolved => ?_⟩
    obtain ⟨listed, returned, perm⟩ := found capability none true
    rw [resolve, if_pos ⟨rfl, filled⟩, returned] at resolved
    cases listed with
    | nil => cases resolved
    | cons first rest =>
        obtain rfl := Except.ok.inj resolved
        obtain ⟨stored, matched⟩ := List.mem_filter.mp (perm.mem_iff.mp (.head _))
        obtain ⟨agentId, held⟩ := (directory.entries.mem_values_iff first).mp stored
        simp only [Matches, Bool.and_eq_true, decide_eq_true_eq] at matched
        rw [covered.keyed agentId _ (passport?_of_entry held)]
        exact ⟨first, held, matched.1⟩

end

end Queries

section Steps

theorem getD_index (agentId : String) (capabilities : List String)
    (indexed : Dict String (List String)) (capability : String) :
    (capabilities.foldl (index agentId) indexed).getD capability [] =
      if capability ∈ capabilities ∧ agentId ∉ indexed.getD capability [] then
        indexed.getD capability [] ++ [agentId] else indexed.getD capability [] := by
  induction capabilities generalizing indexed with
  | nil => simp
  | cons first rest ih =>
      rw [List.foldl_cons, ih, index, Dict.getD_set]
      by_cases same : capability = first
      · subst same
        by_cases present : agentId ∈ indexed.getD capability [] <;> simp [present]
      · simp [same]

theorem mem_index_iff (agentId other : String) (capabilities : List String)
    (indexed : Dict String (List String)) (capability : String) :
    other ∈ (capabilities.foldl (index agentId) indexed).getD capability [] ↔
      other ∈ indexed.getD capability [] ∨ (other = agentId ∧ capability ∈ capabilities) := by
  rw [getD_index]
  split
  · simp_all
  · grind

variable {directory : AgentDirectory}

/-- A call registers a valid passport, or keeps all passports and the index. -/
theorem step_cases (directory : AgentDirectory) (call : DirectoryCall) :
    (∃ passport healthStatus now, call = .register passport healthStatus now ∧
      passport.validate now = true ∧
      (∀ agentId, (step directory call).2.passport? agentId =
        if agentId = passport.agentId then some passport else directory.passport? agentId) ∧
      (step directory call).2.capabilityIndex =
        passport.capabilities.capabilities.foldl (index passport.agentId)
          directory.capabilityIndex) ∨
    (KeepsCapabilities directory call ∧ (step directory call).2.passport? = directory.passport? ∧
      (step directory call).2.capabilityIndex = directory.capabilityIndex) := by
  cases call with
  | register passport healthStatus now =>
      by_cases valid : passport.validate now = true
      · refine .inl ⟨passport, healthStatus, now, rfl, valid, fun agentId => ?_, ?_⟩
        · rw [step, register, if_pos valid, passport?, Dict.get?_set]
          split <;> rfl
        · rw [step, register, if_pos valid]
      · refine .inr ⟨fun accepted => absurd accepted valid, ?_⟩
        rw [step, register, if_neg valid]
        exact ⟨rfl, rfl⟩
  | updateHealth agentId healthStatus now =>
      refine .inr ⟨trivial, ?_⟩
      rw [step, updateHealth]
      cases held : directory.entries.get? agentId with
      | none => exact ⟨rfl, rfl⟩
      | some entry =>
          refine ⟨funext fun other => ?_, rfl⟩
          rw [passport?, passport?, Dict.get?_set]
          split
          · rename_i same
            rw [same, held]
            rfl
          · rfl

theorem step_covered (directory : AgentDirectory) (call : DirectoryCall)
    (covered : Covered directory) : Covered (step directory call).2 := by
  rcases step_cases directory call with
    ⟨passport, _, _, _, _, passports, indexed⟩ | ⟨_, passports, indexed⟩
  · constructor
    · intro agentId held present
      rw [passports] at present
      split at present
      · rename_i own
        rw [← Option.some.inj present, own]
      · exact covered.keyed agentId held present
    · intro capability
      rw [indexed, getD_index]
      split
      · rename_i new
        simpa [List.nodup_append] using ⟨covered.distinct capability, fun other member same =>
          new.2 (same ▸ member)⟩
      · exact covered.distinct capability
    · intro capability agentId member
      rw [indexed, mem_index_iff] at member
      rw [passports]
      rcases member with old | ⟨rfl, declared⟩
      · obtain ⟨known, held⟩ := covered.entered capability agentId old
        refine ⟨known, ?_⟩
        split
        · exact ⟨passport, rfl⟩
        · exact held
      · exact ⟨passport.capabilities.known capability declared, passport, if_pos rfl⟩
    · intro agentId held present capability declared
      rw [passports] at present
      rw [indexed, mem_index_iff]
      split at present
      · rename_i own
        obtain rfl := Option.some.inj present
        exact .inr ⟨own, declared⟩
      · exact .inl (covered.indexed agentId held present capability declared)
  · constructor
    · rw [passports]
      exact covered.keyed
    · rw [indexed]
      exact covered.distinct
    · rw [passports, indexed]
      exact covered.entered
    · rw [passports, indexed]
      exact covered.indexed

/-- A call keeps a sound index exactly when it keeps the capabilities. -/
theorem step_sound_iff (covered : Covered directory) (sound : directory.Sound)
    (call : DirectoryCall) :
    (step directory call).2.Sound ↔ KeepsCapabilities directory call := by
  rcases step_cases directory call with
    ⟨passport, _, _, rfl, valid, passports, indexed⟩ | ⟨keeps, passports, indexed⟩
  · unfold Sound
    simp only [passports, indexed, mem_index_iff]
    constructor
    · intro after _ entry held capability declared
      exact after capability passport.agentId passport
        (.inl (covered.indexed _ _ (passport?_of_entry held) capability declared)) (if_pos rfl)
    · intro keeps capability agentId held member present
      split at present
      · rename_i own
        obtain rfl := Option.some.inj present
        subst own
        rcases member with old | ⟨_, declared⟩
        · obtain ⟨earlier, current⟩ := (covered.entered capability _ old).2
          obtain ⟨entry, stored, rfl⟩ := Option.map_eq_some_iff.mp current
          exact keeps valid entry stored capability (sound capability _ _ old current)
        · exact declared
      · rename_i other
        exact sound capability agentId held (member.resolve_right fun own => other own.1) present
  · refine iff_of_true ?_ keeps
    unfold Sound
    rw [passports, indexed]
    exact sound

end Steps

/-- In every run all queries stay exact exactly when every registration of an agent declares the
capabilities that it had. -/
theorem directoryRun_exact_iff (calls : List DirectoryCall) :
    (∀ done rest, calls = done ++ rest → (run step initial done).Exact) ↔
      Guarded step KeepsCapabilities initial calls := by
  have covered : Covered initial := by
    refine ⟨?_, fun _ => List.nodup_nil, ?_, ?_⟩
    · intro _ _ held
      cases held
    · intro _ _ member
      cases member
    · intro _ _ held
      cases held
  refine (forall_congr' fun done => forall_congr' fun rest => imp_congr_right fun _ => ?_).trans
    (forall_parts_iff_guarded step KeepsCapabilities (fun state _ => Covered state)
      (fun state _ => Sound state) (fun state _ call kept sound =>
        ⟨step_covered state call kept, step_sound_iff kept sound call⟩) initial [] calls covered
      fun _ _ _ member => by cases member)
  exact exact_iff_sound (run_invariant step Covered step_covered initial done covered)

/-- The valid passport of one agent with one capability. -/
def single (known : capability ∈ agentCapabilities) : AgentPassport where
  agentId := "agent-a"
  version := "1"
  capabilities := ⟨[capability], List.nodup_singleton _, by simpa using known⟩
  signingFingerprint := "f"
  certificateAgentId := "agent-a"
  certificateFingerprint := "f"
  expiresAt := none

/-- An agent that registers again with another capability is still found for the first one. -/
theorem directoryRun_not_exact :
    ¬ (run step initial [.register (single "research" (by decide)) "healthy" .first,
      .register (single "coding" (by decide)) "healthy" .first]).Exact := by
  intro exact
  obtain ⟨listed, found, perm⟩ := exact.found "research" none false
  have stale := congrArg (fun answer => answer.toOption.map List.length) found
  dsimp only [Except.toOption, Option.map_some] at stale
  rw [perm.length_eq] at stale
  revert stale
  decide

end AgentFabric.Mesh.AgentDirectory
