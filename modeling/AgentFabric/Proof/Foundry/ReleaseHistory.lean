import AgentFabric.Construction.Foundry.RepositoryLifecycle

namespace AgentFabric.Foundry
open Connectors (TenantContext)
open Transition

section Identity

variable {digests : Digests}

/-- The short digests differ for different texts and consist of hexadecimal digits. -/
structure Distinguishing (digests : Digests) : Prop where
  injective : Function.Injective digests.short
  hexadecimal : ∀ text, ':' ∉ (digests.short text).toList

/-- The id of a derived repository tells the parent and the way of the derivation. -/
theorem derivedId_inj (distinguishing : Distinguishing digests) {parent other : String}
    {derivation way : Derivation} {name title : String} (plain : ':' ∉ parent.toList)
    (otherPlain : ':' ∉ other.toList)
    (same : derivedId digests parent derivation name = derivedId digests other way title) :
    parent = other ∧ derivation = way := by
  have texts := distinguishing.injective ((String.append_right_inj _).mp same)
  have lists := congrArg String.toList texts
  have colon : ":".toList = [':'] := rfl
  simp only [String.toList_append, colon, List.append_assoc, List.cons_append,
    List.nil_append] at lists
  have counts : parent.toList.count ':' = other.toList.count ':' := by
    rw [List.count_eq_zero.mpr plain, List.count_eq_zero.mpr otherPlain]
  obtain ⟨parents, rest⟩ := Delimited.split_cancel ':' _ _ _ _ counts lists
  refine ⟨String.toList_inj.mp parents, ?_⟩
  cases derivation <;> cases way <;> first | rfl | simp [Derivation.action] at rest

/-- The form of every repository id. -/
def IsId (digests : Digests) (id : String) : Prop := ∃ text, id = "repo-" ++ digests.short text

theorem IsId.plain (distinguishing : Distinguishing digests) {id : String} (isId : IsId digests id) :
    ':' ∉ id.toList := by
  obtain ⟨text, rfl⟩ := isId
  have letters : "repo-".toList = ['r', 'e', 'p', 'o', '-'] := rfl
  rw [String.toList_append, letters, List.mem_append, not_or]
  exact ⟨by decide, distinguishing.hexadecimal text⟩

/-- A manifest has an id that no derivation gives. -/
theorem repositoryId_ne_derivedId (distinguishing : Distinguishing digests)
    (manifest : RepositoryManifest) {parent : String} (isId : IsId digests parent)
    (derivation : Derivation) (name : String) :
    manifest.repositoryId digests ≠ derivedId digests parent derivation name := by
  intro same
  obtain ⟨text, rfl⟩ := isId
  have texts := distinguishing.injective ((String.append_right_inj _).mp same)
  have heads := congrArg (fun value => value.toList.head?) texts
  have brace : manifest.exportJson.toList.head? = some '\x7b' := by
    rw [RepositoryManifest.exportJson, Json.dumps, String.toList_ofList,
      RepositoryManifest.asDict, Json.sortKeys, Json.render]
    rfl
  have letters : "repo-".toList = ['r', 'e', 'p', 'o', '-'] := rfl
  simp only [brace, String.toList_append, letters, List.cons_append, List.head?_cons] at heads
  exact absurd (Option.some.inj heads) (by decide)

/-- The lineage that the id of a repository stands for. -/
inductive Origin (digests : Digests) : String → Option String → String → Prop
  | created (manifest : RepositoryManifest) :
      Origin digests (manifest.repositoryId digests) none "create"
  | derived {parent : String} (isId : IsId digests parent) (derivation : Derivation)
      (name : String) :
      Origin digests (derivedId digests parent derivation name) (some parent) derivation.action

theorem Origin.isId {id action : String} {parent : Option String}
    (origin : Origin digests id parent action) : IsId digests id := by
  cases origin with
  | created manifest => exact ⟨_, rfl⟩
  | derived isId derivation name => exact ⟨_, rfl⟩

theorem Origin.unique (distinguishing : Distinguishing digests) {id action way : String}
    {parent other : Option String} (origin : Origin digests id parent action)
    (second : Origin digests id other way) : parent = other ∧ action = way := by
  cases origin with
  | created manifest =>
      generalize named : manifest.repositoryId digests = id at second
      cases second with
      | created title => exact ⟨rfl, rfl⟩
      | derived isId derivation name =>
          exact absurd named (repositoryId_ne_derivedId distinguishing manifest isId derivation name)
  | derived isId derivation name =>
      generalize named : derivedId digests _ derivation name = id at second
      cases second with
      | created manifest =>
          exact absurd named.symm
            (repositoryId_ne_derivedId distinguishing manifest isId derivation name)
      | derived otherId otherDerivation title =>
          obtain ⟨rfl, rfl⟩ := derivedId_inj distinguishing (isId.plain distinguishing)
            (otherId.plain distinguishing) named
          exact ⟨rfl, rfl⟩

end Identity

section Laws

variable (digests : Digests)

/-- The parents of a repository end at one that was created. -/
inductive Ancestry (records : Dict String RepositoryRecord) : String → Prop
  | created {id : String} {record : RepositoryRecord} (stored : records.get? id = some record)
      (root : record.parentRepositoryId = none) (action : record.lineageAction = "create") :
      Ancestry records id
  | derived {id parent : String} {record : RepositoryRecord}
      (stored : records.get? id = some record) (child : record.parentRepositoryId = some parent)
      (ancestry : Ancestry records parent) : Ancestry records id

/-- A later record of a repository extends the release history of an earlier one. -/
structure Extends (before after : RepositoryRecord) : Prop where
  history : before.releaseHistory <+: after.releaseHistory
  parent : after.parentRepositoryId = before.parentRepositoryId
  action : after.lineageAction = before.lineageAction
  owner : after.owner = before.owner

theorem Extends.refl (record : RepositoryRecord) : Extends record record :=
  ⟨List.prefix_rfl, rfl, rfl, rfl⟩

/-- Every repository is kept, and its history only grows. -/
def KeepsHistory (before after : Dict String RepositoryRecord) : Prop :=
  ∀ id record, before.get? id = some record →
    ∃ later, after.get? id = some later ∧ Extends record later

/-- A write keeps the histories exactly when it extends the record that it replaces. -/
theorem keepsHistory_set_iff (records : Dict String RepositoryRecord) (id : String)
    (record : RepositoryRecord) :
    KeepsHistory records (records.set id record) ↔
      ∀ old, records.get? id = some old → Extends old record := by
  constructor
  · intro keeps old stored
    obtain ⟨later, found, extends_⟩ := keeps id old stored
    rw [Dict.get?_set_self] at found
    cases found
    exact extends_
  · intro replaced other old stored
    by_cases same : other = id
    · subst same
      exact ⟨record, Dict.get?_set_self _ _ _, replaced old stored⟩
    · exact ⟨old, (Dict.get?_set_of_ne _ _ same).trans stored, Extends.refl old⟩

/-- What holds of every stored repository. -/
structure Sound (records : Dict String RepositoryRecord) (id : String) (record : RepositoryRecord) :
    Prop where
  named : record.repositoryId = id
  origin : Origin digests id record.parentRepositoryId record.lineageAction
  version : record.releaseHistory.getLast? = some record.version
  ancestry : Ancestry records id

def AllSound (records : Dict String RepositoryRecord) : Prop :=
  ∀ id record, records.get? id = some record → Sound digests records id record

variable {digests} {records : Dict String RepositoryRecord} {record : RepositoryRecord}
  {id : String}

/-- A write under an id keeps the ancestries when it keeps the lineage of the id. -/
theorem Ancestry.set
    (lineage : ∀ old, records.get? id = some old →
      record.parentRepositoryId = old.parentRepositoryId ∧ record.lineageAction = old.lineageAction)
    {other : String} (ancestry : Ancestry records other) : Ancestry (records.set id record) other := by
  induction ancestry with
  | created stored root action =>
      rename_i other found
      by_cases same : other = id
      · subst same
        obtain ⟨parents, actions⟩ := lineage found stored
        exact .created (Dict.get?_set_self _ _ _) (parents.trans root) (actions.trans action)
      · exact .created ((Dict.get?_set_of_ne _ _ same).trans stored) root action
  | derived stored child _ ih =>
      rename_i other parent found _
      by_cases same : other = id
      · subst same
        exact .derived (Dict.get?_set_self _ _ _) ((lineage found stored).1.trans child) ih
      · exact .derived ((Dict.get?_set_of_ne _ _ same).trans stored) child ih

/-- The lineage of a written record agrees with the record that it replaces. -/
theorem AllSound.lineage (distinguishing : Distinguishing digests) (sound : AllSound digests records)
    (origin : Origin digests id record.parentRepositoryId record.lineageAction)
    {old : RepositoryRecord} (stored : records.get? id = some old) :
    record.parentRepositoryId = old.parentRepositoryId ∧ record.lineageAction = old.lineageAction :=
  origin.unique distinguishing (sound id old stored).origin

/-- A sound write keeps every stored repository sound. -/
theorem AllSound.set (distinguishing : Distinguishing digests) (sound : AllSound digests records)
    (named : record.repositoryId = id)
    (origin : Origin digests id record.parentRepositoryId record.lineageAction)
    (version : record.releaseHistory.getLast? = some record.version)
    (parents : ∀ parent, record.parentRepositoryId = some parent → Ancestry records parent) :
    AllSound digests (records.set id record) := by
  have lineage (old : RepositoryRecord) (stored : records.get? id = some old) :=
    sound.lineage distinguishing origin stored
  intro other found stored
  by_cases same : other = id
  · subst same
    rw [Dict.get?_set_self] at stored
    cases stored
    refine ⟨named, origin, version, ?_⟩
    cases parent : record.parentRepositoryId with
    | none =>
        rw [parent] at origin
        have action : record.lineageAction = "create" := by
          generalize record.lineageAction = action at origin
          cases origin
          rfl
        exact .created (Dict.get?_set_self _ _ _) parent action
    | some above =>
        exact .derived (Dict.get?_set_self _ _ _) parent ((parents above parent).set lineage)
  · rw [Dict.get?_set_of_ne _ _ same] at stored
    obtain ⟨own, start, last, ancestry⟩ := sound other found stored
    exact ⟨own, start, last, ancestry.set lineage⟩

end Laws

namespace LifecycleState

section Operations

variable {digests : Digests} {now : Nat → UtcTime} {state : LifecycleState} {ctx : TenantContext}

theorem get_stored {repositoryId : String} {record : RepositoryRecord}
    (read : state.get ctx repositoryId = .ok record) :
    state.records.get? repositoryId = some record := by
  unfold get at read
  cases stored : state.records.get? repositoryId with
  | none =>
      rw [stored] at read
      cases read
  | some found =>
      rw [stored] at read
      by_cases foreign : found.tenantId ≠ ctx.tenantId ∧ ctx.isGlobalAdmin = false
      · simp only [if_pos foreign] at read
        cases read
      · simp only [if_neg foreign] at read
        exact congrArg some (Except.ok.inj read)

/-- The record that a save stores. -/
def listed (record : RepositoryRecord) : RepositoryRecord :=
  { record with dependencies := Sorting.sortedBy id record.dependencies }

variable {repositoryId eventType : String} {changed : RepositoryRecord → RepositoryRecord}

/-- A change that raises writes nothing. -/
theorem change_error {error : PyError}
    (refused : state.get ctx repositoryId = .error error) :
    state.change ctx repositoryId eventType changed = (.error error, state) := by
  rw [change, refused]

variable {current : RepositoryRecord}

theorem change_ok (read : state.get ctx repositoryId = .ok current) :
    state.change ctx repositoryId eventType changed =
      (.ok (changed current), state.save (changed current) eventType) := by
  rw [change, read]

/-- A change that goes on with the repository that it reads. -/
structure Continues (changed : RepositoryRecord → RepositoryRecord) : Prop where
  named : ∀ current, (changed current).repositoryId = current.repositoryId
  tenant : ∀ current, (changed current).tenantId = current.tenantId
  grows : ∀ current, Extends current (changed current)
  version : ∀ current, current.releaseHistory.getLast? = some current.version →
    (changed current).releaseHistory.getLast? = some (changed current).version

theorem Continues.keeps (continues : Continues changed) (sound : AllSound digests state.records)
    (repositoryId eventType : String) :
    KeepsHistory state.records (state.change ctx repositoryId eventType changed).2.records := by
  cases read : state.get ctx repositoryId with
  | error error =>
      rw [change_error read]
      exact fun _ record stored => ⟨record, stored, Extends.refl record⟩
  | ok current =>
      have stored := get_stored read
      have named : (changed current).repositoryId = repositoryId :=
        (continues.named current).trans (sound _ _ stored).named
      rw [change_ok read, save, named, keepsHistory_set_iff]
      intro old found
      cases stored.symm.trans found
      obtain ⟨history, parent, action, owner⟩ := continues.grows current
      exact ⟨history, parent, action, owner⟩

theorem Continues.sound (distinguishing : Distinguishing digests) (continues : Continues changed)
    (sound : AllSound digests state.records) (repositoryId eventType : String) :
    AllSound digests (state.change ctx repositoryId eventType changed).2.records := by
  cases read : state.get ctx repositoryId with
  | error error =>
      rw [change_error read]
      exact sound
  | ok current =>
      obtain ⟨named, origin, version, ancestry⟩ := sound _ _ (get_stored read)
      have grown := continues.grows current
      have same : (changed current).repositoryId = repositoryId :=
        (continues.named current).trans named
      rw [change_ok read]
      refine sound.set distinguishing rfl ?_ (continues.version current version) ?_
      · show Origin digests (changed current).repositoryId (changed current).parentRepositoryId
          (changed current).lineageAction
        rw [same, grown.parent, grown.action]
        exact origin
      · intro parent child
        have own : current.parentRepositoryId = some parent := grown.parent.symm.trans child
        cases ancestry with
        | created stored root =>
            cases (get_stored read).symm.trans stored
            cases own.symm.trans root
        | derived stored above ancestry =>
            cases (get_stored read).symm.trans stored
            cases own.symm.trans above
            exact ancestry

theorem update_continues (manifest : RepositoryManifest) (version : String) :
    Continues fun current =>
      { current with
        version
        manifest := manifest.sorted
        dependencies := manifest.dependencies
        releaseHistory := current.releaseHistory ++ [version]
        updatedAt := now 0 } where
  named _ := rfl
  tenant _ := rfl
  grows _ := ⟨List.prefix_append _ _, rfl, rfl, rfl⟩
  version _ _ := List.getLast?_concat

theorem setStatus_continues (status : String) :
    Continues fun current => { current with status, updatedAt := now 0 } where
  named _ := rfl
  tenant _ := rfl
  grows _ := ⟨List.prefix_rfl, rfl, rfl, rfl⟩
  version _ last := last

/-- An update appends its version. -/
theorem update_stored {repositoryId : String}
    (read : state.get ctx repositoryId = .ok current) (named : current.repositoryId = repositoryId)
    (manifest : RepositoryManifest) (version : String) :
    ∃ record, (state.update now ctx repositoryId manifest version).2.records.get? repositoryId =
        some record ∧ record.releaseHistory = current.releaseHistory ++ [version] := by
  rw [update, change_ok read]
  subst named
  exact ⟨_, Dict.get?_set_self _ _ _, rfl⟩

theorem step_update (repositoryId : String) (manifest : RepositoryManifest) (version : String) :
    (step digests state ⟨ctx, .update repositoryId manifest version, now⟩).2 =
      (state.update now ctx repositoryId manifest version).2 := rfl

/-- A derivation onto a stored repository keeps its history and its owner. -/
def DerivesOnto (digests : Digests) (state : LifecycleState) (ctx : TenantContext)
    (repositoryId name : String) (derivation : Derivation) : Prop :=
  ∀ parent, state.get ctx repositoryId = .ok parent →
    ∀ old, state.records.get? (derivedId digests repositoryId derivation name) = some old →
      old.releaseHistory <+: parent.releaseHistory ∧ old.owner = ctx.principalId

section

variable (distinguishing : Distinguishing digests)
include distinguishing

section

variable (sound : AllSound digests state.records)
include sound

theorem derive_keeps_iff (repositoryId name : String) (derivation : Derivation) :
    KeepsHistory state.records
        (state.derive digests now ctx repositoryId name derivation).2.records ↔
      DerivesOnto digests state ctx repositoryId name derivation := by
  unfold derive DerivesOnto
  cases read : state.get ctx repositoryId with
  | error error =>
      rw [change_error read]
      refine iff_of_true (fun _ record stored => ⟨record, stored, Extends.refl record⟩) ?_
      intro parent found
      cases found
  | ok parent =>
      have stored := get_stored read
      have named : parent.repositoryId = repositoryId := (sound _ _ stored).named
      have origin : Origin digests (derivedId digests repositoryId derivation name)
          (some repositoryId) derivation.action :=
        .derived (sound _ _ stored).origin.isId derivation name
      have target : (derived digests now ctx parent name derivation).repositoryId =
          derivedId digests repositoryId derivation name := by
        rw [derived, named]
      rw [change_ok read, save, target, keepsHistory_set_iff]
      constructor
      · intro extends_ other found old replaced
        cases found
        exact ⟨(extends_ old replaced).history, (extends_ old replaced).owner.symm⟩
      · intro onto old replaced
        obtain ⟨history, owner⟩ := onto parent rfl old replaced
        obtain ⟨parents, actions⟩ := origin.unique distinguishing (sound _ _ replaced).origin
        refine ⟨history, ?_, actions, owner.symm⟩
        rw [← parents, ← named]
        rfl

theorem derive_sound (repositoryId name : String) (derivation : Derivation) :
    AllSound digests (state.derive digests now ctx repositoryId name derivation).2.records := by
  unfold derive
  cases read : state.get ctx repositoryId with
  | error error =>
      rw [change_error read]
      exact sound
  | ok parent =>
      obtain ⟨named, origin, version, ancestry⟩ := sound _ _ (get_stored read)
      rw [change_ok read]
      refine sound.set distinguishing rfl ?_ version ?_
      · refine .derived ?_ derivation name
        rw [named]
        exact origin.isId
      · intro above child
        cases child
        rw [named]
        exact ancestry

/-- A creation onto a stored repository finds it as it was created by the same owner. -/
theorem create_keeps_iff (blueprint : RepositoryBlueprint) :
    KeepsHistory state.records (state.create digests now ctx blueprint).2.records ↔
      ∀ old, state.records.get? (blueprint.manifest.repositoryId digests) = some old →
        old.releaseHistory = ["1.0.0"] ∧ old.owner = ctx.principalId := by
  unfold create save
  rw [keepsHistory_set_iff]
  refine forall_congr' fun old => forall_congr' fun replaced => ?_
  constructor
  · rintro ⟨history, _, _, owner⟩
    refine ⟨?_, owner.symm⟩
    have last := (sound _ _ replaced).version
    obtain empty | ⟨rest, whole, nothing⟩ := List.prefix_cons_iff.mp history
    · rw [empty] at last
      cases last
    · rw [whole, List.prefix_nil.mp nothing]
  · rintro ⟨history, owner⟩
    obtain ⟨parents, actions⟩ := (Origin.created blueprint.manifest).unique distinguishing
      (sound _ _ replaced).origin
    exact ⟨history ▸ List.prefix_rfl, parents, actions, owner.symm⟩

theorem create_sound (blueprint : RepositoryBlueprint) :
    AllSound digests (state.create digests now ctx blueprint).2.records := by
  refine sound.set distinguishing rfl (.created blueprint.manifest) rfl ?_
  intro parent child
  cases child

end

end

end Operations

section Runs

variable (digests : Digests)

/-- A call that makes a repository anew finds its record as it would make it. -/
def Appends (state : LifecycleState) (call : LifecycleCall) : Prop :=
  match call.operation with
  | .create blueprint =>
      ∀ old, state.records.get? (blueprint.manifest.repositoryId digests) = some old →
        old.releaseHistory = ["1.0.0"] ∧ old.owner = call.ctx.principalId
  | .clone repositoryId name => DerivesOnto digests state call.ctx repositoryId name .clone
  | .fork repositoryId name => DerivesOnto digests state call.ctx repositoryId name .fork
  | _ => True

variable {digests}

section

variable (distinguishing : Distinguishing digests)
include distinguishing

variable (state : LifecycleState) (call : LifecycleCall)

theorem step_keeps_iff (sound : AllSound digests state.records) :
    KeepsHistory state.records (step digests state call).2.records ↔ Appends digests state call := by
  have same : KeepsHistory state.records state.records :=
    fun _ record stored => ⟨record, stored, Extends.refl record⟩
  obtain ⟨ctx, operation, now⟩ := call
  cases operation with
  | create blueprint => exact create_keeps_iff distinguishing sound blueprint
  | get repositoryId => exact iff_of_true same trivial
  | list => exact iff_of_true same trivial
  | update repositoryId manifest version =>
      exact iff_of_true ((update_continues manifest version).keeps sound _ _) trivial
  | clone repositoryId name => exact derive_keeps_iff distinguishing sound repositoryId name .clone
  | fork repositoryId name => exact derive_keeps_iff distinguishing sound repositoryId name .fork
  | deprecateRepository repositoryId => exact iff_of_true ((setStatus_continues _).keeps sound _ _) trivial
  | archive repositoryId => exact iff_of_true ((setStatus_continues _).keeps sound _ _) trivial
  | restore repositoryId => exact iff_of_true ((setStatus_continues _).keeps sound _ _) trivial

theorem step_sound (sound : AllSound digests state.records) :
    AllSound digests (step digests state call).2.records := by
  obtain ⟨ctx, operation, now⟩ := call
  cases operation with
  | create blueprint => exact create_sound distinguishing sound blueprint
  | get repositoryId => exact sound
  | list => exact sound
  | update repositoryId manifest version =>
      exact (update_continues manifest version).sound distinguishing sound _ _
  | clone repositoryId name => exact derive_sound distinguishing sound repositoryId name .clone
  | fork repositoryId name => exact derive_sound distinguishing sound repositoryId name .fork
  | deprecateRepository repositoryId => exact (setStatus_continues _).sound distinguishing sound _ _
  | archive repositoryId => exact (setStatus_continues _).sound distinguishing sound _ _
  | restore repositoryId => exact (setStatus_continues _).sound distinguishing sound _ _

theorem run_sound (calls : List LifecycleCall) :
    AllSound digests (run (step digests) initial calls).records := by
  refine run_invariant (step digests) (fun state => AllSound digests state.records) ?_ initial calls ?_
  · intro state call sound
    exact step_sound distinguishing state call sound
  · intro id record stored
    cases stored

end

/-- The history of every repository is append-only in a run exactly when every call that makes a
repository finds none under its id, or one that it repeats; versions and lineages always hold. -/
theorem releaseHistory_appendOnly_iff (distinguishing : Distinguishing digests)
    (calls : List LifecycleCall) :
    ((∀ done call rest, calls = done ++ call :: rest →
        KeepsHistory (run (step digests) initial done).records
          (step digests (run (step digests) initial done) call).2.records) ∧
      ∀ done rest, calls = done ++ rest →
        ∀ id record, (run (step digests) initial done).records.get? id = some record →
          record.releaseHistory.getLast? = some record.version ∧
            Ancestry (run (step digests) initial done).records id) ↔
      Guarded (step digests) (Appends digests) initial calls := by
  have always : ∀ done rest, calls = done ++ rest →
      ∀ id record, (run (step digests) initial done).records.get? id = some record →
        record.releaseHistory.getLast? = some record.version ∧
          Ancestry (run (step digests) initial done).records id := by
    intro done _ _ id record stored
    have sound := run_sound distinguishing done id record stored
    exact ⟨sound.version, sound.ancestry⟩
  rw [and_iff_left always, ← forall_steps_iff_guarded]
  refine forall_congr' fun done => forall_congr' fun call => forall_congr' fun rest =>
    forall_congr' fun _ => ?_
  exact step_keeps_iff distinguishing _ call (run_sound distinguishing done)

end Runs

section Example

/-- A code of two letters without a colon. -/
def letters (character : Char) : List Char := if character = ':' then ['b', 'b'] else ['a', character]

theorem letters_selfDelimiting : Delimited.SelfDelimiting letters := by
  intro first second rest later same
  unfold letters at same
  by_cases colon : first = ':'
  · by_cases other : second = ':'
    · rw [if_pos colon, if_pos other] at same
      exact ⟨colon.trans other.symm, List.append_cancel_left same⟩
    · simp [if_pos colon, if_neg other] at same
  · by_cases other : second = ':'
    · simp [if_neg colon, if_pos other] at same
    · rw [if_neg colon, if_neg other] at same
      simpa using same

def plainDigests : Digests where
  sha256 := id
  short := fun text => String.ofList (text.toList.flatMap letters ++ ['c'])

theorem plainDigests_distinguishing : Distinguishing plainDigests where
  injective := by
    intro first second same
    have starts (character : Char) : ∃ head tail, letters character = head :: tail ∧ head ≠ 'c' := by
      unfold letters
      by_cases colon : character = ':'
      · exact ⟨'b', ['b'], if_pos colon, by decide⟩
      · exact ⟨'a', [character], if_neg colon, by decide⟩
    have lists := congrArg String.toList same
    simp only [plainDigests, String.toList_ofList] at lists
    exact String.toList_inj.mp
      ((Delimited.selfDelimiting_flatMap letters letters_selfDelimiting 'c' starts).injective lists)
  hexadecimal := by
    intro text member
    simp only [plainDigests, String.toList_ofList, List.mem_append, List.mem_flatMap,
      List.mem_singleton] at member
    obtain ⟨character, _, inside⟩ | colon := member
    · unfold letters at inside
      by_cases colon : character = ':'
      · simp [if_pos colon] at inside
      · simp [if_neg colon] at inside
        exact colon inside.symm
    · exact absurd colon (by decide)

def plainContext (tenantId principalId : String) : TenantContext := ⟨tenantId, "org", principalId, false⟩

/-- The manifest of a small service. -/
def plainManifest : RepositoryManifest where
  name := "ledger"
  domain := "treasury"
  purpose := "Bookkeeping"
  architecture := "layered"
  repositoryType := "service"
  dependencies := []
  apis := []
  rbacScopes := []
  events := []
  observability := []
  tests := ["unit"]
  documentationRequirements := ["README"]
  packageStructure := []
  metadata := []

def plainBlueprint : RepositoryBlueprint := ⟨"blueprint-1", plainManifest, Dict.empty⟩

/-- A call at the first moment. -/
def plainCall (operation : LifecycleOperation) : LifecycleCall :=
  ⟨plainContext "tenant-a" "owner", operation, fun _ => .first⟩

/-- The repository of a small service. -/
def plainId : String := plainManifest.repositoryId plainDigests

/-- The record of the first version. -/
def firstRelease : RepositoryRecord :=
  listed (created plainDigests (fun _ => .first) (plainContext "tenant-a" "owner") plainBlueprint)

theorem firstRelease_read :
    (run (step plainDigests) initial [plainCall (.create plainBlueprint)]).get
      (plainContext "tenant-a" "owner") plainId = .ok firstRelease := by
  have stored : (run (step plainDigests) initial [plainCall (.create plainBlueprint)]).records.get?
      plainId = some firstRelease := Dict.get?_set_self _ _ _
  rw [get, stored]
  rfl

/-- The creation of a repository and the release of its second version. -/
def releasedTwice : List LifecycleCall := [
  plainCall (.create plainBlueprint),
  plainCall (.update (plainManifest.repositoryId plainDigests) plainManifest "1.1.0")]

theorem releasedTwice_eq : run (step plainDigests) initial releasedTwice =
    (update (fun _ => .first) (run (step plainDigests) initial [plainCall (.create plainBlueprint)])
      (plainContext "tenant-a" "owner") plainId plainManifest "1.1.0").2 := by
  rw [releasedTwice, ← List.singleton_append, run_append, run_cons, run_nil]
  generalize run (step plainDigests) initial [plainCall (.create plainBlueprint)] = state
  exact step_update _ _ _

/-- The repository has both versions in its history. -/
theorem releasedTwice_stored :
    ∃ record, (run (step plainDigests) initial releasedTwice).records.get?
        (plainManifest.repositoryId plainDigests) = some record ∧
      record.releaseHistory = ["1.0.0", "1.1.0"] := by
  rw [releasedTwice_eq]
  exact update_stored firstRelease_read rfl plainManifest "1.1.0"

/-- No other repository is stored. -/
theorem releasedTwice_absent {id : String} (other : id ≠ plainId) :
    (run (step plainDigests) initial releasedTwice).records.get? id = none := by
  rw [releasedTwice_eq, update, change_ok firstRelease_read]
  exact (Dict.get?_set_of_ne _ _ other).trans (Dict.get?_set_of_ne _ _ other)

def releasedAndForked : List LifecycleCall :=
  releasedTwice ++ [plainCall (.fork plainId "ledger-2")]

/-- A creation, an update and a fork keep the histories, and the fork has an ancestry. -/
theorem releaseHistory_appendOnly_forked :
    (∀ done call rest, releasedAndForked = done ++ call :: rest →
      KeepsHistory (run (step plainDigests) initial done).records
        (step plainDigests (run (step plainDigests) initial done) call).2.records) ∧
      ∀ done rest, releasedAndForked = done ++ rest →
        ∀ id record, (run (step plainDigests) initial done).records.get? id = some record →
          record.releaseHistory.getLast? = some record.version ∧
            Ancestry (run (step plainDigests) initial done).records id := by
  refine (releaseHistory_appendOnly_iff plainDigests_distinguishing releasedAndForked).mpr ?_
  refine (guarded_append _ _ _ _ _).mpr ⟨⟨?_, trivial, trivial⟩, ?_, trivial⟩
  · intro old stored
    cases stored
  · intro parent read old stored
    have isId : IsId plainDigests plainId := ⟨_, rfl⟩
    have other := repositoryId_ne_derivedId plainDigests_distinguishing plainManifest isId .fork
      "ledger-2"
    rw [releasedTwice_absent other.symm] at stored
    cases stored

/-- A repository that is created again loses its release history. -/
theorem recreated_forgets :
    ¬ KeepsHistory (run (step plainDigests) initial releasedTwice).records
      (step plainDigests (run (step plainDigests) initial releasedTwice)
        (plainCall (.create plainBlueprint))).2.records := by
  intro keeps
  obtain ⟨record, stored, history⟩ := releasedTwice_stored
  have kept := (step_keeps_iff plainDigests_distinguishing _ _
    (run_sound plainDigests_distinguishing releasedTwice)).mp keeps record stored
  rw [history] at kept
  exact absurd kept.1 (by decide)

end Example

end LifecycleState

end AgentFabric.Foundry
