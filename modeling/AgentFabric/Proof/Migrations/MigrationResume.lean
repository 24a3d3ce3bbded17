import AgentFabric.Construction.Migrations.MigrationRunner
import AgentFabric.Proof.Persistence.AtomicUnits

namespace AgentFabric.Migrations
open Persistence Sorting Transition SchemaVersionStore Migration MemoryPersistenceStore

/-- The text of a version determines it. -/
theorem version_text_injective : Function.Injective (toString : Int → String) :=
  fun first second same => Json.int_text_injective first second (congrArg String.toList same)

section Functions

variable {State Circumstance : Type} {store : PersistenceStore State}
  (migration : Migration store Circumstance)

/-- The change of a migration with its validation. -/
def Migration.effect (state : State) : State :=
  match migration.validate with
  | none => migration.apply.effect state
  | some validate => validate.effect (migration.apply.effect state)

theorem Migration.effect_keeps (state : State)
    (key : String) : store.get (migration.effect state) schemaVersions key =
      store.get state schemaVersions key := by
  unfold effect
  split
  · exact migration.apply.keeps state key
  · rename_i validate _
    rw [validate.keeps, migration.apply.keeps]

theorem Migration.effect_blind {first second : State} (apart : Apart store first second) :
    Apart store (migration.effect first) (migration.effect second) := by
  have applied := migration.apply.blind first second apart
  unfold effect
  split
  · exact applied
  · rename_i validate _
    exact validate.blind _ _ applied

/-- The changes of some migrations in their order. -/
def effects (migrations : List (Migration store Circumstance)) (state : State) : State :=
  migrations.foldl (fun state migration => migration.effect state) state

/-- The first migrations of a list are marked and have changed the contents, and no other version is
marked. -/
structure Progress (migrations : List (Migration store Circumstance)) (initial state : State)
    (count : Nat) : Prop where
  within : count ≤ migrations.length
  marked : ∀ migration ∈ migrations.take count, ∃ time row,
    store.get state schemaVersions (toString migration.version) = some row ∧
      row.Same (versionRow migration.version migration.name time)
  unmarked : ∀ key, (∀ migration ∈ migrations.take count, toString migration.version ≠ key) →
    store.get state schemaVersions key = none
  contents : Apart store state (effects (migrations.take count) initial)

/-- A store without version metadata has made no progress. -/
theorem Progress.zero (lawful : store.Lawful) (migrations : List (Migration store Circumstance))
    {initial : State} (fresh : store.list initial schemaVersions = []) :
    Progress migrations initial initial 0 where
  within := Nat.zero_le _
  marked := fun _ member => absurd member List.not_mem_nil
  unmarked := by
    intro key _
    obtain ⟨rows, listed, _, exact⟩ := lawful.list_rows initial schemaVersions
    cases found : store.get initial schemaVersions key with
    | none => rfl
    | some value =>
        have member : (key, value) ∈ rows := (exact (key, value)).mpr found
        rw [fresh, eq_comm, List.map_eq_nil_iff] at listed
        rw [listed] at member
        cases member
  contents := fun _ _ _ => rfl

variable {migrations : List (Migration store Circumstance)} {count : Nat}

/-- The mark of the next migration after its change is one more step of progress. -/
theorem Progress.next (lawful : store.Lawful)
    (distinct : (migrations.map version).Nodup) {initial state next : State}
    (progress : Progress migrations initial state count) {migration : Migration store Circumstance}
    {rest : List (Migration store Circumstance)} (split : migrations.drop count = migration :: rest)
    {time : UtcTime} (marked : markApplied store (migration.effect state) migration.version
      migration.name time = .ok next) :
    Progress migrations initial next (count + 1) := by
  have inside : count < migrations.length := by
    by_contra above
    rw [List.drop_eq_nil_of_le (Nat.le_of_not_lt above)] at split
    cases split
  have here : migrations[count] = migration := by
    have head := congrArg List.head? split
    rw [List.head?_drop, List.head?_cons, List.getElem?_eq_getElem inside] at head
    exact Option.some.inj head
  have longer : migrations.take (count + 1) = migrations.take count ++ [migration] := by
    rw [List.take_succ_eq_append_getElem inside, here]
  have other (earlier : Migration store Circumstance) (member : earlier ∈ migrations.take count) :
      toString earlier.version ≠ toString migration.version := by
    intro same
    have versions := distinct.sublist ((List.take_sublist (count + 1) migrations).map version)
    rw [longer, List.map_append, List.nodup_append] at versions
    exact versions.2.2 _ (List.mem_map_of_mem member) _ (List.mem_map_of_mem (.head _))
      (version_text_injective same)
  have unchanged (key : String) (different : toString migration.version ≠ key) :
      store.get next schemaVersions key = store.get state schemaVersions key := by
    rw [lawful.get_put_of_ne _ _ _ _ _ schemaVersions key marked
      (fun equal => different (Prod.mk.inj equal).2.symm), migration.effect_keeps]
  constructor
  · exact inside
  · intro applied member
    rw [longer, List.mem_append, List.mem_singleton] at member
    rcases member with earlier | rfl
    · obtain ⟨then', row, present, same⟩ := progress.marked applied earlier
      exact ⟨then', row, (unchanged _ (other applied earlier).symm).trans present, same⟩
    · obtain ⟨row, present, same⟩ := lawful.get_put_self _ _ _ _ _ marked
      exact ⟨time, row, present, same⟩
  · intro key absent
    rw [longer] at absent
    have last := absent migration (List.mem_append_right _ (.head _))
    rw [unchanged key last]
    exact progress.unmarked key fun applied member => absent applied (List.mem_append_left _ member)
  · intro collection key different
    rw [longer, effects, List.foldl_append,
      lawful.get_put_of_ne _ _ _ _ _ collection key marked
        (fun equal => different (Prod.mk.inj equal).1)]
    exact migration.effect_blind progress.contents collection key different

variable (interpreter : Interpreter)

/-- A version row tells its version. -/
theorem version_of_row {row : Json} {version : Int} {name : String} {time : UtcTime}
    (same : row.Same (versionRow version name time)) :
    (do interpreter.int (← Interpreter.subscript row "version")) = .ok version := by
  have written : (versionRow version name time).field? "version" = some (.int version) := rfl
  have field := Json.field?_of_same same written trivial
  cases row with
  | obj fields =>
      rw [Interpreter.subscript, field]
      rfl
  | _ => cases field

variable {initial state : State}

/-- The applied versions are those of the first migrations. -/
theorem Progress.appliedVersions (lawful : store.Lawful) (distinct : (migrations.map version).Nodup)
    (progress : Progress migrations initial state count) :
    ∃ versions, appliedVersions store interpreter state = .ok versions ∧
      versions.Perm ((migrations.take count).map version) := by
  obtain ⟨rows, listed, increasing, exact⟩ := lawful.list_rows state schemaVersions
  have known (row : String × Json) (member : row ∈ rows) :
      ∃ migration ∈ migrations.take count, toString migration.version = row.1 ∧
        (do interpreter.int (← Interpreter.subscript row.2 "version")) = .ok migration.version := by
    have present : store.get state schemaVersions row.1 = some row.2 := (exact row).mp member
    by_cases absent : ∀ migration ∈ migrations.take count, toString migration.version ≠ row.1
    · rw [progress.unmarked row.1 absent] at present
      cases present
    · push Not at absent
      obtain ⟨migration, applied, own⟩ := absent
      obtain ⟨time, stored, found, same⟩ := progress.marked migration applied
      rw [own, present] at found
      obtain rfl := Option.some.inj found
      exact ⟨migration, applied, own, version_of_row interpreter same⟩
  have read : ∀ part : List (String × Json), (∀ row ∈ part, row ∈ rows) → ∃ versions : List Int,
      ((part.map Prod.snd).mapM fun item => do
        interpreter.int (← Interpreter.subscript item "version")) = Except.ok versions ∧
      versions.map toString = part.map Prod.fst := by
    intro part
    induction part with
    | nil => exact fun _ => ⟨[], rfl, rfl⟩
    | cons row rest ih =>
        intro inside
        obtain ⟨migration, _, own, version⟩ := known row (inside row (.head _))
        obtain ⟨versions, later, keys⟩ := ih fun next member => inside next (.tail _ member)
        refine ⟨migration.version :: versions, ?_, by rw [List.map_cons, List.map_cons, own, keys]⟩
        rw [List.map_cons, List.mapM_cons, version, later]
        rfl
  obtain ⟨versions, answer, keys⟩ := read rows fun _ member => member
  refine ⟨versions, by rw [SchemaVersionStore.appliedVersions, listed]; exact answer, ?_⟩
  have nodup : (versions.map toString).Nodup := by
    rw [keys]
    exact increasing.imp ne_of_lt
  rw [List.perm_ext_iff_of_nodup nodup.of_map
    (distinct.sublist ((List.take_sublist count migrations).map version))]
  intro version
  have named : version ∈ versions ↔ toString version ∈ rows.map Prod.fst := by
    rw [← keys]
    exact (List.mem_map_of_injective version_text_injective).symm
  rw [named, List.mem_map, List.mem_map]
  constructor
  · rintro ⟨row, member, own⟩
    obtain ⟨migration, applied, same, _⟩ := known row member
    exact ⟨migration, applied, version_text_injective (same.trans own)⟩
  · rintro ⟨migration, applied, rfl⟩
    obtain ⟨time, row, present, _⟩ := progress.marked migration applied
    exact ⟨(toString migration.version, row), (exact _).mpr present, rfl⟩

/-- The migrations that are left are those after the marked ones. -/
theorem Progress.pending (lawful : store.Lawful) (distinct : (migrations.map version).Nodup)
    (progress : Progress migrations initial state count) :
    ∃ versions, SchemaVersionStore.appliedVersions store interpreter state = .ok versions ∧
      migrations.filter (fun migration => migration.version ∉ versions) = migrations.drop count := by
  obtain ⟨versions, answer, same⟩ := progress.appliedVersions interpreter lawful distinct
  refine ⟨versions, answer, ?_⟩
  have apart := distinct
  rw [← List.take_append_drop count migrations, List.map_append, List.nodup_append] at apart
  have done : (migrations.take count).filter (fun migration => migration.version ∉ versions) = [] := by
    rw [List.filter_eq_nil_iff]
    intro migration member
    have applied : migration.version ∈ versions := same.mem_iff.mpr (List.mem_map_of_mem member)
    simp [applied]
  have left : (migrations.drop count).filter (fun migration => migration.version ∉ versions) =
      migrations.drop count := by
    rw [List.filter_eq_self]
    intro migration member
    have missing : migration.version ∉ versions := fun applied =>
      apart.2.2 _ (same.mem_iff.mp applied) _ (List.mem_map_of_mem member) rfl
    simp [missing]
  calc migrations.filter (fun migration => migration.version ∉ versions)
      = (migrations.take count ++ migrations.drop count).filter
          (fun migration => migration.version ∉ versions) := by rw [List.take_append_drop]
    _ = migrations.drop count := by rw [List.filter_append, done, left, List.nil_append]

end Functions

namespace MigrationRunner

variable {backend : Backend} {Circumstance : Type} {call : ApplyCall Circumstance}
  {state : backend.State}

/-- An attempt that returns has made the change of its migration and has written its mark. -/
theorem attempt_returns {migration : Migration backend.store.toPersistenceStore Circumstance}
    (returned : (attempt migration call state).1 = none) :
    markApplied backend.store.toPersistenceStore (migration.effect state) migration.version
      migration.name (call.utcNow migration.version) = .ok (attempt migration call state).2 := by
  have marks (changed : backend.State) (answered : (mark migration call changed).1 = none) :
      markApplied backend.store.toPersistenceStore changed migration.version migration.name
        (call.utcNow migration.version) = .ok (mark migration call changed).2 := by
    unfold mark at answered ⊢
    split at answered <;> rename_i written
    · cases answered
    · rw [written]
  unfold attempt at returned ⊢
  have applied := migration.apply.returns (call.circumstance migration.version) state
  split at returned
  · cases returned
  · rename_i migrated ran
    rw [ran] at applied
    obtain rfl := applied rfl
    unfold effect
    split at returned <;> rename_i validation
    · rw [validation]
      exact marks _ returned
    · rename_i validate
      have validated := validate.returns (call.circumstance migration.version)
        (migration.apply.effect state)
      split at returned
      · cases returned
      · rename_i last checked
        rw [checked] at validated
        obtain rfl := validated rfl
        rw [validation]
        exact marks _ returned

variable {migrations : List (Migration backend.store.toPersistenceStore Circumstance)}
  {initial : backend.State}

/-- A dry loop changes nothing. -/
theorem applyPending_dry (dry : call.dryRun = true)
    (rest : List (Migration backend.store.toPersistenceStore Circumstance)) (state : backend.State) :
    applyPending call rest state = (.ok [], state) := by
  induction rest with
  | nil => rfl
  | cons migration rest ih => rw [applyPending, if_pos dry, ih]

/-- The loop over the migrations that are left only adds progress, and it ends with all of them when it
returns from a call that is not dry. -/
theorem applyPending_progress (transactional : backend ≠ .json)
    (distinct : (migrations.map version).Nodup) (call : ApplyCall Circumstance)
    (rest : List (Migration backend.store.toPersistenceStore Circumstance))
    {count : Nat} (progress : Progress migrations initial state count)
    (left : migrations.drop count = rest) :
    ∃ later, Progress migrations initial (applyPending call rest state).2 later ∧
      (call.dryRun = false → ∀ applied, (applyPending call rest state).1 = .ok applied →
        later = migrations.length) := by
  induction rest generalizing state count with
  | nil =>
      refine ⟨count, progress, fun _ _ _ => ?_⟩
      exact le_antisymm progress.within (List.drop_eq_nil_iff.mp left)
  | cons migration rest ih =>
      have lawful := (Backend.store_lawful backend).toPersistenceStore
      rw [applyPending]
      by_cases dry : call.dryRun = true
      · rw [if_pos dry]
        exact ⟨count, by rw [applyPending_dry dry]; exact progress, fun live => by simp [dry] at live⟩
      · rw [if_neg dry, UnitOfWork.inUnit_eq transactional]
        cases answered : (attempt migration call state).1 with
        | some error => exact ⟨count, progress, fun _ _ answer => by cases answer⟩
        | none =>
            have stepped := progress.next lawful distinct left (attempt_returns answered)
            have shorter : migrations.drop (count + 1) = rest := by
              rw [← List.drop_drop, left, List.drop_succ_cons, List.drop_zero]
            obtain ⟨later, reached, all⟩ := ih stepped shorter
            refine ⟨later, reached, fun live applied answer => ?_⟩
            simp only [Option.isSome_none, Bool.false_eq_true, if_false] at answer
            cases tail : (applyPending call rest (attempt migration call state).2).1 with
            | error failure =>
                rw [tail] at answer
                cases answer
            | ok versions => exact all live versions tail

variable (interpreter : Interpreter)

/-- An `apply` only adds progress, and one that returns and is not dry ends with all migrations. -/
theorem apply_progress (transactional : backend ≠ .json)
    (distinct : (migrations.map version).Nodup) {count : Nat}
    (progress : Progress migrations initial state count) (call : ApplyCall Circumstance) :
    ∃ later, Progress migrations initial (apply interpreter migrations state call).2 later ∧
      (call.dryRun = false → ∀ report, (apply interpreter migrations state call).1 = .ok report →
        later = migrations.length) := by
  have lawful := (Backend.store_lawful backend).toPersistenceStore
  obtain ⟨versions, applied, left⟩ := progress.pending interpreter lawful distinct
  have waiting : pending interpreter migrations state = .ok (migrations.drop count) := by
    rw [pending, applied, ← left]
    rfl
  obtain ⟨later, reached, all⟩ := applyPending_progress transactional distinct call
    (migrations.drop count) progress rfl
  rw [apply, waiting]
  dsimp only
  generalize applyPending call (migrations.drop count) state = outcome at reached all ⊢
  obtain ⟨answer, next⟩ := outcome
  cases answer with
  | error failure => exact ⟨later, reached, fun _ _ answered => by cases answered⟩
  | ok versions =>
      dsimp only
      split
      · exact ⟨later, reached, fun _ _ answered => by cases answered⟩
      · exact ⟨later, reached, fun live _ _ => all live versions rfl⟩

/-- Every run of calls only adds progress. -/
theorem run_progress (transactional : backend ≠ .json) (distinct : (migrations.map version).Nodup)
    (started : ∃ count, Progress migrations initial state count)
    (calls : List (ApplyCall Circumstance)) :
    ∃ count, Progress migrations initial (run (apply interpreter migrations) state calls) count := by
  apply run_invariant (apply interpreter migrations)
    (fun state => ∃ count, Progress migrations initial state count) _ state calls started
  rintro state call ⟨count, progress⟩
  obtain ⟨later, reached, _⟩ := apply_progress interpreter transactional distinct progress call
  exact ⟨later, reached⟩

end MigrationRunner

section Contents

variable {State Circumstance : Type} (store : PersistenceStore State)

/-- Two version rows differ at most in the time of their application. -/
def SameVersion (first second : Json) : Prop :=
  ∃ version name time other, first.Same (versionRow version name time) ∧
    second.Same (versionRow version name other)

/-- Two stores have the same contents apart from the times of the applications. -/
def SameContents (first second : State) : Prop :=
  Apart store first second ∧ ∀ key, Option.Rel SameVersion
    (store.get first schemaVersions key) (store.get second schemaVersions key)

variable {store} {migrations : List (Migration store Circumstance)} {initial first second : State}
  {count : Nat}

/-- Equal progress leaves the same contents. -/
theorem Progress.sameContents (one : Progress migrations initial first count)
    (two : Progress migrations initial second count) : SameContents store first second := by
  constructor
  · intro collection key different
    rw [one.contents collection key different, two.contents collection key different]
  · intro key
    by_cases absent : ∀ migration ∈ migrations.take count, toString migration.version ≠ key
    · rw [one.unmarked key absent, two.unmarked key absent]
      exact .none
    · push Not at absent
      obtain ⟨migration, applied, rfl⟩ := absent
      obtain ⟨time, row, present, same⟩ := one.marked migration applied
      obtain ⟨other, otherRow, otherPresent, otherSame⟩ := two.marked migration applied
      rw [present, otherPresent]
      exact .some ⟨migration.version, migration.name, time, other, same, otherSame⟩

end Contents

/-- The current version is the largest of the applied ones. -/
theorem currentVersion_largest {State : Type} {store : PersistenceStore State}
    {interpreter : Interpreter} {state : State} {versions : List Int}
    (applied : appliedVersions store interpreter state = .ok versions) :
    ∃ current, currentVersion store interpreter state = .ok current ∧
      (current ∈ versions ∨ versions = [] ∧ current = 0) ∧ ∀ version ∈ versions, version ≤ current := by
  refine ⟨versions.max?.getD 0, by rw [currentVersion, applied]; rfl, ?_⟩
  cases largest : versions.max? with
  | none =>
      rw [List.max?_eq_none_iff] at largest
      subst largest
      exact ⟨.inr ⟨rfl, rfl⟩, fun _ member => absurd member List.not_mem_nil⟩
  | some current =>
      obtain ⟨member, above⟩ := List.max?_eq_some_iff.mp largest
      exact ⟨.inl member, above⟩

/-- After any calls of a runner over a store without version metadata, the applied versions are those
of the first sorted migrations, exactly these migrations have changed the contents, each once, the
current version is the largest applied one, and a run that has got through all migrations has left the
contents of one call without a failure. -/
theorem migrationRun_resumes {Circumstance : Type} (interpreter : Interpreter) (backend : Backend)
    (transactional : backend = .memory ∨ backend = .sqlite)
    (builtIn migrations : List (Migration backend.store.toPersistenceStore Circumstance))
    (nonempty : migrations ≠ []) (distinct : (migrations.map version).Nodup)
    (initial : backend.State) (fresh : backend.store.list initial schemaVersions = [])
    (calls : List (ApplyCall Circumstance)) :
    let runner := MigrationRunner.new builtIn migrations
    let reached := run (MigrationRunner.apply interpreter runner) initial calls
    ∃ count versions current, count ≤ migrations.length ∧
      appliedVersions backend.store.toPersistenceStore interpreter reached = .ok versions ∧
      versions.Perm (((sortedBy version migrations).take count).map version) ∧
      Apart backend.store.toPersistenceStore reached
        (effects ((sortedBy version migrations).take count) initial) ∧
      currentVersion backend.store.toPersistenceStore interpreter reached = .ok current ∧
      (current ∈ versions ∨ versions = [] ∧ current = 0) ∧
      (∀ version ∈ versions, version ≤ current) ∧
      (count = migrations.length → ∀ call report, call.dryRun = false →
        (MigrationRunner.apply interpreter runner initial call).1 = .ok report →
          SameContents backend.store.toPersistenceStore reached
            (MigrationRunner.apply interpreter runner initial call).2) := by
  intro runner reached
  have sorted : runner = sortedBy version migrations := by
    show sortedBy _ (if migrations.isEmpty then builtIn else migrations) = _
    rw [if_neg (by simpa using nonempty)]
  have durable : backend ≠ .json := by rcases transactional with rfl | rfl <;> simp
  have lawful := (Backend.store_lawful backend).toPersistenceStore
  have unique : (runner.map version).Nodup := by
    rw [sorted]
    exact ((sortedBy_perm version migrations).map _).nodup_iff.mpr distinct
  have size : runner.length = migrations.length := by rw [sorted, length_sortedBy]
  have start : Progress runner initial initial 0 := Progress.zero lawful runner fresh
  obtain ⟨count, progress⟩ := MigrationRunner.run_progress interpreter durable unique ⟨0, start⟩ calls
  obtain ⟨versions, applied, same⟩ := progress.appliedVersions interpreter lawful unique
  obtain ⟨current, answer, member, above⟩ := currentVersion_largest applied
  have within := progress.within
  have contents := progress.contents
  refine ⟨count, versions, current, size ▸ within, applied, sorted ▸ same, sorted ▸ contents, answer,
    member, above, ?_⟩
  intro full call report live returned
  obtain ⟨later, once, all⟩ := MigrationRunner.apply_progress interpreter durable unique start call
  have complete : later = count := by rw [all live report returned, size, full]
  exact progress.sameContents (complete ▸ once)

/-- A function that notes its name and raises under one of two circumstances. -/
def noteFn (name : String) : MigrationFn documentStore.toPersistenceStore Bool where
  call := fun raises state =>
    (if raises then some (.valueError "interrupted") else none, state.put "notes" name (.obj []))
  effect := fun state => state.put "notes" name (.obj [])
  returns := fun _ _ _ => rfl
  keeps := by
    intro state key
    show (state.put "notes" name (.obj [])).get schemaVersions key = state.get schemaVersions key
    rw [get_put, if_neg (by simp [schemaVersions])]
  blind := by
    intro first second apart collection key other
    show (first.put "notes" name (.obj [])).get collection key =
      (second.put "notes" name (.obj [])).get collection key
    rw [get_put, get_put]
    split
    · rfl
    · exact apart collection key other

def noteMigration (version : Int) (name : String) :
    Migration Backend.memory.store.toPersistenceStore Bool := ⟨version, name, noteFn name, none⟩

/-- The functions of an interpreter that migrations of documents do not use. -/
def plainInterpreter : Interpreter := ⟨fun _ => true, fun _ => 0, fun _ => true⟩

def twoNotes : List (Migration Backend.memory.store.toPersistenceStore Bool) :=
  MigrationRunner.new [] [noteMigration 2 "second", noteMigration 1 "first"]

/-- A call whose second migration raises, or none of them. -/
def noteCall (raises : Bool) : ApplyCall Bool :=
  ⟨false, fun version => raises && version = 2, fun _ => .first, fun _ => none⟩

def resumed : Backend.memory.State :=
  run (MigrationRunner.apply plainInterpreter twoNotes) MemoryPersistenceStore.initial
    [noteCall true, noteCall false]

/-- Two migrations whose second one raises at first and then returns. -/
theorem migrationRun_resumes_two :
    ∃ count versions current, count ≤ 2 ∧
      appliedVersions Backend.memory.store.toPersistenceStore plainInterpreter resumed =
        .ok versions ∧
      versions.Perm ([1, 2].take count) ∧
      Apart Backend.memory.store.toPersistenceStore resumed
        (effects ([noteMigration 1 "first", noteMigration 2 "second"].take count)
          MemoryPersistenceStore.initial) ∧
      currentVersion Backend.memory.store.toPersistenceStore plainInterpreter resumed =
        .ok current ∧
      (current ∈ versions ∨ versions = [] ∧ current = 0) ∧
      (count = 2 → ∀ report,
        (MigrationRunner.apply plainInterpreter twoNotes MemoryPersistenceStore.initial
          (noteCall false)).1 = .ok report →
        SameContents Backend.memory.store.toPersistenceStore resumed
          (MigrationRunner.apply plainInterpreter twoNotes MemoryPersistenceStore.initial
            (noteCall false)).2) := by
  obtain ⟨count, versions, current, within, applied, same, contents, latest, member, _, once⟩ :=
    migrationRun_resumes plainInterpreter .memory (.inl rfl) []
      [noteMigration 2 "second", noteMigration 1 "first"] (by simp) (by decide)
      MemoryPersistenceStore.initial rfl [noteCall true, noteCall false]
  rw [List.map_take] at same
  exact ⟨count, versions, current, within, applied, same, contents, latest, member,
    fun all report => once all (noteCall false) report rfl⟩

end AgentFabric.Migrations
