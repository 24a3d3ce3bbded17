import AgentFabric.Construction.Persistence.DocumentStore
import AgentFabric.Foundation.PyCoercion
import AgentFabric.Foundation.Transition

namespace AgentFabric.Migrations
open Persistence Sorting Transition

/-- The collection of the version metadata. -/
def schemaVersions : String := "_schema_versions"

section Functions

variable {State : Type} (store : PersistenceStore State)

/-- Two states of a store hold the same documents outside the version metadata. -/
def Apart (first second : State) : Prop :=
  ∀ collection key, collection ≠ schemaVersions →
    store.get first collection key = store.get second collection key

/-- A function of the store may raise under some circumstances and leave any contents then.
When it returns, it has changed the contents by its effect. It does not touch the version metadata:
it keeps them, and its effect on the other documents does not depend on them. On SQLite it opens no
unit of work of its own. -/
structure MigrationFn (Circumstance : Type) where
  call : Circumstance → State → Option PyError × State
  effect : State → State
  returns : ∀ circumstance state, (call circumstance state).1 = none →
    (call circumstance state).2 = effect state
  keeps : ∀ state key, store.get (effect state) schemaVersions key = store.get state schemaVersions key
  blind : ∀ first second, Apart store first second → Apart store (effect first) (effect second)

structure Migration (Circumstance : Type) where
  version : Int
  name : String
  apply : MigrationFn store Circumstance
  validate : Option (MigrationFn store Circumstance)

namespace SchemaVersionStore

variable (interpreter : Interpreter) (state : State)

def appliedVersions : Except PyError (List Int) :=
  (store.list state schemaVersions).mapM fun item => do
    interpreter.int (← Interpreter.subscript item "version")

def currentVersion : Except PyError Int := do
  let versions ← appliedVersions store interpreter state
  .ok (versions.max?.getD 0)

/-- The document of an applied version. -/
def versionRow (version : Int) (name : String) (appliedAt : UtcTime) : Json := .obj [
  ("version", .int version), ("name", .str name), ("applied_at", .str appliedAt.isoformat)]

def markApplied (version : Int) (name : String) (appliedAt : UtcTime) : Except PyError State :=
  store.put state schemaVersions (toString version) (versionRow version name appliedAt)

end SchemaVersionStore

end Functions

/-- The arguments of one `apply` with what it meets for each version: the circumstances of its
functions, the clock and an exception of the write or the commit of its mark. -/
structure ApplyCall (Circumstance : Type) where
  dryRun : Bool
  circumstance : Int → Circumstance
  utcNow : Int → UtcTime
  fault : Int → Option PyError

/-- An `apply` raises RuntimeError with the version and the exception of a migration, or the
exception of the store. -/
inductive RunnerError where
  | failedClosed (version : Int) (exception : PyError)
  | store (exception : PyError)

structure RunnerReport where
  status : String := "ok"
  currentVersion : Int
  applied : List Int
  dryRun : Bool

namespace MigrationRunner

variable {backend : Backend} {Circumstance : Type} (interpreter : Interpreter)

/-- A new runner sorts its migrations, or the built-in ones without any. -/
def new (builtIn migrations : List (Migration backend.store.toPersistenceStore Circumstance)) :
    List (Migration backend.store.toPersistenceStore Circumstance) :=
  sortedBy Migration.version (if migrations.isEmpty then builtIn else migrations)

variable (migrations : List (Migration backend.store.toPersistenceStore Circumstance))
  (state : backend.State)

def pending : Except PyError (List (Migration backend.store.toPersistenceStore Circumstance)) := do
  let applied ← SchemaVersionStore.appliedVersions backend.store.toPersistenceStore interpreter state
  .ok (migrations.filter fun migration => migration.version ∉ applied)

variable (migration : Migration backend.store.toPersistenceStore Circumstance)

/-- The mark of a version, which the backend may refuse. -/
def mark (call : ApplyCall Circumstance) (state : backend.State) : Option PyError × backend.State :=
  match SchemaVersionStore.markApplied backend.store.toPersistenceStore state migration.version
      migration.name (call.utcNow migration.version) with
  | .error exception => (some exception, state)
  | .ok next => (call.fault migration.version, next)

/-- A migration, its validation and its mark, until one of them raises. -/
def attempt
    (call : ApplyCall Circumstance) (state : backend.State) : Option PyError × backend.State :=
  match migration.apply.call (call.circumstance migration.version) state with
  | (some exception, next) => (some exception, next)
  | (none, migrated) =>
      match migration.validate with
      | none => mark migration call migrated
      | some validate =>
          match validate.call (call.circumstance migration.version) migrated with
          | (some exception, next) => (some exception, next)
          | (none, validated) => mark migration call validated

/-- The loop stops at the first migration that fails. -/
def applyPending (call : ApplyCall Circumstance) :
    List (Migration backend.store.toPersistenceStore Circumstance) → backend.State →
      Except RunnerError (List Int) × backend.State
  | [], state => (.ok [], state)
  | migration :: rest, state =>
      if call.dryRun then applyPending call rest state
      else
        match UnitOfWork.inUnit backend (attempt migration call) state with
        | (some exception, next) => (.error (.failedClosed migration.version exception), next)
        | (none, next) =>
            let (answer, last) := applyPending call rest next
            (answer.map fun applied => migration.version :: applied, last)

def apply (call : ApplyCall Circumstance) : Except RunnerError RunnerReport × backend.State :=
  match pending interpreter migrations state with
  | .error exception => (.error (.store exception), state)
  | .ok migrations =>
      match applyPending call migrations state with
      | (.error failure, next) => (.error failure, next)
      | (.ok applied, next) =>
          match SchemaVersionStore.currentVersion backend.store.toPersistenceStore interpreter next with
          | .error exception => (.error (.store exception), next)
          | .ok currentVersion => (.ok { currentVersion, applied, dryRun := call.dryRun }, next)

end MigrationRunner

end AgentFabric.Migrations
