import AgentFabric.Construction.Persistence.Store

namespace AgentFabric.Persistence
open Sorting

/-- The collections of a JSON file. -/
abbrev JsonData := Dict String (Dict String Json)

variable (data : JsonData)

/-- A missing collection is an empty collection. -/
def JsonData.documents (collection : String) : Dict String Json :=
  data.getD collection Dict.empty

/-- Every document lists its keys in order, as `json.dump` with `sort_keys` writes it. -/
def JsonData.Canonical : Prop :=
  ∀ collection key document, (data.documents collection).get? key = some document →
    document.sortKeys = document

/-- The JSON store keeps the document that its file holds, once the file exists. -/
structure JsonPersistenceStore where
  file : Option JsonData
  canonical : ∀ data, file = some data → data.Canonical

/-- The document that `json.loads` reads from the text of `json.dump` with `sort_keys`. -/
def JsonData.dumped : JsonData :=
  (data.mapValues fun documents => (documents.mapValues Json.sortKeys).sorted).sorted

theorem JsonData.documents_dumped (collection key : String) :
    (data.dumped.documents collection).get? key =
      ((data.documents collection).get? key).map Json.sortKeys := by
  rw [documents, documents, dumped, Dict.getD, Dict.get?_sorted, Dict.get?_mapValues, Dict.getD]
  cases data.get? collection with
  | none => rfl
  | some stored =>
      show (Dict.sorted _).get? key = _
      rw [Dict.get?_sorted, Dict.get?_mapValues]
      rfl

theorem JsonData.dumped_canonical : data.dumped.Canonical := by
  intro collection key document present
  rw [JsonData.documents_dumped] at present
  obtain ⟨stored, -, rfl⟩ := Option.map_eq_some_iff.mp present
  exact Json.sortKeys_sortKeys stored

namespace JsonPersistenceStore

/-- The store starts without a file. -/
def initial : JsonPersistenceStore := ⟨none, fun _ absent => nomatch absent⟩

variable (store : JsonPersistenceStore)

/-- A missing file is written with an empty `_meta` collection before it is read. -/
def read : JsonData :=
  store.file.getD (Dict.empty.set "_meta" Dict.empty)

/-- The new file replaces the old one. -/
def write (data : JsonData) : JsonPersistenceStore where
  file := some data.dumped
  canonical := by
    rintro _ ⟨⟩
    exact data.dumped_canonical

variable (collection key : String)

def put (value : Json) : JsonPersistenceStore :=
  write (store.read.set collection ((store.read.documents collection).set key value))

def get : Option Json :=
  (store.read.documents collection).get? key

/-- A deletion of a missing key writes nothing. -/
def delete : Bool × JsonPersistenceStore :=
  if (store.get collection key).isSome then
    (true, write (store.read.set collection ((store.read.documents collection).erase key)))
  else (false, store)

def list (collection : String) : List Json :=
  (sortedBy Prod.fst (store.read.documents collection).items).map Prod.snd

def keys (collection : String) : List String :=
  sortedBy id ((store.read.documents collection).items.map Prod.fst)

theorem read_canonical : store.read.Canonical := by
  unfold read
  cases present : store.file with
  | some data => exact store.canonical data present
  | none =>
      intro collection key document found
      have empty : (JsonData.documents (Dict.empty.set "_meta" Dict.empty) collection).get? key =
          none := by
        rw [JsonData.documents, Dict.getD_set]
        split <;> rfl
      cases empty.symm.trans found

theorem sortKeys_get : (store.get collection key).map Json.sortKeys = store.get collection key := by
  cases present : store.get collection key with
  | none => rfl
  | some document =>
      exact congrArg some (store.read_canonical collection key document present)

/-- A store that was just written answers with the sorted documents. -/
theorem get_write (data : JsonData) (collection key : String) :
    (write data).get collection key = ((data.documents collection).get? key).map Json.sortKeys :=
  data.documents_dumped collection key

theorem get_put (collection key otherCollection other : String) (value : Json) :
    (store.put collection key value).get otherCollection other =
      if otherCollection = collection ∧ other = key then some value.sortKeys
      else store.get otherCollection other := by
  rw [put, get_write, JsonData.documents, Dict.getD_set]
  by_cases same : otherCollection = collection
  · subst same
    rw [if_pos rfl, Dict.get?_set]
    by_cases hit : other = key
    · rw [if_pos hit, if_pos ⟨rfl, hit⟩]
      rfl
    · rw [if_neg hit, if_neg fun both => hit both.2]
      exact store.sortKeys_get otherCollection other
  · rw [if_neg same, if_neg fun both => same both.1]
    exact store.sortKeys_get otherCollection other

theorem get_delete (collection key otherCollection other : String) :
    (store.delete collection key).2.get otherCollection other =
      if otherCollection = collection ∧ other = key then none
      else store.get otherCollection other := by
  unfold delete
  split
  · show (write _).get otherCollection other = _
    rw [get_write, JsonData.documents, Dict.getD_set]
    by_cases same : otherCollection = collection
    · subst same
      rw [if_pos rfl, Dict.get?_erase]
      by_cases hit : other = key
      · rw [if_pos hit, if_pos ⟨rfl, hit⟩]
        rfl
      · rw [if_neg hit, if_neg fun both => hit both.2]
        exact store.sortKeys_get otherCollection other
    · rw [if_neg same, if_neg fun both => same both.1]
      exact store.sortKeys_get otherCollection other
  · rename_i absent
    rw [Bool.not_eq_true, Option.isSome_eq_false_iff, Option.isNone_iff_eq_none] at absent
    split
    · rename_i both
      rw [both.1, both.2]
      exact absent
    · rfl

end JsonPersistenceStore

/-- A persistence backend that also deletes documents. -/
structure DocumentStore (State : Type) extends KeyedStore State where
  delete : State → String → String → Bool × State

/-- A deletion tells whether the key was there and removes only its document. -/
structure DocumentStore.Lawful {State : Type} (store : DocumentStore State) : Prop where
  toPersistenceStore : store.toPersistenceStore.Lawful
  keys_rows : ∀ state collection, ∃ rows : List (String × Json),
    store.list state collection = rows.map Prod.snd ∧
    store.keys state collection = rows.map Prod.fst ∧
    (rows.map Prod.fst).Pairwise (· < ·) ∧
    ∀ row, row ∈ rows ↔ store.Row state collection row
  delete_found : ∀ state collection key,
    (store.delete state collection key).1 = (store.get state collection key).isSome
  get_delete : ∀ state collection key otherCollection other,
    store.get (store.delete state collection key).2 otherCollection other =
      if otherCollection = collection ∧ other = key then none
      else store.get state otherCollection other

/-- The keys of sorted items are the sorted keys of the items. -/
theorem sortedBy_keys (items : List (String × Json)) :
    sortedBy id (items.map Prod.fst) = (sortedBy Prod.fst items).map Prod.fst :=
  (map_sortedBy Prod.fst id Prod.fst items fun _ _ => rfl).symm

/-- The sorted items of a dict are the rows that its lookups answer. -/
theorem dict_rows (documents : Dict String Json) :
    ((sortedBy Prod.fst documents.items).map Prod.fst).Pairwise (· < ·) ∧
      ∀ row, row ∈ sortedBy Prod.fst documents.items ↔ documents.get? row.1 = some row.2 := by
  refine ⟨sortedBy_keys_increase _ documents.distinct, ?_⟩
  intro row
  rw [mem_sortedBy]
  exact (documents.get?_eq_some_iff row.1 row.2).symm

namespace MemoryPersistenceStore

variable (store : MemoryPersistenceStore)

def delete (collection key : String) : Bool × MemoryPersistenceStore :=
  if (store.get collection key).isSome then
    (true, ⟨store.data.set collection ((store.documents collection).erase key)⟩)
  else (false, store)

theorem get_delete (collection key otherCollection other : String) :
    (store.delete collection key).2.get otherCollection other =
      if otherCollection = collection ∧ other = key then none
      else store.get otherCollection other := by
  unfold delete
  split
  · simp only [get, documents, Dict.getD_set]
    by_cases same : otherCollection = collection
    · subst same
      simp only [if_true, Dict.get?_erase, true_and]
    · simp [same]
  · rename_i absent
    rw [Bool.not_eq_true, Option.isSome_eq_false_iff, Option.isNone_iff_eq_none] at absent
    split
    · rename_i both
      rw [both.1, both.2]
      exact absent
    · rfl

/-- The in-memory store with its deletion. -/
def documentStore : DocumentStore MemoryPersistenceStore := { keyed with delete := delete }

theorem documentStore_lawful : documentStore.Lawful where
  toPersistenceStore := backend_lawful
  keys_rows := fun state collection =>
    ⟨sortedBy Prod.fst (state.documents collection).items, rfl, sortedBy_keys _, dict_rows _⟩
  delete_found := by
    intro state collection key
    show (state.delete collection key).1 = (state.get collection key).isSome
    unfold delete
    cases (state.get collection key).isSome <;> rfl
  get_delete := get_delete

end MemoryPersistenceStore

namespace JsonPersistenceStore

/-- The JSON file as a persistence backend. -/
def backend : PersistenceStore JsonPersistenceStore where
  initial := initial
  put := fun store collection key value => .ok (store.put collection key value)
  get := get
  list := list

/-- The JSON file with its keys and its deletion. -/
def documentStore : DocumentStore JsonPersistenceStore := { backend with keys, delete }

theorem get_initial (collection key : String) : initial.get collection key = none := by
  show ((Dict.empty.set "_meta" Dict.empty).getD collection Dict.empty).get? key = none
  rw [Dict.getD_set]
  split <;> rfl

theorem backend_lawful : backend.Lawful where
  get_initial := get_initial
  put_succeeds := fun _ _ _ _ => ⟨_, rfl⟩
  get_put_self := by
    intro state collection key value next written
    cases written
    exact ⟨value.sortKeys, by simp [backend, get_put], Json.sortKeys_same value⟩
  get_put_of_ne := by
    intro state collection key value next otherCollection other written different
    cases written
    exact (get_put ..).trans (if_neg fun both => different (Prod.ext both.1 both.2))
  list_rows := fun state collection =>
    ⟨sortedBy Prod.fst (state.read.documents collection).items, rfl, dict_rows _⟩

theorem documentStore_lawful : documentStore.Lawful where
  toPersistenceStore := backend_lawful
  keys_rows := fun state collection =>
    ⟨sortedBy Prod.fst (state.read.documents collection).items, rfl, sortedBy_keys _, dict_rows _⟩
  delete_found := by
    intro state collection key
    show (state.delete collection key).1 = (state.get collection key).isSome
    unfold delete
    cases (state.get collection key).isSome <;> rfl
  get_delete := get_delete

end JsonPersistenceStore

namespace SQLitePersistenceStore

/-- The answer tells whether the statement deleted a row. -/
def delete (store : SQLitePersistenceStore) (collection key : String) :
    Bool × SQLitePersistenceStore :=
  ((store.get collection key).isSome, ⟨store.documents.erase (collection, key)⟩)

/-- The database with its deletion. -/
def documentStore : DocumentStore SQLitePersistenceStore := { keyed with delete := delete }

theorem documentStore_lawful : documentStore.Lawful where
  toPersistenceStore := backend_lawful
  keys_rows := fun state collection =>
    ⟨state.rows collection, rfl, rfl, state.rows_increase collection,
      fun row => state.mem_rows_iff collection row.1 row.2⟩
  delete_found := fun _ _ _ => rfl
  get_delete := by
    intro state collection key otherCollection other
    show (state.documents.erase (collection, key)).get? (otherCollection, other) = _
    simp only [Dict.get?_erase, Prod.mk.injEq]
    rfl

end SQLitePersistenceStore

/-- A change that a unit of work makes through its store. -/
inductive Change where
  | put (collection key : String) (document : List (String × Json))
  | delete (collection key : String)

/-- The three backends, which a unit of work tells apart with `isinstance`. -/
inductive Backend where
  | memory
  | json
  | sqlite
  deriving DecidableEq

/-- The code around a store: changes, exceptions, nested units and `try` blocks that catch. -/
inductive Statement where
  | change (change : Change)
  | raise
  | unit (body : List Statement)
  | attempt (body : List Statement)

/-- The calls that returned and the units that were entered and left. -/
inductive UnitEvent where
  | changed (change : Change)
  | entered
  | left (raised : Bool)

/-- The store with the snapshots of the open units, the open transactions with the contents that
they have changed, and whether the innermost transaction is still the active connection. -/
structure UnitState (Contents : Type) where
  stored : Contents
  snapshots : List Contents
  transactions : List (Option Contents)
  active : Bool

/-- What a statement leaves: whether it raised, the state and the events in their order. -/
structure Outcome (Contents : Type) where
  raised : Bool
  state : UnitState Contents
  events : List UnitEvent

namespace UnitOfWork

variable {Contents : Type} (backend : Backend) (update : Contents → Change → Contents)

/-- A store outside every unit of work. -/
def outside (contents : Contents) : UnitState Contents := ⟨contents, [], [], false⟩

/-- `__enter__` takes a snapshot of the memory store and begins a transaction of the database. -/
def enter (state : UnitState Contents) : UnitState Contents :=
  match backend with
  | .memory => { state with snapshots := state.stored :: state.snapshots }
  | .json => state
  | .sqlite => { state with transactions := none :: state.transactions, active := true }

/-- `__exit__` restores the snapshot after an exception, or commits or rolls back the transaction
and clears the active connection. -/
def exit (raised : Bool) (state : UnitState Contents) : UnitState Contents :=
  match backend with
  | .memory =>
      match state.snapshots with
      | [] => state
      | snapshot :: outer =>
          { state with stored := if raised then snapshot else state.stored, snapshots := outer }
  | .json => state
  | .sqlite =>
      match state.transactions with
      | [] => state
      | pending :: outer =>
          { state with
            stored := if raised then state.stored else pending.getD state.stored
            transactions := outer
            active := false }

/-- A write in the active transaction takes the write lock of the database. Without an active
connection it commits on a connection of its own. It raises OperationalError while another
transaction has the lock. -/
def write (change : Change) (state : UnitState Contents) : Bool × UnitState Contents :=
  match backend with
  | .memory => (false, { state with stored := update state.stored change })
  | .json => (false, { state with stored := update state.stored change })
  | .sqlite =>
      match state.active, state.transactions with
      | true, some pending :: outer =>
          (false, { state with transactions := some (update pending change) :: outer })
      | true, none :: outer =>
          if outer.any Option.isSome then (true, state)
          else (false, { state with transactions := some (update state.stored change) :: outer })
      | _, transactions =>
          if transactions.any Option.isSome then (true, state)
          else (false, { state with stored := update state.stored change })

mutual

/-- A statement runs until it ends or raises. -/
def run : Statement → UnitState Contents → Outcome Contents
  | .change change, state =>
      match write backend update change state with
      | (true, next) => ⟨true, next, []⟩
      | (false, next) => ⟨false, next, [.changed change]⟩
  | .raise, state => ⟨true, state, []⟩
  | .unit body, state =>
      let inner := runAll body (enter backend state)
      ⟨inner.raised, exit backend inner.raised inner.state,
        .entered :: inner.events ++ [.left inner.raised]⟩
  | .attempt body, state =>
      let inner := runAll body state
      ⟨false, inner.state, inner.events⟩

/-- An exception skips the statements after it. -/
def runAll : List Statement → UnitState Contents → Outcome Contents
  | [], state => ⟨false, state, []⟩
  | statement :: rest, state =>
      let first := run statement state
      if first.raised then first
      else
        let later := runAll rest first.state
        ⟨later.raised, later.state, first.events ++ later.events⟩

end

variable (body : Contents → Option PyError × Contents)

/-- A function of the store that runs in a unit works on what the active connection sees. -/
def within (state : UnitState Contents) : Option PyError × UnitState Contents :=
  match backend, state.active, state.transactions with
  | .sqlite, true, pending :: outer =>
      let (exception, next) := body (pending.getD state.stored)
      (exception, { state with transactions := some next :: outer })
  | _, _, _ =>
      let (exception, next) := body state.stored
      (exception, { state with stored := next })

/-- A function of the store in an outermost unit of work. -/
def inUnit (stored : Contents) : Option PyError × Contents :=
  let (exception, inside) := within backend body (enter backend (outside stored))
  (exception, (exit backend exception.isSome inside).stored)

/-- The units of the memory store and of the database keep what a function left only when it
returned. -/
theorem inUnit_eq {backend : Backend} (transactional : backend ≠ .json)
    (body : Contents → Option PyError × Contents) (stored : Contents) :
    inUnit backend body stored =
      ((body stored).1, if (body stored).1.isSome then stored else (body stored).2) := by
  cases backend with
  | json => exact absurd rfl transactional
  | memory => rfl
  | sqlite =>
      show ((body stored).1, (exit Backend.sqlite (body stored).1.isSome
        ⟨stored, [], [some (body stored).2], true⟩).stored) = _
      cases (body stored).1 <;> rfl

end UnitOfWork

/-- The store after one change. -/
def DocumentStore.changed {State : Type} (store : DocumentStore State) (state : State) :
    Change → State
  | .put collection key document =>
      match store.put state collection key (.obj document) with
      | .ok next => next
      | .error _ => state
  | .delete collection key => (store.delete state collection key).2

/-- The stores of the backends. -/
def Backend.State : Backend → Type
  | .memory => MemoryPersistenceStore
  | .json => JsonPersistenceStore
  | .sqlite => SQLitePersistenceStore

def Backend.store : (backend : Backend) → DocumentStore backend.State
  | .memory => MemoryPersistenceStore.documentStore
  | .json => JsonPersistenceStore.documentStore
  | .sqlite => SQLitePersistenceStore.documentStore

/-- An outermost unit of work over a store with some prior content. -/
def Backend.unitOfWork (backend : Backend) (body : List Statement) (prior : backend.State) :
    Outcome backend.State :=
  UnitOfWork.run backend backend.store.changed (.unit body) (UnitOfWork.outside prior)

end AgentFabric.Persistence
