import AgentFabric.Foundation.Dict
import AgentFabric.Foundation.Json
import AgentFabric.Foundation.PyError

namespace AgentFabric.Persistence
open Sorting

/-- The operations of a persistence backend with its own kind of state. -/
structure PersistenceStore (State : Type) where
  initial : State
  put : State → String → String → Json → Except PyError State
  get : State → String → String → Option Json
  list : State → String → List Json

namespace PersistenceStore

variable {State : Type} (store : PersistenceStore State)

/-- The row has the given text under the key. -/
def hasText (row : Json) (key text : String) : Bool :=
  match row.field? key with
  | some (.str stored) => stored = text
  | _ => false

def listTenant (state : State) (collection tenantId : String) : List Json :=
  (store.list state collection).filter fun row => hasText row "tenant_id" tenantId

/-- A row of one collection under its key. -/
def Row (state : State) (collection : String) (row : String × Json) : Prop :=
  store.get state collection row.1 = some row.2

/-- The backend returns what was put and lists each collection in key order. -/
structure Lawful : Prop where
  get_initial : ∀ collection key, store.get store.initial collection key = none
  put_succeeds : ∀ state collection key value, ∃ next,
    store.put state collection key value = .ok next
  get_put_self : ∀ state collection key value next,
    store.put state collection key value = .ok next →
      ∃ read, store.get next collection key = some read ∧ read.Same value
  get_put_of_ne : ∀ state collection key value next otherCollection other,
    store.put state collection key value = .ok next →
    (otherCollection, other) ≠ (collection, key) →
      store.get next otherCollection other = store.get state otherCollection other
  list_rows : ∀ state collection, ∃ rows : List (String × Json),
    store.list state collection = rows.map Prod.snd ∧
    (rows.map Prod.fst).Pairwise (· < ·) ∧
    ∀ row, row ∈ rows ↔ store.Row state collection row

end PersistenceStore

/-- Distinct keys in sorted order increase strictly. -/
theorem sortedBy_keys_increase (items : List (String × Json))
    (distinct : (items.map Prod.fst).Nodup) :
    ((sortedBy Prod.fst items).map Prod.fst).Pairwise (· < ·) := by
  have ordered : ((sortedBy Prod.fst items).map Prod.fst).Pairwise (· ≤ ·) :=
    List.pairwise_map.mpr (sortedBy_pairwise Prod.fst items)
  have nodup : ((sortedBy Prod.fst items).map Prod.fst).Nodup :=
    ((sortedBy_perm Prod.fst items).map Prod.fst).nodup_iff.mpr distinct
  exact (ordered.and nodup).imp fun both => lt_of_le_of_ne both.1 both.2

end AgentFabric.Persistence

namespace AgentFabric.Persistence.PersistenceStore.Lawful

variable {State : Type} {store : PersistenceStore State} {rows : List (String × Json)}

/-- The keys of a listing are distinct. -/
theorem rows_nodup (increasing : (rows.map Prod.fst).Pairwise (· < ·)) : rows.Nodup :=
  List.Nodup.of_map Prod.fst (increasing.imp ne_of_lt)

variable {state next : State} {collection key : String}

/-- A written document is listed in the place of the one under its key. -/
theorem list_put (lawful : store.Lawful)
    {value : Json} (written : store.put state collection key value = .ok next) :
    ∃ read others, store.get next collection key = some read ∧ read.Same value ∧
      (store.list next collection).Perm (read :: others) ∧
        (store.list state collection).Perm ((store.get state collection key).toList ++ others) := by
  obtain ⟨read, present, same⟩ := lawful.get_put_self _ _ _ _ _ written
  obtain ⟨rows, listed, increasing, exact⟩ := lawful.list_rows state collection
  obtain ⟨after, listedAfter, increasingAfter, exactAfter⟩ := lawful.list_rows next collection
  let others := rows.filter fun row => row.1 ≠ key
  have kept (row : String × Json) : row ∈ others ↔ row ∈ rows ∧ row.1 ≠ key := by
    rw [List.mem_filter, decide_eq_true_eq]
  have distinct : others.Nodup := (rows_nodup increasing).filter _
  refine ⟨read, others.map Prod.snd, present, same, ?_, ?_⟩
  · rw [listedAfter]
    refine @List.Perm.map _ _ Prod.snd _ ((key, read) :: others) ?_
    apply (List.perm_ext_iff_of_nodup (rows_nodup increasingAfter) ?_).mpr
    · rintro ⟨name, document⟩
      rw [exactAfter, List.mem_cons, kept, exact]
      by_cases own : name = key
      · subst own
        simp [Row, present, eq_comm]
      · have unchanged := lawful.get_put_of_ne _ _ _ _ _ collection name written
          (fun equal => own (Prod.mk.inj equal).2)
        simp [Row, unchanged, own]
    · refine List.nodup_cons.mpr ⟨?_, distinct⟩
      rw [kept]
      exact fun both => both.2 rfl
  · rw [listed]
    have split : rows.Perm (((store.get state collection key).map (Prod.mk key)).toList ++ others) := by
      apply (List.perm_ext_iff_of_nodup (rows_nodup increasing) ?_).mpr
      · rintro ⟨name, document⟩
        rw [List.mem_append, Option.mem_toList, kept, exact]
        by_cases own : name = key
        · subst own
          simp [Row]
        · simp [Row, own, Ne.symm own]
      · refine List.Nodup.append ?_ distinct ?_
        · cases store.get state collection key <;> simp
        · rintro ⟨name, document⟩ replaced other
          rw [Option.mem_toList, Option.map_eq_some_iff] at replaced
          obtain ⟨_, _, same⟩ := replaced
          exact ((kept _).mp other).2 (Prod.mk.inj same).1.symm
    have values := split.map Prod.snd
    rw [List.map_append] at values
    cases held : store.get state collection key <;> rw [held] at values <;> exact values

/-- A write leaves the listings of the other collections. -/
theorem list_put_of_ne (lawful : store.Lawful)
    {value : Json} (written : store.put state collection key value = .ok next) {other : String}
    (different : other ≠ collection) : store.list next other = store.list state other := by
  obtain ⟨rows, listed, increasing, exact⟩ := lawful.list_rows state other
  obtain ⟨after, listedAfter, increasingAfter, exactAfter⟩ := lawful.list_rows next other
  have same : after = rows := by
    apply List.Perm.eq_of_pairwise' (r := fun first second => first.1 < second.1)
    · exact List.pairwise_map.mp increasingAfter
    · exact List.pairwise_map.mp increasing
    · apply (List.perm_ext_iff_of_nodup (rows_nodup increasingAfter) (rows_nodup increasing)).mpr
      intro row
      rw [exactAfter, exact, Row, Row, lawful.get_put_of_ne _ _ _ _ _ _ _ written
        (fun equal => different (Prod.mk.inj equal).1)]
  rw [listed, listedAfter, same]

/-- Documents under distinct keys are listed together. -/
theorem subperm_list (lawful : store.Lawful) {state : State} {collection : String}
    (distinct : (rows.map Prod.fst).Nodup)
    (stored : ∀ row ∈ rows, store.Row state collection row) :
    (rows.map Prod.snd).Subperm (store.list state collection) := by
  obtain ⟨all, listed, _, exact⟩ := lawful.list_rows state collection
  have together : rows.Subperm all := by
    apply List.subperm_of_subset (List.Nodup.of_map _ distinct)
    intro row member
    exact (exact row).mpr (stored row member)
  obtain ⟨part, same, inside⟩ := together
  rw [listed]
  exact ⟨part.map Prod.snd, same.map _, inside.map _⟩

end AgentFabric.Persistence.PersistenceStore.Lawful

namespace AgentFabric.Persistence
open Sorting

/-- The in-memory store keeps one dict of documents for each collection. -/
structure MemoryPersistenceStore where
  data : Dict String (Dict String Json)

namespace MemoryPersistenceStore

def initial : MemoryPersistenceStore := ⟨Dict.empty⟩

variable (store : MemoryPersistenceStore)

/-- A missing collection is an empty collection. -/
def documents (collection : String) : Dict String Json :=
  store.data.getD collection Dict.empty

variable (collection key : String)

def put (value : Json) : MemoryPersistenceStore :=
  ⟨store.data.set collection ((store.documents collection).set key value)⟩

def get : Option Json :=
  (store.documents collection).get? key

def list (collection : String) : List Json :=
  (sortedBy Prod.fst (store.documents collection).items).map Prod.snd

theorem get_put (collection key otherCollection other : String) (value : Json) :
    (store.put collection key value).get otherCollection other =
      if otherCollection = collection ∧ other = key then some value
      else store.get otherCollection other := by
  simp only [get, put, documents, Dict.getD_set]
  by_cases same : otherCollection = collection
  · subst same
    simp only [if_true, Dict.get?_set, true_and]
  · simp [same]

/-- The in-memory store as a persistence backend. -/
def backend : PersistenceStore MemoryPersistenceStore where
  initial := initial
  put := fun store collection key value => .ok (store.put collection key value)
  get := get
  list := list

theorem backend_lawful : backend.Lawful where
  get_initial := fun _ _ => rfl
  put_succeeds := fun _ _ _ _ => ⟨_, rfl⟩
  get_put_self := by
    intro state collection key value next written
    cases written
    exact ⟨value, by simp [backend, get_put], rfl⟩
  get_put_of_ne := by
    intro state collection key value next otherCollection other written different
    cases written
    exact (get_put ..).trans (if_neg fun both => different (Prod.ext both.1 both.2))
  list_rows := by
    intro state collection
    refine ⟨sortedBy Prod.fst (state.documents collection).items, rfl,
      sortedBy_keys_increase _ (state.documents collection).distinct, ?_⟩
    intro row
    rw [mem_sortedBy]
    exact ((state.documents collection).get?_eq_some_iff row.1 row.2).symm

end MemoryPersistenceStore

/-- The table `af_documents` has one row for each collection and key.
A row holds the document that `json.loads` reads from its text. -/
structure SQLitePersistenceStore where
  documents : Dict (String × String) Json

namespace SQLitePersistenceStore

/-- A new database has an empty table. -/
def initial : SQLitePersistenceStore := ⟨Dict.empty⟩

variable (store : SQLitePersistenceStore)

/-- The upsert writes the text of `json.dumps` with `sort_keys`. -/
def put (collection key : String) (value : Json) : SQLitePersistenceStore :=
  ⟨store.documents.set (collection, key) value.sortKeys⟩

def get (collection key : String) : Option Json :=
  store.documents.get? (collection, key)

variable (collection : String)

/-- The keys and documents of one collection in the order of the primary key. -/
def rows : List (String × Json) :=
  sortedBy Prod.fst ((store.documents.items.filter fun row => row.1.1 = collection).map
    fun row => (row.1.2, row.2))

def list : List Json :=
  (store.rows collection).map Prod.snd

theorem get_put (collection key otherCollection other : String) (value : Json) :
    (store.put collection key value).get otherCollection other =
      if otherCollection = collection ∧ other = key then some value.sortKeys
      else store.get otherCollection other := by
  simp only [get, put, Dict.get?_set, Prod.mk.injEq]

/-- The rows of a collection are the documents that its keys return. -/
theorem mem_rows_iff (collection key : String) (value : Json) :
    (key, value) ∈ store.rows collection ↔ store.get collection key = some value := by
  simp only [rows, mem_sortedBy, List.mem_map, List.mem_filter, get, Dict.get?_eq_some_iff,
    decide_eq_true_eq, Prod.mk.injEq]
  constructor
  · rintro ⟨⟨⟨storedCollection, storedKey⟩, stored⟩, ⟨member, rfl⟩, rfl, rfl⟩
    exact member
  · intro member
    exact ⟨((collection, key), value), ⟨member, rfl⟩, rfl, rfl⟩

/-- The primary key gives each key of a collection one row. -/
theorem rows_distinct : ((store.rows collection).map Prod.fst).Nodup := by
  have sorted := (sortedBy_perm Prod.fst ((store.documents.items.filter
    fun row => row.1.1 = collection).map fun row => (row.1.2, row.2))).map Prod.fst
  rw [rows, sorted.nodup_iff, List.map_map]
  have distinct := store.documents.distinct.sublist
    ((List.filter_sublist (p := fun row => row.1.1 = collection)).map Prod.fst)
  refine List.Nodup.map_on ?_ distinct.of_map
  rintro ⟨⟨_, firstKey⟩, first⟩ firstMember ⟨⟨_, secondKey⟩, second⟩ secondMember same
  simp only [List.mem_filter, decide_eq_true_eq] at firstMember secondMember
  refine List.inj_on_of_nodup_map distinct (List.mem_filter.mpr ⟨firstMember.1, ?_⟩)
    (List.mem_filter.mpr ⟨secondMember.1, ?_⟩) ?_
  · simp [firstMember.2]
  · simp [secondMember.2]
  · exact Prod.ext (firstMember.2.trans secondMember.2.symm) same

theorem rows_increase : ((store.rows collection).map Prod.fst).Pairwise (· < ·) :=
  sortedBy_keys_increase _ (((sortedBy_perm Prod.fst _).map Prod.fst).nodup_iff.mp
    (store.rows_distinct collection))

/-- A collection that mirrors a dict lists its encoded items in key order. -/
theorem rows_eq_of_get {Value : Type*} (table : Dict String Value) (encode : Value → Json)
    (mirrored : ∀ key, store.get collection key = (table.get? key).map encode) :
    store.rows collection = sortedBy Prod.fst (table.items.map (Prod.map id encode)) := by
  have tableDistinct : ((table.items.map (Prod.map id encode)).map Prod.fst).Nodup := by
    rw [List.map_map]
    exact table.distinct
  have perm : (store.rows collection).Perm (table.items.map (Prod.map id encode)) := by
    rw [List.perm_ext_iff_of_nodup (store.rows_distinct collection).of_map tableDistinct.of_map]
    rintro ⟨key, document⟩
    rw [mem_rows_iff, mirrored, Option.map_eq_some_iff, List.mem_map]
    constructor
    · rintro ⟨value, present, rfl⟩
      exact ⟨(key, value), (table.get?_eq_some_iff key value).mp present, rfl⟩
    · rintro ⟨⟨storedKey, value⟩, member, same⟩
      obtain ⟨rfl, rfl⟩ := Prod.mk.inj same
      exact ⟨value, (table.get?_eq_some_iff _ value).mpr member, rfl⟩
  rw [← sortedBy_eq_of_perm Prod.fst _ _ perm (store.rows_distinct collection)]
  exact (sortedBy_of_pairwise Prod.fst _ (sortedBy_pairwise _ _)).symm

/-- The database as a persistence backend. -/
def backend : PersistenceStore SQLitePersistenceStore where
  initial := initial
  put := fun store collection key value => .ok (store.put collection key value)
  get := get
  list := list

theorem backend_lawful : backend.Lawful where
  get_initial := fun _ _ => rfl
  put_succeeds := fun _ _ _ _ => ⟨_, rfl⟩
  get_put_self := by
    intro state collection key value next written
    cases written
    exact ⟨value.sortKeys, by simp [backend, get_put], Json.sortKeys_same value⟩
  get_put_of_ne := by
    intro state collection key value next otherCollection other written different
    cases written
    exact (get_put ..).trans (if_neg fun both => different (Prod.ext both.1 both.2))
  list_rows := fun state collection =>
    ⟨state.rows collection, rfl, state.rows_increase collection,
      fun row => state.mem_rows_iff collection row.1 row.2⟩

end SQLitePersistenceStore

/-- A persistence backend that also lists the keys of a collection. -/
structure KeyedStore (State : Type) extends PersistenceStore State where
  keys : State → String → List String

/-- The keys of a collection are the keys of its documents. -/
structure KeyedStore.Lawful {State : Type} (store : KeyedStore State) : Prop where
  toPersistenceStore : store.toPersistenceStore.Lawful
  mem_keys : ∀ state collection key,
    key ∈ store.keys state collection ↔ ∃ document, store.get state collection key = some document

namespace MemoryPersistenceStore

def keys (store : MemoryPersistenceStore) (collection : String) : List String :=
  sortedBy id ((store.documents collection).items.map Prod.fst)

/-- The in-memory store with its keys. -/
def keyed : KeyedStore MemoryPersistenceStore := { backend with keys := keys }

theorem keyed_lawful : keyed.Lawful where
  toPersistenceStore := backend_lawful
  mem_keys := by
    intro state collection key
    show key ∈ keys state collection ↔ ∃ document, state.get collection key = some document
    simp only [keys, mem_sortedBy, List.mem_map, get, Dict.get?_eq_some_iff]
    constructor
    · rintro ⟨⟨stored, document⟩, member, rfl⟩
      exact ⟨document, member⟩
    · rintro ⟨document, member⟩
      exact ⟨(key, document), member, rfl⟩

end MemoryPersistenceStore

namespace SQLitePersistenceStore

/-- The keys of one collection in the order of the primary key. -/
def keys (store : SQLitePersistenceStore) (collection : String) : List String :=
  (store.rows collection).map Prod.fst

/-- The database with its keys. -/
def keyed : KeyedStore SQLitePersistenceStore := { backend with keys := keys }

end SQLitePersistenceStore

end AgentFabric.Persistence
