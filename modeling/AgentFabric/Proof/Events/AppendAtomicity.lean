import AgentFabric.Construction.Cloud.Scheduler
import AgentFabric.Proof.Events.EventLog

namespace AgentFabric.Events
open Sorting Transition Persistence Aligned AgentFabricEvent SQLitePersistenceStore

namespace ValueRequest

/-- The JSON text of the payload, if it has one, keeps the order of the keys when it is read again,
as it does where every key is a text. -/
def Stable (request : ValueRequest) : Prop :=
  ∀ payload, KeyedValue.writtenDict? true request.payload = some payload →
    (Json.obj payload).KeysSorted

end ValueRequest

namespace EventStore

variable {State : Type} (sha256 : String → String) (store : PersistenceStore State)
  (encoding : Encoding) (eventStore : EventStore State)

/-- The append raises before it touches the memory, or it has nothing to write, or the write of its
payload succeeds. -/
def Writable (request : ValueRequest) : Prop :=
  request.eventType ∉ eventTypeRegistry ∨ request.image? = none ∨ eventStore.persistence = none ∨
    (request.fault = none ∧ (encoding.document? request.payload).isSome = true)

/-- A writable append of a payload that a reload over JSON texts hashes as the append did. -/
def Lasting (request : ValueRequest) : Prop :=
  Writable encoding eventStore request ∧ (encoding = .text → request.Stable)

/-- An append that raises leaves the events in memory and the persisted events as they were. -/
def AllOrNothing (request : ValueRequest) : Prop :=
  ∀ error next, eventStore.appendValue sha256 store encoding request = (.error error, next) →
    next.events = eventStore.events ∧ next.persistence = eventStore.persistence

/-- A copied document is read back with the order of its fields. -/
def ReadsCopies : Prop :=
  encoding = .copy → ∀ state key document next, store.put state collection key document = .ok next →
    store.get next collection key = some document

variable {sha256 store} {request : ValueRequest} {image : AppendRequest}

/-- A backend that keeps a payload keeps the document that the hash writes. -/
theorem document?_eq {encoding : Encoding}
    (imaged : request.image? = some image) {payload : List (String × Json)}
    (kept : encoding.document? request.payload = some payload) : payload = image.payload := by
  obtain ⟨written, read, rfl⟩ := Option.map_eq_some_iff.mp imaged
  have same : KeyedValue.writtenDict? true request.payload = some payload := by
    cases encoding with
    | copy => exact kept
    | text => exact KeyedValue.writtenDict?_default kept
  exact Option.some.inj (same.symm.trans read)

theorem image?_eventId (imaged : request.image? = some image) : image.eventId = request.eventId := by
  obtain ⟨_, _, rfl⟩ := Option.map_eq_some_iff.mp imaged
  rfl

variable (sha256) in
/-- A writable append raises before its event or writes the row of its event. -/
theorem appendValue_cases (lawful : store.Lawful) {encoding : Encoding}
    {eventStore : EventStore State}
    (writable : Writable encoding eventStore request) :
    (∃ error, eventStore.appendValue sha256 store encoding request =
        (.error error, eventStore) ∧
      (request.eventType ∉ eventTypeRegistry ∨ request.image? = none)) ∨
    ∃ image persistence, request.eventType ∈ eventTypeRegistry ∧ request.image? = some image ∧
      eventStore.appendValue sha256 store encoding request =
        (.ok (nextWritten sha256 eventStore.events image),
          ⟨persistence, eventStore.events ++ [nextWritten sha256 eventStore.events image]⟩) ∧
      persistence.isSome = eventStore.persistence.isSome ∧
      ∀ state next, eventStore.persistence = some state → persistence = some next →
        store.put state collection (nextWritten sha256 eventStore.events image).eventId
          (nextWritten sha256 eventStore.events image).asDict = .ok next := by
  unfold appendValue
  by_cases registered : request.eventType ∈ eventTypeRegistry
  · rw [if_neg (not_not.mpr registered)]
    cases imaged : request.image? with
    | none => exact .inl ⟨_, rfl, .inr rfl⟩
    | some image =>
        cases persistent : eventStore.persistence with
        | none => exact .inr ⟨image, none, registered, rfl, rfl, rfl, fun _ _ absent => by cases absent⟩
        | some state =>
            rcases writable with unregistered | unhashed | absent | ⟨sound, accepted⟩
            · exact absurd registered unregistered
            · rw [imaged] at unhashed
              cases unhashed
            · rw [persistent] at absent
              cases absent
            · obtain ⟨payload, kept⟩ := Option.isSome_iff_exists.mp accepted
              obtain rfl := document?_eq imaged kept
              obtain ⟨next, written⟩ := lawful.put_succeeds state collection
                (nextWritten sha256 eventStore.events image).eventId
                (nextWritten sha256 eventStore.events image).asDict
              have put : putValue store encoding request state
                  (nextWritten sha256 eventStore.events image) = .ok next := by
                simp only [putValue, sound, kept]
                exact written
              refine .inr ⟨image, some next, registered, rfl, by simp only [put], rfl, ?_⟩
              rintro before after ⟨⟩ ⟨⟩
              exact written
  · rw [if_pos registered]
    exact .inl ⟨_, rfl, .inl registered⟩

variable (sha256 store)

/-- An append whose write raises has already put the event in memory. -/
theorem appendValue_unwritable (request : ValueRequest)
    (unwritable : ¬ Writable encoding eventStore request) :
    ∃ error image, eventStore.appendValue sha256 store encoding request =
      (.error error, ⟨eventStore.persistence,
        eventStore.events ++ [nextWritten sha256 eventStore.events image]⟩) := by
  unfold Writable at unwritable
  push Not at unwritable
  obtain ⟨registered, hashed, persistent, failing⟩ := unwritable
  obtain ⟨image, imaged⟩ := Option.ne_none_iff_exists'.mp hashed
  obtain ⟨state, present⟩ := Option.ne_none_iff_exists'.mp persistent
  have refused : ∃ error, putValue store encoding request state
      (nextWritten sha256 eventStore.events image) = .error error := by
    unfold putValue
    cases fault : request.fault with
    | some error => exact ⟨error, rfl⟩
    | none =>
        rw [Option.not_isSome_iff_eq_none.mp (failing fault)]
        exact ⟨_, rfl⟩
  obtain ⟨error, failed⟩ := refused
  refine ⟨error, image, ?_⟩
  unfold appendValue
  rw [if_neg (not_not.mpr registered), imaged, present]
  simp only [failed]

/-- An append is all or nothing exactly under the condition on its payload and its store. -/
theorem allOrNothing_iff_writable (lawful : store.Lawful) (encoding : Encoding)
    (eventStore : EventStore State) (request : ValueRequest) :
    AllOrNothing sha256 store encoding eventStore request ↔
      Writable encoding eventStore request := by
  constructor
  · intro atomic
    by_contra unwritable
    obtain ⟨error, image, failed⟩ :=
      appendValue_unwritable sha256 store encoding eventStore request unwritable
    have kept := (atomic error _ failed).1
    exact absurd (congrArg List.length kept) (by simp)
  · intro writable error next failed
    rcases appendValue_cases sha256 lawful writable with ⟨_, raised, _⟩ | ⟨_, _, _, _, appended, _⟩
    · rw [raised] at failed
      cases failed
      exact ⟨rfl, rfl⟩
    · rw [appended] at failed
      cases failed

section Reload

/-- The hashed fields of an event whose payload is sorted. -/
theorem hashed_sortKeys {event : AgentFabricEvent} (sorted : (Json.obj event.payload).KeysSorted) :
    event.hashed.sortKeys = event.written := by
  have payload := (Json.sortKeys_eq_iff _).mpr sorted
  rw [hashed, Json.sortKeys]
  simp only [Json.sortFields, payload]
  simp [sortedBy, List.insertionSort, List.orderedInsert, Json.sortKeys, written]

/-- The stored hash is that of the written fields. -/
theorem nextWritten_eventHash (events : List AgentFabricEvent) (image : AppendRequest) :
    (nextWritten sha256 events image).eventHash =
      sha256 (String.ofList (nextWritten sha256 events image).written.render) := by
  rw [nextWritten]
  simp only [written]

/-- The events form one chain and the rows are their dict forms. -/
structure Held (encoding : Encoding) (state : State) (events : List AgentFabricEvent) : Prop where
  valid : (writtenChain sha256 encoding).validFrom "" 1 events = true
  mirrored : Mirrored store state (events.map AgentFabricEvent.canonical)
  copied : encoding = .copy → ∀ eventId row, store.get state collection eventId = some row →
    ∃ event ∈ events, row = event.asDict

variable {sha256 store} {encoding : Encoding} (lawful : store.Lawful)
  (copies : ReadsCopies store encoding)

include lawful copies

variable {events : List AgentFabricEvent}

/-- The written row of the next event continues the chain. -/
theorem Held.append {state next : State}
    (held : Held sha256 store encoding state events) {image : AppendRequest}
    (stable : encoding = .text → (Json.obj image.payload).KeysSorted)
    (fresh : image.eventId ∉ events.map eventId)
    (written : store.put state collection (nextWritten sha256 events image).eventId
      (nextWritten sha256 events image).asDict = .ok next) :
    Held sha256 store encoding next (events ++ [nextWritten sha256 events image]) where
  valid := by
    rw [HashChain.validFrom_concat]
    refine ⟨held.valid, ?_, rfl, ?_⟩
    · change (events.length : Int) + 1 = 1 + events.length
      omega
    · refine (nextWritten_eventHash sha256 events image).trans ?_
      cases encoding with
      | copy => rfl
      | text =>
          have payload : (Json.obj (nextWritten sha256 events image).payload).KeysSorted := stable rfl
          rw [← hashed_sortKeys payload]
          rfl
  mirrored := by
    rw [List.map_append]
    refine held.mirrored.put lawful _ ?_ written
    rw [List.map_map]
    exact fresh
  copied := by
    intro isCopy eventId row present
    by_cases own : eventId = (nextWritten sha256 events image).eventId
    · rw [own, copies isCopy _ _ _ _ written, Option.some.injEq] at present
      exact ⟨_, List.mem_append_right _ (List.mem_singleton_self _), present.symm⟩
    · rw [lawful.get_put_of_ne _ _ _ _ _ _ _ written fun same => own (Prod.mk.inj same).2] at present
      obtain ⟨event, member, same⟩ := held.copied isCopy eventId row present
      exact ⟨event, List.mem_append_left _ member, same⟩

omit lawful copies in
/-- Each loaded event is read from one of the rows. -/
theorem mem_loadEvents {rows : List Json} {loaded : List AgentFabricEvent}
    (read : loadEvents rows = some loaded) :
    ∀ event ∈ loaded, ∃ row ∈ rows, fromDict row = some event := by
  obtain ⟨numbered, numbers, sorted⟩ := Option.bind_eq_some_iff.mp read
  intro event member
  obtain ⟨pair, listed, fromRow⟩ := exists_of_mem_mapM_some sorted event member
  obtain ⟨row, source, number⟩ := exists_of_mem_mapM_some numbers pair ((mem_sortedBy _ _ _).mp listed)
  obtain ⟨_, _, rfl⟩ := Option.map_eq_some_iff.mp number
  exact ⟨row, source, fromRow⟩

omit lawful copies in
/-- Events that equal the held ones up to the order of their payloads pass the check, over copies
where they are the held ones. -/
theorem validFrom_of_same {loaded events : List AgentFabricEvent}
    (valid : (writtenChain sha256 encoding).validFrom "" 1 events = true)
    (same : List.Forall₂ AgentFabricEvent.Same loaded events)
    (unchanged : encoding = .copy → loaded = events) :
    (writtenChain sha256 encoding).validFrom "" 1 loaded = true := by
  cases encoding with
  | copy => rwa [unchanged rfl]
  | text =>
      have canonical := (map_eq_map_iff_forall₂ _ _ _ _).mpr same
      change (eventChain sha256).validFrom "" 1 loaded = true
      change (eventChain sha256).validFrom "" 1 events = true at valid
      rwa [← validFrom_canonical, canonical, validFrom_canonical]

omit lawful copies in
theorem fromDict_asDict (event : AgentFabricEvent) : fromDict event.asDict = some event := by
  simp [fromDict, asDict, Json.textField, Json.intField,
    Json.objectField, Json.field?, DateTime.fromisoformat_isoformat]

variable {state : State}

omit copies in
/-- Events that are read from copies are the held ones. -/
theorem Held.loaded_eq {events loaded : List AgentFabricEvent}
    (held : Held sha256 store encoding state events) (isCopy : encoding = .copy)
    (distinct : (events.map eventId).Nodup)
    (read : loadEvents (store.list state collection) = some loaded)
    (same : List.Forall₂ AgentFabricEvent.Same loaded events) : loaded = events := by
  have members : ∀ event ∈ loaded, event ∈ events := by
    intro event member
    obtain ⟨row, listed, fromRow⟩ := mem_loadEvents read event member
    obtain ⟨rows, list, _, source⟩ := lawful.list_rows state collection
    rw [list] at listed
    obtain ⟨⟨eventId, _⟩, stored, rfl⟩ := List.mem_map.mp listed
    obtain ⟨written, inside, rfl⟩ := held.copied isCopy eventId _ ((source _).mp stored)
    rw [fromDict_asDict] at fromRow
    rwa [← Option.some.inj fromRow]
  have ids : loaded.map eventId = events.map eventId :=
    (map_eq_map_iff_forall₂ _ _ _ _).mpr (same.imp fun _ _ equal =>
      congrArg eventId (show AgentFabricEvent.canonical _ = _ from equal))
  exact eq_of_map_eq eventId events loaded events distinct members (fun _ member => member) ids

omit copies in
/-- A reload over the rows of a chain passes its check. -/
theorem Held.reload (held : Held sha256 store encoding state events)
    (distinct : (events.map eventId).Nodup) :
    ∃ reloaded, new store (some state) = .ok reloaded ∧
      reloaded.validateWritten sha256 encoding = true := by
  have ids : ((events.map AgentFabricEvent.canonical).map eventId).Nodup := by
    rw [List.map_map]
    exact distinct
  obtain ⟨loaded, ordered, read, perm, canonical⟩ :=
    loadEvents_sorted lawful state _ held.mirrored ids
  have increase := (writtenChain sha256 encoding).sequences_increase "" 1 events held.valid
  have sequences : (events.map AgentFabricEvent.canonical).map AgentFabricEvent.sequence =
      events.map AgentFabricEvent.sequence := by
    rw [List.map_map]
    rfl
  have ordering : sortedBy AgentFabricEvent.sequence ordered =
      events.map AgentFabricEvent.canonical := by
    rw [sortedBy_eq_of_perm _ _ _ perm ((perm.map _).nodup_iff.mpr (sequences ▸ increase.imp ne_of_lt))]
    exact sortedBy_of_pairwise _ _ (List.pairwise_map.mp (sequences ▸ increase.imp le_of_lt))
  rw [ordering, List.forall₂_map_right_iff] at canonical
  have same : List.Forall₂ AgentFabricEvent.Same loaded events :=
    canonical.imp fun _ event equal => equal.trans event.canonical_same
  have valid := validFrom_of_same held.valid same
    fun isCopy => held.loaded_eq lawful isCopy distinct read same
  refine ⟨⟨some state, loaded⟩, by simp only [new, read], ?_⟩
  rw [validateWritten, show sortedBy AgentFabricEvent.sequence loaded = loaded from
    (writtenChain sha256 encoding).sortedBy_of_validFrom "" 1 loaded valid]
  exact valid

variable (requests : List ValueRequest)

/-- The ids that a run draws, one for each append of a registered type. -/
def drawnIds : List String :=
  (requests.filter fun request => request.eventType ∈ eventTypeRegistry).map ValueRequest.eventId

/-- Lasting appends with new ids keep the chain and its rows. -/
theorem Held.run (eventStore : EventStore State) (persistent : eventStore.persistence = some state)
    (held : Held sha256 store encoding state eventStore.events)
    (guarded : Guarded (appendValue sha256 store encoding) (Lasting encoding) eventStore requests)
    (distinct : (eventStore.events.map eventId ++ drawnIds requests).Nodup) :
    ∃ final, (run (appendValue sha256 store encoding) eventStore requests).persistence = some final ∧
      Held sha256 store encoding final
        (run (appendValue sha256 store encoding) eventStore requests).events ∧
      ((run (appendValue sha256 store encoding) eventStore requests).events.map eventId).Nodup := by
  induction requests generalizing eventStore state with
  | nil => exact ⟨state, persistent, held, distinct.of_append_left⟩
  | cons request rest ih =>
      obtain ⟨⟨writable, stable⟩, later⟩ := guarded
      have rests : (drawnIds rest).Sublist (drawnIds (request :: rest)) :=
        ((List.sublist_cons_self _ _).filter _).map _
      rw [run_cons]
      rcases appendValue_cases sha256 lawful writable with
        ⟨_, raised, _⟩ | ⟨image, persistence, registered, imaged, appended, kept, written⟩
      · rw [raised] at later ⊢
        exact ih _ persistent held later (distinct.sublist ((List.Sublist.refl _).append rests))
      · rw [appended] at later ⊢
        obtain ⟨next, rfl⟩ := Option.isSome_iff_exists.mp (kept.trans (by rw [persistent]; rfl))
        have drawn : drawnIds (request :: rest) = image.eventId :: drawnIds rest := by
          simp [drawnIds, registered, image?_eventId imaged]
        rw [drawn] at distinct
        have fresh : image.eventId ∉ eventStore.events.map eventId := fun member =>
          List.disjoint_of_nodup_append distinct member (.head _)
        refine ih _ rfl
          (held.append lawful copies ?_ fresh (written state next persistent rfl)) later ?_
        · intro isText
          obtain ⟨payload, read, rfl⟩ := Option.map_eq_some_iff.mp imaged
          exact stable isText payload read
        · rw [List.map_append, List.append_assoc]
          exact distinct

end Reload

variable {store}

end EventStore

namespace EventStore

/-- An append whose payload holds an object that only `str` can write. -/
def objectAppend : ValueRequest :=
  ⟨"agent.registered", "agent-a", [(.text "path", .object (some "/tmp/a"))], "evt-1", .first, none⟩

def plainAppend : ValueRequest :=
  ⟨"agent.registered", "agent-a", [(.text "path", .str "/tmp/a")], "evt-2", .first, none⟩

/-- An append whose payload nests a dict with a tuple as its key, which no hash can write. -/
def tupleAppend : ValueRequest :=
  ⟨"agent.registered", "agent-a", [(.text "x", .obj [(.unwritable, .int 3)])], "evt-3", .first, none⟩

theorem objectAppend_unwritable : ¬ Writable .text (initial backend true) objectAppend := by
  rintro (unregistered | unhashed | absent | ⟨_, serializable⟩)
  · exact unregistered (by decide)
  · cases unhashed
  · cases absent
  · cases serializable

end EventStore

end AgentFabric.Events
