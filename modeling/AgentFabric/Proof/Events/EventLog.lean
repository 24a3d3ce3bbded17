import AgentFabric.Construction.Events.EventStore
import AgentFabric.Foundation.JsonText

namespace AgentFabric.Events
open Sorting Persistence Aligned AgentFabricEvent EventStore

namespace AgentFabricEvent

variable (event : AgentFabricEvent)

/-- The form of an event with the payload fields in sorted order. -/
def canonical : AgentFabricEvent :=
  { event with payload := Json.sortObject event.payload }

/-- Two events are equal in Python when they differ only in the order of payload fields. -/
def Same (first second : AgentFabricEvent) : Prop := first.canonical = second.canonical

@[simp] theorem canonical_canonical : event.canonical.canonical = event.canonical := by
  simp [canonical]

theorem canonical_asDict : event.canonical.asDict.Same event.asDict := by
  rw [Json.Same, asDict, asDict, Json.sortKeys, Json.sortKeys]
  simp only [canonical, Json.sortFields, Json.sortKeys_obj_sortObject]

theorem canonical_hashed : event.canonical.hashed.Same event.hashed := by
  rw [Json.Same, hashed, hashed, Json.sortKeys, Json.sortKeys]
  simp only [canonical, Json.sortFields, Json.sortKeys_obj_sortObject]

theorem Same.trans {first second third : AgentFabricEvent} (same : first.Same second)
    (next : second.Same third) : first.Same third :=
  Eq.trans same next

theorem canonical_same : event.canonical.Same event :=
  event.canonical_canonical

variable {first second : AgentFabricEvent}

section

variable (same : first.Same second)
include same

/-- Equal events have equal dict forms. -/
theorem Same.asDict : first.asDict.Same second.asDict :=
  (first.canonical_asDict.symm.trans (congrArg (fun event => event.asDict.sortKeys) same)).trans
    second.canonical_asDict

theorem Same.sequence : first.sequence = second.sequence := by
  change first.canonical.sequence = second.canonical.sequence
  rw [same]

theorem Same.eventHash : first.eventHash = second.eventHash := by
  change first.canonical.eventHash = second.canonical.eventHash
  rw [same]

theorem Same.aggregateId : first.aggregateId = second.aggregateId := by
  change first.canonical.aggregateId = second.canonical.aggregateId
  rw [same]

end

/-- A row that equals the dict form up to field order reads as the event. -/
theorem fromDict_of_same (row : Json) (same : row.Same event.asDict) :
    ∃ read, fromDict row = some read ∧ read.Same event := by
  have text := Json.textField_of_same same
  have number := Json.intField_of_same same
  obtain ⟨payload, present, sorted⟩ := Json.objectField_of_same same "payload" event.payload rfl
  have timestamp : Json.textField event.asDict "timestamp" none =
    some event.timestamp.isoformat := rfl
  have eventId : Json.textField event.asDict "event_id" none = some event.eventId := rfl
  have sequence : Json.intField event.asDict "sequence" 0 = some event.sequence := rfl
  have eventType : Json.textField event.asDict "event_type" none = some event.eventType := rfl
  have aggregateId : Json.textField event.asDict "aggregate_id" none = some event.aggregateId := rfl
  have previousHash : Json.textField event.asDict "previous_hash" (some "") =
    some event.previousHash := rfl
  have eventHash : Json.textField event.asDict "event_hash" (some "") = some event.eventHash := rfl
  refine ⟨{ event with payload }, ?_, ?_⟩
  · simp only [fromDict, text, number, present, timestamp, eventId, sequence, eventType,
      aggregateId, previousHash, eventHash, DateTime.fromisoformat_isoformat,
      Option.bind_eq_bind, Option.bind_some]
  · simp only [Same, canonical, sorted]

end AgentFabricEvent

section Chain

variable (sha256 : String → String)

/-- The chain check does not read the order of payload fields. -/
theorem validFrom_canonical (hash : String) (number : Int) (events : List AgentFabricEvent) :
    (eventChain sha256).validFrom hash number (events.map canonical) =
      (eventChain sha256).validFrom hash number events := by
  apply HashChain.validFrom_map
  · exact fun _ => rfl
  · exact fun _ => rfl
  · exact fun _ => rfl
  · intro event
    exact congrArg sha256 (Json.dumps_eq_of_same event.canonical_hashed)

/-- The next event carries the number and the hash that continue the chain. -/
theorem validFrom_nextEvent (events : List AgentFabricEvent) (request : AppendRequest)
    (valid : (eventChain sha256).validFrom "" 1 events = true) :
    (eventChain sha256).validFrom "" 1 (events ++ [nextEvent sha256 events request]) = true := by
  rw [HashChain.validFrom_concat]
  refine ⟨valid, ?_, rfl, rfl⟩
  change (events.length : Int) + 1 = 1 + events.length
  omega

end Chain

namespace EventStore

variable {State : Type} (sha256 : String → String) (store : PersistenceStore State)

/-- The collection holds a row for each event and no other row. -/
structure Mirrored (state : State) (events : List AgentFabricEvent) : Prop where
  written : ∀ event ∈ events, ∃ row, store.get state collection event.eventId = some row
  sources : ∀ eventId row, store.get state collection eventId = some row →
    ∃ event ∈ events, event.eventId = eventId ∧ row.Same event.asDict

variable {store} (lawful : store.Lawful)

include lawful

/-- A registered append returns the next event and writes it through. -/
theorem append_eq (eventStore : EventStore State) (request : AppendRequest)
    (registered : request.eventType ∈ eventTypeRegistry) :
    ∃ persistence, eventStore.append sha256 store request =
        (.ok (nextEvent sha256 eventStore.events request),
          ⟨persistence, eventStore.events ++ [nextEvent sha256 eventStore.events request]⟩) ∧
      persistence.isSome = eventStore.persistence.isSome ∧
      ∀ state next, eventStore.persistence = some state → persistence = some next →
        store.put state collection (nextEvent sha256 eventStore.events request).eventId
          (nextEvent sha256 eventStore.events request).asDict = .ok next := by
  unfold append
  rw [if_neg (not_not.mpr registered)]
  cases eventStore.persistence with
  | none => exact ⟨none, rfl, rfl, fun _ _ absent => by cases absent⟩
  | some state =>
      obtain ⟨next, written⟩ := lawful.put_succeeds state collection
        (nextEvent sha256 eventStore.events request).eventId
        (nextEvent sha256 eventStore.events request).asDict
      dsimp only
      rw [written]
      refine ⟨some next, rfl, rfl, ?_⟩
      intro before after same stored
      cases same
      cases stored
      exact written

/-- A write under a new id adds one event to the mirrored list. -/
theorem Mirrored.put {state next : State} {events : List AgentFabricEvent}
    (mirrored : Mirrored store state events) (event : AgentFabricEvent)
    (fresh : event.eventId ∉ events.map AgentFabricEvent.eventId)
    (written : store.put state collection event.eventId event.asDict = .ok next) :
    Mirrored store next (events ++ [event.canonical]) where
  written := by
    intro stored member
    rcases List.mem_append.mp member with old | new
    · have different : stored.eventId ≠ event.eventId :=
        fun same => fresh (same ▸ List.mem_map_of_mem old)
      obtain ⟨row, present⟩ := mirrored.written stored old
      refine ⟨row, ?_⟩
      rw [lawful.get_put_of_ne _ _ _ _ _ _ _ written fun same => different (Prod.mk.inj same).2]
      exact present
    · obtain rfl := List.mem_singleton.mp new
      obtain ⟨row, present, _⟩ := lawful.get_put_self _ _ _ _ _ written
      exact ⟨row, present⟩
  sources := by
    intro eventId row present
    by_cases same : eventId = event.eventId
    · obtain ⟨read, found, equal⟩ := lawful.get_put_self _ _ _ _ _ written
      rw [same, found, Option.some.injEq] at present
      refine ⟨event.canonical, by simp, same.symm, ?_⟩
      exact present ▸ equal.trans event.canonical_asDict.symm
    · rw [lawful.get_put_of_ne _ _ _ _ _ _ _ written fun equal => same (Prod.mk.inj equal).2]
        at present
      obtain ⟨stored, member, facts⟩ := mirrored.sources eventId row present
      exact ⟨stored, List.mem_append_left _ member, facts⟩

variable (state : State) (events : List AgentFabricEvent)

/-- The listed rows are the mirrored events in some order. -/
theorem list_mirrored (mirrored : Mirrored store state events)
    (distinct : (events.map AgentFabricEvent.eventId).Nodup) :
    ∃ ordered, ordered.Perm events ∧
      List.Forall₂ (fun row event => row.Same event.asDict) (store.list state collection)
        ordered := by
  obtain ⟨rows, list, increasing, exact⟩ := lawful.list_rows state collection
  rw [list]
  apply exists_perm_forall₂_of_rows AgentFabricEvent.eventId
  · exact increasing.imp ne_of_lt
  · exact distinct
  · intro row member
    exact mirrored.sources row.1 row.2 ((exact row).mp member)
  · intro event member
    obtain ⟨row, present⟩ := mirrored.written event member
    exact List.mem_map.mpr ⟨(event.eventId, row), (exact _).mpr present, rfl⟩

/-- A restart reads back the events of its rows in the order of their sequence. -/
theorem loadEvents_sorted (mirrored : Mirrored store state events)
    (distinct : (events.map AgentFabricEvent.eventId).Nodup) :
    ∃ loaded ordered, loadEvents (store.list state collection) = some loaded ∧ ordered.Perm events ∧
      List.Forall₂ AgentFabricEvent.Same loaded (sortedBy AgentFabricEvent.sequence ordered) := by
  obtain ⟨ordered, perm, held⟩ := list_mirrored lawful state events mirrored distinct
  obtain ⟨numbered, numbers, agree⟩ := mapM_forall₂
    (fun row => (Json.intField row "sequence" 0).map fun number => (number, row))
    (fun (pair : Int × Json) (event : AgentFabricEvent) =>
      pair.1 = event.sequence ∧ pair.2.Same event.asDict)
    (fun row event same => ⟨(event.sequence, row), by
      rw [Json.intField_of_same same]
      rfl, rfl, same⟩) held
  have sorted := sortedBy_forall₂ Prod.fst AgentFabricEvent.sequence
    (fun _ _ facts => facts.1) agree
  obtain ⟨loaded, read, same⟩ := mapM_forall₂
    (fun row : Int × Json => fromDict row.2) AgentFabricEvent.Same
    (fun row event facts => event.fromDict_of_same row.2 facts.2) sorted
  refine ⟨loaded, ordered, ?_, perm, same⟩
  simp only [loadEvents, numbers, Option.pure_def, Option.bind_eq_bind, Option.bind_some, read]

/-- A restart reads back a valid chain from its rows. -/
theorem loadEvents_mirrored (valid : (eventChain sha256).validFrom "" 1 events = true)
    (mirrored : Mirrored store state events)
    (distinct : (events.map AgentFabricEvent.eventId).Nodup) :
    ∃ loaded, loadEvents (store.list state collection) = some loaded ∧
      List.Forall₂ AgentFabricEvent.Same loaded events := by
  obtain ⟨loaded, ordered, read, perm, same⟩ :=
    loadEvents_sorted lawful state events mirrored distinct
  have increase := (eventChain sha256).sequences_increase "" 1 events valid
  have sequences : (ordered.map AgentFabricEvent.sequence).Nodup :=
    (perm.map _).nodup_iff.mpr (increase.imp ne_of_lt)
  rw [sortedBy_eq_of_perm AgentFabricEvent.sequence ordered events perm sequences,
    show sortedBy AgentFabricEvent.sequence events = events from
      (eventChain sha256).sortedBy_of_validFrom "" 1 events valid] at same
  exact ⟨loaded, read, same⟩

end EventStore

open Transition

/-- The event keeps what the request asked for. -/
structure Records (request : AppendRequest) (event : AgentFabricEvent) : Prop where
  eventType : event.eventType = request.eventType
  aggregateId : event.aggregateId = request.aggregateId
  payload : Json.sortObject event.payload = Json.sortObject request.payload
  eventId : event.eventId = request.eventId
  timestamp : event.timestamp = request.timestamp.toDateTime

/-- The requests of the append calls in their order. -/
def appended (calls : List EventCall) : List AppendRequest :=
  calls.filterMap fun call =>
    match call with
    | .append request => some request
    | .reload => none

/-- An append has a registered type and a reload needs a persistence. -/
def EventCall.Allowed (persistent : Bool) : EventCall → Prop
  | .append request => request.eventType ∈ eventTypeRegistry
  | .reload => persistent = true

namespace EventStore

variable {State : Type} (sha256 : String → String) (store : PersistenceStore State)

/-- The events form one valid chain that records the requests and matches the persistence. -/
structure Chained (persistent : Bool) (requests : List AppendRequest)
    (persistence : Option State) (events : List AgentFabricEvent) : Prop where
  valid : (eventChain sha256).validFrom "" 1 events = true
  recorded : List.Forall₂ Records requests events
  present : persistence.isSome = persistent
  stored : ∀ state, persistence = some state → Mirrored store state events

/-- The invariant of an event store reads its events up to the order of payload fields. -/
def Invariant (persistent : Bool) (requests : List AppendRequest)
    (eventStore : EventStore State) : Prop :=
  Chained sha256 store persistent requests eventStore.persistence (eventStore.events.map canonical)

variable {sha256 store} {persistent : Bool} {requests : List AppendRequest}

/-- The recorded events carry the ids of their requests. -/
theorem Chained.eventIds {persistence : Option State} {events : List AgentFabricEvent}
    (chained : Chained sha256 store persistent requests persistence events) :
    events.map AgentFabricEvent.eventId = requests.map AppendRequest.eventId := by
  symm
  rw [map_eq_map_iff_forall₂]
  exact chained.recorded.imp fun _ _ records => records.eventId.symm

variable (lawful : store.Lawful)

include lawful

variable (eventStore : EventStore State)

/-- A registered append keeps the invariant when its id is new. -/
theorem append_invariant (persistent : Bool)
    (requests : List AppendRequest) (request : AppendRequest)
    (invariant : Invariant sha256 store persistent requests eventStore)
    (registered : request.eventType ∈ eventTypeRegistry)
    (fresh : persistent = true → request.eventId ∉ requests.map AppendRequest.eventId) :
    Invariant sha256 store persistent (requests ++ [request])
      (eventStore.append sha256 store request).2 := by
  obtain ⟨persistence, events⟩ := eventStore
  have ids := Chained.eventIds invariant
  obtain ⟨valid, recorded, present, stored⟩ := invariant
  have chain : (eventChain sha256).validFrom "" 1
      ((events ++ [nextEvent sha256 events request]).map canonical) = true := by
    rw [validFrom_canonical] at valid ⊢
    exact validFrom_nextEvent sha256 events request valid
  have record : Records request (nextEvent sha256 events request).canonical :=
    ⟨rfl, rfl, Json.sortObject_sortObject request.payload, rfl, rfl⟩
  have records : List.Forall₂ Records (requests ++ [request])
      ((events ++ [nextEvent sha256 events request]).map canonical) := by
    rw [List.map_append]
    exact List.rel_append recorded (.cons record .nil)
  obtain ⟨next, appended, kept, written⟩ :=
    append_eq sha256 lawful ⟨persistence, events⟩ request registered
  rw [appended]
  refine ⟨chain, records, kept.trans present, ?_⟩
  intro after found
  obtain ⟨before, rfl⟩ : ∃ before, persistence = some before := by
    rw [← Option.isSome_iff_exists, ← kept, show next = some after from found]
    rfl
  rw [List.map_append]
  exact (stored before rfl).put lawful _ (ids ▸ fresh present.symm) (written before after rfl found)

/-- A restart over the persistence reads back equal events. -/
theorem new_invariant (requests : List AppendRequest)
    (invariant : Invariant sha256 store true requests eventStore)
    (distinct : (requests.map AppendRequest.eventId).Nodup) :
    ∃ reloaded, new store eventStore.persistence = .ok reloaded ∧
      reloaded.persistence = eventStore.persistence ∧
      List.Forall₂ AgentFabricEvent.Same reloaded.events eventStore.events := by
  obtain ⟨persistence, events⟩ := eventStore
  have ids := Chained.eventIds invariant
  obtain ⟨valid, _, present, stored⟩ := invariant
  obtain ⟨state, rfl⟩ := Option.isSome_iff_exists.mp present
  obtain ⟨loaded, read, same⟩ := loadEvents_mirrored sha256 lawful state _ valid (stored state rfl)
    (ids ▸ distinct)
  refine ⟨⟨some state, loaded⟩, by simp only [new, read], rfl, ?_⟩
  rw [List.forall₂_map_right_iff] at same
  exact same.imp fun first second equal => equal.trans second.canonical_canonical

variable {first second : EventStore State}

omit lawful in
/-- Equal events satisfy the same invariant. -/
theorem Invariant.of_same (invariant : Invariant sha256 store persistent requests second)
    (persistence : first.persistence = second.persistence)
    (same : List.Forall₂ AgentFabricEvent.Same first.events second.events) :
    Invariant sha256 store persistent requests first := by
  unfold Invariant
  rw [persistence, (map_eq_map_iff_forall₂ _ _ _ _).mpr same]
  exact invariant

omit lawful in
/-- The invariant holds the verdict of the integrity check. -/
theorem Invariant.validates {eventStore : EventStore State}
    (invariant : Invariant sha256 store persistent requests eventStore) :
    eventStore.validateIntegrity sha256 = true := by
  have valid := invariant.valid
  rw [validFrom_canonical] at valid
  unfold validateIntegrity
  rw [show sortedBy AgentFabricEvent.sequence _ = _ from
    (eventChain sha256).sortedBy_of_validFrom "" 1 _ valid]
  exact valid

/-- Each allowed call keeps the invariant. -/
theorem step_invariant (persistent : Bool) (requests : List AppendRequest) (call : EventCall)
    (invariant : Invariant sha256 store persistent requests eventStore)
    (allowed : call.Allowed persistent)
    (fresh : persistent = true → ((requests ++ appended [call]).map AppendRequest.eventId).Nodup) :
    Invariant sha256 store persistent (requests ++ appended [call])
      (eventStore.step sha256 store call).2 := by
  cases call with
  | append request =>
      apply append_invariant lawful eventStore persistent requests request invariant allowed
      intro isPersistent
      have distinct := fresh isPersistent
      rw [List.map_append] at distinct
      exact fun member => List.disjoint_of_nodup_append distinct member (by simp [appended])
  | reload =>
      obtain rfl : persistent = true := allowed
      have distinct := fresh rfl
      simp only [appended, List.filterMap_cons, List.filterMap_nil, List.append_nil] at distinct ⊢
      obtain ⟨reloaded, opened, persistence, same⟩ :=
        new_invariant lawful eventStore requests invariant distinct
      simp only [step, opened]
      exact invariant.of_same persistence same

variable (sha256)

/-- Every allowed run with distinct ids keeps the invariant. -/
theorem reached_invariant (persistent : Bool) (calls : List EventCall)
    (allowed : ∀ call ∈ calls, call.Allowed persistent)
    (fresh : persistent = true → ((appended calls).map AppendRequest.eventId).Nodup) :
    Invariant sha256 store persistent (appended calls) (reached sha256 store persistent calls) := by
  induction calls using List.reverseRecOn with
  | nil =>
      refine ⟨rfl, .nil, ?_, ?_⟩
      · cases persistent <;> rfl
      · intro state same
        refine ⟨by simp [reached, initial], ?_⟩
        intro eventId row present
        cases persistent with
        | false => cases same
        | true =>
            cases same
            rw [lawful.get_initial] at present
            cases present
  | append_singleton calls call ih =>
      have split : appended (calls ++ [call]) = appended calls ++ appended [call] :=
        List.filterMap_append ..
      rw [split] at fresh ⊢
      have before := ih (fun other member => allowed other (List.mem_append_left _ member))
        fun isPersistent => by
          have distinct := fresh isPersistent
          rw [List.map_append] at distinct
          exact distinct.of_append_left
      unfold reached
      rw [run_append]
      exact step_invariant lawful _ persistent _ call before (allowed call (by simp)) fresh

omit lawful in
/-- Equal events have equal timelines. -/
theorem timeline_of_same (same : List.Forall₂ AgentFabricEvent.Same first.events second.events) :
    List.Forall₂ Json.Same first.timeline second.timeline := by
  have sorted := sortedBy_forall₂ AgentFabricEvent.sequence AgentFabricEvent.sequence
    (fun _ _ equal => equal.sequence) same
  unfold timeline
  rw [List.forall₂_map_left_iff, List.forall₂_map_right_iff]
  exact sorted.imp fun _ _ equal => equal.asDict

omit lawful in
/-- Equal events have equal replays of every aggregate. -/
theorem replay_of_same (same : List.Forall₂ AgentFabricEvent.Same first.events second.events)
    (aggregateId : Option String) :
    List.Forall₂ AgentFabricEvent.Same (first.replay aggregateId) (second.replay aggregateId) := by
  cases aggregateId with
  | none => exact same
  | some aggregateId =>
      refine List.rel_filter ?_ same
      intro left right equal
      simp only [equal.aggregateId]

/-- Every run of registered appends and reloads keeps one valid chain that numbers the appends
from one on, and a reload returns equal timelines and replays. -/
theorem reached_integrity (persistent : Bool) (calls : List EventCall)
    (allowed : ∀ call ∈ calls, call.Allowed persistent)
    (fresh : persistent = true → ((appended calls).map AppendRequest.eventId).Nodup) :
    (reached sha256 store persistent calls).validateIntegrity sha256 = true ∧
      (reached sha256 store persistent calls).events.map AgentFabricEvent.sequence =
        (List.range (appended calls).length).map (fun index : Nat => 1 + (index : Int)) ∧
      List.Forall₂ Records (appended calls) (reached sha256 store persistent calls).events ∧
      (persistent = true → ∃ reloaded,
        new store (reached sha256 store persistent calls).persistence = .ok reloaded ∧
        List.Forall₂ Json.Same reloaded.timeline (reached sha256 store persistent calls).timeline ∧
        ∀ aggregateId, List.Forall₂ AgentFabricEvent.Same (reloaded.replay aggregateId)
          ((reached sha256 store persistent calls).replay aggregateId)) := by
  have invariant := reached_invariant sha256 lawful persistent calls allowed fresh
  have valid := invariant.valid
  rw [validFrom_canonical] at valid
  have recorded := invariant.recorded
  rw [List.forall₂_map_right_iff] at recorded
  have records := recorded.imp fun request event (kept : Records request event.canonical) =>
    (⟨kept.eventType, kept.aggregateId,
      (Json.sortObject_sortObject event.payload).symm.trans kept.payload,
      kept.eventId, kept.timestamp⟩ : Records request event)
  refine ⟨invariant.validates, ?_, records, ?_⟩
  · rw [records.length_eq]
    exact (eventChain sha256).sequences_of_validFrom "" 1 _ valid
  · rintro rfl
    obtain ⟨reloaded, opened, _, same⟩ := new_invariant lawful _ _ invariant (fresh rfl)
    exact ⟨reloaded, opened, timeline_of_same same, replay_of_same same⟩

end EventStore

namespace EventStore

/-- Two registered appends with a reload between them. -/
def registerTwice : List EventCall := [
  .append ⟨"agent.registered", "agent-a", [("version", .int 1), ("name", .str "a")], "evt-1", .first⟩,
  .reload,
  .append ⟨"agent.registered", "agent-b", [], "evt-2", .first⟩]

theorem reached_integrity_registered :
    (reached id MemoryPersistenceStore.backend true registerTwice).validateIntegrity id = true ∧
      (reached id MemoryPersistenceStore.backend true registerTwice).events.map
        AgentFabricEvent.sequence = [1, 2] := by
  have integrity := reached_integrity id MemoryPersistenceStore.backend_lawful true registerTwice
    (by
      intro call member
      simp only [registerTwice, List.mem_cons, List.not_mem_nil, or_false] at member
      rcases member with rfl | rfl | rfl
      · exact (by decide : "agent.registered" ∈ eventTypeRegistry)
      · rfl
      · exact (by decide : "agent.registered" ∈ eventTypeRegistry))
    (fun _ => by decide)
  exact ⟨integrity.1, integrity.2.1⟩

end EventStore

/-- The fields of an event that its hash covers, with the payload in canonical form. -/
structure HashedFields where
  eventId : String
  sequence : Int
  eventType : String
  aggregateId : String
  payload : List (String × Json)
  timestamp : DateTime
  previousHash : String

namespace AgentFabricEvent

def hashedFields (event : AgentFabricEvent) : HashedFields where
  eventId := event.eventId
  sequence := event.sequence
  eventType := event.eventType
  aggregateId := event.aggregateId
  payload := Json.sortObject event.payload
  timestamp := event.timestamp
  previousHash := event.previousHash

/-- The canonical text of an event binds each field that its hash covers. -/
theorem hashedFields_of_same (first second : AgentFabricEvent)
    (same : first.hashed.Same second.hashed) : first.hashedFields = second.hashedFields := by
  have text (key : String) := Json.textField_of_same same key none
  have eventId : first.eventId = second.eventId := Option.some.inj (text "event_id")
  have sequence : first.sequence = second.sequence :=
    Option.some.inj (Json.intField_of_same same "sequence" 0)
  have eventType : first.eventType = second.eventType := Option.some.inj (text "event_type")
  have aggregateId : first.aggregateId = second.aggregateId := Option.some.inj (text "aggregate_id")
  have previousHash : first.previousHash = second.previousHash :=
    Option.some.inj (text "previous_hash")
  have isoformats : first.timestamp.isoformat = second.timestamp.isoformat :=
    Option.some.inj (text "timestamp")
  have timestamp : first.timestamp = second.timestamp := by
    apply Option.some.inj
    rw [← DateTime.fromisoformat_isoformat, isoformats, DateTime.fromisoformat_isoformat]
  obtain ⟨read, present, payload⟩ := Json.objectField_of_same same "payload" second.payload rfl
  obtain rfl : first.payload = read := Option.some.inj present
  simp only [hashedFields, eventId, sequence, eventType, aggregateId, payload, timestamp,
    previousHash]

/-- An injective digest binds each field that the hash covers. -/
theorem hashedFields_of_hash (sha256 : String → String) (injective : Function.Injective sha256)
    (first second : AgentFabricEvent)
    (same : hashEvent sha256 first.hashed = hashEvent sha256 second.hashed) :
    first.hashedFields = second.hashedFields :=
  hashedFields_of_same first second (Json.same_of_dumps_eq (injective same))

end AgentFabricEvent

/-- The hash of the last event in the order of the sequence. -/
def lastEventHash (events : List AgentFabricEvent) : Option String :=
  (sortedBy AgentFabricEvent.sequence events).getLast?.map eventHash

/-- Two event lists that both validate under one last hash agree in every hashed field. -/
theorem validateIntegrity_tamperEvident {State Other : Type} (sha256 : String → String)
    (injective : Function.Injective sha256) (first : EventStore State) (second : EventStore Other)
    (firstValid : first.validateIntegrity sha256 = true)
    (secondValid : second.validateIntegrity sha256 = true)
    (last : lastEventHash first.events = lastEventHash second.events) :
    (sortedBy AgentFabricEvent.sequence first.events).map hashedFields =
      (sortedBy AgentFabricEvent.sequence second.events).map hashedFields := by
  apply (eventChain sha256).contents_eq_of_last hashedFields "" 1
  · exact hashedFields_of_hash sha256 injective
  · intro event other same
    exact congrArg HashedFields.previousHash same
  · intro event other same
    exact congrArg HashedFields.sequence same
  · exact firstValid
  · exact secondValid
  · exact last

variable (payload : List (String × Json))

/-- A registration whose payload fields stand in the given order. -/
def registration (payload : List (String × Json)) : AppendRequest where
  eventType := "agent.registered"
  aggregateId := "agent-1"
  payload := payload
  eventId := "evt-1"
  timestamp := .first

/-- A completed task. -/
def completion : AppendRequest where
  eventType := "task.completed"
  aggregateId := "agent-1"
  payload := []
  eventId := "evt-2"
  timestamp := .first

def firstEvent (payload : List (String × Json)) : AgentFabricEvent :=
  nextEvent id [] (registration payload)

/-- A store that holds a registration and a completed task chained to it. -/
def registered (payload : List (String × Json)) : EventStore Unit :=
  ⟨none, [firstEvent payload, nextEvent id [firstEvent payload] completion]⟩

theorem registered_sorted (payload : List (String × Json)) :
    (registered payload).validateIntegrity id = true ∧
      sortedBy AgentFabricEvent.sequence (registered payload).events =
        (registered payload).events := by
  have valid := validFrom_nextEvent id [firstEvent payload] completion
    (validFrom_nextEvent id [] (registration payload) rfl)
  have sorted : sortedBy AgentFabricEvent.sequence (registered payload).events =
      (registered payload).events := (eventChain id).sortedBy_of_validFrom "" 1 _ valid
  refine ⟨?_, sorted⟩
  rw [validateIntegrity, sorted]
  exact valid

theorem registered_lastEventHash (first second : List (String × Json))
    (same : Json.sortObject first = Json.sortObject second) :
    lastEventHash (registered first).events = lastEventHash (registered second).events := by
  have hashes : (firstEvent first).eventHash = (firstEvent second).eventHash := by
    apply Json.dumps_eq_of_same
    rw [Json.Same, hashed, hashed, Json.sortKeys, Json.sortKeys]
    simp only [registration, Json.sortFields, Json.sortKeys_obj, same]
  have chained : nextEvent id [firstEvent first] completion =
      nextEvent id [firstEvent second] completion := by
    simp only [nextEvent, List.getLast?_singleton, Option.map_some, hashes, List.length_singleton]
  rw [lastEventHash, lastEventHash, (registered_sorted first).2, (registered_sorted second).2]
  exact congrArg (fun event => some event.eventHash) chained

/-- The two orders of one payload validate with one last hash, behind a second event. -/
theorem validateIntegrity_tamperEvident_orders :
    (registered [("name", .str "a"), ("kind", .str "b")]).events.map hashedFields =
      (registered [("kind", .str "b"), ("name", .str "a")]).events.map
        hashedFields := by
  have same := validateIntegrity_tamperEvident id Function.injective_id
    (registered [("name", .str "a"), ("kind", .str "b")])
    (registered [("kind", .str "b"), ("name", .str "a")])
    (registered_sorted _).1 (registered_sorted _).1 (registered_lastEventHash _ _ rfl)
  rwa [(registered_sorted _).2, (registered_sorted _).2] at same

end AgentFabric.Events
