import AgentFabric.Proof.Events.EventLog

namespace AgentFabric.Events
open Sorting Transition Persistence Aligned AgentFabricEvent EventStore MemoryPersistenceStore

variable {Writer State : Type} (sha256 : String → String)
  (store : PersistenceStore State)

/-- The next event reads only the number of events and the last hash. -/
theorem EventStore.nextEvent_of_same (request : AppendRequest) {first second : List AgentFabricEvent}
    (same : List.Forall₂ AgentFabricEvent.Same first second) :
    nextEvent sha256 first request = nextEvent sha256 second request := by
  have hashes : first.map eventHash = second.map eventHash :=
    (map_eq_map_iff_forall₂ _ _ _ _).mpr (same.imp fun _ _ equal => equal.eventHash)
  have last : first.getLast?.map eventHash = second.getLast?.map eventHash := by
    rw [← List.getLast?_map, hashes, List.getLast?_map]
  unfold nextEvent
  rw [last, same.length_eq]

theorem filterMap_singleton {Item Result : Type} (f : Item → Option Result) (item : Item) :
    [item].filterMap f = (f item).toList := by
  rw [List.filterMap_cons]
  cases f item <;> rfl

namespace SharedCall

/-- The request of a registered append. -/
def registered? : SharedCall Writer → Option AppendRequest
  | .open _ => none
  | .append _ request => if request.eventType ∈ eventTypeRegistry then some request else none

end SharedCall

/-- The requests of a run that are appended. -/
def registeredRequests (calls : List (SharedCall Writer)) : List AppendRequest :=
  calls.filterMap SharedCall.registered?

namespace SharedStore

/-- A registered append finds as many events in its instance as the collection holds. -/
def UpToDate (shared : SharedStore Writer State) : SharedCall Writer → Prop
  | .open _ => True
  | .append writer request => request.eventType ∈ eventTypeRegistry →
      (shared.instances writer).length = (store.list shared.persistence collection).length

/-- The rows of the persistence are the returned events. -/
structure Logged (shared : SharedStore Writer State) (log : List AgentFabricEvent) : Prop where
  mirrored : EventStore.Mirrored store shared.persistence (log.map AgentFabricEvent.canonical)
  distinct : (log.map eventId).Nodup

/-- Every instance holds a front part of one valid chain. -/
structure Aligned (shared : SharedStore Writer State) (log : List AgentFabricEvent) : Prop where
  valid : (eventChain sha256).validFrom "" 1 log = true
  fronts : ∀ writer, ∃ front rest, log = front ++ rest ∧
    List.Forall₂ AgentFabricEvent.Same (shared.instances writer) front

variable {sha256 store} {shared : SharedStore Writer State} {log : List AgentFabricEvent}

theorem Logged.canonicalIds (logged : Logged store shared log) :
    ((log.map AgentFabricEvent.canonical).map eventId).Nodup := by
  rw [List.map_map]
  exact logged.distinct

variable (lawful : store.Lawful)

include lawful

section

variable (logged : Logged store shared log)
include logged

/-- A store opened over the persistence holds the returned events and nothing else. -/
theorem Logged.new :
    ∃ opened, EventStore.new store (some shared.persistence) = .ok opened ∧
      (opened.events.map AgentFabricEvent.canonical).Perm (log.map AgentFabricEvent.canonical) := by
  obtain ⟨loaded, ordered, read, perm, same⟩ :=
    loadEvents_sorted lawful _ _ logged.mirrored logged.canonicalIds
  refine ⟨⟨some shared.persistence, loaded⟩, by simp only [EventStore.new, read], ?_⟩
  show (loaded.map AgentFabricEvent.canonical).Perm _
  rw [(map_eq_map_iff_forall₂ _ _ _ _).mpr same]
  have sorted := (sortedBy_perm sequence ordered).trans perm
  have canonical : (log.map AgentFabricEvent.canonical).map AgentFabricEvent.canonical =
      log.map AgentFabricEvent.canonical := by
    rw [List.map_map]
    exact List.map_congr_left fun event _ => event.canonical_canonical
  exact canonical ▸ sorted.map AgentFabricEvent.canonical

/-- A store opened over a valid chain holds the chain in its order. -/
theorem Logged.new_valid (valid : (eventChain sha256).validFrom "" 1 log = true) :
    ∃ opened, EventStore.new store (some shared.persistence) = .ok opened ∧
      List.Forall₂ AgentFabricEvent.Same opened.events log := by
  obtain ⟨loaded, read, same⟩ := loadEvents_mirrored sha256 lawful _ _
    (by rwa [validFrom_canonical]) logged.mirrored logged.canonicalIds
  refine ⟨⟨some shared.persistence, loaded⟩, by simp only [EventStore.new, read], ?_⟩
  rw [List.forall₂_map_right_iff] at same
  exact same.imp fun _ event equal => equal.trans event.canonical_same

/-- The collection holds as many rows as events were returned. -/
theorem Logged.rows : (store.list shared.persistence collection).length = log.length := by
  obtain ⟨ordered, perm, held⟩ := list_mirrored lawful _ _ logged.mirrored logged.canonicalIds
  rw [held.length_eq, perm.length_eq, List.length_map]

end

variable [DecidableEq Writer]

/-- A registered append returns the next event of its instance and writes it through. -/
theorem step_append (shared : SharedStore Writer State) (writer : Writer) (request : AppendRequest)
    (registered : request.eventType ∈ eventTypeRegistry) :
    ∃ next, step sha256 store shared (.append writer request) =
        (.ok (some (nextEvent sha256 (shared.instances writer) request)), {
          persistence := next
          instances := Function.update shared.instances writer (shared.instances writer ++
            [nextEvent sha256 (shared.instances writer) request]) }) ∧
      store.put shared.persistence collection request.eventId
        (nextEvent sha256 (shared.instances writer) request).asDict = .ok next := by
  obtain ⟨persistence, appended, kept, written⟩ :=
    append_eq sha256 lawful (shared.view writer) request registered
  obtain ⟨next, rfl⟩ := Option.isSome_iff_exists.mp (kept.trans rfl)
  refine ⟨next, ?_, written _ next rfl rfl⟩
  simp only [step, appended]
  rfl

omit lawful in
theorem step_unregistered (shared : SharedStore Writer State) (writer : Writer)
    (request : AppendRequest) (unregistered : request.eventType ∉ eventTypeRegistry) :
    step sha256 store shared (.append writer request) =
      (.error (.valueError ("unregistered event type: " ++ request.eventType)), shared) := by
  simp only [step, EventStore.append, if_pos unregistered, view, Option.getD_some,
    Function.update_eq_self]
  rfl

omit [DecidableEq Writer] in
/-- A registered append logs its event. -/
theorem Logged.append (logged : Logged store shared log) (event : AgentFabricEvent) (next : State)
    (instances : Writer → List AgentFabricEvent)
    (fresh : event.eventId ∉ log.map eventId)
    (written : store.put shared.persistence collection event.eventId event.asDict = .ok next) :
    Logged store ⟨next, instances⟩ (log ++ [event]) where
  mirrored := by
    rw [List.map_append]
    apply logged.mirrored.put lawful event
    · rw [List.map_map]
      exact fresh
    · exact written
  distinct := by
    rw [List.map_append, List.map_singleton, ← List.concat_eq_append]
    exact logged.distinct.concat fresh

omit lawful in
/-- An instance with all events continues the chain. -/
theorem Aligned.append (aligned : Aligned sha256 shared log) (writer : Writer)
    (request : AppendRequest) (next : State)
    (upToDate : (shared.instances writer).length = log.length) :
    Aligned sha256 ⟨next, Function.update shared.instances writer (shared.instances writer ++
        [nextEvent sha256 (shared.instances writer) request])⟩
      (log ++ [nextEvent sha256 (shared.instances writer) request]) := by
  obtain ⟨front, rest, split, same⟩ := aligned.fronts writer
  have whole : rest = [] := by
    rw [split, List.length_append, ← same.length_eq] at upToDate
    exact List.length_eq_zero_iff.mp (by omega)
  rw [whole, List.append_nil] at split
  subst split
  have continued := nextEvent_of_same sha256 request same
  constructor
  · rw [continued]
    exact validFrom_nextEvent sha256 log request aligned.valid
  · intro other
    by_cases isWriter : other = writer
    · subst isWriter
      refine ⟨_, [], (List.append_nil _).symm, ?_⟩
      show List.Forall₂ _ (Function.update shared.instances other _ other) _
      rw [Function.update_self]
      exact List.rel_append same (.cons rfl .nil)
    · obtain ⟨otherFront, otherRest, otherSplit, otherSame⟩ := aligned.fronts other
      have longer := congrArg (· ++ [nextEvent sha256 (shared.instances writer) request]) otherSplit
      refine ⟨otherFront, _, longer.trans (List.append_assoc _ _ _), ?_⟩
      · show List.Forall₂ _ (Function.update shared.instances writer _ other) _
        rwa [Function.update_of_ne isWriter]

omit lawful [DecidableEq Writer] in
/-- An instance that misses an event reuses a number of the chain. -/
theorem Aligned.reuses (aligned : Aligned sha256 shared log) (writer : Writer)
    (request : AppendRequest) (outdated : (shared.instances writer).length ≠ log.length) :
    ¬ ((log ++ [nextEvent sha256 (shared.instances writer) request]).map sequence).Nodup := by
  obtain ⟨front, rest, split, same⟩ := aligned.fronts writer
  have shorter : (shared.instances writer).length < log.length := by
    have lengths := same.length_eq
    rw [split, List.length_append] at outdated ⊢
    omega
  have numbers := (eventChain sha256).sequences_of_validFrom "" 1 log aligned.valid
  have reused : (nextEvent sha256 (shared.instances writer) request).sequence ∈
      log.map sequence := by
    rw [show log.map sequence = _ from numbers, List.mem_map]
    refine ⟨(shared.instances writer).length, List.mem_range.mpr shorter, ?_⟩
    show (1 : Int) + (shared.instances writer).length = (shared.instances writer).length + 1
    omega
  rw [List.map_append]
  intro distinct
  exact List.disjoint_of_nodup_append distinct reused (by simp)

variable (sha256) in
/-- A run so far keeps one chain, or a number is used twice. -/
def Verdict (guarded : Prop) (shared : SharedStore Writer State) (log : List AgentFabricEvent) :
    Prop :=
  (guarded ∧ Aligned sha256 shared log) ∨ (¬ guarded ∧ ¬ (log.map sequence).Nodup)

omit lawful [DecidableEq Writer] in
/-- A number that is used twice stays used twice. -/
theorem Verdict.broken {guarded condition : Prop} (unguarded : ¬ guarded)
    (repeated : ¬ (log.map sequence).Nodup) (more : List AgentFabricEvent) :
    Verdict sha256 (guarded ∧ condition) shared (log ++ more) := by
  refine .inr ⟨fun both => unguarded both.1, ?_⟩
  rw [List.map_append]
  exact fun distinct => repeated distinct.of_append_left

variable {guarded : Prop}

section

variable (logged : Logged store shared log)
include logged

section

variable (verdict : Verdict sha256 guarded shared log)
include verdict

theorem open_verdict (writer : Writer) :
    ∃ instances, step sha256 store shared (.open writer) = (.ok none, { shared with instances }) ∧
      Verdict sha256 guarded { shared with instances } log := by
  rcases verdict with ⟨good, aligned⟩ | bad
  · obtain ⟨opened, read, same⟩ := logged.new_valid lawful aligned.valid
    refine ⟨Function.update shared.instances writer opened.events, by simp only [step, read],
      .inl ⟨good, aligned.valid, ?_⟩⟩
    intro other
    by_cases isWriter : other = writer
    · subst isWriter
      refine ⟨log, [], (List.append_nil _).symm, ?_⟩
      show List.Forall₂ _ (Function.update shared.instances other _ other) _
      rwa [Function.update_self]
    · obtain ⟨front, rest, split, held⟩ := aligned.fronts other
      refine ⟨front, rest, split, ?_⟩
      show List.Forall₂ _ (Function.update shared.instances writer _ other) _
      rwa [Function.update_of_ne isWriter]
  · obtain ⟨opened, read, _⟩ := logged.new lawful
    exact ⟨Function.update shared.instances writer opened.events, by simp only [step, read],
      .inr bad⟩

theorem append_verdict (writer : Writer) (request : AppendRequest)
    (registered : request.eventType ∈ eventTypeRegistry) (next : State) :
    Verdict sha256 (guarded ∧ UpToDate store shared (.append writer request))
      ⟨next, Function.update shared.instances writer (shared.instances writer ++
        [nextEvent sha256 (shared.instances writer) request])⟩
      (log ++ [nextEvent sha256 (shared.instances writer) request]) := by
  have rows := logged.rows lawful
  rcases verdict with ⟨good, aligned⟩ | ⟨unguarded, repeated⟩
  · by_cases upToDate : (shared.instances writer).length = log.length
    · exact .inl ⟨⟨good, fun _ => upToDate.trans rows.symm⟩,
        aligned.append writer request next upToDate⟩
    · refine .inr ⟨fun both => upToDate ((both.2 registered).trans rows), ?_⟩
      exact aligned.reuses writer request upToDate
  · exact Verdict.broken unguarded repeated _

/-- Each call logs its event and decides whether the chain goes on. -/
theorem step_verdict (call : SharedCall Writer)
    (fresh : ∀ request, call.registered? = some request → request.eventId ∉ log.map eventId) :
    Logged store (step sha256 store shared call).2
        (log ++ (answered? (step sha256 store shared call).1).toList) ∧
      Verdict sha256 (guarded ∧ UpToDate store shared call) (step sha256 store shared call).2
        (log ++ (answered? (step sha256 store shared call).1).toList) ∧
      (answered? (step sha256 store shared call).1).map eventId =
        call.registered?.map AppendRequest.eventId := by
  cases call with
  | «open» writer =>
      obtain ⟨instances, opened, kept⟩ := open_verdict lawful logged verdict writer
      rw [opened]
      simp only [answered?, Option.toList_none, List.append_nil, UpToDate, and_true]
      exact ⟨⟨logged.mirrored, logged.distinct⟩, kept, rfl⟩
  | append writer request =>
      by_cases registered : request.eventType ∈ eventTypeRegistry
      · obtain ⟨next, appended, written⟩ := step_append lawful shared writer request registered
        have known : SharedCall.registered? (.append writer request) = some request :=
          if_pos registered
        rw [appended, known]
        refine ⟨logged.append lawful _ next _ (fresh request known) written, ?_, rfl⟩
        exact append_verdict lawful logged verdict writer request registered next
      · have unknown : SharedCall.registered? (.append writer request) = none := if_neg registered
        have anyway : UpToDate store shared (.append writer request) :=
          fun known => absurd known registered
        rw [step_unregistered shared writer request registered, unknown]
        simp only [answered?, Option.toList_none, List.append_nil, anyway, and_true]
        exact ⟨logged, verdict, rfl⟩

end

end

variable (sha256)

/-- Every run logs its returned events and is one chain exactly when it is guarded. -/
theorem reached_verdict (calls : List (SharedCall Writer))
    (distinct : ((registeredRequests calls).map AppendRequest.eventId).Nodup) :
    Logged store (reached sha256 store calls) (returned sha256 store calls) ∧
      Verdict sha256 (Guarded (step sha256 store) (UpToDate store) (initial store) calls)
        (reached sha256 store calls) (returned sha256 store calls) ∧
      (returned sha256 store calls).map eventId =
        (registeredRequests calls).map AppendRequest.eventId := by
  induction calls using List.reverseRecOn with
  | nil =>
      refine ⟨⟨⟨?_, ?_⟩, List.nodup_nil⟩, .inl ⟨trivial, rfl, ?_⟩, rfl⟩
      · intro event member
        cases member
      · intro eventId row present
        rw [show (reached sha256 store []).persistence = store.initial from rfl,
          lawful.get_initial] at present
        cases present
      · exact fun _ => ⟨[], [], rfl, .nil⟩
  | append_singleton calls call ih =>
      have requests : registeredRequests (calls ++ [call]) =
          registeredRequests calls ++ call.registered?.toList := by
        rw [registeredRequests, List.filterMap_append, filterMap_singleton]
        rfl
      rw [requests, List.map_append] at distinct
      obtain ⟨logged, verdict, ids⟩ := ih distinct.of_append_left
      have fresh : ∀ request, call.registered? = some request →
          request.eventId ∉ (returned sha256 store calls).map eventId := by
        intro request known member
        rw [known] at distinct
        exact List.disjoint_of_nodup_append distinct (ids ▸ member) (by simp)
      have stepped := step_verdict lawful logged verdict call fresh
      have after : reached sha256 store (calls ++ [call]) =
          (step sha256 store (reached sha256 store calls) call).2 := by
        rw [reached, run_append]
        rfl
      have more : returned sha256 store (calls ++ [call]) = returned sha256 store calls ++
          (answered? (step sha256 store (reached sha256 store calls) call).1).toList := by
        rw [returned, responses_append, List.filterMap_append]
        exact congrArg _ (filterMap_singleton answered? _)
      rw [after, more, guarded_append, requests, List.map_append, List.map_append, ids]
      refine ⟨stepped.1, ?_, ?_⟩
      · show Verdict sha256 (_ ∧ (UpToDate store (reached sha256 store calls) call ∧ True)) _ _
        rw [and_true]
        exact stepped.2.1
      · rw [← Option.toList_map, ← Option.toList_map, stepped.2.2]

omit lawful [DecidableEq Writer] in
/-- A store that validates numbers its events with distinct numbers. -/
theorem sequences_of_validates (third : EventStore State) (log : List AgentFabricEvent)
    (valid : third.validateIntegrity sha256 = true)
    (same : (third.events.map AgentFabricEvent.canonical).Perm
      (log.map AgentFabricEvent.canonical)) :
    (log.map sequence).Nodup := by
  have increase := (eventChain sha256).sequences_increase "" 1 _ valid
  have sorted := (sortedBy_perm sequence third.events).map sequence
  have thirdNumbers : (third.events.map sequence).Nodup :=
    sorted.nodup_iff.mp (increase.imp ne_of_lt)
  have numbers := same.map sequence
  rw [List.map_map, List.map_map] at numbers
  exact numbers.nodup_iff.mp thirdNumbers

/-- A third store validates and holds each returned event once exactly when every append came from
an instance that held all the persisted events. -/
theorem third_validates_iff_upToDate (calls : List (SharedCall Writer))
    (distinct : ((registeredRequests calls).map AppendRequest.eventId).Nodup) :
    (∃ third, EventStore.new store (some (reached sha256 store calls).persistence) = .ok third ∧
        third.validateIntegrity sha256 = true ∧
        (third.events.map AgentFabricEvent.canonical).Perm
          ((returned sha256 store calls).map AgentFabricEvent.canonical)) ↔
      Guarded (step sha256 store) (UpToDate store) (initial store) calls := by
  obtain ⟨logged, verdict, _⟩ := reached_verdict sha256 lawful calls distinct
  obtain ⟨opened, read, perm⟩ := logged.new lawful
  rcases verdict with ⟨guarded, aligned⟩ | ⟨unguarded, repeated⟩
  · refine iff_of_true ⟨opened, read, ?_, perm⟩ guarded
    obtain ⟨other, otherRead, same⟩ := logged.new_valid lawful aligned.valid
    rw [read, Except.ok.injEq] at otherRead
    subst otherRead
    have valid : (eventChain sha256).validFrom "" 1 opened.events = true := by
      rw [← validFrom_canonical, (map_eq_map_iff_forall₂ _ _ _ _).mpr same, validFrom_canonical]
      exact aligned.valid
    unfold validateIntegrity
    rwa [show sortedBy sequence opened.events = opened.events from
      (eventChain sha256).sortedBy_of_validFrom "" 1 _ valid]
  · refine iff_of_false ?_ unguarded
    rintro ⟨third, _, valid, same⟩
    exact repeated (sequences_of_validates sha256 third _ valid same)

end SharedStore

namespace SharedStore

/-- A registration under its own event id. -/
def registration (eventId : String) : AppendRequest :=
  ⟨"agent.registered", "agent-a", [], eventId, .first⟩

/-- Two instances that both append to an empty collection. -/
def racingCalls : List (SharedCall Bool) :=
  [.append false (registration "evt-1"), .append true (registration "evt-2")]

/-- The second instance is opened anew before it appends. -/
def reopenedCalls : List (SharedCall Bool) :=
  [.append false (registration "evt-1"), .open true, .append true (registration "evt-2")]

/-- Two appends of two instances take the same number, and no third store validates. -/
theorem racing_third_invalid :
    ¬ ∃ third, EventStore.new backend
        (some (reached id backend racingCalls).persistence) = .ok third ∧
      third.validateIntegrity id = true ∧
      (third.events.map AgentFabricEvent.canonical).Perm
        ((returned id backend racingCalls).map AgentFabricEvent.canonical) := by
  rintro ⟨third, _, valid, same⟩
  have distinct := sequences_of_validates id third _ valid same
  have numbers : (returned id backend racingCalls).map sequence = [1, 1] := rfl
  rw [numbers] at distinct
  exact absurd distinct (by decide)

/-- The instance that is opened anew continues the chain. -/
theorem third_validates_iff_upToDate_reopened :
    ∃ third, EventStore.new backend
        (some (reached id backend reopenedCalls).persistence) = .ok third ∧
      third.validateIntegrity id = true ∧
      (third.events.map AgentFabricEvent.canonical).Perm
        ((returned id backend reopenedCalls).map AgentFabricEvent.canonical) := by
  rw [third_validates_iff_upToDate id backend_lawful reopenedCalls (by decide)]
  exact ⟨fun _ => rfl, trivial, fun _ => by rfl, trivial⟩

end SharedStore

end AgentFabric.Events
