import AgentFabric.Proof.Server.QueueSteps

namespace AgentFabric.Server
open Transition

/-- A new message is at the end of its queue. -/
structure Put (before after : Tracked) (item : QueueItem) : Prop where
  items : ∀ query, after.items query =
    if query = item.queueName then before.items query ++ [item] else before.items query
  origins : ∀ messageId, messageId ≠ item.messageId →
    after.origins messageId = before.origins messageId

namespace Put

variable {before after : Tracked} {item : QueueItem} (put : Put before after item)
include put

theorem mem_items {query : String} {stored : QueueItem} (member : stored ∈ after.items query) :
    stored ∈ before.items query ∨ (stored = item ∧ query = item.queueName) := by
  rw [put.items] at member
  split at member
  · rename_i same
    exact (List.mem_append.mp member).imp_right fun last => ⟨List.mem_singleton.mp last, same⟩
  · exact .inl member

theorem copies (fresh : ∀ query, ∀ stored ∈ before.items query, stored.messageId ≠ item.messageId)
    (message query : String) :
    after.copies message query = before.copies message query ++
      if after.origin item = message ∧ query = item.queueName then [item] else [] := by
  have kept : (before.items query).filter (fun stored => after.origin stored = message) =
      before.copies message query := by
    apply List.filter_congr
    intro stored member
    rw [Tracked.origin, put.origins _ (fresh _ _ member), Tracked.origin]
  unfold Tracked.copies
  rw [put.items]
  by_cases same : query = item.queueName
  · rw [if_pos same, List.filter_append, kept]
    by_cases own : after.origin item = message <;> simp [own, same, Tracked.copies]
  · rw [if_neg same, kept]
    simp [same, Tracked.copies]

end Put

theorem Inv.mono {worker : Worker} {known : List String} {state : Tracked} {past : List Note}
    (inv : Inv worker known state past) (messageId : String) :
    Inv worker (messageId :: known) state past where
  itemsKnown queueName item member := List.mem_cons_of_mem _ (inv.itemsKnown queueName item member)
  heldKnown item held := List.mem_cons_of_mem _ (inv.heldKnown item held)
  rowsKnown query row present := List.mem_cons_of_mem _ (inv.rowsKnown query row present)
  sessionKnown item rows current query row present :=
    List.mem_cons_of_mem _ (inv.sessionKnown item rows current query row present)
  unchanged query absent := inv.unchanged query fun member => absent (.tail _ member)
  noted note member := List.mem_cons_of_mem _ (inv.noted note member)
  named := inv.named
  heldNamed := inv.heldNamed
  itemsOwned := inv.itemsOwned
  heldOwned := inv.heldOwned
  plain := inv.plain
  lives := inv.lives
  order := inv.order

section Views

variable {worker : Worker} {known : List String} {state : Tracked} {past : List Note}
  {message : String}

theorem historyOf_eq_nil (absent : ∀ note ∈ past, note.origin ≠ message) :
    historyOf message past = [] := by
  unfold historyOf
  rw [List.filter_eq_nil_iff.mpr fun note member => by simp [absent note member]]
  rfl

theorem handedOrigins_enqueued (message queueName : String) (payload : Payload) :
    handedOrigins [⟨message, .enqueued queueName payload⟩] = [] := rfl

theorem handedOrigins_handed (message : String) (handOff : HandOff) :
    handedOrigins [⟨message, .handed handOff⟩] = [message] := rfl

theorem enqueuedOn_handed (query message : String) (handOff : HandOff) :
    enqueuedOn query [⟨message, .handed handOff⟩] = [] := rfl

theorem enqueuedOn_enqueued (query message queueName : String) (payload : Payload) :
    enqueuedOn query [⟨message, .enqueued queueName payload⟩] =
      if queueName = query then [message] else [] := by
  unfold enqueuedOn
  by_cases same : queueName = query <;> simp [same]

theorem mem_handedOrigins :
    message ∈ handedOrigins past ↔ ∃ handOff, Tag.handed handOff ∈ historyOf message past := by
  unfold handedOrigins historyOf
  simp only [List.mem_filterMap, List.mem_map, List.mem_filter, decide_eq_true_eq]
  constructor
  · rintro ⟨note, member, handed⟩
    split at handed
    · rename_i handOff tag
      exact ⟨handOff, note, ⟨member, Option.some.inj handed⟩, tag⟩
    · cases handed
  · rintro ⟨fields, note, ⟨member, own⟩, tag⟩
    exact ⟨note, member, by rw [tag, own]⟩

theorem Inv.origin_known (inv : Inv worker known state past) {queueName : String} {item : QueueItem}
    (member : item ∈ state.items queueName) : state.origin item ∈ known := by
  obtain ⟨stored, payload, noted⟩ := inv.itemsOwned _ _ member
  exact inv.noted _ noted

theorem Inv.handed_known (inv : Inv worker known state past)
    (handed : message ∈ handedOrigins past) : message ∈ known := by
  obtain ⟨note, member, own⟩ := List.mem_filterMap.mp handed
  split at own
  · obtain rfl := Option.some.inj own
    exact inv.noted _ member
  · cases own

end Views

/-- The life of a message depends on its notes, its copies and the message of the iteration. -/
theorem Lives.of_eq {worker : Worker} {queueName : String} {payload : Payload} {stage : Stage}
    {before after : List Tag} {copies kept : String → List QueueItem} {held carried : Option QueueItem}
    (lives : Lives worker queueName payload stage before copies held) (history : after = before)
    (sameCopies : ∀ query, kept query = copies query) (sameHeld : carried = held) :
    Lives worker queueName payload stage after kept carried where
  history := history.trans lives.history
  bounded := lives.bounded
  copies query := by rw [sameCopies, lives.copies]
  held := by rw [sameHeld, lives.held]
  started := lives.started

section Enqueue

variable {worker : Worker} {known : List String} {before after : Tracked} {past : List Note}
  {item : QueueItem}

/-- A message of a caller starts its life. -/
theorem Inv.enqueued (inv : Inv worker known before past) (fresh : item.messageId ∉ known)
    (plain : Plain item.payload) (put : Put before after item)
    (origins : after.origins = before.origins) (current : after.state.current = before.state.current)
    (committed : ∀ messageId row, after.state.committed.get? messageId = some row →
      messageId = item.messageId ∨ before.state.committed.get? messageId = some row) :
    Inv worker (item.messageId :: known) after
      (past ++ [⟨item.messageId, .enqueued item.queueName item.payload⟩]) := by
  have old : ∀ query, ∀ stored ∈ before.items query, stored.messageId ≠ item.messageId :=
    fun query stored member same => fresh (same ▸ inv.itemsKnown query stored member)
  have own : after.origin item = item.messageId := by
    rw [Tracked.origin, origins, inv.unchanged _ fresh]
  have originOf : ∀ stored, after.origin stored = before.origin stored := by
    intro stored
    rw [Tracked.origin, origins, Tracked.origin]
  have held : after.held = before.held := by rw [Tracked.held, current, Tracked.held]
  have heldOf : ∀ message, after.heldOf message = before.heldOf message := by
    intro message
    simp only [Tracked.heldOf, held, originOf]
  have unseen : ∀ message ∈ known, item.messageId ≠ message :=
    fun message member same => fresh (same ▸ member)
  have enqueuedIn : ∀ message queueName payload,
      (⟨message, .enqueued queueName payload⟩ : Note) ∈
        past ++ [⟨item.messageId, .enqueued item.queueName item.payload⟩] →
      (⟨message, .enqueued queueName payload⟩ : Note) ∈ past ∨
        (message = item.messageId ∧ queueName = item.queueName ∧ payload = item.payload) := by
    intro message queueName payload member
    apply (List.mem_append.mp member).imp_right
    intro last
    obtain ⟨rfl, tag⟩ := Note.mk.inj (List.mem_singleton.mp last)
    exact ⟨rfl, (Tag.enqueued.inj tag).1, (Tag.enqueued.inj tag).2⟩
  constructor
  case itemsKnown =>
    intro query stored member
    obtain kept | ⟨rfl, -⟩ := put.mem_items member
    · exact .tail _ (inv.itemsKnown _ _ kept)
    · exact .head _
  case heldKnown =>
    intro stored isHeld
    exact .tail _ (inv.heldKnown _ (held ▸ isHeld))
  case rowsKnown =>
    intro messageId row present
    obtain rfl | kept := committed _ _ present
    · exact .head _
    · exact .tail _ (inv.rowsKnown _ _ kept)
  case sessionKnown =>
    intro stored rows session messageId row present
    exact .tail _ (inv.sessionKnown _ _ (current ▸ session) _ _ present)
  case unchanged =>
    intro messageId absent
    rw [origins]
    exact inv.unchanged _ fun member => absent (.tail _ member)
  case noted =>
    intro note member
    obtain earlier | last := List.mem_append.mp member
    · exact .tail _ (inv.noted _ earlier)
    · rw [List.mem_singleton.mp last]
      exact .head _
  case named =>
    intro query stored member
    obtain kept | ⟨rfl, same⟩ := put.mem_items member
    · exact inv.named _ _ kept
    · exact same.symm
  case heldNamed =>
    intro stored isHeld
    exact inv.heldNamed _ (held ▸ isHeld)
  case itemsOwned =>
    intro query stored member
    obtain kept | ⟨rfl, -⟩ := put.mem_items member
    · obtain ⟨queueName, payload, noted⟩ := inv.itemsOwned _ _ kept
      exact ⟨queueName, payload, List.mem_append_left _ (originOf stored ▸ noted)⟩
    · exact ⟨_, _, List.mem_append_right _ (List.mem_singleton.mpr (by rw [own]))⟩
  case heldOwned =>
    intro stored isHeld
    obtain ⟨queueName, payload, noted⟩ := inv.heldOwned _ (held ▸ isHeld)
    exact ⟨queueName, payload, List.mem_append_left _ (originOf stored ▸ noted)⟩
  case plain =>
    intro message queueName payload member
    obtain earlier | ⟨-, -, rfl⟩ := enqueuedIn _ _ _ member
    · exact inv.plain _ _ _ earlier
    · exact plain
  case lives =>
    intro message queueName payload member
    obtain earlier | ⟨rfl, rfl, rfl⟩ := enqueuedIn _ _ _ member
    · have other := unseen _ (inv.noted _ earlier)
      obtain ⟨stage, lives⟩ := inv.lives _ _ _ earlier
      refine ⟨stage, lives.of_eq ?_ ?_ (heldOf message)⟩
      · rw [historyOf_append, if_neg other, List.append_nil]
      · intro query
        rw [put.copies old, own, if_neg fun both => other both.1, List.append_nil]
    · have noCopies : ∀ query, before.copies item.messageId query = [] := by
        intro query
        apply List.filter_eq_nil_iff.mpr
        intro stored member same
        exact unseen _ (inv.origin_known member) (of_decide_eq_true same).symm
      have notHeld : before.heldOf item.messageId = none := by
        apply Option.filter_eq_none_iff.mpr
        intro stored isHeld same
        obtain ⟨queueName, payload, noted⟩ := inv.heldOwned _ isHeld
        exact unseen _ (inv.noted _ noted) (of_decide_eq_true same).symm
      refine ⟨.waiting 0, ?_, ?_, ?_, ?_, ?_⟩
      · rw [historyOf_append, if_pos rfl,
          historyOf_eq_nil fun note member => (unseen _ (inv.noted _ member)).symm]
        rfl
      · exact lt_of_lt_of_le Int.zero_lt_one (le_max_left _ _)
      · intro query
        rw [put.copies old, own, noCopies, List.nil_append]
        by_cases same : query = item.queueName
        · simp [same, Stage.place, Stage.count, stamped]
        · simp [same, Ne.symm same, Stage.place]
      · rw [heldOf, notHeld]
        rfl
      · intro old
        cases old
  case order =>
    have unhanded : item.messageId ∉ handedOrigins past := fun handed => fresh (inv.handed_known handed)
    have new : [item.messageId].filter (fun origin => origin ∉ handedOrigins past) =
        [item.messageId] := by
      simp only [List.filter_singleton, unhanded, not_false_eq_true, decide_true, cond_true]
    have kept : (before.items worker.queueName).map after.origin =
        (before.items worker.queueName).map before.origin :=
      List.map_congr_left fun stored _ => originOf stored
    rw [enqueuedOn_append, handedOrigins_append, handedOrigins_enqueued, List.append_nil,
      enqueuedOn_enqueued, inv.order, put.items]
    by_cases same : worker.queueName = item.queueName
    · rw [if_pos same, if_pos same.symm, List.map_append, kept, List.filter_append, List.map_singleton,
        own, new, List.append_assoc]
    · rw [if_neg same, if_neg (Ne.symm same), kept, List.append_nil]

end Enqueue

section Handing

variable {worker : Worker} {known : List String} {before after : Tracked} {past : List Note}
  {item : QueueItem} {rest : List QueueItem} {rows : Rows}

theorem ne_deadLetters (queueName : String) : queueName ++ ".dlq" ≠ queueName := by
  intro same
  have length := congrArg String.length same
  rw [String.length_append] at length
  have positive : 0 < ".dlq".length := by decide
  omega

/-- A message in the worker's queue waits there, and it has one copy. -/
theorem Lives.waiting {queueName : String} {payload : Payload} {stage : Stage} {history : List Tag}
    {copies : String → List QueueItem} {held : Option QueueItem}
    (lives : Lives worker queueName payload stage history copies held)
    (first : copies worker.queueName = item :: rest) :
    ∃ failures, stage = .waiting failures ∧ queueName = worker.queueName ∧
      item.payload = stamped payload failures ∧ rest = [] := by
  have counted := lives.copies worker.queueName
  rw [first] at counted
  split at counted
  · rename_i place
    obtain ⟨stamp, none⟩ := List.cons.inj counted
    cases stage with
    | waiting failures =>
        exact ⟨failures, rfl, Option.some.inj place, stamp, List.map_eq_nil_iff.mp none⟩
    | dead failures =>
        have dead : queueName ++ ".dlq" = worker.queueName := Option.some.inj place
        rw [lives.started rfl] at dead
        exact absurd dead (ne_deadLetters _)
    | running failures => cases place
    | acked failures => cases place
  · cases counted

theorem filter_unhanded {origins handed : List String} {origin : String} (absent : origin ∉ origins) :
    origins.filter (fun other => other ∉ handed ++ [origin]) =
      origins.filter (fun other => other ∉ handed) := by
  apply List.filter_congr
  intro other member
  have different : other ≠ origin := fun same => absent (same ▸ member)
  simp [different]

/-- The first message of the queue is handed to its handler. -/
theorem Inv.handed (inv : Inv worker known before past) (idle : before.state.current = none)
    (first : before.items worker.queueName = item :: rest)
    (items : ∀ query, after.items query =
      if query = worker.queueName then rest else before.items query)
    (origins : after.origins = before.origins)
    (committed : after.state.committed = before.state.committed)
    (current : after.state.current = some ({ item with attempts := item.attempts + 1 }, rows))
    (session : ∀ messageId row, rows.get? messageId = some row → messageId ∈ known) :
    Inv worker known after
      (past ++ [⟨before.origin item,
        .handed ⟨kindOf worker.interpreter item.payload, handlerPayload item.payload⟩⟩]) := by
  have listed : item ∈ before.items worker.queueName := first ▸ List.mem_cons_self
  have originOf : ∀ stored, after.origin stored = before.origin stored := by
    intro stored
    rw [Tracked.origin, origins, Tracked.origin]
  have held : after.held = some { item with attempts := item.attempts + 1 } := by
    rw [Tracked.held, current]
    rfl
  have free : before.held = none := by
    rw [Tracked.held, idle]
    rfl
  have remaining : ∀ query, ∀ stored ∈ after.items query, stored ∈ before.items query := by
    intro query stored member
    rw [items] at member
    split at member
    · rename_i same
      rw [same, first]
      exact .tail _ member
    · exact member
  have enqueuedIn : ∀ {message queueName payload},
      (⟨message, .enqueued queueName payload⟩ : Note) ∈
        past ++ [⟨before.origin item,
          .handed ⟨kindOf worker.interpreter item.payload, handlerPayload item.payload⟩⟩] →
      (⟨message, .enqueued queueName payload⟩ : Note) ∈ past :=
    fun member => (mem_append_enqueued fun _ _ => Tag.noConfusion).mp member
  have copiesOf : ∀ message, before.copies message worker.queueName =
      if before.origin item = message
      then item :: after.copies message worker.queueName
      else after.copies message worker.queueName := by
    intro message
    simp only [Tracked.copies, first, items, if_true, originOf, List.filter_cons, decide_eq_true_eq]
  have copiesElsewhere : ∀ message query, query ≠ worker.queueName →
      after.copies message query = before.copies message query := by
    intro message query other
    simp only [Tracked.copies, items, if_neg other, originOf]
  obtain ⟨owner, ownerPayload, ownerNote⟩ := inv.itemsOwned _ _ listed
  obtain ⟨ownerStage, ownerLives⟩ := inv.lives _ _ _ ownerNote
  obtain ⟨failures, rfl, rfl, stamp, single⟩ := ownerLives.waiting ((copiesOf _).trans (if_pos rfl))
  constructor
  case itemsKnown => exact fun query stored member => inv.itemsKnown _ _ (remaining _ _ member)
  case heldKnown =>
    intro stored isHeld
    obtain rfl := Option.some.inj (held.symm.trans isHeld)
    exact inv.itemsKnown _ item listed
  case rowsKnown =>
    intro messageId row present
    exact inv.rowsKnown _ _ (committed ▸ present)
  case sessionKnown =>
    intro stored opened isCurrent messageId row present
    obtain ⟨rfl, rfl⟩ := Prod.mk.inj (Option.some.inj (current.symm.trans isCurrent))
    exact session _ _ present
  case unchanged =>
    intro messageId absent
    rw [origins]
    exact inv.unchanged _ absent
  case noted =>
    intro note member
    obtain earlier | last := List.mem_append.mp member
    · exact inv.noted _ earlier
    · rw [List.mem_singleton.mp last]
      exact inv.origin_known listed
  case named => exact fun query stored member => inv.named _ _ (remaining _ _ member)
  case heldNamed =>
    intro stored isHeld
    obtain rfl := Option.some.inj (held.symm.trans isHeld)
    exact inv.named _ item listed
  case itemsOwned =>
    intro query stored member
    obtain ⟨queueName, payload, noted⟩ := inv.itemsOwned _ _ (remaining _ _ member)
    exact ⟨queueName, payload, List.mem_append_left _ (originOf stored ▸ noted)⟩
  case heldOwned =>
    intro stored isHeld
    obtain rfl := Option.some.inj (held.symm.trans isHeld)
    exact ⟨_, _, List.mem_append_left _ (by rw [originOf]; exact ownerNote)⟩
  case plain => exact fun message queueName payload member => inv.plain _ _ _ (enqueuedIn member)
  case lives =>
    intro message queueName payload member
    have earlier := enqueuedIn member
    obtain ⟨stage, lives⟩ := inv.lives _ _ _ earlier
    by_cases own : before.origin item = message
    · subst own
      obtain ⟨failures, rfl, rfl, stamp, single⟩ := lives.waiting ((copiesOf _).trans (if_pos rfl))
      refine ⟨.running failures, ?_, lives.bounded, ?_, ?_, fun _ => rfl⟩
      · rw [historyOf_append, if_pos rfl, lives.history, stamp,
          handlerPayload_stamped (inv.plain _ _ _ earlier), kindOf_stamped]
        rfl
      · intro query
        by_cases same : query = worker.queueName
        · rw [same, single]
          rfl
        · rw [copiesElsewhere _ _ same, lives.copies]
          exact if_neg fun place => same (Option.some.inj place).symm
      · have taken : after.heldOf (before.origin item) =
            some { item with attempts := item.attempts + 1 } := by
          simp only [Tracked.heldOf, held, originOf, Option.filter_some]
          exact if_pos (decide_eq_true rfl)
        rw [taken, Option.map_some, stamp]
        rfl
    · refine ⟨stage, lives.of_eq ?_ ?_ ?_⟩
      · rw [historyOf_append, if_neg own, List.append_nil]
      · intro query
        by_cases same : query = worker.queueName
        · rw [same, copiesOf, if_neg own]
        · exact copiesElsewhere _ _ same
      · have different : (before.origin { item with attempts := item.attempts + 1 } = message) = False :=
          eq_false own
        simp only [Tracked.heldOf, held, free, originOf, different, decide_false, Option.filter_some,
          Option.filter_none, Bool.false_eq_true, if_false]
  case order =>
    have alone : before.origin item ∉ rest.map before.origin := by
      intro member
      obtain ⟨stored, inRest, same⟩ := List.mem_map.mp member
      have copy : stored ∈ after.copies (before.origin item) worker.queueName := by
        apply List.mem_filter.mpr
        rw [items, if_pos rfl, originOf]
        exact ⟨inRest, decide_eq_true same⟩
      rw [single] at copy
      cases copy
    have kept : rest.map after.origin = rest.map before.origin :=
      List.map_congr_left fun stored _ => originOf stored
    rw [enqueuedOn_append, handedOrigins_append, inv.order, items, if_pos rfl, first, kept,
      handedOrigins_handed, filter_unhanded alone, List.map_cons, List.eraseDups_append,
      enqueuedOn_handed, List.append_nil]
    by_cases again : before.origin item ∈ handedOrigins past
    · simp [List.removeAll, again]
    · simp [List.removeAll, again, List.eraseDups_cons]

end Handing

/-- A message that is settled leaves the iteration, and at most one message replaces it. -/
structure Settles (before after : Tracked) (item : QueueItem) (messageId : String)
    (added : String → List QueueItem) : Prop where
  released : after.state.current = none
  committed : after.state.committed = before.state.committed
  items : ∀ query, after.items query = before.items query ++ added query
  origins : ∀ query, query ≠ messageId → after.origins query = before.origins query
  added : ∀ query, ∀ stored ∈ added query,
    stored.messageId = messageId ∧ stored.queueName = query ∧ after.origin stored = before.origin item

section Settling

variable {worker : Worker} {known : List String} {before after : Tracked} {past : List Note}
  {item : QueueItem} {rows : Rows} {messageId : String} {added : String → List QueueItem} {tag : Tag}

/-- A message that is being handled has no copy in a queue. -/
theorem Lives.running {queueName : String} {payload : Payload} {stage : Stage} {history : List Tag}
    {copies : String → List QueueItem}
    (lives : Lives worker queueName payload stage history copies (some item)) :
    ∃ failures, stage = .running failures ∧ queueName = worker.queueName ∧
      item.payload = stamped payload failures ∧ ∀ query, copies query = [] := by
  have carried := lives.held
  cases stage with
  | running failures =>
      refine ⟨failures, rfl, lives.started rfl, Option.some.inj carried, fun query => ?_⟩
      exact List.map_eq_nil_iff.mp (lives.copies query)
  | waiting failures => cases carried
  | acked failures => cases carried
  | dead failures => cases carried

/-- A message at rest after an iteration. -/
structure Rests (worker : Worker) (payload : Payload) (failures : Nat) (tag : Tag)
    (added : String → List QueueItem) (stage : Stage) : Prop where
  history : stage.history worker.queueName payload (handOffOf worker.interpreter payload) =
    (Stage.running failures).history worker.queueName payload
      (handOffOf worker.interpreter payload) ++ [tag]
  bounded : stage.Bounded worker.maxAttempts
  idle : stage.isRunning = false
  copies : ∀ query, (added query).map QueueItem.payload =
    if stage.place worker.queueName = some query then [stamped payload stage.count] else []

/-- The message of the iteration gets to its next stage. -/
theorem Inv.settled (inv : Inv worker known before past) (fresh : messageId ∉ known)
    (current : before.state.current = some (item, rows))
    (settles : Settles before after item messageId added)
    (unlisted : ∀ queueName payload, tag ≠ .enqueued queueName payload)
    (unhanded : ∀ handOff, tag ≠ .handed handOff)
    (next : ∀ payload failures, item.payload = stamped payload failures →
      Plain payload → (failures : Int) < worker.maxAttempts →
      ∃ stage, Rests worker payload failures tag added stage) :
    Inv worker (messageId :: known) after (past ++ [⟨before.origin item, tag⟩]) := by
  have carried : before.held = some item := by
    rw [Tracked.held, current]
    rfl
  have free : after.held = none := by
    rw [Tracked.held, settles.released]
    rfl
  have old : ∀ query, ∀ stored ∈ before.items query, after.origin stored = before.origin stored := by
    intro query stored member
    rw [Tracked.origin, settles.origins, Tracked.origin]
    exact fun same => fresh (same ▸ inv.itemsKnown _ _ member)
  have split : ∀ query, ∀ stored ∈ after.items query,
      stored ∈ before.items query ∨ stored ∈ added query := by
    intro query stored member
    rw [settles.items] at member
    exact List.mem_append.mp member
  have enqueuedIn : ∀ {message queueName payload},
      (⟨message, .enqueued queueName payload⟩ : Note) ∈ past ++ [⟨before.origin item, tag⟩] →
      (⟨message, .enqueued queueName payload⟩ : Note) ∈ past :=
    fun member => (mem_append_enqueued unlisted).mp member
  have copiesOf : ∀ message query, after.copies message query =
      before.copies message query ++ if before.origin item = message then added query else [] := by
    intro message query
    have kept : (before.items query).filter (fun stored => after.origin stored = message) =
        before.copies message query :=
      List.filter_congr fun stored member => by rw [old _ _ member]
    unfold Tracked.copies
    rw [settles.items, List.filter_append, kept]
    congr 1
    split
    · rename_i own
      exact List.filter_eq_self.mpr fun stored member =>
        decide_eq_true ((settles.added _ _ member).2.2.trans own)
    · rename_i other
      exact List.filter_eq_nil_iff.mpr fun stored member own =>
        other ((settles.added _ _ member).2.2.symm.trans (of_decide_eq_true own))
  obtain ⟨owner, ownerPayload, ownerNote⟩ := inv.heldOwned _ carried
  have ownerKnown : before.origin item ∈ known := inv.noted _ ownerNote
  have heldOwn : before.heldOf (before.origin item) = some item := by
    rw [Tracked.heldOf, carried, Option.filter_some]
    exact if_pos (decide_eq_true rfl)
  constructor
  case itemsKnown =>
    intro query stored member
    obtain earlier | new := split _ _ member
    · exact .tail _ (inv.itemsKnown _ _ earlier)
    · rw [(settles.added _ _ new).1]
      exact .head _
  case heldKnown =>
    intro stored isHeld
    rw [free] at isHeld
    cases isHeld
  case rowsKnown =>
    intro query row present
    exact .tail _ (inv.rowsKnown _ _ (settles.committed ▸ present))
  case sessionKnown =>
    intro stored opened isCurrent
    rw [settles.released] at isCurrent
    cases isCurrent
  case unchanged =>
    intro query absent
    rw [settles.origins _ fun same => absent (same ▸ List.mem_cons_self)]
    exact inv.unchanged _ fun member => absent (.tail _ member)
  case noted =>
    intro note member
    obtain earlier | last := List.mem_append.mp member
    · exact .tail _ (inv.noted _ earlier)
    · rw [List.mem_singleton.mp last]
      exact .tail _ ownerKnown
  case named =>
    intro query stored member
    obtain earlier | new := split _ _ member
    · exact inv.named _ _ earlier
    · exact (settles.added _ _ new).2.1
  case heldNamed =>
    intro stored isHeld
    rw [free] at isHeld
    cases isHeld
  case itemsOwned =>
    intro query stored member
    obtain earlier | new := split _ _ member
    · obtain ⟨queueName, payload, noted⟩ := inv.itemsOwned _ _ earlier
      exact ⟨queueName, payload, List.mem_append_left _ (old _ _ earlier ▸ noted)⟩
    · rw [(settles.added _ _ new).2.2]
      exact ⟨_, _, List.mem_append_left _ ownerNote⟩
  case heldOwned =>
    intro stored isHeld
    rw [free] at isHeld
    cases isHeld
  case plain => exact fun message queueName payload member => inv.plain _ _ _ (enqueuedIn member)
  case lives =>
    intro message queueName payload member
    have earlier := enqueuedIn member
    obtain ⟨stage, lives⟩ := inv.lives _ _ _ earlier
    have none : after.heldOf message = none := by rw [Tracked.heldOf, free, Option.filter_none]
    by_cases own : before.origin item = message
    · subst own
      rw [heldOwn] at lives
      obtain ⟨failures, rfl, rfl, stamp, noCopies⟩ := lives.running
      obtain ⟨stage, rests⟩ := next _ _ stamp (inv.plain _ _ _ earlier) lives.bounded
      refine ⟨stage, ?_, rests.bounded, ?_, ?_, fun _ => rfl⟩
      · rw [historyOf_append, if_pos rfl, lives.history, rests.history]
      · intro query
        rw [copiesOf, noCopies, if_pos rfl, List.nil_append, rests.copies]
      · rw [none, rests.idle]
        rfl
    · have unheld : before.heldOf message = .none := by
        rw [Tracked.heldOf, carried, Option.filter_some]
        exact if_neg fun same => own (of_decide_eq_true same)
      refine ⟨stage, lives.of_eq ?_ ?_ (none.trans unheld.symm)⟩
      · rw [historyOf_append, if_neg own, List.append_nil]
      · intro query
        rw [copiesOf, if_neg own, List.append_nil]
  case order =>
    have handed : before.origin item ∈ handedOrigins past := by
      obtain ⟨stage, lives⟩ := inv.lives _ _ _ ownerNote
      rw [heldOwn] at lives
      obtain ⟨failures, rfl, rfl, -, -⟩ := lives.running
      apply mem_handedOrigins.mpr
      rw [lives.history]
      exact ⟨_, List.mem_append_right _ (List.mem_singleton.mpr rfl)⟩
    have none : handedOrigins [⟨before.origin item, tag⟩] = [] := by
      cases tag with
      | handed handOff => exact absurd rfl (unhanded handOff)
      | _ => rfl
    have unlistedNote : enqueuedOn worker.queueName [⟨before.origin item, tag⟩] = [] := by
      cases tag with
      | enqueued queueName payload => exact absurd rfl (unlisted queueName payload)
      | _ => rfl
    have kept : (before.items worker.queueName).map after.origin =
        (before.items worker.queueName).map before.origin :=
      List.map_congr_left fun stored member => old _ _ member
    have dropped : ((added worker.queueName).map after.origin).filter
        (fun origin => origin ∉ handedOrigins past) = [] := by
      apply List.filter_eq_nil_iff.mpr
      intro origin member
      obtain ⟨stored, new, rfl⟩ := List.mem_map.mp member
      rw [(settles.added _ _ new).2.2]
      simp [handed]
    rw [enqueuedOn_append, handedOrigins_append, none, unlistedNote, List.append_nil, List.append_nil,
      inv.order, settles.items, List.map_append, kept, List.filter_append, dropped, List.append_nil]

end Settling

end AgentFabric.Server
