import AgentFabric.Proof.Server.MessageSteps

namespace AgentFabric.Server
open Transition

/-- The message id that a call draws. -/
def drawn : QueueCall → Option String
  | .enqueue _ _ messageId => some messageId
  | .endIteration _ messageId => some messageId
  | .beginIteration => none

section Steps

variable {worker : Worker} {known : List String} {before : Tracked} {past : List Note}
  {messageId : String}

theorem Inv.row_absent (inv : Inv worker known before past) (fresh : messageId ∉ known) :
    before.state.committed.get? messageId = none := by
  apply Option.eq_none_iff_forall_ne_some.mpr
  intro row present
  exact fresh (inv.rowsKnown _ _ present)

theorem Inv.tracked_enqueue (inv : Inv worker known before past) (fresh : messageId ∉ known)
    (queueName : String) (payload : Payload) :
    tracked worker before (.enqueue queueName payload messageId) =
      (some ⟨messageId, .enqueued queueName payload⟩,
        ⟨{ before.state with
          backend := (before.state.backend.enqueue queueName payload messageId).2
          committed := before.state.committed.set messageId
            ⟨queueName, (Json.obj payload.items).sortKeys, "queued", 0, ""⟩ }, before.origins⟩) := by
  simp only [tracked, Worker.step, enqueue_fresh (inv.row_absent fresh), noteOf,
    inv.unchanged _ fresh]
  rfl

variable {payload : Payload}

section

variable (inv : Inv worker known before past)
include inv

theorem Inv.step_enqueue {queueName : String} (fresh : messageId ∉ known) (plain : Plain payload) :
    Inv worker (messageId :: known) (tracked worker before (.enqueue queueName payload messageId)).2
      (past ++ (tracked worker before (.enqueue queueName payload messageId)).1.toList) := by
  rw [inv.tracked_enqueue fresh]
  generalize changed : { before.state with
    backend := (before.state.backend.enqueue queueName payload messageId).2
    committed := before.state.committed.set messageId
      ⟨queueName, (Json.obj payload.items).sortKeys, "queued", 0, ""⟩ } = after
  have put : Put before ⟨after, before.origins⟩ ⟨messageId, queueName, payload, 0⟩ := {
    items := by
      intro query
      rw [← changed]
      refine (items_enqueue _ _ _ _ _).trans ?_
      split
      · rename_i same
        rw [same]
        rfl
      · rfl
    origins := fun _ _ => rfl }
  refine inv.enqueued fresh plain put rfl (changed ▸ rfl) ?_
  intro query row present
  rw [← changed] at present
  by_cases same : query = messageId
  · exact .inl same
  · exact .inr ((Dict.get?_set_of_ne _ _ same).symm.trans present)

/-- An iteration that takes no message changes nothing that a message depends on. -/
theorem Inv.idle {after : Tracked}
    (items : ∀ query, after.items query = before.items query) (origins : after.origins = before.origins)
    (committed : after.state.committed = before.state.committed)
    (current : after.state.current = before.state.current) : Inv worker known after past := by
  have held : after.held = before.held := by rw [Tracked.held, current, Tracked.held]
  have originOf : after.origin = before.origin := by
    funext item
    rw [Tracked.origin, origins, Tracked.origin]
  have copies : after.copies = before.copies := by
    funext message query
    rw [Tracked.copies, items, originOf, Tracked.copies]
  have heldOf : after.heldOf = before.heldOf := by
    funext message
    rw [Tracked.heldOf, held, originOf, Tracked.heldOf]
  constructor
  case itemsKnown => exact fun query item member => inv.itemsKnown _ _ (items query ▸ member)
  case heldKnown => exact fun item isHeld => inv.heldKnown _ (held ▸ isHeld)
  case rowsKnown => exact fun query row present => inv.rowsKnown _ _ (committed ▸ present)
  case sessionKnown => exact fun item rows session => inv.sessionKnown _ _ (current ▸ session)
  case unchanged => exact fun query absent => origins ▸ inv.unchanged _ absent
  case noted => exact inv.noted
  case named => exact fun query item member => inv.named _ _ (items query ▸ member)
  case heldNamed => exact fun item isHeld => inv.heldNamed _ (held ▸ isHeld)
  case itemsOwned =>
    exact fun query item member => originOf ▸ inv.itemsOwned _ _ (items query ▸ member)
  case heldOwned => exact fun item isHeld => originOf ▸ inv.heldOwned _ (held ▸ isHeld)
  case plain => exact inv.plain
  case lives =>
    rw [copies, heldOf]
    exact inv.lives
  case order =>
    rw [items, originOf]
    exact inv.order

theorem Inv.step_begin :
    Inv worker known (tracked worker before .beginIteration).2
      (past ++ (tracked worker before .beginIteration).1.toList) := by
  cases current : before.state.current with
  | some session =>
      have step : tracked worker before .beginIteration = (none, before) := by
        simp only [tracked, Worker.step, current]
        rfl
      rw [step, Option.toList_none, List.append_nil]
      exact inv
  | none =>
      cases listed : before.state.backend.items worker.queueName with
      | nil =>
          obtain ⟨answer, after⟩ := beginIteration_nil listed
          have step : tracked worker before .beginIteration = (none, ⟨{ before.state with
              backend := (before.state.backend.dequeue worker.queueName).2 }, before.origins⟩) := by
            rw [← after]
            simp only [tracked, Worker.step, current]
            generalize before.state.beginIteration worker = taken at answer
            obtain ⟨item, left⟩ := taken
            obtain rfl := answer
            rfl
          rw [step, Option.toList_none, List.append_nil]
          exact inv.idle (dequeue_nil listed).2 rfl rfl rfl
      | cons item rest =>
          have step : tracked worker before .beginIteration =
              (some ⟨before.origin item,
                  .handed ⟨kindOf worker.interpreter item.payload, handlerPayload item.payload⟩⟩,
                ⟨{ before.state with
                  backend := (before.state.backend.dequeue worker.queueName).2
                  current := some ({ item with attempts := item.attempts + 1 },
                    SqlQueueStore.markProcessing before.state.committed item.messageId) },
                  before.origins⟩) := by
            simp only [tracked, Worker.step, current, beginIteration_cons listed]
            rfl
          rw [step]
          refine inv.handed current listed (dequeue_cons listed).2 rfl rfl rfl ?_
          intro messageId row present
          by_contra absent
          rw [SqlQueueStore.markProcessing, get?_change (inv.row_absent absent)] at present
          cases present

end

/-- The ending of a failure. -/
def failedEnding (worker : Worker) (attempts : Int) : Ending :=
  if attempts < worker.maxAttempts then .retried else .deadLettered

variable {item : QueueItem} {raised : Option String}

/-- A failure puts one new message in a queue. -/
theorem tracked_failed {rows : Rows} {error : String}
    {attempts : Int} (current : before.state.current = some (item, rows))
    (failed : raisedBy worker item raised = some error) (fresh : rows.get? messageId = none)
    (counted : QueueService.failedAttempts worker.interpreter item.payload = .ok attempts) :
    tracked worker before (.endIteration raised messageId) =
      (some ⟨before.origin item, .settled true (failedEnding worker attempts)⟩,
        ⟨{ before.state with
          backend := (before.state.backend.enqueue (nextQueue worker item attempts)
            (item.payload.set QueueService.retryCountKey (.int attempts)) messageId).2
          current := none }, Function.update before.origins messageId (before.origin item)⟩) := by
  simp only [tracked, Worker.step, current, endIteration_failed failed fresh counted, noteOf, raisedIn,
    failed, outcomeOf, failedEnding]
  split <;> rfl

/-- The message that a failure puts in a queue. -/
def replacement (worker : Worker) (item : QueueItem) (attempts : Int) (messageId : String) :
    String → List QueueItem := fun query =>
  if query = nextQueue worker item attempts then [nextMessage worker item attempts messageId] else []

theorem settles_failed (before : Tracked) (item : QueueItem) (attempts : Int) (messageId : String) :
    Settles before
      ⟨{ before.state with
        backend := (before.state.backend.enqueue (nextQueue worker item attempts)
          (item.payload.set QueueService.retryCountKey (.int attempts)) messageId).2
        current := none }, Function.update before.origins messageId (before.origin item)⟩
      item messageId (replacement worker item attempts messageId) where
  released := rfl
  committed := rfl
  items query := by
    refine (items_enqueue _ _ _ _ _).trans ?_
    unfold replacement
    split
    · rename_i same
      rw [same]
      rfl
    · exact (List.append_nil _).symm
  origins query other := Function.update_of_ne other _ _
  added query stored member := by
    unfold replacement at member
    split at member
    · rename_i same
      rw [List.mem_singleton.mp member]
      exact ⟨rfl, same.symm, Function.update_self _ _ _⟩
    · exact absurd member List.not_mem_nil

/-- A message that fails is retried until its attempts are used up. -/
theorem rests_failed {failures : Nat}
    (named : item.queueName = worker.queueName) (stamp : item.payload = stamped payload failures)
    (bounded : (failures : Int) < worker.maxAttempts) :
    ∃ stage, Rests worker payload failures
      (.settled true (failedEnding worker (failures + 1 : Nat)))
      (replacement worker item (failures + 1 : Nat) messageId) stage := by
  by_cases retried : ((failures + 1 : Nat) : Int) < worker.maxAttempts
  · refine ⟨.waiting (failures + 1), ?_, retried, rfl, ?_⟩
    · rw [failedEnding, if_pos retried]
      simp [Stage.history, failedRounds]
    · intro query
      simp only [replacement, nextQueue, if_pos retried, named, Stage.place, Option.some.injEq,
        nextMessage, stamp, stamped_set, Stage.count, eq_comm]
      split <;> rfl
  · refine ⟨.dead failures, ?_, ?_, rfl, ?_⟩
    · rw [failedEnding, if_neg retried]
      simp [Stage.history]
    · change (failures : Int) + 1 = worker.maxAttempts
      omega
    · intro query
      simp only [replacement, nextQueue, if_neg retried, named, Stage.place, Option.some.injEq,
        nextMessage, stamp, stamped_set, Stage.count, eq_comm]
      split <;> rfl

theorem Inv.step_failed (inv : Inv worker known before past) (fresh : messageId ∉ known)
    {rows : Rows} {error : String}
    (current : before.state.current = some (item, rows))
    (failed : raisedBy worker item raised = some error) :
    Inv worker (messageId :: known) (tracked worker before (.endIteration raised messageId)).2
      (past ++ (tracked worker before (.endIteration raised messageId)).1.toList) := by
  have held : before.held = some item := by
    rw [Tracked.held, current]
    rfl
  have heldOwn : before.heldOf (before.origin item) = some item := by
    rw [Tracked.heldOf, held, Option.filter_some]
    exact if_pos (decide_eq_true rfl)
  obtain ⟨owner, payload, note⟩ := inv.heldOwned _ held
  obtain ⟨stage, lives⟩ := inv.lives _ _ _ note
  rw [heldOwn] at lives
  obtain ⟨failures, rfl, rfl, stamp, -⟩ := lives.running
  have counted : QueueService.failedAttempts worker.interpreter item.payload =
      .ok (failures + 1 : Nat) := by
    rw [stamp, failedAttempts_stamped _ (inv.plain _ _ _ note)]
  have absent : rows.get? messageId = none := by
    apply Option.eq_none_iff_forall_ne_some.mpr
    intro row present
    exact fresh (inv.sessionKnown _ _ current _ _ present)
  rw [tracked_failed current failed absent counted]
  refine inv.settled fresh current (settles_failed before item (failures + 1 : Nat) messageId)
    (fun _ _ => Tag.noConfusion) (fun _ => Tag.noConfusion) ?_
  intro otherPayload otherFailures otherStamp plain bounded
  have recounted : QueueService.failedAttempts worker.interpreter item.payload =
      .ok (otherFailures + 1 : Nat) := by
    rw [otherStamp, failedAttempts_stamped _ plain]
  rw [Except.ok.inj (counted.symm.trans recounted)]
  exact rests_failed (inv.heldNamed _ held) otherStamp bounded

theorem Inv.step_end (inv : Inv worker known before past) (fresh : messageId ∉ known)
    (raised : Option String) :
    Inv worker (messageId :: known) (tracked worker before (.endIteration raised messageId)).2
      (past ++ (tracked worker before (.endIteration raised messageId)).1.toList) := by
  cases current : before.state.current with
  | none =>
      have step : tracked worker before (.endIteration raised messageId) = (none, before) := by
        simp only [tracked, Worker.step, current]
        rfl
      rw [step, Option.toList_none, List.append_nil]
      exact inv.mono _
  | some session =>
      obtain ⟨item, rows⟩ := session
      cases failed : raisedBy worker item raised with
      | none =>
          have step : tracked worker before (.endIteration raised messageId) =
              (some ⟨before.origin item, .settled false .acked⟩,
                ⟨{ before.state with current := none }, before.origins⟩) := by
            simp only [tracked, Worker.step, current, endIteration_acked failed, noteOf, raisedIn,
              failed]
            rfl
          rw [step]
          have settles : Settles before ⟨{ before.state with current := none }, before.origins⟩ item
              messageId fun _ => [] := {
            released := rfl
            committed := rfl
            items := fun query => (List.append_nil _).symm
            origins := fun _ _ => rfl
            added := fun _ _ member => absurd member List.not_mem_nil }
          refine inv.settled fresh current settles (fun _ _ => Tag.noConfusion)
            (fun _ => Tag.noConfusion) ?_
          intro payload failures stamp plain bounded
          exact ⟨.acked failures, by simp [Stage.history], bounded, rfl, fun _ => rfl⟩
      | some error => exact inv.step_failed fresh current failed

end Steps

section Runs

variable (worker : Worker) (calls : List QueueCall)

/-- The notes of a run from an empty backend. -/
def notes : List Note :=
  (responses (tracked worker) .initial calls).flatMap Option.toList

/-- The worker after a run from an empty backend. -/
def final : Tracked := run (tracked worker) .initial calls

/-- The note of a call that puts a message in a queue. -/
def enqueueNote : QueueCall → Option Note
  | .enqueue queueName payload messageId => some ⟨messageId, .enqueued queueName payload⟩
  | _ => none

def Note.isEnqueued (note : Note) : Bool :=
  match note.tag with
  | .enqueued _ _ => true
  | _ => false

variable {worker} {known : List String} {before : Tracked} {past : List Note}

theorem Inv.step (inv : Inv worker known before past) (call : QueueCall)
    (plain : ∀ queueName payload messageId, call = .enqueue queueName payload messageId →
      Plain payload)
    (fresh : ∀ messageId ∈ drawn call, messageId ∉ known) :
    Inv worker ((drawn call).toList ++ known) (tracked worker before call).2
      (past ++ (tracked worker before call).1.toList) := by
  cases call with
  | enqueue queueName payload messageId =>
      exact inv.step_enqueue (fresh _ rfl) (plain _ _ _ rfl)
  | beginIteration => exact inv.step_begin
  | endIteration raised messageId => exact inv.step_end (fresh _ rfl) raised

/-- The calls that put messages in queues, and no others, have their notes. -/
theorem Inv.step_note (inv : Inv worker known before past) (call : QueueCall)
    (fresh : ∀ messageId ∈ drawn call, messageId ∉ known) :
    (tracked worker before call).1.toList.filter Note.isEnqueued = (enqueueNote call).toList := by
  cases call with
  | enqueue queueName payload messageId =>
      have new := fresh messageId rfl
      rw [inv.tracked_enqueue new]
      rfl
  | beginIteration =>
      unfold tracked Worker.step
      cases before.state.current with
      | some session => rfl
      | none =>
          obtain ⟨taken, after⟩ := before.state.beginIteration worker
          cases taken <;> rfl
  | endIteration raised messageId =>
      unfold tracked Worker.step
      cases before.state.current with
      | none => rfl
      | some session =>
          obtain ⟨item, rows⟩ := session
          change (noteOf worker before.origins (.endIteration raised messageId) (.settled item
            (before.state.endIteration worker item rows raised messageId).1)).toList.filter
              Note.isEnqueued = []
          cases (before.state.endIteration worker item rows raised messageId).1 <;> rfl

theorem inv_initial (worker : Worker) : Inv worker [] .initial [] := by
  have empty : ∀ queueName, Tracked.initial.items queueName = [] := fun _ => rfl
  have idle : Tracked.initial.held = none := rfl
  constructor
  case itemsKnown => exact fun queueName item member => nomatch empty queueName ▸ member
  case heldKnown => exact fun item held => nomatch idle.symm.trans held
  case rowsKnown => exact fun messageId row present => nomatch present
  case sessionKnown => exact fun item rows current => nomatch current
  case unchanged => exact fun _ _ => rfl
  case noted => exact fun note member => nomatch member
  case named => exact fun queueName item member => nomatch empty queueName ▸ member
  case heldNamed => exact fun item held => nomatch idle.symm.trans held
  case itemsOwned => exact fun queueName item member => nomatch empty queueName ▸ member
  case heldOwned => exact fun item held => nomatch idle.symm.trans held
  case plain => exact fun message queueName payload member => nomatch member
  case lives => exact fun message queueName payload member => nomatch member
  case order => rfl

/-- Every run keeps the invariant and the notes of the calls that put messages in queues. -/
theorem Inv.run (inv : Inv worker known before past) (calls : List QueueCall)
    (plain : ∀ queueName payload messageId, .enqueue queueName payload messageId ∈ calls →
      Plain payload)
    (distinct : (calls.flatMap fun call => (drawn call).toList).Nodup)
    (fresh : ∀ call ∈ calls, ∀ messageId ∈ drawn call, messageId ∉ known) :
    ∃ known, Inv worker known (run (tracked worker) before calls)
        (past ++ (responses (tracked worker) before calls).flatMap Option.toList) ∧
      ((responses (tracked worker) before calls).flatMap Option.toList).filter Note.isEnqueued =
        calls.flatMap fun call => (enqueueNote call).toList := by
  induction calls generalizing known before past with
  | nil => exact ⟨known, by rwa [responses, List.flatMap_nil, List.append_nil], rfl⟩
  | cons call rest ih =>
      rw [List.flatMap_cons, List.nodup_append'] at distinct
      obtain ⟨-, distinctRest, apart⟩ := distinct
      have first := fresh call (.head _)
      have next := inv.step call (fun queueName payload messageId same =>
        plain queueName payload messageId (same ▸ List.mem_cons_self)) first
      have later : ∀ other ∈ rest, ∀ messageId ∈ drawn other,
          messageId ∉ (drawn call).toList ++ known := by
        intro other member messageId isDrawn listed
        obtain again | earlier := List.mem_append.mp listed
        · exact apart again (List.mem_flatMap.mpr ⟨other, member, Option.mem_toList.mpr isDrawn⟩)
        · exact fresh other (.tail _ member) messageId isDrawn earlier
      obtain ⟨after, holds, listed⟩ := ih next
        (fun queueName payload messageId member =>
          plain queueName payload messageId (.tail _ member))
        distinctRest later
      refine ⟨after, ?_, ?_⟩
      · rw [responses, List.flatMap_cons, ← List.append_assoc]
        exact holds
      · rw [responses, List.flatMap_cons, List.filter_append, inv.step_note call first, listed,
          List.flatMap_cons]

end Runs

variable (history : List Tag)

/-- The hand-offs of a message to its handler. -/
def handOffs : Nat :=
  history.countP fun tag => match tag with
    | .handed _ => true
    | _ => false

/-- The results of the handler, where a failure is true. -/
def results : List Bool :=
  history.filterMap fun tag => match tag with
    | .settled raised _ => some raised
    | _ => none

/-- The endings of the calls of the handler. -/
def endings : List Ending :=
  history.filterMap fun tag => match tag with
    | .settled _ ending => some ending
    | _ => none

section Histories

variable (handOff : HandOff) (failures : Nat)

theorem handOffs_failedRounds : handOffs (failedRounds handOff failures) = failures := by
  induction failures with
  | zero => rfl
  | succ failures ih =>
      rw [failedRounds, handOffs, List.countP_append]
      exact congrArg (· + 1) ih

theorem results_failedRounds :
    results (failedRounds handOff failures) = List.replicate failures true := by
  induction failures with
  | zero => rfl
  | succ failures ih =>
      rw [failedRounds, results, List.filterMap_append, List.replicate_succ']
      exact congrArg (· ++ [true]) ih

theorem endings_failedRounds :
    endings (failedRounds handOff failures) = List.replicate failures .retried := by
  induction failures with
  | zero => rfl
  | succ failures ih =>
      rw [failedRounds, endings, List.filterMap_append, List.replicate_succ']
      exact congrArg (· ++ [Ending.retried]) ih

theorem handed_failedRounds {handed : HandOff}
    (member : Tag.handed handed ∈ failedRounds handOff failures) : handed = handOff := by
  induction failures with
  | zero => cases member
  | succ failures ih =>
      obtain earlier | last := List.mem_append.mp member
      · exact ih earlier
      · simpa using last

end Histories

namespace Stage

variable (queueName : String) (payload : Payload) (handOff : HandOff)

/-- The calls of the handler up to a stage. -/
def calls : Stage → Nat
  | waiting failures => failures
  | running failures | acked failures | dead failures => failures + 1

/-- The results of the handler up to a stage. -/
def results : Stage → List Bool
  | waiting failures | running failures => List.replicate failures true
  | acked failures => List.replicate failures true ++ [false]
  | dead failures => List.replicate (failures + 1) true

/-- The retries up to a stage. -/
def retries : Stage → Nat
  | waiting failures | running failures | acked failures | dead failures => failures

/-- The last ending of a stage. -/
def ended : Stage → List Ending
  | waiting _ | running _ => []
  | acked _ => [.acked]
  | dead _ => [.deadLettered]

variable (stage : Stage)

theorem handOffs_history : handOffs (stage.history queueName payload handOff) = stage.calls := by
  have rounds := handOffs_failedRounds handOff
  unfold handOffs at rounds ⊢
  cases stage <;> simp [history, calls, List.countP_append, rounds]

theorem results_history :
    Server.results (stage.history queueName payload handOff) = stage.results := by
  have rounds := results_failedRounds handOff
  unfold Server.results at rounds ⊢
  cases stage <;> simp [history, results, List.filterMap_append, rounds, List.replicate_succ']

theorem endings_history :
    endings (stage.history queueName payload handOff) = List.replicate stage.retries .retried ++
      stage.ended := by
  have rounds := endings_failedRounds handOff
  unfold endings at rounds ⊢
  cases stage <;> simp [history, ended, retries, List.filterMap_append, rounds]

theorem handed_history {handed : HandOff}
    (member : Tag.handed handed ∈ stage.history queueName payload handOff) : handed = handOff := by
  have rounds := handed_failedRounds handOff
  cases stage with
  | waiting failures =>
      simp only [history, List.mem_cons, reduceCtorEq, false_or] at member
      exact rounds failures member
  | running failures | acked failures | dead failures =>
      simp only [history, List.cons_append, List.mem_cons, List.mem_append, reduceCtorEq, false_or,
        Tag.handed.injEq, List.not_mem_nil, or_false] at member
      exact member.elim (rounds failures) id

end Stage

/-- What holds of a payload that was put in a queue, at the end of a run. -/
structure Delivered (worker : Worker) (calls : List QueueCall) (queueName : String)
    (payload : Payload) (messageId : String) : Prop where
  handed : ∀ handOff, .handed handOff ∈ historyOf messageId (notes worker calls) →
    handOff = ⟨kindOf worker.interpreter payload, payload.items⟩
  attempts : (handOffs (historyOf messageId (notes worker calls)) : Int) ≤ worker.maxAttempts
  once : (results (historyOf messageId (notes worker calls))).head? = some false →
    handOffs (historyOf messageId (notes worker calls)) = 1
  dead : ((results (historyOf messageId (notes worker calls))).count true : Int) = worker.maxAttempts →
    ((final worker calls).copies messageId (queueName ++ ".dlq")).length = 1
  exclusive : ¬ (.acked ∈ endings (historyOf messageId (notes worker calls)) ∧
    .deadLettered ∈ endings (historyOf messageId (notes worker calls)))
  conserved : ∃ place : Option String,
    (∀ query, ((final worker calls).copies messageId query).length =
      if place = some query then 1 else 0) ∧
    place.toList.length + ((final worker calls).heldOf messageId).toList.length +
      (endings (historyOf messageId (notes worker calls))).count .acked = 1
  intact : ∀ query, ∀ copy ∈ (final worker calls).copies messageId query,
    handlerPayload copy.payload = payload.items

/-- The message ids of the calls that put messages in a queue. -/
def enqueuedIds (queueName : String) (calls : List QueueCall) : List String :=
  calls.filterMap fun call => match call with
    | .enqueue stored _ messageId => if stored = queueName then some messageId else none
    | _ => none

/-- What holds of a queue worker at the end of a run. -/
structure Delivers (worker : Worker) (calls : List QueueCall) : Prop where
  delivered : ∀ queueName payload messageId, .enqueue queueName payload messageId ∈ calls →
    Delivered worker calls queueName payload messageId
  owned : ∀ queueName, ∀ item ∈ (final worker calls).items queueName, ∃ stored payload,
    .enqueue stored payload ((final worker calls).origin item) ∈ calls
  order : (handedOrigins (notes worker calls)).eraseDups <+: enqueuedIds worker.queueName calls

section Lives

variable {worker : Worker} {calls : List QueueCall} {known : List String} {queueName : String}
  {payload : Payload} {messageId : String} {stage : Stage}

/-- A message at a stage of its life is delivered as that stage says. -/
theorem Lives.delivered (plain : Plain payload)
    (lives : Lives worker queueName payload stage (historyOf messageId (notes worker calls))
      ((final worker calls).copies messageId) ((final worker calls).heldOf messageId)) :
    Delivered worker calls queueName payload messageId where
  handed handOff member := by
    rw [lives.history] at member
    exact stage.handed_history queueName payload _ member
  attempts := by
    rw [lives.history, Stage.handOffs_history]
    have bounded := lives.bounded
    cases stage <;> simp only [Stage.Bounded, Stage.calls] at bounded ⊢ <;> omega
  once first := by
    rw [lives.history, Stage.results_history] at first
    rw [lives.history, Stage.handOffs_history]
    cases stage with
    | acked failures =>
        cases failures with
        | zero => rfl
        | succ failures => simp [Stage.results, List.replicate_succ] at first
    | waiting failures => cases failures <;> simp [Stage.results, List.replicate_succ] at first
    | running failures => cases failures <;> simp [Stage.results, List.replicate_succ] at first
    | dead failures => simp [Stage.results, List.replicate_succ] at first
  dead failed := by
    rw [lives.history, Stage.results_history] at failed
    have bounded := lives.bounded
    have copies := congrArg List.length (lives.copies (queueName ++ ".dlq"))
    rw [List.length_map] at copies
    cases stage with
    | dead failures => simpa [Stage.place] using copies
    | waiting failures => simp [Stage.results, Stage.Bounded] at failed bounded; omega
    | running failures => simp [Stage.results, Stage.Bounded] at failed bounded; omega
    | acked failures => simp [Stage.results, Stage.Bounded] at failed bounded; omega
  exclusive := by
    rw [lives.history, Stage.endings_history]
    cases stage <;> simp [Stage.ended]
  conserved := by
    refine ⟨stage.place queueName, ?_, ?_⟩
    · intro query
      have copies := congrArg List.length (lives.copies query)
      rw [List.length_map] at copies
      rw [copies]
      split <;> rfl
    · have held := congrArg Option.isSome lives.held
      rw [Option.isSome_map] at held
      rw [lives.history, Stage.endings_history, List.count_append, List.count_replicate]
      generalize (final worker calls).heldOf messageId = carried at held ⊢
      cases carried <;> cases stage <;> first | rfl | cases held
  intact query copy member := by
    have listed : copy.payload ∈ ((final worker calls).copies messageId query).map
        QueueItem.payload := List.mem_map_of_mem member
    rw [lives.copies] at listed
    split at listed
    · rw [List.mem_singleton.mp listed, handlerPayload_stamped plain]
    · cases listed

end Lives

section Calls

variable (queueName : String) (calls : List QueueCall)

theorem mem_enqueueNotes {message queueName : String} {payload : Payload} {calls : List QueueCall} :
    (⟨message, .enqueued queueName payload⟩ : Note) ∈
        calls.flatMap (fun call => (enqueueNote call).toList) ↔
      .enqueue queueName payload message ∈ calls := by
  rw [← List.filterMap_eq_flatMap_toList, List.mem_filterMap]
  constructor
  · rintro ⟨call, member, noted⟩
    cases call with
    | enqueue stored fields messageId =>
        obtain ⟨rfl, tag⟩ := Note.mk.inj (Option.some.inj noted)
        obtain ⟨rfl, rfl⟩ := Tag.enqueued.inj tag
        exact member
    | beginIteration => cases noted
    | endIteration raised messageId => cases noted
  · intro member
    exact ⟨_, member, rfl⟩

theorem enqueuedIds_eq : enqueuedIds queueName calls =
    enqueuedOn queueName (calls.flatMap fun call => (enqueueNote call).toList) := by
  rw [← List.filterMap_eq_flatMap_toList, enqueuedOn, List.filterMap_filterMap]
  apply List.filterMap_congr
  intro call _
  cases call <;> rfl

theorem enqueuedOn_filter (past : List Note) :
    enqueuedOn queueName (past.filter Note.isEnqueued) = enqueuedOn queueName past := by
  rw [enqueuedOn, List.filterMap_filter, enqueuedOn]
  apply List.filterMap_congr
  intro note _
  obtain ⟨origin, tag⟩ := note
  cases tag <;> rfl

end Calls

/-- In every run each payload is handed to its handler as it was enqueued, no more often than its
attempts, and it is acknowledged once, dead-lettered once, or still there once. The handlers do not
modify the nested values of a payload, which they share with the queue. -/
theorem worker_delivers (worker : Worker) (calls : List QueueCall)
    (plain : ∀ queueName payload messageId, .enqueue queueName payload messageId ∈ calls →
      Plain payload)
    (distinct : (calls.filterMap drawn).Nodup) : Delivers worker calls := by
  rw [List.filterMap_eq_flatMap_toList] at distinct
  obtain ⟨known, inv, listed⟩ := (inv_initial worker).run calls plain distinct
    fun _ _ _ _ => List.not_mem_nil
  rw [List.nil_append] at inv
  have noted : ∀ message queueName payload,
      (⟨message, .enqueued queueName payload⟩ : Note) ∈ notes worker calls ↔
        .enqueue queueName payload message ∈ calls := by
    intro message queueName payload
    rw [← mem_enqueueNotes, ← listed, List.mem_filter]
    exact (and_iff_left rfl).symm
  constructor
  case delivered =>
    intro queueName payload messageId member
    obtain ⟨stage, lives⟩ := inv.lives _ _ _ ((noted _ _ _).mpr member)
    exact lives.delivered (plain _ _ _ member)
  case owned =>
    intro queueName item member
    obtain ⟨stored, payload, note⟩ := inv.itemsOwned _ _ member
    exact ⟨stored, payload, (noted _ _ _).mp note⟩
  case order =>
    rw [enqueuedIds_eq, ← listed, enqueuedOn_filter]
    exact ⟨_, inv.order.symm⟩

/-- An e-mail is sent at the second attempt. -/
def retriedEmail : List QueueCall :=
  [.enqueue "default" email "6f1c", .beginIteration, .endIteration (some "timed out") "83d0",
    .beginIteration, .endIteration none "b27e"]

theorem worker_delivers_retriedEmail : Delivers emailWorker retriedEmail := by
  have plain : Plain email := by
    intro field member
    obtain rfl := List.mem_singleton.mp member
    decide
  apply worker_delivers
  · intro queueName payload messageId member
    simp only [retriedEmail, List.mem_cons, QueueCall.enqueue.injEq, reduceCtorEq, List.not_mem_nil,
      or_false] at member
    obtain ⟨-, rfl, -⟩ := member
    exact plain
  · decide

end AgentFabric.Server
