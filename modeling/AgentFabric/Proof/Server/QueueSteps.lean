import AgentFabric.Construction.Server.Worker

namespace AgentFabric.Server
open InMemoryQueueBackend QueueService

section Backend

variable {backend : InMemoryQueueBackend}

theorem items_set (queues : Dict String (List QueueItem)) (queueName query : String)
    (items : List QueueItem) :
    InMemoryQueueBackend.items ⟨queues.set queueName items⟩ query =
      if query = queueName then items else InMemoryQueueBackend.items ⟨queues⟩ query := by
  unfold InMemoryQueueBackend.items
  exact Dict.getD_set _ _ _ _ _

/-- A message is the last one of its queue. -/
theorem items_enqueue (backend : InMemoryQueueBackend) (queueName query : String) (payload : Payload)
    (messageId : String) :
    (backend.enqueue queueName payload messageId).2.items query =
      if query = queueName then backend.items queueName ++ [⟨messageId, queueName, payload, 0⟩]
      else backend.items query := by
  unfold InMemoryQueueBackend.enqueue
  exact items_set _ _ _ _

variable {queueName : String}

theorem dequeue_nil (empty : backend.items queueName = []) :
    (backend.dequeue queueName).1 = none ∧
      ∀ query, (backend.dequeue queueName).2.items query = backend.items query := by
  unfold InMemoryQueueBackend.dequeue
  rw [empty]
  refine ⟨rfl, fun query => ?_⟩
  rw [items_set]
  split
  · rename_i same
    rw [same, empty]
  · rfl

theorem dequeue_cons {item : QueueItem} {rest : List QueueItem}
    (first : backend.items queueName = item :: rest) :
    (backend.dequeue queueName).1 = some { item with attempts := item.attempts + 1 } ∧
      ∀ query, (backend.dequeue queueName).2.items query =
        if query = queueName then rest else backend.items query := by
  unfold InMemoryQueueBackend.dequeue
  rw [first]
  exact ⟨rfl, fun query => items_set _ _ _ _⟩

end Backend

section Payloads

variable {payload : Payload}

/-- A payload of a caller has no key of the service. -/
def Plain (payload : Payload) : Prop := ∀ field ∈ payload.items, isInternal field.1 = false

/-- The payload of a message that has failed some times. -/
def stamped (payload : Payload) : Nat → Payload
  | 0 => payload
  | failures + 1 => payload.set retryCountKey (.int (failures + 1))

theorem retryCountKey_internal : isInternal retryCountKey = true := by decide

theorem get?_retryCount (plain : Plain payload) : payload.get? retryCountKey = none := by
  rw [Option.eq_none_iff_forall_ne_some]
  intro value present
  have own := plain _ ((payload.get?_eq_some_iff _ _).mp present)
  exact absurd (own.symm.trans retryCountKey_internal) Bool.false_ne_true

variable (interpreter : Interpreter)

/-- A failure raises the count by one. -/
theorem failedAttempts_stamped (plain : Plain payload) (failures : Nat) :
    failedAttempts interpreter (stamped payload failures) = .ok (failures + 1 : Nat) := by
  cases failures with
  | zero =>
      unfold failedAttempts stamped
      rw [get?_retryCount plain]
      rfl
  | succ failures =>
      unfold failedAttempts stamped
      rw [Dict.get?_set_self]
      rfl

theorem setItems_setItems (key : String) (first second : Json) (items : List (String × Json)) :
    Dict.setItems key second (Dict.setItems key first items) = Dict.setItems key second items := by
  induction items with
  | nil => simp [Dict.setItems]
  | cons item rest ih =>
      by_cases same : item.1 = key
      · simp [Dict.setItems, same]
      · simp [Dict.setItems, same, ih]

/-- The next count replaces the last one. -/
theorem stamped_set (payload : Payload) (failures : Nat) :
    (stamped payload failures).set retryCountKey (.int (failures + 1 : Nat)) =
      stamped payload (failures + 1) := by
  cases failures with
  | zero => rfl
  | succ failures => exact Dict.ext_items (setItems_setItems _ _ _ _)

/-- A handler gets the payload of the caller. -/
theorem handlerPayload_stamped (plain : Plain payload) (failures : Nat) :
    handlerPayload (stamped payload failures) = payload.items := by
  have kept : payload.items.filter (fun field => !isInternal field.1) = payload.items := by
    apply List.filter_eq_self.mpr
    intro field member
    rw [plain field member]
    rfl
  cases failures with
  | zero => exact kept
  | succ failures =>
      have absent : retryCountKey ∉ payload.items.map Prod.fst := by
        intro member
        obtain ⟨field, listed, key⟩ := List.mem_map.mp member
        have own := plain field listed
        rw [key, retryCountKey_internal] at own
        cases own
      unfold handlerPayload stamped
      rw [Dict.set_items_of_absent _ _ _ absent, List.filter_append, kept,
        List.filter_cons_of_neg (by simp [retryCountKey_internal]), List.filter_nil, List.append_nil]

/-- The count of the attempts does not change the kind. -/
theorem kindOf_stamped (payload : Payload) (failures : Nat) :
    kindOf interpreter (stamped payload failures) = kindOf interpreter payload := by
  cases failures with
  | zero => rfl
  | succ failures =>
      have other : "kind" ≠ retryCountKey := by decide
      unfold kindOf stamped
      rw [Dict.get?_set_of_ne _ _ other]

end Payloads

section Calls

variable {worker : Worker} {state : WorkerState} {messageId : String} {rows : Rows}

theorem recordEnqueue_fresh (fresh : rows.get? messageId = none) (queueName : String)
    (payload : Payload) :
    SqlQueueStore.recordEnqueue rows queueName payload messageId =
      .ok (rows.set messageId ⟨queueName, (Json.obj payload.items).sortKeys, "queued", 0, ""⟩) := by
  rw [SqlQueueStore.recordEnqueue, fresh]

/-- A message under a fresh id is put in its queue and committed. -/
theorem enqueue_fresh (fresh : state.committed.get? messageId = none) (queueName : String)
    (payload : Payload) :
    state.enqueue queueName payload messageId =
      (.ok ⟨messageId, queueName, payload, 0⟩, { state with
        backend := (state.backend.enqueue queueName payload messageId).2
        committed := state.committed.set messageId
          ⟨queueName, (Json.obj payload.items).sortKeys, "queued", 0, ""⟩ }) := by
  unfold WorkerState.enqueue QueueService.enqueue
  rw [recordEnqueue_fresh fresh]
  rfl

theorem beginIteration_nil (empty : state.backend.items worker.queueName = []) :
    (state.beginIteration worker).1 = none ∧
      (state.beginIteration worker).2 =
        { state with backend := (state.backend.dequeue worker.queueName).2 } := by
  have none := (dequeue_nil empty).1
  unfold WorkerState.beginIteration QueueService.dequeue
  generalize state.backend.dequeue worker.queueName = taken at none
  obtain ⟨item, backend⟩ := taken
  obtain rfl := none
  exact ⟨rfl, rfl⟩

variable {item : QueueItem}

theorem beginIteration_cons {rest : List QueueItem}
    (first : state.backend.items worker.queueName = item :: rest) :
    state.beginIteration worker =
      (some { item with attempts := item.attempts + 1 }, { state with
        backend := (state.backend.dequeue worker.queueName).2
        current := some ({ item with attempts := item.attempts + 1 },
          SqlQueueStore.markProcessing state.committed item.messageId) }) := by
  have some := (dequeue_cons first).1
  unfold WorkerState.beginIteration QueueService.dequeue
  generalize state.backend.dequeue worker.queueName = taken at some
  obtain ⟨taken, backend⟩ := taken
  obtain rfl := some
  rfl

/-- A change adds no row. -/
theorem get?_change {query : String} (absent : rows.get? query = none) (changed : String)
    (update : QueueMessage → QueueMessage) :
    (SqlQueueStore.change rows changed update).get? query = none := by
  unfold SqlQueueStore.change
  split
  · exact absent
  · rename_i row present
    rw [Dict.get?_set_of_ne]
    · exact absent
    · rintro rfl
      rw [absent] at present
      cases present

/-- What the handler of a message raises. -/
def raisedBy (worker : Worker) (item : QueueItem) (raised : Option String) : Option String :=
  if worker.handles (kindOf worker.interpreter item.payload) then raised else none

variable {raised : Option String}

theorem endIteration_acked (returned : raisedBy worker item raised = none) :
    state.endIteration worker item rows raised messageId =
      (.ok .acked, { state with current := none }) := by
  unfold raisedBy at returned
  unfold WorkerState.endIteration WorkerState.settle
  rw [returned]
  rfl

/-- The queue of the message that replaces a failed one. -/
def nextQueue (worker : Worker) (item : QueueItem) (attempts : Int) : String :=
  if attempts < worker.maxAttempts then item.queueName else item.queueName ++ ".dlq"

/-- The outcome of a failure with a new message. -/
def outcomeOf (worker : Worker) (attempts : Int) (message : QueueItem) : QueueService.Outcome :=
  if attempts < worker.maxAttempts then .retried message attempts else .dlq message attempts

/-- The message that replaces a failed one. -/
def nextMessage (worker : Worker) (item : QueueItem) (attempts : Int) (messageId : String) :
    QueueItem :=
  ⟨messageId, nextQueue worker item attempts, item.payload.set retryCountKey (.int attempts), 0⟩

/-- A failed message is put in its queue again while attempts are left, and else in the dead-letter
queue. -/
theorem endIteration_failed {error : String}
    {attempts : Int} (failed : raisedBy worker item raised = some error)
    (fresh : rows.get? messageId = none)
    (counted : failedAttempts worker.interpreter item.payload = .ok attempts) :
    state.endIteration worker item rows raised messageId =
      (.ok (.failed (outcomeOf worker attempts (nextMessage worker item attempts messageId))),
        { state with
          backend := (state.backend.enqueue (nextQueue worker item attempts)
            (item.payload.set retryCountKey (.int attempts)) messageId).2
          current := none }) := by
  unfold raisedBy at failed
  have absent : (SqlQueueStore.markFailed rows item.messageId error).get? messageId = none :=
    get?_change fresh _ _
  unfold WorkerState.endIteration WorkerState.settle nextMessage outcomeOf nextQueue
  rw [failed]
  simp only [QueueService.ackFailure, counted, QueueService.enqueue, recordEnqueue_fresh absent]
  split <;> rfl

end Calls

/-- A worker with a handler for e-mails. -/
def emailWorker : Worker := ⟨"default", 2, (· == "email"), ⟨fun _ => true, fun _ => 0, fun _ => true⟩⟩

def email : Payload := Dict.empty.set "kind" (.str "email")

open Transition

/-- A hand-off selects a handler by its kind and gives it the fields of a message. -/
structure HandOff where
  kind : String
  fields : List (String × Json)

/-- How the service settles a message. -/
inductive Ending where
  | acked
  | retried
  | deadLettered
deriving DecidableEq

/-- What a call did to a message that a caller enqueued.
A settlement says whether the handler raised. -/
inductive Tag where
  | enqueued (queueName : String) (payload : Payload)
  | handed (handOff : HandOff)
  | settled (raised : Bool) (ending : Ending)

/-- A note names the message of the caller by its id. -/
structure Note where
  origin : String
  tag : Tag

/-- The worker with the origins of the message ids. -/
structure Tracked where
  state : WorkerState
  origins : String → String

/-- The ending of a settlement. -/
def endingOf : WorkerState.Settlement → Ending
  | .acked => .acked
  | .failed (.retried _ _) => .retried
  | .failed (.dlq _ _) => .deadLettered

variable (worker : Worker)

/-- The handler of a message raises in a call. -/
def raisedIn (item : QueueItem) : QueueCall → Bool
  | .endIteration raised _ => (raisedBy worker item raised).isSome
  | _ => false

variable (origins : String → String)

/-- The note of a call and its event. -/
def noteOf (call : QueueCall) : QueueEvent → Option Note
  | .enqueued (.ok item) => some ⟨origins item.messageId, .enqueued item.queueName item.payload⟩
  | .handed item fields =>
      some ⟨origins item.messageId, .handed ⟨kindOf worker.interpreter item.payload, fields⟩⟩
  | .settled item (.ok settlement) =>
      some ⟨origins item.messageId, .settled (raisedIn worker item call) (endingOf settlement)⟩
  | _ => none

/-- A retry and a dead letter have the origin of the message that failed. -/
def originsAfter : QueueEvent → String → String
  | .settled item (.ok (.failed (.retried message _))) =>
      Function.update origins message.messageId (origins item.messageId)
  | .settled item (.ok (.failed (.dlq message _))) =>
      Function.update origins message.messageId (origins item.messageId)
  | _ => origins

/-- The worker with a note of each call. -/
def tracked : Machine Tracked QueueCall (Option Note) := fun before call =>
  let (event, after) := worker.step before.state call
  (noteOf worker before.origins call event, ⟨after, originsAfter before.origins event⟩)

namespace Tracked

def initial : Tracked := ⟨.initial, id⟩

variable (state : Tracked)

def items (queueName : String) : List QueueItem := state.state.backend.items queueName

/-- The origin of a message. -/
def origin (item : QueueItem) : String := state.origins item.messageId

/-- The message of the iteration that has begun. -/
def held : Option QueueItem := state.state.current.map Prod.fst

/-- The messages of a queue that stand for a message of a caller. -/
def copies (message queueName : String) : List QueueItem :=
  (state.items queueName).filter fun item => state.origin item = message

/-- The message of the iteration, if it stands for a message of a caller. -/
def heldOf (message : String) : Option QueueItem :=
  state.held.filter fun item => state.origin item = message

end Tracked

/-- The tags of one message in the order of the calls. -/
def historyOf (message : String) (past : List Note) : List Tag :=
  (past.filter fun note => note.origin = message).map Note.tag

/-- The origins of the messages that were handed to a handler. -/
def handedOrigins (past : List Note) : List String :=
  past.filterMap fun note => match note.tag with
    | .handed _ => some note.origin
    | _ => none

/-- The origins of the messages that callers put in a queue. -/
def enqueuedOn (queueName : String) (past : List Note) : List String :=
  past.filterMap fun note => match note.tag with
    | .enqueued stored _ => if stored = queueName then some note.origin else none
    | _ => none

/-- Where a message is in its life, with the failures behind it. -/
inductive Stage where
  | waiting (failures : Nat)
  | running (failures : Nat)
  | acked (failures : Nat)
  | dead (failures : Nat)

/-- The tags of failed attempts. -/
def failedRounds (handOff : HandOff) : Nat → List Tag
  | 0 => []
  | failures + 1 => failedRounds handOff failures ++ [.handed handOff, .settled true .retried]

/-- The hand-off of a payload as its caller gave it. -/
def handOffOf (interpreter : Interpreter) (payload : Payload) : HandOff :=
  ⟨kindOf interpreter payload, payload.items⟩

namespace Stage

variable (queueName : String)

/-- The history of a message up to a stage. -/
def history (payload : Payload) (handOff : HandOff) : Stage → List Tag
  | waiting failures => .enqueued queueName payload :: failedRounds handOff failures
  | running failures =>
      .enqueued queueName payload :: failedRounds handOff failures ++ [.handed handOff]
  | acked failures =>
      .enqueued queueName payload :: failedRounds handOff failures ++
        [.handed handOff, .settled false .acked]
  | dead failures =>
      .enqueued queueName payload :: failedRounds handOff failures ++
        [.handed handOff, .settled true .deadLettered]

/-- A message is dead after the last attempt, and else an attempt is left or under way. -/
def Bounded (maxAttempts : Int) : Stage → Prop
  | waiting failures | running failures | acked failures => (failures : Int) < maxAttempts
  | dead failures => (failures : Int) + 1 = maxAttempts

/-- The queue where the only copy of a message is. -/
def place : Stage → Option String
  | waiting _ => some queueName
  | dead _ => some (queueName ++ ".dlq")
  | running _ | acked _ => none

/-- The failures that the copy of a message counts. -/
def count : Stage → Nat
  | waiting failures | running failures | acked failures => failures
  | dead failures => failures + 1

/-- The message is being handled. -/
def isRunning : Stage → Bool
  | running _ => true
  | _ => false

/-- The message was never handed to a handler. -/
def isNew : Stage → Bool
  | waiting 0 => true
  | _ => false

end Stage

/-- A message of a caller is at a stage of its life. -/
structure Lives (worker : Worker) (queueName : String) (payload : Payload) (stage : Stage)
    (history : List Tag) (copies : String → List QueueItem) (held : Option QueueItem) : Prop where
  history : history = stage.history queueName payload (handOffOf worker.interpreter payload)
  bounded : stage.Bounded worker.maxAttempts
  copies : ∀ query, (copies query).map QueueItem.payload =
    if stage.place queueName = some query then [stamped payload stage.count] else []
  held : held.map QueueItem.payload = if stage.isRunning then some (stamped payload stage.count) else none
  started : stage.isNew = false → queueName = worker.queueName

/-- Every message is known, owned by one message of a caller, and at a stage of its life, and the
messages of the worker's queue are handed out in their order. -/
structure Inv (worker : Worker) (known : List String) (state : Tracked) (past : List Note) : Prop where
  itemsKnown : ∀ queueName, ∀ item ∈ state.items queueName, item.messageId ∈ known
  heldKnown : ∀ item, state.held = some item → item.messageId ∈ known
  rowsKnown : ∀ messageId row, state.state.committed.get? messageId = some row → messageId ∈ known
  sessionKnown : ∀ item rows, state.state.current = some (item, rows) →
    ∀ messageId row, rows.get? messageId = some row → messageId ∈ known
  unchanged : ∀ messageId, messageId ∉ known → state.origins messageId = messageId
  noted : ∀ note ∈ past, note.origin ∈ known
  named : ∀ queueName, ∀ item ∈ state.items queueName, item.queueName = queueName
  heldNamed : ∀ item, state.held = some item → item.queueName = worker.queueName
  itemsOwned : ∀ queueName, ∀ item ∈ state.items queueName, ∃ stored payload,
    (⟨state.origin item, .enqueued stored payload⟩ : Note) ∈ past
  heldOwned : ∀ item, state.held = some item → ∃ stored payload,
    (⟨state.origin item, .enqueued stored payload⟩ : Note) ∈ past
  plain : ∀ message queueName payload, (⟨message, .enqueued queueName payload⟩ : Note) ∈ past →
    Plain payload
  lives : ∀ message queueName payload, (⟨message, .enqueued queueName payload⟩ : Note) ∈ past →
    ∃ stage, Lives worker queueName payload stage (historyOf message past) (state.copies message)
      (state.heldOf message)
  order : enqueuedOn worker.queueName past = (handedOrigins past).eraseDups ++
    ((state.items worker.queueName).map state.origin).filter fun origin => origin ∉ handedOrigins past

section Past

variable (past : List Note) (note : Note)

theorem historyOf_append (message : String) :
    historyOf message (past ++ [note]) =
      historyOf message past ++ if note.origin = message then [note.tag] else [] := by
  unfold historyOf
  rw [List.filter_append, List.map_append]
  by_cases same : note.origin = message <;> simp [same]

theorem handedOrigins_append :
    handedOrigins (past ++ [note]) = handedOrigins past ++ handedOrigins [note] :=
  List.filterMap_append

theorem enqueuedOn_append (queueName : String) :
    enqueuedOn queueName (past ++ [note]) =
      enqueuedOn queueName past ++ enqueuedOn queueName [note] :=
  List.filterMap_append

variable {past note}

theorem mem_append_enqueued {message queueName : String} {payload : Payload}
    (other : ∀ stored payload, note.tag ≠ .enqueued stored payload) :
    (⟨message, .enqueued queueName payload⟩ : Note) ∈ past ++ [note] ↔
      (⟨message, .enqueued queueName payload⟩ : Note) ∈ past := by
  rw [List.mem_append, List.mem_singleton, or_iff_left]
  rintro rfl
  exact other queueName payload rfl

end Past

/-- A call that puts a message in a queue, or a whole iteration of the worker. -/
inductive IterationCall where
  | enqueue (queueName : String) (payload : Payload) (messageId : String)
  | iteration (raised : Option String) (messageId : String)

/-- A message that an iteration took, what its handler raised, and the message put in its place. -/
structure Processed where
  item : QueueItem
  raised : Option String
  replacement : Option QueueItem

/-- The new message of a settlement. -/
def replacementOf : Except PyError WorkerState.Settlement → Option QueueItem
  | .ok (.failed (.retried message _)) => some message
  | .ok (.failed (.dlq message _)) => some message
  | _ => none

/-- A worker that ends each iteration before the next call. -/
def Worker.iterate : Machine WorkerState IterationCall (Option Processed) :=
  fun state call =>
    match call with
    | .enqueue queueName payload messageId =>
        (none, (worker.step state (.enqueue queueName payload messageId)).2)
    | .iteration raised messageId =>
        match worker.step state .beginIteration with
        | (.handed item _, begun) =>
            match worker.step begun (.endIteration raised messageId) with
            | (.settled _ answer, ended) =>
                (some ⟨item, raisedBy worker item raised, replacementOf answer⟩, ended)
            | (_, ended) => (none, ended)
        | (_, begun) => (none, begun)

/-- The times that a message was taken from its queue. -/
def dequeued (messageId : String) (past : List (Option Processed)) : Nat :=
  past.countP fun entry => match entry with
    | some processed => processed.item.messageId == messageId
    | none => false

/-- The row of a message says how its handler ended, and the message in its place has a row. -/
structure Processed.Recorded (processed : Processed) (rows : Rows) (attempts : Nat) : Prop where
  row : ∃ row, rows.get? processed.item.messageId = some row ∧ row.attempts = attempts ∧
    match processed.raised with
    | none => row.status = "done"
    | some error => row.status = "failed" ∧ row.lastError = error
  replacement : ∀ message ∈ processed.replacement, ∃ row, rows.get? message.messageId = some row

variable (state : WorkerState)

/-- The committed rows record every message that was processed. -/
def Recorded (past : List (Option Processed)) : Prop :=
  ∀ processed, some processed ∈ past →
    processed.Recorded state.committed (dequeued processed.item.messageId past)

/-- No message is left in the worker's queue when an iteration begins. -/
def FindsEmpty : IterationCall → Prop
  | .enqueue _ _ _ => True
  | .iteration _ _ => state.backend.items worker.queueName = []

section Rows

variable {worker : Worker} {state : WorkerState} {past : List (Option Processed)}

/-- No iteration is under way, and every committed row is still queued. -/
structure Dropped (state : WorkerState) : Prop where
  idle : state.current = none
  queued : ∀ messageId row, state.committed.get? messageId = some row → row.status = "queued"

section

variable (dropped : Dropped state)
include dropped

/-- A row that was queued does not say how its handler ended. -/
theorem Dropped.not_recorded (processed : Processed) (attempts : Nat) :
    ¬ processed.Recorded state.committed attempts := by
  intro recorded
  obtain ⟨row, present, -, status⟩ := recorded.row
  have queued := dropped.queued _ _ present
  split at status
  · rw [queued] at status
    exact absurd status (by decide)
  · rw [queued] at status
    exact absurd status.1 (by decide)

theorem Dropped.enqueue (queueName : String) (payload : Payload)
    (messageId : String) : Dropped (state.enqueue queueName payload messageId).2 := by
  cases present : state.committed.get? messageId with
  | some row =>
      have unchanged : (state.enqueue queueName payload messageId).2 = { state with
          backend := (state.backend.enqueue queueName payload messageId).2 } := by
        simp only [WorkerState.enqueue, QueueService.enqueue, SqlQueueStore.recordEnqueue, present]
      rw [unchanged]
      exact ⟨dropped.idle, dropped.queued⟩
  | none =>
      rw [enqueue_fresh present]
      refine ⟨dropped.idle, ?_⟩
      intro query row stored
      rw [Dict.get?_set] at stored
      split at stored
      · rw [← Option.some.inj stored]
      · exact dropped.queued _ _ stored

/-- An iteration that finds no message processes none. -/
theorem iterate_empty (empty : state.backend.items worker.queueName = [])
    (raised : Option String) (messageId : String) :
    (worker.iterate state (.iteration raised messageId)).1 = none ∧
      Dropped (worker.iterate state (.iteration raised messageId)).2 := by
  obtain ⟨none, after⟩ := beginIteration_nil empty
  have step : worker.step state .beginIteration = (.idle, { state with
      backend := (state.backend.dequeue worker.queueName).2 }) := by
    rw [← after]
    simp only [Worker.step, dropped.idle]
    generalize state.beginIteration worker = taken at none
    obtain ⟨item, left⟩ := taken
    obtain rfl := none
    rfl
  simp only [Worker.iterate, step]
  exact ⟨trivial, dropped.idle, dropped.queued⟩

/-- An iteration that takes a message processes it and leaves the committed rows as they are. -/
theorem iterate_taken {item : QueueItem} {rest : List QueueItem}
    (first : state.backend.items worker.queueName = item :: rest) (raised : Option String)
    (messageId : String) :
    (∃ processed, (worker.iterate state (.iteration raised messageId)).1 = some processed) ∧
      Dropped (worker.iterate state (.iteration raised messageId)).2 := by
  simp only [Worker.iterate, Worker.step, dropped.idle, beginIteration_cons first]
  exact ⟨⟨_, rfl⟩, rfl, dropped.queued⟩

theorem Dropped.recorded_none_iff : Recorded state past ↔ ∀ processed, some processed ∉ past := by
  constructor
  · intro recorded processed member
    exact dropped.not_recorded processed _ (recorded processed member)
  · intro none processed member
    exact absurd member (none processed)

/-- An iteration processes a message exactly when its queue is not empty. -/
theorem Dropped.iterate (worker : Worker) (call : IterationCall) :
    Dropped (worker.iterate state call).2 ∧
      ((∀ processed, (worker.iterate state call).1 ≠ some processed) ↔ FindsEmpty worker state call) := by
  cases call with
  | enqueue queueName payload messageId =>
      have left : (worker.iterate state (.enqueue queueName payload messageId)).2 =
          (state.enqueue queueName payload messageId).2 := rfl
      refine ⟨left ▸ dropped.enqueue queueName payload messageId, ?_⟩
      exact iff_of_true (fun _ taken => nomatch taken) trivial
  | iteration raised messageId =>
      cases listed : state.backend.items worker.queueName with
      | nil =>
          obtain ⟨none, kept⟩ := iterate_empty dropped listed raised messageId
          refine ⟨kept, iff_of_true ?_ listed⟩
          rw [none]
          exact fun _ taken => nomatch taken
      | cons item rest =>
          obtain ⟨⟨processed, taken⟩, kept⟩ := iterate_taken dropped listed raised messageId
          refine ⟨kept, iff_of_false (fun none => none processed taken) ?_⟩
          intro empty
          rw [FindsEmpty, listed] at empty
          cases empty

end

end Rows

/-- The committed rows record every processed message exactly in the runs that process none. -/
theorem recorded_iff (worker : Worker) (calls : List IterationCall) :
    (∀ done rest, calls = done ++ rest →
      Recorded (run worker.iterate .initial done) (responses worker.iterate .initial done)) ↔
      Guarded worker.iterate (FindsEmpty worker) .initial calls := by
  have step : ∀ state past call, Dropped state → Recorded state past →
      Dropped (worker.iterate state call).2 ∧
        (Recorded (worker.iterate state call).2 (past ++ [(worker.iterate state call).1]) ↔
          FindsEmpty worker state call) := by
    intro state past call dropped recorded
    obtain ⟨kept, empty_iff⟩ := dropped.iterate worker call
    refine ⟨kept, kept.recorded_none_iff.trans (Iff.trans ?_ empty_iff)⟩
    have none := dropped.recorded_none_iff.mp recorded
    simp only [List.mem_append, List.mem_singleton, not_or, none, not_false_eq_true, true_and, ne_comm,
      ne_eq]
  have initial : Dropped .initial := ⟨rfl, fun _ _ present => nomatch present⟩
  have nothing : Recorded .initial [] := fun _ member => nomatch member
  have parts := forall_parts_iff_guarded worker.iterate (FindsEmpty worker)
    (fun state _ => Dropped state) Recorded step .initial [] calls initial nothing
  simpa only [List.nil_append] using parts

/-- The handler of an e-mail returns. -/
def sentEmail : List IterationCall := [.enqueue "default" email "6f1c", .iteration none "83d0"]

/-- The row of the message still says that it is queued. -/
theorem sentEmail_not_recorded : ¬ ∀ done rest, sentEmail = done ++ rest →
    Recorded (run emailWorker.iterate .initial done) (responses emailWorker.iterate .initial done) := by
  intro recorded
  have processed : responses emailWorker.iterate .initial sentEmail =
      [none, some ⟨⟨"6f1c", "default", email, 1⟩, none, none⟩] := rfl
  have queued : (run emailWorker.iterate .initial sentEmail).committed.get? "6f1c" =
      some ⟨"default", (Json.obj email.items).sortKeys, "queued", 0, ""⟩ := rfl
  have whole := recorded sentEmail [] (List.append_nil _).symm
  rw [processed] at whole
  obtain ⟨row, present, -, done⟩ := (whole _ (.tail _ (.head _))).row
  obtain rfl := Option.some.inj (queued.symm.trans present)
  exact absurd done (by decide)

end AgentFabric.Server
