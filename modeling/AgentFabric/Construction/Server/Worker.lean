import AgentFabric.Foundation.PyCoercion
import AgentFabric.Foundation.Transition

namespace AgentFabric.Server

abbrev Payload := Dict String Json

structure QueueItem where
  messageId : String
  queueName : String
  payload : Payload
  attempts : Nat

/-- The in-memory backend keeps one deque for each queue name. -/
structure InMemoryQueueBackend where
  queues : Dict String (List QueueItem)

namespace InMemoryQueueBackend

def new : InMemoryQueueBackend := ⟨Dict.empty⟩

variable (backend : InMemoryQueueBackend) (queueName : String)

/-- A missing deque is an empty deque. -/
def items : List QueueItem :=
  backend.queues.getD queueName []

/-- A message goes to the end of its queue under a new id. -/
def enqueue (payload : Payload) (messageId : String) : QueueItem × InMemoryQueueBackend :=
  let item := ⟨messageId, queueName, payload, 0⟩
  (item, ⟨backend.queues.set queueName (backend.items queueName ++ [item])⟩)

/-- The first message leaves its queue with one more attempt. -/
def dequeue : Option QueueItem × InMemoryQueueBackend :=
  match backend.items queueName with
  | [] => (none, ⟨backend.queues.set queueName []⟩)
  | item :: rest =>
      (some { item with attempts := item.attempts + 1 }, ⟨backend.queues.set queueName rest⟩)

end InMemoryQueueBackend

/-- A row of the table `queue_messages`.
The payload is the document that its text encodes. -/
structure QueueMessage where
  queueName : String
  payload : Json
  status : String
  attempts : Nat
  lastError : String

/-- The rows that a database session sees. -/
abbrev Rows := Dict String QueueMessage

namespace SqlQueueStore

variable (rows : Rows)

/-- A new row is queued, and its message id is the primary key. -/
def recordEnqueue (queueName : String) (payload : Payload) (messageId : String) :
    Except PyError Rows :=
  match rows.get? messageId with
  | some _ => .error (.integrityError "UNIQUE constraint failed: queue_messages.message_id")
  | none => .ok (rows.set messageId ⟨queueName, (Json.obj payload.items).sortKeys, "queued", 0, ""⟩)

variable (messageId : String)

/-- A change of a row that exists. -/
def change (update : QueueMessage → QueueMessage) : Rows :=
  match rows.get? messageId with
  | none => rows
  | some row => rows.set messageId (update row)

def markProcessing : Rows :=
  change rows messageId fun row => { row with status := "processing", attempts := row.attempts + 1 }

def markDone : Rows :=
  change rows messageId fun row => { row with status := "done", lastError := "" }

def markFailed (messageId error : String) : Rows :=
  change rows messageId fun row => { row with status := "failed", lastError := error }

end SqlQueueStore

/-- A service works on a backend through one database session. -/
structure QueueService where
  backend : InMemoryQueueBackend
  rows : Rows

namespace QueueService

variable (service : QueueService) (queueName : String)

def enqueue (payload : Payload) (messageId : String) : Except PyError QueueItem × QueueService :=
  let (item, backend) := service.backend.enqueue queueName payload messageId
  match SqlQueueStore.recordEnqueue service.rows queueName payload messageId with
  | .error exception => (.error exception, { service with backend })
  | .ok rows => (.ok item, ⟨backend, rows⟩)

def dequeue : Option QueueItem × QueueService :=
  match service.backend.dequeue queueName with
  | (none, backend) => (none, { service with backend })
  | (some item, backend) =>
      (some item, ⟨backend, SqlQueueStore.markProcessing service.rows item.messageId⟩)

def ackSuccess (messageId : String) : QueueService :=
  { service with rows := SqlQueueStore.markDone service.rows messageId }

def retryCountKey : String := "__af_retry_count"

variable (interpreter : Interpreter)

/-- The count of the attempts that a message has behind it after a failure. -/
def failedAttempts (payload : Payload) : Except PyError Int := do
  let count ← interpreter.int ((payload.get? retryCountKey).getD (.int 0))
  .ok (count + 1)

/-- A failed message is either retried or dead-lettered as a new message. -/
inductive Outcome where
  | retried (message : QueueItem) (attempts : Int)
  | dlq (message : QueueItem) (attempts : Int)

def ackFailure (service : QueueService) (item : QueueItem)
    (error : String) (maxAttempts : Int) (messageId : String) :
    Except PyError Outcome × QueueService :=
  let failed := { service with rows := SqlQueueStore.markFailed service.rows item.messageId error }
  match failedAttempts interpreter item.payload with
  | .error exception => (.error exception, failed)
  | .ok attempts =>
      let payload := item.payload.set retryCountKey (.int attempts)
      if attempts < maxAttempts then
        let (retry, after) := failed.enqueue item.queueName payload messageId
        (retry.map (.retried · attempts), after)
      else
        let (dead, after) := failed.enqueue (item.queueName ++ ".dlq") payload messageId
        (dead.map (.dlq · attempts), after)

end QueueService

open Transition

/-- The settings of a worker and the kinds that have a handler. -/
structure Worker where
  queueName : String
  queueMaxAttempts : Int
  handles : String → Bool
  interpreter : Interpreter

namespace Worker

def maxAttempts (worker : Worker) : Int := max 1 worker.queueMaxAttempts

end Worker

/-- A key that the queue service keeps for itself. -/
def isInternal (key : String) : Bool := "__af_".toList.isPrefixOf key.toList

/-- The fields of a payload that its handler gets. -/
def handlerPayload (payload : Payload) : List (String × Json) :=
  payload.items.filter fun field => !isInternal field.1

/-- The kind of a payload selects its handler. -/
def kindOf (interpreter : Interpreter) (payload : Payload) : String :=
  interpreter.str ((payload.get? "kind").getD (.str "default"))

/-- The messages in memory, the committed rows, and the message and the session of an iteration
that has called its handler. -/
structure WorkerState where
  backend : InMemoryQueueBackend
  committed : Rows
  current : Option (QueueItem × Rows)

namespace WorkerState

def initial : WorkerState := ⟨.new, Dict.empty, none⟩

/-- A call of the service in a session of its own that is committed. -/
def enqueue (state : WorkerState) (queueName : String) (payload : Payload) (messageId : String) :
    Except PyError QueueItem × WorkerState :=
  match QueueService.enqueue ⟨state.backend, state.committed⟩ queueName payload messageId with
  | (.error exception, service) => (.error exception, { state with backend := service.backend })
  | (.ok item, service) =>
      (.ok item, { state with backend := service.backend, committed := service.rows })

variable (worker : Worker) (state : WorkerState)

/-- The first half of an iteration opens a session, takes a message and calls its handler. -/
def beginIteration : Option QueueItem × WorkerState :=
  match QueueService.dequeue ⟨state.backend, state.committed⟩ worker.queueName with
  | (none, service) => (none, { state with backend := service.backend })
  | (some item, service) =>
      (some item, { state with backend := service.backend, current := some (item, service.rows) })

/-- What an iteration answers to its message. -/
inductive Settlement where
  | acked
  | failed (outcome : QueueService.Outcome)

/-- A registered handler may raise, and the handler of other kinds only prints. -/
def settle (item : QueueItem) (rows : Rows) (raised : Option String) (messageId : String) :
    Except PyError Settlement × QueueService :=
  let service : QueueService := ⟨state.backend, rows⟩
  match (if worker.handles (kindOf worker.interpreter item.payload) then raised else none) with
  | none => (.ok .acked, service.ackSuccess item.messageId)
  | some error =>
      let (outcome, after) := service.ackFailure worker.interpreter item error worker.maxAttempts
        messageId
      (outcome.map .failed, after)

/-- The second half of an iteration settles the message and closes the session, which drops the
rows that were not committed. -/
def endIteration (item : QueueItem) (rows : Rows) (raised : Option String) (messageId : String) :
    Except PyError Settlement × WorkerState :=
  let (answer, service) := settle worker state item rows raised messageId
  (answer, { state with backend := service.backend, current := none })

end WorkerState

/-- The calls that put messages in queues and the halves of the iterations of one worker.
A message id is the one that a call draws for a new message. -/
inductive QueueCall where
  | enqueue (queueName : String) (payload : Payload) (messageId : String)
  | beginIteration
  | endIteration (raised : Option String) (messageId : String)

/-- What a call did. -/
inductive QueueEvent where
  | enqueued (answer : Except PyError QueueItem)
  | idle
  | handed (item : QueueItem) (fields : List (String × Json))
  | settled (item : QueueItem) (answer : Except PyError WorkerState.Settlement)

/-- A worker begins an iteration after it has ended the one before. -/
def Worker.step (worker : Worker) : Machine WorkerState QueueCall QueueEvent := fun state call =>
  match call, state.current with
  | .enqueue queueName payload messageId, _ =>
      let (answer, after) := state.enqueue queueName payload messageId
      (.enqueued answer, after)
  | .beginIteration, none =>
      match state.beginIteration worker with
      | (none, after) => (.idle, after)
      | (some item, after) => (.handed item (handlerPayload item.payload), after)
  | .endIteration raised messageId, some (item, rows) =>
      let (answer, after) := state.endIteration worker item rows raised messageId
      (.settled item answer, after)
  | _, _ => (.idle, state)

end AgentFabric.Server
