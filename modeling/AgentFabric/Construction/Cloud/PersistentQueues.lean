import AgentFabric.Construction.Cloud.JobQueue
import AgentFabric.Construction.Persistence.Store

namespace AgentFabric.Cloud
open Persistence Transition

/-- The SQLite queue keeps a memory queue and writes its records through to the store. -/
structure SQLiteJobQueue where
  memory : MemoryJobQueue
  store : SQLitePersistenceStore

namespace SQLiteJobQueue

/-- The constructor loads one collection into a dict. -/
def loadTable (now : UtcTime) (documents : List Json) : Option (Dict String RuntimeJob) :=
  documents.foldlM (fun table document =>
    (RuntimeJob.fromDict now document).map fun job => table.set job.jobId job) Dict.empty

variable (store : SQLitePersistenceStore)

/-- The constructor over a database loads the jobs and the dead jobs and no deque. -/
def load (now : UtcTime) : Option SQLiteJobQueue := do
  let jobs ← loadTable now (store.list "runtime_jobs")
  let dead ← loadTable now (store.list "runtime_dead_letters")
  some ⟨⟨jobs, Dict.empty, dead⟩, store⟩

/-- A new database gives an empty queue. -/
def initial : SQLiteJobQueue := ⟨MemoryJobQueue.empty, SQLitePersistenceStore.initial⟩

/-- One record goes to the collection of jobs. -/
def saveJob (job : RuntimeJob) : SQLitePersistenceStore :=
  store.put "runtime_jobs" job.jobId job.asDict

variable (queue : SQLiteJobQueue) (job : RuntimeJob)

def enqueue (now : UtcTime) : Except PyError (RuntimeJob × SQLiteJobQueue) := do
  let (queued, memory) ← queue.memory.enqueue job now
  .ok (queued, ⟨memory, saveJob queue.store queued⟩)

def dequeue (tenantId : Option String) (queueName : String)
    (now : UtcTime) : Option RuntimeJob × SQLiteJobQueue :=
  match queue.memory.dequeue tenantId queueName now with
  | (none, memory) => (none, { queue with memory })
  | (some job, memory) => (some job, ⟨memory, saveJob queue.store job⟩)

def put : RuntimeJob × SQLiteJobQueue :=
  let (saved, memory) := queue.memory.put job
  (saved, ⟨memory, saveJob queue.store saved⟩)

def deadLetter (now : UtcTime) : RuntimeJob × SQLiteJobQueue :=
  let (dead, memory) := queue.memory.deadLetter job now
  (dead, ⟨memory, (saveJob queue.store dead).put "runtime_dead_letters" dead.jobId dead.asDict⟩)

/-- A failed call leaves the queue and the store as they were. -/
def step : QueueCall → Except PyError (Option RuntimeJob) × SQLiteJobQueue
  | .enqueue job now =>
      match queue.enqueue job now with
      | .ok (queued, next) => (.ok (some queued), next)
      | .error exception => (.error exception, queue)
  | .dequeue tenantId queueName now =>
      let result := queue.dequeue tenantId queueName now
      (.ok result.1, result.2)
  | .put job => (.ok (some (queue.put job).1), (queue.put job).2)
  | .deadLetter job now => (.ok (some (queue.deadLetter job now).1), (queue.deadLetter job now).2)

/-- A run of calls starts over a new database. -/
def reached (calls : List QueueCall) : SQLiteJobQueue := run step initial calls

end SQLiteJobQueue

/-- The calls that a client compares before and after a restart. -/
inductive QueueQuery where
  | dequeue (tenantId : Option String) (queueName : String) (now : UtcTime)
  | get (jobId : String)
  | list (tenantId : Option String)
  | deadLetters (tenantId : Option String)

/-- An answer lists the returned jobs as Python compares them. -/
inductive QueueAnswer where
  | job (answer : Option RuntimeJob)
  | jobs (answer : List RuntimeJob)

/-- The answers forget the order of payload fields. -/
def SQLiteJobQueue.query (queue : SQLiteJobQueue) : QueueQuery → QueueAnswer × SQLiteJobQueue
  | .dequeue tenantId queueName now =>
      let result := queue.dequeue tenantId queueName now
      (.job (result.1.map RuntimeJob.canonical), result.2)
  | .get jobId => (.job ((queue.memory.get jobId).map RuntimeJob.canonical), queue)
  | .list tenantId => (.jobs ((queue.memory.list tenantId).map RuntimeJob.canonical), queue)
  | .deadLetters tenantId =>
      (.jobs ((queue.memory.deadLetters tenantId).map RuntimeJob.canonical), queue)

/-- Two queues are observationally equal when every later sequence of queries agrees. -/
def SQLiteJobQueue.ObservedEqual (first second : SQLiteJobQueue) : Prop :=
  ∀ queries : List QueueQuery, responses SQLiteJobQueue.query first queries =
    responses SQLiteJobQueue.query second queries

/-- A Redis key holds a list from left to right or a hash of JSON texts. -/
inductive RedisValue where
  | list (items : List String)
  | hash (fields : Dict String Json)

/-- The keyspace of one Redis server. -/
structure Redis where
  value : String → Option RedisValue

namespace Redis

def initial : Redis := ⟨fun _ => none⟩

/-- A command on a key of the other kind fails. -/
def wrongType : PyError :=
  .responseError "WRONGTYPE Operation against a key holding the wrong kind of value"

variable (server : Redis) (key : String)

def set (value : Option RedisValue) : Redis :=
  ⟨Function.update server.value key value⟩

/-- A list without items is a missing key. -/
def listValue : List String → Option RedisValue
  | [] => none
  | items => some (.list items)

def llen : Except PyError Nat :=
  match server.value key with
  | none => .ok 0
  | some (.list items) => .ok items.length
  | some (.hash _) => .error wrongType

def lpush (key item : String) : Except PyError Redis :=
  match server.value key with
  | none => .ok (server.set key (some (.list [item])))
  | some (.list items) => .ok (server.set key (some (.list (item :: items))))
  | some (.hash _) => .error wrongType

def rpop : Except PyError (Option String × Redis) :=
  match server.value key with
  | none => .ok (none, server)
  | some (.list items) => .ok (items.getLast?, server.set key (listValue items.dropLast))
  | some (.hash _) => .error wrongType

/-- The field holds the document that `json.loads` reads from the written text. -/
def hset (key field : String) (document : Json) : Except PyError Redis :=
  match server.value key with
  | none => .ok (server.set key (some (.hash (Dict.empty.set field document.sortKeys))))
  | some (.hash fields) => .ok (server.set key (some (.hash (fields.set field document.sortKeys))))
  | some (.list _) => .error wrongType

def hget (key field : String) : Except PyError (Option Json) :=
  match server.value key with
  | none => .ok none
  | some (.hash fields) => .ok (fields.get? field)
  | some (.list _) => .error wrongType

end Redis

/-- The Redis queue inherits the memory queue and may have a connected client. -/
structure RedisJobQueue where
  memory : MemoryJobQueue
  client : Option Redis

namespace RedisJobQueue

/-- A connected client starts with an empty keyspace. -/
def connected : RedisJobQueue := ⟨MemoryJobQueue.empty, some Redis.initial⟩

/-- The list of one queue name. -/
def queueKey (queueName : String) : String := "af:runtime:" ++ queueName

def jobsKey : String := "af:runtime:jobs"

def deadKey : String := "af:runtime:dead"

variable (queue : RedisJobQueue) (job : RuntimeJob)

/-- An exception of a command keeps the memory part that is already updated. -/
def enqueue (now : UtcTime) : Except PyError RuntimeJob × RedisJobQueue :=
  match queue.memory.enqueue job now with
  | .error exception => (.error exception, queue)
  | .ok (queued, memory) =>
      match queue.client with
      | none => (.ok queued, { queue with memory })
      | some server =>
          match server.lpush (queueKey queued.queueName) queued.jobId with
          | .error exception => (.error exception, { queue with memory })
          | .ok pushed =>
              match pushed.hset jobsKey queued.jobId queued.asDict with
              | .error exception => (.error exception, ⟨memory, some pushed⟩)
              | .ok stored => (.ok queued, ⟨memory, some stored⟩)

def put : Except PyError RuntimeJob × RedisJobQueue :=
  let (saved, memory) := queue.memory.put job
  match queue.client with
  | none => (.ok saved, { queue with memory })
  | some server =>
      match server.hset jobsKey saved.jobId saved.asDict with
      | .error exception => (.error exception, { queue with memory })
      | .ok stored => (.ok saved, ⟨memory, some stored⟩)

/-- The loop pops one id per round and leases any stored job that the filter accepts. -/
def dequeueLoop (tenantId : Option String) (key : String) (now : UtcTime) :
    Nat → Redis → Except PyError (Option RuntimeJob) × Redis
  | 0, server => (.ok none, server)
  | rounds + 1, server =>
      match server.rpop key with
      | .error exception => (.error exception, server)
      | .ok (none, server) => (.ok none, server)
      | .ok (some jobId, server) =>
          match server.hget jobsKey jobId with
          | .error exception => (.error exception, server)
          | .ok none => dequeueLoop tenantId key now rounds server
          | .ok (some document) =>
              match RuntimeJob.fromDict now document with
              | none => (.error (.valueError "invalid job document"), server)
              | some job =>
                  if tenantId.isSome ∧ some job.tenantId ≠ tenantId then
                    match server.lpush key jobId with
                    | .error exception => (.error exception, server)
                    | .ok server => dequeueLoop tenantId key now rounds server
                  else (.ok (some job), server)

def dequeue (tenantId : Option String) (queueName : String)
    (now : UtcTime) : Except PyError (Option RuntimeJob) × RedisJobQueue :=
  match queue.client with
  | none =>
      let (job, memory) := queue.memory.dequeue tenantId queueName now
      (.ok job, { queue with memory })
  | some server =>
      match server.llen (queueKey queueName) with
      | .error exception => (.error exception, queue)
      | .ok rounds =>
          match dequeueLoop tenantId (queueKey queueName) now rounds server with
          | (.error exception, server) => (.error exception, { queue with client := some server })
          | (.ok none, server) => (.ok none, { queue with client := some server })
          | (.ok (some job), server) =>
              let leased := MemoryJobQueue.lease job now
              let (saved, next) := put { queue with client := some server } leased
              (saved.map fun _ => some leased, next)

def deadLetter (now : UtcTime) : Except PyError RuntimeJob × RedisJobQueue :=
  let (dead, memory) := queue.memory.deadLetter job now
  match queue.client with
  | none => (.ok dead, { queue with memory })
  | some server =>
      match server.hset deadKey dead.jobId dead.asDict with
      | .error exception => (.error exception, { queue with memory })
      | .ok stored => (.ok dead, ⟨memory, some stored⟩)

def step : QueueCall → Except PyError (Option RuntimeJob) × RedisJobQueue
  | .enqueue job now => ((queue.enqueue job now).1.map some, (queue.enqueue job now).2)
  | .dequeue tenantId queueName now => queue.dequeue tenantId queueName now
  | .put job => ((queue.put job).1.map some, (queue.put job).2)
  | .deadLetter job now => ((queue.deadLetter job now).1.map some, (queue.deadLetter job now).2)

end RedisJobQueue

end AgentFabric.Cloud
