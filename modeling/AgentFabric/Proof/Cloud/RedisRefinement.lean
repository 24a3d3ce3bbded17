import AgentFabric.Construction.Cloud.PersistentQueues
import AgentFabric.Proof.Cloud.LeaseDiscipline

namespace AgentFabric.Cloud
open Transition MemoryJobQueue RuntimeJob

namespace Redis

variable (server : Redis) (key : String) (value : Option RedisValue)

@[simp] theorem set_value_self :
    (server.set key value).value key = value := Function.update_self _ _ _

theorem set_value_of_ne {key query : String}
    (different : query ≠ key) : (server.set key value).value query = server.value query :=
  Function.update_of_ne different _ _

@[simp] theorem set_set (first second : Option RedisValue) :
    (server.set key first).set key second = server.set key second := by
  simp [set]

theorem set_value : server.set key (server.value key) = server := by simp [set]

theorem hget_set_of_ne {key query : String} (field : String)
    (value : Option RedisValue) (different : query ≠ key) :
    (server.set key value).hget query field = server.hget query field := by
  simp only [hget, set_value_of_ne server value different]

/-- The last item of a stored list leaves the list. -/
theorem rpop_listed (key last : String) (items : List String)
    (listed : server.value key = listValue (items ++ [last])) :
    server.rpop key = .ok (some last, server.set key (listValue items)) := by
  have present : listValue (items ++ [last]) = some (.list (items ++ [last])) := by
    cases items <;> rfl
  rw [present] at listed
  simp [rpop, listed]

/-- A push on a stored list adds its first item. -/
theorem lpush_listed (key item : String) (items : List String)
    (listed : server.value key = listValue items) :
    server.lpush key item = .ok (server.set key (listValue (item :: items))) := by
  cases items <;> simp [lpush, listed, listValue]

theorem llen_listed (items : List String)
    (listed : server.value key = listValue items) : server.llen key = .ok items.length := by
  cases items <;> simp [llen, listed, listValue]

/-- A write to a hash changes one field of one key. -/
theorem hset_spec (key field : String) (document : Json)
    (hashed : ∀ items, server.value key ≠ some (.list items)) :
    ∃ next fields, server.hset key field document = .ok next ∧
      next = server.set key (some (.hash fields)) ∧
      ∀ query, next.hget key query =
        if query = field then .ok (some document.sortKeys) else server.hget key query := by
  unfold hset
  cases present : server.value key with
  | none =>
      refine ⟨_, _, rfl, rfl, fun query => ?_⟩
      simp only [hget, set_value_self, present, Dict.get?_set, Dict.get?_empty]
      split <;> rfl
  | some value =>
      cases value with
      | list items => exact absurd present (hashed items)
      | hash fields =>
          refine ⟨_, _, rfl, rfl, fun query => ?_⟩
          simp only [hget, set_value_self, present, Dict.get?_set]
          split <;> rfl

end Redis

namespace RedisJobQueue

theorem queueKey_injective (first second : String) (same : queueKey first = queueKey second) :
    first = second := by
  simpa [queueKey, String.append_right_inj] using same

variable (queue : RedisJobQueue)

/-- The name of the queue holds a list or nothing on the server. -/
def ListKey (queueName : String) : Prop :=
  ∀ server fields, queue.client = some server →
    server.value (queueKey queueName) ≠ some (.hash fields)

/-- The server list and the server table record everything that the call changes. -/
def Tracked : QueueCall → Prop
  | .enqueue job _ => job.validate = .ok () →
      queue.memory.Idle job.jobId ∧ job.queueName ≠ "jobs" ∧ queue.ListKey job.queueName
  | .dequeue _ queueName _ => queue.ListKey queueName
  | .put job =>
      if job.status = .queued then
        ∃ waiting, queue.memory.jobs.get? job.jobId = some waiting ∧ waiting.status = .queued ∧
          waiting.queueName = job.queueName
      else queue.memory.Idle job.jobId
  | .deadLetter job _ => queue.memory.Idle job.jobId

/-- The server holds the waiting ids and rows of a memory queue. -/
structure Holds (server : Redis) (memory : MemoryJobQueue) : Prop where
  table : ∀ items, server.value jobsKey ≠ some (.list items)
  rows : ∀ jobId job, memory.jobs.get? jobId = some job → job.status = .queued →
    server.hget jobsKey jobId = .ok (some job.asDict.sortKeys)
  lists : ∀ queueName,
    server.value (queueKey queueName) = Redis.listValue (memory.deque queueName).reverse ∨
      memory.deque queueName = [] ∧ ∃ fields, server.value (queueKey queueName) = some (.hash fields)
  members : ∀ queueName jobId, jobId ∈ memory.deque queueName →
    ∃ job, memory.jobs.get? jobId = some job ∧ job.status = .queued ∧ job.queueName = queueName
  distinct : ∀ queueName, (memory.deque queueName).Nodup

/-- Two job tables agree on every queued record. -/
def AgreeQueued (first second : Dict String RuntimeJob) : Prop :=
  ∀ jobId job, job.status = .queued → (first.get? jobId = some job ↔ second.get? jobId = some job)

/-- The connected queue and the memory queue offer the same waiting jobs. -/
def Related (memory : MemoryJobQueue) : Prop :=
  memory.Invariant ∧ AgreeQueued queue.memory.jobs memory.jobs ∧
    ∃ server, queue.client = some server ∧ Holds server memory

theorem connected_related : connected.Related MemoryJobQueue.empty := by
  refine ⟨empty_invariant, fun _ _ _ => Iff.rfl, Redis.initial, rfl, ?_⟩
  exact {
    table := by simp [Redis.initial]
    rows := by simp [MemoryJobQueue.empty]
    lists := fun _ => Or.inl rfl
    members := by simp [MemoryJobQueue.empty, MemoryJobQueue.deque, Dict.getD]
    distinct := by simp [MemoryJobQueue.empty, MemoryJobQueue.deque, Dict.getD] }

/-- A write of one queued record, or of two settled records, keeps the agreement. -/
theorem AgreeQueued.set {first second : Dict String RuntimeJob} (agree : AgreeQueued first second)
    (jobId : String) (job other : RuntimeJob)
    (matching : job = other ∨ job.status ≠ .queued ∧ other.status ≠ .queued) :
    AgreeQueued (first.set jobId job) (second.set jobId other) := by
  intro query stored waiting
  rw [Dict.get?_set, Dict.get?_set]
  split
  · rcases matching with rfl | ⟨settled, otherSettled⟩
    · exact Iff.rfl
    · constructor
      · intro same
        exact absurd (Option.some.inj same ▸ waiting) settled
      · intro same
        exact absurd (Option.some.inj same ▸ waiting) otherSettled
  · exact agree query stored waiting

/-- Agreeing tables have the same idle jobs. -/
theorem AgreeQueued.idle {queue memory : MemoryJobQueue} (agree : AgreeQueued queue.jobs memory.jobs)
    (jobId : String) (idle : queue.Idle jobId) : memory.Idle jobId := by
  intro job stored waiting
  exact idle job ((agree jobId job waiting).mpr stored) waiting

section Server

variable {server : Redis} {memory : MemoryJobQueue}

section

variable (holds : Holds server memory)
include holds

variable (queueName : String)

/-- The table key holds no list, so no job waits in a queue of that name. -/
theorem Holds.deque_eq_nil
    (hashed : ∀ items, server.value (queueKey queueName) ≠ some (.list items)) :
    memory.deque queueName = [] := by
  rcases holds.lists queueName with listed | ⟨empty, _⟩
  · cases reversed : (memory.deque queueName).reverse with
    | nil => exact List.reverse_eq_nil_iff.mp reversed
    | cons head tail =>
        rw [reversed] at listed
        exact absurd listed (hashed _)
  · exact empty

theorem Holds.listed (free : ∀ fields, server.value (queueKey queueName) ≠ some (.hash fields)) :
    server.value (queueKey queueName) = Redis.listValue (memory.deque queueName).reverse := by
  rcases holds.lists queueName with listed | ⟨_, fields, hashed⟩
  · exact listed
  · exact absurd hashed (free fields)

/-- A hash write beside unchanged deques keeps the waiting ids. -/
theorem Holds.store (next : MemoryJobQueue) (key : String)
    (fields : Dict String Json) (hashed : ∀ items, server.value key ≠ some (.list items))
    (same : ∀ queueName, next.deque queueName = memory.deque queueName)
    (rows : ∀ jobId job, next.jobs.get? jobId = some job → job.status = .queued →
      (server.set key (some (.hash fields))).hget jobsKey jobId = .ok (some job.asDict.sortKeys))
    (members : ∀ queueName jobId, jobId ∈ memory.deque queueName →
      ∃ job, next.jobs.get? jobId = some job ∧ job.status = .queued ∧ job.queueName = queueName) :
    Holds (server.set key (some (.hash fields))) next where
  table := by
    intro items
    by_cases sameKey : jobsKey = key
    · simp [sameKey]
    · rw [Redis.set_value_of_ne server _ sameKey]
      exact holds.table items
  rows := rows
  lists := by
    intro queueName
    rw [same]
    by_cases sameKey : queueKey queueName = key
    · subst sameKey
      exact Or.inr ⟨holds.deque_eq_nil queueName hashed, fields, Redis.set_value_self _ _ _⟩
    · rw [Redis.set_value_of_ne server _ sameKey]
      exact holds.lists queueName
  members := by
    intro queueName jobId member
    rw [same] at member
    exact members queueName jobId member
  distinct := by
    intro queueName
    rw [same]
    exact holds.distinct queueName

/-- The server follows a deque that loses or reorders ids. -/
theorem Holds.relist (ids : List String)
    (other : queueName ≠ "jobs") (kept : ids ⊆ memory.deque queueName) (distinct : ids.Nodup) :
    Holds (server.set (queueKey queueName) (Redis.listValue ids.reverse))
      { memory with queues := memory.queues.set queueName ids } := by
  have tableKey : jobsKey ≠ queueKey queueName := fun same =>
    other (queueKey_injective "jobs" queueName same).symm
  exact {
    table := by
      intro items
      rw [Redis.set_value_of_ne server _ tableKey]
      exact holds.table items
    rows := by
      intro jobId job stored waiting
      rw [Redis.hget_set_of_ne server jobId _ tableKey]
      exact holds.rows jobId job stored waiting
    lists := by
      intro query
      rw [MemoryJobQueue.deque_set]
      split
      · rename_i same
        rw [same, Redis.set_value_self]
        exact Or.inl rfl
      · rename_i different
        rw [Redis.set_value_of_ne server _ fun same => different (queueKey_injective _ _ same)]
        exact holds.lists query
    members := by
      intro query jobId member
      rw [MemoryJobQueue.deque_set] at member
      split at member
      · rename_i same
        exact holds.members query jobId (same ▸ kept member)
      · exact holds.members query jobId member
    distinct := by
      intro query
      rw [MemoryJobQueue.deque_set]
      split
      · exact distinct
      · exact holds.distinct query }

/-- A job that is idle stays out of every deque. -/
theorem Holds.not_member (jobId queueName : String)
    (idle : memory.Idle jobId) : jobId ∉ memory.deque queueName := by
  intro member
  obtain ⟨job, stored, waiting, _⟩ := holds.members queueName jobId member
  exact idle job stored waiting

end

variable (jobs : Dict String RuntimeJob) (tenantId : Option String)

/-- The two loops pop the same ids and reach the same job. -/
theorem dequeueLoop_simulates
    (key : String) (now : UtcTime) (tableKey : jobsKey ≠ key) (rounds : Nat) (server : Redis)
    (deque : List String) (listed : server.value key = Redis.listValue deque.reverse)
    (rows : ∀ jobId ∈ deque, ∃ job, jobs.get? jobId = some job ∧ job.status = .queued ∧
      server.hget jobsKey jobId = .ok (some job.asDict.sortKeys)) :
    dequeueLoop tenantId key now rounds server =
      (.ok ((MemoryJobQueue.dequeueLoop jobs tenantId rounds deque).1.map
          fun found => found.2.reread.canonical),
        server.set key
          (Redis.listValue (MemoryJobQueue.dequeueLoop jobs tenantId rounds deque).2.reverse)) := by
  induction rounds generalizing server deque with
  | zero => simp [dequeueLoop, MemoryJobQueue.dequeueLoop, ← listed, Redis.set_value]
  | succ rounds ih =>
      cases deque with
      | nil =>
          have missing : server.value key = none := listed
          have unchanged : server.set key none = server := missing ▸ server.set_value key
          simp [dequeueLoop, MemoryJobQueue.dequeueLoop, Redis.rpop, missing, Redis.listValue,
            unchanged]
      | cons head tail =>
          obtain ⟨job, stored, waiting, row⟩ := rows head (.head _)
          rw [List.reverse_cons] at listed
          have popped := server.rpop_listed key head tail.reverse listed
          have later (value : Option RedisValue) : ∀ jobId ∈ tail ++ [head], ∃ job,
              jobs.get? jobId = some job ∧ job.status = .queued ∧
              (server.set key value).hget jobsKey jobId = .ok (some job.asDict.sortKeys) := by
            intro jobId member
            rw [Redis.hget_set_of_ne server jobId value tableKey]
            exact rows jobId (by
              rw [List.mem_append, List.mem_singleton] at member
              exact List.mem_cons.mpr member.symm)
          have tenant : job.reread.canonical.tenantId = job.tenantId := rfl
          simp only [dequeueLoop, popped, Redis.hget_set_of_ne server head _ tableKey, row,
            fromDict_row, MemoryJobQueue.dequeueLoop, stored, waiting, tenant, ne_eq,
            not_true_eq_false, if_false]
          split
          · rw [Redis.lpush_listed _ key head tail.reverse (Redis.set_value_self _ _ _)]
            simp only [Redis.set_set]
            rw [ih _ (tail ++ [head]) (by simp) (later _), Redis.set_set]
          · simp

/-- Waiting ids leave the deque only through the answer of the loop. -/
theorem dequeueLoop_perm (rounds : Nat) (deque : List String)
    (waiting : ∀ jobId ∈ deque, ∃ job, jobs.get? jobId = some job ∧ job.status = .queued) :
    ((MemoryJobQueue.dequeueLoop jobs tenantId rounds deque).1.toList.map Prod.fst ++
      (MemoryJobQueue.dequeueLoop jobs tenantId rounds deque).2).Perm deque := by
  induction rounds generalizing deque with
  | zero => exact List.Perm.refl _
  | succ rounds ih =>
      cases deque with
      | nil => exact List.Perm.refl _
      | cons head tail =>
          obtain ⟨job, stored, queued⟩ := waiting head (.head _)
          simp only [MemoryJobQueue.dequeueLoop, stored, queued, ne_eq, not_true_eq_false, if_false]
          split
          · refine (ih (tail ++ [head]) fun jobId member => waiting jobId ?_).trans
              (List.perm_append_singleton head tail)
            rw [List.mem_append, List.mem_singleton] at member
            exact List.mem_cons.mpr member.symm
          · exact List.Perm.refl _

end Server

/-- A lease of the restored row equals the lease of the stored job. -/
theorem lease_restored (job : RuntimeJob) (now : UtcTime) :
    (lease job.reread.canonical now).canonical = (lease job now).canonical := by
  simp [lease, withUpdate, canonical, reread, Option.filter_filter]

/-- The answers name the same job up to the order of its payload fields. -/
def SameLease (answer : Except PyError (Option RuntimeJob)) (lease : Option RuntimeJob) : Prop :=
  answer.map (fun job => job.map canonical) = .ok (lease.map canonical)

/-- The server follows an enqueue of an idle job. -/
theorem Holds.filed {server : Redis} {memory : MemoryJobQueue} (holds : Holds server memory)
    (queued : RuntimeJob) (waiting : queued.status = .queued) (idle : memory.Idle queued.jobId)
    (other : queued.queueName ≠ "jobs")
    (free : ∀ fields, server.value (queueKey queued.queueName) ≠ some (.hash fields)) :
    ∃ pushed stored, server.lpush (queueKey queued.queueName) queued.jobId = .ok pushed ∧
      pushed.hset jobsKey queued.jobId queued.asDict = .ok stored ∧
      Holds stored (memory.filed queued) := by
  have tableKey : jobsKey ≠ queueKey queued.queueName := fun same =>
    other (queueKey_injective "jobs" queued.queueName same).symm
  have pushed := server.lpush_listed (queueKey queued.queueName) queued.jobId _
    (holds.listed queued.queueName free)
  obtain ⟨stored, fields, written, rfl, read⟩ := Redis.hset_spec
    (server.set (queueKey queued.queueName)
      (Redis.listValue (queued.jobId :: (memory.deque queued.queueName).reverse)))
    jobsKey queued.jobId queued.asDict (by
      intro items
      rw [Redis.set_value_of_ne server _ tableKey]
      exact holds.table items)
  refine ⟨_, _, pushed, written, ?_⟩
  exact {
    table := by simp
    rows := by
      intro jobId job present queuedJob
      rw [read, Redis.hget_set_of_ne server jobId _ tableKey]
      simp only [MemoryJobQueue.filed, Dict.get?_set] at present
      split at present
      · rename_i same
        rw [if_pos same, ← Option.some.inj present]
      · rename_i different
        rw [if_neg different]
        exact holds.rows jobId job present queuedJob
    lists := by
      intro queueName
      simp only [MemoryJobQueue.filed, MemoryJobQueue.deque_set]
      split
      · rename_i same
        rw [Redis.set_value_of_ne _ _ (same ▸ tableKey.symm), same, Redis.set_value_self]
        exact Or.inl (by simp)
      · rename_i different
        by_cases table : queueKey queueName = jobsKey
        · rw [table, Redis.set_value_self]
          exact Or.inr ⟨holds.deque_eq_nil queueName (table ▸ holds.table), fields, rfl⟩
        · rw [Redis.set_value_of_ne _ _ table,
            Redis.set_value_of_ne server _ fun same => different (queueKey_injective _ _ same)]
          exact holds.lists queueName
    members := by
      intro queueName jobId member
      simp only [MemoryJobQueue.filed, MemoryJobQueue.deque_set] at member
      simp only [MemoryJobQueue.filed, Dict.get?_set]
      have old (present : jobId ∈ memory.deque queueName) : ∃ job,
          (if jobId = queued.jobId then some queued else memory.jobs.get? jobId) = some job ∧
            job.status = .queued ∧ job.queueName = queueName := by
        have different : jobId ≠ queued.jobId := by
          intro same
          exact holds.not_member queued.jobId queueName idle (same ▸ present)
        rw [if_neg different]
        exact holds.members queueName jobId present
      split at member
      · rename_i same
        rw [List.mem_append, List.mem_singleton] at member
        rcases member with present | rfl
        · exact old (same ▸ present)
        · exact ⟨queued, if_pos rfl, waiting, same.symm⟩
      · exact old member
    distinct := by
      intro queueName
      simp only [MemoryJobQueue.filed, MemoryJobQueue.deque_set]
      split
      · rw [← List.concat_eq_append]
        exact (holds.distinct _).concat (holds.not_member _ _ idle)
      · exact holds.distinct queueName }

section Steps

variable {queue : RedisJobQueue} {memory : MemoryJobQueue} (job : RuntimeJob)

theorem enqueue_related (now : UtcTime) (related : queue.Related memory)
    (tracked : queue.Tracked (.enqueue job now)) :
    (queue.step (.enqueue job now)).2.Related (memory.step (.enqueue job now)).2 := by
  have next := memory.step_invariant (.enqueue job now) related.1
  obtain ⟨_, agree, server, client, holds⟩ := related
  simp only [step, MemoryJobQueue.step, enqueue, enqueue_eq, client] at next ⊢
  cases valid : job.validate with
  | error error =>
      simp only [valid] at next
      exact ⟨next, agree, server, client, holds⟩
  | ok _ =>
      obtain ⟨idle, other, free⟩ := tracked valid
      obtain ⟨pushed, stored, push, write, held⟩ := holds.filed
        (queuedForm job now) rfl (agree.idle _ idle) other
        fun fields => free server fields client
      simp only [valid, Except.map, push, write] at next ⊢
      exact ⟨next, agree.set _ _ _ (Or.inl rfl), stored, rfl, held⟩

variable {server : Redis}

/-- A settled record outside all deques leaves the waiting ids alone. -/
theorem Holds.settled (holds : Holds server memory) (next : MemoryJobQueue)
    (job : RuntimeJob) (tables : next.jobs = memory.jobs.set job.jobId job)
    (queues : next.queues = memory.queues) (settled : job.status ≠ .queued)
    (free : ∀ queueName, job.jobId ∉ memory.deque queueName) : Holds server next where
  table := holds.table
  rows := by
    intro jobId other present waiting
    rw [tables, Dict.get?_set] at present
    split at present
    · exact absurd (Option.some.inj present ▸ waiting) settled
    · exact holds.rows jobId other present waiting
  lists := by
    intro queueName
    rw [MemoryJobQueue.deque, queues]
    exact holds.lists queueName
  members := by
    intro queueName jobId member
    rw [MemoryJobQueue.deque, queues] at member
    have different : jobId ≠ job.jobId := by
      intro same
      exact free queueName (same ▸ member)
    rw [tables, Dict.get?_set_of_ne _ _ different]
    exact holds.members queueName jobId member
  distinct := by
    intro queueName
    rw [MemoryJobQueue.deque, queues]
    exact holds.distinct queueName

/-- The table write of a record that is not queued keeps the waiting ids. -/
theorem Holds.hset (holds : Holds server memory) (jobId : String)
    (idle : memory.Idle jobId) (document : Json) :
    ∃ stored, server.hset jobsKey jobId document = .ok stored ∧ Holds stored memory := by
  obtain ⟨stored, fields, written, rfl, read⟩ := server.hset_spec jobsKey jobId document holds.table
  refine ⟨_, written, holds.store _ jobsKey fields holds.table (fun _ => rfl) ?_ holds.members⟩
  intro other job present waiting
  have different : other ≠ jobId := by
    intro same
    exact idle job (same ▸ present) waiting
  rw [read, if_neg different]
  exact holds.rows other job present waiting

theorem put_related (related : queue.Related memory) (tracked : queue.Tracked (.put job)) :
    (queue.step (.put job)).2.Related (memory.step (.put job)).2 := by
  have next := memory.step_invariant (.put job) related.1
  obtain ⟨invariant, agree, server, client, holds⟩ := related
  simp only [Tracked] at tracked
  simp only [step, MemoryJobQueue.step, put, MemoryJobQueue.put, client] at next ⊢
  by_cases queued : job.status = .queued
  · rw [if_pos queued] at tracked next ⊢
    rw [if_pos queued]
    obtain ⟨waiting, stored, status, sameQueue⟩ := tracked
    have present := (agree job.jobId waiting status).mp stored
    have member : job.jobId ∈ memory.deque job.queueName :=
      sameQueue ▸ invariant.live job.jobId waiting present status
    obtain ⟨written, fields, write, rfl, read⟩ :=
      server.hset_spec jobsKey job.jobId job.asDict holds.table
    simp only [write] at next ⊢
    refine ⟨next, agree.set _ _ _ (Or.inl rfl), _, rfl,
      holds.store _ jobsKey fields holds.table ?_ ?_ ?_⟩
    · intro queueName
      rw [MemoryJobQueue.deque_set, if_pos member]
      split
      · rename_i same
        rw [same]
      · rfl
    · intro jobId other found queuedOther
      rw [Dict.get?_set] at found
      rw [read]
      split at found
      · rename_i same
        rw [if_pos same, ← Option.some.inj found]
      · rename_i different
        rw [if_neg different]
        exact holds.rows jobId other found queuedOther
    · intro queueName jobId inside
      obtain ⟨held, heldStored, heldQueued, heldName⟩ := holds.members queueName jobId inside
      by_cases same : jobId = job.jobId
      · subst same
        refine ⟨job, Dict.get?_set_self _ _ _, queued, ?_⟩
        rw [present, Option.some.injEq] at heldStored
        rw [← sameQueue, heldStored, heldName]
      · exact ⟨held, by rw [Dict.get?_set_of_ne _ _ same]; exact heldStored, heldQueued, heldName⟩
  · rw [if_neg queued] at tracked next ⊢
    rw [if_neg queued]
    have settled := holds.settled { memory with jobs := memory.jobs.set job.jobId job } job rfl rfl
      queued fun queueName => holds.not_member _ queueName (agree.idle _ tracked)
    obtain ⟨stored, write, held⟩ := settled.hset job.jobId
      (fun other present => by
        rw [Dict.get?_set_self, Option.some.injEq] at present
        exact present ▸ queued)
      job.asDict
    simp only [write]
    exact ⟨next, agree.set _ _ _ (Or.inl rfl), stored, rfl, held⟩

/-- The write of the dead table may fail and still keeps the waiting ids. -/
theorem deadLetter_related (now : UtcTime) (related : queue.Related memory)
    (tracked : queue.Tracked (.deadLetter job now)) :
    (queue.step (.deadLetter job now)).2.Related (memory.step (.deadLetter job now)).2 := by
  have next := memory.step_invariant (.deadLetter job now) related.1
  obtain ⟨_, agree, server, client, holds⟩ := related
  have settled : Holds server (memory.deadLetter job now).2 :=
    holds.settled _ (job.withUpdate now fun job => { job with status := .deadLettered }) rfl rfl
      (by simp) fun queueName => holds.not_member _ queueName (agree.idle _ tracked)
  have agreed : AgreeQueued (queue.memory.deadLetter job now).2.jobs
      (memory.deadLetter job now).2.jobs := agree.set _ _ _ (Or.inl rfl)
  simp only [step, MemoryJobQueue.step, deadLetter, client] at next ⊢
  by_cases listed : ∃ items, server.value deadKey = some (.list items)
  · obtain ⟨items, listed⟩ := listed
    simp only [Redis.hset, listed]
    exact ⟨next, agreed, server, rfl, settled⟩
  · have hashed : ∀ items, server.value deadKey ≠ some (.list items) :=
      fun items same => listed ⟨items, same⟩
    obtain ⟨stored, fields, written, rfl, _⟩ := server.hset_spec deadKey
      (queue.memory.deadLetter job now).1.jobId (queue.memory.deadLetter job now).1.asDict hashed
    simp only [written]
    refine ⟨next, agreed, _, rfl,
      settled.store _ deadKey fields hashed (fun _ => rfl) ?_ settled.members⟩
    intro jobId other present waiting
    rw [Redis.hget_set_of_ne server jobId _ (by decide)]
    exact settled.rows jobId other present waiting

variable (tenantId : Option String) (queueName : String)

theorem dequeue_empty_related (now : UtcTime)
    (related : queue.Related memory) (empty : memory.deque queueName = [])
    (tracked : queue.ListKey queueName) :
    SameLease (queue.dequeue tenantId queueName now).1 (memory.dequeue tenantId queueName now).1 ∧
      (queue.dequeue tenantId queueName now).2.Related
        (memory.dequeue tenantId queueName now).2 := by
  have next := memory.dequeue_invariant tenantId queueName now related.1
  obtain ⟨_, agree, server, client, holds⟩ := related
  have listed := holds.listed queueName fun fields => tracked server fields client
  have missed : memory.dequeue tenantId queueName now =
      (none, { memory with queues := memory.queues.set queueName [] }) := by
    simp [MemoryJobQueue.dequeue, empty, MemoryJobQueue.dequeueLoop]
  have same (query : String) :
      MemoryJobQueue.deque { memory with queues := memory.queues.set queueName [] } query =
        memory.deque query := by
    rw [MemoryJobQueue.deque_set]
    split
    · rename_i sameName
      rw [sameName, empty]
    · rfl
  rw [empty] at listed
  rw [missed] at next ⊢
  simp only [dequeue, client, server.llen_listed _ _ listed, List.reverse_nil, List.length_nil,
    dequeueLoop]
  refine ⟨rfl, next, agree, server, rfl, ⟨holds.table, holds.rows, ?_, ?_, ?_⟩⟩
  · simpa only [same] using holds.lists
  · simpa only [same] using holds.members
  · simpa only [same] using holds.distinct

/-- A waiting id stands in no other deque. -/
theorem Holds.not_member_of_perm (holds : Holds server memory)
    (queueName jobId : String) (rest : List String)
    (popped : (jobId :: rest).Perm (memory.deque queueName)) (query : String) :
    jobId ∉ MemoryJobQueue.deque
      { memory with queues := memory.queues.set queueName rest } query := by
  rw [MemoryJobQueue.deque_set]
  split
  · exact (List.nodup_cons.mp (popped.nodup_iff.mpr (holds.distinct queueName))).1
  · rename_i different
    intro member
    obtain ⟨job, stored, _, sameName⟩ := holds.members query jobId member
    obtain ⟨other, otherStored, _, otherName⟩ :=
      holds.members queueName jobId (popped.subset (.head _))
    rw [stored, Option.some.injEq] at otherStored
    exact different (by rw [← sameName, otherStored, otherName])

/-- A lease takes the id out of its list and writes the assigned job to the table. -/
theorem Holds.leased (holds : Holds server memory) (queueName : String)
    (other : queueName ≠ "jobs") (job : RuntimeJob) (rest : List String)
    (popped : (job.jobId :: rest).Perm (memory.deque queueName)) (now : UtcTime) :
    ∃ written, (server.set (queueKey queueName) (Redis.listValue rest.reverse)).hset jobsKey
        job.jobId (lease job.reread.canonical now).asDict = .ok written ∧
      Holds written { memory with
        jobs := memory.jobs.set job.jobId (lease job now)
        queues := memory.queues.set queueName rest } := by
  have relisted := holds.relist queueName rest other
    (fun _ member => popped.subset (.tail _ member))
    (List.nodup_cons.mp (popped.nodup_iff.mpr (holds.distinct queueName))).2
  have settled := relisted.settled
    { memory with
      jobs := memory.jobs.set job.jobId (lease job now)
      queues := memory.queues.set queueName rest }
    (lease job now) rfl rfl (by simp [lease])
    (holds.not_member_of_perm queueName job.jobId rest popped)
  apply settled.hset
  intro present found
  rw [Dict.get?_set_self, Option.some.injEq] at found
  rw [← found]
  simp [lease]

theorem dequeue_related (now : UtcTime)
    (related : queue.Related memory) (tracked : queue.ListKey queueName) :
    SameLease (queue.dequeue tenantId queueName now).1 (memory.dequeue tenantId queueName now).1 ∧
      (queue.dequeue tenantId queueName now).2.Related
        (memory.dequeue tenantId queueName now).2 := by
  by_cases empty : memory.deque queueName = []
  · exact dequeue_empty_related tenantId queueName now related empty tracked
  have next := memory.dequeue_invariant tenantId queueName now related.1
  obtain ⟨invariant, agree, server, client, holds⟩ := related
  have listed := holds.listed queueName fun fields => tracked server fields client
  have other : queueName ≠ "jobs" := by
    rintro rfl
    exact empty (holds.deque_eq_nil "jobs" holds.table)
  have tableKey : jobsKey ≠ queueKey queueName := fun same =>
    other (queueKey_injective "jobs" queueName same).symm
  have waiting : ∀ jobId ∈ memory.deque queueName, ∃ job, memory.jobs.get? jobId = some job ∧
      job.status = .queued := by
    intro jobId member
    obtain ⟨job, stored, queued, _⟩ := holds.members queueName jobId member
    exact ⟨job, stored, queued⟩
  have loop := dequeueLoop_simulates memory.jobs tenantId (queueKey queueName) now tableKey
    (memory.deque queueName).length server (memory.deque queueName) listed (by
      intro jobId member
      obtain ⟨job, stored, queued⟩ := waiting jobId member
      exact ⟨job, stored, queued, holds.rows jobId job stored queued⟩)
  have perm := dequeueLoop_perm memory.jobs tenantId (memory.deque queueName).length
    (memory.deque queueName) waiting
  simp only [dequeue, client, server.llen_listed _ _ listed, List.length_reverse, loop]
  simp only [MemoryJobQueue.dequeue] at next ⊢
  cases answer : MemoryJobQueue.dequeueLoop memory.jobs tenantId (memory.deque queueName).length
    (memory.deque queueName) with
  | mk found rest =>
      rw [answer] at perm next
      cases found with
      | none =>
          have popped : rest.Perm (memory.deque queueName) := perm
          exact ⟨rfl, next, agree, _, rfl, holds.relist queueName rest other popped.subset
            (popped.nodup_iff.mpr (holds.distinct queueName))⟩
      | some found =>
          obtain ⟨jobId, job⟩ := found
          have popped : (jobId :: rest).Perm (memory.deque queueName) := perm
          have stored := (dequeueLoop_found memory.jobs tenantId _ _ _ _ _ answer).1
          have sameId : job.jobId = jobId := invariant.keyed jobId job stored
          subst sameId
          obtain ⟨written, write, held⟩ := holds.leased queueName other job rest popped now
          have assigned : (lease job.reread.canonical now).status ≠ .queued := by simp [lease]
          have sameId : (lease job.reread.canonical now).jobId = job.jobId := rfl
          simp only [put, MemoryJobQueue.put, Option.map_some, if_neg assigned, sameId, write]
          refine ⟨?_, next, agree.set _ _ _ (Or.inr ⟨assigned, by simp [lease]⟩),
            written, rfl, held⟩
          simp [SameLease, Except.map, lease_restored]

/-- Every tracked call keeps the two queues related. -/
theorem step_related (call : QueueCall) (related : queue.Related memory)
    (tracked : queue.Tracked call) : (queue.step call).2.Related (memory.step call).2 := by
  cases call with
  | enqueue job now => exact enqueue_related job now related tracked
  | dequeue tenantId queueName now =>
      exact (dequeue_related tenantId queueName now related tracked).2
  | put job => exact put_related job related tracked
  | deadLetter job now => exact deadLetter_related job now related tracked

end Steps

/-- In every run of tracked calls each dequeue answers as the memory queue does. -/
theorem tracked_dequeue_refines (calls : List QueueCall) (tenantId : Option String)
    (queueName : String) (now : UtcTime)
    (tracked : Guarded step Tracked connected (calls ++ [.dequeue tenantId queueName now])) :
    SameLease ((run step connected calls).dequeue tenantId queueName now).1
      ((reached calls).dequeue tenantId queueName now).1 := by
  rw [guarded_append] at tracked
  have related : (run step connected calls).Related (reached calls) :=
    run_related step MemoryJobQueue.step Tracked Related
      (fun _ _ call related tracked => step_related call related tracked) connected
      MemoryJobQueue.empty calls connected_related tracked.1
  exact (dequeue_related tenantId queueName now related tracked.2.1).1

theorem tracked_dequeue_refines_fresh :
    Guarded step Tracked connected
        ([.enqueue (agentRun "job-1") .first] ++ [.dequeue none "default" .first]) ∧
      SameLease ((run step connected [.enqueue (agentRun "job-1") .first]).dequeue none "default"
          .first).1
        ((reached [.enqueue (agentRun "job-1") .first]).dequeue none "default" .first).1 := by
  have tracked : Guarded step Tracked connected
      ([.enqueue (agentRun "job-1") .first] ++ [.dequeue none "default" .first]) := by
    refine ⟨fun _ => ⟨?_, by decide, ?_⟩, ?_, trivial⟩
    · intro job stored
      cases stored
    · intro server fields client
      cases client
      intro hashed
      cases hashed
    · intro server fields client
      cases client
      intro hashed
      cases hashed
  exact ⟨tracked, tracked_dequeue_refines _ _ _ _ tracked⟩

/-- The server leases a cancelled job and never leases a job that was put back. -/
theorem cancelled_and_requeued_diverge :
    (¬ SameLease
      ((run step connected [.enqueue (agentRun "job-1") .first,
        .put { agentRun "job-1" with status := .cancelled }]).dequeue none "default" .first).1
      ((reached [.enqueue (agentRun "job-1") .first,
        .put { agentRun "job-1" with status := .cancelled }]).dequeue none "default" .first).1) ∧
    ¬ SameLease
      ((run step connected [.enqueue (agentRun "job-1") .first, .dequeue none "default" .first,
        .put (agentRun "job-1")]).dequeue none "default" .first).1
      ((reached [.enqueue (agentRun "job-1") .first, .dequeue none "default" .first,
        .put (agentRun "job-1")]).dequeue none "default" .first).1 := by
  constructor
  · intro same
    cases same
  · intro same
    cases same

end RedisJobQueue

end AgentFabric.Cloud
