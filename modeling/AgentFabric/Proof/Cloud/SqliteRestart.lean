import AgentFabric.Construction.Cloud.PersistentQueues
import AgentFabric.Proof.Cloud.LeaseDiscipline

namespace AgentFabric.Cloud
open Persistence Sorting Transition SQLitePersistenceStore MemoryJobQueue RuntimeJob

namespace RuntimeJob

variable (job : RuntimeJob)

/-- The record that a reload makes of a stored job. -/
def restored : RuntimeJob := job.reread.canonical

@[simp] theorem canonical_canonical : job.canonical.canonical = job.canonical := by simp [canonical]

@[simp] theorem canonical_restored : job.restored.canonical = job.restored := by simp [restored]

/-- A reload keeps a job exactly when its worker id is not the empty text. -/
theorem restored_eq_canonical_iff :
    job.restored = job.canonical ↔ job.assignedWorkerId ≠ some "" := by
  have worker : job.restored = job.canonical ↔
      (job.assignedWorkerId.filter fun worker => worker ≠ "") = job.assignedWorkerId := by
    constructor
    · exact congrArg assignedWorkerId
    · intro same
      simp only [restored, reread, canonical, same]
  rw [worker]
  cases job.assignedWorkerId with
  | none => simp
  | some text => by_cases empty : text = "" <;> simp [Option.filter, empty]

theorem withUpdate_reread (now : UtcTime) (updates : RuntimeJob → RuntimeJob) :
    (job.withUpdate now updates).reread = job.withUpdate now updates :=
  reread_reread _

end RuntimeJob

namespace SQLiteJobQueue

variable (queue : SQLiteJobQueue)

/-- The memory part makes the same step as a memory queue. -/
theorem step_memory (call : QueueCall) :
    (queue.step call).1 = (queue.memory.step call).1 ∧
      (queue.step call).2.memory = (queue.memory.step call).2 := by
  cases call with
  | enqueue job now =>
      simp only [step, enqueue, MemoryJobQueue.step]
      cases queue.memory.enqueue job now <;> exact ⟨rfl, rfl⟩
  | dequeue tenantId queueName now =>
      simp only [step, dequeue, MemoryJobQueue.step]
      obtain ⟨answer, memory⟩ := queue.memory.dequeue tenantId queueName now
      cases answer <;> exact ⟨rfl, rfl⟩
  | put job => exact ⟨rfl, rfl⟩
  | deadLetter job now => exact ⟨rfl, rfl⟩

variable (calls : List QueueCall)

theorem run_memory :
    (run step queue calls).memory = run MemoryJobQueue.step queue.memory calls := by
  induction calls generalizing queue with
  | nil => rfl
  | cons call rest ih => rw [run_cons, run_cons, ih, (queue.step_memory call).2]

theorem reached_memory :
    (reached calls).memory = MemoryJobQueue.reached calls := run_memory initial calls

/-- The row of a stored job. -/
def row (job : RuntimeJob) : Json := job.asDict.sortKeys

/-- The store mirrors both tables of the memory part. -/
structure Mirrored (queue : SQLiteJobQueue) : Prop where
  jobs : ∀ jobId, queue.store.get "runtime_jobs" jobId = (queue.memory.jobs.get? jobId).map row
  dead : ∀ jobId, queue.store.get "runtime_dead_letters" jobId =
    (queue.memory.dead.get? jobId).map row
  reread : ∀ jobId job, queue.memory.dead.get? jobId = some job → job.reread = job

theorem initial_mirrored : initial.Mirrored := ⟨fun _ => rfl, fun _ => rfl, by
  intro jobId job present
  simp [initial, MemoryJobQueue.empty] at present⟩

/-- A written record mirrors the new table entry and leaves the dead letters alone. -/
theorem saveJob_mirrored (job : RuntimeJob)
    (queues : Dict String (List String)) (mirrored : queue.Mirrored) :
    Mirrored ⟨⟨queue.memory.jobs.set job.jobId job, queues, queue.memory.dead⟩,
      saveJob queue.store job⟩ where
  jobs := by
    intro jobId
    simp only [saveJob, get_put, Dict.get?_set, true_and]
    split
    · rfl
    · exact mirrored.jobs jobId
  dead := by
    intro jobId
    simp only [saveJob, get_put]
    exact mirrored.dead jobId
  reread := mirrored.reread

/-- Every call writes the record that it changes. -/
theorem step_mirrored (call : QueueCall)
    (invariant : queue.memory.Invariant) (mirrored : queue.Mirrored) :
    (queue.step call).2.Mirrored := by
  cases call with
  | enqueue job now =>
      simp only [step, enqueue, enqueue_eq]
      cases job.validate with
      | error error => exact mirrored
      | ok _ => exact saveJob_mirrored queue _ _ mirrored
  | dequeue tenantId queueName now =>
      simp only [step, dequeue]
      rcases queue.memory.dequeue_cases tenantId queueName now with
        ⟨rest, result, _⟩ | ⟨jobId, job, rest, result, found, _⟩
      · rw [result]
        exact ⟨mirrored.jobs, mirrored.dead, mirrored.reread⟩
      · rw [result]
        have sameId : (lease job now).jobId = jobId := invariant.keyed jobId job found
        rw [← sameId]
        exact saveJob_mirrored queue _ _ mirrored
  | put job =>
      simp only [step, put, MemoryJobQueue.put]
      split <;> exact saveJob_mirrored queue job _ mirrored
  | deadLetter job now =>
      have saved := saveJob_mirrored queue
        (job.withUpdate now fun job => { job with status := .deadLettered }) queue.memory.queues
        mirrored
      refine ⟨fun jobId => ?_, fun jobId => ?_, fun jobId dead present => ?_⟩
      · simp only [step, deadLetter, MemoryJobQueue.deadLetter, get_put]
        exact saved.jobs jobId
      · simp only [step, deadLetter, MemoryJobQueue.deadLetter, get_put, Dict.get?_set, true_and]
        split
        · rfl
        · exact saved.dead jobId
      · simp only [step, deadLetter, MemoryJobQueue.deadLetter, Dict.get?_set] at present
        split at present
        · rw [← Option.some.inj present, RuntimeJob.withUpdate_reread]
        · exact mirrored.reread jobId dead present

theorem reached_mirrored : (reached calls).Mirrored := by
  have both := run_invariant step (fun queue => queue.memory.Invariant ∧ queue.Mirrored)
    (fun queue call state => ⟨by
      rw [(queue.step_memory call).2]
      exact queue.memory.step_invariant call state.1, queue.step_mirrored call state.1 state.2⟩)
    initial calls ⟨empty_invariant, initial_mirrored⟩
  exact both.2

variable (table : Dict String RuntimeJob)

/-- The table of a reload has the stored ids in key order. -/
def restoredTable : Dict String RuntimeJob where
  items := (sortedBy Prod.fst table.items).map (Prod.map id restored)
  distinct := by
    rw [List.map_map]
    exact ((sortedBy_perm Prod.fst table.items).map Prod.fst).nodup_iff.mpr table.distinct

theorem get?_restoredTable (jobId : String) :
    (restoredTable table).get? jobId = (table.get? jobId).map restored := by
  apply Option.ext
  intro job
  rw [Dict.get?_eq_some_iff, Option.map_eq_some_iff]
  simp only [restoredTable, List.mem_map, mem_sortedBy]
  constructor
  · rintro ⟨⟨storedId, stored⟩, member, same⟩
    obtain ⟨rfl, rfl⟩ := Prod.mk.inj same
    exact ⟨stored, (table.get?_eq_some_iff _ stored).mpr member, rfl⟩
  · rintro ⟨stored, present, rfl⟩
    exact ⟨(jobId, stored), (table.get?_eq_some_iff jobId stored).mp present, rfl⟩

variable (now : UtcTime)

/-- The loading loop appends one item for each row with a new id. -/
theorem loadTable_loop (items : List (String × RuntimeJob)) (table : Dict String RuntimeJob)
    (keyed : ∀ item ∈ items, item.2.jobId = item.1)
    (distinct : ((table.items ++ items).map Prod.fst).Nodup) :
    ∃ loaded : Dict String RuntimeJob,
      (items.map fun item => row item.2).foldlM (fun table document =>
        (fromDict now document).map fun job => table.set job.jobId job) table = some loaded ∧
      loaded.items = table.items ++ items.map (Prod.map id restored) := by
  induction items generalizing table with
  | nil => exact ⟨table, rfl, by simp⟩
  | cons item rest ih =>
      have sameId : item.2.restored.jobId = item.1 := keyed item (.head _)
      have absent : item.1 ∉ table.items.map Prod.fst := by
        rw [List.map_append, List.nodup_append] at distinct
        intro member
        exact distinct.2.2 _ member _ (by simp) rfl
      have appended := table.set_items_of_absent item.1 item.2.restored absent
      obtain ⟨loaded, folded, same⟩ := ih (table.set item.1 item.2.restored)
        (fun other member => keyed other (.tail _ member))
        (by rw [appended]; simpa using distinct)
      refine ⟨loaded, ?_, ?_⟩
      · rw [List.map_cons, List.foldlM_cons, row, fromDict_row]
        simp only [Option.map_some, Option.bind_eq_bind, Option.bind_some]
        change (rest.map fun item => row item.2).foldlM _
          (table.set item.2.restored.jobId item.2.restored) = some loaded
        rw [sameId]
        exact folded
      · rw [same, appended]
        simp [Prod.map]

theorem loadTable_rows (store : SQLitePersistenceStore) (collection : String)
    (table : Dict String RuntimeJob)
    (keyed : ∀ jobId job, table.get? jobId = some job → job.jobId = jobId)
    (mirrored : ∀ jobId, store.get collection jobId = (table.get? jobId).map row) :
    loadTable now (store.list collection) = some (restoredTable table) := by
  have rows := store.rows_eq_of_get collection table row mirrored
  have sorted : sortedBy Prod.fst (table.items.map (Prod.map id row)) =
      (sortedBy Prod.fst table.items).map (Prod.map id row) :=
    (map_sortedBy Prod.fst Prod.fst (Prod.map id row) table.items fun _ _ => rfl).symm
  have itemKeyed : ∀ item ∈ sortedBy Prod.fst table.items, item.2.jobId = item.1 := by
    rintro ⟨jobId, job⟩ member
    rw [mem_sortedBy, ← table.get?_eq_some_iff] at member
    exact keyed jobId job member
  have itemDistinct : (((Dict.empty : Dict String RuntimeJob).items ++
      sortedBy Prod.fst table.items).map Prod.fst).Nodup :=
    ((sortedBy_perm Prod.fst table.items).map Prod.fst).nodup_iff.mpr table.distinct
  obtain ⟨loaded, folded, same⟩ := loadTable_loop now _ Dict.empty itemKeyed itemDistinct
  rw [loadTable, SQLitePersistenceStore.list, rows, sorted, List.map_map]
  exact folded.trans (congrArg some (Dict.ext_items same))

/-- The queue that a restart builds over the same database. -/
def restarted : SQLiteJobQueue :=
  ⟨⟨restoredTable queue.memory.jobs, Dict.empty, restoredTable queue.memory.dead⟩, queue.store⟩

/-- The constructor accepts the database of every mirrored queue. -/
theorem load_store (invariant : queue.memory.Invariant)
    (mirrored : queue.Mirrored) : load queue.store now = some queue.restarted := by
  simp only [load, loadTable_rows now queue.store _ _ invariant.keyed mirrored.jobs,
    loadTable_rows now queue.store _ _ invariant.deadKeyed mirrored.dead, Option.bind_eq_bind,
    Option.bind_some]
  rfl

/-- A restart loses nothing when no job waits, no worker id is empty, and equal sort times
follow the order of the ids. -/
structure RestartSafe (queue : SQLiteJobQueue) : Prop where
  settled : ∀ jobId job, queue.memory.jobs.get? jobId = some job → job.status ≠ .queued
  workers : ∀ jobId job, queue.memory.jobs.get? jobId = some job → job.assignedWorkerId ≠ some ""
  created : queue.memory.jobs.items.Pairwise fun first second =>
    first.2.createdAt.wall.micros = second.2.createdAt.wall.micros → first.1 < second.1
  updated : queue.memory.dead.items.Pairwise fun first second =>
    first.2.updatedAt.wall.micros = second.2.updatedAt.wall.micros → first.1 < second.1

section Listing

variable (time : RuntimeJob → Nat) (table : Dict String RuntimeJob) (tenantId : Option String)

/-- The listing of a table by one of its times, as Python compares the jobs. -/
def listing : List RuntimeJob :=
  (tenantFilter tenantId (sortedBy time table.values)).map canonical

theorem tenantFilter_map (jobs : List RuntimeJob) :
    (tenantFilter tenantId jobs).map canonical = tenantFilter tenantId (jobs.map canonical) := by
  cases tenantId with
  | none => rfl
  | some tenant =>
      simp only [tenantFilter, List.filter_map]
      rfl

/-- The listing sorts the items of the table. -/
theorem listing_eq :
    listing time table tenantId = tenantFilter tenantId
      ((sortedBy (fun item => time item.2) table.items).map fun item => item.2.canonical) := by
  rw [listing, tenantFilter_map, Dict.values,
    ← map_sortedBy (fun item : String × RuntimeJob => time item.2) time Prod.snd table.items
      (fun _ _ => rfl), List.map_map]
  rfl

/-- The listing of a reloaded table sorts the items by id first. -/
theorem listing_restoredTable (kept : ∀ job : RuntimeJob, time job.restored = time job) :
    listing time (restoredTable table) tenantId = tenantFilter tenantId
      ((sortedBy (fun item => time item.2) (sortedBy Prod.fst table.items)).map
        fun item => item.2.restored) := by
  rw [listing_eq time _ tenantId, restoredTable,
    ← map_sortedBy (fun item : String × RuntimeJob => time item.2)
      (fun item : String × RuntimeJob => time item.2) (Prod.map id restored)
      (sortedBy Prod.fst table.items) (fun item _ => kept item.2), List.map_map]
  congr 1
  apply List.map_congr_left
  intro item _
  exact item.2.canonical_restored

/-- The reload keeps every listing exactly when ties follow the ids. -/
theorem listing_restored_iff (keyed : ∀ jobId job, table.get? jobId = some job → job.jobId = jobId)
    (unchanged : ∀ jobId job, table.get? jobId = some job → job.restored = job.canonical)
    (kept : ∀ job : RuntimeJob, time job.restored = time job) :
    (∀ tenantId, listing time (restoredTable table) tenantId = listing time table tenantId) ↔
      table.items.Pairwise fun first second =>
        time first.2 = time second.2 → first.1 < second.1 := by
  rw [← sortedBy_sortedBy_eq_iff (fun item : String × RuntimeJob => time item.2) Prod.fst
    table.items table.distinct]
  have member (items : List (String × RuntimeJob)) (perm : items.Perm table.items)
      (item : String × RuntimeJob) (inside : item ∈ items) :
      table.get? item.1 = some item.2 :=
    (table.get?_eq_some_iff item.1 item.2).mpr (perm.mem_iff.mp inside)
  have twice : (sortedBy (fun item : String × RuntimeJob => time item.2)
      (sortedBy Prod.fst table.items)).Perm table.items :=
    (sortedBy_perm _ _).trans (sortedBy_perm _ _)
  constructor
  · intro same
    have all := same none
    rw [listing_restoredTable time table none kept, listing_eq time table none] at all
    have ids := congrArg (List.map RuntimeJob.jobId) all
    simp only [tenantFilter, List.map_map] at ids
    apply eq_of_map_eq Prod.fst table.items _ _ table.distinct
      (fun item inside => twice.mem_iff.mp inside)
      (fun item inside => (sortedBy_perm _ _).mem_iff.mp inside)
    calc (sortedBy (fun item : String × RuntimeJob => time item.2)
          (sortedBy Prod.fst table.items)).map Prod.fst
        = _ := List.map_congr_left fun item inside =>
          (keyed item.1 item.2 (member _ twice item inside)).symm
      _ = _ := ids
      _ = _ := List.map_congr_left fun item inside =>
          keyed item.1 item.2 (member _ (sortedBy_perm _ _) item inside)
  · intro same tenantId
    rw [listing_restoredTable time table tenantId kept, listing_eq time table tenantId, same]
    congr 1
    apply List.map_congr_left
    intro item inside
    exact unchanged item.1 item.2 (member _ (sortedBy_perm _ _) item inside)

end Listing

/-- The two queues keep their tables and hold no waiting job. -/
structure Resting (queue : SQLiteJobQueue) (table deadTable : Dict String RuntimeJob) : Prop where
  jobs : queue.memory.jobs = table
  dead : queue.memory.dead = deadTable
  settled : ∀ jobId job, table.get? jobId = some job → job.status ≠ .queued

variable (jobs dead : Dict String RuntimeJob)

theorem dequeue_resting (resting : queue.Resting jobs dead) (tenantId : Option String)
    (queueName : String) (now : UtcTime) :
    (queue.dequeue tenantId queueName now).1 = none ∧
      (queue.dequeue tenantId queueName now).2.Resting jobs dead := by
  unfold dequeue
  rcases queue.memory.dequeue_cases tenantId queueName now with
    ⟨rest, result, _⟩ | ⟨jobId, job, rest, result, found, waiting, _⟩
  · rw [result]
    exact ⟨rfl, resting.jobs, resting.dead, resting.settled⟩
  · rw [resting.jobs] at found
    exact absurd waiting (resting.settled jobId job found)

/-- The reload answers a lookup as before exactly when the record has no empty worker id. -/
theorem get_restored (jobId : String)
    (jobsKept : ∀ job, jobs.get? jobId = some job → job.restored = job.canonical)
    (deadKept : ∀ job, dead.get? jobId = some job → job.restored = job.canonical) :
    (((restoredTable jobs).get? jobId).or ((restoredTable dead).get? jobId)).map canonical =
      ((jobs.get? jobId).or (dead.get? jobId)).map canonical := by
  rw [get?_restoredTable, get?_restoredTable]
  cases present : jobs.get? jobId with
  | some job => simp [jobsKept job present]
  | none =>
      cases gone : dead.get? jobId with
      | some job => simp [deadKept job gone]
      | none => rfl

/-- A safe restart answers every later query as the old queue does. -/
theorem observedEqual_of_safe (invariant : queue.memory.Invariant)
    (mirrored : queue.Mirrored) (safe : queue.RestartSafe) :
    queue.ObservedEqual queue.restarted := by
  intro queries
  have jobsKept (jobId : String) (job : RuntimeJob)
      (present : queue.memory.jobs.get? jobId = some job) : job.restored = job.canonical :=
    job.restored_eq_canonical_iff.mpr (safe.workers jobId job present)
  have deadKept (jobId : String) (job : RuntimeJob)
      (present : queue.memory.dead.get? jobId = some job) : job.restored = job.canonical := by
    rw [restored, mirrored.reread jobId job present]
  have lists := (listing_restored_iff (fun job => job.createdAt.wall.micros) queue.memory.jobs
    invariant.keyed jobsKept fun _ => rfl).mpr safe.created
  have deadLists := (listing_restored_iff (fun job => job.updatedAt.wall.micros) queue.memory.dead
    invariant.deadKeyed deadKept fun _ => rfl).mpr safe.updated
  have restoredSettled : ∀ jobId job, (restoredTable queue.memory.jobs).get? jobId = some job →
      job.status ≠ .queued := by
    intro jobId job present
    rw [get?_restoredTable, Option.map_eq_some_iff] at present
    obtain ⟨stored, found, rfl⟩ := present
    exact safe.settled jobId stored found
  rw [← List.forall₂_eq_eq_eq]
  refine responses_related query query (fun _ _ => True)
    (fun first second => first.Resting queue.memory.jobs queue.memory.dead ∧
      second.Resting (restoredTable queue.memory.jobs) (restoredTable queue.memory.dead))
    Eq ?_ _ _ queries ⟨⟨rfl, rfl, safe.settled⟩, ⟨rfl, rfl, restoredSettled⟩⟩
    (guarded_of_forall query (fun _ => True) _ queries fun _ _ => trivial)
  rintro first second call ⟨old, new⟩ _
  cases call with
  | dequeue tenantId queueName now =>
      obtain ⟨oldMissed, oldNext⟩ := dequeue_resting first _ _ old tenantId queueName now
      obtain ⟨newMissed, newNext⟩ := dequeue_resting second _ _ new tenantId queueName now
      exact ⟨by simp only [query, oldMissed, newMissed], oldNext, newNext⟩
  | get jobId =>
      refine ⟨?_, old, new⟩
      simp only [query, MemoryJobQueue.get, old.jobs, old.dead, new.jobs, new.dead]
      rw [get_restored _ _ jobId (jobsKept jobId) (deadKept jobId)]
  | list tenantId =>
      refine ⟨?_, old, new⟩
      simp only [query, MemoryJobQueue.list, old.jobs, new.jobs]
      exact congrArg QueueAnswer.jobs (lists tenantId).symm
  | deadLetters tenantId =>
      refine ⟨?_, old, new⟩
      simp only [query, deadLetters, old.dead, new.dead]
      exact congrArg QueueAnswer.jobs (deadLists tenantId).symm

variable (queueName : String) (filters : List (Option String × UtcTime))

/-- The dequeue queries answer what the memory part answers. -/
theorem query_dequeues (leased : RuntimeJob)
    (answered : .ok (some leased) ∈ responses MemoryJobQueue.step queue.memory
      (filters.map fun filter => .dequeue filter.1 queueName filter.2)) :
    .job (some leased.canonical) ∈ responses query queue
      (filters.map fun filter => .dequeue filter.1 queueName filter.2) := by
  induction filters generalizing queue with
  | nil => simp [responses] at answered
  | cons filter rest ih =>
      have same := queue.step_memory (.dequeue filter.1 queueName filter.2)
      simp only [List.map_cons, responses, List.mem_cons] at answered ⊢
      rw [← same.1, ← same.2] at answered
      rcases answered with here | later
      · left
        simp only [step, Except.ok.injEq] at here
        simp only [query, ← here, Option.map_some]
      · exact Or.inr (ih _ later)

/-- A queue without deques returns nothing. -/
theorem dequeue_without_deques (bare : ∀ name, queue.memory.deque name = []) (job : RuntimeJob) :
    .job (some job) ∉ responses query queue
      (filters.map fun filter => .dequeue filter.1 queueName filter.2) := by
  induction filters generalizing queue with
  | nil => simp [responses]
  | cons filter rest ih =>
      have result : queue.dequeue filter.1 queueName filter.2 = (none, { queue with
          memory := { queue.memory with queues := queue.memory.queues.set queueName [] } }) := by
        simp [dequeue, MemoryJobQueue.dequeue, bare, MemoryJobQueue.dequeueLoop]
      simp only [List.map_cons, responses, query, result, List.mem_cons, not_or]
      refine ⟨by simp, ih _ fun name => ?_⟩
      rw [deque_set]
      split
      · rfl
      · exact bare name

/-- A waiting job before the restart is never handed out after it. -/
theorem settled_of_observedEqual (invariant : queue.memory.Invariant)
    (same : queue.ObservedEqual queue.restarted) (jobId : String) (job : RuntimeJob)
    (stored : queue.memory.jobs.get? jobId = some job) : job.status ≠ .queued := by
  intro waiting
  let filters : List (Option String × UtcTime) :=
    (queue.memory.deque job.queueName).map fun _ => (none, job.createdAt)
  obtain ⟨leased, answered, _⟩ := dequeue_reaches queue.memory jobId job invariant
    stored waiting filters (fun filter member => by
      obtain ⟨_, _, rfl⟩ := List.mem_map.mp member
      exact Or.inl rfl) (by simp [filters])
  have old := query_dequeues queue job.queueName filters leased answered
  rw [same] at old
  exact dequeue_without_deques queue.restarted job.queueName filters (fun _ => rfl) _ old

/-- Observational equality of the restart makes it safe. -/
theorem safe_of_observedEqual (invariant : queue.memory.Invariant)
    (mirrored : queue.Mirrored) (same : queue.ObservedEqual queue.restarted) :
    queue.RestartSafe := by
  have jobsKept (jobId : String) (job : RuntimeJob)
      (present : queue.memory.jobs.get? jobId = some job) : job.restored = job.canonical := by
    have answer := same [.get jobId]
    simp only [responses, query, MemoryJobQueue.get, restarted, get?_restoredTable, present,
      Option.map_some, Option.some_or, List.cons.injEq, QueueAnswer.job.injEq,
      Option.some.injEq, and_true, canonical_restored] at answer
    exact answer.symm
  have deadKept (jobId : String) (job : RuntimeJob)
      (present : queue.memory.dead.get? jobId = some job) : job.restored = job.canonical := by
    rw [restored, mirrored.reread jobId job present]
  refine ⟨settled_of_observedEqual queue invariant same,
    fun jobId job present => job.restored_eq_canonical_iff.mp (jobsKept jobId job present), ?_, ?_⟩
  · refine (listing_restored_iff (fun job => job.createdAt.wall.micros) queue.memory.jobs
      invariant.keyed jobsKept fun _ => rfl).mp fun tenantId => ?_
    have answer := same [.list tenantId]
    simp only [responses, query, List.cons.injEq, QueueAnswer.jobs.injEq, and_true] at answer
    exact answer.symm
  · refine (listing_restored_iff (fun job => job.updatedAt.wall.micros) queue.memory.dead
      invariant.deadKeyed deadKept fun _ => rfl).mp fun tenantId => ?_
    have answer := same [.deadLetters tenantId]
    simp only [responses, query, List.cons.injEq, QueueAnswer.jobs.injEq, and_true] at answer
    exact answer.symm

/-- The reload of every reached queue succeeds and is observationally equal exactly when it is safe. -/
theorem reached_restart_iff (calls : List QueueCall) (now : UtcTime) :
    ∃ reloaded, load (reached calls).store now = some reloaded ∧
      ((reached calls).ObservedEqual reloaded ↔ (reached calls).RestartSafe) := by
  have invariant : (reached calls).memory.Invariant := by
    rw [reached_memory]
    exact reached_invariant calls
  have mirrored := reached_mirrored calls
  exact ⟨_, load_store _ now invariant mirrored, safe_of_observedEqual _ invariant mirrored,
    observedEqual_of_safe _ invariant mirrored⟩

/-- A restart right after one enqueue hands out nothing, so the two queues differ. -/
theorem enqueue_restart_differs :
    ∃ reloaded,
      load (reached [.enqueue (agentRun "job-1") UtcTime.first]).store UtcTime.first =
        some reloaded ∧
      ((reached [.enqueue (agentRun "job-1") UtcTime.first]).dequeue none "default"
        UtcTime.first).1.map RuntimeJob.jobId = some "job-1" ∧
      (reloaded.dequeue none "default" UtcTime.first).1.map RuntimeJob.jobId = none ∧
      ¬ (reached [.enqueue (agentRun "job-1") UtcTime.first]).ObservedEqual reloaded := by
  have invariant : (reached [.enqueue (agentRun "job-1") UtcTime.first]).memory.Invariant := by
    rw [reached_memory]
    exact reached_invariant _
  refine ⟨_, load_store _ _ invariant (reached_mirrored _), rfl, rfl, fun same => ?_⟩
  exact settled_of_observedEqual _ invariant same "job-1"
    (queuedForm (agentRun "job-1") UtcTime.first) rfl rfl

end SQLiteJobQueue

end AgentFabric.Cloud
