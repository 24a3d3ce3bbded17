import AgentFabric.Construction.Cloud.JobQueue

namespace AgentFabric.Cloud
open Transition

/-- One agent run of a fixed tenant with the default queue and retry limit. -/
def agentRun (jobId : String) : RuntimeJob :=
  RuntimeJob.new "tenant-a" "org-a" "owner-a" "agent_run" [] jobId UtcTime.first UtcTime.first

variable (tenantId : Option String)

/-- A dequeue filter accepts every job or only the jobs of its tenant. -/
def Accepts (job : RuntimeJob) : Prop :=
  tenantId = none ∨ tenantId = some job.tenantId

theorem not_accepts_iff (job : RuntimeJob) :
    (tenantId.isSome ∧ some job.tenantId ≠ tenantId) ↔ ¬ Accepts tenantId job := by
  cases tenantId with
  | none => simp [Accepts]
  | some tenant => simp [Accepts, eq_comm]

namespace MemoryJobQueue

section Loop

variable (jobs : Dict String RuntimeJob) (tenantId : Option String) (rounds : Nat)

/-- The loop returns a queued job of the deque and shortens the deque. -/
theorem dequeueLoop_found (deque rest : List String) (jobId : String)
    (job : RuntimeJob) (found : dequeueLoop jobs tenantId rounds deque = (some (jobId, job), rest)) :
    jobs.get? jobId = some job ∧ job.status = .queued ∧ Accepts tenantId job ∧
      jobId ∈ deque ∧ rest.length < deque.length := by
  induction rounds generalizing deque with
  | zero => simp [dequeueLoop] at found
  | succ rounds ih =>
      cases deque with
      | nil => simp [dequeueLoop] at found
      | cons head tail =>
          simp only [dequeueLoop] at found
          split at found
          · obtain ⟨stored, queued, accepted, member, shorter⟩ := ih tail found
            exact ⟨stored, queued, accepted, List.mem_cons_of_mem _ member, by
              simp only [List.length_cons]; omega⟩
          · rename_i headJob headStored
            split at found
            · obtain ⟨stored, queued, accepted, member, shorter⟩ := ih tail found
              exact ⟨stored, queued, accepted, List.mem_cons_of_mem _ member, by
                simp only [List.length_cons]; omega⟩
            · rename_i headQueued
              split at found
              · obtain ⟨stored, queued, accepted, member, shorter⟩ := ih (tail ++ [head]) found
                refine ⟨stored, queued, accepted, ?_, ?_⟩
                · rw [List.mem_append, List.mem_singleton] at member
                  rw [List.mem_cons]
                  exact member.symm
                · simpa using shorter
              · rename_i accepted
                rw [not_accepts_iff, not_not] at accepted
                simp only [Prod.mk.injEq, Option.some.injEq] at found
                obtain ⟨⟨rfl, rfl⟩, rfl⟩ := found
                exact ⟨headStored, not_not.mp headQueued, accepted, List.mem_cons_self, by simp⟩

variable (deque : List String)

/-- The loop drops an id only when its job is not queued or when it returns that job. -/
theorem dequeueLoop_keeps (jobId : String) (job : RuntimeJob)
    (stored : jobs.get? jobId = some job) (queued : job.status = .queued)
    (member : jobId ∈ deque) :
    jobId ∈ (dequeueLoop jobs tenantId rounds deque).2 ∨
      (dequeueLoop jobs tenantId rounds deque).1 = some (jobId, job) := by
  induction rounds generalizing deque with
  | zero => exact Or.inl member
  | succ rounds ih =>
      cases deque with
      | nil => simp at member
      | cons head tail =>
          have inTail (stale : jobId ≠ head) : jobId ∈ tail :=
            (List.mem_cons.mp member).resolve_left stale
          simp only [dequeueLoop]
          split
          · rename_i headMissing
            exact ih tail (inTail fun equal => by simp [← equal, stored] at headMissing)
          · rename_i headJob headStored
            split
            · rename_i headStale
              exact ih tail (inTail fun equal => by
                rw [← equal, stored, Option.some.injEq] at headStored
                exact headStale (headStored ▸ queued))
            · split
              · apply ih
                rw [List.mem_append, List.mem_singleton]
                exact (List.mem_cons.mp member).symm
              · by_cases same : jobId = head
                · subst same
                  rw [stored, Option.some.injEq] at headStored
                  exact Or.inr (by rw [headStored])
                · exact Or.inl (inTail same)

/-- An empty answer means that no job among the scanned ids fits the filter. -/
theorem dequeueLoop_missed
    (missed : (dequeueLoop jobs tenantId rounds deque).1 = none) (jobId : String)
    (job : RuntimeJob) (member : jobId ∈ deque.take rounds) (stored : jobs.get? jobId = some job)
    (queued : job.status = .queued) : ¬ Accepts tenantId job := by
  induction rounds generalizing deque with
  | zero => simp at member
  | succ rounds ih =>
      cases deque with
      | nil => simp at member
      | cons head tail =>
          rw [List.take_succ_cons, List.mem_cons] at member
          simp only [dequeueLoop] at missed
          split at missed
          · rename_i headMissing
            refine ih tail missed (member.resolve_left fun equal => ?_)
            simp [← equal, stored] at headMissing
          · rename_i headJob headStored
            split at missed
            · rename_i headStale
              refine ih tail missed (member.resolve_left fun equal => ?_)
              rw [← equal, stored, Option.some.injEq] at headStored
              exact headStale (headStored ▸ queued)
            · split at missed
              · rename_i rejected
                rw [not_accepts_iff] at rejected
                rcases member with same | later
                · rw [← same, stored, Option.some.injEq] at headStored
                  exact headStored ▸ rejected
                · apply ih _ missed
                  rw [List.take_append]
                  exact List.mem_append_left _ later
              · simp at missed

end Loop

variable (queue : MemoryJobQueue) (tenantId : Option String) (queueName : String)

/-- One dequeue either leases one queued job or keeps the job table. -/
theorem dequeue_cases (now : UtcTime) :
    (∃ rest, queue.dequeue tenantId queueName now =
        (none, { queue with queues := queue.queues.set queueName rest }) ∧
      ∀ jobId job, jobId ∈ queue.deque queueName → queue.jobs.get? jobId = some job →
        job.status = .queued → jobId ∈ rest ∧ ¬ Accepts tenantId job) ∨
    ∃ jobId job rest, queue.dequeue tenantId queueName now =
        (some (lease job now), { queue with
          jobs := queue.jobs.set jobId (lease job now)
          queues := queue.queues.set queueName rest }) ∧
      queue.jobs.get? jobId = some job ∧ job.status = .queued ∧ Accepts tenantId job ∧
      jobId ∈ queue.deque queueName ∧ rest.length < (queue.deque queueName).length ∧
      ∀ other otherJob, other ∈ queue.deque queueName → queue.jobs.get? other = some otherJob →
        otherJob.status = .queued → other ≠ jobId → other ∈ rest := by
  unfold dequeue
  dsimp only
  have keeps := dequeueLoop_keeps queue.jobs tenantId (queue.deque queueName).length
    (queue.deque queueName)
  have missed := dequeueLoop_missed queue.jobs tenantId (queue.deque queueName).length
    (queue.deque queueName)
  cases result : dequeueLoop queue.jobs tenantId (queue.deque queueName).length
    (queue.deque queueName) with
  | mk answer rest =>
      rw [result] at keeps missed
      cases answer with
      | none =>
          refine Or.inl ⟨rest, rfl, fun jobId job member stored queued => ⟨?_, ?_⟩⟩
          · exact (keeps jobId job stored queued member).resolve_right (by simp)
          · exact missed rfl jobId job (by rwa [List.take_length]) stored queued
      | some found =>
          obtain ⟨jobId, job⟩ := found
          obtain ⟨stored, queued, accepted, member, shorter⟩ :=
            dequeueLoop_found queue.jobs tenantId _ _ _ _ _ result
          refine Or.inr ⟨jobId, job, rest, rfl, stored, queued, accepted, member, shorter, ?_⟩
          intro other otherJob otherMember otherStored otherQueued different
          refine (keeps other otherJob otherStored otherQueued otherMember).resolve_right ?_
          simp only [Option.some.injEq, Prod.mk.injEq, not_and]
          exact fun same => absurd same.symm different

variable (job : RuntimeJob) (now : UtcTime)

/-- The job that an enqueue stores. -/
def queuedForm : RuntimeJob :=
  job.withUpdate now fun job => { job with status := .queued }

variable (queued : RuntimeJob)

/-- The queue after a queued job is stored at the end of its deque. -/
def filed : MemoryJobQueue :=
  { queue with
    jobs := queue.jobs.set queued.jobId queued
    queues := queue.queues.set queued.queueName (queue.deque queued.queueName ++ [queued.jobId]) }

/-- An enqueue fails exactly when the job is invalid. -/
theorem enqueue_eq :
    queue.enqueue job now =
      job.validate.map fun _ => (queuedForm job now, queue.filed (queuedForm job now)) := by
  unfold enqueue
  cases job.validate <;> rfl

theorem deque_set (queueName query : String) (ids : List String)
    (jobs dead : Dict String RuntimeJob) :
    deque ⟨jobs, queue.queues.set queueName ids, dead⟩ query =
      if query = queueName then ids else queue.deque query := by
  simp only [deque, Dict.getD_set]

/-- Every record stands under its own id and every queued id waits in its own deque. -/
structure Invariant (queue : MemoryJobQueue) : Prop where
  keyed : ∀ jobId job, queue.jobs.get? jobId = some job → job.jobId = jobId
  live : ∀ jobId job, queue.jobs.get? jobId = some job → job.status = .queued →
    jobId ∈ queue.deque job.queueName
  deadKeyed : ∀ jobId job, queue.dead.get? jobId = some job → job.jobId = jobId

theorem empty_invariant : empty.Invariant where
  keyed := by simp [empty]
  live := by simp [empty]
  deadKeyed := by simp [empty]

/-- A new end of one deque keeps all waiting ids. -/
theorem filed_invariant (ids : List String)
    (invariant : queue.Invariant) (kept : queue.deque queued.queueName ⊆ ids)
    (added : queued.jobId ∈ ids) :
    Invariant { queue with
      jobs := queue.jobs.set queued.jobId queued
      queues := queue.queues.set queued.queueName ids } where
  keyed := by
    intro jobId job stored
    rw [Dict.get?_set] at stored
    split at stored
    · rename_i same
      rw [← Option.some.inj stored, same]
    · exact invariant.keyed jobId job stored
  live := by
    intro jobId job stored waiting
    rw [Dict.get?_set] at stored
    rw [deque_set]
    split at stored
    · rename_i same
      rw [← Option.some.inj stored, if_pos rfl, same]
      exact added
    · have member := invariant.live jobId job stored waiting
      split
      · rename_i sameQueue
        exact kept (sameQueue ▸ member)
      · exact member
  deadKeyed := invariant.deadKeyed

/-- A record that is not queued needs no deque. -/
theorem stored_invariant (invariant : queue.Invariant) (settled : job.status ≠ .queued) :
    Invariant { queue with jobs := queue.jobs.set job.jobId job } where
  keyed := by
    intro jobId other stored
    rw [Dict.get?_set] at stored
    split at stored
    · rename_i same
      rw [← Option.some.inj stored, same]
    · exact invariant.keyed jobId other stored
  live := by
    intro jobId other stored waiting
    rw [Dict.get?_set] at stored
    split at stored
    · exact absurd (Option.some.inj stored ▸ waiting) settled
    · exact invariant.live jobId other stored waiting
  deadKeyed := invariant.deadKeyed

theorem enqueue_invariant (queue next : MemoryJobQueue) (job queued : RuntimeJob) (now : UtcTime)
    (invariant : queue.Invariant) (accepted : queue.enqueue job now = .ok (queued, next)) :
    next.Invariant := by
  rw [enqueue_eq] at accepted
  cases valid : job.validate with
  | error error => simp [valid, Except.map] at accepted
  | ok _ =>
      simp only [valid, Except.map, Except.ok.injEq, Prod.mk.injEq] at accepted
      rw [← accepted.2]
      exact filed_invariant queue _ _ invariant (List.subset_append_left _ _)
        (List.mem_append_right _ (List.mem_singleton_self _))

theorem dequeue_invariant (now : UtcTime) (invariant : queue.Invariant) :
    (queue.dequeue tenantId queueName now).2.Invariant := by
  rcases queue.dequeue_cases tenantId queueName now with
    ⟨rest, result, kept⟩ | ⟨leasedId, leasedJob, rest, result, found, _, _, _, _, kept⟩
  · rw [result]
    refine ⟨invariant.keyed, fun jobId job stored waiting => ?_, invariant.deadKeyed⟩
    have member := invariant.live jobId job stored waiting
    rw [deque_set]
    split
    · rename_i sameQueue
      exact (kept jobId job (sameQueue ▸ member) stored waiting).1
    · exact member
  · rw [result]
    have sameId : (lease leasedJob now).jobId = leasedId := invariant.keyed leasedId leasedJob found
    refine ⟨fun jobId job stored => ?_, fun jobId job stored waiting => ?_, invariant.deadKeyed⟩
    · rw [Dict.get?_set] at stored
      split at stored
      · rename_i same
        rw [← Option.some.inj stored, same, sameId]
      · exact invariant.keyed jobId job stored
    · rw [Dict.get?_set] at stored
      split at stored
      · rw [← Option.some.inj stored] at waiting
        simp [lease] at waiting
      · rename_i different
        have member := invariant.live jobId job stored waiting
        rw [deque_set]
        split
        · rename_i sameQueue
          exact kept jobId job (sameQueue ▸ member) stored waiting different
        · exact member

theorem put_invariant (invariant : queue.Invariant) : (queue.put job).2.Invariant := by
  unfold put
  dsimp only
  split
  · apply filed_invariant queue job _ invariant
    · split
      · exact List.Subset.refl _
      · exact List.subset_append_left _ _
    · split
      · assumption
      · exact List.mem_append_right _ (List.mem_singleton_self _)
  · rename_i settled
    exact stored_invariant queue job invariant settled

theorem deadLetter_invariant
    (invariant : queue.Invariant) : (queue.deadLetter job now).2.Invariant := by
  have stored := stored_invariant queue
    (job.withUpdate now fun job => { job with status := .deadLettered }) invariant (by simp)
  refine ⟨stored.keyed, stored.live, fun jobId dead present => ?_⟩
  simp only [deadLetter] at present
  rw [Dict.get?_set] at present
  split at present
  · rename_i same
    rw [← Option.some.inj present, same]
  · exact invariant.deadKeyed jobId dead present

/-- Every queue call preserves the invariant. -/
theorem step_invariant (call : QueueCall) (invariant : queue.Invariant) :
    (queue.step call).2.Invariant := by
  cases call with
  | enqueue job now =>
      simp only [step]
      split
      · rename_i queued next accepted
        exact enqueue_invariant queue next job queued now invariant accepted
      · exact invariant
  | dequeue tenantId queueName now => exact queue.dequeue_invariant tenantId queueName now invariant
  | put job => exact queue.put_invariant job invariant
  | deadLetter job now => exact queue.deadLetter_invariant job now invariant

theorem reached_invariant (calls : List QueueCall) : (reached calls).Invariant :=
  run_invariant step Invariant step_invariant empty calls empty_invariant

end MemoryJobQueue

/-- These calls set a job back to queued. -/
def QueueCall.requeues (jobId : String) : QueueCall → Prop
  | .enqueue job _ => job.jobId = jobId
  | .put job => job.jobId = jobId ∧ job.status = .queued
  | _ => False

namespace MemoryJobQueue

/-- No record of the job is queued. -/
def Idle (jobId : String) (queue : MemoryJobQueue) : Prop :=
  ∀ job, queue.jobs.get? jobId = some job → job.status ≠ .queued

variable (queue : MemoryJobQueue)

theorem set_idle (jobId : String) (job : RuntimeJob)
    (idle : queue.Idle jobId) (harmless : job.jobId = jobId → job.status ≠ .queued) :
    ∀ stored, (queue.jobs.set job.jobId job).get? jobId = some stored →
      stored.status ≠ .queued := by
  intro stored present
  rw [Dict.get?_set] at present
  split at present
  · rename_i same
    rw [← Option.some.inj present]
    exact harmless same.symm
  · exact idle stored present

/-- Only a call that sets the job back to queued ends its idle time. -/
theorem step_idle (call : QueueCall) (jobId : String)
    (idle : queue.Idle jobId) (other : ¬ call.requeues jobId) :
    (queue.step call).2.Idle jobId := by
  cases call with
  | enqueue job now =>
      simp only [step, enqueue_eq]
      cases job.validate with
      | error error => exact idle
      | ok _ =>
          exact set_idle queue jobId (queuedForm job now) idle fun same =>
            absurd same other
  | dequeue tenantId queueName now =>
      simp only [step]
      rcases queue.dequeue_cases tenantId queueName now with
        ⟨rest, result, _⟩ | ⟨leasedId, leasedJob, rest, result, _⟩
      · rw [result]
        exact idle
      · rw [result]
        intro job stored
        rw [Dict.get?_set] at stored
        split at stored
        · rw [← Option.some.inj stored]
          simp [lease]
        · exact idle job stored
  | put job =>
      have settled : job.jobId = jobId → job.status ≠ .queued :=
        fun same queued => other ⟨same, queued⟩
      simp only [step, put]
      split <;> exact set_idle queue jobId job idle settled
  | deadLetter job now =>
      exact set_idle queue jobId (job.withUpdate now fun job => { job with status := .deadLettered })
        idle (by simp)

variable (tenantId : Option String) (queueName : String) (now : UtcTime) (leased : RuntimeJob)

/-- A returned job is the lease of its stored queued record. -/
theorem dequeue_leased (invariant : queue.Invariant)
    (returned : (queue.dequeue tenantId queueName now).1 = some leased) :
    ∃ before, queue.jobs.get? leased.jobId = some before ∧ before.status = .queued ∧
      leased = lease before now := by
  rcases queue.dequeue_cases tenantId queueName now with
    ⟨rest, result, _⟩ | ⟨jobId, job, rest, result, found, waiting, _⟩
  · simp [result] at returned
  · rw [result] at returned
    obtain rfl : lease job now = leased := Option.some.inj returned
    have sameId : (lease job now).jobId = jobId := invariant.keyed jobId job found
    exact ⟨job, sameId ▸ found, waiting, rfl⟩

/-- A returned job was queued, is now assigned, and is the only changed record. -/
theorem dequeue_returned (invariant : queue.Invariant)
    (returned : (queue.dequeue tenantId queueName now).1 = some leased) :
    (∃ before, queue.jobs.get? leased.jobId = some before ∧ before.status = .queued ∧
      leased.attempts = before.attempts + 1) ∧
    leased.status = .assigned ∧
    (queue.dequeue tenantId queueName now).2.jobs.get? leased.jobId = some leased ∧
    ∀ other, other ≠ leased.jobId →
      (queue.dequeue tenantId queueName now).2.jobs.get? other = queue.jobs.get? other := by
  rcases queue.dequeue_cases tenantId queueName now with
    ⟨rest, result, _⟩ | ⟨jobId, job, rest, result, found, waiting, _⟩
  · simp [result] at returned
  · rw [result] at returned ⊢
    obtain rfl : lease job now = leased := Option.some.inj returned
    have sameId : (lease job now).jobId = jobId := invariant.keyed jobId job found
    rw [sameId]
    refine ⟨⟨job, found, waiting, rfl⟩, rfl, Dict.get?_set_self _ _ _, fun other different => ?_⟩
    exact Dict.get?_set_of_ne _ _ different

/-- A dequeue that returns nothing keeps the job table. -/
theorem dequeue_empty_handed (missed : (queue.dequeue tenantId queueName now).1 = none) :
    (queue.dequeue tenantId queueName now).2.jobs = queue.jobs := by
  rcases queue.dequeue_cases tenantId queueName now with
    ⟨rest, result, _⟩ | ⟨jobId, job, rest, result, _⟩
  · rw [result]
  · simp [result] at missed

/-- As many accepting dequeues as the deque is long reach every waiting job. -/
theorem dequeue_reaches (jobId : String) (job : RuntimeJob)
    (invariant : queue.Invariant) (stored : queue.jobs.get? jobId = some job)
    (waiting : job.status = .queued) (filters : List (Option String × UtcTime))
    (accepting : ∀ filter ∈ filters, Accepts filter.1 job)
    (enough : (queue.deque job.queueName).length ≤ filters.length) :
    ∃ leased, .ok (some leased) ∈ responses step queue
        (filters.map fun filter => .dequeue filter.1 job.queueName filter.2) ∧
      leased.jobId = jobId := by
  induction filters generalizing queue with
  | nil =>
      have member := invariant.live jobId job stored waiting
      rw [List.length_nil, Nat.le_zero, List.length_eq_zero_iff] at enough
      rw [enough] at member
      exact absurd member List.not_mem_nil
  | cons filter rest ih =>
      have member := invariant.live jobId job stored waiting
      have acceptsHead := accepting filter (.head _)
      rw [List.map_cons, responses]
      have next := queue.dequeue_invariant filter.1 job.queueName filter.2 invariant
      rcases queue.dequeue_cases filter.1 job.queueName filter.2 with
        ⟨ids, result, missed⟩ | ⟨leasedId, leasedJob, ids, result, found, _, _, _, shorter, kept⟩
      · exact absurd acceptsHead (missed jobId job member stored waiting).2
      · simp only [step]
        rw [result] at next ⊢
        by_cases same : leasedId = jobId
        · subst same
          exact ⟨lease leasedJob filter.2, .head _, invariant.keyed leasedId leasedJob found⟩
        · obtain ⟨leased, answered, sameId⟩ := ih _ next
            (by rw [Dict.get?_set_of_ne _ _ (Ne.symm same)]; exact stored)
            (fun later laterMember => accepting later (.tail _ laterMember))
            (by rw [deque_set, if_pos rfl]; rw [List.length_cons] at enough; omega)
          exact ⟨leased, List.mem_cons_of_mem _ answered, sameId⟩

/-- A leased job is leased again only after a call that set it back to queued. -/
theorem dequeue_again (invariant : queue.Invariant)
    (tenantId laterTenantId : Option String) (queueName laterQueueName : String)
    (now later : UtcTime) (calls : List QueueCall) (leased again : RuntimeJob)
    (first : (queue.dequeue tenantId queueName now).1 = some leased)
    (second : ((run step (queue.dequeue tenantId queueName now).2 calls).dequeue laterTenantId
      laterQueueName later).1 = some again)
    (same : again.jobId = leased.jobId) : ∃ call ∈ calls, call.requeues leased.jobId := by
  by_contra untouched
  push Not at untouched
  obtain ⟨_, assigned, stored, _⟩ :=
    dequeue_returned queue tenantId queueName now leased invariant first
  have idle : (queue.dequeue tenantId queueName now).2.Idle leased.jobId := by
    intro job present
    rw [stored, Option.some.injEq] at present
    rw [← present, assigned]
    decide
  have stillIdle := run_invariant_of_guarded step (fun _ call => ¬ call.requeues leased.jobId)
    (Idle leased.jobId) (fun state call idle harmless => state.step_idle call _ idle harmless)
    _ calls idle (guarded_of_forall step _ _ calls untouched)
  have stillInvariant := run_invariant step Invariant step_invariant _ calls
    (queue.dequeue_invariant tenantId queueName now invariant)
  obtain ⟨⟨before, present, waiting, _⟩, _⟩ :=
    dequeue_returned _ laterTenantId laterQueueName later again stillInvariant second
  exact stillIdle before (same ▸ present) waiting

/-- Every reached queue keeps waiting jobs reachable and leases a job once per requeue. -/
theorem reached_lease_discipline (calls : List QueueCall) :
    (∀ jobId job, (reached calls).jobs.get? jobId = some job → job.status = .queued →
      jobId ∈ (reached calls).deque job.queueName ∧
      ∀ filters : List (Option String × UtcTime), (∀ filter ∈ filters, Accepts filter.1 job) →
        ((reached calls).deque job.queueName).length ≤ filters.length →
        ∃ leased, .ok (some leased) ∈ responses step (reached calls)
            (filters.map fun filter => .dequeue filter.1 job.queueName filter.2) ∧
          leased.jobId = jobId) ∧
    (∀ tenantId queueName now leased,
      ((reached calls).dequeue tenantId queueName now).1 = some leased →
      (∃ before, (reached calls).jobs.get? leased.jobId = some before ∧
        before.status = .queued ∧ leased.attempts = before.attempts + 1) ∧
      leased.status = .assigned ∧
      ((reached calls).dequeue tenantId queueName now).2.jobs.get? leased.jobId = some leased ∧
      ∀ other, other ≠ leased.jobId →
        ((reached calls).dequeue tenantId queueName now).2.jobs.get? other =
          (reached calls).jobs.get? other) ∧
    (∀ tenantId queueName now, ((reached calls).dequeue tenantId queueName now).1 = none →
      ((reached calls).dequeue tenantId queueName now).2.jobs = (reached calls).jobs) ∧
    ∀ tenantId laterTenantId queueName laterQueueName now later between leased again,
      ((reached calls).dequeue tenantId queueName now).1 = some leased →
      ((run step ((reached calls).dequeue tenantId queueName now).2 between).dequeue
        laterTenantId laterQueueName later).1 = some again →
      again.jobId = leased.jobId → ∃ call ∈ between, call.requeues leased.jobId := by
  have invariant := reached_invariant calls
  refine ⟨fun jobId job stored waiting => ⟨invariant.live jobId job stored waiting, ?_⟩, ?_, ?_, ?_⟩
  · exact dequeue_reaches _ jobId job invariant stored waiting
  · intro tenantId queueName now leased returned
    exact dequeue_returned _ tenantId queueName now leased invariant returned
  · intro tenantId queueName now missed
    exact dequeue_empty_handed _ tenantId queueName now missed
  · intro tenantId laterTenantId queueName laterQueueName now later between leased again
    exact dequeue_again _ invariant tenantId laterTenantId queueName laterQueueName now later
      between leased again

end MemoryJobQueue

end AgentFabric.Cloud
