import AgentFabric.Construction.Cloud.Runtime
import AgentFabric.Proof.Cloud.LeaseDiscipline

namespace AgentFabric.Cloud
open Transition Quotas MemoryJobQueue

namespace MemoryJobQueue

variable (queue : MemoryJobQueue)

@[simp] theorem put_jobs (job : RuntimeJob) :
    (queue.put job).2.jobs = queue.jobs.set job.jobId job := by
  unfold put
  dsimp only
  split <;> rfl

@[simp] theorem put_dead (job : RuntimeJob) : (queue.put job).2.dead = queue.dead := by
  unfold put
  dsimp only
  split <;> rfl

variable (tenantId : Option String) (queueName : String)

@[simp] theorem dequeue_dead (now : UtcTime) :
    (queue.dequeue tenantId queueName now).2.dead = queue.dead := by
  unfold dequeue
  dsimp only
  split <;> rfl

/-- A dequeue changes at most the record that it returns. -/
theorem dequeue_jobs (now : UtcTime) (invariant : queue.Invariant) (query : String) :
    (queue.dequeue tenantId queueName now).2.jobs.get? query =
      match (queue.dequeue tenantId queueName now).1 with
      | none => queue.jobs.get? query
      | some leased => if query = leased.jobId then some leased else queue.jobs.get? query := by
  cases returned : (queue.dequeue tenantId queueName now).1 with
  | none => rw [dequeue_empty_handed queue tenantId queueName now returned]
  | some leased =>
      obtain ⟨_, _, stored, others⟩ :=
        dequeue_returned queue tenantId queueName now leased invariant returned
      by_cases same : query = leased.jobId
      · simpa [same] using stored
      · simpa [same] using others query same

end MemoryJobQueue

namespace Dispatcher

variable (dispatcher : Dispatcher)

@[simp] theorem append_queue (eventType : String) (job : RuntimeJob) :
    (dispatcher.append eventType job).queue = dispatcher.queue := rfl

@[simp] theorem put_queue (job : RuntimeJob) :
    (dispatcher.put job).queue = (dispatcher.queue.put job).2 := rfl

variable (context : DispatchContext) (running : RuntimeJob)

/-- The record that the end of an execution stores. -/
def settledForm : RuntimeJob :=
  match context.handle running with
  | .ok result => completedForm context running result
  | .error message =>
      let failed := failedForm context running message
      if running.maxAttempts ≤ running.attempts then
        failed.withUpdate (context.now 5) fun job => { job with status := .deadLettered }
      else failed.withUpdate (context.now 5) fun job => { job with status := .queued }

@[simp] theorem settledForm_attempts :
    (settledForm context running).attempts = running.attempts := by
  unfold settledForm
  split
  · rfl
  · dsimp only
    split <;> rfl

@[simp] theorem settledForm_maxAttempts :
    (settledForm context running).maxAttempts = running.maxAttempts := by
  unfold settledForm
  split
  · rfl
  · dsimp only
    split <;> rfl

/-- The end of an execution completes, dead-letters, or requeues the job. -/
theorem settledForm_status :
    (settledForm context running).status =
      match context.handle running with
      | .ok _ => .completed
      | .error _ =>
          if running.maxAttempts ≤ running.attempts then .deadLettered else .queued := by
  unfold settledForm
  split
  · rfl
  · dsimp only
    split <;> rfl

section Parts

variable (dispatcher : Dispatcher) (context : DispatchContext) (running : RuntimeJob)

/-- The end of an execution rewrites the record of its job. -/
theorem finish_jobs :
    (dispatcher.finish context running).2.queue.jobs =
      dispatcher.queue.jobs.set running.jobId (settledForm context running) := by
  unfold finish settledForm
  cases context.handle running with
  | ok result => simp [completedForm]
  | error message =>
      by_cases exhausted : running.maxAttempts ≤ running.attempts
      · simp [failedForm, exhausted, deadLetter]
      · simp [failedForm, exhausted]

/-- Only a dead-lettered job enters the dead table. -/
theorem finish_dead :
    (dispatcher.finish context running).2.queue.dead =
      if (settledForm context running).status = .deadLettered then
        dispatcher.queue.dead.set running.jobId (settledForm context running)
      else dispatcher.queue.dead := by
  unfold finish settledForm
  cases context.handle running with
  | ok result => simp [completedForm]
  | error message =>
      by_cases exhausted : running.maxAttempts ≤ running.attempts
      · simp [failedForm, exhausted, deadLetter]
      · simp [failedForm, exhausted]

theorem finish_invariant (invariant : dispatcher.queue.Invariant) :
    (dispatcher.finish context running).2.queue.Invariant := by
  unfold finish
  split
  · exact dispatcher.queue.put_invariant _ invariant
  · dsimp only
    split
    · exact dispatcher.queue.deadLetter_invariant _ _ invariant
    · exact dispatcher.queue.put_invariant _ invariant

instance (answer : Except PyError Unit) : Decidable (answer = .ok ()) :=
  match answer with
  | .ok () => .isTrue rfl
  | .error _ => .isFalse nofun

/-- The validation and all checks let the job start. -/
def Admits (tracker : QuotaTracker) (job : RuntimeJob) : Prop :=
  job.validate = .ok () ∧ (context.enforce tracker job).1 = .ok ()

instance (tracker : QuotaTracker) (job : RuntimeJob) : Decidable (Admits context tracker job) :=
  inferInstanceAs (Decidable (_ ∧ _))

theorem start_admitted (job : RuntimeJob) (admitted : Admits context dispatcher.tracker job) :
    (dispatcher.start context job).1 = .ok (runningForm context job) ∧
      (dispatcher.start context job).2.queue =
        (dispatcher.queue.put (runningForm context job)).2 := by
  obtain ⟨valid, passed⟩ := admitted
  unfold start
  rw [valid]
  dsimp only
  cases result : context.enforce dispatcher.tracker job with
  | mk answer tracker =>
      rw [result] at passed
      obtain rfl : answer = .ok () := passed
      exact ⟨rfl, rfl⟩

/-- A denied start raises and leaves the queue as it was. -/
theorem start_denied (job : RuntimeJob) (denied : ¬ Admits context dispatcher.tracker job) :
    (∃ error, (dispatcher.start context job).1 = .error error) ∧
      (dispatcher.start context job).2.queue = dispatcher.queue := by
  unfold start
  cases valid : job.validate with
  | error error => exact ⟨⟨error, rfl⟩, rfl⟩
  | ok _ =>
      dsimp only
      cases result : context.enforce dispatcher.tracker job with
      | mk answer tracker =>
          cases answer with
          | error error => exact ⟨⟨error, rfl⟩, rfl⟩
          | ok _ => exact absurd ⟨valid, by rw [result]⟩ denied

/-- A whole dispatch is its first part and then the end of the execution. -/
theorem dispatchOne_eq (tenantId : Option String) (queueName workerId : String) :
    dispatcher.dispatchOne context tenantId queueName workerId =
      match dispatcher.beginOne context tenantId queueName workerId with
      | (.ok (some running), next) =>
          (.ok (some (next.finish context running).1), (next.finish context running).2)
      | other => other := by
  unfold dispatchOne beginOne execute
  split
  · rfl
  · dsimp only
    split
    · rename_i error next failed
      rw [failed]
      rfl
    · rename_i running next started
      rw [started]
      rfl

/-- The job as the handler receives it. -/
def startedForm (workerId : String) (leased : RuntimeJob) : RuntimeJob :=
  runningForm context (assignedForm context workerId leased)

/-- The dispatcher after the lease is recorded and before the job is checked. -/
def assign (queue : MemoryJobQueue) (workerId : String) (leased : RuntimeJob) : Dispatcher :=
  (put { dispatcher with queue } (assignedForm context workerId leased)).append
    "runtime.job.assigned" (assignedForm context workerId leased)

variable (tenantId : Option String) (queueName workerId : String)

theorem beginOne_none
    (missed : (dispatcher.queue.dequeue tenantId queueName (context.now 0)).1 = none) :
    dispatcher.beginOne context tenantId queueName workerId =
      (.ok none, { dispatcher with
        queue := (dispatcher.queue.dequeue tenantId queueName (context.now 0)).2 }) := by
  unfold beginOne
  cases result : dispatcher.queue.dequeue tenantId queueName (context.now 0) with
  | mk answer queue =>
      rw [result] at missed
      obtain rfl : answer = none := missed
      rfl

/-- The record that a dispatch leaves for its leased job. -/
def leftForm (leased : RuntimeJob) : RuntimeJob :=
  if Admits context dispatcher.tracker (assignedForm context workerId leased) then
    settledForm context (startedForm context workerId leased)
  else assignedForm context workerId leased

theorem dispatchOne_none
    (missed : (dispatcher.queue.dequeue tenantId queueName (context.now 0)).1 = none) :
    dispatcher.dispatchOne context tenantId queueName workerId =
      (.ok none, { dispatcher with
        queue := (dispatcher.queue.dequeue tenantId queueName (context.now 0)).2 }) := by
  rw [dispatchOne_eq, beginOne_none dispatcher context tenantId queueName workerId missed]

section Leased

variable (leased : RuntimeJob)
  (returned : (dispatcher.queue.dequeue tenantId queueName (context.now 0)).1 = some leased)

include returned

theorem beginOne_some :
    dispatcher.beginOne context tenantId queueName workerId =
      (((dispatcher.assign context
          (dispatcher.queue.dequeue tenantId queueName (context.now 0)).2 workerId leased).start
            context (assignedForm context workerId leased)).1.map some,
        ((dispatcher.assign context
          (dispatcher.queue.dequeue tenantId queueName (context.now 0)).2 workerId leased).start
            context (assignedForm context workerId leased)).2) := by
  unfold beginOne
  cases result : dispatcher.queue.dequeue tenantId queueName (context.now 0) with
  | mk answer queue =>
      rw [result] at returned
      obtain rfl : answer = some leased := returned
      rfl

/-- An admitted job is running when its handler is called. -/
theorem beginOne_admitted
    (admitted : Admits context dispatcher.tracker (assignedForm context workerId leased)) :
    (dispatcher.beginOne context tenantId queueName workerId).1 =
        .ok (some (startedForm context workerId leased)) ∧
      (dispatcher.beginOne context tenantId queueName workerId).2.queue =
        (((dispatcher.queue.dequeue tenantId queueName (context.now 0)).2.put
          (assignedForm context workerId leased)).2.put
            (startedForm context workerId leased)).2 := by
  rw [beginOne_some dispatcher context tenantId queueName workerId leased returned]
  obtain ⟨answer, queue⟩ := start_admitted (dispatcher.assign context
    (dispatcher.queue.dequeue tenantId queueName (context.now 0)).2 workerId leased) context
    (assignedForm context workerId leased) admitted
  exact ⟨by rw [answer]; rfl, queue⟩

/-- A denied job stays assigned in the queue. -/
theorem beginOne_denied
    (denied : ¬ Admits context dispatcher.tracker (assignedForm context workerId leased)) :
    (∃ error, (dispatcher.beginOne context tenantId queueName workerId).1 = .error error) ∧
      (dispatcher.beginOne context tenantId queueName workerId).2.queue =
        ((dispatcher.queue.dequeue tenantId queueName (context.now 0)).2.put
          (assignedForm context workerId leased)).2 := by
  rw [beginOne_some dispatcher context tenantId queueName workerId leased returned]
  obtain ⟨⟨error, answer⟩, queue⟩ := start_denied (dispatcher.assign context
    (dispatcher.queue.dequeue tenantId queueName (context.now 0)).2 workerId leased) context
    (assignedForm context workerId leased) denied
  exact ⟨⟨error, by rw [answer]; rfl⟩, queue⟩

theorem dispatchOne_admitted
    (admitted : Admits context dispatcher.tracker (assignedForm context workerId leased)) :
    (dispatcher.dispatchOne context tenantId queueName workerId).2 =
      ((dispatcher.beginOne context tenantId queueName workerId).2.finish context
        (startedForm context workerId leased)).2 := by
  have answer := (beginOne_admitted dispatcher context tenantId queueName workerId leased returned
    admitted).1
  rw [dispatchOne_eq]
  cases result : dispatcher.beginOne context tenantId queueName workerId with
  | mk first next =>
      rw [result] at answer
      obtain rfl : first = _ := answer
      rfl

theorem dispatchOne_denied
    (denied : ¬ Admits context dispatcher.tracker (assignedForm context workerId leased)) :
    dispatcher.dispatchOne context tenantId queueName workerId =
      dispatcher.beginOne context tenantId queueName workerId := by
  obtain ⟨error, answer⟩ := (beginOne_denied dispatcher context tenantId queueName workerId
    leased returned denied).1
  rw [dispatchOne_eq]
  cases result : dispatcher.beginOne context tenantId queueName workerId with
  | mk first next =>
      rw [result] at answer
      obtain rfl : first = _ := answer
      rfl

end Leased

section Records

variable (invariant : dispatcher.queue.Invariant) (leased : RuntimeJob)
  (returned : (dispatcher.queue.dequeue tenantId queueName (context.now 0)).1 = some leased)

include invariant

theorem beginOne_invariant :
    (dispatcher.beginOne context tenantId queueName workerId).2.queue.Invariant := by
  have dequeued := dispatcher.queue.dequeue_invariant tenantId queueName (context.now 0) invariant
  cases answer : (dispatcher.queue.dequeue tenantId queueName (context.now 0)).1 with
  | none =>
      rw [beginOne_none dispatcher context tenantId queueName workerId answer]
      exact dequeued
  | some leased =>
      have assigned := put_invariant _ (assignedForm context workerId leased) dequeued
      by_cases admitted : Admits context dispatcher.tracker (assignedForm context workerId leased)
      · rw [(beginOne_admitted dispatcher context tenantId queueName workerId leased answer
          admitted).2]
        exact put_invariant _ _ assigned
      · rw [(beginOne_denied dispatcher context tenantId queueName workerId leased answer
          admitted).2]
        exact assigned

theorem dispatchOne_invariant :
    (dispatcher.dispatchOne context tenantId queueName workerId).2.queue.Invariant := by
  have begun := beginOne_invariant dispatcher context tenantId queueName workerId invariant
  rw [dispatchOne_eq]
  split
  · rename_i running next result
    rw [result] at begun
    exact next.finish_invariant context running begun
  · exact begun

include returned

/-- The queue before the handler differs only in the record of the leased job. -/
theorem beginOne_jobs (query : String) :
    (dispatcher.beginOne context tenantId queueName workerId).2.queue.jobs.get? query =
      if query = leased.jobId then
        some (if Admits context dispatcher.tracker (assignedForm context workerId leased) then
          startedForm context workerId leased else assignedForm context workerId leased)
      else dispatcher.queue.jobs.get? query := by
  have dequeued := dispatcher.queue.dequeue_jobs tenantId queueName (context.now 0) invariant query
  rw [returned] at dequeued
  have assignedId : (assignedForm context workerId leased).jobId = leased.jobId := rfl
  have startedId : (startedForm context workerId leased).jobId = leased.jobId := rfl
  by_cases admitted : Admits context dispatcher.tracker (assignedForm context workerId leased)
  · rw [(beginOne_admitted dispatcher context tenantId queueName workerId leased returned
      admitted).2, if_pos admitted]
    simp only [put_jobs, Dict.get?_set, assignedId, startedId, dequeued]
    split <;> rfl
  · rw [(beginOne_denied dispatcher context tenantId queueName workerId leased returned
      admitted).2, if_neg admitted]
    simp only [put_jobs, Dict.get?_set, assignedId, dequeued]
    split <;> rfl

/-- A dispatch rewrites only the record of the leased job. -/
theorem dispatchOne_jobs (query : String) :
    (dispatcher.dispatchOne context tenantId queueName workerId).2.queue.jobs.get? query =
      if query = leased.jobId then some (dispatcher.leftForm context workerId leased)
      else dispatcher.queue.jobs.get? query := by
  have begun := beginOne_jobs dispatcher context tenantId queueName workerId invariant leased
    returned query
  have startedId : (startedForm context workerId leased).jobId = leased.jobId := rfl
  unfold leftForm
  by_cases admitted : Admits context dispatcher.tracker (assignedForm context workerId leased)
  · rw [if_pos admitted] at begun
    rw [dispatchOne_admitted dispatcher context tenantId queueName workerId leased returned
      admitted, finish_jobs, Dict.get?_set, startedId, begun, if_pos admitted]
    split <;> rfl
  · rw [if_neg admitted] at begun
    rw [dispatchOne_denied dispatcher context tenantId queueName workerId leased returned admitted,
      begun, if_neg admitted]

omit invariant in
theorem beginOne_dead :
    (dispatcher.beginOne context tenantId queueName workerId).2.queue.dead =
      dispatcher.queue.dead := by
  by_cases admitted : Admits context dispatcher.tracker (assignedForm context workerId leased)
  · rw [(beginOne_admitted dispatcher context tenantId queueName workerId leased returned
      admitted).2]
    simp
  · rw [(beginOne_denied dispatcher context tenantId queueName workerId leased returned admitted).2]
    simp

/-- A dispatch files its leased job in the dead table exactly when it dead-letters it. -/
theorem dispatchOne_dead :
    (dispatcher.dispatchOne context tenantId queueName workerId).2.queue.dead =
      if (dispatcher.leftForm context workerId leased).status = .deadLettered then
        dispatcher.queue.dead.set leased.jobId (dispatcher.leftForm context workerId leased)
      else dispatcher.queue.dead := by
  have begun := beginOne_dead dispatcher context tenantId queueName workerId leased returned
  unfold leftForm
  by_cases admitted : Admits context dispatcher.tracker (assignedForm context workerId leased)
  · rw [dispatchOne_admitted dispatcher context tenantId queueName workerId leased returned
      admitted, finish_dead, begun, if_pos admitted]
    rfl
  · have assigned : leased.status = .assigned :=
      (dequeue_returned _ _ _ _ leased invariant returned).2.1
    rw [dispatchOne_denied dispatcher context tenantId queueName workerId leased returned admitted,
      begun, if_neg admitted]
    simp [assignedForm, assigned]

end Records

end Parts

end Dispatcher

namespace CloudRuntime

/-- A found job carries the id that was asked for. -/
theorem get_jobId (queue : MemoryJobQueue) (invariant : queue.Invariant) (jobId : String)
    (job : RuntimeJob) (found : queue.get jobId = some job) : job.jobId = jobId := by
  unfold MemoryJobQueue.get at found
  cases stored : queue.jobs.get? jobId with
  | some record =>
      rw [stored, Option.some_or, Option.some.injEq] at found
      exact found ▸ invariant.keyed jobId record stored
  | none =>
      rw [stored, Option.none_or] at found
      exact invariant.deadKeyed jobId job found

section Calls

variable (runtime : CloudRuntime)

/-- A submission stores the queued form of a valid job. -/
theorem submit_queue (job : RuntimeJob) (now : UtcTime) :
    (runtime.submit job now).2.queue =
      match job.validate with
      | .ok () => runtime.queue.filed (queuedForm job now)
      | .error _ => runtime.queue := by
  unfold submit
  cases valid : job.validate with
  | error error => rfl
  | ok _ => simp [enqueue_eq, valid, Except.map]

variable (jobId : String)

theorem cancel_queue (now : UtcTime) :
    (runtime.cancel jobId now).2.queue =
      match runtime.queue.get jobId with
      | none => runtime.queue
      | some job =>
          (runtime.queue.put (job.withUpdate now fun job => { job with status := .cancelled })).2 := by
  unfold cancel
  cases runtime.queue.get jobId <;> rfl

theorem retry_queue (now : UtcTime) :
    (runtime.retry jobId now).2.queue =
      match runtime.queue.get jobId with
      | none => runtime.queue
      | some job => (runtime.queue.put (requeuedForm job now)).2 := by
  unfold retry
  cases runtime.queue.get jobId <;> rfl

theorem requeueDeadLetter_queue (now later : UtcTime) :
    (runtime.requeueDeadLetter jobId now later).2.queue =
      match runtime.queue.get jobId with
      | none => runtime.queue
      | some job =>
          match job.validate with
          | .ok () =>
              runtime.queue.filed (queuedForm (requeuedForm job now) later)
          | .error _ => runtime.queue := by
  unfold requeueDeadLetter
  cases runtime.queue.get jobId with
  | none => rfl
  | some job =>
      have same : (requeuedForm job now).validate = job.validate := rfl
      cases valid : job.validate with
      | error error => simp [enqueue_eq, same, valid, Except.map]
      | ok _ => simp [enqueue_eq, same, valid, Except.map]

/-- Every runtime call preserves the queue invariant. -/
theorem step_invariant (call : RuntimeCall) (invariant : runtime.queue.Invariant) :
    (runtime.step call).2.queue.Invariant := by
  have filed (queued : RuntimeJob) : (runtime.queue.filed queued).Invariant :=
    filed_invariant runtime.queue queued _ invariant (List.subset_append_left _ _)
      (List.mem_append_right _ (List.mem_singleton_self _))
  cases call with
  | submit job now =>
      simp only [step, submit_queue]
      split
      · exact filed _
      · exact invariant
  | cancel jobId now =>
      simp only [step, cancel_queue]
      split
      · exact invariant
      · exact runtime.queue.put_invariant _ invariant
  | retry jobId now =>
      simp only [step, retry_queue]
      split
      · exact invariant
      · exact runtime.queue.put_invariant _ invariant
  | requeueDeadLetter jobId now later =>
      simp only [step, requeueDeadLetter_queue]
      split
      · exact invariant
      · split
        · exact filed _
        · exact invariant
  | dispatchOne context tenantId queueName workerId =>
      exact Dispatcher.dispatchOne_invariant runtime context tenantId queueName workerId invariant

end Calls

end CloudRuntime

end AgentFabric.Cloud
