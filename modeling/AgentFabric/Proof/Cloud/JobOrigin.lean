import AgentFabric.Proof.Cloud.DispatchOutcome

namespace AgentFabric.Cloud
open Transition Collection

/-- The fields and the payload entries that no call of the runtime changes. -/
def RuntimeJob.identity (job : RuntimeJob) :
    RuntimeJob × ({key : String // key ≠ "result"} → Option Json) :=
  ({ job with
      payload := [], status := .queued, attempts := 0, assignedWorkerId := none, lastError := ""
      updatedAt := job.createdAt, startedAt := none, completedAt := none },
    fun key => job.payload.lookup key.1)

theorem Dispatcher.settledForm_identity (context : DispatchContext) (running : RuntimeJob) :
    (settledForm context running).identity = running.identity := by
  unfold settledForm
  split
  · exact Prod.ext rfl (funext fun key => (Dict.lookup_setItems _ _ _ _).trans (if_neg key.2))
  · dsimp only
    split <;> rfl

/-- A valid submission among the calls has the identity of the job. -/
def Genuine (calls : List ConcurrentCall) (job : RuntimeJob) : Prop :=
  ∃ submitted now, .runtime (.submit submitted now) ∈ calls ∧ submitted.validate = .ok () ∧
    job.identity = submitted.identity

/-- Both tables hold genuine jobs only. -/
structure MemoryJobQueue.Traced (calls : List ConcurrentCall) (queue : MemoryJobQueue) : Prop where
  jobs : All queue.jobs fun _ => Genuine calls
  dead : All queue.dead fun _ => Genuine calls

section Traced

variable {calls : List ConcurrentCall} {queue : MemoryJobQueue} {job : RuntimeJob}

theorem MemoryJobQueue.Traced.get {jobId : String} (traced : queue.Traced calls)
    (found : queue.get jobId = some job) : Genuine calls job :=
  (Option.or_eq_some_iff.mp found).elim (traced.jobs jobId job) fun filed =>
    traced.dead jobId job filed.2

theorem MemoryJobQueue.Traced.put (traced : queue.Traced calls) (genuine : Genuine calls job) :
    (queue.put job).2.Traced calls where
  jobs := queue.put_jobs job ▸ traced.jobs.set genuine
  dead := queue.put_dead job ▸ traced.dead

namespace Dispatcher

variable (runtime : Dispatcher) (context : DispatchContext)

theorem beginOne_traced (tenantId : Option String) (queueName workerId : String)
    (traced : runtime.queue.Traced calls) :
    (runtime.beginOne context tenantId queueName workerId).2.queue.Traced calls ∧
      ∀ running, (runtime.beginOne context tenantId queueName workerId).1 = .ok (some running) →
        Genuine calls running := by
  rcases runtime.queue.dequeue_cases tenantId queueName (context.now 0) with
    ⟨rest, result, _⟩ | ⟨jobId, job, rest, result, found, _⟩
  · rw [beginOne_none _ _ _ _ _ (by rw [result]), result]
    exact ⟨⟨traced.jobs, traced.dead⟩, fun running same => by cases same⟩
  · have genuine : Genuine calls (MemoryJobQueue.lease job (context.now 0)) :=
      traced.jobs jobId job found
    generalize MemoryJobQueue.lease job (context.now 0) = leased at result genuine
    have assigned : Genuine calls (assignedForm context workerId leased) := genuine
    have dequeued : (runtime.queue.dequeue tenantId queueName (context.now 0)).2.Traced calls := by
      rw [result]
      exact ⟨traced.jobs.set genuine, traced.dead⟩
    have returned := congrArg Prod.fst result
    by_cases admitted : Admits context runtime.tracker (assignedForm context workerId leased)
    · have started : Genuine calls (startedForm context workerId leased) := genuine
      obtain ⟨answer, queue⟩ := beginOne_admitted _ _ _ _ _ _ returned admitted
      rw [answer, queue]
      exact ⟨(dequeued.put assigned).put started, fun running same => by cases same; exact started⟩
    · obtain ⟨⟨error, answer⟩, queue⟩ := beginOne_denied _ _ _ _ _ _ returned admitted
      rw [answer, queue]
      exact ⟨dequeued.put assigned, fun running same => by cases same⟩

theorem finish_traced (running : RuntimeJob) (traced : runtime.queue.Traced calls)
    (genuine : Genuine calls running) : (runtime.finish context running).2.queue.Traced calls := by
  have settled : Genuine calls (settledForm context running) := by
    unfold Genuine
    rwa [settledForm_identity]
  constructor
  · rw [finish_jobs]
    exact traced.jobs.set settled
  · rw [finish_dead]
    split
    · exact traced.dead.set settled
    · exact traced.dead

end Dispatcher

theorem CloudRuntime.step_traced (runtime : CloudRuntime) (call : RuntimeCall)
    (made : .runtime call ∈ calls) (traced : runtime.queue.Traced calls) :
    (runtime.step call).2.queue.Traced calls := by
  cases call with
  | submit job now =>
      simp only [step, submit_queue]
      split
      · rename_i valid
        have queued : Genuine calls (MemoryJobQueue.queuedForm job now) := ⟨job, now, made, valid, rfl⟩
        exact ⟨traced.jobs.set queued, traced.dead⟩
      · exact traced
  | cancel jobId now | retry jobId now =>
      simp only [step, cancel_queue, retry_queue]
      split
      · exact traced
      · rename_i found
        have genuine := traced.get found
        exact traced.put genuine
  | requeueDeadLetter jobId now later =>
      simp only [step, requeueDeadLetter_queue]
      split
      · exact traced
      · rename_i job found
        have genuine := traced.get found
        have requeued : Genuine calls (MemoryJobQueue.queuedForm (requeuedForm job now) later) := genuine
        split
        · exact ⟨traced.jobs.set requeued, traced.dead⟩
        · exact traced
  | dispatchOne context tenantId queueName workerId =>
      obtain ⟨begun, genuine⟩ := runtime.beginOne_traced context tenantId queueName workerId traced
      simp only [step, Dispatcher.dispatchOne_eq]
      split
      · rename_i running next result
        rw [result] at begun genuine
        exact next.finish_traced context running begun (genuine running rfl)
      · exact begun

namespace Concurrent

/-- Everything that is stored or executing is genuine. -/
def Traced (calls : List ConcurrentCall) (state : Concurrent) : Prop :=
  state.runtime.queue.Traced calls ∧ ∀ running ∈ state.executing, Genuine calls running

theorem step_traced (state : Concurrent) (call : ConcurrentCall) (traced : state.Traced calls)
    (made : call ∈ calls) : (state.step call).2.Traced calls := by
  obtain ⟨stored, executing⟩ := traced
  cases call with
  | runtime call => exact ⟨state.runtime.step_traced call made stored, executing⟩
  | beginOne context tenantId queueName workerId =>
      obtain ⟨begun, genuine⟩ :=
        Dispatcher.beginOne_traced state.runtime context tenantId queueName workerId stored
      simp only [step]
      split
      · rename_i running runtime result
        rw [result] at begun genuine
        refine ⟨begun, fun job member => ?_⟩
        rcases List.mem_append.mp member with old | new
        · exact executing job old
        · exact List.mem_singleton.mp new ▸ genuine running rfl
      · rename_i result
        rw [result] at begun
        exact ⟨begun, executing⟩
  | finish index context =>
      simp only [step]
      split
      · exact ⟨stored, executing⟩
      · rename_i running found
        exact ⟨Dispatcher.finish_traced state.runtime context running stored
          (executing running (List.mem_of_getElem? found)),
          fun job member => executing job (List.mem_of_mem_eraseIdx member)⟩

/-- In every interleaving, each stored, dead, or executing job has the identity of a valid submission
of the run. -/
theorem reached_traced (calls : List ConcurrentCall) : (reached calls).Traced calls :=
  run_invariant_of_guarded step (fun _ call => call ∈ calls) (Traced calls) step_traced initial
    calls ⟨⟨all_empty _, all_empty _⟩, fun _ none => (List.not_mem_nil none).elim⟩
    (guarded_of_forall step (· ∈ calls) initial calls fun _ => id)

end Concurrent

end Traced

end AgentFabric.Cloud
