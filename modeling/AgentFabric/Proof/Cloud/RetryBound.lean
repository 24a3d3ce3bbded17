import AgentFabric.Proof.Cloud.DispatchOutcome

namespace AgentFabric.Cloud
open Transition Quotas Dispatcher MemoryJobQueue

/-- One handler call names its job and tells whether it raised. -/
structure Invocation where
  jobId : String
  raised : Bool
  deriving DecidableEq

/-- The handler call that a runtime call makes. -/
def CloudRuntime.invocation (runtime : CloudRuntime) : RuntimeCall → Option Invocation
  | .dispatchOne context tenantId queueName workerId =>
      match (beginOne runtime context tenantId queueName workerId).1 with
      | .ok (some running) =>
          some ⟨running.jobId, match context.handle running with | .ok _ => false | .error _ => true⟩
      | _ => none
  | _ => none

/-- The runtime together with all handler calls so far. -/
structure Observed where
  runtime : CloudRuntime
  invocations : List Invocation

namespace Observed

def initial : Observed := ⟨Dispatcher.initial, []⟩

/-- One call adds its handler call to the history. -/
def step (state : Observed) (call : RuntimeCall) : Except PyError (Option RuntimeJob) × Observed :=
  ((state.runtime.step call).1,
    ⟨(state.runtime.step call).2, state.invocations ++ (state.runtime.invocation call).toList⟩)

def reached (calls : List RuntimeCall) : Observed := run step initial calls

/-- The number of handler calls for one job. -/
def invoked (state : Observed) (jobId : String) : Nat :=
  state.invocations.countP fun invocation => invocation.jobId = jobId

/-- The stored record of one job. -/
def record (state : Observed) (jobId : String) : Option RuntimeJob :=
  state.runtime.queue.jobs.get? jobId

/-- The run submits fresh jobs, cancels jobs, and dispatches jobs. -/
def Plain (state : Observed) : RuntimeCall → Prop
  | .submit job _ => state.record job.jobId = none ∧ job.attempts = 0
  | .cancel _ _ => True
  | .dispatchOne _ _ _ _ => True
  | .retry _ _ => False
  | .requeueDeadLetter _ _ _ => False

/-- The status that the outcome of a handler call gives to a job. -/
def outcomeStatus (raised : Bool) (attempts maxAttempts : Int) : JobStatus :=
  if raised then (if maxAttempts ≤ attempts then .deadLettered else .queued) else .completed

theorem step_invoked (state : Observed) (call : RuntimeCall) (jobId : String) :
    (state.step call).2.invoked jobId =
      state.invoked jobId +
        if (state.runtime.invocation call).any (fun invocation => invocation.jobId = jobId)
        then 1 else 0 := by
  unfold invoked step
  rw [List.countP_append]
  cases state.runtime.invocation call with
  | none => rfl
  | some invocation => by_cases same : invocation.jobId = jobId <;> simp [same]

section Dispatch

variable (state : Observed) (context : DispatchContext) (tenantId : Option String)
  (queueName workerId : String) (leased : RuntimeJob)
  (returned : (state.runtime.queue.dequeue tenantId queueName (context.now 0)).1 = some leased)

include returned

theorem invocation_denied
    (denied : ¬ Dispatcher.Admits context state.runtime.tracker
      (assignedForm context workerId leased)) :
    state.runtime.invocation (.dispatchOne context tenantId queueName workerId) = none := by
  obtain ⟨error, answer⟩ := (beginOne_denied state.runtime context tenantId queueName
    workerId leased returned denied).1
  simp only [CloudRuntime.invocation, answer]

theorem invocation_admitted
    (admitted : Dispatcher.Admits context state.runtime.tracker
      (assignedForm context workerId leased)) :
    ∃ raised, state.runtime.invocation (.dispatchOne context tenantId queueName workerId) =
        some ⟨leased.jobId, raised⟩ ∧
      (settledForm context (startedForm context workerId leased)).status =
        outcomeStatus raised leased.attempts leased.maxAttempts := by
  have answer := (beginOne_admitted state.runtime context tenantId queueName workerId
    leased returned admitted).1
  have status := settledForm_status context (startedForm context workerId leased)
  simp only [CloudRuntime.invocation, answer]
  refine ⟨_, rfl, ?_⟩
  rw [status]
  cases context.handle (startedForm context workerId leased) <;> rfl

end Dispatch

theorem invocation_none (state : Observed) (context : DispatchContext) (tenantId : Option String)
    (queueName workerId : String)
    (missed : (state.runtime.queue.dequeue tenantId queueName (context.now 0)).1 = none) :
    state.runtime.invocation (.dispatchOne context tenantId queueName workerId) = none := by
  simp only [CloudRuntime.invocation,
    beginOne_none state.runtime context tenantId queueName workerId missed]

/-- Everything that one call of a plain run can do to one job. -/
inductive Effect (state : Observed) (call : RuntimeCall) (jobId : String) : Prop
  | untouched (same : (state.step call).2.record jobId = state.record jobId)
      (quiet : (state.step call).2.invoked jobId = state.invoked jobId)
  | submitted (job : RuntimeJob) (absent : state.record jobId = none)
      (stored : (state.step call).2.record jobId = some job)
      (quiet : (state.step call).2.invoked jobId = state.invoked jobId)
  | cancelled (job : RuntimeJob) (stored : (state.step call).2.record jobId = some job)
      (status : job.status = .cancelled)
      (limit : ∀ before, state.record jobId = some before → job.maxAttempts = before.maxAttempts)
      (quiet : (state.step call).2.invoked jobId = state.invoked jobId)
  | denied (before job : RuntimeJob) (present : state.record jobId = some before)
      (queued : before.status = .queued)
      (stored : (state.step call).2.record jobId = some job)
      (status : job.status = .assigned)
      (limit : job.maxAttempts = before.maxAttempts)
      (quiet : (state.step call).2.invoked jobId = state.invoked jobId)
  | handled (before job : RuntimeJob) (raised : Bool) (present : state.record jobId = some before)
      (queued : before.status = .queued)
      (stored : (state.step call).2.record jobId = some job)
      (status : job.status = outcomeStatus raised (before.attempts + 1) before.maxAttempts)
      (attempts : job.attempts = before.attempts + 1)
      (limit : job.maxAttempts = before.maxAttempts)
      (called : state.runtime.invocation call = some ⟨jobId, raised⟩)

section

variable (state : Observed) (call : RuntimeCall) (jobId : String)

theorem step_invoked_of_none (silent : state.runtime.invocation call = none) :
    (state.step call).2.invoked jobId = state.invoked jobId := by
  rw [step_invoked, silent]
  rfl

theorem dispatchOne_effect (context : DispatchContext)
    (tenantId : Option String) (queueName workerId jobId : String)
    (invariant : state.runtime.queue.Invariant) :
    Effect state (.dispatchOne context tenantId queueName workerId) jobId := by
  cases answer : (state.runtime.queue.dequeue tenantId queueName (context.now 0)).1 with
  | none =>
      have silent := state.invocation_none context tenantId queueName workerId answer
      refine .untouched ?_ (step_invoked_of_none state _ jobId silent)
      simp only [record, step, CloudRuntime.step,
        dispatchOne_none state.runtime context tenantId queueName workerId answer]
      rw [dequeue_empty_handed _ _ _ _ answer]
  | some leased =>
      have records := dispatchOne_jobs state.runtime context tenantId queueName workerId
        invariant leased answer jobId
      obtain ⟨before, present, queued, lease⟩ := dequeue_leased _ _ _ _ leased invariant answer
      have next : (state.step (.dispatchOne context tenantId queueName workerId)).2.record jobId =
          if jobId = leased.jobId then
            some (leftForm state.runtime context workerId leased)
          else state.record jobId := records
      unfold leftForm at next
      by_cases admitted : Dispatcher.Admits context state.runtime.tracker
          (assignedForm context workerId leased)
      · obtain ⟨raised, called, status⟩ := state.invocation_admitted context tenantId queueName
          workerId leased answer admitted
        rw [if_pos admitted] at next
        by_cases same : jobId = leased.jobId
        · rw [if_pos same] at next
          subst same
          refine .handled before _ raised present queued next ?_ ?_ ?_ called
          · rw [status, lease]
            rfl
          · rw [settledForm_attempts, lease]
            rfl
          · rw [settledForm_maxAttempts, lease]
            rfl
        · rw [if_neg same] at next
          refine .untouched next ?_
          rw [step_invoked, called]
          simp [Ne.symm same]
      · have silent := state.invocation_denied context tenantId queueName workerId leased answer
          admitted
        rw [if_neg admitted] at next
        by_cases same : jobId = leased.jobId
        · rw [if_pos same] at next
          subst same
          refine .denied before _ present queued next ?_ ?_ (step_invoked_of_none state _ _ silent)
          · rw [lease]
            rfl
          · rw [lease]
            rfl
        · rw [if_neg same] at next
          exact .untouched next (step_invoked_of_none state _ jobId silent)

theorem submit_effect (job : RuntimeJob) (now : UtcTime) (jobId : String)
    (fresh : state.record job.jobId = none) : Effect state (.submit job now) jobId := by
  have quiet := step_invoked_of_none state (.submit job now) jobId rfl
  have queue := state.runtime.submit_queue job now
  cases valid : job.validate with
  | error error =>
      rw [valid] at queue
      refine .untouched ?_ quiet
      simp only [record, step, CloudRuntime.step, queue]
  | ok _ =>
      rw [valid] at queue
      have next : (state.step (.submit job now)).2.record jobId =
          if jobId = job.jobId then some (queuedForm job now)
          else state.record jobId := by
        simp only [record, step, CloudRuntime.step, queue]
        exact Dict.get?_set _ _ _ _
      by_cases same : jobId = job.jobId
      · rw [if_pos same] at next
        exact .submitted _ (same ▸ fresh) next quiet
      · rw [if_neg same] at next
        exact .untouched next quiet

theorem cancel_effect (cancelledId : String) (now : UtcTime) (jobId : String)
    (invariant : state.runtime.queue.Invariant) :
    Effect state (.cancel cancelledId now) jobId := by
  have quiet := step_invoked_of_none state (.cancel cancelledId now) jobId rfl
  have queue := state.runtime.cancel_queue cancelledId now
  cases found : state.runtime.queue.get cancelledId with
  | none =>
      rw [found] at queue
      refine .untouched ?_ quiet
      simp only [record, step, CloudRuntime.step, queue]
  | some job =>
      have sameId := CloudRuntime.get_jobId _ invariant cancelledId job found
      rw [found] at queue
      have next : (state.step (.cancel cancelledId now)).2.record jobId =
          if jobId = job.jobId then
            some (job.withUpdate now fun job => { job with status := .cancelled })
          else state.record jobId := by
        simp only [record, step, CloudRuntime.step, queue, put_jobs]
        exact Dict.get?_set _ _ _ _
      by_cases same : jobId = job.jobId
      · rw [if_pos same] at next
        refine .cancelled _ next rfl ?_ quiet
        intro before present
        have stored : state.runtime.queue.jobs.get? cancelledId = some before := by
          rw [← sameId, ← same]
          exact present
        rw [MemoryJobQueue.get, stored, Option.some_or, Option.some.injEq] at found
        rw [found]
        rfl
      · rw [if_neg same] at next
        exact .untouched next quiet

/-- Each call of a plain run has one of the listed effects on each job. -/
theorem step_effect (invariant : state.runtime.queue.Invariant) (plain : state.Plain call) :
    Effect state call jobId := by
  cases call with
  | submit job now => exact submit_effect state job now jobId plain.1
  | cancel cancelledId now => exact cancel_effect state cancelledId now jobId invariant
  | dispatchOne context tenantId queueName workerId =>
      exact dispatchOne_effect state context tenantId queueName workerId jobId invariant
  | retry retriedId now => exact plain.elim
  | requeueDeadLetter requeuedId now later => exact plain.elim

theorem step_queue_invariant
    (invariant : state.runtime.queue.Invariant) : (state.step call).2.runtime.queue.Invariant :=
  state.runtime.step_invariant call invariant

theorem step_invoked_of_called (raised : Bool)
    (called : state.runtime.invocation call = some ⟨jobId, raised⟩) :
    (state.step call).2.invoked jobId = state.invoked jobId + 1 := by
  rw [step_invoked, called]
  simp

end

/-- No handler was called for a job without a record. -/
structure Unused (jobId : String) (state : Observed) : Prop where
  queue : state.runtime.queue.Invariant
  silent : state.record jobId = none → state.invoked jobId = 0

variable (jobId : String)

theorem step_unused (state : Observed) (call : RuntimeCall)
    (unused : state.Unused jobId) (plain : state.Plain call) :
    (state.step call).2.Unused jobId := by
  refine ⟨state.step_queue_invariant call unused.queue, fun absent => ?_⟩
  cases state.step_effect call jobId unused.queue plain with
  | untouched same quiet => rw [quiet, unused.silent (same ▸ absent)]
  | submitted job _ stored => rw [stored] at absent; cases absent
  | cancelled job stored => rw [stored] at absent; cases absent
  | denied before job _ _ stored => rw [stored] at absent; cases absent
  | handled before job raised _ _ stored => rw [stored] at absent; cases absent

/-- A queued job has used its attempts and has at least one attempt left. -/
structure Bounded (jobId : String) (limit : Int) (state : Observed) : Prop where
  queue : state.runtime.queue.Invariant
  bound : (state.invoked jobId : Int) ≤ max 1 limit
  stored : ∃ job, state.record jobId = some job ∧ job.maxAttempts = limit ∧
    (job.status = .queued →
      job.attempts = state.invoked jobId ∧ (state.invoked jobId : Int) < max 1 limit)

theorem step_bounded (limit : Int) (state : Observed) (call : RuntimeCall)
    (bounded : state.Bounded jobId limit) (plain : state.Plain call) :
    (state.step call).2.Bounded jobId limit := by
  have next := state.step_queue_invariant call bounded.queue
  have bound := bounded.bound
  obtain ⟨before, present, sameLimit, waiting⟩ := bounded.stored
  cases state.step_effect call jobId bounded.queue plain with
  | untouched same quiet =>
      refine ⟨next, by rw [quiet]; exact bound, before, by rw [same]; exact present, sameLimit, ?_⟩
      rw [quiet]
      exact waiting
  | submitted job absent =>
      rw [present] at absent
      cases absent
  | cancelled job stored status limits quiet =>
      refine ⟨next, by rw [quiet]; exact bound, job, stored, ?_, ?_⟩
      · rw [limits before present, sameLimit]
      · rw [status]
        exact nofun
  | denied other job found _ stored status limits quiet =>
      rw [present, Option.some.injEq] at found
      subst found
      refine ⟨next, by rw [quiet]; exact bound, job, stored, limits.trans sameLimit, ?_⟩
      rw [status]
      exact nofun
  | handled other job raised found queued stored status attempts limits called =>
      rw [present, Option.some.injEq] at found
      subst found
      obtain ⟨sameAttempts, room⟩ := waiting queued
      have count := state.step_invoked_of_called call jobId raised called
      refine ⟨next, by rw [count]; omega, job, stored, limits.trans sameLimit, fun again => ?_⟩
      rw [count]
      refine ⟨by omega, ?_⟩
      rw [status, outcomeStatus] at again
      split at again
      · split at again
        · cases again
        · omega
      · cases again

/-- The job has left the queue after a fixed number of handler calls. -/
structure Retired (jobId : String) (count : Nat) (state : Observed) : Prop where
  queue : state.runtime.queue.Invariant
  counted : state.invoked jobId = count
  stored : ∃ job, state.record jobId = some job ∧ job.status ≠ .queued

theorem step_retired (count : Nat) (state : Observed) (call : RuntimeCall)
    (retired : state.Retired jobId count) (plain : state.Plain call) :
    (state.step call).2.Retired jobId count := by
  have next := state.step_queue_invariant call retired.queue
  obtain ⟨before, present, settled⟩ := retired.stored
  cases state.step_effect call jobId retired.queue plain with
  | untouched same quiet =>
      exact ⟨next, quiet.trans retired.counted, before, same.trans present, settled⟩
  | submitted job absent =>
      rw [present] at absent
      cases absent
  | cancelled job stored status _ quiet =>
      exact ⟨next, quiet.trans retired.counted, job, stored, by simp [status]⟩
  | denied other job found queued =>
      rw [present, Option.some.injEq] at found
      exact absurd (found ▸ queued) settled
  | handled other job raised found queued =>
      rw [present, Option.some.injEq] at found
      exact absurd (found ▸ queued) settled

/-- The stored status is dead-lettered. -/
def DeadLettered (state : Observed) (jobId : String) : Prop :=
  ∃ job, state.record jobId = some job ∧ job.status = .deadLettered

/-- A job is dead-lettered by the call whose last allowed handler call raises. -/
theorem step_deadLettered_iff (limit : Int) (state : Observed)
    (call : RuntimeCall) (bounded : state.Bounded jobId limit) (plain : state.Plain call) :
    ((state.step call).2.DeadLettered jobId ∧ ¬ state.DeadLettered jobId) ↔
      state.runtime.invocation call = some ⟨jobId, true⟩ ∧
        (state.invoked jobId : Int) + 1 = max 1 limit := by
  obtain ⟨before, present, sameLimit, waiting⟩ := bounded.stored
  have quietly (quiet : (state.step call).2.invoked jobId = state.invoked jobId) :
      state.runtime.invocation call ≠ some ⟨jobId, true⟩ := by
    intro called
    have count := state.step_invoked_of_called call jobId true called
    omega
  cases state.step_effect call jobId bounded.queue plain with
  | untouched same quiet =>
      refine iff_of_false ?_ fun raised => quietly quiet raised.1
      rintro ⟨⟨job, stored, dead⟩, alive⟩
      exact alive ⟨job, same ▸ stored, dead⟩
  | submitted job absent =>
      rw [present] at absent
      cases absent
  | cancelled job stored status _ quiet =>
      refine iff_of_false ?_ fun raised => quietly quiet raised.1
      rintro ⟨⟨other, found, dead⟩, _⟩
      rw [stored, Option.some.injEq] at found
      simp [← found, status] at dead
  | denied other job _ _ stored status _ quiet =>
      refine iff_of_false ?_ fun raised => quietly quiet raised.1
      rintro ⟨⟨other, found, dead⟩, _⟩
      rw [stored, Option.some.injEq] at found
      simp [← found, status] at dead
  | handled other job raised found queued stored status attempts limits called =>
      rw [present, Option.some.injEq] at found
      subst found
      obtain ⟨sameAttempts, room⟩ := waiting queued
      rw [called, Option.some.injEq, Invocation.mk.injEq]
      constructor
      · rintro ⟨⟨last, recorded, dead⟩, _⟩
        rw [stored, Option.some.injEq] at recorded
        rw [← recorded, status, outcomeStatus] at dead
        split at dead
        · rename_i failed
          split at dead
          · exact ⟨⟨rfl, failed⟩, by omega⟩
          · cases dead
        · cases dead
      · rintro ⟨⟨_, rfl⟩, exhausted⟩
        refine ⟨⟨job, stored, ?_⟩, ?_⟩
        · rw [status, outcomeStatus, if_pos rfl, if_pos (by omega)]
        · rintro ⟨last, recorded, dead⟩
          rw [present, Option.some.injEq] at recorded
          simp [← recorded, queued] at dead

/-- A valid submission of a fresh job starts with no handler call. -/
theorem submit_bounded (state : Observed) (job : RuntimeJob) (now : UtcTime)
    (unused : state.Unused job.jobId) (plain : state.Plain (.submit job now))
    (valid : job.validate = .ok ()) :
    (state.step (.submit job now)).2.Bounded job.jobId job.maxAttempts := by
  have count : (state.step (.submit job now)).2.invoked job.jobId = 0 := by
    rw [step_invoked_of_none state _ _ rfl, unused.silent plain.1]
  have queue := state.runtime.submit_queue job now
  rw [valid] at queue
  have stored : (state.step (.submit job now)).2.record job.jobId = some (queuedForm job now) := by
    simp only [record, step, CloudRuntime.step, queue]
    exact Dict.get?_set_self _ _ _
  refine ⟨state.step_queue_invariant _ unused.queue, by rw [count]; omega, _, stored, rfl, ?_⟩
  intro _
  rw [count]
  exact ⟨plain.2, by omega⟩

/-- A job whose handler raises at each of its two attempts. -/
def failingRun : RuntimeJob :=
  { agentRun "job-1" with payload := [("force_fail", .bool true)], maxAttempts := 2 }

def dispatchLocal : RuntimeCall := .dispatchOne .mock none "default" "local-worker"

end Observed

end AgentFabric.Cloud
