import AgentFabric.Proof.Cloud.RuntimeSteps

namespace AgentFabric.Cloud
open Transition Quotas MemoryJobQueue Dispatcher CloudRuntime

namespace DispatchContext

/-- The mock VEIL client allows every action and no other check is configured. -/
def mock : DispatchContext where
  now := fun _ => .first
  quotaPolicy := none
  spendCheck := none
  governanceCheck := none
  entitlementCheck := none
  federationCheck := none
  checkPolicy := fun _ => .ok ⟨true, ""⟩
  handlers := Dict.empty

/-- The VEIL client denies every action. -/
def denying : DispatchContext := { mock with checkPolicy := fun _ => .ok ⟨false, "denied"⟩ }

/-- The job is valid and every check that applies to it passes. -/
structure Permitted (context : DispatchContext) (tracker : QuotaTracker) (job : RuntimeJob) :
    Prop where
  valid : job.validate = .ok ()
  quota : ∀ policy, context.quotaPolicy = some policy → ∃ limits, policy job.tenantId = .ok limits ∧
    tracker.get job.tenantId .computeSeconds + 1 ≤ limits.limit .computeSeconds
  spend : ∀ check, context.spendCheck = some check → check job = .ok ()
  governance : job.jobType = "governance_action" →
    ∀ check, context.governanceCheck = some check → check job = .ok ()
  entitlement : job.jobType ∈ entitledTypes →
    ∀ check, context.entitlementCheck = some check → check job = .ok ()
  federation : job.jobType ∈ federatedTypes →
    ∀ check, context.federationCheck = some check → check job = .ok ()
  veil : ∃ response, context.checkPolicy (policyRequest job) = .ok response ∧ response.allowed

theorem runCheck_eq_ok_iff (check : Option (RuntimeJob → Except PyError Unit)) (job : RuntimeJob) :
    runCheck check job = .ok () ↔ ∀ present, check = some present → present job = .ok () := by
  cases check <;> simp [runCheck]

/-- A skipped check passes. -/
theorem runCheckWhen_eq_ok_iff (condition : Prop) [Decidable condition]
    (check : Option (RuntimeJob → Except PyError Unit)) (job : RuntimeJob) :
    runCheckWhen condition check job = .ok () ↔
      (condition → ∀ present, check = some present → present job = .ok ()) := by
  rw [← runCheck_eq_ok_iff]
  by_cases holds : condition <;> simp [runCheckWhen, holds]

variable (context : DispatchContext)

theorem checkVeil_eq_ok_iff (job : RuntimeJob) :
    context.checkVeil job = .ok () ↔
      ∃ response, context.checkPolicy (policyRequest job) = .ok response ∧ response.allowed := by
  unfold checkVeil
  rw [bind_eq_ok_iff]
  apply exists_congr
  intro response
  by_cases allowed : response.allowed <;> simp [allowed]

variable (tracker : QuotaTracker)

theorem consumeQuota_eq_ok_iff (tenantId : String) :
    (∃ consumed, context.consumeQuota tracker tenantId = .ok consumed) ↔
      ∀ policy, context.quotaPolicy = some policy → ∃ limits, policy tenantId = .ok limits ∧
        tracker.get tenantId .computeSeconds + 1 ≤ limits.limit .computeSeconds := by
  unfold consumeQuota
  cases context.quotaPolicy with
  | none => simp
  | some policy =>
      simp only [bind_eq_ok_iff, Option.some.injEq, forall_eq']
      rw [exists_comm]
      apply exists_congr
      intro limits
      rw [exists_and_left, QuotaTracker.consume_eq]
      by_cases within : tracker.get tenantId .computeSeconds + 1 ≤ limits.limit .computeSeconds
      · simp [within]
      · simp [within]

section

variable (job : RuntimeJob)

theorem checkJob_eq_ok_iff :
    context.checkJob job = .ok () ↔ runCheck context.spendCheck job = .ok () ∧
      runCheckWhen (job.jobType = "governance_action") context.governanceCheck job = .ok () ∧
      runCheckWhen (job.jobType ∈ entitledTypes) context.entitlementCheck job = .ok () ∧
      runCheckWhen (job.jobType ∈ federatedTypes) context.federationCheck job = .ok () ∧
      context.checkVeil job = .ok () := by
  simp [checkJob, bind_eq_ok_iff, Unique.exists_iff]

theorem enforce_eq_ok_iff (tenant : job.tenantId ≠ "") :
    (context.enforce tracker job).1 = .ok () ↔
      (∃ consumed, context.consumeQuota tracker job.tenantId = .ok consumed) ∧
        context.checkJob job = .ok () := by
  unfold enforce
  rw [if_neg tenant]
  cases context.consumeQuota tracker job.tenantId <;> simp

theorem validate_tenantId (valid : job.validate = .ok ()) : job.tenantId ≠ "" := by
  intro empty
  simp [RuntimeJob.validate, empty] at valid

/-- The checks of the code admit exactly the permitted jobs. -/
theorem admits_iff_permitted : Dispatcher.Admits context tracker job ↔ context.Permitted tracker job := by
  constructor
  · rintro ⟨valid, passed⟩
    rw [enforce_eq_ok_iff context tracker job (validate_tenantId job valid), checkJob_eq_ok_iff,
      consumeQuota_eq_ok_iff, runCheck_eq_ok_iff, runCheckWhen_eq_ok_iff, runCheckWhen_eq_ok_iff,
      runCheckWhen_eq_ok_iff, checkVeil_eq_ok_iff] at passed
    obtain ⟨quota, spend, governance, entitlement, federation, veil⟩ := passed
    exact ⟨valid, quota, spend, governance, entitlement, federation, veil⟩
  · rintro ⟨valid, quota, spend, governance, entitlement, federation, veil⟩
    refine ⟨valid, ?_⟩
    rw [enforce_eq_ok_iff context tracker job (validate_tenantId job valid), checkJob_eq_ok_iff,
      consumeQuota_eq_ok_iff, runCheck_eq_ok_iff, runCheckWhen_eq_ok_iff, runCheckWhen_eq_ok_iff,
      runCheckWhen_eq_ok_iff, checkVeil_eq_ok_iff]
    exact ⟨quota, spend, governance, entitlement, federation, veil⟩

end

end DispatchContext

namespace MemoryJobQueue

/-- The job is completed, waits in its deque, or is listed among the dead letters. -/
def Settled (queue : MemoryJobQueue) (jobId : String) : Prop :=
  ∃ job, queue.jobs.get? jobId = some job ∧
    (job.status = .completed ∨ job.status = .queued ∧ jobId ∈ queue.deque job.queueName ∨
      job.status = .deadLettered ∧ job ∈ queue.deadLetters none)

end MemoryJobQueue

namespace Dispatcher

/-- A dispatch settles its leased job exactly when the job is permitted. -/
theorem dispatchOne_settles_iff (calls : List QueueCall) (tracker : QuotaTracker)
    (events : List EventAppend) (context : DispatchContext) (tenantId : Option String)
    (queueName workerId : String) (leased : RuntimeJob)
    (returned : ((reached calls).dequeue tenantId queueName (context.now 0)).1 = some leased) :
    (dispatchOne ⟨reached calls, tracker, events⟩ context tenantId queueName
        workerId).2.queue.Settled leased.jobId ↔
      context.Permitted tracker (assignedForm context workerId leased) := by
  have invariant := reached_invariant calls
  have record := dispatchOne_jobs ⟨reached calls, tracker, events⟩ context tenantId
    queueName workerId invariant leased returned leased.jobId
  have dead := dispatchOne_dead ⟨reached calls, tracker, events⟩ context tenantId
    queueName workerId invariant leased returned
  have next := dispatchOne_invariant ⟨reached calls, tracker, events⟩ context
    tenantId queueName workerId invariant
  rw [if_pos rfl] at record
  rw [← DispatchContext.admits_iff_permitted]
  unfold leftForm at record dead
  by_cases admitted : Admits context tracker (assignedForm context workerId leased)
  · rw [if_pos admitted] at record dead
    refine iff_of_true ⟨_, record, ?_⟩ admitted
    have status := settledForm_status context (startedForm context workerId leased)
    cases outcome : context.handle (startedForm context workerId leased) with
    | ok result =>
        rw [outcome] at status
        exact Or.inl status
    | error message =>
        rw [outcome] at status
        dsimp only at status
        split at status
        · refine Or.inr (Or.inr ⟨status, ?_⟩)
          rw [if_pos status] at dead
          rw [deadLetters, tenantFilter, Sorting.mem_sortedBy, Dict.mem_values_iff, dead]
          exact ⟨leased.jobId, Dict.get?_set_self _ _ _⟩
        · exact Or.inr (Or.inl ⟨status, next.live _ _ record status⟩)
  · rw [if_neg admitted] at record
    refine iff_of_false ?_ admitted
    rintro ⟨job, stored, settled⟩
    rw [record, Option.some.injEq] at stored
    have assigned : job.status = .assigned := by
      rw [← stored]
      exact (dequeue_returned _ _ _ _ leased invariant returned).2.1
    simp [assigned] at settled

theorem dispatchOne_settles_mock :
    (dispatchOne ⟨reached [.enqueue (agentRun "job-1") .first], QuotaTracker.empty,
        []⟩ .mock none "default" "local-worker").2.queue.Settled "job-1" :=
  (dispatchOne_settles_iff [.enqueue (agentRun "job-1") .first] QuotaTracker.empty [] .mock none
    "default" "local-worker" (lease (agentRun "job-1") .first) rfl).mpr (by
      rw [← DispatchContext.admits_iff_permitted]
      exact ⟨rfl, rfl⟩)

/-- A VEIL denial leaves the leased job assigned. -/
theorem dispatchOne_denied_unsettled :
    (∃ leased, ((reached [.enqueue (agentRun "job-1") .first]).dequeue none "default"
        .first).1 = some leased ∧ leased.jobId = "job-1") ∧
      ¬ (dispatchOne ⟨reached [.enqueue (agentRun "job-1") .first],
        QuotaTracker.empty, []⟩ .denying none "default" "local-worker").2.queue.Settled "job-1" := by
  refine ⟨⟨lease (agentRun "job-1") .first, rfl, rfl⟩, ?_⟩
  rintro ⟨job, stored, settled⟩
  cases stored
  simp [assignedForm, lease] at settled

end Dispatcher

open Sorting

namespace MemoryJobQueue

variable (queue : MemoryJobQueue)

/-- The stored status of the job is dead-lettered. -/
def IsDead (jobId : String) : Prop :=
  ∃ job, queue.jobs.get? jobId = some job ∧ job.status = .deadLettered

/-- The dead table holds exactly the dead-lettered records of the job table. -/
def DeadInStep : Prop :=
  ∀ jobId job, queue.dead.get? jobId = some job ↔
    queue.jobs.get? jobId = some job ∧ job.status = .deadLettered

/-- A new record of another status keeps the tables in step unless it replaces a dead job. -/
theorem DeadInStep.set {queue : MemoryJobQueue} (inStep : queue.DeadInStep) (next : MemoryJobQueue)
    (jobId : String) (job : RuntimeJob)
    (jobs : ∀ query, next.jobs.get? query = if query = jobId then some job else queue.jobs.get? query)
    (dead : next.dead = queue.dead) (alive : job.status ≠ .deadLettered)
    (other : ¬ queue.IsDead jobId) : next.DeadInStep := by
  intro query stored
  rw [jobs, dead, inStep]
  split
  · rename_i same
    constructor
    · rintro ⟨present, status⟩
      exact absurd ⟨stored, same ▸ present, status⟩ other
    · rintro ⟨present, status⟩
      exact absurd (Option.some.inj present ▸ status) alive
  · exact Iff.rfl

/-- A dead-lettered record enters both tables. -/
theorem DeadInStep.deadLetter {queue : MemoryJobQueue} (inStep : queue.DeadInStep)
    (next : MemoryJobQueue) (jobId : String) (job : RuntimeJob)
    (jobs : ∀ query, next.jobs.get? query = if query = jobId then some job else queue.jobs.get? query)
    (dead : next.dead = queue.dead.set jobId job) (status : job.status = .deadLettered) :
    next.DeadInStep := by
  intro query stored
  rw [jobs, dead, Dict.get?_set]
  split
  · constructor
    · intro same
      exact ⟨same, Option.some.inj same ▸ status⟩
    · exact And.left
  · exact inStep query stored

/-- Tables in step give the same list and the same count of dead letters. -/
theorem deadLetters_perm (inStep : queue.DeadInStep) (tenantId : Option String) :
    (queue.deadLetters tenantId).Perm
      ((queue.list tenantId).filter fun job => job.status = .deadLettered) := by
  have values := queue.dead.values_perm_filter queue.jobs (fun job => job.status = .deadLettered)
    inStep
  have sorted : (sortedBy (fun job => job.updatedAt.wall.micros) queue.dead.values).Perm
      ((sortedBy (fun job => job.createdAt.wall.micros) queue.jobs.values).filter
        fun job => job.status = .deadLettered) :=
    ((sortedBy_perm _ _).trans values).trans ((sortedBy_perm _ _).filter _).symm
  cases tenantId with
  | none => exact sorted
  | some tenant =>
      simp only [deadLetters, list, tenantFilter]
      rw [List.filter_comm]
      exact sorted.filter _

theorem health_deadLetterJobs (inStep : queue.DeadInStep) :
    queue.health.deadLetterJobs =
      (queue.list none).countP fun job => job.status = .deadLettered := by
  have same := (queue.deadLetters_perm inStep none).length_eq
  rw [← List.countP_eq_length_filter] at same
  rw [← same]
  simp [health, deadLetters, tenantFilter, Dict.values]

end MemoryJobQueue

namespace CloudRuntime

variable (runtime : CloudRuntime)

/-- The call leaves every dead-lettered job alone. -/
def LeavesDead : RuntimeCall → Prop
  | .submit job _ => job.validate = .ok () → ¬ runtime.queue.IsDead job.jobId
  | .cancel jobId _ => ¬ runtime.queue.IsDead jobId
  | .retry jobId _ => ¬ runtime.queue.IsDead jobId
  | .requeueDeadLetter jobId _ _ => ¬ runtime.queue.IsDead jobId
  | .dispatchOne _ _ _ _ => True

theorem put_deadInStep (queue : MemoryJobQueue) (inStep : queue.DeadInStep) (job : RuntimeJob)
    (alive : job.status ≠ .deadLettered) (other : ¬ queue.IsDead job.jobId) :
    (queue.put job).2.DeadInStep := by
  refine inStep.set _ job.jobId job (fun query => ?_) (queue.put_dead job) alive other
  rw [put_jobs, Dict.get?_set]

theorem dispatchOne_deadInStep (context : DispatchContext)
    (tenantId : Option String) (queueName workerId : String)
    (invariant : runtime.queue.Invariant) (inStep : runtime.queue.DeadInStep) :
    (dispatchOne runtime context tenantId queueName workerId).2.queue.DeadInStep := by
  cases answer : (runtime.queue.dequeue tenantId queueName (context.now 0)).1 with
  | none =>
      rw [dispatchOne_none runtime context tenantId queueName workerId answer]
      intro jobId job
      rw [dequeue_dead, dequeue_empty_handed _ _ _ _ answer]
      exact inStep jobId job
  | some leased =>
      have jobs := dispatchOne_jobs runtime context tenantId queueName workerId invariant
        leased answer
      have dead := dispatchOne_dead runtime context tenantId queueName workerId invariant
        leased answer
      obtain ⟨before, present, queued, _⟩ := dequeue_leased _ _ _ _ leased invariant answer
      by_cases status : (leftForm runtime context workerId leased).status = .deadLettered
      · rw [if_pos status] at dead
        exact inStep.deadLetter _ leased.jobId _ jobs dead status
      · rw [if_neg status] at dead
        refine inStep.set _ leased.jobId _ jobs dead status ?_
        rintro ⟨job, stored, isDead⟩
        rw [present, Option.some.injEq] at stored
        simp [← stored, queued] at isDead

/-- A call that leaves the dead jobs alone keeps the two tables in step. -/
theorem step_deadInStep (call : RuntimeCall)
    (invariant : runtime.queue.Invariant) (inStep : runtime.queue.DeadInStep)
    (leaves : runtime.LeavesDead call) : (runtime.step call).2.queue.DeadInStep := by
  have filed (queued : RuntimeJob) (alive : queued.status ≠ .deadLettered)
      (other : ¬ runtime.queue.IsDead queued.jobId) :
      (runtime.queue.filed queued).DeadInStep :=
    inStep.set _ queued.jobId queued (fun _ => Dict.get?_set _ _ _ _) rfl alive other
  cases call with
  | submit job now =>
      simp only [step, submit_queue]
      split
      · rename_i valid
        exact filed _ (by simp [queuedForm]) (leaves valid)
      · exact inStep
  | cancel jobId now =>
      simp only [step, cancel_queue]
      split
      · exact inStep
      · rename_i job found
        have sameId := get_jobId _ invariant jobId job found
        exact put_deadInStep _ inStep _ (by simp) (sameId ▸ leaves)
  | retry jobId now =>
      simp only [step, retry_queue]
      split
      · exact inStep
      · rename_i job found
        have sameId := get_jobId _ invariant jobId job found
        exact put_deadInStep _ inStep _ (by simp [requeuedForm]) (sameId ▸ leaves)
  | requeueDeadLetter jobId now later =>
      simp only [step, requeueDeadLetter_queue]
      split
      · exact inStep
      · rename_i job found
        have sameId := get_jobId _ invariant jobId job found
        split
        · exact filed _ (by simp [queuedForm]) (sameId ▸ leaves)
        · exact inStep
  | dispatchOne context tenantId queueName workerId =>
      exact dispatchOne_deadInStep runtime context tenantId queueName workerId invariant inStep

/-- In every run that leaves the dead jobs alone the dead letters are the dead-lettered jobs. -/
theorem reached_deadLetters (calls : List RuntimeCall)
    (leaves : Guarded step LeavesDead Dispatcher.initial calls) (tenantId : Option String) :
    ((reached calls).queue.deadLetters tenantId).Perm
        (((reached calls).queue.list tenantId).filter fun job => job.status = .deadLettered) ∧
      (reached calls).queue.health.deadLetterJobs =
        ((reached calls).queue.list none).countP fun job => job.status = .deadLettered := by
  have both := run_invariant_of_guarded step LeavesDead
    (fun runtime => runtime.queue.Invariant ∧ runtime.queue.DeadInStep)
    (fun runtime call holds leaves => ⟨runtime.step_invariant call holds.1,
      runtime.step_deadInStep call holds.1 holds.2 leaves⟩)
    Dispatcher.initial calls
    ⟨empty_invariant, fun jobId job => by simp [Dispatcher.initial, MemoryJobQueue.empty]⟩
    leaves
  exact ⟨(reached calls).queue.deadLetters_perm both.2 tenantId,
    (reached calls).queue.health_deadLetterJobs both.2⟩

/-- A job whose only attempt fails. -/
def doomedRun : RuntimeJob :=
  { agentRun "job-1" with maxAttempts := 1, payload := [("force_fail", .bool true)] }

theorem reached_deadLetters_doomed :
    Guarded step LeavesDead Dispatcher.initial
        [.submit doomedRun .first, .dispatchOne .mock none "default" "local-worker"] ∧
      (reached [.submit doomedRun .first,
        .dispatchOne .mock none "default" "local-worker"]).queue.health.deadLetterJobs =
        ((reached [.submit doomedRun .first,
          .dispatchOne .mock none "default" "local-worker"]).queue.list none).countP
            fun job => job.status = .deadLettered := by
  have leaves : Guarded step LeavesDead Dispatcher.initial
      [.submit doomedRun .first, .dispatchOne .mock none "default" "local-worker"] := by
    refine ⟨fun _ => ?_, trivial, trivial⟩
    rintro ⟨job, stored, _⟩
    cases stored
  exact ⟨leaves, (reached_deadLetters _ leaves none).2⟩

/-- A requeued job is still listed and counted among the dead letters. -/
theorem requeued_stays_dead :
    ¬ (((reached [.submit doomedRun .first, .dispatchOne .mock none "default" "local-worker",
        .requeueDeadLetter "job-1" .first .first]).queue.deadLetters none).Perm
      (((reached [.submit doomedRun .first, .dispatchOne .mock none "default" "local-worker",
        .requeueDeadLetter "job-1" .first .first]).queue.list none).filter
          fun job => job.status = .deadLettered)) := by
  intro perm
  have same := perm.length_eq
  cases same

end CloudRuntime

/-- A call of the runtime or one half of a dispatch. -/
inductive ConcurrentCall where
  | runtime (call : RuntimeCall)
  | beginOne (context : DispatchContext) (tenantId : Option String) (queueName workerId : String)
  | finish (index : Nat) (context : DispatchContext)

/-- The runtime together with the jobs whose handlers have not returned. -/
structure Concurrent where
  runtime : CloudRuntime
  executing : List RuntimeJob

namespace Concurrent

def initial : Concurrent := ⟨Dispatcher.initial, []⟩

variable (state : Concurrent)

/-- A dispatch that starts a job leaves it executing until its handler returns. -/
def step : ConcurrentCall → Except PyError (Option RuntimeJob) × Concurrent
  | .runtime call =>
      ((state.runtime.step call).1, { state with runtime := (state.runtime.step call).2 })
  | .beginOne context tenantId queueName workerId =>
      match beginOne state.runtime context tenantId queueName workerId with
      | (.ok (some running), runtime) =>
          (.ok (some running), ⟨runtime, state.executing ++ [running]⟩)
      | (answer, runtime) => (answer, { state with runtime })
  | .finish index context =>
      match state.executing[index]? with
      | none => (.ok none, state)
      | some running =>
          (.ok (some (finish state.runtime context running).1),
            ⟨(finish state.runtime context running).2, state.executing.eraseIdx index⟩)

def reached (calls : List ConcurrentCall) : Concurrent := run step initial calls

/-- The stored record of one job. -/
def record (jobId : String) : Option RuntimeJob :=
  state.runtime.queue.jobs.get? jobId

end Concurrent

/-- The three final states. -/
def JobStatus.Final (status : JobStatus) : Prop :=
  status = .completed ∨ status = .cancelled ∨ status = .deadLettered

/-- The call names the job or ends an execution of the job. -/
def ConcurrentCall.Rewrites (jobId : String) (state : Concurrent) : ConcurrentCall → Prop
  | .runtime (.submit job _) => job.jobId = jobId
  | .runtime (.cancel cancelledId _) => cancelledId = jobId
  | .runtime (.retry retriedId _) => retriedId = jobId
  | .runtime (.requeueDeadLetter requeuedId _ _) => requeuedId = jobId
  | .runtime (.dispatchOne _ _ _ _) => False
  | .beginOne _ _ _ _ => False
  | .finish index _ => ∃ running, state.executing[index]? = some running ∧ running.jobId = jobId

namespace Concurrent

variable (state : Concurrent)

theorem step_beginOne_runtime (context : DispatchContext)
    (tenantId : Option String) (queueName workerId : String) :
    (state.step (.beginOne context tenantId queueName workerId)).2.runtime =
      (beginOne state.runtime context tenantId queueName workerId).2 := by
  simp only [step]
  split <;> simp_all

variable (call : ConcurrentCall)

theorem step_invariant
    (invariant : state.runtime.queue.Invariant) : (state.step call).2.runtime.queue.Invariant := by
  cases call with
  | runtime call => exact state.runtime.step_invariant call invariant
  | beginOne context tenantId queueName workerId =>
      rw [step_beginOne_runtime]
      exact beginOne_invariant state.runtime context tenantId queueName workerId invariant
  | finish index context =>
      simp only [step]
      split
      · exact invariant
      · exact finish_invariant state.runtime context _ invariant

/-- A dispatch leases no job whose record is not queued. -/
theorem dequeue_other (queue : MemoryJobQueue) (invariant : queue.Invariant)
    (tenantId : Option String) (queueName : String) (now : UtcTime) (jobId : String)
    (job leased : RuntimeJob) (stored : queue.jobs.get? jobId = some job)
    (settled : job.status ≠ .queued)
    (returned : (queue.dequeue tenantId queueName now).1 = some leased) : jobId ≠ leased.jobId := by
  rintro rfl
  obtain ⟨before, present, queued, _⟩ :=
    dequeue_leased queue tenantId queueName now leased invariant returned
  rw [stored, Option.some.injEq] at present
  exact settled (present ▸ queued)

theorem runtime_record (runtime : CloudRuntime) (call : RuntimeCall) (jobId : String)
    (job : RuntimeJob) (invariant : runtime.queue.Invariant)
    (stored : runtime.queue.jobs.get? jobId = some job) (settled : job.status ≠ .queued)
    (state : Concurrent) (untouched : ¬ (ConcurrentCall.runtime call).Rewrites jobId state) :
    (runtime.step call).2.queue.jobs.get? jobId = some job := by
  have filed (queued : RuntimeJob) (other : queued.jobId ≠ jobId) :
      (runtime.queue.filed queued).jobs.get? jobId = some job := by
    rw [← stored]
    exact Dict.get?_set_of_ne _ _ (Ne.symm other)
  have put (written : RuntimeJob) (other : written.jobId ≠ jobId) :
      (runtime.queue.put written).2.jobs.get? jobId = some job := by
    rw [put_jobs, Dict.get?_set_of_ne _ _ (Ne.symm other)]
    exact stored
  cases call with
  | submit submitted now =>
      simp only [CloudRuntime.step, submit_queue]
      split
      · exact filed _ untouched
      · exact stored
  | cancel cancelledId now =>
      simp only [CloudRuntime.step, cancel_queue]
      split
      · exact stored
      · rename_i found foundStored
        exact put _ (get_jobId _ invariant cancelledId found foundStored ▸ untouched)
  | retry retriedId now =>
      simp only [CloudRuntime.step, retry_queue]
      split
      · exact stored
      · rename_i found foundStored
        exact put _ (get_jobId _ invariant retriedId found foundStored ▸ untouched)
  | requeueDeadLetter requeuedId now later =>
      simp only [CloudRuntime.step, requeueDeadLetter_queue]
      split
      · exact stored
      · rename_i found foundStored
        split
        · exact filed _ (get_jobId _ invariant requeuedId found foundStored ▸ untouched)
        · exact stored
  | dispatchOne context tenantId queueName workerId =>
      simp only [CloudRuntime.step]
      cases answer : (runtime.queue.dequeue tenantId queueName (context.now 0)).1 with
      | none =>
          rw [dispatchOne_none runtime context tenantId queueName workerId answer,
            dequeue_empty_handed _ _ _ _ answer]
          exact stored
      | some leased =>
          rw [dispatchOne_jobs runtime context tenantId queueName workerId invariant
            leased answer, if_neg (dequeue_other runtime.queue invariant tenantId queueName
              (context.now 0) jobId job leased stored settled answer)]
          exact stored

/-- A call that does not rewrite the job keeps a record that is not queued. -/
theorem step_record (jobId : String) (job : RuntimeJob) (invariant : state.runtime.queue.Invariant)
    (stored : state.record jobId = some job) (settled : job.status ≠ .queued)
    (untouched : ¬ call.Rewrites jobId state) : (state.step call).2.record jobId = some job := by
  cases call with
  | runtime call =>
      exact runtime_record state.runtime call jobId job invariant stored settled state untouched
  | beginOne context tenantId queueName workerId =>
      rw [record, step_beginOne_runtime]
      cases answer : (state.runtime.queue.dequeue tenantId queueName (context.now 0)).1 with
      | none =>
          rw [beginOne_none state.runtime context tenantId queueName workerId answer,
            dequeue_empty_handed _ _ _ _ answer]
          exact stored
      | some leased =>
          rw [beginOne_jobs state.runtime context tenantId queueName workerId invariant
            leased answer, if_neg (dequeue_other state.runtime.queue invariant tenantId queueName
              (context.now 0) jobId job leased stored settled answer)]
          exact stored
  | finish index context =>
      simp only [step]
      split
      · exact stored
      · rename_i running found
        have other : jobId ≠ running.jobId := fun same => untouched ⟨running, found, same.symm⟩
        rw [record, finish_jobs, Dict.get?_set_of_ne _ _ other]
        exact stored

theorem reached_invariant (calls : List ConcurrentCall) : (reached calls).runtime.queue.Invariant :=
  run_invariant step (fun state => state.runtime.queue.Invariant) step_invariant initial calls
    empty_invariant

/-- A final record lasts until a call names the job or an execution of the job ends. -/
theorem reached_final_record (before after : List ConcurrentCall) (jobId : String)
    (job : RuntimeJob) (stored : (reached before).record jobId = some job)
    (final : job.status.Final)
    (untouched : Guarded step (fun state call => ¬ call.Rewrites jobId state) (reached before)
      after) :
    (reached (before ++ after)).record jobId = some job := by
  have settled : job.status ≠ .queued := by
    rintro queued
    simp [JobStatus.Final, queued] at final
  have both := run_invariant_of_guarded step (fun state call => ¬ call.Rewrites jobId state)
    (fun state => state.runtime.queue.Invariant ∧ state.record jobId = some job)
    (fun state call holds untouched => ⟨state.step_invariant call holds.1,
      state.step_record call jobId job holds.1 holds.2 settled untouched⟩)
    (reached before) after ⟨reached_invariant before, stored⟩ untouched
  rw [reached, run_append]
  exact both.2

theorem reached_final_record_completed :
    (reached ([.runtime (.submit (agentRun "job-1") .first),
        .runtime (.dispatchOne .mock none "default" "local-worker")] ++
      [.runtime (.cancel "job-2" .first),
        .runtime (.dispatchOne .mock none "default" "local-worker")])).record "job-1" =
      (reached [.runtime (.submit (agentRun "job-1") .first),
        .runtime (.dispatchOne .mock none "default" "local-worker")]).record "job-1" :=
  reached_final_record _ _ "job-1" _ rfl (Or.inl rfl)
    ⟨by simp [ConcurrentCall.Rewrites], id, trivial⟩

/-- A cancel and a new submission rewrite a completed job, and a completion rewrites a cancel. -/
theorem final_states_rewritten :
    (((reached [.runtime (.submit (agentRun "job-1") .first),
        .runtime (.dispatchOne .mock none "default" "local-worker")]).record "job-1").map
          RuntimeJob.status = some .completed ∧
      ((reached [.runtime (.submit (agentRun "job-1") .first),
        .runtime (.dispatchOne .mock none "default" "local-worker"),
        .runtime (.cancel "job-1" .first)]).record "job-1").map
          RuntimeJob.status = some .cancelled ∧
      ((reached [.runtime (.submit (agentRun "job-1") .first),
        .runtime (.dispatchOne .mock none "default" "local-worker"),
        .runtime (.submit (agentRun "job-1") .first)]).record "job-1").map
          RuntimeJob.status = some .queued) ∧
    ((reached [.runtime (.submit (agentRun "job-1") .first),
        .beginOne .mock none "default" "local-worker",
        .runtime (.cancel "job-1" .first)]).record "job-1").map
          RuntimeJob.status = some .cancelled ∧
      ((reached [.runtime (.submit (agentRun "job-1") .first),
        .beginOne .mock none "default" "local-worker",
        .runtime (.cancel "job-1" .first), .finish 0 .mock]).record "job-1").map
          RuntimeJob.status = some .completed :=
  ⟨⟨rfl, rfl, rfl⟩, rfl, rfl⟩

end Concurrent

end AgentFabric.Cloud
