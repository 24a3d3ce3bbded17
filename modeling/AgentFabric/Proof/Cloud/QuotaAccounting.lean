import AgentFabric.Proof.Cloud.DispatchOutcome

namespace AgentFabric.Cloud
open Transition Quotas LastEntry Dispatcher DispatchContext CloudRuntime

/-- One attempt to execute a job, with the limit under which it consumed a unit. -/
structure Attempt where
  tenantId : String
  unit : Option Int
  started : Bool

namespace Attempt

variable (tenantId : String) (attempt : Attempt)

def consumedBy : Bool :=
  attempt.tenantId = tenantId && attempt.unit.isSome

def startedBy : Bool :=
  attempt.tenantId = tenantId && attempt.started

/-- A unit is consumed and the job starts. -/
def meteredStart : Bool :=
  attempt.consumedBy tenantId && attempt.started

/-- A unit is consumed and a later check refuses the job. -/
def refused : Bool :=
  attempt.consumedBy tenantId && !attempt.started

/-- The job starts without a quota. -/
def unmeteredStart : Bool :=
  attempt.startedBy tenantId && attempt.unit.isNone

end Attempt

namespace DispatchContext

variable (context : DispatchContext) (tracker : QuotaTracker)

/-- The limit of the policy under which the quota step consumes a unit. -/
def unitLimit (tenantId : String) : Option Int :=
  match context.quotaPolicy with
  | none => none
  | some policy =>
      match policy tenantId with
      | .error _ => none
      | .ok limits =>
          if tracker.get tenantId .computeSeconds + 1 ≤ limits.limit .computeSeconds then
            some (limits.limit .computeSeconds)
          else none

/-- The attempt that an execution of a job makes. -/
def attempt (job : RuntimeJob) : Attempt :=
  match job.validate with
  | .error _ => ⟨job.tenantId, none, false⟩
  | .ok () =>
      ⟨job.tenantId, context.unitLimit tracker job.tenantId, (context.enforce tracker job).1.isOk⟩

end DispatchContext

/-- A call of the runtime, one half of a dispatch, or a direct execution of a job. -/
inductive MeteredCall where
  | concurrent (call : ConcurrentCall)
  | execute (context : DispatchContext) (job : RuntimeJob)

variable (state : Concurrent)

/-- The context and the job of the execution that a call begins. -/
def executed : MeteredCall → Option (DispatchContext × RuntimeJob)
  | .concurrent (.runtime (.dispatchOne context tenantId queueName workerId)) =>
      (state.runtime.queue.dequeue tenantId queueName (context.now 0)).1.map fun job =>
        (context, assignedForm context workerId job)
  | .concurrent (.beginOne context tenantId queueName workerId) =>
      (state.runtime.queue.dequeue tenantId queueName (context.now 0)).1.map fun job =>
        (context, assignedForm context workerId job)
  | .execute context job => some (context, job)
  | .concurrent (.runtime (.submit _ _)) => none
  | .concurrent (.runtime (.cancel _ _)) => none
  | .concurrent (.runtime (.retry _ _)) => none
  | .concurrent (.runtime (.requeueDeadLetter _ _ _)) => none
  | .concurrent (.finish _ _) => none

/-- Each call answers with the attempts that it makes. -/
def serve : Machine Concurrent MeteredCall (List Attempt) := fun state call =>
  (((executed state call).map fun (context, job) =>
      context.attempt state.runtime.tracker job).toList,
    match call with
    | .concurrent call => (state.step call).2
    | .execute context job => { state with runtime := (state.runtime.execute context job).2 })

variable (tenantId : String)

/-- The logged starts of the jobs of a tenant. -/
def starts (events : List EventAppend) : Nat :=
  events.countP fun event => event.eventType = "runtime.job.started" &&
    Json.textField event.payload "tenant_id" none = some tenantId

/-- The counters and the logged starts grow by the attempts, and an attempt that consumes a unit
stays within its limit. -/
structure Counts (before after : Dispatcher) (attempts : List Attempt) : Prop where
  counter : ∀ tenantId, after.tracker.get tenantId .computeSeconds =
    before.tracker.get tenantId .computeSeconds + attempts.countP (Attempt.consumedBy tenantId)
  started : ∀ tenantId, starts tenantId after.events =
    starts tenantId before.events + attempts.countP (Attempt.startedBy tenantId)
  within : ∀ attempt ∈ attempts, ∀ limit, attempt.unit = some limit →
    after.tracker.get attempt.tenantId .computeSeconds ≤ limit

namespace Counts

variable {first second third : Dispatcher} {attempts : List Attempt}

theorem unchanged (counters : second.tracker = first.tracker)
    (logged : ∀ tenantId, starts tenantId second.events = starts tenantId first.events) :
    Counts first second [] where
  counter tenantId := by rw [counters]; simp
  started tenantId := by rw [logged]; simp
  within := by simp

/-- Steps without an attempt may come before and after an attempt. -/
theorem trans_left (before : Counts first second []) (after : Counts second third attempts) :
    Counts first third attempts where
  counter tenantId := by
    rw [after.counter, before.counter]
    simp
  started tenantId := by
    rw [after.started, before.started]
    simp
  within := after.within

theorem trans_right (before : Counts first second attempts) (after : Counts second third []) :
    Counts first third attempts where
  counter tenantId := by
    rw [after.counter, before.counter]
    simp
  started tenantId := by
    rw [after.started, before.started]
    simp
  within attempt member limit unit := by
    rw [after.counter]
    simpa using before.within attempt member limit unit

end Counts

variable (dispatcher : Dispatcher)

/-- An event of a job is a start of its tenant or no start. -/
theorem starts_append (eventType : String) (job : RuntimeJob)
    (tenantId : String) : starts tenantId (dispatcher.append eventType job).events =
      starts tenantId dispatcher.events +
        if eventType = "runtime.job.started" ∧ job.tenantId = tenantId then 1 else 0 := by
  have named : Json.textField job.asDict "tenant_id" none = some job.tenantId := rfl
  rw [starts, Dispatcher.append, List.countP_append, List.countP_singleton, named]
  simp [starts]

theorem starts_append_other {eventType : String} (job : RuntimeJob)
    (other : eventType ≠ "runtime.job.started") (tenantId : String) :
    starts tenantId (dispatcher.append eventType job).events =
      starts tenantId dispatcher.events := by
  rw [starts_append, if_neg fun both => other both.1, Nat.add_zero]

namespace DispatchContext

variable (context : DispatchContext) (tracker : QuotaTracker) {tenantId : String}

/-- An admitted unit is counted for its tenant alone. -/
theorem consumeQuota_of_unit {limit : Int}
    (admitted : context.unitLimit tracker tenantId = some limit) :
    context.consumeQuota tracker tenantId = .ok (tracker.increment tenantId .computeSeconds 1) ∧
      tracker.get tenantId .computeSeconds + 1 ≤ limit := by
  unfold unitLimit at admitted
  unfold consumeQuota
  cases configured : context.quotaPolicy with
  | none =>
      rw [configured] at admitted
      cases admitted
  | some policy =>
      rw [configured] at admitted
      dsimp only at admitted ⊢
      cases known : policy tenantId with
      | error error =>
          rw [known] at admitted
          cases admitted
      | ok limits =>
          rw [known] at admitted
          dsimp only at admitted
          by_cases within : tracker.get tenantId .computeSeconds + 1 ≤ limits.limit .computeSeconds
          · rw [if_pos within] at admitted
            obtain rfl := Option.some.inj admitted
            refine ⟨?_, within⟩
            show tracker.consume tenantId limits .computeSeconds 1 = _
            rw [QuotaTracker.consume_eq, if_pos within]
          · rw [if_neg within] at admitted
            cases admitted

/-- A quota step that admits no unit leaves the counters. -/
theorem consumeQuota_of_no_unit {consumed : QuotaTracker}
    (none : context.unitLimit tracker tenantId = none)
    (passed : context.consumeQuota tracker tenantId = .ok consumed) : consumed = tracker := by
  unfold unitLimit at none
  unfold consumeQuota at passed
  cases configured : context.quotaPolicy with
  | none =>
      rw [configured] at passed
      exact (Except.ok.inj passed).symm
  | some policy =>
      rw [configured] at none passed
      dsimp only at none passed
      cases known : policy tenantId with
      | error error =>
          rw [known] at passed
          cases passed
      | ok limits =>
          rw [known] at none passed
          dsimp only at none
          have beyond : ¬ tracker.get tenantId .computeSeconds + 1 ≤ limits.limit .computeSeconds := by
            intro within
            rw [if_pos within] at none
            cases none
          have consumes : tracker.consume tenantId limits .computeSeconds 1 = .ok consumed := passed
          rw [QuotaTracker.consume_eq, if_neg beyond] at consumes
          cases consumes

/-- The enforcement counts one unit for the tenant of the job when its quota step admits one. -/
theorem enforce_tracker (job : RuntimeJob) (tenant : job.tenantId ≠ "") :
    (context.enforce tracker job).2 =
      if (context.unitLimit tracker job.tenantId).isSome then
        tracker.increment job.tenantId .computeSeconds 1
      else tracker := by
  unfold enforce
  rw [if_neg tenant]
  cases admitted : context.unitLimit tracker job.tenantId with
  | some limit =>
      rw [(context.consumeQuota_of_unit tracker admitted).1]
      rfl
  | none =>
      cases passed : context.consumeQuota tracker job.tenantId with
      | error error => rfl
      | ok consumed => exact context.consumeQuota_of_no_unit tracker admitted passed

end DispatchContext

namespace Dispatcher

variable (dispatcher : Dispatcher) (context : DispatchContext)

/-- The handler and the filing of its outcome touch neither the counters nor the starts. -/
theorem finish_counts (running : RuntimeJob) :
    Counts dispatcher (dispatcher.finish context running).2 [] := by
  unfold finish
  cases context.handle running with
  | ok result => exact .unchanged rfl fun tenantId => starts_append_other _ _ (by decide) tenantId
  | error message =>
      dsimp only
      split
      · refine .unchanged rfl fun tenantId => ?_
        rw [starts_append_other _ _ (by decide)]
        exact starts_append_other _ _ (by decide) tenantId
      · refine .unchanged rfl fun tenantId => ?_
        rw [starts_append_other _ _ (by decide)]
        exact starts_append_other _ _ (by decide) tenantId

variable (job : RuntimeJob)

/-- The first part of an execution of a valid job leaves the counters of its enforcement. -/
theorem start_tracker (valid : job.validate = .ok ()) :
    (dispatcher.start context job).2.tracker = (context.enforce dispatcher.tracker job).2 := by
  unfold start
  rw [valid]
  cases enforced : context.enforce dispatcher.tracker job with
  | mk answer tracker => cases answer <;> rfl

/-- The first part of an execution of a valid job logs a start when its enforcement passes. -/
theorem start_starts (valid : job.validate = .ok ()) (tenantId : String) :
    starts tenantId (dispatcher.start context job).2.events =
      starts tenantId dispatcher.events +
        if job.tenantId = tenantId ∧ (context.enforce dispatcher.tracker job).1.isOk then 1
        else 0 := by
  unfold start
  rw [valid]
  cases enforced : context.enforce dispatcher.tracker job with
  | mk answer tracker =>
      cases answer with
      | error error => simp [Except.isOk, Except.toBool]
      | ok _ =>
          dsimp only
          have same : (runningForm context job).tenantId = job.tenantId := rfl
          rw [starts_append, same]
          simp [Except.isOk, Except.toBool, put]

/-- The first part of an execution counts its attempt. -/
theorem start_counts :
    Counts dispatcher (dispatcher.start context job).2
      [context.attempt dispatcher.tracker job] := by
  cases valid : job.validate with
  | error error =>
      rw [start, attempt, valid]
      exact ⟨fun _ => by simp [Attempt.consumedBy], fun _ => by simp [Attempt.startedBy],
        fun attempt member limit unit => by rw [List.mem_singleton.mp member] at unit; cases unit⟩
  | ok _ =>
      have tenant := validate_tenantId job valid
      have tracked := start_tracker dispatcher context job valid
      rw [context.enforce_tracker _ _ tenant] at tracked
      have attempted : context.attempt dispatcher.tracker job =
          ⟨job.tenantId, context.unitLimit dispatcher.tracker job.tenantId,
            (context.enforce dispatcher.tracker job).1.isOk⟩ := by
        rw [attempt, valid]
      refine ⟨fun tenantId => ?_, fun tenantId => ?_, fun attempt member limit unit => ?_⟩
      · rw [tracked, attempted]
        cases admitted : context.unitLimit dispatcher.tracker job.tenantId with
        | none => simp [Attempt.consumedBy]
        | some limit =>
            simp only [Option.isSome_some, if_true, QuotaTracker.get_increment,
              List.countP_singleton, Attempt.consumedBy, Bool.and_true, decide_eq_true_eq]
            split <;> simp
      · rw [start_starts dispatcher context job valid, attempted]
        simp [List.countP_singleton, Attempt.startedBy]
      · obtain rfl := List.mem_singleton.mp member
        rw [attempted] at unit ⊢
        obtain ⟨-, within⟩ := context.consumeQuota_of_unit dispatcher.tracker unit
        have admitted : context.unitLimit dispatcher.tracker job.tenantId = some limit := unit
        rw [tracked, admitted]
        simpa [QuotaTracker.get_increment] using within

theorem execute_counts :
    Counts dispatcher (dispatcher.execute context job).2
      [context.attempt dispatcher.tracker job] := by
  have started := start_counts dispatcher context job
  unfold execute
  cases result : dispatcher.start context job with
  | mk answer next =>
      rw [result] at started
      cases answer with
      | error error => exact started
      | ok running => exact started.trans_right (finish_counts next context running)

/-- The lease of a job counts nothing. -/
theorem assign_counts (queue : MemoryJobQueue) (job : RuntimeJob) :
    Counts dispatcher ((put { dispatcher with queue } job).append "runtime.job.assigned" job) [] :=
  .unchanged rfl fun tenantId => starts_append_other _ _ (by decide) tenantId

section Dispatch

variable (dispatcher : Dispatcher) (context : DispatchContext) (tenantId : Option String)
  (queueName workerId : String)

/-- The attempt of a dispatch is on the job that it leases. -/
def attempts : List Attempt :=
  ((dispatcher.queue.dequeue tenantId queueName (context.now 0)).1.map fun job =>
    context.attempt dispatcher.tracker (assignedForm context workerId job)).toList

theorem dispatchOne_counts : Counts dispatcher
    (dispatcher.dispatchOne context tenantId queueName workerId).2
    (dispatcher.attempts context tenantId queueName workerId) := by
  unfold dispatchOne attempts
  cases dispatcher.queue.dequeue tenantId queueName (context.now 0) with
  | mk answer queue =>
      cases answer with
      | none => exact .unchanged rfl fun _ => rfl
      | some job =>
          exact (assign_counts dispatcher queue (assignedForm context workerId job)).trans_left
            (execute_counts _ context (assignedForm context workerId job))

theorem beginOne_counts : Counts dispatcher
    (dispatcher.beginOne context tenantId queueName workerId).2
    (dispatcher.attempts context tenantId queueName workerId) := by
  unfold beginOne attempts
  cases dispatcher.queue.dequeue tenantId queueName (context.now 0) with
  | mk answer queue =>
      cases answer with
      | none => exact .unchanged rfl fun _ => rfl
      | some job =>
          exact (assign_counts dispatcher queue (assignedForm context workerId job)).trans_left
            (start_counts _ context (assignedForm context workerId job))

end Dispatch

end Dispatcher

/-- A call of the runtime counts the attempt of its dispatch. -/
theorem runtime_counts (call : RuntimeCall) :
    Counts state.runtime (state.runtime.step call).2
      (serve state (.concurrent (.runtime call))).1 := by
  cases call with
  | submit job now =>
      simp only [serve, executed, CloudRuntime.step, submit, Option.map_none, Option.toList_none]
      cases job.validate with
      | error error => exact .unchanged rfl fun _ => rfl
      | ok _ =>
          cases state.runtime.queue.enqueue job now with
          | error error => exact .unchanged rfl fun _ => rfl
          | ok queued =>
              exact .unchanged rfl fun tenantId => starts_append_other _ _ (by decide) tenantId
  | cancel jobId now =>
      simp only [serve, executed, CloudRuntime.step, cancel, Option.map_none, Option.toList_none]
      cases state.runtime.queue.get jobId with
      | none => exact .unchanged rfl fun _ => rfl
      | some job =>
          exact .unchanged rfl fun tenantId => starts_append_other _ _ (by decide) tenantId
  | retry jobId now =>
      simp only [serve, executed, CloudRuntime.step, retry, Option.map_none, Option.toList_none]
      cases state.runtime.queue.get jobId with
      | none => exact .unchanged rfl fun _ => rfl
      | some job =>
          exact .unchanged rfl fun tenantId => starts_append_other _ _ (by decide) tenantId
  | requeueDeadLetter jobId now later =>
      simp only [serve, executed, CloudRuntime.step, requeueDeadLetter,
        Option.map_none, Option.toList_none]
      cases state.runtime.queue.get jobId with
      | none => exact .unchanged rfl fun _ => rfl
      | some job =>
          dsimp only
          cases state.runtime.queue.enqueue (requeuedForm job now) later with
          | error error => exact .unchanged rfl fun _ => rfl
          | ok queued =>
              exact .unchanged rfl fun tenantId => starts_append_other _ _ (by decide) tenantId
  | dispatchOne context tenantId queueName workerId =>
      have counted := dispatchOne_counts state.runtime context tenantId queueName workerId
      simpa only [serve, executed, CloudRuntime.step, Option.map_map, Function.comp_def,
        attempts] using counted

/-- A call counts its attempts. -/
theorem serve_counts (call : MeteredCall) :
    Counts state.runtime (serve state call).2.runtime (serve state call).1 := by
  cases call with
  | execute context job => exact execute_counts state.runtime context job
  | concurrent call =>
      cases call with
      | runtime call => exact runtime_counts state call
      | beginOne context tenantId queueName workerId =>
          have counted := beginOne_counts state.runtime context tenantId queueName workerId
          rw [← Concurrent.step_beginOne_runtime] at counted
          simpa only [serve, executed, Option.map_map, Function.comp_def, attempts] using counted
      | finish index context =>
          simp only [serve, executed, Option.map_none, Option.toList_none, Concurrent.step]
          split
          · exact .unchanged rfl fun _ => rfl
          · exact finish_counts state.runtime context _

variable (attempts : List Attempt)

/-- The last attempt of a tenant that consumed a unit. -/
def lastUnit : Option Attempt :=
  lastWhere (Attempt.consumedBy tenantId) attempts

/-- The counter and the logged starts of every tenant agree with the attempts of a run, and the counter
is within the limit of the last unit. -/
structure Accounted (state : Concurrent) (attempts : List Attempt) : Prop where
  counter : ∀ tenantId, state.runtime.tracker.get tenantId .computeSeconds =
    attempts.countP (Attempt.consumedBy tenantId)
  started : ∀ tenantId, starts tenantId state.runtime.events =
    attempts.countP (Attempt.startedBy tenantId)
  within : ∀ tenantId last limit, lastUnit tenantId attempts = some last → last.unit = some limit →
    state.runtime.tracker.get tenantId .computeSeconds ≤ limit

/-- The attempts of a call are at most one. -/
theorem serve_attempts (call : MeteredCall) :
    (serve state call).1 = [] ∨ ∃ attempt, (serve state call).1 = [attempt] := by
  unfold serve
  cases executed state call with
  | none => exact .inl rfl
  | some started => exact .inr ⟨_, rfl⟩

theorem accounted_step (call : MeteredCall) (accounted : Accounted state attempts) :
    Accounted (serve state call).2 (attempts ++ (serve state call).1) := by
  have counts := serve_counts state call
  refine ⟨fun tenantId => ?_, fun tenantId => ?_, fun tenantId last limit found unit => ?_⟩
  · rw [counts.counter, accounted.counter, List.countP_append]
    push_cast
    rfl
  · rw [counts.started, accounted.started, List.countP_append]
  · rcases serve_attempts state call with none | ⟨attempt, one⟩
    · rw [none, List.append_nil] at found
      rw [counts.counter, none]
      simpa using accounted.within tenantId last limit found unit
    · rw [one, lastUnit, lastWhere_append] at found
      cases consumed : attempt.consumedBy tenantId with
      | true =>
          rw [consumed] at found
          obtain rfl := Option.some.inj found
          have same : attempt.tenantId = tenantId := by
            simpa [Attempt.consumedBy, unit] using consumed
          rw [← same]
          exact counts.within attempt (by rw [one]; exact List.mem_singleton_self _) limit unit
      | false =>
          rw [consumed] at found
          rw [counts.counter, one, List.countP_singleton, consumed]
          simpa using accounted.within tenantId last limit found unit

/-- Every run accounts for its attempts. -/
theorem accounted_run (calls : List MeteredCall) :
    Accounted (run serve Concurrent.initial calls)
      (responses serve Concurrent.initial calls).flatten := by
  induction calls using List.reverseRecOn with
  | nil => exact ⟨fun _ => rfl, fun _ => rfl, fun _ _ _ found => by cases found⟩
  | append_singleton calls call ih =>
      have next := accounted_step _ _ call ih
      rw [run_append, responses_append, List.flatten_append]
      simpa [responses, run] using next

/-- The units that a tenant consumes are its metered starts and its refused attempts. -/
theorem countP_consumedBy :
    attempts.countP (Attempt.consumedBy tenantId) =
      attempts.countP (Attempt.meteredStart tenantId) +
        attempts.countP (Attempt.refused tenantId) := by
  rw [List.countP_eq_countP_filter_add attempts _ Attempt.started, List.countP_filter,
    List.countP_filter]
  rfl

/-- The starts of a tenant are its metered and its unmetered starts. -/
theorem countP_startedBy :
    attempts.countP (Attempt.startedBy tenantId) =
      attempts.countP (Attempt.meteredStart tenantId) +
        attempts.countP (Attempt.unmeteredStart tenantId) := by
  rw [List.countP_eq_countP_filter_add attempts _ fun attempt => attempt.unit.isSome,
    List.countP_filter, List.countP_filter]
  congr 1
  · apply List.countP_congr
    intro attempt _
    rw [Attempt.startedBy, Attempt.meteredStart, Attempt.consumedBy, Bool.and_right_comm]
  · apply List.countP_congr
    intro attempt _
    rw [Attempt.unmeteredStart, Option.not_isSome]

/-- The counter of a tenant is the number of its starts under a quota and of its attempts that a later
check refused, and it stays within the limit in force at the last unit. -/
theorem computeSeconds_accounted (calls : List MeteredCall) (tenantId : String) :
    let state := run serve Concurrent.initial calls
    let attempts := (responses serve Concurrent.initial calls).flatten
    state.runtime.tracker.get tenantId .computeSeconds =
        attempts.countP (Attempt.meteredStart tenantId) +
          attempts.countP (Attempt.refused tenantId) ∧
      starts tenantId state.runtime.events =
        attempts.countP (Attempt.meteredStart tenantId) +
          attempts.countP (Attempt.unmeteredStart tenantId) ∧
      ∀ last limit, lastUnit tenantId attempts = some last → last.unit = some limit →
        state.runtime.tracker.get tenantId .computeSeconds ≤ limit := by
  intro state attempts
  have accounted : Accounted state attempts := accounted_run calls
  refine ⟨?_, ?_, accounted.within tenantId⟩
  · rw [accounted.counter, countP_consumedBy]
    push_cast
    rfl
  · rw [accounted.started, countP_startedBy]

/-- A job that VEIL denies after its unit is consumed has not started. -/
theorem computeSeconds_ne_starts :
    ¬ ∀ (calls : List MeteredCall) (tenantId : String),
      (run serve Concurrent.initial calls).runtime.tracker.get tenantId .computeSeconds =
        starts tenantId (run serve Concurrent.initial calls).runtime.events := by
  intro all
  have counted := all
    [.concurrent (.runtime (.submit
        (RuntimeJob.new "tenant-a" "org-a" "owner-a" "agent_run" [] "job-1" .first .first) .first)),
      .concurrent (.runtime (.dispatchOne
        { denying with quotaPolicy := some fun _ => .ok ⟨fun _ => 10⟩ }
        (some "tenant-a") "default" "local-worker"))] "tenant-a"
  exact absurd counted (by decide)

end AgentFabric.Cloud
