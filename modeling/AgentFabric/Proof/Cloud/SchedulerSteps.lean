import AgentFabric.Construction.Cloud.Scheduler
import AgentFabric.Proof.Cloud.RuntimeSteps

namespace AgentFabric.Cloud
open Transition Persistence ScheduledJob SchedulerService MemoryPersistenceStore

variable (scheduleId : String)

/-- One schedule of a fixed tenant that is due from the first instant on. -/
def agentSchedule : ScheduledJob :=
  { ScheduledJob.new "tenant-a" "org-a" "owner-a" "agent_run" [] scheduleId .first with
    runAt := some UtcTime.first.toDateTime }

/-- A trigger call at the first instant. -/
def firstTrigger : TriggerContext where
  now := UtcTime.first.toDateTime
  jobId := fun scheduleId => "job-" ++ scheduleId
  createdAt := fun _ => .first
  updatedAt := fun _ => .first
  queuedAt := fun _ => .first
  readAt := .first

variable (runtime : CloudRuntime)

/-- A valid submission returns the queued form. -/
theorem CloudRuntime.submit_valid (job : RuntimeJob) (now : UtcTime)
    (valid : job.validate = .ok ()) :
    (runtime.submit job now).1 = .ok (MemoryJobQueue.queuedForm job now) := by
  simp [submit, valid, MemoryJobQueue.enqueue_eq, Except.map]

theorem CloudRuntime.submit_invalid (job : RuntimeJob) (now : UtcTime)
    (error : PyError) (invalid : job.validate = .error error) :
    runtime.submit job now = (.error error, runtime) := by
  simp [submit, invalid]

variable (schedule : ScheduledJob)

/-- A due schedule is enabled and its next run is not later than the given time. -/
theorem ScheduledJob.isDue_true (now : DateTime) (due : schedule.isDue now = .ok true) :
    schedule.enabled = true ∧
      ∃ nextRunAt, schedule.nextRunAt = some nextRunAt ∧ nextRunAt.later? now = some false := by
  unfold isDue at due
  split at due
  · rename_i enabled
    refine ⟨enabled, ?_⟩
    cases next : schedule.nextRunAt with
    | none =>
        rw [next] at due
        cases due
    | some nextRunAt =>
        rw [next] at due
        dsimp only at due
        refine ⟨nextRunAt, rfl, ?_⟩
        cases compared : nextRunAt.later? now with
        | none =>
            rw [compared] at due
            cases due
        | some later =>
            rw [compared] at due
            cases later with
            | false => rfl
            | true => cases due
  · cases due

/-- A schedule that is not recurring has no next run. -/
theorem ScheduledJob.nextRun_oneTime (now : DateTime)
    (oneTime : schedule.scheduleType ≠ "recurring") : schedule.nextRun now = .ok none := by
  rw [nextRun, if_neg oneTime]

/-- The number of submissions for one schedule. -/
def TriggerReport.count (report : TriggerReport) (scheduleId : String) : Nat :=
  report.submitted.countP fun submission => submission.1 = scheduleId

namespace SchedulerService

variable {State : Type} (store : PersistenceStore State)

/-- The stored row of one schedule. -/
def row (service : SchedulerService State) (scheduleId : String) : Option Json :=
  store.get service.persistence collection scheduleId

/-- The next service has the schedule under its id and all other rows as before. -/
structure Wrote (service next : SchedulerService State) (schedule : ScheduledJob) : Prop where
  written : ∃ read, next.row store schedule.scheduleId = some read ∧ read.Same schedule.asDict
  others : ∀ other, other ≠ schedule.scheduleId → next.row store other = service.row store other

/-- Every row is the dict form of a schedule with the id of the row. -/
def Keyed (service : SchedulerService State) : Prop :=
  ∀ scheduleId stored, service.row store scheduleId = some stored →
    ∃ schedule : ScheduledJob, schedule.scheduleId = scheduleId ∧ stored.Same schedule.asDict

/-- The schedule is due and its job is valid. -/
def Ready (context : TriggerContext) (schedule : ScheduledJob) : Prop :=
  schedule.isDue context.now = .ok true ∧ (newJob context schedule).validate = .ok ()

/-- The round of the schedule raises. -/
def Raises (context : TriggerContext) (schedule : ScheduledJob) : Prop :=
  (∃ error, schedule.isDue context.now = .error error) ∨
    schedule.isDue context.now = .ok true ∧
      ((newJob context schedule).validate ≠ .ok () ∨
        ∃ error, schedule.nextRun context.now = .error error)

/-- A round without a ready schedule changes no row. -/
theorem trigger_idle (service : SchedulerService State) (context : TriggerContext)
    (schedule : ScheduledJob) (idle : ¬ Ready context schedule) :
    (service.trigger store context schedule).1.submitted = [] ∧
      (service.trigger store context schedule).2.persistence = service.persistence ∧
      ((service.trigger store context schedule).1.outcome = .ok () ↔
        ¬ Raises context schedule) := by
  unfold trigger Raises
  cases due : schedule.isDue context.now with
  | error error => simp
  | ok isDue =>
      cases isDue with
      | false => simp
      | true =>
          cases valid : (newJob context schedule).validate with
          | ok _ => exact absurd ⟨due, valid⟩ idle
          | error error =>
              simp [CloudRuntime.submit_invalid service.runtime _ _ error valid]

variable {store} (lawful : store.Lawful)

theorem Wrote.keyed {service next : SchedulerService State} {schedule : ScheduledJob}
    (wrote : Wrote store service next schedule) (keyed : service.Keyed store) :
    next.Keyed store := by
  intro scheduleId stored present
  by_cases same : scheduleId = schedule.scheduleId
  · obtain ⟨read, found, equal⟩ := wrote.written
    rw [same, found, Option.some.injEq] at present
    exact ⟨schedule, same.symm, present ▸ equal⟩
  · rw [wrote.others scheduleId same] at present
    exact keyed scheduleId stored present

include lawful

/-- A write to the schedule collection of a lawful store. -/
theorem put_wrote (service next : SchedulerService State) (schedule : ScheduledJob)
    (written : store.put service.persistence collection schedule.scheduleId schedule.asDict =
      .ok next.persistence) : Wrote store service next schedule where
  written := lawful.get_put_self _ _ _ _ _ written
  others := fun _ different => lawful.get_put_of_ne _ _ _ _ _ _ _ written
    fun same => different (Prod.mk.inj same).2

section

variable (service : SchedulerService State)

theorem save_wrote (eventType : String) (schedule : ScheduledJob) :
    ∃ next, service.save store eventType schedule.scheduleId schedule = .ok next ∧
      Wrote store service next schedule := by
  obtain ⟨persistence, written⟩ := lawful.put_succeeds service.persistence collection
    schedule.scheduleId schedule.asDict
  refine ⟨appendEvent { service with persistence } eventType schedule.scheduleId schedule.asDict,
    ?_, ?_⟩
  · simp only [save, written]
    rfl
  · exact put_wrote lawful service _ schedule written

variable (context : TriggerContext)

/-- A ready schedule submits one job and then writes its next run or raises. -/
theorem trigger_ready (schedule : ScheduledJob) (ready : Ready context schedule) :
    (∃ job, (service.trigger store context schedule).1.submitted = [(schedule.scheduleId, job)]) ∧
      match schedule.nextRun context.now with
      | .error error =>
          (service.trigger store context schedule).1.outcome = .error error ∧
            (service.trigger store context schedule).2.persistence = service.persistence
      | .ok next =>
          (service.trigger store context schedule).1.outcome = .ok () ∧
            Wrote store service (service.trigger store context schedule).2
              (schedule.triggeredForm context.now next) := by
  obtain ⟨due, valid⟩ := ready
  have answer := service.runtime.submit_valid (newJob context schedule)
    (context.queuedAt schedule.scheduleId) valid
  unfold trigger
  rw [due]
  dsimp only
  cases submitted : service.runtime.submit (newJob context schedule)
    (context.queuedAt schedule.scheduleId) with
  | mk first runtime =>
      rw [submitted] at answer
      obtain rfl : first = _ := answer
      dsimp only
      unfold advance
      cases computed : schedule.nextRun context.now with
      | error error => exact ⟨⟨_, rfl⟩, rfl, rfl⟩
      | ok next =>
          obtain ⟨persistence, written⟩ := lawful.put_succeeds service.persistence collection
            schedule.scheduleId (schedule.triggeredForm context.now next).asDict
          simp only [bind, Except.bind, written]
          exact ⟨⟨_, rfl⟩, trivial, put_wrote lawful service _
            (schedule.triggeredForm context.now next) written⟩

/-- The outcome of a round tells whether the schedule raises. -/
theorem trigger_outcome (schedule : ScheduledJob) :
    (service.trigger store context schedule).1.outcome = .ok () ↔ ¬ Raises context schedule := by
  by_cases ready : Ready context schedule
  · have result := (trigger_ready lawful service context schedule ready).2
    have due := ready.1
    have valid := ready.2
    unfold Raises
    cases computed : schedule.nextRun context.now with
    | error error =>
        rw [computed] at result
        simp [result.1, due]
    | ok next =>
        rw [computed] at result
        simp [result.1, due, valid]
  · exact (trigger_idle store service context schedule ready).2.2

/-- A round rewrites no row of another schedule. -/
theorem trigger_others (schedule : ScheduledJob) (other : String)
    (different : other ≠ schedule.scheduleId) :
    (service.trigger store context schedule).2.row store other = service.row store other := by
  by_cases ready : Ready context schedule
  · have result := (trigger_ready lawful service context schedule ready).2
    cases computed : schedule.nextRun context.now with
    | error error =>
        rw [computed] at result
        rw [row, result.2, row]
    | ok next =>
        rw [computed] at result
        exact result.2.others other different
  · rw [row, (trigger_idle store service context schedule ready).2.1, row]

theorem trigger_keyed (schedule : ScheduledJob) (keyed : service.Keyed store) :
    (service.trigger store context schedule).2.Keyed store := by
  by_cases ready : Ready context schedule
  · have result := (trigger_ready lawful service context schedule ready).2
    cases computed : schedule.nextRun context.now with
    | error error =>
        rw [computed] at result
        intro scheduleId stored present
        rw [row, result.2] at present
        exact keyed scheduleId stored present
    | ok next =>
        rw [computed] at result
        exact result.2.keyed keyed
  · intro scheduleId stored present
    rw [row, (trigger_idle store service context schedule ready).2.1] at present
    exact keyed scheduleId stored present

end

omit lawful in
theorem triggerLoop_cons (context : TriggerContext) (service : SchedulerService State)
    (schedule : ScheduledJob) (rest : List ScheduledJob) :
    triggerLoop store context service (schedule :: rest) =
      match (service.trigger store context schedule).1.outcome with
      | .error error =>
          (⟨(service.trigger store context schedule).1.submitted, .error error⟩,
            (service.trigger store context schedule).2)
      | .ok () =>
          (⟨(service.trigger store context schedule).1.submitted ++
              (triggerLoop store context (service.trigger store context schedule).2 rest).1.submitted,
            (triggerLoop store context (service.trigger store context schedule).2 rest).1.outcome⟩,
            (triggerLoop store context (service.trigger store context schedule).2 rest).2) := by
  rw [triggerLoop]
  cases result : service.trigger store context schedule with
  | mk report next =>
      obtain ⟨submitted, outcome⟩ := report
      cases outcome <;> rfl

/-- The loop keeps the keys of the rows. -/
theorem triggerLoop_keyed (context : TriggerContext) (service : SchedulerService State)
    (schedules : List ScheduledJob) (keyed : service.Keyed store) :
    (triggerLoop store context service schedules).2.Keyed store := by
  induction schedules generalizing service with
  | nil => exact keyed
  | cons schedule rest ih =>
      have next := trigger_keyed lawful service context schedule keyed
      rw [triggerLoop_cons]
      split
      · exact next
      · exact ih _ next

/-- A round submits nothing for another schedule. -/
theorem trigger_count_others (service : SchedulerService State) (context : TriggerContext)
    (schedule : ScheduledJob) (other : String) (different : other ≠ schedule.scheduleId) :
    (service.trigger store context schedule).1.count other = 0 := by
  unfold TriggerReport.count
  by_cases ready : Ready context schedule
  · obtain ⟨job, submitted⟩ := (trigger_ready lawful service context schedule ready).1
    simp [submitted, Ne.symm different]
  · simp [(trigger_idle store service context schedule ready).1]

section

variable (context : TriggerContext) (service : SchedulerService State)

omit lawful in
theorem triggerLoop_count_cons (schedule : ScheduledJob) (rest : List ScheduledJob)
    (scheduleId : String) :
    (triggerLoop store context service (schedule :: rest)).1.count scheduleId =
      (service.trigger store context schedule).1.count scheduleId +
        match (service.trigger store context schedule).1.outcome with
        | .error _ => 0
        | .ok () =>
            (triggerLoop store context (service.trigger store context schedule).2
              rest).1.count scheduleId := by
  rw [triggerLoop_cons]
  unfold TriggerReport.count
  split <;> simp [List.countP_append]

variable (schedules : List ScheduledJob)

/-- The loop leaves an unlisted schedule alone. -/
theorem triggerLoop_unlisted (scheduleId : String)
    (unlisted : ∀ schedule ∈ schedules, scheduleId ≠ schedule.scheduleId) :
    (triggerLoop store context service schedules).2.row store scheduleId =
        service.row store scheduleId ∧
      (triggerLoop store context service schedules).1.count scheduleId = 0 := by
  induction schedules generalizing service with
  | nil => exact ⟨rfl, rfl⟩
  | cons schedule rest ih =>
      have different := unlisted schedule (.head _)
      have same := trigger_others lawful service context schedule scheduleId different
      have none := trigger_count_others lawful service context schedule scheduleId different
      obtain ⟨later, count⟩ := ih (service.trigger store context schedule).2
        fun other member => unlisted other (.tail _ member)
      rw [triggerLoop_count_cons, none, triggerLoop_cons]
      split
      · exact ⟨same, rfl⟩
      · exact ⟨later.trans same, by rw [count]⟩

/-- The loop submits at most one job for a schedule and then writes its next run. -/
theorem triggerLoop_effect (distinct : (schedules.map ScheduledJob.scheduleId).Nodup)
    (scheduleId : String) :
    ((triggerLoop store context service schedules).2.row store scheduleId =
        service.row store scheduleId ∧
      (triggerLoop store context service schedules).1.count scheduleId = 0) ∨
    ∃ schedule ∈ schedules, schedule.scheduleId = scheduleId ∧ Ready context schedule ∧
      (triggerLoop store context service schedules).1.count scheduleId = 1 ∧
      match schedule.nextRun context.now with
      | .error _ => (triggerLoop store context service schedules).2.row store scheduleId =
          service.row store scheduleId
      | .ok next => ∃ read,
          (triggerLoop store context service schedules).2.row store scheduleId = some read ∧
            read.Same (schedule.triggeredForm context.now next).asDict := by
  induction schedules generalizing service with
  | nil => exact Or.inl ⟨rfl, rfl⟩
  | cons schedule rest ih =>
      rw [List.map_cons, List.nodup_cons] at distinct
      by_cases same : schedule.scheduleId = scheduleId
      · have unlisted : ∀ other ∈ rest, scheduleId ≠ other.scheduleId := by
          intro other member equal
          exact distinct.1 (by rw [same, equal]; exact List.mem_map_of_mem member)
        obtain ⟨later, count⟩ := triggerLoop_unlisted lawful context
          (service.trigger store context schedule).2 rest scheduleId unlisted
        by_cases ready : Ready context schedule
        · obtain ⟨⟨job, submitted⟩, result⟩ := trigger_ready lawful service context schedule ready
          have one : (service.trigger store context schedule).1.count scheduleId = 1 := by
            simp [TriggerReport.count, submitted, same]
          refine Or.inr ⟨schedule, .head _, same, ready, ?_, ?_⟩
          · rw [triggerLoop_count_cons, one]
            split
            · rfl
            · rw [count]
          · cases computed : schedule.nextRun context.now with
            | error error =>
                rw [computed] at result
                rw [triggerLoop_cons, result.1]
                exact congrArg (fun state => store.get state collection scheduleId) result.2
            | ok next =>
                rw [computed] at result
                obtain ⟨read, found, equal⟩ := result.2.written
                rw [triggerLoop_cons, result.1]
                refine ⟨read, ?_, equal⟩
                rw [later]
                exact same ▸ found
        · obtain ⟨submitted, unchanged, _⟩ := trigger_idle store service context schedule ready
          have none : (service.trigger store context schedule).1.count scheduleId = 0 := by
            simp [TriggerReport.count, submitted]
          have sameRow : (service.trigger store context schedule).2.row store scheduleId =
              service.row store scheduleId := by
            rw [row, unchanged, row]
          refine Or.inl ?_
          rw [triggerLoop_count_cons, none, triggerLoop_cons]
          split
          · exact ⟨sameRow, rfl⟩
          · exact ⟨later.trans sameRow, by rw [count]⟩
      · have sameRow := trigger_others lawful service context schedule scheduleId (Ne.symm same)
        have none := trigger_count_others lawful service context schedule scheduleId (Ne.symm same)
        rw [triggerLoop_count_cons, none, triggerLoop_cons]
        split
        · exact Or.inl ⟨sameRow, rfl⟩
        · rw [← sameRow, Nat.zero_add]
          rcases ih (service.trigger store context schedule).2 distinct.2 with
            unchanged | ⟨found, member, effect⟩
          · exact Or.inl unchanged
          · exact Or.inr ⟨found, List.mem_cons_of_mem _ member, effect⟩

end

omit lawful in
/-- Rows that decode to schedules of their own keys decode as a whole. -/
theorem mapM_fromDict (readAt : UtcTime) (pairs : List (String × Json))
    (decodes : ∀ pair ∈ pairs, ∃ schedule, fromDict readAt pair.2 = some schedule ∧
      schedule.scheduleId = pair.1) :
    ∃ listed, (pairs.map Prod.snd).mapM (fromDict readAt) = some listed ∧
      listed.map ScheduledJob.scheduleId = pairs.map Prod.fst ∧
      ∀ schedule ∈ listed, ∃ pair ∈ pairs, pair.1 = schedule.scheduleId ∧
        fromDict readAt pair.2 = some schedule := by
  induction pairs with
  | nil => exact ⟨[], rfl, rfl, by simp⟩
  | cons pair rest ih =>
      obtain ⟨schedule, decoded, sameId⟩ := decodes pair (.head _)
      obtain ⟨listed, rows, ids, sources⟩ := ih fun other member => decodes other (.tail _ member)
      refine ⟨schedule :: listed, ?_, ?_, ?_⟩
      · simp only [List.map_cons, List.mapM_cons, decoded, rows]
        rfl
      · rw [List.map_cons, List.map_cons, sameId, ids]
      · intro found member
        rcases List.mem_cons.mp member with rfl | later
        · exact ⟨pair, .head _, sameId.symm, decoded⟩
        · obtain ⟨source, sourceMember, facts⟩ := sources found later
          exact ⟨source, List.mem_cons_of_mem _ sourceMember, facts⟩

/-- A trigger call goes through schedules with distinct ids and their stored rows. -/
theorem schedules_listed (service : SchedulerService State) (keyed : service.Keyed store)
    (tenantId : Option String) (readAt : UtcTime) :
    ∃ listed, service.schedules store tenantId readAt = some listed ∧
      (listed.map ScheduledJob.scheduleId).Nodup ∧
      ∀ schedule ∈ listed, ∃ stored, service.row store schedule.scheduleId = some stored ∧
        fromDict readAt stored = some schedule := by
  obtain ⟨all, list, increasing, exact⟩ := lawful.list_rows service.persistence collection
  have distinct : (all.map Prod.fst).Nodup := increasing.imp ne_of_lt
  have selected : ∃ pairs : List (String × Json), service.rows store tenantId = pairs.map Prod.snd ∧
      pairs.Sublist all := by
    unfold rows PersistenceStore.listTenant
    rw [list]
    cases tenantId.filter fun tenant => tenant ≠ "" with
    | none => exact ⟨all, rfl, List.Sublist.refl _⟩
    | some tenant =>
        refine ⟨all.filter fun pair => PersistenceStore.hasText pair.2 "tenant_id" tenant, ?_,
          List.filter_sublist⟩
        exact List.filter_map
  obtain ⟨pairs, rows, sublist⟩ := selected
  have stored : ∀ pair ∈ pairs, service.row store pair.1 = some pair.2 :=
    fun pair member => (exact pair).mp (sublist.subset member)
  obtain ⟨listed, decoded, ids, sources⟩ := mapM_fromDict readAt pairs (by
    intro pair member
    obtain ⟨schedule, sameId, same⟩ := keyed pair.1 pair.2 (stored pair member)
    obtain ⟨payload, _, read⟩ := fromDict_of_same readAt schedule pair.2 same
    exact ⟨_, read, sameId⟩)
  refine ⟨listed, by rw [schedules, rows, decoded], ?_, ?_⟩
  · rw [ids]
    exact distinct.sublist (sublist.map Prod.fst)
  · intro schedule member
    obtain ⟨pair, pairMember, sameId, read⟩ := sources schedule member
    exact ⟨pair.2, sameId ▸ stored pair pairMember, read⟩

omit lawful in
/-- A stored schedule reads back up to the order of its payload. -/
theorem get_of_same (service : SchedulerService State) (schedule : ScheduledJob) (stored : Json)
    (readAt : UtcTime) (present : service.row store schedule.scheduleId = some stored)
    (same : stored.Same schedule.asDict) :
    ∃ payload, fromDict readAt stored = some { schedule.reread with payload } ∧
      service.get store schedule.scheduleId readAt =
        .ok (some { schedule.reread with payload }) := by
  obtain ⟨payload, _, read⟩ := fromDict_of_same readAt schedule stored same
  have truthy : stored.truthy = true := Json.truthy_of_same same
  refine ⟨payload, read, ?_⟩
  rw [row] at present
  simp only [get, present, truthy, if_true, read]

/-- A change of the flag writes the stored schedule with the new flag. -/
theorem setEnabled_wrote (service : SchedulerService State) (schedule : ScheduledJob)
    (stored : Json) (enabled : Bool) (readAt : UtcTime)
    (present : service.row store schedule.scheduleId = some stored)
    (same : stored.Same schedule.asDict) :
    ∃ payload updated next, service.setEnabled store schedule.scheduleId enabled readAt =
        .ok (updated, next) ∧
      Wrote store service next { schedule.reread with payload, enabled } := by
  obtain ⟨payload, _, read⟩ := get_of_same service schedule stored readAt present same
  obtain ⟨next, saved, wrote⟩ := save_wrote lawful service
    (if enabled then "runtime.schedule.enabled" else "runtime.schedule.disabled")
    { schedule.reread with payload, enabled }
  have sameSave : service.save store
      (if enabled then "runtime.schedule.enabled" else "runtime.schedule.disabled")
      schedule.scheduleId { schedule.reread with payload, enabled } = .ok next := saved
  refine ⟨payload, { schedule.reread with payload, enabled }, next, ?_, wrote⟩
  simp only [setEnabled, read, bind, Except.bind, sameSave]

section

variable (service : SchedulerService State)

omit lawful in
theorem setEnabled_missing (scheduleId : String)
    (enabled : Bool) (readAt : UtcTime) (absent : service.row store scheduleId = none) :
    service.setEnabled store scheduleId enabled readAt = .error (.keyError scheduleId) := by
  rw [row] at absent
  simp only [setEnabled, get, absent, bind, Except.bind]

theorem create_wrote (schedule prepared : ScheduledJob)
    (now : UtcTime) (accepted : schedule.prepareSchedule now.toDateTime = .ok prepared) :
    ∃ next, service.create store schedule now = .ok (prepared, next) ∧
      Wrote store service next prepared := by
  obtain ⟨next, saved, wrote⟩ := save_wrote lawful service "runtime.schedule.created" prepared
  refine ⟨next, ?_, wrote⟩
  simp only [create, accepted, bind, Except.bind, saved]

/-- Every call keeps each schedule under its own id. -/
theorem step_keyed (call : SchedulerCall)
    (keyed : service.Keyed store) : (service.step store call).2.Keyed store := by
  cases call with
  | create schedule now =>
      cases accepted : schedule.prepareSchedule now.toDateTime with
      | error error =>
          simp only [step, create, accepted, bind, Except.bind]
          exact keyed
      | ok prepared =>
          obtain ⟨next, created, wrote⟩ := create_wrote lawful service schedule prepared now accepted
          simp only [step, created]
          exact wrote.keyed keyed
  | setEnabled scheduleId enabled readAt =>
      cases present : service.row store scheduleId with
      | none =>
          simp only [step, setEnabled_missing service scheduleId enabled readAt present]
          exact keyed
      | some stored =>
          obtain ⟨schedule, rfl, same⟩ := keyed scheduleId stored present
          obtain ⟨payload, updated, next, changed, wrote⟩ :=
            setEnabled_wrote lawful service schedule stored enabled readAt present same
          simp only [step, changed]
          exact wrote.keyed keyed
  | triggerDue tenantId context =>
      simp only [step, triggerDue]
      split
      · exact keyed
      · exact triggerLoop_keyed lawful context service _ keyed

end

theorem reached_keyed (calls : List SchedulerCall) : (reached store calls).Keyed store :=
  run_invariant (step store) (Keyed store) (step_keyed lawful) (initial store) calls (by
    intro scheduleId stored present
    rw [row, initial, lawful.get_initial] at present
    cases present)

end SchedulerService

/-- The call creates a schedule with the given id. -/
def SchedulerCall.creates : SchedulerCall → Prop
  | .create schedule _ => schedule.scheduleId = scheduleId
  | _ => False

/-- The scheduler together with all submissions since a fixed call. -/
structure TriggerHistory (State : Type) where
  service : SchedulerService State
  submitted : List (String × RuntimeJob)

namespace TriggerHistory

variable {State : Type} (store : PersistenceStore State) (history : TriggerHistory State)
  (call : SchedulerCall)

/-- One call adds its submissions to the history. -/
def step : TriggerReport × TriggerHistory State :=
  ((history.service.step store call).1,
    ⟨(history.service.step store call).2,
      history.submitted ++ (history.service.step store call).1.submitted⟩)

variable (scheduleId : String)

/-- The number of jobs submitted for one schedule. -/
def count : Nat :=
  history.submitted.countP fun submission => submission.1 = scheduleId

theorem step_count :
    (history.step store call).2.count scheduleId =
      history.count scheduleId + (history.service.step store call).1.count scheduleId := by
  simp [count, step, TriggerReport.count, List.countP_append]

end TriggerHistory

namespace SchedulerService

variable {State : Type} {store : PersistenceStore State} (lawful : store.Lawful)

/-- The stored schedule is not recurring and has the given next run. -/
def Waits (store : PersistenceStore State) (scheduleId : String) (nextRunAt : Option DateTime)
    (service : SchedulerService State) : Prop :=
  ∃ (schedule : ScheduledJob) (stored : Json), schedule.scheduleId = scheduleId ∧
    service.row store scheduleId = some stored ∧ stored.Same schedule.asDict ∧
    schedule.scheduleType ≠ "recurring" ∧ schedule.nextRunAt = nextRunAt

variable {schedule : ScheduledJob}

section

variable {service next : SchedulerService State} (wrote : Wrote store service next schedule)
include wrote

theorem Wrote.waits (oneTime : schedule.scheduleType ≠ "recurring") :
    next.Waits store schedule.scheduleId schedule.nextRunAt := by
  obtain ⟨read, present, same⟩ := wrote.written
  exact ⟨schedule, read, rfl, present, same, oneTime, rfl⟩

theorem Wrote.waits_other (scheduleId : String)
    (nextRunAt : Option DateTime) (different : scheduleId ≠ schedule.scheduleId)
    (waits : service.Waits store scheduleId nextRunAt) : next.Waits store scheduleId nextRunAt := by
  obtain ⟨stored, row, sameId, present, facts⟩ := waits
  exact ⟨stored, row, sameId, (wrote.others scheduleId different).trans present, facts⟩

end

include lawful

variable (service : SchedulerService State)

/-- A trigger call either leaves the schedule waiting or submits its job once and retires it. -/
theorem triggerDue_waits (keyed : service.Keyed store)
    (tenantId : Option String) (context : TriggerContext) (scheduleId : String)
    (nextRunAt : Option DateTime) (waits : service.Waits store scheduleId nextRunAt) :
    ((service.triggerDue store tenantId context).1.count scheduleId = 0 ∧
      (service.triggerDue store tenantId context).2.Waits store scheduleId nextRunAt) ∨
    ((service.triggerDue store tenantId context).1.count scheduleId = 1 ∧
      (service.triggerDue store tenantId context).2.Waits store scheduleId none ∧
      (∃ runAt, nextRunAt = some runAt ∧ runAt.later? context.now = some false) ∧
      ∃ current, service.get store scheduleId context.readAt = .ok (some current) ∧
        current.enabled = true) := by
  obtain ⟨listed, schedules, distinct, sources⟩ :=
    schedules_listed lawful service keyed tenantId context.readAt
  obtain ⟨schedule, stored, rfl, present, same, oneTime, rfl⟩ := waits
  simp only [triggerDue, schedules]
  rcases triggerLoop_effect lawful context service listed distinct schedule.scheduleId with
    ⟨unchanged, none⟩ | ⟨found, member, sameId, ready, one, result⟩
  · exact Or.inl ⟨none, schedule, stored, rfl, unchanged.trans present, same, oneTime, rfl⟩
  · refine Or.inr ⟨one, ?_⟩
    obtain ⟨source, sourcePresent, decoded⟩ := sources found member
    obtain ⟨payload, read, current⟩ :=
      get_of_same service schedule stored context.readAt present same
    rw [sameId, present, Option.some.injEq] at sourcePresent
    rw [← sourcePresent, read, Option.some.injEq] at decoded
    have sameType : found.scheduleType = schedule.scheduleType := by rw [← decoded]; rfl
    have sameNext : found.nextRunAt = schedule.nextRunAt := by rw [← decoded]; rfl
    rw [decoded] at current
    rw [found.nextRun_oneTime context.now (sameType ▸ oneTime)] at result
    obtain ⟨written, foundRow, equal⟩ := result
    obtain ⟨enabled, runAt, next, reached⟩ := found.isDue_true context.now ready.1
    exact ⟨⟨found.triggeredForm context.now none, written, sameId, foundRow, equal,
      sameType ▸ oneTime, rfl⟩, ⟨runAt, sameNext ▸ next, reached⟩, found, current, enabled⟩

/-- A call that does not create the schedule again keeps it waiting or retires it. -/
theorem step_waits (keyed : service.Keyed store)
    (call : SchedulerCall) (scheduleId : String) (nextRunAt : Option DateTime)
    (waits : service.Waits store scheduleId nextRunAt) (other : ¬ call.creates scheduleId) :
    ((service.step store call).1.count scheduleId = 0 ∧
      (service.step store call).2.Waits store scheduleId nextRunAt) ∨
    ((service.step store call).1.count scheduleId = 1 ∧
      (service.step store call).2.Waits store scheduleId none ∧ nextRunAt ≠ none) := by
  cases call with
  | create schedule now =>
      cases accepted : schedule.prepareSchedule now.toDateTime with
      | error error =>
          simp only [step, create, accepted, bind, Except.bind]
          exact Or.inl ⟨rfl, waits⟩
      | ok prepared =>
          obtain ⟨next, created, wrote⟩ := create_wrote lawful service schedule prepared now accepted
          have sameId := schedule.prepareSchedule_scheduleId now.toDateTime prepared accepted
          simp only [step, created]
          exact Or.inl ⟨rfl, wrote.waits_other scheduleId nextRunAt
            (fun same => other (sameId.symm.trans same.symm)) waits⟩
  | setEnabled changedId enabled readAt =>
      refine Or.inl ?_
      cases present : service.row store changedId with
      | none =>
          simp only [step, setEnabled_missing service changedId enabled readAt present]
          exact ⟨rfl, waits⟩
      | some stored =>
          by_cases sameId : scheduleId = changedId
          · subst sameId
            obtain ⟨schedule, row, rfl, found, same, oneTime, rfl⟩ := waits
            obtain ⟨payload, updated, next, changed, wrote⟩ :=
              setEnabled_wrote lawful service schedule row enabled readAt found same
            simp only [step, changed]
            exact ⟨rfl, wrote.waits oneTime⟩
          · obtain ⟨schedule, rfl, same⟩ := keyed changedId stored present
            obtain ⟨payload, updated, next, changed, wrote⟩ :=
              setEnabled_wrote lawful service schedule stored enabled readAt present same
            simp only [step, changed]
            exact ⟨rfl, wrote.waits_other scheduleId nextRunAt sameId waits⟩
  | triggerDue tenantId context =>
      rcases triggerDue_waits lawful service keyed tenantId context scheduleId nextRunAt waits with
        waiting | ⟨one, retired, ⟨runAt, next, _⟩, _⟩
      · exact Or.inl waiting
      · exact Or.inr ⟨one, retired, by simp [next]⟩

omit lawful in
/-- A schedule that is not recurring is always accepted with its own run time. -/
theorem prepareSchedule_oneTime (schedule : ScheduledJob) (now : DateTime)
    (oneTime : schedule.scheduleType ≠ "recurring") :
    schedule.prepareSchedule now = .ok { schedule with nextRunAt := schedule.runAt } := by
  rw [prepareSchedule, if_neg oneTime]

/-- A created schedule waits for its run time. -/
theorem create_waits (schedule : ScheduledJob) (now : UtcTime)
    (oneTime : schedule.scheduleType ≠ "recurring") :
    (service.step store (.create schedule now)).2.Waits store schedule.scheduleId
      schedule.runAt := by
  obtain ⟨next, created, wrote⟩ := create_wrote lawful service schedule _ now
    (prepareSchedule_oneTime schedule now.toDateTime oneTime)
  simp only [step, created]
  exact wrote.waits oneTime

end SchedulerService

namespace TriggerHistory

variable {State : Type} {store : PersistenceStore State}

/-- The schedule still waits for its first run or has submitted its only job. -/
structure Once (store : PersistenceStore State) (scheduleId : String) (runAt : Option DateTime)
    (history : TriggerHistory State) : Prop where
  keyed : history.service.Keyed store
  waits : (history.service.Waits store scheduleId runAt ∧ history.count scheduleId = 0) ∨
    history.service.Waits store scheduleId none ∧ history.count scheduleId ≤ 1

theorem step_once (lawful : store.Lawful) (scheduleId : String) (runAt : Option DateTime)
    (history : TriggerHistory State) (call : SchedulerCall)
    (once : history.Once store scheduleId runAt) (other : ¬ call.creates scheduleId) :
    (history.step store call).2.Once store scheduleId runAt := by
  refine ⟨step_keyed lawful history.service call once.keyed, ?_⟩
  rw [step_count]
  rcases once.waits with ⟨waits, none⟩ | ⟨retired, one⟩
  · rcases step_waits lawful history.service once.keyed call scheduleId runAt waits
        other with ⟨count, still⟩ | ⟨count, retired, _⟩
    · exact Or.inl ⟨still, by rw [none, count]⟩
    · exact Or.inr ⟨retired, by rw [none, count]⟩
  · rcases step_waits lawful history.service once.keyed call scheduleId _ retired
        other with ⟨count, still⟩ | ⟨_, _, waiting⟩
    · exact Or.inr ⟨still, by rw [count]; exact one⟩
    · exact absurd rfl waiting

/-- A schedule that is not recurring submits at most one job, when it is enabled and due. -/
theorem created_submits_once (lawful : store.Lawful) (before after : List SchedulerCall)
    (schedule : ScheduledJob) (now : UtcTime) (oneTime : schedule.scheduleType ≠ "recurring")
    (others : ∀ call ∈ after, ¬ call.creates schedule.scheduleId) :
    (run (step store) ⟨reached store (before ++ [.create schedule now]), []⟩
        after).count schedule.scheduleId ≤ 1 ∧
    ∀ first tenantId context last, after = first ++ .triggerDue tenantId context :: last →
      0 < ((run (step store) ⟨reached store (before ++ [.create schedule now]), []⟩
        first).service.triggerDue store tenantId context).1.count schedule.scheduleId →
      (∃ runAt, schedule.runAt = some runAt ∧ runAt.later? context.now = some false) ∧
      (∃ current, (run (step store) ⟨reached store (before ++ [.create schedule now]), []⟩
          first).service.get store schedule.scheduleId context.readAt = .ok (some current) ∧
        current.enabled = true) ∧
      (run (step store) ⟨reached store (before ++ [.create schedule now]), []⟩
        first).count schedule.scheduleId = 0 := by
  have start : Once store schedule.scheduleId schedule.runAt
      ⟨reached store (before ++ [.create schedule now]), []⟩ := by
    refine ⟨reached_keyed lawful _, Or.inl ⟨?_, rfl⟩⟩
    rw [reached, run_append]
    exact create_waits lawful _ schedule now oneTime
  have reachedOnce (calls : List SchedulerCall)
      (fresh : ∀ call ∈ calls, ¬ call.creates schedule.scheduleId) :=
    run_invariant_of_guarded (step store) (fun _ call => ¬ call.creates schedule.scheduleId)
      (Once store schedule.scheduleId schedule.runAt)
      (fun history call once other => step_once lawful _ _ history call once other) _ calls start
      (guarded_of_forall (step store) _ _ calls fresh)
  constructor
  · rcases (reachedOnce after others).waits with ⟨_, none⟩ | ⟨_, one⟩
    · omega
    · exact one
  · rintro first tenantId context last rfl submitted
    have once := reachedOnce first fun call member => others call (List.mem_append_left _ member)
    rcases once.waits with ⟨waits, none⟩ | ⟨retired, _⟩
    · rcases triggerDue_waits lawful _ once.keyed tenantId context _ _ waits with
        ⟨count, _⟩ | ⟨_, _, due, current⟩
      · omega
      · exact ⟨due, current, none⟩
    · rcases triggerDue_waits lawful _ once.keyed tenantId context _ _ retired with
        ⟨count, _⟩ | ⟨_, _, ⟨runAt, impossible, _⟩, _⟩
      · omega
      · cases impossible

theorem created_submits_once_again :
    (run (step backend) ⟨reached backend ([] ++ [.create (agentSchedule "schedule-1") .first]), []⟩
        [.triggerDue none firstTrigger, .setEnabled "schedule-1" true .first,
          .triggerDue none firstTrigger]).count "schedule-1" ≤ 1 :=
  (created_submits_once backend_lawful [] [.triggerDue none firstTrigger,
    .setEnabled "schedule-1" true .first, .triggerDue none firstTrigger]
    (agentSchedule "schedule-1") .first (by decide) (by simp [SchedulerCall.creates])).1

end TriggerHistory

namespace SchedulerService

variable {State : Type} {store : PersistenceStore State} (lawful : store.Lawful)

include lawful

/-- A round submits a job for its own schedule exactly when the schedule is ready. -/
theorem trigger_count_self (service : SchedulerService State) (context : TriggerContext)
    (schedule : ScheduledJob) :
    0 < (service.trigger store context schedule).1.count schedule.scheduleId ↔
      Ready context schedule := by
  unfold TriggerReport.count
  by_cases ready : Ready context schedule
  · obtain ⟨job, submitted⟩ := (trigger_ready lawful service context schedule ready).1
    simp [submitted, ready]
  · simp [(trigger_idle store service context schedule ready).1, ready]

/-- The loop reaches every ready schedule exactly when none before it raises. -/
theorem triggerLoop_submits_iff (context : TriggerContext) (service : SchedulerService State)
    (schedules : List ScheduledJob) (distinct : (schedules.map ScheduledJob.scheduleId).Nodup) :
    (∀ schedule ∈ schedules, Ready context schedule →
      0 < (triggerLoop store context service schedules).1.count schedule.scheduleId) ↔
    schedules.Pairwise fun earlier later => Ready context later → ¬ Raises context earlier := by
  induction schedules generalizing service with
  | nil => simp
  | cons schedule rest ih =>
      rw [List.map_cons, List.nodup_cons] at distinct
      have apart : ∀ later ∈ rest, later.scheduleId ≠ schedule.scheduleId := by
        intro later member same
        exact distinct.1 (same ▸ List.mem_map_of_mem member)
      have self := trigger_count_self lawful service context schedule
      have outcome := trigger_outcome lawful service context schedule
      simp only [List.forall_mem_cons, List.pairwise_cons, triggerLoop_count_cons]
      by_cases raises : Raises context schedule
      · have failed : ∃ error,
            (service.trigger store context schedule).1.outcome = .error error := by
          cases result : (service.trigger store context schedule).1.outcome with
          | error error => exact ⟨error, rfl⟩
          | ok _ => exact absurd raises (outcome.mp result)
        obtain ⟨error, failed⟩ := failed
        have skipped : ∀ later ∈ rest,
            (service.trigger store context schedule).1.count later.scheduleId = 0 :=
          fun later member =>
            trigger_count_others lawful service context schedule _ (apart later member)
        rw [failed]
        constructor
        · rintro ⟨_, all⟩
          have idle : ∀ later ∈ rest, ¬ Ready context later := by
            intro later member ready
            have submitted := all later member ready
            rw [skipped later member] at submitted
            exact absurd submitted (by simp)
          exact ⟨fun later member ready => absurd ready (idle later member),
            List.pairwise_of_forall_mem_list fun _ _ later member ready =>
              absurd ready (idle later member)⟩
        · rintro ⟨head, _⟩
          exact ⟨fun ready => Nat.add_pos_left (self.mpr ready) _,
            fun later member ready => absurd raises (head later member ready)⟩
      · have passed := outcome.mpr raises
        rw [passed]
        have step := ih (service.trigger store context schedule).2 distinct.2
        constructor
        · rintro ⟨_, all⟩
          refine ⟨fun _ _ _ => raises, step.mp fun later member ready => ?_⟩
          have submitted := all later member ready
          rwa [trigger_count_others lawful service context schedule _ (apart later member),
            Nat.zero_add] at submitted
        · rintro ⟨_, ordered⟩
          refine ⟨fun ready => Nat.add_pos_left (self.mpr ready) _, fun later member ready => ?_⟩
          exact Nat.add_pos_right _ (step.mpr ordered later member ready)

/-- A trigger call submits every ready schedule exactly when no raising schedule precedes one. -/
theorem reached_independent_iff (calls : List SchedulerCall) (tenantId : Option String)
    (context : TriggerContext) :
    ∃ listed, (reached store calls).schedules store tenantId context.readAt = some listed ∧
      ((∀ schedule ∈ listed, Ready context schedule →
        0 < ((reached store calls).triggerDue store tenantId context).1.count schedule.scheduleId) ↔
      listed.Pairwise fun earlier later => Ready context later → ¬ Raises context earlier) := by
  obtain ⟨listed, schedules, distinct, _⟩ := schedules_listed lawful (reached store calls)
    (reached_keyed lawful calls) tenantId context.readAt
  refine ⟨listed, schedules, ?_⟩
  rw [triggerDue, schedules]
  exact triggerLoop_submits_iff lawful context (reached store calls) listed distinct

omit lawful in
/-- Two schedules in the memory store meet the condition when both are valid. -/
theorem reached_independent_valid :
    ∃ listed, (reached backend
        [.create (agentSchedule "schedule-a") .first,
          .create (agentSchedule "schedule-b") .first]).schedules backend
            none UtcTime.first = some listed ∧
      ((∀ schedule ∈ listed, Ready firstTrigger schedule →
        0 < ((reached backend
          [.create (agentSchedule "schedule-a") .first,
            .create (agentSchedule "schedule-b") .first]).triggerDue backend
              none firstTrigger).1.count schedule.scheduleId) ↔
      listed.Pairwise fun earlier later => Ready firstTrigger later → ¬ Raises firstTrigger earlier) :=
  reached_independent_iff backend_lawful _ none firstTrigger

/-- A schedule with an unknown job type. -/
def unknownSchedule (scheduleId : String) : ScheduledJob :=
  { agentSchedule scheduleId with jobType := "unknown" }

omit lawful in
/-- An invalid job keeps a later ready schedule from being triggered in this and the next call. -/
theorem invalid_schedule_blocks :
    (∃ schedule, (reached backend
        [.create (unknownSchedule "schedule-a") .first,
          .create (agentSchedule "schedule-b") .first]).get backend
            "schedule-b" .first = .ok (some schedule) ∧ Ready firstTrigger schedule) ∧
      ((reached backend
        [.create (unknownSchedule "schedule-a") .first,
          .create (agentSchedule "schedule-b") .first]).triggerDue backend
            none firstTrigger).1.count "schedule-b" = 0 ∧
      ((reached backend
        [.create (unknownSchedule "schedule-a") .first,
          .create (agentSchedule "schedule-b") .first,
          .triggerDue none firstTrigger]).triggerDue backend
            none firstTrigger).1.count "schedule-b" = 0 :=
  ⟨⟨_, rfl, rfl, rfl⟩, rfl, rfl⟩

end SchedulerService

end AgentFabric.Cloud
