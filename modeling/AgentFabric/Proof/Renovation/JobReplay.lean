import AgentFabric.Construction.Renovation.FoundationService

namespace AgentFabric.Renovation

/-- The collections of the jobs, the change orders, the schedules and the leads. -/
structure FoundationTables where
  jobs : Dict String (Record JobInputs AcceptedJob)
  changeOrders : Dict String (Record ChangeOrderPayload ChangeOrder)
  schedules : Dict String (Record SchedulePayload Schedule)
  leads : Dict String (Record LeadInputs Lead)

namespace FoundationState

def tables (state : FoundationState) : FoundationTables where
  jobs := state.jobs
  changeOrders := state.changeOrders
  schedules := state.schedules
  leads := state.leads

variable (sources : FoundationSources) (state : FoundationState)

/-- What an accepted call does to the collections, and that a refused call does nothing. -/
inductive Changes : FoundationCall → Except PyError FoundationAnswer → FoundationState → Prop
  | refused (call : FoundationCall) (error : PyError) : Changes call (.error error) state
  | createdJob {context : TenantContext} {payload : JobPayload} {job : AcceptedJob}
      {after : FoundationState} (made : newJob sources context payload = .ok job)
      (stored : after.tables = { state.tables with
        jobs := state.jobs.set job.jobId (.new context ⟨payload, none⟩ job) }) :
      Changes (.createJob context payload) (.ok (.job job)) after
  | updatedJob {context : TenantContext} {jobId : String} {payload : JobUpdate}
      {record : Record JobInputs AcceptedJob} {after : FoundationState}
      (made : updatedJob state context jobId payload = .ok record)
      (stored : after.tables = { state.tables with jobs := state.jobs.set jobId record }) :
      Changes (.updateJob context jobId payload) (.ok (.job record.artifact)) after
  | createdChangeOrder {context : TenantContext} {payload : ChangeOrderPayload}
      {order : ChangeOrder} {after : FoundationState}
      (made : newChangeOrder sources state context payload = .ok order)
      (stored : after.tables = { state.tables with
        changeOrders := state.changeOrders.set order.changeOrderId (.new context payload order) }) :
      Changes (.createChangeOrder context payload) (.ok (.changeOrder order)) after
  | decidedChangeOrder {context : TenantContext} {changeOrderId decision : String}
      {payload : DecisionPayload} {record : Record ChangeOrderPayload ChangeOrder}
      {after : FoundationState}
      (made : decidedChangeOrder sources state context changeOrderId decision payload = .ok record)
      (stored : after.tables = { state.tables with
        changeOrders := state.changeOrders.set changeOrderId record }) :
      Changes (.decideChangeOrder context changeOrderId decision payload)
        (.ok (.changeOrder record.artifact)) after
  | createdSchedule {context : TenantContext} {payload : SchedulePayload} {schedule : Schedule}
      {after : FoundationState} (made : newSchedule sources state context payload = .ok schedule)
      (stored : after.tables = { state.tables with
        schedules := state.schedules.set schedule.scheduleId (.new context payload schedule) }) :
      Changes (.createSchedule context payload) (.ok (.schedule schedule)) after
  | recalculatedSchedule {context : TenantContext} {scheduleId : String}
      {inputs : RecalculationInputs} {payload : SchedulePayload}
      {record : Record SchedulePayload Schedule} {after : FoundationState}
      (made : recalculatedSchedule sources state context scheduleId inputs payload = .ok record)
      (stored : after.tables = { state.tables with
        schedules := state.schedules.set scheduleId record }) :
      Changes (.recalculateSchedule context scheduleId inputs payload)
        (.ok (.schedule record.artifact)) after
  | createdLead {context : TenantContext} {payload : LeadPayload} {lead : Lead}
      {after : FoundationState}
      (made : LeadService.create sources.sha256 context.tenantId payload = .ok lead)
      (stored : after.tables = { state.tables with
        leads := state.leads.set lead.leadId (.new context ⟨payload, [], none⟩ lead) }) :
      Changes (.createLead context payload) (.ok (.lead lead)) after
  | updatedLead {context : TenantContext} {leadId : String} {payload : LeadUpdate} {lead : Lead}
      {record : Record LeadInputs Lead} {after : FoundationState}
      (made : updatedLead state context leadId payload = .ok (lead, record))
      (stored : after.tables = { state.tables with leads := state.leads.set leadId record }) :
      Changes (.updateLead context leadId payload) (.ok (.lead record.artifact)) after
  | convertedLead {context : TenantContext} {leadId : String} {payload : LeadConversion}
      {customer : Customer} {record : Record LeadInputs Lead} {after : FoundationState}
      (made : convertedLead sources state context leadId payload = .ok (customer, record))
      (stored : after.tables = { state.tables with leads := state.leads.set leadId record }) :
      Changes (.convertLead context leadId payload) (.ok (.customer customer)) after

section Decisions

variable {sources state} {context : TenantContext} {changeOrderId decision : String}
  {payload : DecisionPayload} {record : Record ChangeOrderPayload ChangeOrder}

/-- A decision is taken on a sent order and adds its approval. -/
theorem decide_eq_ok {tools : ChangeOrderTools} {sha256 : String → String}
    {order updated : ChangeOrder} {decisionDate decidedBy reason : String}
    (made : ChangeOrderService.decide tools sha256 order decision decisionDate decidedBy reason =
      .ok updated) :
    order.status = "sent" ∧ decision ∈ ChangeOrderService.decisions ∧ updated.status = decision ∧
      ∃ approval, updated.approvalHistory = order.approvalHistory ++ [approval] := by
  unfold ChangeOrderService.decide at made
  split at made
  · cases made
  · rename_i sent
    split at made
    · cases made
    · rename_i allowed
      obtain ⟨template, _, made⟩ := bind_eq_ok_iff.mp made
      cases made
      exact ⟨not_not.mp sent, not_not.mp allowed, rfl, _, rfl⟩

theorem decidedChangeOrder_eq_ok
    (made : decidedChangeOrder sources state context changeOrderId decision payload = .ok record) :
    ∃ stored, state.changeOrders.get? changeOrderId = some stored ∧
      stored.artifact.status = "sent" ∧ decision ∈ ChangeOrderService.decisions ∧
        record.artifact.status = decision ∧
          ∃ approval, record.artifact.approvalHistory = stored.artifact.approvalHistory ++
            [approval] := by
  obtain ⟨stored, read, made⟩ := bind_eq_ok_iff.mp made
  obtain ⟨updated, decided, made⟩ := bind_eq_ok_iff.mp made
  obtain ⟨_, found, _⟩ := tenantRecord_eq_ok_iff.mp read
  obtain ⟨sent, allowed, status, approval, history⟩ := decide_eq_ok decided
  cases made
  exact ⟨stored, found, sent, allowed, status, approval, history⟩

end Decisions

theorem storeImpact_tables (context : TenantContext) (schedule : Schedule)
    (impacts : List DelayImpact) (state : FoundationState) :
    (impacts.foldl (storeImpact context schedule) state).tables = state.tables := by
  induction impacts generalizing state with
  | nil => rfl
  | cons impact rest ih => exact ih (storeImpact context schedule state impact)

theorem step_changes (call : FoundationCall) :
    Changes sources state call (step sources state call).1 (step sources state call).2 := by
  cases call with
  | createJob context payload =>
      simp only [step, createJob]
      split
      · exact .refused _ _
      · rename_i job made
        exact .createdJob made rfl
  | updateJob context jobId payload =>
      simp only [step, updateJob]
      split
      · exact .refused _ _
      · rename_i record made
        exact .updatedJob made rfl
  | createChangeOrder context payload =>
      simp only [step, createChangeOrder]
      split
      · exact .refused _ _
      · rename_i order made
        exact .createdChangeOrder made rfl
  | decideChangeOrder context changeOrderId decision payload =>
      simp only [step, decideChangeOrder]
      split
      · exact .refused _ _
      · rename_i record made
        obtain ⟨_, _, _, _, _, approval, history⟩ := decidedChangeOrder_eq_ok made
        rw [history, List.getLast?_concat]
        exact .decidedChangeOrder made rfl
  | createSchedule context payload =>
      simp only [step, createSchedule]
      split
      · exact .refused _ _
      · rename_i schedule made
        exact .createdSchedule made rfl
  | recalculateSchedule context scheduleId inputs payload =>
      simp only [step, recalculateSchedule]
      split
      · exact .refused _ _
      · rename_i record made
        exact .recalculatedSchedule made (storeImpact_tables _ _ _ _)
  | createLead context payload =>
      simp only [step, createLead]
      split
      · exact .refused _ _
      · rename_i lead made
        exact .createdLead made rfl
  | updateLead context leadId payload =>
      simp only [step, updateLead]
      split
      · exact .refused _ _
      · rename_i lead record made
        exact .updatedLead made rfl
  | convertLead context leadId payload =>
      simp only [step, convertLead]
      split
      · exact .refused _ _
      · rename_i customer record made
        exact .convertedLead made rfl

section Example

/-- The proposal of a kitchen in two phases. -/
def kitchenProposal : Proposal where
  proposalId := "proposal-1"
  tenantId := "tenant-a"
  projectId := "project-1"
  title := "Kitchen"
  estimateId := "estimate-1"
  estimate := .obj []
  timeline := [⟨"Demolition", 3, 1⟩, ⟨"Cabinets", 5, 2⟩]
  templateId := "proposal_standard"

def ofTenant {Artifact : Type} (artifact : Artifact) : Record Json Artifact :=
  ⟨"tenant-a", "org-a", "clerk", .obj [], artifact⟩

/-- A price that names no amount but zero. -/
def freePrice : ChangeOrderPrice := ⟨[], Money.repr 0, Money.repr 0, Money.repr 0, Money.repr 0,
  Money.repr 0, Money.repr 0, Money.repr 0, Money.repr 0⟩

/-- The sources of the kitchen, whose digest is the one of the identity of its job. -/
def kitchenSources : FoundationSources where
  proposals := Dict.empty.set "proposal-1" (ofTenant kitchenProposal)
  estimates := Dict.empty.set "estimate-1" (ofTenant (.obj []))
  noteJobs := Dict.empty
  tools := {
    price := fun _ _ _ => .ok freePrice
    loadTemplate := fun name => .ok ⟨name, "1", []⟩
    render := fun _ _ => "" }
  interpreter := ⟨fun _ => true, fun _ => 0, fun _ => true⟩
  sha256 := fun _ => "10035f6952af7d634f1c68ed55cc19a93a3f2c01253524081de7f62f951b1eee"

/-- The office of the tenant. -/
def kitchenOffice : TenantContext := ⟨"tenant-a", "org-a", "clerk"⟩

/-- The kitchen is accepted. -/
def kitchenJob : FoundationCall :=
  .createJob kitchenOffice ⟨"proposal-1", true, "2026-03-02", "ACC-1", none⟩

def kitchenJobId : String := "job-10035f6952af7d634f1c"

end Example

end FoundationState

open PartialUpdates Transition

namespace JobService

/-- The phase with the status that an update gives. -/
def givenPhase (update : JobUpdate) (phase : JobPhase) : JobPhase :=
  { phase with status := (update.phaseStatus phase.phaseId).getD phase.status }

/-- The job with the values that an update gives. -/
def given (update : JobUpdate) (job : AcceptedJob) : AcceptedJob :=
  { job with
    status := update.status.getD job.status
    currentPhase := update.currentPhase.getD job.currentPhase
    phases := job.phases.map (givenPhase update) }

variable (updates : List JobUpdate)

/-- The phase with the last status that a history of updates gives. -/
def phaseAfter (phase : JobPhase) : JobPhase :=
  { phase with status := latest (JobUpdate.phaseStatus phase.phaseId) updates phase.status }

variable (job : AcceptedJob)

/-- The job with the last values that a history of updates gives. -/
def after : AcceptedJob :=
  { job with
    status := latest JobUpdate.status updates job.status
    currentPhase := latest JobUpdate.currentPhase updates job.currentPhase
    phases := job.phases.map (phaseAfter updates) }

/-- The values that an update may leave. -/
structure Valid (job : AcceptedJob) : Prop where
  status : job.status ∈ jobStatuses
  currentPhase : job.currentPhase ≠ "" → job.currentPhase ∈ job.phases.map JobPhase.phaseId
  phases : ∀ phase ∈ job.phases, phase.status ∈ phaseStatuses

theorem phases_eq_ok_iff (update : JobUpdate) (phases result : List JobPhase) :
    phases.mapM (updatePhase update) = .ok result ↔
      result = phases.map (givenPhase update) ∧ ∀ phase ∈ result, phase.status ∈ phaseStatuses := by
  induction phases generalizing result with
  | nil =>
      rw [List.mapM_nil]
      constructor
      · intro returned
        cases returned
        exact ⟨rfl, fun phase listed => by cases listed⟩
      · rintro ⟨rfl, _⟩
        rfl
  | cons phase rest ih =>
      rw [List.mapM_cons, bind_eq_ok_iff]
      constructor
      · rintro ⟨first, updated, remaining⟩
        obtain ⟨others, mapped, returned⟩ := bind_eq_ok_iff.mp remaining
        obtain ⟨rfl, valid⟩ := (ih others).mp mapped
        cases returned
        unfold updatePhase at updated
        dsimp only at updated
        split at updated
        · cases updated
        · rename_i allowed
          cases updated
          refine ⟨rfl, fun other listed => ?_⟩
          rcases List.mem_cons.mp listed with rfl | later
          · exact not_not.mp allowed
          · exact valid other later
      · rintro ⟨rfl, valid⟩
        refine ⟨givenPhase update phase, ?_, bind_eq_ok_iff.mpr
          ⟨rest.map (givenPhase update), (ih _).mpr ⟨rfl, ?_⟩, rfl⟩⟩
        · exact if_neg (not_not.mpr (valid _ (.head _)))
        · exact fun other listed => valid other (.tail _ listed)

/-- An update returns the values that it gives when they are valid. -/
theorem update_eq_ok_iff (job result : AcceptedJob) (payload : JobUpdate) :
    update job payload = .ok result ↔ result = given payload job ∧ Valid result := by
  have ids : (job.phases.map (givenPhase payload)).map JobPhase.phaseId =
      job.phases.map JobPhase.phaseId := by
    rw [List.map_map]
    rfl
  unfold update
  constructor
  · intro returned
    dsimp only at returned
    split at returned
    · cases returned
    · rename_i status
      split at returned
      · cases returned
      · rename_i currentPhase
        obtain ⟨phases, mapped, returned⟩ := bind_eq_ok_iff.mp returned
        obtain ⟨rfl, valid⟩ := (phases_eq_ok_iff _ _ _).mp mapped
        cases returned
        refine ⟨rfl, not_not.mp status, fun named => ?_, valid⟩
        rw [not_and, not_not] at currentPhase
        exact ids ▸ currentPhase named
  · rintro ⟨rfl, valid⟩
    have status : payload.status.getD job.status ∈ jobStatuses := valid.status
    have currentPhase : ¬ (payload.currentPhase.getD job.currentPhase ≠ "" ∧
        payload.currentPhase.getD job.currentPhase ∉ job.phases.map JobPhase.phaseId) := by
      rintro ⟨named, missing⟩
      exact missing (ids ▸ valid.currentPhase named)
    rw [if_neg (not_not.mpr status), if_neg currentPhase]
    exact bind_eq_ok_iff.mpr ⟨_, (phases_eq_ok_iff _ _ _).mpr ⟨rfl, valid.phases⟩, rfl⟩

theorem given_of_isEmpty {update : JobUpdate} (empty : update.isEmpty = true)
    (job : AcceptedJob) : given update job = job := by
  obtain ⟨status, currentPhase, phaseStatus⟩ := JobUpdate.none_of_isEmpty empty
  have phases : job.phases.map (givenPhase update) = job.phases := by
    refine List.map_id'' (fun phase => ?_) _
    rw [givenPhase, phaseStatus]
    rfl
  unfold given
  rw [status, currentPhase, phases]
  rfl

theorem after_nil : after [] job = job := by
  show { job with phases := job.phases.map (phaseAfter []) } = job
  have same : phaseAfter [] = id := rfl
  rw [same, List.map_id]

theorem given_after (final : JobUpdate) (job : AcceptedJob) :
    given final (after updates job) = after (updates ++ [final]) job := by
  have phases : (job.phases.map (phaseAfter updates)).map (givenPhase final) =
      job.phases.map (phaseAfter (updates ++ [final])) := by
    rw [List.map_map]
    refine List.map_congr_left fun phase _ => ?_
    simp only [Function.comp, givenPhase, phaseAfter, latest_append_singleton]
  unfold given after
  rw [latest_append_singleton, latest_append_singleton, ← phases]

/-- What the earlier updates gave, the last one gives again, or it is what the job began with. -/
structure Covers (final : JobUpdate) (earlier : List JobUpdate) (created : AcceptedJob) : Prop where
  status : final.status = none → latest JobUpdate.status earlier created.status = created.status
  currentPhase : final.currentPhase = none →
    latest JobUpdate.currentPhase earlier created.currentPhase = created.currentPhase
  phases : ∀ phase ∈ created.phases, final.phaseStatus phase.phaseId = none →
    latest (JobUpdate.phaseStatus phase.phaseId) earlier phase.status = phase.status

theorem given_eq_after_iff (earlier : List JobUpdate) (final : JobUpdate) (created : AcceptedJob) :
    given final created = after (earlier ++ [final]) created ↔ Covers final earlier created := by
  constructor
  · intro same
    refine ⟨?_, ?_, fun phase listed => ?_⟩
    · exact (getD_eq_latest_iff _ _ _ _).mp (congrArg AcceptedJob.status same)
    · exact (getD_eq_latest_iff _ _ _ _).mp (congrArg AcceptedJob.currentPhase same)
    · have phases : created.phases.map (givenPhase final) =
          created.phases.map (phaseAfter (earlier ++ [final])) :=
        congrArg (fun job => job.phases) same
      have equal := List.map_inj_left.mp phases phase listed
      exact (getD_eq_latest_iff _ _ _ _).mp (congrArg JobPhase.status equal)
  · intro covers
    have status := (getD_eq_latest_iff _ _ _ _).mpr covers.status
    have currentPhase := (getD_eq_latest_iff _ _ _ _).mpr covers.currentPhase
    have phases : created.phases.map (givenPhase final) =
        created.phases.map (phaseAfter (earlier ++ [final])) := by
      refine List.map_congr_left fun phase listed => ?_
      have equal := (getD_eq_latest_iff _ _ _ _).mpr (covers.phases phase listed)
      rw [givenPhase, phaseAfter, equal]
    unfold given after
    rw [status, currentPhase, phases]

end JobService

/-- A job as it was created, with the updates that were accepted since. -/
structure JobHistory where
  created : AcceptedJob
  updates : List JobUpdate

namespace JobHistory
open JobService

variable (history : JobHistory)

/-- The job as the history leaves it. -/
def job : AcceptedJob := after history.updates history.created

/-- The last update repeats what the earlier ones changed. -/
def LastCovers : Prop :=
  ∀ earlier final, history.updates = earlier ++ [final] → Covers final earlier history.created

/-- An accepted create begins the history of a job, and an accepted update goes on with it. -/
def extend (jobId : String) (history : Option JobHistory) :
    FoundationCall → Except PyError FoundationAnswer → Option JobHistory
  | .createJob _ _, .ok (.job job) => if job.jobId = jobId then some ⟨job, []⟩ else history
  | .updateJob _ updatedId payload, .ok _ =>
      if updatedId = jobId then
        history.map fun history => { history with updates := history.updates ++ [payload] }
      else history
  | _, _ => history

/-- The history of a job in a run of calls. -/
def ofRun (sources : FoundationSources) (jobId : String) :
    FoundationState → Option JobHistory → List FoundationCall → Option JobHistory
  | _, history, [] => history
  | state, history, call :: rest =>
      let (answer, next) := state.step sources call
      ofRun sources jobId next (extend jobId history call answer) rest

end JobHistory

namespace FoundationState
open JobService

variable {sources : FoundationSources} {state next : FoundationState} {jobId : String}
  {history : JobHistory} {payload : JobPayload} {job : AcceptedJob}

/-- A job is made of its proposal alike by every user of a tenant. -/
theorem newJob_of_tenant {context other : TenantContext}
    (made : newJob sources context payload = .ok job) (required : other.require = .ok ())
    (own : other.tenantId = context.tenantId) : newJob sources other payload = .ok job := by
  obtain ⟨proposal, found, made⟩ := bind_eq_ok_iff.mp made
  obtain ⟨record, read, found⟩ := bind_eq_ok_iff.mp found
  obtain ⟨_, stored, tenant⟩ := tenantRecord_eq_ok_iff.mp read
  have readAgain : tenantRecord other sources.proposals payload.proposalId "proposal" =
      .ok record := tenantRecord_eq_ok_iff.mpr ⟨required, stored, tenant.trans own.symm⟩
  refine bind_eq_ok_iff.mpr ⟨proposal, ?_, ?_⟩
  · exact bind_eq_ok_iff.mpr ⟨record, readAgain, found⟩
  · rw [own]
    exact made

/-- The record of a job agrees with its history. -/
structure Tells (sources : FoundationSources) (history : JobHistory)
    (stored : Record JobInputs AcceptedJob) : Prop where
  made : ∃ context, context.tenantId = stored.tenantId ∧
    newJob sources context stored.input.payload = .ok history.created
  artifact : stored.artifact = history.job
  lastUpdate : stored.input.lastUpdate = history.updates.getLast?
  valid : history.updates ≠ [] → Valid stored.artifact

variable {context : TenantContext}

theorem tells_created (made : newJob sources context payload = .ok job) :
    Tells sources ⟨job, []⟩ (.new context ⟨payload, none⟩ job) where
  made := ⟨context, rfl, made⟩
  artifact := (after_nil job).symm
  lastUpdate := rfl
  valid := fun listed => absurd rfl listed

theorem Tells.update {stored record : Record JobInputs AcceptedJob}
    {payload : JobUpdate} (tells : Tells sources history stored)
    (found : state.jobs.get? jobId = some stored)
    (made : updatedJob state context jobId payload = .ok record) :
    Tells sources { history with updates := history.updates ++ [payload] } record := by
  obtain ⟨read, readFound, made⟩ := bind_eq_ok_iff.mp made
  obtain ⟨updated, accepted, made⟩ := bind_eq_ok_iff.mp made
  obtain ⟨_, sameFound, _⟩ := tenantRecord_eq_ok_iff.mp readFound
  obtain rfl := Option.some.inj (sameFound.symm.trans found)
  obtain ⟨rfl, valid⟩ := (update_eq_ok_iff _ _ _).mp accepted
  cases made
  refine ⟨tells.made, ?_, List.getLast?_concat.symm, fun _ => valid⟩
  show given payload read.artifact = after (history.updates ++ [payload]) history.created
  rw [tells.artifact]
  exact given_after _ _ _

/-- The comparison of a replay passes the stored job and no other answer for it. -/
theorem compared_eq_ok_iff (replayed : Except PyError AcceptedJob) (artifact : AcceptedJob) :
    (replayed >>= fun job =>
      if job.exportJson ≠ artifact.exportJson then
        .error (.valueError "renovation job replay diverged")
      else .ok job) = .ok artifact ↔ replayed = .ok artifact := by
  rw [bind_eq_ok_iff]
  constructor
  · rintro ⟨job, answered, compared⟩
    split at compared
    · cases compared
    · cases compared
      exact answered
  · intro answered
    exact ⟨artifact, answered, if_neg (not_not.mpr rfl)⟩

/-- A replay returns the stored job exactly when the last update covers the earlier ones. -/
theorem Tells.replayJob_iff {stored : Record JobInputs AcceptedJob}
    (tells : Tells sources history stored)
    (read : tenantRecord context state.jobs jobId "job" = .ok stored) :
    state.replayJob sources context jobId = .ok stored.artifact ↔ history.LastCovers := by
  obtain ⟨creator, creatorTenant, made⟩ := tells.made
  obtain ⟨required, _, own⟩ := tenantRecord_eq_ok_iff.mp read
  have remade := newJob_of_tenant made required (own.symm.trans creatorTenant.symm)
  unfold replayJob
  rw [read]
  show (newJob sources context stored.input.payload >>= _) = _ ↔ _
  rw [remade]
  show (repeatUpdate history.created stored.input.lastUpdate >>= _) = _ ↔ _
  refine (compared_eq_ok_iff _ _).trans ?_
  rw [tells.lastUpdate, tells.artifact, JobHistory.job]
  rcases List.eq_nil_or_concat history.updates with none | ⟨earlier, final, some⟩
  · rw [none, after_nil]
    refine iff_of_true rfl fun earlier final listed => ?_
    rw [none] at listed
    exact absurd listed (by simp)
  · rw [List.concat_eq_append] at some
    have covers : history.LastCovers ↔ Covers final earlier history.created := by
      constructor
      · exact fun all => all earlier final some
      · intro covers others last listed
        obtain ⟨rfl, lasts⟩ := List.append_inj' (some.symm.trans listed) rfl
        obtain rfl := List.singleton_inj.mp lasts
        exact covers
    have valid : Valid (after (earlier ++ [final]) history.created) := by
      have left := tells.valid (by rw [some]; simp)
      rw [tells.artifact, JobHistory.job, some] at left
      exact left
    rw [covers, ← given_eq_after_iff, some, List.getLast?_concat]
    unfold repeatUpdate
    dsimp only
    split
    · rename_i empty
      rw [given_of_isEmpty empty, Except.ok.injEq]
    · rw [update_eq_ok_iff]
      exact ⟨fun facts => facts.1.symm, fun same => ⟨same.symm, valid⟩⟩

/-- A stored job has a history that its record agrees with. -/
def Told (sources : FoundationSources) (jobId : String) (history : Option JobHistory)
    (state : FoundationState) : Prop :=
  ∀ stored, state.jobs.get? jobId = some stored →
    ∃ told, history = some told ∧ Tells sources told stored

theorem extend_refused (jobId : String) (history : Option JobHistory) (call : FoundationCall)
    (error : PyError) : JobHistory.extend jobId history call (.error error) = history := by
  cases call <;> rfl

/-- One call keeps the records in agreement with their histories. -/
theorem Told.step {history : Option JobHistory} (told : Told sources jobId history state)
    {call : FoundationCall} {answer : Except PyError FoundationAnswer}
    (changed : Changes sources state call answer next) :
    Told sources jobId (JobHistory.extend jobId history call answer) next := by
  cases changed with
  | refused call error =>
      rw [extend_refused]
      exact told
  | @createdJob context payload job _ made tables =>
      have jobs : next.jobs = _ := congrArg FoundationTables.jobs tables
      intro stored found
      rw [jobs, Dict.get?_set] at found
      unfold JobHistory.extend
      by_cases same : jobId = job.jobId
      · rw [if_pos same] at found
        obtain rfl := Option.some.inj found
        exact ⟨_, if_pos same.symm, tells_created made⟩
      · rw [if_neg same] at found
        obtain ⟨earlier, recorded, tells⟩ := told stored found
        exact ⟨earlier, (if_neg (Ne.symm same)).trans recorded, tells⟩
  | @updatedJob context updatedId payload record _ made tables =>
      have jobs : next.jobs = _ := congrArg FoundationTables.jobs tables
      intro stored found
      rw [jobs, Dict.get?_set] at found
      unfold JobHistory.extend
      by_cases same : jobId = updatedId
      · subst same
        rw [if_pos rfl] at found
        obtain rfl := Option.some.inj found
        obtain ⟨before, read, _⟩ := bind_eq_ok_iff.mp made
        obtain ⟨_, present, _⟩ := tenantRecord_eq_ok_iff.mp read
        obtain ⟨earlier, recorded, tells⟩ := told before present
        refine ⟨_, ?_, tells.update present made⟩
        rw [recorded]
        exact if_pos rfl
      · rw [if_neg same] at found
        obtain ⟨earlier, recorded, tells⟩ := told stored found
        exact ⟨earlier, (if_neg (Ne.symm same)).trans recorded, tells⟩
  | createdChangeOrder made tables
  | decidedChangeOrder made tables
  | createdSchedule made tables
  | recalculatedSchedule made tables
  | createdLead made tables
  | updatedLead made tables
  | convertedLead made tables =>
      have jobs : next.jobs = state.jobs := congrArg FoundationTables.jobs tables
      intro stored found
      exact told stored (jobs ▸ found)

/-- A run keeps the records in agreement with their histories. -/
theorem Told.run {history : Option JobHistory} (told : Told sources jobId history state)
    (calls : List FoundationCall) :
    Told sources jobId (JobHistory.ofRun sources jobId state history calls)
      (Transition.run (FoundationState.step sources) state calls) := by
  induction calls generalizing state history with
  | nil => exact told
  | cons call rest ih => exact ih (told.step (step_changes sources state call))

/-- After every run of calls, a job is replayed exactly when the last of the updates accepted since
its creation gives again what the earlier ones changed. -/
theorem replayJob_iff_lastCovers (sources : FoundationSources) (calls : List FoundationCall)
    (jobId : String) (stored : Record JobInputs AcceptedJob)
    (found : (Transition.run (FoundationState.step sources) initial calls).jobs.get? jobId =
      some stored) :
    ∃ history, JobHistory.ofRun sources jobId initial none calls = some history ∧
      stored.artifact = history.job ∧
      ∀ context, context.require = .ok () → context.tenantId = stored.tenantId →
        ((Transition.run (FoundationState.step sources) initial calls).replayJob sources context
          jobId = .ok stored.artifact ↔ history.LastCovers) := by
  have start : Told sources jobId none initial := fun stored nothing => by cases nothing
  obtain ⟨history, recorded, tells⟩ := start.run calls stored found
  refine ⟨history, recorded, tells.artifact, fun context required own => ?_⟩
  exact tells.replayJob_iff (tenantRecord_eq_ok_iff.mpr ⟨required, found, own.symm⟩)

section Example

/-- The job is put on hold. -/
def heldJob : JobUpdate := ⟨some "on_hold", none, none, []⟩

/-- The job goes on with its second phase. -/
def secondPhase : JobUpdate := ⟨none, some "phase-02", none, []⟩

/-- The job is held and then completed in its first phase. -/
def completedJob : JobUpdate := ⟨some "completed", none, none, []⟩

theorem replayJob_iff_lastCovers_completed :
    let calls := [kitchenJob, .updateJob kitchenOffice kitchenJobId heldJob,
      .updateJob kitchenOffice kitchenJobId completedJob]
    let state := Transition.run (FoundationState.step kitchenSources) initial calls
    ∃ stored, state.jobs.get? kitchenJobId = some stored ∧ stored.artifact.status = "completed" ∧
      state.replayJob kitchenSources kitchenOffice kitchenJobId = .ok stored.artifact := by
  intro calls state
  have shown : (state.jobs.get? kitchenJobId).map (fun stored =>
      (stored.tenantId, stored.artifact.status)) = some ("tenant-a", "completed") := by
    decide
  obtain ⟨stored, found, fields⟩ := Option.map_eq_some_iff.mp shown
  simp only [Prod.mk.injEq] at fields
  obtain ⟨tenantId, status⟩ := fields
  obtain ⟨history, recorded, _, replays⟩ :=
    replayJob_iff_lastCovers kitchenSources calls kitchenJobId stored found
  refine ⟨stored, found, status, (replays kitchenOffice rfl tenantId.symm).mpr ?_⟩
  obtain rfl := Option.some.inj recorded
  intro earlier final updates
  obtain ⟨rfl, last⟩ := List.append_inj' (show [heldJob] ++ [completedJob] = _ from updates) rfl
  obtain rfl := List.singleton_inj.mp last
  refine ⟨fun none => ?_, fun _ => rfl, fun phase listed none => rfl⟩
  cases none

/-- The replay of a job that is held and then goes on forgets that it is held. -/
theorem replayJob_forgets_hold :
    let calls := [kitchenJob, .updateJob kitchenOffice kitchenJobId heldJob,
      .updateJob kitchenOffice kitchenJobId secondPhase]
    let state := Transition.run (FoundationState.step kitchenSources) initial calls
    ∃ stored, state.jobs.get? kitchenJobId = some stored ∧ stored.artifact.status = "on_hold" ∧
      stored.tenantId = kitchenOffice.tenantId ∧
      state.replayJob kitchenSources kitchenOffice kitchenJobId ≠ .ok stored.artifact := by
  intro calls state
  have shown : (state.jobs.get? kitchenJobId).map (fun stored =>
      (stored.tenantId, stored.artifact.status)) = some ("tenant-a", "on_hold") := by
    decide
  obtain ⟨stored, found, fields⟩ := Option.map_eq_some_iff.mp shown
  simp only [Prod.mk.injEq] at fields
  obtain ⟨tenantId, status⟩ := fields
  refine ⟨stored, found, status, tenantId, fun replayed => ?_⟩
  have start : Told kitchenSources kitchenJobId none initial := fun stored nothing => by
    cases nothing
  obtain ⟨history, recorded, tells⟩ := start.run calls stored found
  have covers := (tells.replayJob_iff
    (tenantRecord_eq_ok_iff.mpr ⟨rfl, found, tenantId⟩)).mp replayed
  obtain rfl := Option.some.inj recorded
  have kept := (covers [heldJob] secondPhase rfl).status rfl
  exact absurd kept (by decide)

end Example

end FoundationState

end AgentFabric.Renovation
