import AgentFabric.Proof.Renovation.JobReplay

namespace AgentFabric.Renovation
open Collection Transition ChangeOrderService

/-- How far a job has come. -/
def AcceptedJob.progress (job : AcceptedJob) : String × String × List JobPhase :=
  (job.status, job.currentPhase, job.phases)

/-- How far a change order has come. -/
def ChangeOrder.progress (order : ChangeOrder) : String × List ChangeOrderApproval :=
  (order.status, order.approvalHistory)

/-- How far a schedule has come. -/
def Schedule.progress (schedule : Schedule) : Int × List DelayImpact :=
  (schedule.revision, schedule.delayImpacts)

/-- How far a lead has come. -/
def Lead.progress (lead : Lead) : String × String := (lead.status, lead.customerId)

section Keeps

variable {Input Artifact Progress : Type} (progress : Artifact → Progress)

/-- Every record of a collection is still there with its progress. -/
def Keeps (before after : Dict String (Record Input Artifact)) : Prop :=
  All before fun key stored =>
    ∃ later, after.get? key = some later ∧ progress later.artifact = progress stored.artifact

variable (collection : Dict String (Record Input Artifact))

theorem keeps_refl :
    Keeps progress collection collection := fun _ stored found => ⟨stored, found, rfl⟩

/-- A written record keeps the progress exactly when it has the progress of the record that it
replaces. -/
theorem keeps_set_iff (key : String) (record : Record Input Artifact) :
    Keeps progress collection (collection.set key record) ↔
      ∀ stored, collection.get? key = some stored →
        progress record.artifact = progress stored.artifact := by
  constructor
  · intro keeps stored found
    obtain ⟨later, present, same⟩ := keeps key stored found
    rw [Dict.get?_set_self] at present
    obtain rfl := Option.some.inj present
    exact same
  · intro same other stored found
    by_cases own : other = key
    · subst own
      exact ⟨record, Dict.get?_set_self _ _ _, same stored found⟩
    · exact ⟨stored, (Dict.get?_set_of_ne _ _ own).trans found, rfl⟩

end Keeps

namespace FoundationState

/-- Every stored job, change order, schedule and lead keeps its progress. -/
structure KeepsProgress (before after : FoundationTables) : Prop where
  jobs : Keeps AcceptedJob.progress before.jobs after.jobs
  changeOrders : Keeps ChangeOrder.progress before.changeOrders after.changeOrders
  schedules : Keeps Schedule.progress before.schedules after.schedules
  leads : Keeps Lead.progress before.leads after.leads

namespace KeepsProgress

theorem refl (tables : FoundationTables) : KeepsProgress tables tables :=
  ⟨keeps_refl _ _, keeps_refl _ _, keeps_refl _ _, keeps_refl _ _⟩

variable (tables : FoundationTables)

theorem jobs_iff (jobs : Dict String (Record JobInputs AcceptedJob)) :
    KeepsProgress tables { tables with jobs } ↔ Keeps AcceptedJob.progress tables.jobs jobs :=
  ⟨fun keeps => keeps.jobs, fun keeps => { refl tables with jobs := keeps }⟩

theorem changeOrders_iff (changeOrders : Dict String (Record ChangeOrderPayload ChangeOrder)) :
    KeepsProgress tables { tables with changeOrders } ↔
      Keeps ChangeOrder.progress tables.changeOrders changeOrders :=
  ⟨fun keeps => keeps.changeOrders, fun keeps => { refl tables with changeOrders := keeps }⟩

theorem schedules_iff (schedules : Dict String (Record SchedulePayload Schedule)) :
    KeepsProgress tables { tables with schedules } ↔
      Keeps Schedule.progress tables.schedules schedules :=
  ⟨fun keeps => keeps.schedules, fun keeps => { refl tables with schedules := keeps }⟩

theorem leads_iff (leads : Dict String (Record LeadInputs Lead)) :
    KeepsProgress tables { tables with leads } ↔ Keeps Lead.progress tables.leads leads :=
  ⟨fun keeps => keeps.leads, fun keeps => { refl tables with leads := keeps }⟩

end KeepsProgress

/-- The calls that submit a payload. -/
def Submits : FoundationCall → Prop
  | .createJob .. | .createChangeOrder .. | .createSchedule .. | .createLead .. => True
  | _ => False

variable (sources : FoundationSources) (state : FoundationState)

/-- The record under the id of a payload has not moved from where the payload puts it. -/
def Unmoved : FoundationCall → Prop
  | .createJob context payload => ∀ proposal job stored,
      getProposal sources context payload.proposalId = .ok proposal →
      newJob sources context payload = .ok job → state.jobs.get? job.jobId = some stored →
      stored.artifact.status = payload.status.getD "active" ∧
        stored.artifact.phases = JobService.openingPhases proposal.timeline ∧
        stored.artifact.currentPhase = JobService.firstPhase stored.artifact.phases
  | .createChangeOrder context payload => ∀ order stored,
      newChangeOrder sources state context payload = .ok order →
      state.changeOrders.get? order.changeOrderId = some stored →
      stored.artifact.status = payload.opening
  | .createSchedule context payload => ∀ schedule stored,
      newSchedule sources state context payload = .ok schedule →
      state.schedules.get? schedule.scheduleId = some stored → stored.artifact.revision = 1
  | .createLead context payload => ∀ lead stored,
      LeadService.create sources.sha256 context.tenantId payload = .ok lead →
      state.leads.get? lead.leadId = some stored → stored.artifact.status = "new"
  | _ => True

/-- What the progress of the stored records allows. -/
structure Sound (tables : FoundationTables) : Prop where
  changeOrders : All tables.changeOrders fun _ stored =>
    stored.artifact.status ∈ openingStatuses → stored.artifact.approvalHistory = []
  schedules : All tables.schedules fun _ stored =>
    1 ≤ stored.artifact.revision ∧
      (stored.artifact.revision = 1 → stored.artifact.delayImpacts = [])
  leads : All tables.leads fun _ stored =>
    stored.artifact.customerId = "" ∨ stored.artifact.status = "won"

/-- An order that is not decided has no decision for a status. -/
theorem opening_not_decision {status : String} (opening : status ∈ openingStatuses) :
    status ∉ decisions := by
  unfold openingStatuses at opening
  simp only [List.mem_cons, List.not_mem_nil, or_false] at opening
  rcases opening with rfl | rfl
  · decide
  · decide

theorem sound_initial : Sound initial.tables := ⟨all_empty _, all_empty _, all_empty _⟩

section Creates

variable {sources state} {context : TenantContext} {sha256 : String → String} {tenantId : String}

theorem jobCreate_eq_ok {proposal : Proposal}
    {payload : JobPayload} {job : AcceptedJob}
    (made : JobService.create sha256 tenantId proposal payload = .ok job) :
    job.status = payload.status.getD "active" ∧
      job.phases = JobService.openingPhases proposal.timeline ∧
        job.currentPhase = JobService.firstPhase job.phases := by
  unfold JobService.create at made
  dsimp only at made
  split at made
  · cases made
  · split at made
    · cases made
    · split at made
      · cases made
      · cases made
        exact ⟨rfl, rfl, rfl⟩

variable {payload : ChangeOrderPayload} {order : ChangeOrder}

theorem changeOrderCreate_eq_ok {tools : ChangeOrderTools}
    {tenantId jobId proposalId : String} {estimate estimateInput : Json}
    (made : ChangeOrderService.create tools sha256 tenantId jobId proposalId estimate estimateInput
      payload = .ok order) :
    order.status = payload.opening ∧ order.approvalHistory = [] ∧
      payload.opening ∈ openingStatuses := by
  unfold ChangeOrderService.create at made
  split at made
  · cases made
  · split at made
    · cases made
    · rename_i opening
      split at made
      · cases made
      · obtain ⟨price, _, made⟩ := bind_eq_ok_iff.mp made
        obtain ⟨template, _, made⟩ := bind_eq_ok_iff.mp made
        cases made
        exact ⟨rfl, rfl, not_not.mp opening⟩

theorem leadCreate_eq_ok {payload : LeadPayload}
    {lead : Lead} (made : LeadService.create sha256 tenantId payload = .ok lead) :
    lead.status = "new" ∧ lead.customerId = "" := by
  obtain ⟨createdDate, _, made⟩ := bind_eq_ok_iff.mp made
  dsimp only at made
  split at made
  · cases made
  · split at made
    · cases made
    · cases made
      exact ⟨rfl, rfl⟩

theorem newChangeOrder_eq_ok (made : newChangeOrder sources state context payload = .ok order) :
    order.status = payload.opening ∧ order.approvalHistory = [] ∧
      payload.opening ∈ openingStatuses := by
  obtain ⟨job, _, made⟩ := bind_eq_ok_iff.mp made
  obtain ⟨checked, _, made⟩ := bind_eq_ok_iff.mp made
  obtain ⟨proposal, _, made⟩ := bind_eq_ok_iff.mp made
  obtain ⟨estimate, _, made⟩ := bind_eq_ok_iff.mp made
  exact changeOrderCreate_eq_ok made

theorem newSchedule_eq_ok {payload : SchedulePayload} {schedule : Schedule}
    (made : newSchedule sources state context payload = .ok schedule) :
    schedule.revision = 1 ∧ schedule.delayImpacts = [] := by
  obtain ⟨jobId, _, made⟩ := bind_eq_ok_iff.mp made
  obtain ⟨job, _, made⟩ := bind_eq_ok_iff.mp made
  obtain ⟨inputs, _, made⟩ := bind_eq_ok_iff.mp made
  obtain ⟨ordered, _, made⟩ := bind_eq_ok_iff.mp made
  obtain ⟨phases, _, made⟩ := bind_eq_ok_iff.mp made
  cases made
  exact ⟨rfl, rfl⟩

end Creates

section Sound

variable {sources state} {next : FoundationState} {context : TenantContext} {payload : LeadUpdate}

/-- A won lead stays won, and no update converts a lead. -/
theorem leadUpdate_eq_ok {lead updated : Lead}
    (made : LeadService.update lead payload = .ok updated) :
    updated.customerId = lead.customerId ∧ (lead.status = "won" → updated.status = "won") := by
  obtain ⟨moved, checked, made⟩ := bind_eq_ok_iff.mp made
  obtain ⟨dated, _, made⟩ := bind_eq_ok_iff.mp made
  dsimp only at made
  split at made
  · cases made
  · cases made
    refine ⟨rfl, fun won => ?_⟩
    show payload.status.getD lead.status = "won"
    unfold LeadService.checkTransition at checked
    split at checked
    · cases checked
    · split at checked
      · rename_i same
        exact same.trans won
      · rw [won] at checked
        cases checked

variable {record : Record LeadInputs Lead}

theorem updatedLead_eq_ok {leadId : String} {lead : Lead}
    (made : updatedLead state context leadId payload = .ok (lead, record)) :
    ∃ stored, state.leads.get? leadId = some stored ∧
      record.artifact.customerId = stored.artifact.customerId ∧
        (stored.artifact.status = "won" → record.artifact.status = "won") := by
  obtain ⟨stored, read, made⟩ := bind_eq_ok_iff.mp made
  obtain ⟨updated, moved, made⟩ := bind_eq_ok_iff.mp made
  cases made
  exact ⟨stored, (tenantRecord_eq_ok_iff.mp read).2.1, leadUpdate_eq_ok moved⟩

theorem convertedLead_eq_ok {leadId : String} {payload : LeadConversion} {customer : Customer}
    (made : convertedLead sources state context leadId payload = .ok (customer, record)) :
    record.artifact.status = "won" := by
  obtain ⟨stored, _, made⟩ := bind_eq_ok_iff.mp made
  obtain ⟨updated, converted, made⟩ := bind_eq_ok_iff.mp made
  cases made
  unfold LeadService.convert at converted
  split at converted
  · cases converted
  · rename_i won
    split at converted
    · cases converted
    · cases converted
      exact not_not.mp won

theorem recalculatedSchedule_eq_ok {scheduleId : String} {inputs : RecalculationInputs}
    {payload : SchedulePayload} {record : Record SchedulePayload Schedule}
    (made : recalculatedSchedule sources state context scheduleId inputs payload = .ok record) :
    ∃ stored, state.schedules.get? scheduleId = some stored ∧
      record.artifact.revision = stored.artifact.revision + 1 := by
  obtain ⟨stored, read, made⟩ := bind_eq_ok_iff.mp made
  obtain ⟨recalculated, revised, made⟩ := bind_eq_ok_iff.mp made
  cases made
  refine ⟨stored, (tenantRecord_eq_ok_iff.mp read).2.1, ?_⟩
  unfold recalculate at revised
  dsimp only at revised
  split at revised
  · cases revised
  · obtain ⟨conflicts, _, revised⟩ := bind_eq_ok_iff.mp revised
    obtain ⟨results, _, revised⟩ := bind_eq_ok_iff.mp revised
    cases revised
    rfl

theorem Sound.step (sound : Sound state.tables) {call : FoundationCall}
    {answer : Except PyError FoundationAnswer} (changed : Changes sources state call answer next) :
    Sound next.tables := by
  cases changed with
  | refused call error => exact sound
  | createdJob made stored =>
      rw [stored]
      exact { sound with }
  | updatedJob made stored =>
      rw [stored]
      exact { sound with }
  | createdChangeOrder made stored =>
      rw [stored]
      exact { sound with
        changeOrders := sound.changeOrders.set fun _ => (newChangeOrder_eq_ok made).2.1 }
  | decidedChangeOrder made stored =>
      obtain ⟨before, _, _, decision, status, _⟩ := decidedChangeOrder_eq_ok made
      rw [stored]
      refine { sound with changeOrders := sound.changeOrders.set fun opening => ?_ }
      rw [status] at opening
      exact absurd decision (opening_not_decision opening)
  | createdSchedule made stored =>
      obtain ⟨revision, delays⟩ := newSchedule_eq_ok made
      rw [stored]
      exact { sound with schedules := sound.schedules.set ⟨revision.ge, fun _ => delays⟩ }
  | recalculatedSchedule made stored =>
      obtain ⟨before, found, revision⟩ := recalculatedSchedule_eq_ok made
      have positive := (sound.schedules _ before found).1
      rw [stored]
      exact { sound with
        schedules := sound.schedules.set ⟨by omega, fun first => by omega⟩ }
  | createdLead made stored =>
      rw [stored]
      exact { sound with leads := sound.leads.set (.inl (leadCreate_eq_ok made).2) }
  | updatedLead made stored =>
      obtain ⟨before, found, customer, won⟩ := updatedLead_eq_ok made
      rw [stored]
      exact { sound with
        leads := sound.leads.set ((sound.leads _ before found).imp customer.trans won) }
  | convertedLead made stored =>
      rw [stored]
      exact { sound with leads := sound.leads.set (.inr (convertedLead_eq_ok made)) }

end Sound

section Submissions

variable {sources state} {context : TenantContext}

theorem createJob_keeps_iff (payload : JobPayload) :
    KeepsProgress state.tables (step sources state (.createJob context payload)).2.tables ↔
      Unmoved sources state (.createJob context payload) := by
  cases made : newJob sources context payload with
  | error error =>
      have same : (step sources state (.createJob context payload)).2 = state := by
        simp only [step, createJob, made]
      rw [same]
      refine iff_of_true (KeepsProgress.refl _) ?_
      intro proposal job stored read returned
      rw [made] at returned
      cases returned
  | ok job =>
      obtain ⟨proposal, read, created⟩ := bind_eq_ok_iff.mp made
      obtain ⟨status, phases, currentPhase⟩ := jobCreate_eq_ok created
      have written : (step sources state (.createJob context payload)).2.tables =
          { state.tables with
            jobs := state.jobs.set job.jobId (.new context ⟨payload, none⟩ job) } := by
        simp only [step, createJob, made]
        rfl
      rw [written]
      refine (KeepsProgress.jobs_iff _ _).trans ((keeps_set_iff _ _ _ _).trans ?_)
      constructor
      · intro same other new stored otherRead returned found
        cases made.symm.trans returned
        cases read.symm.trans otherRead
        have equal := same stored found
        simp only [AcceptedJob.progress, Record.new, Prod.mk.injEq] at equal
        obtain ⟨sameStatus, sameCurrent, samePhases⟩ := equal
        exact ⟨sameStatus.symm.trans status, samePhases.symm.trans phases,
          samePhases ▸ sameCurrent.symm.trans currentPhase⟩
      · intro unmoved stored found
        obtain ⟨sameStatus, samePhases, sameCurrent⟩ := unmoved proposal job stored read made found
        simp only [AcceptedJob.progress, Record.new, Prod.mk.injEq]
        refine ⟨status.trans sameStatus.symm, ?_, phases.trans samePhases.symm⟩
        rw [currentPhase, sameCurrent, phases, samePhases]

section

variable (sound : Sound state.tables)
include sound

theorem createChangeOrder_keeps_iff (payload : ChangeOrderPayload) :
    KeepsProgress state.tables (step sources state (.createChangeOrder context payload)).2.tables ↔
      Unmoved sources state (.createChangeOrder context payload) := by
  cases made : newChangeOrder sources state context payload with
  | error error =>
      have same : (step sources state (.createChangeOrder context payload)).2 = state := by
        simp only [step, createChangeOrder, made]
      rw [same]
      refine iff_of_true (KeepsProgress.refl _) ?_
      intro new stored returned
      rw [made] at returned
      cases returned
  | ok order =>
      obtain ⟨status, history, opening⟩ := newChangeOrder_eq_ok made
      have written : (step sources state (.createChangeOrder context payload)).2.tables =
          { state.tables with
            changeOrders := state.changeOrders.set order.changeOrderId (.new context payload order) } := by
        simp only [step, createChangeOrder, made]
        rfl
      rw [written]
      refine (KeepsProgress.changeOrders_iff _ _).trans ((keeps_set_iff _ _ _ _).trans ?_)
      constructor
      · intro same new stored returned found
        cases made.symm.trans returned
        exact (congrArg Prod.fst (same stored found)).symm.trans status
      · intro unmoved stored found
        have sameStatus := unmoved order stored made found
        have undecided := sound.changeOrders _ stored found (sameStatus ▸ opening)
        exact Prod.ext (status.trans sameStatus.symm) (history.trans undecided.symm)

theorem createSchedule_keeps_iff (payload : SchedulePayload) :
    KeepsProgress state.tables (step sources state (.createSchedule context payload)).2.tables ↔
      Unmoved sources state (.createSchedule context payload) := by
  cases made : newSchedule sources state context payload with
  | error error =>
      have same : (step sources state (.createSchedule context payload)).2 = state := by
        simp only [step, createSchedule, made]
      rw [same]
      refine iff_of_true (KeepsProgress.refl _) ?_
      intro new stored returned
      rw [made] at returned
      cases returned
  | ok schedule =>
      obtain ⟨revision, delays⟩ := newSchedule_eq_ok made
      have written : (step sources state (.createSchedule context payload)).2.tables =
          { state.tables with
            schedules := state.schedules.set schedule.scheduleId (.new context payload schedule) } := by
        simp only [step, createSchedule, made]
        rfl
      rw [written]
      refine (KeepsProgress.schedules_iff _ _).trans ((keeps_set_iff _ _ _ _).trans ?_)
      constructor
      · intro same new stored returned found
        cases made.symm.trans returned
        exact (congrArg Prod.fst (same stored found)).symm.trans revision
      · intro unmoved stored found
        have first := unmoved schedule stored made found
        have undelayed := (sound.schedules _ stored found).2 first
        exact Prod.ext (revision.trans first.symm) (delays.trans undelayed.symm)

theorem createLead_keeps_iff (payload : LeadPayload) :
    KeepsProgress state.tables (step sources state (.createLead context payload)).2.tables ↔
      Unmoved sources state (.createLead context payload) := by
  cases made : LeadService.create sources.sha256 context.tenantId payload with
  | error error =>
      have same : (step sources state (.createLead context payload)).2 = state := by
        simp only [step, createLead, made]
      rw [same]
      refine iff_of_true (KeepsProgress.refl _) ?_
      intro new stored returned
      rw [made] at returned
      cases returned
  | ok lead =>
      obtain ⟨status, customer⟩ := leadCreate_eq_ok made
      have written : (step sources state (.createLead context payload)).2.tables =
          { state.tables with
            leads := state.leads.set lead.leadId (.new context ⟨payload, [], none⟩ lead) } := by
        simp only [step, createLead, made]
        rfl
      rw [written]
      refine (KeepsProgress.leads_iff _ _).trans ((keeps_set_iff _ _ _ _).trans ?_)
      constructor
      · intro same new stored returned found
        cases made.symm.trans returned
        exact (congrArg Prod.fst (same stored found)).symm.trans status
      · intro unmoved stored found
        have new := unmoved lead stored made found
        refine Prod.ext (status.trans new.symm) ?_
        rcases sound.leads _ stored found with unconverted | won
        · exact customer.trans unconverted.symm
        · exact absurd (new.symm.trans won) (by decide)

/-- A submitted payload keeps the progress of all records exactly when it meets an unmoved one. -/
theorem keepsProgress_iff_unmoved {call : FoundationCall} (submits : Submits call) :
    KeepsProgress state.tables (step sources state call).2.tables ↔
      Unmoved sources state call := by
  cases call with
  | createJob context payload => exact createJob_keeps_iff payload
  | createChangeOrder context payload => exact createChangeOrder_keeps_iff sound payload
  | createSchedule context payload => exact createSchedule_keeps_iff sound payload
  | createLead context payload => exact createLead_keeps_iff sound payload
  | _ => cases submits

end

end Submissions

section Decisions

variable (changeOrderId : String)

/-- The decision on an order that a call makes. -/
def decision? : FoundationCall → Except PyError FoundationAnswer → Option String
  | .decideChangeOrder _ decidedId decision _, .ok _ =>
      if decidedId = changeOrderId then some decision else none
  | _, _ => none

/-- The decisions on an order that a run of calls makes. -/
def decisionsOf : FoundationState → List FoundationCall → List String
  | _, [] => []
  | state, call :: rest =>
      let (answer, next) := step sources state call
      (decision? changeOrderId call answer).toList ++ decisionsOf next rest

/-- The order is stored with a decision for its status. -/
def Decided (tables : FoundationTables) : Prop :=
  ∃ stored, tables.changeOrders.get? changeOrderId = some stored ∧
    stored.artifact.status ∈ decisions

variable {sources state changeOrderId} {next : FoundationState}
  {answer : Except PyError FoundationAnswer} {call : FoundationCall}

/-- An unmoved payload keeps a decided order, and no call decides it again. -/
theorem Decided.step (decided : Decided changeOrderId state.tables)
    (changed : Changes sources state call answer next)
    (unmoved : Unmoved sources state call) :
    Decided changeOrderId next.tables ∧ decision? changeOrderId call answer = none := by
  obtain ⟨before, found, decision⟩ := decided
  cases changed with
  | refused call error =>
      refine ⟨⟨before, found, decision⟩, ?_⟩
      cases call <;> rfl
  | @createdChangeOrder context payload order _ made stored =>
      rw [stored]
      by_cases same : changeOrderId = order.changeOrderId
      · subst same
        obtain ⟨_, _, opening⟩ := newChangeOrder_eq_ok made
        have sameStatus := unmoved order before made found
        exact absurd decision (opening_not_decision (sameStatus ▸ opening))
      · exact ⟨⟨before, (Dict.get?_set_of_ne _ _ same).trans found, decision⟩, rfl⟩
  | @decidedChangeOrder context decidedId taken payload record _ made stored =>
      rw [stored]
      by_cases same : decidedId = changeOrderId
      · subst same
        obtain ⟨other, present, sent, _⟩ := decidedChangeOrder_eq_ok made
        obtain rfl := Option.some.inj (present.symm.trans found)
        rw [sent] at decision
        exact absurd decision (by decide)
      · exact ⟨⟨before, (Dict.get?_set_of_ne _ _ (Ne.symm same)).trans found, decision⟩,
          if_neg same⟩
  | createdJob made stored
  | updatedJob made stored
  | createdSchedule made stored
  | recalculatedSchedule made stored
  | createdLead made stored
  | updatedLead made stored
  | convertedLead made stored =>
      rw [stored]
      exact ⟨⟨before, found, decision⟩, rfl⟩

variable {calls : List FoundationCall}

theorem Decided.run (decided : Decided changeOrderId state.tables)
    (guarded : Guarded (FoundationState.step sources) (Unmoved sources) state calls) :
    decisionsOf sources changeOrderId state calls = [] := by
  induction calls generalizing state with
  | nil => rfl
  | cons call rest ih =>
      obtain ⟨later, none⟩ := decided.step (step_changes sources state call) guarded.1
      show (decision? changeOrderId call (FoundationState.step sources state call).1).toList ++ _ = []
      rw [none]
      exact ih later guarded.2

/-- The call that makes a decision leaves the order decided. -/
theorem decided_of_decision (changed : Changes sources state call answer next) {decision : String}
    (made : decision? changeOrderId call answer = some decision) :
    Decided changeOrderId next.tables := by
  cases changed with
  | @decidedChangeOrder context decidedId taken payload record _ deciding stored =>
      change (if decidedId = changeOrderId then some taken else none) = _ at made
      split at made
      · rename_i same
        subst same
        obtain ⟨before, _, _, allowed, status, _⟩ := decidedChangeOrder_eq_ok deciding
        rw [stored]
        exact ⟨record, Dict.get?_set_self _ _ _, status ▸ allowed⟩
      · cases made
  | refused call error => cases call <;> cases made
  | createdChangeOrder => cases made
  | createdJob => cases made
  | updatedJob => cases made
  | createdSchedule => cases made
  | recalculatedSchedule => cases made
  | createdLead => cases made
  | updatedLead => cases made
  | convertedLead => cases made

/-- A run that submits only unmoved payloads decides an order at most once. -/
theorem decisionsOf_length_le
    (guarded : Guarded (FoundationState.step sources) (Unmoved sources) state calls) :
    (decisionsOf sources changeOrderId state calls).length ≤ 1 := by
  induction calls generalizing state with
  | nil => exact Nat.zero_le 1
  | cons call rest ih =>
      show ((decision? changeOrderId call (FoundationState.step sources state call).1).toList ++
        decisionsOf sources changeOrderId (FoundationState.step sources state call).2 rest).length ≤ 1
      cases made : decision? changeOrderId call (FoundationState.step sources state call).1 with
      | none => exact ih guarded.2
      | some decision =>
          have decided := decided_of_decision (step_changes sources state call) made
          rw [decided.run guarded.2]
          exact le_refl 1

end Decisions

/-- In every state that a run of calls reaches, a submitted payload keeps all progress exactly when
the record under its id has not moved, and a run of unmoved payloads decides no order twice. -/
theorem submission_keeps_iff (sources : FoundationSources) (calls : List FoundationCall) :
    (∀ call, Submits call →
      (KeepsProgress (run (step sources) initial calls).tables
          (step sources (run (step sources) initial calls) call).2.tables ↔
        Unmoved sources (run (step sources) initial calls) call)) ∧
    (Guarded (step sources) (Unmoved sources) initial calls →
      ∀ changeOrderId, (decisionsOf sources changeOrderId initial calls).length ≤ 1) := by
  have sound : Sound (run (step sources) initial calls).tables := by
    refine run_invariant (step sources) (fun state => Sound state.tables) ?_ initial calls
      sound_initial
    exact fun state call sound => sound.step (step_changes sources state call)
  exact ⟨fun call submits => keepsProgress_iff_unmoved sound submits,
    fun guarded changeOrderId => decisionsOf_length_le guarded⟩

section Example

/-- An order for one more outlet of the kitchen. -/
def outletOrder : FoundationCall := .createChangeOrder kitchenOffice {
  jobId := kitchenJobId
  sourceType := none
  sourceReference := "call-1"
  status := none
  title := "Outlet"
  description := none
  lines := [.obj []]
  contingencyPercentage := none
  taxPercentage := none
  scheduleDeltaDays := none
  templateId := none }

/-- The id of the order, whose digest is the one of the kitchen. -/
def outletOrderId : String := "change-10035f6952af7d634f1c"

/-- The owner approves the order. -/
def approveOutlet : FoundationCall :=
  .decideChangeOrder kitchenOffice outletOrderId "approved" ⟨"2026-03-09", none, none⟩

theorem submission_keeps_iff_undecided :
    KeepsProgress (run (step kitchenSources) initial [kitchenJob, outletOrder]).tables
        (step kitchenSources (run (step kitchenSources) initial [kitchenJob, outletOrder])
          outletOrder).2.tables ∧
      (decisionsOf kitchenSources outletOrderId initial
        [kitchenJob, outletOrder, approveOutlet]).length ≤ 1 := by
  have sent : (run (step kitchenSources) initial
      [kitchenJob, outletOrder]).changeOrders.values.map (fun stored => stored.artifact.status) =
        ["sent"] := by decide
  have none : (step kitchenSources initial kitchenJob).2.changeOrders.values.map
      (fun stored => stored.artifact.status) = [] := by decide
  constructor
  · refine ((submission_keeps_iff kitchenSources [kitchenJob, outletOrder]).1 outletOrder
      trivial).mpr ?_
    intro order stored _ found
    have listed := (Dict.mem_values_iff _ stored).mpr ⟨_, found⟩
    have status : stored.artifact.status ∈ ["sent"] := sent ▸ List.mem_map.mpr ⟨stored, listed, rfl⟩
    exact List.mem_singleton.mp status
  · refine (submission_keeps_iff kitchenSources [kitchenJob, outletOrder, approveOutlet]).2 ?_
      outletOrderId
    refine ⟨?_, ?_, trivial, trivial⟩
    · intro proposal job stored _ _ found
      cases found
    · intro order stored _ found
      have listed := (Dict.mem_values_iff _ stored).mpr ⟨_, found⟩
      rw [List.map_eq_nil_iff.mp none] at listed
      cases listed

/-- An approved order that is submitted again is sent again and approved again. -/
theorem approved_order_decided_twice :
    let approved := run (step kitchenSources) initial [kitchenJob, outletOrder, approveOutlet]
    ¬ KeepsProgress approved.tables (step kitchenSources approved outletOrder).2.tables ∧
      decisionsOf kitchenSources outletOrderId initial
        [kitchenJob, outletOrder, approveOutlet, outletOrder, approveOutlet] =
          ["approved", "approved"] := by
  intro approved
  have before : (approved.changeOrders.get? outletOrderId).map (fun stored =>
      stored.artifact.status) = some "approved" := by decide
  have later : ((step kitchenSources approved outletOrder).2.changeOrders.get? outletOrderId).map
      (fun stored => stored.artifact.status) = some "sent" := by decide
  refine ⟨fun keeps => ?_, by decide⟩
  obtain ⟨stored, found, status⟩ := Option.map_eq_some_iff.mp before
  obtain ⟨again, present, same⟩ := keeps.changeOrders outletOrderId stored found
  have sent : again.artifact.status = "sent" := by
    change (step kitchenSources approved outletOrder).2.changeOrders.get? outletOrderId = _ at present
    rw [present] at later
    exact Option.some.inj later
  have kept : again.artifact.status = stored.artifact.status := congrArg Prod.fst same
  rw [sent, status] at kept
  exact absurd kept (by decide)

end Example

end FoundationState

end AgentFabric.Renovation
