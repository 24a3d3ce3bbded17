import AgentFabric.Construction.Renovation.Operator

namespace AgentFabric.Renovation
open Transition MvpWorkflow Ownership OperatorState OperatorRecord

section Effects

/-- The runs that effects persist, under their keys. -/
def putRuns (effects : List MvpEffect) : List (String × MvpRun) :=
  effects.filterMap fun effect => match effect with
    | .putRun run => some (run.runId, run)
    | _ => none

/-- The idempotency entries that effects persist, under their keys. -/
def putEntries (effects : List MvpEffect) : List (String × IdempotencyEntry) :=
  effects.filterMap fun effect => match effect with
    | .putIdempotency key entry => some (key, entry)
    | _ => none

/-- The steps whose handlers are called. -/
def calledSteps (effects : List MvpEffect) : List WorkflowStep :=
  effects.filterMap fun effect => match effect with
    | .called _ step => some step
    | _ => none

/-- The records that the handlers of some steps write. -/
def handlerRecords (context : TenantContext) (writes : WorkflowStep → List HandlerWrite)
    (steps : List WorkflowStep) : List ((String × String) × OperatorRecord) :=
  steps.flatMap fun step => (writes step).map fun entry =>
    ((entry.collection, entry.key), .new context entry.now entry.artifact)

variable (state : OperatorState) (context : TenantContext)
  (writes : WorkflowStep → List HandlerWrite) (effects : List MvpEffect)

theorem performAll_runs : (state.performAll context writes effects).mvp.runs =
    write state.mvp.runs (putRuns effects) := by
  induction effects generalizing state with
  | nil => rfl
  | cons effect rest ih =>
      refine (ih _).trans ?_
      cases effect <;> rfl

theorem performAll_idempotency : (state.performAll context writes effects).mvp.idempotency =
    write state.mvp.idempotency (putEntries effects) := by
  induction effects generalizing state with
  | nil => rfl
  | cons effect rest ih =>
      refine (ih _).trans ?_
      cases effect <;> rfl

theorem performAll_records : (state.performAll context writes effects).records =
    write state.records (handlerRecords context writes (calledSteps effects)) := by
  induction effects generalizing state with
  | nil => rfl
  | cons effect rest ih =>
      refine (ih _).trans ?_
      cases effect with
      | called runId step => exact (write_append _ _ _).symm
      | _ => rfl

end Effects

section Execution

variable (context : TenantContext) (outcomes : WorkflowStep → StepOutcome)

/-- The steps that are worked on, the last of which may fail. -/
def workedSteps : List WorkflowStep → List WorkflowStep
  | [] => []
  | step :: rest => step :: match (outcomes step).result with
    | .error _ => []
    | .ok _ => workedSteps rest

/-- The steps of a run that are not completed. -/
def openSteps (run : MvpRun) (steps : List WorkflowStep) : List WorkflowStep :=
  steps.filter fun step => (run.steps step).status ≠ .completed

variable (steps : List WorkflowStep)

theorem execute_putRuns (run : MvpRun) :
    ∀ entry ∈ putRuns (execute context outcomes steps run).1,
      entry.1 = run.runId ∧ entry.2.tenantId = run.tenantId := by
  induction steps generalizing run with
  | nil =>
      intro entry member
      obtain rfl := List.mem_singleton.mp member
      exact ⟨rfl, rfl⟩
  | cons step rest ih =>
      intro entry member
      rw [execute] at member
      by_cases completed : (run.steps step).status = .completed
      · simp only [if_pos completed] at member
        exact ih run entry member
      · simp only [if_neg completed] at member
        cases returned : (outcomes step).result with
        | error error =>
            rw [returned] at member
            obtain rfl | later := List.mem_cons.mp member
            · exact ⟨rfl, rfl⟩
            · obtain rfl := List.mem_singleton.mp later
              exact ⟨rfl, rfl⟩
        | ok output =>
            rw [returned] at member
            obtain rfl | later := List.mem_cons.mp member
            · exact ⟨rfl, rfl⟩
            · obtain rfl | later := List.mem_cons.mp later
              · exact ⟨rfl, rfl⟩
              · have owned := ih _ entry later
                exact owned

theorem execute_putEntries (run : MvpRun) :
    putEntries (execute context outcomes steps run).1 = [] := by
  induction steps generalizing run with
  | nil => rfl
  | cons step rest ih =>
      rw [execute]
      by_cases completed : (run.steps step).status = .completed
      · simp only [if_pos completed]
        exact ih run
      · simp only [if_neg completed]
        cases (outcomes step).result with
        | error error => rfl
        | ok output => exact ih _

theorem execute_calledSteps (distinct : steps.Nodup) (run : MvpRun) :
    calledSteps (execute context outcomes steps run).1 =
      workedSteps outcomes (openSteps run steps) := by
  induction steps generalizing run with
  | nil => rfl
  | cons step rest ih =>
      obtain ⟨notRest, distinctRest⟩ := List.nodup_cons.mp distinct
      rw [execute, openSteps, List.filter_cons]
      by_cases completed : (run.steps step).status = .completed
      · simp only [completed, if_true, ne_eq, not_true_eq_false, decide_false, Bool.false_eq_true,
          if_false]
        exact ih distinctRest run
      · simp only [completed, if_false, ne_eq, not_false_eq_true, decide_true, if_true, workedSteps]
        cases (outcomes step).result with
        | error error => rfl
        | ok output =>
            refine congrArg (step :: ·) ((ih distinctRest _).trans ?_)
            congr 1
            apply List.filter_congr
            intro query member
            have other : query ≠ step := fun same => notRest (same ▸ member)
            simp only [MvpRun.mergeEntityIds, MvpRun.setStep, if_neg other]

theorem execute_tenantId (run : MvpRun) :
    (execute context outcomes steps run).2.tenantId = run.tenantId := by
  induction steps generalizing run with
  | nil => rfl
  | cons step rest ih =>
      rw [execute]
      by_cases completed : (run.steps step).status = .completed
      · simp only [if_pos completed]
        exact ih run
      · simp only [if_neg completed]
        cases (outcomes step).result with
        | error error => rfl
        | ok output => exact ih _

end Execution

section Machine

variable (interpreter : Interpreter) (sha256 : String → String)

def OperatorCall.context : OperatorCall → TenantContext
  | createCustomer context _ _ => context
  | getCustomer context _ => context
  | listCustomers context _ => context
  | createRun context _ _ _ _ => context
  | resumeRun context _ _ _ => context
  | replayRun context _ => context
  | getRun context _ => context
  | listRuns context => context

/-- The tenants whose records an answer shows. -/
def OperatorAnswer.tenants : OperatorAnswer → List String
  | .record stored => [stored.tenantId]
  | .records stored => stored.map tenantId
  | .publicRun shown => [shown.tenantId]
  | .publicRuns shown => shown.map PublicRun.tenantId
  | .run stored => [stored.tenantId]

/-- A call changes no record of another tenant and shows none. -/
structure Isolated (state : OperatorState) (call : OperatorCall) : Prop where
  runs : KeepsForeign MvpRun.tenantId call.context.tenantId state.mvp.runs
    (OperatorState.step interpreter sha256 state call).2.mvp.runs
  idempotency : KeepsForeign IdempotencyEntry.tenantId call.context.tenantId state.mvp.idempotency
    (OperatorState.step interpreter sha256 state call).2.mvp.idempotency
  records : KeepsForeign tenantId call.context.tenantId state.records
    (OperatorState.step interpreter sha256 state call).2.records
  shown : ∀ answer, (OperatorState.step interpreter sha256 state call).1 = .ok answer →
    ∀ tenantId ∈ answer.tenants, tenantId = call.context.tenantId

variable (state : OperatorState)

/-- The handlers of some steps write under keys that are free or of their tenant. -/
def WritesOwn (context : TenantContext)
    (writes : WorkflowStep → List HandlerWrite) (steps : List WorkflowStep) : Prop :=
  ∀ step ∈ steps, ∀ entry ∈ writes step,
    FreeOrOwn tenantId context.tenantId state.records (entry.collection, entry.key)

/-- The run that a request finds by its key is of its tenant, and the keys of what a call puts are
free or of its tenant. -/
def UsesOwnKeys : OperatorCall → Prop
  | .createCustomer context payload _ => (payload.lookup "name").isSome →
      FreeOrOwn tenantId context.tenantId state.records
        ("renovation_customers", customerId context interpreter sha256 payload)
  | .createRun context request drawn outcomes writes => ∀ payload,
      normalizedPayload interpreter request = .ok payload →
        let key := idempotencyKey interpreter request
        match (if key = "" then none else getIdempotent state.mvp context key) with
        | some existing => existing.tenantId = context.tenantId
        | none => FreeOrOwn MvpRun.tenantId context.tenantId state.mvp.runs
              (requestedRunId interpreter sha256 context request key payload drawn) ∧
            WritesOwn state context writes (workedSteps outcomes workflowSteps)
  | .resumeRun context runId outcomes writes => ∀ run, state.mvp.runs.get? runId = some run →
      run.tenantId = context.tenantId → run.status ≠ .completed →
        WritesOwn state context writes (workedSteps outcomes (openSteps run workflowSteps))
  | _ => True

end Machine

section Isolation

variable {interpreter : Interpreter} {sha256 : String → String} {state : OperatorState}
  {context : TenantContext}

/-- A run is stored under its id, and an entry names a stored run. -/
structure Linked (store : MvpStore) : Prop where
  named : ∀ runId run, store.runs.get? runId = some run → run.runId = runId
  indexed : ∀ key entry, store.idempotency.get? key = some entry →
    ∃ run, store.runs.get? entry.runId = some run

theorem keepsForeign_refl {Key Record : Type*} [DecidableEq Key] (ownerOf : Record → String)
    (owner : String) (dict : Dict Key Record) : KeepsForeign ownerOf owner dict dict :=
  fun _ _ stored _ => stored

theorem writesOwn_iff (writes : WorkflowStep → List HandlerWrite) (steps : List WorkflowStep) :
    KeepsForeign tenantId context.tenantId state.records
        (write state.records (handlerRecords context writes steps)) ↔
      WritesOwn state context writes steps := by
  rw [keepsForeign_write_iff]
  · constructor
    · intro all step member entry listed
      apply all ((entry.collection, entry.key), .new context entry.now entry.artifact)
      exact List.mem_flatMap.mpr ⟨step, member, List.mem_map_of_mem listed⟩
    · intro all entry member
      obtain ⟨step, listed, written⟩ := List.mem_flatMap.mp member
      obtain ⟨made, inStep, rfl⟩ := List.mem_map.mp written
      exact all step listed made inStep
  · intro entry member
    obtain ⟨step, -, listed⟩ := List.mem_flatMap.mp member
    obtain ⟨written, -, rfl⟩ := List.mem_map.mp listed
    rfl

theorem tenantRun_eq_ok_iff {store : MvpStore} {runId : String} {run : MvpRun} :
    tenantRun store context runId = .ok run ↔
      store.runs.get? runId = some run ∧ run.tenantId = context.tenantId := by
  unfold tenantRun
  constructor
  · intro found
    split at found
    · cases found
    · rename_i stored present
      split at found
      · cases found
      · rename_i own
        obtain rfl := Except.ok.inj found
        exact ⟨present, not_not.mp own⟩
  · rintro ⟨present, own⟩
    rw [present]
    exact if_neg (not_not.mpr own)

variable {answer : Except PyError OperatorAnswer} {call : OperatorCall}

/-- A read changes nothing. -/
theorem isolated_read (step : OperatorState.step interpreter sha256 state call = (answer, state))
    (shown : ∀ shown, answer = .ok shown → ∀ tenantId ∈ shown.tenants,
      tenantId = call.context.tenantId) : Isolated interpreter sha256 state call := by
  constructor
  case runs =>
    rw [step]
    exact keepsForeign_refl _ _ _
  case idempotency =>
    rw [step]
    exact keepsForeign_refl _ _ _
  case records =>
    rw [step]
    exact keepsForeign_refl _ _ _
  case shown =>
    rw [step]
    exact shown

theorem isolated_getCustomer (customerId : String) :
    Isolated interpreter sha256 state (.getCustomer context customerId) := by
  apply isolated_read rfl
  intro shown answered tenantId member
  unfold getRecord at answered
  split at answered
  · cases answered
  · rename_i record present
    split at answered
    · cases answered
    · rename_i own
      obtain rfl := Except.ok.inj answered
      rw [List.mem_singleton.mp member]
      exact not_not.mp own

theorem isolated_listCustomers (page : PageRequest) :
    Isolated interpreter sha256 state (.listCustomers context page) := by
  apply isolated_read rfl
  intro shown answered tenantId member
  obtain rfl := Except.ok.inj answered
  obtain ⟨record, listed, rfl⟩ := List.mem_map.mp member
  have filtered := List.mem_of_mem_drop (List.mem_of_mem_take listed)
  exact of_decide_eq_true (List.mem_filter.mp (List.mem_filter.mp filtered).1).2

theorem isolated_getRun (runId : String) :
    Isolated interpreter sha256 state (.getRun context runId) := by
  apply isolated_read rfl
  intro shown answered tenantId member
  unfold getRun at answered
  cases found : tenantRun state.mvp context runId with
  | error exception =>
      rw [found] at answered
      cases answered
  | ok run =>
      rw [found] at answered
      obtain rfl := Except.ok.inj answered
      rw [List.mem_singleton.mp member]
      exact (tenantRun_eq_ok_iff.mp found).2

theorem isolated_listRuns : Isolated interpreter sha256 state (.listRuns context) := by
  apply isolated_read rfl
  intro shown answered tenantId member
  obtain rfl := Except.ok.inj answered
  obtain ⟨publicRun, listed, rfl⟩ := List.mem_map.mp member
  obtain ⟨run, stored, rfl⟩ := List.mem_map.mp listed
  exact of_decide_eq_true (List.mem_filter.mp stored).2

theorem isolated_createCustomer_iff (payload : Fields) (now : String) :
    Isolated interpreter sha256 state (.createCustomer context payload now) ↔
      UsesOwnKeys interpreter sha256 state (.createCustomer context payload now) := by
  cases named : payload.lookup "name" with
  | none =>
      have refused : OperatorState.step interpreter sha256 state (.createCustomer context payload now) =
          (.error (.keyError "name"), state) := by
        simp only [OperatorState.step, createCustomer, newCustomer, named]
        rfl
      refine iff_of_true (isolated_read refused nofun) ?_
      intro isNamed
      rw [named] at isNamed
      cases isNamed
  | some name =>
      obtain ⟨record, own, records⟩ : ∃ record : OperatorRecord, record.tenantId = context.tenantId ∧
          (OperatorState.step interpreter sha256 state
            (.createCustomer context payload now)).2.records =
            write state.records [(("renovation_customers",
              customerId context interpreter sha256 payload), record)] := by
        simp only [OperatorState.step, createCustomer, newCustomer, named]
        exact ⟨.new context now _, rfl, rfl⟩
      have shown : ∀ answer, (OperatorState.step interpreter sha256 state
          (.createCustomer context payload now)).1 = .ok answer →
            ∀ tenantId ∈ answer.tenants, tenantId = context.tenantId := by
        simp only [OperatorState.step, createCustomer, newCustomer, named]
        intro answer answered tenantId member
        obtain rfl := Except.ok.inj answered
        exact List.mem_singleton.mp member
      have mvp : (OperatorState.step interpreter sha256 state
          (.createCustomer context payload now)).2.mvp = state.mvp := by
        simp only [OperatorState.step, createCustomer, newCustomer, named]
        rfl
      have keeps_iff : KeepsForeign tenantId context.tenantId state.records
          (OperatorState.step interpreter sha256 state
            (.createCustomer context payload now)).2.records ↔
            FreeOrOwn tenantId context.tenantId state.records
              ("renovation_customers", customerId context interpreter sha256 payload) := by
        rw [records, keepsForeign_write_iff]
        · exact ⟨fun all => all _ (.head _),
            fun free entry member => List.mem_singleton.mp member ▸ free⟩
        · intro entry member
          rw [List.mem_singleton.mp member]
          exact own
      constructor
      · intro isolated _
        exact keeps_iff.mp isolated.records
      · intro free
        constructor
        case runs =>
          rw [mvp]
          exact keepsForeign_refl _ _ _
        case idempotency =>
          rw [mvp]
          exact keepsForeign_refl _ _ _
        case records => exact keeps_iff.mpr (free (by rw [named]; rfl))
        case shown => exact shown

/-- The effects of a call of a tenant keep the records of the others exactly when they use its own
keys. -/
theorem isolated_effects_iff
    {writes : WorkflowStep → List HandlerWrite} {effects : List MvpEffect}
    (step : OperatorState.step interpreter sha256 state call =
      (answer, state.performAll call.context writes effects))
    (ownRuns : ∀ entry ∈ putRuns effects, entry.2.tenantId = call.context.tenantId)
    (ownEntries : ∀ entry ∈ putEntries effects, entry.2.tenantId = call.context.tenantId)
    (freeEntries : ∀ entry ∈ putEntries effects,
      FreeOrOwn IdempotencyEntry.tenantId call.context.tenantId state.mvp.idempotency entry.1)
    (shown : ∀ shown, answer = .ok shown → ∀ tenantId ∈ shown.tenants,
      tenantId = call.context.tenantId) :
    Isolated interpreter sha256 state call ↔
      (∀ entry ∈ putRuns effects,
        FreeOrOwn MvpRun.tenantId call.context.tenantId state.mvp.runs entry.1) ∧
      WritesOwn state call.context writes (calledSteps effects) := by
  constructor
  · intro isolated
    have runs := isolated.runs
    have records := isolated.records
    rw [step, performAll_runs, keepsForeign_write_iff ownRuns] at runs
    rw [step, performAll_records, writesOwn_iff] at records
    exact ⟨runs, records⟩
  · rintro ⟨runs, records⟩
    constructor
    case runs =>
      rw [step, performAll_runs, keepsForeign_write_iff ownRuns]
      exact runs
    case idempotency =>
      rw [step, performAll_idempotency, keepsForeign_write_iff ownEntries]
      exact freeEntries
    case records =>
      rw [step, performAll_records, writesOwn_iff]
      exact records
    case shown =>
      rw [step]
      exact shown

section CreatedRuns

variable {request : Fields} {drawn : String} {outcomes : WorkflowStep → StepOutcome}
  {writes : WorkflowStep → List HandlerWrite} {payload : Fields} {store : MvpStore}

theorem createRun_error {exception : PyError}
    (refused : normalizedPayload interpreter request = .error exception) :
    createRun store context interpreter sha256 request drawn outcomes = (.error exception, []) := by
  simp only [createRun, requestedRun, refused, bind, Except.bind]

theorem createRun_existing {existing : PublicRun}
    (normal : normalizedPayload interpreter request = .ok payload)
    (found : (if idempotencyKey interpreter request = "" then none
      else getIdempotent store context (idempotencyKey interpreter request)) = some existing) :
    createRun store context interpreter sha256 request drawn outcomes = (.ok existing, []) := by
  simp only [createRun, requestedRun, normal, bind, Except.bind, found]

theorem createRun_new (drawn : String) (outcomes : WorkflowStep → StepOutcome)
    (normal : normalizedPayload interpreter request = .ok payload)
    (absent : (if idempotencyKey interpreter request = "" then none
      else getIdempotent store context (idempotencyKey interpreter request)) = none) :
    ∃ run, run = newRun context (requestedRunId interpreter sha256 context request
        (idempotencyKey interpreter request) payload drawn) (idempotencyKey interpreter request)
        payload ∧
      createRun store context interpreter sha256 request drawn outcomes =
        (.ok (execute context outcomes workflowSteps run).2.publicRun,
          (started context outcomes run).1) := by
  refine ⟨_, rfl, ?_⟩
  simp only [createRun, requestedRun, normal, bind, Except.bind, absent]
  rfl

variable (run : MvpRun)

theorem putRuns_started : putRuns (started context outcomes run).1 =
    (run.runId, run) :: putRuns (execute context outcomes workflowSteps run).1 := by
  unfold started
  by_cases unkeyed : run.idempotencyKey = "" <;> simp only [unkeyed, if_true, if_false] <;> rfl

theorem putEntries_started : putEntries (started context outcomes run).1 =
    if run.idempotencyKey = "" then [] else
      [(idempotencyIndexKey context run.idempotencyKey,
        ⟨context.tenantId, run.idempotencyKey, run.runId⟩)] := by
  have rest := execute_putEntries context outcomes workflowSteps run
  unfold started
  by_cases unkeyed : run.idempotencyKey = ""
  · simp only [unkeyed, if_true]
    exact rest
  · simp only [unkeyed, if_false]
    exact congrArg (_ :: ·) rest

theorem calledSteps_started : calledSteps (started context outcomes run).1 =
    calledSteps (execute context outcomes workflowSteps run).1 := by
  unfold started
  by_cases unkeyed : run.idempotencyKey = "" <;> simp only [unkeyed, if_true, if_false] <;> rfl

/-- An entry whose run is missing is not there. -/
theorem get?_entry_of_absent (linked : Linked store) {key : String}
    (absent : getIdempotent store context key = none) :
    store.idempotency.get? (idempotencyIndexKey context key) = none := by
  cases stored : store.idempotency.get? (idempotencyIndexKey context key) with
  | none => rfl
  | some entry =>
      obtain ⟨run, present⟩ := linked.indexed _ _ stored
      simp only [getIdempotent, stored, present, Option.bind_eq_bind, Option.bind_some] at absent
      cases absent

theorem isolated_createRun_iff (linked : Linked state.mvp) :
    Isolated interpreter sha256 state (.createRun context request drawn outcomes writes) ↔
      UsesOwnKeys interpreter sha256 state (.createRun context request drawn outcomes writes) := by
  cases normal : normalizedPayload interpreter request with
  | error exception =>
      have refused : OperatorState.step interpreter sha256 state
          (.createRun context request drawn outcomes writes) = (.error exception, state) := by
        simp only [OperatorState.step, createRun_error normal]
        rfl
      refine iff_of_true (isolated_read refused nofun) ?_
      intro payload other
      rw [normal] at other
      cases other
  | ok payload =>
      have condition : UsesOwnKeys interpreter sha256 state
          (.createRun context request drawn outcomes writes) ↔
          match (if idempotencyKey interpreter request = "" then none
            else getIdempotent state.mvp context (idempotencyKey interpreter request)) with
          | some existing => existing.tenantId = context.tenantId
          | none => FreeOrOwn MvpRun.tenantId context.tenantId state.mvp.runs
                (requestedRunId interpreter sha256 context request
                  (idempotencyKey interpreter request) payload drawn) ∧
              WritesOwn state context writes (workedSteps outcomes workflowSteps) := by
        constructor
        · exact fun uses => uses payload normal
        · intro holds other same
          obtain rfl := Except.ok.inj (normal.symm.trans same)
          exact holds
      rw [condition]
      cases found : (if idempotencyKey interpreter request = "" then none
        else getIdempotent state.mvp context (idempotencyKey interpreter request)) with
      | some existing =>
          have answered : OperatorState.step interpreter sha256 state
              (.createRun context request drawn outcomes writes) =
                (.ok (.publicRun existing), state) := by
            simp only [OperatorState.step, createRun_existing normal found]
            rfl
          constructor
          · intro isolated
            exact isolated.shown _ (congrArg Prod.fst answered) _ (.head _)
          · intro own
            refine isolated_read answered ?_
            intro shown same tenantId member
            obtain rfl := Except.ok.inj same
            rw [List.mem_singleton.mp member]
            exact own
      | none =>
          obtain ⟨run, created, new⟩ := createRun_new drawn outcomes normal found
          have own : run.tenantId = context.tenantId := by
            rw [created]
            rfl
          have name : run.runId = requestedRunId interpreter sha256 context request
              (idempotencyKey interpreter request) payload drawn := by
            rw [created]
            rfl
          have key : run.idempotencyKey = idempotencyKey interpreter request := by
            rw [created]
            rfl
          have step : OperatorState.step interpreter sha256 state
              (.createRun context request drawn outcomes writes) =
                (.ok (.publicRun (execute context outcomes workflowSteps run).2.publicRun),
                  state.performAll context writes (started context outcomes run).1) := by
            simp only [OperatorState.step, new]
            rfl
          have executed := execute_putRuns context outcomes workflowSteps run
          have runs : ∀ entry ∈ putRuns (started context outcomes run).1,
              entry.1 = run.runId ∧ entry.2.tenantId = run.tenantId := by
            intro entry member
            rw [putRuns_started] at member
            obtain rfl | later := List.mem_cons.mp member
            · exact ⟨rfl, rfl⟩
            · exact executed entry later
          have free_iff : (∀ entry ∈ putRuns (started context outcomes run).1,
              FreeOrOwn MvpRun.tenantId context.tenantId state.mvp.runs entry.1) ↔
                FreeOrOwn MvpRun.tenantId context.tenantId state.mvp.runs run.runId := by
            constructor
            · intro all
              refine all (run.runId, run) ?_
              rw [putRuns_started]
              exact .head _
            · intro free entry member
              rw [(runs entry member).1]
              exact free
          have called : calledSteps (started context outcomes run).1 =
              workedSteps outcomes workflowSteps := by
            have unstarted : openSteps run workflowSteps = workflowSteps := by
              rw [created]
              rfl
            rw [calledSteps_started, execute_calledSteps context outcomes workflowSteps (by decide),
              unstarted]
          refine (isolated_effects_iff step ?_ ?_ ?_ ?_).trans ?_
          · intro entry member
            exact (runs entry member).2.trans own
          · intro entry member
            rw [putEntries_started] at member
            split at member
            · cases member
            · rw [List.mem_singleton.mp member]
              rfl
          · intro entry member
            rw [putEntries_started] at member
            split at member
            · cases member
            · rename_i keyed
              rw [key] at keyed
              rw [if_neg keyed] at found
              rw [List.mem_singleton.mp member, key]
              intro stored present
              rw [get?_entry_of_absent linked found] at present
              cases present
          · intro shown same tenantId member
            obtain rfl := Except.ok.inj same
            rw [List.mem_singleton.mp member]
            exact (execute_tenantId context outcomes workflowSteps run).trans own
          · rw [called]
            exact and_congr_left' (free_iff.trans (by rw [name]))

end CreatedRuns

section StoredRuns

variable {runId : String} {outcomes : WorkflowStep → StepOutcome}
  {writes : WorkflowStep → List HandlerWrite}

/-- A key under which a tenant has its run is its own. -/
theorem freeOrOwn_of_stored {runs : Dict String MvpRun} {run : MvpRun}
    (present : runs.get? runId = some run) (own : run.tenantId = context.tenantId) :
    FreeOrOwn MvpRun.tenantId context.tenantId runs runId := by
  intro stored again
  obtain rfl := Option.some.inj (present.symm.trans again)
  exact own

theorem openSteps_resumed (run : MvpRun) (steps : List WorkflowStep) :
    openSteps (resumed run) steps = openSteps run steps := by
  apply List.filter_congr
  intro step _
  by_cases failed : (run.steps step).status = .failed
  · have pending : (resumed run).steps step =
        { run.steps step with status := .pending, error := "" } := if_pos failed
    simp [pending, failed]
  · have kept : (resumed run).steps step = run.steps step := if_neg failed
    rw [kept]

theorem isolated_resumeRun_iff (linked : Linked state.mvp) :
    Isolated interpreter sha256 state (.resumeRun context runId outcomes writes) ↔
      UsesOwnKeys interpreter sha256 state (.resumeRun context runId outcomes writes) := by
  cases found : tenantRun state.mvp context runId with
  | error exception =>
      have refused : OperatorState.step interpreter sha256 state
          (.resumeRun context runId outcomes writes) = (.error exception, state) := by
        simp only [OperatorState.step, resumeRun, found]
        rfl
      refine iff_of_true (isolated_read refused nofun) ?_
      intro run present own
      rw [tenantRun_eq_ok_iff.mpr ⟨present, own⟩] at found
      cases found
  | ok run =>
      obtain ⟨present, own⟩ := tenantRun_eq_ok_iff.mp found
      have name := linked.named _ _ present
      by_cases completed : run.status = .completed
      · have answered : OperatorState.step interpreter sha256 state
            (.resumeRun context runId outcomes writes) = (.ok (.publicRun run.publicRun), state) := by
          simp only [OperatorState.step, resumeRun, found, if_pos completed]
          rfl
        refine iff_of_true (isolated_read answered ?_) ?_
        · intro shown same tenantId member
          obtain rfl := Except.ok.inj same
          rw [List.mem_singleton.mp member]
          exact own
        · intro stored again _ unfinished
          obtain rfl := Option.some.inj (present.symm.trans again)
          exact absurd completed unfinished
      · generalize listed : (MvpEffect.putRun (resumed run) ::
            event context "renovation.mvp.run.resumed" runId
              [("resume_count", .int (resumed run).resumeCount)] ::
            (execute context outcomes workflowSteps (resumed run)).1) = effects
        have step : OperatorState.step interpreter sha256 state
            (.resumeRun context runId outcomes writes) =
              (.ok (.publicRun (execute context outcomes workflowSteps (resumed run)).2.publicRun),
                state.performAll context writes effects) := by
          simp only [OperatorState.step, resumeRun, found, if_neg completed, ← listed]
          rfl
        have runs : ∀ entry ∈ putRuns effects, entry.1 = runId ∧ entry.2.tenantId = context.tenantId := by
          intro entry member
          rw [← listed] at member
          obtain rfl | later := List.mem_cons.mp member
          · exact ⟨name, own⟩
          · have owned := execute_putRuns context outcomes workflowSteps (resumed run) entry later
            exact ⟨owned.1.trans name, owned.2.trans own⟩
        have entries : putEntries effects = [] := by
          rw [← listed]
          exact execute_putEntries context outcomes workflowSteps (resumed run)
        have called : calledSteps effects = workedSteps outcomes (openSteps run workflowSteps) := by
          rw [← listed, ← openSteps_resumed]
          exact execute_calledSteps context outcomes workflowSteps (by decide) (resumed run)
        refine (isolated_effects_iff step ?_ ?_ ?_ ?_).trans ?_
        · exact fun entry member => (runs entry member).2
        · rw [entries]
          exact nofun
        · rw [entries]
          exact nofun
        · intro shown same tenantId member
          obtain rfl := Except.ok.inj same
          rw [List.mem_singleton.mp member]
          exact (execute_tenantId context outcomes workflowSteps (resumed run)).trans own
        · rw [called]
          constructor
          · rintro ⟨-, holds⟩ stored again - -
            obtain rfl := Option.some.inj (present.symm.trans again)
            exact holds
          · intro holds
            refine ⟨?_, holds run present own completed⟩
            intro entry member
            rw [(runs entry member).1]
            exact freeOrOwn_of_stored present own

theorem isolated_replayRun (linked : Linked state.mvp) (runId : String) :
    Isolated interpreter sha256 state (.replayRun context runId) := by
  cases found : tenantRun state.mvp context runId with
  | error exception =>
      have refused : OperatorState.step interpreter sha256 state (.replayRun context runId) =
          (.error exception, state) := by
        simp only [OperatorState.step, replayRun, found]
        rfl
      exact isolated_read refused nofun
  | ok run =>
      obtain ⟨present, own⟩ := tenantRun_eq_ok_iff.mp found
      have name := linked.named _ _ present
      have step : OperatorState.step interpreter sha256 state (.replayRun context runId) =
          (.ok (.publicRun (replayed run).publicRun), state.performAll context (fun _ => [])
            [.putRun (replayed run), event context "renovation.mvp.run.replayed" runId
              [("replay_count", .int (replayed run).replayCount)]]) := by
        simp only [OperatorState.step, replayRun, found]
        rfl
      refine (isolated_effects_iff step ?_ nofun nofun ?_).mpr ⟨?_, nofun⟩
      · intro entry member
        rw [List.mem_singleton.mp member]
        exact own
      · intro shown same tenantId member
        obtain rfl := Except.ok.inj same
        rw [List.mem_singleton.mp member]
        exact own
      · intro entry member
        rw [List.mem_singleton.mp member]
        exact freeOrOwn_of_stored (name.symm ▸ present) own

end StoredRuns

/-- A call is isolated exactly when it uses keys of its own. -/
theorem isolated_iff (linked : Linked state.mvp) (call : OperatorCall) :
    Isolated interpreter sha256 state call ↔ UsesOwnKeys interpreter sha256 state call := by
  cases call with
  | createCustomer context payload now => exact isolated_createCustomer_iff payload now
  | getCustomer context customerId => exact iff_of_true (isolated_getCustomer customerId) trivial
  | listCustomers context page => exact iff_of_true (isolated_listCustomers page) trivial
  | createRun context request drawn outcomes writes => exact isolated_createRun_iff linked
  | resumeRun context runId outcomes writes => exact isolated_resumeRun_iff linked
  | replayRun context runId => exact iff_of_true (isolated_replayRun linked runId) trivial
  | getRun context runId => exact iff_of_true (isolated_getRun runId) trivial
  | listRuns context => exact iff_of_true isolated_listRuns trivial

end Isolation

section Links

variable {interpreter : Interpreter} {sha256 : String → String} {state : OperatorState}
  {context : TenantContext} {writes : WorkflowStep → List HandlerWrite} {effects : List MvpEffect}

theorem name_of_mem_putRuns {entry : String × MvpRun} (member : entry ∈ putRuns effects) :
    entry.2.runId = entry.1 := by
  obtain ⟨effect, -, put⟩ := List.mem_filterMap.mp member
  cases effect with
  | putRun run => rw [← Option.some.inj put]
  | _ => cases put

/-- Effects that persist the run of each entry that they persist keep the links. -/
theorem Linked.performAll (linked : Linked state.mvp)
    (entries : ∀ entry ∈ putEntries effects, ∃ put ∈ putRuns effects, put.1 = entry.2.runId) :
    Linked (state.performAll context writes effects).mvp := by
  constructor
  case named =>
    intro runId run stored
    rw [performAll_runs] at stored
    by_cases written : ∃ put ∈ putRuns effects, put.1 = runId
    · obtain ⟨put, member, name, last⟩ := get?_write_of_mem state.mvp.runs written
      obtain rfl := Option.some.inj (last.symm.trans stored)
      rw [name_of_mem_putRuns member, name]
    · rw [get?_write_of_not_mem fun put member name => written ⟨put, member, name⟩] at stored
      exact linked.named _ _ stored
  case indexed =>
    intro key entry stored
    rw [performAll_idempotency] at stored
    rw [performAll_runs]
    by_cases put : ∃ put ∈ putRuns effects, put.1 = entry.runId
    · obtain ⟨last, -, -, present⟩ := get?_write_of_mem state.mvp.runs put
      exact ⟨last.2, present⟩
    · rw [get?_write_of_not_mem fun run member name => put ⟨run, member, name⟩]
      by_cases written : ∃ made ∈ putEntries effects, made.1 = key
      · obtain ⟨made, member, -, last⟩ := get?_write_of_mem state.mvp.idempotency written
        obtain rfl := Option.some.inj (last.symm.trans stored)
        exact absurd (entries made member) put
      · rw [get?_write_of_not_mem fun made member name => written ⟨made, member, name⟩] at stored
        exact linked.indexed _ _ stored

theorem started_linked (outcomes : WorkflowStep → StepOutcome) (run : MvpRun) :
    ∀ entry ∈ putEntries (started context outcomes run).1,
      ∃ put ∈ putRuns (started context outcomes run).1, put.1 = entry.2.runId := by
  intro entry member
  rw [putEntries_started] at member
  rw [putRuns_started]
  split at member
  · cases member
  · rw [List.mem_singleton.mp member]
    exact ⟨_, .head _, rfl⟩

theorem Linked.step (linked : Linked state.mvp) (call : OperatorCall) :
    Linked (OperatorState.step interpreter sha256 state call).2.mvp := by
  cases call with
  | createCustomer context payload now =>
      have kept : (OperatorState.step interpreter sha256 state
          (.createCustomer context payload now)).2.mvp = state.mvp := by
        simp only [OperatorState.step, createCustomer]
        split <;> rfl
      rw [kept]
      exact linked
  | createRun context request drawn outcomes writes =>
      have effects : Linked (state.performAll context writes
          (createRun state.mvp context interpreter sha256 request drawn outcomes).2).mvp := by
        unfold createRun
        split
        · exact linked
        · exact linked
        · exact linked.performAll (started_linked outcomes _)
      exact effects
  | resumeRun context runId outcomes writes =>
      have effects : Linked (state.performAll context writes
          (resumeRun state.mvp context runId outcomes).2).mvp := by
        unfold resumeRun
        split
        · exact linked
        · rename_i run _
          by_cases completed : run.status = .completed
          · simp only [if_pos completed]
            exact linked
          · simp only [if_neg completed]
            apply linked.performAll
            intro entry member
            have none := execute_putEntries context outcomes workflowSteps (resumed run)
            have absent : entry ∈ putEntries (execute context outcomes workflowSteps (resumed run)).1 :=
              member
            rw [none] at absent
            cases absent
      exact effects
  | replayRun context runId =>
      have effects : Linked (state.performAll context (fun _ => [])
          (replayRun state.mvp context runId).2).mvp := by
        unfold replayRun
        split
        · exact linked
        · exact linked.performAll nofun
      exact effects
  | getCustomer context customerId => exact linked
  | listCustomers context page => exact linked
  | getRun context runId => exact linked
  | listRuns context => exact linked

end Links

/-- The tenants are isolated throughout a run of calls exactly when every call uses keys of its
tenant. -/
theorem tenants_isolated_iff (interpreter : Interpreter) (sha256 : String → String)
    (calls : List OperatorCall) :
    Guarded (OperatorState.step interpreter sha256) (Isolated interpreter sha256) .initial calls ↔
      Guarded (OperatorState.step interpreter sha256) (UsesOwnKeys interpreter sha256) .initial
        calls := by
  have initial : Linked OperatorState.initial.mvp := ⟨nofun, nofun⟩
  generalize OperatorState.initial = state at initial
  induction calls generalizing state with
  | nil => exact Iff.rfl
  | cons call rest ih => exact and_congr (isolated_iff initial call) (ih _ (initial.step call))

variable (tenantId : String)

/-- A tenant with the same user and organization name as every other. -/
def tenantContext : TenantContext := ⟨tenantId, "org", "alice"⟩

/-- A run whose handlers return nothing and write nothing. -/
def quietRun (request : Fields) : OperatorCall :=
  .createRun (tenantContext tenantId) request "4f0a" (fun _ => ⟨.ok [], ⟨.obj [], .obj [], .obj []⟩⟩)
    fun _ => []

/-- An interpreter that renders no value, for requests of texts. -/
def requestInterpreter : Interpreter := ⟨fun _ => true, fun _ => 0, fun _ => true⟩

/-- A machine of the calls with one digest. -/
def requestStep : Machine OperatorState OperatorCall (Except PyError OperatorAnswer) :=
  OperatorState.step requestInterpreter fun _ => "5f2c"

/-- The calls of two tenants are not isolated. -/
def Leaks (calls : List OperatorCall) : Prop :=
  ¬ Guarded requestStep (Isolated requestInterpreter fun _ => "5f2c") .initial calls

/-- A tenant replaces the customer and the run of another tenant under their ids, and a joined key
shows it the run of another tenant. -/
theorem tenants_not_isolated :
    Leaks [
      .createCustomer (tenantContext "tenant-b") [("customer_id", .str "c-1"), ("name", .str "Bo")]
        "2026-08-01T00:00:00+00:00",
      .createCustomer (tenantContext "tenant-a") [("customer_id", .str "c-1"), ("name", .str "Al")]
        "2026-08-02T00:00:00+00:00"] ∧
    Leaks [
      quietRun "tenant-b" [("run_id", .str "run-1")],
      quietRun "tenant-a" [("run_id", .str "run-1")]] ∧
    Leaks [
      quietRun "a:b" [("idempotency_key", .str "c")],
      quietRun "a" [("idempotency_key", .str "b:c")]] := by
  refine ⟨?_, ?_, ?_⟩
  · rintro ⟨-, isolated, -⟩
    have kept := isolated.records ("renovation_customers", "c-1") _ rfl (by decide)
    exact absurd (congrArg tenantId (Option.some.inj kept)) (by decide)
  · rintro ⟨-, isolated, -⟩
    let first := (requestStep .initial (quietRun "tenant-b" [("run_id", .str "run-1")])).2
    let second := (requestStep first (quietRun "tenant-a" [("run_id", .str "run-1")])).2
    have owner : (first.mvp.runs.get? "run-1").map MvpRun.tenantId = some "tenant-b" := by decide
    have newOwner : (second.mvp.runs.get? "run-1").map MvpRun.tenantId = some "tenant-a" := by
      decide
    obtain ⟨run, stored, name⟩ := Option.map_eq_some_iff.mp owner
    have kept : second.mvp.runs.get? "run-1" = some run :=
      isolated.runs "run-1" run stored (by rw [name]; decide)
    rw [kept, Option.map_some, name] at newOwner
    exact absurd newOwner (by decide)
  · rintro ⟨-, isolated, -⟩
    let first := (requestStep .initial (quietRun "a:b" [("idempotency_key", .str "c")])).2
    have shown : (requestStep first (quietRun "a" [("idempotency_key", .str "b:c")])).1.toOption.map
        OperatorAnswer.tenants = some ["a:b"] := by
      decide
    cases answered : (requestStep first (quietRun "a" [("idempotency_key", .str "b:c")])).1 with
    | error exception =>
        rw [answered] at shown
        cases shown
    | ok answer =>
        rw [answered] at shown
        have tenants : answer.tenants = ["a:b"] := Option.some.inj shown
        have own := isolated.shown answer answered "a:b" (by rw [tenants]; exact List.mem_cons_self)
        exact absurd own (by decide)

end AgentFabric.Renovation
