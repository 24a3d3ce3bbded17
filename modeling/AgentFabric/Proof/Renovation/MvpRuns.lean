import AgentFabric.Construction.Renovation.MvpWorkflow

namespace AgentFabric.Renovation
open Transition MvpWorkflow

/-- The completed steps of a run come first, at most the next step is under way or failed, and the
status of the run says so. -/
structure Staged (run : MvpRun) (done rest : List WorkflowStep) : Prop where
  split : done ++ rest = workflowSteps
  completed : ∀ step ∈ done, (run.steps step).status = .completed
  next : ∀ step, rest.head? = some step → (run.steps step).status ≠ .completed
  pending : ∀ step ∈ rest.tail, (run.steps step).status = .pending
  failed : ∀ step, rest.head? = some step →
    ((run.steps step).status = .failed ↔ run.status = .failed)
  failedStep : run.failedStep = if run.status = .failed then rest.head? else none
  unfinished : run.status = .failed → rest ≠ []
  finished : run.status = .completed → rest = []

/-- A later version of a run keeps its completed steps, and a completed run is only counted. -/
structure Follows (before after : MvpRun) : Prop where
  steps : ∀ step, (before.steps step).status = .completed → after.steps step = before.steps step
  frozen : before.status = .completed → ∃ count, after = { before with replayCount := count }

/-- An effect that the state machine of the runs allows. -/
def Legal (store : MvpStore) : MvpEffect → Prop
  | .putRun run => (∃ done rest, Staged run done rest) ∧
      ∀ before, store.runs.get? run.runId = some before → Follows before run
  | .called runId step => ∀ run, store.runs.get? runId = some run →
      (run.steps step).status ≠ .completed
  | .putIdempotency _ _ => True
  | .event _ => True

/-- The effects persist runs of one id and one tenant. -/
def Own (runId tenantId : String) (effects : List MvpEffect) : Prop :=
  ∀ run, .putRun run ∈ effects → run.runId = runId ∧ run.tenantId = tenantId

section Steps

variable (run : MvpRun) (step : WorkflowStep) (record : StepRecord)

@[simp] theorem setStep_self : (run.setStep step record).steps step = record := if_pos rfl

theorem setStep_of_ne {query : WorkflowStep} (other : query ≠ step) :
    (run.setStep step record).steps query = run.steps query := if_neg other

theorem workflowSteps_nodup : workflowSteps.Nodup := by decide

end Steps

section Effects

variable {store : MvpStore} {effects : List MvpEffect} {runId tenantId : String}

theorem after_append (store : MvpStore) (first second : List MvpEffect) :
    store.after (first ++ second) = (store.after first).after second := run_append _ _ _ _

theorem Own.append {first second : List MvpEffect} (own : Own runId tenantId first)
    (ownSecond : Own runId tenantId second) : Own runId tenantId (first ++ second) := by
  intro run member
  exact (List.mem_append.mp member).elim (own run) (ownSecond run)

section

variable (own : Own runId tenantId effects)
include own

theorem Own.take (count : Nat) : Own runId tenantId (effects.take count) :=
  fun run member => own run (List.mem_of_mem_take member)

/-- The runs of other ids stay as they are. -/
theorem Own.get?_after {query : String} (other : query ≠ runId) :
    (store.after effects).runs.get? query = store.runs.get? query := by
  induction effects generalizing store with
  | nil => rfl
  | cons effect rest ih =>
      have kept : (store.apply effect).runs.get? query = store.runs.get? query := by
        cases effect with
        | putRun run =>
            have name := (own run (.head _)).1
            exact Dict.get?_set_of_ne _ _ (name ▸ other)
        | putIdempotency key entry => rfl
        | called runId step => rfl
        | event event => rfl
      exact (ih fun run member => own run (.tail _ member)).trans kept

/-- The run of the id is the one before, or a run that the effects persist. -/
theorem Own.stored_after {run : MvpRun}
    (stored : (store.after effects).runs.get? runId = some run) :
    store.runs.get? runId = some run ∨ .putRun run ∈ effects := by
  induction effects generalizing store with
  | nil => exact .inl stored
  | cons effect rest ih =>
      obtain earlier | later := ih (fun run member => own run (.tail _ member)) stored
      · cases effect with
        | putRun first =>
            have name := (own first (.head _)).1
            have replaced : ((store.apply (.putRun first)).runs.get? runId) = some first := by
              rw [← name]
              exact Dict.get?_set_self _ _ _
            obtain rfl := Option.some.inj (replaced.symm.trans earlier)
            exact .inr (.head _)
        | putIdempotency key entry => exact .inl earlier
        | called runId step => exact .inl earlier
        | event event => exact .inl earlier
      · exact .inr (.tail _ later)

end

end Effects

section Stages

variable {run : MvpRun} {done rest : List WorkflowStep} {step : WorkflowStep}

theorem Staged.not_mem (staged : Staged run done (step :: rest)) : step ∉ done ∧ step ∉ rest := by
  have distinct := staged.split ▸ workflowSteps_nodup
  obtain ⟨-, next, apart⟩ := List.nodup_append'.mp distinct
  exact ⟨fun member => apart member (.head _), (List.nodup_cons.mp next).1⟩

variable {changed : MvpRun} {record : StepRecord}

/-- A step is under way or has failed. -/
theorem Staged.setNext (staged : Staged run done (step :: rest))
    (steps : changed.steps = (run.setStep step record).steps)
    (uncompleted : record.status ≠ .completed)
    (status : record.status = .failed ↔ changed.status = .failed)
    (unfinished : changed.status ≠ .completed)
    (failedStep : changed.failedStep = if changed.status = .failed then some step else none) :
    Staged changed done (step :: rest) := by
  obtain ⟨notDone, notRest⟩ := staged.not_mem
  have others : ∀ query, query ≠ step → changed.steps query = run.steps query := by
    intro query other
    rw [steps, setStep_of_ne _ _ _ other]
  have own : changed.steps step = record := by rw [steps, setStep_self]
  constructor
  case split => exact staged.split
  case completed =>
    intro query member
    rw [others _ fun same => notDone (same ▸ member)]
    exact staged.completed _ member
  case next =>
    rintro query head
    obtain rfl := Option.some.inj head
    rw [own]
    exact uncompleted
  case pending =>
    intro query member
    rw [others _ fun same => notRest (same ▸ member)]
    exact staged.pending _ member
  case failed =>
    rintro query head
    obtain rfl := Option.some.inj head
    rw [own]
    exact status
  case failedStep => exact failedStep
  case unfinished => exact fun _ => List.cons_ne_nil _ _
  case finished => exact fun completed => absurd completed unfinished

/-- A completed step makes the next one current. -/
theorem Staged.complete (staged : Staged run done (step :: rest))
    (steps : changed.steps = (run.setStep step record).steps)
    (completed : record.status = .completed) (running : changed.status = .running)
    (failedStep : changed.failedStep = none) : Staged changed (done ++ [step]) rest := by
  obtain ⟨notDone, notRest⟩ := staged.not_mem
  have others : ∀ query, query ≠ step → changed.steps query = run.steps query := by
    intro query other
    rw [steps, setStep_of_ne _ _ _ other]
  have pending : ∀ query ∈ rest, (changed.steps query).status = .pending := by
    intro query member
    rw [others _ fun same => notRest (same ▸ member)]
    exact staged.pending _ member
  constructor
  case split => rw [List.append_assoc, List.singleton_append, staged.split]
  case completed =>
    intro query member
    obtain earlier | last := List.mem_append.mp member
    · rw [others _ fun same => notDone (same ▸ earlier)]
      exact staged.completed _ earlier
    · rw [List.mem_singleton.mp last, steps, setStep_self, completed]
  case next =>
    intro query head
    rw [pending _ (List.mem_of_mem_head? head)]
    exact StepStatus.noConfusion
  case pending => exact fun query member => pending _ (List.mem_of_mem_tail member)
  case failed =>
    intro query head
    rw [pending _ (List.mem_of_mem_head? head), running]
    exact iff_of_false StepStatus.noConfusion RunStatus.noConfusion
  case failedStep =>
    rw [failedStep, running]
    rfl
  case unfinished =>
    rw [running]
    exact RunStatus.noConfusion
  case finished =>
    rw [running]
    exact RunStatus.noConfusion

/-- A resumed run is at the same step, which is not failed any more. -/
theorem Staged.resumed (staged : Staged run done rest) : Staged (resumed run) done rest := by
  have kept : ∀ query, (run.steps query).status ≠ .failed →
      (MvpWorkflow.resumed run).steps query = run.steps query := fun query other => if_neg other
  have reset : ∀ query, (run.steps query).status = .failed →
      ((MvpWorkflow.resumed run).steps query).status = .pending := by
    intro query failed
    have pending : (MvpWorkflow.resumed run).steps query =
        { run.steps query with status := .pending, error := "" } := if_pos failed
    rw [pending]
  constructor
  case split => exact staged.split
  case completed =>
    intro query member
    have completed := staged.completed _ member
    rw [kept _ (by rw [completed]; exact StepStatus.noConfusion), completed]
  case next =>
    intro query head
    by_cases failed : (run.steps query).status = .failed
    · rw [reset _ failed]
      exact StepStatus.noConfusion
    · rw [kept _ failed]
      exact staged.next _ head
  case pending =>
    intro query member
    have pending := staged.pending _ member
    rw [kept _ (by rw [pending]; exact StepStatus.noConfusion), pending]
  case failed =>
    intro query head
    refine iff_of_false ?_ RunStatus.noConfusion
    by_cases failed : (run.steps query).status = .failed
    · rw [reset _ failed]
      exact StepStatus.noConfusion
    · rw [kept _ failed]
      exact failed
  case failedStep => rfl
  case unfinished => exact RunStatus.noConfusion
  case finished => exact RunStatus.noConfusion

theorem follows_resumed (unfinished : run.status ≠ .completed) : Follows run (resumed run) where
  steps step completed := if_neg (by rw [completed]; exact StepStatus.noConfusion)
  frozen finished := absurd finished unfinished

theorem follows_replayed (run : MvpRun) : Follows run (replayed run) where
  steps _ _ := rfl
  frozen _ := ⟨_, rfl⟩

theorem Staged.replayed (staged : Staged run done rest) : Staged (replayed run) done rest where
  split := staged.split
  completed := staged.completed
  next := staged.next
  pending := staged.pending
  failed := staged.failed
  failedStep := staged.failedStep
  unfinished := staged.unfinished
  finished := staged.finished

/-- A run at its end has no step left. -/
theorem Staged.finish (staged : Staged run done []) :
    Staged { run with status := .completed, error := "", failedStep := none } done [] where
  split := staged.split
  completed := staged.completed
  next _ head := nomatch head
  pending _ member := nomatch member
  failed _ head := nomatch head
  failedStep := rfl
  unfinished := RunStatus.noConfusion
  finished _ := rfl

/-- A change of the step that is not completed keeps what a run has completed. -/
theorem follows_setStep (running : run.status = .running)
    (steps : changed.steps = (run.setStep step record).steps)
    (uncompleted : (run.steps step).status ≠ .completed) : Follows run changed where
  steps query completed := by
    have other : query ≠ step := fun same => uncompleted (same ▸ completed)
    rw [steps, setStep_of_ne _ _ _ other]
  frozen finished := by
    rw [running] at finished
    cases finished

theorem staged_newRun (context : TenantContext) (runId idempotencyKey : String) (payload : Fields) :
    Staged (newRun context runId idempotencyKey payload) [] workflowSteps := by
  constructor
  case split => rfl
  case completed => exact fun query member => nomatch member
  case next => exact fun query head => StepStatus.noConfusion
  case pending => exact fun query member => rfl
  case failed => exact fun query head => iff_of_false StepStatus.noConfusion RunStatus.noConfusion
  case failedStep => rfl
  case unfinished => exact RunStatus.noConfusion
  case finished => exact RunStatus.noConfusion

end Stages

section Execution

variable {context : TenantContext} {outcomes : WorkflowStep → StepOutcome} {run : MvpRun}
  {done rest : List WorkflowStep}

theorem execute_skip (completed : ∀ step ∈ done, (run.steps step).status = .completed) :
    execute context outcomes (done ++ rest) run = execute context outcomes rest run := by
  induction done with
  | nil => rfl
  | cons step others ih =>
      rw [List.cons_append, execute]
      simp only [completed step List.mem_cons_self, if_true]
      exact ih fun query member => completed query (.tail _ member)

/-- A run before the effects that bring it to its end. -/
structure Executes (store : MvpStore) (run : MvpRun) (effects : List MvpEffect) (last : MvpRun) :
    Prop where
  legal : Guarded MvpStore.step Legal store effects
  own : Own run.runId run.tenantId effects
  stored : (store.after effects).runs.get? run.runId = some last
  ended : last.status ≠ .running

namespace Executes

variable {store : MvpStore} {effects : List MvpEffect} {last changed : MvpRun} {step : WorkflowStep}

theorem nil (stored : store.runs.get? run.runId = some run) (ended : run.status ≠ .running) :
    Executes store run [] run where
  legal := trivial
  own _ member := nomatch member
  stored := stored
  ended := ended

/-- A version of the run is persisted. -/
theorem put (stored : store.runs.get? run.runId = some run) (name : changed.runId = run.runId)
    (tenant : changed.tenantId = run.tenantId) (staged : Staged changed done rest)
    (follows : Follows run changed)
    (tail : (store.apply (.putRun changed)).runs.get? changed.runId = some changed →
      Executes (store.apply (.putRun changed)) changed effects last) :
    Executes store run (.putRun changed :: effects) last := by
  have next := tail (Dict.get?_set_self _ _ _)
  constructor
  case legal =>
    refine ⟨⟨⟨done, rest, staged⟩, ?_⟩, next.legal⟩
    intro before present
    rw [name, stored] at present
    obtain rfl := Option.some.inj present
    exact follows
  case own =>
    intro persisted member
    obtain first | later := List.mem_cons.mp member
    · obtain rfl := MvpEffect.putRun.inj first
      exact ⟨name, tenant⟩
    · rw [← name, ← tenant]
      exact next.own persisted later
  case stored =>
    rw [← name]
    exact next.stored
  case ended => exact next.ended

theorem event (appended : Cloud.EventAppend) (tail : Executes store run effects last) :
    Executes store run (.event appended :: effects) last where
  legal := ⟨trivial, tail.legal⟩
  own persisted member := tail.own persisted ((List.mem_cons.mp member).resolve_left nofun)
  stored := tail.stored
  ended := tail.ended

theorem index (key : String) (entry : IdempotencyEntry)
    (tail : Executes (store.apply (.putIdempotency key entry)) run effects last) :
    Executes store run (.putIdempotency key entry :: effects) last where
  legal := ⟨trivial, tail.legal⟩
  own persisted member := tail.own persisted ((List.mem_cons.mp member).resolve_left nofun)
  stored := tail.stored
  ended := tail.ended

theorem called {runId : String} (name : run.runId = runId)
    (stored : store.runs.get? run.runId = some run)
    (uncompleted : (run.steps step).status ≠ .completed) (tail : Executes store run effects last) :
    Executes store run (.called runId step :: effects) last where
  legal := by
    refine ⟨?_, tail.legal⟩
    intro before present
    rw [← name, stored] at present
    obtain rfl := Option.some.inj present
    exact uncompleted
  own persisted member := tail.own persisted ((List.mem_cons.mp member).resolve_left nofun)
  stored := tail.stored
  ended := tail.ended

end Executes

theorem execute_executes (staged : Staged run done rest) (running : run.status = .running)
    (store : MvpStore) (stored : store.runs.get? run.runId = some run) :
    Executes store run (execute context outcomes rest run).1
      (execute context outcomes rest run).2 := by
  induction rest generalizing run done store with
  | nil =>
      rw [execute]
      refine .put stored rfl rfl staged.finish ⟨fun _ _ => rfl, fun finished => ?_⟩ fun present => ?_
      · rw [running] at finished
        cases finished
      · exact .event _ (.nil present RunStatus.noConfusion)
  | cons step rest ih =>
      have uncompleted := staged.next step rfl
      have noFailedStep : run.failedStep = none := by
        rw [staged.failedStep, running]
        rfl
      rw [execute]
      simp only [if_neg uncompleted]
      generalize startedRun : run.setStep step { run.steps step with
        status := .running, error := "" } = started
      have startedSteps : started.steps = (run.setStep step { run.steps step with
          status := .running, error := "" }).steps := by rw [startedRun]
      have startedName : started.runId = run.runId := by rw [← startedRun]; rfl
      have startedTenant : started.tenantId = run.tenantId := by rw [← startedRun]; rfl
      have startedRunning : started.status = .running := by rw [← startedRun]; exact running
      have startedFailedStep : started.failedStep = none := by rw [← startedRun]; exact noFailedStep
      have startedStaged : Staged started done (step :: rest) := by
        apply staged.setNext startedSteps StepStatus.noConfusion
        · rw [startedRunning]
          exact iff_of_false StepStatus.noConfusion RunStatus.noConfusion
        · rw [startedRunning]
          exact RunStatus.noConfusion
        · rw [startedRunning, startedFailedStep]
          rfl
      have startedUncompleted := startedStaged.next step rfl
      cases returned : (outcomes step).result with
      | error error =>
          refine .put stored startedName startedTenant startedStaged
            (follows_setStep running startedSteps uncompleted) fun present => ?_
          refine .event _ (.called startedName present startedUncompleted ?_)
          have failedStaged : Staged { { started with summaries := (outcomes step).summaries }.setStep
              step { run.steps step with status := .failed, error } with
                status := .failed, error, failedStep := some step } done (step :: rest) :=
            startedStaged.setNext rfl StepStatus.noConfusion (iff_of_true rfl rfl)
              RunStatus.noConfusion rfl
          refine .put present rfl rfl failedStaged
            (follows_setStep startedRunning rfl startedUncompleted) fun present => ?_
          exact .event _ (.event _ (.nil present RunStatus.noConfusion))
      | ok output =>
          refine .put stored startedName startedTenant startedStaged
            (follows_setStep running startedSteps uncompleted) fun present => ?_
          refine .event _ (.called startedName present startedUncompleted ?_)
          have doneStaged : Staged (({ started with summaries := (outcomes step).summaries }.setStep
              step ⟨.completed, output, ""⟩).mergeEntityIds output) (done ++ [step]) rest :=
            startedStaged.complete rfl rfl startedRunning startedFailedStep
          refine .put present rfl rfl doneStaged
            (follows_setStep startedRunning rfl startedUncompleted) fun present => ?_
          exact .event _ (ih doneStaged startedRunning _ present)

end Execution

/-- The calls that create, resume and replay runs, with what the handlers do in them. -/
inductive MvpCall where
  | createRun (context : TenantContext) (request : Fields) (drawn : String)
      (outcomes : WorkflowStep → StepOutcome)
  | resumeRun (context : TenantContext) (runId : String) (outcomes : WorkflowStep → StepOutcome)
  | replayRun (context : TenantContext) (runId : String)

/-- A crash keeps the first effects of a call, and the handlers of the resumed run do something
else. -/
structure Crash where
  kept : Nat
  outcomes : WorkflowStep → StepOutcome

/-- A call with the crashes of the call and of the resumptions that follow it. -/
structure MvpOperation where
  call : MvpCall
  crashes : List Crash

/-- The first run that was persisted. -/
def persistedId (effects : List MvpEffect) : Option String :=
  effects.findSome? fun effect => match effect with
    | .putRun run => some run.runId
    | _ => none

/-- After a crash only the persisted run is left, and it is resumed. -/
def perform (context : TenantContext) (store : MvpStore) (crashed : Option String)
    (effects : List MvpEffect) : List Crash → List MvpEffect
  | [] => effects
  | crash :: rest =>
      let kept := effects.take crash.kept
      match crashed.or (persistedId kept) with
      | none => kept
      | some runId =>
          kept ++ perform context (store.after kept) (some runId)
            (resumeRun (store.after kept) context runId crash.outcomes).2 rest

section Machine

variable (interpreter : Interpreter) (sha256 : String → String)

namespace MvpCall

def context : MvpCall → TenantContext
  | createRun context _ _ _ => context
  | resumeRun context _ _ => context
  | replayRun context _ => context

def effects (store : MvpStore) : MvpCall → List MvpEffect
  | createRun context request drawn outcomes =>
      (MvpWorkflow.createRun store context interpreter sha256 request drawn outcomes).2
  | resumeRun context runId outcomes => (MvpWorkflow.resumeRun store context runId outcomes).2
  | replayRun context runId => (MvpWorkflow.replayRun store context runId).2

end MvpCall

/-- The store after a call and its crashes, with the effects that took place. -/
def operate : Machine MvpStore MvpOperation (List MvpEffect) := fun store operation =>
  let effects := perform operation.call.context store none
    (operation.call.effects interpreter sha256 store) operation.crashes
  (effects, store.after effects)

/-- A new run has an id that is not in use. -/
def FreshRunId (store : MvpStore) (operation : MvpOperation) : Prop :=
  match operation.call with
  | .createRun context request drawn _ => ∀ run,
      requestedRun store context interpreter sha256 request drawn = .ok (.inr run) →
        store.runs.get? run.runId = none
  | _ => True

/-- The effects of a run of calls in their order. -/
def history (operations : List MvpOperation) : List MvpEffect :=
  (responses (operate interpreter sha256) .initial operations).flatten

/-- What holds of the runs throughout a sequence of calls. -/
structure RunHistory (operations : List MvpOperation) : Prop where
  staged : ∀ past future, history interpreter sha256 operations = past ++ future →
    ∀ runId run, (MvpStore.initial.after past).runs.get? runId = some run →
      ∃ done rest, Staged run done rest
  ended : ∀ first later, operations = first ++ later →
    ∀ runId stored, (run (operate interpreter sha256) .initial first).runs.get? runId = some stored →
      (stored.status = .completed ↔ ∀ step, (stored.steps step).status = .completed)
  calledOnce : ∀ before between future runId step,
    history interpreter sha256 operations = before ++ between ++ .called runId step :: future →
      ∀ run, (MvpStore.initial.after before).runs.get? runId = some run →
        (run.steps step).status ≠ .completed
  frozen : ∀ before between future, history interpreter sha256 operations =
    before ++ between ++ future → ∀ runId run,
      (MvpStore.initial.after before).runs.get? runId = some run → run.status = .completed →
        ∃ count, (MvpStore.initial.after (before ++ between)).runs.get? runId =
          some { run with replayCount := count }

end Machine

section Performs

variable {store : MvpStore} {runId tenantId : String} {effects : List MvpEffect}
  {context : TenantContext}

/-- Every stored run has its own name and is at a stage. -/
def SoundRuns (store : MvpStore) : Prop := ∀ runId run, store.runs.get? runId = some run →
  run.runId = runId ∧ ∃ done rest, Staged run done rest

/-- Every stored run was brought to an end. -/
def AtRest (store : MvpStore) : Prop := ∀ runId run, store.runs.get? runId = some run →
  run.status ≠ .running

theorem SoundRuns.after (sound : SoundRuns store)
    (legal : Guarded MvpStore.step Legal store effects) : SoundRuns (store.after effects) := by
  apply run_invariant_of_guarded MvpStore.step Legal SoundRuns ?_ store effects sound legal
  intro store effect sound legal
  cases effect with
  | putRun persisted =>
      intro runId run stored
      by_cases same : runId = persisted.runId
      · subst same
        obtain rfl := Option.some.inj ((Dict.get?_set_self _ _ _).symm.trans stored)
        exact ⟨rfl, legal.1⟩
      · exact sound _ _ ((Dict.get?_set_of_ne _ _ same).symm.trans stored)
  | putIdempotency key entry => exact sound
  | called runId step => exact sound
  | event event => exact sound

/-- The effects of a call on one run, which is not left under way. -/
structure Performs (store : MvpStore) (runId tenantId : String) (effects : List MvpEffect) :
    Prop where
  legal : Guarded MvpStore.step Legal store effects
  own : Own runId tenantId effects
  ended : ∀ run, (store.after effects).runs.get? runId = some run → run.status ≠ .running

theorem Executes.performs {run last : MvpRun} (executes : Executes store run effects last) :
    Performs store run.runId run.tenantId effects where
  legal := executes.legal
  own := executes.own
  ended ended stored := by
    obtain rfl := Option.some.inj (executes.stored.symm.trans stored)
    exact executes.ended

theorem performs_nil (ended : ∀ run, store.runs.get? runId = some run → run.status ≠ .running) :
    Performs store runId tenantId [] := ⟨trivial, nofun, ended⟩

variable {run : MvpRun}

theorem tenantRun_eq_ok (found : tenantRun store context runId = .ok run) :
    store.runs.get? runId = some run ∧ run.tenantId = context.tenantId := by
  unfold tenantRun at found
  split at found
  · cases found
  · rename_i stored present
    split at found
    · cases found
    · rename_i own
      obtain rfl := Except.ok.inj found
      exact ⟨present, not_not.mp own⟩

theorem tenantRun_of_own (present : store.runs.get? runId = some run)
    (own : run.tenantId = context.tenantId) : tenantRun store context runId = .ok run := by
  rw [tenantRun, present]
  exact if_neg (not_not.mpr own)

/-- A resumed run is brought to an end from every stage. -/
theorem resumeRun_performs (sound : SoundRuns store)
    (present : store.runs.get? runId = some run) (own : run.tenantId = context.tenantId)
    (outcomes : WorkflowStep → StepOutcome) :
    Performs store runId context.tenantId (resumeRun store context runId outcomes).2 := by
  obtain ⟨rfl, done, rest, staged⟩ := sound _ _ present
  rw [resumeRun, tenantRun_of_own present own]
  by_cases completed : run.status = .completed
  · simp only [if_pos completed]
    apply performs_nil
    intro stored again
    obtain rfl := Option.some.inj (present.symm.trans again)
    rw [completed]
    exact RunStatus.noConfusion
  · simp only [if_neg completed]
    rw [← own]
    have skipped : execute context outcomes (done ++ rest) (resumed run) =
        execute context outcomes rest (resumed run) := execute_skip staged.resumed.completed
    rw [staged.split] at skipped
    rw [skipped]
    have executed : Executes store run (.putRun (resumed run) ::
        event context "renovation.mvp.run.resumed" run.runId
          [("resume_count", .int (resumed run).resumeCount)] ::
        (execute context outcomes rest (resumed run)).1)
        (execute context outcomes rest (resumed run)).2 := by
      refine .put present rfl rfl staged.resumed (follows_resumed completed) fun stored => ?_
      exact .event _ (execute_executes staged.resumed rfl _ stored)
    exact executed.performs

theorem replayRun_performs (sound : SoundRuns store) (atRest : AtRest store) (runId : String) :
    Performs store runId context.tenantId (replayRun store context runId).2 := by
  unfold replayRun
  split
  · exact performs_nil (atRest runId)
  · rename_i run found
    obtain ⟨present, own⟩ := tenantRun_eq_ok found
    obtain ⟨rfl, done, rest, staged⟩ := sound _ _ present
    rw [← own]
    have executed : Executes store run [.putRun (replayed run),
        event context "renovation.mvp.run.replayed" run.runId
          [("replay_count", .int (replayed run).replayCount)]] (replayed run) := by
      refine .put present rfl rfl staged.replayed (follows_replayed run) fun stored => ?_
      exact .event _ (.nil stored (atRest _ run present))
    exact executed.performs

/-- A new run under a fresh id is brought to an end. -/
theorem started_performs (context : TenantContext) (outcomes : WorkflowStep → StepOutcome)
    {runId key : String} {payload : Fields} (fresh : store.runs.get? runId = none) :
    Performs store runId context.tenantId
      (started context outcomes (newRun context runId key payload)).1 := by
  generalize created : newRun context runId key payload = run
  have name : run.runId = runId := by rw [← created]; rfl
  have own : run.tenantId = context.tenantId := by rw [← created]; rfl
  have running : run.status = .running := by rw [← created]; rfl
  have staged : Staged run [] workflowSteps := created ▸ staged_newRun context runId key payload
  have tail : Executes (store.apply (.putRun run)) run ((if run.idempotencyKey = "" then [] else
        [.putIdempotency (idempotencyIndexKey context run.idempotencyKey)
          ⟨context.tenantId, run.idempotencyKey, run.runId⟩]) ++
      (event context "renovation.mvp.run.created" run.runId
        [("idempotency_key", .str run.idempotencyKey)] ::
        (execute context outcomes workflowSteps run).1))
      (execute context outcomes workflowSteps run).2 := by
    have stored : (store.apply (.putRun run)).runs.get? run.runId = some run :=
      Dict.get?_set_self _ _ _
    split
    · exact .event _ (execute_executes staged running _ stored)
    · exact .index _ _ (.event _ (execute_executes staged running _ stored))
  have effects : (started context outcomes run).1 = .putRun run ::
      ((if run.idempotencyKey = "" then [] else
        [.putIdempotency (idempotencyIndexKey context run.idempotencyKey)
          ⟨context.tenantId, run.idempotencyKey, run.runId⟩]) ++
      (event context "renovation.mvp.run.created" run.runId
        [("idempotency_key", .str run.idempotencyKey)] ::
        (execute context outcomes workflowSteps run).1)) := by
    unfold started
    split <;> rfl
  rw [effects, ← name]
  constructor
  case legal =>
    refine ⟨⟨⟨[], workflowSteps, staged⟩, ?_⟩, tail.legal⟩
    intro before present
    rw [name, fresh] at present
    cases present
  case own =>
    intro persisted member
    obtain first | later := List.mem_cons.mp member
    · rw [MvpEffect.putRun.inj first]
      exact ⟨rfl, own⟩
    · exact ⟨(tail.own persisted later).1, (tail.own persisted later).2.trans own⟩
  case ended =>
    intro last stored
    obtain rfl := Option.some.inj (tail.stored.symm.trans stored)
    exact tail.ended

theorem requestedRun_eq_new {interpreter : Interpreter} {sha256 : String → String}
    {request : Fields} {drawn : String}
    (requested : requestedRun store context interpreter sha256 request drawn = .ok (.inr run)) :
    ∃ runId key payload, run = newRun context runId key payload := by
  unfold requestedRun at requested
  obtain ⟨payload, -, requested⟩ := bind_eq_ok_iff.mp requested
  simp only at requested
  generalize (if idempotencyKey interpreter request = "" then none
    else getIdempotent store context (idempotencyKey interpreter request)) = existing at requested
  cases existing with
  | some existing => cases requested
  | none => exact ⟨_, _, _, (Sum.inr.inj (Except.ok.inj requested)).symm⟩

/-- The effects of every call bring the run that they persist to its end. -/
theorem call_performs (interpreter : Interpreter) (sha256 : String → String)
    (sound : SoundRuns store) (atRest : AtRest store) (operation : MvpOperation)
    (fresh : FreshRunId interpreter sha256 store operation) :
    ∃ runId, Performs store runId operation.call.context.tenantId
      (operation.call.effects interpreter sha256 store) := by
  obtain ⟨call, crashes⟩ := operation
  cases call with
  | createRun context request drawn outcomes =>
      unfold MvpCall.effects createRun
      simp only
      split
      · exact ⟨"", performs_nil (atRest "")⟩
      · exact ⟨"", performs_nil (atRest "")⟩
      · rename_i run requested
        obtain ⟨runId, key, payload, rfl⟩ := requestedRun_eq_new requested
        exact ⟨runId, started_performs context outcomes (fresh _ requested)⟩
  | resumeRun context runId outcomes =>
      refine ⟨runId, ?_⟩
      cases found : tenantRun store context runId with
      | error exception =>
          have nothing : (resumeRun store context runId outcomes).2 = [] := by rw [resumeRun, found]
          change Performs store runId context.tenantId (resumeRun store context runId outcomes).2
          rw [nothing]
          exact performs_nil (atRest runId)
      | ok run =>
          obtain ⟨present, own⟩ := tenantRun_eq_ok found
          exact resumeRun_performs sound present own outcomes
  | replayRun context runId => exact ⟨runId, replayRun_performs sound atRest runId⟩

theorem Performs.guarded_take (performs : Performs store runId tenantId effects) (count : Nat) :
    Guarded MvpStore.step Legal store (effects.take count) := by
  have whole := performs.legal
  rw [← List.take_append_drop count effects] at whole
  exact ((guarded_append _ _ _ _ _).mp whole).1

/-- A run that is stored, or that some effect persists, is stored after the effects. -/
theorem Own.present_after (own : Own runId tenantId effects)
    (present : (∃ run, store.runs.get? runId = some run ∧ run.tenantId = tenantId) ∨
      ∃ run, .putRun run ∈ effects) :
    ∃ run, (store.after effects).runs.get? runId = some run ∧ run.tenantId = tenantId := by
  induction effects generalizing store with
  | nil => exact present.resolve_right nofun
  | cons effect rest ih =>
      apply ih fun run member => own run (.tail _ member)
      cases effect with
      | putRun run =>
          obtain ⟨rfl, tenant⟩ := own run (.head _)
          exact .inl ⟨run, Dict.get?_set_self _ _ _, tenant⟩
      | putIdempotency key entry =>
          exact present.imp_right fun ⟨run, member⟩ =>
            ⟨run, (List.mem_cons.mp member).resolve_left nofun⟩
      | called query step =>
          exact present.imp_right fun ⟨run, member⟩ =>
            ⟨run, (List.mem_cons.mp member).resolve_left nofun⟩
      | event event =>
          exact present.imp_right fun ⟨run, member⟩ =>
            ⟨run, (List.mem_cons.mp member).resolve_left nofun⟩

variable (crashes : List Crash)

/-- A run that was persisted before a crash is brought to its end by the resumptions. -/
theorem recover_performs (sound : SoundRuns store)
    (present : (∃ run, store.runs.get? runId = some run ∧ run.tenantId = context.tenantId) ∨ crashes = [])
    (performs : Performs store runId context.tenantId effects) :
    Performs store runId context.tenantId (perform context store (some runId) effects crashes) := by
  induction crashes generalizing store effects with
  | nil => exact performs
  | cons crash rest ih =>
      have stored := present.resolve_right (List.cons_ne_nil _ _)
      have legal := performs.guarded_take crash.kept
      have own := performs.own.take crash.kept
      obtain ⟨run, later, tenant⟩ := own.present_after (.inl stored)
      have kept := sound.after legal
      have resumed := ih kept (.inl ⟨run, later, tenant⟩)
        (resumeRun_performs kept later tenant crash.outcomes)
      exact {
        legal := (guarded_append _ _ _ _ _).mpr ⟨legal, resumed.legal⟩
        own := own.append resumed.own
        ended := by
          rw [perform, Option.some_or]
          simp only [after_append]
          exact resumed.ended }

theorem persistedId_eq_none (none : persistedId effects = none) : ∀ run, .putRun run ∉ effects := by
  intro run member
  have absent := List.findSome?_eq_none_iff.mp none _ member
  cases absent

theorem mem_of_persistedId (persisted : persistedId effects = some runId) :
    ∃ run, .putRun run ∈ effects ∧ run.runId = runId := by
  obtain ⟨effect, member, named⟩ := List.exists_of_findSome?_eq_some persisted
  cases effect with
  | putRun run => exact ⟨run, member, Option.some.inj named⟩
  | _ => cases named

/-- A call and its crashes bring the run that they persist to its end. -/
theorem perform_performs (sound : SoundRuns store) (atRest : AtRest store)
    (performs : Performs store runId context.tenantId effects) :
    Performs store runId context.tenantId (perform context store none effects crashes) := by
  cases crashes with
  | nil => exact performs
  | cons crash rest =>
      have legal := performs.guarded_take crash.kept
      have own := performs.own.take crash.kept
      rw [perform, Option.none_or]
      cases persisted : persistedId (effects.take crash.kept) with
      | none =>
          refine ⟨legal, own, fun run stored => ?_⟩
          obtain earlier | member := own.stored_after stored
          · exact atRest _ _ earlier
          · exact absurd member (persistedId_eq_none persisted run)
      | some named =>
          obtain ⟨run, member, name⟩ := mem_of_persistedId persisted
          obtain rfl : named = runId := name.symm.trans (own run member).1
          obtain ⟨last, later, tenant⟩ := own.present_after (.inr ⟨run, member⟩)
          have kept := sound.after legal
          have resumed := recover_performs rest kept (.inl ⟨last, later, tenant⟩)
            (resumeRun_performs kept later tenant crash.outcomes)
          exact {
            legal := (guarded_append _ _ _ _ _).mpr ⟨legal, resumed.legal⟩
            own := own.append resumed.own
            ended := by
              rw [after_append]
              exact resumed.ended }

end Performs

section Histories

variable {interpreter : Interpreter} {sha256 : String → String} {store : MvpStore}

/-- An operation does what the state machine allows, and it leaves no run under way. -/
theorem operate_performs (sound : SoundRuns store) (atRest : AtRest store) (operation : MvpOperation)
    (fresh : FreshRunId interpreter sha256 store operation) :
    Guarded MvpStore.step Legal store (operate interpreter sha256 store operation).1 ∧
      AtRest (operate interpreter sha256 store operation).2 := by
  obtain ⟨runId, performs⟩ := call_performs interpreter sha256 sound atRest operation fresh
  have whole := perform_performs operation.crashes sound atRest performs
  refine ⟨whole.legal, ?_⟩
  intro query run stored
  by_cases same : query = runId
  · exact whole.ended run (same ▸ stored)
  · exact atRest _ _ ((whole.own.get?_after same).symm.trans stored)

/-- The history of a run of calls is legal, and it leads to the store after the calls. -/
theorem history_legal (operations : List MvpOperation) (sound : SoundRuns store)
    (atRest : AtRest store)
    (fresh : Guarded (operate interpreter sha256) (FreshRunId interpreter sha256) store operations) :
    Guarded MvpStore.step Legal store (responses (operate interpreter sha256) store
      operations).flatten ∧
      run (operate interpreter sha256) store operations =
        store.after (responses (operate interpreter sha256) store operations).flatten ∧
      SoundRuns (run (operate interpreter sha256) store operations) ∧
      AtRest (run (operate interpreter sha256) store operations) := by
  induction operations generalizing store with
  | nil => exact ⟨trivial, rfl, sound, atRest⟩
  | cons operation rest ih =>
      obtain ⟨legal, rested⟩ := operate_performs sound atRest operation fresh.1
      obtain ⟨later, reached, soundLast, atRestLast⟩ := ih (sound.after legal) rested fresh.2
      refine ⟨?_, ?_, soundLast, atRestLast⟩
      · rw [responses, List.flatten_cons]
        exact (guarded_append _ _ _ _ _).mpr ⟨legal, later⟩
      · rw [responses, List.flatten_cons, after_append]
        exact reached

theorem Follows.refl (run : MvpRun) : Follows run run := ⟨fun _ _ => rfl, fun _ => ⟨_, rfl⟩⟩

theorem Follows.trans {first second third : MvpRun} (before : Follows first second)
    (after : Follows second third) : Follows first third where
  steps step completed := by
    have kept := before.steps step completed
    rw [after.steps step (by rw [kept, completed]), kept]
  frozen completed := by
    obtain ⟨count, rfl⟩ := before.frozen completed
    obtain ⟨next, rfl⟩ := after.frozen completed
    exact ⟨next, rfl⟩

/-- A stored run is followed by its later versions. -/
theorem follows_after {effects : List MvpEffect} (legal : Guarded MvpStore.step Legal store effects)
    {runId : String} {run : MvpRun} (present : store.runs.get? runId = some run) :
    ∃ later, (store.after effects).runs.get? runId = some later ∧ Follows run later := by
  induction effects generalizing store run with
  | nil => exact ⟨run, present, .refl run⟩
  | cons effect rest ih =>
      have next : ∃ version, (store.apply effect).runs.get? runId = some version ∧
          Follows run version := by
        cases effect with
        | putRun persisted =>
            by_cases same : runId = persisted.runId
            · subst same
              exact ⟨persisted, Dict.get?_set_self _ _ _, legal.1.2 run present⟩
            · exact ⟨run, (Dict.get?_set_of_ne _ _ same).trans present, .refl run⟩
        | putIdempotency key entry => exact ⟨run, present, .refl run⟩
        | called query step => exact ⟨run, present, .refl run⟩
        | event event => exact ⟨run, present, .refl run⟩
      obtain ⟨version, stored, follows⟩ := next
      obtain ⟨later, last, followed⟩ := ih legal.2 stored
      exact ⟨later, last, follows.trans followed⟩

theorem Staged.completed_iff {run : MvpRun} {done rest : List WorkflowStep}
    (staged : Staged run done rest) (atRest : run.status ≠ .running) :
    run.status = .completed ↔ ∀ step, (run.steps step).status = .completed := by
  constructor
  · intro completed step
    obtain rfl := staged.finished completed
    have listed : step ∈ workflowSteps := by cases step <;> decide
    rw [← staged.split, List.append_nil] at listed
    exact staged.completed step listed
  · intro all
    cases rest with
    | cons step rest => exact absurd (all step) (staged.next step rfl)
    | nil =>
        cases status : run.status with
        | running => exact absurd status atRest
        | completed => rfl
        | failed => exact absurd rfl (staged.unfinished status)

end Histories

/-- In every run of calls with fresh run ids and any crashes, the persisted runs are at a stage, a
call leaves no run under way, and a completed step or run stays as it is. -/
theorem mvpRuns_staged (interpreter : Interpreter) (sha256 : String → String)
    (operations : List MvpOperation)
    (fresh : Guarded (operate interpreter sha256) (FreshRunId interpreter sha256) .initial
      operations) : RunHistory interpreter sha256 operations := by
  have sound : SoundRuns .initial := nofun
  have atRest : AtRest .initial := nofun
  have legal : Guarded MvpStore.step Legal .initial (history interpreter sha256 operations) :=
    (history_legal operations sound atRest fresh).1
  constructor
  case staged =>
    intro past future split runId run stored
    rw [split] at legal
    exact (sound.after ((guarded_append _ _ _ _ _).mp legal).1 runId run stored).2
  case ended =>
    intro first later split runId stored present
    rw [split] at fresh
    obtain ⟨-, -, soundLast, atRestLast⟩ :=
      history_legal first sound atRest ((guarded_append _ _ _ _ _).mp fresh).1
    obtain ⟨-, done, rest, staged⟩ := soundLast runId stored present
    exact staged.completed_iff (atRestLast runId stored present)
  case calledOnce =>
    intro before between future runId step split run stored completed
    rw [split, guarded_append, guarded_append] at legal
    obtain ⟨⟨-, between⟩, called, -⟩ := legal
    obtain ⟨later, present, follows⟩ := follows_after between stored
    rw [run_append] at called
    refine called later present ?_
    rw [follows.steps step completed, completed]
  case frozen =>
    intro before between future split runId run stored completed
    rw [split, guarded_append, guarded_append] at legal
    obtain ⟨later, present, follows⟩ := follows_after legal.1.2 stored
    obtain ⟨count, rfl⟩ := follows.frozen completed
    exact ⟨count, (congrArg (fun store => store.runs.get? runId) (after_append _ _ _)).trans present⟩

/-- Every handler returns no output. -/
def silentHandlers : WorkflowStep → StepOutcome :=
  fun _ => ⟨.ok [], ⟨.obj [], .obj [], .obj []⟩⟩

/-- A run crashes while its first handler works, is resumed, and is replayed. -/
def crashedRun : List MvpOperation :=
  [⟨.createRun ⟨"tenant-a", "org-a", "alice"⟩ [("run_id", .str "run-1")] "4f0a" silentHandlers,
      [⟨4, silentHandlers⟩]⟩,
    ⟨.replayRun ⟨"tenant-a", "org-a", "alice"⟩ "run-1", []⟩]

theorem mvpRuns_staged_crashedRun :
    RunHistory ⟨fun _ => true, fun _ => 0, fun _ => true⟩ id crashedRun :=
  mvpRuns_staged _ _ crashedRun ⟨fun _ _ => rfl, trivial, trivial⟩

end AgentFabric.Renovation
