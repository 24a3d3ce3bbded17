import AgentFabric.Foundation.PyError

namespace AgentFabric

/-- A call that reads and writes a state and keeps its writes when it raises. -/
abbrev Effect (State Value : Type) := ExceptT PyError (StateM State) Value

namespace Effect

variable {State Value Next : Type} (effect : Effect State Value) (state : State)

/-- The answer of a call and the state after it. -/
def perform : Except PyError Value × State :=
  effect.run.run state

variable (answer : Except PyError Value)

/-- A call without effect that may raise. -/
def ofExcept : Effect State Value := ExceptT.mk (pure answer)

@[simp] theorem perform_pure (value : Value) (state : State) :
    (pure value : Effect State Value).perform state = (.ok value, state) := rfl

@[simp] theorem perform_throw (error : PyError) (state : State) :
    (throw error : Effect State Value).perform state = (.error error, state) := rfl

@[simp] theorem perform_ofExcept :
    (ofExcept answer : Effect State Value).perform state = (answer, state) := rfl

@[simp] theorem perform_get : (get : Effect State State).perform state = (.ok state, state) := rfl

@[simp] theorem perform_set (next state : State) :
    (set next : Effect State PUnit).perform state = (.ok ⟨⟩, next) := rfl

/-- The second call runs in the state that the first one leaves, unless the first one raises. -/
theorem perform_bind (next : Value → Effect State Next) (state : State) :
    (effect >>= next).perform state =
      match effect.perform state with
      | (.ok value, after) => (next value).perform after
      | (.error error, after) => (.error error, after) := by
  show (ExceptT.bindCont next (effect.perform state).1).run (effect.perform state).2 = _
  obtain ⟨answer, after⟩ := effect.perform state
  cases answer <;> rfl

variable {next : Value → Effect State Next}

theorem perform_bind_ok {effect : Effect State Value}
    {state after : State} {value : Value} (returned : effect.perform state = (.ok value, after)) :
    (effect >>= next).perform state = (next value).perform after := by
  rw [perform_bind, returned]

theorem perform_bind_error {effect : Effect State Value}
    {state after : State} {error : PyError}
    (raised : effect.perform state = (.error error, after)) :
    (effect >>= next).perform state = (.error error, after) := by
  rw [perform_bind, raised]

variable (handler : PyError → Effect State Value)

/-- A call whose exception a handler takes in the state that the call leaves. -/
def handle : Effect State Value :=
  tryCatch effect handler

theorem perform_handle :
    (effect.handle handler).perform state =
      match effect.perform state with
      | (.ok value, after) => (.ok value, after)
      | (.error error, after) => (handler error).perform after := by
  show (ExceptT.tryCatch effect handler).run (state) = _
  unfold ExceptT.tryCatch perform
  simp only [ExceptT.run, ExceptT.mk, bind, StateT.bind, StateT.run]
  obtain ⟨answer, after⟩ := effect state
  cases answer <;> rfl

/-- A second call without effect leaves the state of the first one. -/
theorem perform_bind_snd {effect : Effect State Value}
    (unchanged : ∀ value after, ((next value).perform after).2 = after) (state : State) :
    ((effect >>= next).perform state).2 = (effect.perform state).2 := by
  rw [perform_bind]
  obtain ⟨answer, after⟩ := effect.perform state
  cases answer with
  | error error => rfl
  | ok value => exact unchanged value after

section Invariant

variable {invariant : State → Prop} {property : Value → Prop} {nextProperty : Next → Prop}

/-- A call keeps an invariant, also when it raises, and returns only values with a property. -/
def Keeps (invariant : State → Prop) (property : Value → Prop) (effect : Effect State Value) :
    Prop :=
  ∀ state, invariant state →
    invariant (effect.perform state).2 ∧
      ∀ value, (effect.perform state).1 = .ok value → property value

theorem Keeps.pure {value : Value} (holds : property value) :
    Keeps invariant property (Pure.pure value) := by
  intro state kept
  refine ⟨kept, ?_⟩
  rintro _ ⟨⟩
  exact holds

theorem Keeps.throw (error : PyError) :
    Keeps invariant property (MonadExcept.throw error : Effect State Value) := by
  intro state kept
  refine ⟨kept, ?_⟩
  rintro _ ⟨⟩

variable {next : Value → Effect State Next}

/-- Calls that keep an invariant keep it one after the other. -/
theorem Keeps.bind {effect : Effect State Value} (first : Keeps invariant property effect)
    (second : ∀ value, property value → Keeps invariant nextProperty (next value)) :
    Keeps invariant nextProperty (effect >>= next) := by
  intro state kept
  obtain ⟨after, values⟩ := first state kept
  rw [perform_bind]
  revert after values
  obtain ⟨answer, next⟩ := effect.perform state
  cases answer with
  | error error =>
      intro after _
      refine ⟨after, ?_⟩
      rintro _ ⟨⟩
  | ok value =>
      intro after values
      exact second value (values value rfl) _ after

theorem Keeps.pure_bind {value : Value} (second : Keeps invariant nextProperty (next value)) :
    Keeps invariant nextProperty (Pure.pure value >>= next) := by
  intro state kept
  rw [perform_bind_ok (perform_pure value state)]
  exact second state kept

theorem Keeps.ofExcept_bind {answer : Except PyError Value}
    (second : ∀ value, answer = .ok value → Keeps invariant nextProperty (next value)) :
    Keeps invariant nextProperty (Effect.ofExcept answer >>= next) :=
  Keeps.bind (fun _ kept => ⟨kept, fun _ returned => returned⟩) second

/-- A call that reads the state may use the invariant of the state that it reads. -/
theorem Keeps.get_bind {next : State → Effect State Next}
    (second : ∀ state, invariant state → Keeps invariant nextProperty (next state)) :
    Keeps invariant nextProperty (MonadState.get >>= next) := by
  intro state kept
  rw [perform_bind_ok (perform_get state)]
  exact second state kept state kept

theorem Keeps.ite {condition : Prop} [Decidable condition] {effect other : Effect State Value}
    (yes : condition → Keeps invariant property effect)
    (no : ¬ condition → Keeps invariant property other) :
    Keeps invariant property (if condition then effect else other) := by
  split
  · rename_i holds
    exact yes holds
  · rename_i fails
    exact no fails

end Invariant

section Simulation

variable {Other Answer Later : Type}

/-- Two answers are the same exception or agree. -/
def Agree (agree : Value → Answer → Prop) : Except PyError Value → Except PyError Answer → Prop
  | .ok value, .ok answer => agree value answer
  | .error error, .error other => error = other
  | _, _ => False

/-- From related states two calls give agreeing answers and leave related states. -/
def Simulates (related : State → Other → Prop) (agree : Value → Answer → Prop)
    (effect : Effect State Value) (other : Effect Other Answer) : Prop :=
  ∀ state otherState, related state otherState →
    Agree agree (effect.perform state).1 (other.perform otherState).1 ∧
      related (effect.perform state).2 (other.perform otherState).2

variable {related : State → Other → Prop} {agree : Value → Answer → Prop}
  {later : Next → Later → Prop}

theorem Simulates.pure {value : Value} {answer : Answer} (same : agree value answer) :
    Simulates related agree (Pure.pure value) (Pure.pure answer) :=
  fun _ _ states => ⟨same, states⟩

theorem Simulates.throw (error : PyError) :
    Simulates related agree (MonadExcept.throw error) (MonadExcept.throw error) :=
  fun _ _ states => ⟨rfl, states⟩

variable {next : Value → Effect State Next} {otherNext : Answer → Effect Other Later}

/-- Calls that simulate each other can be followed by calls that do so on agreeing answers. -/
theorem Simulates.bind {effect : Effect State Value} {other : Effect Other Answer}
    (first : Simulates related agree effect other)
    (second : ∀ value answer, agree value answer →
      Simulates related later (next value) (otherNext answer)) :
    Simulates related later (effect >>= next) (other >>= otherNext) := by
  intro state otherState states
  obtain ⟨answers, after⟩ := first state otherState states
  rw [perform_bind, perform_bind]
  revert answers after
  obtain ⟨answer, next⟩ := effect.perform state
  obtain ⟨otherAnswer, otherNext⟩ := other.perform otherState
  cases answer with
  | error error =>
      cases otherAnswer with
      | error otherException => exact fun answers after => ⟨answers, after⟩
      | ok value => exact fun answers => answers.elim
  | ok value =>
      cases otherAnswer with
      | error otherException => exact fun answers => answers.elim
      | ok otherValue => exact fun answers after => second value otherValue answers _ _ after

theorem Simulates.pure_bind {value : Value} {answer : Answer}
    (second : Simulates related later (next value) (otherNext answer)) :
    Simulates related later (Pure.pure value >>= next) (Pure.pure answer >>= otherNext) := by
  intro state otherState states
  rw [perform_bind_ok (perform_pure value state), perform_bind_ok (perform_pure answer otherState)]
  exact second state otherState states

/-- Calls that read the state may use the relation of the states that they read. -/
theorem Simulates.get_bind {next : State → Effect State Next} {otherNext : Other → Effect Other Later}
    (second : ∀ state otherState, related state otherState →
      Simulates related later (next state) (otherNext otherState)) :
    Simulates related later (MonadState.get >>= next) (MonadState.get >>= otherNext) := by
  intro state otherState states
  rw [perform_bind_ok (perform_get state), perform_bind_ok (perform_get otherState)]
  exact second state otherState states state otherState states

theorem Simulates.ofExcept_bind {answer other : Except PyError Value}
    {otherNext : Value → Effect Other Later}
    (same : answer = other)
    (second : ∀ value, answer = .ok value →
      Simulates related later (next value) (otherNext value)) :
    Simulates related later (Effect.ofExcept answer >>= next)
      (Effect.ofExcept other >>= otherNext) := by
  subst same
  cases answer with
  | error error => exact .throw error
  | ok value => exact Simulates.pure_bind (second value rfl)

theorem Simulates.ite {condition otherCondition : Prop} [Decidable condition]
    [Decidable otherCondition] {effect effect' : Effect State Value}
    {other other' : Effect Other Answer} (same : condition ↔ otherCondition)
    (yes : condition → Simulates related agree effect other)
    (no : ¬ condition → Simulates related agree effect' other') :
    Simulates related agree (if condition then effect else effect')
      (if otherCondition then other else other') := by
  by_cases holds : condition
  · rw [if_pos holds, if_pos (same.mp holds)]
    exact yes holds
  · rw [if_neg holds, if_neg fun found => holds (same.mpr found)]
    exact no holds

end Simulation

end Effect

end AgentFabric
