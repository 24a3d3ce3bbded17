import Mathlib.Algebra.Order.Group.Int
import Mathlib.Data.List.Forall2
import Mathlib.Data.List.Induction

namespace AgentFabric.Transition

variable {State Operation Response : Type*}

/-- A machine answers one operation and returns its next state. -/
abbrev Machine (State Operation Response : Type*) := State → Operation → Response × State

/-- The run keeps only the state that follows the last operation. -/
def run (machine : Machine State Operation Response) : State → List Operation → State
  | state, [] => state
  | state, operation :: rest => run machine (machine state operation).2 rest

/-- The answers appear in the order of the operations. -/
def responses (machine : Machine State Operation Response) : State → List Operation → List Response
  | _, [] => []
  | state, operation :: rest =>
      (machine state operation).1 :: responses machine (machine state operation).2 rest

/-- Every operation of the run meets the condition in the state that receives it. -/
def Guarded (machine : Machine State Operation Response) (condition : State → Operation → Prop) :
    State → List Operation → Prop
  | _, [] => True
  | state, operation :: rest =>
      condition state operation ∧ Guarded machine condition (machine state operation).2 rest

section

variable (machine : Machine State Operation Response)

@[simp] theorem run_nil (state : State) : run machine state [] = state := rfl

@[simp] theorem run_cons (state : State) (operation : Operation) (rest : List Operation) :
    run machine state (operation :: rest) = run machine (machine state operation).2 rest := rfl

theorem run_append (state : State) (first second : List Operation) :
    run machine state (first ++ second) = run machine (run machine state first) second := by
  induction first generalizing state with
  | nil => rfl
  | cons operation rest ih => exact ih (machine state operation).2

theorem responses_append (state : State) (first second : List Operation) :
    responses machine state (first ++ second) =
      responses machine state first ++ responses machine (run machine state first) second := by
  induction first generalizing state with
  | nil => rfl
  | cons operation rest ih => exact congrArg _ (ih (machine state operation).2)

theorem responses_length (state : State) (operations : List Operation) :
    (responses machine state operations).length = operations.length := by
  induction operations generalizing state with
  | nil => rfl
  | cons operation rest ih => exact congrArg Nat.succ (ih (machine state operation).2)

/-- A condition on each operation alone guards the run from every state. -/
theorem guarded_of_forall (condition : Operation → Prop) (state : State)
    (operations : List Operation) (all : ∀ operation ∈ operations, condition operation) :
    Guarded machine (fun _ => condition) state operations := by
  induction operations generalizing state with
  | nil => trivial
  | cons operation rest ih =>
      exact ⟨all operation (.head _), ih _ fun later member => all later (.tail _ member)⟩

end

/-- Two guards of one run hold together. -/
theorem Guarded.and {machine : Machine State Operation Response}
    {condition other : State → Operation → Prop} {state : State} {operations : List Operation}
    (first : Guarded machine condition state operations)
    (second : Guarded machine other state operations) :
    Guarded machine (fun state operation => condition state operation ∧ other state operation) state
      operations := by
  induction operations generalizing state with
  | nil => trivial
  | cons operation rest ih => exact ⟨⟨first.1, second.1⟩, ih first.2 second.2⟩

section

variable (machine : Machine State Operation Response)

/-- One operation preserves the invariant, so every guarded run preserves it. -/
theorem run_invariant_of_guarded (condition : State → Operation → Prop) (invariant : State → Prop)
    (preserved : ∀ state operation, invariant state → condition state operation →
      invariant (machine state operation).2)
    (state : State) (operations : List Operation) (initial : invariant state)
    (guarded : Guarded machine condition state operations) :
    invariant (run machine state operations) := by
  induction operations generalizing state with
  | nil => exact initial
  | cons operation rest ih =>
      exact ih _ (preserved state operation initial guarded.1) guarded.2

/-- An invariant that every operation preserves holds after every run. -/
theorem run_invariant (invariant : State → Prop)
    (preserved : ∀ state operation, invariant state → invariant (machine state operation).2)
    (state : State) (operations : List Operation) (initial : invariant state) :
    invariant (run machine state operations) := by
  induction operations generalizing state with
  | nil => exact initial
  | cons operation rest ih => exact ih _ (preserved state operation initial)

/-- A guarded run guards its first part and then its second part. -/
theorem guarded_append (condition : State → Operation → Prop) (state : State)
    (first second : List Operation) :
    Guarded machine condition state (first ++ second) ↔
      Guarded machine condition state first ∧
        Guarded machine condition (run machine state first) second := by
  induction first generalizing state with
  | nil => simp [Guarded]
  | cons operation rest ih => simp [Guarded, ih, and_assoc]

/-- In a run whose operations meet an assumption, a property of the state and the answers holds after
every part exactly when the run is guarded, if each operation keeps the property exactly when it meets
the condition. -/
theorem forall_parts_iff_guarded_of_guarded (assumption condition : State → Operation → Prop)
    (invariant property : State → List Response → Prop)
    (step : ∀ state past operation, invariant state past → property state past →
      assumption state operation →
        invariant (machine state operation).2 (past ++ [(machine state operation).1]) ∧
          (property (machine state operation).2 (past ++ [(machine state operation).1]) ↔
            condition state operation))
    (state : State) (past : List Response) (operations : List Operation)
    (holds : invariant state past) (initial : property state past)
    (assumed : Guarded machine assumption state operations) :
    (∀ done rest, operations = done ++ rest →
      property (run machine state done) (past ++ responses machine state done)) ↔
        Guarded machine condition state operations := by
  induction operations generalizing state past with
  | nil =>
      refine iff_of_true ?_ trivial
      intro done rest split
      obtain ⟨rfl, rfl⟩ := List.append_eq_nil_iff.mp split.symm
      simpa [responses] using initial
  | cons operation others ih =>
      obtain ⟨next, kept_iff⟩ := step state past operation holds initial assumed.1
      constructor
      · intro all
        have first := all [operation] others rfl
        refine ⟨kept_iff.mp first, (ih _ _ next first assumed.2).mp ?_⟩
        intro done rest split
        have later := all (operation :: done) rest (by rw [split]; rfl)
        simpa [responses] using later
      · rintro ⟨met, guarded⟩ done rest split
        cases done with
        | nil => simpa [responses] using initial
        | cons head done =>
            obtain ⟨rfl, others_eq⟩ := List.cons_eq_cons.mp split
            have later := (ih _ _ next (kept_iff.mpr met) assumed.2).mpr guarded done rest others_eq
            simpa [responses] using later

/-- A property of the state and the answers holds after every part of a run exactly when the run is
guarded, if each operation keeps the property exactly when it meets the condition. -/
theorem forall_parts_iff_guarded
    (condition : State → Operation → Prop) (invariant property : State → List Response → Prop)
    (step : ∀ state past operation, invariant state past → property state past →
      invariant (machine state operation).2 (past ++ [(machine state operation).1]) ∧
        (property (machine state operation).2 (past ++ [(machine state operation).1]) ↔
          condition state operation))
    (state : State) (past : List Response) (operations : List Operation)
    (holds : invariant state past) (initial : property state past) :
    (∀ done rest, operations = done ++ rest →
      property (run machine state done) (past ++ responses machine state done)) ↔
        Guarded machine condition state operations :=
  forall_parts_iff_guarded_of_guarded machine (fun _ _ => True) condition invariant property
    (fun state past operation kept property _ => step state past operation kept property) state past
    operations holds initial (guarded_of_forall machine (fun _ => True) state operations
      fun _ _ => trivial)

end

variable {Other Answer : Type*}

section

variable (machine : Machine State Operation Response)

/-- Two machines that stay related under every guarded operation stay related in the run. -/
theorem run_related (other : Machine Other Operation Answer) (condition : State → Operation → Prop)
    (related : State → Other → Prop)
    (preserved : ∀ state otherState operation, related state otherState →
      condition state operation →
        related (machine state operation).2 (other otherState operation).2)
    (state : State) (otherState : Other) (operations : List Operation)
    (initial : related state otherState)
    (guarded : Guarded machine condition state operations) :
    related (run machine state operations) (run other otherState operations) := by
  induction operations generalizing state otherState with
  | nil => exact initial
  | cons operation rest ih =>
      exact ih _ _ (preserved state otherState operation initial guarded.1) guarded.2

/-- Two machines that stay related under every guarded operation give related answers. -/
theorem responses_related
    (other : Machine Other Operation Answer) (condition : State → Operation → Prop)
    (related : State → Other → Prop) (agree : Response → Answer → Prop)
    (preserved : ∀ state otherState operation, related state otherState →
      condition state operation →
        agree (machine state operation).1 (other otherState operation).1 ∧
          related (machine state operation).2 (other otherState operation).2)
    (state : State) (otherState : Other) (operations : List Operation)
    (initial : related state otherState)
    (guarded : Guarded machine condition state operations) :
    List.Forall₂ agree (responses machine state operations)
      (responses other otherState operations) := by
  induction operations generalizing state otherState with
  | nil => exact .nil
  | cons operation rest ih =>
      obtain ⟨answers, next⟩ := preserved state otherState operation initial guarded.1
      exact .cons answers (ih _ _ next guarded.2)

end

end AgentFabric.Transition

namespace AgentFabric.Transition

variable {State Operation Response : Type*}

/-- A condition holds at every operation of a run exactly when it guards the run. -/
theorem forall_steps_iff_guarded (machine : Machine State Operation Response)
    (condition : State → Operation → Prop) (state : State) (operations : List Operation) :
    (∀ done operation rest, operations = done ++ operation :: rest →
      condition (run machine state done) operation) ↔
        Guarded machine condition state operations := by
  induction operations generalizing state with
  | nil =>
      refine iff_of_true ?_ trivial
      intro done operation rest split
      exact absurd split (by simp)
  | cons first others ih =>
      constructor
      · intro all
        refine ⟨all [] first others rfl, (ih _).mp ?_⟩
        intro done operation rest split
        exact all (first :: done) operation rest (by rw [split]; rfl)
      · rintro ⟨met, guarded⟩ done operation rest split
        cases done with
        | nil =>
            obtain ⟨rfl, rfl⟩ := List.cons_eq_cons.mp split
            exact met
        | cons head done =>
            obtain ⟨rfl, later⟩ := List.cons_eq_cons.mp split
            exact (ih _).mpr guarded done operation rest later

end AgentFabric.Transition

namespace AgentFabric.Transition

variable {State Operation Response Subject : Type*} (machine : Machine State Operation Response)
  (others : Operation → Subject → Prop) (holds : State → Subject → Prop)

/-- The operations of others never end what holds for a subject. -/
def Stable (state : State) (operations : List Operation) : Prop :=
  ∀ done later rest, operations = done ++ later ++ rest → ∀ subject,
    (∀ operation ∈ later, others operation subject) →
      holds (run machine state done) subject → holds (run machine state (done ++ later)) subject

/-- A stable run has a stable rest. -/
theorem Stable.tail {machine : Machine State Operation Response}
    {others : Operation → Subject → Prop} {holds : State → Subject → Prop} {state : State}
    {operation : Operation} {rest : List Operation}
    (stable : Stable machine others holds state (operation :: rest)) :
    Stable machine others holds (machine state operation).2 rest := by
  intro done later after split subject foreign held
  exact stable (operation :: done) later after (by rw [split]; rfl) subject foreign held

/-- A run is stable exactly when it is guarded, if one operation of others keeps what holds exactly
when it meets the condition. -/
theorem stable_iff_guarded (condition : State → Operation → Prop)
    (step : ∀ state operation, (∀ subject, others operation subject → holds state subject →
      holds (machine state operation).2 subject) ↔ condition state operation)
    (state : State) (operations : List Operation) :
    Stable machine others holds state operations ↔
      Guarded machine condition state operations := by
  constructor
  · intro stable
    induction operations generalizing state with
    | nil => trivial
    | cons operation rest ih =>
        refine ⟨(step state operation).mp ?_, ih _ stable.tail⟩
        intro subject foreign held
        exact stable [] [operation] rest rfl subject
          (fun other member => List.mem_singleton.mp member ▸ foreign) held
  · intro guarded done later rest split subject foreign held
    rw [split, guarded_append, guarded_append] at guarded
    rw [run_append]
    have others := guarded.1.2
    clear split guarded
    induction later generalizing done with
    | nil => exact held
    | cons operation more ih =>
        have next := (step _ operation).mpr others.1 subject
          (foreign operation (.head _)) held
        have reached : run machine state (done ++ [operation]) =
            (machine (run machine state done) operation).2 := by
          rw [run_append, run_cons, run_nil]
        have later := ih (done ++ [operation])
          (fun other member => foreign other (.tail _ member))
        rw [reached] at later
        exact later next others.2

end AgentFabric.Transition

namespace AgentFabric.Settlement
open Transition

variable {State Call Answer Events Books : Type*}

/-- The account of one payer in a machine that records events and settles them.
A settlement that makes a charge charges the price of all events. -/
structure Account (machine : Machine State Call Answer) (Events Books : Type*) where
  priced : State → Int
  charged : State → Int
  events : State → Events
  books : State → Books
  settles : State → Call → Prop
  charges : State → Call → Prop
  valid : State → Prop
  valid_step : ∀ state call, valid state → valid (machine state call).2
  charged_nonneg : ∀ state, valid state → 0 ≤ charged state
  quiet : ∀ state call, valid state → ¬ settles state call →
    books (machine state call).2 = books state ∧ charged (machine state call).2 = charged state ∧
      priced state ≤ priced (machine state call).2
  booked : ∀ state call, valid state → settles state call →
    books (machine state call).2 ≠ books state ∧ priced (machine state call).2 = priced state
  uncharged : ∀ state call, valid state → settles state call → ¬ charges state call →
    charged (machine state call).2 = charged state
  charged_all : ∀ state call, valid state → settles state call → charges state call →
    charged (machine state call).2 = charged state + priced state

namespace Account

variable {machine : Machine State Call Answer} (account : Account machine Events Books)
  (start : State) (done : List Call)

/-- An earlier settlement succeeded, and no event was recorded after it. -/
def SettledSince : Prop :=
  ∃ earlier first middle, done = earlier ++ first :: middle ∧
    account.settles (run machine start earlier) first ∧
    account.events (run machine start done) = account.events (run machine start (earlier ++ [first]))

/-- No event is charged twice, and nothing is booked again while no event is new. -/
structure ChargedOnce (calls : List Call) : Prop where
  within : ∀ done rest, calls = done ++ rest →
    account.charged (run machine start done) ≤ account.priced (run machine start done)
  repeated : ∀ done call rest, calls = done ++ call :: rest → account.SettledSince start done →
    account.books (run machine start (done ++ [call])) = account.books (run machine start done)

/-- A settlement makes the first charge and follows new events. -/
def Allowed (call : Call) : Prop :=
  account.settles (run machine start done) call →
    (account.charges (run machine start done) call → account.charged (run machine start done) = 0) ∧
      ¬ account.SettledSince start done

variable {account start}

theorem valid_run (valid : account.valid start) (calls : List Call) :
    account.valid (run machine start calls) :=
  run_invariant machine account.valid account.valid_step start calls valid

omit account in
theorem run_concat (call : Call) :
    run machine start (done ++ [call]) = (machine (run machine start done) call).2 := by
  rw [run_append]
  rfl

/-- An allowed call keeps the charges within the price. -/
theorem within_step (valid : account.valid start) {done : List Call} {call : Call}
    (allowed : account.Allowed start done call)
    (within : account.charged (run machine start done) ≤ account.priced (run machine start done)) :
    account.charged (run machine start (done ++ [call])) ≤
      account.priced (run machine start (done ++ [call])) := by
  have reached := valid_run valid done
  rw [run_concat]
  by_cases settles : account.settles (run machine start done) call
  · have priced := (account.booked _ _ reached settles).2
    by_cases charges : account.charges (run machine start done) call
    · have first := (allowed settles).1 charges
      have all := account.charged_all _ _ reached settles charges
      omega
    · have same := account.uncharged _ _ reached settles charges
      omega
  · obtain ⟨_, charged, priced⟩ := account.quiet _ _ reached settles
    omega

/-- Every event is charged at most once exactly when every settlement is allowed. -/
theorem ChargedOnce.iff_allowed (valid : account.valid start)
    (within : account.charged start ≤ account.priced start) (calls : List Call) :
    account.ChargedOnce start calls ↔
      ∀ done call rest, calls = done ++ call :: rest → account.Allowed start done call := by
  constructor
  · intro once done call rest split settles
    have reached := valid_run valid done
    refine ⟨fun charges => ?_, fun since => ?_⟩
    · have after := once.within (done ++ [call]) rest (by simpa using split)
      rw [run_concat, account.charged_all _ _ reached settles charges,
        (account.booked _ _ reached settles).2] at after
      have nonneg := account.charged_nonneg _ reached
      omega
    · have same := once.repeated done call rest split since
      rw [run_concat] at same
      exact (account.booked _ _ reached settles).1 same
  · intro allowed
    refine ⟨?_, ?_⟩
    · intro done
      induction done using List.reverseRecOn with
      | nil => intro _ _; exact within
      | append_singleton done call ih =>
          intro rest split
          have before := ih (call :: rest) (by simpa using split)
          exact within_step valid (allowed done call rest (by simpa using split)) before
    · intro done call rest split since
      rw [run_concat]
      by_cases settles : account.settles (run machine start done) call
      · exact absurd since (allowed done call rest split settles).2
      · exact (account.quiet _ _ (valid_run valid done) settles).1

end Account

end AgentFabric.Settlement
