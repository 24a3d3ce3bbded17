namespace AgentFabric

/-- The exceptions of the modelled functions keep their message or key. -/
inductive PyError where
  | valueError (message : String)
  | keyError (key : String)
  | typeError (message : String)
  | overflowError (message : String)
  | zeroDivisionError (message : String)
  | authorizationError (message : String)
  | conflictError (message : String)
  | responseError (message : String)
  | permissionError (message : String)
  | indexError (message : String)
  | validationError (message : String)
  | notFoundError (message : String)
  | integrityError (message : String)
  | attributeError (message : String)
  | fileExistsError (message : String)
  deriving DecidableEq

variable {Value Next : Type} {first : Except PyError Value} {next : Value → Except PyError Next}

/-- A sequence of two calls returns exactly when both return. -/
theorem bind_eq_ok_iff {result : Next} :
    (first >>= next) = .ok result ↔ ∃ value, first = .ok value ∧ next value = .ok result := by
  cases first <;> simp [bind, Except.bind]

theorem bind_eq_error_iff {error : PyError} :
    (first >>= next) = .error error ↔
      first = .error error ∨ ∃ value, first = .ok value ∧ next value = .error error := by
  cases first <;> simp [bind, Except.bind]

/-- Two sequences agree after a view when their first calls and their continuations do. -/
theorem map_bind_congr {Value Next Seen Shown : Type} (view : Value → Seen) (shown : Next → Shown)
    {first second : Except PyError Value} {next other : Value → Except PyError Next}
    (same : view <$> first = view <$> second)
    (agree : ∀ one two, view one = view two → shown <$> next one = shown <$> other two) :
    shown <$> (first >>= next) = shown <$> (second >>= other) := by
  cases first with
  | error error =>
      cases second with
      | error otherException =>
          cases same
          rfl
      | ok value => cases same
  | ok value =>
      cases second with
      | error error => cases same
      | ok otherValue => exact agree value otherValue (Except.ok.inj same)

/-- Calls that agree after a view raise the same exceptions. -/
theorem eq_error_iff_of_map_eq {Value Seen : Type} (view : Value → Seen)
    {first second : Except PyError Value} (same : view <$> first = view <$> second)
    (error : PyError) : first = .error error ↔ second = .error error := by
  cases first with
  | error raised =>
      cases second with
      | error other =>
          cases same
          rfl
      | ok value => cases same
  | ok value =>
      cases second with
      | error other => cases same
      | ok otherValue => simp

end AgentFabric
