import PluginSchema.SchemaError

/-!
# Runs of a conversion

A conversion reports what it does as events while it works. A run is the list of these events
together with the result, so that the result can be studied without the events and the events
of a failed run are not lost.
-/

namespace PluginSchema.Conversion

/-- What a conversion reports about its progress. -/
inductive Event where
  /-- The conversion of an attribute begins. -/
  | attributeStarted (name : String) (path : Path)
  /-- An attribute is refused. -/
  | attributeRefused (path : Path) (error : SchemaError)
  /-- The conversion of a resource's schema begins. -/
  | resourceStarted (name : String)
  /-- The conversion of a data source's schema begins. -/
  | dataSourceStarted (name : String)
  /-- All schemas are converted. -/
  | providerConverted (resources dataSources : Nat)
  /-- Some schema could not be converted. -/
  | providerFailed (error : SchemaError)
  deriving DecidableEq

/-- The events of a conversion and its result. -/
structure Run (α : Type) where
  events : List Event
  result : Except SchemaError α

namespace Run

variable {α β : Type}

/-- Go on after a success, with the events of both parts. -/
def andThen (run : Run α) (next : α → Run β) : Run β :=
  match run.result with
  | .ok value => ⟨run.events ++ (next value).events, (next value).result⟩
  | .error error => ⟨run.events, .error error⟩

instance : Monad Run where
  pure value := ⟨[], .ok value⟩
  bind := andThen

/-- Report an event. -/
def report (event : Event) : Run Unit := ⟨[event], .ok ()⟩

/-- Stop with an error. -/
def fail (error : SchemaError) : Run α := ⟨[], .error error⟩

theorem pure_eq (value : α) : (pure value : Run α) = ⟨[], .ok value⟩ := rfl

theorem bind_eq (run : Run α) (next : α → Run β) : run >>= next = run.andThen next := rfl

/-- What follows a run matters only for the value that the run yields. -/
theorem bind_congr_of_ok {run : Run α} {next other : α → Run β}
    (h : ∀ value, run.result = .ok value → next value = other value) :
    run >>= next = run >>= other := by
  rcases run with ⟨events, _ | value⟩
  · rfl
  · simp only [bind_eq, andThen, h value rfl]

instance : LawfulMonad Run := LawfulMonad.mk' Run
  (by
    rintro α ⟨events, _ | _⟩
    · simp [Functor.map, andThen]
    · simp [Functor.map, andThen])
  (by
    intro α β value next
    simp [bind_eq, pure_eq, andThen])
  (by
    rintro α β γ ⟨events, _ | value⟩ f g
    · simp [bind_eq, andThen]
    · simp only [bind_eq, andThen]
      cases (f value).result <;> simp)

/-- A success yields its value. -/
@[simp] theorem result_pure (value : α) : (pure value : Run α).result = .ok value := rfl

/-- A report yields nothing. -/
@[simp] theorem result_report (event : Event) : (report event).result = .ok () := rfl

/-- A failure ends with its error. -/
@[simp] theorem result_fail (error : SchemaError) :
    (fail error : Run α).result = .error error := rfl

/-- Two parts end as their results do one after the other. -/
theorem result_bind (run : Run α) (next : α → Run β) :
    (run >>= next).result = run.result >>= fun value => (next value).result := by
  rcases run with ⟨events, _ | value⟩ <;> rfl

/-- Two parts yield a value just if the second does after the first. -/
theorem result_bind_eq_ok_iff {run : Run α} {next : α → Run β} {value : β} :
    (run >>= next).result = .ok value ↔
      ∃ first, run.result = .ok first ∧ (next first).result = .ok value := by
  rcases run with ⟨events, _ | first⟩ <;> simp [bind_eq, andThen]

/-- The error that ends a run, if one does. -/
def error? (run : Run α) : Option SchemaError :=
  match run.result with
  | .ok _ => none
  | .error error => some error

theorem error?_eq_some_iff {run : Run α} {error : SchemaError} :
    run.error? = some error ↔ run.result = .error error := by
  rcases run with ⟨events, _ | value⟩ <;> simp [error?]

theorem error?_eq_none_iff {run : Run α} :
    run.error? = none ↔ ∃ value, run.result = .ok value := by
  rcases run with ⟨events, _ | value⟩ <;> simp [error?]

@[simp] theorem error?_pure (value : α) : (pure value : Run α).error? = none := rfl

/-- Two parts end with the error of the first, or else with that of the second, if the value
between them does not matter for the latter. -/
theorem error?_bind {run : Run α} {next : α → Run β} {later : Option SchemaError}
    (h : ∀ value, run.result = .ok value → (next value).error? = later) :
    (run >>= next).error? = run.error?.or later := by
  rcases run with ⟨events, error | value⟩
  · rfl
  · exact h value rfl

/-- A last step that cannot fail leaves the error of a run. -/
theorem error?_bind_pure (run : Run α) (f : α → β) :
    (run >>= fun value => pure (f value)).error? = run.error? := by
  rw [error?_bind fun _ _ => error?_pure _, Option.or_none]

end Run

end PluginSchema.Conversion
