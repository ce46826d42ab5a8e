/-!
# Steps of programs

A program can fail, and it can work on a state. What follows one step of it goes on with the result of
the step, from the state that the step reached. What would follow a step that fails is not done. A part
of the state that each step keeps is kept by the whole program.
-/

namespace LinkSieve

variable {σ ε α β : Type}

/-- A computation that has a value succeeds with it. -/
theorem eq_ok_of_toOption {result : Except ε α} {value : α} (found : result.toOption = some value) :
    result = .ok value := by
  cases result with
  | error => cases found
  | ok other => exact congrArg Except.ok (Option.some.inj found)

/-- A computation in two parts succeeds only if the first part does. -/
theorem exists_of_bind_eq_ok {first : Except ε α} {next : α → Except ε β} {result : β}
    (ok : (first >>= next) = .ok result) :
    ∃ value, first = .ok value ∧ next value = .ok result := by
  cases first with
  | error => cases ok
  | ok value => exact ⟨value, rfl, ok⟩

/-- A computation in two parts fails in one of them. -/
theorem error_of_bind_eq_error {first : Except ε α} {next : α → Except ε β} {error : ε}
    (failed : (first >>= next) = .error error) :
    first = .error error ∨ ∃ value, first = .ok value ∧ next value = .error error := by
  cases first with
  | error => exact Or.inl (congrArg Except.error (Except.error.inj failed))
  | ok value => exact Or.inr ⟨value, rfl, failed⟩

/-- What follows a program goes on with its result, from the state that it reached. -/
theorem bind_apply_of_eq {program : StateM σ α} {next : α → StateM σ β} {value : α}
    {before after : σ} (runs : program before = (value, after)) :
    (program >>= next) before = next value after := by
  have run : (program >>= next) before = next (program before).1 (program before).2 := rfl
  rw [run, runs]

variable {program : ExceptT ε (StateM σ) α} {next : α → ExceptT ε (StateM σ) β} {failure : ε}
  {before after : σ}

/-- Where a step fails, what would follow is not done. -/
theorem run_bind_of_error (fails : program.run before = (.error failure, after)) :
    (program >>= next).run before = (.error failure, after) := by
  rw [ExceptT.run_bind, bind_apply_of_eq fails]
  rfl

/-- Where a step succeeds, what follows goes on from there. -/
theorem run_bind_of_ok {value : α} (succeeds : program.run before = (.ok value, after)) :
    (program >>= next).run before = (next value).run after := by
  rw [ExceptT.run_bind, bind_apply_of_eq succeeds]

/-- A step that cannot fail succeeds. -/
theorem run_lift_of_eq {program : StateM σ α} {value : α}
    (runs : program before = (value, after)) :
    (ExceptT.lift program : ExceptT ε (StateM σ) α).run before = (.ok value, after) := by
  have run : (ExceptT.lift program : ExceptT ε (StateM σ) α).run before =
      (.ok (program before).1, (program before).2) := rfl
  rw [run, runs]

/-- Where two steps fail, the first one fails, or it succeeds and the second one fails. -/
theorem error_or_exists_of_run_bind
    (fails : (program >>= next).run before = (.error failure, after)) :
    program.run before = (.error failure, after) ∨
      ∃ value between, program.run before = (.ok value, between) ∧
        (next value).run between = (.error failure, after) := by
  cases step : program.run before with
  | mk result between =>
    cases result with
    | error cause =>
      rw [run_bind_of_error step] at fails
      obtain ⟨same, rfl⟩ := Prod.mk.inj fails
      exact Or.inl (by rw [Except.error.inj same])
    | ok value =>
      rw [run_bind_of_ok step] at fails
      exact Or.inr ⟨value, between, rfl, fails⟩

/-- Where two steps succeed, the first one does, and the second one goes on from there. -/
theorem exists_of_run_bind_eq_ok {result : β}
    (succeeds : (program >>= next).run before = (.ok result, after)) :
    ∃ value between, program.run before = (.ok value, between) ∧
      (next value).run between = (.ok result, after) := by
  cases step : program.run before with
  | mk outcome between =>
    cases outcome with
    | error cause =>
      rw [run_bind_of_error step] at succeeds
      cases (Prod.mk.inj succeeds).1
    | ok value =>
      rw [run_bind_of_ok step] at succeeds
      exact ⟨value, between, rfl, succeeds⟩

/-- Converting the result of a program changes neither its effects nor its failures. -/
theorem run_map_apply (convert : α → β) (program : ExceptT ε (StateM σ) α) (before : σ) :
    (convert <$> program).run before =
      ((program.run before).1.map convert, (program.run before).2) := by
  cases step : program.run before with
  | mk result after =>
    rw [← bind_pure_comp]
    cases result with
    | error cause => exact run_bind_of_error step
    | ok value =>
      rw [run_bind_of_ok step]
      rfl

/-- A program that keeps a part of its state. -/
def Keeps {τ : Type} (part : σ → τ) (program : StateM σ α) : Prop :=
  ∀ state, part (program state).2 = part state

namespace Keeps

variable {τ : Type} {part : σ → τ}

/-- Nothing is changed where nothing is done. -/
theorem pure (value : α) : Keeps part (Pure.pure value : StateM σ α) := fun _ => rfl

/-- What two steps keep is kept by one after the other. -/
theorem bind {program : StateM σ α} {next : α → StateM σ β} (first : Keeps part program)
    (second : ∀ value, Keeps part (next value)) : Keeps part (program >>= next) := by
  intro state
  exact (second (program state).1 (program state).2).trans (first state)

/-- The same for steps that can fail. -/
theorem run_bind {program : ExceptT ε (StateM σ) α} {next : α → ExceptT ε (StateM σ) β}
    (first : Keeps part program.run) (second : ∀ value, Keeps part (next value).run) :
    Keeps part (program >>= next).run := by
  rw [ExceptT.run_bind]
  refine first.bind fun result => ?_
  cases result with
  | error failure => exact .pure _
  | ok value => exact second value

/-- What each step of a loop keeps is kept by the loop. -/
theorem run_foldlM {step : β → α → ExceptT ε (StateM σ) β}
    (steps : ∀ value item, Keeps part (step value item).run) (items : List α) (value : β) :
    Keeps part (items.foldlM step value).run := by
  induction items generalizing value with
  | nil => exact .pure _
  | cons item items inductionHypothesis =>
    rw [List.foldlM_cons]
    exact (steps value item).run_bind inductionHypothesis

/-- A step that cannot fail keeps the same where failures are possible. -/
theorem run_lift {program : StateM σ α} (keeps : Keeps part program) :
    Keeps part (ExceptT.lift program : ExceptT ε (StateM σ) α).run := by
  rw [ExceptT.run_lift]
  exact keeps.bind fun _ => .pure _

end Keeps

end LinkSieve
