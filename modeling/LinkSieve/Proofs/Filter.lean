import LinkSieve.Filter
import LinkSieve.Proofs.Expression.Formula
/-!
# What a filter accepts

A filter accepts the subjects of which its expression is true, where a pattern is true of the
subjects that pass the engine's test for it. Of a rejected pattern no subject is true: either it
makes the filter fail, and then it is the leftmost one that is reported, or it stands in the filter
as a pattern that is false of all subjects.

Nothing is assumed of the engine. It may reject any patterns and give any tests.
-/

namespace LinkSieve

open Expression

variable {ε : Type}

namespace Engine

/-- Whether the engine rejects a pattern. -/
def rejects (engine : Engine ε) (caseSensitive : Bool) (source : String) : Bool :=
  !(engine source caseSensitive).isOk

/-- Whether a pattern is true of a subject. -/
def Passes (engine : Engine ε) (caseSensitive : Bool) (subject source : String) : Prop :=
  ∃ test, engine source caseSensitive = .ok test ∧ test subject = true

end Engine

namespace Matcher

/-- A pattern with the engine's test, if it has one. -/
def ofEngine (engine : Engine ε) (caseSensitive : Bool) (source : String) : Matcher :=
  ⟨source, (engine source caseSensitive).toOption⟩

variable (engine : Engine ε) (caseSensitive : Bool)

/-- A matcher has no test if its pattern was rejected. -/
theorem isCompiled_ofEngine (source : String) :
    (ofEngine engine caseSensitive source).isCompiled = !engine.rejects caseSensitive source := by
  unfold ofEngine isCompiled Engine.rejects
  cases engine source caseSensitive <;> rfl

/-- A matcher accepts the subjects of which its pattern is true. -/
theorem accepts_ofEngine_iff (subject source : String) :
    (ofEngine engine caseSensitive source).accepts subject = true ↔
      engine.Passes caseSensitive subject source := by
  unfold ofEngine accepts Engine.Passes
  cases engine source caseSensitive with
  | error cause => simp [Except.toOption]
  | ok test => simp [Except.toOption]

/-- A pattern is compiled to its matcher, unless it is rejected and must not be. -/
theorem compile_eq_ok {options : MatchOptions} {source : String}
    (allowed : options.onInvalidPattern = .fail →
      engine.rejects options.caseSensitive source = false) :
    compile engine options source = .ok (ofEngine engine options.caseSensitive source) := by
  unfold compile ofEngine
  unfold Engine.rejects at allowed
  cases compiled : engine source options.caseSensitive with
  | ok test => rfl
  | error cause =>
    cases policy : options.onInvalidPattern with
    | neverMatch => rfl
    | fail =>
      rw [compiled] at allowed
      cases allowed policy

/-- Compiling a pattern fails if it is rejected and must not be, with the reason of the engine. -/
theorem compile_eq_error_iff {options : MatchOptions} {source : String}
    {error : InvalidPattern ε} :
    compile engine options source = .error error ↔
      options.onInvalidPattern = .fail ∧ error.pattern = source ∧
        engine source options.caseSensitive = .error error.cause := by
  obtain ⟨pattern, reason⟩ := error
  unfold compile
  cases compiled : engine source options.caseSensitive with
  | ok test => simp
  | error cause =>
    cases policy : options.onInvalidPattern with
    | neverMatch => simp
    | fail => simp [eq_comm]

/-- The patterns that are not compiled are the rejected ones, under the policy that forbids them. -/
theorem isOk_compile (options : MatchOptions) (source : String) :
    (compile engine options source).isOk =
      !(options.onInvalidPattern = .fail && engine.rejects options.caseSensitive source) := by
  unfold compile Engine.rejects
  cases engine source options.caseSensitive with
  | ok test => simp [Except.isOk, Except.toBool]
  | error cause => cases options.onInvalidPattern <;> simp [Except.isOk, Except.toBool]

end Matcher

namespace Filter

variable (engine : Engine ε) (formula : Formula String)

/-- A filter of an expression without forbidden patterns. -/
theorem compile_eq_ok {options : MatchOptions}
    (allowed : options.onInvalidPattern = .fail →
      ∀ source ∈ formula.leaves, engine.rejects options.caseSensitive source = false) :
    compile engine formula options =
      .ok ⟨formula, formula.map (Matcher.ofEngine engine options.caseSensitive), options⟩ := by
  have converted := Formula.traverse_eq_ok fun source member =>
    Matcher.compile_eq_ok engine fun policy => allowed policy source member
  unfold compile
  rw [converted]
  rfl

/-- Compiling fails under the policy that forbids rejected patterns, at the leftmost of them. -/
theorem compile_eq_error_iff {options : MatchOptions} {error : InvalidPattern ε} :
    compile engine formula options = .error error ↔
      options.onInvalidPattern = .fail ∧
        formula.leaves.find? (engine.rejects options.caseSensitive) = some error.pattern ∧
        engine error.pattern options.caseSensitive = .error error.cause := by
  have failed : compile engine formula options = .error error ↔
      formula.traverse (Matcher.compile engine options) = .error error := by
    unfold compile
    cases formula.traverse (Matcher.compile engine options) with
    | error cause => simp [bind, Except.bind]
    | ok matchers => exact ⟨nofun, nofun⟩
  rw [failed, Formula.traverse_eq_error_iff]
  simp only [Matcher.isOk_compile, Matcher.compile_eq_error_iff, Bool.not_not]
  constructor
  · rintro ⟨source, found, policy, rfl, rejected⟩
    refine ⟨policy, ?_, rejected⟩
    simpa [policy] using found
  · rintro ⟨policy, found, rejected⟩
    refine ⟨error.pattern, ?_, policy, rfl, rejected⟩
    simpa [policy] using found

/-- Compiling fails exactly if the policy forbids rejected patterns and there is one. -/
theorem exists_compile_eq_error_iff (options : MatchOptions) :
    (∃ error, compile engine formula options = .error error) ↔
      options.onInvalidPattern = .fail ∧
        ∃ source ∈ formula.leaves, engine.rejects options.caseSensitive source = true := by
  constructor
  · rintro ⟨error, failed⟩
    obtain ⟨policy, found, -⟩ := (compile_eq_error_iff engine formula).mp failed
    exact ⟨policy, error.pattern, List.mem_of_find?_eq_some found, List.find?_some found⟩
  · rintro ⟨policy, source, member, rejected⟩
    cases compiled : compile engine formula options with
    | error error => exact ⟨error, rfl⟩
    | ok filter =>
      obtain ⟨first, found⟩ := Option.isSome_iff_exists.mp
        (List.find?_isSome.mpr ⟨source, member, rejected⟩)
      have firstRejected : engine.rejects options.caseSensitive first = true :=
        List.find?_some found
      cases reason : engine first options.caseSensitive with
      | ok test =>
        rw [Engine.rejects, reason] at firstRejected
        cases firstRejected
      | error cause =>
        have failed : compile engine formula options = .error ⟨first, cause⟩ :=
          (compile_eq_error_iff engine formula).mpr ⟨policy, found, reason⟩
        rw [compiled] at failed
        cases failed

/-- A filter that was compiled has the matchers of the engine. -/
theorem eq_of_compile_eq_ok {options : MatchOptions} {filter : Filter}
    (compiled : compile engine formula options = .ok filter) :
    filter = ⟨formula, formula.map (Matcher.ofEngine engine options.caseSensitive), options⟩ := by
  have allowed : options.onInvalidPattern = .fail →
      ∀ source ∈ formula.leaves, engine.rejects options.caseSensitive source = false := by
    intro policy source member
    cases rejected : engine.rejects options.caseSensitive source with
    | false => rfl
    | true =>
      obtain ⟨error, failed⟩ := (exists_compile_eq_error_iff engine formula options).mpr
        ⟨policy, source, member, rejected⟩
      rw [compiled] at failed
      cases failed
  rw [compile_eq_ok engine formula allowed] at compiled
  exact (Except.ok.inj compiled).symm

/-- A compiled filter accepts the subjects of which its expression is true. -/
theorem accepts_iff_holds {options : MatchOptions} {filter : Filter}
    (compiled : compile engine formula options = .ok filter) (subject : String) :
    filter.accepts subject = true ↔
      formula.Holds (engine.Passes options.caseSensitive subject) := by
  rw [eq_of_compile_eq_ok engine formula compiled]
  exact Formula.eval_map_iff_holds
    (Matcher.accepts_ofEngine_iff engine options.caseSensitive subject) formula

/-- The disabled patterns of a compiled filter are the rejected leaves. -/
theorem disabledPatterns_eq {options : MatchOptions} {filter : Filter}
    (compiled : compile engine formula options = .ok filter) :
    filter.disabledPatterns = formula.leaves.filter (engine.rejects options.caseSensitive) := by
  have sources : Matcher.source ∘ Matcher.ofEngine engine options.caseSensitive = id := rfl
  rw [eq_of_compile_eq_ok engine formula compiled, disabledPatterns, Formula.leaves_map,
    List.filter_map, List.map_map, sources, List.map_id]
  simp only [Function.comp_def, Matcher.isCompiled_ofEngine, Bool.not_not]

/-- A filter means its expression. Under the policy that forbids rejected patterns, compiling fails
exactly if the engine rejects a leaf, and the leftmost such leaf is reported with the engine's
reason. Otherwise there is a filter. It accepts a subject exactly if the expression is true of it,
with a pattern true of the subjects that pass its test, and a rejected one of none; its disabled
patterns are the rejected leaves, from left to right and with repetitions. Where the expression can
be compiled without rejected patterns, the other policy makes no difference. -/
theorem compile_means_formula (options : MatchOptions) :
    ((∃ error, compile engine formula options = .error error) ↔
      options.onInvalidPattern = .fail ∧
        ∃ source ∈ formula.leaves, engine.rejects options.caseSensitive source = true) ∧
    (∀ error, compile engine formula options = .error error →
      formula.leaves.find? (engine.rejects options.caseSensitive) = some error.pattern ∧
        engine error.pattern options.caseSensitive = .error error.cause) ∧
    (∀ filter, compile engine formula options = .ok filter →
      (∀ subject, filter.accepts subject = true ↔
        formula.Holds (engine.Passes options.caseSensitive subject)) ∧
      filter.disabledPatterns =
        formula.leaves.filter (engine.rejects options.caseSensitive)) ∧
    ∀ filter, compile engine formula ⟨options.caseSensitive, .fail⟩ = .ok filter →
      ∃ lenient, compile engine formula ⟨options.caseSensitive, .neverMatch⟩ = .ok lenient ∧
        ∀ subject, lenient.accepts subject = filter.accepts subject := by
  refine ⟨exists_compile_eq_error_iff engine formula options, ?_, ?_, ?_⟩
  · intro error failed
    exact ((compile_eq_error_iff engine formula).mp failed).2
  · intro filter compiled
    exact ⟨accepts_iff_holds engine formula compiled, disabledPatterns_eq engine formula compiled⟩
  · intro filter compiled
    have lenient : compile engine formula ⟨options.caseSensitive, .neverMatch⟩ = .ok _ :=
      compile_eq_ok engine formula nofun
    refine ⟨_, lenient, fun subject => ?_⟩
    have same := (accepts_iff_holds engine formula lenient subject).trans
      (accepts_iff_holds engine formula compiled subject).symm
    exact Bool.eq_iff_iff.mpr same

end Filter

end LinkSieve
