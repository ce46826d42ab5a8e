import LinkSieve.Proofs.Command.Failure
import LinkSieve.Proofs.CommandLine.Given
/-!
# Definitions of an invocation

The definitions of an invocation are added to the patterns of its configuration, one after the other.
None of them is refused, since each was read from the command line in the way that a table takes it. So
the step that could report a refused definition never does. The table that results is valid, because the
patterns of a configuration are checked when it is loaded, and in it the last definition of a name
decides.
-/

namespace LinkSieve

open Expression

/-- The patterns of a configuration that was read are valid. -/
theorem Config.validate_of_parse {path text : String} {config : Config}
    (read : Config.parse path text = .ok config) : config.patterns.validate = .ok () := by
  obtain ⟨loaded, -, checked⟩ := exists_of_bind_eq_ok read
  obtain ⟨⟨⟩, valid, same⟩ := exists_of_bind_eq_ok checked
  cases same
  cases validated : config.patterns.validate with
  | ok => rfl
  | error error =>
    rw [validated] at valid
    cases valid

/-- The patterns of a configuration that was loaded are valid. -/
theorem Config.validate_of_load {σ : Type} {files : Files.System (StateM σ)} {path : Option String}
    {config : Config} {before after : σ}
    (loaded : Config.load files path before = (.ok config, after)) :
    config.patterns.validate = .ok () := by
  cases path with
  | none =>
    cases loaded
    rfl
  | some path =>
    cases read : files.readText path before with
    | mk result between =>
      have run : Config.load files (some path) before = _ := bind_apply_of_eq read
      rw [run] at loaded
      cases result with
      | error cause => cases loaded
      | ok text => exact Config.validate_of_parse (congrArg Prod.fst loaded)

end LinkSieve

namespace LinkSieve.Command

open Expression Text

/-- The pattern of the last definition with a name. -/
def lastPattern? (name : String) (definitions : List Definition) : Option String :=
  (definitions.reverse.find? (·.name = name)).map (·.pattern)

/-- Later definitions decide before earlier ones. -/
theorem lastPattern?_cons (name : String) (definition : Definition) (definitions : List Definition) :
    lastPattern? name (definition :: definitions) = (lastPattern? name definitions).or
      (if name = definition.name then some definition.pattern else none) := by
  simp only [lastPattern?, List.reverse_cons, List.find?_append, Option.map_or]
  by_cases same : definition.name = name <;> simp [same, eq_comm]

/-- Definitions that were read can be added to every table. They keep it valid, and the last one of a
name decides. -/
theorem exists_define_eq_ok {definitions : List Definition}
    (read : ∀ definition ∈ definitions, ∃ text, Definition.parse text = .ok definition)
    (table : PatternTable) :
    ∃ defined, define table definitions = .ok defined ∧
      (table.validate = .ok () → defined.validate = .ok ()) ∧
      ∀ name, defined.get? name = (lastPattern? name definitions).or (table.get? name) := by
  induction definitions generalizing table with
  | nil => exact ⟨table, rfl, id, fun _ => rfl⟩
  | cons definition definitions inductionHypothesis =>
    obtain ⟨⟨text, first⟩, others⟩ := List.forall_mem_cons.mp read
    have taken := Definition.define_of_parse first table
    have accepted := (PatternTable.define_eq_ok_iff.mp taken).1
    obtain ⟨defined, succeeds, valid, lookups⟩ :=
      inductionHypothesis others (table.insert definition.name definition.pattern)
    refine ⟨defined, ?_, fun isValid => valid (PatternTable.validate_insert isValid accepted), ?_⟩
    · rw [define, List.foldlM_cons, taken]
      exact succeeds
    · intro name
      rw [lookups, PatternTable.get?_insert, lastPattern?_cons, Option.or_assoc]
      split <;> simp

/-- The definitions of a command line are read exactly, and adding them never fails.

A text is read as a definition exactly if it has an equals sign and a table, whichever it is, takes what
is before the first one, without white space around it, as a name, and what is after it as a pattern.
The name and the pattern are read as they are taken, and where a table refuses them the text is refused
with the same error.

So definitions that were read are added to the patterns of every configuration that can be loaded,
without an error. The table that results is valid. In it, a name stands for the pattern of its last
definition, or else for what it stands for in the configuration. The definitions of an invocation all
were read, wherever on its command line they stand. -/
theorem define_succeeds_on_read_definitions :
    (∀ (text : String) (table : PatternTable) (definition : Definition),
      Definition.parse text = .ok definition ↔
        ∃ name pattern, text.toList = name ++ '=' :: pattern ∧ '=' ∉ name ∧
          definition = ⟨String.ofList (trim name), String.ofList pattern⟩ ∧
          ∃ next, table.define definition.name definition.pattern = .ok next) ∧
    (∀ (text : String) (table : PatternTable) (name pattern : List Char) (error : DefinitionError),
      text.toList = name ++ '=' :: pattern → '=' ∉ name →
        (Definition.parse text = .error error ↔
          table.define (String.ofList (trim name)) (String.ofList pattern) = .error error)) ∧
    (∀ {σ : Type} (files : Files.System (StateM σ)) (path : Option String) (config : Config)
      (before after : σ) (definitions : List Definition),
      Config.load files path before = (.ok config, after) →
      (∀ definition ∈ definitions, ∃ text, Definition.parse text = .ok definition) →
      ∃ table, define config.patterns definitions = .ok table ∧ table.validate = .ok () ∧
        ∀ name, table.get? name =
          (lastPattern? name definitions).or (config.patterns.get? name)) ∧
    ∀ (configVariable : Option String) (arguments : List String) (invocation : Invocation),
      CommandLine.parse configVariable arguments = .ok invocation →
      ∀ definition ∈ invocation.definitions, ∃ text, Definition.parse text = .ok definition := by
  refine ⟨Definition.parse_eq_ok_iff, ?_, ?_, ?_⟩
  · intro text table name pattern error written first
    exact Definition.parse_eq_error_iff first written table error
  · intro σ files path config before after definitions loaded read
    obtain ⟨table, defined, valid, lookups⟩ := exists_define_eq_ok read config.patterns
    exact ⟨table, defined, valid (Config.validate_of_load loaded), lookups⟩
  · intro configVariable arguments invocation accepted definition member
    exact CommandLine.exists_parse_of_mem_definitions accepted member

end LinkSieve.Command
